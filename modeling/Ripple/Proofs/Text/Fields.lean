import Ripple.Text.Split

/-! Splitting what was joined.

Splitting a joined text splits each of its fields (`split_join_flatMap`), so fields without a
separator come back as they were (`split_join`), and no two lists of such fields join to one text
(`join_inj`). A text is cut at its first separator only (`cut_append`). -/
namespace Ripple.Text

variable {c : Char} {sep : String}

@[simp] theorem join_nil (sep : String) : join sep [] = "" := String.intercalate_nil

@[simp] theorem join_singleton (sep field : String) : join sep [field] = field :=
  String.intercalate_singleton

theorem join_cons {rest : List String} (hr : rest ≠ []) (field : String) :
    join sep (field :: rest) = field ++ sep ++ join sep rest :=
  String.intercalate_cons_of_ne_nil hr

theorem join_append {xs ys : List String} (hx : xs ≠ []) (hy : ys ≠ []) :
    join sep (xs ++ ys) = join sep xs ++ sep ++ join sep ys :=
  String.intercalate_append_of_ne_nil hx hy

theorem join_concat {xs : List String} (hx : xs ≠ []) (field : String) :
    join sep (xs ++ [field]) = join sep xs ++ sep ++ field := by
  rw [join_append hx (by simp), join_singleton]

/-- The end of the last field is the end of the text. -/
theorem join_concat_append (xs : List String) (field ending : String) :
    join sep (xs ++ [field]) ++ ending = join sep (xs ++ [field ++ ending]) := by
  by_cases hx : xs = []
  · subst hx
    simp
  · simp only [join_concat hx, String.append_assoc]

/-- Joined fields may stand among others as one. -/
theorem join_cons_join {xs : List String} (hx : xs ≠ []) (ys : List String) :
    join sep (join sep xs :: ys) = join sep (xs ++ ys) := by
  by_cases hy : ys = []
  · subst hy
    simp
  · rw [join_cons hy, join_append hx hy]

theorem toList_ne_nil {s : String} (h : s ≠ "") : s.toList ≠ [] := by
  rwa [ne_eq, String.toList_eq_nil_iff]

theorem join_eq_empty_iff {fields : List String} (h : ∀ f ∈ fields, f ≠ "") :
    join sep fields = "" ↔ fields = [] := by
  constructor
  · intro hj
    cases fields with
    | nil => rfl
    | cons f rest =>
      have hf := h f (List.mem_cons_self ..)
      by_cases hr : rest = []
      · subst hr
        exact absurd (by simpa using hj) hf
      · rw [join_cons hr, String.append_eq_empty_iff, String.append_eq_empty_iff] at hj
        exact absurd hj.1.1 hf
  · intro hx
    subst hx
    exact join_nil sep

/-- Fewer fields, from the end, join to a shorter text. -/
theorem eq_of_join_suffix (hsep : sep ≠ "") {xs ys : List String} (hx : ∀ x ∈ xs, x ≠ "")
    (hsuffix : ys <:+ xs) (heq : join sep ys = join sep xs) : ys = xs := by
  obtain ⟨before, rfl⟩ := hsuffix
  by_cases hb : before = []
  · subst hb
    rfl
  by_cases hy : ys = []
  · subst hy
    rw [join_nil, eq_comm, join_eq_empty_iff hx] at heq
    exact heq.symm
  · rw [join_append hb hy] at heq
    have hlength := congrArg String.length heq
    have hpos : sep.length ≠ 0 := by simpa using hsep
    simp only [String.length_append] at hlength
    omega

/-- Every field stands somewhere in the joined text. -/
theorem infix_join (sep : String) {fields : List String} {field : String} (h : field ∈ fields) :
    field.toList <:+: (join sep fields).toList := by
  induction fields with
  | nil => cases h
  | cons f rest ih =>
    by_cases hr : rest = []
    · subst hr
      have hone : join sep [f] = field := by rw [join_singleton, List.mem_singleton.mp h]
      exact hone.symm ▸ List.infix_rfl
    · rw [join_cons hr, String.toList_append, String.toList_append]
      rcases List.mem_cons.mp h with rfl | h
      · exact ((List.prefix_append _ _).trans (List.prefix_append _ _)).isInfix
      · exact (ih h).trans (List.suffix_append _ _).isInfix

/-- Fewer fields join to a text that is not longer. -/
theorem length_join_le {xs ys : List String} (h : xs.Sublist ys) : (join sep xs).length ≤ (join sep ys).length := by
  induction h with
  | slnil => exact Nat.le_refl _
  | @cons xs ys y h ih =>
    by_cases hys : ys = []
    · subst hys
      rw [List.sublist_nil.mp h, join_nil]
      exact Nat.zero_le _
    · rw [join_cons hys, String.length_append, String.length_append]
      omega
  | @cons_cons xs ys x h ih =>
    by_cases hys : ys = []
    · subst hys
      have hnone := List.sublist_nil.mp h
      subst hnone
      exact Nat.le_refl _
    · rw [join_cons hys]
      by_cases hxs : xs = []
      · rw [hxs, join_singleton, String.length_append, String.length_append]
        omega
      · rw [join_cons hxs]
        simp only [String.length_append]
        omega

/-! ### Splitting -/

theorem split_ne_nil (c : Char) (s : String) : split c s ≠ [] := by
  rw [split, ne_eq, List.map_eq_nil_iff]
  exact List.splitOn_ne_nil c s.toList

/-- The first field of a text starts like the text. -/
theorem exists_split_cons {s : String} {x : Char} {cs : List Char} (hs : s.toList = x :: cs) (hx : x ≠ c) :
    ∃ first more, split c s = .ofList (x :: first) :: more := by
  obtain ⟨first, more, hsplit⟩ := List.exists_cons_of_ne_nil (List.splitOn_ne_nil c cs)
  refine ⟨first, more.map .ofList, ?_⟩
  rw [split, hs, List.splitOn_cons_eq_if_modifyHead, if_neg (by simpa using hx), hsplit]
  rfl

theorem split_of_not_mem {s : String} (h : c ∉ s.toList) : split c s = [s] := by
  rw [split, List.splitOn_eq_singleton h, List.map_singleton, String.ofList_toList]

/-- Joining undoes splitting. -/
theorem join_split (hsep : sep.toList = [c]) (s : String) : join sep (split c s) = s := by
  rw [← String.toList_inj, join, String.toList_intercalate, hsep, split, List.map_map]
  have hid : String.toList ∘ String.ofList = id := funext fun cs => String.toList_ofList
  rw [hid, List.map_id, List.intercalate_splitOn]

theorem not_mem_of_mem_splitOn {cs field : List Char} (h : field ∈ cs.splitOn c) : c ∉ field := by
  induction cs generalizing field with
  | nil =>
    rw [List.splitOn_nil, List.mem_singleton] at h
    simp [h]
  | cons x rest ih =>
    rw [List.splitOn_cons_eq_if_modifyHead] at h
    split at h
    · rcases List.mem_cons.mp h with rfl | h
      · exact List.not_mem_nil
      · exact ih h
    · next hx =>
      obtain ⟨head, tail, hsplit⟩ := List.exists_cons_of_ne_nil (List.splitOn_ne_nil c rest)
      rw [hsplit] at h ih
      rcases List.mem_cons.mp h with rfl | h
      · have hne : ¬ c = x := fun he => hx (by simp [he])
        exact fun hc => (List.mem_cons.mp hc).elim hne (ih (List.mem_cons_self ..))
      · exact ih (List.mem_cons_of_mem _ h)

/-- No field holds a separator. -/
theorem not_mem_of_mem_split {s field : String} (h : field ∈ split c s) : c ∉ field.toList := by
  obtain ⟨cs, hcs, rfl⟩ := List.mem_map.mp h
  rw [String.toList_ofList]
  exact not_mem_of_mem_splitOn hcs

theorem split_append_separator (hsep : sep.toList = [c]) (s t : String) :
    split c (s ++ sep ++ t) = split c s ++ split c t := by
  simp only [split, String.toList_append, hsep, List.append_assoc, List.singleton_append,
    List.splitOn_append_cons_self, List.map_append]

theorem split_join_flatMap (hsep : sep.toList = [c]) {fields : List String} (hne : fields ≠ []) :
    split c (join sep fields) = fields.flatMap (split c) := by
  induction fields with
  | nil => exact absurd rfl hne
  | cons f rest ih =>
    by_cases hr : rest = []
    · subst hr
      simp
    · rw [join_cons hr, split_append_separator hsep, ih hr, List.flatMap_cons]

theorem split_join (hsep : sep.toList = [c]) {fields : List String} (hne : fields ≠ [])
    (h : ∀ f ∈ fields, c ∉ f.toList) : split c (join sep fields) = fields := by
  rw [split_join_flatMap hsep hne]
  calc fields.flatMap (split c) = fields.flatMap (fun f => [f]) := by
        rw [List.flatMap_def, List.flatMap_def]
        exact congrArg _ (List.map_congr_left fun f hf => split_of_not_mem (h f hf))
    _ = fields := List.flatMap_singleton' fields

theorem join_inj (hsep : sep.toList = [c]) {fields fields' : List String}
    (h : ∀ f ∈ fields, f ≠ "" ∧ c ∉ f.toList) (h' : ∀ f ∈ fields', f ≠ "" ∧ c ∉ f.toList)
    (heq : join sep fields = join sep fields') : fields = fields' := by
  by_cases hn : fields = []
  · subst hn
    rw [join_nil, eq_comm, join_eq_empty_iff fun f hf => (h' f hf).1] at heq
    exact heq.symm
  · have hn' : fields' ≠ [] := by
      intro hx
      subst hx
      rw [join_nil, join_eq_empty_iff fun f hf => (h f hf).1] at heq
      exact hn heq
    rw [← split_join hsep hn fun f hf => (h f hf).2, heq, split_join hsep hn' fun f hf => (h' f hf).2]

/-- A field of a text stands somewhere in it. -/
theorem infix_of_mem_split {s field : String} (h : field ∈ split c s) : field.toList <:+: s.toList := by
  have hinfix := infix_join (String.ofList [c]) h
  rwa [join_split (String.toList_ofList ..)] at hinfix

/-! ### Cutting -/

theorem cut_of_not_mem {s : String} (h : c ∉ s.toList) : cut c s = (s, none) := by
  have hhead : s.toList.takeWhile (· != c) = s.toList := by
    rw [← List.append_nil s.toList, List.takeWhile_append_of_pos, List.takeWhile_nil]
    intro x hx
    simpa using fun he : x = c => h (he ▸ hx)
  simp only [cut, hhead, List.drop_length, String.ofList_toList]

/-- Only the first separator cuts a text. -/
theorem cut_append (hsep : sep.toList = [c]) {head : String} (h : c ∉ head.toList) (tail : String) :
    cut c (head ++ sep ++ tail) = (head, some tail) := by
  have hhead : (head ++ sep ++ tail).toList.takeWhile (· != c) = head.toList := by
    rw [String.toList_append, String.toList_append, hsep, List.append_assoc, List.takeWhile_append_of_pos]
    · simp
    · intro x hx
      simpa using fun he : x = c => h (he ▸ hx)
  have hrest : (head ++ sep ++ tail).toList.drop head.toList.length = c :: tail.toList := by
    rw [String.toList_append, String.toList_append, hsep, List.append_assoc, List.drop_left]
    rfl
  simp only [cut, hhead, hrest, String.ofList_toList]

/-- A text that was cut is its two parts with the separator between them. -/
theorem toList_of_cut {s head tail : String} (h : cut c s = (head, some tail)) :
    s.toList = head.toList ++ c :: tail.toList := by
  unfold cut at h
  simp only at h
  split at h
  · cases h
  · next x rest hrest =>
    cases h
    have hsplit : s.toList.takeWhile (· != c) ++ s.toList.dropWhile (· != c) = s.toList :=
      List.takeWhile_append_dropWhile
    have hdrop : s.toList.dropWhile (· != c) = x :: rest := by
      have hleft := congrArg (List.drop (s.toList.takeWhile (· != c)).length) hsplit
      rw [List.drop_left] at hleft
      exact hleft.trans hrest
    have hx : x = c := by
      have hfirst := List.head?_dropWhile_not (· != c) s.toList
      rw [hdrop] at hfirst
      simpa using hfirst
    subst hx
    rw [String.toList_ofList, String.toList_ofList, ← hdrop, hsplit]

end Ripple.Text
