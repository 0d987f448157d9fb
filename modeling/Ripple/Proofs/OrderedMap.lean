import Ripple.OrderedMap

/-! What an ordered map holds, entry by entry.

A map has distinct keys, so looking a key up and finding its entry are the same
(`get?_eq_some_iff`), and every way to change a map can be said of `get?` and of the keys. Lists
that take each element once (`addNew`) are told by their members. -/
namespace Ripple

/-! ### Lists without repeats -/

section AddNew
variable {α : Type} [DecidableEq α]

@[simp] theorem mem_addNew (xs : List α) (x y : α) : y ∈ addNew xs x ↔ y ∈ xs ∨ y = x := by
  unfold addNew
  split
  · next h => exact ⟨.inl, fun hy => hy.elim id fun e => e ▸ h⟩
  · simp

@[simp] theorem mem_foldl_addNew (xs ys : List α) (y : α) :
    y ∈ xs.foldl addNew ys ↔ y ∈ ys ∨ y ∈ xs := by
  induction xs generalizing ys with
  | nil => simp
  | cons x rest ih => simp only [List.foldl_cons, ih, mem_addNew, List.mem_cons, or_assoc]

theorem foldl_addNew_of_nodup {xs ys : List α} (h : (ys ++ xs).Nodup) : xs.foldl addNew ys = ys ++ xs := by
  induction xs generalizing ys with
  | nil => rw [List.foldl_nil, List.append_nil]
  | cons x rest ih =>
    have hnew : x ∉ ys := fun hx => (List.nodup_append.mp h).2.2 x hx x (List.mem_cons_self ..) rfl
    rw [List.append_cons] at h ⊢
    rw [List.foldl_cons, addNew, if_neg hnew, ih h]

theorem foldl_addNew_of_subset {xs ys : List α} (h : ∀ x ∈ xs, x ∈ ys) : xs.foldl addNew ys = ys := by
  induction xs with
  | nil => rfl
  | cons x rest ih =>
    rw [List.foldl_cons, addNew, if_pos (h x (List.mem_cons_self ..))]
    exact ih fun y hy => h y (List.mem_cons_of_mem _ hy)

/-- Elements that come in order, perhaps several times, are kept in order. -/
theorem foldl_addNew_ordered {r : α → α → Prop} {xs ys : List α} (hys : ys.Pairwise r)
    (h : (ys ++ xs).Pairwise fun a b => a = b ∨ r a b) : (xs.foldl addNew ys).Pairwise r := by
  induction xs generalizing ys with
  | nil => exact hys
  | cons x rest ih =>
    rw [List.foldl_cons, addNew]
    split
    · exact ih hys (h.sublist ((List.sublist_cons_self x rest).append_left ys))
    · next hnew =>
      rw [List.append_cons] at h
      refine ih (List.pairwise_append.mpr ⟨hys, List.pairwise_singleton .., fun y hy x' hx => ?_⟩) h
      obtain rfl := List.mem_singleton.mp hx
      have hbefore := (List.pairwise_append.mp (List.pairwise_append.mp h).1).2.2 y hy x' hx
      exact hbefore.resolve_left fun he => hnew (he ▸ hy)

theorem nodup_foldl_addNew (xs : List α) : (xs.foldl addNew []).Nodup :=
  foldl_addNew_ordered .nil (List.pairwise_of_forall fun a b => Decidable.em (a = b))

/-- What is taken once is taken where it comes first. -/
theorem foldl_addNew_eq_append [BEq α] [LawfulBEq α] (xs ys : List α) :
    xs.foldl addNew ys = ys ++ (xs.filter (· ∉ ys)).eraseDups := by
  induction xs generalizing ys with
  | nil => simp
  | cons x rest ih =>
    rw [List.foldl_cons, ih, addNew]
    split
    · next hx => rw [List.filter_cons_of_neg (by simpa using hx)]
    · next hx =>
      have hrest : rest.filter (· ∉ ys ++ [x]) = (rest.filter (· ∉ ys)).filter fun y => !y == x := by
        rw [List.filter_filter]
        refine List.filter_congr fun y _ => ?_
        rw [Bool.eq_iff_iff]
        simp [and_comm]
      rw [List.filter_cons_of_pos (by simpa using hx), List.eraseDups_cons, hrest, List.append_assoc,
        List.singleton_append]

theorem foldl_addNew_eq_eraseDups [BEq α] [LawfulBEq α] (xs : List α) : xs.foldl addNew [] = xs.eraseDups := by
  rw [foldl_addNew_eq_append, List.nil_append, List.filter_eq_self.mpr (by simp)]

theorem filter_foldl_addNew (p : α → Bool) (xs ys : List α) :
    (xs.foldl addNew ys).filter p = (xs.filter p).foldl addNew (ys.filter p) := by
  induction xs generalizing ys with
  | nil => rfl
  | cons x rest ih =>
    rw [List.foldl_cons, ih, List.filter_cons]
    cases hp : p x with
    | true => simp [addNew, apply_ite (List.filter p), hp]
    | false => simp [addNew, apply_ite (List.filter p), hp]

end AddNew

namespace OrderedMap
variable {α β : Type}

@[simp] theorem keys_empty : (∅ : OrderedMap α β).keys = [] := rfl

@[simp] theorem entries_empty : (∅ : OrderedMap α β).entries = [] := rfl

theorem length_keys (m : OrderedMap α β) : m.keys.length = m.size := List.length_map ..

theorem nodup_entries (m : OrderedMap α β) : m.entries.Nodup :=
  List.Pairwise.of_map Prod.fst (fun _ _ hne he => hne (congrArg Prod.fst he)) m.nodup

variable [DecidableEq α]

@[simp] theorem get?_empty (a : α) : (∅ : OrderedMap α β).get? a = none := rfl

/-! ### Looking up -/

theorem lookup_eq_some_iff_mem {entries : List (α × β)} (h : (entries.map Prod.fst).Nodup) (a : α)
    (b : β) : entries.lookup a = some b ↔ (a, b) ∈ entries := by
  induction entries with
  | nil => simp
  | cons e rest ih =>
    obtain ⟨k, v⟩ := e
    simp only [List.map_cons, List.nodup_cons] at h
    rw [lookup_cons_eq, List.mem_cons, Prod.mk.injEq]
    by_cases ha : a = k
    · subst ha
      have hrest : (a, b) ∉ rest := fun hm => h.1 (List.mem_map.mpr ⟨_, hm, rfl⟩)
      simp [hrest, eq_comm]
    · simp [ha, ih h.2]

theorem get?_eq_some_iff (m : OrderedMap α β) (a : α) (b : β) :
    m.get? a = some b ↔ (a, b) ∈ m.entries :=
  lookup_eq_some_iff_mem m.nodup a b

theorem mem_keys_iff (m : OrderedMap α β) (a : α) : a ∈ m.keys ↔ ∃ b, m.get? a = some b := by
  simp only [get?_eq_some_iff]
  simp [keys]

theorem get?_eq_none_iff (m : OrderedMap α β) (a : α) : m.get? a = none ↔ a ∉ m.keys := by
  rw [mem_keys_iff, ← Option.isSome_iff_exists, Option.not_isSome_iff_eq_none]

theorem values_eq_map_keys (m : OrderedMap α β) (d : β) : m.values = m.keys.map fun a => (m.get? a).getD d := by
  rw [values, keys, List.map_map]
  refine List.map_congr_left fun e he => ?_
  rw [Function.comp_apply, (get?_eq_some_iff ..).mpr he]
  rfl

@[simp] theorem contains_iff (m : OrderedMap α β) (a : α) : m.contains a = true ↔ a ∈ m.keys :=
  decide_eq_true_iff

/-! ### Changing -/

/-- A new key goes to the end. -/
theorem entries_insert {m : OrderedMap α β} {a : α} (h : a ∉ m.keys) (b : β) :
    (m.insert a b).entries = m.entries ++ [(a, b)] := by
  unfold insert
  rw [dif_neg h]

theorem get?_insertNew (m : OrderedMap α β) (a x : α) (b : β) :
    (m.insertNew a b).get? x = if x = a ∧ a ∉ m.keys then some b else m.get? x := by
  unfold insertNew
  split
  · next h => simp [h]
  · next h => simp [h]

theorem mem_keys_insertNew (m : OrderedMap α β) (a x : α) (b : β) :
    x ∈ (m.insertNew a b).keys ↔ x = a ∨ x ∈ m.keys := by
  unfold insertNew
  split
  · next h => exact ⟨.inr, fun hx => hx.elim (fun e => e ▸ h) id⟩
  · rw [mem_keys_insert]

theorem keys_insertNew (m : OrderedMap α β) (a : α) (b : β) : (m.insertNew a b).keys = addNew m.keys a := by
  unfold insertNew addNew
  split
  · rfl
  · next h => rw [keys_insert, if_neg h]

theorem keys_update (m : OrderedMap α β) (a : α) (d : β) (f : β → β) :
    (m.update a d f).keys = addNew m.keys a :=
  keys_insert ..

theorem get?_update (m : OrderedMap α β) (a x : α) (d : β) (f : β → β) :
    (m.update a d f).get? x = if x = a then some (f ((m.get? a).getD d)) else m.get? x :=
  get?_insert ..

theorem mem_keys_update (m : OrderedMap α β) (a x : α) (d : β) (f : β → β) :
    x ∈ (m.update a d f).keys ↔ x = a ∨ x ∈ m.keys :=
  mem_keys_insert ..

theorem mem_keys_foldl_insert (entries : List (α × β)) (m : OrderedMap α β) (x : α) :
    x ∈ (entries.foldl (fun m e => m.insert e.1 e.2) m).keys ↔ x ∈ m.keys ∨ ∃ e ∈ entries, e.1 = x := by
  induction entries generalizing m with
  | nil => simp
  | cons e rest ih =>
    simp only [List.foldl_cons, ih, mem_keys_insert, List.mem_cons, exists_eq_or_imp]
    grind

theorem get?_foldl_insert {entries : List (α × β)} {m : OrderedMap α β} {x : α} {b : β}
    (h : (entries.foldl (fun m e => m.insert e.1 e.2) m).get? x = some b) :
    m.get? x = some b ∨ (x, b) ∈ entries := by
  induction entries generalizing m with
  | nil => exact .inl h
  | cons e rest ih =>
    rcases ih h with h | h
    · rw [get?_insert] at h
      split at h
      · next hx =>
        obtain rfl := Option.some.inj h
        exact .inr (hx ▸ List.mem_cons_self ..)
      · exact .inl h
    · exact .inr (List.mem_cons_of_mem _ h)

theorem mem_keys_ofList (entries : List (α × β)) (x : α) :
    x ∈ (ofList entries).keys ↔ ∃ e ∈ entries, e.1 = x := by
  simp [ofList, mem_keys_foldl_insert]

theorem mem_of_get?_ofList {entries : List (α × β)} {x : α} {b : β}
    (h : (ofList entries).get? x = some b) : (x, b) ∈ entries := by
  simpa using get?_foldl_insert h

/-! ### Maps to lists

In a map to lists a key that is not there stands for an empty list. -/

section Lists
variable {γ : Type}

theorem getD_insertNew_nil (m : OrderedMap α (List γ)) (a x : α) :
    ((m.insertNew a []).get? x).getD [] = (m.get? x).getD [] := by
  rw [get?_insertNew]
  split
  · next h => rw [h.1, (get?_eq_none_iff m a).mpr h.2]; rfl
  · rfl

theorem getD_update_nil [DecidableEq γ] (m : OrderedMap α (List γ)) (a x : α) (c : γ) :
    ((m.update a [] (addNew · c)).get? x).getD [] =
      if x = a then addNew ((m.get? x).getD []) c else (m.get? x).getD [] := by
  rw [get?_update]
  split
  · next h => rw [h]; rfl
  · rfl

end Lists

end OrderedMap

end Ripple
