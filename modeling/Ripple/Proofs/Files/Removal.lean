import Ripple.Proofs.Files.Lookup

/-! What paths lead to once something is removed.

A removal takes one entry out of one folder (`child?_remove`), so nothing is left under its names
(`stored?_remove_self`) and all that is left was there before, links with their targets (`PartOf.remove`). In a part
of a tree whatever can be followed to its end is followed as in the whole (`follow_of_partOf`); a path that still has a
canonical path keeps it (`canonical?_of_remove`). -/
namespace Ripple.FileTree

variable {t part below new found : FileTree} {name other : String} {names rest : List String}

/-! ### Folders with one entry changed -/

theorem child?_putChild (h : t.child? name = some below) (new : FileTree) (other : String) :
    (t.putChild name new).child? other = if other = name then some new else t.child? other := by
  have hname : name ∈ t.entries.map Prod.fst := by
    by_contra hnone
    rw [child?, OrderedMap.lookup_eq_none name t.entries hnone] at h
    cases h
  have hentries : (t.putChild name new).entries = OrderedMap.overwrite name new t.entries := by
    rw [putChild, h]
    refine List.map_congr_left fun e _ => ?_
    split
    · next hsame => rw [hsame]
    · rfl
  rw [child?, hentries, OrderedMap.lookup_overwrite]
  simp [hname, child?]

theorem lookup_filter_ne (entries : List (String × FileTree)) :
    (entries.filter fun e => e.1 != name).lookup other = if other = name then none else entries.lookup other := by
  induction entries with
  | nil => simp
  | cons e rest ih =>
    obtain ⟨k, found⟩ := e
    by_cases hk : k = name
    · rw [List.filter_cons_of_neg (by simpa using hk), ih, OrderedMap.lookup_cons_eq, hk]
      split <;> rfl
    · rw [List.filter_cons_of_pos (by simpa using hk), OrderedMap.lookup_cons_eq, OrderedMap.lookup_cons_eq, ih]
      by_cases hother : other = k
      · simp [hother, hk]
      · simp [hother]

/-- What a removal leaves in the folder on the way: the entry that the names start with is gone if they end with it,
and else changed below. -/
theorem child?_remove (h : t.child? name = some below) (rest : List String) (other : String) :
    (t.remove (name :: rest)).child? other =
      if other = name then (if rest = [] then none else some (below.remove rest)) else t.child? other := by
  cases rest with
  | nil => exact lookup_filter_ne t.entries
  | cons next rest =>
    rw [remove, h]
    · exact child?_putChild h _ other
    · simp

/-- Nothing is left where something was removed. -/
theorem stored?_remove_self (hne : names ≠ []) (hfound : t.stored? names = some found) :
    (t.remove names).stored? names = none := by
  induction names generalizing t with
  | nil => exact absurd rfl hne
  | cons name rest ih =>
    obtain ⟨below, hbelow, hfound⟩ := Option.bind_eq_some_iff.mp hfound
    rw [stored?, child?_remove hbelow, if_pos rfl]
    by_cases hrest : rest = []
    · rw [if_pos hrest]
      rfl
    · rw [if_neg hrest]
      exact ih hrest hfound

/-! ### Parts of a tree -/

/-- Whatever `part` stores, `t` stores under the same names: links as they are, and no link in place of another
tree. -/
def PartOf (part t : FileTree) : Prop :=
  ∀ names found, part.stored? names = some found →
    ∃ whole, t.stored? names = some whole ∧ (found = whole ∨ found.isLink = false ∧ whole.isLink = false)

namespace PartOf

theorem link {target : String} (h : PartOf part t) (hlink : part.stored? names = some (.link target)) :
    t.stored? names = some (.link target) := by
  obtain ⟨whole, hwhole, rfl | ⟨hsolid, _⟩⟩ := h names _ hlink
  · exact hwhole
  · cases hsolid

theorem solid (h : PartOf part t) (hfound : part.stored? names = some found) (hsolid : found.isLink = false) :
    ∃ whole, t.stored? names = some whole ∧ whole.isLink = false := by
  obtain ⟨whole, hwhole, rfl | ⟨_, hwholeSolid⟩⟩ := h names _ hfound
  · exact ⟨_, hwhole, hsolid⟩
  · exact ⟨whole, hwhole, hwholeSolid⟩

end PartOf

theorem isLink_of_child? (h : t.child? name = some below) : t.isLink = false := by
  cases t with
  | link target => cases h
  | _ => rfl

theorem PartOf.remove (hne : names ≠ []) (hfound : t.stored? names = some found) : PartOf (t.remove names) t := by
  induction names generalizing t with
  | nil => exact absurd rfl hne
  | cons name rest ih =>
    obtain ⟨below, hbelow, hfound⟩ := Option.bind_eq_some_iff.mp hfound
    intro way left hleft
    cases way with
    | nil =>
      refine ⟨t, rfl, .inr ⟨?_, isLink_of_child? hbelow⟩⟩
      obtain rfl := Option.some.inj hleft
      cases rest with
      | nil => rfl
      | cons next rest =>
        rw [FileTree.remove, hbelow]
        · simp only [putChild, hbelow, Option.isSome_some, if_true]
          rfl
        · simp
    | cons other way =>
      obtain ⟨kept, hkept, hleft⟩ := Option.bind_eq_some_iff.mp hleft
      rw [child?_remove hbelow] at hkept
      by_cases hother : other = name
      · rw [if_pos hother] at hkept
        by_cases hrest : rest = []
        · rw [if_pos hrest] at hkept
          cases hkept
        · rw [if_neg hrest] at hkept
          obtain rfl := Option.some.inj hkept
          obtain ⟨whole, hwhole, hsame⟩ := ih hrest hfound way left hleft
          exact ⟨whole, Option.bind_eq_some_iff.mpr ⟨below, hother ▸ hbelow, hwhole⟩, hsame⟩
      · rw [if_neg hother] at hkept
        exact ⟨left, Option.bind_eq_some_iff.mpr ⟨kept, hkept, hleft⟩, .inl rfl⟩

/-- Through a new link following goes on from where its own way ends. -/
theorem follow_link {depth : Nat} {opened : List (List String)} {here : List String} {missed : Bool} {target : String}
    {inner : Landing} (hname : name ≠ "..") (hlink : t.stored? (here ++ [name]) = some (link target))
    (hnew : here ++ [name] ∉ opened)
    (hinner : t.follow depth ((here ++ [name]) :: opened) (linkStart here target) missed (Path.parse target).names =
      inner) (hlooped : inner.looped = false) :
    t.follow (depth + 1) opened here missed (name :: rest) =
      t.follow (depth + 1) opened inner.names inner.missed rest := by
  have hsame : t.follow depth ((here ++ [name]) :: opened) (if (Path.parse target).isAbsolute then [] else here)
      missed (Path.parse target).names = inner := hinner
  rw [follow, if_neg hname]
  simp only [hlink, if_neg hnew, hsame, hlooped, Bool.false_eq_true, if_false]

/-- A new link whose own way goes round in a circle ends the way that it is on. -/
theorem follow_looped {depth : Nat} {opened : List (List String)} {here : List String} {missed : Bool}
    {target : String} {inner : Landing} (hname : name ≠ "..")
    (hlink : t.stored? (here ++ [name]) = some (link target)) (hnew : here ++ [name] ∉ opened)
    (hinner : t.follow depth ((here ++ [name]) :: opened) (linkStart here target) missed (Path.parse target).names =
      inner) (hlooped : inner.looped = true) :
    t.follow (depth + 1) opened here missed (name :: rest) = { inner with names := inner.names ++ rest } := by
  have hsame : t.follow depth ((here ++ [name]) :: opened) (if (Path.parse target).isAbsolute then [] else here)
      missed (Path.parse target).names = inner := hinner
  rw [follow, if_neg hname]
  simp only [hlink, if_neg hnew, hsame, hlooped, if_true]

/-- What leads to an end in a part of the tree leads to the same end in the tree. The links being followed there are
different ones, so there is depth left for them. -/
theorem follow_of_partOf (h : PartOf part t) (depth : Nat) (opened : List (List String)) (here : List String)
    (missed : Bool) (rest : List String) (hnodup : opened.Nodup) (hlinks : opened ⊆ t.linkPaths)
    (hmissed : (part.follow depth opened here missed rest).missed = false)
    (hlooped : (part.follow depth opened here missed rest).looped = false) :
    ∀ left, left + opened.length = t.linkCount + 1 →
      t.follow left opened here missed rest = part.follow depth opened here missed rest := by
  fun_induction FileTree.follow part depth opened here missed rest with
  | case1 =>
    intro left _
    rw [follow]
  | case2 _ _ _ _ _ ih =>
    intro left hleft
    rw [follow, if_pos rfl]
    exact ih hnodup hlinks hmissed hlooped left hleft
  | case3 =>
    rw [missed_follow _ _ _ _ _ rfl] at hmissed
    cases hmissed
  | case4 => cases hlooped
  | case5 => cases hlooped
  | case6 _ _ _ _ _ _ _ _ _ _ _ _ _ inner hinner _ =>
    rw [hinner] at hlooped
    cases hlooped
  | case7 opened here missed name rest hname next target hlink depth hnew parsed start inner hinner ih₁ ih₂ ih =>
    intro left hleft
    have hthere : t.stored? (here ++ [name]) = some (.link target) := h.link hlink
    have hopened : (next :: opened).Nodup := List.nodup_cons.mpr ⟨hnew, hnodup⟩
    have hknown : next :: opened ⊆ t.linkPaths := List.cons_subset.mpr ⟨mem_linkPaths hthere, hlinks⟩
    obtain ⟨left, rfl⟩ : ∃ less, left = less + 1 := by
      have hlength := (List.subperm_of_subset hopened hknown).length_le
      rw [length_linkPaths, List.length_cons] at hlength
      exact ⟨left - 1, by omega⟩
    have hfound : inner.missed = false := by
      rw [← Bool.not_eq_true]
      intro hx
      rw [missed_follow _ _ _ _ _ hx] at hmissed
      cases hmissed
    have hsame : t.follow left (next :: opened) start missed parsed.names = inner :=
      ih₁ hopened hknown hfound (by simpa using hinner) left (by rw [List.length_cons]; omega)
    rw [follow_link hname hthere hnew hsame (by simpa using hinner)]
    exact ih hnodup hlinks hmissed hlooped _ hleft
  | case8 _ opened here missed name rest hname next found hsolid hfound ih =>
    intro left hleft
    obtain ⟨whole, hwhole, hwholeSolid⟩ := h.solid hfound (by
      cases found with
      | link target => exact absurd rfl (hsolid target)
      | _ => rfl)
    rw [follow, if_neg hname]
    simp only [show t.stored? (here ++ [name]) = some whole from hwhole]
    cases whole with
    | link target => cases hwholeSolid
    | _ => exact ih hnodup hlinks hmissed hlooped left hleft

/-- **A path that still has a canonical path after a removal has kept it.** -/
theorem canonical?_of_remove {p q : Path} (hne : names ≠ []) (hfound : t.stored? names = some found)
    (h : (t.remove names).canonical? p = some q) : t.canonical? p = some q := by
  obtain ⟨hmissed, hlooped, rfl⟩ := canonical?_eq_some_iff.mp h
  have hland : t.land p = (t.remove names).land p :=
    follow_of_partOf (.remove hne hfound) _ _ _ _ _ .nil (List.nil_subset _) hmissed hlooped _ rfl
  exact canonical?_eq_some_iff.mpr ⟨hland ▸ hmissed, hland ▸ hlooped, by rw [hland]⟩

end Ripple.FileTree
