import Mathlib.Data.List.Induction
import Ripple.Proofs.Files.Workspace

/-! Canonical paths lead straight to their places.

Names are direct if nothing on the way is missing, a link or a step up (`FileTree.Direct`). Following links ends
at direct names if it misses nothing (`direct_follow`), so canonical paths are direct (`direct_of_canonical`), and to
walk along one is to look it up as it stands (`find_of_direct`). -/
namespace Ripple.FileTree

def isLink : FileTree → Bool
  | link _ => true
  | _ => false

/-- Every name leads to something that is no link, and none leads up. -/
inductive Direct (t : FileTree) : List String → Prop
  | nil : Direct t []
  | concat {names : List String} {name : String} {found : FileTree} (above : Direct t names)
      (down : name ≠ "..") (there : t.stored? (names ++ [name]) = some found) (solid : found.isLink = false) :
      Direct t (names ++ [name])

variable {t : FileTree}

namespace Direct

theorem above {names : List String} {name : String} (h : t.Direct (names ++ [name])) :
    t.Direct names ∧ name ≠ ".." ∧ ∃ found, t.stored? (names ++ [name]) = some found ∧ found.isLink = false := by
  generalize hwhole : names ++ [name] = whole at h
  cases h with
  | nil => simp at hwhole
  | concat habove hdown hthere hsolid =>
    obtain ⟨rfl, hname⟩ := List.append_inj' hwhole rfl
    obtain rfl := (List.cons.inj hname).1
    exact ⟨habove, hdown, _, hwhole ▸ hthere, hsolid⟩

/-- Something is at the end of a direct way. -/
theorem stored {names : List String} (h : t.Direct names) : ∃ found, t.stored? names = some found := by
  cases h with
  | nil => exact ⟨t, rfl⟩
  | concat _ _ hthere _ => exact ⟨_, hthere⟩

theorem dropLast {names : List String} (h : t.Direct names) : t.Direct names.dropLast := by
  cases h with
  | nil => exact .nil
  | concat habove _ _ _ => rwa [List.dropLast_concat]

theorem down {names : List String} (h : t.Direct names) : ∀ n ∈ names, n ≠ ".." := by
  induction h with
  | nil => simp
  | concat _ hname _ _ ih => exact List.forall_mem_append.mpr ⟨ih, by simpa using hname⟩

/-- The way to any place on a direct way is direct. -/
theorem of_append {names rest : List String} (h : t.Direct (names ++ rest)) : t.Direct names := by
  induction rest using List.reverseRecOn with
  | nil => rwa [List.append_nil] at h
  | append_singleton rest name ih => exact ih (List.append_assoc .. ▸ h).above.1

end Direct

theorem stored?_append (t : FileTree) (names rest : List String) :
    t.stored? (names ++ rest) = (t.stored? names).bind (·.stored? rest) := by
  induction names generalizing t with
  | nil => rfl
  | cons name names ih =>
    simp only [List.cons_append, stored?]
    cases t.child? name with
    | none => rfl
    | some below => exact ih below

/-- What stands under a name in a folder. -/
theorem stored?_concat_eq_some_iff {here : List String} {name : String} {found : FileTree} :
    t.stored? (here ++ [name]) = some found ↔
      ∃ entries, t.stored? here = some (folder entries) ∧ entries.lookup name = some found := by
  rw [stored?_append, Option.bind_eq_some_iff]
  constructor
  · rintro ⟨above, habove, hfound⟩
    have hchild : above.child? name = some found := by simpa [stored?] using hfound
    cases above with
    | folder entries => exact ⟨entries, habove, hchild⟩
    | file _ => cases hchild
    | link _ => cases hchild
  · rintro ⟨entries, habove, hfound⟩
    exact ⟨folder entries, habove, by simpa [stored?, child?, FileTree.entries] using hfound⟩

/-! ### Following links -/

/-- What was missed stays missed. -/
theorem missed_follow (depth : Nat) (opened : List (List String)) (here : List String) (missed : Bool)
    (rest : List String) (h : missed = true) : (t.follow depth opened here missed rest).missed = true := by
  fun_induction FileTree.follow t depth opened here missed rest with
  | case1 => exact h
  | case2 _ _ _ _ _ ih => exact ih h
  | case3 _ _ _ _ _ _ _ _ _ ih => exact ih rfl
  | case4 => exact h
  | case5 => exact h
  | case6 _ _ _ _ _ _ _ _ _ _ _ _ _ _ _ ih => exact ih h
  | case7 _ _ _ _ _ _ _ _ _ _ _ _ _ _ _ ih₁ ih₂ ih => exact ih (ih₁ h)
  | case8 _ _ _ _ _ _ _ _ _ _ _ ih => exact ih h

/-- **What is followed without a miss or a circle ends at direct names.** -/
theorem direct_follow (depth : Nat) (opened : List (List String)) (here : List String) (missed : Bool)
    (rest : List String) (hhere : t.Direct here)
    (hmissed : (t.follow depth opened here missed rest).missed = false)
    (hlooped : (t.follow depth opened here missed rest).looped = false) :
    t.Direct (t.follow depth opened here missed rest).names := by
  fun_induction FileTree.follow t depth opened here missed rest with
  | case1 => exact hhere
  | case2 _ _ _ _ _ ih => exact ih hhere.dropLast hmissed hlooped
  | case3 _ _ _ _ _ rest _ next _ ih =>
    rw [missed_follow _ _ _ _ _ rfl] at hmissed
    cases hmissed
  | case4 => cases hlooped
  | case5 => cases hlooped
  | case6 _ _ _ _ _ _ _ _ _ _ _ _ _ inner hinner _ =>
    rw [hinner] at hlooped
    cases hlooped
  | case7 _ here _ _ _ _ _ _ _ _ _ target start inner hinner ih₁ ih₂ ih =>
    have hstart : t.Direct start := by
      unfold start
      split
      · exact .nil
      · exact hhere
    have hfound : inner.missed = false := by
      rw [← Bool.not_eq_true]
      intro hx
      rw [missed_follow _ _ _ _ _ hx] at hmissed
      cases hmissed
    exact ih (ih₁ hstart hfound (by simpa using hinner)) hmissed hlooped
  | case8 _ _ _ _ _ _ hdown _ found hsolid hthere ih =>
    refine ih (hhere.concat hdown hthere ?_) hmissed hlooped
    cases found with
    | link target => exact absurd rfl (hsolid target)
    | _ => rfl

theorem canonical?_eq_some_iff {p q : Path} : t.canonical? p = some q ↔
    (t.land p).missed = false ∧ (t.land p).looped = false ∧ q = ⟨.root, (t.land p).names⟩ := by
  simp only [canonical?]
  cases (t.land p).missed <;> cases (t.land p).looped <;> simp [eq_comm (a := q)]

/-- **A canonical path is direct**, a path that is its own one in particular. -/
theorem direct_of_canonical {p q : Path} (h : t.canonical? p = some q) : q.anchor = .root ∧ t.Direct q.names := by
  obtain ⟨hmissed, hlooped, rfl⟩ := canonical?_eq_some_iff.mp h
  exact ⟨rfl, direct_follow _ _ _ _ _ .nil hmissed hlooped⟩

/-! ### Walking -/

/-- To walk on along direct names is to go through their folders. -/
theorem walk_of_direct (links : Nat) {here rest : List String} (h : t.Direct (here ++ rest)) :
    t.walk links here rest = .ok (here ++ rest) := by
  induction rest generalizing here with
  | nil => rw [walk, List.append_nil]
  | cons name rest ih =>
    have hnext : t.Direct (here ++ [name]) := by
      have hwhole : t.Direct ((here ++ [name]) ++ rest) := by rwa [List.append_assoc]
      exact hwhole.of_append
    obtain ⟨_, hdown, found, hfound, hsolid⟩ := hnext.above
    obtain ⟨entries, hhere, hlookup⟩ := stored?_concat_eq_some_iff.mp hfound
    rw [walk, hhere]
    simp only [if_neg hdown, hlookup]
    cases found with
    | link target => cases hsolid
    | _ =>
      rw [ih (by rwa [List.append_assoc]), List.append_assoc]
      rfl

/-- A direct path is looked up as it stands. -/
theorem find_of_direct {names : List String} {found : FileTree} (h : t.Direct names)
    (hfound : t.stored? names = some found) : t.find ⟨.root, names⟩ = .ok found :=
  find_eq_ok_iff.mpr ⟨names, walk_of_direct maxLinks (List.nil_append names ▸ h), hfound⟩

end Ripple.FileTree
