import Ripple.Path.Lexical
import Ripple.Proofs.Path.Names

/-! What names alone say of places.

Names without a step up are left as they are (`normalize_of_down`), and such are the names that an absolute path
is normalized to (`down_normalize`). Two lists of names begin alike as far as everything does that both begin with
(`prefix_commonNames_iff`), and so there is a deepest place at or above several paths (`IsDeepestAround.unique`),
which is found unless it is the top (`common?_eq_some_iff`). -/
namespace Ripple.Path

/-- Without a step up there is nothing to undo. -/
theorem normalize_of_down {p : Path} (h : ∀ n ∈ p.names, n ≠ "..") : p.normalize = p := by
  have hclimb : ∀ names passed : List String, (∀ n ∈ names, n ≠ "..") →
      names.foldl (climb p.isAbsolute) passed = passed ++ names := by
    intro names
    induction names with
    | nil => simp
    | cons name names ih =>
      intro passed hdown
      obtain ⟨hname, hnames⟩ := List.forall_mem_cons.mp hdown
      rw [List.foldl_cons, climb, if_pos (by simpa using hname), ih _ hnames, List.append_assoc,
        List.singleton_append]
  rw [normalize, hclimb p.names [] h, List.nil_append]

/-- Where no step up has been passed, a step up drops the last name, if there is one. -/
theorem climb_of_down {passed : List String} (h : ∀ n ∈ passed, n ≠ "..") (name : String) :
    climb true passed name = if name = ".." then passed.dropLast else passed ++ [name] := by
  have hlast : passed.getLast? ≠ some ".." := fun hup => h ".." (List.mem_of_getLast? hup) rfl
  by_cases hname : name = ".."
  · by_cases hnone : passed = []
    · simp [climb, hname, hnone]
    · simp [climb, hname, hnone, hlast]
  · simp [climb, hname]

theorem down_climb {passed : List String} (h : ∀ n ∈ passed, n ≠ "..") (name : String) :
    ∀ n ∈ climb true passed name, n ≠ ".." := by
  rw [climb_of_down h]
  split
  · exact fun n hn => h n (List.dropLast_subset _ hn)
  · next hname => exact List.forall_mem_append.mpr ⟨h, by simpa using hname⟩

/-- An absolute path has no step up left in its normal form. -/
theorem down_normalize {p : Path} (h : p.isAbsolute = true) : ∀ n ∈ p.normalize.names, n ≠ ".." := by
  have hfold : ∀ names passed : List String, (∀ n ∈ passed, n ≠ "..") →
      ∀ n ∈ names.foldl (climb true) passed, n ≠ ".." := by
    intro names
    induction names with
    | nil => exact fun passed hpassed => hpassed
    | cons name names ih => exact fun passed hpassed => ih _ (down_climb hpassed name)
  rw [normalize, h]
  exact hfold p.names [] (by simp)

theorem normalize_normalize {p : Path} (h : p.isAbsolute = true) : p.normalize.normalize = p.normalize :=
  normalize_of_down (down_normalize h)

/-! ### What paths have in common -/

theorem prefix_commonNames_iff {names as bs : List String} :
    names <+: commonNames as bs ↔ names <+: as ∧ names <+: bs := by
  fun_induction commonNames as bs generalizing names with
  | case1 as b bs ih =>
    cases names with
    | nil => simp
    | cons name names =>
      rw [List.cons_prefix_cons, List.cons_prefix_cons, List.cons_prefix_cons, ih]
      exact ⟨fun h => ⟨⟨h.1, h.2.1⟩, h.1, h.2.2⟩, fun h => ⟨h.1.1, h.1.2, h.2.2⟩⟩
  | case2 a as b bs hne =>
    cases names with
    | nil => simp
    | cons name names =>
      simp only [List.prefix_nil, reduceCtorEq, List.cons_prefix_cons, false_iff]
      rintro ⟨⟨rfl, _⟩, rfl, _⟩
      exact hne rfl
  | case3 as bs hnone =>
    cases as with
    | nil => exact ⟨fun h => ⟨h, (List.prefix_nil.mp h) ▸ List.nil_prefix⟩, And.left⟩
    | cons a as =>
      cases bs with
      | nil => exact ⟨fun h => ⟨(List.prefix_nil.mp h) ▸ List.nil_prefix, h⟩, And.right⟩
      | cons b bs => exact (hnone a as b bs rfl rfl).elim

theorem prefix_foldl_commonNames_iff {names start : List String} {paths : List Path} :
    names <+: paths.foldl (fun common q => commonNames common q.names) start ↔
      names <+: start ∧ ∀ q ∈ paths, names <+: q.names := by
  induction paths generalizing start with
  | nil => simp
  | cons p rest ih => rw [List.foldl_cons, ih, prefix_commonNames_iff, List.forall_mem_cons, and_assoc]

/-- The deepest place at or above all of the paths. -/
structure IsDeepestAround (r : Path) (paths : List Path) : Prop where
  anchor : r.anchor = .root
  around : ∀ p ∈ paths, r.names <+: p.names
  deepest : ∀ names, (∀ p ∈ paths, names <+: p.names) → names <+: r.names

namespace IsDeepestAround
variable {r r' : Path} {paths : List Path}

theorem unique (h : r.IsDeepestAround paths) (h' : r'.IsDeepestAround paths) : r = r' := by
  have hnames : r.names = r'.names :=
    List.IsPrefix.eq_of_length_le (h'.deepest _ h.around) (h.deepest _ h'.around).length_le
  have hanchor : r.anchor = r'.anchor := h.anchor.trans h'.anchor.symm
  cases r
  cases r'
  simp_all

/-- Around no paths at all there is always a deeper place. -/
theorem ne_nil (h : r.IsDeepestAround paths) : paths ≠ [] := by
  rintro rfl
  have hdeeper := (h.deepest (r.names ++ [""]) (by simp)).length_le
  rw [List.length_append, List.length_singleton] at hdeeper
  omega

end IsDeepestAround

/-- The deepest place around absolute paths is found unless it is the top. -/
theorem common?_eq_some_iff {paths : List Path} (h : ∀ p ∈ paths, p.isAbsolute = true) {r : Path} :
    common? paths = some r ↔ r.IsDeepestAround paths ∧ r.isTop = false := by
  cases paths with
  | nil =>
    have hnone : common? [] ≠ some r := nofun
    exact ⟨fun hr => absurd hr hnone, fun hr => absurd rfl hr.1.ne_nil⟩
  | cons p rest =>
    obtain ⟨hp, hrest⟩ := List.forall_mem_cons.mp h
    have hsame : (rest.any fun q => q.isAbsolute != p.isAbsolute) = false := by
      rw [List.any_eq_false]
      intro q hq
      simp [hp, hrest q hq]
    let names := rest.foldl (fun common q => commonNames common q.names) p.names
    have hcommon : common? (p :: rest) = if names = [] then none else some ⟨.root, names⟩ := by
      show (if (rest.any fun q => q.isAbsolute != p.isAbsolute) = true then none
        else if names = [] then none else some (Path.mk (if p.isAbsolute then .root else .relative) names)) = _
      rw [hsame, hp]
      rfl
    have hdeepest : IsDeepestAround ⟨.root, names⟩ (p :: rest) :=
      ⟨rfl, List.forall_mem_cons.mpr (prefix_foldl_commonNames_iff.mp List.prefix_rfl),
        fun _ hnames => prefix_foldl_commonNames_iff.mpr (List.forall_mem_cons.mp hnames)⟩
    rw [hcommon]
    constructor
    · intro hr
      split at hr
      · cases hr
      · next hnames =>
        obtain rfl := Option.some.inj hr
        exact ⟨hdeepest, by simpa [isTop] using hnames⟩
    · rintro ⟨hr, hbelow⟩
      obtain rfl := hr.unique hdeepest
      rw [if_neg (by simpa [isTop] using hbelow)]

end Ripple.Path
