import Mathlib
import Ripple.Changes
import Ripple.Proofs.Files.Lookup
import Ripple.Proofs.Path.Above
import Ripple.Proofs.Project.Discovery

/-! Which folder is taken for the root of a project.

From the folder of each changed path the steps go up until one leads to a marked folder (`of_markedAbove?_eq_some`).
Over all paths the fewest steps win, and the earliest path among several (`nearestMarked?_spec`); if no path is
below a mark, the root is the deepest folder around all of them, or else the current folder. So the changes alone
tell one root (`detects_iff`). What is scanned is its canonical form, which a marked folder always has
(`exists_locate_of_hasMarker`): `root_is_nearest_marked_or_deepest_around`. -/
namespace Ripple

namespace Workspace
variable {w : Workspace} {changed : List Path} {p q r : Path} {i n : Nat}

/-! ### Marked folders -/

/-- Where a mark is, there is a folder. -/
theorem isFolder_of_hasMarker (h : w.hasMarker p = true) : w.isFolder p = true := by
  obtain ⟨marker, hmarker, hpresent⟩ := List.any_eq_true.mp h
  have hname : marker ≠ ".." := by
    rintro rfl
    exact absurd hmarker (by decide)
  rw [isPresent, Path.div_child] at hpresent
  exact FileTree.isFolderAt_of_isPresent_child hname hpresent

theorem exists_locate_of_hasMarker (h : w.hasMarker p = true) : ∃ place, w.files.locate (w.cwd / p) = .ok place := by
  obtain ⟨entries, hfolder⟩ := FileTree.isFolderAt_iff.mp (isFolder_of_hasMarker h)
  obtain ⟨place, hplace, _⟩ := FileTree.find_eq_ok_iff.mp hfolder
  exact ⟨place, hplace⟩

/-- Where so many steps up from the folder of a path lead. -/
def upFrom (w : Workspace) (p : Path) (n : Nat) : Path := Path.parent^[n] (w.folderOf p)

/-- No place at or above one of the paths is marked. -/
def Unmarked (w : Workspace) (changed : List Path) : Prop :=
  ∀ p ∈ changed, ∀ q, q = p ∨ q.IsAbove p → w.hasMarker q = false

/-- A path that is no folder is not marked itself, so it is enough to look from its folder. -/
theorem unmarked_iff : w.Unmarked changed ↔ ∀ p ∈ changed, ∀ n, w.hasMarker (w.upFrom p n) = false := by
  refine forall₂_congr fun p _ => ?_
  simp only [Path.eq_or_isAbove_iff, forall_exists_index, forall_eq_apply_imp_iff, upFrom]
  unfold folderOf
  split
  · exact Iff.rfl
  · next hfile =>
    have hself : w.hasMarker p = false := by
      rw [← Bool.not_eq_true]
      exact fun hmarked => hfile (isFolder_of_hasMarker hmarked)
    constructor
    · intro h n
      rw [← Function.iterate_succ_apply]
      exact h (n + 1)
    · intro h n
      cases n with
      | zero => exact hself
      | succ n =>
        rw [Function.iterate_succ_apply]
        exact h n

/-- The first marked place on the way up, with its number of steps. -/
theorem markedAbove?_eq : w.markedAbove? p =
    ((List.range ((w.folderOf p).names.length + 1)).findIdx? fun n => w.hasMarker (w.upFrom p n)).map
      fun n => (n, w.upFrom p n) := by
  have hfind : ((List.range ((w.folderOf p).names.length + 1)).map (w.upFrom p)).findIdx? w.hasMarker =
      (List.range ((w.folderOf p).names.length + 1)).findIdx? fun n => w.hasMarker (w.upFrom p n) := by
    rw [List.findIdx?_map]
    rfl
  have hupward : w.folderOf p :: (w.folderOf p).parents =
      (List.range ((w.folderOf p).names.length + 1)).map (w.upFrom p) := Path.cons_parents_eq_map_iterate _
  simp only [markedAbove?, hupward, hfind]
  cases hfirst : (List.range ((w.folderOf p).names.length + 1)).findIdx? fun n => w.hasMarker (w.upFrom p n) with
  | none => rfl
  | some n =>
    obtain ⟨hlt, _⟩ := List.findIdx?_eq_some_iff_getElem.mp hfirst
    rw [List.length_range] at hlt
    simp [hlt]

/-- The steps up from the folder of a path end at the first marked place. -/
theorem of_markedAbove?_eq_some (h : w.markedAbove? p = some (n, r)) :
    r = w.upFrom p n ∧ w.hasMarker r = true ∧ ∀ m, w.hasMarker (w.upFrom p m) = true → n ≤ m := by
  rw [markedAbove?_eq, Option.map_eq_some_iff] at h
  obtain ⟨k, hfirst, hpair⟩ := h
  obtain ⟨rfl, rfl⟩ := Prod.mk.inj hpair
  obtain ⟨hlt, hmarked, hbefore⟩ := List.findIdx?_eq_some_iff_getElem.mp hfirst
  simp only [List.getElem_range] at hmarked hbefore
  exact ⟨rfl, hmarked, fun m hm => Nat.not_lt.mp fun hmk => hbefore m hmk hm⟩

theorem hasMarker_upFrom_of_none (h : w.markedAbove? p = none) (n : Nat) : w.hasMarker (w.upFrom p n) = false := by
  rw [markedAbove?_eq, Option.map_eq_none_iff, List.findIdx?_eq_none_iff] at h
  by_cases hn : n < (w.folderOf p).names.length + 1
  · exact h n (List.mem_range.mpr hn)
  · have htop : w.upFrom p n = w.upFrom p (w.folderOf p).names.length :=
      Path.iterate_parent_of_length_le _ (by omega)
    rw [htop]
    exact h _ (List.mem_range.mpr (Nat.lt_succ_self _))

/-! ### The nearest of them -/

/-- `r` is a marked place that `n` steps up from the folder of the `i`-th path lead to, and to no marked place lead
fewer steps from any path, or as many from an earlier one. -/
structure NearestMarked (w : Workspace) (changed : List Path) (i n : Nat) (r : Path) : Prop where
  reached : ∃ p, changed[i]? = some p ∧ r = w.upFrom p n
  marked : w.hasMarker r = true
  nearest : ∀ j m p, changed[j]? = some p → w.hasMarker (w.upFrom p m) = true → n < m ∨ n = m ∧ i ≤ j

/-- An item of a list with one more is an item of the list, or the last. -/
theorem getElem?_concat_cases {α : Type} {xs : List α} {x y : α} {j : Nat} (h : (xs ++ [x])[j]? = some y) :
    xs[j]? = some y ∨ j = xs.length ∧ y = x := by
  rw [List.getElem?_append] at h
  split at h
  · exact .inl h
  · obtain ⟨hlast, rfl⟩ := List.getElem?_eq_some_iff.mp h
    rw [List.length_singleton] at hlast
    exact .inr ⟨by omega, List.getElem_singleton ..⟩

namespace NearestMarked

theorem unique {i' n' : Nat} {r' : Path} (h : w.NearestMarked changed i n r)
    (h' : w.NearestMarked changed i' n' r') : r = r' := by
  obtain ⟨p, hp, rfl⟩ := h.reached
  obtain ⟨p', hp', rfl⟩ := h'.reached
  have hfirst := h.nearest i' n' p' hp' h'.marked
  have hfirst' := h'.nearest i n p hp h.marked
  obtain rfl : n = n' := by omega
  obtain rfl : i = i' := by omega
  rw [Option.some.inj (hp.symm.trans hp')]

theorem not_unmarked (h : w.NearestMarked changed i n r) : ¬w.Unmarked changed := by
  intro hnone
  obtain ⟨p, hp, rfl⟩ := h.reached
  have hmarked := h.marked
  rw [unmarked_iff.mp hnone p (List.mem_of_getElem? hp) n] at hmarked
  cases hmarked

/-- A path from which no fewer steps lead to a mark changes nothing. -/
theorem concat (h : w.NearestMarked changed i n r)
    (hlater : ∀ m, w.hasMarker (w.upFrom p m) = true → n ≤ m) : w.NearestMarked (changed ++ [p]) i n r where
  reached := by
    obtain ⟨q, hq, hr⟩ := h.reached
    exact ⟨q, List.getElem?_append_left (List.getElem?_eq_some_iff.mp hq).1 ▸ hq, hr⟩
  marked := h.marked
  nearest j m q hq hm := by
    obtain ⟨_, hi, _⟩ := h.reached
    have hlt := (List.getElem?_eq_some_iff.mp hi).1
    rcases getElem?_concat_cases hq with hq | ⟨rfl, rfl⟩
    · exact h.nearest j m q hq hm
    · have hle := hlater m hm
      omega

/-- A path from which fewer steps lead to a mark than from all before takes over. -/
theorem of_sooner (hr : r = w.upFrom p n) (hmarked : w.hasMarker r = true)
    (hfirst : ∀ m, w.hasMarker (w.upFrom p m) = true → n ≤ m)
    (hsooner : ∀ q ∈ changed, ∀ m, w.hasMarker (w.upFrom q m) = true → n < m) :
    w.NearestMarked (changed ++ [p]) changed.length n r where
  reached := ⟨p, by simp, hr⟩
  marked := hmarked
  nearest j m q hq hm := by
    rcases getElem?_concat_cases hq with hq | ⟨rfl, rfl⟩
    · exact .inl (hsooner q (List.mem_of_getElem? hq) m hm)
    · have hle := hfirst m hm
      omega

end NearestMarked

/-- The nearest marked place over all paths. -/
def nearestMarked? (w : Workspace) (changed : List Path) : Option (Nat × Path) :=
  changed.foldl (fun best p => nearer best (w.markedAbove? p)) none

theorem nearestMarked?_concat (changed : List Path) (p : Path) :
    w.nearestMarked? (changed ++ [p]) = nearer (w.nearestMarked? changed) (w.markedAbove? p) := by
  rw [nearestMarked?, List.foldl_concat, nearestMarked?]

/-- **The fewest steps win, and the earliest path among several.** -/
theorem nearestMarked?_spec (changed : List Path) :
    (∀ n r, w.nearestMarked? changed = some (n, r) → ∃ i, w.NearestMarked changed i n r) ∧
      (w.nearestMarked? changed = none → ∀ p ∈ changed, ∀ n, w.hasMarker (w.upFrom p n) = false) := by
  -- by induction on the paths before the last one
  induction changed using List.reverseRecOn with
  | nil => exact ⟨fun n r h => (by cases h), fun _ => by simp⟩
  | append_singleton before p ih =>
    rw [nearestMarked?_concat]
    cases hbest : w.nearestMarked? before with
    | none =>
      have hbefore := ih.2 hbest
      cases hfound : w.markedAbove? p with
      | none =>
        refine ⟨fun n r h => (by cases h), fun _ => ?_⟩
        exact List.forall_mem_append.mpr ⟨hbefore, by simpa using hasMarker_upFrom_of_none hfound⟩
      | some found =>
        refine ⟨fun n r h => ?_, fun h => (by cases h)⟩
        obtain rfl := Option.some.inj h
        obtain ⟨hr, hmarked, hfirst⟩ := of_markedAbove?_eq_some hfound
        refine ⟨before.length, .of_sooner hr hmarked hfirst fun q hq m hm => ?_⟩
        rw [hbefore q hq m] at hm
        cases hm
    | some best =>
      obtain ⟨i, hi⟩ := ih.1 best.1 best.2 hbest
      cases hfound : w.markedAbove? p with
      | none =>
        refine ⟨fun n r h => ?_, fun h => (by cases h)⟩
        obtain rfl := Option.some.inj h
        refine ⟨i, hi.concat fun m hm => ?_⟩
        rw [hasMarker_upFrom_of_none hfound m] at hm
        cases hm
      | some found =>
        obtain ⟨hr, hmarked, hfirst⟩ := of_markedAbove?_eq_some hfound
        by_cases hsooner : found.1 < best.1
        · simp only [nearer, if_pos hsooner]
          refine ⟨fun n r h => ?_, fun h => (by cases h)⟩
          obtain rfl := Option.some.inj h
          refine ⟨before.length, .of_sooner hr hmarked hfirst fun q hq m hm => ?_⟩
          obtain ⟨j, hj⟩ := List.mem_iff_getElem?.mp hq
          have hbefore := hi.nearest j m q hj hm
          omega
        · simp only [nearer, if_neg hsooner]
          refine ⟨fun n r h => ?_, fun h => (by cases h)⟩
          obtain rfl := Option.some.inj h
          exact ⟨i, hi.concat fun m hm => Nat.le_trans (Nat.not_lt.mp hsooner) (hfirst m hm)⟩

/-! ### The root -/

/-- What the changed paths tell to be the root: the nearest marked place, else the deepest place around their
folders unless that is the top, else the current folder. -/
inductive Detects (w : Workspace) (changed : List Path) : Path → Prop
  | marked {i n : Nat} {r : Path} (nearest : w.NearestMarked changed i n r) : Detects w changed r
  | around {r : Path} (unmarked : w.Unmarked changed) (deepest : r.IsDeepestAround (changed.map Path.parent))
      (below : r.isTop = false) : Detects w changed r
  | cwd (unmarked : w.Unmarked changed)
      (top : ∀ r : Path, r.IsDeepestAround (changed.map Path.parent) → r.isTop = true) : Detects w changed w.cwd

theorem detectRoot_eq : w.detectRoot changed = match w.nearestMarked? changed with
    | some (_, root) => root
    | none => (Path.common? (changed.map Path.parent)).getD w.cwd := rfl

/-- **Absolute paths tell one root.** -/
theorem detects_iff (habsolute : ∀ p ∈ changed, p.isAbsolute = true) :
    w.Detects changed r ↔ r = w.detectRoot changed := by
  have hparents : ∀ p ∈ changed.map Path.parent, p.isAbsolute = true := by
    simpa [Path.parent, Path.isAbsolute] using habsolute
  rw [detectRoot_eq]
  cases hbest : w.nearestMarked? changed with
  | some best =>
    obtain ⟨i, hi⟩ := (nearestMarked?_spec changed).1 best.1 best.2 hbest
    constructor
    · intro h
      cases h with
      | marked hr => exact hr.unique hi
      | around hunmarked => exact absurd hunmarked hi.not_unmarked
      | cwd hunmarked => exact absurd hunmarked hi.not_unmarked
    · rintro rfl
      exact .marked hi
  | none =>
    have hunmarked : w.Unmarked changed := unmarked_iff.mpr ((nearestMarked?_spec changed).2 hbest)
    show _ ↔ r = (Path.common? (changed.map Path.parent)).getD w.cwd
    cases hcommon : Path.common? (changed.map Path.parent) with
    | some around =>
      obtain ⟨hdeepest, hbelow⟩ := (Path.common?_eq_some_iff hparents).mp hcommon
      constructor
      · intro h
        cases h with
        | marked hr => exact absurd hunmarked hr.not_unmarked
        | around _ hr => exact hr.unique hdeepest
        | cwd _ htop =>
          rw [htop around hdeepest] at hbelow
          cases hbelow
      · rintro rfl
        exact .around hunmarked hdeepest hbelow
    | none =>
      have htop : ∀ r : Path, r.IsDeepestAround (changed.map Path.parent) → r.isTop = true := by
        intro r hr
        rw [← Bool.not_eq_false]
        intro hbelow
        rw [(Path.common?_eq_some_iff hparents).mpr ⟨hr, hbelow⟩] at hcommon
        cases hcommon
      constructor
      · intro h
        cases h with
        | marked hr => exact absurd hunmarked hr.not_unmarked
        | around _ hr hbelow =>
          rw [htop r hr] at hbelow
          cases hbelow
        | cwd => rfl
      · rintro rfl
        exact .cwd hunmarked htop

/-- **The root is the nearest marked folder, else the deepest folder around the changes, else the current folder**,
and the current folder in place of the top. There is one such folder for any absolute paths. The root is its
canonical form, which it has unless a link on the way leads back to itself; if the folder is there, this is the
place that the tree keeps it under, and a marked folder is there. -/
theorem root_is_nearest_marked_or_deepest_around (habsolute : ∀ p ∈ changed, p.isAbsolute = true) :
    ∃ r, w.Detects changed r ∧ (∀ r', w.Detects changed r' → r' = r) ∧
      let folder := if r.isTop then w.cwd else r
      w.chooseRoot none changed = w.resolve folder ∧
      ((w.files.land (w.cwd / folder)).looped = false →
        w.chooseRoot none changed = some ⟨.root, (w.files.land (w.cwd / folder)).names⟩) ∧
      (∀ names, w.files.locate (w.cwd / folder) = .ok names → w.chooseRoot none changed = some ⟨.root, names⟩) ∧
      (w.hasMarker folder = true → ∃ names, w.files.locate (w.cwd / folder) = .ok names) := by
  refine ⟨w.detectRoot changed, (detects_iff habsolute).mpr rfl, fun r' => (detects_iff habsolute).mp, ?_⟩
  intro folder
  have hchosen : w.chooseRoot none changed = w.resolve folder := rfl
  refine ⟨hchosen, fun hlooped => ?_, fun names hnames => ?_, exists_locate_of_hasMarker⟩
  · exact hchosen.trans (FileTree.resolve_of_not_looped hlooped)
  · exact hchosen.trans (FileTree.resolve_of_locate hnames)

/-- Of two changes the second is nearer to a mark, in a folder that it is reached through a link to. -/
theorem root_is_marked_folder_behind_link :
    let w := ofProject [("a", .folder [("b", .folder []), ("pyproject.toml", .file [])]),
      ("c", .folder [(".git", .folder []), ("y.py", .file [])]), ("link", .link "c")]
    let changed : List Path := [⟨.root, ["project", "a", "b", "x.py"]⟩, ⟨.root, ["project", "link", "y.py"]⟩]
    (∀ p ∈ changed, p.isAbsolute = true) ∧ w.Detects changed ⟨.root, ["project", "link"]⟩ ∧
      w.chooseRoot none changed = some ⟨.root, ["project", "c"]⟩ := by
  intro w changed
  have habsolute : ∀ p ∈ changed, p.isAbsolute = true := by decide
  obtain ⟨r, hr, _, _, _, hplace, _⟩ := root_is_nearest_marked_or_deepest_around habsolute
  have hdetected : w.detectRoot changed = ⟨.root, ["project", "link"]⟩ := by cbv
  rw [detects_iff habsolute, hdetected] at hr
  subst hr
  exact ⟨habsolute, (detects_iff habsolute).mpr hdetected.symm, hplace _ (by cbv)⟩

/-- A change behind a link to itself tells a root that has no canonical form. -/
theorem root_behind_link_loop_is_lost :
    let w := ofProject [("loop", .link "loop")]
    let changed : List Path := [⟨.root, ["project", "loop", "x.py"]⟩]
    (∀ p ∈ changed, p.isAbsolute = true ∧ p.normalize = p) ∧ w.Detects changed ⟨.root, ["project", "loop"]⟩ ∧
      w.chooseRoot none changed = none := by
  intro w changed
  have habsolute : ∀ p ∈ changed, p.isAbsolute = true := by decide
  have hdetected : w.detectRoot changed = ⟨.root, ["project", "loop"]⟩ := by cbv
  exact ⟨by decide, (detects_iff habsolute).mpr hdetected.symm, by cbv⟩

end Workspace

end Ripple
