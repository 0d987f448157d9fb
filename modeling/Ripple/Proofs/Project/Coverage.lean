import Ripple.Proofs.Project.Acceptance
import Ripple.Proofs.Project.Root

/-! Whether a detected root is around all changes.

Where some marked folder is above all changed files, steps up from each of them lead to a mark, and the root is the
folder that the fewest lead to (`exists_nearestMarked`). It is that folder or lies below it, so it is its own
canonical path (`resolve_nearestMarked`). Below it means that a project holds another one: then the nearer may
be the root, and a change beside it is refused. The intake takes all changes exactly if the root is above all of
them, as it is where no project parts them (`detected_root_covers_changes_unless_nested`). -/
namespace Ripple

namespace Workspace
variable {w : Workspace} {changed : List Path} {p project root : Path} {i n : Nat}

/-- A file under its canonical path. -/
structure CanonicalFile (w : Workspace) (p : Path) : Prop where
  canonical : w.files.canonical? p = some p
  file : w.isFile p = true

/-- A marked folder below the top that is above all of the changes. -/
structure IsProjectOf (w : Workspace) (changed : List Path) (r : Path) : Prop where
  marked : w.hasMarker r = true
  below : r.isTop = false
  above : ∀ p ∈ changed, r.IsAbove p

namespace CanonicalFile

theorem not_isFolder (h : w.CanonicalFile p) : w.isFolder p = false := by
  obtain ⟨bytes, hbytes⟩ := FileTree.isFileAt_iff.mp h.file
  simp [isFolder, FileTree.isFolderAt, hbytes]

/-- The steps up from a file begin in its folder. -/
theorem upFrom_eq (h : w.CanonicalFile p) (n : Nat) : w.upFrom p n = Path.parent^[n + 1] p := by
  have hfolder : w.folderOf p = p.parent := if_neg (by simp [h.not_isFolder])
  rw [upFrom, hfolder, Function.iterate_succ_apply]

/-- What is above a file is so many steps up from it. -/
theorem exists_upFrom (h : w.CanonicalFile p) {q : Path} (hq : q.IsAbove p) : ∃ n, q = w.upFrom p n := by
  obtain ⟨n, hn⟩ := Path.eq_or_isAbove_iff.mp (.inr hq)
  cases n with
  | zero =>
    subst hn
    exact absurd hq.shorter (Nat.lt_irrefl _)
  | succ n => exact ⟨n, hn.trans (h.upFrom_eq n).symm⟩

/-- A marked folder is around a file only from above. -/
theorem isAround_iff_isAbove (h : w.CanonicalFile p) (hmarked : w.hasMarker root = true) :
    root.IsAround p ↔ root.IsAbove p := by
  refine ⟨fun haround => haround.resolve_left fun hsame => ?_, .inr⟩
  have hfolder : w.isFolder p = true := isFolder_of_hasMarker (hsame ▸ hmarked)
  rw [h.not_isFolder] at hfolder
  cases hfolder

end CanonicalFile

/-! ### The nearest mark of all -/

section Detected
variable (hfiles : ∀ p ∈ changed, w.CanonicalFile p)
include hfiles

theorem exists_nearestMarked (hsome : changed ≠ []) (hproject : w.IsProjectOf changed project) :
    ∃ i n root, w.NearestMarked changed i n root ∧ w.detectRoot changed = root := by
  rw [detectRoot_eq]
  obtain ⟨hfound, hnone⟩ := w.nearestMarked?_spec changed
  cases hbest : w.nearestMarked? changed with
  | some best =>
    obtain ⟨i, hi⟩ := hfound best.1 best.2 hbest
    exact ⟨i, best.1, best.2, hi, rfl⟩
  | none =>
    obtain ⟨p, hp⟩ := List.exists_mem_of_ne_nil changed hsome
    obtain ⟨n, rfl⟩ := (hfiles p hp).exists_upFrom (hproject.above p hp)
    have hmarked := hproject.marked
    rw [hnone hbest p hp n] at hmarked
    cases hmarked

/-- A project of all changes is around the nearest marked folder, which is reached from one of them. -/
theorem isAround_nearestMarked (hproject : w.IsProjectOf changed project)
    (hroot : w.NearestMarked changed i n root) : project.IsAround root := by
  obtain ⟨p, hp, rfl⟩ := hroot.reached
  have hfile := hfiles p (List.mem_of_getElem? hp)
  obtain ⟨m, rfl⟩ := hfile.exists_upFrom (hproject.above p (List.mem_of_getElem? hp))
  have hle : n ≤ m := by
    have hnearest := hroot.nearest i m p hp hproject.marked
    omega
  rw [hfile.upFrom_eq, hfile.upFrom_eq]
  exact Path.isAround_iterate p (by omega)

/-- The nearest marked folder is its own canonical path. -/
theorem resolve_nearestMarked (hroot : w.NearestMarked changed i n root) : w.resolve root = some root := by
  obtain ⟨p, hp, hup⟩ := hroot.reached
  have hfile := hfiles p (List.mem_of_getElem? hp)
  have haround : root.IsAround p := by
    rw [hup, hfile.upFrom_eq]
    exact Path.isAround_iterate p (Nat.zero_le _)
  obtain ⟨hanchor, hnames⟩ := Path.isAround_iff.mp haround
  exact resolve_of_prefix hfile.canonical hanchor hnames

theorem chooseRoot_of_nearestMarked (hroot : w.NearestMarked changed i n root)
    (hdetected : w.detectRoot changed = root) (hbelow : root.isTop = false) :
    w.chooseRoot none changed = some root := by
  show w.resolve (if (w.detectRoot changed).isTop = true then w.cwd else w.detectRoot changed) = some root
  rw [hdetected, if_neg (by simp [hbelow]), resolve_nearestMarked hfiles hroot]

theorem exists_changesIn_iff_above (hmarked : w.hasMarker root = true) (hown : w.resolve root = some root)
    (allowMissing : Bool) :
    (∃ m, w.changesIn root changed allowMissing = .ok m) ↔ ∀ p ∈ changed, root.IsAbove p := by
  simp only [changesIn_eq_ok_iff hown]
  rw [exists_changedModules_iff]
  refine forall₂_congr fun p hp => ?_
  rw [(hfiles p hp).isAround_iff_isAbove hmarked, isPresent_of_isFile (hfiles p hp).file]
  simp

/-- The first change that the root is not above ends the intake. -/
theorem changesIn_of_beside (hmarked : w.hasMarker root = true) (hown : w.resolve root = some root)
    (allowMissing : Bool) {before after : List Path} (hchanged : changed = before ++ p :: after)
    (hbefore : ∀ q ∈ before, root.IsAbove q) (hbeside : ¬root.IsAbove p) :
    w.changesIn root changed allowMissing = .error (.input (.outsideRoot root p)) := by
  have hp : p ∈ changed := by simp [hchanged]
  have hnone : before.findSome? (w.refusal? root allowMissing) = none := by
    refine List.findSome?_eq_none_iff.mpr fun q hq => refusal?_eq_none_iff.mpr ⟨.inr (hbefore q hq), .inr ?_⟩
    exact isPresent_of_isFile (hfiles q (by simp [hchanged, hq])).file
  have hrefused : w.refusal? root allowMissing p = some (.outsideRoot root p) := by
    have hout : p.relativeTo? root = none :=
      relativeTo?_eq_none_iff.mpr fun haround => hbeside (((hfiles p hp).isAround_iff_isAbove hmarked).mp haround)
    simp [refusal?, hout]
  rw [changesIn_eq_input_iff hown, changedModules_eq_error_iff, hchanged, List.findSome?_append, hnone,
    Option.none_or, List.findSome?_cons, hrefused]

end Detected

/-- **A detected root is around all changes unless a nested project is nearer.** If some project is above all changed
files, the root is the marked folder that the fewest steps lead to, at or below every such project and never the
top. The intake takes all changes exactly if it is above all of them, and else refuses the first that it is not
above; it is above all where no further mark below the project parts them. -/
theorem detected_root_covers_changes_unless_nested (hfiles : ∀ p ∈ changed, w.CanonicalFile p)
    (hsome : changed ≠ []) (hproject : w.IsProjectOf changed project) :
    ∃ root, w.chooseRoot none changed = some root ∧ (∃ i n, w.NearestMarked changed i n root) ∧
      root.isTop = false ∧ (∀ r, w.IsProjectOf changed r → r.IsAround root) ∧
      (∀ allowMissing,
        (∃ m, w.changesIn root changed allowMissing = .ok m) ↔ ∀ p ∈ changed, root.IsAbove p) ∧
      (∀ allowMissing before p after, changed = before ++ p :: after → (∀ q ∈ before, root.IsAbove q) →
        ¬root.IsAbove p → w.changesIn root changed allowMissing = .error (.input (.outsideRoot root p))) ∧
      ((∀ q, w.hasMarker q = true → project.IsAbove q → (∃ p ∈ changed, q.IsAbove p) →
        ∀ p ∈ changed, q.IsAbove p) → ∀ p ∈ changed, root.IsAbove p) := by
  obtain ⟨i, n, root, hroot, hdetected⟩ := exists_nearestMarked hfiles hsome hproject
  have haround : ∀ r, w.IsProjectOf changed r → r.IsAround root :=
    fun r hr => isAround_nearestMarked hfiles hr hroot
  have hbelow : root.isTop = false := by
    obtain ⟨_, hnames⟩ := Path.isAround_iff.mp (haround project hproject)
    have hproper := hproject.below
    simp only [Path.isTop, List.isEmpty_eq_false_iff] at hproper ⊢
    exact fun hnone => hproper (List.prefix_nil.mp (hnone ▸ hnames))
  have hown := resolve_nearestMarked hfiles hroot
  refine ⟨root, chooseRoot_of_nearestMarked hfiles hroot hdetected hbelow, ⟨i, n, hroot⟩, hbelow, haround,
    exists_changesIn_iff_above hfiles hroot.marked hown,
    fun allowMissing before p after => changesIn_of_beside hfiles hroot.marked hown allowMissing, ?_⟩
  intro hunparted
  rcases haround project hproject with rfl | habove
  · exact hproject.above
  · obtain ⟨p, hp, hup⟩ := hroot.reached
    have hfile := hfiles p (List.mem_of_getElem? hp)
    have haroundFile : root.IsAround p := by
      rw [hup, hfile.upFrom_eq]
      exact Path.isAround_iterate p (Nat.zero_le _)
    exact hunparted root hroot.marked habove
      ⟨p, List.mem_of_getElem? hp, (hfile.isAround_iff_isAbove hroot.marked).mp haroundFile⟩

/-- A nested project with a change further below it than the other change is below the outer one. -/
theorem detected_root_covers_change_in_nested_project :
    let w := ofProject [("pyproject.toml", .file []), ("a.py", .file []),
      ("sub", .folder [("pyproject.toml", .file []), ("deep", .folder [("b.py", .file [])])])]
    let root : Path := ⟨.root, ["project"]⟩
    let changed := [root.child "sub" |>.child "deep" |>.child "b.py", root.child "a.py"]
    (∀ p ∈ changed, w.CanonicalFile p) ∧ w.IsProjectOf changed root ∧ w.hasMarker (root.child "sub") = true ∧
      w.chooseRoot none changed = some root ∧ ∃ m, w.changesIn root changed false = .ok m := by
  intro w root changed
  have hfiles : ∀ p ∈ changed, w.CanonicalFile p :=
    List.forall_mem_cons.mpr ⟨⟨by cbv, by cbv⟩, List.forall_mem_singleton.mpr ⟨by cbv, by cbv⟩⟩
  have hproject : w.IsProjectOf changed root := ⟨by cbv, rfl, by decide⟩
  obtain ⟨r, hr, _, _, _, htaken, _⟩ :=
    detected_root_covers_changes_unless_nested hfiles (List.cons_ne_nil _ _) hproject
  have hchosen : w.chooseRoot none changed = some root := by cbv
  obtain rfl := Option.some.inj (hchosen.symm.trans hr)
  exact ⟨hfiles, hproject, by cbv, hchosen, (htaken false).mpr hproject.above⟩

/-- A nested project with a change right in it becomes the root, and the other change is refused. -/
theorem nested_project_hides_change :
    let w := ofProject [("pyproject.toml", .file []), ("a", .folder [("x.py", .file [])]),
      ("sub", .folder [("pyproject.toml", .file []), ("y.py", .file [])])]
    let outer : Path := ⟨.root, ["project"]⟩
    let nested := outer.child "sub"
    let changed := [outer.child "a" |>.child "x.py", nested.child "y.py"]
    (∀ p ∈ changed, w.CanonicalFile p ∧ isSourcePath p = true) ∧ w.IsProjectOf changed outer ∧
      w.chooseRoot none changed = some nested ∧ ¬nested.IsAbove (outer.child "a" |>.child "x.py") ∧
      w.changesIn nested changed false =
        .error (.input (.outsideRoot nested (outer.child "a" |>.child "x.py"))) := by
  intro w outer nested changed
  have hfiles : ∀ p ∈ changed, w.CanonicalFile p ∧ isSourcePath p = true :=
    List.forall_mem_cons.mpr ⟨⟨⟨by cbv, by cbv⟩, by decide⟩,
      List.forall_mem_singleton.mpr ⟨⟨by cbv, by cbv⟩, by decide⟩⟩
  exact ⟨hfiles, ⟨by cbv, rfl, by decide⟩, by cbv, by decide, by cbv⟩

end Workspace

end Ripple
