import Mathlib
import Ripple.Proofs.Files.Skeleton
import Ripple.Proofs.Project.Acceptance

/-! Which changed files keep their path when they are deleted.

Once a file is deleted nothing is under its path (`isPresent_delete_self`), so whoever types its path again gets the
normal form of what was typed, where a link counts as any other name (`absolutize_delete`). That is the path it had
unless a link was on the way. A file that keeps its path keeps its module and is refused for the same roots
(`deleted_file_keeps_identity_unless_linked`): no root is another folder once a file is gone (`resolve_delete`). -/
namespace Ripple

namespace Workspace
variable {w : Workspace} {root p : Path} {name raw : String} {allowMissing : Bool}

/-! ### What a deletion takes away -/

section Entry
variable (habsolute : p.isAbsolute = true)
include habsolute

theorem div_child_of_absolute (name : String) : w.cwd / p.child name = p.child name :=
  Path.div_of_absolute (q := p.child name) habsolute w.cwd

theorem entryPlace_child (name : String) :
    w.entryPlace (p.child name) = (w.files.land p).names ++ [name] := by
  have hparent : (p.child name).parent = p := Path.parent_concat ..
  rw [entryPlace, div_child_of_absolute habsolute, place, hparent, Path.div_of_absolute habsolute]
  simp [Path.child]

variable (hname : name ≠ "..") (h : w.isPresent (p.child name) = true)
include hname h

theorem exists_stored_entryPlace : ∃ found, w.files.stored? (w.entryPlace (p.child name)) = some found := by
  rw [isPresent, div_child_of_absolute habsolute] at h
  obtain ⟨mid, found, hmid, hfound⟩ := FileTree.exists_stored_child hname h
  rw [entryPlace_child habsolute, FileTree.land_of_locate hmid]
  exact ⟨found, hfound⟩

/-- What still has a canonical path after a deletion has kept it. -/
theorem canonical?_of_delete {q r : Path} (hq : (w.delete (p.child name)).files.canonical? q = some r) :
    w.files.canonical? q = some r := by
  obtain ⟨found, hfound⟩ := exists_stored_entryPlace habsolute hname h
  exact FileTree.canonical?_of_remove (by simp [entryPlace_child habsolute]) hfound hq

/-- Nothing is left where something was deleted. -/
theorem stored?_delete_self :
    (w.delete (p.child name)).files.stored? ((w.files.land p).names ++ [name]) = none := by
  obtain ⟨found, hfound⟩ := exists_stored_entryPlace habsolute hname h
  rw [← entryPlace_child habsolute]
  exact FileTree.stored?_remove_self (by simp [entryPlace_child habsolute]) hfound

theorem isPresent_delete_self : (w.delete (p.child name)).isPresent (p.child name) = false := by
  rw [← Bool.not_eq_true]
  intro hleft
  have hsame : (w.delete (p.child name)).cwd / p.child name = p.child name := div_child_of_absolute habsolute name
  rw [isPresent, hsame] at hleft
  obtain ⟨mid, left, hmid, hstored⟩ := FileTree.exists_stored_child hname hleft
  -- the folder of the path is still where it was
  have hkept := canonical?_of_delete habsolute hname h (FileTree.canonical?_of_locate hmid)
  obtain ⟨_, _, hplace⟩ := FileTree.canonical?_eq_some_iff.mp hkept
  have hnone := stored?_delete_self habsolute hname h
  rw [← (Path.mk.inj hplace).2] at hnone
  cases hstored.symm.trans hnone

end Entry

/-! ### Typed again -/

section Deleted
variable (hcwd : w.cwd.isAbsolute = true) (hfiles : w.files.isFolder = true)
  (hfile : w.isFile (w.absolutize raw) = true)
include hcwd hfiles hfile

/-- The path of a file has a last name, which leads down. -/
theorem exists_child_eq_absolutize :
    ∃ (p : Path) (name : String), p.isAbsolute = true ∧ name ≠ ".." ∧ w.absolutize raw = p.child name := by
  have habsolute := isAbsolute_absolutize hcwd raw
  obtain ⟨bytes, hbytes⟩ := FileTree.isFileAt_iff.mp hfile
  rw [Path.div_of_absolute habsolute] at hbytes
  rcases List.eq_nil_or_concat (w.absolutize raw).names with hnone | ⟨front, name, hnames⟩
  · -- at the top there is a folder
    obtain ⟨place, hplace, hstored⟩ := FileTree.find_eq_ok_iff.mp hbytes
    rw [FileTree.locate, hnone, FileTree.walk] at hplace
    obtain rfl := Except.ok.inj hplace
    rw [Option.some.inj hstored] at hfiles
    cases hfiles
  · refine ⟨⟨(w.absolutize raw).anchor, front⟩, name, habsolute, ?_, ?_⟩
    · have hdown := Path.down_normalize habsolute
      rw [normalize_absolutize hcwd, hnames] at hdown
      exact hdown name (by simp)
    · rw [Path.child, ← List.concat_eq_append, ← hnames]

/-- **A deleted file is known by the normal form of its typed path.** -/
theorem absolutize_delete : (w.delete (w.absolutize raw)).absolutize raw = (w.anchored raw).normalize := by
  have hpresent := isPresent_of_isFile hfile
  obtain ⟨p, name, habsolute, hname, hp⟩ := exists_child_eq_absolutize hcwd hfiles hfile
  rw [hp] at hpresent ⊢
  have hagain : (w.delete (p.child name)).absolutize raw =
      ((w.delete (p.child name)).files.canonical? (w.anchored raw)).getD (w.anchored raw).normalize := rfl
  rw [hagain]
  cases hcanonical : (w.delete (p.child name)).files.canonical? (w.anchored raw) with
  | none => rfl
  | some q =>
    -- it would be the path as before, with the file still under it
    have hbefore := canonical?_of_delete habsolute hname hpresent hcanonical
    have hq : p.child name = q := by
      rw [← hp, absolutize_eq, hbefore, Option.getD_some]
    obtain ⟨found, hfound⟩ := (FileTree.direct_of_canonical hcanonical).2.stored
    have hdirect : w.files.Direct (p.names ++ [name]) := by
      have hnames := (FileTree.direct_of_canonical hbefore).2
      rwa [← hq] at hnames
    have hlocate : w.files.locate p = .ok p.names := FileTree.walk_of_direct _ hdirect.above.1
    have hnone := stored?_delete_self habsolute hname hpresent
    rw [FileTree.land_of_locate hlocate] at hnone
    rw [← hq] at hfound
    cases hfound.symm.trans hnone

/-- **Without a link on the way a deleted file keeps its path.** -/
theorem absolutize_delete_of_linkless (hanchor : (w.anchored raw).anchor = .root)
    (hlinkless : w.files.Linkless (w.anchored raw)) :
    (w.delete (w.absolutize raw)).absolutize raw = w.absolutize raw := by
  rw [absolutize_delete hcwd hfiles hfile, absolutize_eq]
  cases hcanonical : w.files.canonical? (w.anchored raw) with
  | none => rfl
  | some q => exact (FileTree.canonical?_of_linkless hanchor hlinkless hcanonical).symm

end Deleted

/-! ### Taken again -/

/-- A path that leads to a file has the file in its place, unless it has a link there. -/
theorem exists_file_entryPlace (habsolute : p.isAbsolute = true) (hname : name ≠ "..")
    (hfile : w.isFile (p.child name) = true)
    (hsolid : ∀ target, w.files.stored? (w.entryPlace (p.child name)) ≠ some (.link target)) :
    ∃ bytes, w.files.stored? (w.entryPlace (p.child name)) = some (.file bytes) := by
  obtain ⟨bytes, hbytes⟩ := FileTree.isFileAt_iff.mp hfile
  rw [div_child_of_absolute habsolute] at hbytes
  obtain ⟨mid, hmid, hstored⟩ := FileTree.stored_child_of_find hname hbytes
  rw [entryPlace_child habsolute, FileTree.land_of_locate hmid] at hsolid ⊢
  obtain hstored | ⟨target, hlink⟩ := hstored
  · exact ⟨bytes, hstored⟩
  · exact absurd hlink (hsolid target)

/-- **No path leads another way once a file is deleted**, whether or not something is missing on it. -/
theorem resolve_delete (habsolute : p.isAbsolute = true) (hname : name ≠ "..")
    (hfile : w.isFile (p.child name) = true)
    (hsolid : ∀ target, w.files.stored? (w.entryPlace (p.child name)) ≠ some (.link target)) (root : Path) :
    (w.delete (p.child name)).resolve root = w.resolve root := by
  obtain ⟨bytes, hbytes⟩ := exists_file_entryPlace habsolute hname hfile hsolid
  have hsame : (w.delete (p.child name)).files.SameSkeleton w.files :=
    .remove (by simp [entryPlace_child habsolute]) hbytes
  exact FileTree.resolve_of_sameSkeleton hsame _

/-- Where a file was and is no more, its path is refused as before, and the module is the same but missing. -/
theorem changedModules_of_absent {gone : Workspace} (hpresent : w.isPresent p = true)
    (habsent : gone.isPresent p = false) (root : Path) (allowMissing : Bool) :
    gone.changedModules root [p] true =
      (w.changedModules root [p] allowMissing).map fun m => ⟨m.changed, m.changed⟩ := by
  simp only [changedModules, List.foldlM_cons, List.foldlM_nil, addChanged, hpresent, habsent]
  cases p.relativeTo? root <;> rfl

theorem changesIn_of_absent {gone : Workspace} (hpresent : w.isPresent p = true)
    (habsent : gone.isPresent p = false) {root : Path} (hroot : gone.resolve root = w.resolve root)
    (allowMissing : Bool) :
    gone.changesIn root [p] true = (w.changesIn root [p] allowMissing).map fun m => ⟨m.changed, m.changed⟩ := by
  rw [changesIn, changesIn, hroot]
  cases w.resolve root with
  | none => rfl
  | some top =>
    simp only [changedModules_of_absent hpresent habsent top allowMissing]
    cases w.changedModules top [p] allowMissing <;> rfl

/-- **A deleted file is known by the normal form of its typed path**, which is the path it had unless a link was on the
way. If it is, the module is the one it was, and the same roots refuse it. Every root resolves as before, unless what
was deleted was a link to the file. -/
theorem deleted_file_keeps_identity_unless_linked (hcwd : w.cwd.isAbsolute = true)
    (hfiles : w.files.isFolder = true) (hfile : w.isFile (w.absolutize raw) = true) :
    let gone := w.delete (w.absolutize raw)
    gone.isPresent (w.absolutize raw) = false ∧
      gone.absolutize raw = (w.anchored raw).normalize ∧
      ((w.anchored raw).anchor = .root → w.files.Linkless (w.anchored raw) →
        gone.absolutize raw = w.absolutize raw) ∧
      (gone.absolutize raw = w.absolutize raw → ∀ root allowMissing, gone.resolve root = w.resolve root →
        gone.changesIn root [gone.absolutize raw] true =
          (w.changesIn root [w.absolutize raw] allowMissing).map fun m => ⟨m.changed, m.changed⟩) ∧
      ((∀ target, w.files.stored? (w.entryPlace (w.absolutize raw)) ≠ some (.link target)) →
        ∀ root, gone.resolve root = w.resolve root) := by
  intro gone
  have hpresent := isPresent_of_isFile hfile
  obtain ⟨p, name, habsolute, hname, hp⟩ := exists_child_eq_absolutize hcwd hfiles hfile
  have hgone : gone = w.delete (p.child name) := by rw [← hp]
  have habsent : gone.isPresent (w.absolutize raw) = false := by
    rw [hgone, hp]
    exact isPresent_delete_self habsolute hname (hp ▸ hpresent)
  refine ⟨habsent, absolutize_delete hcwd hfiles hfile, absolutize_delete_of_linkless hcwd hfiles hfile, ?_, ?_⟩
  · intro hkept root allowMissing hroot
    rw [hkept]
    exact changesIn_of_absent hpresent habsent hroot allowMissing
  · intro hsolid root
    rw [hgone]
    exact resolve_delete habsolute hname (hp ▸ hfile) (hp ▸ hsolid) root

/-- A file beside a link, in the home folder of somebody, is known as before in spite of the step up in its typed
path; the link is the root. -/
theorem deleted_file_beside_link_keeps_identity :
    let w := { ofProject [("pkg", .folder [("a.py", .file [])]), ("link", .link "pkg")] with
      home := ⟨some "/", fun user => if user = "ann" then some "/project/" else none⟩ }
    let raw := "~ann/pkg/../pkg/a.py"
    let root : Path := ⟨.root, ["project", "link"]⟩
    let gone := w.delete (w.absolutize raw)
    w.isFile (w.absolutize raw) = true ∧ gone.absolutize raw = w.absolutize raw ∧
      gone.changesIn root [gone.absolutize raw] true = .ok ⟨["a.py"], ["a.py"]⟩ := by
  intro w raw root gone
  have hfile : w.isFile (w.absolutize raw) = true := by cbv
  have hstored : w.files.stored? (w.entryPlace (w.absolutize raw)) = some (.file []) := by cbv
  obtain ⟨_, _, hkept, hsame, hroots⟩ := deleted_file_keeps_identity_unless_linked (by decide) (by decide) hfile
  have hsamePath := hkept (by decide) (by decide)
  have hroot : gone.resolve root = w.resolve root := hroots (fun target => by rw [hstored]; simp) root
  have htaken : w.changesIn root [w.absolutize raw] false = .ok ⟨["a.py"], []⟩ := by cbv
  refine ⟨hfile, hsamePath, (hsame hsamePath root false hroot).trans ?_⟩
  rw [htaken]
  rfl

/-- A file behind a link is another one once it is deleted, and outside the root that it was in. -/
theorem deleted_file_behind_link_leaves_root :
    let w := ofProject [("real", .folder [("x.py", .file [])]), ("link", .link "real")]
    let root : Path := ⟨.root, ["project", "real"]⟩
    let gone := w.delete (root.child "x.py")
    w.absolutize "link/x.py" = root.child "x.py" ∧ w.isFile (root.child "x.py") = true ∧
      w.files.stored? (w.entryPlace (w.anchored "link/x.py")) = some (.file []) ∧
      gone.absolutize "link/x.py" = ⟨.root, ["project", "link", "x.py"]⟩ ∧
      w.changesIn root [w.absolutize "link/x.py"] true = .ok ⟨["x.py"], []⟩ ∧
      gone.changesIn root [gone.absolutize "link/x.py"] true =
        .error (.input (.outsideRoot root ⟨.root, ["project", "link", "x.py"]⟩)) := by
  intro w root gone
  exact ⟨by cbv, by cbv, by cbv, by cbv, by cbv, by cbv⟩

end Workspace

end Ripple
