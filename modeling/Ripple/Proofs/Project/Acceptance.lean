import Mathlib
import Ripple.Proofs.Files.Canonical
import Ripple.Proofs.Path.Above
import Ripple.Proofs.Path.Lexical
import Ripple.Proofs.Project.Changes
import Ripple.Proofs.Project.Discovery

/-! Which changed paths are accepted.

A path is refused if its names do not start with those of the root, or if nothing is there and nothing may be
missing (`refusal?`); the first path that is refused ends the intake (`changedModules_eq_error_iff`). The names are
compared as they stand, with steps up among them, and a module is the rest of them: from the root it leads to the
path itself (`div_moduleAt`). So a module outside the root is accepted if some path starts with the canonical path of
the root and steps out of it again, and only then (`module_outside_root_accepted_iff`). A typed path has no step up
left (`normalize_absolutize`). -/
namespace Ripple

namespace Workspace
variable {w : Workspace} {root p : Path} {paths : List Path} {allowMissing : Bool} {id : ModuleId}

/-! ### Refusals -/

/-- Why a changed path is refused, if it is. -/
def refusal? (w : Workspace) (root : Path) (allowMissing : Bool) (p : Path) : Option InputError :=
  if (p.relativeTo? root).isNone then some (.outsideRoot root p)
  else if !w.isPresent p && !allowMissing then some (.absent p)
  else none

theorem relativeTo?_eq_none_iff : p.relativeTo? root = none ↔ ¬root.IsAround p := by
  have hstart : p.anchor = root.anchor ∧ root.names.isPrefixOf p.names = true ↔ root.IsAround p := by
    rw [Path.isAround_iff, List.isPrefixOf_iff_prefix, eq_comm]
  simp only [Path.relativeTo?, hstart, ite_eq_right_iff, reduceCtorEq, imp_false]

theorem refusal?_eq_none_iff :
    w.refusal? root allowMissing p = none ↔ root.IsAround p ∧ (allowMissing = true ∨ w.isPresent p = true) := by
  simp only [refusal?, Option.isNone_iff_eq_none, relativeTo?_eq_none_iff]
  by_cases hbelow : root.IsAround p
  · cases w.isPresent p <;> cases allowMissing <;> simp [hbelow]
  · simp [hbelow]

section Intake
variable (w : Workspace) (root : Path) (allowMissing : Bool)

/-- One step of the intake: a path that is refused ends it, and any other is taken. -/
theorem addChanged_eq (m : ChangedModules) (p : Path) :
    (∀ e, w.refusal? root allowMissing p = some e → w.addChanged root allowMissing m p = .error e) ∧
      (w.refusal? root allowMissing p = none → ∃ next, w.addChanged root allowMissing m p = .ok next) := by
  unfold refusal? addChanged
  cases p.relativeTo? root with
  | none => exact ⟨fun e he => congrArg Except.error (Option.some.inj he), fun h => by cases h⟩
  | some below =>
    simp only
    cases !w.isPresent p && !allowMissing with
    | true => exact ⟨fun e he => congrArg Except.error (Option.some.inj he), fun h => by cases h⟩
    | false => exact ⟨fun e he => (by cases he), fun _ => ⟨_, rfl⟩⟩

theorem foldlM_addChanged_eq (paths : List Path) (m : ChangedModules) :
    (∀ e, paths.findSome? (w.refusal? root allowMissing) = some e →
        paths.foldlM (w.addChanged root allowMissing) m = .error e) ∧
      (paths.findSome? (w.refusal? root allowMissing) = none →
        ∃ m', paths.foldlM (w.addChanged root allowMissing) m = .ok m') := by
  induction paths generalizing m with
  | nil => exact ⟨fun e he => (by cases he), fun _ => ⟨m, rfl⟩⟩
  | cons p rest ih =>
    obtain ⟨hrefused, htaken⟩ := addChanged_eq w root allowMissing m p
    rw [List.findSome?_cons, List.foldlM_cons]
    cases hp : w.refusal? root allowMissing p with
    | some e =>
      rw [hrefused e hp]
      exact ⟨fun e' he => congrArg Except.error (Option.some.inj he), fun h => by cases h⟩
    | none =>
      obtain ⟨next, hnext⟩ := htaken hp
      rw [hnext]
      exact ih next

end Intake

/-- **The first path that is refused ends the intake**, and nothing else does. -/
theorem changedModules_eq_error_iff {e : InputError} :
    w.changedModules root paths allowMissing = .error e ↔
      paths.findSome? (w.refusal? root allowMissing) = some e := by
  obtain ⟨herror, hok⟩ := foldlM_addChanged_eq w root allowMissing paths ⟨[], []⟩
  refine ⟨fun h => ?_, herror e⟩
  cases hfirst : paths.findSome? (w.refusal? root allowMissing) with
  | some e' => exact congrArg some (Except.error.inj ((herror e' hfirst).symm.trans h))
  | none =>
    obtain ⟨m, hm⟩ := hok hfirst
    cases hm.symm.trans h

theorem exists_changedModules_iff : (∃ m, w.changedModules root paths allowMissing = .ok m) ↔
    ∀ p ∈ paths, root.IsAround p ∧ (allowMissing = true ∨ w.isPresent p = true) := by
  have hall : (∀ p ∈ paths, root.IsAround p ∧ (allowMissing = true ∨ w.isPresent p = true)) ↔
      paths.findSome? (w.refusal? root allowMissing) = none := by
    rw [List.findSome?_eq_none_iff]
    exact forall₂_congr fun p _ => refusal?_eq_none_iff.symm
  rw [hall]
  constructor
  · rintro ⟨m, hm⟩
    cases hfirst : paths.findSome? (w.refusal? root allowMissing) with
    | none => rfl
    | some e => cases hm.symm.trans (changedModules_eq_error_iff.mpr hfirst)
  · exact (foldlM_addChanged_eq w root allowMissing paths ⟨[], []⟩).2

/-! ### Where modules lead -/

theorem exists_moduleAt_iff : (∃ id, moduleAt? root p = some id) ↔ root.IsAround p := by
  rw [← not_iff_not, ← relativeTo?_eq_none_iff, moduleAt?]
  cases p.relativeTo? root <;> simp

/-- A module leads from the root to the path that it was taken from. -/
theorem div_moduleAt (hproper : ∀ n ∈ p.names, Path.IsProper n) (h : moduleAt? root p = some id) :
    root / Path.parse id = p := by
  obtain ⟨below, hbelow, rfl⟩ := Option.map_eq_some_iff.mp h
  obtain ⟨hanchor, rest, hnames⟩ := Path.isAround_iff.mp (exists_moduleAt_iff.mp ⟨_, h⟩)
  have hrest : below = ⟨.relative, rest⟩ := by
    rw [Path.relativeTo?, if_pos ⟨hanchor.symm, by simp [← hnames]⟩] at hbelow
    rw [← Option.some.inj hbelow, ← hnames, List.drop_left]
  have hparse : Path.parse below.text = ⟨.relative, rest⟩ := by
    rw [hrest]
    by_cases hnone : rest = []
    · rw [hnone]
      decide
    · rw [Path.text_relative hnone, Path.parse_join fun n hn => hproper n (hnames ▸ List.mem_append_right _ hn)]
  rw [hparse]
  show (⟨root.anchor, root.names ++ rest⟩ : Path) = p
  rw [hanchor, hnames]

/-! ### Typed paths -/

/-- A typed path from the top on, with all its names as they were typed. -/
def anchored (w : Workspace) (raw : String) : Path := w.cwd / w.expandHome raw

theorem absolutize_eq (w : Workspace) (raw : String) :
    w.absolutize raw = (w.files.canonical? (w.anchored raw)).getD (w.anchored raw).normalize := rfl

section Typed
variable (hcwd : w.cwd.isAbsolute = true) (raw : String)
include hcwd

theorem isAbsolute_anchored : (w.anchored raw).isAbsolute = true := by
  show (Path.join w.cwd (w.expandHome raw)).isAbsolute = true
  unfold Path.join
  split
  · assumption
  · exact hcwd

theorem isAbsolute_absolutize : (w.absolutize raw).isAbsolute = true := by
  rw [absolutize_eq]
  cases hcanonical : w.files.canonical? (w.anchored raw) with
  | none => exact isAbsolute_anchored hcwd raw
  | some p => simp [Path.isAbsolute, (FileTree.direct_of_canonical hcanonical).1]

/-- A typed path has no step up left in it. -/
theorem normalize_absolutize : (w.absolutize raw).normalize = w.absolutize raw := by
  rw [absolutize_eq]
  cases hcanonical : w.files.canonical? (w.anchored raw) with
  | none => exact Path.normalize_normalize (isAbsolute_anchored hcwd raw)
  | some p => exact Path.normalize_of_down (FileTree.direct_of_canonical hcanonical).2.down

end Typed

/-! ### Modules outside the root -/

theorem exists_module_outside_iff (hproper : ∀ p ∈ paths, ∀ n ∈ p.names, Path.IsProper n) {m : ChangedModules}
    (hm : w.changedModules root paths allowMissing = .ok m) :
    (∃ id ∈ m.changed, ¬root.IsAround (root / Path.parse id).normalize) ↔
      ∃ p ∈ paths, ¬root.IsAround p.normalize := by
  have hmem : ∀ id, id ∈ m.changed ↔ ∃ p ∈ paths, moduleAt? root p = some id := by
    intro id
    rw [changed_changedModules hm, List.mem_eraseDups, List.mem_filterMap]
  constructor
  · rintro ⟨id, hid, hout⟩
    obtain ⟨p, hp, hat⟩ := (hmem id).mp hid
    rw [div_moduleAt (hproper p hp) hat] at hout
    exact ⟨p, hp, hout⟩
  · rintro ⟨p, hp, hout⟩
    obtain ⟨id, hat⟩ := exists_moduleAt_iff.mpr (exists_changedModules_iff.mp ⟨m, hm⟩ p hp).1
    refine ⟨id, (hmem id).mpr ⟨p, hp, hat⟩, ?_⟩
    rwa [div_moduleAt (hproper p hp) hat]

/-- **A module outside the root is accepted exactly if a path starts with the root and steps out of it again**, and no
other path is refused. The root is what its path resolves to, which may be written otherwise; only where its links go
round in a circle there is none. Paths are refused for an error: one whose names do not start with the root's, or
where nothing is and nothing may be missing. No typed path steps out of the root that it starts with. -/
theorem module_outside_root_accepted_iff (hproper : ∀ p ∈ paths, ∀ n ∈ p.names, Path.IsProper n) (root : Path)
    (allowMissing : Bool) :
    (w.isPresent root = true → ∃ top, w.resolve root = some top) ∧
    (w.resolve root = none → w.changesIn root paths allowMissing = .error .linkLoop) ∧
    ∀ top, w.resolve root = some top →
      ((∃ m, w.changesIn root paths allowMissing = .ok m ∧
          ∃ id ∈ m.changed, ¬top.IsAround (top / Path.parse id).normalize) ↔
        (∀ p ∈ paths, top.IsAround p ∧ (allowMissing = true ∨ w.isPresent p = true)) ∧
          ∃ p ∈ paths, ¬top.IsAround p.normalize) ∧
      ((∃ m, w.changesIn root paths allowMissing = .ok m) ∨
        ∃ e, w.changesIn root paths allowMissing = .error (.input e)) ∧
      ((∃ e, w.changesIn root paths allowMissing = .error (.input e)) ↔
        ∃ p ∈ paths, ¬top.IsAround p ∨ allowMissing = false ∧ w.isPresent p = false) ∧
      (w.cwd.isAbsolute = true → (∀ p ∈ paths, ∃ raw, p = w.absolutize raw) →
        ∀ m, w.changesIn root paths allowMissing = .ok m →
          ∀ id ∈ m.changed, top.IsAround (top / Path.parse id).normalize) := by
  refine ⟨fun hpresent => ?_, fun hloop => changesIn_of_loop hloop .., fun top htop => ?_⟩
  · obtain ⟨top, htop, _⟩ := exists_resolve_of_isPresent hpresent
    exact ⟨top, htop⟩
  simp only [changesIn_eq_ok_iff htop, changesIn_eq_input_iff htop]
  have hexcluded : (∃ e, w.changedModules top paths allowMissing = .error e) ↔
      ¬∃ m, w.changedModules top paths allowMissing = .ok m := by
    cases w.changedModules top paths allowMissing <;> simp
  refine ⟨?_, ?_, ?_, ?_⟩
  · constructor
    · rintro ⟨m, hm, hout⟩
      exact ⟨exists_changedModules_iff.mp ⟨m, hm⟩, (exists_module_outside_iff hproper hm).mp hout⟩
    · rintro ⟨haccepted, hout⟩
      obtain ⟨m, hm⟩ := exists_changedModules_iff.mpr haccepted
      exact ⟨m, hm, (exists_module_outside_iff hproper hm).mpr hout⟩
  · rw [hexcluded]
    exact Classical.em _
  · rw [hexcluded, exists_changedModules_iff]
    simp only [not_forall, not_and_or, not_or, Bool.not_eq_true, exists_prop]
  · intro hcwd htyped m hm id hid
    by_contra hout
    obtain ⟨p, hp, hleaves⟩ := (exists_module_outside_iff hproper hm).mp ⟨id, hid, hout⟩
    obtain ⟨raw, rfl⟩ := htyped p hp
    rw [normalize_absolutize hcwd] at hleaves
    exact hleaves (exists_changedModules_iff.mp ⟨m, hm⟩ _ hp).1

/-- The root is given by a link. Of two paths that step out of it one comes back, and the other, where nothing is any
more, does not; a path by the name of the link is refused. -/
theorem module_beside_root_accepted :
    let w := ofProject [("app", .folder [("a.py", .file [])]), ("link", .link "app")]
    let root : Path := ⟨.root, ["project", "link"]⟩
    let top : Path := ⟨.root, ["project", "app"]⟩
    let paths : List Path := [⟨.root, ["project", "app", "..", "app", "a.py"]⟩,
      ⟨.root, ["project", "app", "..", "gone.py"]⟩]
    (∀ p ∈ paths, ∀ n ∈ p.names, Path.IsProper n) ∧ w.resolve root = some top ∧
      (∃ m, w.changesIn root paths true = .ok m ∧
        ∃ id ∈ m.changed, ¬top.IsAround (top / Path.parse id).normalize) ∧
      (∃ e, w.changesIn root paths false = .error (.input e)) ∧
      ∃ e, w.changesIn root [⟨.root, ["project", "link", "a.py"]⟩] false = .error (.input e) := by
  intro w root top paths
  have htop : w.resolve root = some top := by cbv
  have hproper : ∀ p ∈ paths, ∀ n ∈ p.names, Path.IsProper n := by decide
  have hproperLink : ∀ p ∈ [(⟨.root, ["project", "link", "a.py"]⟩ : Path)], ∀ n ∈ p.names, Path.IsProper n := by decide
  obtain ⟨_, _, hmay⟩ := module_outside_root_accepted_iff (w := w) hproper root true
  obtain ⟨_, _, hmust⟩ := module_outside_root_accepted_iff (w := w) hproper root false
  obtain ⟨_, _, hlinked⟩ := module_outside_root_accepted_iff (w := w) hproperLink root false
  refine ⟨hproper, htop, (hmay top htop).1.mpr ⟨by decide, by decide⟩, (hmust top htop).2.2.1.mpr ?_,
    (hlinked top htop).2.2.1.mpr ⟨_, List.mem_singleton_self _, .inl (by decide)⟩⟩
  exact ⟨⟨.root, ["project", "app", "..", "gone.py"]⟩, by simp [paths], .inr ⟨rfl, by cbv⟩⟩

/-- A file beside the root is accepted by a name that starts with the root. -/
theorem step_out_of_root_is_accepted :
    let w := ofProject [("app", .folder []), ("x.py", .file [])]
    let root : Path := ⟨.root, ["project", "app"]⟩
    let p : Path := ⟨.root, ["project", "app", "..", "x.py"]⟩
    w.isFolder root = true ∧ w.resolve root = some root ∧ w.isFile p = true ∧
      w.changesIn root [p] false = .ok ⟨["../x.py"], []⟩ ∧
      ¬root.IsAround (root / Path.parse "../x.py").normalize :=
  ⟨by cbv, by cbv, by cbv, by cbv, by decide⟩

end Workspace

end Ripple
