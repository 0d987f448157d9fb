import Ripple.Changes
import Ripple.Proofs.Except
import Ripple.Proofs.Files.Lookup
import Ripple.Proofs.OrderedMap

/-! Which modules have changed.

Changed paths are taken one by one, and each that lies below the root adds its module
(`addChanged_ok`), so in the end exactly the modules of all paths have changed
(`changedModules_ok`), in the order of the paths (`changed_changedModules`). The root is taken for its canonical path
first (`changesIn_eq_ok_iff`, `changesIn_eq_input_iff`). -/
namespace Ripple.Workspace

/-- The module that a path stands for, if it lies below `root`. -/
def moduleAt? (root p : Path) : Option ModuleId := (p.relativeTo? root).map Path.text

theorem addChanged_ok {w : Workspace} {root p : Path} {allowMissing : Bool} {id : ModuleId}
    (hp : moduleAt? root p = some id) (ha : allowMissing = true ∨ w.isPresent p = true)
    (m : ChangedModules) :
    ∃ missing, w.addChanged root allowMissing m p = .ok ⟨addNew m.changed id, missing⟩ := by
  obtain ⟨below, hbelow, rfl⟩ := Option.map_eq_some_iff.mp hp
  have hpresent : (!w.isPresent p && !allowMissing) = false := by
    rcases ha with ha | ha <;> simp [ha]
  simp only [addChanged, hbelow, hpresent]
  exact ⟨_, rfl⟩

theorem foldlM_addChanged_ok {w : Workspace} {root : Path} {allowMissing : Bool} {paths : List Path}
    (hp : ∀ p ∈ paths, ∃ id, moduleAt? root p = some id)
    (ha : allowMissing = true ∨ ∀ p ∈ paths, w.isPresent p = true) (m : ChangedModules) :
    ∃ m', paths.foldlM (w.addChanged root allowMissing) m = .ok m' ∧
      ∀ id, id ∈ m'.changed ↔ id ∈ m.changed ∨ ∃ p ∈ paths, moduleAt? root p = some id := by
  induction paths generalizing m with
  | nil => exact ⟨m, rfl, by simp⟩
  | cons p rest ih =>
    obtain ⟨id, hid⟩ := hp p (List.mem_cons_self ..)
    obtain ⟨missing, hadd⟩ := addChanged_ok hid (ha.imp_right fun h => h p (List.mem_cons_self ..)) m
    obtain ⟨m', hm', hmem⟩ := ih (fun q hq => hp q (List.mem_cons_of_mem _ hq))
      (ha.imp_right fun h q hq => h q (List.mem_cons_of_mem _ hq)) ⟨addNew m.changed id, missing⟩
    refine ⟨m', ?_, fun x => ?_⟩
    · rw [List.foldlM_cons, hadd]
      exact hm'
    · simp only [hmem, mem_addNew, List.mem_cons, exists_eq_or_imp, hid, Option.some.injEq, or_assoc]
      rw [eq_comm (a := x)]

/-- Paths below the root that are there, or may be missing, are the modules that have changed. -/
theorem changedModules_ok {w : Workspace} {root : Path} {allowMissing : Bool} {paths : List Path}
    (hp : ∀ p ∈ paths, ∃ id, moduleAt? root p = some id)
    (ha : allowMissing = true ∨ ∀ p ∈ paths, w.isPresent p = true) :
    ∃ m, w.changedModules root paths allowMissing = .ok m ∧
      ∀ id, id ∈ m.changed ↔ ∃ p ∈ paths, moduleAt? root p = some id := by
  obtain ⟨m, hm, hmem⟩ := foldlM_addChanged_ok hp ha ⟨[], []⟩
  exact ⟨m, hm, by simpa using hmem⟩

theorem changed_addChanged {w : Workspace} {root p : Path} {allowMissing : Bool} {m m' : ChangedModules}
    (h : w.addChanged root allowMissing m p = .ok m') :
    ∃ id, moduleAt? root p = some id ∧ m'.changed = addNew m.changed id := by
  unfold addChanged at h
  split at h
  · cases h
  · next below hbelow =>
    simp only at h
    split at h
    · cases h
    · cases h
      exact ⟨below.text, by rw [moduleAt?, hbelow, Option.map_some], rfl⟩

theorem changed_foldlM_addChanged {w : Workspace} {root : Path} {allowMissing : Bool} {paths : List Path}
    {m m' : ChangedModules} (h : paths.foldlM (w.addChanged root allowMissing) m = .ok m') :
    m'.changed = (paths.filterMap (moduleAt? root)).foldl addNew m.changed := by
  induction paths generalizing m with
  | nil =>
    cases h
    rfl
  | cons p rest ih =>
    rw [List.foldlM_cons] at h
    cases hadd : w.addChanged root allowMissing m p with
    | error e =>
      rw [hadd] at h
      cases h
    | ok next =>
      rw [hadd] at h
      obtain ⟨id, hid, hnext⟩ := changed_addChanged hadd
      rw [ih h, hnext, List.filterMap_cons_some hid, List.foldl_cons]

/-- **The modules that have changed are those of the paths**, each once and in the order of the paths. -/
theorem changed_changedModules {w : Workspace} {root : Path} {allowMissing : Bool} {paths : List Path}
    {m : ChangedModules} (h : w.changedModules root paths allowMissing = .ok m) :
    m.changed = (paths.filterMap (moduleAt? root)).eraseDups := by
  rw [changed_foldlM_addChanged h, foldl_addNew_eq_eraseDups]

/-! ### The root resolved -/

section Resolved
variable {w : Workspace} {root top : Path} {allowMissing : Bool} {paths : List Path} {m : ChangedModules}

theorem changesIn_of_resolve (h : w.resolve root = some top) (paths : List Path) (allowMissing : Bool) :
    w.changesIn root paths allowMissing = (w.changedModules top paths allowMissing).mapError .input := by
  rw [changesIn, h]

theorem changesIn_eq_ok_iff (h : w.resolve root = some top) :
    w.changesIn root paths allowMissing = .ok m ↔ w.changedModules top paths allowMissing = .ok m := by
  rw [changesIn_of_resolve h, mapError_eq_ok_iff]

theorem changesIn_eq_input_iff (h : w.resolve root = some top) {e : InputError} :
    w.changesIn root paths allowMissing = .error (.input e) ↔
      w.changedModules top paths allowMissing = .error e := by
  rw [changesIn_of_resolve h]
  cases w.changedModules top paths allowMissing <;> simp [Except.mapError]

/-- What is there has a canonical path, which is its own one. -/
theorem exists_resolve_of_isPresent (h : w.isPresent root = true) :
    ∃ top, w.resolve root = some top ∧ w.resolve top = some top := by
  obtain ⟨place, hplace⟩ := FileTree.exists_locate_of_isPresent h
  refine ⟨⟨.root, place⟩, FileTree.resolve_of_locate hplace, ?_⟩
  rw [resolve, Path.div_of_absolute rfl, FileTree.resolve_place hplace]

/-- Whatever is above a canonical path is its own canonical path. -/
theorem resolve_of_prefix {p : Path} (h : w.files.canonical? p = some p) (hanchor : root.anchor = p.anchor)
    (hnames : root.names <+: p.names) : w.resolve root = some root := by
  obtain ⟨hroot, hdirect⟩ := FileTree.direct_of_canonical h
  obtain ⟨rest, hrest⟩ := hnames
  have hplace : root = ⟨.root, root.names⟩ := by rw [← hroot, ← hanchor]
  have hlocate : w.files.locate root = .ok root.names :=
    FileTree.walk_of_direct _ ((List.nil_append _).symm ▸ (hrest ▸ hdirect).of_append)
  have hjoin : w.cwd / root = root := Path.div_of_absolute (by rw [hplace]; rfl) w.cwd
  rw [resolve, hjoin, FileTree.resolve_of_locate hlocate, ← hplace]

theorem changesIn_of_loop (h : w.resolve root = none) (paths : List Path) (allowMissing : Bool) :
    w.changesIn root paths allowMissing = .error .linkLoop := by
  rw [changesIn, h]

end Resolved

theorem partitionSources_of_sources {paths : List Path} (h : ∀ p ∈ paths, isSourcePath p = true) :
    partitionSources paths = (paths, []) := by
  rw [partitionSources, List.partition_eq_filter_filter, List.filter_eq_self.mpr h,
    List.filter_eq_nil_iff.mpr fun p hp => by simp [h p hp]]

end Ripple.Workspace
