import Mathlib
import Ripple.Proofs.Graph.Consistency
import Ripple.Proofs.Project.Building

/-! Editing one file.

While the modules of a project stay the same, each is scanned on its own, so an edit changes the scan of one
module at most (`SameBut`). Everything a graph is asked is put together from shares of the scans, and a question
in which the edited module has no share has the same answer (`SameBut.flatMap_eq`). Hence an edit is felt in
what its own module depends on, asks for and is told about, and nowhere else
(`edit_is_felt_in_its_module_alone`). -/
namespace Ripple

/-- Of each module but `f` the two scans say the same. -/
structure SameBut (f : ModuleId) (ids : List ModuleId) (scan scan' : ModuleId → ModuleScan) : Prop where
  id : ∀ m, (scan m).id = m
  id' : ∀ m, (scan' m).id = m
  same : ∀ m ∈ ids, m ≠ f → scan m = scan' m

theorem ModuleScan.eq_of_mem_targetFrom {s : ModuleScan} {a b : ModuleId}
    (h : b ∈ s.edits.flatMap (GraphEdit.targetFrom a)) : a = s.id := by
  obtain ⟨e, he, hb⟩ := List.mem_flatMap.mp h
  rcases mem_edits he with ⟨t, ht, rfl⟩ | ⟨t, _, rfl⟩
  · rw [GraphEdit.targetFrom] at hb
    split at hb
    · next hsource => exact hsource.2.symm
    · cases hb
  · cases hb

/-- What a module depends on comes from its scan. -/
theorem dependencies_assemble (scans : List ModuleScan) (a : ModuleId) :
    (assemble scans).dependencies a =
      (scans.flatMap fun s => s.edits.flatMap (GraphEdit.targetFrom a)).foldl addNew [] := by
  have hnodes : (scans.flatMap fun s => GraphEdit.targetFrom a (.node s.id s.parsed)) = [] :=
    List.flatMap_eq_nil_iff.mpr fun _ _ => rfl
  rw [assemble_eq_ofEdits, Graph.ofEdits, Graph.foldl_apply_eq (V := (Graph.dependencies · a))
    (Graph.dependencies_apply a), flatMap_edits, hnodes, List.nil_append]
  rfl

namespace SameBut
variable {f : ModuleId} {ids : List ModuleId} {scan scan' : ModuleId → ModuleScan} (h : SameBut f ids scan scan')
include h

/-- **What `f` has no share in is the same.** -/
theorem flatMap_eq {β : Type} {share : ModuleScan → List β} (hf : share (scan f) = []) (hf' : share (scan' f) = []) :
    (ids.map scan).flatMap share = (ids.map scan').flatMap share := by
  rw [List.flatMap_map, List.flatMap_map]
  refine congrArg List.flatten (List.map_congr_left fun m hm => ?_)
  by_cases hmf : m = f
  · rw [hmf, hf, hf']
  · rw [h.same m hm hmf]

theorem map_id_eq : (ids.map scan).map (·.id) = (ids.map scan').map (·.id) := by
  simp only [List.map_map]
  exact List.map_congr_left fun m _ => (h.id m).trans (h.id' m).symm

theorem modules_eq (hedges : ∀ s ∈ ids.map scan, ∀ t ∈ s.edges, t ∈ (ids.map scan).map (·.id))
    (hedges' : ∀ s ∈ ids.map scan', ∀ t ∈ s.edges, t ∈ (ids.map scan').map (·.id)) :
    (assemble (ids.map scan)).modules = (assemble (ids.map scan')).modules := by
  rw [modules_assemble_eq_foldl hedges, modules_assemble_eq_foldl hedges', h.map_id_eq]

theorem dependencies_eq {m : ModuleId} (hm : m ≠ f) :
    (assemble (ids.map scan)).dependencies m = (assemble (ids.map scan')).dependencies m := by
  have hnone : ∀ {s : ModuleScan}, s.id = f → s.edits.flatMap (GraphEdit.targetFrom m) = [] := fun hs =>
    List.eq_nil_iff_forall_not_mem.mpr fun _ hb => hm ((ModuleScan.eq_of_mem_targetFrom hb).trans hs)
  rw [dependencies_assemble, dependencies_assemble, h.flatMap_eq (hnone (h.id f)) (hnone (h.id' f))]

theorem dependents_eq (b : ModuleId) :
    ((assemble (ids.map scan)).dependents b).filter (· ≠ f) =
      ((assemble (ids.map scan')).dependents b).filter (· ≠ f) := by
  have hnone : ∀ {s : ModuleScan}, s.id = f →
      (s.edits.flatMap (GraphEdit.sourceTo b)).filter (· ≠ f) = [] := fun hs =>
    List.filter_eq_nil_iff.mpr fun a ha => by simp [ModuleScan.eq_of_mem_sourceTo ha, hs]
  rw [dependents_assemble, dependents_assemble, filter_foldl_addNew, filter_foldl_addNew, List.filter_flatMap,
    List.filter_flatMap, h.flatMap_eq (hnone (h.id f)) (hnone (h.id' f))]

theorem danglingImporters_iff {a : ModuleId} (ha : a ≠ f) (dotted : String) :
    a ∈ (assemble (ids.map scan)).danglingImporters dotted ↔
      a ∈ (assemble (ids.map scan')).danglingImporters dotted := by
  have hasks : ∀ {scan : ModuleId → ModuleScan}, (∀ m, (scan m).id = m) →
      (a ∈ (assemble (ids.map scan)).danglingImporters dotted ↔
        a ∈ ids ∧ ∃ t ∈ (scan a).dangling, t ≠ "" ∧ Graph.liesBeneath dotted t = true) := by
    intro scan hid
    rw [mem_danglingImporters_assemble]
    constructor
    · intro hx
      obtain ⟨_, hs, rfl, hasked⟩ := hx
      obtain ⟨m, hm, rfl⟩ := List.mem_map.mp hs
      rw [hid]
      exact ⟨hm, hasked⟩
    · exact fun hx => ⟨_, List.mem_map_of_mem hx.1, hid a, hx.2⟩
  rw [hasks h.id, hasks h.id']
  exact and_congr_right fun hids => by rw [h.same a hids ha]

theorem logOf_eq (hreports : (scan f).Reports) (hreports' : (scan' f).Reports) :
    (ModuleScan.logOf (ids.map scan)).filter (·.file ≠ some f) =
      (ModuleScan.logOf (ids.map scan')).filter (·.file ≠ some f) := by
  have hnone : ∀ {s : ModuleScan}, s.Reports → s.id = f →
      s.diagnostics.filter (fun d => decide (d.file ≠ some f)) = [] := fun hs hid =>
    List.filter_eq_nil_iff.mpr fun d hd => by simp [hs.file d hd, hid]
  simp only [ModuleScan.logOf, List.filter_flatMap]
  exact h.flatMap_eq (hnone hreports (h.id f)) (hnone hreports' (h.id' f))

end SameBut

/-! ### Projects with one file edited -/

namespace Workspace

/-- Modules that read the same are scanned the same. -/
theorem sameBut_scanModule {w w' : Workspace} {root root' : Path} {f : ModuleId} {ids : List ModuleId}
    (read : SourceReader) (r : Resolver) (ignoreExternal : Bool)
    (hsame : ∀ m ∈ ids, m ≠ f → w.read (root / Path.parse m) = w'.read (root' / Path.parse m)) :
    SameBut f ids (w.scanModule root read r ignoreExternal) (w'.scanModule root' read r ignoreExternal) where
  id := w.scanModule_id root read r ignoreExternal
  id' := w'.scanModule_id root' read r ignoreExternal
  same m hm hmf := by
    have htext : w.sourceText (root / Path.parse m) = w'.sourceText (root' / Path.parse m) := by
      rw [sourceText, sourceText, hsame m hm hmf]
    rw [scanModule, scanModule, htext]

/-- **An edit of one file is felt in its own module alone**: every other module keeps what it depends on, its
place among who depends on a module, the names it asks for in vain, and what is said of it. -/
theorem edit_is_felt_in_its_module_alone (w w' : Workspace) (root root' : Path) (o : ScanOptions) (f : ModuleId)
    (hroot : w.isFolder root = true) (hroot' : w'.isFolder root' = true)
    (hids : w.discover root o.excluded = w'.discover root' o.excluded)
    (hsame : ∀ m ∈ w.discover root o.excluded, m ≠ f →
      w.read (root / Path.parse m) = w'.read (root' / Path.parse m)) :
    ∃ scan scan', w.scan? root o = .ok scan ∧ w'.scan? root' o = .ok scan' ∧
      scan.graph.modules = scan'.graph.modules ∧
      (∀ m, m ≠ f → scan.graph.dependencies m = scan'.graph.dependencies m) ∧
      (∀ x, (scan.graph.dependents x).filter (· ≠ f) = (scan'.graph.dependents x).filter (· ≠ f)) ∧
      (∀ dotted a, a ≠ f → (a ∈ scan.graph.danglingImporters dotted ↔ a ∈ scan'.graph.danglingImporters dotted)) ∧
      scan.diagnostics.filter (·.file ≠ some f) = scan'.diagnostics.filter (·.file ≠ some f) := by
  have h := sameBut_scanModule o.read (.ofModules (w.discover root o.excluded)) o.ignoreExternal hsame
  have hscans : w'.scans root' o = (w.discover root o.excluded).map
      (w'.scanModule root' o.read (.ofModules (w.discover root o.excluded)) o.ignoreExternal) := by
    rw [scans, hids]
  refine ⟨w.scan root o, w'.scan root' o, if_pos hroot, if_pos hroot', ?_⟩
  have hgraph : (w'.scan root' o).graph = assemble (w'.scans root' o) := rfl
  have hlog : (w'.scan root' o).diagnostics = ModuleScan.logOf (w'.scans root' o) := rfl
  rw [hgraph, hlog, hscans]
  refine ⟨h.modules_eq edges_scans ?_, fun m hm => h.dependencies_eq hm, h.dependents_eq,
    fun dotted a ha => h.danglingImporters_iff ha dotted, h.logOf_eq (scanModule_reports ..) (scanModule_reports ..)⟩
  rw [← hscans]
  exact edges_scans

/-- Two modules import each other until an edit spoils one: the other keeps its dependencies and its silence. -/
theorem spoiling_one_of_two_leaves_the_other :
    let w := ofProject [("a.py", .file []), ("b.py", .file [])]
    let w' := ofProject [("a.py", .file []), ("b.py", .file [33])]
    let top : Path := ⟨.root, ["project"]⟩
    let o : ScanOptions :=
      { excluded := []
        read := fun source id =>
          if source = [] then .ok [⟨if id = "a.py" then "b" else "a", 0, [], id, 1⟩]
          else .error ⟨.invalid, id, some 1⟩
        ignoreExternal := false }
    w.isFolder top = true ∧ w'.isFolder top = true ∧
      w.discover top o.excluded = w'.discover top o.excluded ∧
      (∀ m ∈ w.discover top o.excluded, m ≠ "b.py" →
        w.read (top / Path.parse m) = w'.read (top / Path.parse m)) ∧
      (w.importsOf? top o.read "b.py").isSome = true ∧ w'.importsOf? top o.read "b.py" = none ∧
      ∃ scan scan', w.scan? top o = .ok scan ∧ w'.scan? top o = .ok scan' ∧
        scan.graph.dependencies "a.py" = scan'.graph.dependencies "a.py" ∧
        scan.diagnostics.filter (·.file ≠ some "b.py") = scan'.diagnostics.filter (·.file ≠ some "b.py") := by
  intro w w' top o
  have hroot : w.isFolder top = true := by cbv
  have hroot' : w'.isFolder top = true := by cbv
  have hfound : w.discover top o.excluded = ["a.py", "b.py"] := by cbv
  have hids : w.discover top o.excluded = w'.discover top o.excluded := by
    rw [hfound]
    cbv
  have hsame : ∀ m ∈ w.discover top o.excluded, m ≠ "b.py" →
      w.read (top / Path.parse m) = w'.read (top / Path.parse m) := by
    intro m hm hne
    rw [hfound] at hm
    obtain rfl : m = "a.py" := by simpa [hne] using hm
    cbv
  obtain ⟨scan, scan', hscan, hscan', _, hdependencies, _, _, hlog⟩ :=
    edit_is_felt_in_its_module_alone w w' top top o "b.py" hroot hroot' hids hsame
  exact ⟨hroot, hroot', hids, hsame, by cbv, by cbv, scan, scan', hscan, hscan',
    hdependencies "a.py" (by decide), hlog⟩

end Workspace

end Ripple
