import Mathlib
import Ripple.Proofs.Graph.Order
import Ripple.Proofs.Project.Discovery
import Ripple.Proofs.Project.Scanning

/-! What the scan of a project consists of.

A scan speaks of its own module only: of unresolved imports if the module was parsed, and otherwise of one
parse error (`ModuleScan.Reports`). Put together, the diagnostics stand module by module
(`logOf_eq_flatMap`), and there are as many parse errors as modules that were not parsed
(`length_unparsed_assemble`). This and the graph of the imports is what a scan gives
(`scan_builds_graph_of_imports`). -/
namespace Ripple

/-- The diagnostics of one file. -/
def DiagnosticLog.ofFile (log : DiagnosticLog) (file : String) : DiagnosticLog :=
  log.filter (·.file == some file)

/-! ### Logs of scans -/

/-- What a scan says is about its module, and it says one thing of a module that was not parsed. -/
structure ModuleScan.Reports (s : ModuleScan) : Prop where
  file : ∀ d ∈ s.diagnostics, d.file = some s.id
  parsed : s.parsed = true → ∀ d ∈ s.diagnostics, d.kind = .unresolvedImport
  failed : s.parsed = false → ∃ d, s.diagnostics = [d] ∧ d.kind = .parseError

theorem ofImports_reports (r : Resolver) (ignoreExternal : Bool) (id : ModuleId) (imports : List Import) :
    (ModuleScan.ofImports r ignoreExternal id imports).Reports := by
  have hall : ∀ d ∈ (ModuleScan.ofImports r ignoreExternal id imports).diagnostics,
      d.file = some id ∧ d.kind = .unresolvedImport := by
    intro d hd
    obtain ⟨i, _, hd⟩ := List.mem_flatMap.mp hd
    unfold ModuleScan.diagnosticsOf at hd
    split at hd
    · cases hd
    · rw [List.mem_singleton] at hd
      subst hd
      exact ⟨rfl, rfl⟩
  exact ⟨fun d hd => (hall d hd).1, fun _ d hd => (hall d hd).2, fun h => nomatch h⟩

theorem failed_reports (id : ModuleId) (reason : String) (line : Option Nat) :
    (ModuleScan.failed id (.parseError id reason line)).Reports where
  file d hd := by
    rw [List.mem_singleton.mp hd]
    rfl
  parsed h := nomatch h
  failed _ := ⟨_, rfl, rfl⟩

namespace ModuleScan

/-- The diagnostics of some scans, in their order. -/
def logOf (scans : List ModuleScan) : DiagnosticLog := scans.flatMap (·.diagnostics)

variable {scans : List ModuleScan}

theorem ofFile_diagnostics {s : ModuleScan} (h : s.Reports) (file : String) :
    DiagnosticLog.ofFile s.diagnostics file = if s.id = file then s.diagnostics else [] := by
  unfold DiagnosticLog.ofFile
  split
  · next hfile => exact List.filter_eq_self.mpr fun d hd => by simp [h.file d hd, hfile]
  · next hfile => exact List.filter_eq_nil_iff.mpr fun d hd => by simp [h.file d hd, hfile]

theorem ofFile_logOf_eq_nil (hreports : ∀ s ∈ scans, s.Reports) {file : String}
    (hfile : file ∉ scans.map (·.id)) : (logOf scans).ofFile file = [] := by
  refine List.filter_eq_nil_iff.mpr fun d hd => ?_
  obtain ⟨s, hs, hd⟩ := List.mem_flatMap.mp hd
  rw [(hreports s hs).file d hd, beq_iff_eq, Option.some.injEq]
  exact fun he => hfile (List.mem_map.mpr ⟨s, hs, he⟩)

/-- **What is said of a file is what the scan of its module says.** -/
theorem ofFile_logOf (hids : (scans.map (·.id)).Nodup) (hreports : ∀ s ∈ scans, s.Reports) {s : ModuleScan}
    (hs : s ∈ scans) : (logOf scans).ofFile s.id = s.diagnostics := by
  induction scans with
  | nil => cases hs
  | cons first rest ih =>
    rw [List.map_cons, List.nodup_cons] at hids
    have hsplit : (logOf (first :: rest)).ofFile s.id =
        DiagnosticLog.ofFile first.diagnostics s.id ++ (logOf rest).ofFile s.id := List.filter_append ..
    have hrest : ∀ s ∈ rest, s.Reports := fun s hs => hreports s (List.mem_cons_of_mem _ hs)
    rw [hsplit, ofFile_diagnostics (hreports first (List.mem_cons_self ..))]
    rcases List.mem_cons.mp hs with rfl | hs
    · rw [if_pos rfl, ofFile_logOf_eq_nil hrest hids.1, List.append_nil]
    · have hne : first.id ≠ s.id := fun he => hids.1 (List.mem_map.mpr ⟨s, hs, he.symm⟩)
      rw [if_neg hne, List.nil_append, ih hids.2 hrest hs]

/-- The diagnostics stand module by module. -/
theorem logOf_eq_flatMap (hids : (scans.map (·.id)).Nodup) (hreports : ∀ s ∈ scans, s.Reports) :
    logOf scans = (scans.map (·.id)).flatMap (logOf scans).ofFile := by
  rw [List.flatMap_map]
  exact congrArg List.flatten (List.map_congr_left fun s hs => (ofFile_logOf hids hreports hs).symm)

/-- A scan has a parse error exactly if its module was not parsed. -/
theorem length_parseErrors {s : ModuleScan} (h : s.Reports) :
    (DiagnosticLog.ofKind s.diagnostics .parseError).length = if s.parsed then 0 else 1 := by
  unfold DiagnosticLog.ofKind
  cases hparsed : s.parsed with
  | true =>
    rw [List.filter_eq_nil_iff.mpr fun d hd => by simp [h.parsed hparsed d hd]]
    rfl
  | false =>
    obtain ⟨d, hd, hkind⟩ := h.failed hparsed
    simp [hd, hkind]

theorem length_parseErrors_logOf (hreports : ∀ s ∈ scans, s.Reports) :
    ((logOf scans).ofKind .parseError).length = (scans.filter (!·.parsed)).length := by
  induction scans with
  | nil => rfl
  | cons s rest ih =>
    have hsplit : (logOf (s :: rest)).ofKind .parseError =
        DiagnosticLog.ofKind s.diagnostics .parseError ++ (logOf rest).ofKind .parseError :=
      List.filter_append ..
    rw [hsplit, List.length_append, length_parseErrors (hreports s (List.mem_cons_self ..)),
      ih fun s hs => hreports s (List.mem_cons_of_mem _ hs)]
    cases hparsed : s.parsed <;> simp [hparsed, Nat.add_comm]

end ModuleScan

/-- **There are as many parse errors as modules that were not parsed.** -/
theorem length_unparsed_assemble {scans : List ModuleScan} (hids : (scans.map (·.id)).Nodup)
    (hreports : ∀ s ∈ scans, s.Reports) :
    (assemble scans).unparsed.length = ((ModuleScan.logOf scans).ofKind .parseError).length := by
  rw [unparsed_assemble hids, List.length_map, ModuleScan.length_parseErrors_logOf hreports]

/-! ### Scans of projects -/

namespace Workspace
variable {w : Workspace} {root : Path} {o : ScanOptions}

theorem scanModule_reports (w : Workspace) (root : Path) (read : SourceReader) (r : Resolver)
    (ignoreExternal : Bool) (id : ModuleId) : (w.scanModule root read r ignoreExternal id).Reports := by
  rcases w.scanModule_cases root read r ignoreExternal id with ⟨_, _, _, hscan⟩ | ⟨_, _, hscan⟩
  · rw [hscan]
    exact failed_reports ..
  · rw [hscan]
    exact ofImports_reports ..

/-- What is left of a module that cannot be read or parsed. -/
theorem scanModule_of_importsOf?_eq_none {read : SourceReader} {r : Resolver} {ignoreExternal : Bool}
    {id : ModuleId} (h : w.importsOf? root read id = none) :
    ∃ d, (w.scanModule root read r ignoreExternal id).diagnostics = [d] ∧ d.kind = .parseError := by
  rcases w.scanModule_cases root read r ignoreExternal id with ⟨_, _, _, hscan⟩ | ⟨_, himports, _⟩
  · rw [hscan]
    exact ⟨_, rfl, rfl⟩
  · rw [h] at himports
    cases himports

/-- The scans of a project, in the order of its modules. -/
def scans (w : Workspace) (root : Path) (o : ScanOptions) : List ModuleScan :=
  (w.discover root o.excluded).map
    (w.scanModule root o.read (.ofModules (w.discover root o.excluded)) o.ignoreExternal)

theorem map_id_scans : (w.scans root o).map (·.id) = w.discover root o.excluded := by
  rw [scans, List.map_map]
  exact List.map_id'' (fun id => w.scanModule_id root o.read _ o.ignoreExternal id) _

theorem scans_report : ∀ s ∈ w.scans root o, s.Reports := by
  intro s hs
  obtain ⟨id, _, rfl⟩ := List.mem_map.mp hs
  exact w.scanModule_reports ..

/-- No edge leads out of the project. -/
theorem edges_scans : ∀ s ∈ w.scans root o, ∀ t ∈ s.edges, t ∈ (w.scans root o).map (·.id) := by
  intro s hs t ht
  obtain ⟨id, _, rfl⟩ := List.mem_map.mp hs
  obtain ⟨_, i, _, ht⟩ := ((w.scanModule_tells root o.read _ o.ignoreExternal id).edges t).mp ht
  rw [map_id_scans]
  exact Resolver.targets_subset ht

theorem mem_dependencies_scan (a b : ModuleId) :
    b ∈ (w.scan root o).graph.dependencies a ↔ a ≠ b ∧ w.Imports root o.excluded o.read a b :=
  (mem_dependencies_assemble (w.scans root o) a b).trans (mem_dependents_scan a b)

/-- **A scan builds the graph of the imports of a project**, whatever files there are and however they are
read, and says of each module what is wrong with it. -/
theorem scan_builds_graph_of_imports (w : Workspace) (root : Path) (o : ScanOptions)
    (hfiles : w.files.WellFormed) (hroot : w.isFolder root = true) :
    ∃ scan, w.scan? root o = .ok scan ∧
      let ids := w.discover root o.excluded
      ids.Pairwise (· < ·) ∧ scan.graph.modules = ids ∧
      (∀ a b, b ∈ scan.graph.dependencies a ↔ a ≠ b ∧ w.Imports root o.excluded o.read a b) ∧
      (∀ b, (scan.graph.dependents b).Pairwise (· < ·) ∧
        ∀ a, a ∈ scan.graph.dependents b ↔ b ∈ scan.graph.dependencies a) ∧
      (∀ a ∈ ids, w.importsOf? root o.read a = none →
        scan.graph.dependencies a = [] ∧ (∀ dotted, a ∉ scan.graph.danglingImporters dotted) ∧
          ∃ d, scan.diagnostics.ofFile a = [d] ∧ d.kind = .parseError) ∧
      scan.graph.stats.unparsed = (scan.diagnostics.ofKind .parseError).length ∧
      scan.diagnostics = ids.flatMap scan.diagnostics.ofFile := by
  have hascending := discover_ascending hfiles root o.excluded
  have hordered : ((w.scans root o).map (·.id)).Pairwise (· < ·) := by
    rw [map_id_scans]
    exact hascending
  have hnodup : ((w.scans root o).map (·.id)).Nodup := hordered.imp String.ne_of_lt
  refine ⟨w.scan root o, if_pos hroot, hascending, ?_, mem_dependencies_scan, fun b => ⟨?_, fun a => ?_⟩,
    fun a ha hnone => ⟨?_, fun dotted => ?_, ?_⟩, ?_, ?_⟩
  · exact (modules_assemble hnodup edges_scans).trans map_id_scans
  · exact dependents_assemble_ordered hordered b
  · exact (mem_dependencies_assemble (w.scans root o) a b).symm
  · refine List.eq_nil_iff_forall_not_mem.mpr fun b hb => ?_
    obtain ⟨_, _, imports, himports, _⟩ := (mem_dependencies_scan a b).mp hb
    rw [hnone] at himports
    cases himports
  · intro hdangling
    obtain ⟨_, i, hi, _⟩ := (w.scanned_scan root o).mem_danglingImporters.mp hdangling
    rw [hnone] at hi
    cases hi
  · obtain ⟨d, hd, hkind⟩ := scanModule_of_importsOf?_eq_none hnone
    have hlog := ModuleScan.ofFile_logOf hnodup scans_report (List.mem_map_of_mem ha)
    rw [w.scanModule_id] at hlog
    exact ⟨d, hlog.trans hd, hkind⟩
  · exact length_unparsed_assemble hnodup scans_report
  · exact (ModuleScan.logOf_eq_flatMap hnodup scans_report).trans (by rw [map_id_scans]; rfl)

/-- A module that cannot be parsed is imported by another: the edge to it is there, and none leads on. -/
theorem scan_builds_graph_around_unparsed_module :
    let w := ofProject [("a.py", .file []), ("b.py", .file [])]
    let top : Path := ⟨.root, ["project"]⟩
    let o : ScanOptions :=
      { excluded := []
        read := fun _ id => if id = "b.py" then .error ⟨.invalid, id, some 1⟩ else .ok [⟨"b", 0, [], id, 1⟩]
        ignoreExternal := false }
    w.files.WellFormed ∧ w.isFolder top = true ∧ w.importsOf? top o.read "b.py" = none ∧
      ∃ scan, w.scan? top o = .ok scan ∧ scan.graph.modules = ["a.py", "b.py"] ∧
        "b.py" ∈ scan.graph.dependencies "a.py" ∧ scan.graph.dependencies "b.py" = [] ∧
        ∃ d, scan.diagnostics.ofFile "b.py" = [d] ∧ d.kind = .parseError := by
  intro w top o
  have hfiles : w.files.WellFormed :=
    ofProject_wellFormed (.of_entries (by decide) (by
      simp only [List.forall_mem_cons, List.not_mem_nil, false_implies, implies_true, and_true]
      exact ⟨⟨by decide, .file []⟩, by decide, .file []⟩))
  have hroot : w.isFolder top = true := by cbv
  have hfound : w.discover top o.excluded = ["a.py", "b.py"] := by cbv
  have hnone : w.importsOf? top o.read "b.py" = none := by cbv
  have himports : w.Imports top o.excluded o.read "a.py" "b.py" := by
    unfold Imports
    rw [hfound]
    refine ⟨by decide, _, by cbv, _, List.mem_singleton_self _, ?_⟩
    rw [Resolver.ofModules, sortIds_ascending (by decide)]
    decide
  obtain ⟨scan, hscan, _, hmodules, hedges, _, hunparsed, _⟩ :=
    scan_builds_graph_of_imports w top o hfiles hroot
  obtain ⟨hnoEdges, _, hlog⟩ := hunparsed "b.py" (by rw [hfound]; decide) hnone
  exact ⟨hfiles, hroot, hnone, scan, hscan, hmodules.trans hfound, (hedges _ _).mpr ⟨by decide, himports⟩,
    hnoEdges, hlog⟩

end Workspace

end Ripple
