import Mathlib
import Ripple.Project.Analysis
import Ripple.Proofs.Config
import Ripple.Proofs.Except
import Ripple.Proofs.Impact.Union
import Ripple.Proofs.Project.Changes
import Ripple.Proofs.Selection

/-! An analysis, stage by stage.

The intake finds the root and the changed modules, and no setting has a say in it (`analyze_eq`). The scan, the
walk and the selection behind it fail for nothing but settings that nobody has looked at
(`analyzeModules_eq_ok_iff`), and what they tell of limits and caps is no warning. So two analyses that scan
alike warn of the same (`analyze_warns_alike`). -/
namespace Ripple

/-! ### Warnings -/

namespace DiagnosticLog

theorem warnings_append (log log' : DiagnosticLog) : (log ++ log').warnings = log.warnings ++ log'.warnings :=
  List.filter_append ..

theorem warnings_eq_nil {log : DiagnosticLog} (h : ∀ d ∈ log, d.isWarning = false) : log.warnings = [] :=
  List.filter_eq_nil_iff.mpr fun d hd => by simp [h d hd]

theorem warnings_warnings (log : DiagnosticLog) : log.warnings.warnings = log.warnings := by
  simp [warnings]

theorem hasWarnings_eq (log : DiagnosticLog) : log.hasWarnings = !log.warnings.isEmpty := by
  rw [Bool.eq_iff_iff]
  simp [hasWarnings, warnings]

end DiagnosticLog

/-- **Warnings are the parse errors, the unresolved imports and the changed files that are missing.** -/
theorem Diagnostic.isWarning_iff (d : Diagnostic) :
    d.isWarning = true ↔ d.kind = .parseError ∨ d.kind = .unresolvedImport ∨ d.kind = .missingChangedFile := by
  unfold isWarning severity
  cases d.kind <;> decide

theorem warnings_ignoredChange (dropped : List String) :
    DiagnosticLog.warnings (dropped.map ignoredChange) = [] := by
  refine DiagnosticLog.warnings_eq_nil fun d hd => ?_
  obtain ⟨_, _, rfl⟩ := List.mem_map.mp hd
  rfl

theorem warnings_truncation (i : Impact) (limit : Option Int) : (truncation i limit).warnings = [] := by
  refine DiagnosticLog.warnings_eq_nil fun d hd => ?_
  unfold truncation at hd
  split at hd
  · obtain ⟨n, _, rfl⟩ := Option.map_eq_some_iff.mp (Option.mem_toList.mp hd)
    rfl
  · cases hd

theorem warnings_cap (max : Option Nat) (tests : List SelectedTest) : (cap max tests).2.warnings = [] := by
  refine DiagnosticLog.warnings_eq_nil fun d hd => ?_
  unfold cap at hd
  split at hd
  · split at hd
    · rw [List.mem_singleton.mp hd]
      rfl
    · cases hd
  · cases hd

/-! ### From the changed modules on -/

namespace Workspace
variable (w : Workspace) (root : Path) (config : Config) (read : SourceReader) (changed : List ModuleId)
  (dropped : List String)

/-- The scan that an analysis makes. -/
def scanFor : ProjectScan := w.scan root ⟨config.excluded, read, config.ignoreExternal⟩

/-- How far the changes reach in the scanned project. -/
def impactFor : Impact :=
  let scan := w.scanFor root config read
  impactOf scan.graph (seedsOf scan.graph scan.resolver changed) config.distanceLimit

/-- The tests selected, in an order that there is, and what is told of the selection. -/
def selectionFor (order : Order) : Selection × DiagnosticLog :=
  selectTests (w.scanFor root config read).graph (w.impactFor root config read changed) changed
    (config.maxCount.map Int.toNat) order

/-- The changed modules that the scan does not know, as they are told. -/
def missingFor : DiagnosticLog :=
  let scan := w.scanFor root config read
  (notIndexed scan.graph changed).map (missingChange scan.resolver)

/-- What an analysis reports that nothing keeps from its end. -/
def reportFor (order : Order) : Report where
  root := root
  changed := changed
  dropped := dropped
  selection := (w.selectionFor root config read changed order).1
  diagnostics := dropped.map ignoredChange ++ (w.scanFor root config read).diagnostics
    ++ w.missingFor root config read changed
    ++ truncation (w.impactFor root config read changed) config.distanceLimit
    ++ (w.selectionFor root config read changed order).2
  stats := some ⟨(w.scanFor root config read).graph.stats, (w.impactFor root config read changed).size⟩

/-- **From the changed modules on, an analysis fails for nothing but its settings.** -/
theorem analyzeModules_eq_ok_iff {report : Report} :
    w.analyzeModules root config read changed dropped = .ok report ↔
      (∀ n ∈ config.distanceLimit, 0 ≤ n) ∧ (∀ n ∈ config.maxCount, 0 ≤ n) ∧
        ∃ order, Order.ofText? config.order = some order ∧
          report = w.reportFor root config read changed dropped order := by
  have hlast : ∀ {x y : Report}, (Except.ok x : Except AnalysisError Report) = .ok y ↔ y = x := by simp [eq_comm]
  simp only [analyzeModules, bind, pure, Except.pure, bind_eq_ok_iff, mapError_eq_ok_iff, impactOf?_eq_ok_iff,
    selectTests?_eq_ok_iff, hlast]
  constructor
  · intro h
    obtain ⟨_, ⟨hlimit, rfl⟩, _, ⟨hmax, order, horder, rfl⟩, rfl⟩ := h
    exact ⟨hlimit, hmax, order, horder, rfl⟩
  · intro h
    obtain ⟨hlimit, hmax, order, horder, rfl⟩ := h
    exact ⟨_, ⟨hlimit, rfl⟩, _, ⟨hmax, order, horder, rfl⟩, rfl⟩

theorem warnings_reportFor (order : Order) :
    (w.reportFor root config read changed dropped order).diagnostics.warnings =
      (w.scanFor root config read).diagnostics.warnings ++ (w.missingFor root config read changed).warnings := by
  simp only [reportFor, selectionFor, selectTests, DiagnosticLog.warnings_append, warnings_ignoredChange,
    warnings_truncation, warnings_cap, List.nil_append, List.append_nil]

end Workspace

/-! ### The intake -/

/-- What an analysis begins with. -/
structure Intake where
  root : Path
  changed : List ModuleId
  /-- Changed paths that are no sources. -/
  dropped : List String

/-- The report if no source has changed. -/
def Intake.skip (i : Intake) : Report := ⟨i.root, [], i.dropped, .empty, i.dropped.map ignoredChange, none⟩

namespace Workspace
variable (w : Workspace) (root : Path) (read : SourceReader) (paths : List Path) (allowMissing : Bool)

/-- The canonical root with the modules and the other paths that have changed. -/
def intake : Except AnalysisError Intake :=
  (w.analysisRoot root).bind fun top =>
    ((w.changedModules top (paths.filter isSourcePath) allowMissing).mapError .input).map fun m =>
      ⟨top, m.changed, (paths.filter fun p => !isSourcePath p).map Path.text⟩

/-- An analysis has a canonical root. -/
theorem resolve_analysisRoot {w : Workspace} {root top : Path} (h : w.analysisRoot root = .ok top) :
    w.resolve top = some top := by
  unfold analysisRoot at h
  split at h
  · cases h
  · next hpresent =>
    obtain ⟨place, hplace, hown⟩ := exists_resolve_of_isPresent (by simpa using hpresent)
    rw [hplace] at h
    split at h
    · cases h
    · obtain rfl : place = top := Except.ok.inj h
      exact hown

/-- **An analysis is its intake, and what follows if some source has changed.** -/
theorem analyze_eq (config : Config) :
    w.analyze root config read paths allowMissing = (w.intake root paths allowMissing).bind fun i =>
      if i.changed = [] then .ok i.skip else w.analyzeModules i.root config read i.changed i.dropped := by
  have hpartition : partitionSources paths = (paths.filter isSourcePath, paths.filter fun p => !isSourcePath p) :=
    List.partition_eq_filter_filter ..
  unfold analyze intake
  cases hroot : w.analysisRoot root with
  | error e => rfl
  | ok top =>
    simp only [bind, Except.bind, hpartition, changesIn_of_resolve (resolve_analysisRoot hroot)]
    cases w.changedModules top (paths.filter isSourcePath) allowMissing <;> rfl

/-- What matters of a report for the end of a run. -/
def verdict (r : Report) : Bool × DiagnosticLog := (r.skipped, r.diagnostics.warnings)

theorem verdict_analyzeModules {config : Config} (h : config.Valid) (top : Path) (changed : List ModuleId)
    (dropped : List String) :
    (w.analyzeModules top config read changed dropped).map verdict =
      .ok (false, (w.scanFor top config read).diagnostics.warnings
        ++ (w.missingFor top config read changed).warnings) := by
  obtain ⟨order, horder⟩ := Option.isSome_iff_exists.mp h.order
  rw [(w.analyzeModules_eq_ok_iff ..).mpr ⟨h.distanceLimit, h.maxCount, order, horder, rfl⟩, Except.map, verdict,
    warnings_reportFor]
  rfl

/-- **What an analysis warns of does not depend on how tests are selected.** -/
theorem analyze_warns_alike {config config' : Config} (h : config.Valid) (h' : config'.Valid)
    (hexcluded : config.excluded = config'.excluded) (hignore : config.ignoreExternal = config'.ignoreExternal) :
    (w.analyze root config read paths allowMissing).map verdict =
      (w.analyze root config' read paths allowMissing).map verdict := by
  have hscan : ∀ top, w.scanFor top config read = w.scanFor top config' read := fun top => by
    rw [scanFor, scanFor, hexcluded, hignore]
  have hmissing : ∀ top changed, w.missingFor top config read changed = w.missingFor top config' read changed :=
    fun top changed => by rw [missingFor, missingFor, hscan]
  rw [analyze_eq, analyze_eq]
  cases w.intake root paths allowMissing with
  | error e =>
    -- by `rfl` the two analyses behind the intake would be compared
    simp only [Except.bind, Except.map]
  | ok i =>
    simp only [Except.bind]
    split
    · rfl
    · rw [verdict_analyzeModules _ _ h, verdict_analyzeModules _ _ h', hscan, hmissing]

/-- How many jobs there are is nothing to an analysis. -/
theorem analyze_jobs {config config' : Config} (h : config' = { config with jobs := config'.jobs }) :
    w.analyze root config' read paths allowMissing = w.analyze root config read paths allowMissing := by
  rw [h]
  rfl

end Workspace

end Ripple
