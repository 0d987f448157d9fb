import Ripple.Project.Scan

/-! The tests that changes call for.

`Workspace.analyze` brings the parts together: the changed paths become modules, the project is
scanned, the changes are followed through the graph, and the tests among the affected modules are
selected. Its `Report` holds the selection and everything that has to be told about it. -/
namespace Ripple

structure ReportStats where
  graph : GraphStats
  impacted : Nat
  deriving DecidableEq, Repr

structure Report where
  root : Path
  changed : List ModuleId
  /-- Changed paths that are no sources. -/
  dropped : List String
  selection : Selection
  diagnostics : DiagnosticLog
  /-- None if no source changed, and nothing was scanned. -/
  stats : Option ReportStats

def Report.skipped (r : Report) : Bool := r.stats.isNone

inductive AnalysisError where
  | input (e : InputError)
  /-- The links to the root go round in a circle. -/
  | linkLoop
  | impact (e : ImpactError)
  | selection (e : SelectionError)

def ChangeError.failed : ChangeError → AnalysisError
  | linkLoop => .linkLoop
  | input e => .input e

/-! ### What is told -/

def ignoredChange (path : String) : Diagnostic :=
  ⟨.nonPythonChange, "Ignoring non-Python change: " ++ path, none, none⟩

def missingChange (r : Resolver) (id : ModuleId) : Diagnostic :=
  ⟨.missingChangedFile, "Changed file not indexed (using module \x60" ++ r.moduleName id ++ "\x60)",
    some id, none⟩

def stoppedAt (limit : Int) : Diagnostic :=
  ⟨.distanceTruncated, "Traversal stopped at distance " ++ toString limit
    ++ "; farther dependents were excluded", none, none⟩

/-- What is told of an impact that a limit has cut off. -/
def truncation (i : Impact) (limit : Option Int) : DiagnosticLog :=
  if i.truncated then (limit.map stoppedAt).toList else []

/-! ### The analysis -/

/-- The root of the analysis, as a canonical path. -/
def Workspace.analysisRoot (w : Workspace) (root : Path) : Except AnalysisError Path :=
  if !w.isPresent root then .error (.input (.rootAbsent root))
  else if !w.isFolder root then .error (.input (.rootNotFolder root))
  else match w.resolve root with
    | some root => .ok root
    | none => .error .linkLoop

/-- From the changed modules on. -/
def Workspace.analyzeModules (w : Workspace) (root : Path) (config : Config) (read : SourceReader)
    (changed : List ModuleId) (dropped : List String) : Except AnalysisError Report := do
  let scan := w.scan root ⟨config.excluded, read, config.ignoreExternal⟩
  let seeds := seedsOf scan.graph scan.resolver changed
  let impact ← (impactOf? scan.graph seeds config.distanceLimit).mapError .impact
  let (selection, capping) ←
    (selectTests? scan.graph impact changed config.maxCount config.order).mapError .selection
  let missing := (notIndexed scan.graph changed).map (missingChange scan.resolver)
  let diagnostics := dropped.map ignoredChange ++ scan.diagnostics ++ missing
    ++ truncation impact config.distanceLimit ++ capping
  return ⟨root, changed, dropped, selection, diagnostics, some ⟨scan.graph.stats, impact.size⟩⟩

def Workspace.analyze (w : Workspace) (root : Path) (config : Config) (read : SourceReader)
    (paths : List Path) (allowMissing : Bool) : Except AnalysisError Report := do
  let root ← w.analysisRoot root
  let (sources, other) := partitionSources paths
  let dropped := other.map Path.text
  let modules ← (w.changesIn root sources allowMissing).mapError ChangeError.failed
  if modules.changed = [] then
    return ⟨root, [], dropped, .empty, dropped.map ignoredChange, none⟩
  else w.analyzeModules root config read modules.changed dropped

end Ripple
