import Ripple.Config.Project
import Ripple.Graph
import Ripple.Project.Discovery
import Ripple.Source.Fault

/-! The graph of a project.

Every module is read and its imports are resolved on their own (`scanModule`); the scans are then
put together in the order of the modules (`assemble`), so it does not matter in which order, or how
many at a time, they were made. A module that cannot be read or parsed stays in the graph without
edges, and its diagnostic says why. -/
namespace Ripple

/-- A way to read the imports of a source file. -/
abbrev SourceReader := List Char → ModuleId → Except SourceError (List Import)

structure ModuleScan where
  id : ModuleId
  /-- The modules that it depends on. -/
  edges : List ModuleId
  dangling : List String
  diagnostics : DiagnosticLog
  parsed : Bool

namespace ModuleScan

/-- The scan of a module of which nothing is known but what went wrong. -/
def failed (id : ModuleId) (d : Diagnostic) : ModuleScan := ⟨id, [], [], [d], false⟩

/-- Whether nothing has to be told of an import that leads nowhere. -/
def isSilent (r : Resolver) (ignoreExternal : Bool) (i : Import) : Bool :=
  ignoreExternal && !r.isProjectImport i

/-- What is told of an import. -/
def diagnosticsOf (r : Resolver) (ignoreExternal : Bool) (id : ModuleId) (i : Import) : DiagnosticLog :=
  if (r.resolve i).targets ≠ [] ∨ isSilent r ignoreExternal i then []
  else [.unresolvedImport id i.line i.text]

def ofImports (r : Resolver) (ignoreExternal : Bool) (id : ModuleId) (imports : List Import) :
    ModuleScan where
  id := id
  edges := ((imports.flatMap fun i => (r.resolve i).targets).filter (· != id)).foldl addNew []
  dangling := imports.flatMap fun i => (r.resolve i).missing
  diagnostics := imports.flatMap (diagnosticsOf r ignoreExternal id)
  parsed := true

end ModuleScan

/-- The text of a source file, with line feeds only and without bytes that are no text. -/
def Workspace.sourceText (w : Workspace) (p : Path) : Except LookupError (List Char) := do
  return Text.unixBreaks (Text.Utf8.decodeLossy (← w.read p))

def Workspace.scanModule (w : Workspace) (root : Path) (read : SourceReader) (r : Resolver)
    (ignoreExternal : Bool) (id : ModuleId) : ModuleScan :=
  match w.sourceText (root / Path.parse id) with
  | .error e => .failed id (.parseError id ("could not read file (" ++ e.message ++ ")") none)
  | .ok source => match read source id with
    | .error e => .failed id (.parseError id e.message e.line)
    | .ok imports => .ofImports r ignoreExternal id imports

/-- Adds what a scan found to a graph that has the module already. -/
def Graph.addScan (g : Graph) (s : ModuleScan) : Graph :=
  let g := s.edges.foldl (fun g target => g.addEdge s.id target) g
  s.dangling.foldl (fun g dotted => g.addDangling s.id dotted) g

def assemble (scans : List ModuleScan) : Graph :=
  scans.foldl Graph.addScan (scans.foldl (fun g s => g.addModule s.id s.parsed) ∅)

/-- A project that has been scanned. -/
structure ProjectScan where
  graph : Graph
  resolver : Resolver
  diagnostics : DiagnosticLog

/-- How a project is scanned. -/
structure ScanOptions where
  excluded : List String
  read : SourceReader
  ignoreExternal : Bool

def Workspace.scan (w : Workspace) (root : Path) (o : ScanOptions) : ProjectScan :=
  let ids := w.discover root o.excluded
  let r := Resolver.ofModules ids
  let scans := ids.map (w.scanModule root o.read r o.ignoreExternal)
  ⟨assemble scans, r, scans.flatMap (·.diagnostics)⟩

/-- `scan` where it is not known whether `root` is a folder. -/
def Workspace.scan? (w : Workspace) (root : Path) (o : ScanOptions) : Except InputError ProjectScan :=
  if w.isFolder root then .ok (w.scan root o) else .error (.rootNotFolder root)

end Ripple
