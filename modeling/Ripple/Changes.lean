import Ripple.Files.Workspace
import Ripple.Import
import Ripple.OrderedMap
import Ripple.Text.Blank

/-! From the paths that changed to the modules of a project.

The root of the project is given or found: above every changed path stands the nearest folder with
a marker of a project, and the nearest of these is the root (`Workspace.chooseRoot`). A changed
path then has to lie below the canonical path of the root, and to exist unless it may have been
deleted (`Workspace.changesIn`). -/
namespace Ripple

/-- The paths in values that may each hold several, separated by commas. -/
def splitChanged (values : List String) : List String :=
  (values.flatMap fun value => (Text.split ',' value).map Text.strip).filter (· != "")

def isSourcePath (p : Path) : Bool := p.suffix == ".py"

/-- Source files, and everything else. -/
def partitionSources (paths : List Path) : List Path × List Path := paths.partition isSourcePath

/-! ### The root -/

/-- Files that stand at the top of a project. -/
def rootMarkers : List String := ["pyproject.toml", ".git"]

/-- Of two places found, the one reached in fewer steps, or else the first. -/
def nearer (best : Option (Nat × Path)) (found : Option (Nat × Path)) : Option (Nat × Path) :=
  match best, found with
  | none, found => found
  | some b, some f => if f.1 < b.1 then some f else some b
  | some b, none => some b

namespace Workspace

def hasMarker (w : Workspace) (folder : Path) : Bool :=
  rootMarkers.any fun marker => w.isPresent (folder.child marker)

def folderOf (w : Workspace) (p : Path) : Path := if w.isFolder p then p else p.parent

/-- The nearest marked folder at or above a path, and the number of steps up to it. -/
def markedAbove? (w : Workspace) (p : Path) : Option (Nat × Path) :=
  let folder := w.folderOf p
  let upward := folder :: folder.parents
  (upward.findIdx? w.hasMarker).bind fun n => upward[n]?.map fun q => (n, q)

/-- The folder to scan for changes: the nearest marked one, else the deepest around all of them. -/
def detectRoot (w : Workspace) (changed : List Path) : Path :=
  match changed.foldl (fun best p => nearer best (w.markedAbove? p)) none with
  | some (_, root) => root
  | none => (Path.common? (changed.map Path.parent)).getD w.cwd

/-- The root of the project, as a canonical path; none if a link on the way leads back to itself.
The top of the file system is never scanned. -/
def chooseRoot (w : Workspace) (explicit : Option Path) (changed : List Path) : Option Path :=
  match explicit with
  | some root => w.resolve (if w.isFile root then root.parent else root)
  | none =>
    let root := w.detectRoot changed
    w.resolve (if root.isTop then w.cwd else root)

end Workspace

/-! ### The modules -/

inductive InputError where
  | rootAbsent (root : Path)
  | rootNotFolder (root : Path)
  | outsideRoot (root path : Path)
  | absent (path : Path)
  deriving DecidableEq, Repr

namespace InputError

/-- The path that the error is about. -/
def path : InputError → Path
  | rootAbsent root => root
  | rootNotFolder root => root
  | outsideRoot _ path => path
  | absent path => path

def message : InputError → String
  | rootAbsent root => "Project root does not exist: " ++ root.text
  | rootNotFolder root => "Project root is not a directory: " ++ root.text
  | outsideRoot root path =>
    "Changed file is outside the project root " ++ root.text ++ ": " ++ path.text
  | absent path => "Changed file does not exist: " ++ path.text

end InputError

/-- Why changed paths are not taken. -/
inductive ChangeError where
  /-- The links to the root go round in a circle. -/
  | linkLoop
  | input (e : InputError)
  deriving DecidableEq, Repr

/-- The modules that changed, each once in the order given, and those among them that are gone. -/
structure ChangedModules where
  changed : List ModuleId
  missing : List ModuleId
  deriving DecidableEq, Repr

namespace Workspace

/-- Takes one more changed path. -/
def addChanged (w : Workspace) (root : Path) (allowMissing : Bool) (m : ChangedModules) (p : Path) :
    Except InputError ChangedModules :=
  match p.relativeTo? root with
  | none => .error (.outsideRoot root p)
  | some below =>
    let present := w.isPresent p
    if !present && !allowMissing then .error (.absent p)
    else .ok ⟨addNew m.changed below.text, if present then m.missing else addNew m.missing below.text⟩

/-- The modules that `paths` stand for below `root`, whose names are compared as they stand. -/
def changedModules (w : Workspace) (root : Path) (paths : List Path) (allowMissing : Bool) :
    Except InputError ChangedModules :=
  paths.foldlM (w.addChanged root allowMissing) ⟨[], []⟩

/-- The modules that `paths` stand for below the canonical path of `root`. -/
def changesIn (w : Workspace) (root : Path) (paths : List Path) (allowMissing : Bool) :
    Except ChangeError ChangedModules :=
  match w.resolve root with
  | none => .error .linkLoop
  | some top => (w.changedModules top paths allowMissing).mapError .input

end Workspace

end Ripple
