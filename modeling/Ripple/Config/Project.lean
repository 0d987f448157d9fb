import Ripple.Config
import Ripple.Files.Workspace
import Ripple.Text.Lines
import Ripple.Text.Utf8
import Ripple.Toml.Value

/-! The settings that a project makes for itself.

They stand in one table of the project's settings file. A setting that is not of the right kind is
left out with a warning, and does not keep the others from being taken (`Config.ofTable`). How the
text of the file is read as tables is a parameter (`Toml.Decoder`). -/
namespace Ripple

inductive ConfigWarning where
  | badJobs (value : String)
  | unreadable (file : Path)
  | notTable (file : Path)
  | notFolderNames (key : String)
  | badOrder (value : Toml.Value)
  | notBoolean (key : String)
  | notCount (key : String) (value : Toml.Value)

def ConfigWarning.message : ConfigWarning → String
  | badJobs value => "Ignoring invalid " ++ jobsVariable ++ "=" ++ Text.quoted value
  | unreadable file => "Could not read " ++ file.text
  | notTable file => "[tool.testdiff] in " ++ file.text ++ " is not a table; ignoring it"
  | notFolderNames key => "[tool.testdiff] " ++ key ++ " must be a list of directory names"
  | badOrder value =>
    "[tool.testdiff] order must be one of " ++ Text.join ", " (Order.all.map Order.text)
      ++ ", got " ++ value.shown
  | notBoolean key => "[tool.testdiff] " ++ key ++ " must be a boolean"
  | notCount key value =>
    "[tool.testdiff] " ++ key ++ " must be a non-negative integer, got " ++ value.shown

/-- Why there are no settings of a project at all. -/
inductive ConfigError where
  /-- The file is not written in UTF-8. -/
  | notText (file : Path)
  /-- What should hold the table of settings is no table itself. -/
  | noTable
  deriving DecidableEq, Repr

/-! ### The environment -/

/-- The settings that hold if nothing is set, with the number of jobs that the environment asks
for. -/
def Config.ofEnvironment (jobs : Option String) : Config × List ConfigWarning :=
  let value := jobs.getD ""
  match jobsOf? value with
  | some n => (Config.default n, [])
  | none => (Config.default 1, [.badJobs value])

/-! ### The table -/

def settingsFile : String := "pyproject.toml"

/-- The table of settings in a document, empty if there is none. -/
def Toml.Table.section (document : Toml.Table) (file : Path) :
    Except ConfigError (Toml.Table × List ConfigWarning) :=
  match (document.lookup "tool").getD (.table []) with
  | .table tools => match (tools.lookup "testdiff").getD (.table []) with
    | .table settings => .ok (settings, [])
    | _ => .ok ([], [.notTable file])
  | _ => .error .noTable

/-- The table of settings of the project at `root`. -/
def Workspace.settings (w : Workspace) (decode : Toml.Decoder) (root : Path) :
    Except ConfigError (Toml.Table × List ConfigWarning) :=
  let file := root.child settingsFile
  match w.read file with
  | .error _ => .ok ([], [])
  | .ok bytes => match Text.Utf8.decode? bytes with
    | none => .error (.notText file)
    | some cs => match decode (Text.unixBreaks cs) with
      | none => .ok ([], [.unreadable file])
      | some document => Toml.Table.section document file

/-! ### The settings in it -/

/-- What is read from one key, with the warning if it cannot be used. -/
abbrev Setting (α : Type) := Option α × List ConfigWarning

/-- The value under a key, read as what it should be. -/
def setting {α : Type} (settings : Toml.Table) (key : String) (read : Toml.Value → Option α)
    (warning : Toml.Value → ConfigWarning) : Setting α :=
  match settings.lookup key with
  | none => (none, [])
  | some v => match read v with
    | some a => (some a, [])
    | none => (none, [warning v])

def folderNames (settings : Toml.Table) (key : String) : Setting (List String) :=
  setting settings key Toml.Value.strings? fun _ => .notFolderNames key

def count? : Toml.Value → Option Int
  | .integer n => if n < 0 then none else some n
  | _ => none

def count (settings : Toml.Table) (key : String) : Setting Int :=
  setting settings key count? (.notCount key)

def order? (v : Toml.Value) : Option String := v.string?.filter fun s => (Order.ofText? s).isSome

def boolean? : Toml.Value → Option Bool
  | .boolean b => some b
  | _ => none

namespace Config

/-- The settings of a table over those of `base`. -/
def ofTable (base : Config) (settings : Toml.Table) : Config × List ConfigWarning :=
  let exclude := folderNames settings "exclude"
  let extend := folderNames settings "extend-exclude"
  let order := setting settings "order" order? .badOrder
  let ignoreExternal := setting settings "ignore-external-imports" boolean?
    fun _ => .notBoolean "ignore-external-imports"
  let jobs := count settings "jobs"
  let maxCount := count settings "max"
  let distanceLimit := count settings "distance-limit"
  let excluded := base.excluded ++ exclude.1.getD [] ++ extend.1.getD []
  (base.merge ⟨some excluded, maxCount.1, distanceLimit.1, jobs.1.map (max · 1), ignoreExternal.1,
      order.1⟩,
    exclude.2 ++ extend.2 ++ order.2 ++ ignoreExternal.2 ++ jobs.2 ++ maxCount.2 ++ distanceLimit.2)

/-- The settings of the project at `root` over those of `base`. -/
def load (decode : Toml.Decoder) (w : Workspace) (root : Path) (base : Config) :
    Except ConfigError (Config × List ConfigWarning) := do
  let (settings, warnings) ← w.settings decode root
  if settings.isEmpty then return (base, warnings)
  else
    let (config, more) := base.ofTable settings
    return (config, warnings ++ more)

end Config

end Ripple
