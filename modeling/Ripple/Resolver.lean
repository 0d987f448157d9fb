import Ripple.Import
import Ripple.OrderedMap
import Ripple.Path

/-! Which of the project's modules an import means.

A `Resolver` knows the modules of a project and answers with these alone. A module has a dotted
name (`moduleName`), which starts at the outermost package around it, and `Resolver.lookup` finds a
module by its parts: the file of that path, the package of that path, then the module of that name.
`Resolver.resolve` gives the modules an import depends on and the names it asks for in vain. -/
namespace Ripple

/-- The file that makes a folder a package. -/
def packageFile : String := "__init__.py"

def isPackageFile (id : ModuleId) : Bool := (Path.parse id).name == packageFile

/-- The names of the packages around a file, the outermost first. -/
def packageNames (known : List ModuleId) (p : Path) : List String :=
  ((p.parents.takeWhile fun q =>
    !q.parts.isEmpty && known.contains (q.child packageFile).text).map Path.name).reverse

/-- The name a module is imported by: the packages around it and its own, or its whole path if it
is in no package. -/
def moduleName (known : List ModuleId) (id : ModuleId) : String :=
  let path := Path.parse id
  let packages := packageNames known path
  let around := if packages = [] then path.parent.parts else packages
  Text.join "." (if path.name = packageFile then around else around ++ [path.stem])

/-- Without the ending of a source file. -/
def dropSourceEnding (name : String) : String :=
  if ".py".toList.isSuffixOf name.toList then .ofList (name.toList.take (name.length - 3)) else name

structure Resolver where
  known : List ModuleId
  byName : OrderedMap String ModuleId
  /-- The names that an absolute import of the project can start with. -/
  topLevels : List String

structure Resolution where
  /-- The modules that the import depends on. -/
  targets : List ModuleId
  /-- The dotted names that it asks for and no module has. -/
  missing : List String
  deriving DecidableEq, Repr

instance : EmptyCollection Resolution := ⟨⟨[], []⟩⟩

def sortIds (ids : List ModuleId) : List ModuleId := ids.mergeSort fun a b => decide (a ≤ b)

namespace Resolver

/-- Gives each name to the first module that has it. -/
def nameAll (known ids : List ModuleId) (names : OrderedMap String ModuleId) :
    OrderedMap String ModuleId :=
  ids.foldl (fun names id => names.insertNew (moduleName known id) id) names

/-- A name belongs to a plain module before a package, and to the least of several. -/
def ofModules (ids : List ModuleId) : Resolver :=
  let known := sortIds (ids.foldl addNew [])
  let byName := nameAll known (known.filter isPackageFile)
    (nameAll known (known.filter fun id => !isPackageFile id) ∅)
  let starts := known.map fun id => dropSourceEnding ((Path.parse id).parts.headD "")
  let named := (byName.keys.filter (· != "")).map fun name => (Text.split '.' name).headD ""
  ⟨known, byName, starts ++ named⟩

/-- The resolver of a project, if every module has a name. -/
def ofModules? (ids : List ModuleId) : Option Resolver :=
  if ids.any fun id => (Path.parse id).parts.isEmpty then none else some (ofModules ids)

def contains (r : Resolver) (id : ModuleId) : Bool := r.known.contains id

def moduleName (r : Resolver) (id : ModuleId) : String := Ripple.moduleName r.known id

def lookup (r : Resolver) (parts : List String) : Option ModuleId :=
  if parts = [] then none
  else
    let path := Text.join "/" parts
    ([path ++ ".py", path ++ "/" ++ packageFile].find? r.contains).or
      (r.byName.get? (Text.join "." parts))

/-- The module of the longest start of `parts`, of at least `floor` parts, that has one. -/
def lookupTrimmed (r : Resolver) (parts : List String) (floor : Nat) : Option ModuleId :=
  ((List.range' floor (parts.length + 1 - floor)).reverse).findSome? fun n =>
    r.lookup (parts.take n)

/-- The folder that an import starts from; none if its dots lead out of the project. -/
def anchor? (i : Import) : Option (List String) :=
  if i.level = 0 then some []
  else
    let folder := (Path.parse i.file).parent.parts
    if i.level - 1 ≤ folder.length then some (folder.take (folder.length - (i.level - 1))) else none

/-- How many parts a start of an import has to keep. -/
def floor (anchor : List String) (i : Import) : Nat :=
  if i.level = 0 then 1 else if i.dotted = "" then anchor.length else anchor.length + 1

/-- The absolute dotted name of what an import asks for. -/
def absoluteName (r : Resolver) (anchor : List String) (i : Import) (asked : List String) : String :=
  let tail := i.parts ++ asked
  if i.level = 0 then Text.join "." tail
  else
    let package := Text.join "/" (anchor ++ [packageFile])
    if r.contains package then
      let head := r.moduleName package
      Text.join "." ((if head = "" then [] else [head]) ++ tail)
    else Text.join "." (anchor ++ tail)

/-- An import of a module as such. -/
def resolveModule (r : Resolver) (anchor : List String) (i : Import) : Resolution :=
  let base := anchor ++ i.parts
  let hit := r.lookupTrimmed base (floor anchor i)
  ⟨hit.toList,
    if hit = none ∨ hit ≠ r.lookup base then [r.absoluteName anchor i []] else []⟩

/-- An import of names from a module; what is no module has to come from the module itself. -/
def resolveNames (r : Resolver) (anchor : List String) (i : Import) (names : List String) :
    Resolution :=
  let base := anchor ++ i.parts
  let hits := names.map fun name => (name, r.lookup (base ++ [name]))
  let missing := hits.filterMap fun (name, hit) =>
    if hit = none then some (r.absoluteName anchor i [name]) else none
  let source := if missing ≠ [] ∧ base ≠ [] then r.lookupTrimmed base (floor anchor i) else none
  ⟨(hits.filterMap Prod.snd ++ source.toList).foldl addNew [], missing⟩

def resolve (r : Resolver) (i : Import) : Resolution :=
  match anchor? i with
  | none => ∅
  | some anchor =>
    if i.asked ≠ [] then r.resolveNames anchor i i.asked
    else if anchor ++ i.parts = [] then ∅
    else r.resolveModule anchor i

/-- Whether an import is about the project: it is relative, or starts with a name at its top. -/
def isProjectImport (r : Resolver) (i : Import) : Bool :=
  decide (0 < i.level) || r.topLevels.contains i.head

end Resolver

end Ripple
