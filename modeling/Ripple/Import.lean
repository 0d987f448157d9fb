import Ripple.Text.Split

/-! Imports, as a source file states them.

An `Import` is one statement: `module` is the dotted name in it, `level` the number of leading
dots, and `names` what comes after `import` in a statement that starts with `from`. -/
namespace Ripple

/-- The path of a source file below the project root, its names joined by slashes. -/
abbrev ModuleId := String

structure Import where
  dotted : String
  level : Nat
  names : List String
  file : ModuleId
  line : Nat
  deriving DecidableEq, Repr

namespace Import

def isFrom (i : Import) : Bool := !i.names.isEmpty || decide (0 < i.level)

/-- The statement with its usual spacing. -/
def text (i : Import) : String :=
  if i.isFrom then
    "from " ++ .ofList (List.replicate i.level '.') ++ i.dotted ++ " import " ++ Text.join ", " i.names
  else "import " ++ i.dotted

/-- The parts of the dotted name. -/
def parts (i : Import) : List String := if i.dotted = "" then [] else Text.split '.' i.dotted

/-- The part that an absolute import looks for at the top of the project. -/
def head (i : Import) : String := (Text.split '.' i.dotted).headD ""

/-- The names that may be modules; a star asks for whatever there is. -/
def asked (i : Import) : List String := if i.names = ["*"] then [] else i.names

end Import

end Ripple
