import Ripple.Source.Reading
import Ripple.Text.Lines

/-! Reading the imports of a source file.

There are two ways. The lenient one makes a syntax tree of any source, with an error in it where
need be; it needs a grammar that may not be there. The strict one takes a source for what the
language of today makes of it, or tells what is wrong. `Parser.choose` prefers the first where its
grammar is there. -/
namespace Ripple

namespace Source

/-- The tree of a source in the lenient dialect. -/
def tree (source : List Char) : Node :=
  let lines := layOut .lenient source
  match readLines .lenient lines with
  | .ok nodes => ⟨.statement, none, 1, "", false, false, nodes⟩
  | .error o => .failingAt (o.line ((lines.getLast?.map (·.endLine)).getD 1))

/-- The statements of a source in the strict dialect. -/
def strictNodes (source : List Char) : Except (SourceFault × Nat) (List Node) :=
  let lines := layOut .strict source
  match readLines .strict lines with
  | .ok nodes => .ok nodes
  | .error o => .error (strictFault lines o)

/-- The imports of a source, whose tree is made by `read`. -/
def importsBy (read : List Char → Node) (source : List Char) (file : ModuleId) :
    Except SourceError (List Import) :=
  (read source).imports file

def lenientImports : List Char → ModuleId → Except SourceError (List Import) := importsBy tree

def strictImports (source : List Char) (file : ModuleId) : Except SourceError (List Import) :=
  if source.contains '\x00' then .error ⟨.nullCharacter, file, none⟩
  else match strictNodes (Text.unixBreaks source) with
    | .ok nodes => Node.walk .normal file nodes
    | .error (fault, line) => .error ⟨fault, file, some line⟩

end Source

/-- Whether the grammar of the lenient dialect is there. -/
inductive Grammar where
  | loaded | absent
  /-- It is there and cannot be used. -/
  | broken
  deriving DecidableEq, Repr

inductive Parser where
  | lenient (grammar : Grammar)
  | strict
  deriving DecidableEq, Repr

namespace Parser

def isAvailable : Parser → Bool
  | lenient grammar => grammar == .loaded
  | strict => true

/-- What is told when a parser is made. -/
def warnings : Parser → List String
  | lenient .broken => ["Could not load tree-sitter grammar for python"]
  | _ => []

def choose (preferLenient : Bool) (grammar : Grammar) : Parser :=
  if preferLenient && (lenient grammar).isAvailable then lenient grammar else strict

def imports (p : Parser) (source : List Char) (file : ModuleId) : Except SourceError (List Import) :=
  match p with
  | lenient .loaded => Source.lenientImports source file
  | lenient _ => .error ⟨.noGrammar, file, none⟩
  | strict => Source.strictImports source file

end Parser

end Ripple
