import Ripple.Source.Line

/-! Syntax trees that keep the text they were read from.

A `Node` is a stretch of a source with its kind, the part it plays in the node above, the line it
starts on and its text as it stands there. A tree may hold errors; each node knows whether it or
something below it is one. -/
namespace Ripple.Source

inductive NodeKind where
  | statement
  | plainImport | fromImport | futureImport
  | printStatement | execStatement
  | dottedName | relativeName | dots | aliased | star | identifier
  | error
  deriving DecidableEq, Repr

/-- The part that a node plays in the node above it. -/
inductive NodeRole where
  | name | moduleName | newName
  deriving DecidableEq, Repr

structure Node where
  kind : NodeKind
  role : Option NodeRole
  line : Nat
  text : String
  /-- It was put in where the source lacks something. -/
  isMissing : Bool
  hasError : Bool
  children : List Node

namespace Node

/-- The text of some tokens, without what stands before the first. -/
def textOf : List Token → String
  | [] => ""
  | t :: rest => t.text ++ String.join (rest.map fun t => t.gap ++ t.text)

/-- A node over some tokens. -/
def spanning (kind : NodeKind) (tokens : List Token) (children : List Node) : Node :=
  ⟨kind, none, (tokens.head?.map (·.line)).getD 1, textOf tokens, false, false, children⟩

def playing (n : Node) (role : NodeRole) : Node := { n with role := some role }

/-- A node that says nothing but that something is wrong. -/
def failure (line : Nat) : Node := ⟨.error, none, line, "", false, true, []⟩

/-- A tree whose only fault is on a line. -/
def failingAt (line : Nat) : Node := ⟨.statement, none, 1, "", false, true, [failure line]⟩

def isError (n : Node) : Bool := n.kind == .error || n.isMissing

def withRole (n : Node) (role : NodeRole) : List Node := n.children.filter (·.role == some role)

def ofKind (n : Node) (kind : NodeKind) : List Node := n.children.filter (·.kind == kind)

end Node

end Ripple.Source
