import Ripple.Text.Split

/-! Paths, as the names between their slashes.

A `Path` starts at an `Anchor` and goes down through its names. Reading a path (`Path.parse`)
forgets empty and `.` names, so `a//b`, `./a/b` and `a/b/` are one path; `..` is a name like any
other, because where it leads is for the file system to say. Two slashes at the front are an anchor
of their own, three or more are the root. -/
namespace Ripple

inductive Anchor where
  | relative | root | doubleRoot
  deriving DecidableEq, Repr

def Anchor.text : Anchor → String
  | .relative => ""
  | .root => "/"
  | .doubleRoot => "//"

structure Path where
  anchor : Anchor
  names : List String
  deriving DecidableEq, Repr

namespace Path

/-- The anchor that the slashes at the front of a text stand for. -/
def anchorOf (cs : List Char) : Anchor :=
  match (cs.takeWhile (· = '/')).length with
  | 0 => .relative
  | 2 => .doubleRoot
  | _ => .root

/-- A name that reading keeps. -/
def isName (name : String) : Bool := name != "" && name != "."

def parse (s : String) : Path :=
  ⟨anchorOf s.toList, (Text.split '/' s).filter isName⟩

/-- The empty relative path is written as a dot. -/
def text (p : Path) : String :=
  if p.anchor = .relative ∧ p.names = [] then "." else p.anchor.text ++ Text.join "/" p.names

instance : ToString Path := ⟨text⟩

def isAbsolute (p : Path) : Bool := p.anchor != .relative

/-- The anchor, if there is one, and the names. -/
def parts (p : Path) : List String :=
  if p.isAbsolute then p.anchor.text :: p.names else p.names

/-- `q` seen from `p`: an absolute `q` is itself. -/
def join (p q : Path) : Path := if q.isAbsolute then q else ⟨p.anchor, p.names ++ q.names⟩

instance : Div Path := ⟨join⟩

def child (p : Path) (name : String) : Path := ⟨p.anchor, p.names ++ [name]⟩

def parent (p : Path) : Path := ⟨p.anchor, p.names.dropLast⟩

/-- The parent, its parent and so on, as long as there is a name to drop. -/
def parents (p : Path) : List Path :=
  (List.range p.names.length).map fun n => ⟨p.anchor, p.names.take (p.names.length - 1 - n)⟩

def name (p : Path) : String := p.names.getLast?.getD ""

/-- A path without names has no place above it. -/
def isTop (p : Path) : Bool := p.names.isEmpty

/-- The path from `base` down to `p`, if `p` starts with the names of `base`. -/
def relativeTo? (p base : Path) : Option Path :=
  if p.anchor = base.anchor ∧ base.names.isPrefixOf p.names then
    some ⟨.relative, p.names.drop base.names.length⟩
  else none

/-! ### Names in two halves

The last dot of a name ends its stem, unless it is the first or the last character. -/

def stemChars (cs : List Char) : List Char :=
  let tail := (cs.reverse.takeWhile (· != '.')).length
  let stem := cs.take (cs.length - tail - 1)
  if tail = 0 ∨ stem = [] then cs else stem

def stem (p : Path) : String := .ofList (stemChars p.name.toList)

def suffix (p : Path) : String :=
  .ofList (p.name.toList.drop (stemChars p.name.toList).length)

/-! ### Order

Paths are ordered part by part, so a folder stands right before what it holds. -/

def partsLe : List String → List String → Bool
  | [], _ => true
  | _ :: _, [] => false
  | a :: as, b :: bs => if a = b then partsLe as bs else decide (a < b)

def le (p q : Path) : Bool := partsLe p.parts q.parts

end Path

end Ripple
