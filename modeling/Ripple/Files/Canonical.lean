import Ripple.Files.Lookup
import Ripple.Path.Lexical

/-! Canonical paths: the names of a place without links, `.` and `..`.

`FileTree.follow` replaces every link on a path by the way it stands for. `canonical?` is its
answer where everything on the way exists, and `resolve` an answer in all cases: what is missing
keeps its name, and only a link that leads back to itself has none. -/
namespace Ripple

/-- Where following links ends. A way with a circle ends at the link that closes it, with the
names still to go behind it. -/
structure Landing where
  names : List String
  /-- Something on the way was not there. -/
  missed : Bool
  /-- A link led back to itself. -/
  looped : Bool

namespace FileTree

/-- Follows `rest` from the place `here`; `opened` are the links that are being followed, of which
there are at most `depth` more. -/
def follow (t : FileTree) (depth : Nat) (opened : List (List String)) (here : List String)
    (missed : Bool) (rest : List String) : Landing :=
  match rest with
  | [] => ⟨here, missed, false⟩
  | name :: rest =>
    if name = ".." then t.follow depth opened here.dropLast missed rest
    else
      let next := here ++ [name]
      match t.stored? next with
      | none => t.follow depth opened next true rest
      | some (link target) => match depth with
        | 0 => ⟨next ++ rest, missed, true⟩
        | depth + 1 =>
          if next ∈ opened then ⟨next ++ rest, missed, true⟩
          else
            let target := Path.parse target
            let start := if target.isAbsolute then [] else here
            let inner := t.follow depth (next :: opened) start missed target.names
            if inner.looped then { inner with names := inner.names ++ rest }
            else t.follow (depth + 1) opened inner.names inner.missed rest
      | some _ => t.follow depth opened next missed rest
termination_by (depth, rest.length)

def land (t : FileTree) (p : Path) : Landing := t.follow (t.linkCount + 1) [] [] false p.names

/-- The canonical path of an absolute path that leads to something. -/
def canonical? (t : FileTree) (p : Path) : Option Path :=
  let l := t.land p
  if l.missed || l.looped then none else some ⟨.root, l.names⟩

/-- The canonical path of an absolute path, whether or not it leads to something; none if its
links go round in a circle. -/
def resolve (t : FileTree) (p : Path) : Option Path :=
  let resolved := Path.normalize ⟨.root, (t.land p).names⟩
  match t.find resolved with
  | .error .tooManyLinks => none
  | _ => some resolved

end FileTree

end Ripple
