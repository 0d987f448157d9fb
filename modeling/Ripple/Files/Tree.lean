import Ripple.Path

/-! A tree of files.

A `FileTree` is a file with its bytes, a link with the text of its target, or a folder of named
trees. Everything here goes by the names as they stand: `stored?` finds what is stored under a list
of names, `put` and `remove` change it, and no link is followed. Where links lead is for
`Ripple.Files.Lookup` to say. -/
namespace Ripple

inductive FileTree where
  | file (bytes : List UInt8)
  | link (target : String)
  | folder (entries : List (String × FileTree))

instance : Inhabited FileTree := ⟨.folder []⟩

namespace FileTree

def isFolder : FileTree → Bool
  | folder _ => true
  | _ => false

/-- What a folder holds; other trees hold nothing. -/
def entries : FileTree → List (String × FileTree)
  | folder entries => entries
  | _ => []

def child? (t : FileTree) (name : String) : Option FileTree := t.entries.lookup name

def stored? (t : FileTree) : List String → Option FileTree
  | [] => some t
  | name :: rest => (t.child? name).bind (·.stored? rest)

/-- The folder `t` with `new` under `name`, in place of what was there. -/
def putChild (t : FileTree) (name : String) (new : FileTree) : FileTree :=
  if (t.child? name).isSome then
    folder (t.entries.map fun e => if e.1 = name then (name, new) else e)
  else folder (t.entries ++ [(name, new)])

/-- Puts `new` under `names`, in folders made where there are none. -/
def put (t : FileTree) (names : List String) (new : FileTree) : FileTree :=
  match names with
  | [] => new
  | name :: rest => t.putChild name (((t.child? name).getD (folder [])).put rest new)

def remove (t : FileTree) (names : List String) : FileTree :=
  match names with
  | [] => folder []
  | [name] => folder (t.entries.filter fun e => e.1 != name)
  | name :: rest => match t.child? name with
    | some below => t.putChild name (below.remove rest)
    | none => t

/-- How many links the tree has. -/
def linkCount : FileTree → Nat
  | file _ => 0
  | link _ => 1
  | folder entries => countAll entries
where
  countAll : List (String × FileTree) → Nat
    | [] => 0
    | (_, t) :: rest => t.linkCount + countAll rest

end FileTree

end Ripple
