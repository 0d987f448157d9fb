import Ripple.Files.Tree

/-! Looking a path up in a tree of files.

`FileTree.locate` walks along the names of a path, through the links it meets, to the names under
which the tree itself keeps the place, or to the reason why there is none. A walk may pass
`maxLinks` links, so one that goes round in circles ends too. -/
namespace Ripple

/-- Why a path leads nowhere, or a file cannot be read. -/
inductive LookupError where
  | absent | notFolder | isFolder | tooManyLinks
  deriving DecidableEq, Repr

namespace LookupError

/-- The number that systems give the error. -/
def number : LookupError → Nat
  | absent => 2
  | notFolder => 20
  | isFolder => 21
  | tooManyLinks => 40

def message : LookupError → String
  | absent => "No such file or directory"
  | notFolder => "Not a directory"
  | isFolder => "Is a directory"
  | tooManyLinks => "Too many levels of symbolic links"

end LookupError

namespace FileTree

def maxLinks : Nat := 40

/-- Walks on from the place `here`, along `rest`, through at most `links` links. -/
def walk (t : FileTree) (links : Nat) (here : List String) (rest : List String) :
    Except LookupError (List String) :=
  match rest with
  | [] => .ok here
  | name :: rest =>
    match t.stored? here with
    | some (folder entries) =>
      if name = ".." then t.walk links here.dropLast rest
      else match entries.lookup name with
        | none => .error .absent
        | some (link target) => match links with
          | 0 => .error .tooManyLinks
          | links + 1 =>
            let target := Path.parse target
            t.walk links (if target.isAbsolute then [] else here) (target.names ++ rest)
        | some _ => t.walk links (here ++ [name]) rest
    | _ => .error .notFolder
termination_by (links, rest.length)

/-- The names under which the tree keeps the place that an absolute path leads to. -/
def locate (t : FileTree) (p : Path) : Except LookupError (List String) :=
  t.walk maxLinks [] p.names

/-- What an absolute path leads to. -/
def find (t : FileTree) (p : Path) : Except LookupError FileTree := do
  match t.stored? (← t.locate p) with
  | some found => .ok found
  | none => .error .absent

def isPresent (t : FileTree) (p : Path) : Bool :=
  match t.find p with
  | .ok _ => true
  | .error _ => false

def isFolderAt (t : FileTree) (p : Path) : Bool :=
  match t.find p with
  | .ok (folder _) => true
  | _ => false

def isFileAt (t : FileTree) (p : Path) : Bool :=
  match t.find p with
  | .ok (file _) => true
  | _ => false

def read (t : FileTree) (p : Path) : Except LookupError (List UInt8) := do
  match ← t.find p with
  | file bytes => .ok bytes
  | folder _ => .error .isFolder
  | link _ => .error .tooManyLinks

end FileTree

end Ripple
