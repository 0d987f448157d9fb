import Ripple.Files.Canonical

/-! A tree of files, seen from somewhere in it.

A `Workspace` has a current folder, from which relative paths go out, and the home folders of its
users, for which a tilde stands (`Homes.expand`). -/
namespace Ripple

/-! ### Home folders -/

/-- The home folder of each user, as its text stands, if there is one. -/
structure Homes where
  /-- Of the user who runs the program. -/
  own : Option String
  of? : String → Option String

namespace Homes

/-- One home folder, for a user whom no other knows. -/
instance : Coe Path Homes := ⟨fun home => ⟨some home.text, fun _ => none⟩⟩

/-- What is typed, with a tilde and the name of a user at the front replaced by the home folder of
that user; a tilde alone is the user's own. Nothing is replaced where there is no home. -/
def expand (homes : Homes) (raw : String) : String :=
  match raw.toList with
  | '~' :: cs =>
    let (user, below) := cs.span (· != '/')
    match if user = [] then homes.own else homes.of? (.ofList user) with
    | none => raw
    | some home =>
      let folder := (home.toList.reverse.dropWhile (· == '/')).reverse
      if folder ++ below = [] then "/" else .ofList (folder ++ below)
  | _ => raw

end Homes

/-! ### Looking -/

structure Workspace where
  files : FileTree
  cwd : Path
  home : Homes

namespace Workspace

def isPresent (w : Workspace) (p : Path) : Bool := w.files.isPresent (w.cwd / p)

def isFolder (w : Workspace) (p : Path) : Bool := w.files.isFolderAt (w.cwd / p)

def isFile (w : Workspace) (p : Path) : Bool := w.files.isFileAt (w.cwd / p)

def read (w : Workspace) (p : Path) : Except LookupError (List UInt8) := w.files.read (w.cwd / p)

/-- The canonical path of what `p` leads to, or would lead to if what is missing were there. -/
def resolve (w : Workspace) (p : Path) : Option Path := w.files.resolve (w.cwd / p)

/-- A path as typed. -/
def expandHome (w : Workspace) (raw : String) : Path := Path.parse (w.home.expand raw)

/-- The absolute path that a typed path means: canonical if it leads to something, else without
its `..` as they stand. -/
def absolutize (w : Workspace) (raw : String) : Path :=
  let path := w.cwd / w.expandHome raw
  (w.files.canonical? path).getD path.normalize

/-! ### Changing files -/

/-- The names under which the tree keeps the place that a path leads to, or would lead to. -/
def place (w : Workspace) (p : Path) : List String := (w.files.land (w.cwd / p)).names

/-- The place of a path itself, which may be a link. -/
def entryPlace (w : Workspace) (p : Path) : List String :=
  let path := w.cwd / p
  w.place path.parent ++ path.names.drop (path.names.length - 1)

def write (w : Workspace) (p : Path) (bytes : List UInt8) : Workspace :=
  { w with files := w.files.put (w.place p) (.file bytes) }

def makeFolder (w : Workspace) (p : Path) : Workspace :=
  if w.isPresent p then w else { w with files := w.files.put (w.place p) (.folder []) }

def makeLink (w : Workspace) (p : Path) (target : String) : Workspace :=
  { w with files := w.files.put (w.entryPlace p) (.link target) }

/-- Removes a file, a link or a whole folder. -/
def delete (w : Workspace) (p : Path) : Workspace :=
  { w with files := w.files.remove (w.entryPlace p) }

end Workspace

end Ripple
