import Ripple.Path.Lexical

/-! Annotations for a build log.

An annotation is one line that starts with two colons and a level, names a file and a line if it
has them, and ends with a message in which line breaks and percent signs are encoded. -/
namespace Ripple

def escapeChar (c : Char) : List Char :=
  if c = '%' then "%25".toList
  else if c = '\r' then "%0D".toList
  else if c = '\n' then "%0A".toList
  else [c]

/-- The message in one line, from which it can be read back. -/
def escapeMessage (s : String) : String := .ofList (s.toList.flatMap escapeChar)

inductive AnnotationLevel where
  | error | warning
  deriving DecidableEq, Repr

def AnnotationLevel.text : AnnotationLevel → String
  | error => "error"
  | warning => "warning"

structure Annotation where
  level : AnnotationLevel
  message : String
  file : Option String
  line : Option Nat
  deriving DecidableEq, Repr

namespace Annotation

/-- A file as seen from a folder; a relative one is seen from there already. -/
def fileFrom (cwd : Path) (file : String) : String :=
  let path := Path.parse file
  if path.isAbsolute then (path.relativeFrom cwd).text else file

/-- What is said of the place, in the order in which it is written. -/
def properties (a : Annotation) (cwd : Path) : List String :=
  ((a.file.filter (· != "")).map fun file => "file=" ++ fileFrom cwd file).toList ++
    (a.line.map fun line => "line=" ++ toString line).toList

def render (a : Annotation) (cwd : Path) : String :=
  let properties := a.properties cwd
  "::" ++ a.level.text ++ (if properties = [] then "" else " " ++ Text.join "," properties) ++ "::"
    ++ escapeMessage a.message

end Annotation

end Ripple
