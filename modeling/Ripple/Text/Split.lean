/-! Texts as fields between a separator.

A text always has one field more than it has separators, so `join` undoes `split`. -/
namespace Ripple.Text

def split (separator : Char) (s : String) : List String :=
  (s.toList.splitOn separator).map .ofList

def join (separator : String) (fields : List String) : String := separator.intercalate fields

/-- The text up to the first separator, and what follows it. -/
def cut (separator : Char) (s : String) : String × Option String :=
  let cs := s.toList
  let head := cs.takeWhile (· != separator)
  match cs.drop head.length with
  | [] => (.ofList head, none)
  | _ :: rest => (.ofList head, some (.ofList rest))

/-- Does `part` stand anywhere in the text? -/
def contains (cs part : List Char) : Bool :=
  part.isPrefixOf cs || match cs with
    | [] => false
    | _ :: rest => contains rest part

end Ripple.Text
