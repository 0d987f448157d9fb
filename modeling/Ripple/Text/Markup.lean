/-! Markup, as terminals read it.

A name between brackets is a tag: it says how the text behind it looks, and is not shown itself.
Behind an odd number of backslashes a tag is shown like any other text, with half of the
backslashes. A backslash before a bracket that begins no tag is not shown either. So a text that is
to be shown as it stands has its tags escaped first (`escape`). -/
namespace Ripple.Text.Markup

/-! ### Reading -/

/-- The characters that the name of a tag begins with. -/
def isTagStart (c : Char) : Bool := c.isLower || c == '#' || c == '/' || c == '@'

def isBracket (c : Char) : Bool := c == '[' || c == ']'

/-- The name of the tag that a text begins with. The next bracket closes it. -/
def name? : List Char → Option (List Char)
  | '[' :: cs =>
    if cs.head?.any isTagStart && cs.find? isBracket == some ']' then
      some (cs.takeWhile fun c => !isBracket c)
    else none
  | _ => none

/-- A tag with the backslashes before it. -/
structure Tag where
  slashes : Nat
  name : List Char

namespace Tag

/-- The tag alone. -/
def chars (tag : Tag) : List Char := '[' :: (tag.name ++ [']'])

def written (tag : Tag) : List Char := List.replicate tag.slashes '\\' ++ tag.chars

end Tag

/-- The tag that a text begins with, be it behind backslashes. -/
def tag? : List Char → Option Tag
  | '\\' :: cs => (tag? cs).map fun tag => { tag with slashes := tag.slashes + 1 }
  | cs => (name? cs).map fun name => ⟨0, name⟩

/-- A text cut at its tags. -/
inductive Cut where
  | text (chars : List Char)
  | tag (before : List Char) (tag : Tag) (behind : Cut)

namespace Cut

/-- One more character at the front. -/
def cons (c : Char) : Cut → Cut
  | text chars => text (c :: chars)
  | tag before t behind => tag (c :: before) t behind

def written : Cut → List Char
  | text chars => chars
  | tag before t behind => before ++ (t.written ++ behind.written)

end Cut

def read : List Char → Cut
  | [] => .text []
  | c :: cs => match tag? (c :: cs) with
    | some tag => .tag [] tag (read (cs.drop (tag.slashes + tag.name.length + 1)))
    | none => (read cs).cons c
termination_by cs => cs.length
decreasing_by all_goals simp only [List.length_drop, List.length_cons]; omega

/-! ### Showing -/

/-- A text between tags, without the backslashes that stand before brackets. -/
def unescape : List Char → List Char
  | [] => []
  | '\\' :: '[' :: cs => '[' :: unescape cs
  | c :: cs => c :: unescape cs

/-- What is shown of a tag: every other backslash, and the tag itself behind one that is left. -/
def Tag.shown (tag : Tag) : List (List Char) :=
  [List.replicate (tag.slashes / 2) '\\', if tag.slashes % 2 = 1 then tag.chars else []]

/-- The parts of a text as they are shown, each on its own. That a closing tag has one to close is
not looked at. -/
def Cut.shown : Cut → List (List Char)
  | text chars => [unescape chars]
  | tag before t behind => unescape before :: (t.shown ++ behind.shown)

/-! ### Escaping -/

def Tag.escaped (tag : Tag) : Tag := { tag with slashes := 2 * tag.slashes + 1 }

def Cut.escaped : Cut → Cut
  | text chars => text chars
  | tag before t behind => tag before t.escaped behind.escaped

/-- Is there one backslash at the end? -/
def endsInSlash (cs : List Char) : Bool := (cs.reverse.takeWhile (· == '\\')).length == 1

def escapeChars (cs : List Char) : List Char :=
  let escaped := (read cs).escaped.written
  if endsInSlash escaped then escaped ++ ['\\'] else escaped

/-- A text with its tags made to be shown. -/
def escape (s : String) : String := .ofList (escapeChars s.toList)

end Ripple.Text.Markup
