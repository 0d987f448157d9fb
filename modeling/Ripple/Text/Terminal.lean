import Ripple.Text.Emoji
import Ripple.Text.Markup

/-! How a terminal shows a text.

Of the markup in a text what is to be shown is left, part by part with pictures for emoji codes.
Characters that only move the terminal are left out, a tab is as many spaces as it takes to reach
the next column that is a multiple of eight, and of the blanks at the end of a line none goes beyond
the width of the terminal. A text with none of these is shown as it is. -/
namespace Ripple.Text

/-- What terminals differ in. -/
structure Terminal where
  pictures : Emoji.Pictures
  width : Nat
  /-- The columns that a character takes. -/
  columns : Char → Nat

namespace Terminal

/-- A terminal that nothing else is known of. -/
def usual : Terminal := ⟨.known, 80, fun _ => 1⟩

/-- Bells, backspaces, and moves that are no line feeds. -/
def isMove (c : Char) : Bool := [0x07, 0x08, 0x0b, 0x0c, 0x0d].contains c.toNat

def tabWidth : Nat := 8

/-- The line from a column on, with spaces for tabs. -/
def expandTabs (columns : Char → Nat) (column : Nat) : List Char → List Char
  | [] => []
  | c :: cs =>
    if c = '\t' then
      let width := tabWidth - column % tabWidth
      List.replicate width ' ' ++ expandTabs columns (column + width) cs
    else c :: expandTabs columns (column + columns c) cs

/-- A line without the blanks at its end that go beyond the width. -/
def crop (width : Nat) (line : List Char) : List Char :=
  let blanks := (line.reverse.takeWhile isBlank).length
  line.take (line.length - min blanks (line.length - width))

variable (t : Terminal)

/-- What comes of markup before it is laid out. -/
def interpret (markup : List Char) : List Char :=
  (Markup.read markup).shown.flatMap (Emoji.replaceChars t.pictures)

def layOut (cs : List Char) : List Char :=
  ['\n'].intercalate <|
    (cs.splitOn '\n').map fun line => crop t.width (expandTabs t.columns 0 line)

def shown (markup : String) : String :=
  .ofList (t.layOut ((t.interpret markup.toList).filter fun c => !isMove c))

/-- Markup as one line, or more if there are line feeds in it. -/
def line (markup : String) : String := t.shown markup ++ "\n"

end Terminal

end Ripple.Text
