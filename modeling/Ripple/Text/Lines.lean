/-! The lines of a text.

A line ends at a line feed, a carriage return, the two together, or one of the other characters
that Unicode gives a line to itself (`isLineBreak`). `lines` drops the breaks and makes no line of
an empty end. `unixBreaks` leaves the line feed as the only break of the three common ones. -/
namespace Ripple.Text

def isLineBreak (c : Char) : Bool :=
  [0x0a, 0x0b, 0x0c, 0x0d, 0x1c, 0x1d, 0x1e, 0x85, 0x2028, 0x2029].contains c.toNat

/-- Puts a character in front of the first line. -/
def consLine (c : Char) : List (List Char) → List (List Char)
  | [] => [[c]]
  | l :: ls => (c :: l) :: ls

def linesOfChars : List Char → List (List Char)
  | [] => []
  | '\r' :: '\n' :: rest => [] :: linesOfChars rest
  | c :: rest => if isLineBreak c then [] :: linesOfChars rest else consLine c (linesOfChars rest)

def lines (s : String) : List String := (linesOfChars s.toList).map .ofList

/-- Carriage returns, alone or before a line feed, become line feeds. -/
def unixBreaks : List Char → List Char
  | [] => []
  | '\r' :: '\n' :: rest => '\n' :: unixBreaks rest
  | '\r' :: rest => '\n' :: unixBreaks rest
  | c :: rest => c :: unixBreaks rest

end Ripple.Text
