/-! Blank characters, and the texts left when they are taken away.

A character is blank when Unicode counts it as white space or as a paragraph or segment
separator (`isBlank`). `strip` takes the blanks off both ends of a text, `squeeze` takes all of
them out. -/
namespace Ripple.Text

/-- Membership in a character class given as inclusive ranges of code points. -/
def inRanges (ranges : List (Nat × Nat)) (c : Char) : Bool :=
  ranges.any fun r => decide (r.1 ≤ c.toNat) && decide (c.toNat ≤ r.2)

/-- The ranges of `isBlank`. -/
def blankRanges : List (Nat × Nat) :=
  [(0x9, 0xd), (0x1c, 0x20), (0x85, 0x85), (0xa0, 0xa0), (0x1680, 0x1680), (0x2000, 0x200a),
   (0x2028, 0x2029), (0x202f, 0x202f), (0x205f, 0x205f), (0x3000, 0x3000)]

def isBlank (c : Char) : Bool := inRanges blankRanges c

/-- A list without the characters of a class at either end. -/
def trimChars (inClass : Char → Bool) (cs : List Char) : List Char :=
  ((cs.dropWhile inClass).reverse.dropWhile inClass).reverse

/-- A list without its blanks at either end. -/
def stripChars (cs : List Char) : List Char := trimChars isBlank cs

def strip (s : String) : String := .ofList (stripChars s.toList)

/-- A text without any of its blanks. -/
def squeeze (s : String) : String := .ofList (s.toList.filter fun c => !isBlank c)

end Ripple.Text
