import Ripple.Text.Blank

/-! Digits of any script, and the numbers written with them.

Two classes are told apart. A *decimal digit* has a value from 0 to 9 and stands in a row of ten
(`decimalValue?`); a *digit* is that or a character that shows one in another shape, such as a
superscript (`isDigit`). Numbers are written with decimal digits only, and not with too many of them,
so a text of digits need not read as a number (`readNat?`). -/
namespace Ripple.Text

/-- The zeros of the rows of ten decimal digits. -/
def decimalZeros : List Nat :=
  [0x30, 0x660, 0x6f0, 0x7c0, 0x966, 0x9e6, 0xa66, 0xae6, 0xb66, 0xbe6, 0xc66, 0xce6, 0xd66, 0xde6,
   0xe50, 0xed0, 0xf20, 0x1040, 0x1090, 0x17e0, 0x1810, 0x1946, 0x19d0, 0x1a80, 0x1a90, 0x1b50,
   0x1bb0, 0x1c40, 0x1c50, 0xa620, 0xa8d0, 0xa900, 0xa9d0, 0xa9f0, 0xaa50, 0xabf0, 0xff10, 0x104a0,
   0x10d30, 0x11066, 0x110f0, 0x11136, 0x111d0, 0x112f0, 0x11450, 0x114d0, 0x11650, 0x116c0, 0x11730,
   0x118e0, 0x11950, 0x11c50, 0x11d50, 0x11da0, 0x16a60, 0x16ac0, 0x16b50, 0x1d7ce, 0x1d7d8, 0x1d7e2,
   0x1d7ec, 0x1d7f6, 0x1e140, 0x1e2f0, 0x1e950, 0x1fbf0]

/-- Digits in another shape: raised, lowered, circled, bracketed or followed by a stop. -/
def shapedDigitRanges : List (Nat × Nat) :=
  [(0xb2, 0xb3), (0xb9, 0xb9), (0x1369, 0x1371), (0x19da, 0x19da), (0x2070, 0x2070),
   (0x2074, 0x2079), (0x2080, 0x2089), (0x2460, 0x2468), (0x2474, 0x247c), (0x2488, 0x2490),
   (0x24ea, 0x24ea), (0x24f5, 0x24fd), (0x24ff, 0x24ff), (0x2776, 0x277e), (0x2780, 0x2788),
   (0x278a, 0x2792), (0x10a40, 0x10a43), (0x10e60, 0x10e68), (0x11052, 0x1105a), (0x1f100, 0x1f10a)]

def decimalValue? (c : Char) : Option Nat :=
  (decimalZeros.find? fun z => decide (z ≤ c.toNat) && decide (c.toNat < z + 10)).map
    (c.toNat - ·)

def isDecimal (c : Char) : Bool := (decimalValue? c).isSome

def isDigit (c : Char) : Bool := isDecimal c || inRanges shapedDigitRanges c

/-- The value of decimal digits after `n`, where single underscores may stand between digits. -/
def readDigits (n : Nat) : List Char → Option Nat
  | [] => some n
  | '_' :: c :: rest => do readDigits (10 * n + (← decimalValue? c)) rest
  | c :: rest => do readDigits (10 * n + (← decimalValue? c)) rest

/-- Longer numbers are not read. -/
def maxDigits : Nat := 4300

/-- A number without a sign or blanks. -/
def readNat? : List Char → Option Nat
  | [] => none
  | '_' :: _ => none
  | cs => if cs.countP isDecimal ≤ maxDigits then readDigits 0 cs else none

/-- Separators of files, groups, records and units, the blanks that may not stand beside a number. -/
def separatorRanges : List (Nat × Nat) := [(0x1c, 0x1f)]

/-- A blank that may stand beside a number. -/
def isPadding (c : Char) : Bool := isBlank c && !inRanges separatorRanges c

/-- A whole number as people type it: blanks around it, a sign, underscores between digits. -/
def readInt? (s : String) : Option Int :=
  match trimChars isPadding s.toList with
  | '-' :: cs => (readNat? cs).map fun n => -(n : Int)
  | '+' :: cs => (readNat? cs).map Int.ofNat
  | cs => (readNat? cs).map Int.ofNat

end Ripple.Text
