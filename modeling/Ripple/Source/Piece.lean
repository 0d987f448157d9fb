import Ripple.Text.Blank
import Ripple.Text.Identifier

/-! A source text in pieces.

`pieces` cuts a text into words, numbers, strings and symbols, with what stands between them.
Nothing is lost on the way (`flatMap_chars_pieces`), so the spelling of every part of a source can
be told from its pieces. There are two dialects: the lenient one knows more blanks and a further
quote. -/
namespace Ripple.Source

inductive Dialect where
  | lenient | strict
  deriving DecidableEq, Repr

inductive PieceKind where
  | blank | comment | lineBreak
  /-- A backslash at the end of a line. -/
  | joint
  | word | number | string | symbol
  /-- A string without an end, up to the end of its line or of the source. -/
  | openString
  | strayBackslash
  deriving DecidableEq, Repr

structure Piece where
  kind : PieceKind
  chars : List Char
  deriving DecidableEq, Repr

/-- How many characters at the head belong to a class. -/
def spanLength (p : Char → Bool) (cs : List Char) : Nat := (cs.takeWhile p).length

/-! ### Blanks -/

def isBlank : Dialect → Char → Bool
  | .strict, c => c == ' ' || c == '\t' || c == '\x0c'
  | .lenient, c =>
    c != '\n' && (Text.isBlank c || c == '\ufeff' || c == '\u200b' || c == '\u2060')

/-- How many characters after a backslash make it join two lines. -/
def jointLength? : List Char → Option Nat
  | '\n' :: _ => some 1
  | '\r' :: '\n' :: _ => some 2
  | _ => none

/-! ### Numbers -/

def isNumberChar (c : Char) : Bool := c.isDigit || c == '_'

/-- A point and the digits behind it. -/
def fractionLength : List Char → Nat
  | '.' :: cs => 1 + spanLength isNumberChar cs
  | _ => 0

def exponentLength : List Char → Nat
  | 'e' :: cs | 'E' :: cs =>
    let sign := match cs with
      | '+' :: _ | '-' :: _ => 1
      | _ => 0
    let digits := spanLength isNumberChar (cs.drop sign)
    if digits = 0 then 0 else 1 + sign + digits
  | _ => 0

def numberEndLength : List Char → Nat
  | c :: _ => if c ∈ ['j', 'J', 'l', 'L'] then 1 else 0
  | [] => 0

def decimalLength (cs : List Char) : Nat :=
  let whole := spanLength isNumberChar cs
  let fraction := fractionLength (cs.drop whole)
  let exponent := exponentLength (cs.drop (whole + fraction))
  let length := whole + fraction + exponent
  length + numberEndLength (cs.drop length)

def numberLength : List Char → Nat
  | '0' :: c :: cs =>
    if c ∈ ['x', 'X', 'o', 'O', 'b', 'B'] then 2 + spanLength (fun c => c.isAlphanum || c == '_') cs
    else decimalLength ('0' :: c :: cs)
  | cs => decimalLength cs

/-! ### Strings -/

/-- The length of a string on one line, its closing quote included. -/
def closedLength? (quote : Char) : List Char → Option Nat
  | [] => none
  | '\\' :: '\r' :: '\n' :: cs => (closedLength? quote cs).map (· + 3)
  | '\\' :: _ :: cs => (closedLength? quote cs).map (· + 2)
  | c :: cs =>
    if c = quote then some 1
    else if c = '\n' then none
    else (closedLength? quote cs).map (· + 1)

/-- The length of a string that ends at three quotes. -/
def closedTripleLength? (quote : Char) : List Char → Option Nat
  | [] => none
  | '\\' :: _ :: cs => (closedTripleLength? quote cs).map (· + 2)
  | c :: cs =>
    if c = quote ∧ cs.take 2 = [quote, quote] then some 3
    else (closedTripleLength? quote cs).map (· + 1)

def isQuote (d : Dialect) (c : Char) : Bool :=
  c == '\x22' || c == '\x27' || (d == .lenient && c == '\x60')

/-- What follows an opening quote. -/
def stringAfter (quote : Char) (cs : List Char) : PieceKind × Nat :=
  if cs.take 2 = [quote, quote] then
    match closedTripleLength? quote (cs.drop 2) with
    | some n => (.string, n + 2)
    | none => (.openString, cs.length)
  else match closedLength? quote cs with
    | some n => (.string, n)
    | none => (.openString, spanLength (· != '\n') cs)

/-- The letters that may stand before the quote of a string. -/
def stringMarks : List String :=
  ["r", "u", "b", "f", "br", "rb", "fr", "rf"]

def isStringMark (word : List Char) : Bool :=
  stringMarks.contains (.ofList (word.map Char.toLower))

/-! ### Symbols -/

def symbols : List (List Char) :=
  ["**=", "//=", ">>=", "<<=", "...", "!=", "->", ":=", "+=", "-=", "*=", "/=", "%=", "@=", "&=",
   "|=", "^=", "==", "<=", ">=", "<>", "**", "//", "<<", ">>"].map String.toList

/-- The longest symbol at the head; any other character is a symbol of its own. -/
def symbolLength (cs : List Char) : Nat :=
  ((symbols.find? fun s => s.isPrefixOf cs).map List.length).getD 1

/-! ### Pieces -/

/-- The piece that starts with `c`, and how many of the characters after it belong to it. -/
def pieceAt (d : Dialect) (c : Char) (rest : List Char) : PieceKind × Nat :=
  if c = '\n' then (.lineBreak, 0)
  else if isBlank d c then (.blank, spanLength (isBlank d) rest)
  else if c = '#' then (.comment, spanLength (· != '\n') rest)
  else if c = '\\' then
    match jointLength? rest with
    | some n => (.joint, n)
    | none => (.strayBackslash, 0)
  else if isQuote d c then stringAfter c rest
  else if Text.startsIdentifier c then
    let n := spanLength Text.continuesIdentifier rest
    match rest.drop n with
    | quote :: after =>
      if isQuote d quote && isStringMark (c :: rest.take n) then
        let (kind, m) := stringAfter quote after
        (kind, n + 1 + m)
      else (.word, n)
    | [] => (.word, n)
  else if c.isDigit || (c == '.' && (rest.head?.elim false Char.isDigit)) then
    (.number, numberLength (c :: rest) - 1)
  else (.symbol, symbolLength (c :: rest) - 1)

def pieces (d : Dialect) : List Char → List Piece
  | [] => []
  | c :: rest =>
    let (kind, n) := pieceAt d c rest
    ⟨kind, c :: rest.take n⟩ :: pieces d (rest.drop n)
termination_by cs => cs.length
decreasing_by simp only [List.length_drop, List.length_cons]; omega

theorem flatMap_chars_pieces (d : Dialect) (cs : List Char) :
    (pieces d cs).flatMap Piece.chars = cs := by
  fun_induction pieces d cs with
  | case1 => rfl
  | case2 c rest kind n _ ih => simp [ih]

end Ripple.Source
