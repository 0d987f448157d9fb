import Ripple.Source.Piece

/-! The logical lines of a source.

A logical line goes on over breaks inside brackets and behind a backslash. `layOut` gathers the
pieces of a source into lines of tokens, each token with the text that stands before it, and stops
where brackets or strings do not come out even. -/
namespace Ripple.Source

inductive TokenKind where
  | word | number | string | symbol
  deriving DecidableEq, Repr

structure Token where
  kind : TokenKind
  /-- What stands between the token before and this one. -/
  gap : String
  text : String
  line : Nat
  deriving DecidableEq, Repr

/-- Why the lines of a source cannot be told further. -/
inductive LayoutFault where
  /-- A string has no end; one in single quotes has to end on its line. -/
  | openString (triple : Bool) (line : Nat) (last : Nat)
  | strayBackslash (line : Nat)
  | unmatched (close : String) (line : Nat)
  | mismatched (opened : String) (openedAt : Nat) (close : String) (line : Nat)
  /-- The source ends inside a bracket. -/
  | unclosed (opened : String) (line : Nat)
  deriving DecidableEq, Repr

def LayoutFault.line : LayoutFault → Nat
  | openString _ line _ => line
  | strayBackslash line => line
  | unmatched _ line => line
  | mismatched _ _ _ line => line
  | unclosed _ line => line

structure LogicalLine where
  indent : Nat
  tokens : List Token
  /-- The line of the source on which it ends. -/
  endLine : Nat
  /-- What has cut the line short, which is then the last one. -/
  cut : Option LayoutFault
  deriving DecidableEq, Repr

/-- What has been gathered so far; lists of what comes first last. -/
structure Gathered where
  line : Nat
  indent : Nat
  tokens : List Token
  gap : List Char
  /-- The brackets that are open, with their lines. -/
  brackets : List (String × Nat)
  lines : List LogicalLine

namespace Gathered

def start : Gathered := ⟨1, 0, [], [], [], []⟩

def current (g : Gathered) (cut : Option LayoutFault) : LogicalLine :=
  ⟨g.indent, g.tokens.reverse, g.line, cut⟩

def cut (g : Gathered) (fault : LayoutFault) : List LogicalLine :=
  (g.current (some fault) :: g.lines).reverse

/-- The lines with the one that has come to its end. -/
def closed (g : Gathered) : List LogicalLine :=
  if g.tokens = [] then g.lines else g.current none :: g.lines

/-- The column that blanks lead to; a tab goes to a stop and some blanks back to the margin. -/
def indentAfter (d : Dialect) (column : Nat) (c : Char) : Nat :=
  match d, c with
  | _, ' ' => column + 1
  | .strict, '\t' => (column / 8 + 1) * 8
  | .lenient, '\t' => column + 8
  | _, '\x0c' | _, '\r' => 0
  | _, _ => column

/-- Passes over what is no token. -/
def skip (d : Dialect) (g : Gathered) (p : Piece) : Gathered :=
  { g with
    line := g.line + p.chars.count '\n'
    indent := if g.tokens = [] ∧ p.kind = .blank then p.chars.foldl (indentAfter d) g.indent
      else g.indent
    gap := p.chars.reverse ++ g.gap }

def addToken (g : Gathered) (kind : TokenKind) (p : Piece) : Gathered :=
  { g with
    line := g.line + p.chars.count '\n'
    tokens := ⟨kind, .ofList g.gap.reverse, .ofList p.chars, g.line⟩ :: g.tokens
    gap := [] }

/-- The end of a line of the source: of a logical line too, unless a bracket is open. -/
def breakLine (d : Dialect) (g : Gathered) (p : Piece) : Gathered :=
  if g.brackets ≠ [] then g.skip d p
  else
    { g with
      line := g.line + 1
      indent := 0
      tokens := []
      gap := []
      lines := g.closed }

/-- The bracket that a closing one belongs to. -/
def openingOf? (close : String) : Option String := [(")", "("), ("]", "["), ("\x7d", "\x7b")].lookup close

def isOpening (s : String) : Bool := ["(", "[", "\x7b"].contains s

/-- Takes a symbol, or tells what is wrong with a closing bracket. -/
def addSymbol (g : Gathered) (p : Piece) : Except LayoutFault Gathered :=
  let text : String := .ofList p.chars
  if isOpening text then
    .ok { g.addToken .symbol p with brackets := (text, g.line) :: g.brackets }
  else match openingOf? text, g.brackets with
    | none, _ => .ok (g.addToken .symbol p)
    | some _, [] => .error (.unmatched text g.line)
    | some opening, (opened, line) :: brackets =>
      if opening = opened then .ok { g.addToken .symbol p with brackets := brackets }
      else .error (.mismatched opened line text g.line)

def openString (g : Gathered) (p : Piece) : LayoutFault :=
  let quotes := (p.chars.dropWhile Char.isAlpha).take 3
  .openString (decide (quotes = List.replicate 3 (quotes.headD ' '))) g.line
    (g.line + p.chars.count '\n')

def finish (g : Gathered) : List LogicalLine :=
  match g.brackets with
  | (opened, line) :: _ => g.cut (.unclosed opened line)
  | [] => g.closed.reverse

def gather (d : Dialect) (g : Gathered) : List Piece → List LogicalLine
  | [] => g.finish
  | p :: rest => match p.kind with
    | .blank | .comment | .joint => (g.skip d p).gather d rest
    | .lineBreak => (g.breakLine d p).gather d rest
    | .word => (g.addToken .word p).gather d rest
    | .number => (g.addToken .number p).gather d rest
    | .string => (g.addToken .string p).gather d rest
    | .symbol => match g.addSymbol p with
      | .ok g => g.gather d rest
      | .error fault => g.cut fault
    | .openString => g.cut (g.openString p)
    | .strayBackslash => g.cut (.strayBackslash g.line)

end Gathered

def layOut (d : Dialect) (cs : List Char) : List LogicalLine := Gathered.start.gather d (pieces d cs)

end Ripple.Source
