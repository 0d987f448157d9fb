import Ripple.Source.Line

/-! Reading a line, token by token.

A `Reader` takes tokens from the front of a line and either gives a value or gets stuck at a token
that cannot stand there. Being stuck remembers the tokens that were left, so of two readings the
one that got further can be told. -/
namespace Ripple.Source

/-- The words that are no names. -/
def keywords : List String :=
  ["False", "None", "True", "and", "as", "assert", "async", "await", "break", "class", "continue",
   "def", "del", "elif", "else", "except", "finally", "for", "from", "global", "if", "import", "in",
   "is", "lambda", "nonlocal", "not", "or", "pass", "raise", "return", "try", "while", "with", "yield"]

def Token.isName (t : Token) : Bool := t.kind == .word && !keywords.contains t.text

structure Stuck where
  /-- The tokens from the one that cannot stand. -/
  rest : List Token
  /-- A colon should have stood there. -/
  wantsColon : Bool
  deriving Repr

abbrev Reader := StateT (List Token) (Except Stuck)

namespace Reader
variable {α : Type}

def stuckAt (rest : List Token) : Reader α := throw ⟨rest, false⟩

def stuck : Reader α := do stuckAt (← get)

def peek? : Reader (Option Token) := return (← get).head?

/-- The text of the next token, or nothing at the end. -/
def peekText : Reader String := return ((← get).head?.map (·.text)).getD ""

/-- The text of the token after the next one. -/
def peekSecond : Reader String := return ((← get)[1]?.map (·.text)).getD ""

def atEnd : Reader Bool := return (← get).isEmpty

/-- Passes the next token if it has this text. -/
def accept (text : String) : Reader Bool := do
  match ← get with
  | t :: rest => if t.text = text then set rest; return true else return false
  | [] => return false

def expect (text : String) : Reader Unit := do
  if !(← accept text) then stuck

/-- Passes the colon of a header. A missing one is missed as such at the end of the line, and
anywhere if nothing but a colon can follow. -/
def expectColon (only : Bool) : Reader Unit := do
  if !(← accept ":") then
    let rest ← get
    throw ⟨rest, only || rest.isEmpty⟩

def next : Reader Token := do
  match ← get with
  | t :: rest => set rest; return t
  | [] => stuck

def name : Reader Token := do
  match ← get with
  | t :: rest => if t.isName then set rest; return t else stuck
  | [] => stuck

/-- Reads with the first reader, or from the same place with the second; if both get stuck, at the
later of the two tokens. -/
def either (first second : Reader α) : Reader α := fun tokens =>
  match first tokens with
  | .ok r => .ok r
  | .error a => match second tokens with
    | .ok r => .ok r
    | .error b => .error (if a.rest.length < b.rest.length then a else b)

/-- Reads if the reader does not get stuck. -/
def attempt (r : Reader α) : Reader (Option α) := fun tokens =>
  match r tokens with
  | .ok (a, rest) => .ok (some a, rest)
  | .error _ => .ok (none, tokens)

end Reader

end Ripple.Source
