import Ripple.Xml.Fault
import Ripple.Xml.Name

/-! Reading the characters of an XML document.

A `Reader` stands at a place of the document (`Cursor`) and either goes on from there or fails. What
reads a piece of markup is given the place where that starts, for the case that the document ends
in the middle of it (`next`). What an entity stands for is read in its place (`within`). -/
namespace Ripple.Xml

/-- A place in a document, or in a part of it. -/
structure Cursor where
  rest : List Char
  position : Position
  /-- The fault of ending in the middle of something, if it is not the common one. -/
  cut : Option Fault
  /-- The bytes of the document, and those that entities have added to them. -/
  size : Nat
  added : Nat

abbrev Reader := StateT Cursor (Except Error)

namespace Reader
variable {α : Type}

def failAt (fault : Fault) (position : Position) : Reader α := throw (.malformed fault position)

def here : Reader Position := return (← get).position

def fail (fault : Fault) : Reader α := do failAt fault (← here)

def rest : Reader (List Char) := return (← get).rest

def Cursor.step (s : Cursor) : Cursor :=
  match s.rest with
  | [] => s
  | c :: rest => { s with rest := rest, position := s.position.after c }

def skip (n : Nat) : Reader Unit := modify fun s => n.fold (fun _ _ s => Cursor.step s) s

/-- The next character of what starts at a place; it has to be there. -/
def next (start : Position) : Reader Char := do
  match ← rest with
  | [] => failAt ((← get).cut.getD .unclosedToken) start
  | c :: _ => return c

/-- Passes a text if it comes next. -/
def accept (s : String) : Reader Bool := do
  if s.toList.isPrefixOf (← rest) then
    skip s.length
    return true
  else return false

/-- Passes a text, character by character. -/
def expect (start : Position) : List Char → Reader Unit
  | [] => return ()
  | c :: cs => do
    if (← next start) = c then
      skip 1
      expect start cs
    else fail .invalidToken

def span (p : Char → Bool) : Reader (List Char) := do
  let taken := (← rest).takeWhile p
  skip taken.length
  return taken

def isSpace (c : Char) : Bool := c == ' ' || c == '\t' || c == '\n' || c == '\r'

def spaces : Reader Unit := do discard <| span isSpace

/-- Whether a document may hold a character. -/
def isLegal (c : Char) : Bool :=
  if c.toNat < 0x20 then c == '\t' || c == '\n' || c == '\r'
  else c.toNat != 0xfffe && c.toNat != 0xffff

/-- The next character of what starts at a place, where any may stand that a document may hold. -/
def nextLegal (start : Position) : Reader Char := do
  let c ← next start
  if isLegal c then return c else fail .invalidToken

/-- A name without a colon. -/
def plainName (start : Position) : Reader (List Char) := do
  if startsName (← next start) then span continuesName else fail .invalidToken

/-- A name, which may have one colon in it. -/
def name (start : Position) : Reader String := do
  let beginning ← plainName start
  if (← accept ":") then return .ofList (beginning ++ ':' :: (← plainName start))
  else return .ofList beginning

/-- Reads at another place and comes back. -/
def reading (place : Cursor) (r : Reader α) : Reader α := do
  let back ← get
  set { place with added := back.added }
  let a ← r
  modify fun s => { back with added := s.added }
  return a

/-- Reads on, and comes back. -/
def ahead (r : Reader α) : Reader Unit := do discard <| reading (← get) r

/-! ### Entities -/

/-- From this size on a document may not become more than a hundred times as long as it was. -/
def freeSize : Nat := 8388608

def mayGrow (size added : Nat) : Bool := size + added < freeSize || size + added ≤ 100 * size

/-- Reads what an entity stands for in the place of its name. All faults are at `place`, and it may
not end in the middle of something. -/
def within (place : Position) (cut : Option Fault) (text : List Char) (r : Reader α) :
    Reader α := fun s =>
  let added := s.added + (String.ofList text).utf8ByteSize
  if mayGrow s.size added then
    match r { s with rest := text, position := place, cut := cut, added := added } with
    | .ok (a, after) => .ok (a, { s with added := after.added })
    | .error (.malformed fault _) => .error (.malformed fault place)
    | .error e => .error e
  else .error (.malformed .amplified place)

/-! ### References -/

inductive Reference where
  | character (code : Nat)
  | entity (name : String)

def number (base : Nat) (cs : List Char) : Nat :=
  cs.foldl (fun n c => base * n + (if c.isDigit then c.toNat - '0'.toNat
    else c.toLower.toNat - 'a'.toNat + 10)) 0

def isHexDigit (c : Char) : Bool :=
  c.isDigit || ('a' ≤ c && c ≤ 'f') || ('A' ≤ c && c ≤ 'F')

/-- The digits of a number. -/
def digits (start : Position) (isDigit : Char → Bool) : Reader (List Char) := do
  if isDigit (← next start) then span isDigit else fail .invalidToken

/-- What follows an ampersand. -/
def reference (start : Position) : Reader Reference := do
  if (← accept "#x") then
    let cs ← digits start isHexDigit
    expect start [';']
    return .character (number 16 cs)
  else if (← accept "#") then
    let cs ← digits start Char.isDigit
    expect start [';']
    return .character (number 10 cs)
  else
    let cs ← plainName start
    expect start [';']
    return .entity (.ofList cs)

/-- The character with a number, if a document may hold it. -/
def numbered (position : Position) (code : Nat) : Reader Char := do
  if code.isValidChar && isLegal (Char.ofNat code) then return Char.ofNat code
  else failAt .badCharacterNumber position

def knownEntities : List (String × Char) :=
  [("lt", '<'), ("gt", '>'), ("amp", '&'), ("quot", '\x22'), ("apos", '\x27')]

/-! ### Comments and instructions -/

/-- The rest of a comment, behind its first hyphen. -/
def commentText (start : Position) : Nat → Reader Unit
  | 0 => fail .amplified
  | fuel + 1 => do
    let c ← nextLegal start
    skip 1
    if c = '-' && (← next start) = '-' then
      skip 1
      expect start ['>']
    else commentText start fuel

def comment (start : Position) (fuel : Nat) : Reader Unit := do
  expect start ['-']
  commentText start fuel

/-- The rest of an instruction, with its end. -/
def instructionText (start : Position) : Nat → Reader Unit
  | 0 => fail .amplified
  | fuel + 1 => do
    if (← accept "?>") then return ()
    else
      discard <| nextLegal start
      skip 1
      instructionText start fuel

/-- What stands before the end of an instruction. -/
def beforeEnd : List Char → List Char
  | [] | '?' :: '>' :: _ => []
  | c :: cs => c :: beforeEnd cs

/-- What follows `<?`: what stands behind its target, if that says that this declares the
document. -/
def instruction (start : Position) (fuel : Nat) : Reader (Option Cursor) := do
  let target ← plainName start
  let isDeclaration := target = "xml".toList
  if target.map Char.toLower = "xml".toList ∧ !isDeclaration then
    discard <| next start
    fail .invalidToken
  let inside ← get
  let c ← next start
  if c = '?' then
    skip 1
    expect start ['>']
  else if isSpace c then
    skip 1
    instructionText start fuel
  else fail .invalidToken
  return if isDeclaration then some { inside with rest := beforeEnd inside.rest } else none

end Reader

end Ripple.Xml
