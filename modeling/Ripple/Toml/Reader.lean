import Ripple.Toml.Value

/-! Reading the values of a settings file.

A `Reader` takes characters from the front of the text. Values are nested, and reading goes down
with them as far as its `depth`; the length of the text is deep enough. -/
namespace Ripple.Toml

abbrev Reader := StateT (List Char) Option

namespace Reader

def fail {α : Type} : Reader α := fun _ => none

def peek? : Reader (Option Char) := return (← get).head?

/-- Takes the characters of a class at the front. -/
def span (p : Char → Bool) : Reader (List Char) := do
  let cs ← get
  let taken := cs.takeWhile p
  set (cs.drop taken.length)
  return taken

/-- Passes a text if it stands at the front. -/
def accept (s : String) : Reader Bool := do
  let cs ← get
  if s.toList.isPrefixOf cs then
    set (cs.drop s.length)
    return true
  else return false

def expect (s : String) : Reader Unit := do
  if !(← accept s) then fail

def isSpace (c : Char) : Bool := c == ' ' || c == '\t'

def spaces : Reader Unit := do discard <| span isSpace

/-- A character that may not stand in a text or a comment. -/
def isControl (c : Char) : Bool := (decide (c.toNat < 0x20) && c != '\t') || c.toNat == 0x7f

def comment : Reader Unit := do
  if (← accept "#") then discard <| span fun c => !isControl c

/-- Blanks, comments and ends of lines. -/
def blankLines : Nat → Reader Unit
  | 0 => return ()
  | n + 1 => do
    spaces
    comment
    if (← accept "\n") then blankLines n

/-! ### Texts -/

def hexValue? (c : Char) : Option Nat :=
  if c.isDigit then some (c.toNat - '0'.toNat)
  else if 'a' ≤ c ∧ c ≤ 'f' then some (c.toNat - 'a'.toNat + 10)
  else if 'A' ≤ c ∧ c ≤ 'F' then some (c.toNat - 'A'.toNat + 10)
  else none

/-- A character given by so many digits in base 16. -/
def codePoint (digits : Nat) : Reader Char := do
  let cs ← get
  let some values := (cs.take digits).mapM hexValue? | fail
  if values.length < digits then fail
  set (cs.drop digits)
  let code := values.foldl (fun n v => 16 * n + v) 0
  if code.isValidChar then return Char.ofNat code else fail

def simpleEscapes : List (Char × Char) :=
  [('b', '\x08'), ('t', '\t'), ('n', '\n'), ('f', '\x0c'), ('r', '\r'), ('\x22', '\x22'),
   ('\\', '\\')]

/-- What follows a backslash. -/
def escape : Reader Char := do
  let cs ← get
  match cs with
  | [] => fail
  | c :: rest =>
    set rest
    if c = 'u' then codePoint 4
    else if c = 'U' then codePoint 8
    else match simpleEscapes.lookup c with
      | some c => return c
      | none => fail

/-- Passes the rest of a line with nothing on it and the blanks after it. -/
def foldedLine : Reader Bool := do
  let cs ← get
  match cs.dropWhile isSpace with
  | '\n' :: rest =>
    set (rest.dropWhile fun c => isSpace c || c == '\n')
    return true
  | _ => return false

/-- The rest of a text in double quotes; a `long` one ends at three and goes over lines. -/
def basicText (long : Bool) : Nat → Reader (List Char)
  | 0 => fail
  | n + 1 => do
    let cs ← get
    match cs with
    | [] => fail
    | c :: rest =>
      if c = '\x22' ∧ !long then
        set rest
        return []
      else if c = '\x22' ∧ rest.take 2 = ['\x22', '\x22'] ∧ rest[2]? ≠ some '\x22' then
        set (rest.drop 2)
        return []
      else if c = '\\' then
        set rest
        if long && (← foldedLine) then basicText long n
        else
          let c ← escape
          return c :: (← basicText long n)
      else if isControl c && !(long && c == '\n') then fail
      else
        set rest
        return c :: (← basicText long n)

/-- The rest of a text in single quotes. -/
def literalText (long : Bool) : Nat → Reader (List Char)
  | 0 => fail
  | n + 1 => do
    let cs ← get
    match cs with
    | [] => fail
    | c :: rest =>
      if c = '\x27' ∧ !long then
        set rest
        return []
      else if c = '\x27' ∧ rest.take 2 = ['\x27', '\x27'] ∧ rest[2]? ≠ some '\x27' then
        set (rest.drop 2)
        return []
      else if isControl c && !(long && c == '\n') then fail
      else
        set rest
        return c :: (← literalText long n)

def quotedText? (long : Bool) : Reader (Option String) := do
  let n := (← get).length + 1
  if long && (← accept "\x22\x22\x22") then
    discard <| accept "\n"
    return some (.ofList (← basicText true n))
  else if long && (← accept "\x27\x27\x27") then
    discard <| accept "\n"
    return some (.ofList (← literalText true n))
  else if (← accept "\x22") then return some (.ofList (← basicText false n))
  else if (← accept "\x27") then return some (.ofList (← literalText false n))
  else return none

/-! ### Keys -/

def isBare (c : Char) : Bool := c.isAlphanum || c == '_' || c == '-'

def key : Reader String := do
  match ← quotedText? false with
  | some s => return s
  | none =>
    let cs ← span isBare
    if cs = [] then fail else return .ofList cs

/-- Keys with points between them. -/
def dottedKey : Nat → Reader (List String)
  | 0 => fail
  | n + 1 => do
    spaces
    let first ← key
    spaces
    if (← accept ".") then return first :: (← dottedKey n) else return [first]

/-! ### Numbers, dates and words -/

def isNumberChar (c : Char) : Bool := c.isDigit || c == '_'

/-- Digits with single underscores between them. -/
def digits? (base : Nat) (cs : List Char) : Option Nat :=
  let parts := cs.splitOn '_'
  if parts.any (·.isEmpty) then none
  else
    (parts.flatten.mapM fun c => (hexValue? c).filter fun v => decide (v < base)).map fun values =>
      values.foldl (fun n v => base * n + v) 0

def bases : List (List Char × Nat) :=
  [(['0', 'x'], 16), (['0', 'o'], 8), (['0', 'b'], 2)]

def sign (cs : List Char) : Bool × List Char :=
  match cs with
  | '-' :: cs => (true, cs)
  | '+' :: cs => (false, cs)
  | cs => (false, cs)

/-- Whether digits start with a zero that they do not need. -/
def isPadded (cs : List Char) : Bool := cs.head? == some '0' && decide (1 < cs.length)

def integer? (cs : List Char) : Option Int :=
  match bases.find? fun b => b.1.isPrefixOf cs with
  | some (mark, base) => (digits? base (cs.drop mark.length)).map Int.ofNat
  | none =>
    let (negative, cs) := sign cs
    if isPadded cs then none
    else (digits? 10 cs).map fun n => if negative then -(n : Int) else n

/-- The power of ten behind a number, 0 if there is none. -/
def power? : List Char → Option Int
  | [] => some 0
  | c :: cs =>
    if c = 'e' ∨ c = 'E' then
      let (negative, cs) := sign cs
      (digits? 10 cs).map fun n => if negative then -(n : Int) else n
    else none

/-- A number with a point or a power of ten. -/
def decimal? (cs : List Char) : Option Decimal := do
  let (negative, cs) := sign cs
  let whole := cs.takeWhile isNumberChar
  let rest := cs.drop whole.length
  if rest.isEmpty || isPadded whole then none
  let (fraction, rest) := match rest with
    | '.' :: rest =>
      let fraction := rest.takeWhile isNumberChar
      (fraction, rest.drop fraction.length)
    | rest => (['0'], rest)
  let power ← power? rest
  let n ← digits? 10 whole
  let m ← digits? 10 fraction
  let places := (fraction.filter (· != '_')).length
  return (Decimal.shift ⟨negative, n * powerOfTen places + m, places⟩ power).normal

/-- Whether a word starts like a date or a time. -/
def isMoment (cs : List Char) : Bool :=
  let n := (cs.takeWhile Char.isDigit).length
  (n == 4 && cs[4]? == some '-') || (n == 2 && cs[2]? == some ':')

def isWordChar (c : Char) : Bool := c.isAlphanum || c == '_' || c == '-' || c == '+' || c == '.' || c == ':'

/-- A value that is written as one word; a date may have its time behind a blank. -/
def word : Reader Value := do
  let cs ← span isWordChar
  if cs = [] then fail
  else if cs = "true".toList then return .boolean true
  else if cs = "false".toList then return .boolean false
  else if isMoment cs then
    let rest ← get
    match rest with
    | ' ' :: c :: _ =>
      if c.isDigit then
        set (rest.drop 1)
        let time ← span isWordChar
        return .other (.ofList (cs ++ ' ' :: time))
      else return .other (.ofList cs)
    | _ => return .other (.ofList cs)
  else if ["inf".toList, "nan".toList].contains (sign cs).2 then return .other (.ofList cs)
  else match integer? cs with
    | some n => return .integer n
    | none => match decimal? cs with
      | some d => return .decimal d
      | none => fail

/-! ### Values -/

/-- Sets a value under keys of an inline table; none if there is one already. -/
def setIn (entries : Table) (keys : List String) (v : Value) : Option Table :=
  match keys with
  | [] => none
  | [key] => if (entries.lookup key).isSome then none else some (entries ++ [(key, v)])
  | key :: rest => match entries.lookup key with
    | none => (setIn [] rest v).map fun below => entries ++ [(key, .table below)]
    | some (.table below) => (setIn below rest v).map fun below =>
      entries.map fun e => if e.1 = key then (key, .table below) else e
    | some _ => none

mutual

def value : Nat → Reader Value
  | 0 => fail
  | depth + 1 => do
    match ← quotedText? true with
    | some s => return .text s
    | none =>
      if (← accept "[") then
        let items ← items depth
        if items.all fun v => some v.kind == items.head?.map Value.kind then return .array items
        else fail
      else if (← accept "\x7b") then
        spaces
        if (← accept "\x7d") then return .table []
        else return .table (← entries depth [])
      else word

/-- The rest of an array. -/
def items : Nat → Reader (List Value)
  | 0 => fail
  | depth + 1 => do
    blankLines depth
    if (← accept "]") then return []
    else
      let v ← value depth
      blankLines depth
      if (← accept ",") then return v :: (← items depth)
      else
        expect "]"
        return [v]

/-- The rest of a table on one line. -/
def entries : Nat → Table → Reader Table
  | 0, _ => fail
  | depth + 1, before => do
    let keys ← dottedKey depth
    expect "="
    spaces
    let v ← value depth
    let some before := setIn before keys v | fail
    spaces
    if (← accept ",") then
      entries depth before
    else
      expect "\x7d"
      return before

end

end Reader

end Ripple.Toml
