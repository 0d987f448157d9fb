import Ripple.Xml.Reader

/-! The pieces of a document outside of its elements. -/
namespace Ripple.Xml

inductive Token where
  | finished | blank
  | comment | instruction
  /-- What declares the document, with the place behind its name. -/
  | declaration (inside : Cursor)
  /-- The start of an element, which is not passed. -/
  | element
  /-- What stands behind `<!`. -/
  | opening (word : String)
  | closing
  /-- A name without a colon. -/
  | name (text : String)
  /-- A name with a colon. -/
  | pairName (text : String)
  /-- Characters of names in any order. -/
  | word
  /-- A name that is followed by a count. -/
  | countedName
  /-- What stands behind a number sign. -/
  | hashName (text : String)
  | literal (inside : Cursor)
  | percent | parameter
  | openBracket | closeBracket | openSection | closeSection
  | openParenthesis
  /-- It may be followed by a count. -/
  | closeParenthesis (count : Option Char)
  | bar | comma

namespace Reader

/-- Fails unless one of the characters comes next that may stand behind a piece. -/
def ensureNext (allowed : List Char) : Reader Unit := do
  match ← rest with
  | [] => return ()
  | c :: _ => if !isSpace c && !allowed.contains c then fail .invalidToken

/-- The characters up to a quote, which is passed. -/
def quoted (start : Position) (quote : Char) : Nat → Reader (List Char)
  | 0 => fail .amplified
  | fuel + 1 => do
    let c ← nextLegal start
    skip 1
    if c = quote then return [] else return c :: (← quoted start quote fuel)

def literalToken (start : Position) (quote : Char) (fuel : Nat) : Reader Token := do
  skip 1
  let inside ← get
  let cs ← quoted start quote fuel
  ensureNext ['>', '%', '[']
  return .literal { inside with rest := cs, cut := some .invalidToken }

/-- Which kind of name characters are. -/
def nameOf (cs : List Char) : Token :=
  let before := cs.takeWhile (· != ':')
  let behind := cs.drop (before.length + 1)
  if !(cs.head?.any startsName) || behind.contains ':' then .word
  else if cs.length = before.length then .name (.ofList cs)
  else if behind = [] then .word
  else .pairName (.ofList cs)

def nameToken (start : Position) : Reader Token := do
  let cs ← span fun c => continuesName c || c == ':'
  let token := nameOf cs
  -- a name may go on behind its first colon
  if cs.getLast? = some ':' && cs.head?.any startsName && cs.count ':' = 1 then
    discard <| next start
  match ← rest with
  | [] => return token
  | c :: _ =>
    if ['+', '*', '?'].contains c then
      match token with
      | .name _ | .pairName _ =>
        skip 1
        return .countedName
      | _ => fail .invalidToken
    else
      ensureNext ['>', ')', ',', '|', '[', '%']
      return token

def hashToken (start : Position) : Reader Token := do
  let cs ← plainName start
  ensureNext [')', '>', '%', '|']
  return .hashName (.ofList cs)

/-- What follows a percent sign. -/
def percentToken (start : Position) : Reader Token := do
  let c ← next start
  if isSpace c || c = '%' then return .percent
  else
    discard <| plainName start
    expect start [';']
    return .parameter

/-- What follows `<!`. -/
def openingToken (start : Position) (fuel : Nat) : Reader Token := do
  let c ← next start
  if c = '-' then
    skip 1
    comment start fuel
    return .comment
  else if c = '[' then
    skip 1
    return .openSection
  else if c.isAlpha || c = '_' then
    let word ← span fun c => c.isAlpha || c == '_'
    let c ← next start
    if c = '%' then
      let place ← here
      ahead do
        skip 1
        let c ← next start
        if isSpace c || c = '%' then failAt .invalidToken place
    else if !isSpace c then fail .invalidToken
    return .opening (.ofList word)
  else fail .invalidToken

def closeParenthesisToken : Reader Token := do
  match ← rest with
  | [] => return .closeParenthesis none
  | c :: _ =>
    if ['*', '?', '+'].contains c then
      skip 1
      return .closeParenthesis (some c)
    else
      ensureNext ['>', ',', '|', ')']
      return .closeParenthesis none

/-- What follows `<`. -/
def markupToken (start : Position) (fuel : Nat) : Reader Token := do
  let c ← next start
  if c = '!' then
    skip 1
    openingToken start fuel
  else if c = '?' then
    skip 1
    match ← instruction start fuel with
    | some inside => return .declaration inside
    | none => return .instruction
  else if startsName c || 0x80 ≤ c.toNat && isLegal c then return .element
  else fail .invalidToken

/-- The token that is a character by itself. -/
def plainToken? : Char → Option Token
  | ',' => some .comma
  | '|' => some .bar
  | '>' => some .closing
  | '[' => some .openBracket
  | '(' => some .openParenthesis
  | _ => none

/-- The next piece. -/
def token (fuel : Nat) : Reader Token := do
  let start ← here
  match ← rest with
  | [] => match (← get).cut with
    | some fault => failAt fault start
    | none => return .finished
  | c :: _ =>
    if isSpace c then
      spaces
      return .blank
    else if c = '\x22' || c = '\x27' then literalToken start c fuel
    else if c = '<' then
      let back ← get
      skip 1
      let token ← markupToken start fuel
      if token matches .element then set back
      return token
    else if c = '%' then
      skip 1
      percentToken start
    else if c = '#' then
      skip 1
      hashToken start
    else if c = ')' then
      skip 1
      closeParenthesisToken
    else if c = ']' then
      skip 1
      if (← rest).head? = some ']' then
        let behind := (← rest)[1]?
        if behind = none then failAt ((← get).cut.getD .unclosedToken) start
        if behind = some '>' then
          skip 2
          return .closeSection
      return .closeBracket
    else match plainToken? c with
      | some token =>
        skip 1
        return token
      | none =>
        if continuesName c || c = ':' then nameToken start else fail .invalidToken

end Reader

end Ripple.Xml
