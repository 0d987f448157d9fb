import Ripple.Xml.Definition
import Ripple.Xml.Element

/-! The elements of a document. -/
namespace Ripple.Xml.Reader

/-! ### Tags -/

/-- An attribute as it stands in a tag. -/
structure RawAttribute where
  name : String
  position : Position
  written : Cursor

/-- The characters of a value up to its quote, which is passed. -/
def rawValue (start : Position) (quote : Char) : Nat → Reader (List Char)
  | 0 => fail .amplified
  | fuel + 1 => do
    let c ← nextLegal start
    if c = '<' then fail .invalidToken
    skip 1
    if c = quote then return []
    else
      if c = '&' then ahead (reference start)
      return c :: (← rawValue start quote fuel)

def rawAttribute (start : Position) (fuel : Nat) : Reader RawAttribute := do
  let position ← here
  let name ← name start
  spaces
  expect start ['=']
  spaces
  let quote ← next start
  if quote != '\x22' && quote != '\x27' then fail .invalidToken
  skip 1
  let inside ← get
  let cs ← rawValue start quote fuel
  return ⟨name, position, { inside with rest := cs, cut := some .invalidToken }⟩

/-- The rest of a start tag: its attributes, and whether it has no end tag. -/
def rawTag (start : Position) : Nat → Reader (List RawAttribute × Bool)
  | 0 => fail .amplified
  | fuel + 1 => do
    let spaced := isSpace (← next start)
    spaces
    let c ← next start
    if c = '>' then
      skip 1
      return ([], false)
    else if c = '/' then
      skip 1
      expect start ['>']
      return ([], true)
    else if spaced then
      let first ← rawAttribute start fuel
      let (others, isEmpty) ← rawTag start fuel
      return (first :: others, isEmpty)
    else fail .invalidToken

/-! ### Name spaces -/

def xmlSpace : String := "http://www.w3.org/XML/1998/namespace"

def scopeSpace : String := "http://www.w3.org/2000/xmlns/"

/-- The name spaces that stand for the beginnings of names. -/
abbrev Scope := List (String × String)

/-- The two halves of a name with a colon. -/
def halves (name : String) : Option (String × String) :=
  let start := name.toList.takeWhile (· != ':')
  let rest := name.toList.drop start.length
  if rest = [] then none else some (.ofList start, .ofList rest.tail)

/-- The beginning of names to which an attribute gives a name space; the empty one is for names
without a beginning. -/
def scopeName? (name : String) : Option String :=
  if name = "xmlns" then some ""
  else (halves name).bind fun h => if h.1 = "xmlns" then some h.2 else none

/-- Fails if the attribute of a tag cannot give a name space to what it names. -/
def checkScope (tag : Position) (name space : String) : Reader Unit := do
  if let some beginning := scopeName? name then
    if beginning ≠ "" ∧ space = "" then failAt .undeclaredName tag
    if beginning = "xmlns" then failAt .reservedScope tag
    if space.contains '\x7d' then failAt .syntaxError tag
    if beginning = "xml" ∧ space ≠ xmlSpace then failAt .reservedXml tag
    if beginning ≠ "xml" ∧ space = xmlSpace then failAt .reservedSpace tag
    if space = scopeSpace then failAt .reservedSpace tag

/-- The name spaces in an element, over those around it. -/
def scopeWith (scope : Scope) (attributes : List (String × String)) : Scope :=
  attributes.filterMap (fun a => (scopeName? a.1).map (·, a.2)) ++ scope

def inSpace (space name : String) : String :=
  if space = "" then name else "\x7b" ++ space ++ "\x7d" ++ name

/-- A name with its name space; one without a beginning is in the space `plain`. -/
def fullName (scope : Scope) (plain : String) (tag : Position) (name : String) :
    Reader String := do
  match halves name with
  | none => return inSpace plain name
  | some (beginning, below) => match scope.lookup beginning with
    | some space => return inSpace space below
    | none => failAt .unboundName tag

/-! ### Attributes -/

/-- The values of the attributes of a tag, each of which may be given once. -/
def givenAttributes (definitions : Definitions) (element : String) (tag : Position) (fuel : Nat)
    (before : List (String × String)) :
    List RawAttribute → Reader (List (String × String))
  | [] => return before
  | raw :: more => do
    if (before.lookup raw.name).isSome then failAt .duplicateAttribute raw.position
    let isPlain := definitions.isPlain element raw.name
    let text := String.ofList (← value definitions isPlain tag raw.written fuel)
    checkScope tag raw.name text
    givenAttributes definitions element tag fuel (before ++ [(raw.name, text)]) more

/-- The attributes that an element has without being given them. -/
def defaultAttributes (definitions : Definitions) (element : String)
    (given : List (String × String)) : List (String × String) :=
  let names := (definitions.attributes.filter (·.element == element)).map (·.name)
  (names.eraseDups.filter fun name => (given.lookup name).isNone).filterMap fun name =>
    ((definitions.attribute? element name).bind (·.value)).map fun value => (name, .ofList value)

/-- The attributes of a tag but those for name spaces, with their full names. -/
def fullAttributes (scope : Scope) (tag : Position) (before : List (String × String)) :
    List (String × String) → Reader (List (String × String))
  | [] => return before
  | (name, value) :: more => do
    if (scopeName? name).isSome then fullAttributes scope tag before more
    else
      let name ← fullName scope "" tag name
      if (before.lookup name).isSome then failAt .duplicateAttribute tag
      fullAttributes scope tag (before ++ [(name, value)]) more

/-! ### Elements -/

/-- What has been read of an element: its text up to the first child, last character first, and its
children, last child first. -/
structure Content where
  text : List Char
  children : List Element

namespace Content

def empty : Content := ⟨[], []⟩

def add (c : Content) (cs : List Char) : Content :=
  if c.children.isEmpty then { c with text := cs.reverse ++ c.text } else c

end Content

/-- The rest of a data section. -/
def data : Nat → Content → Reader Content
  | 0, _ => fail .amplified
  | fuel + 1, before => do
    if (← accept "]]>") then return before
    else match ← rest with
      | [] =>
        if (← get).cut = some .partialCharacter then fail .partialCharacter
        else fail .unclosedData
      | [']'] | [']', ']'] => fail .unclosedData
      | c :: _ =>
        if !isLegal c then fail .invalidToken
        skip 1
        data fuel (before.add [c])

/-- What follows `<!` in an element. -/
def markedSection (start : Position) (fuel : Nat) (before : Content) : Reader Content := do
  let c ← next start
  if c = '[' then
    if (← rest).length < 7 then failAt ((← get).cut.getD .unclosedToken) start
    expect start "[CDATA[".toList
    data fuel before
  else
    expect start ['-']
    comment start fuel
    return before

/-- An end tag: the name in it, and where that is. -/
def endTag (start : Position) : Reader (Position × String) := do
  skip 2
  let position ← here
  if !startsName (← next start) then fail .invalidToken
  let name ← span fun c => continuesName c || c == ':'
  spaces
  expect start ['>']
  return (position, .ofList name)

/-- What surrounds what is read. -/
structure Surrounding where
  scope : Scope
  /-- The entities that are being read. -/
  opened : List String
  /-- The fault of ending here, unless this is all that an entity stands for. -/
  ending : Option Fault

mutual

/-- What an element holds up to its end tag, or what an entity stands for. -/
def content (definitions : Definitions) (around : Surrounding) : Nat → Content → Reader Content
  | 0, _ => fail .amplified
  | fuel + 1, before => do
    let start ← here
    match ← rest with
    | [] => match (← get).cut.or around.ending with
      | some fault => fail fault
      | none => return before
    | '<' :: '/' :: _ =>
      if around.ending.isNone then
        discard <| endTag start
        fail .unbalancedEntity
      return before
    | '<' :: _ =>
      skip 1
      if (← accept "!") then
        content definitions around fuel (← markedSection start fuel before)
      else if (← accept "?") then
        if (← instruction start fuel).isSome then failAt .lateDeclaration start
        content definitions around fuel before
      else
        let e ← element definitions around start fuel
        content definitions around fuel { before with children := e :: before.children }
    | '&' :: _ =>
      skip 1
      let before ← match ← reference start with
        | .character code => pure (before.add [← numbered start code])
        | .entity name => match knownEntities.lookup name, definitions.entities.lookup name with
          | some c, _ => pure (before.add [c])
          | none, some (.text text) =>
            if around.opened.contains name then failAt .endlessEntity start
            let around := { around with opened := name :: around.opened, ending := none }
            within start none text (content definitions around fuel before)
          | none, some .binary => failAt .binaryEntity start
          | none, some .outer => failAt (.unknownEntity name) start
          | none, none =>
            failAt (if definitions.isComplete then .undefinedEntity else .unknownEntity name) start
      content definitions around fuel before
    | c :: _ =>
      if (← accept "]]>") then failAt .invalidToken ⟨start.line, start.column + 2⟩
      if !isLegal c then fail .invalidToken
      skip 1
      content definitions around fuel (before.add [c])

/-- An element whose `<` has been passed. -/
def element (definitions : Definitions) (around : Surrounding) (start : Position) :
    Nat → Reader Element
  | 0 => fail .amplified
  | fuel + 1 => do
    let raw ← name start
    let (rawAttributes, isEmpty) ← rawTag start fuel
    let given ← givenAttributes definitions raw start fuel [] rawAttributes
    let others := defaultAttributes definitions raw given
    for (name, value) in others do checkScope start name value
    let scope := scopeWith around.scope (given ++ others)
    let attributes ← fullAttributes scope start [] (given ++ others)
    let tag ← fullName scope ((scope.lookup "").getD "") start raw
    if isEmpty then return ⟨tag, attributes, "", []⟩
    else
      let ending := around.ending.getD .unbalancedEntity
      let inside ← content definitions { around with scope, ending } fuel .empty
      let (position, closed) ← endTag (← here)
      if closed != raw then failAt .mismatchedTag position
      return ⟨tag, attributes, .ofList inside.text.reverse, inside.children.reverse⟩

end

end Ripple.Xml.Reader
