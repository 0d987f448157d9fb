import Ripple.Xml.Definition
import Ripple.Xml.Token

/-! What stands between the declaration of a document and its first element.

Of the definitions there only those of entities and attributes are of use; the others just have to
be in order. -/
namespace Ripple.Xml.Reader
variable {α : Type}

/-! ### Pieces of a definition -/

/-- A token that cannot stand at a place. -/
def unexpected (position : Position) : Token → Reader α
  | .finished => failAt .noElement position
  | .parameter => failAt .entityInDeclaration position
  | .declaration _ => failAt .lateDeclaration position
  | _ => failAt .syntaxError position

/-- The next token that is no blank, and where it is. -/
def piece (fuel : Nat) : Reader (Position × Token) := do
  let position ← here
  match ← token fuel with
  | .blank =>
    let position ← here
    return (position, ← token fuel)
  | t => return (position, t)

/-- The end of a definition. -/
def close (fuel : Nat) : Reader Unit := do
  match ← piece fuel with
  | (_, .closing) => return ()
  | (position, t) => unexpected position t

def plainNamePiece (fuel : Nat) : Reader String := do
  match ← piece fuel with
  | (_, .name s) => return s
  | (position, t) => unexpected position t

def namePiece (fuel : Nat) : Reader String := do
  match ← piece fuel with
  | (_, .name s) | (_, .pairName s) => return s
  | (position, t) => unexpected position t

/-- A text in quotes, and where it starts. -/
def literal (fuel : Nat) : Reader (Position × Cursor) := do
  match ← piece fuel with
  | (position, .literal inside) => return (position, inside)
  | (position, t) => unexpected position t

/-! ### Other documents -/

/-- Whether a character may stand in the public name of a document. -/
def isPublic (c : Char) : Bool :=
  c.isAlphanum || " \r\n-\x27()+,./:=?;!*#@$_%".contains c

def publicText : List Char → Reader Unit
  | [] => return ()
  | c :: cs => do
    if isPublic c then
      skip 1
      publicText cs
    else fail .badPublicName

def publicName (fuel : Nat) : Reader Unit := do
  let (_, inside) ← literal fuel
  reading inside (publicText inside.rest)

/-- Passes the place of another document, if its first word comes next. -/
def outerPlace (fuel : Nat) : Token → Reader Bool
  | .name "SYSTEM" => do
    discard <| literal fuel
    return true
  | .name "PUBLIC" => do
    publicName fuel
    discard <| literal fuel
    return true
  | _ => return false

/-! ### Entities -/

/-- What follows a percent sign in the text of an entity, where it may not stand. -/
def percentInText (position : Position) : Reader α := do
  if startsName (← next position) then
    discard <| plainName position
    expect position [';']
    failAt .entityInDeclaration position
  else fail .invalidToken

/-- The text that an entity stands for, last character first. The characters that are given by
number are put in, but names of entities stay. -/
def entityText : Nat → List Char → Reader (List Char)
  | 0, _ => fail .amplified
  | fuel + 1, before => do
    let position ← here
    match ← rest with
    | [] => return before
    | '%' :: _ =>
      skip 1
      percentInText position
    | '&' :: _ =>
      skip 1
      match ← reference position with
      | .character code => entityText fuel ((← numbered position code) :: before)
      | .entity name => entityText fuel (';' :: name.toList.reverse ++ '&' :: before)
    | c :: _ =>
      skip 1
      entityText fuel (c :: before)

def definedText (inside : Cursor) (fuel : Nat) : Reader (List Char) :=
  return (← reading inside (entityText fuel [])).reverse

/-- What follows the place of what an entity stands for. -/
def outerEntity (fuel : Nat) : Reader Entity := do
  match ← piece fuel with
  | (_, .closing) => return .outer
  | (_, .name "NDATA") =>
    discard <| plainNamePiece fuel
    close fuel
    return .binary
  | (position, t) => unexpected position t

/-- What a definition says that an entity stands for; `keeps` says if it counts. -/
def entityMeaning (keeps : Bool) (fuel : Nat) : Reader Entity := do
  match ← piece fuel with
  | (_, .literal inside) =>
    let text ← if keeps then definedText inside fuel else pure []
    close fuel
    return .text text
  | (position, t) =>
    if (← outerPlace fuel t) then outerEntity fuel else unexpected position t

/-- What an entity stands for that is only used in definitions. -/
def parameterMeaning (keeps : Bool) (fuel : Nat) : Reader Unit := do
  match ← piece fuel with
  | (_, .literal inside) => if keeps then discard <| definedText inside fuel
  | (position, t) =>
    if !(← outerPlace fuel t) then unexpected position t
  close fuel

/-- What follows `<!ENTITY`. The entities that are known anyway stay what they are. -/
def entityDefinition (keeps : Bool) (fuel : Nat) : Reader (List (String × Entity)) := do
  match ← piece fuel with
  | (_, .percent) =>
    discard <| plainNamePiece fuel
    parameterMeaning keeps fuel
    return []
  | (_, .name name) =>
    let meaning ← entityMeaning keeps fuel
    return if keeps && (knownEntities.lookup name).isNone then [(name, meaning)] else []
  | (position, t) => unexpected position t

/-! ### Attributes -/

def valueKinds : List String :=
  ["CDATA", "ID", "IDREF", "IDREFS", "ENTITY", "ENTITIES", "NMTOKEN", "NMTOKENS"]

/-- The rest of a list of values; names of notations are plain names. -/
def valueList (isNotation : Bool) : Nat → Reader Unit
  | 0 => fail .amplified
  | fuel + 1 => do
    match ← piece fuel, isNotation with
    | (_, .name _), _ | (_, .pairName _), false | (_, .word), false => pure ()
    | (position, t), _ => unexpected position t
    match ← piece fuel with
    | (_, .bar) => valueList isNotation fuel
    | (_, .closeParenthesis none) => return ()
    | (position, t) => unexpected position t

/-- The kind of the values of an attribute: whether blanks matter in them. -/
def valueKind (fuel : Nat) : Reader Bool := do
  match ← piece fuel with
  | (_, .openParenthesis) =>
    valueList false fuel
    return false
  | (position, .name kind) =>
    if valueKinds.contains kind then return kind == "CDATA"
    else if kind = "NOTATION" then
      match ← piece fuel with
      | (_, .openParenthesis) =>
        valueList true fuel
        return false
      | (position, t) => unexpected position t
    else unexpected position (.name kind)
  | (position, t) => unexpected position t

/-- The value that an attribute has where none is given. -/
def defaultValue (definitions : Definitions) (keeps isPlain : Bool) (fuel : Nat) :
    Reader (Option (List Char)) := do
  let written := fun position inside => do
    if keeps then return some (← value definitions isPlain position inside fuel) else return none
  match ← piece fuel with
  | (_, .hashName "IMPLIED") | (_, .hashName "REQUIRED") => return none
  | (_, .hashName "FIXED") =>
    let (position, inside) ← literal fuel
    written position inside
  | (position, .literal inside) => written position inside
  | (position, t) => unexpected position t

/-- The attributes that follow `<!ATTLIST` and the name of the elements that have them. -/
def attributeDefinitions (definitions : Definitions) (keeps : Bool) (element : String) :
    Nat → List AttributeDefinition → Reader (List AttributeDefinition)
  | 0, _ => fail .amplified
  | fuel + 1, before => do
    match ← piece fuel with
    | (_, .closing) => return if keeps then before else []
    | (_, .name name) | (_, .pairName name) =>
      let isPlain ← valueKind fuel
      let value ← defaultValue definitions keeps isPlain fuel
      attributeDefinitions definitions keeps element fuel
        (before ++ [⟨element, name, isPlain, value⟩])
    | (position, t) => unexpected position t

/-! ### Elements and notations -/

/-- The rest of what an element may hold, in groups of parts. The groups that are still open are
given by what parts them, as far as that is known. -/
def contentModel : Nat → Bool → List (Option Char) → Reader Unit
  | 0, _, _ => fail .amplified
  | _, _, [] => return ()
  | fuel + 1, needsPart, groups@(parted :: outer) => do
    match ← piece fuel, needsPart with
    | (_, .openParenthesis), true => contentModel fuel true (none :: groups)
    | (_, .name _), true | (_, .pairName _), true | (_, .countedName), true =>
      contentModel fuel false groups
    | (_, .closeParenthesis _), false => contentModel fuel false outer
    | (position, .comma), false =>
      if parted = some '|' then failAt .syntaxError position
      contentModel fuel true (some ',' :: outer)
    | (position, .bar), false =>
      if parted = some ',' then failAt .syntaxError position
      contentModel fuel true (some '|' :: outer)
    | (position, t), _ => unexpected position t

/-- The names in a group that holds text as well. -/
def mixedModel (isFirst : Bool) : Nat → Reader Unit
  | 0 => fail .amplified
  | fuel + 1 => do
    match ← piece fuel with
    | (_, .closeParenthesis (some '*')) => return ()
    | (_, .bar) =>
      discard <| namePiece fuel
      mixedModel false fuel
    | (position, t) =>
      if isFirst && t matches .closeParenthesis none then return ()
      unexpected position t

/-- What follows `<!ELEMENT`. -/
def elementDefinition (fuel : Nat) : Reader Unit := do
  discard <| namePiece fuel
  match ← piece fuel with
  | (_, .name "EMPTY") | (_, .name "ANY") => pure ()
  | (_, .openParenthesis) =>
    let back ← get
    match ← piece fuel with
    | (_, .hashName "PCDATA") => mixedModel true fuel
    | _ =>
      set back
      contentModel fuel true [none]
  | (position, t) => unexpected position t
  close fuel

/-- What follows `<!NOTATION`. -/
def notationDefinition (fuel : Nat) : Reader Unit := do
  discard <| plainNamePiece fuel
  match ← piece fuel with
  | (_, .name "SYSTEM") =>
    discard <| literal fuel
    close fuel
  | (_, .name "PUBLIC") =>
    publicName fuel
    match ← piece fuel with
    | (_, .closing) => return ()
    | (_, .literal _) => close fuel
    | (position, t) => unexpected position t
  | (position, t) => unexpected position t

/-! ### All definitions -/

/-- The definitions in brackets. They count until something is named that may hold others. -/
def definitions : Nat → Definitions → Reader Definitions
  | 0, _ => fail .amplified
  | fuel + 1, before => do
    match ← piece fuel with
    | (_, .closeBracket) => return before
    | (_, .comment) | (_, .instruction) => definitions fuel before
    | (_, .parameter) => definitions fuel { before with hasOuter := true }
    | (_, .opening "ENTITY") =>
      let found ← entityDefinition before.isComplete fuel
      definitions fuel { before with entities := before.entities ++ found }
    | (_, .opening "ATTLIST") =>
      let element ← namePiece fuel
      let found ← attributeDefinitions before before.isComplete element fuel []
      definitions fuel { before with attributes := before.attributes ++ found }
    | (_, .opening "ELEMENT") =>
      elementDefinition fuel
      definitions fuel before
    | (_, .opening "NOTATION") =>
      notationDefinition fuel
      definitions fuel before
    | (position, t) => unexpected position t

/-- What follows `<!DOCTYPE`. -/
def documentType (fuel : Nat) (before : Definitions) : Reader Definitions := do
  discard <| namePiece fuel
  let (position, t) ← piece fuel
  let hasOuter ← outerPlace fuel t
  let (position, t) ← if hasOuter then piece fuel else pure (position, t)
  let found ← match t with
    | .openBracket =>
      let found ← definitions fuel before
      close fuel
      pure found
    | .closing => pure before
    | t => unexpected position t
  return { found with hasOuter := found.hasOuter || hasOuter }

end Ripple.Xml.Reader
