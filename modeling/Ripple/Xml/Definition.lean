import Ripple.Xml.Reader

/-! What a document defines for itself: entities and attributes. -/
namespace Ripple.Xml

inductive Entity where
  | text (cs : List Char)
  /-- It stands for another document. -/
  | outer
  /-- It stands for something that is no document. -/
  | binary
  deriving DecidableEq, Repr

/-- An attribute of the elements with a name. -/
structure AttributeDefinition where
  element : String
  name : String
  /-- Whether blanks matter in its value. -/
  isPlain : Bool
  value : Option (List Char)

structure Definitions where
  entities : List (String × Entity)
  attributes : List AttributeDefinition
  /-- The document says that it needs no definitions from outside of it. -/
  isAlone : Bool
  /-- There may be definitions outside of the document. -/
  hasOuter : Bool

namespace Definitions

/-- An entity that is not defined in the document is not defined at all. -/
def isComplete (d : Definitions) : Bool := d.isAlone || !d.hasOuter

/-- The first definition of an attribute, which is the one that counts. -/
def attribute? (d : Definitions) (element name : String) : Option AttributeDefinition :=
  d.attributes.find? fun a => a.element == element && a.name == name

/-- Whether blanks matter in the value of an attribute. -/
def isPlain (d : Definitions) (element name : String) : Bool :=
  ((d.attribute? element name).map (·.isPlain)).getD true

end Definitions

namespace Reader

/-! ### Values -/

/-- A value goes on with a blank, unless blanks do not matter and it already ends in one. -/
def addBlank (isPlain : Bool) (before : List Char) : List Char :=
  if !isPlain && (before.head?.getD ' ') == ' ' then before else ' ' :: before

/-- The characters of a value, last one first: blanks become spaces and references what they stand
for. An entity in itself has no end, so those that are being read are `opened`. -/
def valueText (definitions : Definitions) (isPlain : Bool) (tag : Position)
    (opened : List String) : Nat → List Char → Reader (List Char)
  | 0, _ => fail .amplified
  | fuel + 1, before => do
    let position ← here
    match ← rest with
    | [] => return before
    | '&' :: _ =>
      skip 1
      let before ← match ← reference position with
        | .character code =>
          let c ← numbered position code
          pure (if c = ' ' then addBlank isPlain before else c :: before)
        | .entity name => match knownEntities.lookup name, definitions.entities.lookup name with
          | some c, _ => pure (c :: before)
          | none, some (.text text) =>
            if opened.contains name then failAt .endlessEntity tag
            within tag (some .invalidToken) text
              (valueText definitions isPlain tag (name :: opened) fuel before)
          | none, some .outer => failAt .outerEntity position
          | none, some .binary => failAt .binaryEntity position
          | none, none =>
            if definitions.isComplete then failAt .undefinedEntity tag
            pure before
      valueText definitions isPlain tag opened fuel before
    | c :: _ =>
      if c = '<' || !isLegal c then fail .invalidToken
      skip 1
      valueText definitions isPlain tag opened fuel
        (if isSpace c then addBlank isPlain before else c :: before)

/-- The value that is written at a place, for an attribute of the tag at `tag`. -/
def value (definitions : Definitions) (isPlain : Bool) (tag : Position) (written : Cursor)
    (fuel : Nat) : Reader (List Char) := do
  let cs ← reading written (valueText definitions isPlain tag [] fuel [])
  return (if !isPlain && cs.head? = some ' ' then cs.tail else cs).reverse

end Reader

end Ripple.Xml
