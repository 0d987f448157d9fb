/-! What can be wrong with an XML document.

A document is read from front to back, and the first thing that is wrong with it is told with its
line and column. Most faults are at the character that cannot stand; what the document ends in the
middle of is at fault where it starts, and so is all that a name stands for at that name. -/
namespace Ripple.Xml

inductive Fault where
  | noElement | mismatchedTag | invalidToken | syntaxError | junk
  | unclosedToken | unclosedData | partialCharacter | badCharacterNumber
  | badDeclaration | lateDeclaration | wrongEncoding | foreignEncoding | badPublicName
  | duplicateAttribute
  | unboundName | undeclaredName | reservedXml | reservedScope | reservedSpace
  | undefinedEntity | endlessEntity | unbalancedEntity | binaryEntity | outerEntity
  | entityInDeclaration | amplified
  /-- An entity that nothing in the document declares, but something outside of it might. -/
  | unknownEntity (name : String)
  deriving DecidableEq, Repr

def Fault.message : Fault → String
  | noElement => "no element found"
  | mismatchedTag => "mismatched tag"
  | invalidToken => "not well-formed (invalid token)"
  | syntaxError => "syntax error"
  | junk => "junk after document element"
  | unclosedToken => "unclosed token"
  | unclosedData => "unclosed CDATA section"
  | partialCharacter => "partial character"
  | badCharacterNumber => "reference to invalid character number"
  | badDeclaration => "XML declaration not well-formed"
  | lateDeclaration => "XML or text declaration not at start of entity"
  | wrongEncoding => "encoding specified in XML declaration is incorrect"
  | foreignEncoding => "unknown encoding"
  | badPublicName => "illegal character(s) in public id"
  | duplicateAttribute => "duplicate attribute"
  | unboundName => "unbound prefix"
  | undeclaredName => "must not undeclare prefix"
  | reservedXml =>
    "reserved prefix (xml) must not be undeclared or bound to another namespace name"
  | reservedScope => "reserved prefix (xmlns) must not be declared or undeclared"
  | reservedSpace => "prefix must not be bound to one of the reserved namespace names"
  | undefinedEntity => "undefined entity"
  | endlessEntity => "recursive entity reference"
  | unbalancedEntity => "asynchronous entity"
  | binaryEntity => "reference to binary entity"
  | outerEntity => "reference to external entity in attribute"
  | entityInDeclaration => "illegal parameter entity reference"
  | amplified => "limit on input amplification factor (from DTD and entities) breached"
  | unknownEntity name => "undefined entity &" ++ name ++ ";"

structure Position where
  line : Nat
  column : Nat
  deriving DecidableEq, Repr

/-- The place behind a character. -/
def Position.after (p : Position) (c : Char) : Position :=
  if c = '\n' then ⟨p.line + 1, 0⟩ else ⟨p.line, p.column + 1⟩

/-- Why the encoding that a document names cannot be used. -/
inductive EncodingError where
  | unknown (name : String)
  /-- Its characters take several bytes. -/
  | wide
  deriving DecidableEq, Repr

def EncodingError.message : EncodingError → String
  | unknown name => "unknown encoding: " ++ name
  | wide => "multi-byte encodings are not supported"

inductive Error where
  | malformed (fault : Fault) (position : Position)
  | encoding (e : EncodingError)
  deriving DecidableEq, Repr

/-- What is told of a fault. -/
def Fault.messageAt (fault : Fault) (position : Position) : String :=
  fault.message ++ ": line " ++ toString position.line ++ ", column " ++ toString position.column

end Ripple.Xml
