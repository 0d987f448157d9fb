import Ripple.Text.Lines
import Ripple.Xml.Content
import Ripple.Xml.DocumentType
import Ripple.Xml.Encoding

/-! XML documents.

A document may declare itself, which can change the encoding of all that follows (`declaration`).
Then come definitions, one element, and nothing else but comments and instructions (`document`). -/
namespace Ripple.Xml
namespace Reader
variable {α : Type}

/-! ### The declaration -/

/-- What a document says of itself. -/
structure Declaration where
  /-- The name of its encoding, and where that is. -/
  encoding : Option (Position × String)
  isAlone : Bool

structure Setting where
  name : String
  namePlace : Position
  value : String
  valuePlace : Position

def isValueCharacter (c : Char) : Bool := c.isAlphanum || c == '.' || c == '-' || c == '_'

/-- Passes a character, which has to come next. -/
def mark (p : Char → Bool) : Reader Char := do
  match ← rest with
  | c :: _ =>
    if p c then
      skip 1
      return c
    else fail .badDeclaration
  | [] => fail .badDeclaration

/-- The next setting of a declaration, if there is one. -/
def setting : Reader (Option Setting) := do
  if (← rest) = [] then return none
  discard <| mark isSpace
  spaces
  if (← rest) = [] then return none
  let namePlace ← here
  let name ← span fun c => !isSpace c && c != '=' && c.toNat < 0x80
  spaces
  if name = [] then fail .badDeclaration
  discard <| mark (· == '=')
  spaces
  let quote ← mark fun c => c == '\x22' || c == '\x27'
  let valuePlace ← here
  let value ← span isValueCharacter
  discard <| mark (· == quote)
  return some ⟨.ofList name, namePlace, .ofList value, valuePlace⟩

/-- The last setting of a declaration, if it is there. -/
def aloneSetting : Option Setting → Reader Bool
  | none => return false
  | some s => do
    if s.name ≠ "standalone" then failAt .badDeclaration s.namePlace
    if s.value ≠ "yes" ∧ s.value ≠ "no" then failAt .badDeclaration s.valuePlace
    spaces
    if (← rest) ≠ [] then fail .badDeclaration
    return s.value == "yes"

/-- What stands between the name of a declaration and its end. -/
def declaration : Reader Declaration := do
  let start ← here
  match ← setting with
  | none => failAt .badDeclaration start
  | some version =>
    if version.name ≠ "version" then failAt .badDeclaration version.namePlace
    match ← setting with
    | none => return ⟨none, false⟩
    | some s =>
      if s.name = "encoding" then
        if !(s.value.toList.head?.any Char.isAlpha) then failAt .badDeclaration s.valuePlace
        return ⟨some (s.valuePlace, s.value), ← aloneSetting (← setting)⟩
      else return ⟨none, ← aloneSetting (some s)⟩

/-- How many characters the declaration at the front takes. -/
def declarationLength : List Char → Nat
  | '?' :: '>' :: _ => 2
  | _ :: cs => declarationLength cs + 1
  | [] => 0

/-- Goes on in the encoding that the declaration names, in which the places of all characters are
counted then. -/
def useEncoding (charsets : Charsets) (current : Encoding) (marks : Nat) (bytes : List UInt8)
    (d : Declaration) : Reader Unit := do
  if let some (position, name) := d.encoding then
    let encoding ← MonadExcept.ofExcept (current.named charsets name position)
    if encoding ≠ current then
      let length := declarationLength (current.decode (bytes.drop marks)).chars
      let (passed, coming) := bytes.splitAt (marks + length * current.width)
      let passed := Text.unixBreaks (encoding.decode passed).chars
      let coming := encoding.decode coming
      modify fun s => { s with
        rest := Text.unixBreaks coming.chars
        position := passed.foldl Position.after ⟨1, 0⟩
        cut := coming.cut }

/-! ### The whole document -/

/-- The first element and what stands before it, from a token on. -/
def prolog (mayDefine : Bool) : Nat → Definitions → Position × Token → Reader Element
  | 0, _, _ => fail .amplified
  | fuel + 1, definitions, (position, t) => do
    match t, mayDefine with
    | .element, _ =>
      skip 1
      element definitions ⟨[("xml", xmlSpace)], [], some .noElement⟩ position fuel
    | .comment, _ | .instruction, _ | .blank, _ =>
      prolog mayDefine fuel definitions (← piece fuel)
    | .opening "DOCTYPE", true =>
      let found ← documentType fuel definitions
      prolog false fuel found (← piece fuel)
    | t, _ => unexpected position t

/-- What stands behind the first element. -/
def epilog : Nat → Reader Unit
  | 0 => fail .amplified
  | fuel + 1 => do
    match ← piece fuel with
    | (_, .finished) => return ()
    | (_, .comment) | (_, .instruction) | (_, .blank) => epilog fuel
    | (position, _) => failAt .junk position

def document (charsets : Charsets) (encoding : Encoding) (marks : Nat) (bytes : List UInt8)
    (fuel : Nat) : Reader Element := do
  let position ← here
  let root ← match ← token fuel with
    | .declaration inside =>
      let d ← reading inside declaration
      useEncoding charsets encoding marks bytes d
      prolog true fuel ⟨[], [], d.isAlone, false⟩ (← piece fuel)
    | t => prolog true fuel ⟨[], [], false, false⟩ (position, t)
  epilog fuel
  return root

end Reader

/-- The root element of a document. -/
def parse (charsets : Charsets) (bytes : List UInt8) : Except Error Element :=
  if Encoding.brokenMarks.contains bytes then .error (.malformed .unclosedToken ⟨1, 0⟩)
  else
    let (encoding, marks) := Encoding.ofStart bytes
    let decoded := encoding.decode (bytes.drop marks)
    let start : Cursor :=
      ⟨Text.unixBreaks decoded.chars, ⟨1, if marks = 0 then 0 else 1⟩, decoded.cut, bytes.length, 0⟩
    let fuel := 64 * (bytes.length + 2)
    match Reader.document charsets encoding marks bytes fuel start with
    | .ok (e, _) => .ok e
    | .error e => .error e

end Ripple.Xml
