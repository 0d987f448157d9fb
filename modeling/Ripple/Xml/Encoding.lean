import Ripple.Text.Blank
import Ripple.Text.Lines
import Ripple.Text.Utf8
import Ripple.Xml.Charset
import Ripple.Xml.Fault

/-! The characters of an XML file.

The first bytes of a file tell whether its characters take one byte or more or two bytes and more
(`Encoding.ofStart`); a declaration may then name another encoding for what follows it
(`Encoding.named`). A byte that stands for no character becomes one that no document may hold
(`illegal`), so reading the document stops right there. -/
namespace Ripple.Xml

inductive Encoding where
  | utf8
  | utf16 (bigEndian : Bool)
  | single (above : List Char)
  deriving DecidableEq, Repr

/-- The characters of a file, and what is wrong with its end if a character breaks off there. -/
structure Decoded where
  chars : List Char
  cut : Option Fault

namespace Decoded

def cons (c : Char) (d : Decoded) : Decoded := { d with chars := c :: d.chars }

end Decoded

namespace Encoding

/-- How many bytes a character of ASCII takes. -/
def width : Encoding → Nat
  | utf16 _ => 2
  | utf8 | single _ => 1

/-- What the first bytes of a file tell, and how many of them do nothing else. -/
def ofStart : List UInt8 → Encoding × Nat
  | 0xfe :: 0xff :: _ => (utf16 true, 2)
  | 0xff :: 0xfe :: _ => (utf16 false, 2)
  | 0xef :: 0xbb :: 0xbf :: _ => (utf8, 3)
  | 0 :: _ :: _ => (utf16 true, 0)
  | _ :: 0 :: _ => (utf16 false, 0)
  | _ => (utf8, 0)

/-! ### Decoding -/

/-- How many bytes follow the first one of a character. -/
def following (b : UInt8) : Nat :=
  if b < 0xc0 then 0 else if b < 0xe0 then 1 else if b < 0xf0 then 2 else if b < 0xf5 then 3 else 0

def decodeUtf8 : List UInt8 → Decoded
  | [] => ⟨[], none⟩
  | b :: rest =>
    if rest.length < following b then ⟨[], some .partialCharacter⟩
    else match Text.Utf8.unit? b rest with
      | some (c, n) => (decodeUtf8 (rest.drop n)).cons c
      | none => (decodeUtf8 rest).cons illegal
termination_by bytes => bytes.length
decreasing_by all_goals simp only [List.length_drop, List.length_cons]; omega

/-- The character with a number, if there is one. -/
def ofUnit (n : Nat) : Char := if n.isValidChar then Char.ofNat n else illegal

def decodeUtf16 (unit : UInt8 → UInt8 → Nat) : List UInt8 → Decoded
  | [] => ⟨[], none⟩
  | [_] => ⟨[], some .unclosedToken⟩
  | a :: b :: rest =>
    let first := unit a b
    if 0xd800 ≤ first ∧ first < 0xdc00 then
      match rest with
      | c :: d :: rest =>
        (decodeUtf16 unit rest).cons
          (ofUnit (0x10000 + first % 0x400 * 0x400 + unit c d % 0x400))
      | _ => ⟨[], some .partialCharacter⟩
    else (decodeUtf16 unit rest).cons (ofUnit first)

def decodeSingle (above : List Char) (b : UInt8) : Char :=
  if b < 0x80 then Char.ofNat b.toNat else above.getD (b.toNat - 0x80) illegal

/-- The beginnings of marks of an encoding, which are nothing by themselves. -/
def brokenMarks : List (List UInt8) := [[0], [0xfe], [0xff], [0xef], [0xef, 0xbb]]

def decode (bytes : List UInt8) : Encoding → Decoded
  | utf8 => decodeUtf8 bytes
  | utf16 true => decodeUtf16 (fun a b => a.toNat * 0x100 + b.toNat) bytes
  | utf16 false => decodeUtf16 (fun a b => b.toNat * 0x100 + a.toNat) bytes
  | single above => ⟨bytes.map (decodeSingle above), none⟩

/-! ### Names of encodings -/

/-- The encoding with a name that is not looked up, in a file that is read as `current`. -/
def builtIn? (current : Encoding) (name : String) : Option Encoding :=
  let isWide := current.width = 2
  match name.map Char.toUpper with
  | "UTF-8" => some utf8
  | "UTF-16" => some (if isWide then current else utf16 true)
  | "UTF-16BE" => some (utf16 true)
  | "UTF-16LE" => some (utf16 false)
  | "ISO-8859-1" => some (single ((List.range 128).map fun n => .ofNat (0x80 + n)))
  | "US-ASCII" => some (single [])
  | _ => none

/-- The encoding that a declaration at `position` names. -/
def named (charsets : Charsets) (current : Encoding) (name : String) (position : Position) :
    Except Error Encoding :=
  match builtIn? current name with
  | some encoding =>
    if encoding.width ≠ current.width ∨ encoding.width = 2 ∧ encoding ≠ current then
      .error (.malformed .wrongEncoding position)
    else .ok encoding
  | none => match charsets name with
    | some (.single above) => .ok (single above)
    | some .multiple => .error (.encoding .wide)
    | some .foreign => .error (.malformed .foreignEncoding position)
    | none => .error (.encoding (.unknown name))

end Encoding

end Ripple.Xml
