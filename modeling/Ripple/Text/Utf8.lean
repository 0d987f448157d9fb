import Ripple.Text.Lines

/-! Bytes read as text.

`unit?` is one well-formed sequence at the head of the bytes. `decode?` reads a file that holds
nothing else; `decodeLossy` reads any file and drops the bytes that are part of no sequence. -/
namespace Ripple.Text.Utf8

/-- The low six bits of a continuation byte. -/
def continuation? (b : UInt8) : Option Nat :=
  if 0x80 ≤ b.toNat ∧ b.toNat < 0xc0 then some (b.toNat - 0x80) else none

/-- A character of the length that its first byte gave; longer forms of shorter ones and
surrogates are not characters. -/
def character? (least code : Nat) : Option Char :=
  if least ≤ code ∧ code.isValidChar then some (Char.ofNat code) else none

/-- The character that starts with byte `b`, and how many of the bytes after it belong to it. -/
def unit? (b : UInt8) (rest : List UInt8) : Option (Char × Nat) :=
  let n := b.toNat
  if n < 0x80 then some (Char.ofNat n, 0)
  else if n < 0xc0 then none
  else if n < 0xe0 then do
    let (b₁ :: _) := rest | none
    let c ← character? 0x80 ((n - 0xc0) * 0x40 + (← continuation? b₁))
    return (c, 1)
  else if n < 0xf0 then do
    let (b₁ :: b₂ :: _) := rest | none
    let c ← character? 0x800
      (((n - 0xe0) * 0x40 + (← continuation? b₁)) * 0x40 + (← continuation? b₂))
    return (c, 2)
  else if n < 0xf8 then do
    let (b₁ :: b₂ :: b₃ :: _) := rest | none
    let c ← character? 0x10000
      ((((n - 0xf0) * 0x40 + (← continuation? b₁)) * 0x40 + (← continuation? b₂)) * 0x40
        + (← continuation? b₃))
    return (c, 3)
  else none

def decode? : List UInt8 → Option (List Char)
  | [] => some []
  | b :: rest => do
    let (c, n) ← unit? b rest
    return c :: (← decode? (rest.drop n))
termination_by bytes => bytes.length
decreasing_by simp only [List.length_drop, List.length_cons]; omega

def decodeLossy : List UInt8 → List Char
  | [] => []
  | b :: rest => match unit? b rest with
    | some (c, n) => c :: decodeLossy (rest.drop n)
    | none => decodeLossy rest
termination_by bytes => bytes.length
decreasing_by all_goals simp only [List.length_drop, List.length_cons]; omega

end Ripple.Text.Utf8
