import Ripple.Text.Compatibility.Table
import Ripple.Text.Split

/-! One spelling for identifiers that are written in several ways.

`compatible` gives the compatibility composition of a text of identifier characters: every
character is taken apart into what it stands for (`decompose`), the marks behind a letter are put
in order of their classes (`arrange`), and letters and marks that make one character are put
together (`compose`). A text in ASCII is its own. -/
namespace Ripple.Text.Compatibility

def hexDigit (c : Char) : Nat :=
  if c.isDigit then c.toNat - '0'.toNat else c.toNat - 'a'.toNat + 10

def readHex (cs : List Char) : Nat := cs.foldl (fun n c => 16 * n + hexDigit c) 0

/-- The entries of a table. -/
def entries (table : String) : List (List Nat) :=
  let words := (table.toList.map fun c => if c = '\n' then ' ' else c).splitOn ' '
  (words.filter (· != [])).map fun entry => (entry.splitOn ',').map readHex

def runEntries : List (List Nat) := entries runs

def sequenceEntries : List (List Nat) := entries sequences

def classEntries : List (List Nat) := entries classes

def compositionEntries : List (List Nat) := entries compositions

/-- What the run around a code point gives for it, for a run that goes on in step. -/
def inRun? (step : Nat → Nat) (n : Nat) : List Nat → Option Nat
  | [first, last, value] => if first ≤ n ∧ n ≤ last then some (value + step (n - first)) else none
  | _ => none

/-! ### Syllables that are made by rule -/

def syllableBase : Nat := 0xac00

def leadBase : Nat := 0x1100

def vowelBase : Nat := 0x1161

def tailBase : Nat := 0x11a7

/-- The letters of a syllable. -/
def syllableLetters? (n : Nat) : Option (List Nat) :=
  if syllableBase ≤ n ∧ n < syllableBase + 11172 then
    let i := n - syllableBase
    let letters := [leadBase + i / 588, vowelBase + i % 588 / 28]
    some (if i % 28 = 0 then letters else letters ++ [tailBase + i % 28])
  else none

/-- The syllable of a lead and a vowel, or of a syllable without a tail and a tail. -/
def syllable? (a b : Nat) : Option Nat :=
  if leadBase ≤ a ∧ a < leadBase + 19 ∧ vowelBase ≤ b ∧ b < vowelBase + 21 then
    some (syllableBase + ((a - leadBase) * 21 + (b - vowelBase)) * 28)
  else if syllableBase ≤ a ∧ a < syllableBase + 11172 ∧ (a - syllableBase) % 28 = 0 ∧
      tailBase < b ∧ b < tailBase + 28 then
    some (a + (b - tailBase))
  else none

/-! ### The three steps -/

def decompose (n : Nat) : List Nat :=
  if n < 0x80 then [n]
  else match syllableLetters? n with
    | some letters => letters
    | none => match runEntries.findSome? (inRun? id n) with
      | some m => [m]
      | none => ((sequenceEntries.find? fun e => e.head? == some n).map List.tail).getD [n]

/-- The combining class of a mark; what is no mark has class 0. -/
def combiningClass (n : Nat) : Nat :=
  if n < 0x300 then 0 else (classEntries.findSome? (inRun? (fun _ => 0) n)).getD 0

/-- Puts the marks in front in order of their classes, those of one class as they come. -/
def arrange (fuel : Nat) (ns : List Nat) : List Nat :=
  match fuel, ns with
  | 0, ns => ns
  | _, [] => []
  | fuel + 1, n :: rest =>
    let marks := rest.takeWhile fun m => combiningClass m != 0
    let sorted := marks.mergeSort fun a b => decide (combiningClass a ≤ combiningClass b)
    if combiningClass n = 0 then n :: sorted ++ arrange fuel (rest.drop marks.length)
    else
      (n :: marks).mergeSort (fun a b => decide (combiningClass a ≤ combiningClass b))
        ++ arrange fuel (rest.drop marks.length)

def composition? (a b : Nat) : Option Nat :=
  (syllable? a b).or
    (compositionEntries.findSome? fun
      | [n, x, y] => if x = a ∧ y = b then some n else none
      | _ => none)

/-- Puts what follows a starter together with it where that makes a character. `kept` are the
marks that stay behind it, last first. -/
def compose (starter : Nat) (kept : List Nat) : List Nat → List Nat
  | [] => starter :: kept.reverse
  | n :: rest =>
    let blocked := match kept with
      | [] => false
      | k :: _ => decide (combiningClass n ≤ combiningClass k)
    match (if blocked then none else composition? starter n) with
    | some m => compose m kept rest
    | none =>
      if combiningClass n = 0 then starter :: kept.reverse ++ compose n [] rest
      else compose starter (n :: kept) rest

end Compatibility

def compatible (s : String) : String :=
  if s.toList.all fun c => decide (c.toNat < 0x80) then s
  else
    let ns := s.toList.flatMap fun c => Compatibility.decompose c.toNat
    match Compatibility.arrange ns.length ns with
    | [] => ""
    | n :: rest => .ofList ((Compatibility.compose n [] rest).map Char.ofNat)

end Ripple.Text
