import Ripple.Text.Quoted
import Ripple.Text.Split

/-! Values of a settings file, and how messages show them.

Numbers with a point are kept exactly as they are written. A table has its entries in the order in
which they were set. -/
namespace Ripple.Toml

def powerOfTen (n : Nat) : Nat := Nat.pow 10 n

/-- A number with a point: its digits, of which `places` stand behind the point. -/
structure Decimal where
  negative : Bool
  digits : Nat
  places : Nat
  deriving DecidableEq, Repr

namespace Decimal

/-- Leaves out zeros at the end, but for one behind the point. -/
def trim : Nat → Decimal → Decimal
  | 0, d => d
  | n + 1, d =>
    if 1 < d.places ∧ d.digits % 10 = 0 then trim n ⟨d.negative, d.digits / 10, d.places - 1⟩ else d

/-- The number times a power of ten. -/
def shift (d : Decimal) (power : Int) : Decimal :=
  let places := (d.places : Int) - power
  if places < 1 then ⟨d.negative, d.digits * powerOfTen (1 - places).toNat, 1⟩
  else ⟨d.negative, d.digits, places.toNat⟩

def normal (d : Decimal) : Decimal := d.trim d.places

def text (d : Decimal) : String :=
  let digits := Nat.toDigits 10 d.digits
  let padded := List.replicate (d.places + 1 - digits.length) '0' ++ digits
  let whole := padded.length - d.places
  .ofList ((if d.negative then ['-'] else []) ++ padded.take whole ++ '.' :: padded.drop whole)

end Decimal

inductive Value where
  | text (s : String)
  | integer (n : Int)
  | decimal (d : Decimal)
  | boolean (b : Bool)
  /-- A date, a time, or a number that is none. -/
  | other (s : String)
  | array (items : List Value)
  | table (entries : List (String × Value))

abbrev Table := List (String × Value)

/-- What reads a text, whose lines end in line feeds, as a table. -/
abbrev Decoder := List Char → Option Table

instance : Inhabited Value := ⟨.table []⟩

/-- Which of the kinds of a value a value is of; the items of an array are of one. -/
inductive Kind where
  | text | integer | decimal | boolean | other | array | table
  deriving DecidableEq, Repr

namespace Value

def kind : Value → Kind
  | text _ => .text
  | integer _ => .integer
  | decimal _ => .decimal
  | boolean _ => .boolean
  | other _ => .other
  | array _ => .array
  | table _ => .table

def string? : Value → Option String
  | text s => some s
  | _ => none

/-- The strings of an array that holds nothing else. -/
def strings? : Value → Option (List String)
  | array items => items.mapM string?
  | _ => none

/-- The value as a message shows it. -/
def shown : Value → String
  | text s => Text.quoted s
  | integer n => toString n
  | decimal d => d.text
  | boolean true => "True"
  | boolean false => "False"
  | other s => s
  | array items => "[" ++ Text.join ", " (shownAll items) ++ "]"
  | table entries => "\x7b" ++ Text.join ", " (shownEntries entries) ++ "\x7d"
where
  shownAll : List Value → List String
    | [] => []
    | v :: rest => v.shown :: shownAll rest
  shownEntries : List (String × Value) → List String
    | [] => []
    | (key, v) :: rest => (Text.quoted key ++ ": " ++ v.shown) :: shownEntries rest

/-! ### Comparing values -/

mutual

def same : Value → Value → Bool
  | text s, text s' => s == s'
  | integer n, integer n' => n == n'
  | decimal d, decimal d' => d == d'
  | boolean b, boolean b' => b == b'
  | other s, other s' => s == s'
  | array items, array items' => sameItems items items'
  | table entries, table entries' => sameEntries entries entries'
  | _, _ => false

def sameItems : List Value → List Value → Bool
  | [], [] => true
  | v :: rest, v' :: rest' => same v v' && sameItems rest rest'
  | _, _ => false

def sameEntries : List (String × Value) → List (String × Value) → Bool
  | [], [] => true
  | (key, v) :: rest, (key', v') :: rest' => key == key' && same v v' && sameEntries rest rest'
  | _, _ => false

end

mutual

theorem same_eq_true_iff : (v v' : Value) → (same v v' = true ↔ v = v')
  | text _, v' => by cases v' <;> simp [same]
  | integer _, v' => by cases v' <;> simp [same]
  | decimal _, v' => by cases v' <;> simp [same]
  | boolean _, v' => by cases v' <;> simp [same]
  | other _, v' => by cases v' <;> simp [same]
  | array items, v' => by cases v' <;> simp [same, sameItems_eq_true_iff items]
  | table entries, v' => by cases v' <;> simp [same, sameEntries_eq_true_iff entries]

theorem sameItems_eq_true_iff : (items items' : List Value) →
    (sameItems items items' = true ↔ items = items')
  | [], items' => by cases items' <;> simp [sameItems]
  | v :: rest, items' => by
    cases items' <;> simp [sameItems, same_eq_true_iff v, sameItems_eq_true_iff rest]

theorem sameEntries_eq_true_iff : (entries entries' : List (String × Value)) →
    (sameEntries entries entries' = true ↔ entries = entries')
  | [], entries' => by cases entries' <;> simp [sameEntries]
  | (key, v) :: rest, entries' => by
    cases entries' <;>
      simp [sameEntries, same_eq_true_iff v, sameEntries_eq_true_iff rest, Prod.ext_iff]

end

instance : DecidableEq Value := fun v v' => decidable_of_iff _ (same_eq_true_iff v v')

end Value

end Ripple.Toml
