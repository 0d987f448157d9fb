import Ripple.Text.Digits

/-! Numbers and the digits that they are written with.

A number is written with common digits only (`digits_toString`). Of the texts that are made of digits, those read as
numbers that have decimal digits only and not too many of them (`IsNumeral`), and each reads as the number that its
digits write (`readNat?_of_digits`). -/
namespace Ripple.Text

theorem digits_toString (n : Nat) : ∀ c ∈ (toString n).toList, c.isDigit = true := by
  intro c hc
  have hrepr : (toString n).toList = Nat.toDigits 10 n := Nat.toList_repr
  exact Nat.isDigit_of_mem_toDigits (by decide) (by decide) (hrepr ▸ hc)

/-- Decimal digits, and no more of them than numbers are read with. -/
def IsNumeral (cs : List Char) : Prop := (∀ c ∈ cs, isDecimal c = true) ∧ cs.length ≤ maxDigits

instance (cs : List Char) : Decidable (IsNumeral cs) := inferInstanceAs (Decidable (_ ∧ _))

/-- The number that is written when decimal digits follow `n`. -/
def numberAfter (n : Nat) (cs : List Char) : Nat :=
  cs.foldl (fun n c => 10 * n + (decimalValue? c).getD 0) n

theorem isDigit_of_isDecimal {c : Char} (h : isDecimal c = true) : isDigit c = true := by
  rw [isDigit, h, Bool.true_or]

/-- Digits in another shape are beyond ASCII. -/
theorem isDecimal_of_ascii {c : Char} (hascii : c.toNat < 128) (h : isDigit c = true) : isDecimal c = true := by
  have hbeyond : ∀ r ∈ shapedDigitRanges, 128 ≤ r.1 := by decide
  have hplain : inRanges shapedDigitRanges c = false := by
    refine List.any_eq_false.mpr fun r hr hin => ?_
    have hle := (Bool.and_eq_true_iff.mp hin).1
    exact absurd (of_decide_eq_true hle) (Nat.not_le.mpr (Nat.lt_of_lt_of_le hascii (hbeyond r hr)))
  rwa [isDigit, hplain, Bool.or_false] at h

/-- An underscore is no digit, so none stands between digits. -/
theorem ne_underscore_of_isDigit {c : Char} (h : isDigit c = true) : c ≠ '_' := by
  intro hc
  subst hc
  exact absurd h (by decide)

theorem readDigits_cons {c : Char} (hc : c ≠ '_') (n : Nat) (cs : List Char) :
    readDigits n (c :: cs) = (decimalValue? c).bind fun d => readDigits (10 * n + d) cs := by
  conv => lhs; unfold readDigits
  split <;> simp_all

theorem readDigits_of_decimals {cs : List Char} (h : ∀ c ∈ cs, isDecimal c = true) (n : Nat) :
    readDigits n cs = some (numberAfter n cs) := by
  induction cs generalizing n with
  | nil => rfl
  | cons c cs ih =>
    have hc := h c (List.mem_cons_self ..)
    obtain ⟨d, hd⟩ := Option.isSome_iff_exists.mp hc
    rw [readDigits_cons (ne_underscore_of_isDigit (isDigit_of_isDecimal hc)), hd, Option.bind_some,
      ih fun x hx => h x (List.mem_cons_of_mem c hx)]
    simp only [numberAfter, List.foldl_cons, hd, Option.getD_some]

/-- One digit that is not decimal spoils a number. -/
theorem readDigits_of_shaped {cs : List Char} (h : ∀ c ∈ cs, isDigit c = true) {c : Char} (hc : c ∈ cs)
    (hshape : ¬isDecimal c = true) (n : Nat) : readDigits n cs = none := by
  induction cs generalizing n with
  | nil => cases hc
  | cons x cs ih =>
    rw [readDigits_cons (ne_underscore_of_isDigit (h x (List.mem_cons_self ..)))]
    rcases List.mem_cons.mp hc with rfl | hc
    · rw [Option.not_isSome_iff_eq_none.mp hshape, Option.bind_none]
    · rw [Option.bind_eq_none_iff]
      intro d _
      exact ih (fun y hy => h y (List.mem_cons_of_mem x hy)) hc _

theorem readNat?_cons {c : Char} (hc : c ≠ '_') (cs : List Char) :
    readNat? (c :: cs) = if (c :: cs).countP isDecimal ≤ maxDigits then readDigits 0 (c :: cs) else none := by
  conv => lhs; unfold readNat?
  split
  · next hnil => cases hnil
  · next hunderscore => exact absurd (List.cons.inj hunderscore).1 hc
  · rfl

/-- **Digits read as a number exactly if they are a numeral**, and then as the number that they write. -/
theorem readNat?_of_digits {cs : List Char} (hne : cs ≠ []) (h : ∀ c ∈ cs, isDigit c = true) :
    readNat? cs = if IsNumeral cs then some (numberAfter 0 cs) else none := by
  obtain ⟨c, rest, rfl⟩ := List.exists_cons_of_ne_nil hne
  rw [readNat?_cons (ne_underscore_of_isDigit (h c (List.mem_cons_self ..)))]
  by_cases hdecimal : ∀ d ∈ c :: rest, isDecimal d = true
  · have hcount : (c :: rest).countP isDecimal = (c :: rest).length := List.countP_eq_length.mpr hdecimal
    rw [hcount, readDigits_of_decimals hdecimal]
    by_cases hlength : (c :: rest).length ≤ maxDigits
    · rw [if_pos hlength, if_pos ⟨hdecimal, hlength⟩]
    · rw [if_neg hlength, if_neg fun hnumeral => hlength hnumeral.2]
  · obtain ⟨d, hd⟩ := Classical.not_forall.mp hdecimal
    obtain ⟨hmem, hshape⟩ := Classical.not_imp.mp hd
    rw [readDigits_of_shaped h hmem hshape, ite_self, if_neg fun hnumeral => hdecimal hnumeral.1]

end Ripple.Text
