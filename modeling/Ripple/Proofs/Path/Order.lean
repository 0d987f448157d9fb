import Ripple.Proofs.Path.Names

/-! The order of paths.

Paths are compared by their parts, one after the other (`le_iff`). The anchor of a path is no proper name, so
paths whose names are proper differ in some part (`eq_of_parts_eq`), and one comes strictly before the other. -/
namespace Ripple.Path

/-- One path stands strictly before another: its part is the smaller one where they differ first, or it has no more
parts there. -/
def Before (p q : Path) : Prop := List.Lex (· < ·) p.parts q.parts

instance (p q : Path) : Decidable (p.Before q) := inferInstanceAs (Decidable (List.Lex _ _ _))

theorem not_before_self (p : Path) : ¬ p.Before p := List.lex_irrefl String.lt_irrefl p.parts

theorem before_trans {p q r : Path} (hpq : p.Before q) (hqr : q.Before r) : p.Before r :=
  List.lex_trans String.lt_trans hpq hqr

theorem before_asymm {p q : Path} (hpq : p.Before q) : ¬ q.Before p :=
  fun hqp => not_before_self p (before_trans hpq hqp)

theorem partsLe_iff {as bs : List String} : partsLe as bs = true ↔ as = bs ∨ List.Lex (· < ·) as bs := by
  induction as generalizing bs with
  | nil => cases bs <;> simp [partsLe]
  | cons a as ih =>
    cases bs with
    | nil => simp [partsLe]
    | cons b bs =>
      rw [partsLe, List.cons_lex_cons_iff, List.cons.injEq]
      by_cases hab : a = b
      · subst hab
        have hnot : ¬a < a := String.lt_irrefl a
        simp only [hnot, if_true, ih, true_and, false_or]
      · simp [hab]

theorem le_iff {p q : Path} : p.le q = true ↔ p.parts = q.parts ∨ p.Before q := partsLe_iff

theorem le_trans (p q r : Path) (hpq : p.le q = true) (hqr : q.le r = true) : p.le r = true := by
  rw [le_iff] at hpq hqr ⊢
  rcases hpq with hpq | hpq
  · rwa [Before, hpq]
  · rcases hqr with hqr | hqr
    · exact .inr (by rwa [Before, ← hqr])
    · exact .inr (before_trans hpq hqr)

theorem partsLe_total (as bs : List String) : (partsLe as bs || partsLe bs as) = true := by
  induction as generalizing bs with
  | nil => rfl
  | cons a as ih =>
    cases bs with
    | nil => rfl
    | cons b bs =>
      by_cases hab : a = b
      · simpa [partsLe, hab] using ih bs
      · have hba : b ≠ a := fun he => hab he.symm
        rcases String.le_total a b with hle | hle
        · simp [partsLe, hab, Std.lt_of_le_of_ne hle hab]
        · simp [partsLe, hba, Std.lt_of_le_of_ne hle hba]

theorem le_total (p q : Path) : (p.le q || q.le p) = true := partsLe_total p.parts q.parts

theorem parts_of_absolute {p : Path} (h : p.isAbsolute = true) : p.parts = p.anchor.text :: p.names := if_pos h

theorem parts_of_relative {p : Path} (h : p.isAbsolute = false) : p.parts = p.names := if_neg (by simp [h])

/-- An anchor is no name of a path. -/
theorem names_ne_text_cons {p : Path} (hp : ∀ n ∈ p.names, IsProper n) (a : Anchor) (names : List String) :
    p.names ≠ a.text :: names := by
  intro h
  have hproper : IsProper a.text := hp a.text (h ▸ List.mem_cons_self ..)
  cases a <;> exact absurd hproper (by decide)

theorem anchorText_injective {a b : Anchor} (h : a.text = b.text) : a = b := by
  cases a <;> cases b <;> first | rfl | exact absurd h (by decide)

/-- **The parts of a path tell the path**, if all its names are proper. -/
theorem eq_of_parts_eq {p q : Path} (hp : ∀ n ∈ p.names, IsProper n) (hq : ∀ n ∈ q.names, IsProper n)
    (h : p.parts = q.parts) : p = q := by
  cases habs : p.isAbsolute <;> cases habs' : q.isAbsolute
  case true.true =>
    rw [parts_of_absolute habs, parts_of_absolute habs', List.cons.injEq] at h
    exact Path.mk.injEq .. ▸ ⟨anchorText_injective h.1, h.2⟩
  case true.false =>
    rw [parts_of_absolute habs, parts_of_relative habs'] at h
    exact absurd h.symm (names_ne_text_cons hq _ _)
  case false.true =>
    rw [parts_of_relative habs, parts_of_absolute habs'] at h
    exact absurd h (names_ne_text_cons hp _ _)
  case false.false =>
    rw [parts_of_relative habs, parts_of_relative habs'] at h
    have hanchor : p.anchor = .relative := by simpa [isAbsolute] using habs
    have hanchor' : q.anchor = .relative := by simpa [isAbsolute] using habs'
    exact Path.mk.injEq .. ▸ ⟨hanchor.trans hanchor'.symm, h⟩

theorem before_of_le {p q : Path} (hp : ∀ n ∈ p.names, IsProper n) (hq : ∀ n ∈ q.names, IsProper n)
    (h : p.le q = true) (hne : p ≠ q) : p.Before q :=
  (le_iff.mp h).resolve_left fun he => hne (eq_of_parts_eq hp hq he)

/-- Paths that stand one before the other are told by which they are. -/
theorem eq_of_ascending {ps qs : List Path} (h : ps.Pairwise Before) (h' : qs.Pairwise Before)
    (hmem : ∀ p, p ∈ ps ↔ p ∈ qs) : ps = qs := by
  have hne : ∀ p q : Path, p.Before q → p ≠ q := fun p q hpq he => not_before_self q (he ▸ hpq)
  have hperm : ps.Perm qs := (List.perm_ext_iff_of_nodup (h.imp (hne _ _)) (h'.imp (hne _ _))).mpr hmem
  exact hperm.eq_of_pairwise (fun p q _ _ hpq hqp => absurd hqp (before_asymm hpq)) h h'

end Ripple.Path
