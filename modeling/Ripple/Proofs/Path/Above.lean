import Mathlib.Logic.Function.Iterate
import Ripple.Proofs.Path.Names

/-! The places above a path.

A step up drops the last name of a path, and the places above it are those that some steps lead to, the nearest
first (`parents_eq_map_iterate`). So they are the paths that begin like it and have fewer names
(`mem_parents_iff`), in descending order (`parents_descending`). -/
namespace Ripple.Path

/-- `q` is strictly above `p`. -/
structure IsAbove (q p : Path) : Prop where
  anchor : q.anchor = p.anchor
  names : q.names <+: p.names
  shorter : q.names.length < p.names.length

instance (q p : Path) : Decidable (q.IsAbove p) :=
  decidable_of_iff (q.anchor = p.anchor ∧ q.names <+: p.names ∧ q.names.length < p.names.length)
    ⟨fun h => ⟨h.1, h.2.1, h.2.2⟩, fun h => ⟨h.anchor, h.names, h.shorter⟩⟩

/-- Some steps up drop as many names. -/
theorem iterate_parent (p : Path) (n : Nat) :
    parent^[n] p = ⟨p.anchor, p.names.take (p.names.length - n)⟩ := by
  induction n with
  | zero => simp
  | succ n ih =>
    rw [Function.iterate_succ_apply', ih, parent, List.dropLast_eq_take, List.take_take, List.length_take]
    congr 2
    omega

/-- At the top, going up leads nowhere else. -/
theorem iterate_parent_of_length_le (p : Path) {n : Nat} (h : p.names.length ≤ n) :
    parent^[n] p = parent^[p.names.length] p := by
  rw [iterate_parent, iterate_parent, Nat.sub_eq_zero_of_le h, Nat.sub_self]

theorem parents_eq_map_iterate (p : Path) :
    p.parents = (List.range p.names.length).map fun n => parent^[n + 1] p := by
  refine List.map_congr_left fun n _ => ?_
  rw [iterate_parent]
  congr 2
  omega

/-- A path and the places above it, by the number of steps up. -/
theorem cons_parents_eq_map_iterate (p : Path) :
    p :: p.parents = (List.range (p.names.length + 1)).map fun n => parent^[n] p := by
  rw [parents_eq_map_iterate, List.range_succ_eq_map, List.map_cons, List.map_map]
  rfl

theorem mem_parents_iff {p q : Path} : q ∈ p.parents ↔ q.IsAbove p := by
  rw [parents_eq_map_iterate, List.mem_map]
  constructor
  · rintro ⟨n, hn, rfl⟩
    have hlt := List.mem_range.mp hn
    rw [iterate_parent]
    refine ⟨rfl, List.take_prefix .., ?_⟩
    rw [List.length_take]
    omega
  · intro h
    have hlt := h.shorter
    refine ⟨p.names.length - 1 - q.names.length, List.mem_range.mpr (by omega), ?_⟩
    rw [iterate_parent, show p.names.length - (p.names.length - 1 - q.names.length + 1) = q.names.length by omega,
      ← List.prefix_iff_eq_take.mp h.names, ← h.anchor]

/-- Steps up lead to a path itself and to what is above it. -/
theorem eq_or_isAbove_iff {p q : Path} : q = p ∨ q.IsAbove p ↔ ∃ n, q = parent^[n] p := by
  rw [← mem_parents_iff, ← List.mem_cons, cons_parents_eq_map_iterate, List.mem_map]
  constructor
  · rintro ⟨n, _, rfl⟩
    exact ⟨n, rfl⟩
  · rintro ⟨n, rfl⟩
    by_cases hn : n < p.names.length + 1
    · exact ⟨n, List.mem_range.mpr hn, rfl⟩
    · refine ⟨p.names.length, List.mem_range.mpr (Nat.lt_succ_self _), ?_⟩
      exact (iterate_parent_of_length_le p (by omega)).symm

/-- `q` is `p` or above it. -/
def IsAround (q p : Path) : Prop := q = p ∨ q.IsAbove p

theorem isAround_iff {p q : Path} : q.IsAround p ↔ q.anchor = p.anchor ∧ q.names <+: p.names := by
  constructor
  · rintro (rfl | h)
    · exact ⟨rfl, List.prefix_rfl⟩
    · exact ⟨h.anchor, h.names⟩
  · rintro ⟨hanchor, hnames⟩
    by_cases hlength : q.names.length < p.names.length
    · exact .inr ⟨hanchor, hnames, hlength⟩
    · left
      have hsame : q.names = p.names := hnames.eq_of_length_le (Nat.not_lt.mp hlength)
      cases p
      cases q
      simp_all

/-- More steps up lead at or above where fewer do. -/
theorem isAround_iterate (p : Path) {m n : Nat} (h : n ≤ m) : (parent^[m] p).IsAround (parent^[n] p) := by
  rw [isAround_iff, iterate_parent, iterate_parent]
  exact ⟨rfl, List.take_prefix_take_left (by omega)⟩

instance (q p : Path) : Decidable (q.IsAround p) := decidable_of_iff _ isAround_iff.symm

theorem parents_descending (p : Path) : p.parents.Pairwise fun a b => b.names.length < a.names.length := by
  refine List.pairwise_map.mpr (List.pairwise_lt_range.imp_of_mem fun {m n} hm hn hlt => ?_)
  have hm' := List.mem_range.mp hm
  have hn' := List.mem_range.mp hn
  simp only [List.length_take]
  omega

/-- Of two places above a path the one with fewer names is above the other. -/
theorem IsAbove.of_length_lt {a b p : Path} (ha : a.IsAbove p) (hb : b.IsAbove p)
    (h : a.names.length < b.names.length) : a.IsAbove b where
  anchor := ha.anchor.trans hb.anchor.symm
  names := List.prefix_of_prefix_length_le ha.names hb.names (Nat.le_of_lt h)
  shorter := h

end Ripple.Path
