import Mathlib.Data.List.DropRight
import Ripple.Text.Blank
import Ripple.Text.Lines

/-! Lines that are written and read back.

Texts without line breaks, each ended by a line feed, are the lines of what they make together
(`lines_listing`). Stripping a text leaves some part of it, and all of it exactly if neither end is blank
(`strip_eq_self_iff`). -/
namespace Ripple.Text

/-! ### Lines -/

/-- Texts one below the other, each ended by a line feed. -/
def listing (texts : List String) : String := .ofList (texts.flatMap fun s => s.toList ++ ['\n'])

theorem linesOfChars_append {cs : List Char} (h : ∀ c ∈ cs, isLineBreak c = false) (rest : List Char) :
    linesOfChars (cs ++ '\n' :: rest) = cs :: linesOfChars rest := by
  induction cs with
  | nil => rfl
  | cons c cs ih =>
    have hc : isLineBreak c = false := h c (List.mem_cons_self ..)
    have hreturn : c ≠ '\r' := fun he => absurd (he ▸ hc) (by decide)
    rw [List.cons_append, linesOfChars, hc, ih fun x hx => h x (List.mem_cons_of_mem _ hx)]
    · rfl
    · exact fun rest' he => absurd he hreturn

/-- **Lines are read back as they were written.** -/
theorem lines_listing {texts : List String} (h : ∀ s ∈ texts, ∀ c ∈ s.toList, isLineBreak c = false) :
    lines (listing texts) = texts := by
  unfold lines listing
  rw [String.toList_ofList]
  induction texts with
  | nil => rfl
  | cons s rest ih =>
    have hs := h s (List.mem_cons_self ..)
    have hrest := ih fun t ht => h t (List.mem_cons_of_mem _ ht)
    rw [List.flatMap_cons, List.append_assoc, List.singleton_append, linesOfChars_append hs, List.map_cons, hrest,
      String.ofList_toList]

/-! ### Ends -/

theorem stripChars_eq (cs : List Char) : stripChars cs = (cs.dropWhile isBlank).rdropWhile isBlank := rfl

theorem stripChars_sublist (cs : List Char) : (stripChars cs).Sublist cs :=
  (List.rdropWhile_prefix isBlank _).sublist.trans (List.dropWhile_sublist isBlank)

theorem dropWhile_isBlank_eq_self_iff {cs : List Char} :
    cs.dropWhile isBlank = cs ↔ ∀ c ∈ cs.head?, isBlank c = false := by
  cases cs with
  | nil => simp
  | cons c rest => simp [List.dropWhile_eq_self_iff]

theorem rdropWhile_isBlank_eq_self_iff {cs : List Char} :
    cs.rdropWhile isBlank = cs ↔ ∀ c ∈ cs.getLast?, isBlank c = false := by
  rw [List.rdropWhile, List.reverse_eq_iff, dropWhile_isBlank_eq_self_iff, List.head?_reverse]

theorem stripChars_eq_self_iff {cs : List Char} :
    stripChars cs = cs ↔ (∀ c ∈ cs.head?, isBlank c = false) ∧ ∀ c ∈ cs.getLast?, isBlank c = false := by
  rw [← dropWhile_isBlank_eq_self_iff, ← rdropWhile_isBlank_eq_self_iff, stripChars_eq]
  constructor
  · intro h
    have hlength : cs.length ≤ (cs.dropWhile isBlank).length := by
      calc cs.length = ((cs.dropWhile isBlank).rdropWhile isBlank).length := congrArg List.length h.symm
        _ ≤ (cs.dropWhile isBlank).length := (List.rdropWhile_prefix isBlank _).length_le
    have hwhole : cs.dropWhile isBlank = cs := (List.dropWhile_sublist isBlank).eq_of_length_le hlength
    exact ⟨hwhole, by rwa [hwhole] at h⟩
  · intro h
    rw [h.1, h.2]

theorem strip_eq_self_iff {s : String} :
    strip s = s ↔ (∀ c ∈ s.toList.head?, isBlank c = false) ∧ ∀ c ∈ s.toList.getLast?, isBlank c = false := by
  rw [← stripChars_eq_self_iff, strip, ← String.toList_inj, String.toList_ofList]

/-- Where something is stripped, less is left. -/
theorem length_strip_lt {s : String} (h : strip s ≠ s) : (strip s).length < s.length := by
  rw [strip, String.length_ofList, ← String.length_toList]
  refine Nat.lt_of_le_of_ne (stripChars_sublist s.toList).length_le fun he => h ?_
  rw [strip, (stripChars_sublist s.toList).eq_of_length he, String.ofList_toList]

end Ripple.Text
