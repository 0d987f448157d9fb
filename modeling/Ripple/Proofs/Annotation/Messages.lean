import Ripple.Proofs.Annotation

/-! Messages and the lines that they are written as.

A message may be written by three replacements, one after the other, of which the one for percent signs comes first:
the later ones then find nothing that an earlier one has put in, so all three could be done at once
(`escapeInTurn_eq`). What comes out are the texts of one line in which each percent sign starts a code, and no others
(`exists_escapeMessage_iff`), and each of them is read back as its message (`messages_read_back`). -/
namespace Ripple

/-! ### Replacements -/

/-- A text in which every occurrence of the text `o :: os` gives way to `new`, from left to right. -/
def Text.replaceAll (o : Char) (os new : List Char) : List Char → List Char
  | [] => []
  | c :: rest =>
    if (o :: os).isPrefixOf (c :: rest) then new ++ replaceAll o os new (rest.drop os.length)
    else c :: replaceAll o os new rest
termination_by cs => cs.length
decreasing_by
  all_goals simp only [List.length_cons, List.length_drop]; omega

/-- Replacing a character looks at each character on its own. -/
theorem Text.replaceAll_char (o : Char) (new cs : List Char) :
    replaceAll o [] new cs = cs.flatMap fun c => if c = o then new else [c] := by
  induction cs with
  | nil =>
    rw [replaceAll]
    rfl
  | cons c rest ih =>
    rw [replaceAll, List.flatMap_cons, List.length_nil, List.drop_zero, ih]
    by_cases hc : c = o
    · subst hc
      simp
    · have hne : ¬o = c := fun he => hc he.symm
      simp [hc, hne]

/-- The message in one line, by one replacement after the other. -/
def escapeInTurn (cs : List Char) : List Char :=
  Text.replaceAll '\n' [] "%0A".toList (Text.replaceAll '\r' [] "%0D".toList (Text.replaceAll '%' [] "%25".toList cs))

/-- **One replacement after the other does what all do at once.** -/
theorem escapeInTurn_eq (cs : List Char) : escapeInTurn cs = cs.flatMap escapeChar := by
  simp only [escapeInTurn, Text.replaceAll_char, List.flatMap_assoc]
  congr 1
  funext c
  unfold escapeChar
  -- a code holds no line break, and a percent sign that a later replacement puts in is not looked at again
  by_cases hpercent : c = '%'
  · subst hpercent
    decide
  by_cases hreturn : c = '\r'
  · subst hreturn
    decide
  simp [hpercent, hreturn]

/-! ### Codes -/

/-- What stands for a percent sign or a line break. -/
def escapeCodes : List (List Char) := ["%25".toList, "%0D".toList, "%0A".toList]

/-- Every percent sign starts a code. -/
def PercentsStartCodes (cs : List Char) : Prop :=
  ∀ rest, '%' :: rest <:+ cs → ∃ code ∈ escapeCodes, code <+: '%' :: rest

/-- A character gives way to a code, or stays because it needs none. -/
theorem escapeChar_cases (c : Char) :
    escapeChar c ∈ escapeCodes ∨ escapeChar c = [c] ∧ c ≠ '%' ∧ c ≠ '\r' ∧ c ≠ '\n' := by
  unfold escapeChar
  split
  · exact .inl (by decide)
  split
  · exact .inl (by decide)
  split
  · exact .inl (by decide)
  · next hpercent hreturn hfeed => exact .inr ⟨rfl, hpercent, hreturn, hfeed⟩

namespace PercentsStartCodes
variable {c : Char} {cs : List Char}

theorem nil : PercentsStartCodes [] := by
  intro rest h
  cases List.suffix_nil.mp h

theorem cons_iff (c : Char) (cs : List Char) :
    PercentsStartCodes (c :: cs) ↔
      (c = '%' → ∃ code ∈ escapeCodes, code <+: c :: cs) ∧ PercentsStartCodes cs := by
  constructor
  · refine fun h => ⟨fun hc => ?_, fun rest hrest => h rest (hrest.trans (List.suffix_cons ..))⟩
    subst hc
    exact h cs List.suffix_rfl
  · rintro ⟨hhead, htail⟩ rest hrest
    rcases List.suffix_cons_iff.mp hrest with hsame | hrest
    · obtain ⟨rfl, rfl⟩ := List.cons.inj hsame
      exact hhead rfl
    · exact htail rest hrest

theorem cons_of_ne (hc : c ≠ '%') (h : PercentsStartCodes cs) : PercentsStartCodes (c :: cs) :=
  (cons_iff ..).mpr ⟨fun he => absurd he hc, h⟩

/-- Only the first character of a code is a percent sign. -/
theorem code_append {code : List Char} (hcode : code ∈ escapeCodes) (h : PercentsStartCodes cs) :
    PercentsStartCodes (code ++ cs) := by
  obtain ⟨x, y, rfl, hx, hy⟩ : ∃ x y, code = ['%', x, y] ∧ x ≠ '%' ∧ y ≠ '%' := by
    rcases List.mem_cons.mp hcode with rfl | hcode
    · exact ⟨_, _, rfl, by decide, by decide⟩
    rcases List.mem_cons.mp hcode with rfl | hcode
    · exact ⟨_, _, rfl, by decide, by decide⟩
    · obtain rfl := List.mem_singleton.mp hcode
      exact ⟨_, _, rfl, by decide, by decide⟩
  exact (cons_iff ..).mpr ⟨fun _ => ⟨_, hcode, List.prefix_append ..⟩, cons_of_ne hx (cons_of_ne hy h)⟩

theorem escape (cs : List Char) : PercentsStartCodes (cs.flatMap escapeChar) := by
  induction cs with
  | nil => exact nil
  | cons c rest ih =>
    rw [List.flatMap_cons]
    rcases escapeChar_cases c with hcode | ⟨hplain, hpercent, _⟩
    · exact code_append hcode ih
    · rw [hplain]
      exact cons_of_ne hpercent ih

end PercentsStartCodes

/-- A line in which every percent sign starts a code is what its message is written as. -/
theorem flatMap_unescape {cs : List Char} (hline : IsOneLine cs) (hcodes : PercentsStartCodes cs) :
    (unescape cs).flatMap escapeChar = cs := by
  fun_induction unescape cs with
  | case1 rest ih =>
    simp only [IsOneLine.cons_iff, PercentsStartCodes.cons_iff] at hline hcodes
    exact congrArg ("%25".toList ++ ·) (ih hline.2.2.2 hcodes.2.2.2)
  | case2 rest ih =>
    simp only [IsOneLine.cons_iff, PercentsStartCodes.cons_iff] at hline hcodes
    exact congrArg ("%0D".toList ++ ·) (ih hline.2.2.2 hcodes.2.2.2)
  | case3 rest ih =>
    simp only [IsOneLine.cons_iff, PercentsStartCodes.cons_iff] at hline hcodes
    exact congrArg ("%0A".toList ++ ·) (ih hline.2.2.2 hcodes.2.2.2)
  | case4 c rest hno25 hno0D hno0A ih =>
    have hpercent : c ≠ '%' := by
      intro hc
      obtain ⟨code, hcode, tail, htail⟩ := ((PercentsStartCodes.cons_iff ..).mp hcodes).1 hc
      simp only [escapeCodes, List.mem_cons, List.not_mem_nil, or_false] at hcode
      rcases hcode with rfl | rfl | rfl
      · exact hno25 tail hc (List.cons.inj htail).2.symm
      · exact hno0D tail hc (List.cons.inj htail).2.symm
      · exact hno0A tail hc (List.cons.inj htail).2.symm
    obtain ⟨hplain, hrest⟩ := (IsOneLine.cons_iff ..).mp hline
    have hstays : escapeChar c = [c] := by simp [escapeChar, hpercent, hplain.1, hplain.2]
    rw [List.flatMap_cons, hstays, ih hrest ((PercentsStartCodes.cons_iff ..).mp hcodes).2]
    rfl
  | case5 => rfl

theorem exists_escapeMessage_iff (line : String) :
    (∃ s, escapeMessage s = line) ↔ IsOneLine line.toList ∧ PercentsStartCodes line.toList := by
  constructor
  · rintro ⟨s, rfl⟩
    refine ⟨isOneLine_escapeMessage s, ?_⟩
    rw [escapeMessage, String.toList_ofList]
    exact .escape _
  · rintro ⟨hline, hcodes⟩
    refine ⟨.ofList (unescape line.toList), ?_⟩
    rw [escapeMessage, String.toList_ofList, flatMap_unescape hline hcodes, String.ofList_toList]

/-- **A message is read back from its line, whatever it holds.** Its three replacements could be done at once, so a
message is written part by part; its line has no line break and no percent sign but those that start a code, and no
other message has the same line. -/
theorem messages_read_back (s : String) :
    (escapeMessage s).toList = escapeInTurn s.toList ∧
      (∀ t, escapeMessage (s ++ t) = escapeMessage s ++ escapeMessage t) ∧
      IsOneLine (escapeMessage s).toList ∧ PercentsStartCodes (escapeMessage s).toList ∧
      unescape (escapeMessage s).toList = s.toList ∧
      ∀ t, escapeMessage t = escapeMessage s → t = s := by
  obtain ⟨hline, hcodes⟩ := (exists_escapeMessage_iff _).mp ⟨s, rfl⟩
  refine ⟨?_, fun t => ?_, hline, hcodes, unescape_escapeMessage s, fun t ht => ?_⟩
  · rw [escapeInTurn_eq, escapeMessage, String.toList_ofList]
  · rw [escapeMessage, String.toList_append, List.flatMap_append, String.ofList_append]
    rfl
  · rw [← String.toList_inj, ← unescape_escapeMessage t, ht, unescape_escapeMessage]

example : escapeMessage "100%\r\n%0A" = "100%25%0D%0A%250A" := by decide

end Ripple
