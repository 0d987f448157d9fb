import Mathlib.Data.List.Basic
import Mathlib.Data.List.TakeDrop
import Ripple.Proofs.Text.Markup
import Ripple.Text.Terminal

/-! What a terminal makes of a text.

A terminal reads the codes of a text from left to right (`codes`) and puts pictures in place of those that it
knows. Each picture takes two colons away (`count_replaceChars`), so a text keeps its codes exactly if none of them is
known (`replaceChars_eq_self_iff`). It does so with each part of the markup on its own, and then crops the line, if it
is too long, by blanks at its end (`exists_crop_append`). What is escaped is shown as it is if its parts are, and only
then (`crop_interpret_eq_iff`): no change makes up for another one. -/
namespace Ripple.Text

/-- No character of a text steers the terminal. -/
def IsPlain (cs : List Char) : Prop := ∀ c ∈ cs, isControl c = false

instance (cs : List Char) : Decidable (IsPlain cs) := List.decidableBAll (fun c => isControl c = false) cs

namespace IsPlain

@[simp] theorem nil : IsPlain [] := fun _ h => absurd h List.not_mem_nil

@[simp] theorem cons_iff (c : Char) (cs : List Char) : IsPlain (c :: cs) ↔ isControl c = false ∧ IsPlain cs :=
  List.forall_mem_cons

@[simp] theorem append_iff (cs ds : List Char) : IsPlain (cs ++ ds) ↔ IsPlain cs ∧ IsPlain ds := List.forall_mem_append

end IsPlain

namespace Emoji

/-! ### Codes -/

/-- A name ends at the first colon, and there is no blank before it. -/
theorem eq_append_of_name? {cs name : List Char} (h : name? cs = some name) :
    cs = name ++ ':' :: cs.drop (name.length + 1) ∧ ∀ c ∈ name, c ≠ ':' ∧ isBlank c = false := by
  unfold name? at h
  dsimp only at h
  split at h
  · next hcolon =>
    have hname := Option.some.inj h
    rw [hname] at hcolon
    have htake : cs.take name.length = name := by
      rw [← hname]
      exact (List.prefix_iff_eq_take.mp (List.takeWhile_prefix _)).symm
    refine ⟨?_, fun c hc => ?_⟩
    · obtain ⟨hlength, hget⟩ := List.getElem?_eq_some_iff.mp hcolon
      rw [← hget, ← List.drop_eq_getElem_cons hlength]
      calc cs = cs.take name.length ++ cs.drop name.length := (List.take_append_drop ..).symm
        _ = name ++ cs.drop name.length := by rw [htake]
    · rw [← hname] at hc
      simpa using List.all_eq_true.mp List.all_takeWhile c hc
  · cases h

theorem name?_of_blank {c : Char} (hblank : isBlank c = true) (cs : List Char) : name? (c :: cs) = none := by
  have hcolon : c ≠ ':' := by
    rintro rfl
    cases hblank
  simp [name?, hblank, hcolon]

/-- The names between colons, read from left to right. -/
def codes : List Char → List (List Char)
  | [] => []
  | ':' :: rest => match name? rest with
    | some name => name :: codes (rest.drop (name.length + 1))
    | none => codes rest
  | _ :: rest => codes rest
termination_by cs => cs.length
decreasing_by all_goals simp only [List.length_drop, List.length_cons]; omega

theorem codes_cons {c : Char} (hc : c ≠ ':') (cs : List Char) : codes (c :: cs) = codes cs := by
  conv => lhs; unfold codes
  split <;> simp_all

theorem codes_code {name rest : List Char} (h : name? (name ++ ':' :: rest) = some name) :
    codes (':' :: (name ++ ':' :: rest)) = name :: codes rest := by
  conv => lhs; unfold codes
  simp [h]

theorem codes_colon {rest : List Char} (h : name? rest = none) : codes (':' :: rest) = codes rest := by
  conv => lhs; unfold codes
  simp only [h]

/-! ### Pictures -/

variable (pictures : Pictures)

theorem replaceChars_cons {c : Char} (hc : c ≠ ':') (cs : List Char) :
    replaceChars pictures (c :: cs) = c :: replaceChars pictures cs := by
  conv => lhs; unfold replaceChars
  split <;> simp_all

theorem replaceChars_code {name rest : List Char} (h : name? (name ++ ':' :: rest) = some name) :
    replaceChars pictures (':' :: (name ++ ':' :: rest)) =
      (shown? pictures name).getD (':' :: name ++ [':']) ++ replaceChars pictures rest := by
  conv => lhs; unfold replaceChars
  simp [h]

theorem replaceChars_colon {rest : List Char} (h : name? rest = none) :
    replaceChars pictures (':' :: rest) = ':' :: replaceChars pictures rest := by
  conv => lhs; unfold replaceChars
  simp only [h]

/-- Texts are read code by code: a statement about texts holds if it goes through a code, a colon that starts none
and any other character. -/
theorem code_induction {motive : List Char → Prop} (nil : motive [])
    (code : ∀ name rest, name? (name ++ ':' :: rest) = some name → motive rest → motive (':' :: (name ++ ':' :: rest)))
    (colon : ∀ rest, name? rest = none → motive rest → motive (':' :: rest))
    (other : ∀ c rest, c ≠ ':' → motive rest → motive (c :: rest)) (cs : List Char) : motive cs := by
  fun_induction codes cs with
  | case1 => exact nil
  | case2 rest name hname ih =>
    obtain ⟨hrest, _⟩ := eq_append_of_name? hname
    rw [hrest] at hname ⊢
    exact code name _ hname ih
  | case3 rest hname ih => exact colon rest hname ih
  | case4 c rest hc ih => exact other c rest (fun he => hc he) ih

/-- The form of a picture is no colon either. -/
theorem plain_of_shown? {name picture : List Char} (h : shown? pictures name = some picture) :
    ∀ c ∈ picture, c ≠ ':' ∧ isControl c = false := by
  have hforms : ∀ form ∈ forms, form.2 ≠ ':' ∧ isControl form.2 = false := by decide
  unfold shown? at h
  split at h
  · next ending mark hform =>
    obtain ⟨named, hnamed, rfl⟩ := Option.map_eq_some_iff.mp h
    intro c hc
    rcases List.mem_append.mp hc with hc | hc
    · exact pictures.plain hnamed c hc
    · rw [List.mem_singleton.mp hc]
      exact hforms _ (List.mem_of_find?_eq_some hform)
  · exact pictures.plain h

/-- **Each picture takes the two colons of its code away**, and nothing else does away with colons. -/
theorem count_replaceChars (cs : List Char) :
    (replaceChars pictures cs).count ':' + 2 * (codes cs).countP (fun name => (shown? pictures name).isSome) =
      cs.count ':' := by
  induction cs using code_induction with
  | nil => simp [replaceChars, codes]
  | code name rest hname ih =>
    have hfree : name.count ':' = 0 :=
      List.count_eq_zero.mpr fun hcolon => ((eq_append_of_name? hname).2 ':' hcolon).1 rfl
    rw [replaceChars_code pictures hname, codes_code hname]
    cases hshown : shown? pictures name with
    | none => simp [hshown, hfree]; omega
    | some picture =>
      have hpicture : picture.count ':' = 0 :=
        List.count_eq_zero.mpr fun hcolon => (plain_of_shown? pictures hshown ':' hcolon).1 rfl
      simp [hshown, hfree, hpicture]; omega
  | colon rest hname ih =>
    rw [replaceChars_colon pictures hname, codes_colon hname, List.count_cons_self, List.count_cons_self]
    omega
  | other c rest hc ih =>
    rw [replaceChars_cons pictures hc, codes_cons hc, List.count_cons_of_ne hc, List.count_cons_of_ne hc, ih]

/-- **A text is shown as it is exactly if none of its codes is known.** -/
theorem replaceChars_eq_self_iff (cs : List Char) :
    replaceChars pictures cs = cs ↔ ∀ name ∈ codes cs, shown? pictures name = none := by
  constructor
  · intro h name hmem
    have hcount := count_replaceChars pictures cs
    rw [h] at hcount
    have hnone : (codes cs).countP (fun name => (shown? pictures name).isSome) = 0 := by omega
    exact Option.not_isSome_iff_eq_none.mp (List.countP_eq_zero.mp hnone name hmem)
  · intro h
    induction cs using code_induction with
    | nil => simp [replaceChars]
    | code name rest hname ih =>
      rw [codes_code hname, List.forall_mem_cons] at h
      rw [replaceChars_code pictures hname, h.1, ih h.2]
      simp
    | colon rest hname ih =>
      rw [codes_colon hname] at h
      rw [replaceChars_colon pictures hname, ih h]
    | other c rest hc ih =>
      rw [codes_cons hc] at h
      rw [replaceChars_cons pictures hc, ih h]

/-- A code stands in the text between two colons, with no colon and no blank in it. -/
theorem infix_of_mem_codes {cs name : List Char} (h : name ∈ codes cs) :
    ':' :: (name ++ [':']) <:+: cs ∧ ∀ c ∈ name, c ≠ ':' ∧ isBlank c = false := by
  induction cs using code_induction with
  | nil => simp [codes] at h
  | code first rest hfirst ih =>
    rw [codes_code hfirst] at h
    rcases List.mem_cons.mp h with rfl | h
    · exact ⟨⟨[], rest, by simp⟩, (eq_append_of_name? hfirst).2⟩
    · obtain ⟨hpart, hplain⟩ := ih h
      exact ⟨hpart.trans ⟨':' :: (first ++ [':']), [], by simp⟩, hplain⟩
  | colon rest hname ih =>
    rw [codes_colon hname] at h
    obtain ⟨hpart, hplain⟩ := ih h
    exact ⟨hpart.trans (List.suffix_cons ..).isInfix, hplain⟩
  | other c rest hc ih =>
    rw [codes_cons hc] at h
    obtain ⟨hpart, hplain⟩ := ih h
    exact ⟨hpart.trans (List.suffix_cons ..).isInfix, hplain⟩

/-- Pictures keep a text plain. -/
theorem isPlain_replaceChars {cs : List Char} (h : IsPlain cs) : IsPlain (replaceChars pictures cs) := by
  induction cs using code_induction with
  | nil => simp [replaceChars]
  | code name rest hname ih =>
    simp only [IsPlain.cons_iff, IsPlain.append_iff] at h
    rw [replaceChars_code pictures hname, IsPlain.append_iff]
    refine ⟨?_, ih h.2.2.2⟩
    cases hshown : shown? pictures name with
    | none => simp [h.1, h.2.1]
    | some picture => exact fun c hc => (plain_of_shown? pictures hshown c hc).2
  | colon rest hname ih =>
    rw [IsPlain.cons_iff] at h
    rw [replaceChars_colon pictures hname, IsPlain.cons_iff]
    exact ⟨h.1, ih h.2⟩
  | other c rest hc ih =>
    rw [IsPlain.cons_iff] at h
    rw [replaceChars_cons pictures hc, IsPlain.cons_iff]
    exact ⟨h.1, ih h.2⟩

end Emoji

/-! ### The terminal -/

namespace Terminal

theorem ne_tab_of_plain {c : Char} (h : isControl c = false) : c ≠ '\t' := by
  rintro rfl
  cases h

theorem isMove_of_plain {c : Char} (h : isControl c = false) : isMove c = false := by
  simp only [isControl, inRanges, List.any_cons, List.any_nil, Bool.or_false, Bool.or_eq_false_iff,
    Bool.and_eq_false_iff, decide_eq_false_iff_not] at h
  simp only [isMove, List.contains_cons, List.contains_nil, Bool.or_false, Bool.or_eq_false_iff, beq_eq_false_iff_ne]
  omega

theorem expandTabs_of_plain {cs : List Char} (h : IsPlain cs) (columns : Char → Nat) (column : Nat) :
    expandTabs columns column cs = cs := by
  induction cs generalizing column with
  | nil => rfl
  | cons c cs ih =>
    rw [IsPlain.cons_iff] at h
    rw [expandTabs, if_neg (ne_tab_of_plain h.1), ih h.2]

section Crop
variable (width : Nat) (line : List Char)

/-- A line up to the blanks at its end. -/
theorem exists_blanks : ∃ front blanks, line = front ++ blanks ∧
    blanks.length = (line.reverse.takeWhile isBlank).length ∧ (∀ c ∈ blanks, isBlank c = true) ∧
      ∀ c ∈ front.getLast?, isBlank c = false := by
  refine ⟨(line.reverse.dropWhile isBlank).reverse, (line.reverse.takeWhile isBlank).reverse, ?_, List.length_reverse,
    fun c hc => ?_, fun c hc => ?_⟩
  · rw [← List.reverse_append, List.takeWhile_append_dropWhile, List.reverse_reverse]
  · exact List.all_eq_true.mp List.all_takeWhile c (List.mem_reverse.mp hc)
  · have hhead := List.head?_dropWhile_not isBlank line.reverse
    rw [List.getLast?_reverse, Option.mem_def] at hc
    rw [hc] at hhead
    exact hhead

theorem crop_append {front blanks : List Char} (hline : line = front ++ blanks)
    (hlength : blanks.length = (line.reverse.takeWhile isBlank).length) :
    crop width line = front ++ blanks.take (blanks.length - min blanks.length (line.length - width)) := by
  have hsum : line.length = front.length + blanks.length := by rw [hline, List.length_append]
  rw [crop, ← hlength]
  conv => lhs; rw [hline]
  rw [List.take_append, List.take_of_length_le (by rw [← hline]; omega)]
  congr 2
  rw [← hline]
  omega

/-- A line loses nothing but blanks at its end. -/
theorem exists_crop_append : ∃ blanks, line = crop width line ++ blanks ∧ ∀ c ∈ blanks, isBlank c = true := by
  obtain ⟨front, blanks, hline, hlength, hblank, _⟩ := exists_blanks line
  refine ⟨blanks.drop (blanks.length - min blanks.length (line.length - width)), ?_,
    fun c hc => hblank c (List.mem_of_mem_drop hc)⟩
  rw [crop_append width line hline hlength, List.append_assoc, List.take_append_drop, ← hline]

/-- A line loses something exactly if it is too long and ends in a blank. -/
theorem crop_eq_self_iff :
    crop width line = line ↔ line.length ≤ width ∨ ∀ c ∈ line.getLast?, isBlank c = false := by
  obtain ⟨front, blanks, hline, hlength, hblank, hfront⟩ := exists_blanks line
  have hkept : crop width line = line ↔ min blanks.length (line.length - width) = 0 := by
    rw [crop_append width line hline hlength]
    conv => lhs; rhs; rw [hline]
    rw [List.append_cancel_left_eq, List.take_eq_self_iff]
    omega
  rw [hkept]
  cases hb : blanks.getLast? with
  | none =>
    rw [List.getLast?_eq_none_iff] at hb
    subst hb
    rw [List.append_nil] at hline
    subst hline
    exact ⟨fun _ => .inr hfront, fun _ => Nat.zero_min _⟩
  | some c =>
    have hlast : line.getLast? = some c := by rw [hline, List.getLast?_append, hb, Option.some_or]
    have hend : isBlank c = true := hblank c (List.mem_of_getLast? hb)
    have hsome : blanks.length ≠ 0 := fun hnone => by
      rw [List.length_eq_zero_iff.mp hnone] at hb
      cases hb
    rw [hlast]
    simp only [Option.mem_def, Option.some.injEq, forall_eq', hend, reduceCtorEq, or_false]
    omega

end Crop

section Interpret
variable (t : Terminal)

/-- Plain text is one line. -/
theorem layOut_of_plain {cs : List Char} (h : IsPlain cs) : t.layOut cs = crop t.width cs := by
  have hline : '\n' ∉ cs := fun hc => by
    have hcontrol := h _ hc
    cases hcontrol
  rw [layOut, List.splitOn_eq_singleton hline, List.map_singleton, expandTabs_of_plain h]
  simp [List.intercalate]

theorem shown_of_plain {markup : String} (h : IsPlain (t.interpret markup.toList)) :
    t.shown markup = .ofList (crop t.width (t.interpret markup.toList)) := by
  have hkept : (t.interpret markup.toList).filter (fun c => !isMove c) = t.interpret markup.toList :=
    List.filter_eq_self.mpr fun c hc => by rw [isMove_of_plain (h c hc), Bool.not_false]
  rw [shown, hkept, layOut_of_plain t h]

/-! ### Labels -/

/-- A tag is not shown. -/
theorem interpret_tag {name : List Char} (h : Markup.IsName name) (rest : List Char) :
    t.interpret ('[' :: (name ++ ']' :: rest)) = t.interpret rest := by
  have hwritten : '[' :: (name ++ ']' :: rest) = (⟨0, name⟩ : Markup.Tag).written ++ rest := by
    simp [Markup.Tag.written, Markup.Tag.chars]
  rw [hwritten, interpret, interpret, Markup.read_written (show Markup.IsName (Markup.Tag.mk 0 name).name from h)]
  simp [Markup.Cut.shown, Markup.unescape, Markup.Tag.shown, Emoji.replaceChars]

theorem tag?_of_ne {c : Char} (hslash : c ≠ '\\') (hbracket : c ≠ '[') (cs : List Char) :
    Markup.tag? (c :: cs) = none := by
  rw [Markup.tag?_of_ne_slash hslash, Markup.name?_of_ne_bracket hbracket]
  rfl

/-- What begins with a character that is neither markup nor in a code. -/
theorem interpret_cons_of {c : Char} {rest : List Char} (hslash : c ≠ '\\') (hbracket : c ≠ '[')
    (hcolon : ∀ cs, Emoji.replaceChars t.pictures (c :: cs) = c :: Emoji.replaceChars t.pictures cs) :
    t.interpret (c :: rest) = c :: t.interpret rest := by
  rw [interpret, interpret, Markup.read_cons (tag?_of_ne hslash hbracket rest)]
  cases Markup.read rest <;>
    simp [Markup.Cut.cons, Markup.Cut.shown, Markup.unescape_cons (.inl hslash), hcolon]

/-- Words without markup and colons, and the colon and the blank behind a label. -/
theorem interpret_append {words : List Char} (h : ∀ c ∈ words, c ≠ '\\' ∧ c ≠ '[' ∧ c ≠ ':') (rest : List Char) :
    t.interpret (words ++ rest) = words ++ t.interpret rest := by
  induction words with
  | nil => rfl
  | cons c words ih =>
    obtain ⟨⟨hslash, hbracket, hcolon⟩, hwords⟩ := List.forall_mem_cons.mp h
    rw [List.cons_append, interpret_cons_of t hslash hbracket (Emoji.replaceChars_cons t.pictures hcolon), ih hwords,
      List.cons_append]

theorem interpret_colon (rest : List Char) : t.interpret (':' :: ' ' :: rest) = ':' :: ' ' :: t.interpret rest := by
  rw [interpret, interpret, Markup.read_cons (tag?_of_ne (by decide) (by decide) _),
    Markup.read_cons (tag?_of_ne (by decide) (by decide) _)]
  have hcolon : ∀ cs, Emoji.replaceChars t.pictures (':' :: ' ' :: cs) =
      ':' :: ' ' :: Emoji.replaceChars t.pictures cs := fun cs => by
      rw [Emoji.replaceChars_colon t.pictures (Emoji.name?_of_blank (by decide) cs),
        Emoji.replaceChars_cons t.pictures (by decide)]
  cases Markup.read rest <;>
    simp [Markup.Cut.cons, Markup.Cut.shown, Markup.unescape_cons, hcolon]

/-! ### Escaped texts -/

/-- Nothing in a text is known to the terminal for something else: no code in a part of it, no backslash before a
bracket between its tags, and no single backslash at its end. -/
structure Keeps (cs : List Char) : Prop where
  codes : ∀ part ∈ (Markup.read cs).parts, ∀ name ∈ Emoji.codes part, Emoji.shown? t.pictures name = none
  slashes : ∀ text ∈ (Markup.read cs).texts, ¬['\\', '['] <:+: text
  ending : Markup.endsInSlash cs = false

theorem interpret_escapeChars (cs : List Char) : t.interpret (Markup.escapeChars cs) =
    ((Markup.read cs).escaped.extend (Markup.lastSlash cs)).shown.flatMap (Emoji.replaceChars t.pictures) := by
  rw [interpret, Markup.read_escapeChars]

theorem isPlain_interpret {cs : List Char} (h : IsPlain cs) : IsPlain (t.interpret (Markup.escapeChars cs)) := by
  rw [interpret_escapeChars]
  intro c hc
  obtain ⟨part, hpart, hc⟩ := List.mem_flatMap.mp hc
  refine Emoji.isPlain_replaceChars t.pictures (fun d hd => ?_) c hc
  rcases Markup.mem_of_mem_shown (List.mem_flatten_of_mem hpart hd) with hd | hd
  · rw [Markup.written_read] at hd
    exact h d hd
  · unfold Markup.lastSlash at hd
    split at hd
    · rw [List.mem_singleton.mp hd]
      decide
    · cases hd

/-- **What the terminal keeps is shown as it is.** -/
theorem interpret_of_keeps {cs : List Char} (h : t.Keeps cs) : t.interpret (Markup.escapeChars cs) = cs := by
  have hslash : Markup.lastSlash cs = [] := by simp [Markup.lastSlash, h.ending]
  have htexts : ∀ text ∈ (Markup.read cs).texts, Markup.unescape text = text :=
    fun text htext => Markup.unescape_eq_self_iff.mpr (h.slashes text htext)
  rw [interpret_escapeChars, hslash, Markup.Cut.extend_nil, Markup.shown_eq_parts htexts]
  calc (Markup.read cs).parts.flatMap (Emoji.replaceChars t.pictures)
      = (Markup.read cs).parts.flatMap id := by
        refine List.flatMap_congr fun part hpart => ?_
        exact (Emoji.replaceChars_eq_self_iff t.pictures part).mpr (h.codes part hpart)
    _ = cs := by rw [List.flatMap_id, Markup.Cut.flatten_parts, Markup.written_read]

/-- Each known code takes two colons away, in whichever part it is. -/
theorem count_flatMap (parts : List (List Char)) :
    (parts.flatMap (Emoji.replaceChars t.pictures)).count ':' +
        2 * (parts.flatMap Emoji.codes).countP (fun name => (Emoji.shown? t.pictures name).isSome) =
      parts.flatten.count ':' := by
  induction parts with
  | nil => rfl
  | cons part parts ih =>
    have hpart := Emoji.count_replaceChars t.pictures part
    simp only [List.flatMap_cons, List.flatten_cons, List.count_append, List.countP_append]
    omega

/-- **What is shown as it is, up to blanks at the end, is kept, and there are no more blanks.** -/
theorem keeps_of_interpret {cs blanks : List Char} (h : t.interpret (Markup.escapeChars cs) = cs ++ blanks)
    (hblanks : ∀ c ∈ blanks, isBlank c = true) : t.Keeps cs ∧ blanks = [] := by
  rw [interpret_escapeChars] at h
  have hslash : Markup.lastSlash cs = [] ∨ Markup.lastSlash cs = ['\\'] := by
    unfold Markup.lastSlash
    split
    · exact .inr rfl
    · exact .inl rfl
  have hcolonless : blanks.count ':' = 0 ∧ (Markup.lastSlash cs).count ':' = 0 := by
    refine ⟨List.count_eq_zero.mpr fun hmem => ?_, ?_⟩
    · cases hblanks _ hmem
    · rcases hslash with hslash | hslash <;> simp [hslash]
  -- all colons are there, so no code is known
  have hcount := count_flatMap t ((Markup.read cs).escaped.extend (Markup.lastSlash cs)).shown
  rw [h, List.count_append, hcolonless.1, Markup.count_shown (by decide) hcolonless.2, Markup.written_read] at hcount
  have hzero : (((Markup.read cs).escaped.extend (Markup.lastSlash cs)).shown.flatMap Emoji.codes).countP
      (fun name => (Emoji.shown? t.pictures name).isSome) = 0 := by omega
  have hunknown : ∀ part ∈ ((Markup.read cs).escaped.extend (Markup.lastSlash cs)).shown,
      ∀ name ∈ Emoji.codes part, Emoji.shown? t.pictures name = none := by
    intro part hpart name hname
    have hnone := List.countP_eq_zero.mp hzero name (List.mem_flatMap.mpr ⟨part, hpart, hname⟩)
    exact Option.not_isSome_iff_eq_none.mp hnone
  have hflat : ((Markup.read cs).escaped.extend (Markup.lastSlash cs)).shown.flatMap (Emoji.replaceChars t.pictures) =
      ((Markup.read cs).escaped.extend (Markup.lastSlash cs)).shown.flatten := by
    rw [← List.flatMap_id]
    refine List.flatMap_congr fun part hpart => ?_
    exact (Emoji.replaceChars_eq_self_iff t.pictures part).mpr (hunknown part hpart)
  -- then every part is there, and what is left over at the end is a backslash or blanks
  rw [hflat, ← List.append_nil (List.flatten _)] at h
  conv at h => rhs; rw [← Markup.written_read cs]
  obtain ⟨htexts, hend⟩ := Markup.texts_of_shown_eq hslash h
  rw [List.append_nil] at hend
  have hnone : Markup.lastSlash cs = [] := by
    rcases hslash with hslash | hslash
    · exact hslash
    · rw [hslash] at hend
      cases hblanks '\\' (hend ▸ List.mem_singleton_self _)
  rw [hnone, Markup.Cut.extend_nil, Markup.shown_eq_parts htexts] at hunknown
  refine ⟨⟨hunknown, fun text htext => Markup.unescape_eq_self_iff.mp (htexts text htext), ?_⟩, hend ▸ hnone⟩
  rw [← Bool.not_eq_true]
  intro hends
  rw [Markup.lastSlash, if_pos hends] at hnone
  cases hnone

/-- **An escaped text is shown as it is behind a heading exactly if the terminal keeps it** and the line is not too
long or ends in no blank. -/
theorem crop_interpret_eq_iff (heading cs : List Char) :
    crop t.width (heading ++ t.interpret (Markup.escapeChars cs)) = heading ++ cs ↔
      t.Keeps cs ∧ ((heading ++ cs).length ≤ t.width ∨ ∀ c ∈ (heading ++ cs).getLast?, isBlank c = false) := by
  rw [← crop_eq_self_iff]
  constructor
  · intro h
    obtain ⟨blanks, hline, hblanks⟩ := exists_crop_append t.width (heading ++ t.interpret (Markup.escapeChars cs))
    rw [h, List.append_assoc] at hline
    obtain ⟨hkeeps, -⟩ := keeps_of_interpret t (List.append_cancel_left hline) hblanks
    rw [interpret_of_keeps t hkeeps] at h
    exact ⟨hkeeps, h⟩
  · rintro ⟨hkeeps, hcrop⟩
    rw [interpret_of_keeps t hkeeps, hcrop]

end Interpret

end Terminal

end Ripple.Text
