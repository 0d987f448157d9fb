import Mathlib.Data.List.Basic
import Ripple.Text.Markup

/-! Reading markup, and escaping it.

A text is read tag by tag (`tag_induction`), and written one behind the other what was read is the text again
(`written_read`). To escape a text puts a backslash more than it had twice over before each of its tags, and nothing
that was no tag becomes one by that: the escaped text is read tag for tag as the text (`read_escapeTags`), and all of
its tags are shown. What gets lost is a backslash before a bracket that begins no tag (`unescape_eq_self_iff`), and
what comes in is a backslash at the end. -/
namespace Ripple.Text.Markup

variable {cs rest name : List Char} {tag : Tag} {c : Char}

/-! ### Tags -/

/-- What can stand between the brackets of a tag. -/
structure IsName (name : List Char) : Prop where
  start : name.head?.any isTagStart = true
  inside : ∀ c ∈ name, isBracket c = false

theorem isBracket_of_isTagStart (h : isTagStart c = true) : isBracket c = false := by
  rw [← Bool.not_eq_true]
  intro hbracket
  simp only [isBracket, Bool.or_eq_true, beq_iff_eq] at hbracket
  rcases hbracket with rfl | rfl <;> cases h

theorem takeWhile_eq_of_close (hname : ∀ c ∈ name, isBracket c = false) (rest : List Char) :
    (name ++ ']' :: rest).takeWhile (fun c => !isBracket c) = name := by
  rw [List.takeWhile_append_of_pos fun c hc => by simp [hname c hc]]
  simp [isBracket]

theorem name?_of_isName (h : IsName name) (rest : List Char) : name? ('[' :: (name ++ ']' :: rest)) = some name := by
  have hhead : (name ++ ']' :: rest).head?.any isTagStart = true := by
    cases hname : name with
    | nil => simpa [hname] using h.start
    | cons c cs => simpa [hname] using h.start
  have hclose : (name ++ ']' :: rest).find? isBracket = some ']' := by
    rw [List.find?_append, List.find?_eq_none.mpr fun c hc => by simp [h.inside c hc]]
    rfl
  rw [name?, hhead, hclose, takeWhile_eq_of_close h.inside]
  rfl

theorem eq_of_name? (h : name? cs = some name) : ∃ rest, cs = '[' :: (name ++ ']' :: rest) ∧ IsName name := by
  unfold name? at h
  split at h
  · next cs =>
    split at h
    · next hname =>
      obtain ⟨hstart, hclose⟩ := Bool.and_eq_true_iff.mp hname
      have hclose := eq_of_beq hclose
      obtain rfl := Option.some.inj h
      obtain ⟨_, before, rest, rfl, hbefore⟩ := List.find?_eq_some_iff_append.mp hclose
      have hbefore : ∀ c ∈ before, isBracket c = false := by simpa using hbefore
      rw [takeWhile_eq_of_close hbefore]
      refine ⟨rest, rfl, ?_, hbefore⟩
      cases before with
      | nil => exact hstart
      | cons c before => exact hstart
    · cases h
  · cases h

theorem tag?_of_ne_slash (h : c ≠ '\\') (cs : List Char) :
    tag? (c :: cs) = (name? (c :: cs)).map fun name => ⟨0, name⟩ := by
  unfold tag?
  split
  · next hsame => exact absurd (List.cons.inj hsame).1 h
  · rfl

/-- **Whatever is written as a tag is read as that tag**, and nothing else is. -/
theorem tag?_written (h : IsName tag.name) (rest : List Char) : tag? (tag.written ++ rest) = some tag := by
  obtain ⟨slashes, name⟩ := tag
  induction slashes with
  | zero =>
    have hchars : (⟨0, name⟩ : Tag).written ++ rest = '[' :: (name ++ ']' :: rest) := by
      simp [Tag.written, Tag.chars]
    rw [hchars, tag?_of_ne_slash (by decide), name?_of_isName h rest]
    rfl
  | succ slashes ih =>
    have hchars : (⟨slashes + 1, name⟩ : Tag).written ++ rest = '\\' :: ((⟨slashes, name⟩ : Tag).written ++ rest) := by
      simp [Tag.written, Tag.chars, List.replicate_succ]
    rw [hchars, tag?, ih h]
    rfl

theorem eq_of_tag? (h : tag? cs = some tag) : ∃ rest, cs = tag.written ++ rest ∧ IsName tag.name := by
  induction cs generalizing tag with
  | nil => cases h
  | cons c cs ih =>
    by_cases hslash : c = '\\'
    · subst hslash
      obtain ⟨inner, hinner, rfl⟩ := Option.map_eq_some_iff.mp h
      obtain ⟨rest, rfl, hname⟩ := ih hinner
      exact ⟨rest, by simp [Tag.written, Tag.chars, List.replicate_succ], hname⟩
    · rw [tag?_of_ne_slash hslash] at h
      obtain ⟨name, hfound, rfl⟩ := Option.map_eq_some_iff.mp h
      obtain ⟨rest, hrest, hname⟩ := eq_of_name? hfound
      exact ⟨rest, by simp [hrest, Tag.written, Tag.chars], hname⟩

/-! ### Reading -/

theorem length_written (tag : Tag) : tag.written.length = tag.slashes + tag.name.length + 2 := by
  simp [Tag.written, Tag.chars, Nat.add_assoc]

theorem read_written (h : IsName tag.name) (rest : List Char) :
    read (tag.written ++ rest) = .tag [] tag (read rest) := by
  have hfound := tag?_written h rest
  have hlength := length_written tag
  cases hchars : tag.written ++ rest with
  | nil =>
    have hnone := congrArg List.length hchars
    simp [hlength] at hnone
  | cons c cs =>
    rw [hchars] at hfound
    have hrest : cs.drop (tag.slashes + tag.name.length + 1) = rest := by
      have hdrop : (c :: cs).drop tag.written.length = rest := by rw [← hchars, List.drop_left]
      rwa [hlength] at hdrop
    rw [read, hfound]
    simp only [hrest]

theorem read_cons (h : tag? (c :: cs) = none) : read (c :: cs) = (read cs).cons c := by
  rw [read, h]

/-- Texts are read tag by tag: a statement about texts holds if it goes through a tag and through a character that
begins none. -/
theorem tag_induction {motive : List Char → Prop} (nil : motive [])
    (tag : ∀ (tag : Tag) rest, IsName tag.name → motive rest → motive (tag.written ++ rest))
    (other : ∀ c rest, tag? (c :: rest) = none → motive rest → motive (c :: rest)) (cs : List Char) : motive cs := by
  fun_induction read cs with
  | case1 => exact nil
  | case2 c cs found hfound ih =>
    obtain ⟨rest, hrest, hname⟩ := eq_of_tag? hfound
    have hdrop : cs.drop (found.slashes + found.name.length + 1) = rest := by
      have hwhole : (c :: cs).drop found.written.length = rest := by rw [hrest, List.drop_left]
      rwa [length_written] at hwhole
    rw [hrest]
    exact tag found rest hname (hdrop ▸ ih)
  | case3 c cs hnone ih => exact other c cs hnone ih

theorem written_cons (c : Char) (cut : Cut) : (cut.cons c).written = c :: cut.written := by
  cases cut <;> rfl

/-- **What is read of a text, written again, is the text.** -/
theorem written_read (cs : List Char) : (read cs).written = cs := by
  induction cs using tag_induction with
  | nil => simp [read, Cut.written]
  | tag tag rest hname ih => rw [read_written hname, Cut.written, ih, List.nil_append]
  | other c rest hnone ih => rw [read_cons hnone, written_cons, ih]

/-! ### Escaping -/

/-- A text with its tags escaped, whatever it ends in. -/
def escapeTags (cs : List Char) : List Char := (read cs).escaped.written

theorem escaped_cons (c : Char) (cut : Cut) : (cut.cons c).escaped = cut.escaped.cons c := by
  cases cut <;> rfl

theorem escapeTags_nil : escapeTags [] = [] := by simp [escapeTags, read, Cut.escaped, Cut.written]

theorem escapeTags_written (h : IsName tag.name) (rest : List Char) :
    escapeTags (tag.written ++ rest) = tag.escaped.written ++ escapeTags rest := by
  rw [escapeTags, read_written h, Cut.escaped, Cut.written, List.nil_append, escapeTags]

theorem escapeTags_cons (h : tag? (c :: cs) = none) : escapeTags (c :: cs) = c :: escapeTags cs := by
  rw [escapeTags, read_cons h, escaped_cons, written_cons, escapeTags]

/-- The first character of a tag, and the first bracket. -/
theorem head_written (tag : Tag) (rest : List Char) : (tag.written ++ rest).head?.any isTagStart = false ∧
    (tag.written ++ rest).find? isBracket = some '[' := by
  have hslash : isBracket '\\' = false := by decide
  have hstart : isTagStart '\\' = false ∧ isTagStart '[' = false := by decide
  obtain ⟨slashes, name⟩ := tag
  constructor
  · cases slashes <;> simp [Tag.written, Tag.chars, List.replicate_succ, hstart]
  · simp only [Tag.written, List.append_assoc]
    rw [List.find?_append, List.find?_replicate, hslash]
    simp [Tag.chars, isBracket]

/-- Escaping changes neither what a text begins with nor its first bracket, so no tag comes about by it. -/
theorem head_escapeTags (cs : List Char) :
    (escapeTags cs).head?.any isTagStart = cs.head?.any isTagStart ∧
      (escapeTags cs).find? isBracket = cs.find? isBracket := by
  induction cs using tag_induction with
  | nil => rw [escapeTags_nil]; exact ⟨rfl, rfl⟩
  | tag tag rest hname ih =>
    rw [escapeTags_written hname]
    obtain ⟨hhead, hbracket⟩ := head_written tag rest
    obtain ⟨hhead', hbracket'⟩ := head_written tag.escaped (escapeTags rest)
    exact ⟨hhead'.trans hhead.symm, hbracket'.trans hbracket.symm⟩
  | other c rest hnone ih =>
    rw [escapeTags_cons hnone, List.find?_cons, List.find?_cons, ih.2]
    exact ⟨rfl, rfl⟩

theorem name?_eq_none_iff : name? ('[' :: cs) = none ↔
    ¬(cs.head?.any isTagStart = true ∧ cs.find? isBracket = some ']') := by
  simp [name?]

theorem name?_of_ne_bracket (h : c ≠ '[') (cs : List Char) : name? (c :: cs) = none := by
  unfold name?
  split
  · next hsame => exact absurd (List.cons.inj hsame).1 h
  · rfl

/-- **No tag comes about by escaping.** -/
theorem tag?_escapeTags_eq_none (h : tag? cs = none) : tag? (escapeTags cs) = none := by
  induction cs with
  | nil => rw [escapeTags_nil]; exact h
  | cons c cs ih =>
    rw [escapeTags_cons h]
    by_cases hslash : c = '\\'
    · subst hslash
      have hbehind : tag? cs = none := Option.map_eq_none_iff.mp h
      rw [tag?, ih hbehind]
      rfl
    · rw [tag?_of_ne_slash hslash, Option.map_eq_none_iff] at h ⊢
      by_cases hbracket : c = '['
      · subst hbracket
        rw [name?_eq_none_iff] at h ⊢
        rwa [(head_escapeTags cs).1, (head_escapeTags cs).2]
      · exact name?_of_ne_bracket hbracket _

/-- **An escaped text is read tag for tag as the text**, each tag behind so many more backslashes. -/
theorem read_escapeTags (cs : List Char) : read (escapeTags cs) = (read cs).escaped := by
  induction cs using tag_induction with
  | nil => rw [escapeTags_nil]; simp [read, Cut.escaped]
  | tag tag rest hname ih =>
    rw [escapeTags_written hname, read_written (show IsName tag.escaped.name from hname), read_written hname, ih]
    rfl
  | other c rest hnone ih =>
    have hescaped := tag?_escapeTags_eq_none hnone
    rw [escapeTags_cons hnone] at hescaped ⊢
    rw [read_cons hescaped, read_cons hnone, ih, escaped_cons]

/-! ### The end of a text -/

namespace Cut

/-- More characters at the end. -/
def extend (more : List Char) : Cut → Cut
  | .text chars => .text (chars ++ more)
  | .tag before t behind => .tag before t (behind.extend more)

theorem extend_nil (cut : Cut) : cut.extend [] = cut := by
  induction cut with
  | text chars => simp [extend]
  | tag before t behind ih => rw [extend, ih]

theorem extend_cons (c : Char) (cut : Cut) (more : List Char) :
    (cut.cons c).extend more = (cut.extend more).cons c := by
  cases cut <;> rfl

end Cut

theorem tag?_append_slash (h : tag? cs = none) : tag? (cs ++ ['\\']) = none := by
  induction cs with
  | nil => rfl
  | cons c cs ih =>
    rw [List.cons_append]
    by_cases hslash : c = '\\'
    · subst hslash
      rw [tag?, ih (Option.map_eq_none_iff.mp h)]
      rfl
    · rw [tag?_of_ne_slash hslash, Option.map_eq_none_iff] at h ⊢
      by_cases hbracket : c = '['
      · subst hbracket
        rw [name?_eq_none_iff] at h ⊢
        have hhead : (cs ++ ['\\']).head?.any isTagStart = cs.head?.any isTagStart := by
          cases cs <;> rfl
        have hclose : (cs ++ ['\\']).find? isBracket = cs.find? isBracket := by
          rw [List.find?_append]
          exact Option.or_none
        rwa [hhead, hclose]
      · exact name?_of_ne_bracket hbracket _

theorem read_append_slash (cs : List Char) : read (cs ++ ['\\']) = (read cs).extend ['\\'] := by
  induction cs using tag_induction with
  | nil =>
    rw [List.nil_append, read_cons (by rfl), read]
    rfl
  | tag tag rest hname ih => rw [List.append_assoc, read_written hname, read_written hname, ih, Cut.extend]
  | other c rest hnone ih =>
    have happend := tag?_append_slash hnone
    rw [List.cons_append] at happend ⊢
    rw [read_cons happend, read_cons hnone, ih, Cut.extend_cons]

/-- What the end of a text is depends on what follows the last character that is no backslash. -/
theorem endsInSlash_append (before : List Char) (hc : c ≠ '\\') (rest : List Char) :
    endsInSlash (before ++ c :: rest) = endsInSlash rest := by
  have hreverse : (before ++ c :: rest).reverse = rest.reverse ++ c :: before.reverse := by simp
  have hrun : (rest.reverse ++ c :: before.reverse).takeWhile (· == '\\') = rest.reverse.takeWhile (· == '\\') := by
    rw [List.takeWhile_append]
    split
    · next hall =>
      rw [List.takeWhile_cons_of_neg (by simpa using hc), List.append_nil]
      exact ((List.takeWhile_prefix _).eq_of_length hall).symm
    · rfl
  rw [endsInSlash, hreverse, hrun, endsInSlash]

/-- An escaped text ends as the text does. -/
theorem endsInSlash_escapeTags (cs : List Char) : endsInSlash (escapeTags cs) = endsInSlash cs := by
  have hcut : ∀ cut : Cut, endsInSlash cut.escaped.written = endsInSlash cut.written := by
    intro cut
    induction cut with
    | text chars => rfl
    | tag before t behind ih =>
      have hclose : ∀ (t : Tag) (rest : List Char), before ++ (t.written ++ rest) =
          (before ++ List.replicate t.slashes '\\' ++ '[' :: t.name) ++ ']' :: rest := by
        intro t rest
        simp [Tag.written, Tag.chars]
      rw [Cut.escaped, Cut.written, Cut.written, hclose, hclose, endsInSlash_append _ (by decide),
        endsInSlash_append _ (by decide), ih]
  rw [escapeTags, hcut, written_read]

/-- The backslash that escaping puts at the end. -/
def lastSlash (cs : List Char) : List Char := if endsInSlash cs then ['\\'] else []

theorem escapeChars_eq (cs : List Char) : escapeChars cs = escapeTags cs ++ lastSlash cs := by
  have hescape : escapeChars cs = if endsInSlash (escapeTags cs) then escapeTags cs ++ ['\\'] else escapeTags cs := rfl
  rw [hescape, endsInSlash_escapeTags, lastSlash]
  split
  · rfl
  · rw [List.append_nil]

/-- **What is read of an escaped text** is what is read of the text, its tags behind more backslashes, and maybe one
backslash at the end. -/
theorem read_escapeChars (cs : List Char) : read (escapeChars cs) = (read cs).escaped.extend (lastSlash cs) := by
  rw [escapeChars_eq, lastSlash]
  split
  · rw [read_append_slash, read_escapeTags]
  · rw [List.append_nil, read_escapeTags, Cut.extend_nil]

/-! ### What is shown -/

theorem unescape_cons (h : c ≠ '\\' ∨ cs.head? ≠ some '[') : unescape (c :: cs) = c :: unescape cs := by
  conv => lhs; unfold unescape
  split <;> simp_all

theorem unescape_append_slash (cs : List Char) : unescape (cs ++ ['\\']) = unescape cs ++ ['\\'] := by
  fun_induction unescape cs with
  | case1 => rfl
  | case2 cs ih => rw [List.cons_append, List.cons_append, unescape, ih, List.cons_append]
  | case3 c cs hother ih =>
    rw [List.cons_append, unescape_cons, ih, List.cons_append]
    by_cases hslash : c = '\\'
    · right
      cases cs with
      | nil => simp
      | cons d cs => simpa using fun hbracket => hother cs hslash (by rw [hbracket])
    · exact .inl hslash

theorem unescape_append_eq {y z : List Char} (h : unescape cs ++ y = cs ++ z) : unescape cs = cs ∧ y = z := by
  fun_induction unescape cs with
  | case1 => exact ⟨rfl, h⟩
  | case2 cs => cases (List.cons.inj h).1
  | case3 c cs _ ih =>
    obtain ⟨hsame, hrest⟩ := ih (List.cons.inj h).2
    exact ⟨by rw [hsame], hrest⟩

/-- A text is shown as it is unless a backslash stands before a bracket in it. -/
theorem unescape_eq_self_iff : unescape cs = cs ↔ ¬['\\', '['] <:+: cs := by
  fun_induction unescape cs with
  | case1 => simp
  | case2 cs =>
    have hpart : ['\\', '['] <:+: '\\' :: '[' :: cs := ⟨[], cs, rfl⟩
    simp [hpart]
  | case3 c cs hother ih =>
    rw [List.cons.injEq, ih, List.infix_cons_iff]
    have hstart : ¬['\\', '['] <+: c :: cs := by
      rintro ⟨rest, hrest⟩
      obtain ⟨hc, hcs⟩ := List.cons.inj hrest
      exact hother rest hc.symm hcs.symm
    simp [hstart]

theorem count_unescape (hc : c ≠ '\\') (cs : List Char) : (unescape cs).count c = cs.count c := by
  fun_induction unescape cs with
  | case1 => rfl
  | case2 cs ih => simp [List.count_cons, ih, hc.symm]
  | case3 d cs _ ih => rw [List.count_cons, List.count_cons, ih]

theorem unescape_subset (cs : List Char) : unescape cs ⊆ cs := by
  fun_induction unescape cs with
  | case1 => exact List.Subset.refl _
  | case2 cs ih => exact List.Subset.trans (List.cons_subset_cons _ ih) (List.subset_cons_self ..)
  | case3 d cs _ ih => exact List.cons_subset_cons _ ih

namespace Cut

/-- The texts between the tags. -/
def texts : Cut → List (List Char)
  | .text chars => [chars]
  | .tag before _ behind => before :: behind.texts

/-- The text part by part: texts, backslashes before tags, and tags. -/
def parts : Cut → List (List Char)
  | .text chars => [chars]
  | .tag before t behind => before :: List.replicate t.slashes '\\' :: t.chars :: behind.parts

theorem texts_subset_parts (cut : Cut) : cut.texts ⊆ cut.parts := by
  induction cut with
  | text chars => exact List.Subset.refl _
  | tag before t behind ih =>
    exact List.cons_subset_cons _
      (List.Subset.trans ih (List.Subset.trans (List.subset_cons_self ..) (List.subset_cons_self ..)))

theorem flatten_parts (cut : Cut) : cut.parts.flatten = cut.written := by
  induction cut with
  | text chars => simp [parts, written]
  | tag before t behind ih => simp [parts, written, Tag.written, ih]

end Cut

/-! ### Texts without backslashes -/

theorem infix_of_mem_parts {part : List Char} (h : part ∈ (read cs).parts) : part <:+: cs := by
  have hinfix := List.infix_of_mem_flatten h
  rwa [Cut.flatten_parts, written_read] at hinfix

theorem slashes_of_not_mem (h : '\\' ∉ cs) : ∀ text ∈ (read cs).texts, ¬['\\', '['] <:+: text :=
  fun _ htext hbracket => h ((hbracket.trans (infix_of_mem_parts (Cut.texts_subset_parts _ htext))).subset
    (List.mem_cons_self ..))

theorem endsInSlash_of_not_mem (h : '\\' ∉ cs) : endsInSlash cs = false := by
  have hrun : cs.reverse.takeWhile (· == '\\') = [] := by
    cases hrun : cs.reverse.takeWhile (· == '\\') with
    | nil => rfl
    | cons c run =>
      have hc : c ∈ cs.reverse.takeWhile (· == '\\') := hrun ▸ List.mem_cons_self ..
      have hfirst := List.all_eq_true.mp List.all_takeWhile c hc
      obtain rfl := eq_of_beq hfirst
      exact absurd (List.mem_reverse.mp ((List.takeWhile_subset _) hc)) h
  rw [endsInSlash, hrun]
  rfl

/-! ### Escaped texts -/

/-- An escaped tag is shown with all of the backslashes that it had. -/
theorem shown_escaped (t : Tag) : t.escaped.shown = [List.replicate t.slashes '\\', t.chars] := by
  have hhalf : (2 * t.slashes + 1) / 2 = t.slashes := by omega
  have hodd : (2 * t.slashes + 1) % 2 = 1 := by omega
  rw [Tag.shown, Tag.escaped, hhalf, hodd]
  rfl

/-- **A text with its tags escaped is shown in its parts**, if no text between the tags loses a backslash. -/
theorem shown_eq_parts {cut : Cut} (h : ∀ text ∈ cut.texts, unescape text = text) : cut.escaped.shown = cut.parts := by
  induction cut with
  | text chars =>
    rw [Cut.escaped, Cut.shown, h chars (List.mem_singleton_self _), Cut.parts]
  | tag before t behind ih =>
    rw [Cut.texts, List.forall_mem_cons] at h
    rw [Cut.escaped, Cut.shown, h.1, shown_escaped, ih h.2, Cut.parts]
    rfl

/-- If a text is shown as it is with something behind it, no text between its tags loses a backslash, and nothing
comes in at its end. -/
theorem texts_of_shown_eq {more y z : List Char} (hmore : more = [] ∨ more = ['\\']) {cut : Cut}
    (h : (cut.escaped.extend more).shown.flatten ++ y = cut.written ++ z) :
    (∀ text ∈ cut.texts, unescape text = text) ∧ more ++ y = z := by
  induction cut with
  | text chars =>
    have hextend : unescape (chars ++ more) = unescape chars ++ more := by
      rcases hmore with rfl | rfl
      · rw [List.append_nil, List.append_nil]
      · exact unescape_append_slash chars
    simp only [Cut.escaped, Cut.extend, Cut.shown, Cut.written, List.flatten_cons, List.flatten_nil, List.append_nil,
      hextend, List.append_assoc] at h
    obtain ⟨hsame, hrest⟩ := unescape_append_eq h
    exact ⟨by simpa [Cut.texts] using hsame, hrest⟩
  | tag before t behind ih =>
    simp only [Cut.escaped, Cut.extend, Cut.shown, Cut.written, shown_escaped, Tag.written, List.flatten_cons,
      List.cons_append, List.nil_append, List.append_assoc] at h
    obtain ⟨hsame, hrest⟩ := unescape_append_eq h
    obtain ⟨hbehind, hend⟩ := ih (List.append_cancel_left (List.append_cancel_left hrest))
    exact ⟨List.forall_mem_cons.mpr ⟨hsame, hbehind⟩, hend⟩

theorem count_shown {more : List Char} (hc : c ≠ '\\') (hmore : more.count c = 0) (cut : Cut) :
    (cut.escaped.extend more).shown.flatten.count c = cut.written.count c := by
  induction cut with
  | text chars =>
    simp [Cut.escaped, Cut.extend, Cut.shown, Cut.written, count_unescape hc, hmore]
  | tag before t behind ih =>
    simp [Cut.escaped, Cut.extend, Cut.shown, Cut.written, shown_escaped, Tag.written, count_unescape hc, ih]

/-- Nothing is shown that is not in the text, but for what is put at the end. -/
theorem mem_of_mem_shown {more : List Char} {cut : Cut} (h : c ∈ (cut.escaped.extend more).shown.flatten) :
    c ∈ cut.written ∨ c ∈ more := by
  induction cut with
  | text chars =>
    simp only [Cut.escaped, Cut.extend, Cut.shown, List.flatten_cons, List.flatten_nil, List.append_nil] at h
    exact List.mem_append.mp (unescape_subset _ h)
  | tag before t behind ih =>
    simp only [Cut.escaped, Cut.extend, Cut.shown, shown_escaped, List.flatten_cons, List.cons_append, List.nil_append,
      List.mem_append] at h
    simp only [Cut.written, Tag.written, List.mem_append]
    rcases h with h | h | h | h
    · exact .inl (.inl (unescape_subset _ h))
    · exact .inl (.inr (.inl (.inl h)))
    · exact .inl (.inr (.inl (.inr h)))
    · exact (ih h).imp_left fun hbehind => .inr (.inr hbehind)

end Ripple.Text.Markup
