import Ripple.Proofs.Source.Spacing

/-! How lexemes are laid out.

What is gathered from a text is gathered mark by mark and lexeme by lexeme, in any dialect: a gap adds to what
stands before the next token (`read_gap`), and a lexeme adds that token (`read_spaced`). So a text of lexemes is
laid out as one logical line with a token for each of them, whatever the gaps (`layOut_flat`). -/
namespace Ripple.Source

/-- Goes on with a text. -/
def Gathered.read (d : Dialect) (g : Gathered) (cs : List Char) : List LogicalLine := g.gather d (pieces d cs)

namespace Gathered

/-! ### Gaps -/

theorem skip_append (d : Dialect) (g : Gathered) (cs ds : List Char) :
    g.skip d ⟨.blank, cs ++ ds⟩ = (g.skip d ⟨.blank, cs⟩).skip d ⟨.blank, ds⟩ := by
  unfold skip
  simp only [List.count_append, List.reverse_append, List.append_assoc, List.foldl_append, Nat.add_assoc]
  by_cases h : g.tokens = [] <;> simp [h]

/-- Blanks may be passed over one by one. -/
theorem read_blank {d : Dialect} (g : Gathered) {c : Char} (hc : isBlank d c = true) (cs : List Char) :
    g.read d (c :: cs) = (g.skip d ⟨.blank, [c]⟩).read d cs := by
  have hpiece : ∀ {c : Char}, isBlank d c = true → ∀ cs,
      pieces d (c :: cs) = ⟨.blank, c :: cs.take (spanLength (isBlank d) cs)⟩ ::
        pieces d (cs.drop (spanLength (isBlank d) cs)) := by
    intro c hc cs
    have hbreak : c ≠ '\n' := by
      rintro rfl
      cases d <;> exact absurd hc (by decide)
    rw [pieces, pieceAt, if_neg hbreak, if_pos hc]
  rw [read, hpiece hc, gather]
  cases cs with
  | nil => rfl
  | cons e cs =>
    by_cases he : isBlank d e = true
    · have hspan : spanLength (isBlank d) (e :: cs) = spanLength (isBlank d) cs + 1 := by simp [spanLength, he]
      rw [read, hpiece he, gather, hspan, List.take_succ_cons, List.drop_succ_cons]
      simp only
      rw [← skip_append, List.singleton_append]
    · have hspan : spanLength (isBlank d) (e :: cs) = 0 := by simp [spanLength, he]
      rw [hspan]
      rfl

theorem read_joint (d : Dialect) (g : Gathered) (cs : List Char) :
    g.read d ('\\' :: '\n' :: cs) = (g.skip d ⟨.joint, ['\\', '\n']⟩).read d cs := by
  have hblank : isBlank d '\\' = false := by cases d <;> decide
  have hpieces : pieces d ('\\' :: '\n' :: cs) = ⟨.joint, ['\\', '\n']⟩ :: pieces d cs := by
    rw [pieces, pieceAt, if_neg (by decide), if_neg (by simp [hblank]), if_neg (by decide), if_pos rfl]
    rfl
  rw [read, hpieces, gather]
  rfl

/-- A gap behind a token adds to what stands before the next one. -/
theorem read_gap (d : Dialect) (g : Gathered) (gap : Gap) (cs : List Char) (h : g.tokens ≠ []) :
    g.read d (Gap.chars gap ++ cs) =
      { g with line := g.line + Gap.breaks gap, gap := (Gap.chars gap).reverse ++ g.gap : Gathered }.read d cs := by
  induction gap generalizing g with
  | nil => rfl
  | cons m gap ih =>
    have hmark : g.read d (m.chars ++ (Gap.chars gap ++ cs)) =
        { g with line := g.line + if m = .joint then 1 else 0, gap := m.chars.reverse ++ g.gap : Gathered }.read d
          (Gap.chars gap ++ cs) := by
      cases m with
      | space =>
        refine (g.read_blank (c := ' ') (by cases d <;> decide) _).trans ?_
        simp [skip, h, GapMark.chars]
      | tab =>
        refine (g.read_blank (c := '\t') (by cases d <;> decide) _).trans ?_
        simp [skip, h, GapMark.chars]
      | joint =>
        refine (read_joint d g _).trans ?_
        simp [skip, GapMark.chars]
    have hchars : Gap.chars (m :: gap) = m.chars ++ Gap.chars gap := rfl
    rw [hchars, List.append_assoc, hmark]
    refine (ih _ (by exact h)).trans ?_
    rw [Gap.breaks_cons, List.reverse_append, List.append_assoc]
    simp only [Nat.add_assoc]

/-! ### Lexemes -/

/-- The open brackets after a lexeme on `line`. -/
def bracketsAfter (brackets : List (String × Nat)) (line : Nat) : Lexeme → List (String × Nat)
  | .opening => ("(", line) :: brackets
  | .closing => brackets.tail
  | _ => brackets

/-- What has been gathered once a lexeme has been taken. -/
def push (g : Gathered) (t : Spaced) : Gathered :=
  { g with
    line := g.line + t.gap.breaks
    tokens := t.token g.line :: g.tokens
    gap := []
    brackets := bracketsAfter g.brackets (g.line + t.gap.breaks) t.lexeme }

theorem count_lineFeed_text (l : Lexeme) : l.text.toList.count '\n' = 0 := by
  cases l with
  | word w =>
    have hclean : ∀ c ∈ w.first :: w.rest, c ≠ '\n' := by
      intro c hc hfeed
      subst hfeed
      rcases List.mem_cons.mp hc with hc | hc
      · exact absurd (hc ▸ w.starts) (by decide)
      · exact absurd (w.isWordPart_of_mem_rest hc) (by decide)
    rw [Lexeme.text, Word.toList_text, List.count_eq_zero]
    exact fun hc => hclean _ hc rfl
  | _ => decide

theorem addSymbol_text {g : Gathered} {l : Lexeme} (hsymbol : l.kind = .symbol)
    (hclose : l = .closing → ∃ line brackets, g.brackets = ("(", line) :: brackets) :
    g.addSymbol ⟨.symbol, l.text.toList⟩ =
      .ok { g.addToken .symbol ⟨.symbol, l.text.toList⟩ with brackets := bracketsAfter g.brackets g.line l } := by
  have hplain : ∀ text : String, isOpening text = false → openingOf? text = none →
      g.addSymbol ⟨.symbol, text.toList⟩ = .ok (g.addToken .symbol ⟨.symbol, text.toList⟩) := by
    intro text hopening hclosing
    simp only [addSymbol, String.ofList_toList, hopening, hclosing, Bool.false_eq_true, ↓reduceIte]
  cases l with
  | word w => cases hsymbol
  | opening => rfl
  | closing =>
    obtain ⟨line, brackets, hopen⟩ := hclose rfl
    have hopening : openingOf? ")" = some "(" := by decide
    have hnot : isOpening ")" = false := by decide
    simp only [addSymbol, Lexeme.text, String.ofList_toList, hnot, hopening, hopen, bracketsAfter, List.tail_cons,
      Bool.false_eq_true, ↓reduceIte]
  | dot => exact hplain _ (by decide) (by decide)
  | ellipsis => exact hplain _ (by decide) (by decide)
  | comma => exact hplain _ (by decide) (by decide)
  | star => exact hplain _ (by decide) (by decide)

/-- A lexeme is taken with the gap before it. -/
theorem read_spaced {d : Dialect} {g : Gathered} {t : Spaced} {next : List Char} (hgap : g.gap = [])
    (hstart : g.tokens ≠ [] ∨ t.gap = []) (hstand : Stands d t.lexeme next)
    (hclose : t.lexeme = .closing → ∃ line brackets, g.brackets = ("(", line) :: brackets) :
    g.read d (t.chars ++ next) = (g.push t).read d next := by
  let g' : Gathered := { g with line := g.line + Gap.breaks t.gap, gap := (Gap.chars t.gap).reverse }
  have hpassed : g.read d (t.chars ++ next) = g'.read d (t.lexeme.text.toList ++ next) := by
    rw [Spaced.chars, List.append_assoc]
    rcases hstart with htokens | hnone
    · rw [read_gap d g t.gap _ htokens, hgap, List.append_nil]
    · have hsame : g' = g := by
        unfold g'
        rw [hnone]
        exact congrArg (fun gap => { g with gap := gap }) hgap.symm
      rw [hsame, hnone]
      rfl
  have hpush : { g'.addToken t.lexeme.kind ⟨t.lexeme.pieceKind, t.lexeme.text.toList⟩ with
      brackets := bracketsAfter g'.brackets g'.line t.lexeme } = g.push t := by
    simp only [addToken, count_lineFeed_text, Nat.add_zero, String.ofList_toList, g', List.reverse_reverse, push,
      Spaced.token]
  have htaken : g'.gather d (⟨t.lexeme.pieceKind, t.lexeme.text.toList⟩ :: pieces d next) =
      (g.push t).gather d (pieces d next) := by
    rw [← hpush]
    cases hl : t.lexeme with
    | word w => rfl
    | _ =>
      rw [gather]
      simp only [Lexeme.pieceKind, Lexeme.kind]
      rw [addSymbol_text (g := g') rfl fun h => hclose (hl.trans h)]
  rw [hpassed, read, pieces_of_isPiece hstand, htaken, read]

end Gathered

/-! ### Lines of lexemes -/

/-- Whether each lexeme is read as one in a text that ends with `tail`. -/
def Lexed (d : Dialect) (tail : List Char) : List Spaced → Prop
  | [] => True
  | t :: rest => Stands d t.lexeme (flat rest ++ tail) ∧ Lexed d tail rest

/-- Whether lexemes close all of the `depth` brackets that are open, and what they open. -/
def Closes (depth : Nat) : List Spaced → Prop
  | [] => depth = 0
  | t :: rest => match t.lexeme with
    | .opening => Closes (depth + 1) rest
    | .closing => 0 < depth ∧ Closes (depth - 1) rest
    | _ => Closes depth rest

theorem lexed_append {d : Dialect} {tail : List Char} {ts us : List Spaced} :
    Lexed d tail (ts ++ us) ↔ Lexed d (flat us ++ tail) ts ∧ Lexed d tail us := by
  induction ts with
  | nil => simp [Lexed]
  | cons t ts ih =>
    rw [List.cons_append, Lexed, Lexed, ih, flat_append, List.append_assoc, and_assoc]

/-- Lexemes are taken one by one. -/
theorem Gathered.read_flat {d : Dialect} {tail : List Char} {ts : List Spaced} {g : Gathered} (hgap : g.gap = [])
    (hstart : g.tokens ≠ [] ∨ ∀ t ∈ ts.head?, t.gap = []) (hlexed : Lexed d tail ts)
    (hround : ∀ b ∈ g.brackets, b.1 = "(") (hcloses : Closes g.brackets.length ts) :
    g.read d (flat ts ++ tail) =
      { g with
        line := lineAfter g.line ts
        tokens := (place g.line ts).reverse ++ g.tokens
        brackets := [] : Gathered }.read d tail := by
  induction ts generalizing g with
  | nil =>
    have hnone : g.brackets = [] := List.eq_nil_of_length_eq_zero hcloses
    have hsame : { g with brackets := [] : Gathered } = g := by
      rw [← hnone]
    simp only [flat_nil, List.nil_append, lineAfter, place, List.reverse_nil, hsame]
  | cons t ts ih =>
    obtain ⟨hstand, hlexed⟩ := hlexed
    have hopen : t.lexeme = .closing → ∃ line brackets, g.brackets = ("(", line) :: brackets := by
      intro hclosing
      rw [Closes, hclosing] at hcloses
      obtain ⟨hdepth, _⟩ := hcloses
      -- All brackets are round, so the last one that is open is the one that is closed.
      obtain ⟨⟨opened, line⟩, brackets, hbrackets⟩ := List.exists_cons_of_length_pos hdepth
      obtain rfl : opened = "(" := hround (opened, line) (by simp [hbrackets])
      exact ⟨line, brackets, hbrackets⟩
    have hstep := read_spaced hgap (hstart.imp_right fun h => h t rfl) hstand hopen
    have hround' : ∀ b ∈ (g.push t).brackets, b.1 = "(" := by
      intro b hb
      simp only [push] at hb
      cases hl : t.lexeme with
      | opening =>
        rw [hl] at hb
        rcases List.mem_cons.mp hb with rfl | hb
        · rfl
        · exact hround b hb
      | closing =>
        rw [hl] at hb
        exact hround b (List.mem_of_mem_tail hb)
      | _ =>
        rw [hl] at hb
        exact hround b hb
    have hcloses' : Closes (g.push t).brackets.length ts := by
      simp only [push]
      rw [Closes] at hcloses
      cases hl : t.lexeme with
      | closing =>
        rw [hl] at hcloses
        simpa [bracketsAfter] using hcloses.2
      | _ =>
        rw [hl] at hcloses
        exact hcloses
    rw [flat_cons, List.append_assoc, hstep, ih rfl (.inl (by simp [push])) hlexed hround' hcloses']
    simp only [push, lineAfter, place, List.reverse_cons, List.append_assoc, List.singleton_append, hgap]

/-- **A text of lexemes is laid out as one line with their tokens**, whatever the gaps between them. -/
theorem layOut_flat {d : Dialect} {ts : List Spaced} {tail : List Char} (hts : ts ≠ [])
    (hmargin : ∀ t ∈ ts.head?, t.gap = []) (htail : tail = [] ∨ tail = ['\n']) (hlexed : Lexed d tail ts)
    (hcloses : Closes 0 ts) :
    layOut d (flat ts ++ tail) = [⟨0, place 1 ts, lineAfter 1 ts, none⟩] := by
  have hread : layOut d (flat ts ++ tail) = _ :=
    Gathered.read_flat (g := .start) rfl (.inr hmargin) hlexed (by simp [Gathered.start]) hcloses
  have hplaced : place 1 ts ≠ [] := by
    cases ts with
    | nil => exact absurd rfl hts
    | cons t ts => exact List.cons_ne_nil _ _
  rw [hread]
  rcases htail with rfl | rfl
  · simp [Gathered.read, pieces, Gathered.gather, Gathered.finish, Gathered.start, Gathered.closed,
      Gathered.current, hplaced]
  · have hend : pieces d ['\n'] = [⟨.lineBreak, ['\n']⟩] := by
      simp [pieces, pieceAt]
    simp [Gathered.read, hend, Gathered.gather, Gathered.breakLine, Gathered.finish, Gathered.start,
      Gathered.closed, Gathered.current, hplaced]

end Ripple.Source
