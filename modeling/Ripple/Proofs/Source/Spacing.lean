import Mathlib
import Ripple.Source.Line

/-! Lexemes with gaps between them.

A gap is made of blanks and of line ends behind a backslash. A lexeme is read as one piece where it `Stands`: a
word before anything that ends it (`stands_word`), a point where it is not the first of three (`stands_dot`), and
most other symbols anywhere. -/
namespace Ripple.Source

/-! ### Gaps -/

/-- A blank, or a line end that a backslash joins to the next line. -/
inductive GapMark where
  | space | tab | joint
  deriving DecidableEq, Repr

def GapMark.chars : GapMark → List Char
  | space => [' ']
  | tab => ['\t']
  | joint => ['\\', '\n']

/-- What stands between two tokens. -/
abbrev Gap := List GapMark

namespace Gap

def chars (g : Gap) : List Char := g.flatMap GapMark.chars

/-- How many line ends a gap has. -/
def breaks (g : Gap) : Nat := g.count .joint

theorem breaks_cons (m : GapMark) (g : Gap) : breaks (m :: g) = (if m = .joint then 1 else 0) + breaks g := by
  rw [breaks, List.count_cons, breaks, Nat.add_comm]
  simp

end Gap

/-- A gap that keeps two words apart. -/
abbrev Space := {g : Gap // g ≠ []}

/-! ### Lexemes -/

/-- Letters and the underscore, in ASCII. -/
def isWordStart (c : Char) : Bool := c.isAlpha || c == '_'

/-- Letters, digits and the underscore, in ASCII. -/
def isWordPart (c : Char) : Bool := c.isAlphanum || c == '_'

structure Word where
  first : Char
  rest : List Char
  starts : isWordStart first = true
  continues : rest.all isWordPart = true

namespace Word

def text (w : Word) : String := .ofList (w.first :: w.rest)

@[simp] theorem toList_text (w : Word) : w.text.toList = w.first :: w.rest := String.toList_ofList ..

theorem isWordPart_of_mem_rest (w : Word) {c : Char} (h : c ∈ w.rest) : isWordPart c = true :=
  List.all_eq_true.mp w.continues c h

end Word

inductive Lexeme where
  | word (w : Word)
  | dot | ellipsis | comma | opening | closing | star

namespace Lexeme

def text : Lexeme → String
  | word w => w.text
  | dot => "."
  | ellipsis => "..."
  | comma => ","
  | opening => "("
  | closing => ")"
  | star => "*"

def kind : Lexeme → TokenKind
  | word _ => .word
  | _ => .symbol

end Lexeme

/-- A lexeme with the gap before it. -/
structure Spaced where
  gap : Gap
  lexeme : Lexeme

namespace Spaced

def chars (t : Spaced) : List Char := t.gap.chars ++ t.lexeme.text.toList

/-- The token of a lexeme when the one before it stands on `line`. -/
def token (line : Nat) (t : Spaced) : Token :=
  ⟨t.lexeme.kind, .ofList t.gap.chars, t.lexeme.text, line + t.gap.breaks⟩

end Spaced

/-- The text of lexemes with their gaps. -/
def flat (ts : List Spaced) : List Char := ts.flatMap Spaced.chars

/-- The tokens of lexemes that go on from `line`. -/
def place (line : Nat) : List Spaced → List Token
  | [] => []
  | t :: rest => t.token line :: place (line + t.gap.breaks) rest

/-- The line that lexemes end on. -/
def lineAfter (line : Nat) : List Spaced → Nat
  | [] => line
  | t :: rest => lineAfter (line + t.gap.breaks) rest

@[simp] theorem flat_nil : flat [] = [] := rfl

@[simp] theorem flat_cons (t : Spaced) (ts : List Spaced) : flat (t :: ts) = t.chars ++ flat ts := rfl

@[simp] theorem flat_append (ts us : List Spaced) : flat (ts ++ us) = flat ts ++ flat us := List.flatMap_append

theorem place_append (line : Nat) (ts us : List Spaced) :
    place line (ts ++ us) = place line ts ++ place (lineAfter line ts) us := by
  induction ts generalizing line with
  | nil => rfl
  | cons t ts ih => exact congrArg (t.token line :: ·) (ih _)

@[simp] theorem length_place (line : Nat) (ts : List Spaced) : (place line ts).length = ts.length := by
  induction ts generalizing line with
  | nil => rfl
  | cons t ts ih => rw [place, List.length_cons, ih, List.length_cons]

/-! ### ASCII -/

theorem wordPart_of_wordStart {c : Char} (h : isWordStart c = true) : isWordPart c = true := by
  unfold isWordStart at h
  unfold isWordPart Char.isAlphanum
  cases hc : c.isAlpha <;> simp_all

/-- Characters of words are in ASCII. -/
theorem ascii_of_wordPart {c : Char} (h : isWordPart c = true) : c.toNat < 128 := by
  simp only [isWordPart, Char.isAlphanum, Char.isAlpha, Char.isUpper, Char.isLower, Char.isDigit, Bool.or_eq_true,
    Bool.and_eq_true, decide_eq_true_eq, beq_iff_eq, UInt32.le_iff_toNat_le, ge_iff_le] at h
  have hvalue : c.toNat = c.val.toNat := rfl
  have hZ : 'Z'.val.toNat = 90 := rfl
  have hz : 'z'.val.toNat = 122 := rfl
  have h9 : '9'.val.toNat = 57 := rfl
  rcases h with h | rfl
  · omega
  · decide

/-- Characters that the strict dialect does not take as they are. -/
def isStray (c : Char) : Bool := c == '\r' || c == '\x00'

theorem wordPart_facts {c : Char} (hc : isWordPart c = true) :
    Text.continuesIdentifier c = true ∧ Text.isBlank c = false ∧ isStray c = false := by
  have hall : ∀ n < 128, isWordPart (.ofNat n) = true → Text.continuesIdentifier (.ofNat n) = true ∧
      Text.isBlank (.ofNat n) = false ∧ isStray (.ofNat n) = false := by decide
  have hsame := hall c.toNat (ascii_of_wordPart hc)
  rw [Char.ofNat_toNat] at hsame
  exact hsame hc

theorem wordStart_facts {c : Char} (hc : isWordStart c = true) (d : Dialect) :
    Text.startsIdentifier c = true ∧ c ≠ '\n' ∧ isBlank d c = false ∧ c ≠ '#' ∧ c ≠ '\\' ∧ isQuote d c = false ∧
      c ≠ '.' ∧ c.isDigit = false := by
  have hall : ∀ n < 128, isWordStart (.ofNat n) = true → ∀ d, Text.startsIdentifier (.ofNat n) = true ∧
      Char.ofNat n ≠ '\n' ∧ isBlank d (.ofNat n) = false ∧ Char.ofNat n ≠ '#' ∧ Char.ofNat n ≠ '\\' ∧
      isQuote d (.ofNat n) = false ∧ Char.ofNat n ≠ '.' ∧ (Char.ofNat n).isDigit = false := by
    intro n hn hstart d
    cases d <;> revert n <;> decide
  have hsame := hall c.toNat (ascii_of_wordPart (wordPart_of_wordStart hc))
  rw [Char.ofNat_toNat] at hsame
  exact hsame hc d

/-! ### Where a lexeme stands -/

/-- Whether the characters are read as a piece of this kind, before `next`. -/
def IsPiece (d : Dialect) (kind : PieceKind) (cs next : List Char) : Prop :=
  ∃ c rest, cs = c :: rest ∧ pieceAt d c (rest ++ next) = (kind, rest.length)

def Lexeme.pieceKind : Lexeme → PieceKind
  | .word _ => .word
  | _ => .symbol

/-- Whether a lexeme before `next` is read as one. -/
def Stands (d : Dialect) (l : Lexeme) (next : List Char) : Prop := IsPiece d l.pieceKind l.text.toList next

/-- Characters that end a word. -/
def stops : List Char := [' ', '\t', '\\', '\n', '.', ',', '(', ')', '*']

/-- Whatever comes next, it does not go on with a word. -/
def Stopped (next : List Char) : Prop := ∀ c ∈ next.head?, c ∈ stops

theorem stops_facts (d : Dialect) : ∀ c ∈ stops, Text.continuesIdentifier c = false ∧ isQuote d c = false := by
  have hall : (stops.all fun c => !Text.continuesIdentifier c && !isQuote d c) = true := by cases d <;> decide
  intro c hc
  simpa using List.all_eq_true.mp hall c hc

theorem pieces_of_isPiece {d : Dialect} {kind : PieceKind} {cs next : List Char} (h : IsPiece d kind cs next) :
    pieces d (cs ++ next) = ⟨kind, cs⟩ :: pieces d next := by
  obtain ⟨c, rest, rfl, hpiece⟩ := h
  rw [List.cons_append, pieces, hpiece]
  simp only [List.take_left, List.drop_left]

theorem spanLength_append {p : Char → Bool} {cs next : List Char} (hcs : ∀ c ∈ cs, p c = true)
    (hnext : ∀ c ∈ next.head?, p c = false) : spanLength p (cs ++ next) = cs.length := by
  rw [spanLength, List.takeWhile_append_of_pos hcs]
  have hstop : next.takeWhile p = [] := by
    cases next with
    | nil => rfl
    | cons c next => rw [List.takeWhile_cons_of_neg (by simp [hnext c rfl])]
  rw [hstop, List.append_nil]

theorem stands_word (d : Dialect) (w : Word) {next : List Char} (h : Stopped next) : Stands d (.word w) next := by
  obtain ⟨hstarts, hbreak, hblank, hcomment, hjoint, hquote, _⟩ := wordStart_facts w.starts d
  have hspan : spanLength Text.continuesIdentifier (w.rest ++ next) = w.rest.length :=
    spanLength_append (fun c hc => (wordPart_facts (w.isWordPart_of_mem_rest hc)).1)
      fun c hc => (stops_facts d c (h c hc)).1
  refine ⟨w.first, w.rest, w.toList_text, ?_⟩
  rw [pieceAt, if_neg hbreak, if_neg (by simp [hblank]), if_neg hcomment, if_neg hjoint, if_neg (by simp [hquote]),
    if_pos hstarts]
  simp only [hspan, List.drop_left]
  cases next with
  | nil => rfl
  | cons c next =>
    have hc : isQuote d c = false := (stops_facts d c (h c rfl)).2
    simp [hc, Lexeme.pieceKind]

/-- A symbol of one character stands where no longer one does. -/
theorem isPiece_symbol {d : Dialect} {c : Char} {next : List Char} (hc : c ∈ ['.', ',', '(', ')', '*'])
    (hdigit : c = '.' → ∀ x ∈ next.head?, x.isDigit = false) (hshort : symbolLength (c :: next) = 1) :
    IsPiece d .symbol [c] next := by
  obtain ⟨hbreak, hblank, hcomment, hjoint, hquote, hstarts, hplain⟩ : c ≠ '\n' ∧ isBlank d c = false ∧ c ≠ '#' ∧
      c ≠ '\\' ∧ isQuote d c = false ∧ Text.startsIdentifier c = false ∧ c.isDigit = false := by
    simp only [List.mem_cons, List.not_mem_nil, or_false] at hc
    rcases hc with rfl | rfl | rfl | rfl | rfl <;> cases d <;> decide
  refine ⟨c, [], rfl, ?_⟩
  have hnumber : (c.isDigit || (c == '.' && (next.head?.elim false Char.isDigit))) = false := by
    rw [hplain, Bool.false_or, Bool.and_eq_false_iff, beq_eq_false_iff_ne]
    by_cases hdot : c = '.'
    · refine .inr ?_
      cases hhead : next.head? with
      | none => rfl
      | some x => exact hdigit hdot x hhead
    · exact .inl hdot
  rw [List.nil_append, pieceAt, if_neg hbreak, if_neg (by simp [hblank]), if_neg hcomment, if_neg hjoint,
    if_neg (by simp [hquote]), if_neg (by simp [hstarts]), if_neg (by simp [hnumber]), hshort]
  rfl

theorem stands_comma (d : Dialect) (next : List Char) : Stands d .comma next :=
  isPiece_symbol (c := ',') (by decide) (by simp) (by simp [symbolLength, symbols])

theorem stands_opening (d : Dialect) (next : List Char) : Stands d .opening next :=
  isPiece_symbol (c := '(') (by decide) (by simp) (by simp [symbolLength, symbols])

theorem stands_closing (d : Dialect) (next : List Char) : Stands d .closing next :=
  isPiece_symbol (c := ')') (by decide) (by simp) (by simp [symbolLength, symbols])

/-- A star stands at the end of its line. -/
theorem stands_star (d : Dialect) {next : List Char} (h : ∀ c ∈ next.head?, c = '\n') : Stands d .star next := by
  refine isPiece_symbol (c := '*') (by decide) (by simp) ?_
  cases next with
  | nil => decide
  | cons c next =>
    obtain rfl := h c rfl
    simp [symbolLength, symbols]

/-- A point stands where it is not the first of three and no fraction follows. -/
theorem stands_dot (d : Dialect) {next : List Char} (hdigit : ∀ c ∈ next.head?, c.isDigit = false)
    (hdots : ¬['.', '.'] <+: next) : Stands d .dot next := by
  refine isPiece_symbol (c := '.') (by decide) (fun _ => hdigit) ?_
  have hdots' : ['.', '.'].isPrefixOf next = false := by
    rw [Bool.eq_false_iff, ne_eq, List.isPrefixOf_iff_prefix]
    exact hdots
  simp [symbolLength, symbols, hdots']

theorem stands_ellipsis (d : Dialect) (next : List Char) : Stands d .ellipsis next := by
  refine ⟨'.', ['.', '.'], rfl, ?_⟩
  have hlength : symbolLength ('.' :: '.' :: '.' :: next) = 3 := by simp [symbolLength, symbols]
  have hblank : isBlank d '.' = false ∧ isQuote d '.' = false := by cases d <;> decide
  rw [pieceAt, if_neg (by decide), if_neg (by simp [hblank.1]), if_neg (by decide), if_neg (by decide),
    if_neg (by simp [hblank.2]), if_neg (by decide), if_neg (by simp)]
  simp only [List.cons_append, List.nil_append, hlength]
  rfl

/-! ### What comes next -/

theorem stopped_flat {t : Spaced} (h : t.gap ≠ [] ∨ t.lexeme.kind = .symbol) (ts : List Spaced)
    (next : List Char) : Stopped (flat (t :: ts) ++ next) := by
  obtain ⟨gap, lexeme⟩ := t
  rw [flat_cons, List.append_assoc]
  intro c hc
  cases gap with
  | nil =>
    have hsymbol : lexeme.kind = .symbol := h.resolve_left fun hne => hne rfl
    cases lexeme with
    | word w => cases hsymbol
    | _ =>
      cases hc
      decide
  | cons m gap =>
    cases m <;>
    · cases hc
      decide

/-- The next character is neither a point nor a digit. -/
def Dotless (next : List Char) : Prop := ∀ c ∈ next.head?, c ≠ '.' ∧ c.isDigit = false

theorem dotless_gap {gap : Gap} (hgap : gap ≠ []) (next : List Char) : Dotless (Gap.chars gap ++ next) := by
  cases gap with
  | nil => exact absurd rfl hgap
  | cons m gap =>
    intro c hc
    cases m <;>
    · cases hc
      decide

theorem dotless_word (gap : Gap) (w : Word) (ts : List Spaced) (next : List Char) :
    Dotless (flat (⟨gap, .word w⟩ :: ts) ++ next) := by
  rw [flat_cons, Spaced.chars, List.append_assoc, List.append_assoc]
  cases gap with
  | nil =>
    intro c hc
    obtain ⟨_, _, _, _, _, _, hdot, hdigit⟩ := wordStart_facts w.starts .strict
    have hfirst : c = w.first := by
      simpa [Gap.chars, Lexeme.text, eq_comm] using hc
    rw [hfirst]
    exact ⟨hdot, hdigit⟩
  | cons m gap => exact dotless_gap (List.cons_ne_nil _ _) _

theorem stands_dot_of_dotless (d : Dialect) {next : List Char} (h : Dotless next) : Stands d .dot next := by
  refine stands_dot d (fun c hc => (h c hc).2) fun hdots => ?_
  obtain ⟨more, rfl⟩ := hdots
  exact (h '.' rfl).1 rfl

/-- The characters of gaps, and of the lexemes that are no words. -/
def marks : List Char := [' ', '\t', '\\', '\n', '.', ',', '(', ')', '*']

/-- A text is made of the parts of words and of marks. -/
theorem forall_mem_flat {p : Char → Bool} (hword : ∀ c, isWordPart c = true → p c = true)
    (hmarks : marks.all p = true) (ts : List Spaced) : ∀ c ∈ flat ts, p c = true := by
  have hmark : ∀ {cs : List Char}, cs ⊆ marks → ∀ c ∈ cs, p c = true := fun hcs c hc =>
    List.all_eq_true.mp hmarks c (hcs hc)
  have hlexeme : ∀ l : Lexeme, ∀ c ∈ l.text.toList, p c = true := by
    intro l
    cases l with
    | word w =>
      rw [Lexeme.text, w.toList_text]
      exact List.forall_mem_cons.mpr
        ⟨hword _ (wordPart_of_wordStart w.starts), fun c hc => hword c (w.isWordPart_of_mem_rest hc)⟩
    | _ => exact hmark (by decide)
  have hgap : ∀ m : GapMark, ∀ c ∈ m.chars, p c = true := by
    intro m
    cases m <;> exact hmark (by decide)
  intro c hc
  obtain ⟨t, _, hc⟩ := List.mem_flatMap.mp hc
  rcases List.mem_append.mp hc with hc | hc
  · obtain ⟨m, _, hc⟩ := List.mem_flatMap.mp hc
    exact hgap m c hc
  · exact hlexeme t.lexeme c hc

/-- Lexemes and gaps have no character that a source would be changed for. -/
theorem clean_flat (ts : List Spaced) : ∀ c ∈ flat ts, isStray c = false := by
  have hword : ∀ c, isWordPart c = true → (!isStray c) = true := fun c hc => by
    rw [(wordPart_facts hc).2.2]
    rfl
  intro c hc
  simpa using forall_mem_flat hword (by decide) ts c hc

end Ripple.Source
