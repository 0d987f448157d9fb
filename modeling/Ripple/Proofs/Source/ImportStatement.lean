import Ripple.Proofs.Source.Layout
import Ripple.Proofs.Text.Fields
import Ripple.Import
import Ripple.Source.Reader

/-! Import statements in all their spacings.

An `ImportStatement` is one of the grammar together with the gaps that it is written with. Where two words would
run into one there is a `Space`, anywhere else a gap that may be empty, so every statement has a text that is read
lexeme by lexeme (`ImportStatement.lexed`). A dotted name is its identifiers with single points between them, and
its text as it stands is that only if it has no gaps (`Dotted.verbatim_eq_joined_iff`). -/
namespace Ripple.Source

/-! ### Dotted names -/

/-- A word that may be a name. -/
structure Identifier extends Word where
  notKeyword : toWord.text ∉ keywords

/-- What stands behind a separator, with the gaps on both sides of that. -/
structure Linked (α : Type) where
  before : Gap
  after : Gap
  item : α

/-- Names with points between them. -/
structure Dotted where
  first : Identifier
  rest : List (Linked Identifier)

namespace Dotted

/-- A point and the name behind it. -/
def part (p : Linked Identifier) : List Spaced := [⟨p.before, .dot⟩, ⟨p.after, .word p.item.toWord⟩]

def spaced (gap : Gap) (n : Dotted) : List Spaced := ⟨gap, .word n.first.toWord⟩ :: n.rest.flatMap part

def identifiers (n : Dotted) : List String := n.first.text :: n.rest.map fun p => p.item.text

/-- The identifiers with single points between them. -/
def joined (n : Dotted) : String := Text.join "." n.identifiers

/-- The text as it stands. -/
def verbatim (n : Dotted) : String := .ofList (flat (n.spaced []))

/-- There are no gaps. -/
def IsTight (n : Dotted) : Prop := ∀ p ∈ n.rest, p.before = [] ∧ p.after = []

/-- No gap leads to another line. -/
def IsOnLine (n : Dotted) : Prop := ∀ p ∈ n.rest, GapMark.joint ∉ p.before ∧ GapMark.joint ∉ p.after

end Dotted

/-! ### Lists of names -/

def asWord : Word := ⟨'a', ['s'], by decide, by decide⟩

/-- A name, with the other name that it may be given. -/
structure Renamed where
  name : Dotted
  newName : Option (Space × Space × Identifier)

def Renamed.spaced (gap : Gap) (n : Renamed) : List Spaced :=
  n.name.spaced gap ++ match n.newName with
    | none => []
    | some (before, after, newName) => [⟨before.1, .word asWord⟩, ⟨after.1, .word newName.toWord⟩]

/-- Names with commas between them. -/
structure NameList where
  first : Renamed
  rest : List (Linked Renamed)

namespace NameList

/-- A comma and the name behind it. -/
def item (p : Linked Renamed) : List Spaced := ⟨p.before, .comma⟩ :: p.item.spaced p.after

def spaced (gap : Gap) (l : NameList) : List Spaced := l.first.spaced gap ++ l.rest.flatMap item

def all (l : NameList) : List Renamed := l.first :: l.rest.map Linked.item

/-- No name has a point in it. -/
def IsSingle (l : NameList) : Prop := ∀ n ∈ l.all, n.name.rest = []

end NameList

/-! ### Statements -/

/-- Points with the gaps before them. Three that stand together are one lexeme. -/
def points : List Gap → List Spaced
  | gap :: [] :: [] :: rest => ⟨gap, .ellipsis⟩ :: points rest
  | gap :: rest => ⟨gap, .dot⟩ :: points rest
  | [] => []

/-- The module that names are imported from. -/
inductive Origin where
  | absolute (before : Space) (name : Dotted) (after : Space)
  /-- Points, the first one after a gap of its own, and a name behind them. -/
  | relative (first : Gap) (more : List Gap) (before : Gap) (name : Dotted) (after : Space)
  /-- Nothing but points. -/
  | package (first : Gap) (more : List Gap) (after : Gap)

namespace Origin

def spaced : Origin → List Spaced
  | absolute before name _ => name.spaced before
  | relative first more before name _ => points (first :: more) ++ name.spaced before
  | package first more _ => points (first :: more)

/-- The gap before `import`. -/
def after : Origin → Gap
  | absolute _ _ after => after
  | relative _ _ _ _ after => after
  | package _ _ after => after

def name? : Origin → Option Dotted
  | absolute _ name _ => some name
  | relative _ _ _ name _ => some name
  | package .. => none

/-- The number of points at the front. -/
def level : Origin → Nat
  | absolute .. => 0
  | relative _ more .. => more.length + 1
  | package _ more _ => more.length + 1

/-- The name of the module in a spelling; it is empty where there are only points. -/
def dotted (spell : Dotted → String) (o : Origin) : String := (o.name?.map spell).getD ""

/-- It starts with the word that makes a statement of another kind. -/
def IsFeature : Origin → Prop
  | absolute _ name _ => name.first.text = "__future__"
  | _ => False

end Origin

/-- What is imported from a module. -/
inductive Targets where
  | star (gap : Gap)
  | bare (space : Space) (names : NameList) (single : names.IsSingle)
  /-- Names in parentheses, perhaps with a comma behind the last one. -/
  | enclosed (gap inner : Gap) (names : NameList) (single : names.IsSingle) (comma : Option Gap) (last : Gap)

namespace Targets

def spaced : Targets → List Spaced
  | star gap => [⟨gap, .star⟩]
  | bare space names _ => names.spaced space
  | enclosed gap inner names _ comma last =>
    ⟨gap, .opening⟩ :: (names.spaced inner ++ ((comma.toList.map fun gap => ⟨gap, .comma⟩) ++ [⟨last, .closing⟩]))

def names (spell : Dotted → String) : Targets → List String
  | star _ => ["*"]
  | bare _ names _ => names.all.map fun n => spell n.name
  | enclosed _ _ names .. => names.all.map fun n => spell n.name

end Targets

def importWord : Word := ⟨'i', ['m', 'p', 'o', 'r', 't'], by decide, by decide⟩

def fromWord : Word := ⟨'f', ['r', 'o', 'm'], by decide, by decide⟩

/-- A statement that imports, with the gaps that it is written with. -/
inductive ImportStatement where
  | plain (space : Space) (names : NameList)
  | fromModule (origin : Origin) (targets : Targets)

namespace ImportStatement

def spaced : ImportStatement → List Spaced
  | plain space names => ⟨[], .word importWord⟩ :: names.spaced space
  | fromModule origin targets =>
    ⟨[], .word fromWord⟩ :: origin.spaced ++ ⟨origin.after, .word importWord⟩ :: targets.spaced

def chars (s : ImportStatement) : List Char := flat s.spaced

/-- What the statement imports on the first line of a file, with origins and names in the given spellings. -/
def imports (origin name : Dotted → String) (file : ModuleId) : ImportStatement → List Import
  | plain _ names => names.all.map fun n => ⟨name n.name, 0, [], file, 1⟩
  | fromModule o targets => [⟨o.dotted origin, o.level, targets.names name, file, 1⟩]

/-- It only switches features of the language on. -/
def IsFeature : ImportStatement → Prop
  | plain .. => False
  | fromModule origin _ => origin.IsFeature

end ImportStatement

/-! ### Spellings -/

theorem Word.keeps (w : Word) {p : Char → Bool} (h : ∀ c, isWordPart c = true → p c = true) :
    w.text.toList.filter p = w.text.toList := by
  rw [List.filter_eq_self, w.toList_text]
  intro c hc
  rcases List.mem_cons.mp hc with rfl | hc
  · exact h _ (wordPart_of_wordStart w.starts)
  · exact h c (w.isWordPart_of_mem_rest hc)

namespace Dotted

/-- Identifiers, each behind a point. -/
def pointed (parts : List (Linked Identifier)) : List Char :=
  parts.flatMap fun p => '.' :: p.item.text.toList

theorem toList_joined (n : Dotted) : n.joined.toList = n.first.text.toList ++ pointed n.rest := by
  have hjoin : ∀ (i : Identifier) parts,
      (Text.join "." (i.text :: parts.map fun p : Linked Identifier => p.item.text)).toList =
        i.text.toList ++ pointed parts := by
    intro i parts
    induction parts generalizing i with
    | nil => simp [pointed]
    | cons p parts ih =>
      rw [List.map_cons, Text.join_cons (List.cons_ne_nil _ _), String.toList_append, String.toList_append, ih]
      simp [pointed]
  exact hjoin n.first n.rest

theorem toList_verbatim (n : Dotted) : n.verbatim.toList = n.first.text.toList ++ flat (n.rest.flatMap part) := by
  rw [verbatim, String.toList_ofList]
  rfl

theorem flat_parts_cons (q : Linked Identifier) (parts : List (Linked Identifier)) :
    flat ((q :: parts).flatMap part) =
      Gap.chars q.before ++ '.' :: (Gap.chars q.after ++ (q.item.text.toList ++ flat (parts.flatMap part))) := by
  simp [flat, part, Spaced.chars, Lexeme.text]

section Filter
variable {p : Char → Bool} (hdot : p '.' = true) (hword : ∀ c, isWordPart c = true → p c = true)
include hdot hword

/-- Taking characters out of the parts of a name leaves points, identifiers and some of the gaps. -/
theorem length_filter_parts (parts : List (Linked Identifier)) :
    ((flat (parts.flatMap part)).filter p).length = (pointed parts).length +
      (parts.map fun q => ((Gap.chars q.before).filter p).length + ((Gap.chars q.after).filter p).length).sum := by
  induction parts with
  | nil => rfl
  | cons q parts ih =>
    rw [flat_parts_cons, List.filter_append, List.filter_cons_of_pos hdot, List.filter_append, List.filter_append,
      q.item.keeps hword]
    simp only [List.length_append, List.length_cons, ih, pointed, List.flatMap_cons, List.map_cons, List.sum_cons]
    omega

theorem filter_parts_eq_iff (parts : List (Linked Identifier)) :
    (flat (parts.flatMap part)).filter p = pointed parts ↔
      ∀ q ∈ parts, (Gap.chars q.before).filter p = [] ∧ (Gap.chars q.after).filter p = [] := by
  refine ⟨fun h q hq => ?_, fun h => ?_⟩
  · have hlength := length_filter_parts hdot hword parts
    rw [h] at hlength
    have hsum := List.sum_eq_zero_iff_forall_eq_nat.mp (Nat.left_eq_add.mp hlength)
    have hnone := hsum _ (List.mem_map_of_mem hq)
    exact ⟨List.eq_nil_of_length_eq_zero (by omega), List.eq_nil_of_length_eq_zero (by omega)⟩
  · induction parts with
    | nil => rfl
    | cons q parts ih =>
      obtain ⟨⟨hbefore, hafter⟩, hrest⟩ := List.forall_mem_cons.mp h
      rw [flat_parts_cons, List.filter_append, List.filter_cons_of_pos hdot, List.filter_append, List.filter_append,
        q.item.keeps hword, hbefore, hafter, ih hrest]
      rfl

end Filter

/-- The text of a name is its usual spelling only if there are no gaps in it. -/
theorem verbatim_eq_joined_iff (n : Dotted) : n.verbatim = n.joined ↔ n.IsTight := by
  have hfilter := filter_parts_eq_iff (p := fun _ => true) rfl (fun _ _ => rfl) n.rest
  rw [List.filter_eq_self.mpr fun _ _ => rfl] at hfilter
  have hgap : ∀ gap : Gap, Gap.chars gap = [] ↔ gap = [] := by
    intro gap
    cases gap with
    | nil => simp [Gap.chars]
    | cons m gap => cases m <;> simp [Gap.chars, GapMark.chars]
  have hnone : ∀ gap : Gap, (Gap.chars gap).filter (fun _ => true) = [] ↔ gap = [] := by
    intro gap
    rw [List.filter_eq_self.mpr fun _ _ => rfl, hgap]
  rw [← String.toList_inj, toList_verbatim, toList_joined, List.append_cancel_left_eq, hfilter]
  simp only [hnone]
  rfl

/-- Without its blanks it is the usual spelling only if no gap leads to another line. -/
theorem squeeze_verbatim_eq_joined_iff (n : Dotted) : Text.squeeze n.verbatim = n.joined ↔ n.IsOnLine := by
  have hkept : ∀ c, isWordPart c = true → (!Text.isBlank c) = true := fun c hc => by
    rw [(wordPart_facts hc).2.1]
    rfl
  have hgap : ∀ gap : Gap, (Gap.chars gap).filter (fun c => !Text.isBlank c) = [] ↔ GapMark.joint ∉ gap := by
    intro gap
    have hmarks : ∀ m : GapMark, m.chars.filter (fun c => !Text.isBlank c) = [] ↔ m ≠ .joint := by
      intro m
      cases m <;> decide
    rw [Gap.chars, List.filter_flatMap, List.flatMap_eq_nil_iff]
    simp only [hmarks]
    exact ⟨fun h hjoint => h _ hjoint rfl, fun h m hm hjoint => h (hjoint ▸ hm)⟩
  rw [← String.toList_inj, Text.squeeze, String.toList_ofList, toList_verbatim, toList_joined, List.filter_append,
    n.first.keeps hkept, List.append_cancel_left_eq, filter_parts_eq_iff (by decide) hkept]
  simp only [hgap]
  rfl

end Dotted

/-! ### Lexemes in their places -/

section Lexing
variable (d : Dialect)

namespace Dotted

theorem lexed_parts {next : List Char} (h : Stopped next) (parts : List (Linked Identifier)) :
    Lexed d next (parts.flatMap part) ∧ Stopped (flat (parts.flatMap part) ++ next) := by
  induction parts with
  | nil => exact ⟨trivial, h⟩
  | cons p parts ih =>
    obtain ⟨hlexed, hstopped⟩ := ih
    refine ⟨⟨?_, ?_, hlexed⟩, stopped_flat (.inr rfl) _ _⟩
    · exact stands_dot_of_dotless d (dotless_word p.after p.item.toWord _ _)
    · exact stands_word d p.item.toWord hstopped

theorem lexed {next : List Char} (h : Stopped next) (gap : Gap) (n : Dotted) : Lexed d next (n.spaced gap) :=
  ⟨stands_word d n.first.toWord (lexed_parts d h n.rest).2, (lexed_parts d h n.rest).1⟩

end Dotted

theorem Renamed.lexed {next : List Char} (h : Stopped next) (gap : Gap) (n : Renamed) :
    Lexed d next (n.spaced gap) := by
  unfold Renamed.spaced
  rw [lexed_append]
  cases n.newName with
  | none => exact ⟨n.name.lexed d h gap, trivial⟩
  | some other =>
    obtain ⟨before, after, newName⟩ := other
    refine ⟨n.name.lexed d (stopped_flat (.inl before.2) _ _) gap, ?_, ?_, trivial⟩
    · exact stands_word d asWord (stopped_flat (.inl after.2) _ _)
    · exact stands_word d newName.toWord h

theorem NameList.lexed {next : List Char} (h : Stopped next) (gap : Gap) (l : NameList) :
    Lexed d next (l.spaced gap) := by
  have hrest : ∀ items : List (Linked Renamed),
      Lexed d next (items.flatMap item) ∧ Stopped (flat (items.flatMap item) ++ next) := by
    intro items
    induction items with
    | nil => exact ⟨trivial, h⟩
    | cons p items ih =>
      obtain ⟨hlexed, hstopped⟩ := ih
      refine ⟨⟨stands_comma d _, ?_⟩, stopped_flat (.inr rfl) _ _⟩
      exact lexed_append.mpr ⟨p.item.lexed d hstopped p.after, hlexed⟩
  exact lexed_append.mpr ⟨l.first.lexed d (hrest l.rest).2 gap, (hrest l.rest).1⟩

theorem flat_points (gaps : List Gap) : flat (points gaps) = gaps.flatMap fun g => Gap.chars g ++ ['.'] := by
  fun_induction points gaps with
  | case1 gap rest ih => simp [ih, Spaced.chars, Lexeme.text, Gap.chars]
  | case2 gap rest _ ih => simp [ih, Spaced.chars, Lexeme.text]
  | case3 => rfl

theorem lexed_points {next : List Char} (h : Dotless next) (gaps : List Gap) : Lexed d next (points gaps) := by
  fun_induction points gaps with
  | case1 gap rest ih => exact ⟨stands_ellipsis d _, ih⟩
  | case2 gap rest hrun ih =>
    refine ⟨?_, ih⟩
    rw [flat_points]
    match rest with
    | [] => exact stands_dot_of_dotless d h
    | (m :: more) :: rest =>
      rw [List.flatMap_cons, List.append_assoc, List.append_assoc]
      exact stands_dot_of_dotless d (dotless_gap (List.cons_ne_nil m more) _)
    | [] :: rest =>
      -- One point follows at once, and what comes behind it is none.
      have hsecond : Dotless (rest.flatMap (fun g => Gap.chars g ++ ['.']) ++ next) := by
        match rest with
        | [] => exact h
        | [] :: rest => exact absurd rfl (hrun rest)
        | (m :: more) :: rest =>
          rw [List.flatMap_cons, List.append_assoc, List.append_assoc]
          exact dotless_gap (List.cons_ne_nil m more) _
      refine stands_dot d (by simp [Gap.chars]) fun hdots => ?_
      obtain ⟨tail, htail⟩ := hdots
      have hcons : '.' :: tail = rest.flatMap (fun g => Gap.chars g ++ ['.']) ++ next := by
        simpa [Gap.chars] using htail
      exact (hsecond '.' (by rw [← hcons]; rfl)).1 rfl
  | case3 => trivial

theorem points_cons (gap : Gap) (more : List Gap) :
    ∃ l rest, points (gap :: more) = ⟨gap, l⟩ :: rest ∧ l.kind = .symbol := by
  unfold points
  split
  · next hgaps =>
    obtain ⟨rfl, rfl⟩ := List.cons.inj hgaps
    exact ⟨_, _, rfl, rfl⟩
  · next hgaps =>
    obtain ⟨rfl, rfl⟩ := List.cons.inj hgaps
    exact ⟨_, _, rfl, rfl⟩
  · next hgaps => cases hgaps

namespace Origin

theorem lexed (o : Origin) (ts : List Spaced) (next : List Char) :
    Lexed d (flat (⟨o.after, .word importWord⟩ :: ts) ++ next) o.spaced := by
  cases o with
  | absolute before name after => exact name.lexed d (stopped_flat (.inl after.2) ts next) before
  | relative first more before name after =>
    refine lexed_append.mpr ⟨?_, name.lexed d (stopped_flat (.inl after.2) ts next) before⟩
    exact lexed_points d (dotless_word before name.first.toWord _ _) _
  | package first more after => exact lexed_points d (dotless_word after importWord _ _) _

theorem stopped (o : Origin) (ts : List Spaced) (next : List Char) :
    Stopped (flat (o.spaced ++ ts) ++ next) := by
  cases o with
  | absolute before name after => exact stopped_flat (.inl before.2) _ next
  | relative first more before name after =>
    obtain ⟨l, rest, hpoints, hsymbol⟩ := points_cons first more
    rw [spaced, hpoints]
    exact stopped_flat (.inr hsymbol) _ next
  | package first more after =>
    obtain ⟨l, rest, hpoints, hsymbol⟩ := points_cons first more
    rw [spaced, hpoints]
    exact stopped_flat (.inr hsymbol) _ next

end Origin

theorem stopped_tail {tail : List Char} (htail : tail = [] ∨ tail = ['\n']) : Stopped tail := by
  rcases htail with rfl | rfl
  · simp [Stopped]
  · simp [Stopped, stops]

theorem Targets.lexed {tail : List Char} (htail : tail = [] ∨ tail = ['\n']) (t : Targets) :
    Lexed d tail t.spaced ∧ Stopped (flat t.spaced ++ tail) := by
  cases t with
  | star gap =>
    refine ⟨⟨stands_star d ?_, trivial⟩, stopped_flat (.inr rfl) _ _⟩
    rcases htail with rfl | rfl <;> simp
  | bare space names single =>
    exact ⟨names.lexed d (stopped_tail htail) space, stopped_flat (.inl space.2) _ _⟩
  | enclosed gap inner names single comma last =>
    have hclosing : Lexed d tail [⟨last, .closing⟩] := ⟨stands_closing d _, trivial⟩
    refine ⟨⟨stands_opening d _, ?_⟩, stopped_flat (.inr rfl) _ _⟩
    cases comma with
    | none => exact lexed_append.mpr ⟨names.lexed d (stopped_flat (.inr rfl) _ _) inner, hclosing⟩
    | some gap =>
      exact lexed_append.mpr ⟨names.lexed d (stopped_flat (.inr rfl) _ _) inner, stands_comma d _, hclosing⟩

/-- **The text of an import statement is read lexeme by lexeme**, at the end of a source or of a line. -/
theorem ImportStatement.lexed {tail : List Char} (htail : tail = [] ∨ tail = ['\n']) (s : ImportStatement) :
    Lexed d tail s.spaced := by
  cases s with
  | plain space names =>
    exact ⟨stands_word d importWord (stopped_flat (.inl space.2) _ _), names.lexed d (stopped_tail htail) space⟩
  | fromModule origin targets =>
    obtain ⟨htargets, hstopped⟩ := targets.lexed d htail
    refine ⟨stands_word d fromWord (origin.stopped _ _), lexed_append.mpr ⟨origin.lexed d _ _, ?_, htargets⟩⟩
    exact stands_word d importWord hstopped

end Lexing

/-! ### The line of a statement -/

section Closing
variable (depth : Nat) (gap : Gap) (us : List Spaced)

theorem Dotted.closes (n : Dotted) : Closes depth (n.spaced gap ++ us) ↔ Closes depth us := by
  have hparts : ∀ parts : List (Linked Identifier),
      Closes depth (parts.flatMap part ++ us) ↔ Closes depth us := by
    intro parts
    induction parts with
    | nil => exact Iff.rfl
    | cons p parts ih => exact ih
  exact hparts n.rest

theorem Renamed.closes (n : Renamed) : Closes depth (n.spaced gap ++ us) ↔ Closes depth us := by
  rw [spaced, List.append_assoc, n.name.closes depth gap]
  cases n.newName with
  | none => exact Iff.rfl
  | some other => exact Iff.rfl

theorem NameList.closes (l : NameList) : Closes depth (l.spaced gap ++ us) ↔ Closes depth us := by
  have hitems : ∀ items : List (Linked Renamed),
      Closes depth (items.flatMap item ++ us) ↔ Closes depth us := by
    intro items
    induction items with
    | nil => exact Iff.rfl
    | cons p items ih =>
      rw [List.flatMap_cons, List.append_assoc]
      exact (p.item.closes depth p.after _).trans ih
  rw [spaced, List.append_assoc, l.first.closes depth gap, hitems]

theorem closes_points (gaps : List Gap) : Closes depth (points gaps ++ us) ↔ Closes depth us := by
  fun_induction points gaps with
  | case1 gap rest ih => exact ih
  | case2 gap rest _ ih => exact ih
  | case3 => exact Iff.rfl

theorem Origin.closes (o : Origin) : Closes depth (o.spaced ++ us) ↔ Closes depth us := by
  cases o with
  | absolute before name after => exact name.closes depth before us
  | relative first more before name after =>
    rw [spaced, List.append_assoc, closes_points, name.closes]
  | package first more after => exact closes_points depth us _

end Closing

theorem Targets.closes (t : Targets) : Closes 0 t.spaced := by
  cases t with
  | star gap => rfl
  | bare space names single =>
    rw [spaced, ← List.append_nil (names.spaced space), names.closes]
    rfl
  | enclosed gap inner names single comma last =>
    refine (names.closes 1 inner _).mpr ?_
    cases comma with
    | none => exact ⟨Nat.one_pos, rfl⟩
    | some gap => exact ⟨Nat.one_pos, rfl⟩

namespace ImportStatement

theorem closes (s : ImportStatement) : Closes 0 s.spaced := by
  cases s with
  | plain space names =>
    rw [spaced, ← List.append_nil (names.spaced space)]
    exact (names.closes 0 space []).mpr rfl
  | fromModule origin targets => exact (origin.closes 0 _).mpr targets.closes

/-- An import statement is one line in either dialect, however it is spaced. -/
theorem layOut_chars (d : Dialect) (s : ImportStatement) {tail : List Char} (htail : tail = [] ∨ tail = ['\n']) :
    layOut d (s.chars ++ tail) = [⟨0, place 1 s.spaced, lineAfter 1 s.spaced, none⟩] := by
  have hstart : s.spaced ≠ [] ∧ ∀ t ∈ s.spaced.head?, t.gap = [] := by
    cases s with
    | plain space names => exact ⟨List.cons_ne_nil _ _, fun t ht => by cases ht; rfl⟩
    | fromModule origin targets => exact ⟨List.cons_ne_nil _ _, fun t ht => by cases ht; rfl⟩
  exact layOut_flat hstart.1 hstart.2 htail (s.lexed d htail) s.closes

end ImportStatement

end Ripple.Source
