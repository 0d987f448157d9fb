import Mathlib
import Ripple.Diagnostic.Render
import Ripple.Proofs.Text.Digits
import Ripple.Proofs.Text.Terminal

/-! How diagnostics come out on a terminal.

Each diagnostic that is shown is one line, its severity before its text (`line_told`), and what is nothing else to the
terminal stays as it is in the text. A code that the terminal knows does not, and the number of a line between its
colons may be one (`line_number_becomes_picture`). That there is none, and no backslash where markup has one, is also
all that it takes (`rendered_as_told_iff`). -/
namespace Ripple

namespace Diagnostic

/-- Nothing in the file and the message steers the terminal. -/
def IsPlain (d : Diagnostic) : Prop := (∀ file ∈ d.file, Text.IsPlain file.toList) ∧ Text.IsPlain d.message.toList

instance (d : Diagnostic) : Decidable d.IsPlain := inferInstanceAs (Decidable (_ ∧ _))

theorem isPlain_toString (n : Nat) : Text.IsPlain (toString n).toList := by
  intro c hc
  have hdigit := Text.digits_toString n c hc
  simp only [Char.isDigit, Bool.and_eq_true, decide_eq_true_eq, UInt32.le_iff_toNat_le] at hdigit
  have hlow : 48 ≤ c.toNat := hdigit.1
  have hhigh : c.toNat ≤ 57 := hdigit.2
  simp only [Text.isControl, Text.inRanges, List.any_cons, List.any_nil, Bool.or_false, Bool.or_eq_false_iff,
    Bool.and_eq_false_iff, decide_eq_false_iff_not]
  omega

theorem isPlain_location {d : Diagnostic} (h : d.IsPlain) : Text.IsPlain d.location.toList := by
  have hfile := h.1
  unfold location
  cases hf : d.file with
  | none => exact Text.IsPlain.nil
  | some file =>
    have hplain := hfile file hf
    cases d.line with
    | none => exact hplain
    | some line =>
      rw [String.toList_append, String.toList_append, Text.IsPlain.append_iff, Text.IsPlain.append_iff]
      exact ⟨⟨hplain, by decide⟩, isPlain_toString line⟩

theorem isPlain_text {d : Diagnostic} (h : d.IsPlain) : Text.IsPlain d.text.toList := by
  unfold text
  split
  · exact h.2
  · rw [String.toList_append, String.toList_append, Text.IsPlain.append_iff, Text.IsPlain.append_iff]
    exact ⟨⟨isPlain_location h, by decide⟩, h.2⟩

/-- What stands before the text. -/
def heading (d : Diagnostic) : String := if d.isWarning then "Warning: " else "Info: "

theorem isPlain_heading (d : Diagnostic) : Text.IsPlain d.heading.toList := by
  unfold heading
  split <;> decide

section Line
variable (t : Text.Terminal)

theorem isName_of_isLower {name : List Char} (hsome : name ≠ []) (h : ∀ c ∈ name, c.isLower = true) :
    Text.Markup.IsName name := by
  have hstart : ∀ c ∈ name, Text.Markup.isTagStart c = true := fun c hc => by simp [Text.Markup.isTagStart, h c hc]
  refine ⟨?_, fun c hc => Text.Markup.isBracket_of_isTagStart (hstart c hc)⟩
  obtain ⟨c, rest, rfl⟩ := List.exists_cons_of_ne_nil hsome
  simpa using hstart c (List.mem_cons_self ..)

/-- Words in a style are shown without it. -/
theorem interpret_inStyle (style words : String) (hsome : style.toList ≠ [])
    (hstyle : ∀ c ∈ style.toList, c.isLower = true)
    (hwords : ∀ c ∈ words.toList, c ≠ '\\' ∧ c ≠ '[' ∧ c ≠ ':') (rest : List Char) :
    t.interpret ((inStyle style words).toList ++ rest) = words.toList ++ t.interpret rest := by
  have hopen := isName_of_isLower hsome hstyle
  have hclose : Text.Markup.IsName ('/' :: style.toList) :=
    ⟨rfl, List.forall_mem_cons.mpr ⟨rfl, hopen.inside⟩⟩
  have hwritten : (inStyle style words).toList ++ rest = '[' :: (style.toList ++ ']' :: (words.toList ++
      '[' :: (('/' :: style.toList) ++ ']' :: rest))) := by
    simp [inStyle, String.toList_append]
  rw [hwritten, Text.Terminal.interpret_tag t hopen, Text.Terminal.interpret_append t hwords,
    Text.Terminal.interpret_tag t hclose]

/-- The severity is shown as it is, without its colour. -/
theorem interpret_told (d : Diagnostic) : t.interpret d.told.toList =
    d.heading.toList ++ t.interpret (Text.Markup.escapeChars d.text.toList) := by
  have htold : d.told.toList = d.severity.label.toList ++ (':' :: ' ' :: Text.Markup.escapeChars d.text.toList) := by
    simp [told, Text.Markup.escape, String.toList_append]
  have hheading : d.heading.toList = (if d.isWarning then "Warning" else "Info").toList ++ [':', ' '] := by
    unfold heading
    split <;> rfl
  rw [htold, hheading, isWarning]
  cases d.severity with
  | warning =>
    rw [Severity.label, interpret_inStyle t "yellow" "Warning" (by simp) (by simp) (by simp),
      Text.Terminal.interpret_colon]
    rfl
  | notice =>
    rw [Severity.label, interpret_inStyle t "cyan" "Info" (by simp) (by simp) (by simp),
      Text.Terminal.interpret_colon]
    rfl

theorem isPlain_interpret_told {d : Diagnostic} (h : d.IsPlain) : Text.IsPlain (t.interpret d.told.toList) := by
  rw [interpret_told, Text.IsPlain.append_iff]
  exact ⟨d.isPlain_heading, Text.Terminal.isPlain_interpret t (isPlain_text h)⟩

/-- What a diagnostic looks like on a terminal. -/
def seen (d : Diagnostic) : String :=
  .ofList (Text.Terminal.crop t.width (d.heading.toList ++ t.interpret (Text.Markup.escapeChars d.text.toList)))

/-- **A diagnostic is one line**: its severity, and its text as the terminal shows it. -/
theorem line_told {d : Diagnostic} (h : d.IsPlain) :
    t.line d.told = d.seen t ++ "\n" ∧ Text.IsPlain (d.seen t).toList := by
  have hplain := isPlain_interpret_told t h
  rw [Text.Terminal.line, Text.Terminal.shown_of_plain t hplain]
  rw [interpret_told] at hplain ⊢
  refine ⟨rfl, fun c hc => hplain c ?_⟩
  rw [seen, String.toList_ofList, Text.Terminal.crop] at hc
  exact List.mem_of_mem_take hc

/-- As much of a text as fits, or all of it if it ends in no blank. -/
def Fits (d : Diagnostic) : Prop := (d.heading ++ d.text).length ≤ t.width ∨
  ∀ c ∈ (d.heading ++ d.text).toList.getLast?, Text.isBlank c = false

theorem seen_eq_iff (d : Diagnostic) :
    d.seen t = d.heading ++ d.text ↔ t.Keeps d.text.toList ∧ d.Fits t := by
  rw [Fits, ← String.length_toList, String.toList_append, ← Text.Terminal.crop_interpret_eq_iff, seen,
    ← String.toList_inj, String.toList_ofList, String.toList_append]

end Line

end Diagnostic

namespace DiagnosticLog
variable (t : Text.Terminal)

/-- A line for each diagnostic. -/
def linesFor (words : Diagnostic → String) (log : DiagnosticLog) : String :=
  String.join (log.map fun d => words d ++ "\n")

/-- **Every diagnostic that is shown is a line**, in their order. -/
theorem renderOn_eq {log : DiagnosticLog} (h : ∀ d ∈ log, d.IsPlain) (includeUnresolved : Bool) :
    log.renderOn t includeUnresolved =
      ((log.shown includeUnresolved).length, linesFor (Diagnostic.seen t) (log.shown includeUnresolved)) := by
  have hlines : (log.shown includeUnresolved).map (fun d => t.line d.told) =
      (log.shown includeUnresolved).map fun d => d.seen t ++ "\n" :=
    List.map_congr_left fun d hd => (d.line_told t (h d (List.mem_filter.mp hd |>.1))).1
  simp only [renderOn, linesFor, hlines]

theorem append_line_inj {a b x y : List Char} (ha : '\n' ∉ a) (hb : '\n' ∉ b) (h : a ++ '\n' :: x = b ++ '\n' :: y) :
    a = b ∧ x = y := by
  have htake : ∀ {a x : List Char}, '\n' ∉ a → (a ++ '\n' :: x).takeWhile (· ≠ '\n') = a := by
    intro a x ha
    rw [List.takeWhile_append_of_pos fun c hc => by simpa using ne_of_mem_of_not_mem hc ha]
    simp
  have hsame : a = b := by rw [← htake ha, h, htake hb]
  subst hsame
  exact ⟨rfl, (List.cons.inj (List.append_cancel_left h)).2⟩

/-- Lines are told apart by their line feeds. -/
theorem linesFor_eq_iff {words words' : Diagnostic → String} {log : DiagnosticLog}
    (h : ∀ d ∈ log, '\n' ∉ (words d).toList ∧ '\n' ∉ (words' d).toList) :
    linesFor words log = linesFor words' log ↔ ∀ d ∈ log, words d = words' d := by
  induction log with
  | nil => simp [linesFor]
  | cons d log ih =>
    obtain ⟨⟨hwords, hwords'⟩, hlog⟩ := List.forall_mem_cons.mp h
    rw [List.forall_mem_cons, ← ih hlog]
    constructor
    · intro hjoin
      have hchars : (words d).toList ++ '\n' :: (linesFor words log).toList =
          (words' d).toList ++ '\n' :: (linesFor words' log).toList := by
        have hchars := congrArg String.toList hjoin
        simpa [linesFor, String.join_cons, String.toList_append] using hchars
      obtain ⟨hfirst, hrest⟩ := append_line_inj hwords hwords' hchars
      exact ⟨String.toList_inj.mp hfirst, String.toList_inj.mp hrest⟩
    · rintro ⟨hfirst, hrest⟩
      have hcons : ∀ words, linesFor words (d :: log) = words d ++ "\n" ++ linesFor words log :=
        fun words => String.join_cons ..
      rw [hcons, hcons, hfirst, hrest]

/-- A text without backslashes is kept if no name between two of its colons is known. -/
theorem keeps_of_unknown {cs : List Char} (hslash : '\\' ∉ cs)
    (hunknown : ∀ name, ':' :: (name ++ [':']) <:+: cs → Text.Emoji.shown? t.pictures name = none) : t.Keeps cs := by
  refine ⟨fun part hpart name hname => ?_, Text.Markup.slashes_of_not_mem hslash,
    Text.Markup.endsInSlash_of_not_mem hslash⟩
  exact hunknown name ((Text.Emoji.infix_of_mem_codes hname).1.trans (Text.Markup.infix_of_mem_parts hpart))

/-- **Diagnostics come out line by line**: as many lines as are counted, each the severity and the text of one that is
to be shown, as the terminal shows it. They come out as they are told exactly if the terminal keeps every text and crops
no line. It keeps a text without backslashes in any case if it knows no name that stands between two colons. -/
theorem rendered_as_told_iff {log : DiagnosticLog} (h : ∀ d ∈ log, d.IsPlain) (includeUnresolved : Bool) :
    let kept := log.filter fun d => includeUnresolved || d.kind != .unresolvedImport
    log.renderOn t includeUnresolved = (kept.length, linesFor (Diagnostic.seen t) kept) ∧
    (log.renderOn t includeUnresolved = (kept.length, linesFor (fun d => d.heading ++ d.text) kept) ↔
      ∀ d ∈ kept, t.Keeps d.text.toList ∧ d.Fits t) ∧
    ((∀ d ∈ kept, '\\' ∉ d.text.toList ∧ d.Fits t ∧
        ∀ name, ':' :: (name ++ [':']) <:+: d.text.toList → Text.Emoji.shown? t.pictures name = none) →
      log.renderOn t includeUnresolved = (kept.length, linesFor (fun d => d.heading ++ d.text) kept)) := by
  intro kept
  have hrender : log.renderOn t includeUnresolved = (kept.length, linesFor (Diagnostic.seen t) kept) :=
    renderOn_eq t h includeUnresolved
  have hline : ∀ d ∈ kept, '\n' ∉ (d.seen t).toList ∧ '\n' ∉ (d.heading ++ d.text).toList := by
    intro d hd
    have hplain := h d (List.mem_filter.mp hd).1
    have hnewline : ∀ {cs : List Char}, Text.IsPlain cs → '\n' ∉ cs := fun hcs hc => by cases hcs _ hc
    rw [String.toList_append]
    exact ⟨hnewline (d.line_told t hplain).2,
      hnewline ((Text.IsPlain.append_iff ..).mpr ⟨d.isPlain_heading, d.isPlain_text hplain⟩)⟩
  have hiff : log.renderOn t includeUnresolved = (kept.length, linesFor (fun d => d.heading ++ d.text) kept) ↔
      ∀ d ∈ kept, t.Keeps d.text.toList ∧ d.Fits t := by
    rw [hrender, Prod.mk.injEq, linesFor_eq_iff hline]
    refine (and_iff_right rfl).trans (forall₂_congr fun d _ => d.seen_eq_iff t)
  exact ⟨hrender, hiff, fun hunknown => hiff.mpr fun d hd =>
    ⟨keeps_of_unknown t (hunknown d hd).1 (hunknown d hd).2.2, (hunknown d hd).2.1⟩⟩

/-- A diagnostic comes out as it is told if the number of its line is no picture, brackets and all. -/
theorem line_number_stays :
    let told := Diagnostic.parseError "a.py" "invalid syntax in [x]" (some 99)
    let log := [told, .unresolvedImport "b.py" 1 "import x"]
    (∀ d ∈ log, d.IsPlain) ∧
      DiagnosticLog.render log false = (1, "Warning: a.py:99: Failed to parse: invalid syntax in [x]\n") := by
  intro told log
  have hplain : ∀ d ∈ log, d.IsPlain := by decide
  have hcodes : (Text.Markup.read told.text.toList).parts.flatMap Text.Emoji.codes = [['9', '9']] := by cbv
  have hslash : '\\' ∉ told.text.toList := by decide
  have hkeeps : Text.Terminal.usual.Keeps told.text.toList := by
    refine ⟨fun part hpart name hname => ?_, Text.Markup.slashes_of_not_mem hslash,
      Text.Markup.endsInSlash_of_not_mem hslash⟩
    have hname : name ∈ [['9', '9']] := hcodes ▸ List.mem_flatMap.mpr ⟨part, hpart, hname⟩
    obtain rfl := List.mem_singleton.mp hname
    decide
  have hkept : ∀ d ∈ log.filter (fun d => false || d.kind != .unresolvedImport), d = told := by decide
  refine ⟨hplain, ((rendered_as_told_iff .usual hplain false).2.1.mpr fun d hd => ?_).trans (by decide)⟩
  rw [hkept d hd]
  exact ⟨hkeeps, .inl (by decide)⟩

/-- The number of a line between its colons may be the name of a picture. -/
theorem line_number_becomes_picture :
    let d := Diagnostic.parseError "a.py" "invalid syntax" (some 100)
    d.IsPlain ∧ d.text = "a.py:100: Failed to parse: invalid syntax" ∧
      DiagnosticLog.render [d] true = (1, "Warning: a.py💯 Failed to parse: invalid syntax\n") := by
  intro d
  exact ⟨by decide, by decide, by cbv⟩

end DiagnosticLog

end Ripple
