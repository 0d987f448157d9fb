import Mathlib
import Ripple.Proofs.Except
import Ripple.Proofs.Text.Digits
import Ripple.TestReport

/-! The numbers of lines in a report.

A test may say in digits which line it is on, and a traceback may say it for a test that tells no place itself.
Digits need not be a number (`exists_readLine_iff`), and one that is none ends the reading of the whole report, in
a way that nobody foresaw. That no test that is told of has such digits is also all that it takes
(`formatted_iff_lines_read`). -/
namespace Ripple

namespace TestReport

/-! ### Numbers -/

theorem readLine_of_numeral {digits : List Char} (hne : digits ≠ []) (h : Text.IsNumeral digits) :
    readLine digits = .ok (Text.numberAfter 0 digits) := by
  have hdigits : ∀ c ∈ digits, Text.isDigit c = true := fun c hc => Text.isDigit_of_isDecimal (h.1 c hc)
  rw [readLine, Text.readNat?_of_digits hne hdigits, if_pos h]

/-- Digits that are no number are nothing that the program has words for. -/
theorem exists_error_of_not_numeral {digits : List Char} (hne : digits ≠ [])
    (hdigits : ∀ c ∈ digits, Text.isDigit c = true) (h : ¬Text.IsNumeral digits) :
    ∃ e, readLine digits = .error e ∧ e.failure? = none := by
  rw [readLine, Text.readNat?_of_digits hne hdigits, if_neg h]
  dsimp only
  split
  · exact ⟨_, rfl, rfl⟩
  · exact ⟨_, rfl, rfl⟩

/-- A number is read exactly if its digits are a numeral. -/
theorem exists_readLine_iff {digits : List Char} (hne : digits ≠ [])
    (hdigits : ∀ c ∈ digits, Text.isDigit c = true) :
    (∃ line, readLine digits = .ok line) ↔ Text.IsNumeral digits := by
  by_cases h : Text.IsNumeral digits
  · exact iff_of_true ⟨_, readLine_of_numeral hne h⟩ h
  · obtain ⟨e, he, _⟩ := exists_error_of_not_numeral hne hdigits h
    refine iff_of_false (fun ⟨line, hline⟩ => ?_) h
    rw [he] at hline
    cases hline

theorem failure?_of_readLine {digits : List Char} {e : ReportError} (h : readLine digits = .error e) :
    e.failure? = none := by
  unfold readLine at h
  split at h
  · cases h
  · dsimp only at h
    split at h
    · cases h
      rfl
    · cases h
      rfl

/-! ### The line of a test -/

/-- What a test says its line is. -/
def lineText (test : Xml.Element) : List Char := (test.attributeText "line").toList

/-- A test says in digits which line it is on. -/
def SaysLine (test : Xml.Element) : Prop :=
  lineText test ≠ [] ∧ ∀ c ∈ lineText test, Text.isDigit c = true

theorem saysLine_iff (test : Xml.Element) :
    (lineText test != [] && (lineText test).all Text.isDigit) = true ↔ SaysLine test := by
  rw [Bool.and_eq_true, bne_iff_ne, List.all_eq_true]
  rfl

instance (test : Xml.Element) : Decidable (SaysLine test) := decidable_of_iff _ (saysLine_iff test)

theorem lineOf_eq (test : Xml.Element) :
    lineOf test = if SaysLine test then (readLine (lineText test)).map some else .ok none :=
  if_congr (saysLine_iff test) rfl rfl

theorem lineOf_of_unsaid {test : Xml.Element} (h : ¬SaysLine test) : lineOf test = .ok none := by
  rw [lineOf_eq, if_neg h]

theorem exists_lineOf_iff {test : Xml.Element} (h : SaysLine test) :
    (∃ line, lineOf test = .ok line) ↔ Text.IsNumeral (lineText test) := by
  rw [← exists_readLine_iff h.1 h.2, lineOf_eq, if_pos h, exists_map_eq_ok_iff]

/-! ### The first place in a text -/

theorem digits_of_mentionHere? {cs : List Char} {place : String × List Char}
    (h : mentionHere? cs = some place) :
    place.2 ≠ [] ∧ ∀ c ∈ place.2, Text.isDecimal c = true := by
  unfold mentionHere? at h
  split at h
  · dsimp only at h
    split at h
    · split at h
      · cases h
      · next hne =>
        cases h
        exact ⟨hne, fun c hc => List.all_eq_true.mp List.all_takeWhile c hc⟩
    · cases h
  · cases h

/-- The line of a place that a text tells is given in decimal digits. -/
theorem digits_of_mention? {cs : List Char} {place : String × List Char} (h : mention? cs = some place) :
    place.2 ≠ [] ∧ ∀ c ∈ place.2, Text.isDecimal c = true := by
  induction cs with
  | nil => cases h
  | cons c cs ih =>
    rw [mention?, Option.or_eq_some_iff] at h
    rcases h with h | ⟨_, h⟩
    · exact digits_of_mentionHere? h
    · exact ih h

/-- Only too many digits keep the line of such a place from being read. -/
theorem exists_readLine_of_mention? {cs : List Char} {place : String × List Char} (h : mention? cs = some place) :
    (∃ line, readLine place.2 = .ok line) ↔ place.2.length ≤ Text.maxDigits := by
  obtain ⟨hne, hdecimal⟩ := digits_of_mention? h
  rw [exists_readLine_iff hne fun c hc => Text.isDigit_of_isDecimal (hdecimal c hc)]
  exact ⟨And.right, fun hlength => ⟨hdecimal, hlength⟩⟩

/-! ### Places -/

/-- The numbers that the place of a test is told with can be read: the line that the test says, or if it tells no
place at all the line in the text of its failure. -/
def PlaceReads (test : Xml.Element) (body : String) : Prop :=
  if SaysLine test then Text.IsNumeral (lineText test)
  else test.attributeText "file" = "" → ∀ place ∈ mention? body.toList, place.2.length ≤ Text.maxDigits

/-- The place that is told in a text, if there is one. -/
def placeIn (body : String) : Except ReportError Place :=
  match mention? body.toList with
  | some (file, digits) => (readLine digits).map fun line => ⟨some file, some line⟩
  | none => .ok ⟨none, none⟩

theorem placeOf_eq (test : Xml.Element) (body : String) :
    placeOf test body = (lineOf test).bind fun line =>
      if test.attributeText "file" ≠ "" ∨ line.isSome then .ok ⟨test.attribute? "file", line⟩ else placeIn body := by
  unfold placeOf placeIn
  cases lineOf test with
  | error e => rfl
  | ok line =>
    simp only [bind, Except.bind, bne_iff_ne, Bool.or_eq_true]
    cases mention? body.toList with
    | none => rfl
    | some place => cases readLine place.2 <;> simp [Except.map, pure, Except.pure, *]

theorem placeOf_of_said {test : Xml.Element} (h : SaysLine test) (body : String) :
    placeOf test body = (readLine (lineText test)).map fun line => ⟨test.attribute? "file", some line⟩ := by
  rw [placeOf_eq, lineOf_eq, if_pos h]
  cases readLine (lineText test) <;> simp [Except.map, Except.bind]

theorem placeOf_of_unsaid {test : Xml.Element} (h : ¬SaysLine test) (body : String) :
    placeOf test body =
      if test.attributeText "file" = "" then placeIn body else .ok ⟨test.attribute? "file", none⟩ := by
  rw [placeOf_eq, lineOf_of_unsaid h]
  simp [Except.bind]

theorem exists_placeIn_iff (body : String) :
    (∃ place, placeIn body = .ok place) ↔ ∀ place ∈ mention? body.toList, place.2.length ≤ Text.maxDigits := by
  unfold placeIn
  cases hmention : mention? body.toList with
  | none => exact iff_of_true ⟨_, rfl⟩ fun _ hplace => nomatch hplace
  | some place =>
    simp only [Option.mem_some_iff, forall_eq', exists_map_eq_ok_iff]
    exact exists_readLine_of_mention? hmention

/-- **A place is told exactly if its numbers can be read.** -/
theorem exists_placeOf_iff (test : Xml.Element) (body : String) :
    (∃ place, placeOf test body = .ok place) ↔ PlaceReads test body := by
  unfold PlaceReads
  split
  · next hsaid =>
    rw [← exists_readLine_iff hsaid.1 hsaid.2, placeOf_of_said hsaid, exists_map_eq_ok_iff]
  · next hsaid =>
    rw [placeOf_of_unsaid hsaid]
    split
    · next hfile => rw [exists_placeIn_iff, forall_prop_of_true hfile]
    · next hfile => exact iff_of_true ⟨_, rfl⟩ fun hnone => absurd hnone hfile

theorem failure?_of_placeOf {test : Xml.Element} {body : String} {e : ReportError} (h : placeOf test body = .error e) :
    e.failure? = none := by
  by_cases hsaid : SaysLine test
  · rw [placeOf_of_said hsaid, map_eq_error_iff] at h
    exact failure?_of_readLine h
  · rw [placeOf_of_unsaid hsaid] at h
    split at h
    · unfold placeIn at h
      split at h
      · exact failure?_of_readLine (map_eq_error_iff.mp h)
      · cases h
    · cases h

/-! ### Reports -/

/-- What a test is told of for, and as what: its first failure, or else its first skip if these are wanted. -/
def reason? (includeSkipped : Bool) (test : Xml.Element) : Option (AnnotationLevel × Xml.Element) :=
  ((test.children.find? fun e => failureTags.contains e.tag).map (.error, ·)).or
    ((test.children.find? fun e => includeSkipped && e.tag == skipTag).map (.warning, ·))

/-- What is said of a test that says nothing itself. -/
def saidInstead : AnnotationLevel → String
  | .error => "Test failed"
  | .warning => "Test skipped"

theorem annotationFor_eq (level : AnnotationLevel) (otherwise : String) (test reason : Xml.Element) :
    annotationFor level otherwise test reason = (placeOf test reason.text).map fun place =>
      ⟨level, testName test ++ ": " ++ messageOf reason otherwise, place.file, place.line⟩ := by
  unfold annotationFor
  cases placeOf test reason.text <;> rfl

theorem annotation?_eq (includeSkipped : Bool) (test : Xml.Element) :
    annotation? includeSkipped test = match reason? includeSkipped test with
      | some (level, reason) => (annotationFor level (saidInstead level) test reason).map some
      | none => .ok none := by
  have hbind : ∀ x : Except ReportError Annotation, (do return some (← x)) = x.map some := fun x => by cases x <;> rfl
  unfold annotation? reason?
  cases test.children.find? fun e => failureTags.contains e.tag with
  | some reason => exact hbind _
  | none =>
    cases test.children.find? fun e => includeSkipped && e.tag == skipTag with
    | some reason => exact hbind _
    | none => rfl

theorem exists_annotation?_iff (includeSkipped : Bool) (test : Xml.Element) :
    (∃ a, annotation? includeSkipped test = .ok a) ↔
      ∀ reason ∈ reason? includeSkipped test, PlaceReads test reason.2.text := by
  rw [annotation?_eq]
  cases reason? includeSkipped test with
  | none => exact iff_of_true ⟨_, rfl⟩ fun _ hreason => nomatch hreason
  | some reason =>
    simp only [Option.mem_some_iff, forall_eq', annotationFor_eq, exists_map_eq_ok_iff]
    exact exists_placeOf_iff test reason.2.text

theorem failure?_of_annotation? {includeSkipped : Bool} {test : Xml.Element} {e : ReportError}
    (h : annotation? includeSkipped test = .error e) : e.failure? = none := by
  rw [annotation?_eq] at h
  split at h
  · rw [annotationFor_eq, map_eq_error_iff, map_eq_error_iff] at h
    exact failure?_of_placeOf h
  · cases h

theorem annotations_eq (report : Xml.Element) (includeSkipped : Bool) :
    annotations report includeSkipped =
      ((tests report).mapM (annotation? includeSkipped)).map fun found => found.filterMap id := by
  unfold annotations
  cases (tests report).mapM (annotation? includeSkipped) <;> rfl

/-- **A report is formatted exactly if the numbers of all places that are told in it can be read**, and when it is
not, the program has no words for it. A line that a test says in digits is read exactly if these are decimal and
not too many, whatever else it says is no line, and a line that a text tells is read unless its digits are too
many. -/
theorem formatted_iff_lines_read (report : Xml.Element) (includeSkipped : Bool) (seenFrom : Path) :
    ((∃ lines, (annotations report includeSkipped).map (·.map (·.render seenFrom)) = .ok lines) ↔
      ∀ test ∈ tests report, ∀ reason ∈ reason? includeSkipped test, PlaceReads test reason.2.text) ∧
    (∀ e, annotations report includeSkipped = .error e → e.failure? = none) ∧
    (∀ test, SaysLine test →
      ((∃ line, lineOf test = .ok line) ↔ Text.IsNumeral (lineText test)) ∧
      (Text.IsNumeral (lineText test) → lineOf test = .ok (some (Text.numberAfter 0 (lineText test))))) ∧
    (∀ test, ¬SaysLine test → lineOf test = .ok none) ∧
    ∀ text place, mention? text = some place →
      ((∃ line, readLine place.2 = .ok line) ↔ place.2.length ≤ Text.maxDigits) := by
  refine ⟨?_, fun e he => ?_, fun test hsaid => ⟨exists_lineOf_iff hsaid, fun hnumeral => ?_⟩,
    fun test => lineOf_of_unsaid, fun text place => exists_readLine_of_mention?⟩
  · simp only [← exists_annotation?_iff]
    rw [annotations_eq, exists_map_eq_ok_iff, exists_map_eq_ok_iff, exists_mapM_eq_ok_iff]
  · rw [annotations_eq, map_eq_error_iff] at he
    obtain ⟨test, _, hfail⟩ := exists_of_mapM_eq_error he
    exact failure?_of_annotation? hfail
  · rw [lineOf_eq, if_pos hsaid, readLine_of_numeral hsaid.1 hnumeral]
    rfl

/-- A raised digit is a digit and no number, so a test that says it for its line ends the formatting. -/
theorem raised_digit_ends_formatting :
    let test : Xml.Element := ⟨"testcase", [("line", "²")], "", [⟨"failure", [], "", []⟩]⟩
    SaysLine test ∧ annotations test false = .error (.badLine "²") := by
  intro test
  exact ⟨by decide, by cbv⟩

end TestReport

end Ripple
