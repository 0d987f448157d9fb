import Mathlib
import Ripple.Proofs.TestReport.Numbers

/-! Reports with and without the tests that were skipped.

A test is told of at most once (`Tells`): for its first failure, or where skips are wanted and it has no failure for
its first skip. So asking for skips adds warnings among the errors and changes nothing else
(`annotation?_without_skips`), as long as all that is told can be told at all: a skipped test whose line has too many
digits ends the formatting, and then the errors are lost too (`skip_on_long_line_loses_failure`). Which reports are
formatted, and what they give, is told by `skips_only_add_warnings`. -/
namespace Ripple

/-! ### Elements of a report -/

namespace Xml.Element

/-- An element holds itself and all that lies in it, at any depth. -/
inductive Holds : Element → Element → Prop
  | self (e : Element) : Holds e e
  | inner {root child e : Element} (held : child ∈ root.children) (inside : Holds child e) : Holds root e

theorem all_eq (e : Element) : e.all = e :: allOf e.children := by
  cases e
  rw [all]

theorem mem_allOf_iff {e : Element} {es : List Element} : e ∈ allOf es ↔ ∃ child ∈ es, e ∈ child.all := by
  induction es with
  | nil => simp [allOf]
  | cons first rest ih => rw [allOf, List.mem_append, ih, List.exists_mem_cons_iff]

theorem holds_of_mem_all {e : Element} : ∀ root : Element, e ∈ root.all → Holds root e
  | ⟨tag, attributes, text, children⟩, he => by
    rw [all_eq] at he
    rcases List.mem_cons.mp he with rfl | he
    · exact .self _
    · obtain ⟨child, hchild, hinside⟩ := mem_allOf_iff.mp he
      have hsmaller : sizeOf child < sizeOf children := List.sizeOf_lt_of_mem hchild
      exact .inner hchild (holds_of_mem_all child hinside)
termination_by root => sizeOf root
decreasing_by
  simp only [mk.sizeOf_spec]
  omega

theorem mem_all_iff {root e : Element} : e ∈ root.all ↔ Holds root e := by
  constructor
  · exact holds_of_mem_all root
  · intro h
    induction h with
    | self e =>
      rw [all_eq]
      exact List.mem_cons_self ..
    | inner held _ ih =>
      rw [all_eq]
      exact List.mem_cons_of_mem _ (mem_allOf_iff.mpr ⟨_, held, ih⟩)

end Xml.Element

namespace TestReport

/-! ### What a test is told of for -/

/-- The first child of a test with one of the tags. -/
structure IsFirst (tags : List String) (test reason : Xml.Element) : Prop where
  tag : reason.tag ∈ tags
  first : ∃ before after, test.children = before ++ reason :: after ∧ ∀ e ∈ before, e.tag ∉ tags

/-- A test gives an error for its first failure, and for its first skip a warning where skips are wanted and no
failure is there. -/
inductive Gives (includeSkipped : Bool) (test : Xml.Element) : AnnotationLevel → Xml.Element → Prop
  | failure {reason : Xml.Element} (first : IsFirst failureTags test reason) : Gives includeSkipped test .error reason
  | skip {reason : Xml.Element} (wanted : includeSkipped = true) (passed : ∀ e ∈ test.children, e.tag ∉ failureTags)
      (first : IsFirst [skipTag] test reason) : Gives includeSkipped test .warning reason

/-- The annotation of a test: for its reason it has the level and the words, and it is where the test says or else
where the text of the reason says. -/
def Tells (includeSkipped : Bool) (test : Xml.Element) (a : Annotation) : Prop :=
  ∃ reason, Gives includeSkipped test a.level reason ∧
    a.message = testName test ++ ": " ++ messageOf reason (saidInstead a.level) ∧
    placeOf test reason.text = .ok ⟨a.file, a.line⟩

/-- A test is told of. -/
def isReported (includeSkipped : Bool) (test : Xml.Element) : Bool :=
  test.children.any fun e => failureTags.contains e.tag || includeSkipped && e.tag == skipTag

theorem find?_eq_some_iff_isFirst {tags : List String} {test reason : Xml.Element} :
    (test.children.find? fun e => tags.contains e.tag) = some reason ↔ IsFirst tags test reason := by
  rw [List.find?_eq_some_iff_append]
  simp only [List.contains_iff_mem, Bool.not_eq_true', ← Bool.not_eq_true]
  exact ⟨fun h => ⟨h.1, h.2⟩, fun h => ⟨h.1, h.2⟩⟩

theorem skipped_eq_find? (test : Xml.Element) :
    (test.children.find? fun e => true && e.tag == skipTag) = test.children.find? fun e => [skipTag].contains e.tag := by
  congr 1
  funext e
  rw [List.contains_cons, List.contains_nil, Bool.or_false, Bool.true_and]

theorem reason?_eq_some_iff {includeSkipped : Bool} {test reason : Xml.Element} {level : AnnotationLevel} :
    reason? includeSkipped test = some (level, reason) ↔ Gives includeSkipped test level reason := by
  constructor
  · intro h
    rcases Option.or_eq_some_iff.mp h with h | ⟨hpassed, h⟩
    · obtain ⟨r, hr, hsame⟩ := Option.map_eq_some_iff.mp h
      cases hsame
      exact .failure (find?_eq_some_iff_isFirst.mp hr)
    · obtain ⟨r, hr, hsame⟩ := Option.map_eq_some_iff.mp h
      cases hsame
      rw [Option.map_eq_none_iff, List.find?_eq_none] at hpassed
      cases includeSkipped with
      | false => exact absurd (List.find?_some hr) (by simp)
      | true =>
        rw [skipped_eq_find?] at hr
        exact .skip rfl (fun e he => by simpa using hpassed e he) (find?_eq_some_iff_isFirst.mp hr)
  · intro h
    cases h with
    | failure first =>
      rw [reason?, find?_eq_some_iff_isFirst.mpr first]
      rfl
    | skip wanted passed first =>
      have hpassed : (test.children.find? fun e => failureTags.contains e.tag) = none :=
        List.find?_eq_none.mpr fun e he => by simpa using passed e he
      rw [reason?, hpassed, wanted, skipped_eq_find?, find?_eq_some_iff_isFirst.mpr first]
      rfl

theorem isReported_iff (includeSkipped : Bool) (test : Xml.Element) :
    isReported includeSkipped test = true ↔ (reason? includeSkipped test).isSome = true := by
  rw [isReported, List.any_eq_true, reason?, Option.isSome_or, Option.isSome_map, Option.isSome_map, Bool.or_eq_true,
    List.find?_isSome, List.find?_isSome, ← exists_or]
  refine exists_congr fun e => ?_
  rw [Bool.or_eq_true, and_or_left]

/-- Without skips only the errors are left. -/
theorem gives_without_skips_iff {test reason : Xml.Element} {level : AnnotationLevel} :
    Gives false test level reason ↔ level = .error ∧ Gives true test level reason := by
  constructor
  · intro h
    cases h with
    | failure first => exact ⟨rfl, .failure first⟩
    | skip wanted _ _ => cases wanted
  · rintro ⟨rfl, h⟩
    cases h with
    | failure first => exact .failure first

theorem reason?_without_skips (test : Xml.Element) :
    reason? false test = (reason? true test).filter (·.1 == .error) := by
  refine Option.ext fun ⟨level, reason⟩ => ?_
  rw [reason?_eq_some_iff, gives_without_skips_iff, Option.filter_eq_some_iff, reason?_eq_some_iff, beq_iff_eq, and_comm]

/-! ### The annotation of a test -/

theorem annotation?_eq_some_iff (includeSkipped : Bool) (test : Xml.Element) (a : Annotation) :
    annotation? includeSkipped test = .ok (some a) ↔ Tells includeSkipped test a := by
  rw [annotation?_eq]
  constructor
  · intro h
    split at h
    · next level reason hreason =>
      rw [annotationFor_eq] at h
      obtain ⟨_, hmap, hsame⟩ := map_eq_ok_iff.mp h
      obtain ⟨place, hplace, rfl⟩ := map_eq_ok_iff.mp hmap
      cases hsame
      exact ⟨reason, reason?_eq_some_iff.mp hreason, rfl, hplace⟩
    · cases h
  · rintro ⟨reason, hgives, hmessage, hplace⟩
    rw [reason?_eq_some_iff.mpr hgives]
    simp only [annotationFor_eq, hplace, Except.map, ← hmessage]

theorem annotation?_eq_none_iff (includeSkipped : Bool) (test : Xml.Element) :
    annotation? includeSkipped test = .ok none ↔ isReported includeSkipped test = false := by
  rw [← Bool.not_eq_true, isReported_iff, annotation?_eq]
  cases reason? includeSkipped test with
  | none => simp
  | some reason =>
    refine iff_of_false (fun h => ?_) (by simp)
    obtain ⟨_, _, hsame⟩ := map_eq_ok_iff.mp h
    cases hsame

/-- **What a test is told of without skips is the error that it is told of with them.** -/
theorem annotation?_without_skips {test : Xml.Element} {found : Option Annotation}
    (h : annotation? true test = .ok found) :
    annotation? false test = .ok (found.filter (·.level == .error)) := by
  rw [annotation?_eq] at h ⊢
  rw [reason?_without_skips]
  split at h
  · next level reason hreason =>
    obtain ⟨a, ha, rfl⟩ := map_eq_ok_iff.mp h
    have hlevel : a.level = level := by
      rw [annotationFor_eq] at ha
      obtain ⟨place, _, rfl⟩ := map_eq_ok_iff.mp ha
      rfl
    rw [hreason]
    cases level with
    | error => simp [Option.filter, hlevel, ha, Except.map]
    | warning => simp [Option.filter, hlevel]
  · next hreason =>
    cases h
    rw [hreason]
    rfl

/-! ### Reports -/

theorem annotations_eq_ok_iff {report : Xml.Element} {includeSkipped : Bool} {found : List Annotation} :
    annotations report includeSkipped = .ok found ↔
      ∃ told, List.Forall₂ (fun test a => annotation? includeSkipped test = .ok a) (tests report) told ∧
        told.filterMap id = found := by
  rw [annotations_eq, map_eq_ok_iff]
  simp only [mapM_eq_ok_iff_forall₂]

/-- What is found tells of the tests that are reported, of each once and in their order. -/
theorem exists_told_iff {includeSkipped : Bool} {given : List Xml.Element} {found : List Annotation} :
    (∃ told, List.Forall₂ (fun test a => annotation? includeSkipped test = .ok a) given told ∧
        told.filterMap id = found) ↔
      List.Forall₂ (Tells includeSkipped) (given.filter (isReported includeSkipped)) found := by
  induction given generalizing found with
  | nil => simp [eq_comm]
  | cons test rest ih =>
    simp only [List.forall₂_cons_left_iff]
    cases hreported : isReported includeSkipped test with
    | false =>
      have hnone := (annotation?_eq_none_iff ..).mpr hreported
      rw [List.filter_cons_of_neg (by simp [hreported]), ← ih]
      constructor
      · rintro ⟨_, ⟨a, told, ha, htold, rfl⟩, rfl⟩
        obtain rfl := Except.ok.inj (hnone.symm.trans ha)
        exact ⟨told, htold, rfl⟩
      · rintro ⟨told, htold, rfl⟩
        exact ⟨none :: told, ⟨none, told, hnone, htold, rfl⟩, rfl⟩
    | true =>
      rw [List.filter_cons_of_pos hreported, List.forall₂_cons_left_iff]
      simp only [← ih, ← annotation?_eq_some_iff]
      constructor
      · rintro ⟨_, ⟨_ | a, told, ha, htold, rfl⟩, rfl⟩
        · rw [annotation?_eq_none_iff, hreported] at ha
          cases ha
        · exact ⟨a, told.filterMap id, ha, ⟨told, htold, rfl⟩, rfl⟩
      · rintro ⟨a, _, ha, ⟨told, htold, rfl⟩, rfl⟩
        exact ⟨some a :: told, ⟨some a, told, ha, htold, rfl⟩, rfl⟩

/-- **A report without skips gives the errors that it gives with them**, in their order. -/
theorem annotations_without_skips {report : Xml.Element} {found : List Annotation}
    (h : annotations report true = .ok found) :
    annotations report false = .ok (found.filter (·.level == .error)) := by
  obtain ⟨told, htold, rfl⟩ := annotations_eq_ok_iff.mp h
  refine annotations_eq_ok_iff.mpr ⟨told.map fun a => a.filter (·.level == .error), ?_, ?_⟩
  · rw [List.forall₂_map_right_iff]
    exact htold.imp fun _ _ => annotation?_without_skips
  · rw [List.filterMap_map, List.filter_filterMap]
    rfl

/-! ### Numbers -/

/-- All characters are in ASCII. -/
def IsAscii (cs : List Char) : Prop := ∀ c ∈ cs, c.toNat < 128

/-- The numbers that the place of a test is told with are not too long: the line that the test says, or if it tells
no place at all the line in the text of its reason. -/
def NumbersFit (test : Xml.Element) (body : String) : Prop :=
  if SaysLine test then (lineText test).length ≤ Text.maxDigits
  else test.attributeText "file" = "" → ∀ place ∈ mention? body.toList, place.2.length ≤ Text.maxDigits

theorem placeReads_iff_of_ascii {test : Xml.Element} (hascii : IsAscii (lineText test)) (body : String) :
    PlaceReads test body ↔ NumbersFit test body := by
  unfold PlaceReads NumbersFit
  split
  · next hsaid =>
    have hdecimal : ∀ c ∈ lineText test, Text.isDecimal c = true :=
      fun c hc => Text.isDecimal_of_ascii (hascii c hc) (hsaid.2 c hc)
    exact ⟨And.right, fun hlength => ⟨hdecimal, hlength⟩⟩
  · rfl

/-- **Asking for skips only adds warnings, if no line is too long.** The tests of a report are its `testcase` elements
at any depth. Each is told of at most once and in its order, as an error for its first failure, and as a warning for
its first skip if it has no failure and skips are wanted; without skips just the errors are left. Where the lines of
the tests are in ASCII, a report is formatted exactly if no number that it takes has more digits than are read. -/
theorem skips_only_add_warnings {report : Xml.Element}
    (hascii : ∀ test ∈ tests report, IsAscii (lineText test)) :
    (∀ test, test ∈ tests report ↔ report.Holds test ∧ test.tag = "testcase") ∧
    (∀ includeSkipped found, annotations report includeSkipped = .ok found ↔
      List.Forall₂ (Tells includeSkipped) ((tests report).filter (isReported includeSkipped)) found) ∧
    (∀ found, annotations report true = .ok found →
      annotations report false = .ok (found.filter (·.level == .error))) ∧
    ∀ includeSkipped, (∃ found, annotations report includeSkipped = .ok found) ↔
      ∀ test ∈ tests report, ∀ level reason, Gives includeSkipped test level reason → NumbersFit test reason.text := by
  refine ⟨fun test => ?_, fun includeSkipped found => annotations_eq_ok_iff.trans exists_told_iff,
    fun found => annotations_without_skips, fun includeSkipped => ?_⟩
  · rw [tests, List.mem_filter, Xml.Element.mem_all_iff, beq_iff_eq]
  · rw [annotations_eq, exists_map_eq_ok_iff, exists_mapM_eq_ok_iff]
    refine forall₂_congr fun test htest => ?_
    rw [exists_annotation?_iff, Prod.forall]
    refine forall₂_congr fun level reason => ?_
    rw [Option.mem_def, reason?_eq_some_iff, placeReads_iff_of_ascii (hascii test htest)]

/-- A test in a test, which was skipped, and which fails behind a skip of its own. -/
def nestedReport : Xml.Element :=
  ⟨"testsuite", [], "",
    [⟨"testcase", [("name", "a"), ("file", "a.py"), ("line", "3")], "",
        [⟨"testcase", [("name", "b")], "",
            [⟨"skipped", [], "", []⟩, ⟨"error", [("message", "boom")], "", []⟩, ⟨"failure", [], "", []⟩]⟩,
          ⟨"skipped", [], "", []⟩]⟩,
      ⟨"testcase", [("name", "c")], "", []⟩]⟩

theorem skip_around_failure_is_added :
    (∀ test ∈ tests nestedReport, IsAscii (lineText test)) ∧
      annotations nestedReport true =
        .ok [⟨.warning, "a: Test skipped", some "a.py", some 3⟩, ⟨.error, "b: boom", none, none⟩] ∧
      annotations nestedReport false = .ok [⟨.error, "b: boom", none, none⟩] := by
  have hlines : (tests nestedReport).map lineText = [['3'], [], []] := rfl
  have hascii : ∀ test ∈ tests nestedReport, IsAscii (lineText test) := by
    refine List.forall_mem_map (P := IsAscii).mp ?_
    rw [hlines]
    simp [IsAscii]
  obtain ⟨_, _, hskips, _⟩ := skips_only_add_warnings hascii
  have hwith : annotations nestedReport true =
      .ok [⟨.warning, "a: Test skipped", some "a.py", some 3⟩, ⟨.error, "b: boom", none, none⟩] := by cbv
  exact ⟨hascii, hwith, hskips _ hwith⟩

/-! ### A line that is too long -/

theorem readLine_of_long {digits : List Char} (h : ∀ c ∈ digits, Text.isDecimal c = true)
    (hlong : Text.maxDigits < digits.length) : readLine digits = .error (.longLine digits.length) := by
  have hne : digits ≠ [] := by
    rintro rfl
    exact absurd hlong (Nat.not_lt_zero _)
  have hnumeral : ¬Text.IsNumeral digits := fun hnumeral => Nat.not_lt.mpr hnumeral.2 hlong
  rw [readLine, Text.readNat?_of_digits hne fun c hc => Text.isDigit_of_isDecimal (h c hc), if_neg hnumeral]
  simp only [List.takeWhile_eq_self_iff.mpr h, if_pos hlong]

/-- A test that failed, and behind it one that was skipped on a line. -/
def failureAndSkip (line : String) : Xml.Element :=
  ⟨"testsuite", [], "",
    [⟨"testcase", [("name", "a")], "", [⟨"failure", [], "", []⟩]⟩,
      ⟨"testcase", [("name", "b"), ("line", line)], "", [⟨"skipped", [], "", []⟩]⟩]⟩

theorem lines_failureAndSkip (line : String) : (tests (failureAndSkip line)).map lineText = [[], line.toList] := rfl

/-- Without skips nobody asks for the line. -/
theorem annotations_failureAndSkip (line : String) :
    annotations (failureAndSkip line) false = .ok [⟨.error, "a: Test failed", none, none⟩] := by cbv

/-- A line that cannot be read ends the formatting with skips. -/
theorem annotations_failureAndSkip_eq_error {line : String} {e : ReportError} (hne : line.toList ≠ [])
    (hdigits : ∀ c ∈ line.toList, Text.isDigit c = true) (h : readLine line.toList = .error e) :
    annotations (failureAndSkip line) true = .error e := by
  let skipped : Xml.Element := ⟨"testcase", [("name", "b"), ("line", line)], "", [⟨"skipped", [], "", []⟩]⟩
  have hfailed : annotation? true ⟨"testcase", [("name", "a")], "", [⟨"failure", [], "", []⟩]⟩ =
      .ok (some ⟨.error, "a: Test failed", none, none⟩) := by cbv
  have hskipped : annotation? true skipped = .error e := by
    have hreason : reason? true skipped = some (.warning, ⟨"skipped", [], "", []⟩) := rfl
    have hsays : SaysLine skipped := ⟨hne, hdigits⟩
    have hline : lineText skipped = line.toList := rfl
    rw [annotation?_eq, hreason]
    simp only [annotationFor_eq, placeOf_of_said hsays, hline, h, Except.map]
  have htests : tests (failureAndSkip line) =
      [⟨"testcase", [("name", "a")], "", [⟨"failure", [], "", []⟩]⟩, skipped] := rfl
  rw [annotations_eq, htests, List.mapM_cons, hfailed, List.mapM_cons, hskipped]
  rfl

/-- The number seven, written with one digit more than numbers are read with. -/
def longSeven : List Char := List.replicate Text.maxDigits '0' ++ ['7']

theorem length_longSeven : longSeven.length = Text.maxDigits + 1 := by
  rw [longSeven, List.length_append, List.length_replicate, List.length_singleton]

theorem forall_mem_longSeven {P : Char → Prop} (h0 : P '0') (h7 : P '7') : ∀ c ∈ longSeven, P c := by
  intro c hc
  rcases List.mem_append.mp hc with hc | hc
  · rwa [List.eq_of_mem_replicate hc]
  · rwa [List.mem_singleton.mp hc]

/-- **A skipped test can take the failures with it**: one whose line is written with too many digits ends the
formatting where skips are wanted. -/
theorem skip_on_long_line_loses_failure :
    let report := failureAndSkip (.ofList longSeven)
    (∀ test ∈ tests report, IsAscii (lineText test)) ∧
      annotations report false = .ok [⟨.error, "a: Test failed", none, none⟩] ∧
      annotations report true = .error (.longLine 4301) := by
  intro report
  have hdecimal : ∀ c ∈ longSeven, Text.isDecimal c = true := forall_mem_longSeven (by decide) (by decide)
  have hascii : IsAscii longSeven := forall_mem_longSeven (by decide) (by decide)
  have hread : readLine longSeven = .error (.longLine longSeven.length) :=
    readLine_of_long hdecimal (length_longSeven ▸ Nat.lt_succ_self _)
  refine ⟨List.forall_mem_map (P := IsAscii).mp ?_, annotations_failureAndSkip _, ?_⟩
  · rw [lines_failureAndSkip, String.toList_ofList, List.forall_mem_cons, List.forall_mem_singleton]
    exact ⟨fun c hc => absurd hc List.not_mem_nil, hascii⟩
  · rw [length_longSeven] at hread
    refine annotations_failureAndSkip_eq_error ?_ ?_ ?_
    · rw [String.toList_ofList]
      exact List.append_ne_nil_of_right_ne_nil _ (List.cons_ne_nil '7' [])
    · rw [String.toList_ofList]
      exact fun c hc => Text.isDigit_of_isDecimal (hdecimal c hc)
    · rw [String.toList_ofList]
      exact hread

end TestReport

end Ripple
