import Ripple.Proofs.Annotation
import Ripple.Proofs.Except
import Ripple.TestReport

/-! What a build log makes of the lines for a report.

The lines are those of the annotations, one for each. A name of a file goes into its line as it stands in the
report, so one with a line break starts a line of its own, which may well be another command
(`file_name_starts_another_command`). That a name has nothing of the kind is also all that it takes
(`lines_read_back_iff`). All of this holds of every tree of elements, however it was read. -/
namespace Ripple.TestReport

theorem lines_of_annotations {report : Xml.Element} {includeSkipped : Bool} {found : List Annotation}
    (h : annotations report includeSkipped = .ok found) (seenFrom : Path) :
    lines report includeSkipped seenFrom = .ok (found.map (·.render seenFrom)) := by
  rw [lines, h]
  rfl

/-- **The lines for a report are those of its annotations, and all but the name of a file is safe in them.** A line
is one line exactly if the file that it tells has no line break, and the annotation comes back from it exactly if
that file has no comma, no two colons in a row, and does not end in a colon where no line follows. -/
theorem lines_read_back_iff {report : Xml.Element} {includeSkipped : Bool} {seenFrom : Path} {told : List String}
    (h : lines report includeSkipped seenFrom = .ok told) :
    ∃ found, annotations report includeSkipped = .ok found ∧ told = found.map (·.render seenFrom) ∧
      ∀ a ∈ found,
        (IsOneLine (a.render seenFrom).toList ↔ ∀ f ∈ (a.told seenFrom).file, IsOneLine f.toList) ∧
        (a.told seenFrom ∈ Annotation.ofLine? (a.render seenFrom) ↔ ∀ f ∈ (a.told seenFrom).file, a.CanTell f) := by
  obtain ⟨found, hfound, htold⟩ := bind_eq_ok_iff.mp h
  exact ⟨found, hfound, (Except.ok.inj htold).symm, fun a _ =>
    ⟨a.isOneLine_render_iff seenFrom, a.ofLine?_render_iff seenFrom⟩⟩

/-- A test that failed in a file, with what it says of that. -/
def failureIn (file message : String) : Xml.Element :=
  ⟨"testcase", [("name", "t"), ("file", file)], "", [⟨"error", [("message", message)], "", []⟩]⟩

/-- The line of a failure in a common file is one line, and read for what it tells from another folder. -/
theorem plain_name_reads_back :
    let line := "::error file=../pkg/a.py::t: 50%25"
    lines (failureIn "/w/pkg/a.py" "50%") false (Path.parse "/w/sub") = .ok [line] ∧ IsOneLine line.toList ∧
      Annotation.ofLine? line = some ⟨.error, "t: 50%", some "../pkg/a.py", none⟩ := by
  intro line
  let a : Annotation := ⟨.error, "t: 50%", some "/w/pkg/a.py", none⟩
  have hannotations : annotations (failureIn "/w/pkg/a.py" "50%") false = .ok [a] := by cbv
  have htold : a.told (Path.parse "/w/sub") = ⟨.error, "t: 50%", some "../pkg/a.py", none⟩ := by cbv
  have hrender : a.render (Path.parse "/w/sub") = line := by decide +kernel
  have hlines := lines_of_annotations hannotations (Path.parse "/w/sub")
  rw [List.map_singleton, hrender] at hlines
  obtain ⟨found, hfound, _, hread⟩ := lines_read_back_iff hlines
  obtain rfl := Except.ok.inj (hannotations.symm.trans hfound)
  obtain ⟨honeLine, hback⟩ := hread a (List.mem_singleton_self a)
  have hbreaks : IsOneLine "../pkg/a.py".toList := by simp
  have htell : a.CanTell "../pkg/a.py" := ⟨by decide, by decide⟩
  rw [hrender, htold] at honeLine hback
  refine ⟨hlines, honeLine.mpr fun f hf => ?_, hback.mpr fun f hf => ?_⟩
  · rwa [← Option.some.inj hf]
  · rwa [← Option.some.inj hf]

/-- A name of a file with a line break starts another command. -/
theorem file_name_starts_another_command :
    let line := "::error file=a\n::error::b::t: boom"
    lines (failureIn "a\n::error::b" "boom") false (Path.parse "/w") = .ok [line] ∧ ¬IsOneLine line.toList ∧
      (Text.lines line).map Annotation.ofLine? = [none, some ⟨.error, "b::t: boom", none, none⟩] := by
  intro line
  let a : Annotation := ⟨.error, "t: boom", some "a\n::error::b", none⟩
  have hannotations : annotations (failureIn "a\n::error::b" "boom") false = .ok [a] := by cbv
  have hrender : a.render (Path.parse "/w") = line := by decide +kernel
  have hbreak : '\n' ∈ line.toList := by simp [line]
  have hparts : Text.lines line = ["::error file=a", "::error::b::t: boom"] := by decide +kernel
  have hfirst : Annotation.ofLine? "::error file=a" = none := by decide +kernel
  have hsecond : Annotation.ofLine? "::error::b::t: boom" = some ⟨.error, "b::t: boom", none, none⟩ := by
    decide +kernel
  refine ⟨?_, fun h => (h _ hbreak).2 rfl, ?_⟩
  · rw [lines_of_annotations hannotations, List.map_singleton, hrender]
  · rw [hparts, List.map_cons, List.map_singleton, hfirst, hsecond]

end Ripple.TestReport
