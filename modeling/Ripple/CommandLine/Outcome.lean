import Ripple.CommandLine.Command
import Ripple.Diagnostic.Render
import Ripple.Project.Analysis

/-! How a run ends.

The selected tests are the output; everything else is told on the side, and the exit code says
whether the run went well (0), warnings were not allowed (1), or the input was not fit to be used
(2). What was found does not depend on how it is shown: `Outcome.of` has the finding and the options
as separate arguments. -/
namespace Ripple.CommandLine

structure Outcome where
  exitCode : Nat
  output : String
  errors : String
  deriving DecidableEq, Repr

/-- What the changed files come to. -/
inductive Finding where
  | nothingGiven
  /-- The input is not fit to be used. -/
  | refused (message : String)
  | report (r : Report)

namespace Outcome

def programName : String := "testdiff"

def programVersion : String := "0.3.0"

def version : Outcome := ⟨0, programName ++ " v" ++ programVersion ++ "\n", ""⟩

def help (page : String) : Outcome := ⟨0, page, ""⟩

def usageLine : String := "Usage: " ++ programName ++ " [options]\n"

/-- The command line is not used as it should be. -/
def usage : Outcome := ⟨2, "", usageLine⟩

def errorLabel : String := inStyle "red" "Error:"

def refusal (message : String) : Outcome :=
  ⟨2, "", terminalLine (errorLabel ++ " " ++ Text.Markup.escape message)⟩

/-- Lines of output, not of the terminal: nothing in them is replaced. -/
def outputLines (ls : List String) : String := String.join (ls.map (· ++ "\n"))

/-! ### What is told of a report -/

/-- Unless everything is to be told, unresolved imports and most notices are not. -/
def toldDiagnostics (log : DiagnosticLog) (verbose : Bool) : String :=
  if verbose then (log.render true).2
  else
    let shown : DiagnosticLog := log.filter fun d => d.isWarning || d.kind == .nonPythonChange
    (shown.render false).2

/-- One of several names, with what is told of it. -/
def item (name remark : String) : String :=
  terminalLine ("  - " ++ Text.Markup.escape name ++ remark)

def items (names : List String) : String := String.join (names.map fun name => item name "")

def heading (title : String) (n : Nat) : String :=
  terminalLine (title ++ " (" ++ toString n ++ "):")

def droppedPart (dropped : List String) : String :=
  if dropped = [] then ""
  else heading "Dropped non-Python files" dropped.length ++ items dropped

def statsPart : Option ReportStats → String
  | none => ""
  | some s => terminalLine ("Graph: " ++ toString s.graph.modules ++ " modules, "
      ++ toString s.graph.edges ++ " edges, " ++ toString s.impacted ++ " impacted")

def testItem (t : SelectedTest) : String :=
  item t.path (" (distance=" ++ toString t.distance ++ ", filename_match="
    ++ toString t.filenameMatch ++ ")")

def selectionPart (s : Selection) : String :=
  terminalLine ("\nSelected tests (" ++ toString s.tests.length ++ " of " ++ toString s.total ++ ", "
    ++ toString s.excluded ++ " excluded):") ++ String.join (s.tests.map testItem)

def diagnosticsPart (log : DiagnosticLog) : String :=
  if log.isEmpty then "" else heading "\nDiagnostics" log.length ++ (log.render true).2

/-- A report in full, in place of the tests alone. -/
def dryRun (r : Report) (quiet : Bool) : String :=
  terminalLine ("Root: " ++ Text.Markup.escape r.root.text)
    ++ heading "Changed files" r.changed.length ++ items r.changed
    ++ droppedPart r.dropped ++ statsPart r.stats ++ selectionPart r.selection
    ++ (if quiet then "" else diagnosticsPart r.diagnostics)

/-- Why warnings make the run fail. -/
def strictness (log : DiagnosticLog) : String :=
  match log.warnings with
  | [] => ""
  | first :: rest =>
    terminalLine (errorLabel ++ " warnings treated as errors (" ++ toString (rest.length + 1)
      ++ " warnings). First: " ++ Text.Markup.escape first.text)

def unlessQuiet (o : RunOptions) (text : String) : String := if o.quiet then "" else text

def ofReport (o : RunOptions) (r : Report) : Outcome :=
  if r.skipped then
    ⟨0, "", unlessQuiet o ((r.diagnostics.render true).2
      ++ terminalLine "Info: no changed Python files detected; skipping.")⟩
  else
    let exitCode := r.diagnostics.exitCode o.strict
    let told := if o.dryRun then dryRun r o.quiet
      else unlessQuiet o (toldDiagnostics r.diagnostics o.verbose)
    let strictness := if exitCode = 0 then "" else unlessQuiet o (strictness r.diagnostics)
    ⟨exitCode, if o.dryRun then "" else outputLines r.selection.paths, told ++ strictness⟩

/-- How a finding is told. -/
def of (o : RunOptions) : Finding → Outcome
  | .nothingGiven => ⟨0, "", unlessQuiet o (terminalLine "Info: no changed files given; skipping.")⟩
  | .refused message => refusal message
  | .report r => ofReport o r

end Outcome

end Ripple.CommandLine
