/-! What a run has to say beside its answer.

Diagnostics never stop a run. Those that may mean a wrong answer are warnings, the others are
notices; the exit code of a strict run depends on the warnings alone. -/
namespace Ripple

inductive DiagnosticKind where
  | parseError | unresolvedImport | missingChangedFile
  | distanceTruncated | maxCapped | nonPythonChange
  deriving DecidableEq, Repr

inductive Severity where
  | warning | notice
  deriving DecidableEq, Repr

def DiagnosticKind.severity : DiagnosticKind → Severity
  | parseError | unresolvedImport | missingChangedFile => .warning
  | distanceTruncated | maxCapped | nonPythonChange => .notice

structure Diagnostic where
  kind : DiagnosticKind
  message : String
  file : Option String
  line : Option Nat
  deriving DecidableEq, Repr

/-- Diagnostics in the order in which they came. -/
abbrev DiagnosticLog := List Diagnostic

namespace Diagnostic

def severity (d : Diagnostic) : Severity := d.kind.severity

def isWarning (d : Diagnostic) : Bool := d.severity == .warning

/-- The file and the line, as far as they are known; a line needs its file. -/
def location (d : Diagnostic) : String :=
  match d.file, d.line with
  | none, _ => ""
  | some file, none => file
  | some file, some line => file ++ ":" ++ toString line

def text (d : Diagnostic) : String :=
  if d.location = "" then d.message else d.location ++ ": " ++ d.message

def unresolvedImport (file : String) (line : Nat) (text : String) : Diagnostic :=
  ⟨.unresolvedImport, "Unresolved import \x60" ++ text ++ "\x60", some file, some line⟩

def parseError (file : String) (reason : String) (line : Option Nat) : Diagnostic :=
  ⟨.parseError, "Failed to parse: " ++ reason, some file, line⟩

end Diagnostic

namespace DiagnosticLog

def ofKind (log : DiagnosticLog) (kind : DiagnosticKind) : DiagnosticLog :=
  log.filter (·.kind == kind)

def warnings (log : DiagnosticLog) : DiagnosticLog := log.filter (·.isWarning)

def notices (log : DiagnosticLog) : DiagnosticLog := log.filter fun d => !d.isWarning

def hasWarnings (log : DiagnosticLog) : Bool := log.any (·.isWarning)

/-- The exit code that the diagnostics ask for. -/
def exitCode (log : DiagnosticLog) (strict : Bool) : Nat := if strict && log.hasWarnings then 1 else 0

end DiagnosticLog

end Ripple
