import Ripple.Diagnostic
import Ripple.Text.Terminal

/-! What is printed beside the answer.

A diagnostic is one line on the terminal: its severity, which is coloured, and its text, in which
nothing is meant to be markup. What comes out is up to the terminal (`renderOn`); unless one is
given, it is the usual one. -/
namespace Ripple

/-- What is printed of some markup. -/
def terminalLine (markup : String) : String := Text.Terminal.usual.line markup

/-- Words that are to look alike. -/
def inStyle (style words : String) : String := "[" ++ style ++ "]" ++ words ++ "[/" ++ style ++ "]"

def Severity.label : Severity → String
  | warning => inStyle "yellow" "Warning"
  | notice => inStyle "cyan" "Info"

/-- A diagnostic in full, as markup. -/
def Diagnostic.told (d : Diagnostic) : String :=
  d.severity.label ++ ": " ++ Text.Markup.escape d.text

namespace DiagnosticLog

/-- The diagnostics that are printed. -/
def shown (log : DiagnosticLog) (includeUnresolved : Bool) : DiagnosticLog :=
  log.filter fun d => includeUnresolved || d.kind != .unresolvedImport

/-- How many diagnostics are printed, and the lines. -/
def renderOn (terminal : Text.Terminal) (log : DiagnosticLog) (includeUnresolved : Bool) :
    Nat × String :=
  let shown := log.shown includeUnresolved
  (shown.length, String.join (shown.map fun d => terminal.line d.told))

def render (log : DiagnosticLog) (includeUnresolved : Bool) : Nat × String :=
  log.renderOn .usual includeUnresolved

end DiagnosticLog

end Ripple
