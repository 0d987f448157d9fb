import Ripple.Failure
import Ripple.Source.Block

/-! Why no imports can be read from a source.

A `SourceFault` is a cause, `SourceError` one with its place. In the strict dialect the first
obstacle is not always the one to tell: brackets and strings that do not come out even are told
before anything else, and a statement that was once in the language is told as such
(`strictFault`). -/
namespace Ripple

inductive SourceFault where
  | invalid
  | expectedColon
  | unexpectedIndent
  | inconsistentDedent
  | noBlock (header : Source.Header) (line : Nat)
  | noHandler
  | layout (fault : Source.LayoutFault)
  /-- A null character, which no source holds. -/
  | nullCharacter
  /-- A statement of an older language, where the dialect knows it. -/
  | legacyStatement (word : String)
  /-- The same where the dialect does not know it. -/
  | legacyCall (word : String)
  /-- The grammar to read with is not there. -/
  | noGrammar
  deriving DecidableEq, Repr

/-- The name of what a header starts. -/
def Source.Header.text : Source.Header → String
  | .condition => "'if' statement"
  | .elseIf => "'elif' statement"
  | .otherwise => "'else' statement"
  | .loop => "'for' statement"
  | .repetition => "'while' statement"
  | .attempted => "'try' statement"
  | .handler => "'except' statement"
  | .finally => "'finally' statement"
  | .context => "'with' statement"
  | .function => "function definition"
  | .type => "class definition"
  | .selection => "'match' statement"
  | .case => "'case' statement"

def Source.LayoutFault.message : Source.LayoutFault → String
  | .openString true _ last =>
    "unterminated triple-quoted string literal (detected at line " ++ toString last ++ ")"
  | .openString false line _ =>
    "unterminated string literal (detected at line " ++ toString line ++ ")"
  | .strayBackslash _ => "unexpected character after line continuation character"
  | .unmatched close _ => "unmatched '" ++ close ++ "'"
  | .mismatched opened openedAt close line =>
    "closing parenthesis '" ++ close ++ "' does not match opening parenthesis '" ++ opened ++ "'"
      ++ (if openedAt = line then "" else " on line " ++ toString openedAt)
  | .unclosed opened _ => "'" ++ opened ++ "' was never closed"

def SourceFault.message : SourceFault → String
  | invalid => "invalid syntax"
  | expectedColon => "expected ':'"
  | unexpectedIndent => "unexpected indent"
  | inconsistentDedent => "unindent does not match any outer indentation level"
  | noBlock header line =>
    "expected an indented block after " ++ header.text ++ " on line " ++ toString line
  | noHandler => "expected 'except' or 'finally' block"
  | layout fault => fault.message
  | nullCharacter => "source code string cannot contain null bytes"
  | legacyStatement word => "Python 2 " ++ word ++ " statement"
  | legacyCall word =>
    "Missing parentheses in call to '" ++ word ++ "'. Did you mean " ++ word ++ "(...)?"
  | noGrammar => "tree-sitter grammar for python is not loaded"

structure SourceError where
  fault : SourceFault
  file : ModuleId
  line : Option Nat
  deriving DecidableEq, Repr

namespace SourceError

def message (e : SourceError) : String := e.fault.message

def failure (e : SourceError) : Failure := .source e.message e.file e.line

end SourceError

namespace Source

/-! ### The fault that an obstacle amounts to -/

/-- The line that an obstacle is on. -/
def Obstacle.line (last : Nat) : Obstacle → Nat
  | .stuck line s => s.lineIn line
  | .layout fault => fault.line
  | .unexpectedIndent line | .inconsistentDedent line => line.startLine
  | .noBlock _ _ next => next
  | .noHandler next => next.getD last

def Obstacle.fault : Obstacle → SourceFault
  | .stuck _ s => if s.wantsColon then .expectedColon else .invalid
  | .layout fault => .layout fault
  | .unexpectedIndent _ => .unexpectedIndent
  | .inconsistentDedent _ => .inconsistentDedent
  | .noBlock header line _ => .noBlock header line
  | .noHandler _ => .noHandler

/-- Words before which no expression starts. -/
def nameContexts : List String := [".", "def", "class", "import", "as", "global", "nonlocal"]

/-- The first word that was once a statement and is followed by what it took. -/
def legacyWord? (before : String) : List Token → Option Token
  | [] => none
  | t :: rest =>
    let follows := match rest with
      | next :: _ => next.text != "(" &&
        (Reader.starList .strict (expressionDepth rest) rest matches .ok _)
      | [] => false
    if ["print", "exec"].contains t.text && !nameContexts.contains before && follows then some t
    else legacyWord? t.text rest

/-- The tokens of a line before an obstacle in it. -/
def tokensBefore (o : Obstacle) (line : LogicalLine) : List Token :=
  match o with
  | .stuck place s =>
    if place = line then line.tokens.take (line.tokens.length - s.rest.length) else line.tokens
  | _ => line.tokens

/-- The first statement of an older language up to an obstacle, each word with what follows it on
its line. -/
def legacyBefore? (lines : List LogicalLine) (o : Obstacle) (line : Nat) : Option Token :=
  (lines.takeWhile fun l => decide (l.startLine ≤ line)).findSome? fun l =>
    (legacyWord? "" l.tokens).filter ((tokensBefore o l).contains ·)

/-- What cut the last line short, unless that was only the end of the source. -/
def cutFault? (lines : List LogicalLine) : Option LayoutFault :=
  (lines.getLast?.bind (·.cut)).filter fun
    | .unclosed _ _ => false
    | _ => true

/-- The fault to tell of a source in the strict dialect, with its line. -/
def strictFault (lines : List LogicalLine) (o : Obstacle) : SourceFault × Nat :=
  let last := (lines.getLast?.map (·.endLine)).getD 1
  let plain := (o.fault, o.line last)
  let legacy := (legacyBefore? lines o plain.2).map fun t => (SourceFault.legacyCall t.text, t.line)
  let cut := (cutFault? lines).map fun fault => (SourceFault.layout fault, fault.line)
  match o with
  | .stuck .. => (cut.or legacy).getD plain
  | .unexpectedIndent _ | .noBlock .. => legacy.getD plain
  | _ => plain

end Source
end Ripple
