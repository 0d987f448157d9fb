import Ripple.Changes
import Ripple.Git

/-! What is told about a run that failed.

A `Failure` has a kind, a message, and beside the message the file, line, path or command that it
is about, as far as they are known; an empty name is none. -/
namespace Ripple

inductive FailureKind where
  | general | source | input | git
  deriving DecidableEq, Repr

inductive Detail where
  | file (name : String)
  | line (number : Nat)
  | path (text : String)
  | command (line : String)
  deriving DecidableEq, Repr

structure Failure where
  kind : FailureKind
  message : String
  details : List Detail
  deriving DecidableEq, Repr

namespace Failure

def given (name : Option String) : Option String := name.filter (· != "")

/-- A source file that cannot be read as one. -/
def source (message : String) (file : Option String) (line : Option Nat) : Failure :=
  ⟨.source, message, ((given file).map Detail.file).toList ++ (line.map Detail.line).toList⟩

def input (message : String) (path : Option String) : Failure :=
  ⟨.input, message, ((given path).map Detail.path).toList⟩

def git (message : String) (command : Option String) : Failure :=
  ⟨.git, message, ((given command).map Detail.command).toList⟩

end Failure

def InputError.failure (e : InputError) : Failure := .input e.message e.path.text

def GitError.failure (e : GitError) : Failure := .git e.message e.command

end Ripple
