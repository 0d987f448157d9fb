import Ripple.Path
import Ripple.OrderedMap
import Ripple.Text.Blank
import Ripple.Text.Lines

/-! Changed files, as git lists them.

`changedFiles` runs the diffs that a `DiffRequest` asks for, in a fixed order and up to the first
failure, and gives the union of their names below the top of the repository. What git answers is a
parameter; which commands were run is part of the result. -/
namespace Ripple

structure GitAnswer where
  status : Int
  output : String
  errors : String

/-- What git answers to the words of a command line, if there is a git to ask. -/
abbrev Git := Option (List String → GitAnswer)

inductive GitError where
  | notInstalled (command : String)
  | failed (command : String) (status : Int) (errors : String)
  deriving DecidableEq, Repr

namespace GitError

def command : GitError → String
  | notInstalled command => command
  | failed command _ _ => command

def message : GitError → String
  | notInstalled _ => "git executable not found; install git or pass --changed"
  | failed command status errors =>
    command ++ " failed with status " ++ toString status ++ ": " ++ Text.strip errors

end GitError

/-- A talk with git: it may fail, and remembers the commands that were run. -/
abbrev GitM := ExceptT GitError (StateM (List (List String)))

/-- Which changes to ask git for. -/
structure DiffRequest where
  /-- What is staged. -/
  staged : Bool
  /-- What differs from the last commit. -/
  worktree : Bool
  /-- What was committed since a revision. -/
  since : Option String
  /-- What was committed since the history left that of a revision. -/
  sinceFork : Option String

namespace DiffRequest

/-- A revision that is named, and not by an empty name. -/
def named? (revision : Option String) : Option String := revision.filter (· != "")

def isEmpty (request : DiffRequest) : Bool :=
  !(request.staged || request.worktree || (named? request.since).isSome
    || (named? request.sinceFork).isSome)

end DiffRequest

namespace Git

def run (git : Git) (args : List String) : GitM String := do
  modify (· ++ [args])
  let command := Text.join " " ("git" :: args)
  match git with
  | none => throw (.notInstalled command)
  | some answer =>
    let a := answer args
    if a.status ≠ 0 then throw (.failed command a.status a.errors) else return a.output

/-- The names on the lines of an answer. -/
def namesIn (output : String) : List String :=
  ((Text.lines output).map Text.strip).filter (· != "")

def diff (git : Git) (against : String) : GitM (List String) := do
  return namesIn (← git.run ["diff", "--name-only", against])

/-- The names in the diffs that a request asks for. -/
def listedNames (git : Git) (request : DiffRequest) : GitM (List String) := do
  let staged ← if request.staged then git.diff "--cached" else pure []
  let worktree ← if request.worktree then git.diff "HEAD" else pure []
  let since ← match DiffRequest.named? request.since with
    | some revision => git.diff (revision ++ "..HEAD")
    | none => pure []
  let sinceFork ← match DiffRequest.named? request.sinceFork with
    | some revision =>
      let fork ← git.run ["merge-base", revision, "HEAD"]
      git.diff (Text.strip fork ++ "..HEAD")
    | none => pure []
  return staged ++ worktree ++ since ++ sinceFork

def topLevel (git : Git) : GitM Path := do
  return Path.parse (Text.strip (← git.run ["rev-parse", "--show-toplevel"]))

/-- The paths that a request finds changed, each once, part by part in order. -/
def changedFiles (git : Git) (request : DiffRequest) : GitM (List Path) := do
  if request.isEmpty then return []
  let names ← git.listedNames request
  if names = [] then return []
  let top ← git.topLevel
  return ((names.map fun name => top / Path.parse name).foldl addNew []).mergeSort Path.le

end Git

end Ripple
