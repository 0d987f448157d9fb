import Ripple.CommandLine.Run
import Ripple.Toml.Document

/-! The program.

The names of the files to look at come on standard input, one a line; files that are named on the
command line need not be among them. The current and the home folder and the number of jobs come
from the environment, the home folders of other users from the list of users. Git is not asked from
here, so options for it end the run with a message. -/
namespace Ripple.CommandLine

/-- The lines of a stream. -/
partial def readLines (stream : IO.FS.Stream) : IO (List String) := do
  let line ← stream.getLine
  if line.isEmpty then return []
  else return (line.dropEndWhile (· == '\n')).toString :: (← readLines stream)

/-- The workspace with one more file, if it can be read. -/
def addFile (w : Workspace) (name : String) : IO Workspace := do
  try
    let bytes ← IO.FS.readBinFile name
    return w.write (Path.parse name) bytes.toList
  catch _ => return w

/-- The home folders in a list of users, whose lines hold a name first and a folder sixth. -/
def homesIn (own : Option String) (users : String) : Homes :=
  let folders := (Text.split '\n' users).filterMap fun line =>
    match Text.split ':' line with
    | name :: _ :: _ :: _ :: _ :: folder :: _ => some (name, folder)
    | _ => none
  ⟨own, fun user => folders.lookup user⟩

def homes : IO Homes := do
  let users ← try IO.FS.readFile "/etc/passwd" catch _ => pure ""
  return homesIn (← IO.getEnv "HOME") users

def helpPage : HelpTopic → String
  | .program => Outcome.usageLine ++ "Suggest impacted Python tests for changed files.\n"
  | .format => "Usage: " ++ Outcome.programName ++ " format [options] file\n"
    ++ "Format a pytest JUnit XML report as GitHub Actions annotations.\n"

def setup (words : List String) : IO Setup := do
  let cwd := Path.parse ((← IO.getEnv "PWD").getD "/")
  let empty := Workspace.makeFolder ⟨.folder [], cwd, ← homes⟩ cwd
  let names ← readLines (← IO.getStdin)
  return ⟨← (names ++ words).foldlM addFile empty, none, Toml.Document.parse?,
    ← IO.getEnv jobsVariable, helpPage⟩

def tell (run : Run) : IO UInt32 := do
  let errors ← IO.getStderr
  for w in run.warnings do errors.putStrLn ("WARNING: " ++ w.message)
  match run.result with
  | .ok outcome =>
    IO.print outcome.output
    errors.putStr outcome.errors
    return outcome.exitCode.toUInt32
  | .error e =>
    errors.putStrLn e.message
    return 1

end Ripple.CommandLine

def main (words : List String) : IO UInt32 := do
  let setup ← Ripple.CommandLine.setup words
  Ripple.CommandLine.tell (setup.perform words)
