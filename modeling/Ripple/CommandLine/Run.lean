import Ripple.CommandLine.Outcome
import Ripple.Source.Parser
import Ripple.TestReport

/-! Running a command.

A run asks git only if its options say so, reads the settings of the project only if there are
changed files, and ends with an outcome unless something goes wrong that nobody foresaw
(`RunError`). Beside the outcome a `Run` holds what was noticed and which git commands were run. -/
namespace Ripple.CommandLine

/-- What ends a run without an outcome. -/
inductive RunError where
  | config (e : ConfigError)
  /-- The links to the root go round in a circle. -/
  | linkLoop
  | analysis (e : AnalysisError)
  | report (e : ReportError)

def RunError.message : RunError → String
  | config (.notText file) => "Not in UTF-8: " ++ file.text
  | config .noTable => "[tool] is not a table"
  | linkLoop => "Links go round in a circle"
  | analysis (.input e) => e.message
  | analysis .linkLoop => "Links go round in a circle"
  | analysis (.impact e) => e.message
  | analysis (.selection e) => e.message
  | report e => e.message

structure Run where
  result : Except RunError Outcome
  warnings : List ConfigWarning
  commands : List (List String)

/-- What commands are run with. -/
structure Setup where
  files : Workspace
  git : Git
  /-- How settings files are read. -/
  decode : Toml.Decoder
  /-- The number of jobs that the environment asks for. -/
  jobs : Option String
  /-- The pages of help. -/
  helpPage : HelpTopic → String

namespace Setup

/-- The changed files that are given, and those that git finds. -/
def changedPaths (s : Setup) (o : RunOptions) : GitM (List Path) := do
  let given := (splitChanged o.changed).map s.files.absolutize
  return given ++ (← s.git.changedFiles o.diff)

/-- Files that git finds changed may have been deleted. -/
def mayMiss (o : RunOptions) : Bool := o.allowMissing || !o.diff.isEmpty

def reader : SourceReader := (Parser.lenient .loaded).imports

def findingOf : Except AnalysisError Report → Except RunError Finding
  | .ok r => .ok (.report r)
  | .error (.input e) => .ok (.refused e.message)
  | .error e => .error (.analysis e)

/-- The settings for a root: those of the command line over those of the project. -/
def configFor (s : Setup) (o : RunOptions) (root : Path) :
    Except ConfigError Config × List ConfigWarning :=
  let (base, warnings) := Config.ofEnvironment s.jobs
  match Config.load s.decode s.files root base with
  | .error e => (.error e, warnings)
  | .ok (config, more) => (.ok (config.merge o.overrides), warnings ++ more)

/-- What changed files come to, and what was noticed on the way. -/
def assess (s : Setup) (o : RunOptions) (changed : List Path) :
    Except RunError Finding × List ConfigWarning :=
  if changed = [] then (.ok .nothingGiven, [])
  else
    let sources := (partitionSources changed).1
    match s.files.chooseRoot o.root (if sources = [] then changed else sources) with
    | none => (.error .linkLoop, [])
    | some root => match s.configFor o root with
      | (.error e, warnings) => (.error (.config e), warnings)
      | (.ok config, warnings) =>
        (findingOf (s.files.analyze root config reader changed (mayMiss o)), warnings)

def run (s : Setup) (o : RunOptions) : Run :=
  match (s.changedPaths o).run.run [] with
  | (.error e, commands) => ⟨.ok (.refusal e.message), [], commands⟩
  | (.ok changed, commands) =>
    let (finding, warnings) := s.assess o changed
    ⟨finding.map (Outcome.of o), warnings, commands⟩

/-- Whether a file can be formatted: there is something, it is no folder, and the name does not
ask for a folder. -/
def isReportFile (s : Setup) (file : String) : Bool :=
  let path := Path.parse file
  let asksFolder := ["", "."].contains ((Text.split '/' file).getLast?.getD "")
  s.files.isPresent path && !s.files.isFolder path && !asksFolder

def nothingToFormat (file : Path) : String :=
  terminalLine ("No failures, errors, or skipped tests found in " ++ Text.Markup.escape file.text)

def format (s : Setup) (file : String) (includeSkipped : Bool) : Except RunError Outcome :=
  if s.isReportFile file then
    let path := Path.parse file
    match s.files.reportLines path includeSkipped s.files.cwd with
    | .ok ls => .ok ⟨0, Outcome.outputLines ls, if ls = [] then nothingToFormat path else ""⟩
    | .error e => match e.failure? with
      | some failure => .ok (.refusal failure.message)
      | none => .error (.report e)
  else .ok .usage

def perform (s : Setup) (words : List String) : Run :=
  match Command.ofWords? words with
  | none => ⟨.ok .usage, [], []⟩
  | some (.help topic) => ⟨.ok (.help (s.helpPage topic)), [], []⟩
  | some .version => ⟨.ok .version, [], []⟩
  | some (.format file includeSkipped) => ⟨s.format file includeSkipped, [], []⟩
  | some (.run o) => s.run o

end Setup

end Ripple.CommandLine
