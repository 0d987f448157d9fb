import Ripple.CommandLine.Option
import Ripple.Config
import Ripple.Git

/-! What a command line asks for.

The default command selects tests and takes many options, each of which stands for a setting. Of
settings for the same thing the last one holds, and no other has to make sense; only changed files
add up. The command `format` turns a report into annotations. To ask for help or for the version is
enough, whatever else is asked for. -/
namespace Ripple.CommandLine

/-- How tests are to be selected and shown. -/
structure RunOptions where
  /-- Values that each hold changed files, separated by commas. -/
  changed : List String
  diff : DiffRequest
  root : Option Path
  overrides : Overrides
  /-- Changed files need not exist. -/
  allowMissing : Bool
  dryRun : Bool
  /-- Warnings make the run fail. -/
  strict : Bool
  quiet : Bool
  verbose : Bool

def RunOptions.none : RunOptions where
  changed := []
  diff := ⟨false, false, .none, .none⟩
  root := .none
  overrides := ⟨.none, .none, .none, .none, .none, .none⟩
  allowMissing := false
  dryRun := false
  strict := false
  quiet := false
  verbose := false

/-! ### Settings -/

/-- What a run can be told with a number. -/
inductive NumberSetting where
  | maxCount | distanceLimit | jobs
  deriving DecidableEq, Repr

def NumberSetting.least : NumberSetting → Int
  | maxCount => 0
  | distanceLimit => 0
  | jobs => 1

inductive RunSetting where
  | changed (files : String)
  | staged | worktree
  | since (revision : String)
  | sinceFork (revision : String)
  | root (path : Path)
  | number (setting : NumberSetting) (text : String)
  | order (text : String)
  | ignoreExternal (yes : Bool)
  | allowMissing | dryRun | strict | quiet | verbose
  | help | version
  deriving DecidableEq, Repr

def runForms : List (OptionForm RunSetting) :=
  [.value ["--changed", "-c"] .changed,
   .value ["--git-diff"] .since,
   .flag ["--git-staged"] .staged,
   .value ["--git-merge-base"] .sinceFork,
   .flag ["--git-worktree"] .worktree,
   .value ["--root"] fun text => .root (Path.parse text),
   .value ["--max"] (.number .maxCount),
   .value ["--distance-limit"] (.number .distanceLimit),
   .value ["--order"] .order,
   .value ["--jobs", "-j"] (.number .jobs),
   .flag ["--ignore-external"] (.ignoreExternal true),
   .flag ["--report-external"] (.ignoreExternal false),
   .flag ["--allow-missing"] .allowMissing,
   .flag ["--dry-run"] .dryRun,
   .flag ["--warn-as-error"] .strict,
   .flag ["--quiet", "-q"] .quiet,
   .flag ["--verbose", "-v"] .verbose,
   .flag ["--version"] .version,
   .flag ["--help"] .help]

namespace RunOptions

/-- Takes a setting into the options, but for numbers, which may have to give way to later ones. -/
def set (o : RunOptions) : RunSetting → RunOptions
  | .changed files => { o with changed := o.changed ++ [files] }
  | .staged => { o with diff.staged := true }
  | .worktree => { o with diff.worktree := true }
  | .since revision => { o with diff.since := some revision }
  | .sinceFork revision => { o with diff.sinceFork := some revision }
  | .root path => { o with root := some path }
  | .order text => { o with overrides.order := some text }
  | .ignoreExternal yes => { o with overrides.ignoreExternal := some yes }
  | .allowMissing => { o with allowMissing := true }
  | .dryRun => { o with dryRun := true }
  | .strict => { o with strict := true }
  | .quiet => { o with quiet := true }
  | .verbose => { o with verbose := true }
  | .number _ _ | .help | .version => o

def atLeast (least : Int) (text : String) : Option Int :=
  (Text.readInt? text).filter fun n => least ≤ n

def numberText? (n : NumberSetting) : RunSetting → Option String
  | .number m text => if m = n then some text else .none
  | _ => .none

/-- The number that the last of the settings for it holds; none if that is no number in range. -/
def number? (n : NumberSetting) (settings : List RunSetting) : Option (Option Int) :=
  match (settings.filterMap (numberText? n)).getLast? with
  | .none => some .none
  | some text => (atLeast n.least text).map some

/-- The options that settings come to, if their numbers can be used. -/
def ofSettings? (settings : List RunSetting) : Option RunOptions := do
  let maxCount ← number? .maxCount settings
  let distanceLimit ← number? .distanceLimit settings
  let jobs ← number? .jobs settings
  let o := settings.foldl set none
  return { o with
    overrides := { o.overrides with maxCount := maxCount, distanceLimit := distanceLimit, jobs := jobs } }

end RunOptions

inductive FormatSetting where
  | includeSkipped | help
  deriving DecidableEq, Repr

def formatForms : List (OptionForm FormatSetting) :=
  [.flag ["--include-skipped"] .includeSkipped, .flag ["--help"] .help]

/-! ### Commands -/

/-- What help can be asked for. -/
inductive HelpTopic where
  | program | format
  deriving DecidableEq, Repr

inductive Command where
  | help (topic : HelpTopic)
  | version
  | run (options : RunOptions)
  | format (file : String) (includeSkipped : Bool)

namespace Command

/-- The command of a setting that asks for nothing but a text. -/
def ofSetting? : RunSetting → Option Command
  | .help => some (.help .program)
  | .version => some .version
  | _ => none

/-- The command `format` with the words behind it: options and one file, in any order. -/
def formatOf? (words : List String) : Option Command := do
  let (settings, files) ← readWords formatForms true words
  if settings.contains .help then return .help .format
  else match files with
    | [file] => return .format file (settings.contains .includeSkipped)
    | _ => none

/-- An order is asked for that there is. -/
def knownOrder (o : RunOptions) : Bool :=
  o.overrides.order.all fun text => (Order.ofText? text).isSome

/-- The command of options and of the words behind them. The order is not looked at unless tests are
to be selected. -/
def ofOptions? (o : RunOptions) : List String → Option Command
  | [] => if knownOrder o then some (.run o) else none
  | "format" :: words => formatOf? words
  | _ => none

/-- The command that a command line asks for, if it is used as it should be. -/
def ofWords? (words : List String) : Option Command := do
  let (settings, rest) ← readWords runForms false words
  match settings.findSome? ofSetting? with
  | some c => return c
  | none => ofOptions? (← RunOptions.ofSettings? settings) rest

end Command

end Ripple.CommandLine
