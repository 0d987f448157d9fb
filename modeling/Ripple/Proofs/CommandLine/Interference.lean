import Ripple.CommandLine.Run
import Ripple.Proofs.CommandLine.Command
import Ripple.Proofs.Project.Discovery
import Ripple.Proofs.Project.Stages
import Ripple.Toml.Document

/-! Which options have a say in what.

A run finds something (`Setup.found`) and then tells it. Options that select tests have a say in what is found,
but not in whether it is found and what it warns of (`found_ends_alike`); options that tell of it have no say in
what is found (`found_congr`), and only the dry run has one in the output. So command lines that ask the same
question get the same answer, however it is to be told, and end alike, whatever tests are selected
(`options_do_not_interfere`). -/
namespace Ripple.CommandLine

/-! ### What is told -/

namespace Finding

/-- The exit code that a finding calls for. -/
def exitCode (strict : Bool) : Finding → Nat
  | nothingGiven => 0
  | refused _ => 2
  | report r => if r.skipped then 0 else r.diagnostics.exitCode strict

/-- The output that a finding calls for. -/
def output (dryRun : Bool) : Finding → String
  | nothingGiven => ""
  | refused _ => ""
  | report r => if r.skipped ∨ dryRun then "" else Outcome.outputLines r.selection.paths

end Finding

theorem Outcome.exitCode_of (o : RunOptions) (f : Finding) : (Outcome.of o f).exitCode = f.exitCode o.strict := by
  cases f with
  | report r =>
    simp only [of, ofReport, Finding.exitCode]
    split <;> rfl
  | _ => rfl

theorem Outcome.output_of (o : RunOptions) (f : Finding) : (Outcome.of o f).output = f.output o.dryRun := by
  cases f with
  | report r =>
    simp only [of, ofReport, Finding.output]
    cases r.skipped <;> simp
  | _ => rfl

theorem exitCode_le_one (log : DiagnosticLog) (strict : Bool) : log.exitCode strict ≤ 1 := by
  unfold DiagnosticLog.exitCode
  split <;> decide

theorem exitCode_eq_one_iff (log : DiagnosticLog) (strict : Bool) :
    log.exitCode strict = 1 ↔ strict = true ∧ ∃ d ∈ log, d.isWarning = true := by
  unfold DiagnosticLog.exitCode DiagnosticLog.hasWarnings
  split <;> simp_all

/-- Whatever calls for the exit code 2 has no output. -/
theorem Finding.output_eq_empty {f : Finding} {strict dryRun : Bool} (h : f.exitCode strict = 2) :
    f.output dryRun = "" := by
  cases f with
  | report r =>
    have hle := exitCode_le_one r.diagnostics strict
    simp only [exitCode] at h
    split at h <;> omega
  | _ => rfl

/-! ### What is found -/

/-- What a run prints; nothing if it ends in a way that nobody foresaw. -/
def Run.output (r : Run) : String :=
  match r.result with
  | .ok out => out.output
  | .error _ => ""

/-- The two runs are asked the same question about the same project. -/
structure SameRequest (o o' : RunOptions) : Prop where
  changed : splitChanged o.changed = splitChanged o'.changed
  diff : o.diff = o'.diff
  root : o.root = o'.root
  allowMissing : o.allowMissing = o'.allowMissing
  ignoreExternal : o.overrides.ignoreExternal = o'.overrides.ignoreExternal

/-- The two runs select and list tests in the same way. -/
structure SameSelection (o o' : RunOptions) : Prop where
  maxCount : o.overrides.maxCount = o'.overrides.maxCount
  distanceLimit : o.overrides.distanceLimit = o'.overrides.distanceLimit
  order : o.overrides.order = o'.overrides.order
  dryRun : o.dryRun = o'.dryRun

namespace Setup
variable (s : Setup)

/-- The paths that changed, or why git could not tell. -/
def changedFor (o : RunOptions) : Except GitError (List Path) := ((s.changedPaths o).run.run []).1

/-- What a run finds, before it is told. -/
def found (o : RunOptions) : Except RunError Finding :=
  match s.changedFor o with
  | .error e => .ok (.refused e.message)
  | .ok changed => (s.assess o changed).1

theorem result_run (o : RunOptions) : (s.run o).result = (s.found o).map (Outcome.of o) := by
  unfold run found changedFor
  rcases (s.changedPaths o).run.run [] with ⟨e | changed, commands⟩ <;> rfl

/-- The root that a run chooses for changed paths. -/
def rootFor (o : RunOptions) (changed : List Path) : Option Path :=
  let sources := (partitionSources changed).1
  s.files.chooseRoot o.root (if sources = [] then changed else sources)

/-- The settings that stand before the command line is asked. -/
def baseFor (root : Path) : Except ConfigError Config :=
  (Config.load s.decode s.files root (Config.ofEnvironment s.jobs).1).map Prod.fst

theorem fst_configFor (o : RunOptions) (root : Path) :
    (s.configFor o root).1 = (s.baseFor root).map (·.merge o.overrides) := by
  unfold configFor baseFor
  obtain ⟨base, warnings⟩ := Config.ofEnvironment s.jobs
  cases hload : Config.load s.decode s.files root base <;> simp only [hload] <;> rfl

/-- The stages of a run, each of which may be its last. -/
theorem found_eq (o : RunOptions) :
    s.found o = match s.changedFor o with
      | .error e => .ok (.refused e.message)
      | .ok changed =>
        if changed = [] then .ok .nothingGiven
        else match s.rootFor o changed with
          | none => .error .linkLoop
          | some root => match s.baseFor root with
            | .error e => .error (.config e)
            | .ok base =>
              findingOf (s.files.analyze root (base.merge o.overrides) reader changed (mayMiss o)) := by
  unfold found
  cases s.changedFor o with
  | error e => rfl
  | ok changed =>
    simp only [assess]
    split
    · rfl
    · unfold rootFor
      cases s.files.chooseRoot o.root _ with
      | none => rfl
      | some root =>
        have hconfig : s.configFor o root = ((s.baseFor root).map (·.merge o.overrides), (s.configFor o root).2) :=
          Prod.ext (s.fst_configFor o root) rfl
        simp only
        rw [hconfig]
        cases s.baseFor root <;> rfl

/-- The run gets to an analysis, and the report is `r`. -/
def Analyzes (o : RunOptions) (r : Report) : Prop :=
  ∃ changed root config, s.changedFor o = .ok changed ∧ changed ≠ [] ∧ s.rootFor o changed = some root ∧
    (s.configFor o root).1 = .ok config ∧ s.files.analyze root config reader changed (mayMiss o) = .ok r

theorem findingOf_eq_report_iff {x : Except AnalysisError Report} {r : Report} :
    findingOf x = .ok (.report r) ↔ x = .ok r := by
  unfold findingOf
  split <;> simp

/-- **A report is found by getting to an analysis**, and in no other way. -/
theorem found_eq_report_iff (o : RunOptions) (r : Report) : s.found o = .ok (.report r) ↔ s.Analyzes o r := by
  unfold Analyzes
  simp only [fst_configFor]
  rw [found_eq]
  cases s.changedFor o with
  | error e => simp
  | ok changed =>
    by_cases hnone : changed = []
    · simp [hnone]
    · cases hroot : s.rootFor o changed with
      | none => simp [hnone, hroot]
      | some root =>
        cases hbase : s.baseFor root with
        | error e => simp [hnone, hroot, hbase, Except.map]
        | ok base => simp [hnone, hroot, hbase, Except.map, findingOf_eq_report_iff]

/-! ### Two runs -/

section Two
variable {s} {o o' : RunOptions}

theorem valid_baseFor {root : Path} {base : Config} (h : s.baseFor root = .ok base) : base.Valid := by
  obtain ⟨found, hload, rfl⟩ := map_eq_ok_iff.mp h
  exact (Config.valid_ofEnvironment s.jobs).load hload

/-- Runs that are asked the same go the same way up to the analysis. -/
theorem found_map_eq {β : Type} (view : Finding → β) (hsame : SameRequest o o')
    (hanalyze : ∀ root base changed, s.baseFor root = .ok base →
      (findingOf (s.files.analyze root (base.merge o.overrides) reader changed (mayMiss o))).map view =
        (findingOf (s.files.analyze root (base.merge o'.overrides) reader changed (mayMiss o))).map view) :
    (s.found o).map view = (s.found o').map view := by
  have hchanged : s.changedFor o' = s.changedFor o := by
    rw [changedFor, changedFor, changedPaths, changedPaths, hsame.changed, hsame.diff]
  have hroot : s.rootFor o' = s.rootFor o := funext fun changed => by rw [rootFor, rootFor, hsame.root]
  have hmayMiss : mayMiss o' = mayMiss o := by rw [mayMiss, mayMiss, hsame.diff, hsame.allowMissing]
  -- what either run may end with before its analysis is the same for both
  rw [found_eq, found_eq, hchanged, hroot, hmayMiss]
  split
  · rfl
  · split
    · rfl
    · split
      · rfl
      · split
        · rfl
        · next hbase => exact hanalyze _ _ _ hbase

/-- **What is found does not depend on how it is told**, nor on the number of jobs. -/
theorem found_congr (hsame : SameRequest o o') (hselect : SameSelection o o')
    (hexcluded : o.overrides.excluded = o'.overrides.excluded) : s.found o = s.found o' := by
  have hid : ∀ x : Except RunError Finding, x.map id = x := fun x => by cases x <;> rfl
  rw [← hid (s.found o), ← hid (s.found o')]
  refine found_map_eq id hsame fun root base changed _ => ?_
  have hmerge : base.merge o'.overrides =
      { base.merge o.overrides with jobs := (base.merge o'.overrides).jobs } := by
    simp only [Config.merge, hexcluded, hselect.maxCount, hselect.distanceLimit, hselect.order,
      hsame.ignoreExternal]
  rw [Workspace.analyze_jobs _ _ _ _ _ hmerge]

/-- How a run ends for what an analysis came to. -/
def endOf (strict : Bool) : Except AnalysisError (Bool × DiagnosticLog) → Except RunError Nat
  | .ok (skipped, warnings) => .ok (if skipped then 0 else warnings.exitCode strict)
  | .error (.input _) => .ok 2
  | .error e => .error (.analysis e)

theorem map_exitCode_findingOf (x : Except AnalysisError Report) (strict : Bool) :
    (findingOf x).map (Finding.exitCode strict) = endOf strict (x.map Workspace.verdict) := by
  cases x with
  | error e => cases e <;> rfl
  | ok r =>
    have hwarned : r.diagnostics.warnings.hasWarnings = r.diagnostics.hasWarnings := by
      rw [DiagnosticLog.hasWarnings_eq, DiagnosticLog.hasWarnings_eq, DiagnosticLog.warnings_warnings]
    simp only [findingOf, Except.map, Finding.exitCode, Workspace.verdict, endOf, DiagnosticLog.exitCode, hwarned]

/-- **How a run ends does not depend on how tests are selected.** -/
theorem found_ends_alike (hsame : SameRequest o o') (h : o.overrides.Valid) (h' : o'.overrides.Valid)
    (hexcluded : o.overrides.excluded = o'.overrides.excluded) (strict : Bool) :
    (s.found o).map (Finding.exitCode strict) = (s.found o').map (Finding.exitCode strict) := by
  refine found_map_eq _ hsame fun root base changed hbase => ?_
  have hvalid := valid_baseFor hbase
  rw [map_exitCode_findingOf, map_exitCode_findingOf]
  refine congrArg (endOf strict) ?_
  refine s.files.analyze_warns_alike _ _ _ _ (hvalid.merge h) (hvalid.merge h') ?_ ?_
  · rw [Config.merge, Config.merge, hexcluded]
  · rw [Config.merge, Config.merge, hsame.ignoreExternal]

end Two

/-! ### Command lines -/

theorem perform_eq_run {words : List String} {o : RunOptions} (h : Command.ofWords? words = some (.run o)) :
    s.perform words = s.run o := by
  rw [perform, h]

theorem output_run (o : RunOptions) :
    (s.run o).output = match s.found o with
      | .ok f => f.output o.dryRun
      | .error _ => "" := by
  rw [Run.output, result_run]
  cases s.found o with
  | error e => rfl
  | ok f => exact Outcome.output_of o f

theorem exitCode_run (o : RunOptions) :
    (s.run o).result.map Outcome.exitCode = (s.found o).map (Finding.exitCode o.strict) := by
  rw [result_run]
  cases s.found o with
  | error e => rfl
  | ok f => exact congrArg Except.ok (Outcome.exitCode_of o f)

/-- How a run ends that gets to its analysis. -/
theorem exitCode_run_of_stages {o : RunOptions} {changed : List Path} {root : Path} {base : Config}
    (hchanged : s.changedFor o = .ok changed) (hsome : changed ≠ []) (hroot : s.rootFor o changed = some root)
    (hbase : s.baseFor root = .ok base) :
    (s.run o).result.map Outcome.exitCode = endOf o.strict
      ((s.files.analyze root (base.merge o.overrides) reader changed (mayMiss o)).map Workspace.verdict) := by
  rw [exitCode_run, found_eq, hchanged]
  simp only
  rw [if_neg hsome, hroot]
  simp only [hbase]
  exact map_exitCode_findingOf ..

theorem output_run_eq_empty {o : RunOptions} {out : Outcome} (h : (s.run o).result = .ok out)
    (htwo : out.exitCode = 2) : out.output = "" := by
  rw [result_run] at h
  obtain ⟨f, _, rfl⟩ := map_eq_ok_iff.mp h
  rw [Outcome.exitCode_of] at htwo
  exact (Outcome.output_of o f).trans (Finding.output_eq_empty htwo)

theorem output_format_eq_empty {file : String} {includeSkipped : Bool} {out : Outcome}
    (h : s.format file includeSkipped = .ok out) (htwo : out.exitCode = 2) : out.output = "" := by
  unfold format at h
  split at h
  · simp only at h
    split at h
    · -- what was formatted ends well
      cases h
      cases htwo
    · split at h
      · cases h
        rfl
      · cases h
  · cases h
    rfl

/-- Whatever ends with the exit code 2 has no output. -/
theorem output_eq_empty {words : List String} {out : Outcome} (h : (s.perform words).result = .ok out)
    (htwo : out.exitCode = 2) : out.output = "" := by
  unfold perform at h
  split at h
  · cases h
    rfl
  · cases h
    cases htwo
  · cases h
    cases htwo
  · exact s.output_format_eq_empty h htwo
  · exact s.output_run_eq_empty h htwo

/-- A run fails for its warnings alone: they must not be allowed, and an analysis must have some. -/
theorem exitCode_eq_one {o : RunOptions} {out : Outcome} (h : (s.run o).result = .ok out) :
    out.exitCode = 1 ↔ o.strict = true ∧ ∃ r, s.Analyzes o r ∧ r.skipped = false ∧
      ∃ d ∈ r.diagnostics, d.isWarning = true := by
  rw [result_run] at h
  obtain ⟨f, hfound, rfl⟩ := map_eq_ok_iff.mp h
  simp only [← found_eq_report_iff, hfound, Outcome.exitCode_of]
  cases f with
  | report r =>
    simp only [Finding.exitCode, Except.ok.injEq, Finding.report.injEq, exists_eq_left']
    cases r.skipped with
    | true => simp
    | false => simp [exitCode_eq_one_iff]
  | _ => simp [Finding.exitCode]

/-- **Options say what they say and no more.** Of two accepted command lines that ask the same question, the
output is the same if tests are selected and listed in the same way, and the end is the same if both are as
strict. A run that is refused has no output, and one fails for warnings exactly if it is strict and an
analysis that was not skipped has some. -/
theorem options_do_not_interfere {words words' : List String} {o o' : RunOptions}
    (h : Command.ofWords? words = some (.run o)) (h' : Command.ofWords? words' = some (.run o'))
    (hsame : SameRequest o o') :
    (SameSelection o o' → (s.perform words).output = (s.perform words').output) ∧
    (o.strict = o'.strict →
      (s.perform words).result.map Outcome.exitCode = (s.perform words').result.map Outcome.exitCode) ∧
    (∀ line out, (s.perform line).result = .ok out → out.exitCode = 2 → out.output = "") ∧
    ∀ out, (s.perform words).result = .ok out →
      (out.exitCode = 1 ↔ o.strict = true ∧ ∃ r, s.Analyzes o r ∧ r.skipped = false ∧
        ∃ d ∈ r.diagnostics,
          d.kind = .parseError ∨ d.kind = .unresolvedImport ∨ d.kind = .missingChangedFile) := by
  obtain ⟨hvalid, hexcluded⟩ := overrides_valid h
  obtain ⟨hvalid', hexcluded'⟩ := overrides_valid h'
  have hfolders := hexcluded.trans hexcluded'.symm
  simp only [s.perform_eq_run h, s.perform_eq_run h']
  refine ⟨fun hselect => ?_, fun hstrict => ?_, fun line out => s.output_eq_empty, fun out hout => ?_⟩
  · rw [output_run, output_run, found_congr hsame hselect hfolders, hselect.dryRun]
  · rw [exitCode_run, exitCode_run, hstrict, found_ends_alike hsame hvalid hvalid' hfolders]
  · simpa only [Diagnostic.isWarning_iff] using s.exitCode_eq_one hout

/-- One of two tests is gone: told in full or not at all, a run that is strict fails, and lists the other one. -/
theorem quiet_run_ends_like_verbose_run :
    let s : Setup := ⟨Workspace.ofProject [("test_a.py", .file [])], none, Toml.Document.parse?, none, fun _ => ""⟩
    let words := ["-vc", "test_a.py,gone.py", "--root", ".", "--allow-missing", "--warn-as-error"]
    let words' := ["-qctest_a.py", "--changed=gone.py", "--root=.", "--allow-missing", "--warn-as-error", "-j8"]
    ∃ o o', Command.ofWords? words = some (.run o) ∧ Command.ofWords? words' = some (.run o') ∧
      o.quiet = false ∧ o'.quiet = true ∧ SameRequest o o' ∧ SameSelection o o' ∧
      (s.perform words).output = (s.perform words').output ∧
      (s.perform words).result.map Outcome.exitCode = .ok 1 ∧
      (s.perform words').result.map Outcome.exitCode = .ok 1 := by
  intro s words words'
  let root : Path := ⟨.relative, []⟩
  let o : RunOptions := { RunOptions.none with
    changed := ["test_a.py,gone.py"], root := root, allowMissing := true, strict := true, verbose := true }
  let o' : RunOptions := { RunOptions.none with
    changed := ["test_a.py", "gone.py"], root := root, allowMissing := true, strict := true, quiet := true
    overrides.jobs := some 8 }
  have h : Command.ofWords? words = some (.run o) := rfl
  have h' : Command.ofWords? words' = some (.run o') := rfl
  have hsame : SameRequest o o' := ⟨rfl, rfl, rfl, rfl, rfl⟩
  have hselect : SameSelection o o' := ⟨rfl, rfl, rfl, rfl⟩
  obtain ⟨houtput, hend, _⟩ := s.options_do_not_interfere h h' hsame
  have hone : (s.perform words).result.map Outcome.exitCode = .ok 1 := by
    let top : Path := ⟨.root, ["project"]⟩
    let changed : List Path := [top.child "test_a.py", top.child "gone.py"]
    have hchanged : s.changedFor o = .ok changed := by cbv
    have hroot : s.rootFor o changed = some top := by
      have hsources : partitionSources changed = (changed, []) := by cbv
      unfold rootFor
      rw [hsources]
      simp only
      rw [if_neg (by decide)]
      cbv
    have hbase : s.baseFor top = .ok (Config.default 1) := by cbv
    have hintake : s.files.intake top changed true = .ok ⟨top, ["test_a.py", "gone.py"], []⟩ := by cbv
    have hverdict : (s.files.analyze top (Config.default 1) reader changed true).map Workspace.verdict =
        .ok (false, [missingChange (.ofModules ["test_a.py"]) "gone.py"]) := by
      rw [Workspace.analyze_eq, hintake]
      simp only [Except.bind]
      rw [if_neg (by decide), Workspace.verdict_analyzeModules _ _ (Config.valid_default (Int.le_refl 1))]
      cbv
    rw [s.perform_eq_run h, s.exitCode_run_of_stages hchanged (by decide) hroot hbase]
    exact congrArg (endOf true) hverdict
  exact ⟨o, o', h, h', rfl, rfl, hsame, hselect, houtput hselect, hone, (hend rfl).symm.trans hone⟩

end Setup

end Ripple.CommandLine
