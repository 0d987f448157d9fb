import Ripple.Proofs.CommandLine.Interference
import Ripple.Proofs.Config.Layers
import Ripple.Proofs.Config.Loading

/-! The settings that a command line comes to.

A run lays what its command line asks for over what the settings file of the project sets, and that over the
settings of the environment (`fst_configFor_eq_ok_iff`). Whatever stands there, the result is valid, and an analysis
does not fail for valid settings (`analyze_fails_for_input`), so no command line ends in what the walk and the
selection say of settings that nobody has looked at (`settings_are_valid_key_by_key`). -/
namespace Ripple

namespace Workspace
variable {w : Workspace} {root : Path} {config : Config} {read : SourceReader} {paths : List Path}
  {allowMissing : Bool} {e : AnalysisError}

theorem analysisRoot_fails_for_input (h : w.analysisRoot root = .error e) :
    (∃ i, e = .input i) ∨ e = .linkLoop := by
  unfold analysisRoot at h
  split at h
  · exact .inl ⟨_, (Except.error.inj h).symm⟩
  · split at h
    · exact .inl ⟨_, (Except.error.inj h).symm⟩
    · split at h
      · cases h
      · exact .inr (Except.error.inj h).symm

theorem intake_fails_for_input (h : w.intake root paths allowMissing = .error e) :
    (∃ i, e = .input i) ∨ e = .linkLoop := by
  unfold intake at h
  cases hroot : w.analysisRoot root with
  | error e' =>
    rw [hroot] at h
    exact Except.error.inj h ▸ analysisRoot_fails_for_input hroot
  | ok top =>
    rw [hroot] at h
    simp only [Except.bind] at h
    cases hchanged : w.changedModules top (paths.filter isSourcePath) allowMissing with
    | error i =>
      rw [hchanged] at h
      exact .inl ⟨i, (Except.error.inj h).symm⟩
    | ok m =>
      rw [hchanged] at h
      cases h

/-- **With valid settings an analysis fails for what it is asked alone.** -/
theorem analyze_fails_for_input (hvalid : config.Valid)
    (h : w.analyze root config read paths allowMissing = .error e) : (∃ i, e = .input i) ∨ e = .linkLoop := by
  rw [analyze_eq] at h
  cases hintake : w.intake root paths allowMissing with
  | error e' =>
    rw [hintake] at h
    exact Except.error.inj h ▸ intake_fails_for_input hintake
  | ok i =>
    rw [hintake] at h
    simp only [Except.bind] at h
    split at h
    · cases h
    · obtain ⟨order, horder⟩ := Option.isSome_iff_exists.mp hvalid.order
      rw [(w.analyzeModules_eq_ok_iff ..).mpr ⟨hvalid.distanceLimit, hvalid.maxCount, order, horder, rfl⟩] at h
      cases h

end Workspace

namespace CommandLine.Setup
variable (s : Setup)

/-- **The settings of a run are those of its layers**, of which the one in the middle is what the settings file of
the project sets. -/
theorem fst_configFor_eq_ok_iff (o : RunOptions) {root : Path} {c : Config} :
    (s.configFor o root).1 = .ok c ↔
      ∃ t, (s.files.settingsContent s.decode root).Sets t ∧ c = Config.layers s.jobs t o.overrides := by
  rw [fst_configFor, baseFor, Config.load_eq]
  constructor
  · intro h
    obtain ⟨base, hbase, rfl⟩ := map_eq_ok_iff.mp h
    obtain ⟨loaded, hloaded, rfl⟩ := map_eq_ok_iff.mp hbase
    obtain ⟨⟨t, told⟩, hsettings, rfl⟩ := map_eq_ok_iff.mp hloaded
    exact ⟨t, (Workspace.settings_eq_ok_iff ..).mp ⟨told, hsettings⟩, rfl⟩
  · rintro ⟨t, hsets, rfl⟩
    obtain ⟨told, hsettings⟩ := (Workspace.settings_eq_ok_iff ..).mpr hsets
    rw [hsettings]
    rfl

theorem found_of_result_run {o : RunOptions} {e : RunError} (h : (s.run o).result = .error e) :
    s.found o = .error e := by
  rw [result_run] at h
  cases hfound : s.found o with
  | error e' =>
    rw [hfound] at h
    exact congrArg Except.error (Except.error.inj h)
  | ok f =>
    rw [hfound] at h
    cases h

/-- An analysis that ends a run has been made with valid settings. -/
theorem run_fails_for_input {o : RunOptions} (hvalid : o.overrides.Valid) {e : AnalysisError}
    (h : (s.run o).result = .error (.analysis e)) : (∃ i, e = .input i) ∨ e = .linkLoop := by
  have hfound := s.found_of_result_run h
  rw [found_eq] at hfound
  split at hfound
  · cases hfound
  · split at hfound
    · cases hfound
    · split at hfound
      · cases hfound
      · split at hfound
        · cases hfound
        · next base hbase =>
          cases hanalyze : s.files.analyze _ (base.merge o.overrides) reader _ (mayMiss o) with
          | ok r =>
            rw [hanalyze] at hfound
            cases hfound
          | error e' =>
            have hcause := Workspace.analyze_fails_for_input ((valid_baseFor hbase).merge hvalid) hanalyze
            rw [hanalyze] at hfound
            cases e' with
            | input i => cases hfound
            | linkLoop =>
              cases hfound
              exact .inr rfl
            | impact e' => simp at hcause
            | selection e' => simp at hcause

/-- **No command line ends in settings that the walk or the selection cannot use.** -/
theorem perform_fails_for_input {words : List String} {e : AnalysisError}
    (h : (s.perform words).result = .error (.analysis e)) : (∃ i, e = .input i) ∨ e = .linkLoop := by
  unfold perform at h
  split at h
  · cases h
  · cases h
  · cases h
  · -- a report is formatted without any analysis
    unfold format at h
    split at h
    · simp only at h
      split at h
      · cases h
      · split at h <;> cases h
    · cases h
  · next o ho => exact s.run_fails_for_input (overrides_valid ho).1 h

/-- **The settings of a run are valid, each comes from the layer that it should come from, and none depends on
what stands under the key of another.** Whatever stands in the table of a project and in the environment, and
whatever an accepted command line asks for: the settings that they come to are valid; each is what is asked for,
else what the project gives under its key, else what holds without both; and another table that differs under one
key comes to the same settings but for those fed by that key. A run has exactly these settings, for the table that
is set by the settings file of its project, and no run ends in what the walk or the selection say of settings that
they cannot use. -/
theorem settings_are_valid_key_by_key {words : List String} {o : RunOptions}
    (h : Command.ofWords? words = some (.run o)) :
    (∀ jobs t, (Config.layers jobs t o.overrides).Valid ∧
      FromLayers jobs t o.overrides (Config.layers jobs t o.overrides) ∧
      ∀ t' key, (∀ k, k ≠ key → t'.lookup k = t.lookup k) →
        SameBeside key (Config.layers jobs t o.overrides) (Config.layers jobs t' o.overrides)) ∧
    ∀ s : Setup,
      (∀ root c, (s.configFor o root).1 = .ok c ↔
        ∃ t, (s.files.settingsContent s.decode root).Sets t ∧ c = Config.layers s.jobs t o.overrides) ∧
      (∀ e, (s.perform words).result ≠ .error (.analysis (.impact e))) ∧
      ∀ e, (s.perform words).result ≠ .error (.analysis (.selection e)) := by
  obtain ⟨hvalid, hfolders⟩ := overrides_valid h
  refine ⟨fun jobs t => ⟨?_, Config.fromLayers_layers jobs t hfolders,
    fun t' key => Config.sameBeside_layers jobs⟩,
    fun s => ⟨fun root c => s.fst_configFor_eq_ok_iff o, fun e he => ?_, fun e he => ?_⟩⟩
  · exact ((Config.valid_ofEnvironment jobs).ofTable t).merge hvalid
  · simpa using s.perform_fails_for_input he
  · simpa using s.perform_fails_for_input he

/-- A settings file that sets something under every key, not always in the right shape. -/
def allKeysFile : String :=
  "[tool.testdiff]\nmax = 7\ndistance-limit = true\njobs = 0\nignore-external-imports = true\n" ++
  "order = 'relevance'\nexclude = 'gen'\nextend-exclude = ['out']\n"

/-- A command line asks for no test at all and for reports of unresolved imports, over a project that sets
something under every key. -/
theorem project_settings_yield_to_command_line :
    let words := ["--max", "0", "--report-external", "-c", "a.py"]
    let t : Toml.Table := [("max", .integer 7), ("distance-limit", .boolean true), ("jobs", .integer 0),
      ("ignore-external-imports", .boolean true), ("order", .text "relevance"), ("exclude", .text "gen"),
      ("extend-exclude", .array [.text "out"])]
    let t' := ("jobs", .text "many") :: t
    let s : Setup := ⟨Workspace.ofProject [("pyproject.toml", .file allKeysFile.toUTF8.toList)], none,
      Toml.Document.parse?, some "4", fun _ => ""⟩
    ∃ o, Command.ofWords? words = some (.run o) ∧
      (s.configFor o ⟨.root, ["project"]⟩).1 = .ok ⟨defaultExcluded ++ ["out"], some 0, none, 1, false, "relevance"⟩ ∧
      (Config.layers (some "4") t o.overrides).Valid ∧
      FromLayers (some "4") t o.overrides (Config.layers (some "4") t o.overrides) ∧
      SameBeside "jobs" (Config.layers (some "4") t o.overrides) (Config.layers (some "4") t' o.overrides) ∧
      (Config.layers (some "4") t' o.overrides).jobs = 4 := by
  intro words t t' s
  let o : RunOptions := { RunOptions.none with
    changed := ["a.py"], overrides.maxCount := some 0, overrides.ignoreExternal := some false }
  have h : Command.ofWords? words = some (.run o) := rfl
  have hbeside : ∀ k, k ≠ "jobs" → t'.lookup k = t.lookup k := fun k hk => by
    rw [List.lookup_cons, beq_eq_false_iff_ne.mpr hk]
  have hcontent : s.files.settingsContent s.decode ⟨.root, ["project"]⟩ =
      .document [("tool", .table [("testdiff", .table t)])] := by
    have hparse : s.decode (Text.unixBreaks allKeysFile.toList) =
        some [("tool", .table [("testdiff", .table t)])] := by decide +kernel
    rw [Workspace.settingsContent_ofProject (show _ = some allKeysFile.toList by decide +kernel), hparse]
  have hsets : (s.files.settingsContent s.decode ⟨.root, ["project"]⟩).Sets t :=
    hcontent ▸ .held ⟨_, rfl, rfl⟩
  obtain ⟨hsettings, hruns⟩ := settings_are_valid_key_by_key h
  obtain ⟨hvalid, hlayers, hsame⟩ := hsettings (some "4") t
  obtain ⟨hconfig, _⟩ := hruns s
  exact ⟨o, h, (hconfig _ _).mpr ⟨t, hsets, by decide⟩, hvalid, hlayers, hsame t' "jobs" hbeside, by decide⟩

end CommandLine.Setup

end Ripple
