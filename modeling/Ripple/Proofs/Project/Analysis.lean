import Mathlib
import Ripple.Project.Analysis
import Ripple.Proofs.Impact.Distance
import Ripple.Proofs.Project.Changes
import Ripple.Proofs.Project.Discovery
import Ripple.Proofs.Project.Scanning
import Ripple.Proofs.Project.Stages
import Ripple.Proofs.Selection

/-! The tests that an analysis selects.

Modules of the project start in place when they change (`mem_keys_seedsOf_indexed`), so an analysis
without limits selects the tests from which a chain of imports leads to a change, and no others
(`analysis_selects_tests_of_changes`). -/
namespace Ripple.Workspace

variable {w : Workspace} {root top : Path}

/-- The path stands for a module of the project. -/
structure Indexed (w : Workspace) (top : Path) (excluded : List String) (p : Path) (id : ModuleId) :
    Prop where
  proper : ∀ n ∈ p.names, Path.IsProper n
  below : moduleAt? top p = some id
  found : id ∈ w.discover top excluded

theorem Indexed.isSource {excluded : List String} {p : Path} {id : ModuleId}
    (h : w.Indexed top excluded p id) : isSourcePath p = true := by
  obtain ⟨below, hbelow, htext⟩ := Option.map_eq_some_iff.mp h.below
  unfold Path.relativeTo? at hbelow
  split at hbelow
  · obtain rfl := Option.some.inj hbelow
    have hproper : ∀ n ∈ p.names.drop top.names.length, Path.IsProper n :=
      fun n hn => h.proper n (List.mem_of_mem_drop hn)
    obtain ⟨hne, hsource⟩ := isSourcePath_of_mem_discover hproper (htext ▸ h.found)
    have hname : (⟨.relative, p.names.drop top.names.length⟩ : Path).name = p.name := by
      rw [ne_eq, List.drop_eq_nil_iff] at hne
      rw [Path.name, Path.name, List.getLast?_drop, if_neg hne]
    unfold isSourcePath Path.suffix at hsource ⊢
    rw [hname] at hsource
    exact hsource
  · cases hbelow

/-- Modules of the graph start in place. -/
theorem mem_keys_seedsOf_indexed {g : Graph} {r : Resolver} {changed : List ModuleId}
    (h : ∀ id ∈ changed, g.contains id = true) (m : ModuleId) :
    m ∈ (seedsOf g r changed).keys ↔ m ∈ changed := by
  rw [mem_keys_seedsOf]
  constructor
  · intro hx
    obtain ⟨id, hid, e, he, rfl⟩ := hx
    rw [startsOf, if_pos (h id hid), List.mem_singleton] at he
    exact he ▸ hid
  · intro hm
    refine ⟨m, hm, (m, 0), ?_, rfl⟩
    rw [startsOf, if_pos (h m hm)]
    exact List.mem_singleton_self _

/-! ### Small projects -/

/-- A module and its test. -/
def ring : Workspace := ofProject [("b.py", .file []), ("test_b.py", .file [])]

/-- The two import each other. -/
def readRing : SourceReader := fun _ id =>
  .ok [if id = "b.py" then ⟨"test_b", 0, [], "b.py", 1⟩ else ⟨"b", 0, [], "test_b.py", 1⟩]

/-! ### Whole analyses -/

/-- For paths of modules that are there, or may be missing, the modules that change are theirs. -/
theorem analyze_eq_analyzeModules {config : Config} {read : SourceReader} {paths : List Path}
    {allowMissing : Bool} (hroot : w.analysisRoot root = .ok top) (hsome : paths ≠ [])
    (hindexed : ∀ p ∈ paths, ∃ id, w.Indexed top config.excluded p id)
    (hpresent : allowMissing = true ∨ ∀ p ∈ paths, w.isPresent p = true) :
    ∃ changed, (∀ c, c ∈ changed ↔ ∃ p ∈ paths, w.Indexed top config.excluded p c) ∧
      w.analyze root config read paths allowMissing = w.analyzeModules top config read changed [] := by
  have hsources : partitionSources paths = (paths, []) :=
    partitionSources_of_sources fun p hp => (hindexed p hp).elim fun _ h => h.isSource
  obtain ⟨m, hm, hchanged⟩ := changedModules_ok
    (fun p hp => (hindexed p hp).imp fun _ h => h.below) hpresent
  have hstart : ∀ c, c ∈ m.changed ↔ ∃ p ∈ paths, w.Indexed top config.excluded p c := by
    intro c
    rw [hchanged]
    refine exists_congr fun p => and_congr_right fun hp => ⟨fun hc => ?_, fun h => h.below⟩
    obtain ⟨id, hid⟩ := hindexed p hp
    exact Option.some.inj (hid.below.symm.trans hc) ▸ hid
  have hne : m.changed ≠ [] := by
    obtain ⟨p, hp⟩ := List.exists_mem_of_ne_nil _ hsome
    obtain ⟨id, hid⟩ := hindexed p hp
    exact List.ne_nil_of_mem ((hstart id).mpr ⟨p, hp, hid⟩)
  have htaken := (changesIn_eq_ok_iff (resolve_analysisRoot hroot)).mpr hm
  refine ⟨m.changed, hstart, ?_⟩
  unfold analyze
  rw [hroot]
  simp only [bind, Except.bind, hsources, List.map_nil, htaken, Except.mapError, if_neg hne]

/-- An analysis without limits succeeds, and selects all affected tests. -/
theorem analyzeModules_unlimited (w : Workspace) (top : Path) {config : Config} (read : SourceReader)
    (hlimit : config.distanceLimit = none) (hmax : config.maxCount = none) (horder : config.order = "path")
    (changed : List ModuleId) (dropped : List String) :
    let scan := w.scan top ⟨config.excluded, read, config.ignoreExternal⟩
    ∃ report, w.analyzeModules top config read changed dropped = .ok report ∧
      report.selection.tests = affectedTests scan.graph
        (impactOf scan.graph (seedsOf scan.graph scan.resolver changed) none) changed .path := by
  intro scan
  have horder' : Order.ofText? config.order = some .path := by
    rw [horder]
    decide
  unfold analyzeModules selectTests?
  rw [hlimit, hmax, horder']
  exact ⟨_, rfl, rfl⟩

/-- Tests are affected if a chain of imports leads from them to a module that has changed. -/
theorem mem_affectedTests_scan {o : ScanOptions} {changed : List ModuleId} {order : Order}
    (hfound : ∀ c ∈ changed, c ∈ w.discover top o.excluded) (t : ModuleId) :
    t ∈ (affectedTests (w.scan top o).graph
        (impactOf (w.scan top o).graph (seedsOf (w.scan top o).graph (w.scan top o).resolver changed) none)
        changed order).map (·.path) ↔
      t ∈ w.discover top o.excluded ∧ isTestFile t = true ∧
        ∃ c ∈ changed, Relation.ReflTransGen (w.Imports top o.excluded o.read) t c := by
  have hknown : ∀ c ∈ changed, (w.scan top o).graph.contains c = true := fun c hc =>
    (contains_scan c).mpr (hfound c hc)
  rw [mem_affectedTests, mem_keys_impactOf _ (seedsOf_near _ _ _), contains_scan]
  simp only [mem_keys_seedsOf_indexed hknown, exists_walk_iff]
  exact and_comm.trans and_assoc

/-- **An analysis without limits selects exactly the tests from which a chain of imports leads to a
change**, in ascending order. -/
theorem analysis_selects_tests_of_changes (w : Workspace) {root top : Path} (config : Config)
    (read : SourceReader) (paths : List Path) (allowMissing : Bool)
    (hroot : w.analysisRoot root = .ok top) (hlimit : config.distanceLimit = none)
    (hmax : config.maxCount = none) (horder : config.order = "path") (hsome : paths ≠ [])
    (hindexed : ∀ p ∈ paths, ∃ id, w.Indexed top config.excluded p id)
    (hpresent : allowMissing = true ∨ ∀ p ∈ paths, w.isPresent p = true) :
    ∃ report, w.analyze root config read paths allowMissing = .ok report ∧
      report.selection.paths.Pairwise (· < ·) ∧
      ∀ t, t ∈ report.selection.paths ↔
        t ∈ w.discover top config.excluded ∧ isTestFile t = true ∧
        ∃ p ∈ paths, ∃ c, w.Indexed top config.excluded p c ∧
          Relation.ReflTransGen (w.Imports top config.excluded read) t c := by
  obtain ⟨changed, hchanged, hrun⟩ := analyze_eq_analyzeModules hroot hsome hindexed hpresent
  obtain ⟨report, hreport, htests⟩ := w.analyzeModules_unlimited top read hlimit hmax horder changed []
  have hfound : ∀ c ∈ changed, c ∈ w.discover top config.excluded := by
    intro c hc
    obtain ⟨_, _, h⟩ := (hchanged c).mp hc
    exact h.found
  refine ⟨report, hrun.trans hreport, ?_, fun t => ?_⟩
  · rw [Selection.paths, htests]
    exact affectedTests_ascending ..
  · rw [Selection.paths, htests, mem_affectedTests_scan hfound]
    refine and_congr_right fun _ => and_congr_right fun _ => ?_
    constructor
    · intro h
      obtain ⟨c, hc, hchain⟩ := h
      obtain ⟨p, hp, hid⟩ := (hchanged c).mp hc
      exact ⟨p, hp, c, hid, hchain⟩
    · intro h
      obtain ⟨p, hp, c, hid, hchain⟩ := h
      exact ⟨c, (hchanged c).mpr ⟨p, hp, hid⟩, hchain⟩

/-- A change to the module of a ring selects its test. -/
theorem analysis_selects_test_of_ring :
    let top : Path := ⟨.root, ["project"]⟩
    let changed : Path := ⟨.root, ["project", "b.py"]⟩
    ring.analysisRoot top = .ok top ∧ (Config.default 1).distanceLimit = none ∧
      (Config.default 1).maxCount = none ∧ (Config.default 1).order = "path" ∧
      ring.Indexed top (Config.default 1).excluded changed "b.py" ∧ ring.isPresent changed = true ∧
      ∃ report, ring.analyze top (Config.default 1) readRing [changed] false = .ok report ∧
        "test_b.py" ∈ report.selection.paths := by
  intro top changed
  have hroot : ring.analysisRoot top = .ok top := by cbv
  have hfound : ring.discover top (Config.default 1).excluded = ["b.py", "test_b.py"] := by cbv
  have hpresent : ring.isPresent changed = true := by cbv
  have hindexed : ring.Indexed top (Config.default 1).excluded changed "b.py" :=
    ⟨by decide, by decide, by rw [hfound]; decide⟩
  have himports : ring.Imports top (Config.default 1).excluded readRing "test_b.py" "b.py" := by
    have hanchor : Resolver.anchor? ⟨"b", 0, [], "test_b.py", 1⟩ = some [] := by decide
    have hlookup : (Resolver.ofModules ["b.py", "test_b.py"]).lookup ["b"] = some "b.py" := by
      rw [Resolver.lookup_eq _ (by simp), if_pos]
      · decide
      · exact (Resolver.contains_ofModules ..).mpr (by decide)
    unfold Imports
    rw [hfound]
    refine ⟨by decide, _, by cbv, _, List.mem_singleton_self _, ?_⟩
    exact (Resolver.mem_targets_resolve hanchor _).mpr
      (.inr ⟨.inl rfl, by decide, Resolver.lookupTrimmed_of_lookup (by decide) hlookup⟩)
  refine ⟨hroot, rfl, rfl, rfl, hindexed, hpresent, ?_⟩
  obtain ⟨report, hreport, _, hselected⟩ :=
    analysis_selects_tests_of_changes ring (Config.default 1) readRing [changed] false hroot rfl rfl rfl
      (by simp) (by simpa using ⟨_, hindexed⟩) (.inr (by simpa using hpresent))
  refine ⟨report, hreport, (hselected "test_b.py").mpr ⟨by rw [hfound]; decide, by decide, changed, ?_⟩⟩
  exact ⟨List.mem_singleton_self _, _, hindexed, .single himports⟩

/-- A test that is a link to nothing is found, but a change to it is refused. -/
theorem broken_link_is_found_and_refused :
    let top : Path := ⟨.root, ["project"]⟩
    let changed : Path := ⟨.root, ["project", "test_a.py"]⟩
    let w := ofProject [("test_a.py", .link "nowhere")]
    w.analysisRoot top = .ok top ∧ (Config.default 1).distanceLimit = none ∧
      (Config.default 1).maxCount = none ∧ (Config.default 1).order = "path" ∧
      w.Indexed top (Config.default 1).excluded changed "test_a.py" ∧ isTestFile "test_a.py" = true ∧
      w.analyze top (Config.default 1) (fun _ _ => .ok []) [changed] false =
        .error (.input (.absent changed)) := by
  intro top changed w
  have hfound : w.discover top (Config.default 1).excluded = ["test_a.py"] := by cbv
  refine ⟨by cbv, rfl, rfl, rfl, ⟨by decide, by decide, ?_⟩, by decide, by cbv⟩
  rw [hfound]
  decide

end Ripple.Workspace
