import Ripple.Proofs.Impact.Extent
import Ripple.Proofs.Project.Building
import Ripple.Proofs.Project.Changes
import Ripple.Proofs.Project.Stages
import Ripple.Proofs.Selection

/-! What a report accounts for.

Whatever an analysis leaves out it tells: what is no source, what it does not know, what lies beyond the limit
and what the cap cuts off. A notice of a setting is there exactly if the setting left something out (`Notices`),
so a report without notices has all impacted tests. Modules that are reported as impacted are modules of the
project, since nothing leads out of the graph of a scan (`closed_scan`). -/
namespace Ripple

/-- The log holds the one notice of a setting if that left something out, and otherwise nothing. -/
structure Notices (log : DiagnosticLog) (setting : Option Int) (tell : Int → Diagnostic) (leavesOut : Int → Prop) :
    Prop where
  told : ∀ n ∈ setting, leavesOut n → log = [tell n]
  silent : (∀ n ∈ setting, ¬leavesOut n) → log = []

theorem notices_truncation (g : Graph) {seeds : Distances} (hn : IsNear seeds) (limit : Option Int) :
    Notices (truncation (impactOf g seeds limit) limit) limit stoppedAt (LeavesOut g seeds) where
  told n hlimit hout := by
    rw [truncation, if_pos ((truncated_impactOf_iff hn limit).mpr ⟨n, hlimit, hout⟩), Option.mem_def.mp hlimit]
    rfl
  silent hnone := by
    rw [truncation, if_neg]
    intro htruncated
    obtain ⟨n, hlimit, hout⟩ := (truncated_impactOf_iff hn limit).mp htruncated
    exact hnone n hlimit hout

/-! ### The cap -/

section Cap
variable {max : Option Int} (hmax : ∀ n ∈ max, 0 ≤ n) (tests : List SelectedTest)
include hmax

theorem notices_cap : Notices (cap (max.map Int.toNat) tests).2 max (fun n => cappedAt n.toNat tests.length)
    (· < tests.length) := by
  rcases cap_cases hmax tests with ⟨n, rfl, hlt, hcap⟩ | ⟨hall, hcap⟩
  · rw [hcap]
    exact ⟨fun k hk _ => by rw [Option.mem_some.mp hk], fun hnone => absurd hlt (hnone n rfl)⟩
  · rw [hcap]
    exact ⟨fun n hn hlt => absurd hlt (Int.not_lt.mpr (hall n hn)), fun _ => rfl⟩

theorem total_cap : (cap (max.map Int.toNat) tests).1.total = tests.length := by
  rcases cap_cases hmax tests with ⟨n, _, _, hcap⟩ | ⟨_, hcap⟩ <;> rw [hcap]

theorem mem_of_mem_cap {t : SelectedTest} (h : t ∈ (cap (max.map Int.toNat) tests).1.tests) : t ∈ tests := by
  rcases cap_cases hmax tests with ⟨n, _, _, hcap⟩ | ⟨_, hcap⟩
  · rw [hcap] at h
    exact List.mem_of_mem_take h
  · rwa [hcap] at h

/-- Without a notice all tests are listed, and with one as many as the cap allows. -/
theorem excluded_cap :
    ((cap (max.map Int.toNat) tests).2 = [] → (cap (max.map Int.toNat) tests).1.excluded = 0) ∧
      ((cap (max.map Int.toNat) tests).2 ≠ [] →
        max = some ((cap (max.map Int.toNat) tests).1.tests.length : Int)) := by
  rcases cap_cases hmax tests with ⟨n, rfl, hlt, hcap⟩ | ⟨_, hcap⟩
  · have hn := hmax n rfl
    rw [hcap]
    refine ⟨by simp, fun _ => ?_⟩
    rw [List.length_take, Option.some.injEq]
    omega
  · rw [hcap]
    simp [Selection.excluded]

end Cap

namespace Workspace
variable {w : Workspace} {root top : Path} {config : Config} {read : SourceReader}

/-- Nothing leads out of a project. -/
theorem closed_scan (w : Workspace) (root : Path) (o : ScanOptions) : (w.scan root o).graph.Closed where
  dependents a b ha := (contains_scan a).mpr ((mem_dependents_scan a b).mp ha).2.1
  importers a _ ha := (contains_scan a).mpr ((w.scanned_scan root o).mem_danglingImporters.mp ha).1

/-- A scan tells of parse errors and unresolved imports. -/
theorem kind_of_mem_scan {o : ScanOptions} {d : Diagnostic} (hd : d ∈ (w.scan root o).diagnostics) :
    d.kind = .parseError ∨ d.kind = .unresolvedImport := by
  obtain ⟨s, hs, hd⟩ := List.mem_flatMap.mp hd
  have hreports := scans_report s hs
  cases hparsed : s.parsed with
  | true => exact .inr (hreports.parsed hparsed d hd)
  | false =>
    obtain ⟨e, he, hkind⟩ := hreports.failed hparsed
    rw [he, List.mem_singleton] at hd
    exact .inl (hd ▸ hkind)

/-- A test that is listed is one of the project, and has been reached within the limit. -/
theorem of_mem_selectionFor (hmax : ∀ n ∈ config.maxCount, 0 ≤ n) {changed : List ModuleId} {order : Order}
    {t : SelectedTest} (ht : t ∈ (w.selectionFor top config read changed order).1.tests) :
    t.path ∈ w.discover top config.excluded ∧ isTestFile t.path = true ∧
      (w.impactFor top config read changed).distances.get? t.path = some t.distance ∧
      ∀ n ∈ config.distanceLimit, t.distance ≤ n := by
  have haffected := mem_of_mem_cap hmax _ ht
  obtain ⟨hdistance, _⟩ := get?_of_mem_affectedTests haffected
  obtain ⟨_, hknown, htest⟩ := (mem_affectedTests ..).mp (List.mem_map_of_mem (f := (·.path)) haffected)
  refine ⟨(contains_scan t.path).mp hknown, htest, hdistance, fun n hn => ?_⟩
  obtain ⟨_, hwithin⟩ := (get?_impactOf_limit (seedsOf_near _ _ _) _ _ _).mp hdistance
  rw [Option.mem_def.mp hn] at hwithin
  exact Int.not_lt.mp (of_decide_eq_false hwithin)

/-- A report that was not skipped comes from the modules that the paths stand for. -/
theorem exists_reportFor {paths : List Path} {allowMissing : Bool} {report : Report}
    (hrun : w.analyze root config read paths allowMissing = .ok report) (hscanned : report.skipped = false) :
    (∀ n ∈ config.distanceLimit, 0 ≤ n) ∧ (∀ n ∈ config.maxCount, 0 ≤ n) ∧
    ∃ top order, w.analysisRoot root = .ok top ∧
      report = w.reportFor top config read ((paths.filter isSourcePath).filterMap (moduleAt? top)).eraseDups
        ((paths.filter fun p => !isSourcePath p).map Path.text) order := by
  rw [analyze_eq, bind_eq_ok_iff] at hrun
  obtain ⟨i, hi, hrun⟩ := hrun
  split at hrun
  · cases hrun
    cases hscanned
  · obtain ⟨hlimit, hmax, order, _, rfl⟩ := (analyzeModules_eq_ok_iff ..).mp hrun
    obtain ⟨top, hroot, hi⟩ := bind_eq_ok_iff.mp hi
    obtain ⟨m, hm, rfl⟩ := map_eq_ok_iff.mp hi
    refine ⟨hlimit, hmax, top, order, hroot, ?_⟩
    rw [changed_changedModules (mapError_eq_ok_iff.mp hm)]

/-- **A report accounts for everything that it leaves out.** Its diagnostics are what is no source, what the scan
has to say, what the scan does not know, and a notice for each of the limit and the cap exactly if it left
something out. Impacted modules are modules of the project, and every test listed is an impacted one within the
limit; without a notice of the cap they are all listed, and with one as many as it allows. -/
theorem report_accounts_for_what_it_leaves_out (w : Workspace) {root : Path} {config : Config}
    {read : SourceReader} {paths : List Path} {allowMissing : Bool} {report : Report}
    (hrun : w.analyze root config read paths allowMissing = .ok report) (hscanned : report.skipped = false) :
    let scan := w.scan report.root ⟨config.excluded, read, config.ignoreExternal⟩
    let seeds := seedsOf scan.graph scan.resolver report.changed
    w.analysisRoot root = .ok report.root ∧
    report.changed = ((paths.filter isSourcePath).filterMap (moduleAt? report.root)).eraseDups ∧
    ∃ impact stopped capped, impactOf? scan.graph seeds config.distanceLimit = .ok impact ∧
      let impactedTests := (impact.distances.keys.filter isTestFile).length
      report.diagnostics =
        (paths.filter fun p => !isSourcePath p).map (fun p => ignoredChange p.text) ++ scan.diagnostics ++
          (report.changed.filter fun id => !scan.graph.contains id).map (missingChange scan.resolver) ++
          stopped ++ capped ∧
      (∀ d ∈ scan.diagnostics, d.kind = .parseError ∨ d.kind = .unresolvedImport) ∧
      Notices stopped config.distanceLimit stoppedAt (LeavesOut scan.graph seeds) ∧
      Notices capped config.maxCount (fun n => cappedAt n.toNat impactedTests) (· < impactedTests) ∧
      (∀ m, impact.contains m = true → m ∈ scan.graph.modules) ∧
      report.stats = some ⟨scan.graph.stats, impact.size⟩ ∧ impact.size ≤ scan.graph.stats.modules ∧
      (∀ t ∈ report.selection.tests,
        t.path ∈ w.discover report.root config.excluded ∧ isTestFile t.path = true ∧
          impact.distances.get? t.path = some t.distance ∧ ∀ n ∈ config.distanceLimit, t.distance ≤ n) ∧
      report.selection.total = impactedTests ∧
      (capped = [] → report.selection.excluded = 0) ∧
      (capped ≠ [] → config.maxCount = some (report.selection.tests.length : Int)) := by
  obtain ⟨hlimit, hmax, top, order, hroot, rfl⟩ := exists_reportFor hrun hscanned
  intro scan seeds
  have hclosed : scan.graph.Closed := w.closed_scan top _
  let changed := ((paths.filter isSourcePath).filterMap (moduleAt? top)).eraseDups
  let impact := w.impactFor top config read changed
  let tests := affectedTests scan.graph impact changed order
  have hcontains : ∀ m ∈ impact.distances.keys, scan.graph.contains m = true := fun m => hclosed.contains_impact
  have hlength : tests.length = (impact.distances.keys.filter isTestFile).length :=
    length_affectedTests hcontains changed order
  refine ⟨hroot, rfl, impact, truncation impact config.distanceLimit, (cap (config.maxCount.map Int.toNat) tests).2,
    impactOf?_ok _ _ hlimit, ?_, fun d => kind_of_mem_scan,
    notices_truncation scan.graph (seedsOf_near _ _ _) config.distanceLimit, ?_, ?_,
    rfl, hclosed.size_impact_le .., fun t => of_mem_selectionFor hmax, ?_, excluded_cap hmax tests⟩
  · simp only [reportFor, List.map_map]
    rfl
  · exact hlength ▸ notices_cap hmax tests
  · exact fun m hm => (OrderedMap.contains_iff ..).mp (hcontains m ((OrderedMap.contains_iff ..).mp hm))
  · exact (total_cap hmax tests).trans hlength

/-- Two tests, a module that is gone and a text have changed, and one test may be listed. -/
theorem report_accounts_for_capped_test :
    let w := ofProject [("test_a.py", .file []), ("test_b.py", .file [])]
    let top : Path := ⟨.root, ["project"]⟩
    let config := { Config.default 1 with maxCount := some 1 }
    let paths := ["notes.txt", "test_a.py", "gone.py", "test_b.py"].map top.child
    ∃ report, w.analyze top config (fun _ _ => .ok []) paths true = .ok report ∧ report.skipped = false ∧
      ignoredChange "/project/notes.txt" ∈ report.diagnostics ∧ cappedAt 1 2 ∈ report.diagnostics ∧
      report.selection.total = 2 ∧ report.selection.tests.length = 1 := by
  intro w top config paths
  have hintake : w.intake top paths true =
      .ok ⟨top, ["test_a.py", "gone.py", "test_b.py"], ["/project/notes.txt"]⟩ := by cbv
  have horder : Order.ofText? config.order = some .path := by decide
  have hrun : w.analyze top config (fun _ _ => .ok []) paths true = .ok (w.reportFor top config (fun _ _ => .ok [])
      ["test_a.py", "gone.py", "test_b.py"] ["/project/notes.txt"] .path) := by
    rw [analyze_eq, hintake]
    simp only [Except.bind]
    rw [if_neg (by decide)]
    exact (analyzeModules_eq_ok_iff ..).mpr ⟨by simp [config, Config.default], by simp [config], .path, horder, rfl⟩
  obtain ⟨_, _, impact, stopped, capped, himpact, hdiagnostics, _, _, hcapped, _, _, _, _, htotal, _, hlisted⟩ :=
    report_accounts_for_what_it_leaves_out w hrun rfl
  have htests : (impact.distances.keys.filter isTestFile).length = 2 := by
    -- named, so that evaluating it does not evaluate the report it stands in
    have hreached : impact = w.impactFor top config (fun _ _ => .ok []) ["test_a.py", "gone.py", "test_b.py"] :=
      (impactOf?_eq_ok_iff.mp himpact).2
    rw [hreached]
    cbv
  rw [htests] at htotal hcapped
  have hcap : capped = [cappedAt 1 2] := hcapped.told 1 rfl (by decide)
  refine ⟨_, hrun, rfl, ?_, ?_, htotal, ?_⟩
  · rw [hdiagnostics]
    simp only [List.append_assoc]
    exact List.mem_append_left _ (List.mem_map.mpr ⟨top.child "notes.txt", by decide, rfl⟩)
  · rw [hdiagnostics, hcap]
    exact List.mem_append_right _ (List.mem_singleton_self _)
  · exact Int.ofNat.inj (Option.some.inj (hlisted (by simp [hcap]))).symm

end Workspace

end Ripple
