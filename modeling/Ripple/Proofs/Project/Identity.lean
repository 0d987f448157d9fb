import Ripple.Proofs.Files.Canonical
import Ripple.Proofs.Project.Accounting
import Ripple.Proofs.Project.Pruning

/-! One name for each source file.

The walk through a project and the intake of changes name source files on their own, one on the way down through
the folders and the other from the path that is given. For files under canonical paths they agree: the intake
finds every one of them (`changedModules_of_sources`), and the walk finds those that are in no excluded folder
(`Stored.mem_discover_iff`). So a changed file is told to be unknown exactly if it is in an excluded folder, and
any other starts in place (`changes_are_known_unless_excluded`). -/
namespace Ripple

namespace Workspace
variable {w : Workspace} {top p : Path}

/-! ### Source files and their names -/

/-- A source file under its canonical path, somewhere below `top`. -/
structure SourceBelow (w : Workspace) (top p : Path) : Prop where
  canonical : w.files.canonical? p = some p
  file : w.isFile p = true
  source : isSourcePath p = true
  anchor : p.anchor = top.anchor
  below : ∃ names, names ≠ [] ∧ p.names = top.names ++ names

/-- The module that a path below `top` stands for. -/
def idBelow (top p : Path) : ModuleId := Text.join "/" (p.names.drop top.names.length)

/-- Where a source file is: the tree below `top` stores it under its folders and its name. -/
structure Stored (w : Workspace) (top p : Path) (t : FileTree) (folders : List String) (name : String) : Prop where
  names : p.names = top.names ++ (folders ++ [name])
  proper : ∀ n ∈ folders ++ [name], Path.IsProper n
  source : isSourceName name = true
  top : w.files.find top = .ok t
  file : ∃ bytes, t.stored? (folders ++ [name]) = some (.file bytes)

theorem SourceBelow.stored (hfiles : w.files.WellFormed) (h : w.SourceBelow top p) :
    ∃ t folders name, w.Stored top p t folders name := by
  obtain ⟨hroot, hdirect⟩ := FileTree.direct_of_canonical h.canonical
  obtain ⟨below, hne, hnames⟩ := h.below
  obtain ⟨folders, name, rfl⟩ := below.eq_nil_or_concat'.resolve_left hne
  have htopRoot : top = ⟨.root, top.names⟩ := by rw [← hroot, h.anchor]
  have hjoin : w.cwd / p = ⟨.root, p.names⟩ := by
    have habsolute : p.isAbsolute = true := by rw [Path.isAbsolute, hroot]; rfl
    rw [Path.div_of_absolute habsolute, ← hroot]
  obtain ⟨found, hfound⟩ := hdirect.stored
  obtain ⟨bytes, hbytes⟩ := FileTree.isFileAt_iff.mp h.file
  rw [hjoin, FileTree.find_of_direct hdirect hfound] at hbytes
  obtain rfl := Except.ok.inj hbytes
  rw [hnames] at hdirect hfound
  obtain ⟨t, htop⟩ := hdirect.of_append.stored
  rw [FileTree.stored?_append, htop] at hfound
  refine ⟨t, folders, name, hnames, ?_, ?_, ?_, ?_⟩
  · exact (hfiles.stored? htop).proper_stored? hfound
  · have hproper := (hfiles.stored? htop).proper_stored? hfound name (by simp)
    have hname : (Path.parse name).name = p.name := by
      rw [Path.parse_of_proper hproper, Path.name, Path.name, hnames, ← List.append_assoc, List.getLast?_concat]
      rfl
    have hsource := h.source
    unfold isSourcePath Path.suffix at hsource
    unfold isSourceName isSourcePath Path.suffix
    rwa [hname]
  · rw [htopRoot]
    exact FileTree.find_of_direct hdirect.of_append htop
  · exact ⟨bytes, hfound⟩

section Stored
variable {t : FileTree} {folders : List String} {name : String} (h : w.Stored top p t folders name)
include h

theorem Stored.idBelow_eq : idBelow top p = Text.join "/" (folders ++ [name]) := by
  rw [idBelow, h.names, List.drop_left]

theorem Stored.foldersOf_eq : foldersOf (idBelow top p) = folders := by
  rw [h.idBelow_eq, foldersOf_join h.proper]

/-- A stored source file is found unless one of its folders is excluded. -/
theorem Stored.mem_discover_iff (hfiles : w.files.WellFormed) {start : Path}
    (hstart : w.files.find (w.cwd / start) = w.files.find top) (excluded : List String) :
    idBelow top p ∈ w.discover start excluded ↔
      isUnderExcluded excluded (idBelow top p) = false := by
  obtain ⟨bytes, hfile⟩ := h.file
  have hentry : w.PlainEntry start (folders ++ [name]) :=
    ⟨t, .file bytes, hstart.trans h.top, hfile, .file bytes⟩
  rw [isUnderExcluded_eq_false_iff, h.foldersOf_eq, h.idBelow_eq, join_mem_discover_iff hfiles excluded h.proper]
  exact ⟨fun hfound => hfound.2.2, fun hkept => ⟨hentry, h.source, hkept⟩⟩

theorem Stored.relativeTo (hanchor : p.anchor = top.anchor) :
    p.relativeTo? top = some ⟨.relative, folders ++ [name]⟩ := by
  have hprefix : top.names.isPrefixOf p.names = true := by simp [h.names]
  rw [Path.relativeTo?, if_pos ⟨hanchor, hprefix⟩, h.names, List.drop_left]

end Stored

theorem SourceBelow.moduleAt (hfiles : w.files.WellFormed) (h : w.SourceBelow top p) :
    moduleAt? top p = some (idBelow top p) := by
  obtain ⟨t, folders, name, hstored⟩ := h.stored hfiles
  rw [moduleAt?, hstored.relativeTo h.anchor, Option.map_some, Path.text_relative (by simp), hstored.idBelow_eq]

/-- The root above a source file is told by its names, wherever it is seen from. -/
theorem SourceBelow.find_top (h : w.SourceBelow top p) : w.files.find (w.cwd / top) = w.files.find top := by
  have hroot := (FileTree.direct_of_canonical h.canonical).1
  have habsolute : top.isAbsolute = true := by
    rw [Path.isAbsolute, ← h.anchor, hroot]
    rfl
  rw [Path.div_of_absolute habsolute]

/-- The root above a source file is its own canonical path. -/
theorem SourceBelow.resolve_top (h : w.SourceBelow top p) : w.resolve top = some top := by
  obtain ⟨names, _, hnames⟩ := h.below
  exact resolve_of_prefix h.canonical h.anchor.symm ⟨names, hnames.symm⟩

/-! ### The intake -/

/-- Where every path is there, nothing is missing. -/
theorem missing_foldlM_addChanged {root : Path} {paths : List Path} {allowMissing : Bool} {m m' : ChangedModules}
    (hpresent : ∀ p ∈ paths, w.isPresent p = true)
    (h : paths.foldlM (w.addChanged root allowMissing) m = .ok m') : m'.missing = m.missing := by
  induction paths generalizing m with
  | nil =>
    cases h
    rfl
  | cons p rest ih =>
    rw [List.foldlM_cons] at h
    obtain ⟨next, hadd, h⟩ := bind_eq_ok_iff.mp h
    have hnext : next.missing = m.missing := by
      unfold addChanged at hadd
      split at hadd
      · cases hadd
      · simp only [hpresent p (List.mem_cons_self ..), Bool.not_true, Bool.false_and, Bool.false_eq_true,
          if_false, if_true] at hadd
        cases hadd
        rfl
    rw [ih (fun q hq => hpresent q (List.mem_cons_of_mem _ hq)) h, hnext]

/-- **Source files below the root are changed modules**, each once and in the order of the paths; none is missing. -/
theorem changedModules_of_sources {paths : List Path} (hfiles : w.files.WellFormed)
    (hpaths : ∀ p ∈ paths, w.SourceBelow top p) (allowMissing : Bool) :
    w.changedModules top paths allowMissing = .ok ⟨(paths.map (idBelow top)).eraseDups, []⟩ := by
  have hpresent : ∀ p ∈ paths, w.isPresent p = true := fun p hp => isPresent_of_isFile (hpaths p hp).file
  have hbelow : ∀ p ∈ paths, ∃ id, moduleAt? top p = some id := fun p hp => ⟨_, (hpaths p hp).moduleAt hfiles⟩
  obtain ⟨m, hm, _⟩ : ∃ m, w.changedModules top paths allowMissing = .ok m ∧ _ :=
    changedModules_ok hbelow (.inr hpresent)
  have hids : paths.filterMap (moduleAt? top) = paths.map (idBelow top) := by
    rw [← List.filterMap_eq_map]
    exact List.filterMap_congr fun p hp => (hpaths p hp).moduleAt hfiles
  have hchanged : m.changed = (paths.map (idBelow top)).eraseDups := by
    rw [changed_changedModules hm, hids]
  have hmissing : m.missing = [] := missing_foldlM_addChanged hpresent hm
  rw [hm, ← hchanged, ← hmissing]

theorem intake_of_sources {root : Path} {paths : List Path} {allowMissing : Bool} {m : ChangedModules}
    (hroot : w.analysisRoot root = .ok top) (hsource : ∀ p ∈ paths, isSourcePath p = true)
    (hm : w.changedModules top paths allowMissing = .ok m) :
    w.intake root paths allowMissing = .ok ⟨top, m.changed, []⟩ := by
  have hsources : paths.filter isSourcePath = paths := List.filter_eq_self.mpr hsource
  have hothers : paths.filter (fun p => !isSourcePath p) = [] :=
    List.filter_eq_nil_iff.mpr fun p hp => by simp [hsource p hp]
  simp only [intake, hroot, hsources, hothers, Except.bind, hm, Except.mapError, Except.map, List.map_nil]

/-! ### The run -/

/-- Of what a report tells, the modules that the scan does not know are the missing changes. -/
theorem missing_reportFor {config : Config} {read : SourceReader} {changed : List ModuleId} {dropped : List String}
    {order : Order} :
    (w.reportFor top config read changed dropped order).diagnostics.ofKind .missingChangedFile =
      w.missingFor top config read changed := by
  have hwarns : ∀ log : DiagnosticLog, log.ofKind .missingChangedFile = log.warnings.ofKind .missingChangedFile := by
    intro log
    rw [DiagnosticLog.ofKind, DiagnosticLog.ofKind, DiagnosticLog.warnings, List.filter_filter]
    refine List.filter_congr fun d _ => ?_
    by_cases hkind : d.kind = .missingChangedFile
    · simp [hkind, d.isWarning_iff.mpr (.inr (.inr hkind))]
    · simp [hkind]
  have hscan : (w.scanFor top config read).diagnostics.ofKind .missingChangedFile = [] := by
    refine List.filter_eq_nil_iff.mpr fun d hd => ?_
    rcases kind_of_mem_scan hd with hkind | hkind <;> simp [hkind]
  have hmissing : (w.missingFor top config read changed).ofKind .missingChangedFile =
      w.missingFor top config read changed := by
    refine List.filter_eq_self.mpr fun d hd => ?_
    obtain ⟨_, _, rfl⟩ := List.mem_map.mp hd
    rfl
  rw [hwarns, warnings_reportFor, DiagnosticLog.ofKind, List.filter_append]
  exact (congrArg₂ (· ++ ·) (hwarns _).symm (hwarns _).symm).trans (by rw [hscan, hmissing, List.nil_append])

/-- A changed module of the project starts in place. -/
theorem get?_seedsOf_known {g : Graph} {r : Resolver} {changed : List ModuleId} {id : ModuleId}
    (hid : id ∈ changed) (hknown : g.contains id = true) : (seedsOf g r changed).get? id = some 0 := by
  have hstarts : (id, (0 : Int)) ∈ startsOf g r id := by
    rw [startsOf, if_pos hknown]
    exact List.mem_singleton_self _
  obtain ⟨k, hk, hget⟩ := get?_seedsOf_le hid hstarts
  have hnear := seedsOf_near g r changed (id, k) ((OrderedMap.get?_eq_some_iff ..).mp hget)
  have hzero : k = 0 := by
    simp only at hnear
    omega
  rw [hget, hzero]

/-- **A changed file is known to an analysis unless it is in an excluded folder.** However the root is written, the
intake takes source files below it for their modules, each once and in their order, and misses none of them. A walk
through the project finds such a module exactly if none of its folders is excluded; so those in excluded folders are
told to be unknown, and all others start in place. -/
theorem changes_are_known_unless_excluded {w : Workspace} (hfiles : w.files.WellFormed) {top : Path}
    {paths : List Path} (hpaths : ∀ p ∈ paths, w.SourceBelow top p) (allowMissing : Bool) :
    let changed := (paths.map (idBelow top)).eraseDups
    (∀ root, w.resolve root = some top → w.changesIn root paths allowMissing = .ok ⟨changed, []⟩) ∧
    (paths ≠ [] → w.resolve top = some top) ∧
    (∀ start excluded, w.files.find (w.cwd / start) = w.files.find top →
      ∀ id ∈ changed, id ∈ w.discover start excluded ↔ ∀ folder ∈ foldersOf id, folder ∉ excluded) ∧
    ∀ root (config : Config) read, w.analysisRoot root = .ok top → (∀ n ∈ config.distanceLimit, 0 ≤ n) →
      (∀ n ∈ config.maxCount, 0 ≤ n) → (∃ order, Order.ofText? config.order = some order) →
      let scan := w.scan top ⟨config.excluded, read, config.ignoreExternal⟩
      ∃ report, w.analyze root config read paths allowMissing = .ok report ∧ report.changed = changed ∧
        report.diagnostics.ofKind .missingChangedFile =
          (changed.filter (isUnderExcluded config.excluded)).map (missingChange scan.resolver) ∧
        ∀ id ∈ changed, isUnderExcluded config.excluded id = false →
          (seedsOf scan.graph scan.resolver changed).get? id = some 0 := by
  intro changed
  have hintake : w.changedModules top paths allowMissing = .ok ⟨changed, []⟩ :=
    changedModules_of_sources hfiles hpaths allowMissing
  have hdiscover : ∀ start excluded, w.files.find (w.cwd / start) = w.files.find top →
      ∀ id ∈ changed, id ∈ w.discover start excluded ↔ isUnderExcluded excluded id = false := by
    intro start excluded hstart id hid
    obtain ⟨p, hp, rfl⟩ := List.mem_map.mp (List.mem_eraseDups.mp hid)
    obtain ⟨t, folders, name, hstored⟩ := (hpaths p hp).stored hfiles
    exact hstored.mem_discover_iff hfiles hstart excluded
  refine ⟨fun root hroot => (changesIn_eq_ok_iff hroot).mpr hintake, fun hsome => ?_,
    fun start excluded hstart id hid => ?_, ?_⟩
  · obtain ⟨p, hp⟩ := List.exists_mem_of_ne_nil _ hsome
    exact (hpaths p hp).resolve_top
  · rw [hdiscover start excluded hstart id hid]
    simp [isUnderExcluded]
  · intro root config read hroot hlimit hmax horder scan
    obtain ⟨order, horder⟩ := horder
    have hknown : ∀ id ∈ changed, scan.graph.contains id = true ↔ isUnderExcluded config.excluded id = false := by
      intro id hid
      obtain ⟨p, hp, _⟩ := List.mem_map.mp (List.mem_eraseDups.mp hid)
      rw [contains_scan]
      exact hdiscover top config.excluded ((hpaths p hp).find_top) id hid
    rw [analyze_eq, intake_of_sources hroot (fun p hp => (hpaths p hp).source) hintake, Except.bind]
    simp only
    split
    · next hnone =>
      rw [hnone]
      exact ⟨_, rfl, rfl, rfl, by simp⟩
    · refine ⟨_, (analyzeModules_eq_ok_iff ..).mpr ⟨hlimit, hmax, order, horder, rfl⟩, rfl, ?_, fun id hid hin =>
        get?_seedsOf_known hid ((hknown id hid).mpr hin)⟩
      have hmissing : notIndexed scan.graph changed = changed.filter (isUnderExcluded config.excluded) := by
        refine List.filter_congr fun id hid => ?_
        rw [Bool.eq_iff_iff, Bool.not_eq_true', ← Bool.not_eq_true, hknown id hid, Bool.not_eq_false]
      rw [missing_reportFor, missingFor]
      exact congrArg (List.map (missingChange scan.resolver)) hmissing

/-- Of two changed files the one among built files is unknown; the other is named twice. -/
theorem changes_are_known_unless_built :
    let w := ofProject [("build", .folder [("gen.py", .file [])]), ("pkg", .folder [("a.py", .file [])])]
    let top : Path := ⟨.root, ["project"]⟩
    let config := Config.default 1
    let read : SourceReader := fun _ _ => .ok []
    let paths := [top.child "pkg" |>.child "a.py", top.child "build" |>.child "gen.py",
      top.child "pkg" |>.child "a.py"]
    let scan := w.scan top ⟨config.excluded, read, config.ignoreExternal⟩
    w.files.WellFormed ∧ (∀ p ∈ paths, w.SourceBelow top p) ∧
      w.changesIn top paths false = .ok ⟨["pkg/a.py", "build/gen.py"], []⟩ ∧
      "pkg/a.py" ∈ w.discover top config.excluded ∧ "build/gen.py" ∉ w.discover top config.excluded ∧
      ∃ report, w.analyze top config read paths false = .ok report ∧
        report.changed = ["pkg/a.py", "build/gen.py"] ∧
        report.diagnostics.ofKind .missingChangedFile = [missingChange scan.resolver "build/gen.py"] ∧
        (seedsOf scan.graph scan.resolver report.changed).get? "pkg/a.py" = some 0 := by
  intro w top config read paths scan
  have hfiles : w.files.WellFormed := by
    refine ofProject_wellFormed (.folder (by decide) (by decide) ?_)
    simp only [List.mem_cons, List.not_mem_nil, or_false, forall_eq_or_imp, forall_eq]
    exact ⟨.folder (by decide) (by decide) (by simp [FileTree.WellFormed.file]),
      .folder (by decide) (by decide) (by simp [FileTree.WellFormed.file])⟩
  have hpkg : w.SourceBelow top (top.child "pkg" |>.child "a.py") :=
    ⟨by cbv, by cbv, by decide, rfl, ["pkg", "a.py"], by simp, rfl⟩
  have hbuild : w.SourceBelow top (top.child "build" |>.child "gen.py") :=
    ⟨by cbv, by cbv, by decide, rfl, ["build", "gen.py"], by simp, rfl⟩
  have hpaths : ∀ p ∈ paths, w.SourceBelow top p := by simp [paths, hpkg, hbuild]
  have hids : (paths.map (idBelow top)).eraseDups = ["pkg/a.py", "build/gen.py"] := by cbv
  obtain ⟨hintake, hown, hdiscover, hrun⟩ := changes_are_known_unless_excluded hfiles hpaths false
  have htaken := hintake top (hown (by simp [paths]))
  obtain ⟨report, hreport, hchanged, hmissing, hseeds⟩ := hrun top config read (by cbv)
    (by simp [config, Config.default]) (by simp [config, Config.default]) ⟨.path, by decide⟩
  rw [hids] at htaken hdiscover hchanged hmissing hseeds
  refine ⟨hfiles, hpaths, htaken, ?_, ?_, report, hreport, hchanged, ?_, ?_⟩
  · rw [hdiscover top config.excluded rfl _ (by simp)]
    decide
  · rw [hdiscover top config.excluded rfl _ (by simp)]
    decide
  · have hunder : ["pkg/a.py", "build/gen.py"].filter (isUnderExcluded config.excluded) = ["build/gen.py"] := by decide
    rw [hmissing, hunder]
    rfl
  · rw [hchanged]
    exact hseeds _ (by simp) (by decide)

end Workspace

end Ripple
