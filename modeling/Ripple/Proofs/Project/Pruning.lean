import Mathlib
import Ripple.Proofs.Project.Discovery

/-! What leaving folders out of a walk comes to.

The walk does not go into a folder with an excluded name, and so passes over whatever lies in it at any depth. On
the way to an entry it meets each of the folders above it (`mem_sourcesIn_cons_iff`), so an entry is found if it is
a plain source file and none of these is excluded (`mem_sourcesIn_iff`). What the walk lists is therefore a filter
of what there is, and with more names excluded a filter of what it listed before
(`discovers_what_no_excluded_folder_holds`). -/
namespace Ripple

/-- A source file has a name before its ending. -/
theorem isSourceName_iff {name : String} (h : Path.IsProper name) :
    isSourceName name = true ↔ ∃ stem, stem ≠ "" ∧ name = stem ++ ".py" := by
  have hending : isSourceName name = true ↔
      name.toList.drop (Path.stemChars name.toList).length = ".py".toList := by
    rw [isSourceName, Path.parse_of_proper h, isSourcePath, beq_iff_eq, Path.suffix, ← String.toList_inj, String.toList_ofList]
    rfl
  rw [hending, show ".py".toList = '.' :: ['p', 'y'] from rfl, Path.drop_stemChars_eq_iff (by simp) (by simp)]
  constructor
  · rintro ⟨stem, hstem, hname⟩
    refine ⟨.ofList stem, fun hnone => hstem (by simpa using congrArg String.toList hnone), ?_⟩
    rw [← String.toList_inj, hname, String.toList_append, String.toList_ofList]
    rfl
  · rintro ⟨stem, hstem, rfl⟩
    exact ⟨stem.toList, Text.toList_ne_nil hstem, String.toList_append ..⟩

/-! ### Entries of a tree -/

/-- What stands under these names is no folder, and no link to one. -/
inductive Plain (leadsToFolder : List String → Bool) (names : List String) : FileTree → Prop
  | file (bytes : List UInt8) : Plain leadsToFolder names (.file bytes)
  | link (target : String) (elsewhere : leadsToFolder names = false) : Plain leadsToFolder names (.link target)

theorem Plain.link_iff {leadsToFolder : List String → Bool} {names : List String} {target : String} :
    Plain leadsToFolder names (.link target) ↔ leadsToFolder names = false := by
  constructor
  · intro h
    cases h with
    | link _ elsewhere => exact elsewhere
  · exact .link target

theorem Plain.not_folder {leadsToFolder : List String → Bool} {names : List String}
    {entries : List (String × FileTree)} : ¬Plain leadsToFolder names (.folder entries) := by
  intro h
  cases h

section Sources
variable {leadsToFolder : List String → Bool} {excluded : List String} {t : FileTree}

/-- A folder holds what its entries hold. -/
theorem sourcesAmong_cons_eq (below : List String) (e : String × FileTree) (rest : List (String × FileTree)) :
    sourcesAmong leadsToFolder excluded below (e :: rest) =
      sourcesAmong leadsToFolder excluded below [e] ++ sourcesAmong leadsToFolder excluded below rest := by
  obtain ⟨name, t⟩ := e
  simp only [sourcesAmong, List.append_nil]

/-- What is found under a name is found in the entry of that name. -/
theorem mem_sourcesAmong_iff {entries : List (String × FileTree)} (hnames : (entries.map Prod.fst).Nodup)
    (hentries : ∀ e ∈ entries, Path.IsProper e.1 ∧ e.2.WellFormed) (name : String) (below rest : List String) :
    below ++ name :: rest ∈ sourcesAmong leadsToFolder excluded below entries ↔
      ∃ child, (name, child) ∈ entries ∧
        below ++ name :: rest ∈ sourcesAmong leadsToFolder excluded below [(name, child)] := by
  induction entries with
  | nil => simp [sourcesAmong]
  | cons e others ih =>
    rw [sourcesAmong_cons_eq, List.mem_append,
      ih (List.nodup_cons.mp hnames).2 fun e he => hentries e (List.mem_cons_of_mem _ he)]
    -- what the first entry holds goes on with its name
    have hfirst : below ++ name :: rest ∈ sourcesAmong leadsToFolder excluded below [e] → name = e.1 := by
      intro hfound
      have hone : ∀ e' ∈ [e], Path.IsProper e'.1 ∧ e'.2.WellFormed := by
        simpa using hentries e (List.mem_cons_self ..)
      obtain ⟨e', he', inner, hsame, _⟩ := below_of_mem_sourcesAmong [e] hone below _ hfound
      rw [List.append_cancel_left_eq, List.cons.injEq, List.mem_singleton.mp he'] at hsame
      exact hsame.1
    constructor
    · rintro (hfound | ⟨child, hchild, hfound⟩)
      · obtain rfl := hfirst hfound
        exact ⟨e.2, List.mem_cons_self .., hfound⟩
      · exact ⟨child, List.mem_cons_of_mem _ hchild, hfound⟩
    · rintro ⟨child, hchild, hfound⟩
      rcases List.mem_cons.mp hchild with rfl | hchild
      · exact .inl hfound
      · exact .inr ⟨child, hchild, hfound⟩

/-- What is found in a tree under a name is found in what the tree stores there. -/
theorem mem_sourcesIn_cons_iff (ht : t.WellFormed) (name : String) (below rest : List String) :
    below ++ name :: rest ∈ sourcesIn leadsToFolder excluded below t ↔
      ∃ child, t.child? name = some child ∧
        below ++ name :: rest ∈ sourcesAmong leadsToFolder excluded below [(name, child)] := by
  obtain ⟨hnames, hentries⟩ := ht.entries
  cases t with
  | file _ => simp [sourcesIn, FileTree.child?, FileTree.entries]
  | link _ => simp [sourcesIn, FileTree.child?, FileTree.entries]
  | folder entries =>
    rw [sourcesIn]
    have hamong : below ++ name :: rest ∈ sourcesAmong leadsToFolder excluded below entries ↔ _ :=
      mem_sourcesAmong_iff hnames hentries name below rest
    rw [hamong]
    exact exists_congr fun child => and_congr_left' (OrderedMap.lookup_eq_some_iff_mem hnames ..).symm

/-- **An entry is found if it is a plain source file and none of the folders that it is in is excluded.** -/
theorem mem_sourcesIn_iff (ht : t.WellFormed) (folders : List String) (name : String) (below : List String) :
    below ++ (folders ++ [name]) ∈ sourcesIn leadsToFolder excluded below t ↔
      (∃ found, t.stored? (folders ++ [name]) = some found ∧
        Plain leadsToFolder (below ++ (folders ++ [name])) found) ∧
      isSourceName name = true ∧ ∀ folder ∈ folders, folder ∉ excluded := by
  -- by induction on the folders, each of them the next one on the walk
  induction folders generalizing t below with
  | nil =>
    rw [List.nil_append, mem_sourcesIn_cons_iff ht]
    cases hchild : t.child? name with
    | none => simp [FileTree.stored?, hchild]
    | some child =>
      cases child with
      | file bytes => simp [sourcesAmong, FileTree.stored?, hchild, Plain.file]
      | link target =>
        simp [sourcesAmong, FileTree.stored?, hchild, Plain.link_iff, and_comm]
      | folder inner =>
        -- whatever is found in a folder has more names than the folder
        have hdeeper : below ++ [name] ∉ sourcesIn leadsToFolder excluded (below ++ [name]) (.folder inner) := by
          intro hfound
          rw [sourcesIn] at hfound
          obtain ⟨e, _, rest, hsame, _⟩ :=
            below_of_mem_sourcesAmong inner (ht.child? hchild).entries.2 _ _ hfound
          simp at hsame
        simp [sourcesAmong, FileTree.stored?, hchild, Plain.not_folder, hdeeper]
  | cons folder folders ih =>
    rw [List.cons_append, mem_sourcesIn_cons_iff ht]
    cases hchild : t.child? folder with
    | none => simp [FileTree.stored?, hchild]
    | some child =>
      have hstored : t.stored? (folder :: (folders ++ [name])) = child.stored? (folders ++ [name]) := by
        simp [FileTree.stored?, hchild]
      cases child with
      | file bytes =>
        have hnone : (FileTree.file bytes).stored? (folders ++ [name]) = none := by
          cases folders <;> rfl
        simp [sourcesAmong, hstored, hnone]
      | link target =>
        have hnone : (FileTree.link target).stored? (folders ++ [name]) = none := by
          cases folders <;> rfl
        simp [sourcesAmong, hstored, hnone]
      | folder inner =>
        have hin := ih (ht.child? hchild) (below ++ [folder])
        rw [List.append_assoc, List.singleton_append] at hin
        simp only [Option.some.injEq, exists_eq_left', hstored, List.forall_mem_cons, sourcesAmong,
          List.append_nil, List.contains_iff_mem]
        split
        · next hexcluded => simp [hexcluded]
        · next hkept => rw [hin, and_iff_right hkept]

end Sources

namespace Workspace

/-- The folders that a module is in. -/
def foldersOf (id : ModuleId) : List String := (Text.split '/' id).dropLast

def isUnderExcluded (excluded : List String) (id : ModuleId) : Bool := (foldersOf id).any excluded.contains

theorem isUnderExcluded_eq_false_iff {excluded : List String} {id : ModuleId} :
    isUnderExcluded excluded id = false ↔ ∀ folder ∈ foldersOf id, folder ∉ excluded := by
  simp [isUnderExcluded]

theorem foldersOf_join {folders : List String} {name : String} (h : ∀ n ∈ folders ++ [name], Path.IsProper n) :
    foldersOf (Text.join "/" (folders ++ [name])) = folders := by
  rw [foldersOf, Text.split_join rfl (by simp) fun n hn => (h n hn).2, List.dropLast_concat]

variable {w : Workspace} {root : Path}

/-- Under these names below `root`, and through folders alone, stands something that is no folder and no link to
one. -/
def PlainEntry (w : Workspace) (root : Path) (names : List String) : Prop :=
  ∃ t found, w.files.find (w.cwd / root) = .ok t ∧ t.stored? names = some found ∧
    Plain (fun below => w.isFolder (root / ⟨.relative, below⟩)) names found

theorem PlainEntry.proper {names : List String} (hfiles : w.files.WellFormed) (h : w.PlainEntry root names) :
    ∀ n ∈ names, Path.IsProper n := by
  obtain ⟨t, found, ht, hfound, _⟩ := h
  exact (hfiles.find ht).proper_stored? hfound

/-- The walk finds the plain source files that are in no excluded folder. -/
theorem join_mem_discover_iff (hfiles : w.files.WellFormed) (excluded : List String) {folders : List String}
    {name : String} (hproper : ∀ n ∈ folders ++ [name], Path.IsProper n) :
    Text.join "/" (folders ++ [name]) ∈ w.discover root excluded ↔
      w.PlainEntry root (folders ++ [name]) ∧ isSourceName name = true ∧
        ∀ folder ∈ folders, folder ∉ excluded := by
  cases hroot : w.files.find (w.cwd / root) with
  | error e => simp [discover, hroot, PlainEntry]
  | ok t =>
    have ht : t.WellFormed := hfiles.find hroot
    have hwalk : folders ++ [name] ∈
          sourcesIn (fun below => w.isFolder (root / ⟨.relative, below⟩)) excluded [] t ↔
        w.PlainEntry root (folders ++ [name]) ∧ isSourceName name = true ∧ ∀ folder ∈ folders, folder ∉ excluded := by
      simpa [PlainEntry, hroot] using mem_sourcesIn_iff ht folders name []
    simp only [discover, hroot, mem_sortIds, List.mem_map]
    rw [← hwalk]
    constructor
    · rintro ⟨found, hfound, hsame⟩
      obtain ⟨inner, rfl, hinner⟩ := below_of_mem_sourcesIn t ht [] found hfound
      -- paths of proper names are told apart by their texts
      have hparse := congrArg Path.parse hsame
      rw [Path.parse_join hinner, Path.parse_join hproper] at hparse
      obtain rfl := congrArg Path.names hparse
      exact hfound
    · exact fun hfound => ⟨_, hfound, rfl⟩

/-- Whatever the walk finds is a plain source file in no excluded folder. -/
theorem mem_discover_iff (hfiles : w.files.WellFormed) (excluded : List String) (id : ModuleId) :
    id ∈ w.discover root excluded ↔ ∃ folders name, id = Text.join "/" (folders ++ [name]) ∧
      w.PlainEntry root (folders ++ [name]) ∧ isSourceName name = true ∧ ∀ folder ∈ folders, folder ∉ excluded := by
  constructor
  · intro hfound
    obtain ⟨folders, name, rfl, hproper⟩ : ∃ folders name, id = Text.join "/" (folders ++ [name]) ∧
        ∀ n ∈ folders ++ [name], Path.IsProper n := by
      unfold discover at hfound
      split at hfound
      · next t hroot =>
        obtain ⟨found, hin, rfl⟩ := List.mem_map.mp ((mem_sortIds ..).mp hfound)
        obtain ⟨inner, rfl, hproper⟩ := below_of_mem_sourcesIn t (hfiles.find hroot) [] found hin
        obtain ⟨folders, name, hsplit, _⟩ := source_of_mem_sourcesIn t [] _ hin
        subst hsplit
        exact ⟨folders, name, rfl, hproper⟩
      · cases hfound
    exact ⟨folders, name, rfl, (join_mem_discover_iff hfiles excluded hproper).mp hfound⟩
  · rintro ⟨folders, name, rfl, hentry, hrest⟩
    exact (join_mem_discover_iff hfiles excluded (hentry.proper hfiles)).mpr ⟨hentry, hrest⟩

/-- With more names excluded the walk finds what it found before, less what the new ones hold. -/
theorem discover_of_subset (hfiles : w.files.WellFormed) {excluded wider : List String} (h : excluded ⊆ wider) :
    w.discover root wider =
      (w.discover root excluded).filter fun id => !isUnderExcluded (wider.filter (· ∉ excluded)) id := by
  refine ascending_ext (discover_ascending hfiles root wider)
    ((discover_ascending hfiles root excluded).filter _) fun id => ?_
  rw [List.mem_filter, mem_discover_iff hfiles, mem_discover_iff hfiles, Bool.not_eq_true',
    isUnderExcluded_eq_false_iff]
  simp only [List.mem_filter, decide_eq_true_eq, not_and, Classical.not_not]
  constructor
  · rintro ⟨folders, name, rfl, hentry, hname, hkept⟩
    refine ⟨⟨folders, name, rfl, hentry, hname, fun folder hfolder hold => hkept folder hfolder (h hold)⟩, ?_⟩
    rw [foldersOf_join (hentry.proper hfiles)]
    exact fun folder hfolder hnew => absurd hnew (hkept folder hfolder)
  · rintro ⟨⟨folders, name, rfl, hentry, hname, hkept⟩, hnew⟩
    rw [foldersOf_join (hentry.proper hfiles)] at hnew
    exact ⟨folders, name, rfl, hentry, hname,
      fun folder hfolder hwider => hkept folder hfolder (hnew folder hfolder hwider)⟩

/-- **The walk lists the plain source files that no excluded folder holds, each once and in order.** They are the
entries with the ending of sources that are neither folders nor links to folders, that are reached through folders
alone, and on whose way below the root no folder has an excluded name; their own names and the way to the root may
be excluded. So to exclude more is to lose exactly what lies in a folder that is newly excluded. -/
theorem discovers_what_no_excluded_folder_holds (hfiles : w.files.WellFormed) (root : Path)
    (excluded : List String) :
    (w.discover root excluded).Pairwise (· < ·) ∧
    (∀ id, id ∈ w.discover root excluded ↔ ∃ folders stem, id = Text.join "/" (folders ++ [stem ++ ".py"]) ∧
      w.PlainEntry root (folders ++ [stem ++ ".py"]) ∧ stem ≠ "" ∧ ∀ folder ∈ folders, folder ∉ excluded) ∧
    ∀ wider, excluded ⊆ wider → w.discover root wider =
      (w.discover root excluded).filter fun id => !isUnderExcluded (wider.filter (· ∉ excluded)) id := by
  refine ⟨discover_ascending hfiles root excluded, fun id => ?_, fun wider => discover_of_subset hfiles⟩
  rw [mem_discover_iff hfiles]
  constructor
  · rintro ⟨folders, name, hid, hentry, hname, hkept⟩
    obtain ⟨stem, hstem, rfl⟩ := (isSourceName_iff (hentry.proper hfiles name (by simp))).mp hname
    exact ⟨folders, stem, hid, hentry, hstem, hkept⟩
  · rintro ⟨folders, stem, hid, hentry, hstem, hkept⟩
    have hname := (isSourceName_iff (hentry.proper hfiles (stem ++ ".py") (by simp))).mpr ⟨stem, hstem, rfl⟩
    exact ⟨folders, stem ++ ".py", hid, hentry, hname, hkept⟩

/-- A project below an excluded name, with a folder that is named like a source file, another whose name begins
like an excluded one, and links to a folder, to a file and to nothing. -/
theorem discovers_links_and_folder_named_like_source :
    let entries : List (String × FileTree) :=
      [("build", .folder [("x.py", .file [])]), ("builder", .folder [("y.py", .file []), (".py", .file [])]),
       ("d.py", .folder [("build.py", .file [])]), ("link.py", .link "builder"), ("lost.py", .link "nowhere"),
       ("other.py", .link "builder/y.py")]
    let w := ofProject entries
    let excluded := ["build", "project"]
    w.files.WellFormed ∧
      w.discover w.cwd excluded = ["builder/y.py", "d.py/build.py", "lost.py", "other.py"] ∧
      w.discover w.cwd ("d.py" :: excluded) = ["builder/y.py", "lost.py", "other.py"] := by
  intro entries w excluded
  have hfiles : w.files.WellFormed := by
    refine ofProject_wellFormed (.folder (by decide) (by decide) ?_)
    simp only [entries, List.mem_cons, List.not_mem_nil, or_false, forall_eq_or_imp, forall_eq]
    refine ⟨?_, ?_, ?_, .link _, .link _, .link _⟩ <;>
      exact .folder (by decide) (by decide) (by simp [FileTree.WellFormed.file])
  have hlink : w.isFolder (w.cwd / ⟨.relative, ["link.py"]⟩) = true := by cbv
  have hlost : w.isFolder (w.cwd / ⟨.relative, ["lost.py"]⟩) = false := by cbv
  have hother : w.isFolder (w.cwd / ⟨.relative, ["other.py"]⟩) = false := by cbv
  have hwalk : sourcesIn (fun below => w.isFolder (w.cwd / ⟨.relative, below⟩)) excluded [] (.folder entries) =
      [["builder", "y.py"], ["d.py", "build.py"], ["lost.py"], ["other.py"]] := by
    simp only [entries, sourcesIn, sourcesAmong, List.nil_append, hlink, hlost, hother]
    decide
  obtain ⟨hascending, _, hwider⟩ := discovers_what_no_excluded_folder_holds hfiles w.cwd excluded
  have hfound : w.discover w.cwd excluded = ["builder/y.py", "d.py/build.py", "lost.py", "other.py"] := by
    refine ascending_ext hascending (by decide) fun id => ?_
    have hroot : w.files.find (w.cwd / w.cwd) = .ok (.folder entries) := by cbv
    simp only [discover, hroot, mem_sortIds, hwalk]
    exact Iff.rfl
  refine ⟨hfiles, hfound, ?_⟩
  rw [hwider _ (List.subset_cons_self ..), hfound]
  decide

end Workspace

end Ripple
