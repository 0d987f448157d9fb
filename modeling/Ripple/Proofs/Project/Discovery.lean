import Ripple.Project.Discovery
import Ripple.Proofs.Files.Tree
import Ripple.Proofs.Path.Names
import Ripple.Proofs.Resolver.Resolution

/-! What a walk through a project finds.

Whatever is found has the name of a source file (`source_of_mem_discover`), so a path that stands
for a module is the path of a source file (`isSourcePath_of_mem_discover`). In a well-formed tree nothing
is found twice (`nodup_sourcesIn`), so the modules of a project are in ascending order
(`discover_ascending`). -/
namespace Ripple

/-- A folder adds what is in each of its entries, or the entry itself. -/
theorem sourcesAmong_cons (leadsToFolder : List String → Bool) (excluded below : List String) (name : String)
    (t : FileTree) (rest : List (String × FileTree)) :
    ∃ here, sourcesAmong leadsToFolder excluded below ((name, t) :: rest) =
        here ++ sourcesAmong leadsToFolder excluded below rest ∧
      (here = [] ∨ here = [below ++ [name]] ∧ isSourceName name = true ∨
        here = sourcesIn leadsToFolder excluded (below ++ [name]) t) := by
  cases t with
  | folder entries =>
    refine ⟨_, by rw [sourcesAmong], ?_⟩
    split
    · exact .inl rfl
    · exact .inr (.inr rfl)
  | link target =>
    refine ⟨_, by rw [sourcesAmong], ?_⟩
    split
    · next h => exact .inr (.inl ⟨rfl, (Bool.and_eq_true _ _ ▸ h).1⟩)
    · exact .inl rfl
  | file bytes =>
    refine ⟨_, by rw [sourcesAmong], ?_⟩
    split
    · next h => exact .inr (.inl ⟨rfl, h⟩)
    · exact .inl rfl

mutual

theorem source_of_mem_sourcesIn {leadsToFolder : List String → Bool} {excluded : List String} :
    ∀ (t : FileTree) (below found : List String), found ∈ sourcesIn leadsToFolder excluded below t →
      ∃ folder name, found = folder ++ [name] ∧ isSourceName name = true
  | .file _, _, _, h => by simp [sourcesIn] at h
  | .link _, _, _, h => by simp [sourcesIn] at h
  | .folder entries, below, found, h =>
    source_of_mem_sourcesAmong entries below found (by simpa [sourcesIn] using h)

theorem source_of_mem_sourcesAmong {leadsToFolder : List String → Bool} {excluded : List String} :
    ∀ (entries : List (String × FileTree)) (below found : List String),
      found ∈ sourcesAmong leadsToFolder excluded below entries →
      ∃ folder name, found = folder ++ [name] ∧ isSourceName name = true
  | [], _, _, h => by simp [sourcesAmong] at h
  | (name, t) :: rest, below, found, h => by
    obtain ⟨here, hsplit, hhere⟩ := sourcesAmong_cons leadsToFolder excluded below name t rest
    rw [hsplit, List.mem_append] at h
    rcases h with h | h
    · rcases hhere with rfl | ⟨rfl, hname⟩ | rfl
      · cases h
      · exact ⟨below, name, List.mem_singleton.mp h, hname⟩
      · exact source_of_mem_sourcesIn t _ _ h
    · exact source_of_mem_sourcesAmong rest below found h

end

/-- Whatever is found has the name of a source file. -/
theorem source_of_mem_discover {w : Workspace} {root : Path} {excluded : List String} {id : ModuleId}
    (h : id ∈ w.discover root excluded) :
    ∃ folder name, id = Text.join "/" (folder ++ [name]) ∧ isSourceName name = true := by
  unfold Workspace.discover at h
  split at h
  · next t _ =>
    simp only [sortIds, List.mem_mergeSort] at h
    obtain ⟨found, hfound, rfl⟩ := List.mem_map.mp h
    obtain ⟨folder, name, rfl, hname⟩ := source_of_mem_sourcesIn t [] found hfound
    exact ⟨folder, name, rfl, hname⟩
  · cases h

/-- A source name among the last fields of a text makes the path with these fields that of a source
file. -/
theorem isSourcePath_of_fields {p : Path} (hn : ∀ n ∈ p.names, Path.IsProper n) {before : List String}
    {name : String} (hfields : p.names = before ++ Text.split '/' name) (hname : isSourceName name = true) :
    isSourcePath p = true := by
  have hkept : (Path.parse name).names = Text.split '/' name := by
    rw [Path.parse, List.filter_eq_self]
    intro n hm
    exact (hn n (hfields ▸ List.mem_append_right _ hm)).1
  have hlast : (Path.parse name).name = p.name := by
    rw [Path.name, Path.name, hkept, hfields, List.getLast?_append]
    cases hsplit : (Text.split '/' name).getLast? with
    | none => exact absurd (List.getLast?_eq_none_iff.mp hsplit) (Text.split_ne_nil '/' name)
    | some n => rfl
  unfold isSourceName isSourcePath Path.suffix at hname
  unfold isSourcePath Path.suffix
  rw [← hlast]
  exact hname

/-- A path that is written like a module of the project is that of a source file. -/
theorem isSourcePath_of_mem_discover {w : Workspace} {root : Path} {excluded : List String}
    {names : List String} (hn : ∀ n ∈ names, Path.IsProper n)
    (h : (⟨.relative, names⟩ : Path).text ∈ w.discover root excluded) :
    names ≠ [] ∧ isSourcePath ⟨.relative, names⟩ = true := by
  obtain ⟨folder, name, htext, hname⟩ := source_of_mem_discover h
  have hfields : Text.split '/' (⟨.relative, names⟩ : Path).text =
      folder.flatMap (Text.split '/') ++ Text.split '/' name := by
    rw [htext, Text.split_join_flatMap rfl (by simp), List.flatMap_append, List.flatMap_singleton]
  by_cases hnames : names = []
  · -- a dot is no source name
    subst hnames
    have hdot : Text.split '/' (⟨.relative, []⟩ : Path).text = ["."] := by decide
    rw [hdot, List.singleton_eq_append_iff] at hfields
    rcases hfields with ⟨_, hsplit⟩ | ⟨_, hsplit⟩
    · unfold isSourceName Path.parse at hname
      rw [hsplit] at hname
      have hempty : ∀ a, isSourcePath ⟨a, ["."].filter Path.isName⟩ = false := by
        intro a
        cases a <;> decide
      rw [hempty] at hname
      cases hname
    · exact absurd hsplit (Text.split_ne_nil '/' name)
  · rw [Path.text_relative hnames, Text.split_join rfl hnames fun n hm => (hn n hm).2] at hfields
    exact ⟨hnames, isSourcePath_of_fields hn hfields hname⟩

/-! ### The order of the modules -/

section Sources
variable {leadsToFolder : List String → Bool} {excluded : List String}

mutual

/-- What is found in a tree lies below it, under proper names. -/
theorem below_of_mem_sourcesIn :
    ∀ (t : FileTree), t.WellFormed → ∀ below found, found ∈ sourcesIn leadsToFolder excluded below t →
      ∃ inner, found = below ++ inner ∧ ∀ n ∈ inner, Path.IsProper n
  | .file _, _, _, _, h => by simp [sourcesIn] at h
  | .link _, _, _, _, h => by simp [sourcesIn] at h
  | .folder entries, ht, below, found, h => by
    obtain ⟨e, he, inner, hfound, hproper⟩ :=
      below_of_mem_sourcesAmong entries ht.entries.2 below found (by simpa [sourcesIn] using h)
    exact ⟨e.1 :: inner, hfound, List.forall_mem_cons.mpr ⟨(ht.entries.2 e he).1, hproper⟩⟩

theorem below_of_mem_sourcesAmong :
    ∀ (entries : List (String × FileTree)), (∀ e ∈ entries, Path.IsProper e.1 ∧ e.2.WellFormed) →
      ∀ below found, found ∈ sourcesAmong leadsToFolder excluded below entries →
      ∃ e ∈ entries, ∃ inner, found = below ++ e.1 :: inner ∧ ∀ n ∈ inner, Path.IsProper n
  | [], _, _, _, h => by simp [sourcesAmong] at h
  | (name, t) :: rest, hentries, below, found, h => by
    obtain ⟨here, hsplit, hhere⟩ := sourcesAmong_cons leadsToFolder excluded below name t rest
    rw [hsplit, List.mem_append] at h
    rcases h with h | h
    · refine ⟨(name, t), List.mem_cons_self .., ?_⟩
      rcases hhere with rfl | ⟨rfl, _⟩ | rfl
      · cases h
      · exact ⟨[], List.mem_singleton.mp h, by simp⟩
      · obtain ⟨inner, hfound, hproper⟩ :=
          below_of_mem_sourcesIn t (hentries _ (List.mem_cons_self ..)).2 _ found h
        exact ⟨inner, by rw [hfound, List.append_assoc, List.singleton_append], hproper⟩
    · obtain ⟨e, he, hfound⟩ :=
        below_of_mem_sourcesAmong rest (fun e he => hentries e (List.mem_cons_of_mem _ he)) below found h
      exact ⟨e, List.mem_cons_of_mem _ he, hfound⟩

end

mutual

/-- Nothing is found twice. -/
theorem nodup_sourcesIn :
    ∀ (t : FileTree), t.WellFormed → ∀ below, (sourcesIn leadsToFolder excluded below t).Nodup
  | .file _, _, _ => by simp [sourcesIn]
  | .link _, _, _ => by simp [sourcesIn]
  | .folder entries, ht, below => by
    rw [sourcesIn]
    exact nodup_sourcesAmong entries ht.entries.1 ht.entries.2 below

theorem nodup_sourcesAmong :
    ∀ (entries : List (String × FileTree)), (entries.map Prod.fst).Nodup →
      (∀ e ∈ entries, Path.IsProper e.1 ∧ e.2.WellFormed) →
      ∀ below, (sourcesAmong leadsToFolder excluded below entries).Nodup
  | [], _, _, _ => by simp [sourcesAmong]
  | (name, t) :: rest, hnames, hentries, below => by
    obtain ⟨here, hsplit, hhere⟩ := sourcesAmong_cons leadsToFolder excluded below name t rest
    have hrest : ∀ e ∈ rest, Path.IsProper e.1 ∧ e.2.WellFormed :=
      fun e he => hentries e (List.mem_cons_of_mem _ he)
    rw [List.map_cons, List.nodup_cons] at hnames
    have hnodup : here.Nodup ∧ ∀ found ∈ here, ∃ inner, found = below ++ name :: inner := by
      rcases hhere with rfl | ⟨rfl, _⟩ | rfl
      · simp
      · simp
      · have ht := (hentries _ (List.mem_cons_self ..)).2
        refine ⟨nodup_sourcesIn t ht _, fun found h => ?_⟩
        obtain ⟨inner, hfound, _⟩ := below_of_mem_sourcesIn t ht _ found h
        exact ⟨inner, by rw [hfound, List.append_assoc, List.singleton_append]⟩
    rw [hsplit, List.nodup_append]
    refine ⟨hnodup.1, nodup_sourcesAmong rest hnames.2 hrest below, fun a ha b hb hab => ?_⟩
    -- what comes from another entry goes on with another name
    obtain ⟨inner, ha⟩ := hnodup.2 a ha
    obtain ⟨e, he, inner', hb, _⟩ := below_of_mem_sourcesAmong rest hrest below b hb
    rw [ha, hb, List.append_cancel_left_eq, List.cons.injEq] at hab
    exact hnames.1 (List.mem_map.mpr ⟨e, he, hab.1.symm⟩)

end

end Sources

/-- **The modules of a project are in ascending order**, and none is listed twice. -/
theorem discover_ascending {w : Workspace} (hfiles : w.files.WellFormed) (root : Path)
    (excluded : List String) : (w.discover root excluded).Pairwise (· < ·) := by
  unfold Workspace.discover
  split
  · next t hfind =>
    have ht := hfiles.find hfind
    refine sortIds_of_nodup (List.pairwise_map.mpr ((nodup_sourcesIn t ht []).imp_of_mem ?_))
    intro a b ha hb hne hjoin
    obtain ⟨_, rfl, hproper⟩ := below_of_mem_sourcesIn t ht [] a ha
    obtain ⟨_, rfl, hproper'⟩ := below_of_mem_sourcesIn t ht [] b hb
    have hparse := congrArg Path.parse hjoin
    rw [Path.parse_join hproper, Path.parse_join hproper'] at hparse
    exact hne (congrArg Path.names hparse)
  · exact .nil

/-! ### Small projects -/

namespace Workspace

/-- A project that holds these files, seen from its own folder. -/
def ofProject (entries : List (String × FileTree)) : Workspace :=
  ⟨.folder [("project", .folder entries)], ⟨.root, ["project"]⟩, ⟨some "/", fun _ => none⟩⟩

theorem ofProject_wellFormed {entries : List (String × FileTree)} (h : (FileTree.folder entries).WellFormed) :
    (ofProject entries).files.WellFormed :=
  .folder (by simp) (by simpa using (by decide : Path.IsProper "project")) (by simpa using h)

end Workspace

end Ripple
