import Ripple.Proofs.Git
import Ripple.Proofs.Text.Lines

/-! Names as git lists them, and the files they are read as.

Git writes a name of printing ASCII characters as it is, one name on a line (`IsListable`, `Text.listing`). Such a
name can be told from its file (`relativeTo?_div`). But lines are read without the blanks at their ends, so a file is
found under its own name only if that begins and ends with something else than a space. One name that does not is
enough to spoil the list: it can stand for the file of another one only if it is longer than that
(`length_le_of_div_eq`), and there is no longest (`listed_names_read_back_iff`). -/
namespace Ripple.Git

/-! ### Names -/

/-- The characters that git writes as they are: those of ASCII that print, without the double quote and the
backslash. -/
def isWritten (c : Char) : Bool :=
  decide (0x20 ≤ c.toNat) && decide (c.toNat ≤ 0x7e) && decide (c.toNat ≠ 0x22) && decide (c.toNat ≠ 0x5c)

/-- A name that git writes as it is, with proper names between its slashes. -/
structure IsListable (name : String) : Prop where
  written : ∀ c ∈ name.toList, isWritten c = true
  normal : ∃ parts, parts ≠ [] ∧ (∀ part ∈ parts, Path.IsProper part) ∧ name = Text.join "/" parts

theorem isLineBreak_of_isWritten {c : Char} (h : isWritten c = true) : Text.isLineBreak c = false := by
  simp only [isWritten, Bool.and_eq_true, decide_eq_true_eq] at h
  simp [Text.isLineBreak]
  omega

/-- Of the characters that git writes as they are, only the space is blank. -/
theorem isBlank_iff_of_isWritten {c : Char} (h : isWritten c = true) : Text.isBlank c = true ↔ c = ' ' := by
  simp only [isWritten, Bool.and_eq_true, decide_eq_true_eq] at h
  have hspace : c = ' ' ↔ c.toNat = 0x20 := by rw [← Char.toNat_inj]; rfl
  rw [hspace]
  simp [Text.isBlank, Text.inRanges, Text.blankRanges]
  omega

namespace IsListable
variable {name : String} (h : IsListable name)
include h

theorem ne_empty : name ≠ "" := by
  obtain ⟨parts, hne, hproper, rfl⟩ := h.normal
  exact fun he => hne ((Text.join_eq_empty_iff fun part hpart => (hproper part hpart).ne_empty).mp he)

/-- A listable name is that of its path, which is relative. -/
theorem parse_eq : ∃ parts, Path.parse name = ⟨.relative, parts⟩ ∧ parts ≠ [] ∧ Text.join "/" parts = name := by
  obtain ⟨parts, hne, hproper, rfl⟩ := h.normal
  exact ⟨parts, Path.parse_join hproper, hne, rfl⟩

theorem strip_eq_self_iff :
    Text.strip name = name ↔ name.toList.head? ≠ some ' ' ∧ name.toList.getLast? ≠ some ' ' := by
  have hend : ∀ {o : Option Char}, (∀ c ∈ o, c ∈ name.toList) →
      ((∀ c ∈ o, Text.isBlank c = false) ↔ o ≠ some ' ') := by
    intro o ho
    cases o with
    | none => simp
    | some c =>
      have hblank := isBlank_iff_of_isWritten (h.written c (ho c rfl))
      simp [← Bool.not_eq_true, hblank]
  rw [Text.strip_eq_self_iff, hend fun c hc => List.mem_of_mem_head? hc, hend fun c hc => List.mem_of_mem_getLast? hc]

/-- **A name can be told from its file**, below whatever top. -/
theorem relativeTo?_div (top : Path) : ((top / Path.parse name).relativeTo? top).map Path.text = some name := by
  obtain ⟨parts, hparse, hne, hjoin⟩ := h.parse_eq
  have hbelow : top / Path.parse name = ⟨top.anchor, top.names ++ parts⟩ := by rw [hparse]; rfl
  rw [hbelow, Path.relativeTo?, if_pos (by simp), List.drop_left, Option.map_some, Path.text_relative hne, hjoin]

theorem eq_of_div_eq {name' : String} (h' : IsListable name') {top : Path}
    (he : top / Path.parse name = top / Path.parse name') : name = name' :=
  Option.some.inj ((h.relativeTo?_div top).symm.trans (he ▸ h'.relativeTo?_div top))

/-- Whatever is read as the file of a name, also an absolute path, is at least as long as the name. -/
theorem length_le_of_div_eq {top : Path} {s : String} (he : top / Path.parse name = top / Path.parse s) :
    name.length ≤ s.length := by
  obtain ⟨parts, hparse, -, rfl⟩ := h.parse_eq
  have hbelow : top / Path.parse (Text.join "/" parts) = ⟨top.anchor, top.names ++ parts⟩ := by rw [hparse]; rfl
  have hparts : parts.Sublist (Path.parse s).names := by
    by_cases habs : (Path.parse s).isAbsolute = true
    · rw [hbelow, Path.div_of_absolute habs] at he
      exact congrArg Path.names he ▸ List.sublist_append_right ..
    · rw [hbelow, Path.div_of_relative habs] at he
      exact (List.append_cancel_left (congrArg Path.names he)).symm ▸ List.Sublist.refl _
  calc (Text.join "/" parts).length
      ≤ (Text.join "/" (Text.split '/' s)).length := Text.length_join_le (hparts.trans List.filter_sublist)
    _ = s.length := by rw [Text.join_split rfl]

end IsListable

/-! ### Lists of names -/

/-- The requested diffs print these names, one on a line. -/
structure Prints (git : Git) (request : DiffRequest) (names : List String) : Prop where
  listable : ∀ name ∈ names, IsListable name
  printed : ∃ lists : Source → List String, (sources request).flatMap lists = names ∧
    ∀ s ∈ sources request, git.output (git.diffCommand s) = Text.listing (lists s)

section Prints
variable {git : Git} {request : DiffRequest} {names : List String}

/-- The lines are read as they were written, but for their ends. -/
theorem namesIn_listing (h : ∀ name ∈ names, IsListable name) :
    namesIn (Text.listing names) = (names.map Text.strip).filter (· != "") := by
  have hlines : Text.lines (Text.listing names) = names :=
    Text.lines_listing fun name hname c hc => isLineBreak_of_isWritten ((h name hname).written c hc)
  rw [namesIn, hlines]

theorem Prints.mem_names_iff (h : git.Prints request names) {read : String} :
    read ∈ git.names request ↔ read ≠ "" ∧ ∃ name ∈ names, Text.strip name = read := by
  obtain ⟨lists, rfl, hprinted⟩ := h.printed
  have hread : git.names request = (sources request).flatMap fun s => ((lists s).map Text.strip).filter (· != "") := by
    refine List.flatMap_congr fun s hs => ?_
    rw [namesOf, hprinted s hs, namesIn_listing fun name hname => h.listable name (List.mem_flatMap.mpr ⟨s, hs, hname⟩)]
  rw [hread]
  simp only [List.mem_flatMap, List.mem_filter, List.mem_map, bne_iff_ne]
  grind

/-- Among finitely many there is not always a larger one. -/
theorem forall_not_of_growing {α : Type} {xs : List α} {P : α → Prop} (size : α → Nat)
    (h : ∀ x ∈ xs, P x → ∃ y ∈ xs, P y ∧ size x < size y) : ∀ x ∈ xs, ¬ P x := by
  classical
  intro x hx hP
  have hsome : (xs.toFinset.filter P).Nonempty := ⟨x, by simp [hx, hP]⟩
  obtain ⟨y, hy, hmax⟩ := Finset.exists_max_image _ size hsome
  obtain ⟨hy, hPy⟩ := Finset.mem_filter.mp hy
  obtain ⟨z, hz, hPz, hlt⟩ := h y (List.mem_toFinset.mp hy) hPy
  exact Nat.not_lt.mpr (hmax z (Finset.mem_filter.mpr ⟨List.mem_toFinset.mpr hz, hPz⟩)) hlt

/-- If the files of stripped names are those of the names, nothing was stripped. A name that changes is at best the
file of a name that changes too, and that is longer. -/
theorem Prints.strip_eq_of_files_eq (h : git.Prints request names) (top : Path)
    (hfiles : ∀ name ∈ names, ∃ name' ∈ names, top / Path.parse name = top / Path.parse (Text.strip name')) :
    ∀ name ∈ names, Text.strip name = name := by
  refine fun name hname => Decidable.not_not.mp
    (forall_not_of_growing (P := fun x => Text.strip x ≠ x) String.length (fun x hx hchanged => ?_) name hname)
  obtain ⟨y, hy, hfile⟩ := hfiles x hx
  have hlonger := (h.listable x hx).length_le_of_div_eq hfile
  by_cases hstays : Text.strip y = y
  · rw [hstays] at hfile
    exact absurd ((h.listable x hx).eq_of_div_eq (h.listable y hy) hfile ▸ hstays) hchanged
  · exact ⟨y, hy, hstays, Nat.lt_of_le_of_lt hlonger (Text.length_strip_lt hstays)⟩

theorem Prints.mem_filesAt_iff (h : git.Prints request names) (top p : Path) :
    p ∈ filesAt top (git.names request) ↔
      ∃ name ∈ names, Text.strip name ≠ "" ∧ p = top / Path.parse (Text.strip name) := by
  rw [mem_filesAt]
  constructor
  · intro hp
    obtain ⟨read, hread, hfile⟩ := hp
    obtain ⟨hne, name, hname, rfl⟩ := h.mem_names_iff.mp hread
    exact ⟨name, hname, hne, hfile⟩
  · intro hp
    obtain ⟨name, hname, hne, hfile⟩ := hp
    have hread : Text.strip name ∈ git.names request := h.mem_names_iff.mpr ⟨hne, name, hname, rfl⟩
    exact ⟨Text.strip name, hread, hfile⟩

end Prints

/-- **Names are read back as git wrote them exactly if none begins or ends with a space.** For a talk in which no
command fails and the requested diffs print names that git writes as they are, a file is found for each name without
the spaces at its ends, if anything is left. Names have files of their own, from which they can be told; but these are
the ones that are found only if there is nothing to strip from any name. -/
theorem listed_names_read_back_iff (git : Git) (request : DiffRequest) (names : List String)
    (asked : List (List String)) (hdone : (git.commands request).findSome? git.failure? = none)
    (hprints : git.Prints request names) :
    ∃ files, ((git.changedFiles request).run.run asked).1 = .ok files ∧
      (∀ p, p ∈ files ↔ ∃ name ∈ names, Text.strip name ≠ "" ∧ p = git.top / Path.parse (Text.strip name)) ∧
      (∀ name ∈ names, ((git.top / Path.parse name).relativeTo? git.top).map Path.text = some name) ∧
      ((∀ p, p ∈ files ↔ ∃ name ∈ names, p = git.top / Path.parse name) ↔
        ∀ name ∈ names, name.toList.head? ≠ some ' ' ∧ name.toList.getLast? ≠ some ' ') := by
  have hrun := asks_changedFiles git request asked
  have hmem := hprints.mem_filesAt_iff git.top
  refine ⟨filesAt git.top (git.names request), ?_, hmem, fun name hname => ?_, ?_⟩
  · rw [hrun, hdone]
    rfl
  · exact (hprints.listable name hname).relativeTo?_div git.top
  · constructor
    · intro hfiles name hname
      rw [← (hprints.listable name hname).strip_eq_self_iff]
      refine hprints.strip_eq_of_files_eq git.top (fun x hx => ?_) name hname
      obtain ⟨y, hy, -, hfile⟩ := (hmem _).mp ((hfiles _).mpr ⟨x, hx, rfl⟩)
      exact ⟨y, hy, hfile⟩
    · intro hends p
      have hstays : ∀ name ∈ names, Text.strip name = name := fun name hname =>
        (hprints.listable name hname).strip_eq_self_iff.mpr (hends name hname)
      rw [hmem]
      constructor
      · intro hp
        obtain ⟨name, hname, -, hfile⟩ := hp
        rw [hstays name hname] at hfile
        exact ⟨name, hname, hfile⟩
      · intro hp
        obtain ⟨name, hname, hfile⟩ := hp
        have hne := (hprints.listable name hname).ne_empty
        rw [← hstays name hname] at hne hfile
        exact ⟨name, hname, hne, hfile⟩

/-- A git whose diffs all list these names, in the repository at /repo. -/
def listingGit (names : List String) : Git :=
  some fun args => ⟨0, if args = topCommand then "/repo\n" else Text.listing names, ""⟩

theorem failure?_listingGit (names args : List String) : (listingGit names).failure? args = none := rfl

theorem prints_listingGit {names : List String} (h : ∀ name ∈ names, IsListable name) :
    (listingGit names).Prints ⟨true, false, none, none⟩ names where
  listable := h
  printed := ⟨fun _ => names, by simp [sources, DiffRequest.named?], fun _ _ => rfl⟩

/-- A space within a name is read back. -/
theorem inner_space_read_back :
    let git := listingGit ["p/a b.py"]
    let staged : DiffRequest := ⟨true, false, none, none⟩
    git.Prints staged ["p/a b.py"] ∧ (git.commands staged).findSome? git.failure? = none ∧
      ∃ files, ((git.changedFiles staged).run.run []).1 = .ok files ∧
        ∀ p, p ∈ files ↔ p = ⟨.root, ["repo", "p", "a b.py"]⟩ := by
  intro git staged
  have hdone : (git.commands staged).findSome? git.failure? = none :=
    List.findSome?_eq_none_iff.mpr fun args _ => failure?_listingGit _ args
  have hlistable : IsListable "p/a b.py" :=
    ⟨List.all_eq_true.mp (by decide), ["p", "a b.py"], by decide, by decide, by decide⟩
  have hprints : git.Prints staged ["p/a b.py"] := prints_listingGit (by simpa using hlistable)
  have hpath : git.top / Path.parse "p/a b.py" = ⟨.root, ["repo", "p", "a b.py"]⟩ := by cbv
  obtain ⟨files, hfiles, -, -, hread⟩ := listed_names_read_back_iff git staged _ [] hdone hprints
  refine ⟨hprints, hdone, files, hfiles, fun p => ?_⟩
  rw [hread.mpr (by decide) p]
  simp only [List.mem_singleton, exists_eq_left, hpath]

/-- A space in front of a name hides its file behind another one. -/
theorem leading_space_is_lost :
    let git := listingGit ["a.py", " a.py"]
    let staged : DiffRequest := ⟨true, false, none, none⟩
    git.Prints staged ["a.py", " a.py"] ∧ (git.commands staged).findSome? git.failure? = none ∧
      git.top / Path.parse " a.py" = ⟨.root, ["repo", " a.py"]⟩ ∧
      ((git.changedFiles staged).run.run []).1 = .ok [⟨.root, ["repo", "a.py"]⟩] := by
  intro git staged
  have hdone : (git.commands staged).findSome? git.failure? = none :=
    List.findSome?_eq_none_iff.mpr fun args _ => failure?_listingGit _ args
  have hplain : IsListable "a.py" := ⟨List.all_eq_true.mp (by decide), ["a.py"], by decide, by decide, by decide⟩
  have hspaced : IsListable " a.py" := ⟨List.all_eq_true.mp (by decide), [" a.py"], by decide, by decide, by decide⟩
  have hprints : git.Prints staged ["a.py", " a.py"] := prints_listingGit (by simpa using ⟨hplain, hspaced⟩)
  have hnames : git.names staged = ["a.py", "a.py"] := by cbv
  have htop : git.top = ⟨.root, ["repo"]⟩ := by cbv
  have hunique : ((["a.py", "a.py"].map fun name => (⟨.root, ["repo"]⟩ : Path) / Path.parse name).foldl addNew []) =
      [⟨.root, ["repo", "a.py"]⟩] := by cbv
  have hrun := asks_changedFiles git staged []
  refine ⟨hprints, hdone, by cbv, ?_⟩
  rw [hrun, hdone, hnames, htop, filesAt, hunique, List.mergeSort_singleton]
  rfl

end Ripple.Git
