import Ripple.Proofs.Resolver.Naming

/-! The names that imports of the project start with.

Whatever is found for some parts, by its path or by its name, starts like them, so the first of them is a name
at the top of the project (`mem_topLevels_of_lookup`). An absolute import that starts otherwise leads
nowhere, whatever follows (`targets_eq_nil_of_not_topLevel`). -/
namespace Ripple

open Resolver

/-! ### First names -/

theorem dropSourceEnding_source (stem : String) : dropSourceEnding (stem ++ ".py") = stem := by
  have hsuffix : ".py".toList.isSuffixOf (stem ++ ".py").toList = true := by
    rw [List.isSuffixOf_iff_suffix, String.toList_append]
    exact List.suffix_append ..
  have hlength : (stem ++ ".py").length - 3 = stem.toList.length := by
    rw [String.length_append, String.length_toList]
    rfl
  rw [dropSourceEnding, if_pos hsuffix, hlength, String.toList_append, List.take_left, String.ofList_toList]

theorem dropSourceEnding_of_undotted {name : String} (h : '.' ∉ name.toList) : dropSourceEnding name = name := by
  rw [dropSourceEnding, if_neg]
  rw [List.isSuffixOf_iff_suffix]
  exact fun hsuffix => h (hsuffix.subset (by decide))

/-- An import with a head has it for its first part. -/
theorem Import.exists_parts_of_head {i : Import} (h : i.head ≠ "") : ∃ more, i.parts = i.head :: more := by
  have hdotted : i.dotted ≠ "" := by
    intro hempty
    rw [Import.head, hempty] at h
    exact h rfl
  obtain ⟨first, more, hsplit⟩ := List.exists_cons_of_ne_nil (Text.split_ne_nil '.' i.dotted)
  refine ⟨more, ?_⟩
  rw [Import.parts, if_neg hdotted, Import.head, hsplit, List.headD_cons]

/-- A dotted name without slashes has a segment for its head, unless it starts with a point. -/
theorem Import.isSegment_head {i : Import} {c : Char} {cs : List Char} (hdotted : i.dotted.toList = c :: cs)
    (hpoint : c ≠ '.') (hslash : '/' ∉ i.dotted.toList) : IsSegment i.head := by
  obtain ⟨first, more, hsplit⟩ := Text.exists_split_cons hdotted hpoint
  have hhead : i.head = .ofList (c :: first) := by rw [Import.head, hsplit, List.headD_cons]
  have hfield : i.head ∈ Text.split '.' i.dotted := by
    rw [hhead, hsplit]
    exact List.mem_cons_self ..
  have hfilled : i.head ≠ "" := by
    rw [hhead, ne_eq, String.ofList_eq_empty_iff]
    exact List.cons_ne_nil _ _
  exact ⟨hfilled, Text.not_mem_of_mem_split hfield, fun hmem => hslash ((Text.infix_of_mem_split hfield).subset hmem)⟩

namespace Resolver

section TopLevels
variable {ids : List ModuleId} {c : String} {more : List String} {m : ModuleId}

theorem mem_topLevels_of_path (hm : m ∈ ids) (hc : dropSourceEnding ((Path.parse m).parts.headD "") = c) :
    c ∈ (ofModules ids).topLevels :=
  List.mem_append_left _ (List.mem_map.mpr ⟨m, (mem_known_ofModules ids m).mpr hm, hc⟩)

theorem mem_topLevels_of_byName {name : String} (hm : (ofModules ids).byName.get? name = some m)
    (hne : c ≠ "") (hc : (Text.split '.' name).headD "" = c) : c ∈ (ofModules ids).topLevels := by
  have hname : name ≠ "" := by
    intro hempty
    rw [hempty] at hc
    exact hne hc.symm
  have hkey : name ∈ (ofModules ids).byName.keys := (OrderedMap.mem_keys_iff ..).mpr ⟨m, hm⟩
  exact List.mem_append_right _
    (List.mem_map.mpr ⟨name, List.mem_filter.mpr ⟨hkey, bne_iff_ne.mpr hname⟩, hc⟩)

/-- A module in a folder has the name of the folder at its top. -/
theorem mem_topLevels_of_folder (hc : IsSegment c) {rest : String} (hm : c ++ "/" ++ rest ∈ ids) :
    c ∈ (ofModules ids).topLevels := by
  refine mem_topLevels_of_path hm ?_
  rw [Path.parse_cons hc.isProper, Path.parts_relative, List.headD_cons, dropSourceEnding_of_undotted hc.2.1]

/-- A file at the top has its name without the ending. -/
theorem mem_topLevels_of_file (hc : IsSegment c) (hm : c ++ ".py" ∈ ids) : c ∈ (ofModules ids).topLevels := by
  refine mem_topLevels_of_path hm ?_
  rw [Path.parse_of_proper hc.isProper_source, Path.parts_relative, List.headD_cons, dropSourceEnding_source]

theorem head_split_join (hc : '.' ∉ c.toList) (more : List String) :
    (Text.split '.' (Text.join "." (c :: more))).headD "" = c := by
  rw [Text.split_join_flatMap rfl (List.cons_ne_nil c more), List.flatMap_cons, Text.split_of_not_mem hc]
  rfl

/-- **Whatever is found for some parts, the first of them is a name at the top of the project.** -/
theorem mem_topLevels_of_lookup (hc : IsSegment c) (h : (ofModules ids).lookup (c :: more) = some m) :
    c ∈ (ofModules ids).topLevels := by
  rw [lookup_eq _ (List.cons_ne_nil c more)] at h
  simp only [contains_ofModules] at h
  split at h
  · next hfile =>
    by_cases hmore : more = []
    · rw [hmore] at hfile
      exact mem_topLevels_of_file hc hfile
    · rw [fileOf, Text.join_cons hmore, String.append_assoc] at hfile
      exact mem_topLevels_of_folder hc hfile
  · split at h
    · next hpackage =>
      by_cases hmore : more = []
      · rw [hmore] at hpackage
        exact mem_topLevels_of_folder hc hpackage
      · rw [packageOf, Text.join_cons hmore, String.append_assoc, String.append_assoc] at hpackage
        exact mem_topLevels_of_folder hc hpackage
    · exact mem_topLevels_of_byName h hc.1 (head_split_join hc.2.1 more)

end TopLevels

/-- **An absolute import that starts with no name at the top of the project leads nowhere**, whatever
follows. -/
theorem targets_eq_nil_of_not_topLevel {ids : List ModuleId} {i : Import} (hlevel : i.level = 0)
    (hhead : IsSegment i.head) (hout : i.head ∉ (ofModules ids).topLevels) :
    ((ofModules ids).resolve i).targets = [] := by
  have ha : anchor? i = some [] := if_pos hlevel
  obtain ⟨more, hparts⟩ := Import.exists_parts_of_head hhead.1
  have hnowhere : ∀ more, (ofModules ids).lookup (i.head :: more) = none := fun more =>
    Option.eq_none_iff_forall_ne_some.mpr fun m hm => hout (mem_topLevels_of_lookup hhead hm)
  refine List.eq_nil_iff_forall_not_mem.mpr fun t ht => ?_
  rcases (mem_targets_iff ha t).mp ht with ⟨asked, _, hfound⟩ | ⟨_, htrimmed⟩
  · rw [hparts, List.nil_append, List.cons_append, hnowhere] at hfound
    cases hfound
  · obtain ⟨n, hfloor, _, hfound⟩ := exists_of_lookupTrimmed htrimmed
    have hfloor : 1 ≤ n := by simpa [floor, hlevel] using hfloor
    obtain ⟨n, rfl⟩ := Nat.exists_eq_add_of_le' hfloor
    rw [hparts, List.nil_append, List.take_succ_cons, hnowhere] at hfound
    cases hfound

end Resolver

end Ripple
