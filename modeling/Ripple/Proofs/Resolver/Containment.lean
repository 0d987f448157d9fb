import Ripple.Proofs.Resolver.Resolution

/-! Imports from within a folder.

A relative import looks for places in the folder it starts from, and what it finds at such a place lies in
the folder (`isInside_fileOf`, `isInside_packageOf`). There are two ways out (`inside_of_lookup`): the folder
itself is looked up like any place, and a file beside it may have its name; and where nothing has a place,
a module elsewhere may have the name that the place spells. An import reaches nothing else outside
(`targets_lie_in_folder_unless_named`), but it does reach these (`imports_reach_out_of_their_folder`). -/
namespace Ripple

open Resolver

/-- The path of the module leads through the folder. -/
def IsInside (folder : List String) (id : ModuleId) : Prop :=
  (Text.join "/" folder ++ "/").toList <+: id.toList

instance (folder : List String) (id : ModuleId) : Decidable (IsInside folder id) :=
  inferInstanceAs (Decidable (_ <+: _))

/-- Nothing has the place of the parts, and the module has their name. -/
structure FoundByName (ids : List ModuleId) (parts : List String) (id : ModuleId) : Prop where
  file : fileOf parts ∉ ids
  package : packageOf parts ∉ ids
  name : (ofModules ids).moduleName id = Text.join "." parts

section Folder
variable {ids : List ModuleId} {folder rest : List String} {t : ModuleId}

theorem isInside_append (folder : List String) (below : String) :
    IsInside folder (Text.join "/" folder ++ "/" ++ below) := by
  show _ <+: (Text.join "/" folder ++ "/" ++ below).toList
  rw [String.toList_append (s := Text.join "/" folder ++ "/")]
  exact List.prefix_append ..

theorem isInside_fileOf (hfolder : folder ≠ []) (hrest : rest ≠ []) : IsInside folder (fileOf (folder ++ rest)) := by
  rw [fileOf, Text.join_append hfolder hrest, String.append_assoc]
  exact isInside_append folder _

theorem isInside_packageOf (hfolder : folder ≠ []) : IsInside folder (packageOf (folder ++ rest)) := by
  by_cases hrest : rest = []
  · rw [hrest, List.append_nil]
    exact isInside_append folder packageFile
  · rw [packageOf, Text.join_append hfolder hrest, String.append_assoc, String.append_assoc]
    exact isInside_append folder _

/-- What is found for a place in a folder lies in it, or is the file with the name of the folder, or has a
name that spells the place. -/
theorem inside_of_lookup (hfolder : folder ≠ []) (h : (ofModules ids).lookup (folder ++ rest) = some t) :
    IsInside folder t ∨ rest = [] ∧ t = fileOf folder ∨ FoundByName ids (folder ++ rest) t := by
  rw [lookup_eq _ (by simp [hfolder])] at h
  simp only [contains_ofModules] at h
  split at h
  · obtain rfl := Option.some.inj h
    by_cases hrest : rest = []
    · exact .inr (.inl ⟨hrest, by rw [hrest, List.append_nil]⟩)
    · exact .inl (isInside_fileOf hfolder hrest)
  · next hfile =>
    split at h
    · obtain rfl := Option.some.inj h
      exact .inl (isInside_packageOf hfolder)
    · next hpackage => exact .inr (.inr ⟨hfile, hpackage, (moduleName_of_byName h).2⟩)

end Folder

/-- A start of a relative import keeps the folder, and more if the import names a module. -/
theorem exists_start_of_floor {i : Import} {folder : List String} {n : Nat} (hlevel : i.level ≠ 0)
    (hfloor : floor folder i ≤ n) : ∃ k, n = folder.length + k ∧ (i.dotted ≠ "" → k ≠ 0) := by
  unfold floor at hfloor
  rw [if_neg hlevel] at hfloor
  split at hfloor
  · next hdotted => exact ⟨n - folder.length, by omega, fun hne => absurd hdotted hne⟩
  · exact ⟨n - folder.length, by omega, fun _ => by omega⟩

/-- **What a relative import reaches lies in the folder it starts from**, unless it names no module and the
file beside the folder comes in its place, or nothing has a place that it looks for and the name of a module
spells that place. -/
theorem targets_lie_in_folder_unless_named {ids : List ModuleId} {i : Import} {folder : List String}
    {t : ModuleId} (hlevel : 0 < i.level) (ha : anchor? i = some folder) (hfolder : folder ≠ [])
    (ht : t ∈ ((ofModules ids).resolve i).targets) :
    IsInside folder t ∨
      (i.dotted = "" ∧ (i.asked = [] ∨ (ofModules ids).unanswered folder i ≠ []) ∧ t = fileOf folder) ∨
      ∃ asked ∈ i.questions, ∃ start, start <+: i.parts ++ asked ∧ FoundByName ids (folder ++ start) t := by
  rcases (mem_targets_iff ha t).mp ht with ⟨asked, hasked, hfound⟩ | ⟨hnone, htrimmed⟩
  · rw [List.append_assoc] at hfound
    rcases inside_of_lookup hfolder hfound with hinside | ⟨hrest, rfl⟩ | hname
    · exact .inl hinside
    · -- only the import of a star asks for the folder itself
      obtain ⟨hparts, rfl⟩ := List.append_eq_nil_iff.mp hrest
      have hdotted : i.dotted = "" := Import.parts_eq_nil_iff.mp hparts
      have hstar : i.asked = [] := by
        rcases Import.exists_question_iff.mp ⟨_, hasked, rfl⟩ with ⟨hstar, _⟩ | ⟨_, _, hname⟩
        · exact hstar
        · cases hname
      exact .inr (.inl ⟨hdotted, .inl hstar, rfl⟩)
    · exact .inr (.inr ⟨asked, hasked, i.parts ++ asked, List.prefix_rfl, hname⟩)
  · obtain ⟨n, hfloor, hn, hfound⟩ := exists_of_lookupTrimmed htrimmed
    obtain ⟨k, rfl, hk⟩ := exists_start_of_floor (Nat.ne_of_gt hlevel) hfloor
    rw [List.take_length_add_append] at hfound
    rcases inside_of_lookup hfolder hfound with hinside | ⟨hrest, rfl⟩ | hname
    · exact .inl hinside
    · have hdotted : i.dotted = "" := by
        rcases List.take_eq_nil_iff.mp hrest with hzero | hparts
        · exact Decidable.byContradiction fun hne => hk hne hzero
        · exact Import.parts_eq_nil_iff.mp hparts
      exact .inr (.inl ⟨hdotted, .inr hnone, rfl⟩)
    · obtain ⟨asked, hasked, _⟩ := unanswered_ne_nil_iff.mp hnone
      exact .inr (.inr ⟨asked, hasked, i.parts.take k,
        (List.take_prefix k i.parts).trans (List.prefix_append ..), hname⟩)

/-- What the import of a module that is not there reaches instead has the name that its place spells. -/
theorem namesake_is_found_by_name :
    let ids := ["pkg/mod.py", "src/pkg/__init__.py", "src/pkg/x.py"]
    let i : Import := ⟨"x", 1, ["y"], "pkg/mod.py", 1⟩
    0 < i.level ∧ anchor? i = some ["pkg"] ∧ ["pkg"] ≠ [] ∧
      "src/pkg/x.py" ∈ ((ofModules ids).resolve i).targets ∧ ¬ IsInside ["pkg"] "src/pkg/x.py" ∧
      ∃ asked ∈ i.questions, ∃ start, start <+: i.parts ++ asked ∧
        FoundByName ids (["pkg"] ++ start) "src/pkg/x.py" := by
  intro ids i
  have hlevel : 0 < i.level := by decide
  have hanchor : anchor? i = some ["pkg"] := by decide
  have hfolder : ["pkg"] ≠ [] := by decide
  have ht : "src/pkg/x.py" ∈ ((ofModules ids).resolve i).targets := by
    rw [ofModules, sortIds_ascending (by decide)]
    decide
  have houtside : ¬ IsInside ["pkg"] "src/pkg/x.py" := by decide
  refine ⟨hlevel, hanchor, hfolder, ht, houtside, ?_⟩
  rcases targets_lie_in_folder_unless_named hlevel hanchor hfolder ht with hinside | ⟨hdotted, _⟩ | hname
  · exact absurd hinside houtside
  · exact absurd hdotted (by decide)
  · exact hname

/-- An import reaches a module outside the folder it starts from. -/
structure ReachesOut (ids : List ModuleId) (folder : List String) (i : Import) (t : ModuleId) : Prop where
  level : 0 < i.level
  anchor : anchor? i = some folder
  inFolder : folder ≠ []
  target : t ∈ ((ofModules ids).resolve i).targets
  outside : ¬ IsInside folder t

/-- A file beside a folder is taken for the package in it, and a module of another package with the same name
for one that is not there. -/
theorem imports_reach_out_of_their_folder :
    ReachesOut ["pkg.py", "pkg/__init__.py", "pkg/mod.py"] ["pkg"] ⟨"", 1, ["x"], "pkg/mod.py", 1⟩ "pkg.py" ∧
      ReachesOut ["pkg/mod.py", "src/pkg/__init__.py", "src/pkg/x.py"] ["pkg"] ⟨"x", 1, ["y"], "pkg/mod.py", 1⟩
        "src/pkg/x.py" := by
  refine ⟨⟨by decide, by decide, by decide, ?_, by decide⟩, ⟨by decide, by decide, by decide, ?_, by decide⟩⟩ <;>
  · rw [ofModules, sortIds_ascending (by decide)]
    decide

end Ripple
