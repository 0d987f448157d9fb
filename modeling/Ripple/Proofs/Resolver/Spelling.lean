import Ripple.Proofs.Resolver.Place

/-! Two spellings of an import.

What lies in a package can be imported from beside it, by its place (`mem_targets_beside`), or from
anywhere, by its name (`mem_targets_spelledOut`). Where the package has its place for a name, both
are one. Elsewhere what has a name in the package is found both ways
(`absolute_spelling_reaches_named_targets`), and what has none there is not
(`names_lose_what_places_reach`). -/
namespace Ripple

open Resolver

/-- The parts of a dotted name; the empty name has none. -/
def nameParts (name : String) : List String := if name = "" then [] else Text.split '.' name

theorem nameParts_join {parts : List String} (h : ∀ s ∈ parts, IsSegment s) :
    nameParts (Text.join "." parts) = parts := by
  by_cases hp : parts = []
  · subst hp
    rfl
  · rw [nameParts, if_neg fun hj => hp ((Text.join_eq_empty_iff fun s hs => (h s hs).1).mp hj),
      Text.split_join rfl hp fun s hs => (h s hs).2.1]

theorem join_nameParts (name : String) : Text.join "." (nameParts name) = name := by
  unfold nameParts
  split
  · next hname => exact hname.symm
  · exact Text.join_split rfl name

/-! ### Imports from beside and from anywhere -/

/-- An import of something in a package, spelled out so that it means the same anywhere. -/
def Import.spelledOut (i : Import) (package : String) : Import :=
  { i with level := 0, dotted := if package = "" then i.dotted else package ++ "." ++ i.dotted }

section Imports
variable {r : Resolver} {i : Import} {folder : List String}

theorem parts_spelledOut (hdotted : i.dotted ≠ "") (package : String) :
    (i.spelledOut package).parts = nameParts package ++ i.parts := by
  have hparts : i.parts = Text.split '.' i.dotted := if_neg hdotted
  by_cases hp : package = ""
  · simp [Import.spelledOut, nameParts, hp, Import.parts]
  · rw [hparts, nameParts, if_neg hp, ← Text.split_append_separator (show ".".toList = ['.'] from rfl)]
    simp [Import.spelledOut, Import.parts, hp]

/-- A name is looked up whole, and then start by start. -/
theorem mem_targets_spelledOut (hdotted : i.dotted ≠ "") (package : String) (t : ModuleId) :
    t ∈ (r.resolve (i.spelledOut package)).targets ↔
      (∃ name ∈ i.asked, r.lookup (nameParts package ++ (i.parts ++ [name])) = some t) ∨
      (i.asked = [] ∨ ∃ name ∈ i.asked, r.lookup (nameParts package ++ (i.parts ++ [name])) = none) ∧
        r.lookupTrimmed (nameParts package ++ i.parts) 1 = some t := by
  have hanchor : anchor? (i.spelledOut package) = some [] := if_pos rfl
  have hbase : nameParts package ++ i.parts ≠ [] := by simp [Import.parts_eq_nil_iff, hdotted]
  have hasked : (i.spelledOut package).asked = i.asked := rfl
  have hfloor : floor [] (i.spelledOut package) = 1 := if_pos rfl
  rw [mem_targets_resolve hanchor, parts_spelledOut hdotted, hasked, hfloor]
  simp only [List.nil_append, List.append_assoc, ne_eq, hbase, not_false_eq_true, true_and]

/-- A place is looked up whole, and then start by start as far as the folder. -/
theorem mem_targets_beside (hfile : (Path.parse i.file).parent = ⟨.relative, folder⟩) (hlevel : i.level = 1)
    (hdotted : i.dotted ≠ "") (t : ModuleId) :
    t ∈ (r.resolve i).targets ↔
      (∃ name ∈ i.asked, r.lookup (folder ++ (i.parts ++ [name])) = some t) ∨
      (i.asked = [] ∨ ∃ name ∈ i.asked, r.lookup (folder ++ (i.parts ++ [name])) = none) ∧
        r.lookupTrimmed (folder ++ i.parts) (folder.length + 1) = some t := by
  have hanchor : anchor? i = some folder := by simp [anchor?, hlevel, hfile]
  have hbase : folder ++ i.parts ≠ [] := by simp [Import.parts_eq_nil_iff, hdotted]
  have hfloor : floor folder i = folder.length + 1 := by simp [floor, hlevel, hdotted]
  rw [mem_targets_resolve hanchor, hfloor]
  simp only [List.append_assoc, ne_eq, hbase, not_false_eq_true, true_and]

/-- Where a package has its place for a name, the name leads wherever the place does. -/
theorem target_by_name_of_same_place (hfile : (Path.parse i.file).parent = ⟨.relative, folder⟩)
    (hlevel : i.level = 1) (hdotted : i.dotted ≠ "") {package : String} (hplace : nameParts package = folder)
    {t : ModuleId} (ht : t ∈ (r.resolve i).targets) : t ∈ (r.resolve (i.spelledOut package)).targets := by
  rw [mem_targets_beside hfile hlevel hdotted] at ht
  rw [mem_targets_spelledOut hdotted, hplace]
  exact ht.imp_right (And.imp_right (lookupTrimmed_of_floor_le (Nat.le_add_left 1 folder.length)))

/-- **What an import reaches by a place in the package and has a name there it reaches by that name.** -/
theorem ByNameAlone.target_by_name {ids : List ModuleId} (h : ByNameAlone ids folder) (hi : i.WellFormed)
    (hfile : (Path.parse i.file).parent = ⟨.relative, folder⟩) (hlevel : i.level = 1)
    (hdotted : i.dotted ≠ "") {package : String} (hname : nameParts package = packagesTo ids folder) {t : ModuleId}
    (hbeneath : Graph.liesBeneath (Text.join "." (packagesTo ids folder))
      ((ofModules ids).moduleName t) = true)
    (ht : t ∈ ((ofModules ids).resolve i).targets) :
    t ∈ ((ofModules ids).resolve (i.spelledOut package)).targets := by
  rw [mem_targets_beside hfile hlevel hdotted] at ht
  rw [mem_targets_spelledOut hdotted, hname]
  have hasked : ∀ name ∈ i.asked, ∀ s ∈ i.parts ++ [name], IsSegment s := fun name hmem =>
    segments_concat hi.parts (hi.asked name hmem)
  have hnone : ∀ name ∈ i.asked, (ofModules ids).lookup (folder ++ (i.parts ++ [name])) = none ∨
      "__init__" ∈ i.parts ++ [name] →
      (ofModules ids).lookup (packagesTo ids folder ++ (i.parts ++ [name])) = none := by
    intro name hmem hplace
    rw [Option.eq_none_iff_forall_ne_some]
    intro m hm
    obtain ⟨hsome, hinit⟩ := h.place_of_name (hasked name hmem) hm
    exact hplace.elim hsome hinit
  rcases ht with ⟨name, hmem, ht⟩ | ⟨hmissing, ht⟩
  · rcases h.name_of_place (by simp) (hasked name hmem) ht hbeneath with hfound | ⟨above, hsplit, hfound⟩
    · exact .inl ⟨name, hmem, hfound⟩
    · -- a package file asked for as a module comes as its package
      obtain ⟨rfl, rfl⟩ : i.parts = above ∧ name = "__init__" := by simpa using List.append_inj' hsplit rfl
      refine .inr ⟨.inr ⟨_, hmem, hnone _ hmem (.inr (by simp))⟩, lookupTrimmed_of_lookup ?_ hfound⟩
      exact List.length_pos_iff.mpr (by simp [h.packages_ne_nil])
  · refine .inr ⟨hmissing.imp_right ?_, h.lookupTrimmed_name hi.parts ht hbeneath⟩
    exact fun hx => hx.imp fun name hx => ⟨hx.1, hnone name hx.1 (.inl hx.2)⟩

end Imports

/-! ### The two spellings -/

/-- The name of the package in a folder. -/
def packageName (ids : List ModuleId) (folder : List String) : String :=
  (ofModules ids).moduleName (fileOf (folder ++ ["__init__"]))

section Package
variable {ids : List ModuleId} {folder : List String}

theorem packageName_eq (hs : ∀ s ∈ folder, IsSegment s) :
    packageName ids folder = Text.join "." (namingPath ids folder "__init__") := by
  rw [packageName, moduleName_ofModules, moduleName_fileOf ids (segments_concat hs isSegment_init)]

theorem nameParts_packageName (hs : ∀ s ∈ folder, IsSegment s)
    (hpackage : fileOf (folder ++ ["__init__"]) ∈ ids) :
    nameParts (packageName ids folder) = packagesTo ids folder := by
  have hsegments : ∀ s ∈ namingPath ids folder "__init__", IsSegment s :=
    segments_namingPath (segments_concat hs isSegment_init)
  rw [packageName_eq hs, nameParts_join hsegments, namingPath, ownParts, if_pos rfl, List.append_nil]
  split
  · next hnone =>
    rw [hnone]
    by_contra hne
    exact packagesTo_ne_nil hpackage hne hnone
  · rfl

/-- A folder with a package file is named like the others. -/
theorem Undotted.segments (hundotted : Undotted ids) (hproper : ∀ n ∈ folder, Path.IsProper n)
    (hpackage : fileOf (folder ++ ["__init__"]) ∈ ids) : ∀ s ∈ folder, IsSegment s := by
  obtain ⟨folder', stem, hs, _, hid⟩ := hundotted _ hpackage
  have hparse := congrArg Path.parse hid
  rw [fileOf_init, Path.parse_join (Path.proper_concat hproper (by decide)), parse_fileOf hs,
    Path.mk.injEq] at hparse
  rw [List.append_inj_left' hparse.2 rfl]
  exact fun s hm => hs s (List.mem_append_left _ hm)

end Package

/-- An import of something from beside, in a package that is in nobody's way: no two modules have one
name, and where the name of the package leads there is nothing, unless the package itself is there. -/
structure BesidePackage (ids : List ModuleId) (folder : List String) (i : Import) : Prop where
  distinct : DistinctNames ids
  package : fileOf (folder ++ ["__init__"]) ∈ ids
  clear : nameParts (packageName ids folder) = folder ∨ Vacant ids (nameParts (packageName ids folder))
  file : (Path.parse i.file).parent = ⟨.relative, folder⟩
  level : i.level = 1
  dotted : i.dotted ≠ ""

theorem packageName_eq_moduleName (ids : List ModuleId) (folder : List String) :
    packageName ids folder = moduleName ids (fileOf (folder ++ ["__init__"])) := moduleName_ofModules ..

instance (ids : List ModuleId) (folder : List String) (i : Import) : Decidable (BesidePackage ids folder i) :=
  decidable_of_iff
    (DistinctNames ids ∧ fileOf (folder ++ ["__init__"]) ∈ ids ∧
      (nameParts (moduleName ids (fileOf (folder ++ ["__init__"]))) = folder ∨
        Vacant ids (nameParts (moduleName ids (fileOf (folder ++ ["__init__"]))))) ∧
      (Path.parse i.file).parent = ⟨.relative, folder⟩ ∧ i.level = 1 ∧ i.dotted ≠ "")
    (by
      rw [← packageName_eq_moduleName]
      exact ⟨fun h => ⟨h.1, h.2.1, h.2.2.1, h.2.2.2.1, h.2.2.2.2.1, h.2.2.2.2.2⟩,
        fun h => ⟨h.distinct, h.package, h.clear, h.file, h.level, h.dotted⟩⟩)

/-- **From beside and from anywhere an import reaches the same**, if the package has its place for a name, or
what is reached has a name in the package. -/
theorem absolute_spelling_reaches_named_targets {ids : List ModuleId} {folder : List String} {i : Import}
    (h : BesidePackage ids folder i) {t : ModuleId} (ht : t ∈ ((ofModules ids).resolve i).targets)
    (hnamed : nameParts (packageName ids folder) = folder ∨
      Undotted ids ∧ i.WellFormed ∧
        Graph.liesBeneath (packageName ids folder) ((ofModules ids).moduleName t) = true) :
    t ∈ ((ofModules ids).resolve (i.spelledOut (packageName ids folder))).targets := by
  by_cases hplace : nameParts (packageName ids folder) = folder
  · exact target_by_name_of_same_place h.file h.level h.dotted hplace ht
  obtain ⟨hundotted, hi, hbeneath⟩ := hnamed.resolve_left hplace
  have hproper : ∀ n ∈ folder, Path.IsProper n := by
    intro n hn
    have hnames : (Path.parse i.file).parent.names = folder := by rw [h.file]
    exact Path.proper_of_mem_parse (List.dropLast_subset _ (hnames ▸ hn))
  have hs := hundotted.segments hproper h.package
  have hname := nameParts_packageName hs h.package
  have hfolder : folder ≠ [] := by
    intro hroot
    subst hroot
    exact hplace (hname.trans (packagesTo_nil ids))
  have halone : ByNameAlone ids folder :=
    ⟨h.distinct, hundotted, h.package, hfolder, hs, hname ▸ h.clear.resolve_left hplace⟩
  refine halone.target_by_name hi h.file h.level h.dotted hname ?_ ht
  rwa [← join_nameParts (packageName ids folder), hname] at hbeneath

/-- A module of a package in a package below `src` is reached by either spelling. -/
theorem module_of_inner_package_reached_by_both_spellings :
    let ids := ["src/pkg/__init__.py", "src/pkg/sub/__init__.py", "src/pkg/sub/mod.py", "src/pkg/use.py"]
    let i : Import := ⟨"sub.mod", 1, ["*"], "src/pkg/use.py", 1⟩
    BesidePackage ids ["src", "pkg"] i ∧ Undotted ids ∧ i.WellFormed ∧
      Graph.liesBeneath (packageName ids ["src", "pkg"])
        ((ofModules ids).moduleName "src/pkg/sub/mod.py") = true ∧
      "src/pkg/sub/mod.py" ∈ ((ofModules ids).resolve i).targets ∧
      i.spelledOut (packageName ids ["src", "pkg"]) = ⟨"pkg.sub.mod", 0, ["*"], "src/pkg/use.py", 1⟩ ∧
      "src/pkg/sub/mod.py" ∈
        ((ofModules ids).resolve (i.spelledOut (packageName ids ["src", "pkg"]))).targets := by
  intro ids i
  have hbeside : BesidePackage ids ["src", "pkg"] i := by decide
  have hname : packageName ids ["src", "pkg"] = "pkg" := by
    rw [packageName_eq_moduleName]
    decide
  have hundotted : Undotted ids := by
    intro id hid
    simp only [ids, List.mem_cons, List.not_mem_nil, or_false] at hid
    rcases hid with rfl | rfl | rfl | rfl
    · exact ⟨["src", "pkg"], "__init__", by decide, by decide, by decide⟩
    · exact ⟨["src", "pkg", "sub"], "__init__", by decide, by decide, by decide⟩
    · exact ⟨["src", "pkg", "sub"], "mod", by decide, by decide, by decide⟩
    · exact ⟨["src", "pkg"], "use", by decide, by decide, by decide⟩
  have hbeneath : Graph.liesBeneath (packageName ids ["src", "pkg"])
      ((ofModules ids).moduleName "src/pkg/sub/mod.py") = true := by
    rw [hname, moduleName_ofModules]
    decide
  have ht : "src/pkg/sub/mod.py" ∈ ((ofModules ids).resolve i).targets := by
    rw [ofModules, sortIds_ascending (by decide)]
    decide
  exact ⟨hbeside, hundotted, by decide, hbeneath, ht, by rw [hname]; decide,
    absolute_spelling_reaches_named_targets hbeside ht (.inr ⟨hundotted, by decide, hbeneath⟩)⟩

/-- An import reaches a module from beside, and not by the name of its package. -/
def LosesTarget (ids : List ModuleId) (folder : List String) (i : Import) (t : ModuleId) : Prop :=
  BesidePackage ids folder i ∧ t ∈ ((ofModules ids).resolve i).targets ∧
    t ∉ ((ofModules ids).resolve (i.spelledOut (packageName ids folder))).targets

/-- What has no name in a package is not reached by one: a module in a folder that is no package, whose
name is its path; a module outside the package that is found by the name that the place spells; and what
dotted names, or folders named like package files, keep from view. -/
theorem names_lose_what_places_reach :
    LosesTarget ["src/pkg/__init__.py", "src/pkg/sub/mod.py", "src/pkg/use.py"] ["src", "pkg"]
        ⟨"sub.mod", 1, ["*"], "src/pkg/use.py", 1⟩ "src/pkg/sub/mod.py" ∧
      LosesTarget ["lib/src/__init__.py", "lib/src/pkg/__init__.py", "lib/src/pkg/x.py",
          "src/pkg/__init__.py", "src/pkg/use.py"] ["src", "pkg"] ⟨"x", 1, ["*"], "src/pkg/use.py", 1⟩ "lib/src/pkg/x.py" ∧
      LosesTarget ["pkg.x.y.py", "src/pkg/__init__.py", "src/pkg/use.py", "src/pkg/x.py"] ["src", "pkg"]
        ⟨"x.y", 1, ["*"], "src/pkg/use.py", 1⟩ "src/pkg/x.py" ∧
      LosesTarget ["src/pkg/__init__.py", "src/pkg/use.py", "src/pkg/x/__init__.py",
          "src/pkg/x/b/__init__.py", "src/pkg/x/b/c.py"] ["src", "pkg"] ⟨"x", 1, ["b.c"], "src/pkg/use.py", 1⟩ "src/pkg/x/__init__.py" ∧
      LosesTarget ["src/pkg/__init__.py", "src/pkg/__init__/__init__.py", "src/pkg/use.py"] ["src", "pkg"]
        ⟨"__init__", 1, ["*"], "src/pkg/use.py", 1⟩ "src/pkg/__init__.py" := by
  refine ⟨?_, ?_, ?_, ?_, ?_⟩ <;>
  · refine ⟨by decide, ?_⟩
    rw [packageName_eq_moduleName, ofModules, sortIds_ascending (by decide)]
    decide

end Ripple
