import Ripple.Proofs.Graph.Edit
import Ripple.Proofs.Resolver.Naming

/-! Names that lead to a file once it is gone.

A relative import asks in vain under a name that starts with that of a file in the folder it starts from:
the name of what it asks for comes from the package file of this folder (`absoluteName_relative`), the name
of the file from the folders above it, and both begin alike (`absoluteName_beneath_file`). So whoever deletes
the file and asks the graph for its name finds the importer, whatever the layout of the project
(`dangling_names_follow_files`). -/
namespace Ripple

/-! ### Graphs with a name asked for in vain -/

namespace Graph

theorem liesBeneath_join {parts whole : List String} (hne : parts ≠ []) (h : parts <+: whole) :
    liesBeneath (Text.join "." parts) (Text.join "." whole) = true := by
  obtain ⟨rest, rfl⟩ := h
  rw [liesBeneath_iff, Text.split_join_flatMap rfl hne, Text.split_join_flatMap rfl (by simp [hne]),
    List.flatMap_append]
  exact List.prefix_append ..

theorem ne_empty_of_liesBeneath {dotted target : String} (h : liesBeneath dotted target = true)
    (hne : dotted ≠ "") : target ≠ "" := by
  intro hempty
  rw [liesBeneath, Bool.or_eq_true, beq_iff_eq, List.isPrefixOf_iff_prefix, hempty] at h
  rcases h with h | h
  · exact hne h.symm
  · simp at h

/-- Who has asked for a name beneath another stays among those who asked for it. -/
theorem mem_danglingImporters_of_addDangling {dotted target : String} (h : liesBeneath dotted target = true)
    (hne : dotted ≠ "") (g : Graph) (importer : ModuleId) (edits : List GraphEdit) :
    importer ∈ (edits.foldl apply (g.addDangling importer target)).danglingImporters dotted := by
  have hasks : importer ∈ (g.apply (.dangling importer target)).askers target :=
    (mem_askers_apply ..).mpr (.inr ⟨rfl, ne_empty_of_liesBeneath h hne⟩)
  have hstays : importer ∈ (edits.foldl apply (g.apply (.dangling importer target))).askers target :=
    (foldl_apply_iff (P := (importer ∈ askers · target)) (mem_askers_apply importer target) ..).mpr (.inl hasks)
  exact (mem_danglingImporters ..).mpr ⟨target, h, hstays⟩

end Graph

open Resolver

/-! ### Names of files that are not there -/

/-- The folder that an import starts from has proper names, if its file lies below the root of the project. -/
theorem anchor_proper {i : Import} {folder : List String} (hfile : (Path.parse i.file).isAbsolute = false)
    (ha : anchor? i = some folder) : ∀ n ∈ folder, Path.IsProper n := by
  have hparts : (Path.parse i.file).parent.parts = (Path.parse i.file).names.dropLast := by
    rw [Path.parent, Path.parts, if_neg]
    exact Bool.eq_false_iff.mp hfile
  intro n hn
  have hmem := anchor_subset ha hn
  rw [hparts] at hmem
  exact Path.proper_of_mem_parse (List.dropLast_subset _ hmem)

section File
variable {r : Resolver} {folder : List String} {x : String} (hfolder : ∀ n ∈ folder, Path.IsProper n)
  (hx : IsSegment x) (hplain : x ≠ "__init__")
include hfolder hx hplain

/-- A plain file in a folder is named after it. -/
theorem moduleName_plain :
    r.moduleName (fileOf (folder ++ [x])) = Text.join "." (namingPath r.known folder "__init__" ++ [x]) := by
  rw [Resolver.moduleName, moduleName_source r.known hfolder hx, namingPath_eq, ownParts, if_neg hplain]

theorem moduleName_plain_ne_empty : r.moduleName (fileOf (folder ++ [x])) ≠ "" := by
  have hnames : ∀ n ∈ namingPath r.known folder "__init__" ++ [x], n ≠ "" := by
    intro n hn
    rcases List.mem_append.mp hn with hn | hn
    · exact (hfolder n (namingPath_init_subset r.known folder hn)).ne_empty
    · exact List.mem_singleton.mp hn ▸ hx.1
  rw [moduleName_plain hfolder hx hplain, ne_eq, Text.join_eq_empty_iff hnames]
  simp

/-- **What is asked for beneath a file is noted beneath its name.** -/
theorem absoluteName_beneath_file {i : Import} {asked : List String} (hlevel : i.level ≠ 0)
    (hhead : (i.parts ++ asked).head? = some x) :
    Graph.liesBeneath (r.moduleName (fileOf (folder ++ [x]))) (r.absoluteName folder i asked) = true := by
  obtain ⟨rest, htail⟩ := List.head?_eq_some_iff.mp hhead
  rw [moduleName_plain hfolder hx hplain, absoluteName_relative r hlevel hfolder asked, htail]
  exact Graph.liesBeneath_join (by simp) ((List.prefix_append_right_inj _).mpr ⟨rest, rfl⟩)

end File

/-- **What a relative import asks for in vain follows the name of the file that is not there**: it is the name
of this file or lies beneath it, and the graph in which it is noted leads from the file to the importer. -/
theorem dangling_names_follow_files {ids : List ModuleId} {i : Import} {folder : List String}
    (hlevel : 0 < i.level) (hfile : (Path.parse i.file).isAbsolute = false) (ha : anchor? i = some folder) :
    let r := ofModules ids
    (r.resolve i).missing = (r.unanswered folder i).map (r.absoluteName folder i) ∧
      ∀ asked ∈ r.unanswered folder i, ∀ x, (i.parts ++ asked).head? = some x → IsSegment x → x ≠ "__init__" →
        let gone := r.moduleName (fileOf (folder ++ [x]))
        Graph.liesBeneath gone (r.absoluteName folder i asked) = true ∧
          ∀ (g : Graph) (edits : List GraphEdit),
            i.file ∈ (edits.foldl Graph.apply
              (g.addDangling i.file (r.absoluteName folder i asked))).danglingImporters gone := by
  intro r
  refine ⟨by rw [resolve_eq ha]; rfl, fun asked _ x hhead hx hplain => ?_⟩
  have hfolder := anchor_proper hfile ha
  have hbeneath := absoluteName_beneath_file (r := r) hfolder hx hplain (Nat.ne_of_gt hlevel) hhead
  exact ⟨hbeneath, fun g edits => Graph.mem_danglingImporters_of_addDangling hbeneath
    (moduleName_plain_ne_empty hfolder hx hplain) g i.file edits⟩

/-- In a package below a folder that is none, what is asked of `gone` is noted beneath `pkg.gone`. -/
theorem deleted_file_leads_to_its_importer :
    let ids := ["src/pkg/__init__.py", "src/pkg/mod.py"]
    let i : Import := ⟨"gone", 1, ["a"], "src/pkg/mod.py", 1⟩
    0 < i.level ∧ (Path.parse i.file).isAbsolute = false ∧ anchor? i = some ["src", "pkg"] ∧
      (ofModules ids).unanswered ["src", "pkg"] i = [["a"]] ∧ (i.parts ++ ["a"]).head? = some "gone" ∧
      IsSegment "gone" ∧ "gone" ≠ "__init__" ∧
      (ofModules ids).moduleName "src/pkg/gone.py" = "pkg.gone" ∧
      ((ofModules ids).resolve i).missing = ["pkg.gone.a"] ∧
      i.file ∈ (Graph.empty.addDangling i.file "pkg.gone.a").danglingImporters "pkg.gone" := by
  intro ids i
  have hlevel : 0 < i.level := by decide
  have hfile : (Path.parse i.file).isAbsolute = false := by decide
  have hanchor : anchor? i = some ["src", "pkg"] := by decide
  have hunanswered : (ofModules ids).unanswered ["src", "pkg"] i = [["a"]] := by
    rw [ofModules, sortIds_ascending (by decide)]
    decide
  have hname : (ofModules ids).absoluteName ["src", "pkg"] i ["a"] = "pkg.gone.a" := by
    rw [ofModules, sortIds_ascending (by decide)]
    decide
  have hgone : (ofModules ids).moduleName "src/pkg/gone.py" = "pkg.gone" := by
    rw [moduleName_ofModules]
    decide
  have hhead : (i.parts ++ ["a"]).head? = some "gone" := by decide
  have hsegment : IsSegment "gone" := by decide
  have hplain : "gone" ≠ "__init__" := by decide
  obtain ⟨hmissing, hfollow⟩ := @dangling_names_follow_files ids i _ hlevel hfile hanchor
  rw [hunanswered] at hmissing hfollow
  have hnoted := (hfollow ["a"] (List.mem_singleton_self _) "gone" hhead hsegment hplain).2 .empty []
  rw [show fileOf (["src", "pkg"] ++ ["gone"]) = "src/pkg/gone.py" by decide, hgone, hname] at hnoted
  rw [List.map_singleton, hname] at hmissing
  exact ⟨hlevel, hfile, hanchor, hunanswered, hhead, hsegment, hplain, hgone, hmissing, hnoted⟩

end Ripple
