import Ripple.Proofs.Resolver.Naming

/-! Projects in which every folder is a package.

In a packaged project names and paths are two spellings of one thing: a module is found by its path
or not at all (`Packaged.lookup_eq`), and what an import asks for in vain is noted under the path it
would have had (`Packaged.absoluteName_eq`). -/
namespace Ripple

open Resolver

/-- Every folder above a module is a package, and no module has the path of a package. -/
structure Packaged (ids : List ModuleId) : Prop where
  shaped : ∀ id ∈ ids, ∃ folder stem, (∀ s ∈ folder ++ [stem], IsSegment s) ∧
    id = fileOf (folder ++ [stem])
  enclosed : ∀ id ∈ ids, ∀ q ∈ (Path.parse id).parents, q.names ≠ [] → (q.child packageFile).text ∈ ids
  unshadowed : ∀ parts, fileOf parts ∈ ids → packageOf parts ∉ ids

theorem isSegment_init : IsSegment "__init__" := by decide

theorem segments_concat {folder : List String} {stem : String} (h : ∀ s ∈ folder, IsSegment s)
    (hstem : IsSegment stem) : ∀ s ∈ folder ++ [stem], IsSegment s := by
  intro s hs
  rcases List.mem_append.mp hs with hs | hs
  · exact h s hs
  · rw [List.mem_singleton] at hs
    exact hs ▸ hstem

theorem IsSegment.field {s : String} (h : IsSegment s) : s ≠ "" ∧ '.' ∉ s.toList := ⟨h.1, h.2.1⟩

namespace Packaged
variable {ids : List ModuleId} (h : Packaged ids)
include h

theorem moduleName_eq {folder : List String} {stem : String} (hs : ∀ s ∈ folder ++ [stem], IsSegment s)
    (hm : fileOf (folder ++ [stem]) ∈ ids) :
    (ofModules ids).moduleName (fileOf (folder ++ [stem])) =
      Text.join "." (if stem = "__init__" then folder else folder ++ [stem]) :=
  moduleName_of_packages hs fun q hq hne => (mem_known_ofModules ids _).mpr (h.enclosed _ hm q hq hne)

/-- A name leads to the file or the package with its path. -/
theorem eq_of_byName {parts : List String} (hs : ∀ s ∈ parts, IsSegment s) (hp : parts ≠ [])
    {m : ModuleId} (hm : (ofModules ids).byName.get? (Text.join "." parts) = some m) :
    m ∈ ids ∧ (m = fileOf parts ∨ m = packageOf parts) := by
  obtain ⟨hmem, hname⟩ := moduleName_of_byName hm
  obtain ⟨folder, stem, hshape, rfl⟩ := h.shaped m hmem
  rw [h.moduleName_eq hshape hmem] at hname
  refine ⟨hmem, ?_⟩
  by_cases hstem : stem = "__init__"
  · subst hstem
    rw [if_pos rfl] at hname
    have hfolder : folder = parts := Text.join_inj rfl
      (fun f hf => (hshape f (List.mem_append_left _ hf)).field) (fun f hf => (hs f hf).field) hname
    subst hfolder
    exact .inr (packageOf_eq hp).symm
  · rw [if_neg hstem] at hname
    have hparts : folder ++ [stem] = parts := Text.join_inj rfl
      (fun f hf => (hshape f hf).field) (fun f hf => (hs f hf).field) hname
    exact .inl (by rw [hparts])

/-- **A module is found by its path or not at all.** -/
theorem lookup_eq {parts : List String} (hs : ∀ s ∈ parts, IsSegment s) (hp : parts ≠ []) :
    (ofModules ids).lookup parts =
      if fileOf parts ∈ ids then some (fileOf parts)
      else if packageOf parts ∈ ids then some (packageOf parts)
      else none := by
  rw [Resolver.lookup_eq _ hp]
  simp only [contains_ofModules]
  split
  · rfl
  · next hfile =>
    split
    · rfl
    · next hpackage =>
      rw [Option.eq_none_iff_forall_ne_some]
      intro m hm
      obtain ⟨hmem, rfl | rfl⟩ := h.eq_of_byName hs hp hm
      · exact hfile hmem
      · exact hpackage hmem

/-- What is found for some parts is their file or their package. -/
theorem eq_of_lookup {parts : List String} (hs : ∀ s ∈ parts, IsSegment s) (hp : parts ≠ []) {m : ModuleId}
    (hm : (ofModules ids).lookup parts = some m) : m = fileOf parts ∨ m = packageOf parts := by
  rw [h.lookup_eq hs hp] at hm
  split at hm
  · exact .inl (Option.some.inj hm).symm
  · split at hm
    · exact .inr (Option.some.inj hm).symm
    · cases hm

/-! ### Imports -/

theorem anchor_segments {i : Import} (hi : i.file ∈ ids) {anchor : List String}
    (ha : anchor? i = some anchor) : ∀ s ∈ anchor, IsSegment s := by
  obtain ⟨folder, stem, hs, hfile⟩ := h.shaped i.file hi
  have hfolder := anchor_subset ha
  rw [hfile, parse_fileOf hs, Path.parent_concat, Path.parts_relative] at hfolder
  exact fun s hm => hs s (List.mem_append_left _ (hfolder hm))

/-- A folder is named by its path. -/
theorem namingPath_init {folder : List String} (hs : ∀ s ∈ folder, IsSegment s) :
    namingPath (ofModules ids).known folder "__init__" = folder := by
  rw [namingPath, ownParts, if_pos rfl, List.append_nil]
  split
  · rfl
  · next hpackages =>
    have hpackage : fileOf (folder ++ ["__init__"]) ∈ ids := by
      by_contra hplain
      rw [← mem_known_ofModules, fileOf_init] at hplain
      exact hpackages (packagesTo_without_package hplain)
    have henclosed := h.enclosed _ hpackage
    rw [parse_fileOf (segments_concat hs isSegment_init)] at henclosed
    exact (packagesTo_eq_iff _).mpr fun q hq hne => (mem_known_ofModules ids _).mpr (henclosed q hq hne)

/-- What is asked for in vain is noted under the path it would have had. -/
theorem absoluteName_eq {i : Import} {anchor : List String} (ha : anchor? i = some anchor)
    (hs : ∀ s ∈ anchor, IsSegment s) (asked : List String) :
    (ofModules ids).absoluteName anchor i asked = Text.join "." (anchor ++ (i.parts ++ asked)) := by
  by_cases hlevel : i.level = 0
  · unfold anchor? at ha
    rw [if_pos hlevel, Option.some.injEq] at ha
    subst ha
    exact if_pos hlevel
  · rw [absoluteName_relative _ hlevel (fun n hn => (hs n hn).isProper), h.namingPath_init hs]

end Packaged

end Ripple
