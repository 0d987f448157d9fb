import Ripple.Proofs.Resolver.Removal

/-! The name of a module that is gone.

A module that is gone is still asked for by name. A plain module has its name from the packages
around it, which stay; a package file is one of those that its own name comes from, and without it
the walk upwards ends at once (`packagesTo_without_package`). So a package keeps its name exactly
if that was its whole path all along (`name_without_module_kept_iff`). -/
namespace Ripple

open Resolver

/-- Written as the path of a file below the root of a project. -/
def IsModuleId (id : ModuleId) : Prop :=
  ∃ folder name, (∀ n ∈ folder ++ [name], Path.IsProper n) ∧ id = Text.join "/" (folder ++ [name])

theorem isPackageFile_join {folder : List String} {name : String}
    (h : ∀ n ∈ folder ++ [name], Path.IsProper n) :
    isPackageFile (Text.join "/" (folder ++ [name])) = true ↔ name = packageFile := by
  rw [isPackageFile, Path.parse_join h, Path.name_concat, beq_iff_eq]

section Removal
variable {ids : List ModuleId} {folder : List String} {name : String}
  (h : ∀ n ∈ folder ++ [name], Path.IsProper n)
include h

/-- A plain module is none of the package files that names come from. -/
theorem moduleName_without_plain (hname : name ≠ packageFile) :
    (ofModules (remaining ids [Text.join "/" (folder ++ [name])])).moduleName
        (Text.join "/" (folder ++ [name])) =
      (ofModules ids).moduleName (Text.join "/" (folder ++ [name])) := by
  have hpackages : ∀ above, above <+: folder →
      fileOf (above ++ ["__init__"]) ≠ Text.join "/" (folder ++ [name]) := by
    intro above habove he
    have hproper : ∀ n ∈ above ++ [packageFile], Path.IsProper n :=
      Path.proper_concat (fun n hn => h n (List.mem_append_left _ (habove.subset hn))) (by decide)
    have hfile := (isPackageFile_join hproper).mpr rfl
    rw [fileOf_init] at he
    exact hname ((isPackageFile_join h).mp (he ▸ hfile))
  have hsame : packagesTo (ofModules (remaining ids [Text.join "/" (folder ++ [name])])).known folder =
      packagesTo (ofModules ids).known folder := by
    apply packagesTo_congr
    intro above habove
    rw [mem_known_ofModules, mem_known_ofModules, mem_remaining, List.mem_singleton]
    exact and_iff_left (hpackages above habove)
  rw [Resolver.moduleName, Resolver.moduleName, moduleName_join _ h, moduleName_join _ h, hsame]

omit h in
/-- Without its package file a package has its whole path for a name. -/
theorem moduleName_without_package (h : ∀ n ∈ folder ++ [packageFile], Path.IsProper n) :
    (ofModules (remaining ids [Text.join "/" (folder ++ [packageFile])])).moduleName
      (Text.join "/" (folder ++ [packageFile])) = Text.join "." folder := by
  have hgone : Text.join "/" (folder ++ [packageFile]) ∉
      (ofModules (remaining ids [Text.join "/" (folder ++ [packageFile])])).known := by
    rw [mem_known_ofModules, mem_remaining, List.mem_singleton]
    exact fun hm => hm.2 rfl
  rw [Resolver.moduleName, moduleName_join _ h, packagesTo_without_package hgone]
  simp

omit h in
/-- A package has its whole path for a name exactly if all folders above it are packages too. -/
theorem moduleName_package_eq_iff (h : ∀ n ∈ folder ++ [packageFile], Path.IsProper n)
    (hm : Text.join "/" (folder ++ [packageFile]) ∈ ids) :
    (ofModules ids).moduleName (Text.join "/" (folder ++ [packageFile])) = Text.join "." folder ↔
      packagesTo (ofModules ids).known folder = folder := by
  rw [Resolver.moduleName, moduleName_join _ h]
  simp only [if_true]
  constructor
  · intro hjoin
    split at hjoin
    · next hnone =>
      cases folder using List.reverseRecOn with
      | nil => exact hnone
      | append_singleton above last =>
        rw [packagesTo_concat, fileOf_init, if_pos ((mem_known_ofModules ..).mpr hm)] at hnone
        simp at hnone
    · exact Text.eq_of_join_suffix (by decide)
        (fun x hx => (h x (List.mem_append_left _ hx)).ne_empty) packagesTo_suffix hjoin
  · intro hall
    rw [hall, ite_self]

end Removal

/-- **Without a module its name is what it was, if it is plain or all folders above it are
packages**, and otherwise it is not. -/
theorem name_without_module_kept_iff {ids : List ModuleId} {d : ModuleId} (hid : IsModuleId d)
    (hd : d ∈ ids) :
    (ofModules (remaining ids [d])).moduleName d = (ofModules ids).moduleName d ↔
      isPackageFile d = false ∨
        ∀ q ∈ (Path.parse d).parents, q.names ≠ [] → (q.child packageFile).text ∈ ids := by
  obtain ⟨folder, name, hproper, rfl⟩ := hid
  have hfile := isPackageFile_join hproper
  by_cases hname : name = packageFile
  · subst hname
    rw [hfile.mpr rfl, moduleName_without_package hproper, eq_comm, moduleName_package_eq_iff hproper hd,
      packagesTo_eq_iff packageFile, Path.parse_join hproper]
    simp only [mem_known_ofModules, reduceCtorEq, false_or]
  · rw [Bool.eq_false_iff, ne_eq, hfile]
    exact ⟨fun _ => .inl hname, fun _ => moduleName_without_plain hproper hname⟩

/-- Without its package file, `pkg` is sought under the name `src.pkg`; its module keeps its name. -/
theorem name_kept_for_module_and_lost_for_package :
    let ids := ["src/pkg/__init__.py", "src/pkg/mod.py"]
    IsModuleId "src/pkg/mod.py" ∧ "src/pkg/mod.py" ∈ ids ∧
      (ofModules (remaining ids ["src/pkg/mod.py"])).moduleName "src/pkg/mod.py" =
        (ofModules ids).moduleName "src/pkg/mod.py" ∧
      IsModuleId "src/pkg/__init__.py" ∧ "src/pkg/__init__.py" ∈ ids ∧
      (ofModules (remaining ids ["src/pkg/__init__.py"])).moduleName "src/pkg/__init__.py" ≠
        (ofModules ids).moduleName "src/pkg/__init__.py" := by
  intro ids
  have hmod : IsModuleId "src/pkg/mod.py" := ⟨["src", "pkg"], "mod.py", by decide, by decide⟩
  have hpkg : IsModuleId "src/pkg/__init__.py" := ⟨["src", "pkg"], "__init__.py", by decide, by decide⟩
  have hmodMem : "src/pkg/mod.py" ∈ ids := by decide
  have hpkgMem : "src/pkg/__init__.py" ∈ ids := by decide
  refine ⟨hmod, hmodMem, ?_, hpkg, hpkgMem, ?_⟩
  · exact (name_without_module_kept_iff hmod hmodMem).mpr (.inl (by decide))
  · rw [ne_eq, name_without_module_kept_iff hpkg hpkgMem]
    decide

/-- Once it is gone, a package is not sought by the name under which it was imported, and whoever asks
for it is not found. -/
theorem removed_package_is_sought_by_another_name :
    let ids := ["src/pkg/__init__.py", "test_pkg.py"]
    let d := "src/pkg/__init__.py"
    let left := (Graph.empty.addModule "test_pkg.py" true).addDangling "test_pkg.py" "pkg"
    d ∈ ids ∧ (ofModules ids).moduleName d = "pkg" ∧
      (ofModules (remaining ids [d])).moduleName d = "src.pkg" ∧
      left.danglingImporters ((ofModules ids).moduleName d) = ["test_pkg.py"] ∧
      left.danglingImporters ((ofModules (remaining ids [d])).moduleName d) = [] := by
  intro ids d left
  have hbefore : (ofModules ids).moduleName d = "pkg" := by
    rw [moduleName_ofModules]
    decide
  have hafter : (ofModules (remaining ids [d])).moduleName d = "src.pkg" := by
    rw [moduleName_ofModules]
    decide
  refine ⟨by decide, hbefore, hafter, ?_, ?_⟩
  · rw [hbefore]
    decide
  · rw [hafter]
    decide

end Ripple
