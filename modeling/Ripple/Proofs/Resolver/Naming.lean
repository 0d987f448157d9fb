import Mathlib.Data.List.Induction
import Ripple.Proofs.Path.Names
import Ripple.Proofs.Resolver.Resolution

/-! The names of modules.

The packages around a file are found folder by folder, upwards, and the first folder without a
package file ends the search (`packagesTo_concat`). A name is made of them and of the stem of the file
(`moduleName_fileOf`); where every folder above a module is a package, it is the whole path
(`moduleName_of_packages`). -/
namespace Ripple

/-- A name that can stand between two slashes as well as between two dots. -/
def IsSegment (s : String) : Prop := s ≠ "" ∧ '.' ∉ s.toList ∧ '/' ∉ s.toList

instance (s : String) : Decidable (IsSegment s) := inferInstanceAs (Decidable (_ ∧ _ ∧ _))

theorem IsSegment.isProper {s : String} (h : IsSegment s) : Path.IsProper s := by
  refine ⟨?_, h.2.2⟩
  have hdot : s ≠ "." := by
    intro hx
    subst hx
    exact h.2.1 (by decide)
  simp [Path.isName, h.1, hdot]

/-- A segment before the ending of a source file is the name of one. -/
theorem IsSegment.isProper_source {s : String} (h : IsSegment s) : Path.IsProper (s ++ ".py") := by
  constructor
  · have hne : s ++ ".py" ≠ "" := by simp
    have hdot : s ++ ".py" ≠ "." := by
      intro he
      have := congrArg String.length he
      simp only [String.length_append, show ".py".length = 3 from rfl, show ".".length = 1 from rfl] at this
      omega
    simp [Path.isName, hne, hdot]
  · rw [String.toList_append, List.mem_append]
    exact fun hs => hs.elim h.2.2 (by decide)

/-! ### Files and packages as paths -/

namespace Resolver

theorem fileOf_concat (folder : List String) (stem : String) :
    fileOf (folder ++ [stem]) = Text.join "/" (folder ++ [stem ++ ".py"]) :=
  Text.join_concat_append folder stem ".py"

theorem fileOf_init (folder : List String) :
    fileOf (folder ++ ["__init__"]) = Text.join "/" (folder ++ [packageFile]) :=
  fileOf_concat folder "__init__"

theorem parse_fileOf {folder : List String} {stem : String} (h : ∀ s ∈ folder ++ [stem], IsSegment s) :
    Path.parse (fileOf (folder ++ [stem])) = ⟨.relative, folder ++ [stem ++ ".py"]⟩ := by
  rw [fileOf_concat]
  exact Path.parse_join (Path.proper_concat (fun n hn => (h n (List.mem_append_left _ hn)).isProper)
    (h stem (by simp)).isProper_source)

/-- The package file in a folder is a file like any other. -/
theorem packageOf_eq {parts : List String} (h : parts ≠ []) :
    packageOf parts = fileOf (parts ++ ["__init__"]) := by
  rw [fileOf_concat, Text.join_concat h]
  rfl

theorem child_packageFile (folder : List String) :
    ((⟨.relative, folder⟩ : Path).child packageFile).text = fileOf (folder ++ ["__init__"]) := by
  rw [Path.child, Path.text_relative (by simp), fileOf_concat]
  rfl

theorem source_eq_packageFile_iff (stem : String) : stem ++ ".py" = packageFile ↔ stem = "__init__" := by
  rw [show packageFile = "__init__" ++ ".py" from rfl, String.append_left_inj]

theorem isPackageFile_fileOf {folder : List String} {stem : String}
    (h : ∀ s ∈ folder ++ [stem], IsSegment s) :
    isPackageFile (fileOf (folder ++ [stem])) = true ↔ stem = "__init__" := by
  rw [isPackageFile, parse_fileOf h, Path.name_concat, beq_iff_eq, source_eq_packageFile_iff]

end Resolver

/-! ### The packages around a file -/

/-- The packages from the outermost down to a folder; none if the folder is no package. -/
def packagesTo (known : List ModuleId) (folder : List String) : List String :=
  packageNames known ⟨.relative, folder ++ [packageFile]⟩

/-- The packages around a file are those around its folder and the folder itself, if it is one. -/
theorem packageNames_concat (known : List ModuleId) (above : List String) (folder file : String) :
    packageNames known ⟨.relative, above ++ [folder] ++ [file]⟩ =
      if Resolver.fileOf (above ++ [folder] ++ ["__init__"]) ∈ known then
        packageNames known ⟨.relative, above ++ [folder]⟩ ++ [folder]
      else [] := by
  have hparts : (⟨.relative, above ++ [folder]⟩ : Path).parts.isEmpty = false := by simp
  unfold packageNames
  rw [Path.parents_concat, List.takeWhile_cons, Resolver.child_packageFile]
  simp only [hparts, Bool.not_false, Bool.true_and, List.contains_iff_mem]
  split
  · rw [List.map_cons, List.reverse_cons, Path.name_concat]
  · rfl

/-- The packages around a file are those that lead to its folder, whatever the file. -/
theorem packageNames_file (known : List ModuleId) (folder : List String) (file : String) :
    packageNames known ⟨.relative, folder ++ [file]⟩ = packagesTo known folder := by
  cases folder using List.reverseRecOn with
  | nil => rfl
  | append_singleton above name => rw [packagesTo, packageNames_concat, packageNames_concat]

theorem packagesTo_nil (known : List ModuleId) : packagesTo known [] = [] := rfl

theorem packagesTo_concat (known : List ModuleId) (above : List String) (name : String) :
    packagesTo known (above ++ [name]) =
      if Resolver.fileOf (above ++ [name] ++ ["__init__"]) ∈ known then packagesTo known above ++ [name]
      else [] := by
  rw [packagesTo, packageNames_concat, packageNames_file]

/-- Without its package file a folder is no package. -/
theorem packagesTo_without_package {known : List ModuleId} {folder : List String}
    (h : Text.join "/" (folder ++ [packageFile]) ∉ known) : packagesTo known folder = [] := by
  cases folder using List.reverseRecOn with
  | nil => rfl
  | append_singleton above name => rw [packagesTo_concat, Resolver.fileOf_init, if_neg h]

section Packages
variable {known known' : List ModuleId} {folder : List String}

/-- The packages that lead to a folder are the last of its names. -/
theorem packagesTo_suffix : packagesTo known folder <:+ folder := by
  induction folder using List.reverseRecOn with
  | nil => exact List.suffix_rfl
  | append_singleton above name ih =>
    rw [packagesTo_concat]
    split
    · exact (List.suffix_append_inj_of_length_eq rfl).mpr ⟨ih, rfl⟩
    · exact List.nil_suffix

/-- Only the package files above a file count. -/
theorem packagesTo_congr (h : ∀ above, above <+: folder →
    (Resolver.fileOf (above ++ ["__init__"]) ∈ known ↔ Resolver.fileOf (above ++ ["__init__"]) ∈ known')) :
    packagesTo known folder = packagesTo known' folder := by
  induction folder using List.reverseRecOn with
  | nil => rfl
  | append_singleton above name ih =>
    rw [packagesTo_concat, packagesTo_concat, ih fun q hq => h q (hq.trans (List.prefix_append ..))]
    simp only [h _ List.prefix_rfl]

/-- All names of a folder lead to it as packages exactly if every folder above its files is one. -/
theorem packagesTo_eq_iff (file : String) :
    packagesTo known folder = folder ↔
      ∀ q ∈ (⟨.relative, folder ++ [file]⟩ : Path).parents, q.names ≠ [] →
        (q.child packageFile).text ∈ known := by
  induction folder using List.reverseRecOn generalizing file with
  | nil =>
    refine ⟨fun _ q hq hne => ?_, fun _ => rfl⟩
    obtain ⟨n, rfl⟩ := Path.mem_parents_concat hq
    simp at hne
  | append_singleton above name ih =>
    rw [packagesTo_concat, Path.parents_concat]
    simp only [List.forall_mem_cons, ← ih name, Resolver.child_packageFile]
    have hne : above ++ [name] ≠ [] := by simp
    split
    · next hmem =>
      simp only [hmem, hne, ne_eq, not_false_eq_true, forall_const, true_and, List.append_left_inj]
    · next hmem => simp only [hmem, hne, hne.symm, ne_eq, not_false_eq_true, forall_const, false_and]

end Packages

/-! ### Names of files -/

/-- What a file adds to the name of its folder: a package file nothing. -/
def ownParts (stem : String) : List String := if stem = "__init__" then [] else [stem]

/-- The parts of the dotted name of a file: the packages around it, or all its folders if it is in none,
and what it adds. -/
def namingPath (known : List ModuleId) (folder : List String) (stem : String) : List String :=
  (if packagesTo known folder = [] then folder else packagesTo known folder) ++ ownParts stem

/-- The name of a file comes from the packages around it, or from all folders if it is in none. -/
theorem moduleName_join (known : List ModuleId) {folder : List String} {name : String}
    (h : ∀ n ∈ folder ++ [name], Path.IsProper n) :
    moduleName known (Text.join "/" (folder ++ [name])) =
      let around := if packagesTo known folder = [] then folder else packagesTo known folder
      Text.join "." (if name = packageFile then around
        else around ++ [(⟨.relative, folder ++ [name]⟩ : Path).stem]) := by
  unfold moduleName
  simp only [Path.parse_join h, packageNames_file, Path.parent_concat, Path.parts_relative, Path.name_concat]

/-- The names of folders may have dots in them. -/
theorem moduleName_source (known : List ModuleId) {folder : List String} {stem : String}
    (hfolder : ∀ n ∈ folder, Path.IsProper n) (hs : IsSegment stem) :
    moduleName known (Resolver.fileOf (folder ++ [stem])) = Text.join "." (namingPath known folder stem) := by
  have hstem : Path.stemChars (stem ++ ".py").toList = stem.toList := by
    rw [String.toList_append]
    exact Path.stemChars_append (Text.toList_ne_nil hs.1) (by decide) (by decide)
  rw [Resolver.fileOf_concat, moduleName_join known (Path.proper_concat hfolder hs.isProper_source), namingPath,
    ownParts]
  simp only [Resolver.source_eq_packageFile_iff, Path.stem, Path.name_concat, hstem, String.ofList_toList]
  split <;> simp

theorem moduleName_fileOf (known : List ModuleId) {folder : List String} {stem : String}
    (hs : ∀ s ∈ folder ++ [stem], IsSegment s) :
    moduleName known (Resolver.fileOf (folder ++ [stem])) = Text.join "." (namingPath known folder stem) :=
  moduleName_source known (fun n hn => (hs n (List.mem_append_left _ hn)).isProper) (hs stem (by simp))

/-- Which modules there are decides over names, and not their order. -/
theorem moduleName_ofModules (ids : List ModuleId) (id : ModuleId) :
    (Resolver.ofModules ids).moduleName id = moduleName ids id := by
  have hknown : ∀ x, (Resolver.ofModules ids).known.contains x = ids.contains x := by
    intro x
    rw [Bool.eq_iff_iff, List.contains_iff_mem, List.contains_iff_mem, Resolver.mem_known_ofModules]
  unfold Resolver.moduleName moduleName packageNames
  simp only [hknown]

/-- In a folder to which only packages lead, a name is the whole path. -/
theorem moduleName_of_packages {known : List ModuleId} {folder : List String} {stem : String}
    (hs : ∀ s ∈ folder ++ [stem], IsSegment s)
    (h : ∀ q ∈ (Path.parse (Resolver.fileOf (folder ++ [stem]))).parents, q.names ≠ [] →
      (q.child packageFile).text ∈ known) :
    moduleName known (Resolver.fileOf (folder ++ [stem])) =
      Text.join "." (if stem = "__init__" then folder else folder ++ [stem]) := by
  rw [Resolver.parse_fileOf hs] at h
  rw [moduleName_fileOf known hs, namingPath, ownParts, (packagesTo_eq_iff _).mpr h, ite_self]
  split <;> simp

/-! ### Names of what is asked for -/

/-- What a file adds comes after the name of its folder, which is that of the package file. -/
theorem namingPath_eq (known : List ModuleId) (folder : List String) (stem : String) :
    namingPath known folder stem = namingPath known folder "__init__" ++ ownParts stem := by
  simp [namingPath, ownParts]

theorem namingPath_init_subset (known : List ModuleId) (folder : List String) :
    namingPath known folder "__init__" ⊆ folder := by
  rw [namingPath, ownParts, if_pos rfl, List.append_nil]
  split
  · exact List.Subset.refl folder
  · exact packagesTo_suffix.subset

/-- **A relative import asks under the name of the folder it starts from**, whether this is a package or not. -/
theorem absoluteName_relative (r : Resolver) {i : Import} {folder : List String} (hlevel : i.level ≠ 0)
    (hfolder : ∀ n ∈ folder, Path.IsProper n) (asked : List String) :
    r.absoluteName folder i asked =
      Text.join "." (namingPath r.known folder "__init__" ++ (i.parts ++ asked)) := by
  have hpackage : r.moduleName (Text.join "/" (folder ++ [packageFile])) =
      Text.join "." (namingPath r.known folder "__init__") := by
    rw [← Resolver.fileOf_init]
    exact moduleName_source r.known hfolder (by decide)
  have hnames : ∀ n ∈ namingPath r.known folder "__init__", n ≠ "" := fun n hn =>
    (hfolder n (namingPath_init_subset r.known folder hn)).ne_empty
  unfold Resolver.absoluteName
  simp only [if_neg hlevel, hpackage]
  split
  · by_cases hroot : namingPath r.known folder "__init__" = []
    · simp [hroot]
    · rw [if_neg (mt (Text.join_eq_empty_iff hnames).mp hroot), List.singleton_append, Text.join_cons_join hroot]
  · next hplain =>
    have habsent : Text.join "/" (folder ++ [packageFile]) ∉ r.known := by
      simpa [Resolver.contains] using hplain
    rw [namingPath, packagesTo_without_package habsent, if_pos rfl]
    simp [ownParts]

end Ripple
