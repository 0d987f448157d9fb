import Mathlib
import Ripple.Proofs.Project.Discovery
import Ripple.Proofs.Project.Scanning
import Ripple.Proofs.Resolver.TopLevels
import Ripple.Proofs.Source.Dialects

/-! What is told of imports that lead nowhere.

A module is told of import by import, in their order, and each import without a target once
(`ofImports_diagnostics`). To leave external imports out silences some of this (`told_of_project`) and changes
nothing else; what it silences starts with a name under which no absolute import is found
(`unresolved_imports_are_told_unless_external`). A name has to be there for that, without a slash in it: what any
parser makes of a statement starts with one (`isSegment_head_of_imports`). -/
namespace Ripple

/-! ### What the imports of a source start with -/

namespace Source

theorem slash_not_mem_flat (ts : List Spaced) : '/' ∉ flat ts := by
  have hword : ∀ c, isWordPart c = true → (c != '/') = true := by
    intro c hc
    rw [bne_iff_ne]
    rintro rfl
    cases hc
  exact fun hmem => absurd (forall_mem_flat hword (by decide) ts '/' hmem) (by decide)

namespace Dotted

/-- A text that starts with the first identifier of a name and has only characters of the name behind it. -/
def IsSpelledBy (n : Dotted) (text : String) : Prop :=
  ∃ cs, text.toList = n.first.text.toList ++ cs ∧ cs ⊆ flat (n.rest.flatMap part)

theorem isSpelledBy_verbatim (n : Dotted) : n.IsSpelledBy n.verbatim :=
  ⟨_, n.toList_verbatim, List.Subset.refl _⟩

theorem isSpelledBy_squeezed (n : Dotted) : n.IsSpelledBy n.squeezed := by
  have hkept : ∀ c, isWordPart c = true → (!Text.isBlank c) = true := fun c hc => by
    rw [(wordPart_facts hc).2.1]
    rfl
  refine ⟨(flat (n.rest.flatMap part)).filter fun c => !Text.isBlank c, ?_, List.filter_subset_self _⟩
  rw [squeezed, Text.squeeze, String.toList_ofList, toList_verbatim, List.filter_append, n.first.keeps hkept]

theorem isSpelledBy_joined (n : Dotted) : n.IsSpelledBy n.joined := by
  refine ⟨_, n.toList_joined, ?_⟩
  induction n.rest with
  | nil => exact List.Subset.refl _
  | cons p parts ih =>
    rw [flat_parts_cons]
    intro c hc
    refine List.mem_append_right _ ?_
    rcases List.mem_append.mp hc with hc | hc
    · rcases List.mem_cons.mp hc with rfl | hc
      · exact List.mem_cons_self ..
      · exact List.mem_cons_of_mem _ (List.mem_append_right _ (List.mem_append_left _ hc))
    · exact List.mem_cons_of_mem _ (List.mem_append_right _ (List.mem_append_right _ (ih hc)))

theorem IsSpelledBy.isSegment_head {n : Dotted} {i : Import} (h : n.IsSpelledBy i.dotted) : IsSegment i.head := by
  obtain ⟨cs, htext, hcs⟩ := h
  have hstart : i.dotted.toList = n.first.first :: (n.first.rest ++ cs) := by
    rw [htext, n.first.toList_text, List.cons_append]
  have hslash : '/' ∉ n.first.text.toList ++ flat (n.rest.flatMap part) := by
    rw [← toList_verbatim, verbatim, String.toList_ofList]
    exact slash_not_mem_flat _
  refine Import.isSegment_head hstart (wordStart_facts n.first.starts .strict).2.2.2.2.2.2.1 fun hmem => hslash ?_
  rw [htext] at hmem
  exact List.mem_append.mpr ((List.mem_append.mp hmem).imp_right fun hmem => hcs hmem)

end Dotted

theorem ImportStatement.isSegment_head_of_spelling {origin name : Dotted → String}
    (horigin : ∀ n : Dotted, n.IsSpelledBy (origin n)) (hname : ∀ n : Dotted, n.IsSpelledBy (name n)) {s : ImportStatement}
    {file : ModuleId} {i : Import} (hi : i ∈ s.imports origin name file) (hlevel : i.level = 0) :
    IsSegment i.head := by
  cases s with
  | plain space names =>
    obtain ⟨n, _, rfl⟩ := List.mem_map.mp hi
    exact (hname n.name).isSegment_head
  | fromModule o targets =>
    rw [List.mem_singleton.mp hi] at hlevel ⊢
    cases o with
    | absolute before n after => exact (horigin n).isSegment_head
    | relative first more before n after => cases hlevel
    | package first more after => cases hlevel

end Source

open Source in
/-- **An absolute import of a statement starts with a name**, however the statement is spaced and whichever
parser reads it. -/
theorem Parser.isSegment_head_of_imports (p : Parser) {s : ImportStatement} (hs : ¬s.IsFeature) {tail : List Char}
    (htail : tail = [] ∨ tail = ['\n']) {file : ModuleId} {imports : List Import}
    (himports : p.imports (s.chars ++ tail) file = .ok imports) :
    ∀ i ∈ imports, i.level = 0 → IsSegment i.head := by
  intro i hi hlevel
  match p with
  | lenient .loaded =>
    rw [Parser.imports, ImportStatement.lenientImports_chars hs htail] at himports
    cases himports
    exact ImportStatement.isSegment_head_of_spelling Dotted.isSpelledBy_verbatim Dotted.isSpelledBy_squeezed hi hlevel
  | lenient .absent | lenient .broken => cases himports
  | strict =>
    rw [Parser.imports, ImportStatement.strictImports_chars hs htail] at himports
    cases himports
    exact ImportStatement.isSegment_head_of_spelling Dotted.isSpelledBy_joined Dotted.isSpelledBy_joined hi hlevel

/-! ### Import by import -/

namespace ModuleScan

/-- What is told of an import that leads nowhere. -/
def told (id : ModuleId) (i : Import) : Diagnostic := .unresolvedImport id i.line i.text

/-- The imports that lead nowhere. -/
def unresolved (r : Resolver) (imports : List Import) : List Import :=
  imports.filter fun i => (r.resolve i).targets = []

variable (r : Resolver) (id : ModuleId)

/-- **Of each import that leads nowhere something is told once**, in their order, unless it is silent. -/
theorem ofImports_diagnostics (ignoreExternal : Bool) (imports : List Import) :
    (ofImports r ignoreExternal id imports).diagnostics =
      ((unresolved r imports).filter fun i => !isSilent r ignoreExternal i).map (told id) := by
  show imports.flatMap (diagnosticsOf r ignoreExternal id) = _
  rw [unresolved, List.filter_filter]
  induction imports with
  | nil => rfl
  | cons i rest ih =>
    rw [List.flatMap_cons, ih, List.filter_cons, diagnosticsOf]
    by_cases htargets : (r.resolve i).targets = []
    · cases isSilent r ignoreExternal i <;> simp [htargets, told]
    · simp [htargets]

theorem told_of_all (imports : List Import) :
    (ofImports r false id imports).diagnostics = (unresolved r imports).map (told id) := by
  rw [ofImports_diagnostics, List.filter_eq_self.mpr]
  intro i _
  rfl

theorem told_of_project (imports : List Import) :
    (ofImports r true id imports).diagnostics = ((unresolved r imports).filter r.isProjectImport).map (told id) := by
  rw [ofImports_diagnostics]
  simp only [isSilent, Bool.true_and, Bool.not_not]

end ModuleScan

/-- Only an absolute import is external, and by its first part alone. -/
theorem Resolver.isProjectImport_eq_false_iff {r : Resolver} {i : Import} :
    r.isProjectImport i = false ↔ i.level = 0 ∧ i.head ∉ r.topLevels := by
  simp [isProjectImport]

namespace Workspace

open ModuleScan in
/-- **What leads nowhere is told import by import, and to leave external imports out only silences**: the
modules that are reached, the names that are missing and the state of the file stay what they are, what is no
longer told is what was told of external imports, and no absolute import that starts like one of these reaches a
module. To start a dotted name a name has to be there and to have no slash in it. -/
theorem unresolved_imports_are_told_unless_external (w : Workspace) (root : Path) (read : SourceReader)
    {ids : List ModuleId} {r : Resolver} (hr : Resolver.ofModules? ids = some r) {id : ModuleId}
    {imports : List Import} (himports : w.importsOf? root read id = some imports) :
    let scan := fun ignoreExternal => w.scanModule root read r ignoreExternal id
    (scan false).diagnostics = (unresolved r imports).map (told id) ∧
      (scan true).edges = (scan false).edges ∧ (scan true).dangling = (scan false).dangling ∧
      (scan true).parsed = (scan false).parsed ∧
      (scan true).diagnostics = ((unresolved r imports).filter r.isProjectImport).map (told id) ∧
      ∀ i, r.isProjectImport i = false → i.level = 0 ∧
        (IsSegment i.head → ∀ j : Import, j.level = 0 → j.head = i.head → (r.resolve j).targets = []) := by
  have hscan : ∀ ignoreExternal,
      w.scanModule root read r ignoreExternal id = .ofImports r ignoreExternal id imports := by
    intro ignoreExternal
    rcases w.scanModule_cases root read r ignoreExternal id with ⟨hnone, _⟩ | ⟨found, hfound, hscan⟩
    · rw [himports] at hnone
      cases hnone
    · rw [himports] at hfound
      rw [hscan, Option.some.inj hfound]
  simp only [hscan]
  refine ⟨told_of_all .., rfl, rfl, rfl, told_of_project .., fun i hi => ?_⟩
  obtain ⟨hlevel, hout⟩ := Resolver.isProjectImport_eq_false_iff.mp hi
  refine ⟨hlevel, fun hsegment j hj hhead => ?_⟩
  obtain ⟨_, rfl⟩ := Resolver.ofModules?_eq_some_iff.mp hr
  exact Resolver.targets_eq_nil_of_not_topLevel hj (hhead ▸ hsegment) (hhead ▸ hout)

/-- A relative import is told of in any case, and one of another library only if external imports count. -/
theorem unresolved_imports_are_told_of_relative_import :
    let w := ofProject [("test_a.py", .file [])]
    let top : Path := ⟨.root, ["project"]⟩
    let read : SourceReader := fun _ id => .ok [⟨"os", 0, [], id, 1⟩, ⟨"gone", 1, ["x"], id, 2⟩]
    let r := Resolver.ofModules ["test_a.py"]
    let scan := fun ignoreExternal => w.scanModule top read r ignoreExternal "test_a.py"
    Resolver.ofModules? ["test_a.py"] = some r ∧
      w.importsOf? top read "test_a.py" =
        some [⟨"os", 0, [], "test_a.py", 1⟩, ⟨"gone", 1, ["x"], "test_a.py", 2⟩] ∧
      (scan false).diagnostics = [Diagnostic.unresolvedImport "test_a.py" 1 "import os",
        .unresolvedImport "test_a.py" 2 "from .gone import x"] ∧
      (scan true).diagnostics = [Diagnostic.unresolvedImport "test_a.py" 2 "from .gone import x"] ∧
      ∀ j : Import, j.level = 0 → j.head = "os" → (r.resolve j).targets = [] := by
  intro w top read r scan
  have hr : Resolver.ofModules? ["test_a.py"] = some r := rfl
  have himports : w.importsOf? top read "test_a.py" =
      some [⟨"os", 0, [], "test_a.py", 1⟩, ⟨"gone", 1, ["x"], "test_a.py", 2⟩] := by cbv
  obtain ⟨hall, _, _, _, hproject, hexternal⟩ :=
    unresolved_imports_are_told_unless_external w top read hr himports
  have hresolver : r = Resolver.ofModules ["test_a.py"] := rfl
  rw [Resolver.ofModules, sortIds_ascending (by decide)] at hresolver
  have hos : r.isProjectImport ⟨"os", 0, [], "test_a.py", 1⟩ = false := by
    rw [hresolver]
    decide
  refine ⟨hr, himports, hall.trans ?_, hproject.trans ?_, fun j hj hhead => ?_⟩
  · rw [hresolver]
    decide
  · rw [hresolver]
    decide
  · exact (hexternal _ hos).2 (by decide) j hj hhead

end Workspace

end Ripple
