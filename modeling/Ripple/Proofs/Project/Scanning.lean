import Mathlib.Logic.Relation
import Ripple.Project.Scan
import Ripple.Proofs.Graph.Scans
import Ripple.Proofs.Impact.Walk

/-! The graph of a project on disk.

Modules that were parsed have the edges of their imports, all others have none
(`scanned_scan`). So the ways back through the graph are the chains of imports through the project,
read backwards (`exists_walk_iff`). -/
namespace Ripple

namespace Workspace
variable (w : Workspace) (root : Path)

/-- The imports of a module, if it can be read and parsed. -/
def importsOf? (read : SourceReader) (id : ModuleId) : Option (List Import) :=
  match w.sourceText (root / Path.parse id) with
  | .error _ => none
  | .ok source => (read source id).toOption

/-- `a` is a module of the project that has been parsed, and one of its imports leads to `b`. -/
def Imports (excluded : List String) (read : SourceReader) (a b : ModuleId) : Prop :=
  a ∈ w.discover root excluded ∧ ∃ imports, w.importsOf? root read a = some imports ∧
    ∃ i ∈ imports, b ∈ ((Resolver.ofModules (w.discover root excluded)).resolve i).targets

/-- A module that cannot be read or parsed has one parse error, and any other is what its imports make it. -/
theorem scanModule_cases (read : SourceReader) (r : Resolver) (ignoreExternal : Bool) (id : ModuleId) :
    (w.importsOf? root read id = none ∧ ∃ reason line,
      w.scanModule root read r ignoreExternal id = .failed id (.parseError id reason line)) ∨
    ∃ imports, w.importsOf? root read id = some imports ∧
      w.scanModule root read r ignoreExternal id = .ofImports r ignoreExternal id imports := by
  unfold scanModule importsOf?
  cases w.sourceText (root / Path.parse id) with
  | error e => exact .inl ⟨rfl, _, _, rfl⟩
  | ok source =>
    cases hread : read source id with
    | error e => exact .inl ⟨by simp [hread, Except.toOption], e.message, e.line, by simp only [hread]⟩
    | ok imports => exact .inr ⟨imports, by simp [hread, Except.toOption], by simp only [hread]⟩

theorem scanModule_id (read : SourceReader) (r : Resolver) (ignoreExternal : Bool) (id : ModuleId) :
    (w.scanModule root read r ignoreExternal id).id = id := by
  rcases w.scanModule_cases root read r ignoreExternal id with ⟨_, _, _, hscan⟩ | ⟨_, _, hscan⟩ <;>
  · rw [hscan]
    rfl

theorem scanModule_tells (read : SourceReader) (r : Resolver) (ignoreExternal : Bool) (id : ModuleId) :
    (w.scanModule root read r ignoreExternal id).Tells r ((w.importsOf? root read id).getD []) := by
  rcases w.scanModule_cases root read r ignoreExternal id with ⟨himports, _, _, hscan⟩ | ⟨_, himports, hscan⟩
  · rw [hscan, himports]
    exact failed_tells ..
  · rw [hscan, himports]
    exact ofImports_tells ..

theorem scanned_scan (o : ScanOptions) :
    Scanned (w.discover root o.excluded) (fun id => (w.importsOf? root o.read id).getD [])
      (w.scanModule root o.read (.ofModules (w.discover root o.excluded)) o.ignoreExternal) where
  id := w.scanModule_id root o.read _ o.ignoreExternal
  tells := w.scanModule_tells root o.read _ o.ignoreExternal

variable {w root} {o : ScanOptions}

theorem contains_scan (id : ModuleId) :
    (w.scan root o).graph.contains id = true ↔ id ∈ w.discover root o.excluded :=
  (w.scanned_scan root o).contains_iff

theorem mem_dependents_scan (a b : ModuleId) :
    a ∈ (w.scan root o).graph.dependents b ↔ a ≠ b ∧ w.Imports root o.excluded o.read a b := by
  refine (w.scanned_scan root o).mem_dependents.trans ?_
  unfold Imports
  cases h : w.importsOf? root o.read a with
  | none => simp
  | some imports =>
    simp only [Option.getD_some, Option.some.injEq, exists_eq_left']
    exact and_left_comm

/-- **The ways back from a module are the chains of imports that lead to it.** -/
theorem exists_walk_iff (t c : ModuleId) :
    (∃ n, (w.scan root o).graph.Walk c n t) ↔
      Relation.ReflTransGen (w.Imports root o.excluded o.read) t c := by
  constructor
  · intro h
    obtain ⟨n, hw⟩ := h
    induction hw with
    | start => exact .refl
    | step _ hv ih => exact .head ((mem_dependents_scan ..).mp hv).2 ih
  · intro hchain
    induction hchain using Relation.ReflTransGen.head_induction_on with
    | refl => exact ⟨0, .start⟩
    | @head a b hab _ ih =>
      obtain ⟨n, hw⟩ := ih
      -- an import of a module by itself is no edge, and no step on the way
      by_cases hne : a = b
      · exact ⟨n, hne ▸ hw⟩
      · exact ⟨n + 1, hw.step ((mem_dependents_scan ..).mpr ⟨hne, hab⟩)⟩

end Workspace

end Ripple
