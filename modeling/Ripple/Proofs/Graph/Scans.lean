import Ripple.Proofs.Graph.Edit
import Ripple.Proofs.Resolver.Resolution

/-! Graphs, as what their modules import.

A scan says of its module what the imports of the module say (`ModuleScan.Tells`), and a module that
could not be read or parsed has none. So the graph of a project is told by the imports of its
modules (`Scanned.mem_dependents`, `Scanned.contains_iff`, `Scanned.mem_danglingImporters`). -/
namespace Ripple

open Resolver

/-- The scan depends on the targets of the imports and asks for what they ask in vain. -/
structure ModuleScan.Tells (r : Resolver) (imports : List Import) (s : ModuleScan) : Prop where
  edges : ∀ t, t ∈ s.edges ↔ t ≠ s.id ∧ ∃ i ∈ imports, t ∈ (r.resolve i).targets
  dangling : ∀ t, t ∈ s.dangling ↔ ∃ i ∈ imports, t ∈ (r.resolve i).missing

theorem ofImports_tells (r : Resolver) (ignoreExternal : Bool) (id : ModuleId) (imports : List Import) :
    (ModuleScan.ofImports r ignoreExternal id imports).Tells r imports where
  edges t := by
    simp only [ModuleScan.ofImports, mem_foldl_addNew, List.not_mem_nil, false_or, List.mem_filter,
      List.mem_flatMap, bne_iff_ne, ne_eq]
    exact and_comm
  dangling _ := List.mem_flatMap

theorem failed_tells (r : Resolver) (id : ModuleId) (d : Diagnostic) :
    (ModuleScan.failed id d).Tells r [] where
  edges := by simp [ModuleScan.failed]
  dangling := by simp [ModuleScan.failed]

/-- Each module of a project has been scanned, and its scan tells of its imports. -/
structure Scanned (ids : List ModuleId) (imports : ModuleId → List Import) (scan : ModuleId → ModuleScan) :
    Prop where
  id : ∀ m, (scan m).id = m
  tells : ∀ m, (scan m).Tells (.ofModules ids) (imports m)

namespace Scanned
variable {ids : List ModuleId} {imports : ModuleId → List Import} {scan : ModuleId → ModuleScan}
  (h : Scanned ids imports scan) {a b : ModuleId}
include h

theorem mem_dependents :
    a ∈ (assemble (ids.map scan)).dependents b ↔
      a ∈ ids ∧ a ≠ b ∧ ∃ i ∈ imports a, b ∈ ((ofModules ids).resolve i).targets := by
  simp only [mem_dependents_assemble, List.mem_map]
  constructor
  · intro hx
    obtain ⟨hne, _, ⟨m, hm, rfl⟩, rfl, hb⟩ := hx
    rw [h.id] at hne ⊢
    exact ⟨hm, hne, (((h.tells m).edges b).mp hb).2⟩
  · intro hx
    obtain ⟨ha, hne, hb⟩ := hx
    refine ⟨hne, _, ⟨a, ha, rfl⟩, h.id a, ((h.tells a).edges b).mpr ⟨?_, hb⟩⟩
    rw [h.id]
    exact hne.symm

/-- No edge leads out of the project. -/
theorem contains_iff : (assemble (ids.map scan)).contains a = true ↔ a ∈ ids := by
  simp only [contains_assemble, List.mem_map]
  constructor
  · intro hx
    obtain ⟨_, ⟨m, hm, rfl⟩, ha | ha⟩ := hx
    · rwa [← ha, h.id]
    · obtain ⟨_, i, _, ht⟩ := ((h.tells m).edges a).mp ha
      exact targets_subset ht
  · exact fun ha => ⟨_, ⟨a, ha, rfl⟩, .inl (h.id a)⟩

theorem mem_danglingImporters {dotted : String} :
    a ∈ (assemble (ids.map scan)).danglingImporters dotted ↔
      a ∈ ids ∧ ∃ i ∈ imports a, ∃ t ∈ ((ofModules ids).resolve i).missing,
        t ≠ "" ∧ Graph.liesBeneath dotted t = true := by
  simp only [mem_danglingImporters_assemble, List.mem_map]
  constructor
  · intro hx
    obtain ⟨_, ⟨m, hm, rfl⟩, rfl, t, ht, hbeneath⟩ := hx
    obtain ⟨i, hi, ht⟩ := ((h.tells m).dangling t).mp ht
    rw [h.id]
    exact ⟨hm, i, hi, t, ht, hbeneath⟩
  · intro hx
    obtain ⟨ha, i, hi, t, ht, hbeneath⟩ := hx
    exact ⟨_, ⟨a, ha, rfl⟩, h.id a, t, ((h.tells a).dangling t).mpr ⟨i, hi, ht⟩, hbeneath⟩

end Scanned

/-! ### Graphs of parsed modules -/

/-- The graph of a project whose modules have been parsed. -/
def importGraph (ids : List ModuleId) (imports : ModuleId → List Import) (ignoreExternal : Bool) : Graph :=
  assemble (ids.map fun id => .ofImports (.ofModules ids) ignoreExternal id (imports id))

theorem scanned_importGraph (ids : List ModuleId) (imports : ModuleId → List Import) (ignoreExternal : Bool) :
    Scanned ids imports fun id => .ofImports (.ofModules ids) ignoreExternal id (imports id) where
  id _ := rfl
  tells m := ofImports_tells _ ignoreExternal m (imports m)

end Ripple
