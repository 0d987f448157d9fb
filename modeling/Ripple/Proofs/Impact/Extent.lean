import Mathlib.Data.List.Perm.Subperm
import Ripple.Proofs.Impact.Union

/-! How far changes reach.

Without a limit a module is reached at the least of its arrivals, so a limit leaves something out exactly if
some module arrives beyond it at best (`truncated_impactOf_iff`). A graph that nothing leads out of
(`Graph.Closed`) keeps the changes in: they start at modules of the graph, and every way on stays there
(`Graph.Closed.contains_impact`). -/
namespace Ripple

section Limit
variable {g : Graph} {seeds : Distances}

theorem get?_impactOf_iff_isLeast (hn : IsNear seeds) (m : ModuleId) (d : Int) :
    (impactOf g seeds none).distances.get? m = some d ↔ IsLeast (arrivals g seeds m) d := by
  have hexact := (impactOf_exact g hn).2
  refine ⟨hexact.isLeast_arrivals, fun hd => ?_⟩
  obtain ⟨s, k, hs, n, hshort, _⟩ := hd.1
  obtain ⟨d', _, hd'⟩ := get?_impactOf_le hn hs hshort.1
  rw [hd.unique (hexact.isLeast_arrivals hd'), hd']

/-- Some module arrives beyond the limit at best. -/
def LeavesOut (g : Graph) (seeds : Distances) (limit : Int) : Prop :=
  ∃ m d, IsLeast (arrivals g seeds m) d ∧ limit < d

/-- **A walk is told to have been stopped exactly if its limit leaves something out.** -/
theorem truncated_impactOf_iff (hn : IsNear seeds) (limit : Option Int) :
    (impactOf g seeds limit).truncated = true ↔ ∃ n ∈ limit, LeavesOut g seeds n := by
  cases limit with
  | none =>
    have hwhole := (impactOf_trims g 0 hn).whole
    simp only at hwhole
    simp [hwhole]
  | some n =>
    refine (impactOf_trims g n hn).truncated.trans ?_
    simp only [Option.mem_some_iff, exists_eq_left', LeavesOut, ← get?_impactOf_iff_isLeast hn,
      OrderedMap.get?_eq_some_iff, Prod.exists]

end Limit

/-! ### Graphs that nothing leads out of -/

/-- Whoever depends on a module, or asks for a missing one, is a module of the graph. -/
structure Graph.Closed (g : Graph) : Prop where
  dependents : ∀ a b, a ∈ g.dependents b → g.contains a = true
  importers : ∀ a dotted, a ∈ g.danglingImporters dotted → g.contains a = true

theorem contains_of_enclosingPackage? {g : Graph} {id package : ModuleId} (h : enclosingPackage? g id = some package) :
    g.contains package = true :=
  List.find?_some h

namespace Graph.Closed
variable {g : Graph} (h : g.Closed)
include h

theorem contains_start {r : Resolver} {id : ModuleId} {e : ModuleId × Int} (he : e ∈ startsOf g r id) :
    g.contains e.1 = true := by
  unfold startsOf at he
  split at he
  · next hid => exact List.mem_singleton.mp he ▸ hid
  · rcases List.mem_append.mp he with he | he
    · obtain ⟨importer, himporter, rfl⟩ := List.mem_map.mp he
      exact h.importers _ _ himporter
    · obtain ⟨package, hpackage, rfl⟩ := Option.map_eq_some_iff.mp (Option.mem_toList.mp he)
      exact contains_of_enclosingPackage? hpackage

theorem contains_seed {r : Resolver} {changed : List ModuleId} {m : ModuleId}
    (hm : m ∈ (seedsOf g r changed).keys) : g.contains m = true := by
  obtain ⟨id, _, e, he, rfl⟩ := (mem_keys_seedsOf ..).mp hm
  exact h.contains_start he

theorem contains_walk {a m : ModuleId} {n : Nat} (hw : g.Walk a n m) (ha : g.contains a = true) :
    g.contains m = true := by
  induction hw with
  | start => exact ha
  | step _ hv _ => exact h.dependents _ _ hv

/-- **Changes reach modules of the graph and nothing else**, under any limit. -/
theorem contains_impact {r : Resolver} {changed : List ModuleId} {limit : Option Int} {m : ModuleId}
    (hm : m ∈ (impactOf g (seedsOf g r changed) limit).distances.keys) : g.contains m = true := by
  have hn := seedsOf_near g r changed
  obtain ⟨d, hd⟩ := (OrderedMap.mem_keys_iff ..).mp hm
  obtain ⟨hfull, _⟩ := (get?_impactOf_limit hn limit m d).mp hd
  obtain ⟨a, k, ha, n, hw, _⟩ := exists_walk_of_get?_impactOf hn hfull
  exact h.contains_walk hw (h.contains_seed ((OrderedMap.mem_keys_iff ..).mpr ⟨k, ha⟩))

theorem size_impact_le (r : Resolver) (changed : List ModuleId) (limit : Option Int) :
    (impactOf g (seedsOf g r changed) limit).size ≤ g.size := by
  have hsub : (impactOf g (seedsOf g r changed) limit).distances.keys ⊆ g.modules := fun m hm =>
    (OrderedMap.contains_iff ..).mp (h.contains_impact hm)
  have hnodup : (impactOf g (seedsOf g r changed) limit).distances.keys.Nodup := OrderedMap.nodup _
  have hle := (hnodup.subperm hsub).length_le
  rwa [Graph.modules, OrderedMap.length_keys, OrderedMap.length_keys] at hle

end Graph.Closed

end Ripple
