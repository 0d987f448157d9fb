import Ripple.Proofs.Graph.Scans
import Ripple.Proofs.Impact.Distance
import Ripple.Proofs.Resolver.Removal

/-! Deleting modules.

A deleted module is no longer in the graph, but whoever imported it now asks for it in vain and
starts one step away (`starts_of_dependent`), and the edges between the modules that are left are as
they were (`dependents_remaining`). So a way back from a deleted module, cut behind the last deleted
module on it, is a way back from a seed (`walk_remaining`): deleting a module affects whatever a
change to it would have affected (`deletion_reaches_what_a_change_reaches`). -/
namespace Ripple

open Resolver

/-! ### Before and after -/

section Deletion
variable {ids gone : List ModuleId} {imports : ModuleId → List Import} {ignoreExternal : Bool}
  (h : Packaged ids) (hgone : ∀ d ∈ gone, isPackageFile d = false)
  (hi : ∀ id ∈ ids, ∀ i ∈ imports id, i.file = id ∧ i.WellFormed)
include h hgone hi

/-- The modules that are left import each other as before. -/
theorem dependents_remaining {a b : ModuleId}
    (hab : a ∈ (importGraph ids imports ignoreExternal).dependents b) (ha : a ∉ gone) (hb : b ∉ gone) :
    a ∈ (importGraph (remaining ids gone) imports ignoreExternal).dependents b := by
  obtain ⟨hid, hne, i, himport, ht⟩ := (scanned_importGraph ids imports ignoreExternal).mem_dependents.mp hab
  obtain ⟨hfile, hform⟩ := hi a hid i himport
  exact (scanned_importGraph _ imports ignoreExternal).mem_dependents.mpr
    ⟨(mem_remaining ..).mpr ⟨hid, ha⟩, hne, i, himport, h.target_remaining hgone (hfile ▸ hid) hform ht hb⟩

/-- Whoever imported a deleted module starts one step away. -/
theorem starts_of_dependent {a d : ModuleId}
    (had : a ∈ (importGraph ids imports ignoreExternal).dependents d) (ha : a ∉ gone) (hd : d ∈ gone) :
    (a, 1) ∈ startsOf (importGraph (remaining ids gone) imports ignoreExternal)
      (.ofModules (remaining ids gone)) d := by
  obtain ⟨hid, _, i, himport, ht⟩ := (scanned_importGraph ids imports ignoreExternal).mem_dependents.mp had
  obtain ⟨hfile, hform⟩ := hi a hid i himport
  obtain ⟨n, hn, hne, hbeneath⟩ := h.missing_remaining hgone (hfile ▸ hid) hform ht hd
  have habsent : ¬ (importGraph (remaining ids gone) imports ignoreExternal).contains d = true := by
    rw [importGraph, (scanned_importGraph ..).contains_iff, mem_remaining]
    exact fun hk => hk.2 hd
  have hasks : a ∈ (importGraph (remaining ids gone) imports ignoreExternal).danglingImporters
      ((ofModules (remaining ids gone)).moduleName d) :=
    (scanned_importGraph _ imports ignoreExternal).mem_danglingImporters.mpr
      ⟨(mem_remaining ..).mpr ⟨hid, ha⟩, i, himport, n, hn, hne, hbeneath⟩
  unfold startsOf
  rw [if_neg habsent]
  exact List.mem_append_left _ (List.mem_map.mpr ⟨a, hasks, rfl⟩)

theorem mem_seeds_of_dependent {a d : ModuleId}
    (had : a ∈ (importGraph ids imports ignoreExternal).dependents d) (ha : a ∉ gone) (hd : d ∈ gone) :
    a ∈ (seedsOf (importGraph (remaining ids gone) imports ignoreExternal)
      (.ofModules (remaining ids gone)) gone).keys :=
  (mem_keys_seedsOf ..).mpr ⟨d, hd, _, starts_of_dependent h hgone hi had ha hd, rfl⟩

/-- A way back from a deleted module to one that is left ends with a way back from a seed. -/
theorem walk_remaining {d m : ModuleId} {n : Nat} (hd : d ∈ gone)
    (hw : (importGraph ids imports ignoreExternal).Walk d n m) (hm : m ∉ gone) :
    ∃ s ∈ (seedsOf (importGraph (remaining ids gone) imports ignoreExternal)
        (.ofModules (remaining ids gone)) gone).keys,
      ∃ k, (importGraph (remaining ids gone) imports ignoreExternal).Walk s k m := by
  induction hw with
  | start => exact absurd hd hm
  | @step n u v _ hv ih =>
    by_cases hu : u ∈ gone
    -- the last deleted module on the way
    · exact ⟨v, mem_seeds_of_dependent h hgone hi hv hm hu, 0, .start⟩
    · obtain ⟨s, hs, k, hk⟩ := ih hu
      exact ⟨s, hs, k + 1, hk.step (dependents_remaining h hgone hi hv hm hu)⟩

end Deletion

/-- The seeds of changes to modules that are all there. -/
def seedsInPlace (changed : List ModuleId) : Distances := .ofList (changed.map (·, 0))

theorem mem_keys_seedsInPlace (changed : List ModuleId) (m : ModuleId) :
    m ∈ (seedsInPlace changed).keys ↔ m ∈ changed := by
  simp [seedsInPlace, OrderedMap.mem_keys_ofList]

theorem seedsInPlace_near (changed : List ModuleId) : IsNear (seedsInPlace changed) := by
  intro e he
  have hmem := OrderedMap.mem_of_get?_ofList ((OrderedMap.get?_eq_some_iff ..).mpr he)
  obtain ⟨m, _, hm⟩ := List.mem_map.mp hmem
  exact .inl (congrArg Prod.snd hm).symm

/-! ### A small project -/

/-- A package of two modules, one of which imports the other, and a test of that one. -/
def smallProject : List ModuleId := ["pkg/__init__.py", "pkg/mod.py", "pkg/use.py", "test_use.py"]

def smallImports (id : ModuleId) : List Import :=
  if id = "pkg/use.py" then [⟨"mod", 1, ["*"], "pkg/use.py", 1⟩]
  else if id = "test_use.py" then [⟨"pkg", 0, ["use"], "test_use.py", 1⟩]
  else []

theorem smallProject_packaged : Packaged smallProject where
  shaped id hid := by
    simp only [smallProject, List.mem_cons, List.not_mem_nil, or_false] at hid
    rcases hid with rfl | rfl | rfl | rfl
    · exact ⟨["pkg"], "__init__", by decide⟩
    · exact ⟨["pkg"], "mod", by decide⟩
    · exact ⟨["pkg"], "use", by decide⟩
    · exact ⟨[], "test_use", by decide⟩
  enclosed := by decide
  unshadowed parts hfile hpackage := by
    have hending : packageFile.toList <:+ (packageOf parts).toList := by
      rw [packageOf, String.toList_append]
      exact List.suffix_append _ _
    simp only [smallProject, List.mem_cons, List.not_mem_nil, or_false] at hpackage
    rcases hpackage with he | he | he | he
    · rw [show "pkg/__init__.py" = "pkg" ++ "/" ++ packageFile from rfl, packageOf, String.append_left_inj,
        String.append_left_inj] at he
      rw [fileOf, he] at hfile
      exact absurd hfile (by decide)
    all_goals
      rw [he] at hending
      exact absurd hending (by decide)

theorem smallProject_lookup {name : String} (hs : IsSegment name) (hm : fileOf ["pkg", name] ∈ smallProject) :
    (ofModules smallProject).lookup ["pkg", name] = some (fileOf ["pkg", name]) := by
  have hpkg : IsSegment "pkg" := by decide
  have hparts : ∀ s ∈ ["pkg", name], IsSegment s := by simp [hpkg, hs]
  rw [smallProject_packaged.lookup_eq hparts (by simp), if_pos hm]

theorem use_imports_mod :
    "pkg/use.py" ∈ (importGraph smallProject smallImports false).dependents "pkg/mod.py" := by
  have hanchor : anchor? ⟨"mod", 1, ["*"], "pkg/use.py", 1⟩ = some ["pkg"] := by decide
  refine (scanned_importGraph ..).mem_dependents.mpr ⟨by decide, by decide, _, List.mem_singleton.mpr rfl, ?_⟩
  refine (mem_targets_resolve hanchor _).mpr (.inr ⟨.inl rfl, by decide, ?_⟩)
  exact lookupTrimmed_of_lookup (by decide) (smallProject_lookup (by decide) (by decide))

theorem test_imports_use :
    "test_use.py" ∈ (importGraph smallProject smallImports false).dependents "pkg/use.py" := by
  have hanchor : anchor? ⟨"pkg", 0, ["use"], "test_use.py", 1⟩ = some [] := by decide
  refine (scanned_importGraph ..).mem_dependents.mpr ⟨by decide, by decide, _, List.mem_singleton.mpr rfl, ?_⟩
  refine (mem_targets_resolve hanchor _).mpr (.inl ⟨"use", by decide, ?_⟩)
  exact smallProject_lookup (by decide) (by decide)

/-! ### Deletion -/

/-- **Deleting modules affects whatever changes to them would have affected.** -/
theorem deletion_reaches_what_a_change_reaches {ids gone : List ModuleId}
    {imports : ModuleId → List Import} (ignoreExternal : Bool) (hids : Packaged ids)
    (hgone : ∀ d ∈ gone, d ∈ ids ∧ isPackageFile d = false)
    (himports : ∀ id ∈ ids, ∀ i ∈ imports id, i.file = id ∧ i.WellFormed) :
    let before := importGraph ids imports ignoreExternal
    let after := importGraph (remaining ids gone) imports ignoreExternal
    let seeds := seedsOf after (.ofModules (remaining ids gone)) gone
    ∃ changed deleted, impactOf? before (seedsInPlace gone) none = .ok changed ∧
      impactOf? after seeds none = .ok deleted ∧
      (∀ m ∈ remaining ids gone, changed.contains m = true → deleted.contains m = true) ∧
      ∀ m ∈ remaining ids gone, ∀ d ∈ gone, m ∈ before.dependents d →
        ∃ k, seeds.get? m = some k ∧ k ≤ 1 := by
  intro before after seeds
  have hplain : ∀ d ∈ gone, isPackageFile d = false := fun d hd => (hgone d hd).2
  refine ⟨_, _, rfl, rfl, ?_, ?_⟩
  · intro m hm hreached
    simp only [Impact.contains, OrderedMap.contains_iff] at hreached ⊢
    obtain ⟨d, hd, n, hw⟩ := (mem_keys_impactOf _ (seedsInPlace_near gone) m).mp hreached
    exact (mem_keys_impactOf _ (seedsOf_near _ _ _) m).mpr
      (walk_remaining hids hplain himports ((mem_keys_seedsInPlace ..).mp hd) hw ((mem_remaining ..).mp hm).2)
  · intro m hm d hd hdep
    have hseed := mem_seeds_of_dependent hids hplain himports hdep ((mem_remaining ..).mp hm).2 hd
    obtain ⟨k, hk⟩ := (OrderedMap.mem_keys_iff ..).mp hseed
    have hnear := seedsOf_near _ _ _ _ ((OrderedMap.get?_eq_some_iff ..).mp hk)
    exact ⟨k, hk, by simp only at hnear; omega⟩

/-- Without `pkg/mod.py`, the test is still affected through the module that imports it. -/
theorem deletion_reaches_test_of_small_project :
    Packaged smallProject ∧ (∀ d ∈ ["pkg/mod.py"], d ∈ smallProject ∧ isPackageFile d = false) ∧
    (∀ id ∈ smallProject, ∀ i ∈ smallImports id, i.file = id ∧ i.WellFormed) ∧
    ∃ deleted, impactOf? (importGraph (remaining smallProject ["pkg/mod.py"]) smallImports false)
        (seedsOf (importGraph (remaining smallProject ["pkg/mod.py"]) smallImports false)
          (.ofModules (remaining smallProject ["pkg/mod.py"])) ["pkg/mod.py"]) none = .ok deleted ∧
      deleted.contains "test_use.py" = true := by
  have hgone : ∀ d ∈ ["pkg/mod.py"], d ∈ smallProject ∧ isPackageFile d = false := by decide
  have himports : ∀ id ∈ smallProject, ∀ i ∈ smallImports id, i.file = id ∧ i.WellFormed := by decide
  refine ⟨smallProject_packaged, hgone, himports, ?_⟩
  obtain ⟨changed, deleted, hchanged, hdeleted, hreached, _⟩ :=
    deletion_reaches_what_a_change_reaches false smallProject_packaged hgone himports
  refine ⟨deleted, hdeleted, hreached "test_use.py" (by decide) ?_⟩
  obtain rfl := Except.ok.inj hchanged
  rw [Impact.contains, OrderedMap.contains_iff, mem_keys_impactOf _ (seedsInPlace_near _)]
  exact ⟨"pkg/mod.py", by decide, 2, (Graph.Walk.start.step use_imports_mod).step test_imports_use⟩

end Ripple
