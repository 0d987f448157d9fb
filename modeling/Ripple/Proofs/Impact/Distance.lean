import Mathlib.Order.Bounds.Defs
import Ripple.Proofs.Impact.Seeds
import Ripple.Proofs.Impact.Walk

/-! Exact distances.

The walk takes modules from the front of a queue and puts new ones at its end. As long as the seeds
lie at no distance or one step away, the queue holds at most two distances, the lesser in front
(`Layered`), so a module is never reached the long way first. What is written down are then the
lengths of shortest ways (`Exact`, `changes_reach_at_shortest_distance`). -/
namespace Ripple

/-! ### The queue -/

/-- What is left to look at are the last modules reached, and no module lies more than one step
beyond any of them. -/
structure Layered (s : Impact × Frontier) : Prop where
  queued : s.2 <:+ s.1.distances.entries
  sorted : s.1.distances.entries.Pairwise (·.2 ≤ ·.2)
  tight : ∀ e ∈ s.2, ∀ f ∈ s.1.distances.entries, f.2 ≤ e.2 + 1

theorem layered_plant (limit : Option Int) {seeds : Distances} (hn : IsNear seeds) :
    Layered (plant limit seeds) where
  queued := by
    have hsame : (plant limit seeds).2 = (plant limit seeds).1.distances.entries := by
      rw [plant_entries, plant_frontier]
    exact hsame ▸ List.suffix_rfl
  sorted := by
    rw [plant_entries]
    exact (planted_sorted seeds).filter _
  tight e he f hf := by
    rw [plant_frontier] at he
    rw [plant_entries] at hf
    have h1 := hn e ((mem_planted seeds e).mp (List.mem_filter.mp he).1)
    have h2 := hn f ((mem_planted seeds f).mp (List.mem_filter.mp hf).1)
    omega

section Step
variable {limit : Option Int} {distance : Int} {ids fresh : List ModuleId} {r : Impact}
  {rest : Frontier} {id : ModuleId} {s' : Impact × Frontier}

/-- Nothing left to look at is nearer than the module in front. -/
theorem Layered.front_le (h : Layered (r, (id, distance) :: rest)) :
    ∀ e ∈ rest, distance ≤ e.2 :=
  (List.pairwise_cons.mp (h.sorted.sublist h.queued.sublist)).1

theorem Layered.next (h : Layered (r, (id, distance) :: rest))
    (ht : Takes limit (distance + 1) ids (r, rest) s' fresh) : Layered s' where
  queued := by
    obtain ⟨done, hdone⟩ := h.queued
    refine ⟨done ++ [(id, distance)], ?_⟩
    rw [ht.entries, ht.frontier, ← hdone]
    simp
  sorted := by
    rw [ht.entries, List.pairwise_append]
    refine ⟨h.sorted, ?_, ?_⟩
    · rw [List.pairwise_map]
      exact List.pairwise_of_forall fun _ _ => Int.le_refl _
    · intro e he f hf
      obtain ⟨x, _, rfl⟩ := List.mem_map.mp hf
      exact h.tight _ (List.mem_cons_self ..) e he
  tight e he f hf := by
    have hfront : f.2 ≤ distance + 1 := by
      rcases (ht.mem_entries f).mp hf with hf | ⟨_, hf⟩
      · exact h.tight _ (List.mem_cons_self ..) f hf
      · exact Int.le_of_eq hf
    rw [ht.frontier, List.mem_append] at he
    rcases he with he | he
    · have := h.front_le e he
      omega
    · obtain ⟨x, _, rfl⟩ := List.mem_map.mp he
      simp only
      omega

/-! ### The distances -/

/-- Every distance is that of a way from a seed, and every step onwards from a module that has been
looked at is accounted for. -/
structure Exact (g : Graph) (seeds : Distances) (s : Impact × Frontier) : Prop where
  sound : ∀ e ∈ s.1.distances.entries, ∃ o ∈ seeds.entries, ∃ n : Nat, g.Walk o.1 n e.1 ∧ e.2 = o.2 + n
  seeded : ∀ o ∈ seeds.entries, o ∈ s.1.distances.entries
  closed : ∀ e ∈ s.1.distances.entries, e ∈ s.2 ∨
    ∀ v ∈ g.dependents e.1, ∃ f ∈ s.1.distances.entries, f.1 = v ∧ f.2 ≤ e.2 + 1

theorem exact_plant (g : Graph) (seeds : Distances) : Exact g seeds (plant none seeds) where
  sound e he := by
    rw [plant_entries, List.mem_filter, mem_planted] at he
    exact ⟨e, he.1, 0, .start, by simp⟩
  seeded o ho := by
    rw [plant_entries, List.mem_filter, mem_planted]
    exact ⟨ho, rfl⟩
  closed e he := by
    rw [plant_entries] at he
    rw [plant_frontier]
    exact .inl he

theorem Exact.next {g : Graph} {seeds : Distances} (h : Exact g seeds (r, (id, distance) :: rest))
    (hl : Layered (r, (id, distance) :: rest))
    (ht : Takes none (distance + 1) (g.dependents id) (r, rest) s' fresh) : Exact g seeds s' where
  sound e he := by
    rcases (ht.mem_entries e).mp he with he | ⟨hfresh, hdistance⟩
    · exact h.sound e he
    · have hid : (id, distance) ∈ r.distances.entries := hl.queued.subset (List.mem_cons_self ..)
      obtain ⟨o, ho, n, hwalk, hn⟩ := h.sound _ hid
      refine ⟨o, ho, n + 1, hwalk.step (ht.fresh_mem _ hfresh), ?_⟩
      simp only at hn
      rw [hdistance, hn]
      push_cast
      omega
  seeded o ho := (ht.mem_entries o).mpr (.inl (h.seeded o ho))
  closed e he := by
    rcases (ht.mem_entries e).mp he with he' | ⟨hfresh, hdistance⟩
    · rcases h.closed e he' with hq | hc
      · rcases List.mem_cons.mp hq with rfl | hq
        -- the module in front is looked at now
        · refine .inr fun v hv => ?_
          rcases ht.covers rfl v hv with hk | hf
          · obtain ⟨f, hf, rfl⟩ := List.mem_map.mp hk
            exact ⟨f, (ht.mem_entries f).mpr (.inl hf), rfl, hl.tight _ (List.mem_cons_self ..) f hf⟩
          · exact ⟨(v, distance + 1), (ht.mem_entries _).mpr (.inr ⟨hf, rfl⟩), rfl, Int.le_refl _⟩
        · rw [ht.frontier]
          exact .inl (List.mem_append_left _ hq)
      · refine .inr fun v hv => ?_
        obtain ⟨f, hf, hfv⟩ := hc v hv
        exact ⟨f, (ht.mem_entries f).mpr (.inl hf), hfv⟩
    · rw [ht.frontier]
      exact .inl (List.mem_append_right _ (List.mem_map.mpr ⟨e.1, hfresh, by rw [← hdistance]⟩))

end Step

theorem impactOf_exact (g : Graph) {seeds : Distances} (hn : IsNear seeds) :
    Layered (impactOf g seeds none, []) ∧ Exact g seeds (impactOf g seeds none, []) := by
  apply impactOf_induction (P := fun s => Layered s ∧ Exact g seeds s)
  · exact ⟨layered_plant none hn, exact_plant g seeds⟩
  · intro r id distance rest h
    obtain ⟨hl, he⟩ := h
    obtain ⟨fresh, ht⟩ := foldl_reach_takes none (distance + 1) (g.dependents id) (r, rest)
    exact ⟨hl.next ht, he.next hl ht⟩

/-- Every way from a seed ends at a module that has been reached, and not later than that way. -/
theorem Exact.reaches {g : Graph} {seeds : Distances} {r : Impact} (h : Exact g seeds (r, []))
    {o : ModuleId × Int} (ho : o ∈ seeds.entries) {n : Nat} {m : ModuleId} (hw : g.Walk o.1 n m) :
    ∃ e ∈ r.distances.entries, e.1 = m ∧ e.2 ≤ o.2 + n := by
  induction hw with
  | start => exact ⟨o, h.seeded o ho, rfl, by simp⟩
  | @step n u v _ hv ih =>
    obtain ⟨e, he, rfl, hle⟩ := ih
    rcases h.closed e he with hq | hc
    · exact absurd hq List.not_mem_nil
    · obtain ⟨f, hf, hfv, hfe⟩ := hc v hv
      refine ⟨f, hf, hfv, ?_⟩
      push_cast
      omega

/-- A module is affected if some way leads back to it from a seed. -/
theorem mem_keys_impactOf (g : Graph) {seeds : Distances} (hn : IsNear seeds) (m : ModuleId) :
    m ∈ (impactOf g seeds none).distances.keys ↔ ∃ s ∈ seeds.keys, ∃ n, g.Walk s n m := by
  have hexact := (impactOf_exact g hn).2
  constructor
  · intro hm
    obtain ⟨e, he, rfl⟩ := List.mem_map.mp hm
    obtain ⟨o, ho, n, hw, _⟩ := hexact.sound e he
    exact ⟨o.1, List.mem_map.mpr ⟨o, ho, rfl⟩, n, hw⟩
  · intro h
    obtain ⟨s, hs, n, hw⟩ := h
    obtain ⟨o, ho, rfl⟩ := List.mem_map.mp hs
    obtain ⟨e, he, rfl, _⟩ := hexact.reaches ho hw
    exact List.mem_map.mpr ⟨e, he, rfl⟩

/-! ### Shortest ways -/

/-- The shortest way back from `s` to `m` has `n` edges. -/
def Graph.ShortestWalk (g : Graph) (s : ModuleId) (n : Nat) (m : ModuleId) : Prop :=
  IsLeast {k | g.Walk s k m} n

theorem Graph.Walk.exists_shortest {g : Graph} {s m : ModuleId} {n : Nat} (h : g.Walk s n m) :
    ∃ k ≤ n, g.ShortestWalk s k m := by
  induction n using Nat.strongRecOn with
  | ind n ih =>
    by_cases hmin : ∀ k, g.Walk s k m → n ≤ k
    · exact ⟨n, Nat.le_refl n, h, hmin⟩
    · simp only [Classical.not_forall, Nat.not_le] at hmin
      obtain ⟨k, hk, hlt⟩ := hmin
      obtain ⟨j, hj, hshort⟩ := ih k hlt hk
      exact ⟨j, by omega, hshort⟩

/-- The distances at which the shortest ways from the seeds reach `m`. -/
def arrivals (g : Graph) (seeds : Distances) (m : ModuleId) : Set Int :=
  {x | ∃ s k, seeds.get? s = some k ∧ ∃ n : Nat, g.ShortestWalk s n m ∧ x = k + n}

/-- A module that has been reached is no further than any way from a seed. -/
theorem Exact.isLeast_arrivals {g : Graph} {seeds : Distances} {r : Impact}
    (h : Exact g seeds (r, [])) {m : ModuleId} {d : Int} (hm : r.distances.get? m = some d) :
    IsLeast (arrivals g seeds m) d := by
  have hbound : ∀ {s k n}, seeds.get? s = some k → g.Walk s n m → d ≤ k + n := by
    intro s k n hs hw
    obtain ⟨e, he, rfl, hle⟩ := h.reaches ((OrderedMap.get?_eq_some_iff ..).mp hs) hw
    have hsame := (OrderedMap.get?_eq_some_iff ..).mpr he
    rw [hm, Option.some.injEq] at hsame
    simp only at hle
    omega
  constructor
  · obtain ⟨o, ho, n, hw, hd⟩ := h.sound _ ((OrderedMap.get?_eq_some_iff ..).mp hm)
    have hseed := (OrderedMap.get?_eq_some_iff ..).mpr ho
    obtain ⟨k, hk, hshort⟩ := hw.exists_shortest
    refine ⟨o.1, o.2, hseed, k, hshort, ?_⟩
    have := hbound hseed hshort.1
    simp only at hd
    omega
  · intro x hx
    obtain ⟨s, k, hs, n, hshort, rfl⟩ := hx
    exact hbound hs hshort.1

/-- **Changes reach exactly the modules from which ways lead to them, each at the distance of the
nearest seed by a shortest way, nearer modules first.** -/
theorem changes_reach_at_shortest_distance (g : Graph) (r : Resolver) (changed : List ModuleId) :
    ∃ impact, impactOf? g (seedsOf g r changed) none = .ok impact ∧
      (∀ m, impact.contains m = true ↔
        ∃ s, (seedsOf g r changed).contains s = true ∧ ∃ n, g.Walk s n m) ∧
      (∀ m d, impact.distances.get? m = some d ↔ IsLeast (arrivals g (seedsOf g r changed) m) d) ∧
      impact.distances.entries.Pairwise (·.2 ≤ ·.2) := by
  have hnear := seedsOf_near g r changed
  obtain ⟨hlayered, hexact⟩ := impactOf_exact g hnear
  refine ⟨impactOf g (seedsOf g r changed) none, rfl, ?_, ?_, hlayered.sorted⟩
  · intro m
    simp only [Impact.contains, OrderedMap.contains_iff]
    exact mem_keys_impactOf g hnear m
  · intro m d
    constructor
    · exact hexact.isLeast_arrivals
    · intro hd
      obtain ⟨s, k, hs, n, hshort, _⟩ := hd.1
      have hm : m ∈ (impactOf g (seedsOf g r changed) none).distances.keys :=
        (mem_keys_impactOf g hnear m).mpr
          ⟨s, (OrderedMap.mem_keys_iff ..).mpr ⟨k, hs⟩, n, hshort.1⟩
      obtain ⟨d', hd'⟩ := (OrderedMap.mem_keys_iff ..).mp hm
      have hleast := hexact.isLeast_arrivals hd'
      have : d = d' := Int.le_antisymm (hd.2 hleast.1) (hleast.2 hd.1)
      exact this ▸ hd'

end Ripple
