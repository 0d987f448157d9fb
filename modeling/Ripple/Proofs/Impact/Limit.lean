import Ripple.Proofs.Impact.Distance

/-! Distance limits.

A walk under a limit and one without run side by side (`spread_trims`): at every step the first
holds just what the second holds within the limit, and it is flagged as soon as the second holds
anything beyond. Nearer modules come first, so a module left out once is not taken in later. -/
namespace Ripple

/-- `cut` is `full` without what lies beyond the limit, and says whether something does. -/
structure Trims (limit : Int) (full cut : Impact × Frontier) : Prop where
  entries : cut.1.distances.entries = full.1.distances.entries.filter (fun e => decide (e.2 ≤ limit))
  frontier : cut.2 = full.2.filter (fun e => decide (e.2 ≤ limit))
  truncated : cut.1.truncated = true ↔ ∃ e ∈ full.1.distances.entries, limit < e.2
  whole : full.1.truncated = false

theorem exceeds_none (distance : Int) : exceeds none distance = false := rfl

theorem exceeds_some (limit distance : Int) :
    exceeds (some limit) distance = !decide (distance ≤ limit) := by
  by_cases h : distance ≤ limit <;> simp [exceeds, h, Int.not_lt.mpr, Int.not_le.mp]

/-- Nothing at a distance beyond the limit lies within it. -/
theorem filter_beyond {limit distance : Int} (h : limit < distance) (ids : List ModuleId) :
    (ids.map (·, distance)).filter (fun e => decide (e.2 ≤ limit)) = [] := by
  rw [List.filter_eq_nil_iff]
  intro e he
  obtain ⟨x, _, rfl⟩ := List.mem_map.mp he
  simp only [decide_eq_true_eq]
  omega

theorem trims_plant (limit : Int) (seeds : Distances) :
    Trims limit (plant none seeds) (plant (some limit) seeds) where
  entries := by simp [plant_entries, exceeds_none, exceeds_some]
  frontier := by simp [plant_frontier, exceeds_none, exceeds_some]
  truncated := by
    simp [plant_truncated, plant_entries, mem_planted, exceeds_none, exceeds_some]
  whole := by
    rw [← Bool.not_eq_true, plant_truncated]
    simp [exceeds_none]

section Step
variable {g : Graph} {limit distance : Int} {id : ModuleId} {full cut : Impact} {rest left : Frontier}
  {ids : List ModuleId}

/-- While everything lies within the limit, there is nothing to tell the walks apart. -/
theorem Trims.eq_of_within {s c : Impact × Frontier} (ht : Trims limit s c)
    (hq : s.2 <:+ s.1.distances.entries) (hle : ∀ e ∈ s.1.distances.entries, e.2 ≤ limit) : c = s := by
  have hentries : c.1.distances.entries = s.1.distances.entries := by
    rw [ht.entries, List.filter_eq_self]
    exact fun e he => decide_eq_true (hle e he)
  have hfrontier : c.2 = s.2 := by
    rw [ht.frontier, List.filter_eq_self]
    exact fun e he => decide_eq_true (hle e (hq.subset he))
  have htruncated : c.1.truncated = s.1.truncated := by
    rw [ht.whole, ← Bool.not_eq_true, ht.truncated]
    intro h
    obtain ⟨e, he, hlt⟩ := h
    have := hle e he
    omega
  obtain ⟨⟨⟨centries, _⟩, _⟩, _⟩ := c
  obtain ⟨⟨⟨sentries, _⟩, _⟩, _⟩ := s
  simp only at hentries hfrontier htruncated
  subst hentries hfrontier htruncated
  rfl

theorem trims_self {s : Impact × Frontier} (hw : s.1.truncated = false) (hq : s.2 <:+ s.1.distances.entries)
    (hle : ∀ e ∈ s.1.distances.entries, e.2 ≤ limit) : Trims limit s s where
  entries := (List.filter_eq_self.mpr fun e he => decide_eq_true (hle e he)).symm
  frontier := (List.filter_eq_self.mpr fun e he => decide_eq_true (hle e (hq.subset he))).symm
  truncated := by
    rw [hw]
    simp only [Bool.false_eq_true, false_iff]
    intro h
    obtain ⟨e, he, hlt⟩ := h
    have := hle e he
    omega
  whole := hw

/-- Without a limit nothing is left out. -/
theorem Takes.whole {s s' : Impact × Frontier} {fresh : List ModuleId}
    (h : Takes none distance ids s s' fresh) (hs : s.1.truncated = false) : s'.1.truncated = false := by
  rw [← Bool.not_eq_true, h.truncated]
  simp [hs, exceeds_none]

/-- Short of the limit both walks take the same modules in. -/
theorem Trims.next_below (hl : Layered (full, (id, distance) :: rest))
    (ht : Trims limit (full, (id, distance) :: rest) (cut, left)) (hd : distance < limit) :
    ∃ left', left = (id, distance) :: left' ∧
      Trims limit (ids.foldl (reach none (distance + 1)) (full, rest))
        (ids.foldl (reach (some limit) (distance + 1)) (cut, left')) := by
  have hle : ∀ e ∈ full.distances.entries, e.2 ≤ limit := by
    intro e he
    have := hl.tight _ (List.mem_cons_self ..) e he
    simp only at this
    omega
  have hsame := ht.eq_of_within hl.queued hle
  simp only [Prod.mk.injEq] at hsame
  obtain ⟨rfl, rfl⟩ := hsame
  refine ⟨rest, rfl, ?_⟩
  have hreach : reach (some limit) (distance + 1) = reach none (distance + 1) := by
    have hwithin : exceeds (some limit) (distance + 1) = false := decide_eq_false (by omega)
    funext s x
    rw [reach, reach, hwithin, exceeds_none]
  rw [hreach]
  obtain ⟨fresh, hf⟩ := foldl_reach_takes none (distance + 1) ids (cut, rest)
  refine trims_self (hf.whole ht.whole) (hl.next hf).queued ?_
  intro e he
  rcases (hf.mem_entries e).mp he with he | ⟨_, he⟩
  · exact hle e he
  · omega

/-- At the limit the walk without one goes on and the other is flagged. -/
theorem Trims.next_at (ht : Trims limit (full, (id, limit) :: rest) (cut, left)) :
    ∃ left', left = (id, limit) :: left' ∧
      Trims limit (ids.foldl (reach none (limit + 1)) (full, rest))
        (ids.foldl (reach (some limit) (limit + 1)) (cut, left')) := by
  obtain ⟨fresh, hf⟩ := foldl_reach_takes none (limit + 1) ids (full, rest)
  obtain ⟨kept, hc⟩ := foldl_reach_takes (some limit) (limit + 1) ids
    (cut, rest.filter (fun e => decide (e.2 ≤ limit)))
  have hexceeds : exceeds (some limit) (limit + 1) = true := decide_eq_true (Int.lt_succ limit)
  have hkept : kept = [] := Decidable.byContradiction fun hne => by simp [hc.within hne] at hexceeds
  subst hkept
  have hbeyond := filter_beyond (Int.lt_succ limit) fresh
  have hknown : ∀ x, x ∈ cut.distances.keys → x ∈ full.distances.keys := by
    intro x hx
    rw [OrderedMap.keys, ht.entries, List.mem_map] at hx
    obtain ⟨e, he, rfl⟩ := hx
    exact List.mem_map.mpr ⟨e, (List.mem_filter.mp he).1, rfl⟩
  refine ⟨_, by simpa using ht.frontier, ?_, ?_, ?_, hf.whole ht.whole⟩
  · rw [hc.entries, hf.entries, List.filter_append, hbeyond]
    simpa using ht.entries
  · rw [hc.frontier, hf.frontier, List.filter_append, hbeyond]
    simp
  · rw [hc.truncated, ht.truncated]
    constructor
    · intro h
      rcases h with ⟨e, he, hlt⟩ | ⟨_, x, hx, hnew⟩
      · exact ⟨e, (hf.mem_entries e).mpr (.inl he), hlt⟩
      · -- a dependent that is left out is known to lie beyond the limit, or is taken in there
        rcases hf.covers rfl x hx with hk | hk
        · obtain ⟨e, he, rfl⟩ := List.mem_map.mp hk
          refine ⟨e, (hf.mem_entries e).mpr (.inl he), Int.not_le.mp fun hle => hnew ?_⟩
          rw [OrderedMap.keys, ht.entries]
          exact List.mem_map.mpr ⟨e, List.mem_filter.mpr ⟨he, decide_eq_true hle⟩, rfl⟩
        · exact ⟨(x, limit + 1), (hf.mem_entries _).mpr (.inr ⟨hk, rfl⟩), Int.lt_succ limit⟩
    · intro h
      obtain ⟨e, he, hlt⟩ := h
      rcases (hf.mem_entries e).mp he with he | ⟨hfresh, _⟩
      · exact .inl ⟨e, he, hlt⟩
      · exact .inr ⟨hexceeds, e.1, hf.fresh_mem _ hfresh, fun hk => hf.fresh_new _ hfresh (hknown _ hk)⟩

/-- Beyond the limit the walk under it has ended. -/
theorem Trims.next_beyond (hl : Layered (full, (id, distance) :: rest))
    (ht : Trims limit (full, (id, distance) :: rest) (cut, left)) (hd : limit < distance) :
    left = [] ∧ Trims limit (ids.foldl (reach none (distance + 1)) (full, rest)) (cut, []) := by
  obtain ⟨fresh, hf⟩ := foldl_reach_takes none (distance + 1) ids (full, rest)
  have hrest : rest.filter (fun e => decide (e.2 ≤ limit)) = [] := by
    rw [List.filter_eq_nil_iff]
    intro e he
    have := hl.front_le e he
    simp only [decide_eq_true_eq]
    omega
  have hbeyond := filter_beyond (Int.lt_add_one_of_le (Int.le_of_lt hd)) fresh
  refine ⟨?_, ?_, ?_, ?_, hf.whole ht.whole⟩
  · have hleft := ht.frontier
    rw [List.filter_cons_of_neg (by simpa using hd), hrest] at hleft
    exact hleft
  · rw [hf.entries, List.filter_append, hbeyond, List.append_nil]
    exact ht.entries
  · rw [hf.frontier, List.filter_append, hbeyond, hrest]
    rfl
  · -- the module in front lies beyond the limit itself, so the flag is up already
    have hfront : (id, distance) ∈ full.distances.entries := hl.queued.subset (List.mem_cons_self ..)
    rw [ht.truncated]
    exact ⟨fun _ => ⟨_, (hf.mem_entries _).mpr (.inl hfront), hd⟩, fun _ => ⟨_, hfront, hd⟩⟩

end Step

/-- With nothing left to look at, a walk has ended. -/
theorem spread_nil (g : Graph) (limit : Option Int) (fuel : Nat) (r : Impact) :
    spread g limit fuel (r, []) = r := by
  cases fuel <;> rfl

theorem spread_trims (g : Graph) {limit : Int} (fuel : Nat) {full cut : Impact × Frontier}
    (hl : Layered full) (ht : Trims limit full cut) :
    Trims limit (spread g none fuel full, []) (spread g (some limit) fuel cut, []) := by
  induction fuel generalizing full cut with
  | zero => exact ⟨ht.entries, rfl, ht.truncated, ht.whole⟩
  | succ fuel ih =>
    obtain ⟨r, f⟩ := full
    obtain ⟨c, left⟩ := cut
    cases f with
    | nil =>
      have hleft : left = [] := ht.frontier
      subst hleft
      exact ht
    | cons e rest =>
      obtain ⟨id, distance⟩ := e
      obtain ⟨fresh, hf⟩ := foldl_reach_takes none (distance + 1) (g.dependents id) (r, rest)
      have hnext := hl.next hf
      rcases Int.lt_trichotomy distance limit with hd | rfl | hd
      · obtain ⟨left', rfl, ht'⟩ := ht.next_below hl hd
        exact ih hnext ht'
      · obtain ⟨left', rfl, ht'⟩ := ht.next_at
        exact ih hnext ht'
      · obtain ⟨rfl, ht'⟩ := ht.next_beyond hl hd
        have := ih hnext ht'
        rw [spread_nil] at this ⊢
        exact this

theorem impactOf_trims (g : Graph) (limit : Int) {seeds : Distances} (hn : IsNear seeds) :
    Trims limit (impactOf g seeds none, []) (impactOf g seeds (some limit), []) :=
  spread_trims g _ (layered_plant none hn) (trims_plant limit seeds)

/-- A distance known under a limit is the one known without, and lies within. -/
theorem get?_impactOf_some (g : Graph) (limit : Int) {seeds : Distances} (hn : IsNear seeds)
    (m : ModuleId) (d : Int) :
    (impactOf g seeds (some limit)).distances.get? m = some d ↔
      (impactOf g seeds none).distances.get? m = some d ∧ d ≤ limit := by
  rw [OrderedMap.get?_eq_some_iff, OrderedMap.get?_eq_some_iff, (impactOf_trims g limit hn).entries,
    List.mem_filter, decide_eq_true_eq]

/-- **A distance limit leaves out what lies beyond it and nothing else**, says so exactly if it left
something out, and a wider limit keeps every distance. The seeds of changes are near in any graph. -/
theorem limit_filters_impact (g : Graph) (seeds : Distances) (hn : IsNear seeds) (limit : Int)
    (hlimit : 0 ≤ limit) :
    (∀ r changed, IsNear (seedsOf g r changed)) ∧
    ∃ full cut, impactOf? g seeds none = .ok full ∧ impactOf? g seeds (some limit) = .ok cut ∧
      cut.distances.entries = full.distances.entries.filter (fun e => decide (e.2 ≤ limit)) ∧
      (cut.truncated = true ↔ ∃ e ∈ full.distances.entries, limit < e.2) ∧
      ∀ higher, limit ≤ higher → ∃ wide, impactOf? g seeds (some higher) = .ok wide ∧
        ∀ m d, cut.distances.get? m = some d → wide.distances.get? m = some d := by
  have hok : ∀ n, 0 ≤ n → impactOf? g seeds (some n) = .ok (impactOf g seeds (some n)) := by
    intro n hn
    simp [impactOf?, Int.not_lt.mpr hn]
  have htrims := impactOf_trims g limit hn
  refine ⟨seedsOf_near g, _, _, rfl, hok limit hlimit, htrims.entries, htrims.truncated, ?_⟩
  intro higher hle
  refine ⟨_, hok higher (by omega), ?_⟩
  intro m d hm
  obtain ⟨hfull, hd⟩ := (get?_impactOf_some g limit hn m d).mp hm
  exact (get?_impactOf_some g higher hn m d).mpr ⟨hfull, by omega⟩

/-- In a ring of three, one step from `a` and the second seed beside it are left. -/
theorem limit_filters_ring :
    let ring := ((Graph.empty.addEdge "b" "a").addEdge "c" "b").addEdge "a" "c"
    let seeds : Distances := .ofList [("a", 0), ("x", 1)]
    IsNear seeds ∧ (0 : Int) ≤ 1 ∧ ∃ cut, impactOf? ring seeds (some 1) = .ok cut ∧
      cut.distances.entries = [("a", 0), ("x", 1), ("b", 1)] ∧ cut.truncated = true := by
  intro ring seeds
  have hn : IsNear seeds := by decide
  obtain ⟨_, full, cut, hfull, hcut, hentries, htruncated, _⟩ :=
    limit_filters_impact ring seeds hn 1 (by decide)
  have hsorted : seeds.entries.mergeSort seedLe = seeds.entries := List.mergeSort_of_pairwise (by decide)
  have hring : full.distances.entries = [("a", 0), ("x", 1), ("b", 1), ("c", 2)] := by
    obtain rfl := Except.ok.inj hfull
    unfold impactOf plant
    rw [hsorted]
    decide
  refine ⟨hn, by decide, cut, hcut, ?_, ?_⟩
  · rw [hentries, hring]
    decide
  · rw [htruncated, hring]
    decide

end Ripple
