import Ripple.Impact
import Ripple.Proofs.OrderedMap

/-! How an impact grows.

Looking at a module's dependents does one thing: those that are new and within the limit are
written down, at one distance, behind everything known so far and behind everything still to look
at (`foldl_reach_takes`). What every such step keeps holds of the impact as a whole, with nothing
left to look at (`impactOf_induction`): the bound on the number of steps is never what ends it. -/
namespace Ripple

/-- `n` edges lead backwards from `s` to a module. -/
inductive Graph.Walk (g : Graph) (s : ModuleId) : Nat → ModuleId → Prop where
  | start : Walk g s 0 s
  | step {n : Nat} {u v : ModuleId} : Walk g s n u → v ∈ g.dependents u → Walk g s (n + 1) v

/-! ### One module -/

section Reach
variable {limit : Option Int} {distance : Int} {r : Impact} {id : ModuleId}

theorem reach_known (hid : id ∈ r.distances.keys) (f : Frontier) :
    reach limit distance (r, f) id = (r, f) := by
  simp [reach, Impact.contains, hid]

theorem reach_beyond (hid : id ∉ r.distances.keys) (hl : exceeds limit distance = true) (f : Frontier) :
    reach limit distance (r, f) id = ({ r with truncated := true }, f) := by
  simp [reach, Impact.contains, hid, hl]

theorem reach_new (hid : id ∉ r.distances.keys) (hl : exceeds limit distance = false) (f : Frontier) :
    reach limit distance (r, f) id =
      ({ r with distances := r.distances.insert id distance }, f ++ [(id, distance)]) := by
  simp [reach, Impact.contains, hid, hl]

end Reach

/-! ### Taking modules in -/

/-- From `s` to `s'` the modules `fresh` out of `ids` were taken in, all at one distance. -/
structure Takes (limit : Option Int) (distance : Int) (ids : List ModuleId)
    (s s' : Impact × Frontier) (fresh : List ModuleId) : Prop where
  entries : s'.1.distances.entries = s.1.distances.entries ++ fresh.map (·, distance)
  frontier : s'.2 = s.2 ++ fresh.map (·, distance)
  fresh_mem : ∀ id ∈ fresh, id ∈ ids
  within : fresh ≠ [] → exceeds limit distance = false
  covers : exceeds limit distance = false → ∀ id ∈ ids, id ∈ s.1.distances.keys ∨ id ∈ fresh
  truncated : s'.1.truncated = true ↔ s.1.truncated = true ∨
    exceeds limit distance = true ∧ ∃ id ∈ ids, id ∉ s.1.distances.keys

variable {limit : Option Int} {distance : Int} {ids fresh : List ModuleId} {s s' : Impact × Frontier}

theorem Takes.keys (h : Takes limit distance ids s s' fresh) :
    s'.1.distances.keys = s.1.distances.keys ++ fresh := by
  simp only [OrderedMap.keys, h.entries, List.map_append, List.map_map]
  congr 1
  exact List.map_id fresh

theorem Takes.fresh_new (h : Takes limit distance ids s s' fresh) :
    ∀ id ∈ fresh, id ∉ s.1.distances.keys := by
  have hnodup := s'.1.distances.nodup
  rw [← OrderedMap.keys, h.keys, List.nodup_append] at hnodup
  exact fun id hid hk => hnodup.2.2 id hk id hid rfl

/-- An entry is an old one, or one of the modules taken in. -/
theorem Takes.mem_entries (h : Takes limit distance ids s s' fresh) (e : ModuleId × Int) :
    e ∈ s'.1.distances.entries ↔ e ∈ s.1.distances.entries ∨ e.1 ∈ fresh ∧ e.2 = distance := by
  rw [h.entries, List.mem_append, List.mem_map]
  constructor
  · intro hx
    rcases hx with he | ⟨id, hid, rfl⟩
    · exact .inl he
    · exact .inr ⟨hid, rfl⟩
  · intro hx
    rcases hx with he | ⟨hid, rfl⟩
    · exact .inl he
    · exact .inr ⟨e.1, hid, rfl⟩

theorem takes_nil (limit : Option Int) (distance : Int) (s : Impact × Frontier) :
    Takes limit distance [] s s [] where
  entries := by simp
  frontier := by simp
  fresh_mem := by simp
  within h := absurd rfl h
  covers _ id hid := by simp at hid
  truncated := by simp

/-- A known module changes nothing. -/
theorem Takes.cons_known (h : Takes limit distance ids s s' fresh) {id : ModuleId}
    (hid : id ∈ s.1.distances.keys) : Takes limit distance (id :: ids) s s' fresh where
  entries := h.entries
  frontier := h.frontier
  fresh_mem x hx := List.mem_cons_of_mem _ (h.fresh_mem x hx)
  within := h.within
  covers hl x hx := by
    rcases List.mem_cons.mp hx with rfl | hx
    · exact .inl hid
    · exact h.covers hl x hx
  truncated := by
    rw [h.truncated]
    simp [hid]

/-- A new module beyond the limit leaves its trace in the flag alone. -/
theorem Takes.cons_beyond {r : Impact} {f : Frontier}
    (h : Takes limit distance ids ({ r with truncated := true }, f) s' fresh) {id : ModuleId}
    (hid : id ∉ r.distances.keys) (hl : exceeds limit distance = true) :
    Takes limit distance (id :: ids) (r, f) s' fresh where
  entries := h.entries
  frontier := h.frontier
  fresh_mem x hx := List.mem_cons_of_mem _ (h.fresh_mem x hx)
  within := h.within
  covers hl' := by simp [hl] at hl'
  truncated := by
    rw [h.truncated]
    simp [hid, hl]

/-- A new module within the limit goes to the end, of what is known and of what is to look at. -/
theorem Takes.cons_new {r : Impact} {f : Frontier} {id : ModuleId}
    (h : Takes limit distance ids
      ({ r with distances := r.distances.insert id distance }, f ++ [(id, distance)]) s' fresh)
    (hid : id ∉ r.distances.keys) (hl : exceeds limit distance = false) :
    Takes limit distance (id :: ids) (r, f) s' (id :: fresh) where
  entries := by
    rw [h.entries, OrderedMap.entries_insert hid]
    simp
  frontier := by
    rw [h.frontier]
    simp
  fresh_mem x hx := by
    rcases List.mem_cons.mp hx with rfl | hx
    · exact List.mem_cons_self ..
    · exact List.mem_cons_of_mem _ (h.fresh_mem x hx)
  within _ := hl
  covers _ x hx := by
    rcases List.mem_cons.mp hx with rfl | hx
    · exact .inr (List.mem_cons_self ..)
    · have := h.covers hl x hx
      rw [OrderedMap.mem_keys_insert] at this
      rcases this with (rfl | hk) | hf
      · exact .inr (List.mem_cons_self ..)
      · exact .inl hk
      · exact .inr (List.mem_cons_of_mem _ hf)
  truncated := by
    rw [h.truncated]
    simp [hl]

/-- **What looking at a module's dependents does.** -/
theorem foldl_reach_takes (limit : Option Int) (distance : Int) (ids : List ModuleId)
    (s : Impact × Frontier) :
    ∃ fresh, Takes limit distance ids s (ids.foldl (reach limit distance) s) fresh := by
  induction ids generalizing s with
  | nil => exact ⟨[], takes_nil limit distance s⟩
  | cons id rest ih =>
    obtain ⟨r, f⟩ := s
    rw [List.foldl_cons]
    by_cases hid : id ∈ r.distances.keys
    · rw [reach_known hid]
      obtain ⟨fresh, h⟩ := ih (r, f)
      exact ⟨fresh, h.cons_known hid⟩
    · cases hl : exceeds limit distance with
      | true =>
        rw [reach_beyond hid hl]
        obtain ⟨fresh, h⟩ := ih ({ r with truncated := true }, f)
        exact ⟨fresh, h.cons_beyond hid hl⟩
      | false =>
        rw [reach_new hid hl]
        obtain ⟨fresh, h⟩ :=
          ih ({ r with distances := r.distances.insert id distance }, f ++ [(id, distance)])
        exact ⟨id :: fresh, h.cons_new hid hl⟩

/-! ### The seeds -/

/-- The seeds in the order in which they are planted. -/
def planted (seeds : Distances) : List (ModuleId × Int) := seeds.entries.mergeSort seedLe

theorem mem_planted (seeds : Distances) (e : ModuleId × Int) :
    e ∈ planted seeds ↔ e ∈ seeds.entries := List.mem_mergeSort

theorem seedLe_trans (a b c : ModuleId × Int) (hab : seedLe a b = true) (hbc : seedLe b c = true) :
    seedLe a c = true := by
  simp only [seedLe, decide_eq_true_eq] at *
  rcases hab with hab | ⟨hab, hab'⟩ <;> rcases hbc with hbc | ⟨hbc, hbc'⟩
  · exact .inl (by omega)
  · exact .inl (by omega)
  · exact .inl (by omega)
  · exact .inr ⟨by omega, String.le_trans hab' hbc'⟩

theorem seedLe_total (a b : ModuleId × Int) : (seedLe a b || seedLe b a) = true := by
  simp only [seedLe, Bool.or_eq_true, decide_eq_true_eq]
  rcases Int.lt_trichotomy a.2 b.2 with h | h | h
  · exact .inl (.inl h)
  · rcases String.le_total a.1 b.1 with h' | h'
    · exact .inl (.inr ⟨h, h'⟩)
    · exact .inr (.inr ⟨h.symm, h'⟩)
  · exact .inr (.inl h)

theorem planted_sorted (seeds : Distances) : (planted seeds).Pairwise (·.2 ≤ ·.2) := by
  refine (List.pairwise_mergeSort seedLe_trans seedLe_total seeds.entries).imp ?_
  intro a b hab
  simp only [seedLe, decide_eq_true_eq] at hab
  omega

theorem planted_nodup (seeds : Distances) : ((planted seeds).map Prod.fst).Nodup :=
  (List.Perm.nodup_iff ((List.mergeSort_perm seeds.entries seedLe).map Prod.fst)).mpr seeds.nodup

/-- Distinct new modules are taken in one by one, those beyond the limit left out. -/
theorem foldl_reach_distinct (limit : Option Int) (es : List (ModuleId × Int))
    (s : Impact × Frontier) (hnodup : (es.map Prod.fst).Nodup)
    (hnew : ∀ e ∈ es, e.1 ∉ s.1.distances.keys) :
    (es.foldl (fun s e => reach limit e.2 s e.1) s).1.distances.entries =
        s.1.distances.entries ++ es.filter (fun e => !exceeds limit e.2) ∧
      (es.foldl (fun s e => reach limit e.2 s e.1) s).2 =
        s.2 ++ es.filter (fun e => !exceeds limit e.2) ∧
      ((es.foldl (fun s e => reach limit e.2 s e.1) s).1.truncated = true ↔
        s.1.truncated = true ∨ ∃ e ∈ es, exceeds limit e.2 = true) := by
  induction es generalizing s with
  | nil => simp
  | cons e rest ih =>
    obtain ⟨r, f⟩ := s
    simp only [List.map_cons, List.nodup_cons] at hnodup
    have he : e.1 ∉ r.distances.keys := hnew e (List.mem_cons_self ..)
    have hrest : ∀ x ∈ rest, x.1 ∉ r.distances.keys := fun x hx => hnew x (List.mem_cons_of_mem _ hx)
    rw [List.foldl_cons]
    cases hl : exceeds limit e.2 with
    | true =>
      rw [reach_beyond he hl]
      obtain ⟨hentries, hfrontier, htruncated⟩ := ih ({ r with truncated := true }, f) hnodup.2 hrest
      refine ⟨?_, ?_, ?_⟩
      · simp [hentries, hl]
      · simp [hfrontier, hl]
      · simp [htruncated, hl]
    | false =>
      have hrest' : ∀ x ∈ rest, x.1 ∉ (r.distances.insert e.1 e.2).keys := by
        intro x hx hk
        rcases (OrderedMap.mem_keys_insert ..).mp hk with heq | hk
        · exact hnodup.1 (List.mem_map.mpr ⟨x, hx, heq⟩)
        · exact hrest x hx hk
      rw [reach_new he hl]
      obtain ⟨hentries, hfrontier, htruncated⟩ :=
        ih ({ r with distances := r.distances.insert e.1 e.2 }, f ++ [e]) hnodup.2 hrest'
      refine ⟨?_, ?_, ?_⟩
      · rw [hentries, OrderedMap.entries_insert he]
        simp [hl]
      · rw [hfrontier]
        simp [hl]
      · simp [htruncated, hl]

theorem plant_spec (limit : Option Int) (seeds : Distances) :
    (plant limit seeds).1.distances.entries =
        (planted seeds).filter (fun e => !exceeds limit e.2) ∧
      (plant limit seeds).2 = (planted seeds).filter (fun e => !exceeds limit e.2) ∧
      ((plant limit seeds).1.truncated = true ↔ ∃ e ∈ seeds.entries, exceeds limit e.2 = true) := by
  have h := foldl_reach_distinct limit (planted seeds) (.empty, []) (planted_nodup seeds)
    (by simp [Impact.empty])
  have hplant : plant limit seeds =
      (planted seeds).foldl (fun s e => reach limit e.2 s e.1) (.empty, []) := rfl
  rw [← hplant] at h
  simpa [Impact.empty, mem_planted] using h

theorem plant_entries (limit : Option Int) (seeds : Distances) :
    (plant limit seeds).1.distances.entries =
      (planted seeds).filter (fun e => !exceeds limit e.2) := (plant_spec limit seeds).1

theorem plant_frontier (limit : Option Int) (seeds : Distances) :
    (plant limit seeds).2 = (planted seeds).filter (fun e => !exceeds limit e.2) :=
  (plant_spec limit seeds).2.1

theorem plant_truncated (limit : Option Int) (seeds : Distances) :
    (plant limit seeds).1.truncated = true ↔ ∃ e ∈ seeds.entries, exceeds limit e.2 = true :=
  (plant_spec limit seeds).2.2

/-! ### The whole walk -/

theorem mem_dependents_flatten {g : Graph} {u v : ModuleId} (h : v ∈ g.dependents u) :
    v ∈ g.reverse.values.flatten := by
  unfold Graph.dependents at h
  cases hu : g.reverse.get? u with
  | none => simp [hu] at h
  | some vs =>
    rw [hu] at h
    have hvs : vs ∈ g.reverse.values :=
      List.mem_map.mpr ⟨(u, vs), (OrderedMap.get?_eq_some_iff ..).mp hu, rfl⟩
    exact List.mem_flatten.mpr ⟨vs, hvs, h⟩

/-- Enough fuel is left to look at everything that can still come up. -/
structure Fueled (g : Graph) (seeds : Distances) (fuel : Nat) (s : Impact × Frontier) : Prop where
  known : ∀ id ∈ s.1.distances.keys, id ∈ seeds.keys ++ g.reverse.values.flatten
  enough : spreadBound g seeds + s.2.length ≤ fuel + s.1.distances.keys.length

/-- No more modules can be known than the walk has steps. -/
theorem Fueled.keys_le {g : Graph} {seeds : Distances} {fuel : Nat} (h : Fueled g seeds fuel s) :
    s.1.distances.keys.length ≤ spreadBound g seeds := by
  have hle := List.Nodup.length_le_of_subset s.1.distances.nodup (fun id hid => h.known id hid)
  simpa [spreadBound, OrderedMap.size, OrderedMap.keys] using hle

theorem fueled_plant (g : Graph) (seeds : Distances) (limit : Option Int) :
    Fueled g seeds (spreadBound g seeds) (plant limit seeds) where
  known id hid := by
    simp only [OrderedMap.keys, plant_entries, List.mem_map, List.mem_filter, mem_planted] at hid
    obtain ⟨e, ⟨he, _⟩, rfl⟩ := hid
    exact List.mem_append_left _ (List.mem_map.mpr ⟨e, he, rfl⟩)
  enough := by simp only [OrderedMap.keys, List.length_map, plant_entries, plant_frontier, Nat.le_refl]

theorem Fueled.next {g : Graph} {seeds : Distances} {fuel : Nat} {r : Impact} {id : ModuleId}
    {rest : Frontier} (h : Fueled g seeds (fuel + 1) (r, (id, distance) :: rest))
    (ht : Takes limit (distance + 1) (g.dependents id) (r, rest) s' fresh) :
    Fueled g seeds fuel s' where
  known x hx := by
    rw [ht.keys, List.mem_append] at hx
    rcases hx with hx | hx
    · exact h.known x hx
    · exact List.mem_append_right _ (mem_dependents_flatten (ht.fresh_mem x hx))
  enough := by
    have hold := h.enough
    rw [ht.keys, ht.frontier]
    simp only [List.length_append, List.length_map, List.length_cons] at hold ⊢
    omega

/-- What every step keeps holds at the end, where nothing is left to look at. -/
theorem spread_induction {P : Impact × Frontier → Prop} {g : Graph} {seeds : Distances}
    (step : ∀ r id distance rest, P (r, (id, distance) :: rest) →
      P ((g.dependents id).foldl (reach limit (distance + 1)) (r, rest)))
    (fuel : Nat) (s : Impact × Frontier) (hs : P s) (hf : Fueled g seeds fuel s) :
    P (spread g limit fuel s, []) := by
  induction fuel generalizing s with
  | zero =>
    obtain ⟨r, f⟩ := s
    have hlen : f.length = 0 := by
      have h1 := hf.enough
      have h2 := hf.keys_le
      simp only at h1 h2
      omega
    rw [List.length_eq_zero_iff] at hlen
    exact hlen ▸ hs
  | succ fuel ih =>
    obtain ⟨r, f⟩ := s
    cases f with
    | nil => exact hs
    | cons e rest =>
      obtain ⟨id, distance⟩ := e
      obtain ⟨fresh, ht⟩ := foldl_reach_takes limit (distance + 1) (g.dependents id) (r, rest)
      exact ih _ (step r id distance rest hs) (hf.next ht)

theorem impactOf_induction {P : Impact × Frontier → Prop} {g : Graph} {seeds : Distances}
    (start : P (plant limit seeds))
    (step : ∀ r id distance rest, P (r, (id, distance) :: rest) →
      P ((g.dependents id).foldl (reach limit (distance + 1)) (r, rest))) :
    P (impactOf g seeds limit, []) :=
  spread_induction step _ _ start (fueled_plant g seeds limit)

end Ripple
