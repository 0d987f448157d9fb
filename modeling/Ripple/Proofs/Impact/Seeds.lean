import Ripple.Impact
import Ripple.Proofs.OrderedMap

/-! Where changes start.

Each changed module offers starting places on its own (`startsOf`), and a place starts at the
nearest distance it is offered. Offers are made at no distance or one step away, so the seeds of a
walk are never further apart than that (`seedsOf_near`). -/
namespace Ripple

/-- Every module starts in place or one step away. -/
def IsNear (seeds : Distances) : Prop := ∀ e ∈ seeds.entries, e.2 = 0 ∨ e.2 = 1

instance (seeds : Distances) : Decidable (IsNear seeds) :=
  inferInstanceAs (Decidable (∀ e ∈ seeds.entries, _))

/-- The places at which one changed module starts, each with its distance. -/
def startsOf (g : Graph) (r : Resolver) (id : ModuleId) : List (ModuleId × Int) :=
  if g.contains id then [(id, 0)]
  else (g.danglingImporters (r.moduleName id)).map (·, 1) ++ ((enclosingPackage? g id).map (·, 0)).toList

/-! ### One offer -/

theorem mem_keys_seed (seeds : Distances) (id x : ModuleId) (distance : Int) :
    x ∈ (seed seeds id distance).keys ↔ x = id ∨ x ∈ seeds.keys := by
  unfold seed
  cases h : seeds.get? id with
  | none => simp only [OrderedMap.mem_keys_insert]
  | some known =>
    have hid : id ∈ seeds.keys := (OrderedMap.mem_keys_iff ..).mpr ⟨known, h⟩
    simp only
    split
    · rw [OrderedMap.mem_keys_insert]
    · exact ⟨.inr, fun hx => hx.elim (fun e => e ▸ hid) fun h => h⟩

/-- What is known of a place was known before, or is the offer. -/
theorem get?_seed {seeds : Distances} {id x : ModuleId} {distance k : Int}
    (h : (seed seeds id distance).get? x = some k) :
    seeds.get? x = some k ∨ x = id ∧ k = distance := by
  unfold seed at h
  have hinsert : (seeds.insert id distance).get? x = some k →
      seeds.get? x = some k ∨ x = id ∧ k = distance := by
    rw [OrderedMap.get?_insert]
    split
    · next hx => exact fun hk => .inr ⟨hx, (Option.some.inj hk).symm⟩
    · exact .inl
  split at h
  · split at h
    · exact hinsert h
    · exact .inl h
  · exact hinsert h

/-- An offer is taken, unless something nearer is known. -/
theorem get?_seed_le (seeds : Distances) (id : ModuleId) (distance : Int) :
    ∃ k ≤ distance, (seed seeds id distance).get? id = some k := by
  have hinsert : (seeds.insert id distance).get? id = some distance := by simp
  unfold seed
  cases h : seeds.get? id with
  | none => exact ⟨distance, Int.le_refl _, hinsert⟩
  | some known =>
    simp only
    split
    · exact ⟨distance, Int.le_refl _, hinsert⟩
    · next hlt => exact ⟨known, Int.not_lt.mp hlt, h⟩

/-- An offer takes nothing away. -/
theorem get?_seed_mono {seeds : Distances} {x : ModuleId} {k : Int} (h : seeds.get? x = some k)
    (id : ModuleId) (distance : Int) : ∃ j ≤ k, (seed seeds id distance).get? x = some j := by
  unfold seed
  cases hid : seeds.get? id with
  | none =>
    have hx : x ≠ id := fun hx => by simp [← hx, h] at hid
    exact ⟨k, Int.le_refl _, by simp [hx, h]⟩
  | some known =>
    simp only
    split
    · next hlt =>
      by_cases hx : x = id
      · subst hx
        rw [h, Option.some.injEq] at hid
        exact ⟨distance, by omega, by simp⟩
      · exact ⟨k, Int.le_refl _, by simp [hx, h]⟩
    · exact ⟨k, Int.le_refl _, h⟩

/-! ### All offers -/

theorem mem_keys_foldl_seed (offers : List (ModuleId × Int)) (seeds : Distances) (x : ModuleId) :
    x ∈ (offers.foldl (fun seeds e => seed seeds e.1 e.2) seeds).keys ↔
      x ∈ seeds.keys ∨ ∃ e ∈ offers, e.1 = x := by
  induction offers generalizing seeds with
  | nil => simp
  | cons e rest ih =>
    simp only [List.foldl_cons, ih, mem_keys_seed, List.mem_cons, exists_eq_or_imp]
    grind

theorem get?_foldl_seed {offers : List (ModuleId × Int)} {seeds : Distances} {x : ModuleId} {k : Int}
    (h : (offers.foldl (fun seeds e => seed seeds e.1 e.2) seeds).get? x = some k) :
    seeds.get? x = some k ∨ (x, k) ∈ offers := by
  induction offers generalizing seeds with
  | nil => exact .inl h
  | cons e rest ih =>
    rcases ih h with h | h
    · rcases get?_seed h with h | ⟨rfl, rfl⟩
      · exact .inl h
      · exact .inr (List.mem_cons_self ..)
    · exact .inr (List.mem_cons_of_mem _ h)

theorem get?_foldl_seed_mono (offers : List (ModuleId × Int)) {seeds : Distances} {x : ModuleId} {k : Int}
    (h : seeds.get? x = some k) :
    ∃ j ≤ k, (offers.foldl (fun seeds e => seed seeds e.1 e.2) seeds).get? x = some j := by
  induction offers generalizing seeds k with
  | nil => exact ⟨k, Int.le_refl _, h⟩
  | cons e rest ih =>
    obtain ⟨i, hi, hseed⟩ := get?_seed_mono h e.1 e.2
    obtain ⟨j, hj, hrest⟩ := ih hseed
    exact ⟨j, Int.le_trans hj hi, hrest⟩

/-- No place starts further away than it is offered. -/
theorem get?_foldl_seed_le {offers : List (ModuleId × Int)} (seeds : Distances) {e : ModuleId × Int}
    (h : e ∈ offers) :
    ∃ k ≤ e.2, (offers.foldl (fun seeds e => seed seeds e.1 e.2) seeds).get? e.1 = some k := by
  obtain ⟨before, after, rfl⟩ := List.append_of_mem h
  rw [List.foldl_append, List.foldl_cons]
  obtain ⟨i, hi, hseed⟩ := get?_seed_le (before.foldl (fun seeds e => seed seeds e.1 e.2) seeds) e.1 e.2
  obtain ⟨k, hk, hafter⟩ := get?_foldl_seed_mono after hseed
  exact ⟨k, Int.le_trans hk hi, hafter⟩

theorem seedChange_eq_foldl (g : Graph) (r : Resolver) (seeds : Distances) (id : ModuleId) :
    seedChange g r seeds id = (startsOf g r id).foldl (fun seeds e => seed seeds e.1 e.2) seeds := by
  unfold seedChange startsOf
  split
  · rfl
  · rw [List.foldl_append, List.foldl_map]
    cases enclosingPackage? g id <;> rfl

theorem seedsOf_eq_foldl (g : Graph) (r : Resolver) (changed : List ModuleId) :
    seedsOf g r changed =
      (changed.flatMap (startsOf g r)).foldl (fun seeds e => seed seeds e.1 e.2) ∅ := by
  rw [List.foldl_flatMap, seedsOf]
  congr 1
  funext seeds id
  exact seedChange_eq_foldl g r seeds id

theorem mem_keys_seedsOf (g : Graph) (r : Resolver) (changed : List ModuleId) (m : ModuleId) :
    m ∈ (seedsOf g r changed).keys ↔ ∃ id ∈ changed, ∃ e ∈ startsOf g r id, e.1 = m := by
  rw [seedsOf_eq_foldl, mem_keys_foldl_seed]
  simp only [OrderedMap.keys_empty, List.not_mem_nil, false_or, List.mem_flatMap]
  grind

/-- Every place starts at a distance that some change offers. -/
theorem mem_startsOf_of_get?_seedsOf {g : Graph} {r : Resolver} {changed : List ModuleId} {m : ModuleId}
    {k : Int} (h : (seedsOf g r changed).get? m = some k) : ∃ id ∈ changed, (m, k) ∈ startsOf g r id := by
  rw [seedsOf_eq_foldl] at h
  rcases get?_foldl_seed h with h | h
  · simp at h
  · exact List.mem_flatMap.mp h

/-- No place starts further away than any change offers. -/
theorem get?_seedsOf_le {g : Graph} {r : Resolver} {changed : List ModuleId} {id m : ModuleId} {d : Int}
    (hid : id ∈ changed) (h : (m, d) ∈ startsOf g r id) :
    ∃ k ≤ d, (seedsOf g r changed).get? m = some k := by
  rw [seedsOf_eq_foldl]
  exact get?_foldl_seed_le ∅ (List.mem_flatMap.mpr ⟨id, hid, h⟩)

theorem startsOf_near {g : Graph} {r : Resolver} {id : ModuleId} {e : ModuleId × Int}
    (h : e ∈ startsOf g r id) : e.2 = 0 ∨ e.2 = 1 := by
  unfold startsOf at h
  split at h
  · rw [List.mem_singleton] at h
    exact .inl (h ▸ rfl)
  · rcases List.mem_append.mp h with h | h
    · obtain ⟨m, _, rfl⟩ := List.mem_map.mp h
      exact .inr rfl
    · rw [Option.mem_toList, Option.map_eq_some_iff] at h
      obtain ⟨m, _, rfl⟩ := h
      exact .inl rfl

/-- **Seeds lie at no distance or one step away.** -/
theorem seedsOf_near (g : Graph) (r : Resolver) (changed : List ModuleId) :
    IsNear (seedsOf g r changed) := by
  intro e he
  obtain ⟨id, _, hid⟩ := mem_startsOf_of_get?_seedsOf ((OrderedMap.get?_eq_some_iff ..).mpr he)
  exact startsOf_near hid

end Ripple
