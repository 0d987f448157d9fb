import Ripple.Proofs.OrderedMap
import Ripple.Selection

/-! Which tests are selected.

Selected are the affected modules of the graph that are named like tests (`mem_affectedTests`), and
by path no test comes before a lesser one or twice (`affectedTests_ascending`). -/
namespace Ripple

theorem mem_affectedTests (g : Graph) (r : Impact) (changed : List ModuleId) (order : Order) (t : ModuleId) :
    t ∈ (affectedTests g r changed order).map (·.path) ↔
      t ∈ r.distances.keys ∧ g.contains t = true ∧ isTestFile t = true := by
  simp only [affectedTests, List.mem_map, List.mem_mergeSort, List.mem_filter, Bool.and_eq_true,
    OrderedMap.keys]
  constructor
  · intro h
    obtain ⟨_, ⟨e, ⟨he, ht⟩, rfl⟩, rfl⟩ := h
    exact ⟨⟨e, he, rfl⟩, ht⟩
  · intro h
    obtain ⟨⟨e, he, rfl⟩, ht⟩ := h
    exact ⟨_, ⟨e, ⟨he, ht⟩, rfl⟩, rfl⟩

/-- A test is listed at the distance of its module. -/
theorem get?_of_mem_affectedTests {g : Graph} {r : Impact} {changed : List ModuleId} {order : Order}
    {t : SelectedTest} (h : t ∈ affectedTests g r changed order) :
    r.distances.get? t.path = some t.distance ∧
      t.filenameMatch = filenameMatch t.path (changedLeaves changed) := by
  simp only [affectedTests, List.mem_mergeSort, List.mem_map, List.mem_filter] at h
  obtain ⟨e, ⟨he, _⟩, rfl⟩ := h
  exact ⟨(OrderedMap.get?_eq_some_iff ..).mpr he, rfl⟩

/-- No test is listed twice. -/
theorem affectedTests_nodup (g : Graph) (r : Impact) (changed : List ModuleId) (order : Order) :
    ((affectedTests g r changed order).map (·.path)).Nodup := by
  have hperm := (List.mergeSort_perm ((r.distances.entries.filter fun e =>
    g.contains e.1 && isTestFile e.1).map fun e =>
      SelectedTest.mk e.1 e.2 (filenameMatch e.1 (changedLeaves changed))) order.le).map (·.path)
  refine hperm.nodup_iff.mpr ?_
  rw [List.map_map]
  exact r.distances.nodup.sublist (List.filter_sublist.map Prod.fst)

/-- Where every affected module is in the graph, those that are named like tests are the affected tests. -/
theorem length_affectedTests {g : Graph} {r : Impact} (h : ∀ m ∈ r.distances.keys, g.contains m = true)
    (changed : List ModuleId) (order : Order) :
    (affectedTests g r changed order).length = (r.distances.keys.filter isTestFile).length := by
  have htests : (r.distances.entries.filter fun e => g.contains e.1 && isTestFile e.1) =
      r.distances.entries.filter (isTestFile ·.1) :=
    List.filter_congr fun e he => by rw [h e.1 (List.mem_map_of_mem he), Bool.true_and]
  rw [affectedTests, List.length_mergeSort, List.length_map, htests, OrderedMap.keys, List.filter_map,
    List.length_map]
  rfl

theorem pathLe_trans (a b c : SelectedTest) (hab : pathLe a b = true) (hbc : pathLe b c = true) :
    pathLe a c = true :=
  decide_eq_true (String.le_trans (of_decide_eq_true hab) (of_decide_eq_true hbc))

theorem pathLe_total (a b : SelectedTest) : (pathLe a b || pathLe b a) = true := by
  simpa [pathLe] using String.le_total a.path b.path

/-- **Tests by path stand in strictly ascending order.** -/
theorem affectedTests_ascending (g : Graph) (r : Impact) (changed : List ModuleId) :
    ((affectedTests g r changed .path).map (·.path)).Pairwise (· < ·) := by
  have hsorted : (affectedTests g r changed .path).Pairwise fun a b => pathLe a b = true :=
    List.pairwise_mergeSort pathLe_trans pathLe_total _
  have hnodup := List.pairwise_map.mp (affectedTests_nodup g r changed .path)
  rw [List.pairwise_map]
  apply hsorted.imp₂ _ hnodup
  intro a b hab hne
  have hle : a.path ≤ b.path := of_decide_eq_true hab
  exact String.not_le.mp fun hba => hne (String.le_antisymm hle hba)

/-! ### The cap -/

/-- A cap below the number of tests keeps the first so many and says so; any other keeps all and says nothing. -/
theorem cap_cases {max : Option Int} (hmax : ∀ n ∈ max, 0 ≤ n) (tests : List SelectedTest) :
    (∃ n, max = some n ∧ n < tests.length ∧
      cap (max.map Int.toNat) tests =
        (⟨tests.take n.toNat, tests.length⟩, [cappedAt n.toNat tests.length])) ∨
    (∀ n ∈ max, tests.length ≤ n) ∧ cap (max.map Int.toNat) tests = (⟨tests, tests.length⟩, []) := by
  cases max with
  | none => exact .inr ⟨by simp, rfl⟩
  | some n =>
    have hn := hmax n rfl
    by_cases hlt : n < tests.length
    · exact .inl ⟨n, rfl, hlt, if_pos (by omega)⟩
    · exact .inr ⟨fun k hk => Option.mem_some.mp hk ▸ Int.not_lt.mp hlt, if_neg (by omega)⟩

/-! ### Settings -/

/-- For an order that there is and a count that is not negative, tests are selected. -/
theorem selectTests?_eq_ok_iff {g : Graph} {r : Impact} {changed : List ModuleId} {max : Option Int} {text : String}
    {result : Selection × DiagnosticLog} :
    selectTests? g r changed max text = .ok result ↔
      (∀ n ∈ max, 0 ≤ n) ∧ ∃ order, Order.ofText? text = some order ∧
        result = selectTests g r changed (max.map Int.toNat) order := by
  unfold selectTests?
  cases Order.ofText? text with
  | none => simp
  | some order =>
    cases max with
    | none => simp [eq_comm]
    | some n =>
      by_cases hn : n < 0
      · simp [hn, Int.not_le.mpr hn]
      · simp [hn, Int.not_lt.mp hn, eq_comm]

/-! ### Tests named after changes -/

theorem mem_changedLeaves (ids : List ModuleId) (leaf : String) :
    leaf ∈ changedLeaves ids ↔ leaf ≠ "" ∧ ∃ id ∈ ids, leafOf id = leaf := by
  simp [changedLeaves, and_comm]

/-- After several leaves a test is named as strongly as after one of them. -/
theorem filenameMatch_of_leaves (path : String) {first second leaves : List String}
    (h : ∀ leaf, leaf ∈ leaves ↔ leaf ∈ first ∨ leaf ∈ second) :
    filenameMatch path leaves = min (filenameMatch path first) (filenameMatch path second) := by
  have hany : ∀ p : String → Bool, leaves.any p = (first.any p || second.any p) := by
    intro p
    rw [Bool.eq_iff_iff]
    simp only [List.any_eq_true, Bool.or_eq_true, h, or_and_right, exists_or]
  simp only [filenameMatch, hany, Bool.or_eq_true]
  grind

theorem filenameMatch_append (path : String) (first second : List ModuleId) :
    filenameMatch path (changedLeaves (first ++ second)) =
      min (filenameMatch path (changedLeaves first)) (filenameMatch path (changedLeaves second)) := by
  apply filenameMatch_of_leaves
  intro leaf
  simp only [mem_changedLeaves, List.mem_append, or_and_right, exists_or, and_or_left]

end Ripple
