import Mathlib
import Ripple.Proofs.Impact.Limit
import Ripple.Proofs.Selection

/-! Changes taken together.

What starts nearer reaches nearer (`Within.impactOf`), so the impact of several changes is the union
of their impacts, each module at the least of its distances: first of the seeds (`joins_seedsOf`),
then of the walk without a limit (`Joins.impactOf`), then of the walk under one (`Joins.limited`).
The seeds are planted in an order of their own, so the order and the number of times in which
changes are given leave no trace (`impactOf_seedsOf_congr`). -/
namespace Ripple

/-! ### Nearer and further -/

/-- `t` has every module of `s`, at no greater distance. -/
def Within (s t : Distances) : Prop := ∀ m d, s.get? m = some d → ∃ k ≤ d, t.get? m = some k

theorem Within.get?_eq {s t : Distances} (hst : Within s t) (hts : Within t s) (m : ModuleId) :
    s.get? m = t.get? m := by
  apply Option.ext
  intro d
  have half : ∀ {s t : Distances}, Within s t → Within t s → s.get? m = some d → t.get? m = some d := by
    intro s t hst hts h
    obtain ⟨k, hk, ht⟩ := hst m d h
    obtain ⟨j, hj, hs⟩ := hts m k ht
    rw [h, Option.some.injEq] at hs
    rw [ht, show k = d by omega]
  exact ⟨half hst hts, half hts hst⟩

/-- `u` has just the modules of `s` and of `t`, each at the lesser distance. -/
structure Joins (s t u : Distances) : Prop where
  left : Within s u
  right : Within t u
  only : ∀ m d, u.get? m = some d → (∃ k ≤ d, s.get? m = some k) ∨ ∃ k ≤ d, t.get? m = some k

theorem Joins.get?_eq {s t u : Distances} (h : Joins s t u) (m : ModuleId) :
    u.get? m = (s.get? m).merge min (t.get? m) := by
  have hleft := h.left m
  have hright := h.right m
  have honly := h.only m
  generalize s.get? m = a, t.get? m = b, u.get? m = c at hleft hright honly ⊢
  -- each of the three may have the module or not
  rcases a with _ | a <;> rcases b with _ | b <;> rcases c with _ | c <;> grind [Option.merge]

/-! ### The seeds -/

theorem within_seedsOf (g : Graph) (r : Resolver) {changed changed' : List ModuleId}
    (h : ∀ id ∈ changed, id ∈ changed') : Within (seedsOf g r changed) (seedsOf g r changed') := by
  intro m d hd
  obtain ⟨id, hid, hstart⟩ := mem_startsOf_of_get?_seedsOf hd
  exact get?_seedsOf_le (h id hid) hstart

theorem joins_seedsOf (g : Graph) (r : Resolver) (first second : List ModuleId) :
    Joins (seedsOf g r first) (seedsOf g r second) (seedsOf g r (first ++ second)) where
  left := within_seedsOf g r fun _ => List.mem_append_left second
  right := within_seedsOf g r fun _ => List.mem_append_right first
  only m d hd := by
    obtain ⟨id, hid, hstart⟩ := mem_startsOf_of_get?_seedsOf hd
    rcases List.mem_append.mp hid with hid | hid
    · exact .inl (get?_seedsOf_le hid hstart)
    · exact .inr (get?_seedsOf_le hid hstart)

/-! ### The walk -/

section Walk
variable {g : Graph} {s t u : Distances}

/-- A way from a seed leads to a module that has been reached, and not later than that way. -/
theorem get?_impactOf_le (hs : IsNear s) {a m : ModuleId} {k : Int} {n : Nat} (ha : s.get? a = some k)
    (hw : g.Walk a n m) : ∃ d ≤ k + n, (impactOf g s none).distances.get? m = some d := by
  have hexact := (impactOf_exact g hs).2
  obtain ⟨e, he, rfl, hle⟩ := hexact.reaches ((OrderedMap.get?_eq_some_iff ..).mp ha) hw
  exact ⟨e.2, hle, (OrderedMap.get?_eq_some_iff ..).mpr he⟩

/-- What has been reached lies at the end of a way from a seed. -/
theorem exists_walk_of_get?_impactOf (hs : IsNear s) {m : ModuleId} {d : Int}
    (h : (impactOf g s none).distances.get? m = some d) :
    ∃ a k, s.get? a = some k ∧ ∃ n : Nat, g.Walk a n m ∧ d = k + n := by
  have hexact := (impactOf_exact g hs).2
  obtain ⟨o, ho, n, hw, hd⟩ := hexact.sound _ ((OrderedMap.get?_eq_some_iff ..).mp h)
  exact ⟨o.1, o.2, (OrderedMap.get?_eq_some_iff ..).mpr ho, n, hw, hd⟩

/-- From a seed that starts no further away, nothing is reached later. -/
theorem get?_impactOf_le_of_seed (ht : IsNear t) {a m : ModuleId} {j k : Int} {n : Nat} (hle : j ≤ k)
    (ha : t.get? a = some j) (hw : g.Walk a n m) :
    ∃ d ≤ k + n, (impactOf g t none).distances.get? m = some d := by
  obtain ⟨d, hd, hm⟩ := get?_impactOf_le ht ha hw
  exact ⟨d, by omega, hm⟩

/-- **What starts nearer reaches nearer.** -/
theorem Within.impactOf (h : Within s t) (hs : IsNear s) (ht : IsNear t) :
    Within (impactOf g s none).distances (impactOf g t none).distances := by
  intro m d hd
  obtain ⟨a, k, ha, n, hw, rfl⟩ := exists_walk_of_get?_impactOf hs hd
  obtain ⟨j, hj, ha'⟩ := h a k ha
  exact get?_impactOf_le_of_seed ht hj ha' hw

theorem Joins.impactOf (h : Joins s t u) (hs : IsNear s) (ht : IsNear t) (hu : IsNear u) :
    Joins (impactOf g s none).distances (impactOf g t none).distances (impactOf g u none).distances where
  left := h.left.impactOf hs hu
  right := h.right.impactOf ht hu
  only m d hd := by
    obtain ⟨a, k, ha, n, hw, rfl⟩ := exists_walk_of_get?_impactOf hu hd
    rcases h.only a k ha with ⟨j, hj, ha⟩ | ⟨j, hj, ha⟩
    · exact .inl (get?_impactOf_le_of_seed hs hj ha hw)
    · exact .inr (get?_impactOf_le_of_seed ht hj ha hw)

/-! ### The limit -/

/-- Under any limit, or none, what is known is what is known without one and not beyond it. -/
theorem get?_impactOf_limit (hs : IsNear s) (limit : Option Int) (m : ModuleId) (d : Int) :
    (Ripple.impactOf g s limit).distances.get? m = some d ↔
      (Ripple.impactOf g s none).distances.get? m = some d ∧ exceeds limit d = false := by
  cases limit with
  | none => simp [exceeds_none]
  | some n => simpa [exceeds_some] using get?_impactOf_some g n hs m d

theorem exceeds_of_le {limit : Option Int} {j k : Int} (h : j ≤ k) (hk : exceeds limit k = false) :
    exceeds limit j = false := by
  cases limit with
  | none => rfl
  | some n =>
    simp only [exceeds, decide_eq_false_iff_not, Int.not_lt] at hk ⊢
    omega

/-- What is reached within a limit is not left out where it is reached no later. -/
theorem get?_limited_of_le (ht : IsNear t) {limit : Option Int} {m : ModuleId} {d : Int}
    (hd : exceeds limit d = false) (h : ∃ k ≤ d, (Ripple.impactOf g t none).distances.get? m = some k) :
    ∃ k ≤ d, (Ripple.impactOf g t limit).distances.get? m = some k := by
  obtain ⟨k, hk, hm⟩ := h
  exact ⟨k, hk, (get?_impactOf_limit ht limit m k).mpr ⟨hm, exceeds_of_le hk hd⟩⟩

/-- **Under any limit the walk from several seeds reaches what the walks from each of them reach.** -/
theorem Joins.limited (h : Joins s t u) (hs : IsNear s) (ht : IsNear t) (hu : IsNear u) (limit : Option Int) :
    Joins (Ripple.impactOf g s limit).distances (Ripple.impactOf g t limit).distances
      (Ripple.impactOf g u limit).distances where
  left m d hd := by
    obtain ⟨hfull, hle⟩ := (get?_impactOf_limit hs limit m d).mp hd
    exact get?_limited_of_le hu hle ((h.impactOf hs ht hu).left m d hfull)
  right m d hd := by
    obtain ⟨hfull, hle⟩ := (get?_impactOf_limit ht limit m d).mp hd
    exact get?_limited_of_le hu hle ((h.impactOf hs ht hu).right m d hfull)
  only m d hd := by
    obtain ⟨hfull, hle⟩ := (get?_impactOf_limit hu limit m d).mp hd
    rcases (h.impactOf hs ht hu).only m d hfull with hm | hm
    · exact .inl (get?_limited_of_le hs hle hm)
    · exact .inr (get?_limited_of_le ht hle hm)

end Walk

/-! ### The order of changes -/

theorem entries_perm {s t : Distances} (h : ∀ m, s.get? m = t.get? m) : s.entries.Perm t.entries := by
  rw [List.perm_ext_iff_of_nodup s.nodup_entries t.nodup_entries]
  intro e
  rw [← OrderedMap.get?_eq_some_iff, ← OrderedMap.get?_eq_some_iff, h]

/-- Seeds are planted in the same order wherever they are known from. -/
theorem planted_congr {s t : Distances} (h : ∀ m, s.get? m = t.get? m) : planted s = planted t := by
  have hsorted : ∀ seeds, (planted seeds).Pairwise fun a b => seedLe a b = true :=
    fun seeds => List.pairwise_mergeSort seedLe_trans seedLe_total seeds.entries
  have hperm : (planted s).Perm (planted t) :=
    (List.mergeSort_perm ..).trans ((entries_perm h).trans (List.mergeSort_perm ..).symm)
  refine hperm.eq_of_pairwise ?_ (hsorted s) (hsorted t)
  intro a b _ _ hab hba
  simp only [seedLe, decide_eq_true_eq] at hab hba
  have hdistance : a.2 = b.2 := by omega
  have hid : a.1 = b.1 := String.le_antisymm (by grind) (by grind)
  exact Prod.ext hid hdistance

theorem impactOf_congr (g : Graph) {s t : Distances} (h : ∀ m, s.get? m = t.get? m) (limit : Option Int) :
    impactOf g s limit = impactOf g t limit := by
  have hplant : plant limit s = plant limit t :=
    congrArg (·.foldl (fun s e => reach limit e.2 s e.1) (.empty, [])) (planted_congr h)
  have hbound : spreadBound g s = spreadBound g t :=
    congrArg (· + g.reverse.values.flatten.length) (entries_perm h).length_eq
  rw [impactOf, impactOf, hplant, hbound]

/-- **In which order and how often changes are given does not matter.** -/
theorem impactOf_seedsOf_congr (g : Graph) (r : Resolver) {changed changed' : List ModuleId}
    (h : ∀ id, id ∈ changed ↔ id ∈ changed') (limit : Option Int) :
    impactOf g (seedsOf g r changed) limit = impactOf g (seedsOf g r changed') limit := by
  refine impactOf_congr g (Within.get?_eq ?_ ?_) limit
  · exact within_seedsOf g r fun id => (h id).mp
  · exact within_seedsOf g r fun id => (h id).mpr

/-- A limit that is not negative, or none, is one to walk under. -/
theorem impactOf?_eq_ok_iff {g : Graph} {seeds : Distances} {limit : Option Int} {r : Impact} :
    impactOf? g seeds limit = .ok r ↔ (∀ n ∈ limit, 0 ≤ n) ∧ r = impactOf g seeds limit := by
  cases limit with
  | none => simp [impactOf?, eq_comm]
  | some n =>
    by_cases hn : n < 0
    · simp [impactOf?, hn, Int.not_le.mpr hn]
    · simp [impactOf?, hn, Int.not_lt.mp hn, eq_comm]

theorem impactOf?_ok (g : Graph) (seeds : Distances) {limit : Option Int} (h : ∀ n ∈ limit, 0 ≤ n) :
    impactOf? g seeds limit = .ok (impactOf g seeds limit) :=
  impactOf?_eq_ok_iff.mpr ⟨h, rfl⟩

/-! ### The tests -/

theorem selectTests?_by_path (g : Graph) (r : Impact) (changed : List ModuleId) :
    selectTests? g r changed none "path" =
      .ok (⟨affectedTests g r changed .path, (affectedTests g r changed .path).length⟩, []) := by
  have horder : Order.ofText? "path" = some .path := by decide
  unfold selectTests?
  rw [horder]
  rfl

/-- A module of the union is one of either impact. -/
theorem Joins.mem_keys {s t u : Distances} (h : Joins s t u) (m : ModuleId) :
    m ∈ u.keys ↔ m ∈ s.keys ∨ m ∈ t.keys := by
  simp only [OrderedMap.mem_keys_iff]
  constructor
  · intro hm
    obtain ⟨d, hd⟩ := hm
    rcases h.only m d hd with ⟨k, _, hk⟩ | ⟨k, _, hk⟩
    · exact .inl ⟨k, hk⟩
    · exact .inr ⟨k, hk⟩
  · intro hm
    rcases hm with ⟨d, hd⟩ | ⟨d, hd⟩
    · exact (h.left m d hd).imp fun _ hk => hk.2
    · exact (h.right m d hd).imp fun _ hk => hk.2

/-- **Changes made together affect what each of them affects**, every module at the least of its
distances, and the tests selected are the union of the tests selected for each; the order of changes
and their repetition leave no trace at all. -/
theorem changes_together_affect_the_union (g : Graph) (r : Resolver) (first second : List ModuleId)
    (limit : Option Int) (hlimit : ∀ n ∈ limit, 0 ≤ n) :
    ∃ one two both, impactOf? g (seedsOf g r first) limit = .ok one ∧
      impactOf? g (seedsOf g r second) limit = .ok two ∧
      impactOf? g (seedsOf g r (first ++ second)) limit = .ok both ∧
      (∀ m, both.distances.get? m = (one.distances.get? m).merge min (two.distances.get? m)) ∧
      (∃ ones twos all, selectTests? g one first none "path" = .ok (ones, []) ∧
        selectTests? g two second none "path" = .ok (twos, []) ∧
        selectTests? g both (first ++ second) none "path" = .ok (all, []) ∧
        all.paths.Pairwise (· < ·) ∧ (∀ t, t ∈ all.paths ↔ t ∈ ones.paths ∨ t ∈ twos.paths) ∧
        ∀ t ∈ all.tests, both.distances.get? t.path = some t.distance ∧
          t.filenameMatch = min (filenameMatch t.path (changedLeaves first))
            (filenameMatch t.path (changedLeaves second))) ∧
      ∀ changed changed', (∀ id, id ∈ changed ↔ id ∈ changed') →
        impactOf? g (seedsOf g r changed) limit = impactOf? g (seedsOf g r changed') limit := by
  have hjoins := (joins_seedsOf g r first second).limited (g := g)
    (seedsOf_near g r first) (seedsOf_near g r second) (seedsOf_near g r (first ++ second)) limit
  refine ⟨_, _, _, impactOf?_ok g _ hlimit, impactOf?_ok g _ hlimit, impactOf?_ok g _ hlimit,
    hjoins.get?_eq, ⟨_, _, _, selectTests?_by_path .., selectTests?_by_path .., selectTests?_by_path ..,
      affectedTests_ascending .., ?_, ?_⟩, ?_⟩
  · intro t
    simp only [Selection.paths, mem_affectedTests, hjoins.mem_keys, or_and_right]
  · intro t ht
    obtain ⟨hdistance, hmatch⟩ := get?_of_mem_affectedTests ht
    exact ⟨hdistance, hmatch.trans (filenameMatch_append t.path first second)⟩
  · intro changed changed' hsame
    rw [impactOf?_ok g _ hlimit, impactOf?_ok g _ hlimit, impactOf_seedsOf_congr g r hsame limit]

/-- `a.py` has changed and asks for what is gone, so it starts in place for the one change and a step
away for the other; its test lies beyond the limit for the second change alone. -/
theorem change_and_deletion_affect_both_tests :
    let g := (((Graph.empty.addModule "test_b.py" true).addEdge "test_a.py" "a.py").addDangling "a.py"
      "gone").addDangling "test_b.py" "gone"
    let r := Resolver.ofModules ["a.py", "test_a.py", "test_b.py"]
    (∀ n ∈ some (1 : Int), 0 ≤ n) ∧
    ∃ two both, impactOf? g (seedsOf g r ["gone.py"]) (some 1) = .ok two ∧
      impactOf? g (seedsOf g r (["a.py"] ++ ["gone.py"])) (some 1) = .ok both ∧
      two.distances.get? "test_a.py" = none ∧ both.distances.get? "test_a.py" = some 1 ∧
      two.distances.get? "a.py" = some 1 ∧ both.distances.get? "a.py" = some 0 ∧
      ∃ all, selectTests? g both (["a.py"] ++ ["gone.py"]) none "path" = .ok (all, []) ∧
        "test_a.py" ∈ all.paths ∧ "test_b.py" ∈ all.paths := by
  intro g r
  have hlimit : ∀ n ∈ some (1 : Int), 0 ≤ n := by decide
  obtain ⟨one, two, both, hone, htwo, hboth, hmerge, ⟨ones, twos, all, hones, htwos, hall, _, hunion, _⟩, _⟩ :=
    changes_together_affect_the_union g r ["a.py"] ["gone.py"] (some 1) hlimit
  have honeEntries : one.distances.entries = [("a.py", 0), ("test_a.py", 1)] := by
    obtain rfl := Except.ok.inj (hone.symm.trans (impactOf?_ok g _ hlimit))
    cbv
  have htwoEntries : two.distances.entries = [("a.py", 1), ("test_b.py", 1)] := by
    obtain rfl := Except.ok.inj (htwo.symm.trans (impactOf?_ok g _ hlimit))
    cbv
  have hknown : ∀ m, one.distances.get? m = [("a.py", 0), ("test_a.py", 1)].lookup m ∧
      two.distances.get? m = [("a.py", 1), ("test_b.py", 1)].lookup m := fun m =>
    ⟨by rw [OrderedMap.get?, honeEntries], by rw [OrderedMap.get?, htwoEntries]⟩
  have honesPaths : "test_a.py" ∈ ones.paths := by
    obtain rfl := (Prod.mk.inj (Except.ok.inj (hones.symm.trans (selectTests?_by_path ..)))).1
    refine (mem_affectedTests ..).mpr ⟨?_, by decide, by decide⟩
    simp [OrderedMap.keys, honeEntries]
  have htwosPaths : "test_b.py" ∈ twos.paths := by
    obtain rfl := (Prod.mk.inj (Except.ok.inj (htwos.symm.trans (selectTests?_by_path ..)))).1
    refine (mem_affectedTests ..).mpr ⟨?_, by decide, by decide⟩
    simp [OrderedMap.keys, htwoEntries]
  refine ⟨hlimit, two, both, htwo, hboth, ?_, ?_, ?_, ?_, all, hall,
    (hunion _).mpr (.inl honesPaths), (hunion _).mpr (.inr htwosPaths)⟩
  · rw [(hknown _).2]
    decide
  · rw [hmerge, (hknown _).1, (hknown _).2]
    decide
  · rw [(hknown _).2]
    decide
  · rw [hmerge, (hknown _).1, (hknown _).2]
    decide

end Ripple
