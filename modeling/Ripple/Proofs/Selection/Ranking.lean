import Mathlib
import Ripple.Proofs.Selection

/-! The best of the affected tests.

The affected tests in order are determined by what is true of them (`Ranked`, `Ranked.unique`): which modules
are listed, how they are named and that each comes strictly before the next. So it does not matter in which
order distances, changes or leaves come (`affectedTests_congr`, `matchInTurn_eq`), and a cap keeps a first
part of one and the same list (`selection_is_best_prefix`). -/
namespace Ripple

/-! ### Names -/

theorem Text.contains_iff_infix (cs part : List Char) : Text.contains cs part = true ↔ part <:+: cs := by
  induction cs with
  | nil => simp [Text.contains, List.infix_nil]
  | cons c rest ih => rw [Text.contains, Bool.or_eq_true, List.isPrefixOf_iff_prefix, ih, List.infix_cons_iff]

/-- The word after the start of a test is a word of its name. -/
theorem word_of_startsWith {leaf name : String} (h : startsWith ("test_" ++ leaf) name = true) :
    occursIn ("_" ++ leaf) name = true := by
  rw [startsWith, List.isPrefixOf_iff_prefix] at h
  rw [occursIn, Text.contains_iff_infix]
  have hword : ("test_" ++ leaf).toList = "test".toList ++ ("_" ++ leaf).toList := by
    simp only [String.toList_append]
    rfl
  exact (hword ▸ List.suffix_append ..).isInfix.trans h.isInfix

/-- What comes after the start of a test needs no look of its own. -/
theorem startsWord_iff {leaf name : String} :
    (startsWith ("test_" ++ leaf) name || occursIn ("_" ++ leaf) name) = true ↔
      occursIn ("_" ++ leaf) name = true := by
  rw [Bool.or_eq_true, or_iff_right_of_imp word_of_startsWith]

/-- How strongly a file is named after some leaves: one of them starts a word of its name, or stands anywhere
in it, or none does. -/
def nameRank (leaves : List String) (path : ModuleId) : Nat :=
  let name := (Path.parse path).name
  if ∃ leaf ∈ leaves, occursIn ("_" ++ leaf) name then 0
  else if ∃ leaf ∈ leaves, occursIn leaf name then 1
  else 2

theorem nameRank_congr {leaves leaves' : List String} (h : ∀ leaf, leaf ∈ leaves ↔ leaf ∈ leaves') (path : ModuleId) :
    nameRank leaves path = nameRank leaves' path := by
  simp only [nameRank, h]

theorem filenameMatch_eq_nameRank (path : ModuleId) (leaves : List String) :
    filenameMatch path leaves = nameRank leaves path := by
  simp only [filenameMatch, nameRank, List.any_eq_true, startsWord_iff]

/-- The leaves looked at in turn, up to the first that starts a word of the name. -/
def matchInTurn (name : String) : List String → Nat → Nat
  | [], best => best
  | leaf :: rest, best =>
    if startsWith ("test_" ++ leaf) name || occursIn ("_" ++ leaf) name then 0
    else matchInTurn name rest (if occursIn leaf name then 1 else best)

theorem matchInTurn_eq_ite (name : String) (seen : List String) (best : Nat) :
    matchInTurn name seen best =
      if ∃ leaf ∈ seen, occursIn ("_" ++ leaf) name then 0
      else if ∃ leaf ∈ seen, occursIn leaf name then 1 else best := by
  induction seen generalizing best with
  | nil => simp [matchInTurn]
  | cons leaf rest ih =>
    simp only [matchInTurn, startsWord_iff, ih, List.mem_cons, exists_eq_or_imp]
    by_cases hstart : occursIn ("_" ++ leaf) name = true
    · simp [hstart]
    · by_cases hpart : occursIn leaf name = true <;> simp [hstart, hpart]

/-- **It does not matter in which order leaves are looked at**, or how often. -/
theorem matchInTurn_eq {seen leaves : List String} (h : ∀ leaf, leaf ∈ seen ↔ leaf ∈ leaves) (path : ModuleId) :
    matchInTurn (Path.parse path).name seen 2 = nameRank leaves path := by
  rw [← nameRank_congr h, matchInTurn_eq_ite, nameRank]

/-! ### Order -/

namespace Order

/-- One test comes strictly before another. -/
def Before : Order → SelectedTest → SelectedTest → Prop
  | path, a, b => a.path < b.path
  | relevance, a, b =>
    a.filenameMatch < b.filenameMatch ∨
      a.filenameMatch = b.filenameMatch ∧ (a.distance < b.distance ∨ a.distance = b.distance ∧ a.path < b.path)

theorem before_asymm {order : Order} {a b : SelectedTest} (hab : order.Before a b) : ¬ order.Before b a := by
  cases order with
  | path => exact String.lt_asymm hab
  | relevance =>
    have hpath : a.path < b.path → ¬ b.path < a.path := String.lt_asymm
    unfold Before at *
    grind

theorem le_trans (order : Order) (a b c : SelectedTest) (hab : order.le a b = true) (hbc : order.le b c = true) :
    order.le a c = true := by
  cases order with
  | path => exact pathLe_trans a b c hab hbc
  | relevance =>
    have hpath := pathLe_trans a b c
    unfold Order.le relevanceLe at *
    grind

theorem le_total (order : Order) (a b : SelectedTest) : (order.le a b || order.le b a) = true := by
  cases order with
  | path => exact pathLe_total a b
  | relevance =>
    have hpath := pathLe_total a b
    unfold Order.le relevanceLe
    grind

theorem before_of_le {order : Order} {a b : SelectedTest} (hab : order.le a b = true) (hne : a.path ≠ b.path) :
    order.Before a b := by
  have hpath : pathLe a b = true → a.path < b.path := fun h =>
    Std.lt_of_le_of_ne (of_decide_eq_true h) hne
  cases order with
  | path => exact hpath hab
  | relevance =>
    unfold Order.le relevanceLe at hab
    unfold Before
    grind

end Order

/-! ### The affected tests -/

/-- These are the affected tests: each is listed once, at its distance and with what its name says, and comes
strictly before those after it. -/
structure Ranked (g : Graph) (r : Impact) (leaves : List String) (order : Order) (tests : List SelectedTest) :
    Prop where
  listed : ∀ path distance, (∃ t ∈ tests, t.path = path ∧ t.distance = distance) ↔
    r.distances.get? path = some distance ∧ g.contains path = true ∧ isTestFile path = true
  named : ∀ t ∈ tests, t.filenameMatch = nameRank leaves t.path
  once : (tests.map (·.path)).Nodup
  ordered : tests.Pairwise order.Before

section Ranked
variable {g : Graph} {r r' : Impact} {leaves leaves' : List String} {order : Order} {tests tests' : List SelectedTest}

theorem Ranked.mem_iff (h : Ranked g r leaves order tests) (t : SelectedTest) :
    t ∈ tests ↔ (r.distances.get? t.path = some t.distance ∧ g.contains t.path = true ∧ isTestFile t.path = true) ∧
      t.filenameMatch = nameRank leaves t.path := by
  rw [← h.listed]
  constructor
  · exact fun ht => ⟨⟨t, ht, rfl, rfl⟩, h.named t ht⟩
  · intro ht
    obtain ⟨⟨t', ht', hpath, hdistance⟩, hname⟩ := ht
    have hname' : t'.filenameMatch = t.filenameMatch := by rw [h.named t' ht', hpath, hname]
    have hsame : t' = t := by
      cases t'
      cases t
      exact SelectedTest.mk.injEq .. ▸ ⟨hpath, hdistance, hname'⟩
    exact hsame ▸ ht'

theorem Ranked.nodup (h : Ranked g r leaves order tests) : tests.Nodup :=
  h.ordered.imp fun {a b} hab (he : a = b) => Order.before_asymm hab (by rwa [he] at hab ⊢)

/-- **What is true of the affected tests determines their list**, and other distances and leaves that agree
give the same. -/
theorem Ranked.unique (h : Ranked g r leaves order tests) (h' : Ranked g r' leaves' order tests')
    (hdistances : ∀ m, r'.distances.get? m = r.distances.get? m) (hleaves : ∀ leaf, leaf ∈ leaves' ↔ leaf ∈ leaves) :
    tests' = tests := by
  have hmem : ∀ t, t ∈ tests' ↔ t ∈ tests := by
    intro t
    rw [h.mem_iff, h'.mem_iff, hdistances, nameRank_congr hleaves]
  have hperm : tests'.Perm tests :=
    (List.perm_ext_iff_of_nodup h'.nodup h.nodup).mpr hmem
  exact hperm.eq_of_pairwise (fun a b _ _ hab hba => absurd hba (Order.before_asymm hab)) h'.ordered h.ordered

end Ranked

theorem ranked_affectedTests (g : Graph) (r : Impact) (changed : List ModuleId) (order : Order) :
    Ranked g r (changedLeaves changed) order (affectedTests g r changed order) where
  listed path distance := by
    constructor
    · intro h
      obtain ⟨t, ht, rfl, rfl⟩ := h
      exact ⟨(get?_of_mem_affectedTests ht).1, ((mem_affectedTests ..).mp (List.mem_map_of_mem ht)).2⟩
    · intro h
      obtain ⟨t, ht, rfl⟩ := List.mem_map.mp ((mem_affectedTests g r changed order path).mpr
        ⟨(OrderedMap.mem_keys_iff ..).mpr ⟨distance, h.1⟩, h.2⟩)
      have hdistance := (get?_of_mem_affectedTests ht).1
      rw [h.1] at hdistance
      exact ⟨t, ht, rfl, (Option.some.inj hdistance).symm⟩
  named t ht := (get?_of_mem_affectedTests ht).2.trans (filenameMatch_eq_nameRank ..)
  once := affectedTests_nodup g r changed order
  ordered := by
    have hsorted : (affectedTests g r changed order).Pairwise fun a b => order.le a b = true :=
      List.pairwise_mergeSort order.le_trans order.le_total _
    exact hsorted.imp₂ (fun a b => Order.before_of_le) (List.pairwise_map.mp (affectedTests_nodup g r changed order))

/-- Neither the order of the distances nor that of the changes, nor how often these come, makes a difference. -/
theorem affectedTests_congr {g : Graph} {r r' : Impact} {changed changed' : List ModuleId}
    (hentries : r'.distances.entries.Perm r.distances.entries) (hchanged : ∀ id, id ∈ changed' ↔ id ∈ changed)
    (order : Order) : affectedTests g r' changed' order = affectedTests g r changed order := by
  refine (ranked_affectedTests g r changed order).unique (ranked_affectedTests g r' changed' order)
    (fun m => Option.ext fun distance => ?_) fun leaf => ?_
  · rw [OrderedMap.get?_eq_some_iff, OrderedMap.get?_eq_some_iff, hentries.mem_iff]
  · simp only [mem_changedLeaves, hchanged]

/-! ### The best of them -/

/-- How many tests are kept of a number of them. -/
def keptOf (max : Option Nat) (total : Nat) : Nat := max.elim total (min · total)

/-- A cap keeps the first tests and tells of those that it drops, if there are any. -/
theorem cap_eq_take (max : Option Nat) (tests : List SelectedTest) :
    cap max tests = (⟨tests.take (keptOf max tests.length), tests.length⟩,
      if tests.drop (keptOf max tests.length) = [] then []
      else [cappedAt (keptOf max tests.length) tests.length]) := by
  cases max with
  | none => simp [cap, keptOf]
  | some n =>
    by_cases hn : n < tests.length
    · have hdropped : ¬ tests.length ≤ n := Nat.not_le.mpr hn
      simp [cap, keptOf, hn, Nat.min_eq_left (Nat.le_of_lt hn), hdropped]
    · simp [cap, keptOf, hn, Nat.min_eq_right (Nat.not_lt.mp hn)]

theorem selectTests?_text (g : Graph) (r : Impact) (changed : List ModuleId) (max : Option Nat) (order : Order) :
    selectTests? g r changed (max.map Int.ofNat) order.text = .ok (selectTests g r changed max order) := by
  refine selectTests?_eq_ok_iff.mpr ⟨fun n hn => ?_, order, by cases order <;> rfl, ?_⟩
  · obtain ⟨k, _, rfl⟩ := Option.map_eq_some_iff.mp hn
    exact Int.natCast_nonneg k
  · rw [Option.map_map]
    exact congrArg (selectTests g r changed · order) (Option.map_id_apply ..).symm

/-- **A selection is the best part of the affected tests.** These are listed once each and stand in their order
(`Ranked`), whatever the order in which leaves are looked at; a cap keeps the first of them, so that each test
that is kept comes before each that is dropped, and tells of it exactly if there is one to drop. It makes no
difference in which order distances and changes come. -/
theorem selection_is_best_prefix (g : Graph) (r : Impact) (changed : List ModuleId) (order : Order)
    (max : Option Nat) :
    ∃ tests, Ranked g r (changedLeaves changed) order tests ∧
      (∀ seen, (∀ leaf, leaf ∈ seen ↔ leaf ∈ changedLeaves changed) →
        ∀ t ∈ tests, matchInTurn (Path.parse t.path).name seen 2 = t.filenameMatch) ∧
      selectTests? g r changed none order.text = .ok (⟨tests, tests.length⟩, []) ∧
      ∃ kept dropped, tests = kept ++ dropped ∧ kept.length = keptOf max tests.length ∧
        (∀ a ∈ kept, ∀ b ∈ dropped, order.Before a b) ∧
        ∀ (r' : Impact) (changed' : List ModuleId), r'.distances.entries.Perm r.distances.entries →
          (∀ id, id ∈ changed' ↔ id ∈ changed) →
            selectTests? g r' changed' (max.map Int.ofNat) order.text = .ok (⟨kept, tests.length⟩,
              if dropped = [] then [] else [cappedAt kept.length tests.length]) := by
  obtain ⟨tests, htests⟩ : ∃ tests, tests = affectedTests g r changed order := ⟨_, rfl⟩
  have hranked : Ranked g r (changedLeaves changed) order tests := htests ▸ ranked_affectedTests g r changed order
  have hle : keptOf max tests.length ≤ tests.length := by
    cases max with
    | none => exact Nat.le_refl _
    | some n => exact Nat.min_le_right ..
  refine ⟨tests, hranked, fun seen hseen t ht => ?_, ?_, tests.take (keptOf max tests.length),
    tests.drop (keptOf max tests.length), (List.take_append_drop ..).symm, List.length_take_of_le hle, ?_,
    fun r' changed' hentries hchanged => ?_⟩
  · rw [matchInTurn_eq hseen, hranked.named t ht]
  · rw [htests]
    exact selectTests?_text g r changed none order
  · have hsplit := hranked.ordered
    rw [← List.take_append_drop (keptOf max tests.length) tests, List.pairwise_append] at hsplit
    exact hsplit.2.2
  · rw [selectTests?_text, selectTests, affectedTests_congr hentries hchanged, ← htests, cap_eq_take,
      List.length_take_of_le hle]

/-- Of two tests the one that is named after the change is kept, however tests and changes come. -/
theorem selection_keeps_test_named_after_change :
    let g := (Graph.empty.addModule "test_a.py" true).addModule "test_b.py" true
    let r : Impact := ⟨.ofList [("test_b.py", 1), ("test_a.py", 1)], false⟩
    let r' : Impact := ⟨.ofList [("test_a.py", 1), ("test_b.py", 1)], false⟩
    r'.distances.entries.Perm r.distances.entries ∧ (∀ id, id ∈ ["b.py", "b.py"] ↔ id ∈ ["b.py"]) ∧
      selectTests? g r' ["b.py", "b.py"] (some 1) "relevance" =
        .ok (⟨[⟨"test_b.py", 1, 0⟩], 2⟩, [cappedAt 1 2]) := by
  intro g r r'
  have hentries : r'.distances.entries.Perm r.distances.entries := by decide
  have hchanged : ∀ id, id ∈ ["b.py", "b.py"] ↔ id ∈ ["b.py"] := by simp
  have haffected : affectedTests g r ["b.py"] .relevance = [⟨"test_b.py", 1, 0⟩, ⟨"test_a.py", 1, 2⟩] := by
    have hleaves : changedLeaves ["b.py"] = ["b"] := by cbv
    have hnamed : filenameMatch "test_b.py" ["b"] = 0 := by cbv
    have hword : (["b"].any fun leaf => startsWith ("test_" ++ leaf) (Path.parse "test_a.py").name ||
        occursIn ("_" ++ leaf) (Path.parse "test_a.py").name) = false := by cbv
    have hpart : (["b"].any fun leaf => occursIn leaf (Path.parse "test_a.py").name) = false := by cbv
    have hother : filenameMatch "test_a.py" ["b"] = 2 := by
      simp only [filenameMatch, hword, hpart, Bool.false_eq_true, if_false]
    have htests : (r.distances.entries.filter fun e => g.contains e.1 && isTestFile e.1) =
        [("test_b.py", 1), ("test_a.py", 1)] := by cbv
    simp only [affectedTests, hleaves, htests, List.map_cons, List.map_nil, hnamed, hother]
    exact List.mergeSort_of_pairwise (by decide)
  obtain ⟨tests, _, _, hall, kept, dropped, hsplit, hkept, _, hcap⟩ :=
    selection_is_best_prefix g r ["b.py"] .relevance (some 1)
  have hlist : tests = affectedTests g r ["b.py"] .relevance :=
    congrArg (·.1.tests) (Except.ok.inj (hall.symm.trans (selectTests?_text g r ["b.py"] none .relevance)))
  rw [hlist, haffected] at hsplit hkept hcap
  obtain ⟨rfl, rfl⟩ := List.append_inj
    (show [⟨"test_b.py", 1, 0⟩] ++ [⟨"test_a.py", 1, 2⟩] = kept ++ dropped from hsplit) hkept.symm
  exact ⟨hentries, hchanged, hcap r' ["b.py", "b.py"] hentries hchanged⟩

end Ripple
