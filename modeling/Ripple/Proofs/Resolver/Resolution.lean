import Ripple.Proofs.OrderedMap
import Ripple.Proofs.Text.Fields
import Ripple.Resolver

/-! What a resolution consists of.

A resolver answers with its own modules only (`lookup_mem`). An import of names asks one question for
each, any other import one for its module, and both are answered alike (`resolve_eq`): by the modules
that are found and, if some question leads nowhere, by the module of the longest start of the import
(`mem_targets_iff`); what is asked in vain is told beside (`mem_missing_iff`). -/
namespace Ripple

/-- What an import asks for beyond its module: each of its names, or nothing more than the module. -/
def Import.questions (i : Import) : List (List String) :=
  if i.asked = [] then [[]] else i.asked.map fun name => [name]

/-- There is one question if no names are asked for, and else one for each. -/
theorem Import.exists_question_iff {i : Import} {P : List String → Prop} :
    (∃ asked ∈ i.questions, P asked) ↔ i.asked = [] ∧ P [] ∨ ∃ name ∈ i.asked, P [name] := by
  unfold Import.questions
  split
  · next h => simp [h]
  · next h =>
    simp only [List.mem_map, h, false_and, false_or]
    constructor
    · intro hx
      obtain ⟨_, ⟨name, hmem, rfl⟩, hP⟩ := hx
      exact ⟨name, hmem, hP⟩
    · intro hx
      obtain ⟨name, hmem, hP⟩ := hx
      exact ⟨[name], ⟨name, hmem, rfl⟩, hP⟩

/-- Only an import without a module has no parts. -/
theorem Import.parts_eq_nil_iff {i : Import} : i.parts = [] ↔ i.dotted = "" := by
  unfold Import.parts
  split
  · next h => simp [h]
  · next h => simp [h, Text.split_ne_nil]

@[simp] theorem mem_sortIds (ids : List ModuleId) (m : ModuleId) : m ∈ sortIds ids ↔ m ∈ ids :=
  List.mem_mergeSort

theorem sortIds_of_nodup {ids : List ModuleId} (h : ids.Nodup) : (sortIds ids).Pairwise (· < ·) := by
  have hnodup : (sortIds ids).Nodup := (List.mergeSort_perm ids _).nodup_iff.mpr h
  have hsorted : (sortIds ids).Pairwise fun a b => decide (a ≤ b) = true :=
    List.pairwise_mergeSort (fun a b c => by simpa using String.le_trans)
      (fun a b => by simpa using String.le_total a b) ids
  exact hsorted.imp₂ (fun a b hle hne => Std.lt_of_le_of_ne (of_decide_eq_true hle) hne) hnodup

/-- Lists in ascending order are equal if they have the same modules. -/
theorem ascending_ext {ids ids' : List ModuleId} (h : ids.Pairwise (· < ·)) (h' : ids'.Pairwise (· < ·))
    (hsame : ∀ id, id ∈ ids ↔ id ∈ ids') : ids = ids' :=
  ((List.perm_ext_iff_of_nodup (h.imp String.ne_of_lt) (h'.imp String.ne_of_lt)).mpr hsame).eq_of_pairwise
    (fun _ _ _ _ hab hba => absurd hba (String.lt_asymm hab)) h h'

/-- Modules in ascending order are known in this order. -/
theorem sortIds_ascending {ids : List ModuleId} (h : ids.Pairwise (· < ·)) :
    sortIds (ids.foldl addNew []) = ids := by
  have hnodup : ([] ++ ids).Nodup := h.imp String.ne_of_lt
  rw [foldl_addNew_of_nodup hnodup, List.nil_append, sortIds]
  exact List.mergeSort_of_pairwise (h.imp fun hlt => decide_eq_true (Std.le_of_lt hlt))

namespace Resolver

/-! ### The modules of a resolver -/

theorem mem_known_ofModules (ids : List ModuleId) (m : ModuleId) :
    m ∈ (ofModules ids).known ↔ m ∈ ids := by
  simp [ofModules]

theorem contains_ofModules (ids : List ModuleId) (m : ModuleId) :
    (ofModules ids).contains m = true ↔ m ∈ ids := by
  rw [contains, List.contains_iff_mem, mem_known_ofModules]

/-- There is a resolver exactly if no module is without a name. -/
theorem ofModules?_eq_some_iff {ids : List ModuleId} {r : Resolver} :
    ofModules? ids = some r ↔ (∀ id ∈ ids, (Path.parse id).parts ≠ []) ∧ ofModules ids = r := by
  unfold ofModules?
  split
  · next hnone =>
    obtain ⟨id, hid, hempty⟩ := List.any_eq_true.mp hnone
    exact ⟨nofun, fun h => absurd (List.isEmpty_iff.mp hempty) (h.1 id hid)⟩
  · next hall =>
    rw [Option.some.injEq, iff_and_self]
    exact fun _ id hid hempty => hall (List.any_eq_true.mpr ⟨id, hid, List.isEmpty_iff.mpr hempty⟩)

/-- A new name belongs to the first module that has it. -/
theorem get?_nameAll (known ids : List ModuleId) (names : OrderedMap String ModuleId) (n : String) :
    (nameAll known ids names).get? n =
      (names.get? n).or (ids.find? fun m => Ripple.moduleName known m = n) := by
  induction ids generalizing names with
  | nil => exact Option.or_none.symm
  | cons id rest ih =>
    have hstep : nameAll known (id :: rest) names =
        nameAll known rest (names.insertNew (Ripple.moduleName known id) id) := rfl
    rw [hstep, ih, OrderedMap.get?_insertNew, List.find?_cons]
    by_cases hid : Ripple.moduleName known id = n
    · subst hid
      cases h : names.get? (Ripple.moduleName known id) with
      | none => simp [(OrderedMap.get?_eq_none_iff ..).mp h]
      | some m => simp [(OrderedMap.mem_keys_iff ..).mpr ⟨m, h⟩]
    · simp [hid, Ne.symm hid]

/-- A name belongs to the first plain module that has it, and to the first package if there is none. -/
theorem get?_byName (ids : List ModuleId) (n : String) :
    (ofModules ids).byName.get? n =
      ((ofModules ids).known.find? fun m => isPackageFile m = false ∧ (ofModules ids).moduleName m = n).or
        ((ofModules ids).known.find? fun m => isPackageFile m = true ∧ (ofModules ids).moduleName m = n) := by
  have hnames : (ofModules ids).byName =
      nameAll (ofModules ids).known ((ofModules ids).known.filter isPackageFile)
        (nameAll (ofModules ids).known ((ofModules ids).known.filter fun id => !isPackageFile id) ∅) := rfl
  rw [hnames, get?_nameAll, get?_nameAll, OrderedMap.get?_empty, Option.none_or, List.find?_filter,
    List.find?_filter]
  simp only [Bool.not_eq_true', decide_eq_true_eq]
  rfl

/-- A name belongs to a module that has it. -/
theorem moduleName_of_byName {ids : List ModuleId} {n : String} {m : ModuleId}
    (h : (ofModules ids).byName.get? n = some m) : m ∈ ids ∧ (ofModules ids).moduleName m = n := by
  have hfound : ∀ {package : Bool},
      ((ofModules ids).known.find? fun m => isPackageFile m = package ∧ (ofModules ids).moduleName m = n) =
        some m → m ∈ ids ∧ (ofModules ids).moduleName m = n := by
    intro package hfind
    have hboth := List.find?_some hfind
    rw [decide_eq_true_iff] at hboth
    exact ⟨(mem_known_ofModules ids m).mp (List.mem_of_find?_eq_some hfind), hboth.2⟩
  rw [get?_byName, Option.or_eq_some_iff] at h
  exact h.elim hfound fun h => hfound h.2

/-- The name of every module belongs to some module. -/
theorem byName_ne_none {ids : List ModuleId} {m : ModuleId} (hm : m ∈ ids) :
    (ofModules ids).byName.get? ((ofModules ids).moduleName m) ≠ none := by
  rw [get?_byName, ne_eq, Option.or_eq_none_iff, List.find?_eq_none, List.find?_eq_none]
  intro h
  have hknown := (mem_known_ofModules ids m).mpr hm
  cases hfile : isPackageFile m with
  | false => simpa [hfile] using h.1 m hknown
  | true => simpa [hfile] using h.2 m hknown

/-- Where names are distinct, each name belongs to the one module that has it. -/
theorem byName_eq_some_iff {ids : List ModuleId}
    (hdistinct : ∀ a ∈ ids, ∀ b ∈ ids, (ofModules ids).moduleName a = (ofModules ids).moduleName b → a = b)
    (n : String) (m : ModuleId) :
    (ofModules ids).byName.get? n = some m ↔ m ∈ ids ∧ (ofModules ids).moduleName m = n := by
  refine ⟨moduleName_of_byName, fun h => ?_⟩
  obtain ⟨hm, rfl⟩ := h
  obtain ⟨m', hm'⟩ := Option.ne_none_iff_exists'.mp (byName_ne_none hm)
  obtain ⟨hmem, hname⟩ := moduleName_of_byName hm'
  rw [hm', hdistinct m' hmem m hm hname]

/-! ### Looking parts up -/

/-- The source file with the path of some parts. -/
def fileOf (parts : List String) : ModuleId := Text.join "/" parts ++ ".py"

/-- The package file in the folder with the path of some parts. -/
def packageOf (parts : List String) : ModuleId := Text.join "/" parts ++ "/" ++ packageFile

/-- The file of the path, the package of the path, then whatever has the name. -/
theorem lookup_eq (r : Resolver) {parts : List String} (hp : parts ≠ []) :
    r.lookup parts =
      if r.contains (fileOf parts) then some (fileOf parts)
      else if r.contains (packageOf parts) then some (packageOf parts)
      else r.byName.get? (Text.join "." parts) := by
  unfold lookup
  rw [if_neg hp]
  show ([fileOf parts, packageOf parts].find? r.contains).or _ = _
  by_cases hf : r.contains (fileOf parts) = true
  · simp [hf]
  · by_cases hk : r.contains (packageOf parts) = true <;> simp [hf, hk]

theorem lookup_nil (r : Resolver) : r.lookup [] = none := rfl

theorem ne_nil_of_lookup {r : Resolver} {parts : List String} {m : ModuleId} (h : r.lookup parts = some m) :
    parts ≠ [] := by
  intro hnil
  rw [hnil, lookup_nil] at h
  cases h

theorem lookup_mem {ids parts : List String} {m : ModuleId} (h : (ofModules ids).lookup parts = some m) :
    m ∈ ids := by
  by_cases hp : parts = []
  · rw [hp, lookup_nil] at h
    cases h
  · rw [lookup_eq _ hp] at h
    split at h
    · next hc => exact Option.some.inj h ▸ (contains_ofModules ids _).mp hc
    · split at h
      · next hc => exact Option.some.inj h ▸ (contains_ofModules ids _).mp hc
      · exact (moduleName_of_byName h).1

theorem findSome?_reverse_range' {α : Type} {f : Nat → Option α} {start count : Nat} {a : α} :
    (List.range' start count).reverse.findSome? f = some a ↔
      ∃ n, start ≤ n ∧ n < start + count ∧ f n = some a ∧ ∀ k, n < k → k < start + count → f k = none := by
  induction count with
  | zero =>
    simp only [List.range'_zero, List.reverse_nil, List.findSome?_nil, reduceCtorEq, Nat.add_zero, false_iff]
    intro h
    obtain ⟨n, hle, hlt, _⟩ := h
    omega
  | succ count ih =>
    rw [List.range'_1_concat, List.reverse_append, List.reverse_singleton, List.singleton_append,
      List.findSome?_cons]
    cases hlast : f (start + count) with
    | some b =>
      simp only [Option.some.injEq]
      constructor
      · intro hb
        subst hb
        exact ⟨start + count, by omega, by omega, hlast, fun k hlow hhigh => by omega⟩
      · intro h
        obtain ⟨n, _, hn, hfound, hlonger⟩ := h
        by_cases heq : n = start + count
        · rw [heq, hlast] at hfound
          exact Option.some.inj hfound
        · rw [hlonger (start + count) (by omega) (by omega)] at hlast
          cases hlast
    | none =>
      simp only [ih]
      constructor
      · intro h
        obtain ⟨n, hle, hlt, hfound, hlonger⟩ := h
        refine ⟨n, hle, by omega, hfound, fun k hlow hhigh => ?_⟩
        by_cases heq : k = start + count
        · exact heq ▸ hlast
        · exact hlonger k hlow (by omega)
      · intro h
        obtain ⟨n, hle, hlt, hfound, hlonger⟩ := h
        have hne : n ≠ start + count := by
          intro heq
          rw [heq, hlast] at hfound
          cases hfound
        exact ⟨n, hle, by omega, hfound, fun k hlow hhigh => hlonger k hlow (by omega)⟩

/-- What is found for a start of some parts is the module of one of their starts, and no longer one has a
module. -/
theorem lookupTrimmed_eq_some_iff {r : Resolver} {parts : List String} {floor : Nat} {m : ModuleId} :
    r.lookupTrimmed parts floor = some m ↔
      ∃ n, floor ≤ n ∧ n ≤ parts.length ∧ r.lookup (parts.take n) = some m ∧
        ∀ k, n < k → k ≤ parts.length → r.lookup (parts.take k) = none := by
  rw [lookupTrimmed, findSome?_reverse_range']
  refine exists_congr fun n => and_congr_right fun hfloor => ?_
  have hbound : ∀ k, n ≤ k → (k < floor + (parts.length + 1 - floor) ↔ k ≤ parts.length) := by omega
  rw [hbound n (Nat.le_refl n)]
  refine and_congr_right fun _ => and_congr_right fun _ => forall_congr' fun k => ?_
  exact forall_congr' fun hk => by rw [hbound k (Nat.le_of_lt hk)]

theorem exists_of_lookupTrimmed {r : Resolver} {parts : List String} {floor : Nat} {m : ModuleId}
    (h : r.lookupTrimmed parts floor = some m) :
    ∃ n, floor ≤ n ∧ n ≤ parts.length ∧ r.lookup (parts.take n) = some m := by
  obtain ⟨n, hfloor, hn, hm, _⟩ := lookupTrimmed_eq_some_iff.mp h
  exact ⟨n, hfloor, hn, hm⟩

theorem ne_nil_of_lookupTrimmed {r : Resolver} {parts : List String} {floor : Nat} {m : ModuleId}
    (h : r.lookupTrimmed parts floor = some m) : parts ≠ [] := by
  intro hnil
  obtain ⟨n, _, _, hn⟩ := exists_of_lookupTrimmed h
  rw [hnil, List.take_nil, lookup_nil] at hn
  cases hn

theorem lookupTrimmed_nil (r : Resolver) (floor : Nat) : r.lookupTrimmed [] floor = none :=
  Option.eq_none_iff_forall_ne_some.mpr fun _ h => ne_nil_of_lookupTrimmed h rfl

/-- The parts as a whole come first. -/
theorem lookupTrimmed_of_lookup {r : Resolver} {parts : List String} {floor : Nat} {m : ModuleId}
    (hf : floor ≤ parts.length) (h : r.lookup parts = some m) : r.lookupTrimmed parts floor = some m :=
  lookupTrimmed_eq_some_iff.mpr
    ⟨parts.length, hf, Nat.le_refl _, by rwa [List.take_length], fun k hlow hhigh => by omega⟩

/-- Shorter starts come last, so to allow for them takes nothing away. -/
theorem lookupTrimmed_of_floor_le {r : Resolver} {parts : List String} {floor floor' : Nat} {m : ModuleId}
    (hf : floor' ≤ floor) (h : r.lookupTrimmed parts floor = some m) :
    r.lookupTrimmed parts floor' = some m := by
  obtain ⟨n, hfloor, hn, hm, hlonger⟩ := lookupTrimmed_eq_some_iff.mp h
  exact lookupTrimmed_eq_some_iff.mpr ⟨n, Nat.le_trans hf hfloor, hn, hm, hlonger⟩

/-- The same for the starts that go beyond a base. -/
theorem lookupTrimmed_append_eq_some_iff {r : Resolver} {base parts : List String} {floor : Nat}
    {m : ModuleId} :
    r.lookupTrimmed (base ++ parts) (base.length + floor) = some m ↔
      ∃ n, floor ≤ n ∧ n ≤ parts.length ∧ r.lookup (base ++ parts.take n) = some m ∧
        ∀ k, n < k → k ≤ parts.length → r.lookup (base ++ parts.take k) = none := by
  rw [lookupTrimmed_eq_some_iff, List.length_append]
  constructor
  · intro h
    obtain ⟨n, hfloor, hn, hm, hlonger⟩ := h
    obtain ⟨n, rfl⟩ := Nat.exists_eq_add_of_le (Nat.le_trans (Nat.le_add_right ..) hfloor)
    rw [List.take_length_add_append] at hm
    refine ⟨n, by omega, by omega, hm, fun k hlow hhigh => ?_⟩
    rw [← List.take_length_add_append]
    exact hlonger _ (by omega) (by omega)
  · intro h
    obtain ⟨n, hfloor, hn, hm, hlonger⟩ := h
    refine ⟨base.length + n, by omega, by omega, by rwa [List.take_length_add_append], fun k hlow hhigh => ?_⟩
    obtain ⟨k, rfl⟩ := Nat.exists_eq_add_of_le (show base.length ≤ k by omega)
    rw [List.take_length_add_append]
    exact hlonger k (by omega) (by omega)

/-! ### Resolving -/

section Resolve
variable {r : Resolver} {i : Import} {anchor : List String}

/-- An import starts from a folder around its file. -/
theorem anchor_subset (ha : anchor? i = some anchor) : anchor ⊆ (Path.parse i.file).parent.parts := by
  unfold anchor? at ha
  dsimp only at ha
  split at ha
  · obtain rfl := Option.some.inj ha
    exact List.nil_subset _
  · split at ha
    · obtain rfl := Option.some.inj ha
      exact List.take_subset ..
    · cases ha

/-- The questions of an import that no module answers. -/
def unanswered (r : Resolver) (anchor : List String) (i : Import) : List (List String) :=
  i.questions.filter fun asked =>
    anchor ++ i.parts ++ asked ≠ [] ∧ r.lookup (anchor ++ i.parts ++ asked) = none

theorem mem_unanswered {asked : List String} :
    asked ∈ r.unanswered anchor i ↔
      asked ∈ i.questions ∧ anchor ++ i.parts ++ asked ≠ [] ∧ r.lookup (anchor ++ i.parts ++ asked) = none := by
  rw [unanswered, List.mem_filter, decide_eq_true_iff]

theorem unanswered_ne_nil_iff :
    r.unanswered anchor i ≠ [] ↔ ∃ asked ∈ i.questions,
      anchor ++ i.parts ++ asked ≠ [] ∧ r.lookup (anchor ++ i.parts ++ asked) = none := by
  rw [← List.isEmpty_eq_false_iff, List.isEmpty_eq_false_iff_exists_mem]
  simp only [mem_unanswered]

/-- The answer to an import, question by question: what is found, for what is not found the module of the
longest start, and the names under which it would have been. -/
def answer (r : Resolver) (anchor : List String) (i : Import) : Resolution :=
  let found := i.questions.filterMap fun asked => r.lookup (anchor ++ i.parts ++ asked)
  let source :=
    if r.unanswered anchor i = [] then none else r.lookupTrimmed (anchor ++ i.parts) (floor anchor i)
  ⟨(found ++ source.toList).foldl addNew [], (r.unanswered anchor i).map (r.absoluteName anchor i)⟩

/-- A start of an import may be all of it. -/
theorem floor_le_length (hbase : anchor ++ i.parts ≠ []) : floor anchor i ≤ (anchor ++ i.parts).length := by
  have hpos : 0 < (anchor ++ i.parts).length := List.length_pos_iff.mpr hbase
  unfold floor
  split
  · exact hpos
  · split
    · rw [List.length_append]
      omega
    · next hdotted =>
      have hparts := List.length_pos_iff.mpr (mt Import.parts_eq_nil_iff.mp hdotted)
      rw [List.length_append]
      omega

/-- To ask for a module as such is one question. -/
theorem resolveModule_eq (hasked : i.asked = []) (hbase : anchor ++ i.parts ≠ []) :
    r.resolveModule anchor i = r.answer anchor i := by
  have hquestions : i.questions = [[]] := if_pos hasked
  unfold resolveModule answer unanswered
  simp only [hquestions, List.filterMap_cons, List.filterMap_nil, List.filter_cons, List.filter_nil,
    List.append_nil, ne_eq, hbase, not_false_eq_true, true_and]
  cases hwhole : r.lookup (anchor ++ i.parts) with
  | none => cases r.lookupTrimmed (anchor ++ i.parts) (floor anchor i) <;> simp [addNew]
  | some t =>
    have htrimmed := lookupTrimmed_of_lookup (floor_le_length hbase) hwhole
    simp [htrimmed, addNew]

theorem missing_resolveNames (names : List String) :
    (r.resolveNames anchor i names).missing =
      (names.filter fun name => r.lookup (anchor ++ i.parts ++ [name]) = none).map
        fun name => r.absoluteName anchor i [name] := by
  simp only [resolveNames]
  induction names with
  | nil => rfl
  | cons name rest ih =>
    rw [List.map_cons, List.filterMap_cons, List.filter_cons]
    by_cases h : r.lookup (anchor ++ i.parts ++ [name]) = none
    · simp only [h, if_true, decide_true, List.map_cons, ih]
    · simp only [h, if_false, decide_false, Bool.false_eq_true, ih]

/-- To ask for names is to ask for each. -/
theorem resolveNames_eq (hasked : i.asked ≠ []) : r.resolveNames anchor i i.asked = r.answer anchor i := by
  have hquestions : i.questions = i.asked.map fun name => [name] := if_neg hasked
  have hunanswered : r.unanswered anchor i =
      (i.asked.filter fun name => r.lookup (anchor ++ i.parts ++ [name]) = none).map fun name => [name] := by
    rw [unanswered, hquestions, List.filter_map]
    congr 1
    refine List.filter_congr fun name _ => ?_
    simp
  have hmissing : (r.resolveNames anchor i i.asked).missing = (r.answer anchor i).missing := by
    rw [missing_resolveNames, answer, hunanswered, List.map_map]
    rfl
  have hsource : (if (r.resolveNames anchor i i.asked).missing ≠ [] ∧ anchor ++ i.parts ≠ [] then
        r.lookupTrimmed (anchor ++ i.parts) (floor anchor i) else none) =
      if r.unanswered anchor i = [] then none else r.lookupTrimmed (anchor ++ i.parts) (floor anchor i) := by
    have hnone : (r.resolveNames anchor i i.asked).missing = [] ↔ r.unanswered anchor i = [] := by
      rw [hmissing, answer, List.map_eq_nil_iff]
    simp only [ne_eq, hnone]
    by_cases hbase : anchor ++ i.parts = []
    · simp [hbase, lookupTrimmed_nil]
    · by_cases hnone : r.unanswered anchor i = [] <;> simp [hnone, hbase]
  have htargets : (r.resolveNames anchor i i.asked).targets = (r.answer anchor i).targets := by
    show ((i.asked.map fun name => (name, r.lookup (anchor ++ i.parts ++ [name]))).filterMap Prod.snd ++
      (if (r.resolveNames anchor i i.asked).missing ≠ [] ∧ anchor ++ i.parts ≠ [] then
        r.lookupTrimmed (anchor ++ i.parts) (floor anchor i) else none).toList).foldl addNew [] = _
    rw [hsource, answer, hquestions, List.filterMap_map, List.filterMap_map]
    rfl
  calc r.resolveNames anchor i i.asked
      = ⟨(r.resolveNames anchor i i.asked).targets, (r.resolveNames anchor i i.asked).missing⟩ := rfl
    _ = r.answer anchor i := by rw [htargets, hmissing]

/-- **An import is answered question by question**, whatever its form. -/
theorem resolve_eq (ha : anchor? i = some anchor) : r.resolve i = r.answer anchor i := by
  unfold resolve
  rw [ha]
  by_cases hasked : i.asked = []
  · by_cases hbase : anchor ++ i.parts = []
    · have hquestions : i.questions = [[]] := if_pos hasked
      have hfound : [[]].filterMap r.lookup = [] := rfl
      simp [hasked, hbase, answer, unanswered, hquestions, hfound, EmptyCollection.emptyCollection]
    · simp only [hasked, ne_eq, not_true_eq_false, if_false, hbase]
      exact resolveModule_eq hasked hbase
  · simp only [ne_eq, hasked, not_false_eq_true, if_true]
    exact resolveNames_eq hasked

/-- An import that leads out of the project comes to nothing. -/
theorem resolve_eq_empty (ha : anchor? i = none) : r.resolve i = ∅ := by
  unfold resolve
  rw [ha]

/-- The targets of an import that starts from a folder of the project. -/
theorem mem_targets_iff (ha : anchor? i = some anchor) (t : ModuleId) :
    t ∈ (r.resolve i).targets ↔
      (∃ asked ∈ i.questions, r.lookup (anchor ++ i.parts ++ asked) = some t) ∨
      r.unanswered anchor i ≠ [] ∧ r.lookupTrimmed (anchor ++ i.parts) (floor anchor i) = some t := by
  rw [resolve_eq ha, answer]
  simp only [mem_foldl_addNew, List.not_mem_nil, false_or, List.mem_append, List.mem_filterMap,
    Option.mem_toList]
  refine or_congr Iff.rfl ?_
  split
  · next h => simp [h]
  · next h => simp [h]

/-- What such an import asks for in vain. -/
theorem mem_missing_iff (ha : anchor? i = some anchor) (n : String) :
    n ∈ (r.resolve i).missing ↔ ∃ asked ∈ r.unanswered anchor i, r.absoluteName anchor i asked = n := by
  rw [resolve_eq ha, answer, List.mem_map]

/-- The targets, name by name. -/
theorem mem_targets_resolve (ha : anchor? i = some anchor) (t : ModuleId) :
    t ∈ (r.resolve i).targets ↔
      (∃ name ∈ i.asked, r.lookup (anchor ++ i.parts ++ [name]) = some t) ∨
      (i.asked = [] ∨ ∃ name ∈ i.asked, r.lookup (anchor ++ i.parts ++ [name]) = none) ∧
        anchor ++ i.parts ≠ [] ∧ r.lookupTrimmed (anchor ++ i.parts) (floor anchor i) = some t := by
  rw [mem_targets_iff ha, unanswered_ne_nil_iff, Import.exists_question_iff, Import.exists_question_iff,
    List.append_nil]
  constructor
  · intro h
    rcases h with (⟨hasked, hwhole⟩ | hname) | ⟨⟨hasked, hbase, _⟩ | ⟨name, hmem, _, hnone⟩, ht⟩
    · -- the module as such is the longest start of itself
      have hbase : anchor ++ i.parts ≠ [] := ne_nil_of_lookup hwhole
      exact .inr ⟨.inl hasked, hbase, lookupTrimmed_of_lookup (floor_le_length hbase) hwhole⟩
    · exact .inl hname
    · exact .inr ⟨.inl hasked, hbase, ht⟩
    · exact .inr ⟨.inr ⟨name, hmem, hnone⟩, ne_nil_of_lookupTrimmed ht, ht⟩
  · intro h
    rcases h with hname | ⟨hasked | ⟨name, hmem, hnone⟩, hbase, ht⟩
    · exact .inl (.inr hname)
    · cases hwhole : r.lookup (anchor ++ i.parts) with
      | none => exact .inr ⟨.inl ⟨hasked, hbase, rfl⟩, ht⟩
      | some t' =>
        rw [lookupTrimmed_of_lookup (floor_le_length hbase) hwhole] at ht
        exact .inl (.inl ⟨hasked, ht⟩)
    · exact .inr ⟨.inr ⟨name, hmem, by simp, hnone⟩, ht⟩

/-- An import that leads out of the project has no targets. -/
theorem exists_anchor_of_mem_targets {t : ModuleId} (ht : t ∈ (r.resolve i).targets) :
    ∃ anchor, anchor? i = some anchor := by
  cases ha : anchor? i with
  | none =>
    rw [resolve_eq_empty ha] at ht
    cases ht
  | some anchor => exact ⟨anchor, rfl⟩

end Resolve

/-- **Every target is a module of the project.** -/
theorem targets_subset {ids : List ModuleId} {i : Import} {t : ModuleId}
    (ht : t ∈ ((ofModules ids).resolve i).targets) : t ∈ ids := by
  obtain ⟨anchor, ha⟩ := exists_anchor_of_mem_targets ht
  rcases (mem_targets_iff ha t).mp ht with ⟨asked, _, ht⟩ | ⟨_, ht⟩
  · exact lookup_mem ht
  · obtain ⟨n, _, _, hn⟩ := exists_of_lookupTrimmed ht
    exact lookup_mem hn

end Resolver

end Ripple
