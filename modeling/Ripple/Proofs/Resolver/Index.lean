import Mathlib.Order.Bounds.Basic
import Ripple.Proofs.Resolver.Naming

/-! What dotted parts lead to.

A resolver holds its modules as a set: neither their order nor repeats leave a trace (`ofModules_congr`).
Parts lead to the file of their path, then to the package file of their path, then to the least plain module
that has their name, and to the least package file with this name if no plain module has it (`LeadsTo`). Names
may collide, so a module is found by its own name unless another one comes before it (`Rival`). -/
namespace Ripple

open Resolver

/-- The plain modules, or the package files, that have a name. -/
def named (ids : List ModuleId) (package : Bool) (name : String) : Set ModuleId :=
  {id | id ∈ ids ∧ isPackageFile id = package ∧ (ofModules ids).moduleName id = name}

theorem mem_named (ids : List ModuleId) (package : Bool) (name : String) (id : ModuleId) :
    id ∈ named ids package name ↔ id ∈ ids ∧ isPackageFile id = package ∧ moduleName ids id = name := by
  rw [← moduleName_ofModules]
  rfl

/-- What some parts lead to. -/
inductive LeadsTo (ids : List ModuleId) (parts : List String) : Option ModuleId → Prop
  | file (hfile : fileOf parts ∈ ids) : LeadsTo ids parts (some (fileOf parts))
  | package (hfile : fileOf parts ∉ ids) (hpackage : packageOf parts ∈ ids) :
    LeadsTo ids parts (some (packageOf parts))
  | plainName {m : ModuleId} (hfile : fileOf parts ∉ ids) (hpackage : packageOf parts ∉ ids)
    (hplain : IsLeast (named ids false (Text.join "." parts)) m) : LeadsTo ids parts (some m)
  | packageName {m : ModuleId} (hfile : fileOf parts ∉ ids) (hpackage : packageOf parts ∉ ids)
    (hplain : named ids false (Text.join "." parts) = ∅)
    (hnamed : IsLeast (named ids true (Text.join "." parts)) m) : LeadsTo ids parts (some m)
  | nowhere (hfile : fileOf parts ∉ ids) (hpackage : packageOf parts ∉ ids)
    (hplain : named ids false (Text.join "." parts) = ∅)
    (hnamed : named ids true (Text.join "." parts) = ∅) : LeadsTo ids parts none

/-- Another module that has the name of `m`, or the place that this name spells. -/
def Rival (ids : List ModuleId) (m other : ModuleId) : Prop :=
  let name := (ofModules ids).moduleName m
  other ∈ ids ∧ other ≠ m ∧
    (other = fileOf (Text.split '.' name) ∨ other = packageOf (Text.split '.' name) ∨
      (ofModules ids).moduleName other = name)

/-! ### The modules as a set -/

theorem known_ascending (ids : List ModuleId) : (ofModules ids).known.Pairwise (· < ·) :=
  sortIds_of_nodup (nodup_foldl_addNew ids)

/-- **A resolver depends on its modules as a set.** -/
theorem ofModules_congr {ids ids' : List ModuleId} (h : ∀ id, id ∈ ids' ↔ id ∈ ids) :
    ofModules ids' = ofModules ids := by
  have hknown : sortIds (ids'.foldl addNew []) = sortIds (ids.foldl addNew []) :=
    ascending_ext (known_ascending ids') (known_ascending ids) fun id => by simp [h]
  simp only [ofModules, hknown]

/-! ### The first module with a name -/

/-- The first of some modules in ascending order is the least. -/
theorem find?_eq_some_iff_isLeast {ids : List ModuleId} (h : ids.Pairwise (· < ·)) (p : ModuleId → Bool)
    (m : ModuleId) : ids.find? p = some m ↔ IsLeast {id | id ∈ ids ∧ p id = true} m := by
  have hleast : ∀ {m}, ids.find? p = some m → IsLeast {id | id ∈ ids ∧ p id = true} m := by
    intro m hm
    refine ⟨⟨List.mem_of_find?_eq_some hm, List.find?_some hm⟩, fun id hid => ?_⟩
    obtain ⟨_, before, after, rfl, hbefore⟩ := List.find?_eq_some_iff_append.mp hm
    rcases List.mem_append.mp hid.1 with hb | ha
    · have := hbefore id hb
      simp [hid.2] at this
    · rcases List.mem_cons.mp ha with rfl | ha
      · exact String.le_refl _
      · exact Std.le_of_lt ((List.pairwise_cons.mp (List.pairwise_append.mp h).2.1).1 id ha)
  refine ⟨hleast, fun hm => ?_⟩
  cases hfind : ids.find? p with
  | none => exact absurd hm.1.2 (List.find?_eq_none.mp hfind m hm.1.1)
  | some m' =>
    have hm' := hleast hfind
    exact congrArg some (String.le_antisymm (hm'.2 hm.1) (hm.2 hm'.1))

section Named
variable {ids : List ModuleId} {package : Bool} {name : String}

theorem find?_named_eq_some_iff (m : ModuleId) :
    ((ofModules ids).known.find? fun m => isPackageFile m = package ∧ (ofModules ids).moduleName m = name) =
      some m ↔ IsLeast (named ids package name) m := by
  rw [find?_eq_some_iff_isLeast (known_ascending ids)]
  simp only [mem_known_ofModules, decide_eq_true_eq, named]

theorem find?_named_eq_none_iff :
    ((ofModules ids).known.find? fun m => isPackageFile m = package ∧ (ofModules ids).moduleName m = name) =
      none ↔ named ids package name = ∅ := by
  rw [List.find?_eq_none, Set.eq_empty_iff_forall_notMem]
  simp only [mem_known_ofModules, decide_eq_true_eq, named, Set.mem_ofPred_eq, not_and]

/-- A name belongs to the least plain module that has it, and to the least package file if there is none. -/
theorem byName_eq_some_iff_isLeast (m : ModuleId) :
    (ofModules ids).byName.get? name = some m ↔
      IsLeast (named ids false name) m ∨ named ids false name = ∅ ∧ IsLeast (named ids true name) m := by
  rw [get?_byName, Option.or_eq_some_iff, find?_named_eq_some_iff, find?_named_eq_some_iff,
    find?_named_eq_none_iff]

theorem byName_eq_none_iff :
    (ofModules ids).byName.get? name = none ↔ named ids false name = ∅ ∧ named ids true name = ∅ := by
  rw [get?_byName, Option.or_eq_none_iff, find?_named_eq_none_iff, find?_named_eq_none_iff]

end Named

/-! ### Looking parts up -/

section LookUp
variable {ids : List ModuleId} {parts : List String}

variable (ids) in
theorem lookup_leadsTo (hp : parts ≠ []) : LeadsTo ids parts ((ofModules ids).lookup parts) := by
  rw [lookup_eq _ hp]
  simp only [contains_ofModules]
  split
  · next hfile => exact .file hfile
  · next hfile =>
    split
    · next hpackage => exact .package hfile hpackage
    · next hpackage =>
      cases hname : (ofModules ids).byName.get? (Text.join "." parts) with
      | some m =>
        rcases (byName_eq_some_iff_isLeast m).mp hname with hplain | ⟨hplain, hnamed⟩
        · exact .plainName hfile hpackage hplain
        · exact .packageName hfile hpackage hplain hnamed
      | none =>
        obtain ⟨hplain, hnamed⟩ := byName_eq_none_iff.mp hname
        exact .nowhere hfile hpackage hplain hnamed

/-- **Looking parts up gives what they lead to.** -/
theorem lookup_eq_iff_leadsTo (hp : parts ≠ []) (found : Option ModuleId) :
    (ofModules ids).lookup parts = found ↔ LeadsTo ids parts found := by
  refine ⟨fun h => h ▸ lookup_leadsTo ids hp, fun h => ?_⟩
  rw [lookup_eq _ hp]
  simp only [contains_ofModules]
  cases h with
  | file hfile => rw [if_pos hfile]
  | package hfile hpackage => rw [if_neg hfile, if_pos hpackage]
  | plainName hfile hpackage hplain =>
    rw [if_neg hfile, if_neg hpackage]
    exact (byName_eq_some_iff_isLeast _).mpr (.inl hplain)
  | packageName hfile hpackage hplain hnamed =>
    rw [if_neg hfile, if_neg hpackage]
    exact (byName_eq_some_iff_isLeast _).mpr (.inr ⟨hplain, hnamed⟩)
  | nowhere hfile hpackage hplain hnamed =>
    rw [if_neg hfile, if_neg hpackage]
    exact byName_eq_none_iff.mpr ⟨hplain, hnamed⟩

/-- What is found has the place or the name. -/
theorem LeadsTo.place_or_name {m : ModuleId} (h : LeadsTo ids parts (some m)) :
    m ∈ ids ∧ (m = fileOf parts ∨ m = packageOf parts ∨ (ofModules ids).moduleName m = Text.join "." parts) := by
  cases h with
  | file hfile => exact ⟨hfile, .inl rfl⟩
  | package _ hpackage => exact ⟨hpackage, .inr (.inl rfl)⟩
  | plainName _ _ hplain => exact ⟨hplain.1.1, .inr (.inr hplain.1.2.2)⟩
  | packageName _ _ _ hnamed => exact ⟨hnamed.1.1, .inr (.inr hnamed.1.2.2)⟩

/-- Under the name of a module something is found. -/
theorem LeadsTo.exists_of_name {found : Option ModuleId} {m : ModuleId} (h : LeadsTo ids parts found)
    (hm : m ∈ ids) (hname : (ofModules ids).moduleName m = Text.join "." parts) : ∃ other, found = some other := by
  cases h with
  | nowhere _ _ hplain hnamed =>
    cases hfile : isPackageFile m with
    | false => exact absurd (hplain ▸ ⟨hm, hfile, hname⟩ : m ∈ (∅ : Set ModuleId)) (Set.notMem_empty m)
    | true => exact absurd (hnamed ▸ ⟨hm, hfile, hname⟩ : m ∈ (∅ : Set ModuleId)) (Set.notMem_empty m)
  | _ => exact ⟨_, rfl⟩

end LookUp

/-- A module is found by its own name, or one of its rivals is. -/
theorem lookup_own_name {ids : List ModuleId} {m : ModuleId} (hm : m ∈ ids) :
    ∃ found, (ofModules ids).lookup (Text.split '.' ((ofModules ids).moduleName m)) = some found ∧
      (found = m ∨ Rival ids m found) := by
  have hname : (ofModules ids).moduleName m =
      Text.join "." (Text.split '.' ((ofModules ids).moduleName m)) := (Text.join_split rfl _).symm
  have hleads := lookup_leadsTo ids (Text.split_ne_nil '.' ((ofModules ids).moduleName m))
  obtain ⟨found, hfound⟩ := hleads.exists_of_name hm hname
  rw [hfound] at hleads
  obtain ⟨hmem, hplace⟩ := hleads.place_or_name
  rw [← hname] at hplace
  exact ⟨found, hfound, or_iff_not_imp_left.mpr fun hne => ⟨hmem, hne, hplace⟩⟩

/-- **To look up undoes naming**: a resolver depends on its modules as a set, any parts lead to the file or
else the package file of their path, or else to the least plain module or else the least package file of
their name, and a module is found by its own name unless it has a rival. -/
theorem lookup_inverts_moduleName {ids : List ModuleId} (hparts : ∀ id ∈ ids, (Path.parse id).parts ≠ []) :
    ∃ r, ofModules? ids = some r ∧
      (∀ ids' : List ModuleId, (∀ id, id ∈ ids' ↔ id ∈ ids) → ofModules? ids' = some r) ∧
      (∀ parts ≠ [], ∀ found, r.lookup parts = found ↔ LeadsTo ids parts found) ∧
      ∀ m ∈ ids, ∃ found, r.lookup (Text.split '.' (r.moduleName m)) = some found ∧
        (found = m ∨ Rival ids m found) := by
  have hall : ∀ ids' : List ModuleId, (∀ id, id ∈ ids' ↔ id ∈ ids) →
      ofModules? ids' = some (ofModules ids) := by
    intro ids' hsame
    exact ofModules?_eq_some_iff.mpr ⟨fun id hid => hparts id ((hsame id).mp hid), ofModules_congr hsame⟩
  exact ⟨ofModules ids, hall ids fun _ => Iff.rfl, hall, fun parts hp => lookup_eq_iff_leadsTo hp,
    fun m hm => lookup_own_name hm⟩

/-- Two packages share a name, which leads to the lesser; the module in the other is found by its own name. -/
theorem lookup_inverts_names_of_two_packages :
    let ids := ["src/app/core.py", "src/app/__init__.py", "lib/app/__init__.py", "src/app/core.py"]
    (∀ id ∈ ids, (Path.parse id).parts ≠ []) ∧
      ∃ r, ofModules? ids = some r ∧
        ofModules? ["lib/app/__init__.py", "src/app/__init__.py", "src/app/core.py"] = some r ∧
        r.lookup ["app"] = some "lib/app/__init__.py" ∧
        r.lookup ["app", "core"] = some "src/app/core.py" := by
  intro ids
  have hparts : ∀ id ∈ ids, (Path.parse id).parts ≠ [] := by decide
  obtain ⟨r, hr, hsame, hlookup, -⟩ := lookup_inverts_moduleName hparts
  refine ⟨hparts, r, hr, hsame _ fun id => by simp only [ids, List.mem_cons, List.not_mem_nil]; tauto, ?_, ?_⟩
  · rw [hlookup _ (by decide)]
    refine .packageName (by decide) (by decide) (Set.eq_empty_iff_forall_notMem.mpr fun id hid => ?_)
      ⟨(mem_named ..).mpr (by decide), fun id hid => ?_⟩
    · have hnone : ∀ id ∈ ids, isPackageFile id = false → moduleName ids id ≠ "app" := by decide
      obtain ⟨hmem, hplain, hname⟩ := (mem_named ..).mp hid
      exact hnone id hmem hplain hname
    · have hleast : ∀ id ∈ ids, isPackageFile id = true → "lib/app/__init__.py" ≤ id := by decide
      obtain ⟨hmem, hpackage, _⟩ := (mem_named ..).mp hid
      exact hleast id hmem hpackage
  · rw [hlookup _ (by decide)]
    refine .plainName (by decide) (by decide) ⟨(mem_named ..).mpr (by decide), fun id hid => ?_⟩
    have hleast : ∀ id ∈ ids, isPackageFile id = false → "src/app/core.py" ≤ id := by decide
    obtain ⟨hmem, hplain, _⟩ := (mem_named ..).mp hid
    exact hleast id hmem hplain

end Ripple
