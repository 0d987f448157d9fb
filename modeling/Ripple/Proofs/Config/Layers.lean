import Ripple.Proofs.Config

/-! Which layer a setting comes from.

Under a key of its table a project gives something if the value there is of the right shape
(`setting_eq_some_iff`), and whatever stands under other keys has no say in it (`setting_congr`). So each setting
is what the command line asks for, else what the project gives under the key of the setting, else what holds
without both (`fromLayers_layers`), and a project that changes what stands under one key changes the settings fed by
that key alone (`sameBeside_layers`). -/
namespace Ripple

/-! ### What a key gives -/

/-- Under the key stands the value that means `a`, and `a` is fit for it. -/
def Gives {α : Type} (t : Toml.Table) (key : String) (value : α → Toml.Value) (fit : α → Prop) (a : α) : Prop :=
  t.lookup key = some (value a) ∧ fit a

/-- An array that holds these strings. -/
def Toml.Value.ofStrings (names : List String) : Toml.Value := .array (names.map .text)

section Shapes
variable {v : Toml.Value}

theorem count?_eq_some_iff {n : Int} : count? v = some n ↔ v = .integer n ∧ 0 ≤ n := by
  cases v with
  | integer m =>
    simp only [count?, Toml.Value.integer.injEq]
    split
    · constructor
      · exact fun h => nomatch h
      · rintro ⟨rfl, hn⟩
        omega
    · constructor
      · intro h
        obtain rfl := Option.some.inj h
        exact ⟨rfl, by omega⟩
      · exact fun h => congrArg some h.1
  | _ => simp [count?]

theorem boolean?_eq_some_iff {b : Bool} : boolean? v = some b ↔ v = .boolean b := by
  cases v <;> simp [boolean?]

theorem string?_eq_some_iff {s : String} : v.string? = some s ↔ v = .text s := by
  cases v <;> simp [Toml.Value.string?]

theorem order?_eq_some_iff {text : String} :
    order? v = some text ↔ v = .text text ∧ (Order.ofText? text).isSome = true := by
  rw [order?, Option.filter_eq_some_iff, string?_eq_some_iff]

theorem mapM_string?_eq_some_iff {items : List Toml.Value} {names : List String} :
    items.mapM Toml.Value.string? = some names ↔ items = names.map .text := by
  induction items generalizing names with
  | nil => cases names <;> simp
  | cons v rest ih =>
    simp only [List.mapM_cons, bind, Option.bind_eq_some_iff, string?_eq_some_iff, ih, pure, Option.some.injEq]
    constructor
    · rintro ⟨s, rfl, others, rfl, rfl⟩
      rfl
    · intro h
      cases names with
      | nil => cases h
      | cons name names =>
        obtain ⟨rfl, rfl⟩ := List.cons.inj h
        exact ⟨name, rfl, names, rfl, rfl⟩

theorem strings?_eq_some_iff {names : List String} : v.strings? = some names ↔ v = .ofStrings names := by
  cases v <;> simp [Toml.Value.strings?, Toml.Value.ofStrings, mapM_string?_eq_some_iff]

end Shapes

section Setting
variable {α : Type} {t t' : Toml.Table} {key : String} {read : Toml.Value → Option α}
  {warning : Toml.Value → ConfigWarning}

/-- A key gives what its value is read as. -/
theorem setting_eq_some_iff {value : α → Toml.Value} {fit : α → Prop}
    (hread : ∀ {v a}, read v = some a ↔ v = value a ∧ fit a) (a : α) :
    (setting t key read warning).1 = some a ↔ Gives t key value fit a := by
  have hvalue : (setting t key read warning).1 = (t.lookup key).bind read := by
    unfold setting
    cases t.lookup key with
    | none => rfl
    | some v => cases hv : read v <;> simp [hv]
  rw [hvalue, Option.bind_eq_some_iff]
  constructor
  · rintro ⟨v, hv, ha⟩
    obtain ⟨rfl, hfit⟩ := hread.mp ha
    exact ⟨hv, hfit⟩
  · exact fun h => ⟨value a, h.1, hread.mpr ⟨rfl, h.2⟩⟩

theorem setting_congr (h : t'.lookup key = t.lookup key) :
    setting t' key read warning = setting t key read warning := by
  rw [setting, setting, h]

end Setting

/-! ### What comes of the layers -/

theorem Order.isSome_ofText?_iff {text : String} :
    (ofText? text).isSome = true ↔ text = "path" ∨ text = "relevance" := by
  simp only [ofText?, all, List.find?_isSome, beq_iff_eq, List.mem_cons, List.not_mem_nil, or_false,
    exists_eq_or_imp, exists_eq_left, Order.text]
  rw [eq_comm, eq_comm (a := "relevance")]

/-- What comes of a setting in layers: what is asked for, else what the project sets, else what holds without
both. -/
inductive Chosen {α : Type} (asked : Option α) (set : α → Prop) (base : Option α) : Option α → Prop
  | asked {a : α} (h : asked = some a) : Chosen asked set base (some a)
  | set {a : α} (h : asked = none) (hset : set a) : Chosen asked set base (some a)
  | base (h : asked = none) (hset : ∀ a, ¬set a) : Chosen asked set base base

theorem chosen_or {α : Type} {set : α → Prop} {found : Option α} (hset : ∀ a, found = some a ↔ set a)
    (asked base : Option α) : Chosen asked set base (asked.or (found.or base)) := by
  cases asked with
  | some a => exact .asked rfl
  | none =>
    cases found with
    | some a => exact .set rfl ((hset a).mp rfl)
    | none => exact .base rfl fun a ha => nomatch (hset a).mpr ha

theorem chosen_getD {α : Type} {set : α → Prop} {found : Option α} (hset : ∀ a, found = some a ↔ set a)
    (asked : Option α) (base : α) : Chosen asked set (some base) (some (asked.getD (found.getD base))) := by
  have hor : some (asked.getD (found.getD base)) = asked.or (found.or (some base)) := by
    cases asked <;> cases found <;> rfl
  exact hor ▸ chosen_or hset asked (some base)

/-- Where each setting comes from. The number of jobs of the environment and that of a project are raised to one;
the folders that a project leaves out come under two keys and add to those that hold no sources. -/
structure FromLayers (jobs : Option String) (t : Toml.Table) (o : Overrides) (c : Config) : Prop where
  maxCount : Chosen o.maxCount (Gives t "max" .integer (0 ≤ ·)) none c.maxCount
  distanceLimit : Chosen o.distanceLimit (Gives t "distance-limit" .integer (0 ≤ ·)) none c.distanceLimit
  jobs : Chosen o.jobs (fun n => ∃ m, Gives t "jobs" .integer (0 ≤ ·) m ∧ n = max m 1)
    (some (((Text.readInt? (jobs.getD "")).map (max · 1)).getD 1)) (some c.jobs)
  ignoreExternal : Chosen o.ignoreExternal (Gives t "ignore-external-imports" .boolean fun _ => True)
    (some false) (some c.ignoreExternal)
  order : Chosen o.order (Gives t "order" .text fun text => text = "path" ∨ text = "relevance") (some "path")
    (some c.order)
  excluded : ∀ name, name ∈ c.excluded ↔ name ∈ defaultExcluded ∨ ∃ key ∈ ["exclude", "extend-exclude"],
    ∃ names, Gives t key .ofStrings (fun _ => True) names ∧ name ∈ names

/-- The settings agree but for those that are fed by the key. -/
structure SameBeside (key : String) (c c' : Config) : Prop where
  maxCount : key ≠ "max" → c.maxCount = c'.maxCount
  distanceLimit : key ≠ "distance-limit" → c.distanceLimit = c'.distanceLimit
  jobs : key ≠ "jobs" → c.jobs = c'.jobs
  ignoreExternal : key ≠ "ignore-external-imports" → c.ignoreExternal = c'.ignoreExternal
  order : key ≠ "order" → c.order = c'.order
  excluded : key ≠ "exclude" → key ≠ "extend-exclude" → c.excluded = c'.excluded

namespace Config

/-- The settings of the environment, under those of a project, under those that are asked for. -/
def layers (jobs : Option String) (t : Toml.Table) (o : Overrides) : Config :=
  ((ofEnvironment jobs).1.ofTable t).1.merge o

/-- A project without settings changes none. -/
theorem ofTable_nil (base : Config) : (base.ofTable []).1 = base := by
  simp [ofTable, merge, count, folderNames, setting]

theorem ofTable_nil_told (base : Config) : (base.ofTable []).2 = [] := by
  simp [ofTable, count, folderNames, setting]

/-- What is loaded for a project is its table over what holds without it. -/
theorem load_eq (decode : Toml.Decoder) (w : Workspace) (root : Path) (base : Config) :
    load decode w root base =
      (w.settings decode root).map fun found => ((base.ofTable found.1).1, found.2 ++ (base.ofTable found.1).2) := by
  unfold load
  cases w.settings decode root with
  | error e => rfl
  | ok found =>
    simp only [bind, Except.bind, Except.map]
    split
    · next hempty =>
      rw [List.isEmpty_iff.mp hempty, ofTable_nil, ofTable_nil_told, List.append_nil]
      rfl
    · rfl

theorem ofEnvironment_eq (jobs : Option String) :
    (ofEnvironment jobs).1 = default (((Text.readInt? (jobs.getD "")).map (max · 1)).getD 1) := by
  simp only [ofEnvironment, jobsOf?]
  split
  · next hvalue =>
    split at hvalue
    · next hempty =>
      rw [hempty, ← Option.some.inj hvalue]
      rfl
    · rw [hvalue]
      rfl
  · next hvalue =>
    split at hvalue
    · cases hvalue
    · rw [hvalue]
      rfl

variable (jobs : Option String) {t t' : Toml.Table} {o : Overrides}

theorem mem_folderNames_getD {key name : String} :
    name ∈ (folderNames t key).1.getD [] ↔ ∃ names, Gives t key .ofStrings (fun _ => True) names ∧ name ∈ names := by
  have hnames : ∀ names, (folderNames t key).1 = some names ↔ Gives t key .ofStrings (fun _ => True) names :=
    setting_eq_some_iff (by simp [strings?_eq_some_iff])
  simp only [← hnames]
  cases (folderNames t key).1 <;> simp

/-- **Every setting is what is asked for, else what the project gives under its key, else what holds without
both.** -/
theorem fromLayers_layers (t : Toml.Table) (hfolders : o.excluded = none) :
    FromLayers jobs t o (layers jobs t o) where
  maxCount := by
    rw [layers, ofEnvironment_eq]
    exact chosen_or (setting_eq_some_iff count?_eq_some_iff) ..
  distanceLimit := by
    rw [layers, ofEnvironment_eq]
    exact chosen_or (setting_eq_some_iff count?_eq_some_iff) ..
  jobs := by
    rw [layers, ofEnvironment_eq]
    refine chosen_getD (fun n => ?_) ..
    rw [Option.map_eq_some_iff]
    exact exists_congr fun m => and_congr (setting_eq_some_iff count?_eq_some_iff m) eq_comm
  ignoreExternal := by
    rw [layers, ofEnvironment_eq]
    exact chosen_getD (setting_eq_some_iff (by simp [boolean?_eq_some_iff])) ..
  order := by
    rw [layers, ofEnvironment_eq]
    refine chosen_getD (setting_eq_some_iff ?_) ..
    simp [order?_eq_some_iff, Order.isSome_ofText?_iff]
  excluded name := by
    rw [layers, ofEnvironment_eq, merge, hfolders]
    show name ∈ defaultExcluded ++ (folderNames t "exclude").1.getD [] ++ (folderNames t "extend-exclude").1.getD []
      ↔ _
    simp only [List.mem_append, mem_folderNames_getD, or_assoc, List.mem_cons, List.not_mem_nil, or_false,
      exists_eq_or_imp, exists_eq_left]

/-- **What stands under a key changes the settings fed by that key alone.** -/
theorem sameBeside_layers {key : String} (h : ∀ k, k ≠ key → t'.lookup k = t.lookup k) :
    SameBeside key (layers jobs t o) (layers jobs t' o) := by
  have hsame : ∀ {α : Type} {k : String} {read : Toml.Value → Option α} {warning : Toml.Value → ConfigWarning},
      key ≠ k → setting t' k read warning = setting t k read warning :=
    fun hk => setting_congr (h _ hk.symm)
  constructor
  · intro hk
    simp only [layers, merge, ofTable, count, hsame hk]
  · intro hk
    simp only [layers, merge, ofTable, count, hsame hk]
  · intro hk
    simp only [layers, merge, ofTable, count, hsame hk]
  · intro hk
    simp only [layers, merge, ofTable, hsame hk]
  · intro hk
    simp only [layers, merge, ofTable, hsame hk]
  · intro hk hk'
    simp only [layers, merge, ofTable, folderNames, hsame hk, hsame hk']

end Config

end Ripple
