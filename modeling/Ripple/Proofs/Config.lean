import Ripple.Config.Project

/-! Settings that a run can work with.

Each layer keeps the settings valid that it is laid over (`Config.Valid.merge`): the project's own, since a
setting that is not of the right kind is left out (`Config.Valid.ofTable`), and whatever else sets numbers in
range and orders that there are. So what is loaded for a project is valid from the start
(`Config.Valid.load`). -/
namespace Ripple

/-- Counts are not negative, some job works, the order is one there is, and the folders that hold no sources are
left out. -/
structure Config.Valid (c : Config) : Prop where
  maxCount : ∀ n ∈ c.maxCount, 0 ≤ n
  distanceLimit : ∀ n ∈ c.distanceLimit, 0 ≤ n
  jobs : 1 ≤ c.jobs
  order : (Order.ofText? c.order).isSome = true
  excluded : ∀ name ∈ defaultExcluded, name ∈ c.excluded

/-- What a layer sets is fit to be set. -/
structure Overrides.Valid (o : Overrides) : Prop where
  maxCount : ∀ n ∈ o.maxCount, 0 ≤ n
  distanceLimit : ∀ n ∈ o.distanceLimit, 0 ≤ n
  jobs : ∀ n ∈ o.jobs, 1 ≤ n
  order : ∀ text ∈ o.order, (Order.ofText? text).isSome = true
  excluded : ∀ names ∈ o.excluded, ∀ name ∈ defaultExcluded, name ∈ names

theorem forall_mem_or {α : Type} {p : α → Prop} {a b : Option α} (ha : ∀ x ∈ a, p x) (hb : ∀ x ∈ b, p x) :
    ∀ x ∈ a.or b, p x := by
  cases a with
  | none => exact hb
  | some x => exact ha

theorem of_getD {α : Type} {p : α → Prop} {a : Option α} {d : α} (ha : ∀ x ∈ a, p x) (hd : p d) :
    p (a.getD d) := by
  cases a with
  | none => exact hd
  | some x => exact ha x rfl

namespace Config
variable {c base : Config}

theorem Valid.merge {o : Overrides} (hc : c.Valid) (ho : o.Valid) : (c.merge o).Valid where
  maxCount := forall_mem_or ho.maxCount hc.maxCount
  distanceLimit := forall_mem_or ho.distanceLimit hc.distanceLimit
  jobs := of_getD ho.jobs hc.jobs
  order := of_getD ho.order hc.order
  excluded := of_getD ho.excluded hc.excluded

/-! ### What holds without a project -/

theorem valid_default {jobs : Int} (h : 1 ≤ jobs) : (default jobs).Valid where
  maxCount := by simp [default]
  distanceLimit := by simp [default]
  jobs := h
  order := show (Order.ofText? Order.path.text).isSome = true by decide
  excluded _ h := h

theorem one_le_jobsOf? {value : String} {n : Int} (h : jobsOf? value = some n) : 1 ≤ n := by
  unfold jobsOf? at h
  split at h
  · exact Option.some.inj h ▸ Int.le_refl 1
  · obtain ⟨m, _, rfl⟩ := Option.map_eq_some_iff.mp h
    exact Int.le_max_right m 1

theorem valid_ofEnvironment (jobs : Option String) : (ofEnvironment jobs).1.Valid := by
  simp only [ofEnvironment]
  split
  · next hjobs => exact valid_default (one_le_jobsOf? hjobs)
  · exact valid_default (Int.le_refl 1)

/-! ### What a project sets -/

/-- What a key gives has been read from a value. -/
theorem exists_of_mem_setting {α : Type} {settings : Toml.Table} {key : String} {read : Toml.Value → Option α}
    {warning : Toml.Value → ConfigWarning} {a : α} (h : a ∈ (setting settings key read warning).1) :
    ∃ v, read v = some a := by
  unfold setting at h
  split at h
  · cases h
  · split at h
    · next hread => exact ⟨_, Option.mem_some.mp h ▸ hread⟩
    · cases h

theorem count_nonneg {settings : Toml.Table} {key : String} : ∀ n ∈ (count settings key).1, 0 ≤ n := by
  intro n hn
  obtain ⟨v, hv⟩ := exists_of_mem_setting hn
  unfold count? at hv
  split at hv
  · split at hv
    · cases hv
    · next hneg => exact Option.some.inj hv ▸ Int.not_lt.mp hneg
  · cases hv

/-- **Whatever stands in its table, a project keeps its settings valid.** -/
theorem Valid.ofTable (h : base.Valid) (settings : Toml.Table) : (base.ofTable settings).1.Valid := by
  refine h.merge ⟨count_nonneg, count_nonneg, ?_, ?_, ?_⟩
  · intro n hn
    obtain ⟨m, _, rfl⟩ := Option.map_eq_some_iff.mp hn
    exact Int.le_max_right m 1
  · intro text htext
    obtain ⟨v, hv⟩ := exists_of_mem_setting htext
    exact (Option.filter_eq_some_iff.mp hv).2
  · intro names hnames name hname
    rw [← Option.mem_some.mp hnames]
    exact List.mem_append_left _ (List.mem_append_left _ (h.excluded name hname))

theorem Valid.load (h : base.Valid) {decode : Toml.Decoder} {w : Workspace} {root : Path}
    {warnings : List ConfigWarning} (hload : load decode w root base = .ok (c, warnings)) : c.Valid := by
  unfold Config.load at hload
  cases hsettings : w.settings decode root with
  | error e =>
    rw [hsettings] at hload
    cases hload
  | ok found =>
    rw [hsettings] at hload
    simp only [bind, Except.bind] at hload
    split at hload
    · cases hload
      exact h
    · cases hload
      exact h.ofTable found.1

end Config

end Ripple
