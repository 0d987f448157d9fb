import Ripple.CommandLine.Command
import Ripple.Proofs.Config

/-! What a command line can ask for.

A number that an accepted command line asks for is in range, whatever other values were given for it before
(`RunOptions.least_le_of_number?`), and no option changes the folders that are left out
(`RunOptions.excluded_foldl_set`). So the settings that an accepted command line lays over those of a project keep
them valid (`overrides_valid`). -/
namespace Ripple.CommandLine

/-! ### Settings of a run -/

namespace RunOptions
variable {settings : List RunSetting} {o : RunOptions}

theorem le_of_atLeast {least n : Int} {text : String} (h : atLeast least text = some n) : least ≤ n :=
  of_decide_eq_true (Option.filter_eq_some_iff.mp h).2

/-- A number that can be used is in range. -/
theorem least_le_of_number? {setting : NumberSetting} {found : Option Int} (h : number? setting settings = some found) :
    ∀ n ∈ found, setting.least ≤ n := by
  unfold number? at h
  split at h
  · cases h
    simp
  · obtain ⟨n, hn, rfl⟩ := Option.map_eq_some_iff.mp h
    intro m hm
    exact Option.mem_some.mp hm ▸ le_of_atLeast hn

theorem excluded_set (o : RunOptions) (x : RunSetting) : (o.set x).overrides.excluded = o.overrides.excluded := by
  cases x <;> rfl

theorem excluded_foldl_set (settings : List RunSetting) (o : RunOptions) :
    (settings.foldl set o).overrides.excluded = o.overrides.excluded := by
  induction settings generalizing o with
  | nil => rfl
  | cons x rest ih => exact (ih (o.set x)).trans (o.excluded_set x)

/-- What settings come to has numbers in range and leaves the folders as they are. -/
structure InRange (o : RunOptions) : Prop where
  maxCount : ∀ n ∈ o.overrides.maxCount, 0 ≤ n
  distanceLimit : ∀ n ∈ o.overrides.distanceLimit, 0 ≤ n
  jobs : ∀ n ∈ o.overrides.jobs, 1 ≤ n
  excluded : o.overrides.excluded = .none

theorem inRange_of_ofSettings? (h : ofSettings? settings = some o) : o.InRange := by
  obtain ⟨maxCount, hmaxCount, h⟩ := Option.bind_eq_some_iff.mp h
  obtain ⟨distanceLimit, hdistanceLimit, h⟩ := Option.bind_eq_some_iff.mp h
  obtain ⟨jobs, hjobs, h⟩ := Option.bind_eq_some_iff.mp h
  cases h
  exact ⟨least_le_of_number? hmaxCount, least_le_of_number? hdistanceLimit, least_le_of_number? hjobs,
    excluded_foldl_set settings none⟩

end RunOptions

/-! ### Accepted command lines -/

theorem Command.ofSetting?_ne_run (x : RunSetting) (o : RunOptions) : ofSetting? x ≠ some (.run o) := by
  cases x <;> simp [ofSetting?]

/-- The options of an accepted run are what its settings come to, and its order is known. -/
theorem exists_settings_of_ofWords? {words : List String} {o : RunOptions}
    (h : Command.ofWords? words = some (.run o)) :
    (∃ settings, RunOptions.ofSettings? settings = some o) ∧ Command.knownOrder o = true := by
  obtain ⟨⟨settings, rest⟩, _, h⟩ := Option.bind_eq_some_iff.mp h
  simp only at h
  split at h
  · next hasked =>
    cases h
    obtain ⟨x, _, hx⟩ := List.exists_of_findSome?_eq_some hasked
    exact absurd hx (Command.ofSetting?_ne_run x o)
  · obtain ⟨o', hsettings, h⟩ := Option.bind_eq_some_iff.mp h
    unfold Command.ofOptions? at h
    split at h
    · split at h
      · next hknown =>
        cases h
        exact ⟨⟨settings, hsettings⟩, hknown⟩
      · cases h
    · -- the word behind the options asks for another command
      obtain ⟨⟨more, files⟩, _, h⟩ := Option.bind_eq_some_iff.mp h
      simp only at h
      split at h
      · cases h
      · split at h <;> cases h
    · cases h

/-- **An accepted command line keeps the settings of a project valid**, and its folders as they are. -/
theorem overrides_valid {words : List String} {o : RunOptions} (h : Command.ofWords? words = some (.run o)) :
    o.overrides.Valid ∧ o.overrides.excluded = none := by
  obtain ⟨⟨settings, hsettings⟩, hknown⟩ := exists_settings_of_ofWords? h
  have hrange := RunOptions.inRange_of_ofSettings? hsettings
  refine ⟨⟨hrange.maxCount, hrange.distanceLimit, hrange.jobs, ?_, by simp [hrange.excluded]⟩, hrange.excluded⟩
  intro text htext
  unfold Command.knownOrder at hknown
  rw [Option.mem_def.mp htext] at hknown
  exact hknown

end Ripple.CommandLine
