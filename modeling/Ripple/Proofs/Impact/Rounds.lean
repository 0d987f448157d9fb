import Ripple.Proofs.Graph.Edit
import Ripple.Proofs.Impact.Union

/-! Seeds that start far apart.

Every seed is known before the walk takes its first step, and modules are taken in round by round: the seeds
first, then their dependents, and so on, and within a round the nearer ones first (`NoLater`). A module is
reached by what comes first in this order (`impactOf_traced`), and a seed comes in the first round however far
it starts. A further seed may therefore hide a shorter way, to itself and to what lies behind it
(`far_seed_hides_shorter_way`); it does no harm in any graph exactly if it starts no more than one step beyond
every other seed or is left out by the limit (`new_seed_harmless_iff`). -/
namespace Ripple

/-! ### The order of the queue -/

/-- An earlier round, or the same round and no further away. -/
def NoLater (a b : Nat × Int) : Prop := a.1 < b.1 ∨ a.1 = b.1 ∧ a.2 ≤ b.2

theorem NoLater.refl (a : Nat × Int) : NoLater a a := .inr ⟨rfl, Int.le_refl _⟩

theorem NoLater.trans {a b c : Nat × Int} (hab : NoLater a b) (hbc : NoLater b c) : NoLater a c := by
  unfold NoLater at *
  omega

theorem NoLater.next {round round' : Nat} {x y : Int} (h : NoLater (round, x) (round', y)) :
    NoLater (round + 1, x + 1) (round' + 1, y + 1) := by
  unfold NoLater at *
  omega

/-- What is left to look at are the last modules reached, earlier rounds and nearer modules come first, and
nothing lies more than a round and a step beyond what is left. -/
structure Queued (round : ModuleId → Nat) (s : Impact × Frontier) : Prop where
  queued : s.2 <:+ s.1.distances.entries
  sorted : s.1.distances.entries.Pairwise fun e f => NoLater (round e.1, e.2) (round f.1, f.2)
  tight : ∀ e ∈ s.2, ∀ f ∈ s.1.distances.entries, NoLater (round f.1, f.2) (round e.1 + 1, e.2 + 1)

/-- Every module comes from a seed in the first round or from one it depends on in the round before, and what
has been looked at has led on, unless the limit was reached. -/
structure Traced (g : Graph) (seeds : Distances) (limit : Option Int) (round : ModuleId → Nat)
    (s : Impact × Frontier) : Prop where
  seeded : ∀ a k, seeds.get? a = some k → exceeds limit k = false →
    s.1.distances.get? a = some k ∧ round a = 0
  sound : ∀ m x, s.1.distances.get? m = some x →
    (seeds.get? m = some x ∧ exceeds limit x = false ∧ round m = 0) ∨
    ∃ p y, s.1.distances.get? p = some y ∧ m ∈ g.dependents p ∧ exceeds limit (y + 1) = false ∧
      round m = round p + 1 ∧ x = y + 1
  closed : ∀ p y, s.1.distances.get? p = some y → (p, y) ∈ s.2 ∨
    (exceeds limit (y + 1) = false → ∀ m ∈ g.dependents p,
      ∃ x, s.1.distances.get? m = some x ∧ NoLater (round m, x) (round p + 1, y + 1))

/-! ### The walk -/

theorem queued_plant (limit : Option Int) (seeds : Distances) : Queued (fun _ => 0) (plant limit seeds) where
  queued := by rw [plant_entries, plant_frontier]
  sorted := by
    rw [plant_entries]
    exact ((planted_sorted seeds).filter _).imp fun hle => .inr ⟨rfl, hle⟩
  tight e _ f _ := .inl Nat.zero_lt_one

theorem get?_plant (limit : Option Int) (seeds : Distances) (m : ModuleId) (x : Int) :
    (plant limit seeds).1.distances.get? m = some x ↔ seeds.get? m = some x ∧ exceeds limit x = false := by
  rw [OrderedMap.get?_eq_some_iff, OrderedMap.get?_eq_some_iff, plant_entries, List.mem_filter, mem_planted,
    Bool.not_eq_true']

theorem traced_plant (g : Graph) (seeds : Distances) (limit : Option Int) :
    Traced g seeds limit (fun _ => 0) (plant limit seeds) where
  seeded a k ha hk := ⟨(get?_plant ..).mpr ⟨ha, hk⟩, rfl⟩
  sound m x hm := by
    obtain ⟨hseed, hx⟩ := (get?_plant ..).mp hm
    exact .inl ⟨hseed, hx, rfl⟩
  closed p y hp := by
    rw [OrderedMap.get?_eq_some_iff, plant_entries] at hp
    rw [plant_frontier]
    exact .inl hp

section Step
variable {g : Graph} {seeds : Distances} {limit : Option Int} {round : ModuleId → Nat} {distance : Int}
  {ids fresh : List ModuleId} {r : Impact} {rest : Frontier} {id : ModuleId} {s s' : Impact × Frontier}

theorem Takes.get?_eq_some_iff (ht : Takes limit distance ids s s' fresh) (m : ModuleId) (x : Int) :
    s'.1.distances.get? m = some x ↔ s.1.distances.get? m = some x ∨ m ∈ fresh ∧ x = distance := by
  simpa only [OrderedMap.get?_eq_some_iff] using ht.mem_entries (m, x)

/-- The modules taken in by looking at `id` belong to the round after its own. -/
def nextRound (round : ModuleId → Nat) (id : ModuleId) (fresh : List ModuleId) (m : ModuleId) : Nat :=
  if m ∈ fresh then round id + 1 else round m

theorem nextRound_fresh {m : ModuleId} (h : m ∈ fresh) : nextRound round id fresh m = round id + 1 := if_pos h

/-- What was known keeps its round. -/
theorem nextRound_known (ht : Takes limit distance ids s s' fresh) {m : ModuleId} {x : Int}
    (hm : s.1.distances.get? m = some x) : nextRound round id fresh m = round m :=
  if_neg fun hf => ht.fresh_new m hf ((OrderedMap.mem_keys_iff ..).mpr ⟨x, hm⟩)

variable (round id) in
/-- An entry that was there keeps its place, and a new one stands one round and one step behind `id`. -/
theorem Takes.stage_of_mem (ht : Takes limit (distance + 1) ids s s' fresh) {e : ModuleId × Int}
    (he : e ∈ s'.1.distances.entries) :
    (e ∈ s.1.distances.entries ∧ nextRound round id fresh e.1 = round e.1) ∨
      e.1 ∈ fresh ∧ nextRound round id fresh e.1 = round id + 1 ∧ e.2 = distance + 1 := by
  rcases (ht.mem_entries e).mp he with hold | ⟨hnew, hdistance⟩
  · exact .inl ⟨hold, nextRound_known ht ((OrderedMap.get?_eq_some_iff ..).mpr hold)⟩
  · exact .inr ⟨hnew, nextRound_fresh hnew, hdistance⟩

theorem Queued.next (h : Queued round (r, (id, distance) :: rest))
    (ht : Takes limit (distance + 1) ids (r, rest) s' fresh) : Queued (nextRound round id fresh) s' := by
  have hfront : (id, distance) ∈ r.distances.entries := h.queued.subset (List.mem_cons_self ..)
  have hrest : ∀ e ∈ rest, e ∈ r.distances.entries ∧ NoLater (round id, distance) (round e.1, e.2) := fun e he =>
    ⟨h.queued.subset (List.mem_cons_of_mem _ he),
      (List.pairwise_cons.mp (h.sorted.sublist h.queued.sublist)).1 e he⟩
  have hkept : ∀ e ∈ r.distances.entries, nextRound round id fresh e.1 = round e.1 := fun e he =>
    nextRound_known ht ((OrderedMap.get?_eq_some_iff ..).mpr he)
  -- nothing lies behind the modules that come in now
  have hlast : ∀ f ∈ s'.1.distances.entries,
      NoLater (nextRound round id fresh f.1, f.2) (round id + 1, distance + 1) := by
    intro f hf
    rcases ht.stage_of_mem round id hf with ⟨hold, hround⟩ | ⟨_, hround, hdistance⟩
    · rw [hround]
      exact h.tight _ (List.mem_cons_self ..) f hold
    · rw [hround, hdistance]
      exact .refl _
  refine ⟨?_, ?_, ?_⟩
  · obtain ⟨done, hdone⟩ := h.queued
    refine ⟨done ++ [(id, distance)], ?_⟩
    rw [ht.entries, ht.frontier, ← hdone]
    simp
  · have hbefore := hlast
    rw [ht.entries] at hbefore ⊢
    rw [List.pairwise_append]
    refine ⟨h.sorted.imp_of_mem fun he hf hle => ?_, List.pairwise_map.mpr ?_, fun e he f hf => ?_⟩
    · rwa [hkept _ he, hkept _ hf]
    · refine List.pairwise_of_forall_mem_list fun a ha b hb => ?_
      rw [nextRound_fresh ha, nextRound_fresh hb]
      exact .refl _
    · obtain ⟨m, hm, rfl⟩ := List.mem_map.mp hf
      rw [nextRound_fresh hm]
      exact hbefore e (List.mem_append_left _ he)
  · intro e he f hf
    rw [ht.frontier, List.mem_append] at he
    rcases he with he | he
    · obtain ⟨hold, hle⟩ := hrest e he
      rw [hkept e hold]
      exact (hlast f hf).trans hle.next
    · obtain ⟨m, hm, rfl⟩ := List.mem_map.mp he
      rw [nextRound_fresh hm]
      exact (hlast f hf).trans (.inl (Nat.lt_succ_self _))

theorem Traced.next (h : Traced g seeds limit round (r, (id, distance) :: rest))
    (hq : Queued round (r, (id, distance) :: rest))
    (ht : Takes limit (distance + 1) (g.dependents id) (r, rest) s' fresh) :
    Traced g seeds limit (nextRound round id fresh) s' := by
  have hfront : r.distances.get? id = some distance :=
    (OrderedMap.get?_eq_some_iff ..).mpr (hq.queued.subset (List.mem_cons_self ..))
  have hkeep : ∀ {m x}, r.distances.get? m = some x →
      s'.1.distances.get? m = some x ∧ nextRound round id fresh m = round m := fun hm =>
    ⟨(ht.get?_eq_some_iff ..).mpr (.inl hm), nextRound_known ht hm⟩
  refine ⟨fun a k ha hk => ?_, fun m x hm => ?_, fun p y hp => ?_⟩
  · obtain ⟨hold, hround⟩ := h.seeded a k ha hk
    exact ⟨(hkeep hold).1, (hkeep hold).2.trans hround⟩
  · rcases (ht.get?_eq_some_iff ..).mp hm with hold | ⟨hnew, rfl⟩
    · rw [(hkeep hold).2]
      refine (h.sound m x hold).imp_right fun hparent => ?_
      obtain ⟨p, y, hp, hdep, hwithin, hround, hx⟩ := hparent
      exact ⟨p, y, (hkeep hp).1, hdep, hwithin, by rw [hround, (hkeep hp).2], hx⟩
    · refine .inr ⟨id, distance, (hkeep hfront).1, ht.fresh_mem m hnew, ht.within ?_, ?_, rfl⟩
      · exact List.ne_nil_of_mem hnew
      · rw [nextRound_fresh hnew, (hkeep hfront).2]
  · rcases (ht.get?_eq_some_iff ..).mp hp with hold | ⟨hnew, rfl⟩
    · rw [(hkeep hold).2]
      rcases h.closed p y hold with hleft | hdone
      · rcases List.mem_cons.mp hleft with hnow | hleft
        -- the module in front is looked at now
        · obtain ⟨rfl, rfl⟩ := Prod.mk.inj hnow
          refine .inr fun hwithin m hm => ?_
          rcases ht.covers hwithin m hm with hknown | hfresh
          · obtain ⟨x, hx⟩ := (OrderedMap.mem_keys_iff ..).mp hknown
            refine ⟨x, (hkeep hx).1, ?_⟩
            rw [(hkeep hx).2]
            exact hq.tight _ (List.mem_cons_self ..) (m, x) ((OrderedMap.get?_eq_some_iff ..).mp hx)
          · refine ⟨y + 1, (ht.get?_eq_some_iff ..).mpr (.inr ⟨hfresh, rfl⟩), ?_⟩
            rw [nextRound_fresh hfresh]
            exact .refl _
        · rw [ht.frontier]
          exact .inl (List.mem_append_left _ hleft)
      · refine .inr fun hwithin m hm => ?_
        obtain ⟨x, hx, hle⟩ := hdone hwithin m hm
        refine ⟨x, (hkeep hx).1, ?_⟩
        rwa [(hkeep hx).2]
    · rw [ht.frontier]
      exact .inl (List.mem_append_right _ (List.mem_map_of_mem hnew))

end Step

/-- **A walk goes round by round**, however far apart its seeds start. -/
theorem impactOf_traced (g : Graph) (seeds : Distances) (limit : Option Int) :
    ∃ round, Traced g seeds limit round (impactOf g seeds limit, []) := by
  suffices h : ∃ round, Queued round (impactOf g seeds limit, []) ∧
      Traced g seeds limit round (impactOf g seeds limit, []) from h.imp fun _ => And.right
  apply impactOf_induction (P := fun s => ∃ round, Queued round s ∧ Traced g seeds limit round s)
  · exact ⟨_, queued_plant limit seeds, traced_plant g seeds limit⟩
  · intro r id distance rest h
    obtain ⟨round, hq, ht⟩ := h
    obtain ⟨fresh, htakes⟩ := foldl_reach_takes limit (distance + 1) (g.dependents id) (r, rest)
    exact ⟨_, hq.next htakes, ht.next hq htakes⟩

/-! ### Walks that have ended -/

section Ended
variable {g : Graph} {seeds : Distances} {limit : Option Int} {round : ModuleId → Nat} {r : Impact}

/-- Every module is as many steps beyond some seed as its round says. -/
theorem Traced.exists_seed (h : Traced g seeds limit round (r, [])) {m : ModuleId} {x : Int}
    (hm : r.distances.get? m = some x) : ∃ a k, seeds.get? a = some k ∧ x = k + round m := by
  induction hn : round m generalizing m x with
  | zero =>
    rcases h.sound m x hm with ⟨hseed, _⟩ | ⟨p, y, _, _, _, hround, _⟩
    · exact ⟨m, x, hseed, by simp⟩
    · omega
  | succ n ih =>
    rcases h.sound m x hm with ⟨_, _, hround⟩ | ⟨p, y, hp, _, _, hround, rfl⟩
    · omega
    · obtain ⟨a, k, ha, rfl⟩ := ih hp (by omega)
      exact ⟨a, k, ha, by push_cast; omega⟩

/-- Within the limit a module leads on to all that depend on it, in the next round at the latest. -/
theorem Traced.leads (h : Traced g seeds limit round (r, [])) {p m : ModuleId} {y : Int}
    (hp : r.distances.get? p = some y) (hwithin : exceeds limit (y + 1) = false) (hm : m ∈ g.dependents p) :
    ∃ x, r.distances.get? m = some x ∧ NoLater (round m, x) (round p + 1, y + 1) :=
  (h.closed p y hp).elim (fun hleft => absurd hleft List.not_mem_nil) fun hdone => hdone hwithin m hm

end Ended

/-! ### One more seed -/

/-- Up to round `n` a further seed, starting at `d`, takes nothing away, and what it changes comes from it. -/
structure Settled (limit : Option Int) (d : Int) (before after : Distances) (round round' : ModuleId → Nat)
    (n : Nat) : Prop where
  kept : ∀ m x, before.get? m = some x → round m = n → ∃ y ≤ x, after.get? m = some y ∧ round' m ≤ n
  origin : ∀ m y, after.get? m = some y → round' m = n →
    (exceeds limit d = false ∧ y = d + n) ∨ ∃ x, before.get? m = some x ∧ NoLater (round m, x) (n, y)

section NewSeed
variable {g : Graph} {seeds : Distances} {limit : Option Int} {s : ModuleId} {d : Int} {before after : Impact}
  {round round' : ModuleId → Nat} {n : Nat}
  (hb : Traced g seeds limit round (before, []))
  (ha : Traced g (seeds.insert s d) limit round' (after, [])) (hs : s ∉ seeds.keys)
include hb ha hs

omit hb ha in
theorem get?_insert_known {m : ModuleId} {x : Int} (hm : seeds.get? m = some x) :
    (seeds.insert s d).get? m = some x := by
  have hne : m ≠ s := fun he => hs (he ▸ (OrderedMap.mem_keys_iff ..).mpr ⟨x, hm⟩)
  rw [OrderedMap.get?_insert, if_neg hne, hm]

omit hs in
theorem origin_next (ih : ∀ k < n, Settled limit d before.distances after.distances round round' k)
    {m : ModuleId} {y : Int} (hm : after.distances.get? m = some y) (hn : round' m = n) :
    (exceeds limit d = false ∧ y = d + n) ∨
      ∃ x, before.distances.get? m = some x ∧ NoLater (round m, x) (n, y) := by
  rcases ha.sound m y hm with ⟨hseed, hwithin, hfirst⟩ | ⟨p, z, hp, hdep, hwithin, hround, rfl⟩
  · obtain rfl : n = 0 := hn.symm.trans hfirst
    rw [OrderedMap.get?_insert] at hseed
    split at hseed
    · obtain rfl := Option.some.inj hseed
      exact .inl ⟨hwithin, by simp⟩
    · obtain ⟨hold, hround⟩ := hb.seeded m y hseed hwithin
      exact .inr ⟨y, hold, .inr ⟨hround, Int.le_refl _⟩⟩
  · have hlt : round' p < n := by omega
    rcases (ih _ hlt).origin p z hp rfl with ⟨hd, rfl⟩ | ⟨x, hx, hle⟩
    · exact .inl ⟨hd, by rw [← hn, hround]; push_cast; omega⟩
    · -- before, the parent came in the same round, for it is still there no later than it was
      have hsame : round p = round' p := by
        refine (hle.resolve_left fun hearlier => ?_).1
        obtain ⟨_, _, _, hkept⟩ := (ih _ (Nat.lt_trans hearlier hlt)).kept p x hx rfl
        simp only at hearlier
        omega
      have hnear : x ≤ z := by
        unfold NoLater at hle
        omega
      obtain ⟨x', hx', hle'⟩ := hb.leads hx (exceeds_of_le (by omega) hwithin) hdep
      refine .inr ⟨x', hx', hle'.trans (.inr ⟨?_, ?_⟩)⟩
      · rw [hsame, ← hn, hround]
      · exact Int.add_le_add_right hnear 1

theorem kept_next (ih : ∀ k < n, Settled limit d before.distances after.distances round round' k)
    (hd : exceeds limit d = false → ∀ a k, seeds.get? a = some k → d ≤ k + 1) {m : ModuleId} {x : Int}
    (hm : before.distances.get? m = some x) (hn : round m = n) :
    ∃ y ≤ x, after.distances.get? m = some y ∧ round' m ≤ n := by
  rcases hb.sound m x hm with ⟨hseed, hwithin, _⟩ | ⟨p, z, hp, hdep, hwithin, hround, rfl⟩
  · obtain ⟨hkept, hfirst⟩ := ha.seeded m x (get?_insert_known hs hseed) hwithin
    exact ⟨x, Int.le_refl _, hkept, hfirst ▸ Nat.zero_le n⟩
  · obtain ⟨z', hz, hp', hround'⟩ := (ih (round p) (by omega)).kept p z hp rfl
    obtain ⟨y, hy, hle⟩ := ha.leads hp' (exceeds_of_le (by omega) hwithin) hdep
    rcases Nat.lt_or_ge (round' m) n with hearlier | hlater
    · -- only the new seed brings a module to an earlier round
      refine ⟨y, ?_, hy, Nat.le_of_lt hearlier⟩
      rcases (ih _ hearlier).origin m y hy rfl with ⟨hplanted, rfl⟩ | ⟨x, _, hle⟩
      · obtain ⟨a, k, hk, hx⟩ := hb.exists_seed hm
        have := hd hplanted a k hk
        omega
      · unfold NoLater at hle
        omega
    · unfold NoLater at hle
      exact ⟨y, by omega, hy, by omega⟩

/-- **A new seed that starts no more than one step beyond the others settles round by round.** -/
theorem settled (hd : exceeds limit d = false → ∀ a k, seeds.get? a = some k → d ≤ k + 1) (n : Nat) :
    Settled limit d before.distances after.distances round round' n := by
  induction n using Nat.strongRecOn with
  | ind n ih =>
    exact ⟨fun m x hm hn => kept_next hb ha hs ih hd hm hn, fun m y hm hn => origin_next hb ha ih hm hn⟩

end NewSeed

/-- Starting `s` at `d` as well takes no module from the walk and puts none further away. -/
def Harmless (g : Graph) (seeds : Distances) (limit : Option Int) (s : ModuleId) (d : Int) : Prop :=
  ∃ before after, impactOf? g seeds limit = .ok before ∧ impactOf? g (seeds.insert s d) limit = .ok after ∧
    Within before.distances after.distances

/-- Where only `s` depends on `a`, and starts further away than by this, its start hides the shorter way. -/
theorem not_harmless_of_far {seeds : Distances} {limit : Option Int} {s a : ModuleId} {d k : Int}
    (hs : s ∉ seeds.keys) (hd : exceeds limit d = false) (ha : seeds.get? a = some k) (hfar : k + 1 < d) :
    ¬ Harmless (Graph.empty.addEdge s a) seeds limit s d := by
  intro h
  obtain ⟨before, after, hbefore, hafter, hwithin⟩ := h
  obtain rfl := (impactOf?_eq_ok_iff.mp hbefore).2
  obtain rfl := (impactOf?_eq_ok_iff.mp hafter).2
  obtain ⟨round, hb⟩ := impactOf_traced (Graph.empty.addEdge s a) seeds limit
  obtain ⟨round', hn⟩ := impactOf_traced (Graph.empty.addEdge s a) (seeds.insert s d) limit
  have hdependents : ∀ m p, m ∈ (Graph.empty.addEdge s a).dependents p ↔ s ≠ a ∧ m = s ∧ p = a := by
    intro m p
    rw [Graph.mem_dependents_addEdge]
    exact or_iff_right List.not_mem_nil
  have hne : s ≠ a := fun he => hs (he ▸ (OrderedMap.mem_keys_iff ..).mpr ⟨k, ha⟩)
  obtain ⟨hka, _⟩ := hb.seeded a k ha (exceeds_of_le (by omega) hd)
  obtain ⟨x, hx, _⟩ := hb.leads hka (exceeds_of_le (by omega) hd) ((hdependents s a).mpr ⟨hne, rfl, rfl⟩)
  have hway : x = k + 1 := by
    rcases hb.sound s x hx with ⟨hseed, _⟩ | ⟨p, y, hp, hdep, _, _, rfl⟩
    · exact absurd ((OrderedMap.mem_keys_iff ..).mpr ⟨x, hseed⟩) hs
    · obtain ⟨_, _, rfl⟩ := (hdependents s p).mp hdep
      rw [hka] at hp
      rw [Option.some.inj hp]
  obtain ⟨y, hy, hafter⟩ := hwithin s x hx
  obtain ⟨hstart, _⟩ := hn.seeded s d (by simp) hd
  rw [hstart] at hafter
  have := Option.some.inj hafter
  omega

/-- **A new seed takes nothing away in any graph exactly if it starts no more than one step beyond every other
seed**, or is left out by the limit. -/
theorem new_seed_harmless_iff {seeds : Distances} {limit : Option Int} {s : ModuleId}
    (hlimit : ∀ n ∈ limit, 0 ≤ n) (hs : s ∉ seeds.keys) (d : Int) :
    (∀ g, Harmless g seeds limit s d) ↔
      exceeds limit d = true ∨ ∀ a k, seeds.get? a = some k → d ≤ k + 1 := by
  constructor
  · intro h
    refine or_iff_not_imp_left.mpr fun hd a k ha => Int.not_lt.mp fun hfar => ?_
    exact not_harmless_of_far hs (Bool.eq_false_iff.mpr hd) ha hfar (h _)
  · intro hd g
    refine ⟨_, _, impactOf?_ok g _ hlimit, impactOf?_ok g _ hlimit, fun m x hm => ?_⟩
    obtain ⟨round, hb⟩ := impactOf_traced g seeds limit
    obtain ⟨round', ha⟩ := impactOf_traced g (seeds.insert s d) limit
    have hnear : exceeds limit d = false → ∀ a k, seeds.get? a = some k → d ≤ k + 1 := fun hplanted =>
      hd.resolve_left (by simp [hplanted])
    obtain ⟨y, hle, hy, _⟩ := (settled hb ha hs hnear (round m)).kept m x hm rfl
    exact ⟨y, hle, hy⟩

/-- Beside seeds at no distance and five steps away, one a step away does no harm, and one two steps away may. -/
theorem new_seed_harmless_a_step_away :
    let seeds : Distances := .ofList [("a.py", 0), ("b.py", 5)]
    (∀ n ∈ some (9 : Int), 0 ≤ n) ∧ "c.py" ∉ seeds.keys ∧
      (∀ g, Harmless g seeds (some 9) "c.py" 1) ∧ ¬ ∀ g, Harmless g seeds (some 9) "c.py" 2 := by
  intro seeds
  have hlimit : ∀ n ∈ some (9 : Int), 0 ≤ n := by decide
  have hs : "c.py" ∉ seeds.keys := by decide
  have hseeds : ∀ a k, seeds.get? a = some k → (a, k) ∈ [("a.py", (0 : Int)), ("b.py", 5)] := fun a k h =>
    OrderedMap.mem_of_get?_ofList h
  refine ⟨hlimit, hs, (new_seed_harmless_iff hlimit hs 1).mpr (.inr fun a k ha => ?_), fun h => ?_⟩
  · have hmem := hseeds a k ha
    simp only [List.mem_cons, Prod.mk.injEq, List.not_mem_nil, or_false] at hmem
    omega
  · rcases (new_seed_harmless_iff hlimit hs 2).mp h with hd | hd
    · exact absurd hd (by decide)
    · exact absurd (hd "a.py" 0 (by decide)) (by decide)

/-- Once `x.py` starts two steps away as well, it is no longer a step from `a.py`, and what imports it is out of
reach. -/
theorem far_seed_hides_shorter_way :
    let chain := (Graph.empty.addEdge "x.py" "a.py").addEdge "y.py" "x.py"
    let seeds : Distances := .ofList [("a.py", 0)]
    "x.py" ∉ seeds.keys ∧ ∃ before after, impactOf? chain seeds (some 2) = .ok before ∧
      impactOf? chain (seeds.insert "x.py" 2) (some 2) = .ok after ∧
      before.distances.entries = [("a.py", 0), ("x.py", 1), ("y.py", 2)] ∧
      after.distances.entries = [("a.py", 0), ("x.py", 2)] ∧ ¬ Within before.distances after.distances := by
  intro chain seeds
  have hbefore : (impactOf chain seeds (some 2)).distances.entries =
      [("a.py", 0), ("x.py", 1), ("y.py", 2)] := by cbv
  have hafter : (impactOf chain (seeds.insert "x.py" 2) (some 2)).distances.entries =
      [("a.py", 0), ("x.py", 2)] := by cbv
  refine ⟨by decide, _, _, rfl, rfl, hbefore, hafter, fun hwithin => ?_⟩
  obtain ⟨k, _, hk⟩ := hwithin "y.py" 2 (by rw [OrderedMap.get?_eq_some_iff, hbefore]; decide)
  rw [OrderedMap.get?_eq_some_iff, hafter] at hk
  simp at hk

end Ripple
