/-! Maps that remember the order in which their keys came.

`OrderedMap` is a list of entries with distinct keys. A new key goes to the end; a known key keeps
its place and takes the new value. `OrderedMap.keys` is therefore the order of first insertion,
and `get?_insert` with `keys_insert` say all there is to say about `insert`. -/
namespace Ripple

structure OrderedMap (α β : Type) where
  entries : List (α × β)
  nodup : (entries.map Prod.fst).Nodup

namespace OrderedMap
variable {α β : Type} [DecidableEq α]

def keys (m : OrderedMap α β) : List α := m.entries.map Prod.fst

def values (m : OrderedMap α β) : List β := m.entries.map Prod.snd

def size (m : OrderedMap α β) : Nat := m.entries.length

def empty : OrderedMap α β := ⟨[], List.nodup_nil⟩

instance : EmptyCollection (OrderedMap α β) := ⟨empty⟩

instance : Inhabited (OrderedMap α β) := ⟨∅⟩

def get? (m : OrderedMap α β) (a : α) : Option β := m.entries.lookup a

def contains (m : OrderedMap α β) (a : α) : Bool := decide (a ∈ m.keys)

/-- Gives the entry of `a` the value `b`, where it stands. -/
def overwrite (a : α) (b : β) (entries : List (α × β)) : List (α × β) :=
  entries.map fun e => if e.1 = a then (e.1, b) else e

theorem map_fst_overwrite (a : α) (b : β) (entries : List (α × β)) :
    (overwrite a b entries).map Prod.fst = entries.map Prod.fst := by
  simp only [overwrite, List.map_map]
  apply List.map_congr_left
  intro e _
  simp only [Function.comp_apply]
  split <;> rfl

def insert (m : OrderedMap α β) (a : α) (b : β) : OrderedMap α β :=
  if h : a ∈ m.keys then
    ⟨overwrite a b m.entries, by rw [map_fst_overwrite]; exact m.nodup⟩
  else
    ⟨m.entries ++ [(a, b)], by
      rw [List.map_append, List.nodup_append]
      refine ⟨m.nodup, by simp, ?_⟩
      intro x hx y hy
      simp only [List.map_cons, List.map_nil, List.mem_singleton] at hy
      subst hy
      intro hxa
      exact h (hxa ▸ hx)⟩

/-- Puts `b` under `a` only if `a` is new. -/
def insertNew (m : OrderedMap α β) (a : α) (b : β) : OrderedMap α β :=
  if a ∈ m.keys then m else m.insert a b

/-- Replaces the value under `a`, or the value `d` it has by default. -/
def update (m : OrderedMap α β) (a : α) (d : β) (f : β → β) : OrderedMap α β :=
  m.insert a (f ((m.get? a).getD d))

def ofList (entries : List (α × β)) : OrderedMap α β :=
  entries.foldl (fun m e => m.insert e.1 e.2) ∅

theorem keys_insert (m : OrderedMap α β) (a : α) (b : β) :
    (m.insert a b).keys = if a ∈ m.keys then m.keys else m.keys ++ [a] := by
  unfold insert
  split
  · simp only [keys, map_fst_overwrite]
  · simp [keys]

theorem lookup_cons_eq (a x : α) (b : β) (entries : List (α × β)) :
    ((a, b) :: entries).lookup x = if x = a then some b else entries.lookup x := by
  rw [List.lookup_cons]
  by_cases h : x = a
  · simp [h]
  · rw [if_neg h, show (x == a) = false by simpa using h]

theorem lookup_overwrite (a x : α) (b : β) (entries : List (α × β)) :
    (overwrite a b entries).lookup x =
      if x = a ∧ a ∈ entries.map Prod.fst then some b else entries.lookup x := by
  induction entries with
  | nil => simp [overwrite]
  | cons e rest ih =>
    obtain ⟨k, v⟩ := e
    have step : overwrite a b ((k, v) :: rest) =
        (k, if k = a then b else v) :: overwrite a b rest := by
      by_cases hk : k = a <;> simp [overwrite, hk]
    rw [step, lookup_cons_eq, lookup_cons_eq, ih]
    simp only [List.map_cons, List.mem_cons]
    by_cases hx : x = k
    · subst hx
      by_cases hk : x = a
      · simp [hk]
      · simp [hk]
    · by_cases hxa : x = a
      · subst hxa
        by_cases hm : x ∈ rest.map Prod.fst <;> simp only [hx, hm, if_false, if_true, and_true, or_true,
          or_false, and_false]
      · simp only [hx, hxa, if_false, false_and]

theorem lookup_eq_none (x : α) (entries : List (α × β)) (h : x ∉ entries.map Prod.fst) :
    entries.lookup x = none := by
  induction entries with
  | nil => rfl
  | cons e rest ih =>
    simp only [List.map_cons, List.mem_cons, not_or] at h
    rw [lookup_cons_eq, if_neg h.1, ih h.2]

@[simp] theorem get?_insert (m : OrderedMap α β) (a x : α) (b : β) :
    (m.insert a b).get? x = if x = a then some b else m.get? x := by
  unfold insert get?
  split
  · next h =>
    rw [lookup_overwrite]
    by_cases hx : x = a
    · have h' : a ∈ m.entries.map Prod.fst := h
      simp [hx, h']
    · simp [hx]
  · next h =>
    rw [List.lookup_append, lookup_cons_eq]
    by_cases hx : x = a
    · subst hx
      rw [lookup_eq_none x m.entries h]
      simp
    · simp [hx]

theorem mem_keys_insert (m : OrderedMap α β) (a x : α) (b : β) :
    x ∈ (m.insert a b).keys ↔ x = a ∨ x ∈ m.keys := by
  rw [keys_insert]
  split
  · next h => exact ⟨.inr, fun hx => hx.elim (fun e => e ▸ h) id⟩
  · simp [or_comm]

end OrderedMap

/-- Adds an element at the end of a list that does not have it. -/
def addNew {α : Type} [DecidableEq α] (xs : List α) (x : α) : List α :=
  if x ∈ xs then xs else xs ++ [x]

end Ripple
