import Ripple.Files.Lookup
import Ripple.Proofs.OrderedMap
import Ripple.Proofs.Path.Names

/-! Trees as a file system keeps them.

The entries of a folder have different names, and each name can stand in a path
(`FileTree.WellFormed`). Whatever lies in such a tree is one too (`WellFormed.find`), and it stays one
when something is put into it or removed from it (`WellFormed.put`, `WellFormed.remove`). What a path leads to is
what the tree stores under the place of the path (`find_eq_ok_iff`). -/
namespace Ripple.FileTree

/-- In every folder names are proper, and no name is given twice. -/
inductive WellFormed : FileTree → Prop
  | file (bytes : List UInt8) : WellFormed (.file bytes)
  | link (target : String) : WellFormed (.link target)
  | folder {entries : List (String × FileTree)} (names : (entries.map Prod.fst).Nodup)
      (proper : ∀ e ∈ entries, Path.IsProper e.1) (trees : ∀ e ∈ entries, WellFormed e.2) :
      WellFormed (.folder entries)

/-! ### What a path leads to -/

section Find
variable {t found : FileTree} {p : Path}

theorem find_eq_ok_iff :
    t.find p = .ok found ↔ ∃ place, t.locate p = .ok place ∧ t.stored? place = some found := by
  unfold FileTree.find
  cases t.locate p with
  | error e => simp [bind, Except.bind]
  | ok place => cases hstored : t.stored? place <;> simp [bind, Except.bind, hstored]

theorem isPresent_iff : t.isPresent p = true ↔ ∃ found, t.find p = .ok found := by
  unfold FileTree.isPresent
  cases t.find p <;> simp

theorem isFolderAt_iff : t.isFolderAt p = true ↔ ∃ entries, t.find p = .ok (folder entries) := by
  unfold FileTree.isFolderAt
  cases t.find p with
  | error e => simp
  | ok found => cases found <;> simp

theorem isFileAt_iff : t.isFileAt p = true ↔ ∃ bytes, t.find p = .ok (file bytes) := by
  unfold FileTree.isFileAt
  cases t.find p with
  | error e => simp
  | ok found => cases found <;> simp

end Find

namespace WellFormed
variable {t new : FileTree} {names : List String} {name : String}

theorem nil : WellFormed (.folder []) := .folder .nil (by simp) (by simp)

theorem entries (h : t.WellFormed) : (t.entries.map Prod.fst).Nodup ∧
    ∀ e ∈ t.entries, Path.IsProper e.1 ∧ e.2.WellFormed := by
  cases h with
  | file bytes => exact ⟨.nil, by simp [FileTree.entries]⟩
  | link target => exact ⟨.nil, by simp [FileTree.entries]⟩
  | folder hnames hproper htrees => exact ⟨hnames, fun e he => ⟨hproper e he, htrees e he⟩⟩

theorem of_entries {entries : List (String × FileTree)} (hnames : (entries.map Prod.fst).Nodup)
    (h : ∀ e ∈ entries, Path.IsProper e.1 ∧ e.2.WellFormed) : WellFormed (.folder entries) :=
  .folder hnames (fun e he => (h e he).1) fun e he => (h e he).2

theorem child? {below : FileTree} (h : t.WellFormed) (hc : t.child? name = some below) : below.WellFormed :=
  (h.entries.2 _ ((OrderedMap.lookup_eq_some_iff_mem h.entries.1 name below).mp hc)).2

/-- What is stored in a well-formed tree is well-formed. -/
theorem stored? {found : FileTree} (h : t.WellFormed) (hf : t.stored? names = some found) :
    found.WellFormed := by
  induction names generalizing t with
  | nil => exact Option.some.inj hf ▸ h
  | cons name rest ih =>
    obtain ⟨below, hbelow, hf⟩ := Option.bind_eq_some_iff.mp hf
    exact ih (h.child? hbelow) hf

/-- Whatever is stored in a well-formed tree is stored under proper names. -/
theorem proper_stored? {found : FileTree} (h : t.WellFormed) (hf : t.stored? names = some found) :
    ∀ n ∈ names, Path.IsProper n := by
  induction names generalizing t with
  | nil => simp
  | cons name rest ih =>
    obtain ⟨below, hbelow, hf⟩ := Option.bind_eq_some_iff.mp hf
    have hentry : (name, below) ∈ t.entries :=
      (OrderedMap.lookup_eq_some_iff_mem h.entries.1 name below).mp hbelow
    exact List.forall_mem_cons.mpr ⟨(h.entries.2 _ hentry).1, ih (h.child? hbelow) hf⟩

theorem find {p : Path} {found : FileTree} (h : t.WellFormed) (hf : t.find p = .ok found) :
    found.WellFormed := by
  obtain ⟨place, _, hstored⟩ := find_eq_ok_iff.mp hf
  exact h.stored? hstored

/-! ### Changing a tree -/

theorem putChild (h : t.WellFormed) (hname : Path.IsProper name) (hnew : new.WellFormed) :
    (t.putChild name new).WellFormed := by
  obtain ⟨hnames, hentries⟩ := h.entries
  unfold FileTree.putChild
  split
  · have hsame : (t.entries.map fun e => if e.1 = name then (name, new) else e).map Prod.fst =
        t.entries.map Prod.fst := by
      rw [List.map_map]
      refine List.map_congr_left fun e _ => ?_
      simp only [Function.comp_apply]
      split
      · next he => exact he.symm
      · rfl
    refine of_entries (hsame ▸ hnames) fun e he => ?_
    obtain ⟨old, hold, rfl⟩ := List.mem_map.mp he
    split
    · exact ⟨hname, hnew⟩
    · exact hentries old hold
  · next hnone =>
    have hfresh : name ∉ t.entries.map Prod.fst := by
      intro hm
      obtain ⟨e, he, rfl⟩ := List.mem_map.mp hm
      refine hnone ?_
      rw [FileTree.child?, (OrderedMap.lookup_eq_some_iff_mem hnames e.1 e.2).mpr he]
      rfl
    refine of_entries ?_ fun e he => ?_
    · rw [List.map_append, List.nodup_append]
      refine ⟨hnames, by simp, fun x hx y hy hxy => ?_⟩
      obtain rfl := List.mem_singleton.mp hy
      exact hfresh (hxy ▸ hx)
    · rcases List.mem_append.mp he with he | he
      · exact hentries e he
      · rw [List.mem_singleton] at he
        exact he ▸ ⟨hname, hnew⟩

/-- A tree stays well-formed when a well-formed tree is put into it. -/
theorem put (h : t.WellFormed) (hnames : ∀ n ∈ names, Path.IsProper n) (hnew : new.WellFormed) :
    (t.put names new).WellFormed := by
  induction names generalizing t with
  | nil => exact hnew
  | cons name rest ih =>
    refine h.putChild (hnames name (List.mem_cons_self ..)) ?_
    refine ih ?_ fun n hn => hnames n (List.mem_cons_of_mem _ hn)
    cases hc : t.child? name with
    | none => exact .nil
    | some below => exact h.child? hc

/-- A tree stays well-formed when something is removed from it. -/
theorem remove (h : t.WellFormed) (hnames : ∀ n ∈ names, Path.IsProper n) : (t.remove names).WellFormed := by
  induction names generalizing t with
  | nil => exact .nil
  | cons name rest ih =>
    cases rest with
    | nil =>
      obtain ⟨hdistinct, hentries⟩ := h.entries
      exact of_entries (hdistinct.sublist (List.filter_sublist.map _)) fun e he =>
        hentries e (List.mem_filter.mp he).1
    | cons next rest =>
      rw [FileTree.remove]
      split
      · next below hc =>
        exact h.putChild (hnames name (List.mem_cons_self ..))
          (ih (h.child? hc) fun n hn => hnames n (List.mem_cons_of_mem _ hn))
      · exact h
      · simp

end WellFormed

end Ripple.FileTree
