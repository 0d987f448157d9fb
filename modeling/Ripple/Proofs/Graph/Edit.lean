import Ripple.Project.Scan
import Ripple.Proofs.OrderedMap
import Ripple.Proofs.Text.Fields

/-! Graphs, as what has been done to them.

Whatever can be asked of a graph only grows while it is built, and each edit adds its own share
(`mem_dependents_apply`, `contains_apply`, `mem_askers_apply`). So a graph is told by the set of its
edits, in whatever order they came, and an assembled graph by its scans
(`mem_dependents_assemble`, `contains_assemble`, `mem_danglingImporters_assemble`). -/
namespace Ripple

/-- One change to a graph. -/
inductive GraphEdit where
  | node (id : ModuleId) (parsed : Bool)
  | edge (source target : ModuleId)
  | dangling (importer : ModuleId) (dotted : String)

namespace GraphEdit

/-- The edit lets `a` depend on `b`. -/
def Links (a b : ModuleId) (e : GraphEdit) : Prop := e = edge a b ∧ a ≠ b

/-- The edit brings the module `id` into the graph. -/
def Names (id : ModuleId) : GraphEdit → Prop
  | .node m _ => m = id
  | .edge source target => source ≠ target ∧ (source = id ∨ target = id)
  | .dangling _ _ => False

/-- The edit notes that `a` asked for `dotted` in vain. -/
def Asks (a : ModuleId) (dotted : String) (e : GraphEdit) : Prop := e = dangling a dotted ∧ dotted ≠ ""

end GraphEdit

namespace Graph

def apply (g : Graph) : GraphEdit → Graph
  | .node id parsed => g.addModule id parsed
  | .edge source target => g.addEdge source target
  | .dangling importer dotted => g.addDangling importer dotted

def ofEdits (edits : List GraphEdit) : Graph := edits.foldl apply ∅

/-- Who asked for just this name in vain. -/
def askers (g : Graph) (dotted : String) : List ModuleId := (g.dangling.get? dotted).getD []

/-- A name lies beneath another if it starts with all of its parts. -/
theorem liesBeneath_iff (dotted target : String) :
    liesBeneath dotted target = true ↔ Text.split '.' dotted <+: Text.split '.' target := by
  rw [liesBeneath, Bool.or_eq_true, beq_iff_eq, List.isPrefixOf_iff_prefix]
  constructor
  · intro h
    rcases h with rfl | ⟨rest, hrest⟩
    · exact List.prefix_rfl
    · have htarget : target = dotted ++ "." ++ .ofList rest := by
        rw [← String.toList_inj, ← hrest]
        simp
      rw [htarget, Text.split_append_separator rfl]
      exact List.prefix_append ..
  · intro h
    obtain ⟨rest, hrest⟩ := h
    have htarget : Text.join "." (Text.split '.' target) = target := Text.join_split rfl target
    rw [← hrest] at htarget
    by_cases hr : rest = []
    · rw [hr, List.append_nil, Text.join_split rfl] at htarget
      exact .inl htarget.symm
    · rw [Text.join_append (Text.split_ne_nil '.' dotted) hr, Text.join_split rfl] at htarget
      exact .inr ⟨(Text.join "." rest).toList, by simp [← htarget]⟩

theorem mem_danglingImporters (g : Graph) (dotted : String) (a : ModuleId) :
    a ∈ g.danglingImporters dotted ↔ ∃ t, liesBeneath dotted t = true ∧ a ∈ g.askers t := by
  simp only [danglingImporters, mem_foldl_addNew, List.not_mem_nil, false_or, List.mem_flatMap,
    List.mem_filter, askers]
  constructor
  · intro h
    obtain ⟨⟨t, importers⟩, ⟨he, ht⟩, ha⟩ := h
    refine ⟨t, ht, ?_⟩
    rw [(OrderedMap.get?_eq_some_iff ..).mpr he]
    exact ha
  · intro h
    obtain ⟨t, ht, ha⟩ := h
    cases hg : g.dangling.get? t with
    | none => simp [hg] at ha
    | some importers =>
      rw [hg] at ha
      exact ⟨(t, importers), ⟨(OrderedMap.get?_eq_some_iff ..).mp hg, ht⟩, ha⟩

/-! ### One edit -/

theorem mem_dependents_addEdge (g : Graph) (source target a b : ModuleId) :
    a ∈ (g.addEdge source target).dependents b ↔
      a ∈ g.dependents b ∨ source ≠ target ∧ a = source ∧ b = target := by
  unfold addEdge
  split
  · next h => simp [h]
  · next h =>
    simp only [dependents, OrderedMap.getD_insertNew_nil, OrderedMap.getD_update_nil]
    split
    · next hb => simp [hb, h]
    · next hb => simp [hb]

theorem mem_dependents_apply (a b : ModuleId) (g : Graph) (e : GraphEdit) :
    a ∈ (g.apply e).dependents b ↔ a ∈ g.dependents b ∨ e.Links a b := by
  cases e with
  | node id parsed => simp [apply, addModule, dependents, OrderedMap.getD_insertNew_nil, GraphEdit.Links]
  | edge source target =>
    rw [apply, mem_dependents_addEdge]
    simp only [GraphEdit.Links, GraphEdit.edge.injEq]
    constructor
    · intro hx
      rcases hx with h | ⟨hne, rfl, rfl⟩
      · exact .inl h
      · exact .inr ⟨⟨rfl, rfl⟩, hne⟩
    · intro hx
      rcases hx with h | ⟨⟨rfl, rfl⟩, hne⟩
      · exact .inl h
      · exact .inr ⟨hne, rfl, rfl⟩
  | dangling importer dotted =>
    have hsame : (g.addDangling importer dotted).dependents b = g.dependents b := by
      unfold addDangling
      split <;> rfl
    simp [apply, hsame, GraphEdit.Links]

theorem contains_apply (id : ModuleId) (g : Graph) (e : GraphEdit) :
    (g.apply e).contains id = true ↔ g.contains id = true ∨ e.Names id := by
  cases e with
  | node m parsed =>
    simp only [apply, addModule, contains, OrderedMap.contains_iff, OrderedMap.mem_keys_insertNew,
      GraphEdit.Names]
    rw [or_comm, eq_comm]
  | edge source target =>
    simp only [apply, addEdge, GraphEdit.Names]
    split
    · next h => simp [h]
    · next h =>
      simp only [contains, OrderedMap.contains_iff, OrderedMap.mem_keys_insertNew,
        OrderedMap.mem_keys_update]
      grind
  | dangling importer dotted =>
    have hsame : (g.addDangling importer dotted).contains id = g.contains id := by
      unfold addDangling
      split <;> rfl
    simp [apply, hsame, GraphEdit.Names]

theorem mem_askers_apply (a : ModuleId) (dotted : String) (g : Graph) (e : GraphEdit) :
    a ∈ (g.apply e).askers dotted ↔ a ∈ g.askers dotted ∨ e.Asks a dotted := by
  cases e with
  | node id parsed => simp [apply, addModule, askers, GraphEdit.Asks]
  | edge source target =>
    have hsame : (g.addEdge source target).askers dotted = g.askers dotted := by
      unfold addEdge
      split <;> rfl
    simp [apply, hsame, GraphEdit.Asks]
  | dangling importer name =>
    simp only [apply, addDangling, GraphEdit.Asks, GraphEdit.dangling.injEq]
    split
    · next h => grind
    · next h =>
      simp only [askers, OrderedMap.getD_update_nil]
      grind [mem_addNew]

/-! ### Any number of edits -/

/-- What each edit adds its share to is told by the edits, whatever their order. -/
theorem foldl_apply_iff {P : Graph → Prop} {Q : GraphEdit → Prop}
    (step : ∀ g e, P (g.apply e) ↔ P g ∨ Q e) (edits : List GraphEdit) (g : Graph) :
    P (edits.foldl apply g) ↔ P g ∨ ∃ e ∈ edits, Q e := by
  induction edits generalizing g with
  | nil => simp
  | cons e rest ih => simp only [List.foldl_cons, ih, step, List.mem_cons, exists_eq_or_imp, or_assoc]

theorem mem_dependents_ofEdits (edits : List GraphEdit) (a b : ModuleId) :
    a ∈ (ofEdits edits).dependents b ↔ ∃ e ∈ edits, e.Links a b := by
  rw [ofEdits, foldl_apply_iff (P := (a ∈ dependents · b)) (mem_dependents_apply a b)]
  simp [dependents, show (∅ : Graph).reverse = ∅ from rfl]

theorem contains_ofEdits (edits : List GraphEdit) (id : ModuleId) :
    (ofEdits edits).contains id = true ↔ ∃ e ∈ edits, e.Names id := by
  rw [ofEdits, foldl_apply_iff (P := (contains · id = true)) (contains_apply id)]
  simp [contains, show (∅ : Graph).forward = ∅ from rfl]

theorem mem_askers_ofEdits (edits : List GraphEdit) (a : ModuleId) (dotted : String) :
    a ∈ (ofEdits edits).askers dotted ↔ ∃ e ∈ edits, e.Asks a dotted := by
  rw [ofEdits, foldl_apply_iff (P := (a ∈ askers · dotted)) (mem_askers_apply a dotted)]
  simp [askers, show (∅ : Graph).dangling = ∅ from rfl]

end Graph

/-! ### Assembled graphs -/

/-- What a scan adds to a graph that has its module. -/
def ModuleScan.edits (s : ModuleScan) : List GraphEdit :=
  s.edges.map (.edge s.id) ++ s.dangling.map (.dangling s.id)

theorem assemble_eq_ofEdits (scans : List ModuleScan) :
    assemble scans =
      .ofEdits (scans.map (fun s => .node s.id s.parsed) ++ scans.flatMap ModuleScan.edits) := by
  have hscan : ∀ g s, Graph.addScan g s = s.edits.foldl Graph.apply g := by
    intro g s
    simp only [Graph.addScan, ModuleScan.edits, List.foldl_append, List.foldl_map]
    rfl
  simp only [assemble, Graph.ofEdits, List.foldl_append, List.foldl_map, List.foldl_flatMap, ← hscan]
  rfl

theorem mem_dependents_assemble (scans : List ModuleScan) (a b : ModuleId) :
    a ∈ (assemble scans).dependents b ↔ a ≠ b ∧ ∃ s ∈ scans, s.id = a ∧ b ∈ s.edges := by
  rw [assemble_eq_ofEdits, Graph.mem_dependents_ofEdits]
  simp only [GraphEdit.Links, ModuleScan.edits, List.mem_append, List.mem_map, List.mem_flatMap]
  constructor
  · intro hx
    obtain ⟨e, he, rfl, hne⟩ := hx
    rcases he with ⟨_, _, h⟩ | ⟨s, hs, ⟨t, ht, h⟩ | ⟨t, _, h⟩⟩
    · cases h
    · cases h
      exact ⟨hne, s, hs, rfl, ht⟩
    · cases h
  · intro hx
    obtain ⟨hne, s, hs, rfl, hb⟩ := hx
    exact ⟨_, .inr ⟨s, hs, .inl ⟨b, hb, rfl⟩⟩, rfl, hne⟩

theorem contains_assemble (scans : List ModuleScan) (id : ModuleId) :
    (assemble scans).contains id = true ↔
      ∃ s ∈ scans, s.id = id ∨ id ∈ s.edges := by
  rw [assemble_eq_ofEdits, Graph.contains_ofEdits]
  simp only [ModuleScan.edits, List.mem_append, List.mem_map, List.mem_flatMap]
  constructor
  · intro hx
    obtain ⟨e, he, hid⟩ := hx
    rcases he with ⟨s, hs, rfl⟩ | ⟨s, hs, ⟨t, ht, rfl⟩ | ⟨t, _, rfl⟩⟩
    · exact ⟨s, hs, .inl hid⟩
    · rcases hid.2 with h | h
      · exact ⟨s, hs, .inl h⟩
      · exact ⟨s, hs, .inr (h ▸ ht)⟩
    · exact hid.elim
  · intro hx
    obtain ⟨s, hs, h⟩ := hx
    by_cases hid : s.id = id
    · exact ⟨_, .inl ⟨s, hs, rfl⟩, hid⟩
    · have ht := h.resolve_left hid
      exact ⟨_, .inr ⟨s, hs, .inl ⟨id, ht, rfl⟩⟩, hid, .inr rfl⟩

theorem mem_danglingImporters_assemble (scans : List ModuleScan) (a : ModuleId) (dotted : String) :
    a ∈ (assemble scans).danglingImporters dotted ↔
      ∃ s ∈ scans, s.id = a ∧ ∃ t ∈ s.dangling, t ≠ "" ∧ Graph.liesBeneath dotted t = true := by
  rw [assemble_eq_ofEdits, Graph.mem_danglingImporters]
  simp only [Graph.mem_askers_ofEdits, GraphEdit.Asks, ModuleScan.edits, List.mem_append,
    List.mem_map, List.mem_flatMap]
  constructor
  · intro hx
    obtain ⟨t, hbeneath, e, he, rfl, hne⟩ := hx
    rcases he with ⟨_, _, h⟩ | ⟨s, hs, ⟨u, _, h⟩ | ⟨u, hu, h⟩⟩
    · cases h
    · cases h
    · cases h
      exact ⟨s, hs, rfl, t, hu, hne, hbeneath⟩
  · intro hx
    obtain ⟨s, hs, rfl, t, ht, hne, hbeneath⟩ := hx
    exact ⟨t, hbeneath, _, .inr ⟨s, hs, .inr ⟨t, ht, rfl⟩⟩, rfl, hne⟩

end Ripple
