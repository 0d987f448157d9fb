import Mathlib
import Ripple.Proofs.Graph.Order

/-! The parts of a graph stay in step.

Each edge edit adds one pair of modules, unless the two are the same (`GraphEdit.link?`). Both directions list
just the pairs that were added, in the order in which they first came (`dependencies_ofEdits_eq`,
`dependents_ofEdits_eq`), so the edges counted forwards, the edges counted backwards and the different pairs
are equally many (`length_edges`, `length_edgesBack`). Whatever the edits are, nothing gets out of step
(`edits_keep_graph_in_step`). -/
namespace Ripple

namespace GraphEdit

/-- The two modules that the edit links, the importing one first. -/
def link? : GraphEdit → Option (ModuleId × ModuleId)
  | edge source target => if source = target then none else some (source, target)
  | _ => none

/-- The module that the edit lets `a` depend on. -/
def targetFrom (a : ModuleId) : GraphEdit → List ModuleId
  | edge source target => if source ≠ target ∧ source = a then [target] else []
  | _ => []

theorem link?_eq_some_iff (e : GraphEdit) (a b : ModuleId) : e.link? = some (a, b) ↔ a ≠ b ∧ e = edge a b := by
  cases e with
  | node id parsed => simp [link?]
  | edge source target =>
    rw [link?]
    split
    · next h => grind
    · next h => grind
  | dangling importer dotted => simp [link?]

end GraphEdit

/-- The pairs of modules that edits link, in order and as often as they are linked. -/
def linksOf (edits : List GraphEdit) : List (ModuleId × ModuleId) := edits.filterMap GraphEdit.link?

theorem mem_linksOf (edits : List GraphEdit) (a b : ModuleId) :
    (a, b) ∈ linksOf edits ↔ a ≠ b ∧ .edge a b ∈ edits := by
  simp only [linksOf, List.mem_filterMap, GraphEdit.link?_eq_some_iff]
  constructor
  · intro h
    obtain ⟨e, he, hne, rfl⟩ := h
    exact ⟨hne, he⟩
  · exact fun h => ⟨_, h.2, h.1, rfl⟩

theorem flatMap_targetFrom (edits : List GraphEdit) (a : ModuleId) :
    edits.flatMap (GraphEdit.targetFrom a) = ((linksOf edits).filter (·.1 = a)).map (·.2) := by
  induction edits with
  | nil => rfl
  | cons e rest ih =>
    rw [List.flatMap_cons, ih, linksOf, linksOf, List.filterMap_cons]
    cases e with
    | edge source target => grind [GraphEdit.targetFrom, GraphEdit.link?]
    | _ => rfl

theorem flatMap_sourceTo (edits : List GraphEdit) (b : ModuleId) :
    edits.flatMap (GraphEdit.sourceTo b) = ((linksOf edits).filter (·.2 = b)).map (·.1) := by
  induction edits with
  | nil => rfl
  | cons e rest ih =>
    rw [List.flatMap_cons, ih, linksOf, linksOf, List.filterMap_cons]
    cases e with
    | edge source target => grind [GraphEdit.sourceTo, GraphEdit.link?]
    | _ => rfl

namespace Graph

/-! ### One edit -/

theorem dependencies_apply (a : ModuleId) (g : Graph) (e : GraphEdit) :
    (g.apply e).dependencies a = (e.targetFrom a).foldl addNew (g.dependencies a) := by
  cases e with
  | node id parsed => exact OrderedMap.getD_insertNew_nil ..
  | edge source target =>
    simp only [apply, addEdge, GraphEdit.targetFrom]
    by_cases hself : source = target
    · simp [hself]
    · simp only [hself, if_false, dependencies, OrderedMap.getD_insertNew_nil, OrderedMap.getD_update_nil,
        ne_eq, not_false_eq_true, true_and, eq_comm (a := a)]
      split <;> rfl
  | dangling importer dotted =>
    simp only [apply, addDangling]
    split <;> rfl

/-- The backward direction gets the modules that the forward direction gets. -/
theorem mem_reverse_apply (id : ModuleId) (g : Graph) (e : GraphEdit) :
    id ∈ (g.apply e).reverse.keys ↔ id ∈ g.reverse.keys ∨ e.Names id := by
  cases e with
  | node m parsed =>
    simp only [apply, addModule, OrderedMap.mem_keys_insertNew, GraphEdit.Names]
    rw [or_comm, eq_comm]
  | edge source target =>
    simp only [apply, addEdge, GraphEdit.Names]
    split
    · next h => simp [h]
    · next h =>
      simp only [OrderedMap.mem_keys_insertNew, OrderedMap.mem_keys_update]
      grind
  | dangling importer dotted =>
    have hsame : (g.addDangling importer dotted).reverse = g.reverse := by
      unfold addDangling
      split <;> rfl
    simp [apply, hsame, GraphEdit.Names]

/-- A name that is asked for in vain leaves modules, edges and marks alone. -/
theorem addDangling_eq (g : Graph) (importer : ModuleId) (dotted : String) :
    ∃ dangling, g.addDangling importer dotted = { g with dangling := dangling } := by
  unfold addDangling
  split
  · exact ⟨g.dangling, rfl⟩
  · exact ⟨_, rfl⟩

/-! ### Any number of edits -/

section Edits
variable (edits : List GraphEdit)

theorem mem_modules_ofEdits (m : ModuleId) : m ∈ (ofEdits edits).modules ↔ ∃ e ∈ edits, e.Names m := by
  rw [← contains_ofEdits, contains, OrderedMap.contains_iff, modules]

theorem mem_reverse_ofEdits (m : ModuleId) :
    m ∈ (ofEdits edits).reverse.keys ↔ ∃ e ∈ edits, e.Names m := by
  rw [ofEdits, foldl_apply_iff (P := (m ∈ ·.reverse.keys)) (mem_reverse_apply m)]
  simp [show (∅ : Graph).reverse = ∅ from rfl]

/-- **What a module depends on is listed as it was first linked.** -/
theorem dependencies_ofEdits_eq (a : ModuleId) :
    (ofEdits edits).dependencies a = (((linksOf edits).filter (·.1 = a)).map (·.2)).eraseDups := by
  rw [ofEdits, foldl_apply_eq (V := (dependencies · a)) (dependencies_apply a), flatMap_targetFrom]
  exact foldl_addNew_eq_eraseDups _

/-- **Who depends on a module is listed as it was first linked.** -/
theorem dependents_ofEdits_eq (b : ModuleId) :
    (ofEdits edits).dependents b = (((linksOf edits).filter (·.2 = b)).map (·.1)).eraseDups := by
  rw [dependents_ofEdits, flatMap_sourceTo, foldl_addNew_eq_eraseDups]

theorem nodup_dependencies_ofEdits (a : ModuleId) : ((ofEdits edits).dependencies a).Nodup := by
  rw [dependencies_ofEdits_eq, ← foldl_addNew_eq_eraseDups]
  exact nodup_foldl_addNew _

theorem nodup_dependents_ofEdits (b : ModuleId) : ((ofEdits edits).dependents b).Nodup := by
  rw [dependents_ofEdits_eq, ← foldl_addNew_eq_eraseDups]
  exact nodup_foldl_addNew _

theorem mem_dependents_iff_edge (a b : ModuleId) :
    a ∈ (ofEdits edits).dependents b ↔ a ≠ b ∧ .edge a b ∈ edits := by
  rw [mem_dependents_ofEdits]
  constructor
  · intro h
    obtain ⟨_, he, rfl, hne⟩ := h
    exact ⟨hne, he⟩
  · exact fun h => ⟨_, h.2, rfl, h.1⟩

theorem mem_unparsed_ofEdits (m : ModuleId) : m ∈ (ofEdits edits).unparsed ↔ .node m false ∈ edits := by
  rw [unparsed_ofEdits, mem_foldl_addNew]
  simp only [List.not_mem_nil, false_or, List.mem_flatMap]
  constructor
  · intro h
    obtain ⟨e, he, hm⟩ := h
    cases e with
    | node id parsed =>
      cases parsed with
      | true => cases hm
      | false => exact List.mem_singleton.mp hm ▸ he
    | edge source target => cases hm
    | dangling importer dotted => cases hm
  · exact fun h => ⟨_, h, List.mem_singleton_self m⟩

/-- **The modules are those that were added, and the ends of links.** -/
theorem mem_modules_iff_edit (m : ModuleId) :
    m ∈ (ofEdits edits).modules ↔ (∃ parsed, .node m parsed ∈ edits) ∨
      ∃ other, m ≠ other ∧ (.edge m other ∈ edits ∨ .edge other m ∈ edits) := by
  rw [mem_modules_ofEdits]
  constructor
  · intro h
    obtain ⟨e, he, hm⟩ := h
    cases e with
    | node id parsed =>
      obtain rfl : id = m := hm
      exact .inl ⟨parsed, he⟩
    | edge source target =>
      obtain ⟨hne, rfl | rfl⟩ := hm
      · exact .inr ⟨target, hne, .inl he⟩
      · exact .inr ⟨source, hne.symm, .inr he⟩
    | dangling importer dotted => exact hm.elim
  · intro h
    rcases h with ⟨parsed, he⟩ | ⟨other, hne, he | he⟩
    · exact ⟨_, he, rfl⟩
    · exact ⟨_, he, hne, .inl rfl⟩
    · exact ⟨_, he, hne.symm, .inr rfl⟩

/-- A module that was once added unparsed stays so. -/
theorem isParsed_ofEdits_iff (m : ModuleId) :
    (ofEdits edits).isParsed m = true ↔ m ∈ (ofEdits edits).modules ∧ .node m false ∉ edits := by
  rw [← mem_unparsed_ofEdits]
  simp [isParsed, contains, modules]

end Edits

/-! ### Counting edges -/

/-- The edges, from each module to what it imports. -/
def edges (g : Graph) : List (ModuleId × ModuleId) := g.modules.flatMap fun a => (g.dependencies a).map (a, ·)

/-- The edges, from each module to who imports it. -/
def edgesBack (g : Graph) : List (ModuleId × ModuleId) := g.modules.flatMap fun b => (g.dependents b).map (·, b)

theorem edgeCount_eq (g : Graph) : g.edgeCount = g.edges.length := by
  rw [edgeCount, OrderedMap.values_eq_map_keys g.forward [], List.length_flatten, List.map_map, edges,
    List.length_flatMap]
  simp only [List.length_map]
  rfl

theorem length_edgesBack_eq (g : Graph) : g.edgesBack.length = (g.modules.map (g.dependents · |>.length)).sum := by
  rw [edgesBack, List.length_flatMap]
  simp only [List.length_map]

/-- Rows without repeats, put together so that every pair tells its row, have no repeats. -/
theorem nodup_rows {ids : List ModuleId} {row : ModuleId → List ModuleId}
    {pair : ModuleId → ModuleId → ModuleId × ModuleId}
    (hpair : ∀ {a b c d}, pair a b = pair c d → a = c ∧ b = d) (hids : ids.Nodup) (hrow : ∀ a, (row a).Nodup) :
    (ids.flatMap fun a => (row a).map (pair a)).Nodup := by
  refine List.pairwise_flatMap.mpr ⟨fun a _ => ?_, hids.imp fun hne x hx y hy hxy => ?_⟩
  · exact List.pairwise_map.mpr ((hrow a).imp fun hne he => hne (hpair he).2)
  · obtain ⟨_, _, rfl⟩ := List.mem_map.mp hx
    obtain ⟨_, _, rfl⟩ := List.mem_map.mp hy
    exact hne (hpair hxy).1

section Edits
variable (edits : List GraphEdit)

theorem mem_edges_ofEdits (e : ModuleId × ModuleId) : e ∈ (ofEdits edits).edges ↔ e ∈ linksOf edits := by
  obtain ⟨a, b⟩ := e
  simp only [edges, List.mem_flatMap, List.mem_map, mem_dependencies_ofEdits, mem_dependents_iff_edge, mem_linksOf]
  constructor
  · intro h
    obtain ⟨_, _, _, hlink, he⟩ := h
    cases he
    exact hlink
  · intro h
    exact ⟨a, (mem_modules_ofEdits ..).mpr ⟨_, h.2, h.1, .inl rfl⟩, b, h, rfl⟩

theorem mem_edgesBack_ofEdits (e : ModuleId × ModuleId) :
    e ∈ (ofEdits edits).edgesBack ↔ e ∈ linksOf edits := by
  obtain ⟨a, b⟩ := e
  simp only [edgesBack, List.mem_flatMap, List.mem_map, mem_dependents_iff_edge, mem_linksOf]
  constructor
  · intro h
    obtain ⟨_, _, _, hlink, he⟩ := h
    cases he
    exact hlink
  · intro h
    exact ⟨b, (mem_modules_ofEdits ..).mpr ⟨_, h.2, h.1, .inr rfl⟩, a, h, rfl⟩

/-- A list of the links, each once, is as long as any other. -/
theorem length_eq_of_mem_linksOf {pairs : List (ModuleId × ModuleId)} (hpairs : pairs.Nodup)
    (h : ∀ e, e ∈ pairs ↔ e ∈ linksOf edits) : pairs.length = (linksOf edits).eraseDups.length := by
  have hlinks : (linksOf edits).eraseDups.Nodup := by
    rw [← foldl_addNew_eq_eraseDups]
    exact nodup_foldl_addNew _
  refine ((List.perm_ext_iff_of_nodup hpairs hlinks).mpr fun e => ?_).length_eq
  rw [h, List.mem_eraseDups]

theorem length_edges : (ofEdits edits).edges.length = (linksOf edits).eraseDups.length :=
  length_eq_of_mem_linksOf edits
    (nodup_rows Prod.mk.inj (ofEdits edits).forward.nodup (nodup_dependencies_ofEdits edits))
    (mem_edges_ofEdits edits)

theorem length_edgesBack : (ofEdits edits).edgesBack.length = (linksOf edits).eraseDups.length :=
  length_eq_of_mem_linksOf edits
    (nodup_rows (fun he => (Prod.mk.inj he).symm) (ofEdits edits).forward.nodup
      (nodup_dependents_ofEdits edits))
    (mem_edgesBack_ofEdits edits)

end Edits

end Graph

/-- **Whatever edits build a graph, its parts stay in step**: the same modules on both sides, each link in both
directions and in the order in which it first came, every different link counted once, and a module parsed
unless an edit said otherwise. -/
theorem edits_keep_graph_in_step (edits : List GraphEdit) :
    let g := Graph.ofEdits edits
    (∀ m, m ∈ g.forward.keys ↔ m ∈ g.reverse.keys) ∧
      (∀ a b, (b ∈ g.dependencies a ↔ a ∈ g.dependents b) ∧
        (a ∈ g.dependents b ↔ a ≠ b ∧ .edge a b ∈ edits)) ∧
      (∀ a, (g.dependencies a).Nodup ∧
        g.dependencies a = (((linksOf edits).filter (·.1 = a)).map (·.2)).eraseDups) ∧
      (∀ b, (g.dependents b).Nodup ∧
        g.dependents b = (((linksOf edits).filter (·.2 = b)).map (·.1)).eraseDups) ∧
      g.edgeCount = (linksOf edits).eraseDups.length ∧
      g.edgeCount = (g.modules.map (g.dependents · |>.length)).sum ∧
      (∀ m, m ∈ g.modules ↔ (∃ parsed, .node m parsed ∈ edits) ∨
        ∃ other, m ≠ other ∧ (.edge m other ∈ edits ∨ .edge other m ∈ edits)) ∧
      (∀ importer dotted, let g' := g.addDangling importer dotted
        g'.modules = g.modules ∧ ∀ m, g'.dependencies m = g.dependencies m ∧
          g'.dependents m = g.dependents m ∧ g'.isParsed m = g.isParsed m) ∧
      ∀ m, g.isParsed m = true ↔ m ∈ g.modules ∧ .node m false ∉ edits := by
  intro g
  have hback := (Graph.length_edgesBack_eq g).symm.trans (Graph.length_edgesBack edits)
  have hforward := (Graph.edgeCount_eq g).trans (Graph.length_edges edits)
  refine ⟨fun m => ?_, fun a b => ⟨Graph.mem_dependencies_ofEdits edits a b, Graph.mem_dependents_iff_edge edits a b⟩,
    fun a => ⟨Graph.nodup_dependencies_ofEdits edits a, Graph.dependencies_ofEdits_eq edits a⟩,
    fun b => ⟨Graph.nodup_dependents_ofEdits edits b, Graph.dependents_ofEdits_eq edits b⟩, hforward,
    hforward.trans hback.symm, Graph.mem_modules_iff_edit edits, fun importer dotted => ?_,
    Graph.isParsed_ofEdits_iff edits⟩
  · exact (Graph.mem_modules_ofEdits edits m).trans (Graph.mem_reverse_ofEdits edits m).symm
  · obtain ⟨dangling, hdangling⟩ := Graph.addDangling_eq g importer dotted
    simp only [hdangling]
    exact ⟨rfl, fun m => ⟨rfl, rfl, rfl⟩⟩

end Ripple
