import Ripple.Proofs.Graph.Edit

/-! Graphs, in the order in which they were built.

What can be asked of a graph is a list to which each edit adds its own share, unless it is there already
(`foldl_apply_eq`). So an assembled graph lists its modules in the order of the scans
(`modules_assemble`), those that were not parsed among them (`unparsed_assemble`), and who depends on a module
in this order too (`dependents_assemble_ordered`). Both directions of an edge are there
(`mem_dependencies_assemble`). -/
namespace Ripple

namespace GraphEdit

/-- The modules that the edit names, in order. -/
def named : GraphEdit → List ModuleId
  | node id _ => [id]
  | edge source target => if source = target then [] else [source, target]
  | dangling _ _ => []

/-- The module that the edit lets depend on `b`. -/
def sourceTo (b : ModuleId) : GraphEdit → List ModuleId
  | edge source target => if source ≠ target ∧ target = b then [source] else []
  | _ => []

/-- The module that the edit says was not parsed. -/
def failing : GraphEdit → List ModuleId
  | node id parsed => if parsed then [] else [id]
  | _ => []

end GraphEdit

namespace Graph

/-! ### One edit -/

theorem modules_apply (g : Graph) (e : GraphEdit) : (g.apply e).modules = e.named.foldl addNew g.modules := by
  cases e with
  | node id parsed => exact OrderedMap.keys_insertNew ..
  | edge source target =>
    simp only [apply, addEdge, GraphEdit.named]
    split
    · rfl
    · simp only [modules, OrderedMap.keys_insertNew, OrderedMap.keys_update, List.foldl_cons, List.foldl_nil]
  | dangling importer dotted =>
    simp only [apply, addDangling]
    split <;> rfl

theorem dependents_apply (b : ModuleId) (g : Graph) (e : GraphEdit) :
    (g.apply e).dependents b = (e.sourceTo b).foldl addNew (g.dependents b) := by
  cases e with
  | node id parsed => exact OrderedMap.getD_insertNew_nil ..
  | edge source target =>
    simp only [apply, addEdge, GraphEdit.sourceTo]
    by_cases hself : source = target
    · simp [hself]
    · simp only [hself, if_false, dependents, OrderedMap.getD_insertNew_nil, OrderedMap.getD_update_nil,
        ne_eq, not_false_eq_true, true_and, eq_comm (a := b)]
      split <;> rfl
  | dangling importer dotted =>
    simp only [apply, addDangling]
    split <;> rfl

theorem unparsed_apply (g : Graph) (e : GraphEdit) :
    (g.apply e).unparsed = e.failing.foldl addNew g.unparsed := by
  cases e with
  | node id parsed => cases parsed <;> rfl
  | edge source target =>
    simp only [apply, addEdge]
    split <;> rfl
  | dangling importer dotted =>
    simp only [apply, addDangling]
    split <;> rfl

theorem mem_dependencies_apply (a b : ModuleId) (g : Graph) (e : GraphEdit) :
    b ∈ (g.apply e).dependencies a ↔ b ∈ g.dependencies a ∨ e.Links a b := by
  cases e with
  | node id parsed => simp [apply, addModule, dependencies, OrderedMap.getD_insertNew_nil, GraphEdit.Links]
  | edge source target =>
    simp only [apply, addEdge, GraphEdit.Links, GraphEdit.edge.injEq]
    split
    · grind
    · simp only [dependencies, OrderedMap.getD_insertNew_nil, OrderedMap.getD_update_nil]
      grind [mem_addNew]
  | dangling importer dotted =>
    have hsame : (g.addDangling importer dotted).dependencies a = g.dependencies a := by
      unfold addDangling
      split <;> rfl
    simp [apply, hsame, GraphEdit.Links]

/-! ### Any number of edits -/

theorem foldl_apply_eq {V : Graph → List ModuleId} {share : GraphEdit → List ModuleId}
    (step : ∀ g e, V (g.apply e) = (share e).foldl addNew (V g)) (edits : List GraphEdit) (g : Graph) :
    V (edits.foldl apply g) = (edits.flatMap share).foldl addNew (V g) := by
  induction edits generalizing g with
  | nil => rfl
  | cons e rest ih => rw [List.foldl_cons, ih, step, List.flatMap_cons, List.foldl_append]

theorem modules_ofEdits (edits : List GraphEdit) :
    (ofEdits edits).modules = (edits.flatMap GraphEdit.named).foldl addNew [] :=
  foldl_apply_eq (V := modules) modules_apply edits ∅

theorem dependents_ofEdits (edits : List GraphEdit) (b : ModuleId) :
    (ofEdits edits).dependents b = (edits.flatMap (GraphEdit.sourceTo b)).foldl addNew [] :=
  foldl_apply_eq (V := (dependents · b)) (dependents_apply b) edits ∅

theorem unparsed_ofEdits (edits : List GraphEdit) :
    (ofEdits edits).unparsed = (edits.flatMap GraphEdit.failing).foldl addNew [] :=
  foldl_apply_eq (V := unparsed) unparsed_apply edits ∅

/-- **Both directions of an edge are there, or none.** -/
theorem mem_dependencies_ofEdits (edits : List GraphEdit) (a b : ModuleId) :
    b ∈ (ofEdits edits).dependencies a ↔ a ∈ (ofEdits edits).dependents b := by
  rw [mem_dependents_ofEdits, ofEdits,
    foldl_apply_iff (P := (b ∈ dependencies · a)) (mem_dependencies_apply a b)]
  simp [dependencies, show (∅ : Graph).forward = ∅ from rfl]

end Graph

/-! ### Assembled graphs -/

theorem mem_dependencies_assemble (scans : List ModuleScan) (a b : ModuleId) :
    b ∈ (assemble scans).dependencies a ↔ a ∈ (assemble scans).dependents b := by
  rw [assemble_eq_ofEdits, Graph.mem_dependencies_ofEdits]

/-- What the edits of the scans share out: first the modules, then what the scans found. -/
theorem flatMap_edits (share : GraphEdit → List ModuleId) (scans : List ModuleScan) :
    (scans.map (fun s => GraphEdit.node s.id s.parsed) ++ scans.flatMap ModuleScan.edits).flatMap share =
      scans.flatMap (fun s => share (.node s.id s.parsed)) ++
        scans.flatMap fun s => s.edits.flatMap share := by
  rw [List.flatMap_append, List.flatMap_map, List.flatMap_assoc]

namespace ModuleScan

theorem mem_edits {s : ModuleScan} {e : GraphEdit} (he : e ∈ s.edits) :
    (∃ t ∈ s.edges, e = .edge s.id t) ∨ ∃ t ∈ s.dangling, e = .dangling s.id t := by
  rcases List.mem_append.mp he with he | he
  · obtain ⟨t, ht, rfl⟩ := List.mem_map.mp he
    exact .inl ⟨t, ht, rfl⟩
  · obtain ⟨t, ht, rfl⟩ := List.mem_map.mp he
    exact .inr ⟨t, ht, rfl⟩

/-- Beside its module a scan names those that it depends on. -/
theorem mem_named {s : ModuleScan} {id : ModuleId} (h : id ∈ s.edits.flatMap GraphEdit.named) :
    id = s.id ∨ id ∈ s.edges := by
  obtain ⟨e, he, hid⟩ := List.mem_flatMap.mp h
  rcases mem_edits he with ⟨t, ht, rfl⟩ | ⟨t, _, rfl⟩
  · rw [GraphEdit.named] at hid
    split at hid
    · cases hid
    · rw [List.mem_cons, List.mem_singleton] at hid
      rcases hid with rfl | rfl
      · exact .inl rfl
      · exact .inr ht
  · cases hid

/-- A scan lets no other module depend on one than its own. -/
theorem eq_of_mem_sourceTo {s : ModuleScan} {a b : ModuleId}
    (h : a ∈ s.edits.flatMap (GraphEdit.sourceTo b)) : a = s.id := by
  obtain ⟨e, he, ha⟩ := List.mem_flatMap.mp h
  rcases mem_edits he with ⟨t, ht, rfl⟩ | ⟨t, _, rfl⟩
  · rw [GraphEdit.sourceTo] at ha
    split at ha
    · exact List.mem_singleton.mp ha
    · cases ha
  · cases ha

theorem failing_edits (s : ModuleScan) : s.edits.flatMap GraphEdit.failing = [] := by
  rw [List.flatMap_eq_nil_iff]
  intro e he
  rcases mem_edits he with ⟨t, _, rfl⟩ | ⟨t, _, rfl⟩ <;> rfl

end ModuleScan

section Assemble
variable {scans : List ModuleScan}

/-- The modules are those that were scanned, each where it first came, if no edge leads elsewhere. -/
theorem modules_assemble_eq_foldl (hedges : ∀ s ∈ scans, ∀ t ∈ s.edges, t ∈ scans.map (·.id)) :
    (assemble scans).modules = (scans.map (·.id)).foldl addNew [] := by
  have hlater : ∀ id ∈ scans.flatMap fun s => s.edits.flatMap GraphEdit.named,
      id ∈ (scans.map (·.id)).foldl addNew [] := by
    intro id hid
    rw [mem_foldl_addNew]
    obtain ⟨s, hs, hid⟩ := List.mem_flatMap.mp hid
    rcases ModuleScan.mem_named hid with rfl | ht
    · exact .inr (List.mem_map_of_mem hs)
    · exact .inr (hedges s hs id ht)
  have hnodes : (scans.flatMap fun s => GraphEdit.named (.node s.id s.parsed)) = scans.map (·.id) :=
    List.map_eq_flatMap.symm
  rw [assemble_eq_ofEdits, Graph.modules_ofEdits, flatMap_edits, hnodes, List.foldl_append,
    foldl_addNew_of_subset hlater]

/-- **The modules are those that were scanned, in this order**, if no edge leads elsewhere. -/
theorem modules_assemble (hids : (scans.map (·.id)).Nodup)
    (hedges : ∀ s ∈ scans, ∀ t ∈ s.edges, t ∈ scans.map (·.id)) :
    (assemble scans).modules = scans.map (·.id) := by
  rw [modules_assemble_eq_foldl hedges]
  exact foldl_addNew_of_nodup hids

theorem flatMap_failing (scans : List ModuleScan) :
    scans.flatMap (fun s => GraphEdit.failing (.node s.id s.parsed)) =
      (scans.filter (!·.parsed)).map (·.id) := by
  induction scans with
  | nil => rfl
  | cons s rest ih =>
    rw [List.flatMap_cons, ih, GraphEdit.failing]
    cases hparsed : s.parsed <;> simp [hparsed]

/-- **The modules that were not parsed are listed in the order of the scans.** -/
theorem unparsed_assemble (hids : (scans.map (·.id)).Nodup) :
    (assemble scans).unparsed = (scans.filter (!·.parsed)).map (·.id) := by
  have hnodup : ((scans.filter (!·.parsed)).map (·.id)).Nodup := hids.sublist (List.filter_sublist.map _)
  have hmodules : ((scans.filter (!·.parsed)).map (·.id)).foldl addNew [] =
      (scans.filter (!·.parsed)).map (·.id) :=
    foldl_addNew_of_nodup hnodup
  have hlater : (scans.flatMap fun s => s.edits.flatMap GraphEdit.failing) = [] :=
    List.flatMap_eq_nil_iff.mpr fun s _ => s.failing_edits
  rw [assemble_eq_ofEdits, Graph.unparsed_ofEdits, flatMap_edits, flatMap_failing, hlater, List.append_nil,
    hmodules]

/-- Who depends on a module comes from the scans in their order. -/
theorem dependents_assemble (scans : List ModuleScan) (b : ModuleId) :
    (assemble scans).dependents b =
      (scans.flatMap fun s => s.edits.flatMap (GraphEdit.sourceTo b)).foldl addNew [] := by
  have hnodes : (scans.flatMap fun s => GraphEdit.sourceTo b (.node s.id s.parsed)) = [] :=
    List.flatMap_eq_nil_iff.mpr fun _ _ => rfl
  rw [assemble_eq_ofEdits, Graph.dependents_ofEdits, flatMap_edits, hnodes, List.nil_append]

/-- **Who depends on a module is listed in the order of the scans.** -/
theorem dependents_assemble_ordered {r : ModuleId → ModuleId → Prop} (h : (scans.map (·.id)).Pairwise r)
    (b : ModuleId) : ((assemble scans).dependents b).Pairwise r := by
  rw [dependents_assemble]
  refine foldl_addNew_ordered .nil (List.pairwise_flatMap.mpr ⟨fun s _ => ?_, ?_⟩)
  · -- a module can come for several edges of its scan, one after the other
    refine List.pairwise_of_forall_mem_list fun a ha a' ha' => .inl ?_
    rw [ModuleScan.eq_of_mem_sourceTo ha, ModuleScan.eq_of_mem_sourceTo ha']
  · refine (List.pairwise_map.mp h).imp fun hr a ha a' ha' => .inr ?_
    rwa [ModuleScan.eq_of_mem_sourceTo ha, ModuleScan.eq_of_mem_sourceTo ha']

end Assemble

end Ripple
