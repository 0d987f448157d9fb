import Mathlib
import Ripple.Source.Parser

/-! The walk through a syntax tree is a preorder.

`Node.walk` keeps the nodes that are still to be visited in a list and puts in front of them what the visited node
holds. The nodes it comes to are those of `preorder`, a recursion on the tree that leaves out what imports hold
(`mem_preorder_iff`), and it comes to them in that order: each node is taken as it would be alone
(`walk_cons`), so what a walk gives is gathered from the nodes in turn (`walk_eq_gather`). Hence the imports of a
tree follow its preorder, and their lines do not descend where those of the nodes do not
(`imports_follow_preorder`). -/
namespace Ripple.Source

/-- The kinds of the nodes in which no further statement is looked for. -/
def NodeKind.isImport : NodeKind → Bool
  | plainImport | fromImport | futureImport => true
  | _ => false

namespace Node

mutual

/-- The nodes of a tree from left to right, each before those that it holds; imports hold none. -/
def preorder : Node → List Node
  | n@⟨kind, _, _, _, _, _, children⟩ => n :: if kind.isImport then [] else preorders children

def preorders : List Node → List Node
  | [] => []
  | n :: rest => n.preorder ++ preorders rest

end

theorem preorder_eq (n : Node) : n.preorder = n :: if n.kind.isImport then [] else preorders n.children := by
  cases n
  rw [preorder]

theorem preorders_append (a b : List Node) : preorders (a ++ b) = preorders a ++ preorders b := by
  induction a with
  | nil => rfl
  | cons n rest ih => rw [List.cons_append, preorders, preorders, ih, List.append_assoc]

/-! ### The nodes in the order -/

/-- `n` is `root` or lies below it, with no import between the two or above. -/
inductive Outside : Node → Node → Prop
  | self (n : Node) : Outside n n
  | inner {root child n : Node} (through : root.kind.isImport = false) (held : child ∈ root.children)
      (inside : Outside child n) : Outside root n

theorem mem_preorders {n child : Node} {nodes : List Node} (hchild : child ∈ nodes) (hn : n ∈ child.preorder) :
    n ∈ preorders nodes := by
  induction nodes with
  | nil => cases hchild
  | cons first rest ih =>
    rw [preorders, List.mem_append]
    rcases List.mem_cons.mp hchild with rfl | hchild
    · exact .inl hn
    · exact .inr (ih hchild)

mutual

theorem outside_of_mem_preorder {n : Node} : ∀ root : Node, n ∈ root.preorder → Outside root n
  | ⟨kind, role, line, text, isMissing, hasError, children⟩, hn => by
    rw [preorder_eq] at hn
    rcases List.mem_cons.mp hn with rfl | hn
    · exact .self _
    · split at hn
      · cases hn
      · next hthrough =>
        obtain ⟨child, hchild, hinside⟩ := exists_outside_of_mem_preorders children hn
        exact .inner (Bool.not_eq_true _ ▸ hthrough) hchild hinside

theorem exists_outside_of_mem_preorders {n : Node} :
    ∀ nodes : List Node, n ∈ preorders nodes → ∃ child ∈ nodes, Outside child n
  | [], hn => by cases hn
  | first :: rest, hn => by
    rw [preorders, List.mem_append] at hn
    rcases hn with hn | hn
    · exact ⟨first, List.mem_cons_self .., outside_of_mem_preorder first hn⟩
    · obtain ⟨child, hchild, hinside⟩ := exists_outside_of_mem_preorders rest hn
      exact ⟨child, List.mem_cons_of_mem _ hchild, hinside⟩

end

/-- A preorder holds the nodes of a tree that are in no import, and no others. -/
theorem mem_preorder_iff {root n : Node} : n ∈ root.preorder ↔ Outside root n := by
  constructor
  · exact outside_of_mem_preorder root
  · intro h
    induction h with
    | self n =>
      rw [preorder_eq]
      exact List.mem_cons_self ..
    | @inner root child n through held _ ih =>
      rw [preorder_eq, through]
      exact List.mem_cons_of_mem _ (mem_preorders held ih)

/-! ### What is gathered from nodes in turn -/

/-- The imports that a node states itself. -/
def stated (s : Spelling) (file : ModuleId) (n : Node) : List Import :=
  match n.kind with
  | .plainImport => n.plainImports s file
  | .fromImport => (n.fromImport? s file).toList
  | _ => []

/-- The error that a node is if it is a statement no longer in the language. -/
def obsolete? (file : ModuleId) (n : Node) : Option SourceError :=
  (legacy? n.kind).map fun word => ⟨.legacyStatement word, file, some n.line⟩

/-- All that some nodes state, one after the other; or the first error among them. -/
def gather (s : Spelling) (file : ModuleId) (visited : List Node) : Except SourceError (List Import) :=
  match visited.findSome? (obsolete? file) with
  | some e => .error e
  | none => .ok (visited.flatMap (stated s file))

section Walk
variable (s : Spelling) (file : ModuleId)

theorem gather_cons (n : Node) (visited : List Node) :
    gather s file (n :: visited) = match obsolete? file n with
      | some e => .error e
      | none => (n.stated s file ++ ·) <$> gather s file visited := by
  unfold gather
  rw [List.findSome?_cons]
  cases obsolete? file n with
  | some e => rfl
  | none => cases visited.findSome? (obsolete? file) <;> rfl

/-- **One step of the walk**: the node in front is taken, and what it holds comes before the others. -/
theorem walk_cons (n : Node) (rest : List Node) :
    walk s file (n :: rest) = match obsolete? file n with
      | some e => .error e
      | none => (n.stated s file ++ ·) <$>
          walk s file ((if n.kind.isImport then [] else n.children) ++ rest) := by
  rw [walk]
  unfold obsolete? stated
  cases n.kind with
  | plainImport => rfl
  | fromImport => rfl
  | printStatement => rfl
  | execStatement => rfl
  | futureImport =>
    show walk s file rest = ([] ++ ·) <$> walk s file rest
    cases walk s file rest <;> rfl
  | _ =>
    show walk s file (n.children ++ rest) = ([] ++ ·) <$> walk s file (n.children ++ rest)
    cases walk s file (n.children ++ rest) <;> rfl

/-- **A walk gives what its nodes give in preorder.** -/
theorem walk_eq_gather (nodes : List Node) : walk s file nodes = gather s file (preorders nodes) := by
  -- each step takes one node away, so what is still to be visited gets lighter
  induction hweight : weights nodes using Nat.strongRecOn generalizing nodes with
  | ind weight ih =>
    cases nodes with
    | nil =>
      rw [walk]
      rfl
    | cons n rest =>
      have hlighter : weights ((if n.kind.isImport then [] else n.children) ++ rest) < weight := by
        rw [← hweight, weights_append, weights, weight_eq]
        split
        · rw [weights]
          omega
        · omega
      have horder : preorders (n :: rest) =
          n :: preorders ((if n.kind.isImport then [] else n.children) ++ rest) := by
        rw [preorders, preorder_eq, preorders_append]
        split <;> rfl
      rw [walk_cons, horder, gather_cons, ih _ hlighter _ rfl]

end Walk

/-! ### Places -/

theorem of_mem_stated {s : Spelling} {file : ModuleId} {n : Node} {i : Import} (h : i ∈ n.stated s file) :
    i.line = n.line ∧ i.file = file ∧ (n.kind = .plainImport ∨ n.kind = .fromImport) ∧
      (n.kind = .fromImport → ¬(i.level = 0 ∧ i.dotted = featureModule)) := by
  unfold stated at h
  split at h
  · next hkind =>
    obtain ⟨dotted, _, rfl⟩ := List.mem_map.mp h
    exact ⟨rfl, rfl, .inl hkind, fun hfrom => by rw [hkind] at hfrom; cases hfrom⟩
  · next hkind =>
    obtain ⟨module, _, hi⟩ := Option.bind_eq_some_iff.mp (Option.mem_toList.mp h)
    simp only at hi
    split at hi
    · cases hi
    · next hfeature =>
      obtain rfl := Option.some.inj hi
      exact ⟨rfl, rfl, .inr hkind, fun _ => hfeature⟩
  · cases h

/-- Where lines do not descend from node to node, they do not from import to import. -/
theorem lines_ascend {s : Spelling} {file : ModuleId} {visited : List Node}
    (h : visited.Pairwise fun a b => a.line ≤ b.line) :
    (visited.flatMap (stated s file)).Pairwise fun i j => i.line ≤ j.line := by
  refine List.pairwise_flatMap.mpr ⟨fun n _ => ?_, h.imp fun hle i hi j hj => ?_⟩
  · refine List.pairwise_of_forall_mem_list fun i hi j hj => ?_
    exact Nat.le_of_eq ((of_mem_stated hi).1.trans (of_mem_stated hj).1.symm)
  · rw [(of_mem_stated hi).1, (of_mem_stated hj).1]
    exact hle

/-- The imports that a plain statement states are named as its names are, from left to right. -/
theorem dotted_stated {s : Spelling} {file : ModuleId} {n : Node} (h : n.kind = .plainImport) :
    (n.stated s file).map (·.dotted) = n.nameTexts s := by
  rw [stated, h]
  show ((n.nameTexts s).map _).map _ = n.nameTexts s
  rw [List.map_map]
  exact List.map_id _

/-- **The imports of a tree without errors follow its preorder.** The walk comes to the nodes that are in no import,
however deep they are. The first `print` or `exec` statement among them is the error, with its line, and there are
no imports then; otherwise each node gives what it states itself, with its own line, and of switches for features
nothing is told. Where the lines of the nodes do not descend, those of the imports do not. -/
theorem imports_follow_preorder (file : ModuleId) {root : Node} (hclean : root.hasError = false) :
    (∀ n, n ∈ root.preorder ↔ Outside root n) ∧
    (root.imports file = match root.preorder.findSome? (obsolete? file) with
      | some e => .error e
      | none => .ok (root.preorder.flatMap (stated .verbatim file))) ∧
    (∀ n : Node, n.kind = .plainImport → (n.stated .verbatim file).map (·.dotted) = n.nameTexts .verbatim) ∧
    (∀ n : Node, ∀ i ∈ n.stated .verbatim file, i.line = n.line ∧ i.file = file ∧
      (n.kind = .plainImport ∨ n.kind = .fromImport) ∧
      (n.kind = .fromImport → ¬(i.level = 0 ∧ i.dotted = featureModule))) ∧
    (root.preorder.Pairwise (fun a b => a.line ≤ b.line) →
      ∀ imports, root.imports file = .ok imports → imports.Pairwise fun i j => i.line ≤ j.line) := by
  have himports : root.imports file = gather .verbatim file root.preorder := by
    have halone : preorders [root] = root.preorder := List.append_nil _
    rw [imports, if_neg (by simp [hclean]), walk_eq_gather, halone]
  refine ⟨fun n => mem_preorder_iff, himports, fun n => dotted_stated, fun n i => of_mem_stated, ?_⟩
  intro hlines imports hok
  rw [himports, gather] at hok
  split at hok
  · cases hok
  · obtain rfl := Except.ok.inj hok
    exact lines_ascend hlines

end Node

/-- A source with imports in a block, after it, and of a feature. -/
def importsInBlocks : List Char :=
  "if a:\n  try:\n    from .b import c, d\nimport e.f, g\nfrom __future__ import h\n".toList

/-- A source with an import before two statements that are no longer in the language. -/
def datedSource : List Char := "if a:\n  import b\n  print c\nexec 'd'\n".toList

theorem imports_of_blocks_follow_preorder :
    (tree importsInBlocks).hasError = false ∧ (tree datedSource).hasError = false ∧
      (tree importsInBlocks).imports "m.py" =
        .ok [⟨"b", 1, ["c", "d"], "m.py", 3⟩, ⟨"e.f", 0, [], "m.py", 4⟩, ⟨"g", 0, [], "m.py", 4⟩] ∧
      (tree datedSource).imports "m.py" = .error ⟨.legacyStatement "print", "m.py", some 3⟩ := by
  have hclean : (tree importsInBlocks).hasError = false := by cbv
  have hdated : (tree datedSource).hasError = false := by cbv
  obtain ⟨_, himports, _⟩ := Node.imports_follow_preorder "m.py" hclean
  obtain ⟨_, hfails, _⟩ := Node.imports_follow_preorder "m.py" hdated
  refine ⟨hclean, hdated, ?_, ?_⟩
  · rw [himports]
    cbv
  · rw [hfails]
    cbv

end Ripple.Source
