import Ripple.Proofs.Source.ImportStatement
import Ripple.Source.Reading

/-! Trees of import statements.

A tree of an import statement has a node for each dotted name, with the text of the name as it stands, and one for
the points before the name of a module; what else is in the tree does not matter (`IsStatement`). So the imports of
the statement are read from it, in any spelling of names (`IsStatement.walk_eq`), and whatever makes such trees of
sources (`ReadsStatements`) can be relied on for them. -/
namespace Ripple.Source

/-! ### Names -/

/-- A node for a dotted name, with its text as it stands and a node for each identifier. -/
structure IsName (n : Dotted) (node : Node) : Prop where
  kind : node.kind = .dottedName
  text : node.text = n.verbatim
  identifiers : (node.ofKind .identifier).map Node.text = n.identifiers

/-- A spelling gives these texts to the nodes of origins and names. -/
structure Spelling.Gives (s : Spelling) (origin name : Dotted → String) : Prop where
  ofOrigin {n : Dotted} {node : Node} : IsName n node → s.origin node = origin n
  ofName {n : Dotted} {node : Node} : IsName n node → s.name node = name n
  notFeature {n : Dotted} : n.first.text ≠ Node.featureModule → origin n ≠ Node.featureModule
  notEmpty (n : Dotted) : name n ≠ ""

/-- A node for a name in a list. If the name is given another one, the node is for both, and holds one for the
name. -/
inductive IsItem : Renamed → Node → Prop
  | named {name : Dotted} {node : Node} (role : node.role = some .name) (h : IsName name node) :
    IsItem ⟨name, none⟩ node
  | renamed {name : Dotted} {other : Space × Space × Identifier} {node inner : Node} (role : node.role = some .name)
      (kind : node.kind = .aliased) (hinner : node.withRole .name = [inner]) (h : IsName name inner) :
    IsItem ⟨name, some other⟩ node

namespace IsItem
variable {n : Renamed} {node : Node}

theorem role (h : IsItem n node) : node.role = some .name := by cases h <;> assumption

theorem kind_ne_star (h : IsItem n node) : node.kind ≠ .star := by
  cases h with
  | named _ h =>
    rw [h.kind]
    decide
  | renamed _ kind _ _ =>
    rw [kind]
    decide

theorem nameText_eq {s : Spelling} {origin name : Dotted → String} (hs : s.Gives origin name) (h : IsItem n node) :
    node.nameText s = name n.name := by
  cases h with
  | named _ h =>
    rw [Node.nameText, if_neg (by rw [h.kind]; decide)]
    exact hs.ofName h
  | renamed _ kind hinner h =>
    rw [Node.nameText, if_pos kind, hinner]
    exact hs.ofName h

end IsItem

/-- What nodes for the names of a list import, in a spelling. -/
theorem texts_of_items {s : Spelling} {origin name : Dotted → String} (hs : s.Gives origin name)
    {items : List Renamed} {nodes : List Node} (h : List.Forall₂ IsItem items nodes) :
    (nodes.map (Node.nameText s)).filter (· != "") = items.map fun n => name n.name := by
  induction h with
  | nil => rfl
  | @cons n node items nodes hitem _ ih =>
    have hkept : (name n.name != "") = true := bne_iff_ne.mpr (hs.notEmpty n.name)
    rw [List.map_cons, hitem.nameText_eq hs, List.filter_cons_of_pos (p := (· != "")) hkept, ih, List.map_cons]

/-! ### Origins -/

/-- A node for points with perhaps a name behind them. The points have a node of their own, with their text as it
stands. -/
structure IsRelative (more : List Gap) (node : Node) : Prop where
  role : node.role = some .moduleName
  kind : node.kind = .relativeName
  dots : ∃ d, node.ofKind .dots = [d] ∧ d.text = .ofList (flat (points ([] :: more)))

/-- A node for the module that names are imported from. -/
inductive IsOrigin : Origin → Node → Prop
  | absolute {before after : Space} {name : Dotted} {node : Node} (role : node.role = some .moduleName)
      (h : IsName name node) : IsOrigin (.absolute before name after) node
  | relative {first before : Gap} {more : List Gap} {after : Space} {name : Dotted} {node inner : Node}
      (hpoints : IsRelative more node) (hinner : node.ofKind .dottedName = [inner]) (h : IsName name inner) :
    IsOrigin (.relative first more before name after) node
  | package {first after : Gap} {more : List Gap} {node : Node} (hpoints : IsRelative more node)
      (hinner : node.ofKind .dottedName = []) : IsOrigin (.package first more after) node

/-- There are as many points in the text of some points, whatever the gaps. -/
theorem count_flat_points (gaps : List Gap) : (flat (points gaps)).count '.' = gaps.length := by
  have hgap : ∀ gap : Gap, (Gap.chars gap).count '.' = 0 := by
    intro gap
    rw [List.count_eq_zero]
    intro hdot
    obtain ⟨m, _, hm⟩ := List.mem_flatMap.mp hdot
    revert hm
    cases m <;> decide
  rw [flat_points]
  induction gaps with
  | nil => rfl
  | cons gap gaps ih =>
    rw [List.flatMap_cons, List.count_append, List.count_append, hgap, ih, List.length_cons]
    simp [Nat.add_comm]

namespace IsRelative
variable {more : List Gap} {node : Node} {s : Spelling}

theorem origin_eq (h : IsRelative more node) :
    node.origin s = (more.length + 1, ((node.ofKind .dottedName).getLast?.map s.origin).getD "") := by
  obtain ⟨d, hdots, htext⟩ := h.dots
  rw [Node.origin, if_pos h.kind, hdots]
  refine congrArg (·, _) ?_
  show d.text.toList.count '.' = more.length + 1
  rw [htext, String.toList_ofList, count_flat_points, List.length_cons]

end IsRelative

namespace IsOrigin
variable {o : Origin} {node : Node}

theorem role (h : IsOrigin o node) : node.role = some .moduleName := by
  cases h with
  | absolute role _ => exact role
  | relative hpoints _ _ => exact hpoints.role
  | package hpoints _ => exact hpoints.role

theorem kind_ne_star (h : IsOrigin o node) : node.kind ≠ .star := by
  cases h with
  | absolute _ h =>
    rw [h.kind]
    decide
  | relative hpoints _ _ =>
    rw [hpoints.kind]
    decide
  | package hpoints _ =>
    rw [hpoints.kind]
    decide

theorem origin_eq {s : Spelling} {origin name : Dotted → String} (hs : s.Gives origin name) (h : IsOrigin o node) :
    node.origin s = (o.level, o.dotted origin) := by
  cases h with
  | absolute _ h =>
    rw [Node.origin, if_neg (by rw [h.kind]; decide), hs.ofOrigin h]
    rfl
  | relative hpoints hinner h =>
    rw [hpoints.origin_eq, hinner]
    exact congrArg (_, ·) (hs.ofOrigin h)
  | package hpoints hinner =>
    rw [hpoints.origin_eq, hinner]
    rfl

end IsOrigin

/-! ### Statements -/

/-- Nodes for what is imported from a module, which is a star or names. -/
inductive AreTargets : Targets → List Node → List Node → Prop
  | star {gap : Gap} {star : Node} : AreTargets (.star gap) [star] []
  | bare {space : Space} {l : NameList} {single : l.IsSingle} {names : List Node}
      (h : List.Forall₂ IsItem l.all names) : AreTargets (.bare space l single) [] names
  | enclosed {gap inner last : Gap} {l : NameList} {single : l.IsSingle} {comma : Option Gap} {names : List Node}
      (h : List.Forall₂ IsItem l.all names) : AreTargets (.enclosed gap inner l single comma last) [] names

/-- A node for an import statement on the first line. -/
inductive IsStatement : ImportStatement → Node → Prop
  | plain {space : Space} {l : NameList} {node : Node} (kind : node.kind = .plainImport) (line : node.line = 1)
      (hnames : List.Forall₂ IsItem l.all (node.withRole .name)) : IsStatement (.plain space l) node
  | fromModule {o : Origin} {t : Targets} {node module : Node} (kind : node.kind = .fromImport) (line : node.line = 1)
      (hmodule : node.withRole .moduleName = [module]) (horigin : IsOrigin o module)
      (htargets : AreTargets t (node.ofKind .star) (node.withRole .name)) : IsStatement (.fromModule o t) node

section Imports
variable {s : Spelling} {origin name : Dotted → String} (hs : s.Gives origin name)
include hs

theorem names_of_targets {t : Targets} {stars names : List Node} (h : AreTargets t stars names) :
    stars.map (fun _ => "*") ++ (names.map (Node.nameText s)).filter (· != "") = t.names name := by
  cases h with
  | star => rfl
  | bare h => exact texts_of_items hs h
  | enclosed h => exact texts_of_items hs h

theorem not_feature_of_origin {o : Origin} (ho : ¬o.IsFeature) :
    ¬(o.level = 0 ∧ o.dotted origin = Node.featureModule) := by
  rintro ⟨hlevel, hdotted⟩
  cases o with
  | absolute before n after => exact hs.notFeature ho hdotted
  | relative first more before n after => exact Nat.succ_ne_zero _ hlevel
  | package first more after => exact Nat.succ_ne_zero _ hlevel

/-- **A node for a statement imports what the statement does**, in any spelling of names. -/
theorem IsStatement.walk_eq {i : ImportStatement} (hi : ¬i.IsFeature) {node : Node} (h : IsStatement i node)
    (file : ModuleId) : Node.walk s file [node] = .ok (i.imports origin name file) := by
  cases h with
  | @plain space l node kind line hnames =>
    have himports : node.plainImports s file = l.all.map fun n => ⟨name n.name, 0, [], file, 1⟩ := by
      rw [Node.plainImports, Node.nameTexts, texts_of_items hs hnames, List.map_map, line]
      rfl
    rw [Node.walk, kind]
    simp only [Node.walk, himports, bind, Except.bind, pure, Except.pure, List.append_nil]
    rfl
  | @fromModule o t node module kind line hmodule horigin htargets =>
    have himport : node.fromImport? s file = some ⟨o.dotted origin, o.level, t.names name, file, 1⟩ := by
      rw [Node.fromImport?, hmodule, List.head?_cons, Option.bind_some, horigin.origin_eq hs]
      simp only
      rw [if_neg (not_feature_of_origin hs hi), Node.nameTexts, names_of_targets hs htargets, line]
    rw [Node.walk, kind]
    simp only [Node.walk, himport, bind, Except.bind, pure, Except.pure]
    rfl

end Imports

/-! ### Sources of one statement -/

/-- A tree that holds nothing but an import statement, and no error. -/
structure IsTreeOf (s : ImportStatement) (root : Node) : Prop where
  kind : root.kind = .statement
  sound : root.hasError = false
  statement : ∃ node, root.children = [node] ∧ IsStatement s node

/-- A reader makes trees of sources that are import statements, however they are spaced. -/
def ReadsStatements (read : List Char → Node) : Prop :=
  ∀ s : ImportStatement, ¬s.IsFeature → ∀ tail, tail = [] ∨ tail = ['\n'] → IsTreeOf s (read (s.chars ++ tail))

theorem IsTreeOf.imports_eq {s : ImportStatement} (hs : ¬s.IsFeature) {root : Node} (h : IsTreeOf s root)
    {origin name : Dotted → String} (hspelling : Spelling.verbatim.Gives origin name) (file : ModuleId) :
    root.imports file = .ok (s.imports origin name file) := by
  obtain ⟨node, hchildren, hstatement⟩ := h.statement
  rw [Node.imports, if_neg (ne_true_of_eq_false h.sound), Node.walk, h.kind, hchildren]
  exact hstatement.walk_eq hspelling hs file

end Ripple.Source
