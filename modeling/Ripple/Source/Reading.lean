import Ripple.Source.Fault
import Ripple.Text.Compatibility

/-! The imports in a syntax tree.

A tree is walked from left to right, nodes before what they hold, and each statement that imports
something gives its imports; a `print` or `exec` statement on the way ends the walk. How a name is
spelled is a parameter (`Spelling`): as it stands in the source, or with each identifier in its
one spelling. -/
namespace Ripple.Source

structure Spelling where
  /-- The module that names are imported from. -/
  origin : Node → String
  /-- A name that is imported, or a module imported as such. -/
  name : Node → String

namespace Spelling

/-- As the source has it; only names lose their blanks. -/
def verbatim : Spelling := ⟨Node.text, fun n => Text.squeeze n.text⟩

def joined (n : Node) : String :=
  Text.join "." ((n.ofKind .identifier).map fun i => Text.compatible i.text)

/-- Identifiers in one spelling, with single points between them. -/
def normal : Spelling := ⟨joined, joined⟩

end Spelling

namespace Node

/-- The spelling of a name, or of the name that another is given for. -/
def nameText (s : Spelling) (n : Node) : String :=
  if n.kind = .aliased then ((n.withRole .name).head?.map s.name).getD "" else s.name n

def nameTexts (s : Spelling) (n : Node) : List String :=
  ((n.withRole .name).map (nameText s)).filter (· != "")

/-- The imports of a plain statement, one for each of its modules. -/
def plainImports (s : Spelling) (file : ModuleId) (n : Node) : List Import :=
  (n.nameTexts s).map fun dotted => ⟨dotted, 0, [], file, n.line⟩

/-- The number of dots and the name behind them. -/
def origin (s : Spelling) (n : Node) : Nat × String :=
  if n.kind = .relativeName then
    (((n.ofKind .dots).getLast?.map fun d => d.text.toList.count '.').getD 0,
      ((n.ofKind .dottedName).getLast?.map s.origin).getD "")
  else (0, s.origin n)

/-- A module that only switches features of the language on. -/
def featureModule : String := "__future__"

def fromImport? (s : Spelling) (file : ModuleId) (n : Node) : Option Import :=
  (n.withRole .moduleName).head?.bind fun module =>
    let (level, dotted) := module.origin s
    if level = 0 ∧ dotted = featureModule then none
    else
      let stars := (n.ofKind .star).map fun _ => "*"
      some ⟨dotted, level, stars ++ n.nameTexts s, file, n.line⟩

/-! ### Walks -/

mutual

def weight : Node → Nat
  | ⟨_, _, _, _, _, _, children⟩ => weights children + 1

def weights : List Node → Nat
  | [] => 0
  | n :: rest => n.weight + weights rest

end

theorem weights_append (a b : List Node) : weights (a ++ b) = weights a + weights b := by
  induction a with
  | nil => simp [weights]
  | cons n rest ih => simp only [List.cons_append, weights, ih]; omega

theorem weight_eq (n : Node) : n.weight = weights n.children + 1 := by
  cases n; simp only [weight]

/-- The word of a statement that is no longer in the language. -/
def legacy? : NodeKind → Option String
  | .printStatement => some "print"
  | .execStatement => some "exec"
  | _ => none

/-- What the nodes and all that they hold import, in the order of the source. -/
def walk (s : Spelling) (file : ModuleId) : List Node → Except SourceError (List Import)
  | [] => .ok []
  | n :: rest => match n.kind with
    | .plainImport => do return n.plainImports s file ++ (← walk s file rest)
    | .fromImport => do return (n.fromImport? s file).toList ++ (← walk s file rest)
    | .futureImport => walk s file rest
    | kind => match legacy? kind with
      | some word => .error ⟨.legacyStatement word, file, some n.line⟩
      | none => walk s file (n.children ++ rest)
termination_by nodes => weights nodes
decreasing_by
  all_goals simp only [weights, weights_append, weight_eq]; omega

/-- The line of the first error among the nodes and what they hold, as far as they say that they
hold one. -/
def firstErrorLine? : List Node → Option Nat
  | [] => none
  | n :: rest =>
    if n.isError then some n.line
    else if n.hasError then firstErrorLine? (n.children ++ rest)
    else firstErrorLine? rest
termination_by nodes => weights nodes
decreasing_by
  all_goals simp only [weights, weights_append, weight_eq]; omega

/-- The imports of a whole tree; none of a tree with an error. -/
def imports (file : ModuleId) (n : Node) : Except SourceError (List Import) :=
  if n.hasError then .error ⟨.invalid, file, firstErrorLine? [n]⟩ else walk .verbatim file [n]

end Node

end Ripple.Source
