import Ripple.Import
import Ripple.OrderedMap

/-! The graph of imports.

An edge from `a` to `b` says that `a` imports `b`. A `Graph` keeps both directions, each in the
order in which edges came, and beside them the names that imports asked for in vain, so that a
deleted module can still be traced to its importers. -/
namespace Ripple

structure Graph where
  forward : OrderedMap ModuleId (List ModuleId)
  reverse : OrderedMap ModuleId (List ModuleId)
  /-- Dotted names without a module, and who asked for them. -/
  dangling : OrderedMap String (List ModuleId)
  unparsed : List ModuleId

structure GraphStats where
  modules : Nat
  edges : Nat
  unparsed : Nat
  deriving DecidableEq, Repr

namespace Graph

def empty : Graph := ⟨∅, ∅, ∅, []⟩

instance : EmptyCollection Graph := ⟨empty⟩

instance : Inhabited Graph := ⟨∅⟩

/-! ### Building -/

def addModule (g : Graph) (id : ModuleId) (parsed : Bool) : Graph :=
  { g with
    forward := g.forward.insertNew id []
    reverse := g.reverse.insertNew id []
    unparsed := if parsed then g.unparsed else addNew g.unparsed id }

/-- No module depends on itself. -/
def addEdge (g : Graph) (source target : ModuleId) : Graph :=
  if source = target then g
  else
    { g with
      forward := (g.forward.update source [] (addNew · target)).insertNew target []
      reverse := (g.reverse.update target [] (addNew · source)).insertNew source [] }

def addDangling (g : Graph) (importer : ModuleId) (dotted : String) : Graph :=
  if dotted = "" then g
  else { g with dangling := g.dangling.update dotted [] (addNew · importer) }

/-! ### Questions -/

def modules (g : Graph) : List ModuleId := g.forward.keys

def contains (g : Graph) (id : ModuleId) : Bool := g.forward.contains id

/-- The modules that `id` imports. -/
def dependencies (g : Graph) (id : ModuleId) : List ModuleId := (g.forward.get? id).getD []

/-- The modules that import `id`. -/
def dependents (g : Graph) (id : ModuleId) : List ModuleId := (g.reverse.get? id).getD []

def size (g : Graph) : Nat := g.forward.size

def edgeCount (g : Graph) : Nat := g.forward.values.flatten.length

def isParsed (g : Graph) (id : ModuleId) : Bool := g.contains id && !g.unparsed.contains id

/-- Whether `target` is `dotted` or lies beneath it. -/
def liesBeneath (dotted target : String) : Bool :=
  target == dotted || (dotted ++ ".").toList.isPrefixOf target.toList

/-- Who asked for `dotted`, or for something beneath it, in vain. -/
def danglingImporters (g : Graph) (dotted : String) : List ModuleId :=
  ((g.dangling.entries.filter fun e => liesBeneath dotted e.1).flatMap Prod.snd).foldl addNew []

def stats (g : Graph) : GraphStats := ⟨g.size, g.edgeCount, g.unparsed.length⟩

end Graph

end Ripple
