import Ripple.Graph
import Ripple.Resolver

/-! Who is affected when modules change.

`impactOf` walks the edges of a graph backwards from the changed modules, nearest first, and gives
each module it reaches the length of the shortest way. A changed module that is no longer in the
graph takes part through those who still ask for it (`seedsOf`). -/
namespace Ripple

/-- Modules with the distance at which each starts or was reached. -/
abbrev Distances := OrderedMap ModuleId Int

structure Impact where
  distances : Distances
  /-- The limit left something out. -/
  truncated : Bool

namespace Impact

def empty : Impact := ⟨∅, false⟩

instance : Inhabited Impact := ⟨empty⟩

def contains (r : Impact) (id : ModuleId) : Bool := r.distances.contains id

def size (r : Impact) : Nat := r.distances.size

end Impact

/-- Whether the limit lies below a distance. -/
def exceeds (limit : Option Int) (distance : Int) : Bool :=
  match limit with
  | none => false
  | some limit => decide (limit < distance)

/-- Modules that have been reached and whose dependents have not been looked at yet. -/
abbrev Frontier := List (ModuleId × Int)

/-- Takes a module into the impact at a distance, if it is new and within the limit. -/
def reach (limit : Option Int) (distance : Int) (s : Impact × Frontier) (id : ModuleId) :
    Impact × Frontier :=
  if s.1.contains id then s
  else if exceeds limit distance then ({ s.1 with truncated := true }, s.2)
  else ({ s.1 with distances := s.1.distances.insert id distance }, s.2 ++ [(id, distance)])

/-- Takes the modules of the frontier in turn, at most `fuel` of them. -/
def spread (g : Graph) (limit : Option Int) : Nat → Impact × Frontier → Impact
  | 0, s => s.1
  | _ + 1, (r, []) => r
  | fuel + 1, (r, (id, distance) :: rest) =>
    spread g limit fuel ((g.dependents id).foldl (reach limit (distance + 1)) (r, rest))

/-- Nearer seeds come first, and of two at one distance the lesser name. -/
def seedLe (a b : ModuleId × Int) : Bool := decide (a.2 < b.2 ∨ a.2 = b.2 ∧ a.1 ≤ b.1)

/-- The impact of the seeds alone. -/
def plant (limit : Option Int) (seeds : Distances) : Impact × Frontier :=
  (seeds.entries.mergeSort seedLe).foldl (fun s e => reach limit e.2 s e.1) (.empty, [])

/-- The number of modules the walk can take from its frontier: every seed and the end of every edge
at most once. -/
def spreadBound (g : Graph) (seeds : Distances) : Nat :=
  seeds.size + g.reverse.values.flatten.length

/-- The impact of changes that start at the distances `seeds`. -/
def impactOf (g : Graph) (seeds : Distances) (limit : Option Int) : Impact :=
  spread g limit (spreadBound g seeds) (plant limit seeds)

inductive ImpactError where
  | negativeLimit
  deriving DecidableEq, Repr

def ImpactError.message : ImpactError → String
  | negativeLimit => "distance_limit must be non-negative"

/-- `impactOf` for a limit that nobody has looked at. -/
def impactOf? (g : Graph) (seeds : Distances) (limit : Option Int) : Except ImpactError Impact :=
  match limit with
  | some n => if n < 0 then .error .negativeLimit else .ok (impactOf g seeds limit)
  | none => .ok (impactOf g seeds none)

/-! ### Where changes start -/

/-- The package file of the nearest package in the graph around a module. -/
def enclosingPackage? (g : Graph) (id : ModuleId) : Option ModuleId :=
  let path := Path.parse id
  let path := if path.name = packageFile then path.parent else path
  ((path.parents.takeWhile fun p => !p.parts.isEmpty).map fun p => (p.child packageFile).text).find?
    g.contains

/-- Starts a module at a distance, unless it starts nearer already. -/
def seed (seeds : Distances) (id : ModuleId) (distance : Int) : Distances :=
  match seeds.get? id with
  | some known => if distance < known then seeds.insert id distance else seeds
  | none => seeds.insert id distance

/-- A changed module starts itself if it is in the graph; else its importers start one step away,
and the package that held it starts in its place. -/
def seedChange (g : Graph) (r : Resolver) (seeds : Distances) (id : ModuleId) : Distances :=
  if g.contains id then seed seeds id 0
  else
    let importers := g.danglingImporters (r.moduleName id)
    let seeds := importers.foldl (fun seeds importer => seed seeds importer 1) seeds
    match enclosingPackage? g id with
    | some package => seed seeds package 0
    | none => seeds

def seedsOf (g : Graph) (r : Resolver) (changed : List ModuleId) : Distances :=
  changed.foldl (seedChange g r) ∅

/-- The changed modules that are not in the graph. -/
def notIndexed (g : Graph) (changed : List ModuleId) : List ModuleId :=
  changed.filter fun id => !g.contains id

end Ripple
