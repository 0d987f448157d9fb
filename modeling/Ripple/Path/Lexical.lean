import Ripple.Path

/-! What can be said of paths from their names alone.

`normalize` takes `..` to undo the name before it, which is right where no link is on the way.
`relativeFrom` writes one place as seen from another, and `common?` is the deepest place above
all of several. -/
namespace Ripple.Path

/-- Resolves `..` against the names already passed; at the root there is nothing to undo. -/
def climb (absolute : Bool) (passed : List String) (name : String) : List String :=
  if name != ".." then passed ++ [name]
  else if passed = [] then (if absolute then [] else [".."])
  else if passed.getLast? = some ".." then passed ++ [".."]
  else passed.dropLast

def normalize (p : Path) : Path := ⟨p.anchor, p.names.foldl (climb p.isAbsolute) []⟩

/-- The names that two lists start with in common. -/
def commonNames : List String → List String → List String
  | a :: as, b :: bs => if a = b then a :: commonNames as bs else []
  | _, _ => []

/-- The way from `start` to `p`, both absolute: up to the last common place, then down. -/
def relativeFrom (p start : Path) : Path :=
  let target := p.normalize.names
  let origin := start.normalize.names
  let shared := (commonNames origin target).length
  ⟨.relative, List.replicate (origin.length - shared) ".." ++ target.drop shared⟩

/-- The deepest path above or at all of `paths`, unless that has no names, or some of the paths
are absolute and some are not. -/
def common? : List Path → Option Path
  | [] => none
  | p :: rest =>
    if rest.any fun q => q.isAbsolute != p.isAbsolute then none
    else
      let names := rest.foldl (fun names q => commonNames names q.names) p.names
      if names = [] then none else some ⟨if p.isAbsolute then .root else .relative, names⟩

end Ripple.Path
