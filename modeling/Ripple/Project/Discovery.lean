import Ripple.Changes
import Ripple.Resolver

/-! The source files of a project.

`discover` walks the folders below the root of a project and lists the source files in them. It
does not go through links to folders, nor into folders with an excluded name. -/
namespace Ripple

def isSourceName (name : String) : Bool := isSourcePath (Path.parse name)

mutual

/-- The source files in a tree, each as its names below the root; `below` leads from there to the
tree. -/
def sourcesIn (leadsToFolder : List String → Bool) (excluded : List String) (below : List String) :
    FileTree → List (List String)
  | .folder entries => sourcesAmong leadsToFolder excluded below entries
  | _ => []

def sourcesAmong (leadsToFolder : List String → Bool) (excluded : List String)
    (below : List String) : List (String × FileTree) → List (List String)
  | [] => []
  | (name, t) :: rest =>
    let here := below ++ [name]
    let found := match t with
      | .folder _ => if excluded.contains name then [] else sourcesIn leadsToFolder excluded here t
      | .link _ => if isSourceName name && !leadsToFolder here then [here] else []
      | .file _ => if isSourceName name then [here] else []
    found ++ sourcesAmong leadsToFolder excluded below rest

end

/-- The modules below `root`, in order. -/
def Workspace.discover (w : Workspace) (root : Path) (excluded : List String) : List ModuleId :=
  match w.files.find (w.cwd / root) with
  | .ok t =>
    let leadsToFolder (below : List String) : Bool := w.isFolder (root / ⟨.relative, below⟩)
    sortIds ((sourcesIn leadsToFolder excluded [] t).map (Text.join "/"))
  | .error _ => []

end Ripple
