import Ripple.Selection
import Ripple.Text.Digits
import Ripple.Text.Quoted

/-! The settings of a run.

A `Config` is put together in layers: what holds without any setting, then the project's own
settings, then the command line. A layer (`Overrides`) says nothing about most settings, and what
it does not say stays as it was (`Config.merge`). -/
namespace Ripple

/-- Folders that hold no sources of a project. -/
def defaultExcluded : List String :=
  [".git", ".hg", ".svn", ".venv", "venv", "__pycache__", "node_modules", ".tox", ".nox",
   ".mypy_cache", ".pytest_cache", ".ruff_cache", "build", "dist", "target", ".eggs",
   "site-packages", "htmlcov"]

structure Config where
  /-- The names of folders that are left out, in no order. -/
  excluded : List String
  maxCount : Option Int
  distanceLimit : Option Int
  jobs : Int
  ignoreExternal : Bool
  order : String
  deriving DecidableEq, Repr

structure Overrides where
  excluded : Option (List String)
  maxCount : Option Int
  distanceLimit : Option Int
  jobs : Option Int
  ignoreExternal : Option Bool
  order : Option String
  deriving DecidableEq, Repr

namespace Config

/-- The settings that hold if nothing is set, but for the number of jobs. -/
def default (jobs : Int) : Config := ⟨defaultExcluded, none, none, jobs, false, Order.path.text⟩

/-- What a layer does not set stays. -/
def merge (c : Config) (o : Overrides) : Config where
  excluded := o.excluded.getD c.excluded
  maxCount := o.maxCount.or c.maxCount
  distanceLimit := o.distanceLimit.or c.distanceLimit
  jobs := o.jobs.getD c.jobs
  ignoreExternal := o.ignoreExternal.getD c.ignoreExternal
  order := o.order.getD c.order

end Config

/-- The variable of the environment that sets the number of jobs. -/
def jobsVariable : String := "TESTDIFF_JOBS"

/-- The number of jobs that the environment asks for, at least one; none if its text is no
number. -/
def jobsOf? (value : String) : Option Int :=
  if value = "" then some 1 else (Text.readInt? value).map (max · 1)

end Ripple
