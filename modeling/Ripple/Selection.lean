import Ripple.Diagnostic
import Ripple.Impact
import Ripple.Text.Quoted

/-! The tests among the affected modules.

A test is known by its file name (`isTestFile`). Tests are listed by path, or those first that are
named after something changed (`filenameMatch`), then the nearer ones. A cap keeps the first so
many and says that it did. -/
namespace Ripple

structure SelectedTest where
  path : ModuleId
  distance : Int
  filenameMatch : Nat
  deriving DecidableEq, Repr

structure Selection where
  tests : List SelectedTest
  /-- How many there were before the cap. -/
  total : Nat
  deriving DecidableEq, Repr

namespace Selection

def empty : Selection := ⟨[], 0⟩

def paths (s : Selection) : List ModuleId := s.tests.map (·.path)

def excluded (s : Selection) : Int := (s.total : Int) - s.tests.length

end Selection

def startsWith (start s : String) : Bool := start.toList.isPrefixOf s.toList

def endsWith (ending s : String) : Bool := ending.toList.isSuffixOf s.toList

def occursIn (part s : String) : Bool := Text.contains s.toList part.toList

def isTestFile (path : String) : Bool :=
  let name := (Path.parse path).name
  endsWith ".py" name && (startsWith "test_" name || endsWith "_test.py" name)

/-- The last part of the name that a changed module is imported by. -/
def leafOf (id : ModuleId) : String :=
  let path := Path.parse id
  if path.stem = "__init__" then path.parent.name else path.stem

def changedLeaves (ids : List ModuleId) : List String :=
  ((ids.map leafOf).filter (· != "")).foldl addNew []

/-- How strongly a test is named after one of `leaves`: 0 for a leaf at the start of a word of the
name, 1 for one anywhere in it, 2 for none. -/
def filenameMatch (path : String) (leaves : List String) : Nat :=
  let name := (Path.parse path).name
  if leaves.any fun leaf => startsWith ("test_" ++ leaf) name || occursIn ("_" ++ leaf) name then 0
  else if leaves.any fun leaf => occursIn leaf name then 1
  else 2

inductive Order where
  | path | relevance
  deriving DecidableEq, Repr

namespace Order

def text : Order → String
  | path => "path"
  | relevance => "relevance"

def all : List Order := [path, relevance]

def ofText? (s : String) : Option Order := all.find? (·.text == s)

end Order

def pathLe (a b : SelectedTest) : Bool := decide (a.path ≤ b.path)

def relevanceLe (a b : SelectedTest) : Bool :=
  if a.filenameMatch = b.filenameMatch then
    if a.distance = b.distance then pathLe a b else decide (a.distance < b.distance)
  else decide (a.filenameMatch < b.filenameMatch)

def Order.le : Order → SelectedTest → SelectedTest → Bool
  | path => pathLe
  | relevance => relevanceLe

/-- The affected tests, in order. -/
def affectedTests (g : Graph) (r : Impact) (changed : List ModuleId) (order : Order) :
    List SelectedTest :=
  let leaves := changedLeaves changed
  let tests := r.distances.entries.filter fun e => g.contains e.1 && isTestFile e.1
  (tests.map fun e => ⟨e.1, e.2, filenameMatch e.1 leaves⟩).mergeSort order.le

def cappedAt (max total : Nat) : Diagnostic :=
  ⟨.maxCapped, "Selection capped at " ++ toString max ++ " of " ++ toString total ++ " impacted tests",
    none, none⟩

/-- Keeps the first `max` tests. -/
def cap (max : Option Nat) (tests : List SelectedTest) : Selection × DiagnosticLog :=
  match max with
  | some max =>
    if max < tests.length then (⟨tests.take max, tests.length⟩, [cappedAt max tests.length])
    else (⟨tests, tests.length⟩, [])
  | none => (⟨tests, tests.length⟩, [])

def selectTests (g : Graph) (r : Impact) (changed : List ModuleId) (max : Option Nat)
    (order : Order) : Selection × DiagnosticLog :=
  cap max (affectedTests g r changed order)

inductive SelectionError where
  | unknownOrder (text : String)
  | negativeMax
  deriving DecidableEq, Repr

def SelectionError.message : SelectionError → String
  | unknownOrder text => "unknown order " ++ Text.quoted text
  | negativeMax => "max_count must be non-negative"

/-- `selectTests` for settings that nobody has looked at. -/
def selectTests? (g : Graph) (r : Impact) (changed : List ModuleId) (max : Option Int)
    (order : String) : Except SelectionError (Selection × DiagnosticLog) :=
  match Order.ofText? order, max with
  | none, _ => .error (.unknownOrder order)
  | some order, none => .ok (selectTests g r changed none order)
  | some order, some max =>
    if max < 0 then .error .negativeMax else .ok (selectTests g r changed (some max.toNat) order)

end Ripple
