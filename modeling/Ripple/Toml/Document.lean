import Ripple.Toml.Reader

/-! Settings files as a whole.

A document is a list of lines: a key with a value, or the header of the table that the keys after
it belong to. `Document.parse?` builds the table of all of them, and fails where a key is set or a
table headed twice. -/
namespace Ripple.Toml

/-- How the table at a path came about, which says what may still be added to it. -/
inductive Origin where
  | header | dotted | closed | repeated
  deriving DecidableEq, Repr

structure Document where
  root : Table
  /-- The table that keys go to. -/
  current : List String
  origins : List (List String × Origin)

namespace Document

def origin? (d : Document) (path : List String) : Option Origin := d.origins.lookup path

def mark (d : Document) (path : List String) (origin : Origin) : Document :=
  { d with origins := (path, origin) :: d.origins }

/-- Replaces the value under a key, or adds it. -/
def setEntry (entries : Table) (key : String) (v : Value) : Table :=
  if (entries.lookup key).isSome then entries.map fun e => if e.1 = key then (key, v) else e
  else entries ++ [(key, v)]

/-- Changes the table at a path, in the last item where there is an array of tables; tables on the
way are made. -/
def change (f : Table → Option Table) : List String → Table → Option Table
  | [], entries => f entries
  | key :: rest, entries => match entries.lookup key with
    | none => (change f rest []).map fun below => setEntry entries key (.table below)
    | some (.table below) => (change f rest below).map fun below => setEntry entries key (.table below)
    | some (.array items) => match items.getLast? with
      | some (.table below) => (change f rest below).map fun below =>
        setEntry entries key (.array (items.dropLast ++ [.table below]))
      | _ => none
    | some _ => none

/-- What is at a path. -/
def valueAt? : List String → Table → Option Value
  | [], entries => some (.table entries)
  | key :: rest, entries => match entries.lookup key with
    | some (.table below) => valueAt? rest below
    | some (.array items) => if rest = [] then some (.array items) else match items.getLast? with
      | some (.table below) => valueAt? rest below
      | _ => none
    | some v => if rest = [] then some v else none
    | none => none

/-- The paths down to a path, without the path itself. -/
def above (path : List String) : List (List String) :=
  (List.range' 1 (path.length - 1)).map path.take

/-- Sets a key of the current table; its own points may only lead through tables made by points. -/
def setKey (d : Document) (keys : List String) (v : Value) : Option Document :=
  let path := d.current ++ keys
  let passed := (above path).filter fun p => decide (d.current.length < p.length)
  if passed.any fun p => (valueAt? p d.root).isSome && d.origin? p != some .dotted then none
  else match path.getLast? with
    | none => none
    | some key => do
      let add (entries : Table) : Option Table :=
        if (entries.lookup key).isSome then none else some (entries ++ [(key, v)])
      let root ← change add path.dropLast d.root
      let d := passed.foldl (fun d p => d.mark p .dotted) { d with root := root }
      return d.mark path .closed

/-- Whether something may be headed below a path. -/
def isOpen (d : Document) (path : List String) : Bool :=
  match valueAt? path d.root with
  | none => true
  | some (.table _) => d.origin? path != some .closed
  | some (.array _) => d.origin? path == some .repeated
  | some _ => false

def head (d : Document) (path : List String) : Option Document :=
  if (above path).any fun p => !d.isOpen p then none
  else match valueAt? path d.root with
    | some (.table _) =>
      if (d.origin? path).isSome then none
      else some ({ d with current := path }.mark path .header)
    | some _ => none
    | none => (change some path d.root).map fun root =>
      { d with root := root, current := path }.mark path .header

/-- Heads one more table of an array. -/
def headItem (d : Document) (path : List String) : Option Document :=
  if (above path).any fun p => !d.isOpen p then none
  else match path.getLast?, valueAt? path d.root with
    | none, _ => none
    | some key, none => do
      let root ← change (fun entries => some (setEntry entries key (.array [.table []]))) path.dropLast d.root
      return { d with root := root, current := path }.mark path .repeated
    | some key, some (.array items) =>
      if d.origin? path != some .repeated then none
      else do
        let more := Value.array (items ++ [.table []])
        let root ← change (fun entries => some (setEntry entries key more)) path.dropLast d.root
        let kept := d.origins.filter fun o => !(path.isPrefixOf o.1 && o.1 != path)
        return { d with root := root, current := path, origins := kept }
    | some _, some _ => none

/-! ### Lines -/

open Reader in
/-- What ends a line. -/
def lineEnd : Reader Unit := do
  spaces
  comment
  if !(← get).isEmpty then expect "\n"

open Reader in
/-- Takes one line into the document. -/
def line (d : Document) : Reader Document := do
  spaces
  let n := (← get).length + 1
  match ← peek? with
  | none => return d
  | some c =>
    if c = '\n' || c = '#' then
      lineEnd
      return d
    else if (← accept "[[") then
      let path ← dottedKey n
      expect "]]"
      lineEnd
      match d.headItem path with
      | some d => return d
      | none => fail
    else if (← accept "[") then
      let path ← dottedKey n
      expect "]"
      lineEnd
      match d.head path with
      | some d => return d
      | none => fail
    else
      let keys ← dottedKey n
      expect "="
      spaces
      let v ← value n
      lineEnd
      match d.setKey keys v with
      | some d => return d
      | none => fail

open Reader in
def linesFrom : Nat → Document → Reader Document
  | 0, d => return d
  | n + 1, d => do
    if (← get).isEmpty then return d else linesFrom n (← d.line)

/-- The table of a whole text. -/
def parse? (cs : List Char) : Option Table :=
  ((linesFrom (cs.length + 1) ⟨[], [], []⟩) cs).map fun r => r.1.root

end Document

end Ripple.Toml
