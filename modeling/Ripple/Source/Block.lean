import Ripple.Source.Statement

/-! Blocks of lines.

A header at the end of its line opens a block of the lines after it that stand further in. In the
strict dialect the lines of a block stand in one column; in the lenient one indentation only tells
where a block ends. `readLines` reads a source line by line into nodes, or tells the first
`Obstacle` that it meets. -/
namespace Ripple.Source

inductive Obstacle where
  /-- Nothing can be made of the line from these tokens on. -/
  | stuck (line : LogicalLine) (stuck : Stuck)
  | layout (fault : LayoutFault)
  | unexpectedIndent (line : LogicalLine)
  | inconsistentDedent (line : LogicalLine)
  /-- The header on `line` has no block. -/
  | noBlock (header : Header) (line : Nat) (next : Nat)
  /-- Nothing is done about what may go wrong. -/
  | noHandler (next : Option Nat)

/-- The line of a source on which reading got stuck: that of the token, or the end of the line. -/
def Stuck.lineIn (s : Stuck) (line : LogicalLine) : Nat :=
  (s.rest.head?.map (·.line)).getD line.endLine

/-- The obstacle that getting stuck in a line amounts to. A bracket that was never closed is at
fault for what stands on the lines after it. -/
def Obstacle.ofStuck (line : LogicalLine) (s : Stuck) : Obstacle :=
  match line.cut with
  | some (.unclosed opened openedAt) =>
    if s.rest = [] ∨ openedAt < s.lineIn line then .layout (.unclosed opened openedAt)
    else .stuck line s
  | some fault => if s.rest = [] then .layout fault else .stuck line s
  | none => .stuck line s

/-- Reads a line from its start, and tells what is left of it. -/
def readFrom {α : Type} (line : LogicalLine) (r : Reader α) : Except Obstacle (α × List Token) :=
  match r line.tokens with
  | .ok a => .ok a
  | .error s => .error (.ofStuck line s)

/-- Reads what is left of a line as simple statements. -/
def readRest (d : Dialect) (line : LogicalLine) (rest : List Token) : Except Obstacle (List Node) :=
  match Reader.simpleStatements d (rest.length + 1) rest with
  | .ok (nodes, _) => match line.cut with
    | some fault => .error (.layout fault)
    | none => .ok nodes
  | .error s => .error (.ofStuck line s)

/-- The headers that may go on from a header, in the column where it stands. -/
def continuations : Header → List String
  | .condition | .elseIf => ["elif", "else"]
  | .loop | .repetition => ["else"]
  | .attempted | .handler => ["except", "else", "finally"]
  | .otherwise => ["finally"]
  | _ => []

def startsWith (words : List String) (line : LogicalLine) : Bool :=
  match line.tokens with
  | t :: _ => words.contains t.text
  | [] => false

/-- The line of a source that a logical line starts on. -/
def LogicalLine.startLine (l : LogicalLine) : Nat := (l.tokens.head?.map (·.line)).getD l.endLine

/-- The words that may come after a header here; an `else` is followed by `finally` only where
something was attempted. -/
def following (attempting : Bool) (h : Header) : List String :=
  if h = .otherwise ∧ !attempting then [] else continuations h

/-- A statement that holds others. -/
def compound (line : LogicalLine) (children : List Node) : Node :=
  ⟨.statement, none, line.startLine, "", false, false, children⟩

/-- Whether a line belongs to the innermost of the open blocks, whose indents are `outer`. -/
def belongs (d : Dialect) (outer : List Nat) (line : LogicalLine) : Except Obstacle Bool :=
  let here := outer.headD 0
  match d with
  | .lenient => .ok (decide (here ≤ line.indent))
  | .strict =>
    if line.indent = here then .ok true
    else if here < line.indent then .error (.unexpectedIndent line)
    else if outer.contains line.indent then .ok false
    else .error (.inconsistentDedent line)

/-- The indents of the open blocks once the header on `line` has opened one, if it has. -/
def opened (d : Dialect) (outer : List Nat) (line : LogicalLine) (header : Header)
    (rest : List LogicalLine) : Except Obstacle (Option (List Nat)) :=
  let here := outer.headD 0
  match rest with
  | next :: _ =>
    if here < next.indent then .ok (some (next.indent :: outer))
    else if d = .lenient then .ok none
    else .error (.noBlock header line.startLine next.startLine)
  | [] => if d = .lenient then .ok none
    else .error (.noBlock header line.startLine line.endLine)

mutual

/-- The statements of the innermost open block, and the lines after it. -/
def block (d : Dialect) : Nat → List Nat → List LogicalLine →
    Except Obstacle (List Node × List LogicalLine)
  | 0, _, lines => .ok ([], lines)
  | _ + 1, _, [] => .ok ([], [])
  | fuel + 1, outer, line :: rest => do
    if !(← belongs d outer line) then return ([], line :: rest)
    else
      let (nodes, rest) ← statement d fuel outer line rest
      let (others, rest) ← block d fuel outer rest
      return (nodes ++ others, rest)

/-- The statements that start on a line. -/
def statement (d : Dialect) : Nat → List Nat → LogicalLine → List LogicalLine →
    Except Obstacle (List Node × List LogicalLine)
  | 0, _, _, rest => .ok ([], rest)
  | fuel + 1, outer, line, rest => do
    if startsWith ["@"] line then decorated d fuel outer line rest
    else
      match ← readFrom line (Reader.header? d) with
      | (none, tokens) => return (← readRest d line tokens, rest)
      | (some .elseIf, _) | (some .otherwise, _) | (some .handler, _) | (some .finally, _) =>
        .error (.ofStuck line ⟨line.tokens, false⟩)
      | (some .selection, _) =>
        match ← opened d outer line .selection rest with
        | some outer =>
          let (nodes, rest) ← cases d fuel outer rest
          return ([compound line nodes], rest)
        | none => return ([compound line []], rest)
      | (some header, tokens) =>
        let (nodes, rest) ← suite d fuel outer line header tokens rest
        let (others, rest) ← clauses d fuel outer (header == .attempted) header rest
        return ([compound line (nodes ++ others)], rest)

/-- What a header holds: the rest of its line, or a block. -/
def suite (d : Dialect) : Nat → List Nat → LogicalLine → Header → List Token → List LogicalLine →
    Except Obstacle (List Node × List LogicalLine)
  | 0, _, _, _, _, rest => .ok ([], rest)
  | fuel + 1, outer, line, header, tokens, rest => do
    match tokens, line.cut with
    | [], none =>
      match ← opened d outer line header rest with
      | some outer => block d fuel outer rest
      | none => return ([], rest)
    | [], some fault => .error (.layout fault)
    | _, _ => return (← readRest d line tokens, rest)

/-- The clauses that go on from a header. -/
def clauses (d : Dialect) : Nat → List Nat → Bool → Header → List LogicalLine →
    Except Obstacle (List Node × List LogicalLine)
  | 0, _, _, _, rest => .ok ([], rest)
  | fuel + 1, outer, attempting, header, lines => do
    let unhandled := d == .strict && header == .attempted
    match lines with
    | [] => if unhandled then .error (.noHandler none) else return ([], [])
    | line :: rest =>
      let here ← belongs d outer line
      if here && startsWith (following attempting header) line &&
          !(unhandled && startsWith ["else"] line) then
        match ← readFrom line (Reader.header? d) with
        | (some next, tokens) =>
          let (nodes, rest) ← suite d fuel outer line next tokens rest
          let (others, rest) ← clauses d fuel outer attempting next rest
          return (nodes ++ others, rest)
        | (none, _) => return ([], line :: rest)
      else if unhandled then .error (.noHandler (some line.startLine))
      else return ([], line :: rest)

/-- The cases of a selection. -/
def cases (d : Dialect) : Nat → List Nat → List LogicalLine →
    Except Obstacle (List Node × List LogicalLine)
  | 0, _, lines => .ok ([], lines)
  | _ + 1, _, [] => .ok ([], [])
  | fuel + 1, outer, line :: rest => do
    if !(← belongs d outer line) then return ([], line :: rest)
    else
      let ((), tokens) ← readFrom line (Reader.case d)
      let (nodes, rest) ← suite d fuel outer line .case tokens rest
      let (others, rest) ← cases d fuel outer rest
      return (nodes ++ others, rest)

/-- A line with a decorator, and the definition after it. -/
def decorated (d : Dialect) : Nat → List Nat → LogicalLine → List LogicalLine →
    Except Obstacle (List Node × List LogicalLine)
  | 0, _, _, rest => .ok ([], rest)
  | fuel + 1, outer, line, rest => do
    discard <| readFrom line do
      Reader.expect "@"
      Reader.conditionPart d
      if !(← Reader.atEnd) then Reader.stuck
    match line.cut, rest with
    | some fault, _ => .error (.layout fault)
    | none, [] => .error (.ofStuck line ⟨[], false⟩)
    | none, next :: rest =>
      if (← belongs d outer next) && startsWith ["@", "def", "class", "async"] next then
        statement d fuel outer next rest
      else .error (.ofStuck next ⟨next.tokens, false⟩)

end

/-- The statements of a source. -/
def readLines (d : Dialect) (lines : List LogicalLine) : Except Obstacle (List Node) := do
  let (nodes, _) ← block d (4 * (lines.length + 1)) [0] lines
  return nodes

end Ripple.Source
