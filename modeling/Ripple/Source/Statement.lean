import Ripple.Source.Expression
import Ripple.Source.Node

/-! Statements on one line.

The readers here take the statements of a line apart. Of imports they build the tree, of other
statements only a node. A line that opens a block gives its `Header` instead. -/
namespace Ripple.Source

/-- What a line that opens a block starts. -/
inductive Header where
  | condition | elseIf | otherwise | loop | repetition | attempted | handler | finally | context
  | function | type | selection | case
  deriving DecidableEq, Repr

namespace Reader

/-- Runs an expression reader on what is left of the line. -/
def within {α : Type} (r : Nat → Reader α) : Reader α := do r (expressionDepth (← get))

def anExpression (d : Dialect) : Reader Unit := do discard <| within (expression d)

def aList (d : Dialect) : Reader Unit := do discard <| within (starList d)

/-! ### Imports -/

/-- Names with points between them, on the tokens from `first`. -/
def moreParts : Nat → List Token → Reader (List Token)
  | 0, taken => return taken
  | n + 1, taken => do
    match ← peek? with
    | some dot =>
      if dot.text = "." then
        discard next
        let part ← name
        moreParts n (taken ++ [dot, part])
      else return taken
    | none => return taken

def dottedName : Reader Node := do
  let first ← name
  let tokens ← moreParts (← get).length [first]
  let parts := tokens.filter (·.kind == .word)
  return .spanning .dottedName tokens (parts.map fun t => .spanning .identifier [t] [])

def singleName : Reader Node := do
  let t ← name
  return .spanning .dottedName [t] [.spanning .identifier [t] []]

/-- A name, with the other name that it may be given. -/
def renamed (named : Reader Node) : Reader Node := do
  let n ← named
  match ← peek? with
  | some t =>
    if t.text = "as" then
      discard next
      let newName ← name
      let n := n.playing .name
      return { Node.spanning .aliased [] [n, (Node.spanning .identifier [newName] []).playing .newName] with
        line := n.line, text := n.text ++ t.gap ++ t.text ++ newName.gap ++ newName.text }
    else return n
  | none => return n

/-- Names with commas between them; `open` lists may end with a comma. -/
def nameList (mayEnd : Bool) (named : Reader Node) : Nat → Reader (List Node)
  | 0 => stuck
  | n + 1 => do
    let first ← renamed named
    let first := first.playing .name
    if (← accept ",") then
      let text ← peekText
      if mayEnd && (text = "" || text = ";" || text = ")") then return [first]
      else
        let others ← nameList mayEnd named n
        return first :: others
    else return [first]

def names (mayEnd : Bool) (named : Reader Node) : Reader (List Node) := do
  nameList mayEnd named ((← get).length + 1)

/-- What follows `import`. -/
def plainImport (d : Dialect) (start : Token) : Reader Node := do
  let names ← names (d == .lenient) dottedName
  return .spanning .plainImport [start] names

/-- The dots at the front. -/
def dots : Reader (List Token) := do
  let tokens ← get
  let run := tokens.takeWhile fun t => t.text == "." || t.text == "..."
  set (tokens.drop run.length)
  return run

/-- The module that names are imported from. -/
def origin : Reader Node := do
  let leading ← dots
  match leading with
  | [] => return (← dottedName).playing .moduleName
  | _ =>
    let dotsNode := Node.spanning .dots leading []
    if (← peekText) = "import" then
      return (Node.spanning .relativeName leading [dotsNode]).playing .moduleName
    else
      let n ← dottedName
      return (Node.spanning .relativeName leading [dotsNode, n]).playing .moduleName

/-- The names that are imported: a list, perhaps in parentheses. -/
def importedNames (d : Dialect) : Reader (List Node) := do
  let named := if d = .lenient then dottedName else singleName
  if (← accept "(") then
    let names ← names true named
    expect ")"
    return names
  else names (d == .lenient) named

/-- What follows `from`. -/
def fromImport (d : Dialect) (start : Token) : Reader Node := do
  if d = .lenient && (← peekText) = "__future__" then
    discard next
    expect "import"
    let names ← importedNames d
    return .spanning .futureImport [start] names
  else
    let module ← origin
    expect "import"
    match ← peek? with
    | some t =>
      if t.text = "*" then
        discard next
        return .spanning .fromImport [start] [module, .spanning .star [t] []]
      else
        let names ← importedNames d
        return .spanning .fromImport [start] (module :: names)
    | none => stuck

/-! ### Statements that were once in the language -/

/-- Whether what follows the word `print` cannot go on with an expression. -/
def startsPrinted (tokens : List Token) : Bool :=
  match tokens with
  | t :: rest =>
    t.isName || t.kind == .string || t.kind == .number || t.text == ">>" ||
      ["\x7b", "~", "lambda", "None", "True", "False", "await", "..."].contains t.text ||
      (t.text == "not" && (rest.head?.map (·.text)) != some "in")
  | [] => false

def printed (d : Dialect) : Reader Unit := do
  if (← accept ">>") then
    discard <| within (disjunction d)
    if (← accept ",") then
      if !(← atEnd) && (← peekText) != ";" then aList d
  else aList d

def executed (d : Dialect) : Reader Unit := do
  let t ← next
  if t.kind == .string || t.isName then
    if (← accept "in") then aList d
  else stuckAt (t :: (← get))

/-! ### Simple statements -/

def augmented : List String :=
  ["+=", "-=", "*=", "/=", "//=", "%=", "@=", "**=", ">>=", "<<=", "&=", "|=", "^="]

/-- What is assigned. -/
def assigned (d : Dialect) : Reader Shape := do
  if (← accept "yield") then
    within (yielded d)
    return .value
  else within (starList d)

/-- The rest of a chain of assignments, whose last part had this shape. -/
def assignments (d : Dialect) : Nat → Shape → Reader Unit
  | 0, _ => stuck
  | n + 1, shape => do
    if (← peekText) = "=" then
      if shape.assignable then
        discard next
        assignments d n (← assigned d)
      else stuck

/-- An expression, or an assignment to one. -/
def expressionStatement (d : Dialect) : Reader Unit := do
  if (← accept "yield") then within (yielded d)
  else
    let shape ← within (starList d)
    let text ← peekText
    if augmented.contains text then
      if shape.single then
        discard next
        discard <| assigned d
      else stuck
    else if text = ":" && shape.single then
      discard next
      anExpression d
      if (← accept "=") then discard <| assigned d
    else assignments d ((← get).length + 1) shape

/-- Names whose scope a statement changes. -/
def scopeNames : Nat → Reader Unit
  | 0 => stuck
  | n + 1 => do
    discard name
    if (← accept ",") then scopeNames n

/-- A definition of a type. -/
def typeAlias (d : Dialect) : Reader Unit := do
  expect "type"
  let t ← name
  discard <| (trailers d (expressionDepth (t :: (← get))) .place)
  expect "="
  anExpression d

/-- What follows `raise`. -/
def raised (d : Dialect) : Reader Unit := do
  if (← atEnd) || (← peekText) = ";" then return ()
  else
    if d = .lenient then aList d else anExpression d
    if (← accept "from") then anExpression d

/-- The statements that start with a word of their own and are no imports. -/
def wordStatement (d : Dialect) (word : String) : Reader Unit := do
  if ["pass", "break", "continue"].contains word then discard next
  else if word = "return" then
    discard next
    if !(← atEnd) && (← peekText) != ";" then aList d
  else if word = "raise" then
    discard next
    raised d
  else if word = "global" || word = "nonlocal" then
    discard next
    scopeNames ((← get).length + 1)
  else if word = "del" then
    discard next
    aList d
  else if word = "assert" then
    discard next
    anExpression d
    if (← accept ",") then anExpression d
  else if word = "type" && d = .lenient then either (typeAlias d) (expressionStatement d)
  else expressionStatement d

def simpleStatement (d : Dialect) : Reader Node := do
  let tokens ← get
  match tokens with
  | [] => stuck
  | t :: rest =>
    if t.text = "import" then
      discard next
      plainImport d t
    else if t.text = "from" then
      discard next
      fromImport d t
    else if d = .lenient && t.text = "print" && startsPrinted rest then
      discard next
      printed d
      return .spanning .printStatement [t] []
    else if d = .lenient && t.text = "exec" &&
        (rest.head?.elim false fun t => t.isName || t.kind == .string) then
      discard next
      executed d
      return .spanning .execStatement [t] []
    else
      wordStatement d t.text
      return .spanning .statement [t] []

/-- Simple statements with semicolons between them, up to the end of the line. -/
def simpleStatements (d : Dialect) : Nat → Reader (List Node)
  | 0 => stuck
  | n + 1 => do
    let first ← simpleStatement d
    if (← accept ";") then
      if (← atEnd) then return [first]
      else
        let others ← simpleStatements d n
        return first :: others
    else if (← atEnd) then return [first]
    else stuck

/-! ### Patterns -/

mutual

def patternList : Nat → Reader Unit
  | 0 => stuck
  | depth + 1 => do
    pattern depth
    if (← accept ",") then
      let text ← peekText
      if closings.contains text || text = ":" || text = "if" then return () else patternList depth

def pattern : Nat → Reader Unit
  | 0 => stuck
  | depth + 1 => do
    patternAtom depth
    if (← accept "|") then pattern depth
    else if (← accept "as") then discard name

def patternAtom : Nat → Reader Unit
  | 0 => stuck
  | depth + 1 => do
    match ← peek? with
    | none => stuck
    | some t =>
      if t.text = "*" || t.text = "**" then
        discard next
        discard name
      else if t.text = "-" || t.kind == .number then
        patternNumber
      else if t.kind == .string then
        set ((← get).dropWhile (·.kind == .string))
      else if ["None", "True", "False"].contains t.text then discard next
      else if t.text = "(" then
        discard next
        if !(← accept ")") then
          patternList depth
          expect ")"
      else if t.text = "[" then
        discard next
        if !(← accept "]") then
          patternList depth
          expect "]"
      else if t.text = "\x7b" then
        discard next
        patternEntries depth
      else
        discard dottedName
        if (← accept "(") then patternArguments depth

def patternNumber : Reader Unit := do
  discard <| accept "-"
  let t ← next
  if t.kind != .number then stuckAt (t :: (← get))
  if ["+", "-"].contains (← peekText) then
    discard next
    discard next

def patternArguments : Nat → Reader Unit
  | 0 => stuck
  | depth + 1 => do
    if (← accept ")") then return ()
    else
      if (← peekSecond) = "=" then
        discard name
        discard next
      pattern depth
      if (← accept ",") then patternArguments depth else expect ")"

def patternEntries : Nat → Reader Unit
  | 0 => stuck
  | depth + 1 => do
    if (← accept "\x7d") then return ()
    else
      patternAtom depth
      if (← accept ":") then pattern depth
      if (← accept ",") then patternEntries depth else expect "\x7d"

end

/-! ### Headers -/

/-- A list of types in brackets, as a definition may have. -/
def typeParameters (d : Dialect) : Reader Unit := do
  if d = .lenient && (← accept "[") then within (subscripts d)

def function (d : Dialect) : Reader Unit := do
  discard name
  typeParameters d
  expect "("
  within fun depth => parameters d depth true
  expect ")"
  if (← accept "->") then anExpression d

def type (d : Dialect) : Reader Unit := do
  discard name
  typeParameters d
  if (← accept "(") then within (arguments d)

def loop (d : Dialect) : Reader Unit := do
  discard <| within (targets d)
  expect "in"
  aList d

def contextItem (d : Dialect) : Reader Unit := do
  anExpression d
  if (← accept "as") then discard <| within (target d)

def contextItems (d : Dialect) (close : String) : Nat → Reader Unit
  | 0 => stuck
  | n + 1 => do
    contextItem d
    if (← accept ",") then
      if close != "" && (← peekText) = close then return () else contextItems d close n

/-- What follows `with`: items, perhaps in parentheses. -/
def context (d : Dialect) : Reader Unit := do
  let length := (← get).length
  let enclosed : Reader Unit := do
    expect "("
    contextItems d ")" length
    expect ")"
    if (← peekText) != ":" then stuck
  if (← attempt enclosed).isSome then return () else contextItems d "" length

/-- What follows `except`. -/
def handler (d : Dialect) : Reader Unit := do
  discard <| accept "*"
  if (← peekText) != ":" then
    if (← atEnd) then throw ⟨[], true⟩
    anExpression d
    if (← accept "as") then discard name
    else if d = .lenient && (← accept ",") then anExpression d

def conditionPart (d : Dialect) : Reader Unit := do discard <| within (named d)

/-- What follows the first word of a header, up to its colon. -/
def headerParts (d : Dialect) : List (String × Header × Reader Unit) :=
  [("if", .condition, conditionPart d), ("elif", .elseIf, conditionPart d),
   ("else", .otherwise, pure ()), ("while", .repetition, conditionPart d), ("for", .loop, loop d),
   ("try", .attempted, pure ()), ("except", .handler, handler d), ("finally", .finally, pure ()),
   ("with", .context, context d), ("def", .function, function d), ("class", .type, type d)]

/-- Expressions that may be given names, with commas between them. -/
def subjects (d : Dialect) : Nat → Reader Unit
  | 0 => stuck
  | n + 1 => do
    discard <| within (starOrNamed d)
    if (← accept ",") then
      if (← peekText) != ":" then subjects d n

def selection (d : Dialect) : Reader Unit := do
  expect "match"
  subjects d ((← get).length + 1)
  expect ":"
  if !(← atEnd) then stuck

def case (d : Dialect) : Reader Unit := do
  expect "case"
  within patternList
  if (← accept "if") then conditionPart d
  expectColon false

/-- The header at the front of a line, with its colon; none if the line has another start. -/
def header? (d : Dialect) : Reader (Option Header) := do
  let tokens ← get
  let word ← peekText
  let isAsync := word = "async"
  if isAsync then discard next
  let word ← peekText
  if isAsync && !(["def", "for", "with"].contains word) then stuck
  match (headerParts d).lookup word with
  | some (header, part) =>
    discard next
    part
    expectColon (["def", "else", "try", "finally"].contains word)
    return some header
  | none =>
    if word = "match" && (← attempt (selection d)).isSome then return some .selection
    set tokens
    return none

end Reader
end Ripple.Source
