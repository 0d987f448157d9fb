import Ripple.Source.Reader

/-! Expressions, as far as it matters whether they are some.

The readers here accept an expression and tell its `Shape`: whether it may be assigned to. They
take turns in going down, so each has a `depth` that it may go; `expressionDepth` is enough for
the tokens of a line. -/
namespace Ripple.Source

structure Shape where
  /-- It may stand to the left of an assignment. -/
  assignable : Bool
  /-- It is one place, not several. -/
  single : Bool
  deriving DecidableEq, Repr

namespace Shape

def place : Shape := ⟨true, true⟩

def value : Shape := ⟨false, false⟩

/-- A list of things, all of which have to be assigned to. -/
def several (items : List Shape) : Shape := ⟨items.all (·.assignable), false⟩

end Shape

/-- How deep the readers go at most for so many tokens. -/
def expressionDepth (tokens : List Token) : Nat := 16 * (tokens.length + 2)

def arithmetic : List String :=
  ["+", "-", "*", "/", "//", "%", "@", "**", "<<", ">>", "&", "|", "^"]

def comparisons : Dialect → List String
  | .strict => ["<", ">", "==", ">=", "<=", "!=", "in"]
  | .lenient => ["<", ">", "==", ">=", "<=", "!=", "<>", "in"]

def closings : List String := [")", "]", "\x7d"]

/-! ### Fields in strings -/

/-- How far the reading of a field has come. -/
structure FieldState where
  /-- Something stands in the field. -/
  filled : Bool
  /-- The expression is over, and what follows says how to write its value. -/
  formatted : Bool
  /-- How many brackets are open. -/
  depth : Nat

def FieldState.after (s : FieldState) (c : Char) : FieldState :=
  let s := { s with filled := s.filled || !Text.isBlank c }
  if c ∈ ['(', '[', '\x7b'] then { s with depth := s.depth + 1 }
  else if c ∈ [')', ']', '\x7d'] then { s with depth := s.depth - 1 }
  else if c = ':' ∧ s.depth = 0 then { s with formatted := true }
  else s

/-- How many characters behind `c` stand in a string that it opens. -/
def FieldState.quoted (s : FieldState) (c : Char) (rest : List Char) : Nat :=
  if isQuote .strict c && (!s.formatted || s.depth != 0) then (stringAfter c rest).2 else 0

/-- What is left after the field at the head, whose brace is open, when `skip` characters have been
seen already; none if the field holds nothing or does not end. -/
def afterField? (s : FieldState) (skip : Nat) : List Char → Option (List Char)
  | [] => none
  | c :: cs => match skip with
    | skip + 1 => afterField? s skip cs
    | 0 =>
      if c = '\x7d' ∧ s.depth = 0 then (if s.filled then some cs else none)
      else afterField? (s.after c) (s.quoted c cs) cs

/-- Whether the braces in a text are doubled or stand around something. -/
def fieldsFit (fuel : Nat) (cs : List Char) : Bool :=
  match fuel, cs with
  | 0, _ => true
  | _, [] => true
  | fuel + 1, '\x7b' :: '\x7b' :: cs => fieldsFit fuel cs
  | fuel + 1, '\x7d' :: '\x7d' :: cs => fieldsFit fuel cs
  | _ + 1, '\x7d' :: _ => false
  | fuel + 1, '\x7b' :: cs => ((afterField? ⟨false, false, 0⟩ 0 cs).map (fieldsFit fuel)).getD false
  | fuel + 1, _ :: cs => fieldsFit fuel cs

/-- Whether a string is one: with an `f` before its quotes its fields have to fit. -/
def stringFits (d : Dialect) (text : String) : Bool :=
  let mark := text.toList.takeWhile Char.isAlpha
  let quoted := text.toList.drop mark.length
  let quotes := if quoted.take 3 = List.replicate 3 (quoted.headD ' ') then 3 else 1
  let content := (quoted.drop quotes).take (quoted.length - 2 * quotes)
  d == .strict || !(mark.map Char.toLower).contains 'f' || fieldsFit content.length content

namespace Reader

/-- The strings in a row at the front. -/
def strings (d : Dialect) : Reader Unit := do
  let tokens ← get
  let run := tokens.takeWhile (·.kind == .string)
  if run.all fun t => stringFits d t.text then set (tokens.drop run.length) else stuck

mutual

/-- An expression, with a choice or a function at its top. -/
def expression (d : Dialect) : Nat → Reader Shape
  | 0 => stuck
  | depth + 1 => do
    if (← accept "lambda") then
      parameters d depth false
      expect ":"
      discard <| expression d depth
      return .value
    else
      let shape ← disjunction d depth
      if (← accept "if") then
        discard <| disjunction d depth
        expect "else"
        discard <| expression d depth
        return .value
      else return shape

/-- Operands between operators. -/
def disjunction (d : Dialect) : Nat → Reader Shape
  | 0 => stuck
  | depth + 1 => do
    let shape ← operand d depth true
    operators d depth shape

def operators (d : Dialect) : Nat → Shape → Reader Shape
  | 0, _ => stuck
  | depth + 1, shape => do
    let text ← peekText
    if arithmetic.contains text || (comparisons d).contains text then
      discard next
      discard <| operand d depth false
      operators d depth .value
    else if text = "not" && (← peekSecond) = "in" then
      discard next
      discard next
      discard <| operand d depth false
      operators d depth .value
    else if text = "is" then
      discard next
      discard <| accept "not"
      discard <| operand d depth false
      operators d depth .value
    else if text = "and" || text = "or" then
      discard next
      discard <| operand d depth true
      operators d depth .value
    else return shape

/-- One operand with the signs before it; a negation only where a comparison may stand. -/
def operand (d : Dialect) : Nat → Bool → Reader Shape
  | 0, _ => stuck
  | depth + 1, negatable => do
    let text ← peekText
    if text = "not" && negatable then
      discard next
      discard <| operand d depth true
      return .value
    else if ["+", "-", "~", "await"].contains text then
      discard next
      discard <| operand d depth false
      return .value
    else
      let shape ← atom d depth
      trailers d depth shape

/-- Parts, calls and items of what has been read. -/
def trailers (d : Dialect) : Nat → Shape → Reader Shape
  | 0, _ => stuck
  | depth + 1, shape => do
    if (← accept ".") then
      discard name
      trailers d depth .place
    else if (← accept "(") then
      arguments d depth
      trailers d depth .value
    else if (← accept "[") then
      subscripts d depth
      trailers d depth .place
    else return shape

def atom (d : Dialect) : Nat → Reader Shape
  | 0 => stuck
  | depth + 1 => do
    match ← peek? with
    | none => stuck
    | some t =>
      if t.isName then
        discard next
        return .place
      else if t.kind == .string then
        strings d
        return .value
      else if t.kind == .number || ["None", "True", "False", "..."].contains t.text then
        discard next
        return .value
      else if t.text = "(" then
        discard next
        group d depth
      else if t.text = "[" then
        discard next
        let items ← display d depth "]"
        return .several items
      else if t.text = "\x7b" then
        discard next
        entries d depth
        return .value
      else stuck

/-- What follows an opening parenthesis. -/
def group (d : Dialect) : Nat → Reader Shape
  | 0 => stuck
  | depth + 1 => do
    if (← accept "yield") then
      yielded d depth
      expect ")"
      return .value
    else if (← accept ")") then return .several []
    else
      let first ← starOrNamed d depth
      let text ← peekText
      if text = "for" || text = "async" then
        comprehension d depth
        expect ")"
        return .value
      else if (← accept ",") then
        let items ← itemsUntil d depth ")"
        return .several (first :: items)
      else
        expect ")"
        return first

/-- What follows an opening bracket of a list. -/
def display (d : Dialect) : Nat → String → Reader (List Shape)
  | 0, _ => stuck
  | depth + 1, close => do
    if (← accept close) then return []
    else
      let first ← starOrNamed d depth
      let text ← peekText
      if text = "for" || text = "async" then
        comprehension d depth
        expect close
        return [.value]
      else if (← accept ",") then
        let items ← itemsUntil d depth close
        return first :: items
      else
        expect close
        return [first]

/-- Items up to a closing bracket. -/
def itemsUntil (d : Dialect) : Nat → String → Reader (List Shape)
  | 0, _ => stuck
  | depth + 1, close => do
    if (← accept close) then return []
    else
      let item ← starOrNamed d depth
      if (← accept ",") then
        let items ← itemsUntil d depth close
        return item :: items
      else
        expect close
        return [item]

/-- What follows an opening brace. -/
def entries (d : Dialect) : Nat → Reader Unit
  | 0 => stuck
  | depth + 1 => do
    if (← accept "\x7d") then return ()
    else
      if (← accept "**") then discard <| disjunction d depth
      else
        discard <| starOrNamed d depth
        if (← accept ":") then discard <| expression d depth
      let text ← peekText
      if text = "for" || text = "async" then
        comprehension d depth
        expect "\x7d"
      else if (← accept ",") then entries d depth
      else expect "\x7d"

/-- What follows the opening parenthesis of a call. -/
def arguments (d : Dialect) : Nat → Reader Unit
  | 0 => stuck
  | depth + 1 => do
    if (← accept ")") then return ()
    else
      if (← accept "*") then discard <| expression d depth
      else if (← accept "**") then discard <| expression d depth
      else if (← peekSecond) = "=" then
        discard name
        discard next
        discard <| expression d depth
      else
        discard <| named d depth
        let text ← peekText
        if text = "for" || text = "async" then comprehension d depth
      if (← accept ",") then arguments d depth else expect ")"

/-- What follows the opening bracket of an item: at least one index or range. -/
def subscripts (d : Dialect) : Nat → Reader Unit
  | 0 => stuck
  | depth + 1 => do
    subscript d depth
    if (← accept ",") then
      if (← accept "]") then return () else subscripts d depth
    else expect "]"

def subscript (d : Dialect) : Nat → Reader Unit
  | 0 => stuck
  | depth + 1 => do
    if (← peekText) != ":" then discard <| starOrNamed d depth
    if (← accept ":") then
      bound d depth
      if (← accept ":") then bound d depth

/-- An end of a range, which may be left out. -/
def bound (d : Dialect) : Nat → Reader Unit
  | 0 => stuck
  | depth + 1 => do
    if [":", ",", "]"].contains (← peekText) then return () else discard <| expression d depth

def starOrNamed (d : Dialect) : Nat → Reader Shape
  | 0 => stuck
  | depth + 1 => do
    if (← accept "*") then
      let shape ← disjunction d depth
      return ⟨shape.assignable, false⟩
    else named d depth

/-- An expression that may be given a name. -/
def named (d : Dialect) : Nat → Reader Shape
  | 0 => stuck
  | depth + 1 => do
    if (← peekSecond) = ":=" then
      discard name
      discard next
      discard <| expression d depth
      return .value
    else expression d depth

/-- The loops and conditions of a comprehension. -/
def comprehension (d : Dialect) : Nat → Reader Unit
  | 0 => stuck
  | depth + 1 => do
    if (← accept "async") then
      expect "for"
      loopOver d depth
    else if (← accept "for") then loopOver d depth
    else return ()

/-- What follows the `for` of a comprehension. -/
def loopOver (d : Dialect) : Nat → Reader Unit
  | 0 => stuck
  | depth + 1 => do
    discard <| targets d depth
    expect "in"
    discard <| disjunction d depth
    conditions d depth
    comprehension d depth

def conditions (d : Dialect) : Nat → Reader Unit
  | 0 => stuck
  | depth + 1 => do
    if (← accept "if") then
      discard <| disjunction d depth
      conditions d depth
    else return ()

/-- What a loop assigns to. -/
def targets (d : Dialect) : Nat → Reader (List Shape)
  | 0 => stuck
  | depth + 1 => do
    let target ← target d depth
    if (← accept ",") then
      if (← peekText) = "in" then return [target]
      else
        let others ← targets d depth
        return target :: others
    else return [target]

def target (d : Dialect) : Nat → Reader Shape
  | 0 => stuck
  | depth + 1 => do
    discard <| accept "*"
    let shape ← operand d depth false
    if shape.assignable then return shape else stuck

/-- What follows `yield`. -/
def yielded (d : Dialect) : Nat → Reader Unit
  | 0 => stuck
  | depth + 1 => do
    if (← accept "from") then discard <| expression d depth
    else
      let text ← peekText
      if text = "" || text = ";" || text = "=" || closings.contains text then return ()
      else discard <| starList d depth

/-- Expressions with commas between them, and perhaps one at the end. -/
def starList (d : Dialect) : Nat → Reader Shape
  | 0 => stuck
  | depth + 1 => do
    let first ← starItem d depth
    if (← peekText) = "," then
      let items ← moreItems d depth
      return .several (first :: items)
    else return first

/-- The items after a comma, as long as something that can be one follows. -/
def moreItems (d : Dialect) : Nat → Reader (List Shape)
  | 0 => stuck
  | depth + 1 => do
    if (← accept ",") then
      let text ← peekText
      if text = "" || [";", "=", ":", ")", "]", "\x7d"].contains text then return []
      else
        let item ← starItem d depth
        let items ← moreItems d depth
        return item :: items
    else return []

def starItem (d : Dialect) : Nat → Reader Shape
  | 0 => stuck
  | depth + 1 => do
    if (← accept "*") then
      let shape ← disjunction d depth
      return ⟨shape.assignable, false⟩
    else expression d depth

/-- Parameters up to what closes them; `annotated` ones stand in parentheses. -/
def parameters (d : Dialect) : Nat → Bool → Reader Unit
  | 0, _ => stuck
  | depth + 1, annotated => do
    let close := if annotated then ")" else ":"
    if (← peekText) = close then return ()
    else
      if (← accept "/") then pure ()
      else if (← accept "**") then
        parameter d depth annotated
      else if (← accept "*") then
        if (← peekText) != "," && (← peekText) != close then parameter d depth annotated
      else parameter d depth annotated
      if (← accept ",") then parameters d depth annotated else return ()

def parameter (d : Dialect) : Nat → Bool → Reader Unit
  | 0, _ => stuck
  | depth + 1, annotated => do
    discard name
    if annotated then
      if (← accept ":") then discard <| starItem d depth
    if (← accept "=") then discard <| expression d depth

end

end Reader

end Ripple.Source
