import Ripple.Text.Split

/-! Options among the words of a command line.

A word that starts with two dashes is one option, and may have its value behind an equals sign. A
word that starts with one dash is a row of one-letter options, of which the last may have its value
in the rest of the word. A value that does not stand in the word is the next word, whatever it looks
like, and the word `--` ends the options (`readWords`). -/
namespace Ripple.CommandLine
variable {σ : Type}

/-- An option under any of its names: a flag that stands for a setting, or an option that stands for
one with its value. -/
inductive OptionForm (σ : Type) where
  | flag (names : List String) (setting : σ)
  | value (names : List String) (set : String → σ)

def OptionForm.names : OptionForm σ → List String
  | flag names _ => names
  | value names _ => names

def formNamed? (forms : List (OptionForm σ)) (name : String) : Option (OptionForm σ) :=
  forms.find? (·.names.contains name)

/-- What a word says: settings, and perhaps an option that takes the next word. -/
structure WordReading (σ : Type) where
  settings : List σ
  pending : Option (String → σ)

/-- A word that starts with two dashes. -/
def readLong (forms : List (OptionForm σ)) (word : String) : Option (WordReading σ) :=
  let (name, attached) := Text.cut '=' word
  match formNamed? forms name, attached with
  | some (.flag _ setting), none => some ⟨[setting], none⟩
  | some (.value _ set), none => some ⟨[], some set⟩
  | some (.value _ set), some text => some ⟨[set text], none⟩
  | _, _ => none

/-- The letters behind one dash. -/
def readShort (forms : List (OptionForm σ)) : List Char → Option (WordReading σ)
  | [] => some ⟨[], none⟩
  | c :: rest => match formNamed? forms (.ofList ['-', c]) with
    | some (.flag _ setting) =>
      (readShort forms rest).map fun r => { r with settings := setting :: r.settings }
    | some (.value _ set) =>
      some (if rest = [] then ⟨[], some set⟩ else ⟨[set (.ofList rest)], none⟩)
    | none => none

/-- Whether a word holds options; a single dash does not. -/
def isOption (word : String) : Bool := word.toList.head? == some '-' && word != "-"

def readWord (forms : List (OptionForm σ)) (word : String) : Option (WordReading σ) :=
  match word.toList with
  | '-' :: '-' :: _ => readLong forms word
  | _ :: letters => readShort forms letters
  | [] => none

/-- The settings in words, and the words that are no options; none if some word cannot be read. Unless
options and other words may be `mixed`, the first other word ends the options. -/
def readWords (forms : List (OptionForm σ)) (mixed : Bool) :
    List String → Option (List σ × List String)
  | [] => some ([], [])
  | word :: rest =>
    if word = "--" then some ([], rest)
    else if isOption word then
      match readWord forms word, rest with
      | none, _ => none
      | some ⟨settings, none⟩, rest =>
        (readWords forms mixed rest).map fun (more, others) => (settings ++ more, others)
      | some ⟨_, some _⟩, [] => none
      | some ⟨settings, some set⟩, text :: rest =>
        (readWords forms mixed rest).map fun (more, others) => (settings ++ set text :: more, others)
    else if mixed then
      (readWords forms mixed rest).map fun (more, others) => (more, word :: others)
    else some ([], word :: rest)

end Ripple.CommandLine
