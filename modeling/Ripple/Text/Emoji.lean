import Ripple.Text.Printable

/-! Emoji codes, as terminals show them.

A name between two colons stands for a picture, and may end in `-text` or `-emoji` to ask for a
form of it. A code that nothing is known by stays as it is, colons included. -/
namespace Ripple.Text.Emoji

/-- The pictures that a terminal knows by name. A picture is made of other characters than codes are, and of none
that steers the terminal. -/
structure Pictures where
  named? : List Char → Option (List Char)
  plain : ∀ {name picture}, named? name = some picture → ∀ c ∈ picture, c ≠ ':' ∧ isControl c = false

def common : List (String × Char) :=
  [("smile", '😄'), ("100", '💯'), ("1234", '🔢')]

theorem plain_of_mem_common : ∀ entry ∈ common, entry.2 ≠ ':' ∧ isControl entry.2 = false := by decide

theorem mem_common_of_lookup {name : String} {picture : Char} (h : common.lookup name = some picture) :
    (name, picture) ∈ common := by
  obtain ⟨before, after, hsplit, _⟩ := List.lookup_eq_some_iff.mp h
  exact hsplit ▸ List.mem_append_right before (List.mem_cons_self ..)

/-- The common pictures, by names in either case. -/
def Pictures.known : Pictures where
  named? name := (common.lookup (.ofList (name.map Char.toLower))).map ([·])
  plain h c hc := by
    obtain ⟨picture, hlookup, rfl⟩ := Option.map_eq_some_iff.mp h
    rw [List.mem_singleton.mp hc]
    exact plain_of_mem_common _ (mem_common_of_lookup hlookup)

/-- The endings of a name that ask for a form, and the mark of that form. -/
def forms : List (List Char × Char) :=
  [("-text".toList, '\ufe0e'), ("-emoji".toList, '\ufe0f')]

/-- What a name between two colons stands for. -/
def shown? (pictures : Pictures) (name : List Char) : Option (List Char) :=
  match forms.find? fun form => form.1.isSuffixOf name with
  | some (ending, mark) =>
    (pictures.named? (name.take (name.length - ending.length))).map (· ++ [mark])
  | none => pictures.named? name

/-- The name that starts here and ends at the next colon. -/
def name? (cs : List Char) : Option (List Char) :=
  let name := cs.takeWhile fun c => c != ':' && !isBlank c
  if cs[name.length]? = some ':' then some name else none

def replaceChars (pictures : Pictures) : List Char → List Char
  | [] => []
  | ':' :: rest => match name? rest with
    | some name =>
      (shown? pictures name).getD (':' :: name ++ [':'])
        ++ replaceChars pictures (rest.drop (name.length + 1))
    | none => ':' :: replaceChars pictures rest
  | c :: rest => c :: replaceChars pictures rest
termination_by cs => cs.length
decreasing_by all_goals simp only [List.length_drop, List.length_cons]; omega

end Ripple.Text.Emoji
