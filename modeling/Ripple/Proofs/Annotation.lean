import Mathlib
import Ripple.Annotation
import Ripple.Proofs.Text.Digits
import Ripple.Proofs.Text.Fields

/-! Annotations as a build log reads them.

A log reads the level and the properties up to the next two colons, and takes the rest for the message
(`Annotation.ofLine?`). A message always comes back as it was (`unescape_escapeMessage`), and is never more than
its line. A file is written as it stands, so it comes back exactly if nothing in it can be taken for what
follows it (`ofLine?_render_iff`), and the line is one line exactly if the file has no line break
(`isOneLine_render_iff`). -/
namespace Ripple

/-- There is no line break. -/
def IsOneLine (cs : List Char) : Prop := ∀ c ∈ cs, c ≠ '\r' ∧ c ≠ '\n'

namespace IsOneLine

@[simp] theorem nil : IsOneLine [] := by simp [IsOneLine]

@[simp] theorem cons_iff (c : Char) (cs : List Char) :
    IsOneLine (c :: cs) ↔ (c ≠ '\r' ∧ c ≠ '\n') ∧ IsOneLine cs := List.forall_mem_cons

@[simp] theorem append_iff (cs ds : List Char) : IsOneLine (cs ++ ds) ↔ IsOneLine cs ∧ IsOneLine ds :=
  List.forall_mem_append

end IsOneLine

/-- No two colons stand next to each other. -/
def IsParted (cs : List Char) : Prop := cs.IsChain fun c d => c = ':' → d ≠ ':'

instance (cs : List Char) : Decidable (IsParted cs) := inferInstanceAs (Decidable (cs.IsChain _))

/-! ### Messages -/

def unescape : List Char → List Char
  | '%' :: '2' :: '5' :: rest => '%' :: unescape rest
  | '%' :: '0' :: 'D' :: rest => '\r' :: unescape rest
  | '%' :: '0' :: 'A' :: rest => '\n' :: unescape rest
  | c :: rest => c :: unescape rest
  | [] => []

theorem unescape_cons {c : Char} (h : c ≠ '%') (rest : List Char) :
    unescape (c :: rest) = c :: unescape rest := by
  conv => lhs; unfold unescape
  split <;> simp_all

/-- What is escaped can be read back. -/
theorem unescape_flatMap (cs : List Char) : unescape (cs.flatMap escapeChar) = cs := by
  induction cs with
  | nil => rfl
  | cons c rest ih =>
    rw [List.flatMap_cons]
    by_cases hpercent : c = '%'
    · subst hpercent
      exact congrArg ('%' :: ·) ih
    by_cases hreturn : c = '\r'
    · subst hreturn
      exact congrArg ('\r' :: ·) ih
    by_cases hfeed : c = '\n'
    · subst hfeed
      exact congrArg ('\n' :: ·) ih
    have hplain : escapeChar c = [c] := by simp [escapeChar, hpercent, hreturn, hfeed]
    rw [hplain, List.singleton_append, unescape_cons hpercent, ih]

theorem unescape_escapeMessage (s : String) : unescape (escapeMessage s).toList = s.toList := by
  rw [escapeMessage, String.toList_ofList, unescape_flatMap]

theorem isOneLine_escapeChar (c : Char) : IsOneLine (escapeChar c) := by
  unfold escapeChar
  split
  · simp
  split
  · simp
  split
  · simp
  · next hreturn hfeed => simpa using ⟨hreturn, hfeed⟩

theorem isOneLine_escapeMessage (s : String) : IsOneLine (escapeMessage s).toList := by
  intro d hd
  rw [escapeMessage, String.toList_ofList, List.mem_flatMap] at hd
  obtain ⟨c, _, hd⟩ := hd
  exact isOneLine_escapeChar c d hd

/-! ### Two colons -/

/-- What stands before the first two colons, and what follows them. -/
def cutAtColons : List Char → Option (List Char × List Char)
  | [] => none
  | c :: rest =>
    if [':', ':'].isPrefixOf (c :: rest) then some ([], rest.drop 1)
    else (cutAtColons rest).map fun parts => (c :: parts.1, parts.2)

theorem isPrefixOf_colons {c d : Char} {cs : List Char} :
    [':', ':'].isPrefixOf (c :: d :: cs) = true ↔ c = ':' ∧ d = ':' := by
  simp only [List.isPrefixOf, Bool.and_eq_true, beq_iff_eq, and_true]
  rw [eq_comm, eq_comm (a := ':')]

theorem IsParted.cons_iff (c d : Char) (cs : List Char) :
    IsParted (c :: d :: cs) ↔ (c = ':' → d ≠ ':') ∧ IsParted (d :: cs) := List.isChain_cons_cons

/-- Nothing before the cut, nor across its first colon, could have been cut. -/
theorem cutAtColons_eq_some {cs before after : List Char} (h : cutAtColons cs = some (before, after)) :
    cs = before ++ ':' :: ':' :: after ∧ IsParted (before ++ [':']) := by
  induction cs generalizing before with
  | nil => cases h
  | cons c rest ih =>
    rw [cutAtColons] at h
    split at h
    · next hcolons =>
      cases h
      obtain ⟨after, hafter⟩ := List.isPrefixOf_iff_prefix.mp hcolons
      obtain ⟨rfl, rfl⟩ := List.cons.inj hafter
      exact ⟨rfl, List.isChain_singleton _⟩
    · next hcolons =>
      obtain ⟨⟨inner, _⟩, hinner, hsame⟩ := Option.map_eq_some_iff.mp h
      cases hsame
      obtain ⟨rfl, hparted⟩ := ih hinner
      refine ⟨rfl, ?_⟩
      cases inner with
      | nil =>
        exact (IsParted.cons_iff ..).mpr ⟨fun hc => absurd (isPrefixOf_colons.mpr ⟨hc, rfl⟩) hcolons, hparted⟩
      | cons d inner =>
        exact (IsParted.cons_iff ..).mpr
          ⟨fun hc hd => hcolons (isPrefixOf_colons.mpr ⟨hc, hd⟩), hparted⟩

theorem cutAtColons_append {before : List Char} (h : IsParted (before ++ [':'])) (after : List Char) :
    cutAtColons (before ++ ':' :: ':' :: after) = some (before, after) := by
  induction before with
  | nil => rfl
  | cons c before ih =>
    have hcolons : ¬[':', ':'].isPrefixOf (c :: (before ++ ':' :: ':' :: after)) = true := by
      cases before with
      | nil => exact fun hcs => ((IsParted.cons_iff ..).mp h).1 (isPrefixOf_colons.mp hcs).1 rfl
      | cons d before =>
        intro hcs
        obtain ⟨hc, hd⟩ := isPrefixOf_colons.mp hcs
        exact ((IsParted.cons_iff ..).mp h).1 hc hd
    rw [List.cons_append, cutAtColons, if_neg hcolons, ih h.tail, Option.map_some]

namespace IsParted
variable {xs ys : List Char}

theorem append (hx : IsParted xs) (hy : IsParted ys) (h : xs.getLast? ≠ some ':' ∨ ys.head? ≠ some ':') :
    IsParted (xs ++ ys) := by
  refine List.isChain_append.mpr ⟨hx, hy, fun c hc d hd hcolon hcolon' => ?_⟩
  subst hcolon hcolon'
  exact h.elim (absurd hc) (absurd hd)

theorem of_not_mem (h : ':' ∉ xs) : IsParted xs := by
  refine List.Pairwise.isChain (List.pairwise_of_forall_mem_list fun c hc _ _ hcolon => ?_)
  exact absurd (hcolon ▸ hc) h

theorem append_of_not_mem (hx : ':' ∉ xs) (hy : IsParted ys) : IsParted (xs ++ ys) :=
  append (of_not_mem hx) hy (.inl fun h => hx (List.mem_of_getLast? h))

end IsParted

/-! ### Reading a line -/

def AnnotationLevel.ofText? (s : String) : Option AnnotationLevel := [error, warning].find? (·.text == s)

theorem AnnotationLevel.ofText?_eq_some_iff (s : String) (level : AnnotationLevel) :
    ofText? s = some level ↔ s = level.text := by
  constructor
  · intro h
    have hsame := List.find?_some h
    exact (beq_iff_eq.mp hsame).symm
  · intro h
    subst h
    cases level <;> decide

namespace Annotation

/-- What a property says for a key, if that is its key. -/
def valueOf? (key property : String) : Option String :=
  match Text.cut '=' property with
  | (k, some value) => if k = key then some value else none
  | (_, none) => none

/-- What the properties of a line say for a key; of several values the last holds. -/
def property? (properties key : String) : Option String :=
  (Text.split ',' properties).reverse.findSome? (valueOf? key)

/-- Reads an annotation off what stands before and after the second two colons of a line. -/
def ofParts? (parts : List Char × List Char) : Option Annotation :=
  let start := Text.cut ' ' (.ofList parts.1)
  let properties := start.2.getD ""
  (AnnotationLevel.ofText? start.1).map fun level =>
    ⟨level, .ofList (unescape parts.2), property? properties "file",
      (property? properties "line").bind String.toNat?⟩

/-- Reads an annotation off its line. -/
def ofLine? (line : String) : Option Annotation :=
  match line.toList with
  | ':' :: ':' :: rest => (cutAtColons rest).bind ofParts?
  | _ => none

theorem valueOf?_append {k : String} (hk : '=' ∉ k.toList) (key value : String) :
    valueOf? key (k ++ "=" ++ value) = if k = key then some value else none := by
  rw [valueOf?, Text.cut_append rfl hk]

@[simp] theorem valueOf?_file (key file : String) :
    valueOf? key ("file=" ++ file) = if "file" = key then some file else none :=
  valueOf?_append (k := "file") (by decide) key file

@[simp] theorem valueOf?_line (key line : String) :
    valueOf? key ("line=" ++ line) = if "line" = key then some line else none :=
  valueOf?_append (k := "line") (by decide) key line

theorem toList_of_valueOf? {key p value : String} (h : valueOf? key p = some value) :
    p.toList = key.toList ++ '=' :: value.toList := by
  unfold valueOf? at h
  split at h
  · next k value' hcut =>
    split at h
    · next hk =>
      obtain rfl := Option.some.inj h
      exact hk ▸ Text.toList_of_cut hcut
    · cases h
  · cases h

/-- A value has no comma, and stands among the properties after its key. -/
theorem of_property?_eq_some {properties key value : String} (h : property? properties key = some value) :
    ',' ∉ value.toList ∧ key.toList ++ '=' :: value.toList <:+: properties.toList := by
  obtain ⟨p, hp, hvalue⟩ := List.exists_of_findSome?_eq_some h
  rw [List.mem_reverse] at hp
  have hp' := toList_of_valueOf? hvalue
  refine ⟨fun hc => Text.not_mem_of_mem_split hp ?_, hp' ▸ Text.infix_of_mem_split hp⟩
  rw [hp']
  exact List.mem_append_right _ (List.mem_cons_of_mem _ hc)

theorem property?_join {properties : List String} (h : ∀ p ∈ properties, ',' ∉ p.toList) (key : String) :
    property? (Text.join "," properties) key = properties.reverse.findSome? (valueOf? key) := by
  by_cases hnone : properties = []
  · subst hnone
    have hempty : valueOf? key "" = none := rfl
    rw [Text.join_nil, property?, Text.split_of_not_mem (by simp), List.reverse_singleton, List.findSome?_singleton,
      hempty]
    rfl
  · rw [property?, Text.split_join rfl hnone h]

/-- A file that is read has no comma, and stands after the level and its key. -/
theorem of_ofParts?_eq_some {before after : List Char} {a : Annotation} {f : String}
    (h : ofParts? (before, after) = some a) (hf : a.file = some f) :
    ',' ∉ f.toList ∧ ∃ properties, before = a.level.text.toList ++ ' ' :: properties ∧
      "file".toList ++ '=' :: f.toList <:+: properties := by
  obtain ⟨level, hlevel, rfl⟩ := Option.map_eq_some_iff.mp h
  simp only at hf
  have hstart := (AnnotationLevel.ofText?_eq_some_iff ..).mp hlevel
  obtain ⟨hcomma, hinfix⟩ := of_property?_eq_some hf
  cases hrest : (Text.cut ' ' (.ofList before)).2 with
  | none =>
    rw [hrest] at hinfix
    simp at hinfix
  | some properties =>
    have hcut : Text.cut ' ' (.ofList before) = (level.text, some properties) := Prod.ext hstart hrest
    rw [hrest, Option.getD_some] at hinfix
    exact ⟨hcomma, properties.toList, by rw [← Text.toList_of_cut hcut, String.toList_ofList], hinfix⟩

/-! ### Writing a line -/

/-- The annotation as it is told from a folder. -/
def told (a : Annotation) (cwd : Path) : Annotation :=
  { a with file := (a.file.filter (· != "")).map (fileFrom cwd) }

/-- What stands before the second two colons. -/
def command (a : Annotation) (cwd : Path) : String :=
  a.level.text ++ if a.properties cwd = [] then "" else " " ++ Text.join "," (a.properties cwd)

theorem properties_eq (a : Annotation) (cwd : Path) :
    a.properties cwd = ((a.told cwd).file.map ("file=" ++ ·)).toList ++
      (a.line.map fun line => "line=" ++ toString line).toList := by
  rw [properties, told, Option.map_map]
  rfl

theorem toList_render (a : Annotation) (cwd : Path) :
    (a.render cwd).toList =
      ':' :: ':' :: ((a.command cwd).toList ++ ':' :: ':' :: (escapeMessage a.message).toList) := by
  have hrender : a.render cwd = "::" ++ a.command cwd ++ "::" ++ escapeMessage a.message := by
    rw [render, command, ← String.append_assoc]
  have hcolons : "::".toList = [':', ':'] := rfl
  rw [hrender]
  simp only [String.toList_append, hcolons, List.append_assoc, List.cons_append, List.nil_append]

/-- A line is read from its second two colons on. -/
theorem ofLine?_render_eq (a : Annotation) (cwd : Path) :
    ofLine? (a.render cwd) =
      (cutAtColons ((a.command cwd).toList ++ ':' :: ':' :: (escapeMessage a.message).toList)).bind
        ofParts? := by
  unfold ofLine?
  rw [toList_render]
  rfl

/-! ### There and back -/

section Told
variable (a : Annotation) (cwd : Path)

/-- A file that can be taken for nothing else where it stands. -/
def CanTell (file : String) : Prop :=
  ',' ∉ file.toList ∧ IsParted (file.toList ++ if a.line.isNone then [':'] else [])

instance (file : String) : Decidable (a.CanTell file) := inferInstanceAs (Decidable (_ ∧ _))

theorem no_comma_properties (h : ∀ f ∈ (a.told cwd).file, ',' ∉ f.toList) :
    ∀ p ∈ a.properties cwd, ',' ∉ p.toList := by
  intro p hp
  rw [properties_eq, List.mem_append, Option.mem_toList, Option.mem_toList, Option.map_eq_some_iff,
    Option.map_eq_some_iff] at hp
  rcases hp with ⟨f, hf, rfl⟩ | ⟨n, _, rfl⟩
  · rw [String.toList_append, List.mem_append, not_or]
    exact ⟨by decide, h f hf⟩
  · rw [String.toList_append, List.mem_append, not_or]
    exact ⟨by decide, fun hc => absurd (Text.digits_toString n _ hc) (by decide)⟩

/-- A line without a file has only words and digits before the message. -/
theorem toList_command_of_none (h : (a.told cwd).file = none) :
    (a.command cwd).toList = a.level.text.toList ++
      a.line.elim [] fun line => " line=".toList ++ (toString line).toList := by
  rw [command, properties_eq, h]
  cases a.line <;> simp

theorem toList_command_of_some {file : String} (h : (a.told cwd).file = some file) :
    (a.command cwd).toList = (a.level.text.toList ++ " file=".toList) ++ (file.toList ++
      a.line.elim [] fun line => ",line=".toList ++ (toString line).toList) := by
  rw [command, properties_eq, h]
  cases a.line <;> simp [Text.join_cons]

/-- Nothing before the second two colons can be taken for them. -/
theorem isParted_command (h : ∀ f ∈ (a.told cwd).file, IsParted (f.toList ++ if a.line.isNone then [':'] else [])) :
    IsParted ((a.command cwd).toList ++ [':']) := by
  have hlevel : ':' ∉ a.level.text.toList := by cases a.level <;> decide
  have hdigits : ∀ n : Nat, ':' ∉ (toString n).toList := fun n hc => absurd (Text.digits_toString n _ hc) (by decide)
  cases hfile : (a.told cwd).file with
  | none =>
    rw [toList_command_of_none a cwd hfile, List.append_assoc]
    refine .append_of_not_mem hlevel (.append_of_not_mem ?_ (List.isChain_singleton _))
    cases a.line with
    | none => exact List.not_mem_nil
    | some n => exact fun hc => (List.mem_append.mp hc).elim (by decide) (hdigits n)
  | some f =>
    have hstart : ':' ∉ a.level.text.toList ++ " file=".toList :=
      fun hc => (List.mem_append.mp hc).elim hlevel (by decide)
    have hf := h f hfile
    rw [toList_command_of_some a cwd hfile, List.append_assoc, List.append_assoc f.toList]
    refine .append_of_not_mem hstart ?_
    cases hline : a.line with
    | none => simpa [hline] using hf
    | some n =>
      rw [hline] at hf
      have htail : ':' ∉ ",line=".toList ++ (toString n).toList :=
        fun hc => (List.mem_append.mp hc).elim (by decide) (hdigits n)
      exact .append (by simpa using hf) (.append_of_not_mem htail (List.isChain_singleton _)) (.inr (by simp))

/-- What stands before the message is read as it was written, unless the file has a comma. -/
theorem ofParts?_command (h : ∀ f ∈ (a.told cwd).file, ',' ∉ f.toList) :
    ofParts? ((a.command cwd).toList, (escapeMessage a.message).toList) = some (a.told cwd) := by
  have hlevel : ' ' ∉ a.level.text.toList := by cases a.level <;> decide
  have hread : ofParts? ((a.command cwd).toList, (escapeMessage a.message).toList) =
      some ⟨a.level, a.message, property? (Text.join "," (a.properties cwd)) "file",
        (property? (Text.join "," (a.properties cwd)) "line").bind String.toNat?⟩ := by
    rw [ofParts?, String.ofList_toList, unescape_escapeMessage, String.ofList_toList]
    unfold command
    split
    · next hnone =>
      rw [String.append_empty, Text.cut_of_not_mem hlevel, (AnnotationLevel.ofText?_eq_some_iff ..).mpr rfl, hnone]
      rfl
    · rw [← String.append_assoc, Text.cut_append rfl hlevel, (AnnotationLevel.ofText?_eq_some_iff ..).mpr rfl]
      rfl
  have hfile : (a.properties cwd).reverse.findSome? (valueOf? "file") = (a.told cwd).file := by
    rw [properties_eq]
    cases (a.told cwd).file <;> cases a.line <;> simp
  have hline : ((a.properties cwd).reverse.findSome? (valueOf? "line")).bind String.toNat? = a.line := by
    rw [properties_eq]
    cases (a.told cwd).file <;> cases a.line <;> simp [Nat.toNat?_repr]
  rw [hread, property?_join (a.no_comma_properties cwd h), property?_join (a.no_comma_properties cwd h), hfile, hline]
  rfl

/-- An annotation comes back from its line if its file can be told. -/
theorem ofLine?_render (h : ∀ f ∈ (a.told cwd).file, a.CanTell f) :
    ofLine? (a.render cwd) = some (a.told cwd) := by
  rw [ofLine?_render_eq, cutAtColons_append (a.isParted_command cwd fun f hf => (h f hf).2), Option.bind_some]
  exact a.ofParts?_command cwd fun f hf => (h f hf).1

/-- **An annotation comes back from its line exactly if its file can be told.** -/
theorem ofLine?_render_iff :
    ofLine? (a.render cwd) = some (a.told cwd) ↔ ∀ f ∈ (a.told cwd).file, a.CanTell f := by
  refine ⟨fun h f hf => ?_, a.ofLine?_render cwd⟩
  rw [ofLine?_render_eq, Option.bind_eq_some_iff] at h
  obtain ⟨⟨before, after⟩, hcut, hparts⟩ := h
  obtain ⟨hsame, hparted⟩ := cutAtColons_eq_some hcut
  obtain ⟨hcomma, properties, hbefore, hinfix⟩ := of_ofParts?_eq_some hparts hf
  refine ⟨hcomma, ?_⟩
  cases hline : a.line with
  | some n =>
    have hfile : f.toList <:+: "file".toList ++ '=' :: f.toList :=
      ((List.suffix_cons ..).trans (List.suffix_append ..)).isInfix
    have hrest : properties <:+: before := by
      rw [hbefore]
      exact ((List.suffix_cons ..).trans (List.suffix_append ..)).isInfix
    have hwhole : IsParted before := hparted.prefix (List.prefix_append ..)
    have hparted : IsParted f.toList := hwhole.infix ((hfile.trans hinfix).trans hrest)
    simpa using hparted
  | none =>
    -- what was read is no shorter than what was written, so it holds the whole file and a colon
    have hcommand := toList_command_of_some a cwd hf
    rw [hline, Option.elim_none, List.append_nil] at hcommand
    have hlength : (a.command cwd).toList.length ≤ before.length := by
      have hinfix := hinfix.length_le
      rw [hcommand, hbefore, told]
      simp at hinfix ⊢
      omega
    have hcolon : ∀ cs rest : List Char, cs ++ [':'] <+: cs ++ ':' :: rest := fun cs rest => ⟨rest, by simp⟩
    have hprefix : (a.command cwd).toList ++ [':'] <+: before ++ [':'] :=
      List.prefix_of_prefix_length_le (hsame ▸ hcolon _ _) (hcolon before _) (by simpa using hlength)
    have hwhole : IsParted ((a.command cwd).toList ++ [':']) := hparted.prefix hprefix
    rw [hcommand, List.append_assoc] at hwhole
    exact hwhole.infix (List.suffix_append ..).isInfix

/-- **A line is one line exactly if its file has no line break.** -/
theorem isOneLine_render_iff :
    IsOneLine (a.render cwd).toList ↔ ∀ f ∈ (a.told cwd).file, IsOneLine f.toList := by
  have hlevel : IsOneLine a.level.text.toList := by cases a.level <;> simp [AnnotationLevel.text]
  have hmessage := isOneLine_escapeMessage a.message
  have hdigits : ∀ n : Nat, IsOneLine (Nat.toDigits 10 n) := by
    intro n c hc
    have hdigit := Text.digits_toString n c (by simpa using hc)
    exact ⟨fun he => absurd hdigit (by rw [he]; decide), fun he => absurd hdigit (by rw [he]; decide)⟩
  rw [toList_render]
  cases hfile : (a.told cwd).file with
  | none =>
    rw [toList_command_of_none a cwd hfile]
    cases a.line <;> simp [hlevel, hmessage, hdigits]
  | some f =>
    rw [toList_command_of_some a cwd hfile]
    cases a.line <;> simp [hlevel, hmessage, hdigits]

end Told

end Annotation

end Ripple
