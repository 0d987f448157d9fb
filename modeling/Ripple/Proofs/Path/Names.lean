import Ripple.Path
import Ripple.Proofs.Text.Fields

/-! Paths and their names.

Proper names joined by slashes read back as themselves (`parse_join`), and the places above a path
come off its names one by one (`parents_concat`). -/
namespace Ripple.Path

/-- A name that can stand in a path as one: it is kept by reading, and has no slash. -/
def IsProper (name : String) : Prop := isName name = true ∧ '/' ∉ name.toList

instance (name : String) : Decidable (IsProper name) := inferInstanceAs (Decidable (_ ∧ _))

theorem IsProper.ne_empty {name : String} (h : IsProper name) : name ≠ "" := by
  intro hx
  subst hx
  exact absurd h.1 (by decide)

theorem proper_concat {names : List String} {name : String} (h : ∀ n ∈ names, IsProper n)
    (hname : IsProper name) : ∀ n ∈ names ++ [name], IsProper n := by
  intro n hn
  rcases List.mem_append.mp hn with hn | hn
  · exact h n hn
  · rw [List.mem_singleton] at hn
    exact hn ▸ hname

/-- Reading keeps only proper names. -/
theorem proper_of_mem_parse {s name : String} (h : name ∈ (parse s).names) : IsProper name := by
  obtain ⟨hsplit, hname⟩ := List.mem_filter.mp h
  exact ⟨hname, Text.not_mem_of_mem_split hsplit⟩

/-- A path that starts with a proper name is relative. -/
theorem anchorOf_append {name : String} (h : IsProper name) (tail : List Char) :
    anchorOf (name.toList ++ tail) = .relative := by
  obtain ⟨c, cs, hc⟩ := List.exists_cons_of_ne_nil (Text.toList_ne_nil h.ne_empty)
  have hslash : c ≠ '/' := by
    intro hx
    subst hx
    exact h.2 (hc ▸ List.mem_cons_self ..)
  rw [hc, anchorOf, List.cons_append, List.takeWhile_cons_of_neg (by simpa using hslash)]
  rfl

theorem anchorOf_join {names : List String} (h : ∀ n ∈ names, IsProper n) :
    anchorOf (Text.join "/" names).toList = .relative := by
  cases names with
  | nil => rfl
  | cons name rest =>
    have hname := h name (List.mem_cons_self ..)
    by_cases hr : rest = []
    · rw [hr, Text.join_singleton, ← List.append_nil name.toList]
      exact anchorOf_append hname []
    · rw [Text.join_cons hr, String.append_assoc, String.toList_append]
      exact anchorOf_append hname _

/-- The first name of a path can be read off. -/
theorem parse_cons {name : String} (h : IsProper name) (rest : String) :
    parse (name ++ "/" ++ rest) = ⟨.relative, name :: (parse rest).names⟩ := by
  have hname : (Text.split '/' name).filter isName = [name] := by
    rw [Text.split_of_not_mem h.2, List.filter_cons_of_pos h.1, List.filter_nil]
  rw [parse, String.append_assoc, String.toList_append, anchorOf_append h, ← String.append_assoc,
    Text.split_append_separator rfl, List.filter_append, hname]
  rfl

theorem parse_join {names : List String} (h : ∀ n ∈ names, IsProper n) :
    parse (Text.join "/" names) = ⟨.relative, names⟩ := by
  rw [parse, anchorOf_join h]
  congr 1
  by_cases hn : names = []
  · subst hn
    decide
  · rw [Text.split_join rfl hn fun n hm => (h n hm).2, List.filter_eq_self]
    exact fun n hm => (h n hm).1

theorem parse_of_proper {name : String} (h : IsProper name) : parse name = ⟨.relative, [name]⟩ := by
  rw [← Text.join_singleton "/" name]
  exact parse_join (by simpa using h)

theorem text_relative {names : List String} (h : names ≠ []) :
    (⟨.relative, names⟩ : Path).text = Text.join "/" names := by
  simp [text, h, Anchor.text]

theorem parents_concat (a : Anchor) (names : List String) (name : String) :
    (⟨a, names ++ [name]⟩ : Path).parents = ⟨a, names⟩ :: (⟨a, names⟩ : Path).parents := by
  simp only [parents, List.length_append, List.length_singleton, List.range_succ_eq_map,
    List.map_cons, List.map_map]
  congr 1
  · simp
  · apply List.map_congr_left
    intro n hn
    have hlt := List.mem_range.mp hn
    simp only [Function.comp_apply, Path.mk.injEq, true_and]
    rw [List.take_append_of_le_length (by omega)]
    congr 1
    omega

/-- What stands above a path is a start of it. -/
theorem mem_parents_concat {a : Anchor} {names : List String} {name : String} {q : Path}
    (h : q ∈ (⟨a, names ++ [name]⟩ : Path).parents) : ∃ n, q = ⟨a, names.take n⟩ := by
  obtain ⟨n, hn, rfl⟩ := List.mem_map.mp h
  refine ⟨names.length - n, ?_⟩
  simp only [List.length_append, List.length_singleton, Nat.add_sub_cancel, Path.mk.injEq, true_and]
  exact List.take_append_of_le_length (by omega)

@[simp] theorem name_concat (a : Anchor) (names : List String) (name : String) :
    (⟨a, names ++ [name]⟩ : Path).name = name := by
  simp [Path.name]

@[simp] theorem parent_concat (a : Anchor) (names : List String) (name : String) :
    (⟨a, names ++ [name]⟩ : Path).parent = ⟨a, names⟩ := by
  simp [parent]

/-- An absolute path is seen alike from everywhere. -/
theorem div_of_absolute {q : Path} (h : q.isAbsolute = true) (p : Path) : p / q = q := if_pos h

/-- A relative path goes on from where it is seen. -/
theorem div_of_relative {q : Path} (h : ¬ q.isAbsolute = true) (p : Path) :
    p / q = ⟨p.anchor, p.names ++ q.names⟩ := if_neg h

theorem div_child (p q : Path) (name : String) : p / q.child name = (p / q).child name := by
  show join p (q.child name) = (join p q).child name
  have hanchor : (q.child name).isAbsolute = q.isAbsolute := rfl
  simp only [join, hanchor]
  split
  · rfl
  · simp [child]

@[simp] theorem parts_relative (names : List String) : (⟨.relative, names⟩ : Path).parts = names := rfl

/-! ### Names in two halves -/

/-- Only the last dot ends a stem, and an ending without dots does not hide it. -/
theorem stemChars_append {stem ending : List Char} (hs : stem ≠ []) (he : ending ≠ [])
    (hdot : '.' ∉ ending) : stemChars (stem ++ '.' :: ending) = stem := by
  have htail : ((stem ++ '.' :: ending).reverse.takeWhile (· != '.')) = ending.reverse := by
    rw [List.reverse_append, List.reverse_cons, List.append_assoc, List.singleton_append,
      List.takeWhile_append_of_pos]
    · simp
    · intro c hc
      rw [List.mem_reverse] at hc
      simpa using fun h : c = '.' => hdot (h ▸ hc)
  have hlen : (stem ++ '.' :: ending).length - ending.reverse.length - 1 = stem.length := by
    simp only [List.length_append, List.length_cons, List.length_reverse]
    omega
  have htake : (stem ++ '.' :: ending).take stem.length = stem := List.take_left
  unfold stemChars
  rw [htail]
  simp only [hlen, htake]
  simp [hs, he]

theorem stemChars_prefix (cs : List Char) : stemChars cs <+: cs := by
  simp only [stemChars]
  split
  · exact List.prefix_rfl
  · exact List.take_prefix ..

/-- What follows a stem is an ending with a dot before it, unless there is nothing before the dot. -/
theorem drop_stemChars_eq_iff {cs ending : List Char} (he : ending ≠ []) (hdot : '.' ∉ ending) :
    cs.drop (stemChars cs).length = '.' :: ending ↔ ∃ stem, stem ≠ [] ∧ cs = stem ++ '.' :: ending := by
  constructor
  · intro h
    have hwhole : stemChars cs ++ '.' :: ending = cs := by
      obtain ⟨tail, htail⟩ := stemChars_prefix cs
      have hdrop : cs.drop (stemChars cs).length = tail :=
        (congrArg (List.drop _) htail.symm).trans List.drop_left
      rw [← h, hdrop, htail]
    refine ⟨stemChars cs, fun hnone => ?_, hwhole.symm⟩
    -- a name without a stem is a stem itself
    rw [hnone, List.nil_append] at hwhole
    rw [← hwhole] at hnone
    unfold stemChars at hnone
    simp only at hnone
    split at hnone
    · cases hnone
    · next hstem => exact hstem (.inr hnone)
  · rintro ⟨stem, hs, rfl⟩
    rw [stemChars_append hs he hdot, List.drop_left]

end Ripple.Path
