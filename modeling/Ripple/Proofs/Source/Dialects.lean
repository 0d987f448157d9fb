import Ripple.Proofs.Source.ImportReading

/-! What the two dialects make of an import statement.

Both read every statement, however it is spaced, and agree on levels and on the names that come from a module. They
differ in how they spell dotted names. In the strict dialect a name is its identifiers with single points between
them. The lenient one reads a tree, and takes names as they stand in it: the name of an origin with all of its gaps,
the name of a module that is imported as such without its blanks. `dialects_agree_iff` tells for which statements
this makes no difference, whatever makes the tree as long as it is one of the statement (`ReadsStatements`). -/
namespace Ripple.Source

/-! ### Spellings -/

namespace Dotted

/-- The feature module has no points in its name, so a name that starts with another word is not that one. -/
theorem ne_feature {n : Dotted} (h : n.first.text ≠ Node.featureModule) {text : String} {rest : List Char}
    (htext : text.toList = n.first.text.toList ++ rest) (hrest : rest = [] ∨ '.' ∈ rest) :
    text ≠ Node.featureModule := by
  rintro rfl
  rcases hrest with rfl | hpoint
  · rw [List.append_nil, String.toList_inj] at htext
    exact h htext.symm
  · have hmem : '.' ∈ Node.featureModule.toList := htext ▸ List.mem_append_right _ hpoint
    exact absurd hmem (by decide)

theorem verbatim_ne_feature {n : Dotted} (h : n.first.text ≠ Node.featureModule) :
    n.verbatim ≠ Node.featureModule := by
  refine ne_feature h n.toList_verbatim ?_
  cases n.rest with
  | nil => exact .inl rfl
  | cons p parts =>
    rw [flat_parts_cons]
    exact .inr (List.mem_append_right _ (List.mem_cons_self ..))

theorem joined_ne_feature {n : Dotted} (h : n.first.text ≠ Node.featureModule) :
    n.joined ≠ Node.featureModule := by
  refine ne_feature h n.toList_joined ?_
  cases n.rest with
  | nil => exact .inl rfl
  | cons p parts => exact .inr (List.mem_cons_self ..)

/-- The text of a name without its blanks. -/
def squeezed (n : Dotted) : String := Text.squeeze n.verbatim

theorem squeezed_ne_empty (n : Dotted) : n.squeezed ≠ "" := by
  have hfirst : Text.isBlank n.first.first = false := (wordPart_facts (wordPart_of_wordStart n.first.starts)).2.1
  have hmem : n.first.first ∈ n.squeezed.toList := by
    rw [squeezed, Text.squeeze, String.toList_ofList, n.toList_verbatim, n.first.toList_text, List.mem_filter]
    exact ⟨List.mem_cons_self .., by rw [hfirst]; rfl⟩
  intro hempty
  rw [hempty] at hmem
  exact List.not_mem_nil hmem

theorem joined_ne_empty (n : Dotted) : n.joined ≠ "" := by
  intro hempty
  have htext := n.toList_joined
  rw [hempty, n.first.toList_text] at htext
  exact List.cons_ne_nil _ _ htext.symm

end Dotted

/-- Words are spelled in one way only. -/
theorem Word.compatible_text (w : Word) : Text.compatible w.text = w.text := by
  have hascii : (w.text.toList.all fun c => decide (c.toNat < 0x80)) = true := by
    rw [List.all_eq_true, w.toList_text]
    intro c hc
    rw [decide_eq_true_eq]
    rcases List.mem_cons.mp hc with rfl | hc
    · exact ascii_of_wordPart (wordPart_of_wordStart w.starts)
    · exact ascii_of_wordPart (w.isWordPart_of_mem_rest hc)
  rw [Text.compatible, if_pos hascii]

theorem verbatim_gives : Spelling.verbatim.Gives Dotted.verbatim Dotted.squeezed where
  ofOrigin h := h.text
  ofName h := congrArg Text.squeeze h.text
  notFeature := Dotted.verbatim_ne_feature
  notEmpty := Dotted.squeezed_ne_empty

theorem normal_gives : Spelling.normal.Gives Dotted.joined Dotted.joined := by
  have hjoined : ∀ {n : Dotted} {node : Node}, IsName n node → Spelling.joined node = n.joined := by
    intro n node h
    have hsame : ∀ text ∈ n.identifiers, Text.compatible text = text := by
      intro text htext
      rcases List.mem_cons.mp htext with rfl | htext
      · exact n.first.compatible_text
      · obtain ⟨p, _, rfl⟩ := List.mem_map.mp htext
        exact p.item.compatible_text
    have hmap : (node.ofKind .identifier).map (fun i => Text.compatible i.text) =
        ((node.ofKind .identifier).map Node.text).map Text.compatible := by
      rw [List.map_map]
      rfl
    rw [Spelling.joined, hmap, h.identifiers, List.map_congr_left hsame, List.map_id', Dotted.joined]
  exact ⟨hjoined, hjoined, Dotted.joined_ne_feature, Dotted.joined_ne_empty⟩

/-! ### Sources of one statement -/

theorem unixBreaks_of_not_mem {cs : List Char} (h : '\r' ∉ cs) : Text.unixBreaks cs = cs := by
  induction cs with
  | nil => rfl
  | cons c cs ih =>
    have hc : c ≠ '\r' := fun hc => h (hc ▸ List.mem_cons_self ..)
    rw [Text.unixBreaks, ih fun hmem => h (List.mem_cons_of_mem c hmem)]
    · exact fun _ hreturn _ => hc hreturn
    · exact hc

namespace ImportStatement

variable {s : ImportStatement} (hs : ¬s.IsFeature) {tail : List Char} (htail : tail = [] ∨ tail = ['\n'])
include hs htail

theorem readLines_chars (d : Dialect) :
    ∃ node, readLines d (layOut d (s.chars ++ tail)) = .ok [node] ∧ IsStatement s node := by
  obtain ⟨node, hreads, hstatement⟩ := reads_simpleStatement d hs
  refine ⟨node, ?_, hstatement⟩
  rw [s.layOut_chars d htail]
  cases s with
  | plain space names => exact readLines_single (.inl rfl) hreads _
  | fromModule origin targets => exact readLines_single (.inr rfl) hreads _

/-- In the lenient dialect a source of one statement has a tree of nothing else. -/
theorem isTreeOf_tree : IsTreeOf s (tree (s.chars ++ tail)) := by
  obtain ⟨node, hlines, hstatement⟩ := readLines_chars hs htail .lenient
  have htree : tree (s.chars ++ tail) = ⟨.statement, none, 1, "", false, false, [node]⟩ := by
    rw [tree, hlines]
  rw [htree]
  exact ⟨rfl, rfl, node, rfl, hstatement⟩

/-- From a tree come gaps in origins, and joints in any name. -/
theorem importsBy_chars {read : List Char → Node} (hread : ReadsStatements read) (file : ModuleId) :
    importsBy read (s.chars ++ tail) file = .ok (s.imports Dotted.verbatim Dotted.squeezed file) :=
  (hread s hs tail htail).imports_eq hs verbatim_gives file

theorem lenientImports_chars (file : ModuleId) :
    lenientImports (s.chars ++ tail) file = .ok (s.imports Dotted.verbatim Dotted.squeezed file) :=
  (isTreeOf_tree hs htail).imports_eq hs verbatim_gives file

/-- The strict dialect keeps no gaps. -/
theorem strictImports_chars (file : ModuleId) :
    strictImports (s.chars ++ tail) file = .ok (s.imports Dotted.joined Dotted.joined file) := by
  obtain ⟨node, hlines, hstatement⟩ := readLines_chars hs htail .strict
  have hclean : ∀ c ∈ s.chars ++ tail, isStray c = false := by
    intro c hc
    rcases List.mem_append.mp hc with hc | hc
    · exact clean_flat s.spaced c hc
    · rcases htail with rfl | rfl
      · exact absurd hc List.not_mem_nil
      · rw [List.mem_singleton.mp hc]
        decide
  have hnull : (s.chars ++ tail).contains '\x00' = false := by
    rw [Bool.eq_false_iff, ne_eq, List.contains_iff_mem]
    exact fun hc => absurd (hclean _ hc) (by decide)
  have hbreaks : Text.unixBreaks (s.chars ++ tail) = s.chars ++ tail :=
    unixBreaks_of_not_mem fun hc => absurd (hclean _ hc) (by decide)
  rw [strictImports, if_neg (by rw [hnull]; exact Bool.false_ne_true), hbreaks, strictNodes, hlines]
  exact hstatement.walk_eq normal_gives hs file

end ImportStatement

/-! ### Where the dialects agree -/

namespace ImportStatement

/-- Nothing in the statement is spelled with a gap that the lenient dialect keeps: there is none in the name of an
origin, and none to another line in the name of a module that is imported as such. -/
def IsCompact : ImportStatement → Prop
  | plain _ names => ∀ n ∈ names.all, n.name.IsOnLine
  | fromModule origin _ => ∀ n ∈ origin.name?, n.IsTight

theorem names_of_isSingle {l : NameList} (h : l.IsSingle) :
    l.all.map (fun n => n.name.squeezed) = l.all.map fun n => n.name.joined := by
  refine List.map_congr_left fun n hn => n.name.squeeze_verbatim_eq_joined_iff.mpr ?_
  rw [Dotted.IsOnLine, h n hn]
  exact List.forall_mem_nil _

/-- The names that come from a module are spelled alike. -/
theorem names_of_squeezed (t : Targets) : t.names Dotted.squeezed = t.names Dotted.joined := by
  cases t with
  | star gap => rw [Targets.names, Targets.names]
  | bare space l single => rw [Targets.names, Targets.names, names_of_isSingle single]
  | enclosed gap inner l single comma last => rw [Targets.names, Targets.names, names_of_isSingle single]

/-- The two spellings of a statement are one only where no gap is kept. -/
theorem imports_eq_iff (s : ImportStatement) (file : ModuleId) :
    s.imports Dotted.verbatim Dotted.squeezed file = s.imports Dotted.joined Dotted.joined file ↔ s.IsCompact := by
  cases s with
  | plain space names =>
    rw [imports, imports, IsCompact, List.map_inj_left]
    refine forall₂_congr fun n _ => ?_
    rw [← n.name.squeeze_verbatim_eq_joined_iff]
    simp [Dotted.squeezed]
  | fromModule origin targets =>
    rw [imports, imports, names_of_squeezed, IsCompact]
    simp only [List.cons.injEq, Import.mk.injEq, and_true]
    cases origin with
    | absolute before name after =>
      simpa [Origin.dotted, Origin.name?] using name.verbatim_eq_joined_iff
    | relative first more before name after =>
      simpa [Origin.dotted, Origin.name?] using name.verbatim_eq_joined_iff
    | package first more after => simp [Origin.dotted, Origin.name?]

/-- **Every import statement is read in the strict dialect and from a tree, and the two agree on it unless the tree
keeps a gap.** However the statement is spaced, the strict dialect gives each module and each name as its identifiers
with single points between them. From a tree, whatever made it, come the same levels and the same names from a
module; but the name of the module that they come from is given as it stands, and only the blanks are dropped from a
module that is imported as such. -/
theorem dialects_agree_iff {read : List Char → Node} (hread : ReadsStatements read) (s : ImportStatement)
    (hs : ¬s.IsFeature) {tail : List Char} (htail : tail = [] ∨ tail = ['\n']) (file : ModuleId) :
    strictImports (s.chars ++ tail) file = .ok (s.imports Dotted.joined Dotted.joined file) ∧
      importsBy read (s.chars ++ tail) file = .ok (s.imports Dotted.verbatim Dotted.squeezed file) ∧
      (importsBy read (s.chars ++ tail) file = strictImports (s.chars ++ tail) file ↔ s.IsCompact) := by
  have hstrict := strictImports_chars hs htail file
  have htree := importsBy_chars hs htail hread file
  refine ⟨hstrict, htree, ?_⟩
  rw [hstrict, htree, Except.ok.injEq]
  exact s.imports_eq_iff file

end ImportStatement

/-- The trees of the lenient dialect can be relied on for statements. -/
theorem readsStatements_tree : ReadsStatements tree := fun _ hs _ htail => ImportStatement.isTreeOf_tree hs htail

/-- A name of one letter; no keyword is as short. -/
def letter (c : Char) (h : isWordStart c = true) : Identifier :=
  ⟨⟨c, [], h, rfl⟩, fun hkeyword =>
    (by decide : ∀ k ∈ keywords, k.toList.length ≠ 1) _ hkeyword (by rw [Word.toList_text]; rfl)⟩

def oneSpace : Space := ⟨[.space], List.cons_ne_nil _ _⟩

/-- A module with a point in its name, and names from it on two lines. -/
def listOnTwoLines : ImportStatement :=
  .fromModule (.absolute oneSpace ⟨letter 'a' rfl, [⟨[], [], letter 'b' rfl⟩]⟩ oneSpace)
    (.enclosed [] [] ⟨⟨⟨letter 'c' rfl, []⟩, some (oneSpace, oneSpace, letter 'd' rfl)⟩,
      [⟨[], [.joint], ⟨⟨letter 'e' rfl, []⟩, none⟩⟩]⟩ (by simp [NameList.IsSingle, NameList.all]) (some []) [])

theorem listOnTwoLines_agrees :
    listOnTwoLines.chars = "from a.b import(c as d,\\\ne,)".toList ∧ ¬listOnTwoLines.IsFeature ∧
      lenientImports (listOnTwoLines.chars ++ ['\n']) "mod.py" = .ok [⟨"a.b", 0, ["c", "e"], "mod.py", 1⟩] ∧
      strictImports (listOnTwoLines.chars ++ ['\n']) "mod.py" = .ok [⟨"a.b", 0, ["c", "e"], "mod.py", 1⟩] := by
  have hplain : ¬listOnTwoLines.IsFeature := (by decide : (letter 'a' rfl).1.text ≠ "__future__")
  have hcompact : listOnTwoLines.IsCompact := by
    intro n hn
    cases hn
    exact List.forall_mem_singleton.mpr ⟨rfl, rfl⟩
  obtain ⟨hstrict, _, hagree⟩ :=
    ImportStatement.dialects_agree_iff readsStatements_tree listOnTwoLines hplain (.inr rfl) "mod.py"
  have himports : listOnTwoLines.imports Dotted.joined Dotted.joined "mod.py" =
      [⟨"a.b", 0, ["c", "e"], "mod.py", 1⟩] := by decide
  rw [himports] at hstrict
  exact ⟨by decide, hplain, (hagree.mpr hcompact).trans hstrict, hstrict⟩

/-- Blanks around the point in the name of a module. -/
def spacedOrigin : ImportStatement :=
  .fromModule (.absolute oneSpace ⟨letter 'a' rfl, [⟨[.space], [.space], letter 'b' rfl⟩]⟩ oneSpace)
    (.bare oneSpace ⟨⟨⟨letter 'c' rfl, []⟩, none⟩, []⟩ (by simp [NameList.IsSingle, NameList.all]))

theorem spacedOrigin_differs :
    spacedOrigin.chars = "from a . b import c".toList ∧ ¬spacedOrigin.IsFeature ∧
      lenientImports spacedOrigin.chars "mod.py" = .ok [⟨"a . b", 0, ["c"], "mod.py", 1⟩] ∧
      strictImports spacedOrigin.chars "mod.py" = .ok [⟨"a.b", 0, ["c"], "mod.py", 1⟩] ∧
      lenientImports spacedOrigin.chars "mod.py" ≠ strictImports spacedOrigin.chars "mod.py" := by
  have hchars : spacedOrigin.chars = "from a . b import c".toList := by decide
  rw [hchars]
  have hlenient : lenientImports "from a . b import c".toList "mod.py" =
      .ok [⟨"a . b", 0, ["c"], "mod.py", 1⟩] := by cbv
  have hstrict : strictImports "from a . b import c".toList "mod.py" =
      .ok [⟨"a.b", 0, ["c"], "mod.py", 1⟩] := by cbv
  have hplain : ¬spacedOrigin.IsFeature := (by decide : (letter 'a' rfl).1.text ≠ "__future__")
  refine ⟨rfl, hplain, hlenient, hstrict, ?_⟩
  rw [hlenient, hstrict]
  simp

end Ripple.Source
