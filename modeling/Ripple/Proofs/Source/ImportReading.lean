import Ripple.Proofs.Source.ImportTree
import Ripple.Proofs.Source.Reader
import Ripple.Source.Parser

/-! How import statements are read.

The tokens of a name, a list of names or an origin give nodes with the texts and identifiers that they were
written with (`IsName`, `IsItem`, `IsOrigin`), whatever the gaps between them. So a source of one import statement
is one node (`readLines_single`), and that node is one for the statement (`reads_simpleStatement`). -/
namespace Ripple.Source

/-! ### Names -/

/-- The token of an identifier is a name. -/
theorem isName_identifier (line : Nat) (gap : Gap) (i : Identifier) :
    (Spaced.token line ⟨gap, .word i.toWord⟩).isName = true := by
  have hnot : keywords.contains i.text = false := by
    rw [Bool.eq_false_iff, ne_eq, List.contains_iff_mem]
    exact i.2
  rw [Token.isName]
  have htext : (Spaced.token line ⟨gap, .word i.toWord⟩).text = i.text := rfl
  rw [htext, hnot]
  rfl

theorem reads_moreParts (parts : List (Linked Identifier)) {fuel : Nat} (hfuel : parts.length ≤ fuel)
    (taken : List Token) (line : Nat) {rest : List Token} (hrest : ∀ t ∈ rest.head?, t.text ≠ ".") :
    Reads (Reader.moreParts fuel taken) (place line (parts.flatMap Dotted.part) ++ rest) rest
      (taken ++ place line (parts.flatMap Dotted.part)) := by
  induction parts generalizing fuel taken line with
  | nil =>
    rw [List.flatMap_nil, place, List.nil_append, List.append_nil]
    cases fuel with
    | zero => exact Reads.pure taken rest
    | succ fuel =>
      refine (Reads.peek rest).bind ?_
      cases rest with
      | nil => exact Reads.pure taken []
      | cons t rest =>
        simp only [List.head?_cons]
        rw [if_neg (hrest t rfl)]
        exact Reads.pure taken _
  | cons p parts ih =>
    obtain ⟨fuel, rfl⟩ := Nat.exists_eq_add_one_of_ne_zero (Nat.ne_of_gt (Nat.zero_lt_of_lt hfuel))
    have hfuel' : parts.length ≤ fuel := Nat.le_of_succ_le_succ hfuel
    let dot := Spaced.token line ⟨p.before, .dot⟩
    let part := Spaced.token (line + p.before.breaks) ⟨p.after, .word p.item.toWord⟩
    have hplace : place line ((p :: parts).flatMap Dotted.part) =
        dot :: part :: place (line + p.before.breaks + p.after.breaks) (parts.flatMap Dotted.part) := rfl
    rw [hplace]
    refine (Reads.peek _).bind ?_
    simp only [List.cons_append, List.head?_cons]
    rw [if_pos (show dot.text = "." from rfl)]
    refine (Reads.next dot _).discard.bind ?_
    refine (Reads.name _ (isName_identifier _ _ p.item)).bind ?_
    have hmore := ih hfuel' (taken ++ [dot, part]) (line + p.before.breaks + p.after.breaks)
    rw [List.append_assoc] at hmore
    exact hmore

/-- The text of some tokens is that of their lexemes, without the first gap. -/
theorem toList_textOf (line : Nat) (t : Spaced) (ts : List Spaced) :
    (Node.textOf (place line (t :: ts))).toList = t.lexeme.text.toList ++ flat ts := by
  have hjoin : ∀ (ts : List Spaced) line,
      (String.join ((place line ts).map fun t => t.gap ++ t.text)).toList = flat ts := by
    intro ts
    induction ts with
    | nil => exact fun _ => rfl
    | cons t ts ih =>
      intro line
      rw [place, List.map_cons, String.join_cons, String.toList_append, ih]
      simp [Spaced.token, Spaced.chars]
  rw [place, Node.textOf, String.toList_append, hjoin]
  rfl

/-- A reader makes nodes of dotted names. -/
def ReadsName (named : Reader Node) (n : Dotted) : Prop :=
  ∀ gap line rest, (∀ t ∈ rest.head?, t.text ≠ ".") →
    ∃ node, Reads named (place line (n.spaced gap) ++ rest) rest node ∧ IsName n node

theorem isName_spanning (n : Dotted) (gap : Gap) (line : Nat) :
    IsName n (.spanning .dottedName (place line (n.spaced gap))
      (((place line (n.spaced gap)).filter (·.kind == .word)).map fun t => .spanning .identifier [t] [])) := by
  have hparts : ∀ (parts : List (Linked Identifier)) line,
      ((place line (parts.flatMap Dotted.part)).filter (·.kind == .word)).map Token.text =
        parts.map fun p => p.item.text := by
    intro parts
    induction parts with
    | nil => exact fun _ => rfl
    | cons p parts ih => exact fun line => congrArg (p.item.text :: ·) (ih _)
  have hwords : ((place line (n.spaced gap)).filter (·.kind == .word)).map Token.text = n.identifiers :=
    congrArg (n.first.text :: ·) (hparts n.rest _)
  refine ⟨rfl, ?_, ?_⟩
  · rw [← String.toList_inj, n.toList_verbatim]
    exact toList_textOf line ⟨gap, .word n.first.toWord⟩ (n.rest.flatMap Dotted.part)
  · have hone : ∀ t : Token, (Node.spanning .identifier [t] []).text = t.text := by
      intro t
      simp [Node.spanning, Node.textOf]
    rw [Node.ofKind, List.filter_eq_self.mpr, Node.spanning, List.map_map, ← hwords]
    · exact List.map_congr_left fun t _ => hone t
    · intro node hnode
      obtain ⟨t, _, rfl⟩ := List.mem_map.mp hnode
      rfl

theorem length_le_flatMap {α β : Type} {f : α → List β} {l : List α} (h : ∀ a ∈ l, f a ≠ []) :
    l.length ≤ (l.flatMap f).length := by
  induction l with
  | nil => exact Nat.le_refl 0
  | cons a l ih =>
    obtain ⟨ha, hl⟩ := List.forall_mem_cons.mp h
    have hpos := List.length_pos_iff.mpr ha
    have hle := ih hl
    rw [List.flatMap_cons, List.length_append, List.length_cons]
    omega

theorem readsName_dottedName (n : Dotted) : ReadsName Reader.dottedName n := by
  intro gap line rest hrest
  refine ⟨_, ?_, isName_spanning n gap line⟩
  refine (Reads.name _ (isName_identifier line gap n.first)).bind ((Reads.get _).bind ?_)
  have hfuel : n.rest.length ≤ (place (line + gap.breaks) (n.rest.flatMap Dotted.part) ++ rest).length := by
    rw [List.length_append, length_place]
    exact Nat.le_add_right_of_le (length_le_flatMap fun p _ => List.cons_ne_nil _ _)
  exact (reads_moreParts n.rest hfuel _ _ hrest).bind (Reads.pure _ rest)

theorem readsName_singleName {n : Dotted} (hn : n.rest = []) : ReadsName Reader.singleName n := by
  intro gap line rest _
  refine ⟨_, ?_, isName_spanning n gap line⟩
  have hplace : place line (n.spaced gap) = [Spaced.token line ⟨gap, .word n.first.toWord⟩] := by
    rw [Dotted.spaced, hn]
    rfl
  rw [hplace]
  exact (Reads.name _ (isName_identifier line gap n.first)).bind (Reads.pure _ rest)

/-! ### Lists of names -/

theorem IsName.playing {n : Dotted} {node : Node} (h : IsName n node) (role : NodeRole) :
    IsName n (node.playing role) := ⟨h.kind, h.text, h.identifiers⟩

theorem reads_renamed {named : Reader Node} {n : Renamed} (hnamed : ReadsName named n.name) (gap : Gap)
    (line : Nat) (rest : List Token) (hrest : ∀ t ∈ rest.head?, t.text ≠ "." ∧ t.text ≠ "as") :
    ∃ node, Reads (Reader.renamed named) (place line (n.spaced gap) ++ rest) rest node ∧
      IsItem n (node.playing .name) := by
  obtain ⟨name, newName⟩ := n
  cases newName with
  | none =>
    have hplace : place line (Renamed.spaced gap ⟨name, none⟩) = place line (name.spaced gap) := by
      rw [Renamed.spaced, List.append_nil]
    obtain ⟨inner, hreads, hinner⟩ := hnamed gap line rest fun t ht => (hrest t ht).1
    refine ⟨inner, ?_, .named rfl (hinner.playing .name)⟩
    · rw [hplace]
      refine hreads.bind ((Reads.peek rest).bind ?_)
      cases rest with
      | nil => exact Reads.pure inner []
      | cons t rest =>
        simp only [List.head?_cons]
        rw [if_neg (hrest t rfl).2]
        exact Reads.pure inner _
  | some other =>
    obtain ⟨before, after, newName⟩ := other
    let behind := lineAfter line (name.spaced gap)
    let asToken := Spaced.token behind ⟨before.1, .word asWord⟩
    let newToken := Spaced.token (behind + before.1.breaks) ⟨after.1, .word newName.toWord⟩
    have hplace : place line (Renamed.spaced gap ⟨name, some (before, after, newName)⟩) ++ rest =
        place line (name.spaced gap) ++ asToken :: newToken :: rest := by
      rw [Renamed.spaced, place_append, List.append_assoc]
      rfl
    obtain ⟨inner, hreads, hinner⟩ := hnamed gap line (asToken :: newToken :: rest) fun t ht => by
      cases ht
      exact (by decide : asWord.text ≠ ".")
    let node : Node :=
      { Node.spanning .aliased []
          [inner.playing .name, (Node.spanning .identifier [newToken] []).playing .newName] with
        line := inner.line
        text := inner.text ++ asToken.gap ++ asToken.text ++ newToken.gap ++ newToken.text }
    refine ⟨node, ?_, .renamed rfl rfl rfl (hinner.playing .name)⟩
    rw [hplace]
    refine hreads.bind ((Reads.peek _).bind ?_)
    simp only [List.head?_cons]
    rw [if_pos (show asToken.text = "as" from (by decide : asWord.text = "as"))]
    refine (Reads.next asToken _).discard.bind ?_
    exact (Reads.name rest (isName_identifier _ _ newName)).bind (Reads.pure node rest)

/-- The reader takes the tokens up to `rest` and gives a node for each name of a list. -/
def ReadsItems (r : Reader (List Node)) (tokens rest : List Token) (l : NameList) : Prop :=
  ∃ nodes, Reads r tokens rest nodes ∧ List.Forall₂ IsItem l.all nodes

/-- Where a list of names may end, and what it leaves: a list that may end with a comma takes it. -/
inductive Ends (mayEnd : Bool) : List Token → List Token → Prop where
  | here {rest : List Token} (h : ∀ t ∈ rest.head?, t.text ≠ "." ∧ t.text ≠ "as" ∧ t.text ≠ ",") :
    Ends mayEnd rest rest
  | comma {c t : Token} {rest : List Token} (may : mayEnd = true) (hc : c.text = ",") (ht : t.text = ")") :
    Ends mayEnd (c :: t :: rest) (t :: rest)

theorem Ends.nothing (mayEnd : Bool) : Ends mayEnd [] [] := .here fun _ ht => absurd ht (Option.not_mem_none _)

theorem Ends.head {mayEnd : Bool} {rest left : List Token} (h : Ends mayEnd rest left) :
    ∀ t ∈ rest.head?, t.text ≠ "." ∧ t.text ≠ "as" := by
  cases h with
  | here h => exact fun t ht => ⟨(h t ht).1, (h t ht).2.1⟩
  | comma _ hc _ =>
    intro t ht
    cases ht
    rw [hc]
    decide

/-- An identifier is no text that starts with another character than words do. -/
theorem Identifier.ne_of_head (i : Identifier) {text : String} (h : text.toList.head?.any isWordStart = false) :
    i.text ≠ text := by
  rintro rfl
  rw [i.toList_text, List.head?_cons, Option.any_some] at h
  exact absurd i.starts (ne_true_of_eq_false h)

theorem Identifier.ne_keyword (i : Identifier) {text : String} (h : text ∈ keywords) : i.text ≠ text := by
  rintro rfl
  exact i.2 h

theorem reads_nameList {named : Reader Node} {mayEnd : Bool} {rest left : List Token}
    (hends : Ends mayEnd rest left) {l : NameList} (hnamed : ∀ n ∈ l.all, ReadsName named n.name) {fuel : Nat}
    (hfuel : l.rest.length < fuel) (gap : Gap) (line : Nat) :
    ReadsItems (Reader.nameList mayEnd named fuel) (place line (l.spaced gap) ++ rest) left l := by
  obtain ⟨first, others⟩ := l
  induction others generalizing first fuel gap line with
  | nil =>
    obtain ⟨fuel, rfl⟩ := Nat.exists_eq_add_one_of_ne_zero (Nat.ne_of_gt (Nat.zero_lt_of_lt hfuel))
    obtain ⟨node, hreads, hitem⟩ := reads_renamed (hnamed first (by simp [NameList.all])) gap line rest hends.head
    refine ⟨[node.playing .name], ?_, .cons hitem .nil⟩
    have hplace : place line (NameList.spaced gap ⟨first, []⟩) = place line (first.spaced gap) := by
      rw [NameList.spaced, List.flatMap_nil, List.append_nil]
    rw [hplace]
    refine hreads.bind ?_
    cases hends with
    | here h => exact (Reads.notAccepted fun t ht => (h t ht).2.2).bind (Reads.pure _ rest)
    | @comma c t rest may hc ht =>
      refine (Reads.accept _ hc).bind ((Reads.peekText t rest).bind ?_)
      simp only [may, ht]
      exact Reads.pure _ _
  | cons p others ih =>
    obtain ⟨fuel, rfl⟩ := Nat.exists_eq_add_one_of_ne_zero (Nat.ne_of_gt (Nat.zero_lt_of_lt hfuel))
    obtain ⟨before, after, second⟩ := p
    let behind := lineAfter line (first.spaced gap)
    let comma := Spaced.token behind ⟨before, .comma⟩
    let tokens := place (behind + before.breaks) (NameList.spaced after ⟨second, others⟩)
    have hplace : place line (NameList.spaced gap ⟨first, ⟨before, after, second⟩ :: others⟩) ++ rest =
        place line (first.spaced gap) ++ comma :: (tokens ++ rest) := by
      rw [NameList.spaced, place_append, List.append_assoc]
      rfl
    obtain ⟨node, hreads, hitem⟩ := reads_renamed (hnamed first (by simp [NameList.all])) gap line
      (comma :: (tokens ++ rest)) fun t ht => by
        cases ht
        exact (by decide : "," ≠ "." ∧ "," ≠ "as")
    obtain ⟨nodes, hothers, hitems⟩ := ih after (behind + before.breaks) second
      (fun n hn => hnamed n (List.mem_cons_of_mem _ hn)) (Nat.lt_of_succ_lt_succ hfuel)
    refine ⟨node.playing .name :: nodes, ?_, .cons hitem hitems⟩
    rw [hplace]
    refine hreads.bind ?_
    refine (Reads.accept (t := comma) _ rfl).bind ?_
    let head := Spaced.token (behind + before.breaks) ⟨after, .word second.name.first.toWord⟩
    have hgoes : (mayEnd && (decide (head.text = "") || decide (head.text = ";") || decide (head.text = ")"))) =
        false := by
      have hempty : head.text ≠ "" := Identifier.ne_of_head _ (by decide)
      have hsemicolon : head.text ≠ ";" := Identifier.ne_of_head _ (by decide)
      have hclosing : head.text ≠ ")" := Identifier.ne_of_head _ (by decide)
      simp [hempty, hsemicolon, hclosing]
    refine (Reads.peekText head _).bind ?_
    rw [if_neg (ne_true_of_eq_false hgoes)]
    exact hothers.bind (Reads.pure _ left)

theorem reads_names {named : Reader Node} {mayEnd : Bool} {rest left : List Token}
    (hends : Ends mayEnd rest left) {l : NameList} (hnamed : ∀ n ∈ l.all, ReadsName named n.name) (gap : Gap)
    (line : Nat) :
    ReadsItems (Reader.names mayEnd named) (place line (l.spaced gap) ++ rest) left l := by
  have hfuel : l.rest.length < (place line (l.spaced gap) ++ rest).length + 1 := by
    have hle : l.rest.length ≤ (l.rest.flatMap NameList.item).length :=
      length_le_flatMap fun p _ => List.cons_ne_nil _ _
    rw [List.length_append, length_place, NameList.spaced, List.length_append]
    omega
  obtain ⟨nodes, hreads, hitems⟩ := reads_nameList hends hnamed hfuel gap line
  exact ⟨nodes, (Reads.get _).bind hreads, hitems⟩

/-- Among nodes for names there is nothing else. -/
theorem filter_items {items : List Renamed} {nodes : List Node} (h : List.Forall₂ IsItem items nodes) :
    nodes.filter (·.role == some .name) = nodes ∧ nodes.filter (·.kind == .star) = [] ∧
      ∀ node ∈ nodes, node.role ≠ some .moduleName := by
  have hall : ∀ node ∈ nodes, node.role = some .name ∧ node.kind ≠ .star := by
    induction h with
    | nil => exact List.forall_mem_nil _
    | cons hitem _ ih => exact List.forall_mem_cons.mpr ⟨⟨hitem.role, hitem.kind_ne_star⟩, ih⟩
  refine ⟨List.filter_eq_self.mpr fun node hnode => ?_, List.filter_eq_nil_iff.mpr fun node hnode => ?_,
    fun node hnode => ?_⟩
  · rw [(hall node hnode).1]
    rfl
  · simpa using (hall node hnode).2
  · rw [(hall node hnode).1]
    decide

/-! ### Origins -/

theorem reads_dots (gaps : List Gap) (line : Nat) {rest : List Token}
    (hrest : ∀ t ∈ rest.head?, t.text ≠ "." ∧ t.text ≠ "...") :
    Reads Reader.dots (place line (points gaps) ++ rest) rest (place line (points gaps)) := by
  have hpoints : ∀ t ∈ place line (points gaps), (t.text == "." || t.text == "...") = true := by
    fun_induction points gaps generalizing line with
    | case1 gap gaps ih => exact List.forall_mem_cons.mpr ⟨rfl, ih _⟩
    | case2 gap gaps _ ih => exact List.forall_mem_cons.mpr ⟨rfl, ih _⟩
    | case3 => exact List.forall_mem_nil _
  have hstop : rest.takeWhile (fun t => t.text == "." || t.text == "...") = [] := by
    cases rest with
    | nil => rfl
    | cons t rest =>
      obtain ⟨hdot, hellipsis⟩ := hrest t rfl
      rw [List.takeWhile_cons_of_neg (by simp [hdot, hellipsis])]
  have hrun : (place line (points gaps) ++ rest).takeWhile (fun t => t.text == "." || t.text == "...") =
      place line (points gaps) := by
    rw [List.takeWhile_append_of_pos hpoints, hstop, List.append_nil]
  refine (Reads.get _).bind ?_
  simp only [hrun, List.drop_left]
  exact (Reads.set _ rest).bind (Reads.pure _ rest)

/-- The text of some points is what stands from the first of them on. -/
theorem textOf_points (first : Gap) (more : List Gap) (line : Nat) :
    Node.textOf (place line (points (first :: more))) = .ofList (flat (points ([] :: more))) := by
  obtain ⟨l, rest, hpoints, _⟩ := points_cons first more
  have hall : flat (points (first :: more)) = Gap.chars first ++ flat (points ([] :: more)) := by
    rw [flat_points, flat_points, List.flatMap_cons, List.flatMap_cons, List.append_assoc]
    rfl
  rw [hpoints, flat_cons, Spaced.chars, List.append_assoc] at hall
  rw [← String.toList_inj, hpoints, toList_textOf, String.toList_ofList]
  exact List.append_cancel_left hall

theorem place_points_ne_nil (first : Gap) (more : List Gap) (line : Nat) :
    place line (points (first :: more)) ≠ [] := by
  obtain ⟨l, rest, hpoints, _⟩ := points_cons first more
  rw [hpoints]
  exact List.cons_ne_nil _ _

/-- A name does not start with points. -/
theorem ne_points_of_name (name : Dotted) (gap : Gap) (line : Nat) (rest : List Token) :
    ∀ t ∈ (place line (name.spaced gap) ++ rest).head?, t.text ≠ "." ∧ t.text ≠ "..." := by
  intro t ht
  cases ht
  exact ⟨Identifier.ne_of_head name.first (by decide), Identifier.ne_of_head name.first (by decide)⟩

theorem reads_origin (o : Origin) (line : Nat) {t : Token} (ht : t.text = "import") (rest : List Token) :
    ∃ node, Reads Reader.origin (place line o.spaced ++ t :: rest) (t :: rest) node ∧ IsOrigin o node := by
  have hend : ∀ u ∈ (t :: rest).head?, u.text ≠ "." := by
    intro u hu
    cases hu
    rw [ht]
    decide
  cases o with
  | absolute before name after =>
    obtain ⟨node, hreads, hname⟩ := readsName_dottedName name before line (t :: rest) hend
    refine ⟨node.playing .moduleName, ?_, .absolute rfl (hname.playing .moduleName)⟩
    exact (reads_dots [] line (ne_points_of_name name before line _)).bind (hreads.bind (Reads.pure _ _))
  | relative first more before name after =>
    let leading := place line (points (first :: more))
    let dotsNode := Node.spanning .dots leading []
    obtain ⟨node, hreads, hname⟩ :=
      readsName_dottedName name before (lineAfter line (points (first :: more))) (t :: rest) hend
    have hdots : [dotsNode, node].filter (·.kind == .dots) = [dotsNode] := by
      simp [hname.kind, dotsNode, Node.spanning]
    have hnames : [dotsNode, node].filter (·.kind == .dottedName) = [node] := by
      simp [hname.kind, dotsNode, Node.spanning]
    have hpoints : IsRelative more ((Node.spanning .relativeName leading [dotsNode, node]).playing .moduleName) :=
      ⟨rfl, rfl, dotsNode, hdots, textOf_points first more line⟩
    refine ⟨_, ?_, .relative hpoints hnames hname⟩
    rw [Origin.spaced, place_append, List.append_assoc]
    refine (reads_dots (first :: more) line (ne_points_of_name name before _ _)).bind ?_
    split
    · next hnone => exact absurd hnone (place_points_ne_nil first more line)
    · let head := Spaced.token (lineAfter line (points (first :: more))) ⟨before, .word name.first.toWord⟩
      have hhead : head.text ≠ "import" := Identifier.ne_keyword name.first (by decide)
      refine (Reads.peekText head _).bind ?_
      rw [if_neg hhead]
      exact hreads.bind (Reads.pure _ _)
  | package first more after =>
    let leading := place line (points (first :: more))
    let dotsNode := Node.spanning .dots leading []
    have hpoints : IsRelative more ((Node.spanning .relativeName leading [dotsNode]).playing .moduleName) :=
      ⟨rfl, rfl, dotsNode, rfl, textOf_points first more line⟩
    refine ⟨_, ?_, .package hpoints rfl⟩
    refine (reads_dots (first :: more) line fun u hu => ?_).bind ?_
    · cases hu
      rw [ht]
      decide
    · split
      · next hnone => exact absurd hnone (place_points_ne_nil first more line)
      · refine (Reads.peekText t rest).bind ?_
        rw [if_pos ht]
        exact Reads.pure _ _

/-! ### Statements -/

section Statements
variable (d : Dialect)

/-- Names without points are read alike in both dialects. -/
theorem readsName_of_isSingle {l : NameList} (hl : l.IsSingle) :
    ∀ n ∈ l.all, ReadsName (if d = .lenient then Reader.dottedName else Reader.singleName) n.name := by
  intro n hn
  cases d with
  | lenient => exact readsName_dottedName n.name
  | strict => exact readsName_singleName (hl n hn)

theorem reads_bare {l : NameList} (hl : l.IsSingle) (gap : Gap) (line : Nat) :
    ReadsItems (Reader.importedNames d) (place line (l.spaced gap)) [] l := by
  obtain ⟨nodes, hreads, hitems⟩ := reads_names (.nothing (d == .lenient)) (readsName_of_isSingle d hl) gap line
  rw [List.append_nil] at hreads
  refine ⟨nodes, (Reads.notAccepted fun t ht => ?_).bind hreads, hitems⟩
  cases ht
  exact Identifier.ne_of_head l.first.name.first (by decide)

theorem reads_enclosed {l : NameList} (hl : l.IsSingle) (gap inner : Gap) (comma : Option Gap) (last : Gap)
    (line : Nat) :
    ReadsItems (Reader.importedNames d) (place line (Targets.enclosed gap inner l hl comma last).spaced) [] l := by
  let inside := line + gap.breaks
  let behind := lineAfter inside (l.spaced inner)
  have hends : ∃ closing : Token, closing.text = ")" ∧
      Ends true (place behind ((comma.toList.map fun gap => ⟨gap, .comma⟩) ++ [⟨last, .closing⟩])) [closing] := by
    cases comma with
    | none =>
      refine ⟨Spaced.token behind ⟨last, .closing⟩, rfl, .here fun t ht => ?_⟩
      cases ht
      exact (by decide : ")" ≠ "." ∧ ")" ≠ "as" ∧ ")" ≠ ",")
    | some comma => exact ⟨Spaced.token (behind + comma.breaks) ⟨last, .closing⟩, rfl, .comma rfl rfl rfl⟩
  obtain ⟨closing, hclosing, hends⟩ := hends
  obtain ⟨nodes, hreads, hitems⟩ := reads_names hends (readsName_of_isSingle d hl) inner inside
  refine ⟨nodes, ?_, hitems⟩
  rw [← place_append] at hreads
  refine (Reads.accept (t := Spaced.token line ⟨gap, .opening⟩) _ rfl).bind ?_
  exact hreads.bind ((Reads.expect [] hclosing).bind (Reads.pure nodes []))

/-- The nodes behind that of the module are for what is imported. -/
structure AreBehindModule (t : Targets) (nodes : List Node) : Prop where
  targets : AreTargets t (nodes.filter (·.kind == .star)) (nodes.filter (·.role == some .name))
  notModule : ∀ node ∈ nodes, node.role ≠ some .moduleName

/-- What is imported is told by its first token: a star stands for itself, and a list of names is read as one. -/
theorem reads_targets (t : Targets) (line : Nat) :
    ∃ head more targets, place line t.spaced = head :: more ∧ AreBehindModule t targets ∧
      ((head.text = "*" ∧ more = [] ∧ targets = [.spanning .star [head] []]) ∨
        (head.text ≠ "*" ∧ Reads (Reader.importedNames d) (head :: more) [] targets)) := by
  cases t with
  | star gap =>
    refine ⟨_, _, _, rfl, ⟨.star, ?_⟩, .inl ⟨rfl, rfl, rfl⟩⟩
    exact List.forall_mem_singleton.mpr (by simp [Node.spanning])
  | bare space l single =>
    obtain ⟨targets, hreads, hitems⟩ := reads_bare d single space line
    obtain ⟨hnames, hstars, hnotModule⟩ := filter_items hitems
    refine ⟨_, _, targets, rfl, ⟨?_, hnotModule⟩, .inr ⟨Identifier.ne_of_head l.first.name.first (by decide), hreads⟩⟩
    rw [hnames, hstars]
    exact .bare hitems
  | enclosed gap inner l single comma last =>
    obtain ⟨targets, hreads, hitems⟩ := reads_enclosed d single gap inner comma last line
    obtain ⟨hnames, hstars, hnotModule⟩ := filter_items hitems
    refine ⟨_, _, targets, rfl, ⟨?_, hnotModule⟩, .inr ⟨(by decide : "(" ≠ "*"), hreads⟩⟩
    rw [hnames, hstars]
    exact .enclosed hitems

theorem head_of_origin {o : Origin} (ho : ¬o.IsFeature) (line : Nat) (rest : List Token) :
    ∃ head more, place line o.spaced ++ rest = head :: more ∧ head.text ≠ Node.featureModule := by
  have hpoint : ∀ l : Lexeme, l.kind = .symbol → l.text ≠ Node.featureModule := by
    intro l hl
    cases l with
    | word w => cases hl
    | _ => decide
  cases o with
  | absolute before name after => exact ⟨_, _, rfl, ho⟩
  | relative first more before name after =>
    obtain ⟨l, ts, hpoints, hsymbol⟩ := points_cons first more
    rw [Origin.spaced, hpoints]
    exact ⟨_, _, rfl, hpoint l hsymbol⟩
  | package first more after =>
    obtain ⟨l, ts, hpoints, hsymbol⟩ := points_cons first more
    rw [Origin.spaced, hpoints]
    exact ⟨_, _, rfl, hpoint l hsymbol⟩

theorem reads_fromImport {o : Origin} (ho : ¬o.IsFeature) (t : Targets) (start : Token) (line : Nat) :
    ∃ module targets,
      Reads (Reader.fromImport d start) (place line (o.spaced ++ ⟨o.after, .word importWord⟩ :: t.spaced)) []
        (.spanning .fromImport [start] (module :: targets)) ∧
      IsOrigin o module ∧ AreBehindModule t targets := by
  let behind := lineAfter line o.spaced
  let importToken := Spaced.token behind ⟨o.after, .word importWord⟩
  obtain ⟨first, more, targets, htokens, htargets, hread⟩ := reads_targets d t (behind + o.after.breaks)
  have hplace : place line (o.spaced ++ ⟨o.after, .word importWord⟩ :: t.spaced) =
      place line o.spaced ++ importToken :: first :: more := by
    rw [place_append, place, htokens]
  obtain ⟨module, hmodule, horigin⟩ := reads_origin o line (t := importToken) rfl (first :: more)
  obtain ⟨head, tokens, hhead, hplain⟩ := head_of_origin ho line (importToken :: first :: more)
  refine ⟨module, targets, ?_, horigin, htargets⟩
  rw [hplace, hhead]
  refine (Reads.peekText head tokens).bind ?_
  rw [if_neg (by simpa [Node.featureModule] using fun _ => hplain), ← hhead]
  refine hmodule.bind ((Reads.expect (t := importToken) _ rfl).bind ((Reads.peek _).bind ?_))
  simp only [List.head?_cons]
  rcases hread with ⟨hstar, rfl, rfl⟩ | ⟨hlist, hnames⟩
  · rw [if_pos hstar]
    exact (Reads.next first []).discard.bind (Reads.pure _ [])
  · rw [if_neg hlist]
    exact hnames.bind (Reads.pure _ [])

theorem reads_plainImport (l : NameList) (start : Token) (gap : Gap) (line : Nat) :
    ∃ nodes,
      Reads (Reader.plainImport d start) (place line (l.spaced gap)) [] (.spanning .plainImport [start] nodes) ∧
      List.Forall₂ IsItem l.all nodes := by
  have hnamed : ∀ n ∈ l.all, ReadsName Reader.dottedName n.name := fun n _ => readsName_dottedName n.name
  obtain ⟨nodes, hreads, hitems⟩ := reads_names (.nothing (d == .lenient)) hnamed gap line
  rw [List.append_nil] at hreads
  exact ⟨nodes, hreads.bind (Reads.pure _ []), hitems⟩

theorem isStatement_plain {space : Space} {l : NameList} {nodes : List Node} (h : List.Forall₂ IsItem l.all nodes) :
    IsStatement (.plain space l) (.spanning .plainImport [Spaced.token 1 ⟨[], .word importWord⟩] nodes) := by
  refine .plain rfl rfl ?_
  rw [Node.withRole, Node.spanning, (filter_items h).1]
  exact h

theorem isStatement_fromModule {o : Origin} {t : Targets} {module : Node} {targets : List Node}
    (horigin : IsOrigin o module) (htargets : AreBehindModule t targets) :
    IsStatement (.fromModule o t)
      (.spanning .fromImport [Spaced.token 1 ⟨[], .word fromWord⟩] (module :: targets)) := by
  let node := Node.spanning .fromImport [Spaced.token 1 ⟨[], .word fromWord⟩] (module :: targets)
  have hmodule : node.withRole .moduleName = [module] := by
    have hfirst : node.withRole .moduleName = module :: targets.filter (·.role == some .moduleName) :=
      List.filter_cons_of_pos (by rw [horigin.role]; rfl)
    rw [hfirst, List.filter_eq_nil_iff.mpr fun node hnode => by simpa using htargets.notModule node hnode]
  have hstars : node.ofKind .star = targets.filter (·.kind == .star) :=
    List.filter_cons_of_neg (by simpa using horigin.kind_ne_star)
  have hnames : node.withRole .name = targets.filter (·.role == some .name) :=
    List.filter_cons_of_neg (by rw [horigin.role]; decide)
  refine .fromModule rfl rfl hmodule horigin ?_
  rw [hstars, hnames]
  exact htargets.targets

theorem reads_simpleStatement {s : ImportStatement} (hs : ¬s.IsFeature) :
    ∃ node, Reads (Reader.simpleStatement d) (place 1 s.spaced) [] node ∧ IsStatement s node := by
  cases s with
  | plain space names =>
    let start := Spaced.token 1 ⟨[], .word importWord⟩
    obtain ⟨nodes, hreads, hitems⟩ := reads_plainImport d names start space 1
    refine ⟨.spanning .plainImport [start] nodes, ?_, isStatement_plain hitems⟩
    exact (Reads.get _).bind ((Reads.next start _).discard.bind hreads)
  | fromModule o t =>
    let start := Spaced.token 1 ⟨[], .word fromWord⟩
    obtain ⟨module, targets, hreads, horigin, htargets⟩ := reads_fromImport d hs t start 1
    exact ⟨.spanning .fromImport [start] (module :: targets), hreads, isStatement_fromModule horigin htargets⟩

/-! ### Sources -/

/-- A line that starts with `import` or `from` opens no block. -/
theorem reads_header {t : Token} (ht : t.text = "import" ∨ t.text = "from") (rest : List Token) :
    Reads (Reader.header? d) (t :: rest) (t :: rest) none := by
  have hasync : t.text ≠ "async" := by rcases ht with ht | ht <;> rw [ht] <;> decide
  have hmatch : t.text ≠ "match" := by rcases ht with ht | ht <;> rw [ht] <;> decide
  have hlookup : (Reader.headerParts d).lookup t.text = none := by
    rcases ht with ht | ht <;> rw [ht] <;> rfl
  have hselection : Reader.selection d (t :: rest) = .error ⟨t :: rest, false⟩ := by
    have haccept : Reader.accept "match" (t :: rest) = .ok (false, t :: rest) :=
      Reads.notAccepted fun u hu => by
        cases hu
        exact hmatch
    simp only [Reader.selection, Reader.expect, bind, StateT.bind, haccept]
    rfl
  refine (Reads.get _).bind ((Reads.peekText t rest).bind ?_)
  simp only [hasync, decide_false, Bool.false_and, Bool.false_eq_true, ↓reduceIte]
  refine (Reads.peekText t rest).bind ?_
  rw [hlookup]
  refine (Reads.attempt_of_error hselection).bind ?_
  rw [if_neg (by simp)]
  exact (Reads.set _ _).bind (Reads.pure none _)

end Statements

/-- A source of one line that imports is read as its statement. -/
theorem readLines_single {d : Dialect} {t : Token} (ht : t.text = "import" ∨ t.text = "from") {rest : List Token}
    {node : Node} (hreads : Reads (Reader.simpleStatement d) (t :: rest) [] node) (last : Nat) :
    readLines d [⟨0, t :: rest, last, none⟩] = .ok [node] := by
  let line : LogicalLine := ⟨0, t :: rest, last, none⟩
  have hnone : Reads (Reader.accept ";") [] [] false :=
    Reads.notAccepted fun _ hu => absurd hu (Option.not_mem_none _)
  have hstatements : Reads (Reader.simpleStatements d ((t :: rest).length + 1)) (t :: rest) [] [node] :=
    hreads.bind (hnone.bind ((Reads.atEnd []).bind (Reads.pure [node] [])))
  have hrest : readRest d line (t :: rest) = .ok [node] := by
    rw [readRest, hstatements]
  have hheader : readFrom line (Reader.header? d) = .ok (none, t :: rest) := by
    rw [readFrom, reads_header d ht rest]
  have hplain : startsWith ["@"] line = false := by
    rcases ht with ht | ht <;> simp [startsWith, line, ht]
  -- A single line has eight rounds, and each of `block` and `statement` takes one.
  have hstatement : statement d 7 [0] line [] = .ok ([node], []) := by
    rw [statement, hplain, if_neg Bool.false_ne_true, hheader]
    exact congrArg (· >>= fun nodes => pure (nodes, [])) hrest
  have hbelongs : belongs d [0] line = .ok true := by cases d <;> rfl
  have hblock : block d 8 [0] [line] = .ok ([node], []) := by
    rw [block, hbelongs]
    exact congrArg (· >>= fun p => block d 7 [0] p.2 >>= fun q => pure (p.1 ++ q.1, q.2)) hstatement
  exact congrArg (· >>= fun p => pure p.1) hblock

end Ripple.Source
