import Ripple.Source.Parser

/-! The first error of a syntax tree.

The search for an error keeps the nodes that are still to be looked at in a list, and looks below a node only if the
node says that it holds an error. Where the nodes say so rightly (`IsTruthful`), nothing that is passed over could
have been found, so the search comes upon the errors in the order of the tree (`firstErrorLine?_eq`). A tree that
has an error is therefore always told with the line of its first one (`first_error_is_told`). -/
namespace Ripple.Source.Node

mutual

/-- The node and all nodes below it, from left to right, each before those that it holds. -/
def all : Node → List Node
  | n@⟨_, _, _, _, _, _, children⟩ => n :: allOf children

def allOf : List Node → List Node
  | [] => []
  | n :: rest => n.all ++ allOf rest

end

theorem all_eq (n : Node) : n.all = n :: allOf n.children := by
  cases n
  rw [all]

theorem self_mem_all (n : Node) : n ∈ n.all := by
  rw [all_eq]
  exact List.mem_cons_self ..

theorem allOf_append (a b : List Node) : allOf (a ++ b) = allOf a ++ allOf b := by
  induction a with
  | nil => rfl
  | cons n rest ih => rw [List.cons_append, allOf, allOf, ih, List.append_assoc]

/-- Each node says that it holds an error exactly if it is one or one is below it. -/
def IsTruthful (nodes : List Node) : Prop :=
  ∀ n ∈ nodes, n.hasError = true ↔ ∃ e ∈ n.all, e.isError = true

instance (nodes : List Node) : Decidable (IsTruthful nodes) := inferInstanceAs (Decidable (∀ n ∈ nodes, _))

/-- **The search finds the first error in the order of the tree.** -/
theorem firstErrorLine?_eq {nodes : List Node} (h : IsTruthful (allOf nodes)) :
    firstErrorLine? nodes = ((allOf nodes).find? isError).map (·.line) := by
  fun_induction firstErrorLine? nodes with
  | case1 => rfl
  | case2 n rest herror =>
    rw [allOf, all_eq, List.cons_append, List.find?_cons_of_pos herror]
    rfl
  | case3 n rest hplain hholds ih =>
    have horder : allOf (n :: rest) = n :: allOf (n.children ++ rest) := by
      rw [allOf, all_eq, allOf_append, List.cons_append]
    rw [horder] at h ⊢
    rw [List.find?_cons_of_neg hplain]
    exact ih fun m hm => h m (List.mem_cons_of_mem n hm)
  | case4 n rest hplain hnone ih =>
    rw [allOf] at h ⊢
    have hhere : n ∈ n.all ++ allOf rest := List.mem_append_left _ n.self_mem_all
    have hclean : n.all.find? isError = none := by
      rw [List.find?_eq_none]
      exact fun e he herror => hnone ((h n hhere).mpr ⟨e, he, herror⟩)
    rw [List.find?_append, hclean, Option.none_or]
    exact ih fun m hm => h m (List.mem_append_right _ hm)

/-- **A tree with an error is told with the line of its first one**: the first node in the order of the tree that is
an error or was put in where something is missing. -/
theorem first_error_is_told (file : ModuleId) {root : Node} (htruth : IsTruthful root.all)
    (h : root.hasError = true) :
    ∃ e, root.all.find? isError = some e ∧ firstErrorLine? [root] = some e.line ∧
      root.imports file = .error ⟨.invalid, file, some e.line⟩ := by
  have halone : allOf [root] = root.all := List.append_nil _
  obtain ⟨e, hfirst⟩ : ∃ e, root.all.find? isError = some e := by
    obtain ⟨e, he, herror⟩ := (htruth root root.self_mem_all).mp h
    exact Option.isSome_iff_exists.mp (List.find?_isSome.mpr ⟨e, he, herror⟩)
  have hline : firstErrorLine? [root] = some e.line := by
    rw [firstErrorLine?_eq (halone.symm ▸ htruth), halone, hfirst]
    rfl
  refine ⟨e, hfirst, hline, ?_⟩
  rw [imports, if_pos h, hline]

/-- A call without its closing bracket, which is put in a line later, and an error behind it. -/
def openCall : Node :=
  ⟨.statement, none, 1, "a\nf(\n!", false, true,
    [⟨.statement, none, 1, "a", false, false, [⟨.identifier, none, 1, "a", false, false, []⟩]⟩,
      ⟨.statement, none, 2, "f(", false, true,
        [⟨.identifier, none, 2, "f", false, false, []⟩, ⟨.statement, none, 3, "", true, true, []⟩]⟩,
      failure 4]⟩

theorem open_call_is_told_where_it_should_end :
    IsTruthful openCall.all ∧ openCall.hasError = true ∧
      openCall.imports "m.py" = .error ⟨.invalid, "m.py", some 3⟩ := by
  have htruth : IsTruthful openCall.all := by decide
  obtain ⟨e, hfirst, _, htold⟩ := first_error_is_told "m.py" htruth rfl
  have hmissing : openCall.all.find? isError = some ⟨.statement, none, 3, "", true, true, []⟩ := rfl
  obtain rfl := Option.some.inj (hfirst.symm.trans hmissing)
  exact ⟨htruth, rfl, htold⟩

end Ripple.Source.Node
