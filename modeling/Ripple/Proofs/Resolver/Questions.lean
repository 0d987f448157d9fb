import Mathlib.Data.List.Basic
import Ripple.Proofs.Resolver.Resolution

/-! What an import of names comes to, name by name.

The questions of an import are those of its names asked one at a time (`Import.questions_asking`), and so is
the answer: what is asked in vain comes in the order of the names, and a target is one that some name has
alone (`missing_asking`, `mem_targets_asking`). A name asked of a module is one more part of the module
(`resolve_dotted_name`), so the spellings of an import agree (`import_spellings_agree`). Every name leads to
a target or is told as missing, and what else is a target is the module that the names could come from
(`accounts_resolve`); an answer is empty only where there is nothing to ask for (`resolve_empty_iff`). -/
namespace Ripple

/-- The import, for one name only. -/
def Import.asking (i : Import) (name : String) : Import := { i with names := [name] }

theorem Import.asked_of_no_star {i : Import} (h : "*" ∉ i.names) : i.asked = i.names := by
  refine if_neg fun hstar => h ?_
  rw [hstar]
  exact List.mem_singleton_self _

theorem Import.questions_asking {i : Import} (hnames : i.names ≠ []) (hstar : "*" ∉ i.names) :
    i.questions = i.names.flatMap fun name => (i.asking name).questions := by
  have hone : ∀ name ∈ i.names, (i.asking name).questions = [[name]] := by
    intro name hname
    have hne : name ≠ "*" := fun he => hstar (he ▸ hname)
    have hasked : (i.asking name).asked = [name] := asked_of_no_star (by simpa [asking] using hne.symm)
    simp [questions, hasked]
  calc i.questions = i.names.map fun name => [name] := by
        rw [questions, asked_of_no_star hstar, if_neg hnames]
    _ = i.names.flatMap fun name => [[name]] := List.map_eq_flatMap
    _ = i.names.flatMap fun name => (i.asking name).questions :=
        List.flatMap_congr fun name hname => (hone name hname).symm

namespace Resolver

section Names
variable {r : Resolver} {i : Import} {anchor : List String}

theorem nodup_targets (r : Resolver) (i : Import) : (r.resolve i).targets.Nodup := by
  cases ha : anchor? i with
  | none =>
    rw [resolve_eq_empty ha]
    exact List.nodup_nil
  | some anchor =>
    rw [resolve_eq ha]
    exact nodup_foldl_addNew _

/-! ### One name at a time -/

theorem resolve_asking_eq_empty (ha : anchor? i = none) (name : String) : r.resolve (i.asking name) = ∅ :=
  resolve_eq_empty ha

theorem unanswered_asking (hnames : i.names ≠ []) (hstar : "*" ∉ i.names) :
    r.unanswered anchor i = i.names.flatMap fun name => r.unanswered anchor (i.asking name) := by
  rw [unanswered, Import.questions_asking hnames hstar, List.filter_flatMap]
  rfl

theorem missing_asking (hnames : i.names ≠ []) (hstar : "*" ∉ i.names) :
    (r.resolve i).missing = i.names.flatMap fun name => (r.resolve (i.asking name)).missing := by
  cases ha : anchor? i with
  | none =>
    simp [resolve_eq_empty ha, resolve_asking_eq_empty ha, EmptyCollection.emptyCollection]
  | some anchor =>
    have hone : ∀ name, r.resolve (i.asking name) = r.answer anchor (i.asking name) := fun name => resolve_eq ha
    simp only [resolve_eq ha, hone, answer, unanswered_asking hnames hstar, List.map_flatMap]
    rfl

theorem mem_targets_asking (hnames : i.names ≠ []) (hstar : "*" ∉ i.names) (t : ModuleId) :
    t ∈ (r.resolve i).targets ↔ ∃ name ∈ i.names, t ∈ (r.resolve (i.asking name)).targets := by
  cases ha : anchor? i with
  | none =>
    simp [resolve_eq_empty ha, resolve_asking_eq_empty ha, EmptyCollection.emptyCollection]
  | some anchor =>
    have hone : ∀ name, (t ∈ (r.resolve (i.asking name)).targets ↔
        (∃ asked ∈ (i.asking name).questions, r.lookup (anchor ++ i.parts ++ asked) = some t) ∨
          r.unanswered anchor (i.asking name) ≠ [] ∧
            r.lookupTrimmed (anchor ++ i.parts) (floor anchor i) = some t) := fun name =>
      mem_targets_iff (i := i.asking name) ha t
    have hsome : r.unanswered anchor i ≠ [] ↔ ∃ name ∈ i.names, r.unanswered anchor (i.asking name) ≠ [] := by
      simp [unanswered_asking hnames hstar]
    rw [mem_targets_iff ha, hsome, Import.questions_asking hnames hstar]
    simp only [hone, List.mem_flatMap]
    constructor
    · intro h
      rcases h with ⟨asked, ⟨name, hname, hasked⟩, ht⟩ | ⟨⟨name, hname, hnone⟩, ht⟩
      · exact ⟨name, hname, .inl ⟨asked, hasked, ht⟩⟩
      · exact ⟨name, hname, .inr ⟨hnone, ht⟩⟩
    · intro h
      obtain ⟨name, hname, ⟨asked, hasked, ht⟩ | ⟨hnone, ht⟩⟩ := h
      · exact .inl ⟨asked, ⟨name, hname, hasked⟩, ht⟩
      · exact .inr ⟨⟨name, hname, hnone⟩, ht⟩

/-! ### A name as one more part -/

/-- Where the whole has no module, its last part does not matter. -/
theorem lookupTrimmed_concat {parts : List String} {name : String} {floor : Nat}
    (hwhole : r.lookup (parts ++ [name]) = none) :
    r.lookupTrimmed (parts ++ [name]) floor = r.lookupTrimmed parts floor := by
  refine Option.ext fun m => ?_
  have hstart : ∀ k, k ≤ parts.length → (parts ++ [name]).take k = parts.take k :=
    fun k hk => List.take_append_of_le_length hk
  have hend : ∀ k, parts.length < k → r.lookup ((parts ++ [name]).take k) = none := by
    intro k hk
    rwa [List.take_of_length_le (by simp; omega)]
  rw [lookupTrimmed_eq_some_iff, lookupTrimmed_eq_some_iff, List.length_append, List.length_singleton]
  refine exists_congr fun n => and_congr_right fun _ => ?_
  constructor
  · intro h
    obtain ⟨_, hm, hlonger⟩ := h
    have hn : n ≤ parts.length := by
      refine Nat.not_lt.mp fun hlong => ?_
      rw [hend n hlong] at hm
      cases hm
    exact ⟨hn, hstart n hn ▸ hm, fun k hlow hk => hstart k hk ▸ hlonger k hlow (by omega)⟩
  · intro h
    obtain ⟨hn, hm, hlonger⟩ := h
    refine ⟨by omega, (hstart n hn).symm ▸ hm, fun k hlow _ => ?_⟩
    by_cases hk : k ≤ parts.length
    · exact (hstart k hk).symm ▸ hlonger k hlow hk
    · exact hend k (by omega)

/-- The module with a name at its end is answered like the name. -/
theorem resolve_dotted_name {dotted name : String} (hdotted : dotted ≠ "") (hundotted : '.' ∉ name.toList)
    (hstar : name ≠ "*") (file file' : ModuleId) (line line' : Nat) :
    r.resolve ⟨dotted ++ "." ++ name, 0, [], file, line⟩ = r.resolve ⟨dotted, 0, [name], file', line'⟩ := by
  have hplain : (⟨dotted ++ "." ++ name, 0, [], file, line⟩ : Import).parts = Text.split '.' dotted ++ [name] := by
    have hne : dotted ++ "." ++ name ≠ "" := by simp
    rw [Import.parts, if_neg hne, Text.split_append_separator rfl, Text.split_of_not_mem hundotted]
  have hfrom : (⟨dotted, 0, [name], file', line'⟩ : Import).parts = Text.split '.' dotted := if_neg hdotted
  have hquestions : (⟨dotted, 0, [name], file', line'⟩ : Import).questions = [[name]] := by
    simp [Import.questions, Import.asked, hstar]
  have hone : (⟨dotted ++ "." ++ name, 0, [], file, line⟩ : Import).questions = [[]] := rfl
  have hname : r.absoluteName [] ⟨dotted ++ "." ++ name, 0, [], file, line⟩ [] =
      r.absoluteName [] ⟨dotted, 0, [name], file', line'⟩ [name] := by
    simp [absoluteName, hplain, hfrom]
  rw [resolve_eq rfl, resolve_eq rfl]
  simp only [answer, unanswered, floor, hplain, hfrom, hquestions, hone]
  cases hwhole : r.lookup (Text.split '.' dotted ++ [name]) with
  | none => simp [hwhole, lookupTrimmed_concat hwhole, hname]
  | some m => simp [hwhole]

/-! ### What is left out of an answer -/

/-- Only who asks for nothing but the root of the project is answered by nothing. -/
theorem resolve_empty_iff (ha : anchor? i = some anchor) :
    (r.resolve i).targets = [] ∧ (r.resolve i).missing = [] ↔ anchor = [] ∧ i.dotted = "" ∧ i.asked = [] := by
  constructor
  · intro h
    obtain ⟨htargets, hmissing⟩ := h
    -- a question that nothing answers is about no parts at all
    have hnothing : ∀ asked ∈ i.questions, anchor ++ i.parts ++ asked = [] := by
      intro asked hasked
      refine Decidable.byContradiction fun hne => ?_
      cases hlookup : r.lookup (anchor ++ i.parts ++ asked) with
      | none =>
        have hmem := (mem_missing_iff ha _).mpr ⟨asked, mem_unanswered.mpr ⟨hasked, hne, hlookup⟩, rfl⟩
        rw [hmissing] at hmem
        cases hmem
      | some t =>
        have hmem := (mem_targets_iff ha t).mpr (.inl ⟨asked, hasked, hlookup⟩)
        rw [htargets] at hmem
        cases hmem
    have hasked : i.asked = [] := by
      refine Decidable.byContradiction fun hne => ?_
      obtain ⟨name, hname⟩ := List.exists_mem_of_ne_nil _ hne
      have hquestion : [name] ∈ i.questions := by
        rw [Import.questions, if_neg hne]
        exact List.mem_map_of_mem hname
      simpa using hnothing [name] hquestion
    have hbase := hnothing [] (by simp [Import.questions, hasked])
    rw [List.append_nil, List.append_eq_nil_iff, Import.parts_eq_nil_iff] at hbase
    exact ⟨hbase.1, hbase.2, hasked⟩
  · intro h
    obtain ⟨rfl, hdotted, hasked⟩ := h
    have hquestions : i.questions = [[]] := if_pos hasked
    have hparts : i.parts = [] := Import.parts_eq_nil_iff.mpr hdotted
    have hfound : [[]].filterMap r.lookup = [] := rfl
    simp [resolve_eq ha, answer, unanswered, hquestions, hparts, hfound]

/-- An answer to an import that starts from a folder accounts for all of its names and for nothing else. -/
structure Accounts (r : Resolver) (anchor : List String) (i : Import) (answer : Resolution) : Prop where
  /-- What a name leads to is a target. -/
  found : ∀ name ∈ i.asked, ∀ t, r.lookup (anchor ++ i.parts ++ [name]) = some t → t ∈ answer.targets
  /-- A name that leads nowhere is told once. -/
  told : i.asked ≠ [] → answer.missing = i.asked.flatMap fun name =>
    if r.lookup (anchor ++ i.parts ++ [name]) = none then [r.absoluteName anchor i [name]] else []
  /-- A target that no name leads to is the module of the longest start that has one. -/
  source : ∀ t ∈ answer.targets, (∀ name ∈ i.asked, r.lookup (anchor ++ i.parts ++ [name]) ≠ some t) →
    ∃ n, floor anchor i ≤ n ∧ n ≤ (anchor ++ i.parts).length ∧
      r.lookup ((anchor ++ i.parts).take n) = some t ∧
      ∀ k, n < k → k ≤ (anchor ++ i.parts).length → r.lookup ((anchor ++ i.parts).take k) = none

theorem accounts_resolve (ha : anchor? i = some anchor) : r.Accounts anchor i (r.resolve i) where
  found name hname t ht := (mem_targets_resolve ha t).mpr (.inl ⟨name, hname, ht⟩)
  told hasked := by
    have hresolve : r.resolve i = r.resolveNames anchor i i.asked := by
      rw [resolve_eq ha, resolveNames_eq hasked]
    rw [hresolve, missing_resolveNames]
    induction i.asked with
    | nil => rfl
    | cons name rest ih =>
      rw [List.filter_cons, List.flatMap_cons, ← ih]
      by_cases hlookup : r.lookup (anchor ++ i.parts ++ [name]) = none
      · simp only [hlookup, decide_true, if_true, List.map_cons, List.singleton_append]
      · simp only [hlookup, decide_false, Bool.false_eq_true, if_false, List.nil_append]
  source t ht hnone := by
    rcases (mem_targets_resolve ha t).mp ht with ⟨name, hname, hfound⟩ | ⟨_, _, hsource⟩
    · exact absurd hfound (hnone name hname)
    · exact lookupTrimmed_eq_some_iff.mp hsource

end Names

end Resolver

open Resolver

/-- **The spellings of an import agree**: a module with a name at its end and the name asked of the module, and
several names at once and one after the other. -/
theorem import_spellings_agree (r : Resolver) :
    (∀ dotted name, dotted ≠ "" → '.' ∉ name.toList → name ≠ "*" → ∀ file line file' line',
      r.resolve ⟨dotted ++ "." ++ name, 0, [], file, line⟩ = r.resolve ⟨dotted, 0, [name], file', line'⟩) ∧
    ∀ i : Import, i.names ≠ [] → "*" ∉ i.names →
      (r.resolve i).missing = i.names.flatMap (fun name => (r.resolve (i.asking name)).missing) ∧
      (r.resolve i).targets.Nodup ∧
      ∀ t, t ∈ (r.resolve i).targets ↔ ∃ name ∈ i.names, t ∈ (r.resolve (i.asking name)).targets :=
  ⟨fun _ _ hdotted hundotted hstar file line file' line' =>
      resolve_dotted_name hdotted hundotted hstar file file' line line',
    fun i hnames hstar => ⟨missing_asking hnames hstar, nodup_targets r i, mem_targets_asking hnames hstar⟩⟩

/-- The package answers for a name that it has no module for, and is a target once. -/
theorem spellings_of_package_names_agree :
    let r := ofModules ["pkg/__init__.py", "pkg/a.py"]
    let i : Import := ⟨"pkg", 0, ["b", "a", "c"], "main.py", 1⟩
    "pkg" ≠ "" ∧ '.' ∉ "b".toList ∧ "b" ≠ "*" ∧ i.names ≠ [] ∧ "*" ∉ i.names ∧
      r.resolve ⟨"pkg.b", 0, [], "main.py", 1⟩ = r.resolve (i.asking "b") ∧
      (r.resolve i).missing = ["pkg.b", "pkg.c"] ∧ (r.resolve i).targets.Nodup ∧
      "pkg/__init__.py" ∈ (r.resolve i).targets := by
  intro r i
  have hr : r = ofModules ["pkg/__init__.py", "pkg/a.py"] := rfl
  have hb : r.resolve (i.asking "b") = ⟨["pkg/__init__.py"], ["pkg.b"]⟩ := by
    rw [hr, ofModules, sortIds_ascending (by decide)]
    decide
  have hothers : (r.resolve (i.asking "a")).missing = [] ∧ (r.resolve (i.asking "c")).missing = ["pkg.c"] := by
    rw [hr, ofModules, sortIds_ascending (by decide)]
    decide
  have hdotted : "pkg" ≠ "" := by decide
  have hundotted : '.' ∉ "b".toList := by decide
  have hplain : "b" ≠ "*" := by decide
  have hnames : i.names ≠ [] := by decide
  have hstar : "*" ∉ i.names := by decide
  obtain ⟨hspelling, hone⟩ := import_spellings_agree r
  obtain ⟨hmissing, hnodup, htargets⟩ := hone i hnames hstar
  refine ⟨hdotted, hundotted, hplain, hnames, hstar, ?_, ?_, hnodup, ?_⟩
  · exact hspelling "pkg" "b" hdotted hundotted hplain "main.py" 1 "main.py" 1
  · rw [hmissing]
    simp [i, hb, hothers]
  · exact (htargets _).mpr ⟨"b", by decide, by rw [hb]; decide⟩

/-- The statement has all that its form asks for: a module, or dots and names. -/
structure Import.IsComplete (i : Import) : Prop where
  dotted : i.level = 0 → i.dotted ≠ ""
  names : 0 < i.level → i.names ≠ []

/-- **Resolving loses nothing and invents nothing**: targets are modules of the project, each once; all names
are accounted for; and nothing at all comes only of an import that leads out of the project or asks for
whatever there is at its root. -/
theorem resolution_accounts_for_imports {ids : List ModuleId} {i : Import} (hi : i.IsComplete) :
    let r := ofModules ids
    ((r.resolve i).targets.Nodup ∧ ∀ t ∈ (r.resolve i).targets, t ∈ ids) ∧
      (∀ folder, anchor? i = some folder → r.Accounts folder i (r.resolve i)) ∧
      ((r.resolve i).targets = [] ∧ (r.resolve i).missing = [] ↔
        anchor? i = none ∨ anchor? i = some [] ∧ 0 < i.level ∧ i.dotted = "" ∧ i.names = ["*"]) := by
  intro r
  refine ⟨⟨nodup_targets r i, fun t ht => targets_subset ht⟩, fun folder ha => accounts_resolve ha, ?_⟩
  cases ha : anchor? i with
  | none => simp [resolve_eq_empty ha, EmptyCollection.emptyCollection]
  | some folder =>
    rw [resolve_empty_iff ha]
    simp only [reduceCtorEq, Option.some.injEq, false_or]
    refine and_congr_right fun _ => ?_
    constructor
    · intro h
      obtain ⟨hdotted, hasked⟩ := h
      have hlevel : 0 < i.level := Nat.pos_of_ne_zero fun hzero => hi.dotted hzero hdotted
      refine ⟨hlevel, hdotted, Decidable.byContradiction fun hplain => hi.names hlevel ?_⟩
      rwa [Import.asked, if_neg hplain] at hasked
    · intro h
      exact ⟨h.2.1, if_pos h.2.2⟩

/-- A package answers for a name without a module, and at the root there is no package to answer for a star. -/
theorem package_answers_for_names_and_root_for_nothing :
    let r := ofModules ["pkg/__init__.py", "pkg/a.py"]
    let names : Import := ⟨"", 1, ["a", "b"], "pkg/mod.py", 1⟩
    let star : Import := ⟨"", 1, ["*"], "main.py", 1⟩
    names.IsComplete ∧ anchor? names = some ["pkg"] ∧
      r.resolve names = ⟨["pkg/a.py", "pkg/__init__.py"], ["pkg.b"]⟩ ∧ r.Accounts ["pkg"] names (r.resolve names) ∧
      star.IsComplete ∧ anchor? star = some [] ∧ (r.resolve star).targets = [] ∧ (r.resolve star).missing = [] := by
  intro r names star
  have hnames : names.IsComplete := ⟨by decide, by decide⟩
  have hstar : star.IsComplete := ⟨by decide, by decide⟩
  have hpkg : anchor? names = some ["pkg"] := by decide
  have hroot : anchor? star = some [] := by decide
  have hanswer : r.resolve names = ⟨["pkg/a.py", "pkg/__init__.py"], ["pkg.b"]⟩ := by
    show (ofModules ["pkg/__init__.py", "pkg/a.py"]).resolve names = _
    rw [ofModules, sortIds_ascending (by decide)]
    decide
  obtain ⟨_, haccounts, _⟩ := @resolution_accounts_for_imports ["pkg/__init__.py", "pkg/a.py"] names hnames
  obtain ⟨_, _, hnothing⟩ := @resolution_accounts_for_imports ["pkg/__init__.py", "pkg/a.py"] star hstar
  exact ⟨hnames, hpkg, hanswer, haccounts ["pkg"] hpkg, hstar, hroot,
    hnothing.mpr (.inr ⟨hroot, by decide, rfl, rfl⟩)⟩

end Ripple
