import Ripple.Proofs.Graph.Edit

/-! Who is found under a name that was asked for in vain.

Names are compared as texts: one lies beneath another if it is that name or goes on with a point behind it. That is
the same as starting with all of its parts (`liesBeneath_iff`), so no name lies beneath one that only begins with
the same letters, whoever asked for what in which order (`importers_are_found_by_parts`). -/
namespace Ripple

namespace Graph

theorem nodup_danglingImporters (g : Graph) (dotted : String) : (g.danglingImporters dotted).Nodup :=
  nodup_foldl_addNew _

/-- Who is found under a name is found under each name that it lies beneath. -/
theorem danglingImporters_subset (g : Graph) {above dotted : String}
    (h : Text.split '.' above <+: Text.split '.' dotted) :
    g.danglingImporters dotted ⊆ g.danglingImporters above := by
  intro a ha
  obtain ⟨target, hbeneath, hasks⟩ := (mem_danglingImporters ..).mp ha
  have hparts := (liesBeneath_iff ..).mp hbeneath
  exact (mem_danglingImporters ..).mpr ⟨target, (liesBeneath_iff ..).mpr (h.trans hparts), hasks⟩

theorem mem_askers_iff_edit (edits : List GraphEdit) (a : ModuleId) (target : String) :
    a ∈ (ofEdits edits).askers target ↔ target ≠ "" ∧ .dangling a target ∈ edits := by
  rw [mem_askers_ofEdits]
  constructor
  · rintro ⟨_, he, rfl, hne⟩
    exact ⟨hne, he⟩
  · rintro ⟨hne, he⟩
    exact ⟨_, he, rfl, hne⟩

end Graph

/-- **Who asked in vain is found by the parts of names.** Whatever edits build a graph, each importer is listed once
under a name if it asked for something that starts with all parts of this name, and under every name with fewer of
these parts too; nobody else is listed. -/
theorem importers_are_found_by_parts (edits : List GraphEdit) (dotted : String) :
    let found := (Graph.ofEdits edits).danglingImporters
    (found dotted).Nodup ∧
      (∀ a, a ∈ found dotted ↔ ∃ target, target ≠ "" ∧ .dangling a target ∈ edits ∧
        Text.split '.' dotted <+: Text.split '.' target) ∧
      ∀ above, Text.split '.' above <+: Text.split '.' dotted → found dotted ⊆ found above := by
  intro found
  refine ⟨Graph.nodup_danglingImporters .., fun a => ?_, fun above => Graph.danglingImporters_subset _⟩
  simp only [found, Graph.mem_danglingImporters, Graph.mem_askers_iff_edit, Graph.liesBeneath_iff]
  constructor
  · rintro ⟨target, hparts, hne, hedit⟩
    exact ⟨target, hne, hedit, hparts⟩
  · rintro ⟨target, hne, hedit, hparts⟩
    exact ⟨target, hparts, hne, hedit⟩

example :
    (Graph.ofEdits [.dangling "a.py" "pkg.gone_too", .dangling "b.py" "pkg.gone.x.y", .dangling "c.py" "pkg.gone",
      .dangling "b.py" "pkg.gone"]).danglingImporters "pkg.gone" = ["b.py", "c.py"] := by decide

end Ripple
