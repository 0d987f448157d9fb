import Ripple.Files.Workspace
import Ripple.Proofs.Files.Tree

/-! Workspaces stay well-formed.

Following links ends under proper names only (`FileTree.proper_follow`), so whatever is written, made or
deleted has a place with proper names, and the tree stays as a file system keeps it
(`Workspace.WellFormed.write` and its likes). -/
namespace Ripple

/-- Wherever a way with proper names ends, it ends under proper names. -/
theorem FileTree.proper_follow (t : FileTree) (depth : Nat) (opened : List (List String)) (here : List String)
    (missed : Bool) (rest : List String) (hhere : ∀ n ∈ here, Path.IsProper n)
    (hrest : ∀ n ∈ rest, Path.IsProper n) :
    ∀ n ∈ (t.follow depth opened here missed rest).names, Path.IsProper n := by
  have hlink : ∀ {here : List String}, (∀ n ∈ here, Path.IsProper n) → ∀ target : String,
      ∀ n ∈ if (Path.parse target).isAbsolute then [] else here, Path.IsProper n := by
    intro here hhere target n hn
    split at hn
    · cases hn
    · exact hhere n hn
  fun_induction FileTree.follow t depth opened here missed rest with
  | case1 => exact hhere
  | case2 depth opened here missed rest ih =>
    exact ih (fun n hn => hhere n (List.dropLast_subset _ hn)) (List.forall_mem_cons.mp hrest).2
  | case3 depth opened here missed name rest _ next _ ih =>
    obtain ⟨hname, hrest⟩ := List.forall_mem_cons.mp hrest
    exact ih (Path.proper_concat hhere hname) hrest
  | case4 opened here missed name rest _ next target _ =>
    obtain ⟨hname, hrest⟩ := List.forall_mem_cons.mp hrest
    exact List.forall_mem_append.mpr ⟨Path.proper_concat hhere hname, hrest⟩
  | case5 opened here missed name rest _ next target _ depth _ =>
    obtain ⟨hname, hrest⟩ := List.forall_mem_cons.mp hrest
    exact List.forall_mem_append.mpr ⟨Path.proper_concat hhere hname, hrest⟩
  | case6 opened here missed name rest _ next target _ depth _ _ start inner _ ih =>
    exact List.forall_mem_append.mpr
      ⟨ih (hlink hhere target) fun n => Path.proper_of_mem_parse, (List.forall_mem_cons.mp hrest).2⟩
  | case7 opened here missed name rest _ next target _ depth _ _ start inner _ ih₁ ih₂ ih =>
    exact ih (ih₁ (hlink hhere target) fun n => Path.proper_of_mem_parse) (List.forall_mem_cons.mp hrest).2
  | case8 depth opened here missed name rest _ next found _ _ ih =>
    obtain ⟨hname, hrest⟩ := List.forall_mem_cons.mp hrest
    exact ih (Path.proper_concat hhere hname) hrest

namespace Workspace

/-- The tree is one that a file system can keep, and paths go out from proper names. -/
structure WellFormed (w : Workspace) : Prop where
  files : w.files.WellFormed
  cwd : ∀ n ∈ w.cwd.names, Path.IsProper n

namespace WellFormed
variable {w : Workspace} {p : Path} (h : w.WellFormed) (hp : ∀ n ∈ p.names, Path.IsProper n)
include h hp

theorem proper_join : ∀ n ∈ (w.cwd / p).names, Path.IsProper n := by
  intro n hn
  have hjoin : w.cwd / p = if p.isAbsolute then p else ⟨w.cwd.anchor, w.cwd.names ++ p.names⟩ := rfl
  rw [hjoin] at hn
  split at hn
  · exact hp n hn
  · exact (List.mem_append.mp hn).elim (h.cwd n) (hp n)

theorem proper_place : ∀ n ∈ w.place p, Path.IsProper n :=
  w.files.proper_follow _ _ _ _ _ (by simp) (h.proper_join hp)

theorem proper_entryPlace : ∀ n ∈ w.entryPlace p, Path.IsProper n := by
  have hjoin := h.proper_join hp
  have hparent : ∀ n ∈ (w.cwd / p).parent.names, Path.IsProper n :=
    fun n hn => hjoin n (List.dropLast_subset _ hn)
  intro n hn
  rcases List.mem_append.mp hn with hn | hn
  · exact h.proper_place hparent n hn
  · exact hjoin n (List.mem_of_mem_drop hn)

theorem write (bytes : List UInt8) : (w.write p bytes).WellFormed :=
  ⟨h.files.put (h.proper_place hp) (.file bytes), h.cwd⟩

theorem makeFolder : (w.makeFolder p).WellFormed := by
  unfold Workspace.makeFolder
  split
  · exact h
  · exact ⟨h.files.put (h.proper_place hp) .nil, h.cwd⟩

theorem makeLink (target : String) : (w.makeLink p target).WellFormed :=
  ⟨h.files.put (h.proper_entryPlace hp) (.link target), h.cwd⟩

theorem delete : (w.delete p).WellFormed :=
  ⟨h.files.remove (h.proper_entryPlace hp), h.cwd⟩

end WellFormed

theorem isPresent_of_isFile {w : Workspace} {p : Path} (h : w.isFile p = true) : w.isPresent p = true := by
  obtain ⟨bytes, hbytes⟩ := FileTree.isFileAt_iff.mp h
  exact FileTree.isPresent_iff.mpr ⟨_, hbytes⟩

end Workspace

end Ripple
