import Ripple.Proofs.Graph.Edit
import Ripple.Proofs.Impact.Union
import Ripple.Proofs.Path.Above
import Ripple.Proofs.Resolver.Naming

/-! Which seeds changes give.

A module starts in place if it has changed and is still there, or if it makes a package of the nearest folder
around a module that is gone (`StartsInPlace`); one step away starts who asks in vain for a module that is gone
(`AsksForGone`), unless it starts in place (`seeding_is_exact`). The nearest package is found on the way up
through the folders (`enclosingPackage?_eq_some_iff`), and each change makes its offers on its own
(`mem_startsOf_zero_iff`, `mem_startsOf_one_iff`), so nothing depends on how the changes are listed. -/
namespace Ripple

/-! ### The nearest package -/

/-- A folder of the project is around a module. The folder of a package is not around the file that makes it
one. -/
structure Encloses (folder : Path) (id : ModuleId) : Prop where
  /-- The top of the project has no parts. -/
  inside : folder.parts ≠ []
  above : folder.IsAbove (if isPackageFile id then (Path.parse id).parent else Path.parse id)

/-- Of the folders around a module, the nearest one with a package file in the graph. -/
structure NearestPackage (g : Graph) (id : ModuleId) (folder : Path) : Prop where
  encloses : Encloses folder id
  known : g.contains (folder.child packageFile).text = true
  nearest : ∀ other, Encloses other id → g.contains (other.child packageFile).text = true →
    other = folder ∨ other.IsAbove folder

/-- What holds at the start of a list alone holds of the elements of this start alone. -/
theorem takeWhile_eq_filter {α : Type} {p : α → Bool} {l : List α}
    (h : l.Pairwise fun a b => p b = true → p a = true) : l.takeWhile p = l.filter p := by
  induction l with
  | nil => rfl
  | cons a rest ih =>
    obtain ⟨hfirst, hrest⟩ := List.pairwise_cons.mp h
    by_cases ha : p a = true
    · rw [List.takeWhile_cons_of_pos ha, List.filter_cons_of_pos ha, ih hrest]
    · rw [List.takeWhile_cons_of_neg ha, List.filter_cons_of_neg ha, eq_comm, List.filter_eq_nil_iff]
      exact fun b hb hpb => ha (hfirst b hb hpb)

/-- The folders around a module, the nearest first. -/
def foldersAround (id : ModuleId) : List Path :=
  (if isPackageFile id then (Path.parse id).parent else Path.parse id).parents.filter fun q => !q.parts.isEmpty

theorem mem_foldersAround {id : ModuleId} {folder : Path} : folder ∈ foldersAround id ↔ Encloses folder id := by
  rw [foldersAround, List.mem_filter, Path.mem_parents_iff]
  constructor
  · rintro ⟨habove, hparts⟩
    exact ⟨by simpa using hparts, habove⟩
  · rintro ⟨hparts, habove⟩
    exact ⟨habove, by simpa using hparts⟩

theorem foldersAround_descending (id : ModuleId) :
    (foldersAround id).Pairwise fun a b => b.names.length < a.names.length :=
  (Path.parents_descending _).filter _

theorem enclosingPackage?_eq_find (g : Graph) (id : ModuleId) :
    enclosingPackage? g id =
      ((foldersAround id).find? fun folder => g.contains (folder.child packageFile).text).map
        fun folder => (folder.child packageFile).text := by
  have htop : ∀ p : Path, p.parents.Pairwise fun a b => (!b.parts.isEmpty) = true → (!a.parts.isEmpty) = true := by
    intro p
    refine p.parents_descending.imp_of_mem fun {a b} ha hb hlt hparts => ?_
    have hanchor : a.anchor = b.anchor :=
      (Path.mem_parents_iff.mp ha).anchor.trans (Path.mem_parents_iff.mp hb).anchor.symm
    have hnames : a.names ≠ [] := List.ne_nil_of_length_pos (by omega)
    unfold Path.parts
    split <;> simp [hnames]
  have hfile : isPackageFile id = decide ((Path.parse id).name = packageFile) := by
    rw [isPackageFile, Bool.eq_iff_iff, beq_iff_eq, decide_eq_true_iff]
  simp only [enclosingPackage?, foldersAround, hfile, decide_eq_true_eq, takeWhile_eq_filter (htop _), List.find?_map]
  rfl

/-- **The package that is found is the nearest one.** -/
theorem enclosingPackage?_eq_some_iff {g : Graph} {id package : ModuleId} :
    enclosingPackage? g id = some package ↔
      ∃ folder, NearestPackage g id folder ∧ package = (folder.child packageFile).text := by
  rw [enclosingPackage?_eq_find, Option.map_eq_some_iff]
  refine exists_congr fun folder => and_congr ?_ eq_comm
  rw [List.find?_eq_some_iff_append]
  constructor
  · rintro ⟨hknown, before, after, hsplit, hbefore⟩
    have hmem : folder ∈ foldersAround id := hsplit ▸ List.mem_append_right _ (List.mem_cons_self ..)
    have hfolder := mem_foldersAround.mp hmem
    refine ⟨hfolder, hknown, fun other hother hasFile => ?_⟩
    have hdescending := foldersAround_descending id
    rw [hsplit] at hdescending
    have hmember := mem_foldersAround.mpr hother
    rw [hsplit] at hmember
    rcases List.mem_append.mp hmember with hm | hm
    · -- what comes before has no package file
      have hnone := hbefore other hm
      rw [hasFile] at hnone
      cases hnone
    · rcases List.mem_cons.mp hm with rfl | hm
      · exact .inl rfl
      · have hlt := (List.pairwise_cons.mp (List.pairwise_append.mp hdescending).2.1).1 other hm
        exact .inr (hother.above.of_length_lt hfolder.above hlt)
  · intro h
    obtain ⟨before, after, hsplit⟩ := List.append_of_mem (mem_foldersAround.mpr h.encloses)
    refine ⟨h.known, before, after, hsplit, fun other hother => ?_⟩
    have hdescending := foldersAround_descending id
    rw [hsplit] at hdescending
    have hlt := (List.pairwise_append.mp hdescending).2.2 other hother folder (List.mem_cons_self ..)
    have haround : Encloses other id := mem_foldersAround.mp (hsplit ▸ List.mem_append_left _ hother)
    rw [Bool.not_eq_true', ← Bool.not_eq_true]
    intro hasFile
    rcases h.nearest other haround hasFile with rfl | habove
    · exact Nat.lt_irrefl _ hlt
    · exact Nat.lt_asymm hlt habove.shorter

/-! ### What one change offers -/

/-- The module has changed and is there, or makes a package of the nearest folder around a module that is gone. -/
inductive StartsInPlace (g : Graph) (changed : List ModuleId) (m : ModuleId) : Prop
  | changed (hm : m ∈ changed) (known : g.contains m = true)
  | package {id : ModuleId} {folder : Path} (hid : id ∈ changed) (gone : g.contains id = false)
    (nearest : NearestPackage g id folder) (file : m = (folder.child packageFile).text)

/-- The module asks in vain for a name that has all parts of the name of a module that is gone, in front. -/
def AsksForGone (g : Graph) (r : Resolver) (changed : List ModuleId) (m : ModuleId) : Prop :=
  ∃ id ∈ changed, g.contains id = false ∧
    ∃ target, m ∈ g.askers target ∧ Text.split '.' (r.moduleName id) <+: Text.split '.' target

section Offers
variable {g : Graph} {r : Resolver} {changed : List ModuleId} {id m : ModuleId}

theorem mem_startsOf_zero_iff : (m, 0) ∈ startsOf g r id ↔
    g.contains id = true ∧ m = id ∨
      g.contains id = false ∧ ∃ folder, NearestPackage g id folder ∧ m = (folder.child packageFile).text := by
  unfold startsOf
  split
  · next hid => simp [hid]
  · next hid =>
    rw [Bool.not_eq_true] at hid
    simp [hid, ← enclosingPackage?_eq_some_iff]

theorem mem_startsOf_one_iff : (m, 1) ∈ startsOf g r id ↔
    g.contains id = false ∧
      ∃ target, m ∈ g.askers target ∧ Text.split '.' (r.moduleName id) <+: Text.split '.' target := by
  unfold startsOf
  split
  · next hid => simp [hid]
  · next hid =>
    rw [Bool.not_eq_true] at hid
    simp [hid, Graph.mem_danglingImporters, Graph.liesBeneath_iff, and_comm]

theorem exists_mem_startsOf_zero_iff :
    (∃ id ∈ changed, (m, 0) ∈ startsOf g r id) ↔ StartsInPlace g changed m := by
  simp only [mem_startsOf_zero_iff]
  constructor
  · rintro ⟨id, hid, ⟨hknown, rfl⟩ | ⟨hgone, folder, hnearest, hm⟩⟩
    · exact .changed hid hknown
    · exact .package hid hgone hnearest hm
  · intro h
    cases h with
    | changed hm hknown => exact ⟨m, hm, .inl ⟨hknown, rfl⟩⟩
    | package hid hgone hnearest hm => exact ⟨_, hid, .inr ⟨hgone, _, hnearest, hm⟩⟩

theorem exists_mem_startsOf_one_iff :
    (∃ id ∈ changed, (m, 1) ∈ startsOf g r id) ↔ AsksForGone g r changed m := by
  simp only [mem_startsOf_one_iff, AsksForGone]

/-! ### What all changes give -/

theorem near_of_get?_seedsOf {d : Int} (h : (seedsOf g r changed).get? m = some d) : d = 0 ∨ d = 1 :=
  seedsOf_near g r changed (m, d) ((OrderedMap.get?_eq_some_iff ..).mp h)

theorem get?_seedsOf_zero_iff : (seedsOf g r changed).get? m = some 0 ↔ StartsInPlace g changed m := by
  rw [← exists_mem_startsOf_zero_iff (r := r)]
  constructor
  · exact mem_startsOf_of_get?_seedsOf
  · rintro ⟨id, hid, hoffer⟩
    obtain ⟨k, hk, hget⟩ := get?_seedsOf_le hid hoffer
    have hnear := near_of_get?_seedsOf hget
    rwa [show k = 0 by omega] at hget

theorem get?_seedsOf_one_iff :
    (seedsOf g r changed).get? m = some 1 ↔ ¬StartsInPlace g changed m ∧ AsksForGone g r changed m := by
  rw [← get?_seedsOf_zero_iff (r := r), ← exists_mem_startsOf_one_iff]
  constructor
  · intro h
    exact ⟨by simp [h], mem_startsOf_of_get?_seedsOf h⟩
  · rintro ⟨hzero, id, hid, hoffer⟩
    obtain ⟨k, _, hget⟩ := get?_seedsOf_le hid hoffer
    rcases near_of_get?_seedsOf hget with rfl | rfl
    · exact absurd hget hzero
    · exact hget

end Offers

/-- **Changes give exactly the seeds they call for.** In place starts a changed module of the graph, and the
package of the nearest folder around one that is gone; one step away starts any other module that asks in vain
for one that is gone, or for something beneath it; nothing else starts. The modules that are told to be gone are
those of the changes that are not in the graph, in their order, and neither the order of changes nor repeats
leave a trace in the seeds. -/
theorem seeding_is_exact (g : Graph) (r : Resolver) (changed : List ModuleId) :
    let seeds := seedsOf g r changed
    (∀ m, seeds.get? m = some 0 ↔ StartsInPlace g changed m) ∧
    (∀ m, seeds.get? m = some 1 ↔ seeds.get? m ≠ some 0 ∧ AsksForGone g r changed m) ∧
    (∀ m ∈ seeds.keys, seeds.get? m = some 0 ∨ seeds.get? m = some 1) ∧
    ((notIndexed g changed).Sublist changed ∧
      ∀ id, (notIndexed g changed).count id = if g.contains id then 0 else changed.count id) ∧
    ∀ changed', (∀ id, id ∈ changed' ↔ id ∈ changed) → ∀ m, (seedsOf g r changed').get? m = seeds.get? m := by
  intro seeds
  refine ⟨fun m => get?_seedsOf_zero_iff, fun m => ?_, fun m hm => ?_, ⟨List.filter_sublist, fun id => ?_⟩, ?_⟩
  · rw [ne_eq, get?_seedsOf_zero_iff]
    exact get?_seedsOf_one_iff
  · obtain ⟨d, hd⟩ := (OrderedMap.mem_keys_iff ..).mp hm
    rcases near_of_get?_seedsOf hd with rfl | rfl
    · exact .inl hd
    · exact .inr hd
  · rw [notIndexed]
    split
    · next hid => exact List.count_eq_zero.mpr fun hm => by simp [hid] at hm
    · next hid => exact List.count_filter (by simpa using hid)
  · intro changed' hsame
    exact Within.get?_eq (within_seedsOf g r fun id => (hsame id).mp) (within_seedsOf g r fun id => (hsame id).mpr)

/-- A module is gone from a folder of a package that is no package itself: the package starts in place, and so
does a module that has changed although it asks for what is gone; its test starts a step away. -/
theorem seeds_of_change_and_deletion :
    let g := (((Graph.empty.addModule "pkg/__init__.py" true).addModule "pkg/use.py" true).addDangling
      "pkg/use.py" "pkg.sub.gone").addDangling "test_gone.py" "pkg.sub.gone.x"
    let r := Resolver.ofModules ["pkg/__init__.py", "pkg/use.py"]
    (∀ id, id ∈ ["pkg/use.py", "pkg/sub/gone.py"] ↔ id ∈ ["pkg/sub/gone.py", "pkg/use.py", "pkg/sub/gone.py"]) ∧
    StartsInPlace g ["pkg/sub/gone.py", "pkg/use.py", "pkg/sub/gone.py"] "pkg/__init__.py" ∧
    AsksForGone g r ["pkg/sub/gone.py", "pkg/use.py", "pkg/sub/gone.py"] "test_gone.py" ∧
    ∀ changed ∈ [["pkg/use.py", "pkg/sub/gone.py"], ["pkg/sub/gone.py", "pkg/use.py", "pkg/sub/gone.py"]],
      (seedsOf g r changed).get? "pkg/__init__.py" = some 0 ∧ (seedsOf g r changed).get? "pkg/use.py" = some 0 ∧
        (seedsOf g r changed).get? "test_gone.py" = some 1 := by
  intro g r
  have hsame : ∀ id, id ∈ ["pkg/use.py", "pkg/sub/gone.py"] ↔
      id ∈ ["pkg/sub/gone.py", "pkg/use.py", "pkg/sub/gone.py"] := by
    intro id
    simp [or_comm]
  have hpackage : enclosingPackage? g "pkg/sub/gone.py" = some "pkg/__init__.py" := by decide
  have hinit : StartsInPlace g ["pkg/sub/gone.py", "pkg/use.py", "pkg/sub/gone.py"] "pkg/__init__.py" := by
    obtain ⟨folder, hnearest, hfile⟩ := enclosingPackage?_eq_some_iff.mp hpackage
    exact .package (List.mem_cons_self ..) (by decide) hnearest hfile
  have huse : StartsInPlace g ["pkg/sub/gone.py", "pkg/use.py", "pkg/sub/gone.py"] "pkg/use.py" :=
    .changed (by decide) (by decide)
  have hname : r.moduleName "pkg/sub/gone.py" = "pkg.sub.gone" := by
    rw [moduleName_ofModules]
    decide
  have htest : AsksForGone g r ["pkg/sub/gone.py", "pkg/use.py", "pkg/sub/gone.py"] "test_gone.py" := by
    refine ⟨"pkg/sub/gone.py", List.mem_cons_self .., by decide, "pkg.sub.gone.x", by decide, ?_⟩
    rw [hname]
    decide
  have hwaits : ¬StartsInPlace g ["pkg/sub/gone.py", "pkg/use.py", "pkg/sub/gone.py"] "test_gone.py" := by
    rw [← exists_mem_startsOf_zero_iff (r := ⟨[], ∅, []⟩)]
    decide
  obtain ⟨hzero, hone, _, _, horder⟩ :=
    seeding_is_exact g r ["pkg/sub/gone.py", "pkg/use.py", "pkg/sub/gone.py"]
  have hgiven := (hzero _).mpr hinit
  have hgiven' := (hzero _).mpr huse
  have hasked := (hone "test_gone.py").mpr ⟨fun h => hwaits ((hzero _).mp h), htest⟩
  refine ⟨hsame, hinit, htest, fun changed hchanged => ?_⟩
  rcases List.mem_cons.mp hchanged with rfl | hchanged
  · -- the same changes in another order, each once
    rw [horder _ hsame, horder _ hsame, horder _ hsame]
    exact ⟨hgiven, hgiven', hasked⟩
  · obtain rfl := List.mem_singleton.mp hchanged
    exact ⟨hgiven, hgiven', hasked⟩

end Ripple
