import Ripple.Proofs.Graph.Edit
import Ripple.Proofs.Resolver.Packaged

/-! Taking plain modules out of a packaged project.

What is left is a packaged project, and its resolver answers as before unless the answer is gone
(`Packaged.lookup_remaining`). So an import keeps the targets that are left
(`Packaged.target_remaining`), and for a target that is gone it asks in vain, under the name of that
module or one beneath it (`Packaged.missing_remaining`). -/
namespace Ripple

open Resolver

/-! ### What is left -/

/-- The modules that are left without those in `gone`. -/
def remaining (ids gone : List ModuleId) : List ModuleId := ids.filter fun id => !gone.contains id

theorem mem_remaining (ids gone : List ModuleId) (m : ModuleId) :
    m ∈ remaining ids gone ↔ m ∈ ids ∧ m ∉ gone := by
  simp [remaining]

namespace Packaged
variable {ids gone : List ModuleId} (h : Packaged ids) (hgone : ∀ d ∈ gone, isPackageFile d = false)
include h hgone

omit h in
theorem packageFile_not_gone {folder : List String} (hs : ∀ s ∈ folder, IsSegment s) :
    fileOf (folder ++ ["__init__"]) ∉ gone := by
  intro hd
  have hpackage := (isPackageFile_fileOf (segments_concat hs isSegment_init)).mpr rfl
  rw [hgone _ hd] at hpackage
  cases hpackage

/-- Every package above a module of the project is left. -/
theorem enclosed_remaining {id : ModuleId} (hid : id ∈ ids) :
    ∀ q ∈ (Path.parse id).parents, q.names ≠ [] → (q.child packageFile).text ∈ remaining ids gone := by
  intro q hq hne
  have hm := h.enclosed id hid q hq hne
  obtain ⟨folder, stem, hs, rfl⟩ := h.shaped id hid
  rw [parse_fileOf hs] at hq
  obtain ⟨n, rfl⟩ := Path.mem_parents_concat hq
  rw [child_packageFile] at hm ⊢
  exact (mem_remaining ..).mpr ⟨hm, packageFile_not_gone hgone
    fun s hm => hs s (List.mem_append_left _ (List.mem_of_mem_take hm))⟩

theorem of_remaining : Packaged (remaining ids gone) where
  shaped id hid := h.shaped id ((mem_remaining ..).mp hid).1
  enclosed _ hid := h.enclosed_remaining hgone ((mem_remaining ..).mp hid).1
  unshadowed parts hfile hpackage :=
    h.unshadowed parts ((mem_remaining ..).mp hfile).1 ((mem_remaining ..).mp hpackage).1

/-- A module that is gone keeps its name. -/
theorem moduleName_remaining {folder : List String} {stem : String}
    (hs : ∀ s ∈ folder ++ [stem], IsSegment s) (hm : fileOf (folder ++ [stem]) ∈ ids) :
    (ofModules (remaining ids gone)).moduleName (fileOf (folder ++ [stem])) =
      Text.join "." (if stem = "__init__" then folder else folder ++ [stem]) :=
  moduleName_of_packages hs fun q hq hne =>
    (mem_known_ofModules ..).mpr (h.enclosed_remaining hgone hm q hq hne)

/-- **Without some plain modules, the same is found, but for these.** -/
theorem lookup_remaining {parts : List String} (hs : ∀ s ∈ parts, IsSegment s) :
    (ofModules (remaining ids gone)).lookup parts =
      ((ofModules ids).lookup parts).filter fun m => !gone.contains m := by
  by_cases hp : parts = []
  · subst hp
    rfl
  rw [(h.of_remaining hgone).lookup_eq hs hp, h.lookup_eq hs hp]
  by_cases hfile : fileOf parts ∈ ids
  · have hpackage : packageOf parts ∉ remaining ids gone := fun hk =>
      h.unshadowed _ hfile ((mem_remaining ..).mp hk).1
    by_cases hd : fileOf parts ∈ gone <;> simp [mem_remaining, hfile, hd, hpackage, Option.filter_some]
  · by_cases hpackage : packageOf parts ∈ ids
    · have hd : packageOf parts ∉ gone := packageOf_eq hp ▸ packageFile_not_gone hgone hs
      simp [mem_remaining, hfile, hpackage, hd, Option.filter_some]
    · simp [mem_remaining, hfile, hpackage]

theorem lookup_remaining_eq_some {parts : List String} (hs : ∀ s ∈ parts, IsSegment s) {m : ModuleId} :
    (ofModules (remaining ids gone)).lookup parts = some m ↔
      (ofModules ids).lookup parts = some m ∧ m ∉ gone := by
  rw [h.lookup_remaining hgone hs, Option.filter_eq_some_iff]
  simp

theorem lookup_remaining_eq_none {parts : List String} (hs : ∀ s ∈ parts, IsSegment s)
    (hnone : (ofModules ids).lookup parts = none) :
    (ofModules (remaining ids gone)).lookup parts = none := by
  rw [h.lookup_remaining hgone hs, hnone]
  rfl

/-- Of the starts of some parts, the longest with a module is the same, unless its module is gone. -/
theorem lookupTrimmed_remaining {parts : List String} (hs : ∀ s ∈ parts, IsSegment s) {floor : Nat}
    {m : ModuleId} (hm : (ofModules ids).lookupTrimmed parts floor = some m) (hleft : m ∉ gone) :
    (ofModules (remaining ids gone)).lookupTrimmed parts floor = some m := by
  have htake : ∀ n, ∀ s ∈ parts.take n, IsSegment s := fun n s hm => hs s (List.mem_of_mem_take hm)
  obtain ⟨n, hfloor, hlen, hn, hlonger⟩ := lookupTrimmed_eq_some_iff.mp hm
  refine lookupTrimmed_eq_some_iff.mpr ⟨n, hfloor, hlen, ?_, fun k hlow hhigh => ?_⟩
  · exact (h.lookup_remaining_eq_some hgone (htake n)).mpr ⟨hn, hleft⟩
  · exact h.lookup_remaining_eq_none hgone (htake k) (hlonger k hlow hhigh)

/-- A module that is gone has the name under which it was found. -/
theorem moduleName_of_lookup {parts : List String} (hs : ∀ s ∈ parts, IsSegment s) {d : ModuleId}
    (hd : (ofModules ids).lookup parts = some d) (hdg : d ∈ gone) :
    parts ≠ [] ∧ (ofModules (remaining ids gone)).moduleName d = Text.join "." parts := by
  have hp : parts ≠ [] := by
    intro hx
    subst hx
    rw [lookup_nil] at hd
    cases hd
  refine ⟨hp, ?_⟩
  rcases h.eq_of_lookup hs hp hd with hfile | hpackage
  · obtain ⟨folder, stem, rfl⟩ : ∃ folder stem, parts = folder ++ [stem] :=
      ⟨_, _, (List.dropLast_concat_getLast hp).symm⟩
    have hstem : stem ≠ "__init__" := by
      intro he
      subst he
      exact packageFile_not_gone hgone (fun s hm => hs s (List.mem_append_left _ hm)) (hfile ▸ hdg)
    rw [hfile, h.moduleName_remaining hgone hs (hfile ▸ lookup_mem hd), if_neg hstem]
  · rw [hpackage, packageOf_eq hp] at hdg
    exact absurd hdg (packageFile_not_gone hgone hs)

end Packaged

/-! ### Imports -/

/-- Every name in the import can be that of a module. -/
structure Import.WellFormed (i : Import) : Prop where
  parts : ∀ s ∈ i.parts, IsSegment s
  names : ∀ s ∈ i.names, IsSegment s

instance (i : Import) : Decidable i.WellFormed :=
  decidable_of_iff ((∀ s ∈ i.parts, IsSegment s) ∧ ∀ s ∈ i.names, IsSegment s)
    ⟨fun h => ⟨h.1, h.2⟩, fun h => ⟨h.parts, h.names⟩⟩

theorem Import.WellFormed.asked {i : Import} (hi : i.WellFormed) : ∀ s ∈ i.asked, IsSegment s := by
  intro s hs
  unfold Import.asked at hs
  split at hs
  · cases hs
  · exact hi.names s hs

theorem Import.WellFormed.questions {i : Import} (hi : i.WellFormed) :
    ∀ asked ∈ i.questions, ∀ s ∈ asked, IsSegment s := by
  intro asked hasked s hs
  unfold Import.questions at hasked
  split at hasked
  · rw [List.mem_singleton.mp hasked] at hs
    cases hs
  · obtain ⟨name, hname, rfl⟩ := List.mem_map.mp hasked
    rw [List.mem_singleton.mp hs]
    exact hi.asked name hname

theorem liesBeneath_join_iff {parts whole : List String} (hp : ∀ s ∈ parts, IsSegment s) (hne : parts ≠ [])
    (hw : ∀ s ∈ whole, IsSegment s) :
    Graph.liesBeneath (Text.join "." parts) (Text.join "." whole) = true ↔ parts <+: whole := by
  rw [Graph.liesBeneath_iff, Text.split_join rfl hne fun s hs => (hp s hs).2.1]
  by_cases hwhole : whole = []
  · -- the empty name has one field, which is no part of a name
    subst hwhole
    have hempty : Text.split '.' (Text.join "." []) = [""] := by decide
    rw [hempty, List.prefix_nil, List.prefix_cons_iff]
    constructor
    · intro h
      rcases h with h | ⟨rest, rfl, _⟩
      · exact h
      · exact absurd rfl (hp "" (List.mem_cons_self ..)).1
    · exact .inl
  · rw [Text.split_join rfl hwhole fun s hs => (hw s hs).2.1]

namespace Packaged
variable {ids gone : List ModuleId} (h : Packaged ids) (hgone : ∀ d ∈ gone, isPackageFile d = false)
  {i : Import} (hfile : i.file ∈ ids) (hi : i.WellFormed)
include h hgone hfile hi

omit hgone in
theorem base_segments {anchor : List String} (ha : anchor? i = some anchor) :
    ∀ s ∈ anchor ++ i.parts, IsSegment s := fun s hs =>
  (List.mem_append.mp hs).elim (h.anchor_segments hfile ha s) (hi.parts s)

omit hgone in
theorem question_segments {anchor : List String} (ha : anchor? i = some anchor) :
    ∀ asked ∈ i.questions, ∀ s ∈ anchor ++ i.parts ++ asked, IsSegment s := fun asked hasked s hs =>
  (List.mem_append.mp hs).elim (h.base_segments hfile hi ha s) (hi.questions asked hasked s)

/-- **An import keeps the targets that are left.** -/
theorem target_remaining {t : ModuleId} (ht : t ∈ ((ofModules ids).resolve i).targets) (hleft : t ∉ gone) :
    t ∈ ((ofModules (remaining ids gone)).resolve i).targets := by
  obtain ⟨anchor, ha⟩ := exists_anchor_of_mem_targets ht
  have hwhole := h.question_segments hfile hi ha
  rw [mem_targets_iff ha] at ht ⊢
  rcases ht with ⟨asked, hasked, ht⟩ | ⟨hnone, ht⟩
  · exact .inl ⟨asked, hasked, (h.lookup_remaining_eq_some hgone (hwhole asked hasked)).mpr ⟨ht, hleft⟩⟩
  · refine .inr ⟨?_, h.lookupTrimmed_remaining hgone (h.base_segments hfile hi ha) ht hleft⟩
    obtain ⟨asked, hasked, hne, hnone⟩ := unanswered_ne_nil_iff.mp hnone
    exact unanswered_ne_nil_iff.mpr
      ⟨asked, hasked, hne, h.lookup_remaining_eq_none hgone (hwhole asked hasked) hnone⟩

omit hi in
/-- What is asked for lies beneath a module that is gone and was found for a start of it. -/
theorem absoluteName_beneath {anchor parts asked : List String} (ha : anchor? i = some anchor)
    (hwhole : ∀ s ∈ anchor ++ i.parts ++ asked, IsSegment s) (hstart : parts <+: anchor ++ i.parts ++ asked)
    {d : ModuleId} (hd : (ofModules ids).lookup parts = some d) (hdg : d ∈ gone) :
    (ofModules (remaining ids gone)).absoluteName anchor i asked ≠ "" ∧
      Graph.liesBeneath ((ofModules (remaining ids gone)).moduleName d)
        ((ofModules (remaining ids gone)).absoluteName anchor i asked) = true := by
  obtain ⟨hp, hname⟩ := h.moduleName_of_lookup hgone (fun s hm => hwhole s (hstart.subset hm)) hd hdg
  rw [(h.of_remaining hgone).absoluteName_eq ha (h.anchor_segments hfile ha), ← List.append_assoc, hname]
  refine ⟨?_, (liesBeneath_join_iff (fun s hm => hwhole s (hstart.subset hm)) hp hwhole).mpr hstart⟩
  rw [ne_eq, Text.join_eq_empty_iff fun s hm => (hwhole s hm).1]
  exact fun hnil => hp (List.prefix_nil.mp (hnil ▸ hstart))

/-- **For a target that is gone an import asks in vain, under its name or beneath it.** -/
theorem missing_remaining {d : ModuleId} (hd : d ∈ ((ofModules ids).resolve i).targets) (hdg : d ∈ gone) :
    ∃ n ∈ ((ofModules (remaining ids gone)).resolve i).missing, n ≠ "" ∧
      Graph.liesBeneath ((ofModules (remaining ids gone)).moduleName d) n = true := by
  obtain ⟨anchor, ha⟩ := exists_anchor_of_mem_targets hd
  have hwhole := h.question_segments hfile hi ha
  rw [mem_targets_iff ha] at hd
  simp only [mem_missing_iff ha]
  rcases hd with ⟨asked, hasked, hd⟩ | ⟨hnone, hd⟩
  · have hmissed : (ofModules (remaining ids gone)).lookup (anchor ++ i.parts ++ asked) = none := by
      rw [h.lookup_remaining hgone (hwhole asked hasked), hd]
      simp [Option.filter_some, hdg]
    exact ⟨_, ⟨asked, mem_unanswered.mpr ⟨hasked, ne_nil_of_lookup hd, hmissed⟩, rfl⟩,
      h.absoluteName_beneath hgone hfile ha (hwhole asked hasked) List.prefix_rfl hd hdg⟩
  · -- what was asked in vain before still is, and the module that is gone was a start of it
    obtain ⟨asked, hasked, hne, hnone⟩ := unanswered_ne_nil_iff.mp hnone
    obtain ⟨n, _, _, hlookup⟩ := exists_of_lookupTrimmed hd
    have hmissed := h.lookup_remaining_eq_none hgone (hwhole asked hasked) hnone
    exact ⟨_, ⟨asked, mem_unanswered.mpr ⟨hasked, hne, hmissed⟩, rfl⟩,
      h.absoluteName_beneath hgone hfile ha (hwhole asked hasked)
        ((List.take_prefix n _).trans (List.prefix_append _ _)) hlookup hdg⟩

end Packaged

end Ripple
