import Ripple.Proofs.Resolver.Removal

/-! Names and places.

A module can be looked up by its place, or by a name that starts at the outermost package around
it. Where no two modules have one name, two packages with one name are one
(`DistinctNames.top_unique`), so a name that starts like that of a package leads through its folder.
Where nothing has the place that the name of a package spells, the package is found by its name alone
(`ByNameAlone`). Below it both ways lead to the same: what is found by a name is found at its place
(`ByNameAlone.place_of_name`), and what is found at a place and has a name below the package is found
by that name (`ByNameAlone.name_of_place`). -/
namespace Ripple

open Resolver

/-- The names of files and folders have no dots but for the ending, and no folder is called like a package
file. -/
def Undotted (ids : List ModuleId) : Prop :=
  ∀ id ∈ ids, ∃ folder stem, (∀ s ∈ folder ++ [stem], IsSegment s) ∧ "__init__" ∉ folder ∧
    id = fileOf (folder ++ [stem])

/-- No two modules have one name. -/
def DistinctNames (ids : List ModuleId) : Prop :=
  ∀ a ∈ ids, ∀ b ∈ ids, (ofModules ids).moduleName a = (ofModules ids).moduleName b → a = b

instance (ids : List ModuleId) : Decidable (DistinctNames ids) :=
  decidable_of_iff (∀ a ∈ ids, ∀ b ∈ ids, moduleName ids a = moduleName ids b → a = b)
    (by simp only [DistinctNames, moduleName_ofModules])

/-- No module has the place that the parts lead to, or lies beneath it. -/
def Vacant (ids : List ModuleId) (parts : List String) : Prop :=
  ∀ id ∈ ids, id ≠ fileOf parts ∧ ¬ parts <+: (Path.parse id).parent.names

instance (ids : List ModuleId) (parts : List String) : Decidable (Vacant ids parts) :=
  inferInstanceAs (Decidable (∀ id ∈ ids, _ ∧ _))

theorem fileOf_inj {folder folder' : List String} {stem stem' : String}
    (hs : ∀ s ∈ folder ++ [stem], IsSegment s) (hs' : ∀ s ∈ folder' ++ [stem'], IsSegment s)
    (h : fileOf (folder ++ [stem]) = fileOf (folder' ++ [stem'])) : folder = folder' ∧ stem = stem' := by
  have hparse := congrArg Path.parse h
  rw [parse_fileOf hs, parse_fileOf hs', Path.mk.injEq] at hparse
  obtain ⟨hfolder, hstem⟩ := List.append_inj' hparse.2 rfl
  exact ⟨hfolder, by simpa using hstem⟩

section Names
variable {ids : List ModuleId} {folder : List String} {stem : String}

theorem segments_own (hs : ∀ s ∈ folder ++ [stem], IsSegment s) :
    ∀ s ∈ folder ++ ownParts stem, IsSegment s := by
  intro s hm
  refine hs s (List.mem_append.mpr ((List.mem_append.mp hm).imp_right ?_))
  unfold ownParts
  split <;> simp

theorem segments_namingPath (hs : ∀ s ∈ folder ++ [stem], IsSegment s) :
    ∀ s ∈ namingPath ids folder stem, IsSegment s := by
  intro s hm
  refine segments_own hs s (List.mem_append.mpr ((List.mem_append.mp hm).imp_left ?_))
  split
  · exact id
  · exact fun hpackages => packagesTo_suffix.subset hpackages

theorem moduleName_eq_iff (hs : ∀ s ∈ folder ++ [stem], IsSegment s) {parts : List String}
    (hparts : ∀ s ∈ parts, IsSegment s) :
    (ofModules ids).moduleName (fileOf (folder ++ [stem])) = Text.join "." parts ↔
      namingPath ids folder stem = parts := by
  rw [moduleName_ofModules, moduleName_fileOf ids hs]
  exact ⟨Text.join_inj rfl (fun s hm => (segments_namingPath hs s hm).field) fun s hm => (hparts s hm).field,
    congrArg _⟩

/-- A module is found at its place. -/
theorem lookup_own (hm : fileOf (folder ++ [stem]) ∈ ids) (hne : folder ++ ownParts stem ≠ []) :
    (ofModules ids).lookup (folder ++ ownParts stem) ≠ none := by
  have hplace : fileOf (folder ++ ownParts stem) ∈ ids ∨ packageOf (folder ++ ownParts stem) ∈ ids := by
    rw [packageOf_eq hne]
    unfold ownParts
    split
    · next hstem => exact .inr (by rwa [List.append_nil, ← hstem])
    · exact .inl hm
  rw [lookup_eq _ hne]
  simp only [contains_ofModules]
  split
  · simp
  · next hfile => simp [hplace.resolve_left hfile]

end Names

section Packages
variable {ids : List ModuleId} {above above' rest rest' : List String} {top : String}

/-- A package is the last of the packages that lead to it. -/
theorem packagesTo_ne_nil {folder : List String} (hpackage : fileOf (folder ++ ["__init__"]) ∈ ids)
    (hne : folder ≠ []) : packagesTo ids folder ≠ [] := by
  obtain ⟨above, name, rfl⟩ : ∃ above name, folder = above ++ [name] :=
    ⟨_, _, (List.dropLast_concat_getLast hne).symm⟩
  rw [packagesTo_concat, if_pos hpackage]
  simp

/-- The outermost package around a folder is the only one around itself. -/
theorem packagesTo_top (h : packagesTo ids (above ++ top :: rest) = top :: rest) :
    fileOf (above ++ [top] ++ ["__init__"]) ∈ ids ∧ packagesTo ids (above ++ [top]) = [top] := by
  induction rest using List.reverseRecOn with
  | nil =>
    refine ⟨?_, h⟩
    rw [packagesTo_concat] at h
    split at h
    · assumption
    · cases h
  | append_singleton inner name ih =>
    have hsplit : above ++ top :: (inner ++ [name]) = above ++ top :: inner ++ [name] := by simp
    rw [hsplit, packagesTo_concat] at h
    split at h
    · rw [← List.cons_append] at h
      exact ih (List.append_inj_left' h rfl)
    · cases h

/-- Chains of packages that start with one name start in one folder. -/
theorem DistinctNames.top_unique (hdistinct : DistinctNames ids)
    (hs : ∀ s ∈ above ++ top :: rest, IsSegment s) (hs' : ∀ s ∈ above' ++ top :: rest', IsSegment s)
    (h : packagesTo ids (above ++ top :: rest) = top :: rest)
    (h' : packagesTo ids (above' ++ top :: rest') = top :: rest') : above = above' := by
  have hsegments : ∀ {above rest : List String}, (∀ s ∈ above ++ top :: rest, IsSegment s) →
      ∀ s ∈ above ++ [top] ++ ["__init__"], IsSegment s := by
    intro above rest hs s hm
    simp only [List.mem_append, List.mem_singleton] at hm
    rcases hm with (hm | rfl) | rfl
    · exact hs s (List.mem_append_left _ hm)
    · exact hs s (by simp)
    · decide
  have hname : ∀ {above rest : List String}, (∀ s ∈ above ++ top :: rest, IsSegment s) →
      packagesTo ids (above ++ top :: rest) = top :: rest →
      (ofModules ids).moduleName (fileOf (above ++ [top] ++ ["__init__"])) = top := by
    intro above rest hs h
    rw [moduleName_ofModules, moduleName_fileOf ids (hsegments hs), namingPath, (packagesTo_top h).2]
    simp [ownParts]
  have hsame := hdistinct _ (packagesTo_top h).1 _ (packagesTo_top h').1
    ((hname hs h).trans (hname hs' h').symm)
  exact List.append_inj_left' (fileOf_inj (hsegments hs) (hsegments hs') hsame).1 rfl

/-- Chains of packages that start with one name start in one folder, whatever they lead to. -/
theorem DistinctNames.same_above (hdistinct : DistinctNames ids) {folder folder' inner inner' : List String}
    (hs : ∀ s ∈ folder, IsSegment s) (hs' : ∀ s ∈ folder', IsSegment s)
    (h : packagesTo ids folder = top :: inner) (h' : packagesTo ids folder' = top :: inner') :
    ∃ above, folder = above ++ top :: inner ∧ folder' = above ++ top :: inner' := by
  obtain ⟨above, habove⟩ : packagesTo ids folder <:+ folder := packagesTo_suffix
  obtain ⟨above', habove'⟩ : packagesTo ids folder' <:+ folder' := packagesTo_suffix
  rw [h] at habove
  rw [h'] at habove'
  subst habove
  subst habove'
  exact ⟨above, rfl, by rw [hdistinct.top_unique hs hs' h h']⟩

end Packages

/-! ### Packages whose name is not their place -/

/-- A package that is found by its name alone, since no module has its place for one. -/
structure ByNameAlone (ids : List ModuleId) (folder : List String) : Prop where
  distinct : DistinctNames ids
  undotted : Undotted ids
  package : fileOf (folder ++ ["__init__"]) ∈ ids
  inFolder : folder ≠ []
  segments : ∀ s ∈ folder, IsSegment s
  vacant : Vacant ids (packagesTo ids folder)

namespace ByNameAlone
variable {ids : List ModuleId} {folder rest : List String} (h : ByNameAlone ids folder)
include h

theorem packages_ne_nil : packagesTo ids folder ≠ [] := packagesTo_ne_nil h.package h.inFolder

theorem packages_segments : ∀ s ∈ packagesTo ids folder, IsSegment s :=
  fun s hs => h.segments s (packagesTo_suffix.subset hs)

theorem segments_name (hrest : ∀ s ∈ rest, IsSegment s) : ∀ s ∈ packagesTo ids folder ++ rest, IsSegment s :=
  fun s hs => (List.mem_append.mp hs).elim (h.packages_segments s) (hrest s)

/-- The name of the package leads away from its place at once. -/
theorem not_prefix (below : List String) : ¬ packagesTo ids folder <+: folder ++ below := by
  intro hprefix
  have hfolder : packagesTo ids folder <+: folder :=
    List.prefix_of_prefix_length_le hprefix (List.prefix_append ..) packagesTo_suffix.length_le
  refine (h.vacant _ h.package).2 ?_
  rw [parse_fileOf (segments_concat h.segments isSegment_init), Path.parent_concat]
  exact hfolder

/-- Nothing is found at the place that the name of the package leads to. -/
theorem not_mem_place (hrest : ∀ s ∈ rest, IsSegment s) : fileOf (packagesTo ids folder ++ rest) ∉ ids := by
  intro hm
  cases rest using List.reverseRecOn with
  | nil => exact (h.vacant _ hm).1 (by rw [List.append_nil])
  | append_singleton above stem =>
    have hs := h.segments_name hrest
    rw [← List.append_assoc] at hm hs
    refine (h.vacant _ hm).2 ?_
    rw [parse_fileOf hs, Path.parent_concat]
    exact List.prefix_append ..

/-- Under the name of the package, names alone lead to modules. -/
theorem lookup_name (hrest : ∀ s ∈ rest, IsSegment s) (m : ModuleId) :
    (ofModules ids).lookup (packagesTo ids folder ++ rest) = some m ↔
      m ∈ ids ∧ (ofModules ids).moduleName m = Text.join "." (packagesTo ids folder ++ rest) := by
  have hne : packagesTo ids folder ++ rest ≠ [] := by simp [h.packages_ne_nil]
  have hpackage : packageOf (packagesTo ids folder ++ rest) ∉ ids := by
    rw [packageOf_eq hne, List.append_assoc]
    exact h.not_mem_place (segments_concat hrest isSegment_init)
  rw [lookup_eq _ hne]
  simp only [contains_ofModules, h.not_mem_place hrest, hpackage, if_false]
  exact byName_eq_some_iff h.distinct _ m

/-- A module with a name in the package has its place in the folder. -/
theorem place_of_namingPath {other : List String} {stem : String}
    (hs : ∀ s ∈ other ++ [stem], IsSegment s) (hm : fileOf (other ++ [stem]) ∈ ids)
    (hname : namingPath ids other stem = packagesTo ids folder ++ rest) :
    other ++ ownParts stem = folder ++ rest := by
  unfold namingPath at hname
  split at hname
  · -- a name from no package leads to a place, and there is none
    have hrest : ∀ s ∈ rest, IsSegment s := fun s hmem =>
      segments_own hs s (hname ▸ List.mem_append_right _ hmem)
    by_cases hstem : stem = "__init__"
    · subst hstem
      rw [ownParts, if_pos rfl, List.append_nil] at hname
      rw [hname, List.append_assoc] at hm
      exact absurd hm (h.not_mem_place (segments_concat hrest isSegment_init))
    · rw [ownParts, if_neg hstem] at hname
      exact absurd (hname ▸ hm) (h.not_mem_place hrest)
  · next hpackages =>
    obtain ⟨top, inner, hp⟩ := List.exists_cons_of_ne_nil h.packages_ne_nil
    obtain ⟨top', inner', hp'⟩ := List.exists_cons_of_ne_nil hpackages
    have htop : top' = top := by
      rw [hp, hp', List.cons_append, List.cons_append] at hname
      exact (List.cons.inj hname).1
    obtain ⟨above, hother, hfolder⟩ := h.distinct.same_above
      (fun s hmem => hs s (List.mem_append_left _ hmem)) h.segments (htop ▸ hp') hp
    calc other ++ ownParts stem = above ++ (packagesTo ids other ++ ownParts stem) := by
          rw [← List.append_assoc, hp', htop, ← hother]
      _ = above ++ (packagesTo ids folder ++ rest) := by rw [hname]
      _ = folder ++ rest := by rw [← List.append_assoc, hp, ← hfolder]

/-- **What is found by a name in the package is found at its place**, and no part of the name is that of a
package file. -/
theorem place_of_name (hrest : ∀ s ∈ rest, IsSegment s) {m : ModuleId}
    (hm : (ofModules ids).lookup (packagesTo ids folder ++ rest) = some m) :
    (ofModules ids).lookup (folder ++ rest) ≠ none ∧ "__init__" ∉ rest := by
  obtain ⟨hmem, hname⟩ := (h.lookup_name hrest m).mp hm
  obtain ⟨other, stem, hs, hinit, rfl⟩ := h.undotted m hmem
  rw [moduleName_eq_iff hs (h.segments_name hrest)] at hname
  have hplace := h.place_of_namingPath hs hmem hname
  have hmissing : "__init__" ∉ other ++ ownParts stem := by
    rw [List.mem_append, not_or]
    refine ⟨hinit, ?_⟩
    unfold ownParts
    split
    · exact List.not_mem_nil
    · next hstem => simpa using Ne.symm hstem
  rw [← hplace]
  exact ⟨lookup_own hmem (by simp [hplace, h.inFolder]),
    fun hx => hmissing (hplace ▸ List.mem_append_right _ hx)⟩

/-- A file in the package that has a name there is found by that name. -/
theorem lookup_file {stem : String} (hs : ∀ s ∈ folder ++ rest ++ [stem], IsSegment s)
    (hm : fileOf (folder ++ rest ++ [stem]) ∈ ids)
    (hbeneath : Graph.liesBeneath (Text.join "." (packagesTo ids folder))
      ((ofModules ids).moduleName (fileOf (folder ++ rest ++ [stem]))) = true) :
    (ofModules ids).lookup (packagesTo ids folder ++ (rest ++ ownParts stem)) =
      some (fileOf (folder ++ rest ++ [stem])) := by
  rw [moduleName_ofModules, moduleName_fileOf ids hs,
    liesBeneath_join_iff h.packages_segments h.packages_ne_nil (segments_namingPath hs)] at hbeneath
  obtain ⟨tail, htail⟩ := hbeneath
  have hplace := h.place_of_namingPath hs hm htail.symm
  rw [List.append_assoc, List.append_cancel_left_eq] at hplace
  have hsegments : ∀ s ∈ rest ++ ownParts stem, IsSegment s := fun s hmem =>
    segments_own hs s (by rw [List.append_assoc]; exact List.mem_append_right _ hmem)
  rw [h.lookup_name hsegments, moduleName_eq_iff hs (h.segments_name hsegments)]
  exact ⟨hm, by rw [hplace, htail]⟩

/-- **What is found at a place in the package and has a name there is found by that name**; to name a package
file is to name its folder. -/
theorem name_of_place (hne : rest ≠ []) (hrest : ∀ s ∈ rest, IsSegment s) {m : ModuleId}
    (hm : (ofModules ids).lookup (folder ++ rest) = some m)
    (hbeneath : Graph.liesBeneath (Text.join "." (packagesTo ids folder))
      ((ofModules ids).moduleName m) = true) :
    (ofModules ids).lookup (packagesTo ids folder ++ rest) = some m ∨
      ∃ above, rest = above ++ ["__init__"] ∧
        (ofModules ids).lookup (packagesTo ids folder ++ above) = some m := by
  have hwhole : ∀ s ∈ folder ++ rest, IsSegment s := fun s hs =>
    (List.mem_append.mp hs).elim (h.segments s) (hrest s)
  have hplace : folder ++ rest ≠ [] := by simp [hne]
  rw [lookup_eq _ hplace] at hm
  simp only [contains_ofModules] at hm
  split at hm
  · next hfile =>
    obtain ⟨above, stem, rfl⟩ : ∃ above stem, rest = above ++ [stem] :=
      ⟨_, _, (List.dropLast_concat_getLast hne).symm⟩
    rw [← List.append_assoc] at hwhole hfile hm
    obtain rfl := Option.some.inj hm
    have hfound := h.lookup_file hwhole hfile hbeneath
    unfold ownParts at hfound
    split at hfound
    · next hstem => exact .inr ⟨above, by rw [hstem], by rwa [List.append_nil] at hfound⟩
    · exact .inl hfound
  · split at hm
    · next hpackage =>
      obtain rfl := Option.some.inj hm
      rw [packageOf_eq hplace] at hpackage hbeneath ⊢
      have hfound := h.lookup_file (segments_concat hwhole isSegment_init) hpackage hbeneath
      rw [ownParts, if_pos rfl, List.append_nil] at hfound
      exact .inl hfound
    · -- under the name that the place spells there is nothing in the package
      rw [(moduleName_of_byName hm).2,
        liesBeneath_join_iff h.packages_segments h.packages_ne_nil hwhole] at hbeneath
      exact absurd hbeneath (h.not_prefix rest)

/-- What is found for a start of a place beyond the folder is found for a start of the name. -/
theorem lookupTrimmed_name {parts : List String} (hparts : ∀ s ∈ parts, IsSegment s) {m : ModuleId}
    (hm : (ofModules ids).lookupTrimmed (folder ++ parts) (folder.length + 1) = some m)
    (hbeneath : Graph.liesBeneath (Text.join "." (packagesTo ids folder))
      ((ofModules ids).moduleName m) = true) :
    (ofModules ids).lookupTrimmed (packagesTo ids folder ++ parts) 1 = some m := by
  obtain ⟨n, hfloor, hn, hfound, hlonger⟩ := lookupTrimmed_append_eq_some_iff.mp hm
  have htake : ∀ k, ∀ s ∈ parts.take k, IsSegment s := fun k s hs => hparts s (List.mem_of_mem_take hs)
  have hnone : ∀ k, n < k → k ≤ parts.length →
      (ofModules ids).lookup (packagesTo ids folder ++ parts.take k) = none := by
    intro k hlow hhigh
    rw [Option.eq_none_iff_forall_ne_some]
    exact fun m' hm' => (h.place_of_name (htake k) hm').1 (hlonger k hlow hhigh)
  have hpackages : 1 ≤ (packagesTo ids folder).length := List.length_pos_iff.mpr h.packages_ne_nil
  refine lookupTrimmed_of_floor_le (Nat.le_add_right_of_le hpackages : 1 ≤ _ + 0)
    (lookupTrimmed_append_eq_some_iff.mpr ?_)
  have hne : parts.take n ≠ [] := by
    rw [← List.length_pos_iff, List.length_take]
    omega
  rcases h.name_of_place hne (htake n) hfound hbeneath with hname | ⟨above, hinit, hname⟩
  · exact ⟨n, Nat.zero_le _, hn, hname, hnone⟩
  · -- a package file is named by its folder, one part before
    have hlength : above.length + 1 = n := by
      have := congrArg List.length hinit
      rw [List.length_take, List.length_append, List.length_singleton] at this
      omega
    have habove : parts.take above.length = above := by
      have hshorter := congrArg (List.take above.length) hinit
      rwa [List.take_take, Nat.min_eq_left (by omega), List.take_left] at hshorter
    refine ⟨above.length, Nat.zero_le _, by omega, by rw [habove, hname], fun k hlow hhigh => ?_⟩
    rcases Nat.lt_or_eq_of_le (show n ≤ k by omega) with hlow | rfl
    · exact hnone k hlow hhigh
    · rw [Option.eq_none_iff_forall_ne_some]
      exact fun m' hm' => (h.place_of_name (htake n) hm').2 (by rw [hinit]; simp)

end ByNameAlone

end Ripple
