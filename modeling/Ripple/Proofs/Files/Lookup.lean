import Mathlib.Data.List.Infix
import Mathlib.Data.List.Perm.Subperm
import Ripple.Proofs.Files.Canonical
import Ripple.Proofs.Path.Lexical

/-! Looking a path up and following its links come to the same place.

A walk that arrives somewhere uses so many links on its way (`Leads`), and always the same (`Leads.unique`). Whoever
follows the links one by one goes the same way: a link that is being followed cannot be met again, since its own
way would then use more links than it has (`Pending`), and links are nested no deeper than there are different ones
(`length_le_linkCount`). So what a path leads to has a canonical path (`land_of_locate`), and a path has a canonical
form unless some link leads back to itself (`resolve_of_not_looped`). Without a link on its way that is the form
that its names alone have (`canonical?_of_linkless`). -/
namespace Ripple

namespace FileTree
variable {t : FileTree} {here rest place mid : List String} {name target : String} {n m : Nat}

/-! ### The ways through a tree -/

/-- Where the way begins that a link in the folder `here` stands for. -/
def linkStart (here : List String) (target : String) : List String :=
  if (Path.parse target).isAbsolute then [] else here

/-- From `here` the names lead to `place`, through so many links. -/
inductive Leads (t : FileTree) : List String → List String → Nat → List String → Prop
  | nil (here : List String) : Leads t here [] 0 here
  | up {here rest place : List String} {n : Nat} {entries : List (String × FileTree)}
      (inside : t.stored? here = some (folder entries)) (go : Leads t here.dropLast rest n place) :
      Leads t here (".." :: rest) n place
  | down {here rest place : List String} {name : String} {n : Nat} {found : FileTree} (proper : name ≠ "..")
      (there : t.stored? (here ++ [name]) = some found) (solid : found.isLink = false)
      (go : Leads t (here ++ [name]) rest n place) : Leads t here (name :: rest) n place
  | link {here rest mid place : List String} {name target : String} {n m : Nat} (proper : name ≠ "..")
      (there : t.stored? (here ++ [name]) = some (link target))
      (inner : Leads t (linkStart here target) (Path.parse target).names n mid) (outer : Leads t mid rest m place) :
      Leads t here (name :: rest) (n + m + 1) place

namespace Leads

/-- Names lead to one place at most, and always through as many links. -/
theorem unique {m : Nat} {place' : List String} (h : t.Leads here rest n place) (h' : t.Leads here rest m place') :
    n = m ∧ place = place' := by
  induction h generalizing m place' with
  | nil =>
    cases h'
    exact ⟨rfl, rfl⟩
  | up _ _ ih =>
    cases h' with
    | up _ go => exact ih go
    | down proper => exact absurd rfl proper
    | link proper => exact absurd rfl proper
  | down proper there solid _ ih =>
    cases h' with
    | up => exact absurd rfl proper
    | down _ _ _ go => exact ih go
    | link _ there' =>
      obtain rfl := Option.some.inj (there.symm.trans there')
      cases solid
  | link proper there _ _ ih₁ ih₂ =>
    cases h' with
    | up => exact absurd rfl proper
    | down _ there' solid =>
      obtain rfl := Option.some.inj (there.symm.trans there')
      cases solid
    | link _ there' inner outer =>
      obtain rfl := FileTree.link.inj (Option.some.inj (there.symm.trans there'))
      obtain ⟨rfl, rfl⟩ := ih₁ inner
      obtain ⟨rfl, rfl⟩ := ih₂ outer
      exact ⟨rfl, rfl⟩

/-- A way in two parts has a place between them. -/
theorem split {front back : List String} (h : t.Leads here (front ++ back) n place) :
    ∃ mid k l, t.Leads here front k mid ∧ t.Leads mid back l place ∧ k + l = n := by
  generalize hwhole : front ++ back = whole at h
  induction h generalizing front with
  | nil here =>
    obtain ⟨rfl, rfl⟩ := List.append_eq_nil_iff.mp hwhole
    exact ⟨here, 0, 0, .nil here, .nil here, rfl⟩
  | up inside go ih =>
    cases front with
    | nil =>
      obtain rfl : back = _ := hwhole
      exact ⟨_, 0, _, .nil _, .up inside go, Nat.zero_add _⟩
    | cons first front =>
      obtain ⟨rfl, hrest⟩ := List.cons.inj hwhole
      obtain ⟨mid, k, l, hfront, hback, rfl⟩ := ih hrest
      exact ⟨mid, k, l, .up inside hfront, hback, rfl⟩
  | down proper there solid go ih =>
    cases front with
    | nil =>
      obtain rfl : back = _ := hwhole
      exact ⟨_, 0, _, .nil _, .down proper there solid go, Nat.zero_add _⟩
    | cons first front =>
      obtain ⟨rfl, hrest⟩ := List.cons.inj hwhole
      obtain ⟨mid, k, l, hfront, hback, rfl⟩ := ih hrest
      exact ⟨mid, k, l, .down proper there solid hfront, hback, rfl⟩
  | link proper there inner outer _ ih =>
    cases front with
    | nil =>
      obtain rfl : back = _ := hwhole
      exact ⟨_, 0, _, .nil _, .link proper there inner outer, Nat.zero_add _⟩
    | cons first front =>
      obtain ⟨rfl, hrest⟩ := List.cons.inj hwhole
      obtain ⟨mid, k, l, hfront, hback, rfl⟩ := ih hrest
      exact ⟨mid, _, l, .link proper there inner hfront, hback, by omega⟩

end Leads

/-- A walk that arrives goes through no more links than it may. -/
theorem leads_of_walk {links : Nat} (h : t.walk links here rest = .ok place) :
    ∃ n ≤ links, t.Leads here rest n place := by
  fun_induction FileTree.walk t links here rest with
  | case1 =>
    obtain rfl := Except.ok.inj h
    exact ⟨0, Nat.zero_le _, .nil _⟩
  | case2 _ _ _ _ hhere ih =>
    obtain ⟨n, hn, hleads⟩ := ih h
    exact ⟨n, hn, .up hhere hleads⟩
  | case3 => cases h
  | case4 => cases h
  | case5 here name rest entries hhere hname target hfound links parsed ih =>
    obtain ⟨n, hn, hleads⟩ := ih h
    obtain ⟨mid, k, l, hinner, houter, rfl⟩ := hleads.split
    refine ⟨k + l + 1, Nat.succ_le_succ hn, .link hname ?_ hinner houter⟩
    exact stored?_concat_eq_some_iff.mpr ⟨entries, hhere, hfound⟩
  | case6 links here name rest entries hhere hname found hsolid hfound ih =>
    obtain ⟨n, hn, hleads⟩ := ih h
    refine ⟨n, hn, .down hname (stored?_concat_eq_some_iff.mpr ⟨entries, hhere, hfound⟩) ?_ hleads⟩
    cases found with
    | link target => exact absurd rfl (hsolid target)
    | _ => rfl
  | case7 => cases h

/-- A walk that may go through enough links goes on from where its first names lead. -/
theorem Leads.walk_append (h : t.Leads here rest n place) (links : Nat) (more : List String) :
    t.walk (links + n) here (rest ++ more) = t.walk links place more := by
  induction h generalizing links more with
  | nil => rfl
  | up inside _ ih =>
    rw [List.cons_append, walk, inside]
    exact ih links more
  | @down here rest place name n found proper there solid _ ih =>
    obtain ⟨entries, hhere, hfound⟩ := stored?_concat_eq_some_iff.mp there
    rw [List.cons_append, walk, hhere]
    simp only [if_neg proper, hfound]
    cases found with
    | link target => cases solid
    | _ => exact ih links more
  | @link here rest mid place name target n m proper there _ _ ih₁ ih₂ =>
    obtain ⟨entries, hhere, hfound⟩ := stored?_concat_eq_some_iff.mp there
    have hsum : links + (n + m + 1) = links + m + n + 1 := by omega
    rw [List.cons_append, walk, hhere, hsum]
    simp only [if_neg proper, hfound]
    exact (ih₁ (links + m) (rest ++ more)).trans (ih₂ links more)

theorem walk_eq_ok_iff {links : Nat} :
    t.walk links here rest = .ok place ↔ ∃ n ≤ links, t.Leads here rest n place := by
  refine ⟨leads_of_walk, ?_⟩
  rintro ⟨n, hn, hleads⟩
  have hwalk := hleads.walk_append (links - n) []
  rw [Nat.sub_add_cancel hn, List.append_nil] at hwalk
  rw [hwalk, walk]

theorem exists_locate_of_isPresent {p : Path} (h : t.isPresent p = true) : ∃ place, t.locate p = .ok place := by
  obtain ⟨found, hfound⟩ := isPresent_iff.mp h
  obtain ⟨place, hlocate, _⟩ := find_eq_ok_iff.mp hfound
  exact ⟨place, hlocate⟩

/-- Whatever is found is stored under its name where its folder leads to, unless a link to it is. -/
theorem stored_child_of_find {p : Path} {name : String} (hname : name ≠ "..") {found : FileTree}
    (h : t.find (p.child name) = .ok found) :
    ∃ mid, t.locate p = .ok mid ∧
      (t.stored? (mid ++ [name]) = some found ∨ ∃ target, t.stored? (mid ++ [name]) = some (link target)) := by
  obtain ⟨place, hlocate, hfound⟩ := find_eq_ok_iff.mp h
  obtain ⟨n, hn, hleads⟩ := leads_of_walk hlocate
  obtain ⟨mid, k, l, hfront, hback, rfl⟩ := hleads.split
  have hp : t.locate p = .ok mid := walk_eq_ok_iff.mpr ⟨k, by omega, hfront⟩
  refine ⟨mid, hp, ?_⟩
  cases hback with
  | up => exact absurd rfl hname
  | down _ there _ go =>
    cases go
    exact .inl hfound
  | link _ there => exact .inr ⟨_, there⟩

theorem exists_stored_child {p : Path} {name : String} (hname : name ≠ "..")
    (h : t.isPresent (p.child name) = true) :
    ∃ mid found, t.locate p = .ok mid ∧ t.stored? (mid ++ [name]) = some found := by
  obtain ⟨found, hfound⟩ := isPresent_iff.mp h
  obtain ⟨mid, hp, hstored | ⟨target, hlink⟩⟩ := stored_child_of_find hname hfound
  · exact ⟨mid, found, hp, hstored⟩
  · exact ⟨mid, _, hp, hlink⟩

/-- What something stands in is a folder. -/
theorem isFolderAt_of_isPresent_child {p : Path} {name : String} (hname : name ≠ "..")
    (h : t.isPresent (p.child name) = true) : t.isFolderAt p = true := by
  obtain ⟨mid, found, hp, hfound⟩ := exists_stored_child hname h
  obtain ⟨entries, hmid, _⟩ := stored?_concat_eq_some_iff.mp hfound
  exact isFolderAt_iff.mpr ⟨entries, find_eq_ok_iff.mpr ⟨mid, hp, hmid⟩⟩

/-! ### The links of a tree -/

/-- The names under which the links of a tree are stored. -/
def linkPaths : FileTree → List (List String)
  | file _ => []
  | link _ => [[]]
  | folder entries => among entries
where
  among : List (String × FileTree) → List (List String)
    | [] => []
    | (name, t) :: rest => t.linkPaths.map (name :: ·) ++ among rest

mutual

theorem length_linkPaths : ∀ t : FileTree, t.linkPaths.length = t.linkCount
  | file _ => rfl
  | link _ => rfl
  | folder entries => by
    rw [linkPaths, linkCount]
    exact length_among entries

theorem length_among : ∀ entries : List (String × FileTree),
    (linkPaths.among entries).length = linkCount.countAll entries
  | [] => rfl
  | (name, t) :: rest => by
    rw [linkPaths.among, linkCount.countAll, List.length_append, List.length_map, length_linkPaths t,
      length_among rest]

end

theorem mem_among {entries : List (String × FileTree)} {below : FileTree} {names : List String}
    (h : (name, below) ∈ entries) (hnames : names ∈ below.linkPaths) : name :: names ∈ linkPaths.among entries := by
  induction entries with
  | nil => cases h
  | cons e entries ih =>
    rw [linkPaths.among, List.mem_append]
    rcases List.mem_cons.mp h with rfl | h
    · exact .inl (List.mem_map_of_mem hnames)
    · exact .inr (ih h)

theorem mem_linkPaths {names : List String} (h : t.stored? names = some (link target)) : names ∈ t.linkPaths := by
  induction names generalizing t with
  | nil =>
    obtain rfl := Option.some.inj h
    exact List.mem_singleton.mpr rfl
  | cons name names ih =>
    obtain ⟨below, hbelow, hlink⟩ := Option.bind_eq_some_iff.mp h
    cases t with
    | file _ => cases hbelow
    | link _ => cases hbelow
    | folder entries =>
      obtain ⟨before, after, hentries, _⟩ := List.lookup_eq_some_iff.mp hbelow
      rw [linkPaths]
      exact mem_among (by simp [show entries = _ from hentries]) (ih hlink)

/-- Links that are being followed, where the rest of the way goes through no more than `n` links: the way that each
of them stands for goes through at least as many. -/
structure Pending (t : FileTree) (opened : List (List String)) (n : Nat) : Prop where
  nodup : opened.Nodup
  long : ∀ o ∈ opened, ∃ here name target, o = here ++ [name] ∧ t.stored? o = some (link target) ∧
    ∀ m place, t.Leads (linkStart here target) (Path.parse target).names m place → n ≤ m

namespace Pending
variable {opened : List (List String)}

theorem none : t.Pending [] n := ⟨.nil, by simp⟩

theorem mono (h : t.Pending opened n) (hle : m ≤ n) : t.Pending opened m where
  nodup := h.nodup
  long o ho := by
    obtain ⟨here, name, target, rfl, hthere, hlong⟩ := h.long o ho
    exact ⟨here, name, target, rfl, hthere, fun k place hleads => Nat.le_trans hle (hlong k place hleads)⟩

/-- A link is not met again on its own way. -/
theorem not_mem (h : t.Pending opened n) (hthere : t.stored? (here ++ [name]) = some (link target))
    (hinner : t.Leads (linkStart here target) (Path.parse target).names m mid) (hlt : m < n) :
    here ++ [name] ∉ opened := by
  intro hmem
  obtain ⟨here', name', target', hsame, hthere', hlong⟩ := h.long _ hmem
  obtain ⟨rfl, hname⟩ := List.append_inj' hsame rfl
  obtain rfl := (List.cons.inj hname).1
  obtain rfl := FileTree.link.inj (Option.some.inj (hthere.symm.trans hthere'))
  exact Nat.not_le.mpr hlt (hlong m mid hinner)

/-- One more link is followed, for as long as its own way. -/
theorem cons (h : t.Pending opened n) (hthere : t.stored? (here ++ [name]) = some (link target))
    (hinner : t.Leads (linkStart here target) (Path.parse target).names m mid) (hlt : m < n) :
    t.Pending ((here ++ [name]) :: opened) m where
  nodup := List.nodup_cons.mpr ⟨h.not_mem hthere hinner hlt, h.nodup⟩
  long := by
    refine List.forall_mem_cons.mpr ⟨⟨here, name, target, rfl, hthere, fun k place hleads => ?_⟩, ?_⟩
    · exact Nat.le_of_eq (hinner.unique hleads).1
    · exact (h.mono (Nat.le_of_lt hlt)).long

theorem length_le_linkCount (h : t.Pending opened n) : opened.length ≤ t.linkCount := by
  have hsubset : opened ⊆ t.linkPaths := by
    intro o ho
    obtain ⟨_, _, _, _, hthere, _⟩ := h.long o ho
    exact mem_linkPaths hthere
  rw [← length_linkPaths t]
  exact (List.subperm_of_subset h.nodup hsubset).length_le

end Pending

/-- **Where names lead, there following the links ends**, without a miss and without a circle. -/
theorem follow_of_leads (h : t.Leads here rest n place) {opened : List (List String)} {depth : Nat}
    (hpending : t.Pending opened n) (hdepth : depth + opened.length = t.linkCount + 1) (missed : Bool) :
    t.follow depth opened here missed rest = ⟨place, missed, false⟩ := by
  induction h generalizing opened depth missed with
  | nil => rw [follow]
  | up _ _ ih =>
    rw [follow, if_pos rfl]
    exact ih hpending hdepth missed
  | @down here rest place name n found proper there solid _ ih =>
    rw [follow, if_neg proper]
    simp only [there]
    cases found with
    | link target => cases solid
    | _ => exact ih hpending hdepth missed
  | @link here rest mid place name target n m proper there inner _ ih₁ ih₂ =>
    have hlt : n < n + m + 1 := by omega
    have hopened := hpending.cons there inner hlt
    -- the links being followed are different ones, so there is depth left for one more
    obtain ⟨left, rfl⟩ : ∃ left, depth = left + 1 := by
      have hlength := hopened.length_le_linkCount
      rw [List.length_cons] at hlength
      exact ⟨depth - 1, by omega⟩
    have hdeeper : left + ((here ++ [name]) :: opened).length = t.linkCount + 1 := by
      rw [List.length_cons]
      omega
    have hinner : t.follow left ((here ++ [name]) :: opened) (if (Path.parse target).isAbsolute then [] else here)
        missed (Path.parse target).names = ⟨mid, missed, false⟩ := ih₁ hopened hdeeper missed
    rw [follow, if_neg proper]
    simp only [there, if_neg (hpending.not_mem there inner hlt), hinner, Bool.false_eq_true, if_false]
    exact ih₂ (hpending.mono (by omega)) hdepth missed

variable {p : Path}

/-- **What a path leads to is what following its links ends at.** -/
theorem land_of_locate (h : t.locate p = .ok place) : t.land p = ⟨place, false, false⟩ := by
  obtain ⟨n, _, hleads⟩ := leads_of_walk h
  exact follow_of_leads hleads .none rfl false

theorem canonical?_of_locate (h : t.locate p = .ok place) : t.canonical? p = some ⟨.root, place⟩ := by
  simp [canonical?, land_of_locate h]

/-! ### Canonical forms -/

/-- No name leads up, and none stands for a link, whether or not there is something under it. -/
structure Settled (t : FileTree) (names : List String) : Prop where
  down : ∀ n ∈ names, n ≠ ".."
  solid : ∀ front target, front <+: names → front ≠ [] → t.stored? front ≠ some (link target)

namespace Settled
variable {names : List String}

theorem nil : t.Settled [] where
  down := by simp
  solid front _ hfront hne := absurd (List.prefix_nil.mp hfront) hne

theorem of_prefix {front : List String} (h : t.Settled names) (hfront : front <+: names) : t.Settled front where
  down n hn := h.down n (hfront.subset hn)
  solid front' target hfront' := h.solid front' target (hfront'.trans hfront)

theorem concat (h : t.Settled names) (hname : name ≠ "..")
    (hsolid : ∀ target, t.stored? (names ++ [name]) ≠ some (link target)) : t.Settled (names ++ [name]) where
  down := List.forall_mem_append.mpr ⟨h.down, by simpa using hname⟩
  solid front target hfront hne := by
    rcases List.prefix_concat_iff.mp hfront with rfl | hfront
    · exact hsolid target
    · exact h.solid front target hfront hne

end Settled

/-- What is followed without a circle ends at settled names. -/
theorem settled_follow (depth : Nat) (opened : List (List String)) (here : List String) (missed : Bool)
    (rest : List String) (hhere : t.Settled here)
    (hlooped : (t.follow depth opened here missed rest).looped = false) :
    t.Settled (t.follow depth opened here missed rest).names := by
  fun_induction FileTree.follow t depth opened here missed rest with
  | case1 => exact hhere
  | case2 _ _ _ _ _ ih => exact ih (hhere.of_prefix (List.dropLast_prefix _)) hlooped
  | case3 _ _ _ _ _ _ hname _ hnone ih =>
    refine ih (hhere.concat hname fun target hlink => ?_) hlooped
    cases hnone.symm.trans hlink
  | case4 => cases hlooped
  | case5 => cases hlooped
  | case6 _ _ _ _ _ _ _ _ _ _ _ _ _ inner hinner _ =>
    rw [hinner] at hlooped
    cases hlooped
  | case7 _ here _ _ _ _ _ _ _ _ _ target start inner hinner ih₁ ih₂ ih =>
    have hstart : t.Settled start := by
      unfold start
      split
      · exact .nil
      · exact hhere
    exact ih (ih₁ hstart (by simpa using hinner)) hlooped
  | case8 _ _ _ _ _ _ hname _ found hsolid hthere ih =>
    refine ih (hhere.concat hname fun target hlink => ?_) hlooped
    exact hsolid target (Option.some.inj (hthere.symm.trans hlink))

/-- On settled names there is no link to go through. -/
theorem walk_of_settled (links : Nat) {here rest : List String} (h : t.Settled (here ++ rest)) :
    t.walk links here rest ≠ .error .tooManyLinks := by
  induction rest generalizing here with
  | nil => simp [walk]
  | cons name rest ih =>
    have hnext : t.Settled (here ++ [name] ++ rest) := by rwa [List.append_assoc]
    have hname : name ≠ ".." := h.down name (by simp)
    rw [walk]
    split
    · next entries hhere =>
      rw [if_neg hname]
      split
      · simp
      · next target hlink =>
        have hthere : t.stored? (here ++ [name]) = some (link target) :=
          stored?_concat_eq_some_iff.mpr ⟨entries, hhere, hlink⟩
        exact absurd hthere (hnext.solid _ target (List.prefix_append ..) (by simp))
      · exact ih hnext
    · simp

/-- **A path has a canonical form unless a link on the way leads back to itself.** -/
theorem resolve_of_not_looped (h : (t.land p).looped = false) : t.resolve p = some ⟨.root, (t.land p).names⟩ := by
  have hsettled : t.Settled (t.land p).names := settled_follow _ _ _ _ _ .nil h
  have hnormal : Path.normalize ⟨.root, (t.land p).names⟩ = ⟨.root, (t.land p).names⟩ :=
    Path.normalize_of_down hsettled.down
  have hfind : t.find ⟨.root, (t.land p).names⟩ ≠ .error .tooManyLinks := by
    have hwalk : t.locate ⟨.root, (t.land p).names⟩ ≠ .error .tooManyLinks :=
      walk_of_settled maxLinks ((List.nil_append _).symm ▸ hsettled)
    unfold find
    cases hlocate : t.locate ⟨.root, (t.land p).names⟩ with
    | error e =>
      rw [hlocate] at hwalk
      simpa [bind, Except.bind] using hwalk
    | ok place =>
      simp only [bind, Except.bind]
      split <;> simp
  unfold resolve
  simp only [hnormal]

/-- The canonical form of a path that leads somewhere is the place itself. -/
theorem resolve_of_locate (h : t.locate p = .ok place) : t.resolve p = some ⟨.root, place⟩ := by
  have hland := land_of_locate h
  rw [resolve_of_not_looped (by rw [hland]), hland]

/-- Places are canonical themselves. -/
theorem resolve_place (h : t.locate p = .ok place) : t.resolve ⟨.root, place⟩ = some ⟨.root, place⟩ := by
  have hdirect : t.Direct place := (direct_of_canonical (canonical?_of_locate h)).2
  exact resolve_of_locate (walk_of_direct maxLinks ((List.nil_append place).symm ▸ hdirect))

/-! ### Ways without links -/

/-- Where no link is met, every step goes by the names alone. -/
theorem follow_of_linkless (depth : Nat) (opened : List (List String)) (missed : Bool)
    (hhere : ∀ n ∈ here, n ≠ "..") (hlinkless : ∀ front, front <+: rest →
      ∀ target, t.stored? (front.foldl (Path.climb true) here) ≠ some (link target)) :
    ∃ lost, t.follow depth opened here missed rest = ⟨rest.foldl (Path.climb true) here, lost, false⟩ := by
  induction rest generalizing here missed with
  | nil => exact ⟨missed, by rw [follow, List.foldl_nil]⟩
  | cons name rest ih =>
    have hrest : ∀ front, front <+: rest → ∀ target,
        t.stored? (front.foldl (Path.climb true) (Path.climb true here name)) ≠ some (link target) :=
      fun front hfront => hlinkless (name :: front) (List.cons_prefix_cons.mpr ⟨rfl, hfront⟩)
    have hnext := fun missed => ih missed (Path.down_climb hhere name) hrest
    have hthere := hrest [] List.nil_prefix
    rw [Path.climb_of_down hhere] at hthere hnext
    rw [follow, List.foldl_cons, Path.climb_of_down hhere]
    by_cases hname : name = ".."
    · simp only [if_pos hname] at hnext ⊢
      exact hnext missed
    · simp only [if_neg hname] at hthere hnext ⊢
      cases hfound : t.stored? (here ++ [name]) with
      | none => exact hnext true
      | some found =>
        cases found with
        | link target => exact absurd hfound (hthere target)
        | _ => exact hnext missed

/-- No start of the path is kept as a link, where its names alone lead. -/
def Linkless (t : FileTree) (p : Path) : Prop :=
  ∀ front, front <+: p.names → ∀ target, t.stored? (Path.normalize ⟨.root, front⟩).names ≠ some (link target)

theorem linkless_iff_all : t.Linkless p ↔
    (p.names.inits.all fun front => !(t.stored? (Path.normalize ⟨.root, front⟩).names).any isLink) = true := by
  have hlink : ∀ found : Option FileTree, (∀ target, found ≠ some (link target)) ↔ (!found.any isLink) = true := by
    intro found
    rcases found with _ | found
    · simp
    · cases found <;> simp [isLink]
  simp only [Linkless, hlink, List.all_eq_true, List.mem_inits]

instance : Decidable (t.Linkless p) := decidable_of_iff _ linkless_iff_all.symm

/-- **Without a link on its way a canonical path is the normal form.** -/
theorem canonical?_of_linkless {q : Path} (hanchor : p.anchor = .root) (hlinkless : t.Linkless p)
    (h : t.canonical? p = some q) : q = p.normalize := by
  obtain ⟨_, _, rfl⟩ := canonical?_eq_some_iff.mp h
  obtain ⟨lost, hfollow⟩ := follow_of_linkless (t.linkCount + 1) [] false (by simp) hlinkless
  have habsolute : p.isAbsolute = true := by simp [Path.isAbsolute, hanchor]
  rw [Path.normalize, habsolute, hanchor, land, hfollow]

end FileTree

end Ripple
