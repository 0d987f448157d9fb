import Ripple.Proofs.Files.Removal

/-! What resolving a path goes by.

Where links lead and where they go round in circles is decided by the folders and links of a tree, its skeleton. What
is missing keeps its name as a file does (`follow_of_sameSkeleton`), and a walk goes no further than a file or a
missing name, only for another reason (`walk_of_sameSkeleton`). So trees with one skeleton resolve every
path alike (`resolve_of_sameSkeleton`), and a file that is removed takes nothing of the skeleton with it
(`SameSkeleton.remove`). -/
namespace Ripple.FileTree

/-- A part of the skeleton. -/
inductive Bone where
  | folder | link (target : String)

def bone? : FileTree → Option Bone
  | file _ => none
  | link target => some (.link target)
  | folder _ => some .folder

/-- The part of the skeleton under these names. -/
def boneAt (t : FileTree) (names : List String) : Option Bone := (t.stored? names).bind bone?

def SameSkeleton (t t' : FileTree) : Prop := ∀ names, t.boneAt names = t'.boneAt names

variable {t t' : FileTree} {names here : List String} {name target : String} {bytes : List UInt8}

theorem boneAt_eq_folder_iff :
    t.boneAt names = some .folder ↔ ∃ entries, t.stored? names = some (.folder entries) := by
  unfold boneAt
  cases t.stored? names with
  | none => simp
  | some found => cases found <;> simp [bone?]

theorem boneAt_eq_link_iff : t.boneAt names = some (.link target) ↔ t.stored? names = some (.link target) := by
  unfold boneAt
  cases t.stored? names with
  | none => simp
  | some found => cases found <;> simp [bone?]

theorem boneAt_cons (t : FileTree) (name : String) (rest : List String) :
    t.boneAt (name :: rest) = (t.child? name).bind (·.boneAt rest) := by
  rw [boneAt, stored?, Option.bind_assoc]
  rfl

/-- There is no skeleton in a file. -/
theorem boneAt_file (bytes : List UInt8) (names : List String) : (file bytes).boneAt names = none := by
  cases names <;> rfl

/-! ### Removing a file -/

theorem bone?_of_child? {below : FileTree} (h : t.child? name = some below) : t.bone? = some .folder := by
  cases t with
  | folder entries => rfl
  | file _ => cases h
  | link _ => cases h

theorem bone?_remove (name : String) (rest : List String) {below : FileTree} (h : t.child? name = some below) :
    (t.remove (name :: rest)).bone? = some .folder := by
  cases rest with
  | nil => rfl
  | cons next rest =>
    rw [FileTree.remove, h]
    · simp only [putChild, h, Option.isSome_some, if_true]
      rfl
    · simp

/-- **A file that is removed was no part of the skeleton.** -/
theorem SameSkeleton.remove (hne : names ≠ []) (hfile : t.stored? names = some (.file bytes)) :
    (t.remove names).SameSkeleton t := by
  induction names generalizing t with
  | nil => exact absurd rfl hne
  | cons name rest ih =>
    obtain ⟨below, hbelow, hfile⟩ := Option.bind_eq_some_iff.mp hfile
    intro way
    cases way with
    | nil => exact (bone?_remove name rest hbelow).trans (bone?_of_child? hbelow).symm
    | cons other way =>
      rw [boneAt_cons, boneAt_cons, child?_remove hbelow]
      by_cases hother : other = name
      · rw [if_pos hother, hother, hbelow]
        by_cases hrest : rest = []
        · subst hrest
          obtain rfl : below = .file bytes := Option.some.inj hfile
          exact (boneAt_file bytes way).symm
        · rw [if_neg hrest]
          exact ih hrest hfile way
      · rw [if_neg hother]

/-! ### Following links -/

/-- Names that stand for no link are gone through, whatever is under them. -/
theorem follow_of_no_link (depth : Nat) (opened : List (List String)) (missed : Bool) (rest : List String)
    (hname : name ≠ "..") (h : ∀ target, t.stored? (here ++ [name]) ≠ some (.link target)) :
    ∃ missed',
      t.follow depth opened here missed (name :: rest) = t.follow depth opened (here ++ [name]) missed' rest := by
  rw [follow, if_neg hname]
  cases hfound : t.stored? (here ++ [name]) with
  | none =>
    simp only [hfound]
    exact ⟨true, rfl⟩
  | some found =>
    simp only [hfound]
    cases found with
    | link target => exact absurd hfound (h target)
    | _ => exact ⟨missed, rfl⟩

theorem SameSkeleton.link_iff (h : t.SameSkeleton t') :
    t.stored? names = some (.link target) ↔ t'.stored? names = some (.link target) := by
  rw [← boneAt_eq_link_iff, h names, boneAt_eq_link_iff]

theorem SameSkeleton.folder_iff (h : t.SameSkeleton t') :
    (∃ entries, t.stored? names = some (.folder entries)) ↔ ∃ entries, t'.stored? names = some (.folder entries) := by
  rw [← boneAt_eq_folder_iff, h names, boneAt_eq_folder_iff]

/-- Links that are being followed, each of them once. -/
structure Opened (t : FileTree) (opened : List (List String)) : Prop where
  nodup : opened.Nodup
  links : ∀ o ∈ opened, ∃ target, t.stored? o = some (.link target)

namespace Opened
variable {opened : List (List String)}

theorem nil : t.Opened [] := ⟨.nil, by simp⟩

theorem cons (h : t.Opened opened) (hlink : t.stored? names = some (.link target)) (hnew : names ∉ opened) :
    t.Opened (names :: opened) :=
  ⟨List.nodup_cons.mpr ⟨hnew, h.nodup⟩, List.forall_mem_cons.mpr ⟨⟨target, hlink⟩, h.links⟩⟩

theorem length_le (h : t.Opened opened) : opened.length ≤ t.linkCount := by
  rw [← length_linkPaths t]
  refine (List.subperm_of_subset h.nodup fun o ho => ?_).length_le
  obtain ⟨_, hlink⟩ := h.links o ho
  exact mem_linkPaths hlink

/-- As long as there is room for a link more than there are, there is some for a link that is not yet followed. -/
theorem exists_less (h : t.Opened opened) (hlink : t.stored? names = some (.link target)) (hnew : names ∉ opened)
    {left : Nat} (hroom : t.linkCount < left + opened.length) :
    ∃ less, left = less + 1 ∧ t.linkCount < less + (names :: opened).length := by
  have hlength := (h.cons hlink hnew).length_le
  rw [List.length_cons] at hlength ⊢
  exact ⟨left - 1, by omega, by omega⟩

theorem of_sameSkeleton (h : t.Opened opened) (hsame : t.SameSkeleton t') : t'.Opened opened := by
  refine ⟨h.nodup, fun o ho => ?_⟩
  obtain ⟨target, hlink⟩ := h.links o ho
  exact ⟨target, hsame.link_iff.mp hlink⟩

end Opened

/-- **Trees with one skeleton lead on alike**, as far as names and circles go; what is missing may differ. -/
theorem follow_of_sameSkeleton (h : t.SameSkeleton t') (depth : Nat) (opened : List (List String))
    (here : List String) (missed : Bool) (rest : List String) (hopened : t.Opened opened) :
    ∀ left missed', t.linkCount < depth + opened.length → t'.linkCount < left + opened.length →
      (t'.follow left opened here missed' rest).names = (t.follow depth opened here missed rest).names ∧
      (t'.follow left opened here missed' rest).looped = (t.follow depth opened here missed rest).looped := by
  fun_induction FileTree.follow t depth opened here missed rest with
  | case1 =>
    intro left missed' _ _
    rw [follow]
    exact ⟨rfl, rfl⟩
  | case2 _ _ _ _ _ ih =>
    intro left missed' hdepth hleft
    rw [follow, if_pos rfl]
    exact ih hopened left missed' hdepth hleft
  | case3 _ _ here _ name _ hname next hnone ih =>
    intro left missed' hdepth hleft
    have hno : ∀ target, t'.stored? (here ++ [name]) ≠ some (.link target) := fun target hlink => by
      cases hnone.symm.trans (h.link_iff.mpr hlink)
    obtain ⟨missed', hfollow⟩ := follow_of_no_link left _ missed' _ hname hno
    rw [hfollow]
    exact ih hopened left missed' hdepth hleft
  | case4 =>
    intro left missed' hdepth _
    have hlength := hopened.length_le
    omega
  | case5 opened here _ name rest hname next target hlink depth hagain =>
    intro left missed' _ hleft
    have hlength := (hopened.of_sameSkeleton h).length_le
    obtain ⟨left, rfl⟩ : ∃ less, left = less + 1 := ⟨left - 1, by omega⟩
    rw [follow, if_neg hname]
    simp only [show t'.stored? (here ++ [name]) = some (.link target) from h.link_iff.mp hlink,
      if_pos (show here ++ [name] ∈ opened from hagain)]
    exact ⟨rfl, trivial⟩
  | case6 opened here missed name rest hname next target hlink depth hnew parsed start inner hinner ih =>
    intro left missed' hdepth hleft
    obtain ⟨left, rfl, hroom⟩ := (hopened.of_sameSkeleton h).exists_less (h.link_iff.mp hlink) hnew hleft
    obtain ⟨hnames, hlooped⟩ :=
      ih (hopened.cons hlink hnew) left missed' (by rw [List.length_cons]; omega) hroom
    rw [follow_looped hname (h.link_iff.mp hlink) hnew rfl (hlooped.trans hinner)]
    exact ⟨congrArg (· ++ rest) hnames, hlooped⟩
  | case7 opened here missed name rest hname next target hlink depth hnew parsed start inner hinner ih₁ ih₂ ih =>
    intro left missed' hdepth hleft
    obtain ⟨left, rfl, hroom⟩ := (hopened.of_sameSkeleton h).exists_less (h.link_iff.mp hlink) hnew hleft
    obtain ⟨hnames, hlooped⟩ :=
      ih₁ (hopened.cons hlink hnew) left missed' (by rw [List.length_cons]; omega) hroom
    generalize hinner' : t'.follow left (next :: opened) start missed' parsed.names = inner' at hnames hlooped
    rw [follow_link hname (h.link_iff.mp hlink) hnew hinner' (hlooped.trans (by simpa using hinner)), hnames]
    exact ih hopened (left + 1) inner'.missed hdepth hleft
  | case8 _ _ here _ name _ hname next found hsolid hfound ih =>
    intro left missed' hdepth hleft
    have hno : ∀ target, t'.stored? (here ++ [name]) ≠ some (.link target) := fun target hlink => by
      obtain rfl := Option.some.inj (hfound.symm.trans (h.link_iff.mpr hlink))
      exact hsolid target rfl
    obtain ⟨missed', hfollow⟩ := follow_of_no_link left _ missed' _ hname hno
    rw [hfollow]
    exact ih hopened left missed' hdepth hleft

/-! ### Walking -/

theorem lookup_eq_stored? {entries : List (String × FileTree)} (h : t.stored? here = some (.folder entries))
    (name : String) : entries.lookup name = t.stored? (here ++ [name]) := by
  rw [stored?_append, h, Option.bind_some, stored?, child?, FileTree.entries]
  cases entries.lookup name <;> rfl

/-- A walk that comes to a file comes upon no more links. -/
theorem walk_of_file (links : Nat) (rest : List String) (h : t.stored? here = some (.file bytes)) :
    t.walk links here rest ≠ .error .tooManyLinks := by
  cases rest with
  | nil => simp [walk]
  | cons name rest => simp [walk, h]

/-- **Trees with one skeleton have their circles alike**: in both a walk comes upon too many links, or in neither. -/
theorem walk_of_sameSkeleton (h : t.SameSkeleton t') (links : Nat) (here rest : List String)
    (hwalk : t.walk links here rest = .error .tooManyLinks) : t'.walk links here rest = .error .tooManyLinks := by
  fun_induction FileTree.walk t links here rest with
  | case1 => cases hwalk
  | case2 links here rest entries hhere ih =>
    obtain ⟨entries', hhere'⟩ := h.folder_iff.mp ⟨entries, hhere⟩
    rw [walk, hhere']
    simp only [if_true]
    exact ih hwalk
  | case3 => cases hwalk
  | case4 here name rest entries hhere hname target hlink =>
    obtain ⟨entries', hhere'⟩ := h.folder_iff.mp ⟨entries, hhere⟩
    have hlink' := h.link_iff.mp (lookup_eq_stored? hhere name ▸ hlink)
    rw [walk, hhere']
    simp only [if_neg hname, lookup_eq_stored? hhere', hlink']
  | case5 here name rest entries hhere hname target hlink links target' ih =>
    obtain ⟨entries', hhere'⟩ := h.folder_iff.mp ⟨entries, hhere⟩
    have hlink' := h.link_iff.mp (lookup_eq_stored? hhere name ▸ hlink)
    rw [walk, hhere']
    simp only [if_neg hname, lookup_eq_stored? hhere', hlink']
    exact ih hwalk
  | case6 links here name rest entries hhere hname found hsolid hfound ih =>
    have hthere := lookup_eq_stored? hhere name ▸ hfound
    cases found with
    | link target => exact absurd rfl (hsolid target)
    | file bytes => exact absurd hwalk (walk_of_file links rest hthere)
    | folder below =>
      obtain ⟨entries', hhere'⟩ := h.folder_iff.mp ⟨entries, hhere⟩
      obtain ⟨below', hthere'⟩ := h.folder_iff.mp ⟨below, hthere⟩
      rw [walk, hhere']
      simp only [if_neg hname, lookup_eq_stored? hhere', hthere']
      exact ih hwalk
  | case7 => cases hwalk

/-! ### Resolving -/

theorem find_tooManyLinks_iff (t : FileTree) (p : Path) :
    t.find p = .error .tooManyLinks ↔ t.walk maxLinks [] p.names = .error .tooManyLinks := by
  unfold find locate
  cases t.walk maxLinks [] p.names with
  | error e => simp [bind, Except.bind]
  | ok place =>
    simp only [bind, Except.bind]
    split <;> simp

/-- **Trees with one skeleton resolve every path alike.** -/
theorem resolve_of_sameSkeleton (h : t.SameSkeleton t') (p : Path) : t.resolve p = t'.resolve p := by
  have hnames : (t'.land p).names = (t.land p).names :=
    (follow_of_sameSkeleton h _ _ [] false p.names .nil _ false (Nat.lt_succ_self _) (Nat.lt_succ_self _)).1
  have hfind : ∀ q, t.find q = .error .tooManyLinks ↔ t'.find q = .error .tooManyLinks := fun q => by
    rw [find_tooManyLinks_iff, find_tooManyLinks_iff]
    exact ⟨walk_of_sameSkeleton h _ _ _, walk_of_sameSkeleton (fun names => (h names).symm) _ _ _⟩
  unfold resolve
  rw [hnames]
  simp only
  split
  · next hcircle => rw [(hfind _).mp hcircle]
  · next hnone =>
    split
    · next hcircle => exact absurd ((hfind _).mpr hcircle) hnone
    · rfl

end Ripple.FileTree
