import Mathlib
import Ripple.Git
import Ripple.Proofs.OrderedMap
import Ripple.Proofs.Path.Order

/-! Changed files, from what git answers.

What a talk with git comes to is said by the commands it asks if none fails (`Asks`): then the first failure
among these ends it, and nothing is asked after that. A step of a talk asks one command (`Asks.run`), and the
commands of its steps come one after the other (`Asks.bind`). The changed files are the union of what the
requested diffs list (`changed_files_are_union`). -/
namespace Ripple.Git

/-! ### Talks -/

section Talk
variable (git : Git)

/-- What a command comes to. -/
def reply (args : List String) : Except GitError String :=
  match git with
  | none => .error (.notInstalled (Text.join " " ("git" :: args)))
  | some answer =>
    let a := answer args
    if a.status ≠ 0 then .error (.failed (Text.join " " ("git" :: args)) a.status a.errors) else .ok a.output

/-- Why a command fails, if it does. -/
def failure? (args : List String) : Option GitError :=
  match git.reply args with
  | .error e => some e
  | .ok _ => none

/-- What a command prints; nothing if it fails. -/
def output (args : List String) : String :=
  match git.reply args with
  | .error _ => ""
  | .ok text => text

theorem reply_eq (args : List String) :
    git.reply args = (git.failure? args).elim (.ok (git.output args)) .error := by
  unfold failure? output
  cases git.reply args <;> rfl

theorem run_eq (args : List String) (asked : List (List String)) :
    (git.run args).run.run asked = (git.reply args, asked ++ [args]) := by
  cases git with
  | none => rfl
  | some answer =>
    by_cases hstatus : (answer args).status = 0
    · simp only [run, reply, hstatus, ne_eq, not_true, if_false]
      rfl
    · simp only [run, reply, hstatus, ne_eq, not_false_eq_true, if_true]
      rfl

/-- The commands that are asked when these are to be asked one after the other: up to the first that fails. -/
def askedOf (commands : List (List String)) : List (List String) :=
  commands.takeWhile (fun args => (git.failure? args).isNone) ++
    (commands.find? fun args => (git.failure? args).isSome).toList

theorem askedOf_cons (args : List String) (commands : List (List String)) :
    git.askedOf (args :: commands) = args :: if (git.failure? args).isSome then [] else git.askedOf commands := by
  unfold askedOf
  cases h : git.failure? args <;> simp [h]

/-- What comes after a failure is not asked. -/
theorem askedOf_append (commands more : List (List String)) :
    git.askedOf (commands ++ more) = git.askedOf commands ++
      if (commands.findSome? git.failure?).isSome then [] else git.askedOf more := by
  induction commands with
  | nil => rfl
  | cons args commands ih =>
    rw [List.cons_append, askedOf_cons, askedOf_cons, ih, List.findSome?_cons]
    cases git.failure? args <;> simp

/-- A talk asks these commands, up to the first that fails, and comes to `a` if none does. -/
def Asks {α : Type} (talk : GitM α) (commands : List (List String)) (a : α) : Prop :=
  ∀ asked, talk.run.run asked =
    ((commands.findSome? git.failure?).elim (.ok a) .error, asked ++ git.askedOf commands)

variable {git}

theorem Asks.pure {α : Type} (a : α) : git.Asks (pure a) [] a := by
  intro asked
  exact Prod.ext rfl (List.append_nil asked).symm

theorem Asks.run (args : List String) : git.Asks (git.run args) [args] (git.output args) := by
  intro asked
  have hasked : git.askedOf [args] = [args] := by
    rw [askedOf_cons]
    exact congrArg (args :: ·) (ite_self _)
  rw [run_eq, reply_eq, hasked, List.findSome?_singleton]

theorem Asks.bind {α β : Type} {talk : GitM α} {next : α → GitM β} {commands more : List (List String)} {a : α} {b : β}
    (h : git.Asks talk commands a) (hnext : git.Asks (next a) more b) :
    git.Asks (talk >>= next) (commands ++ more) b := by
  intro asked
  rw [ExceptT.run_bind, StateT.run_bind, h asked, askedOf_append, List.findSome?_append]
  cases commands.findSome? git.failure? with
  | some e =>
    -- the rest of the talk is skipped
    exact Prod.ext rfl (congrArg (asked ++ ·) (List.append_nil _).symm)
  | none => exact (hnext (asked ++ git.askedOf commands)).trans (Prod.ext rfl (List.append_assoc ..))

end Talk

/-! ### Diffs -/

/-- A diff that a request may ask for. -/
inductive Source where
  | staged
  | worktree
  | since (revision : String)
  | sinceFork (revision : String)

/-- The diffs that a request asks for, in order. -/
def sources (request : DiffRequest) : List Source :=
  (if request.staged then [.staged] else []) ++ ((if request.worktree then [.worktree] else []) ++
    (((DiffRequest.named? request.since).map .since).toList ++
      ((DiffRequest.named? request.sinceFork).map .sinceFork).toList))

def forkCommand (revision : String) : List String := ["merge-base", revision, "HEAD"]

def topCommand : List String := ["rev-parse", "--show-toplevel"]

section Diffs
variable (git : Git)

/-- What a diff compares with. -/
def against : Source → String
  | .staged => "--cached"
  | .worktree => "HEAD"
  | .since revision => revision ++ "..HEAD"
  | .sinceFork revision => Text.strip (git.output (forkCommand revision)) ++ "..HEAD"

def diffCommand (s : Source) : List String := ["diff", "--name-only", git.against s]

/-- The commands for a diff: it may have to be known first where the history left another one. -/
def commandsFor : Source → List (List String)
  | .sinceFork revision => [forkCommand revision, git.diffCommand (.sinceFork revision)]
  | s => [git.diffCommand s]

/-- The names that a diff lists. -/
def namesOf (s : Source) : List String := namesIn (git.output (git.diffCommand s))

def names (request : DiffRequest) : List String := (sources request).flatMap git.namesOf

/-- The commands for a request, if none fails. -/
def commands (request : DiffRequest) : List (List String) :=
  (sources request).flatMap git.commandsFor ++ if git.names request = [] then [] else [topCommand]

/-- The top of the repository. -/
def top : Path := Path.parse (Text.strip (git.output topCommand))

variable {git}

theorem asks_diff (s : Source) : git.Asks (git.diff (git.against s)) [git.diffCommand s] (git.namesOf s) :=
  (Asks.run (git.diffCommand s)).bind (.pure _)

variable {β : Type} {next : List String → GitM β} {more : List (List String)} {b : β}

/-- A diff against something fixed is asked for if it is wanted. -/
theorem asks_if (wanted : Bool) {s : Source} (hs : git.commandsFor s = [git.diffCommand s])
    (hnext : git.Asks (next ((if wanted then [s] else []).flatMap git.namesOf)) more b) :
    git.Asks (if wanted then git.diff (git.against s) >>= next else pure [] >>= next)
      ((if wanted then [s] else []).flatMap git.commandsFor ++ more) b := by
  cases wanted with
  | false => exact (Asks.pure []).bind hnext
  | true =>
    simp only [if_true, List.flatMap_singleton] at hnext ⊢
    rw [hs]
    exact (asks_diff s).bind hnext

/-- A diff against a revision is asked for if one is named. -/
theorem asks_match {talk : String → GitM β} {source : String → Source} (revision : Option String)
    (hsome : ∀ r, git.Asks (next (git.namesOf (source r))) more b →
      git.Asks (talk r) (git.commandsFor (source r) ++ more) b)
    (hnext : git.Asks (next ((revision.map source).toList.flatMap git.namesOf)) more b) :
    git.Asks (match revision with | some r => talk r | none => pure [] >>= next)
      ((revision.map source).toList.flatMap git.commandsFor ++ more) b := by
  cases revision with
  | none => exact (Asks.pure []).bind hnext
  | some r =>
    simp only [Option.map_some, Option.toList_some, List.flatMap_singleton] at hnext ⊢
    exact hsome r hnext

theorem asks_since (r : String) (hnext : git.Asks (next (git.namesOf (.since r))) more b) :
    git.Asks (git.diff (r ++ "..HEAD") >>= next) (git.commandsFor (.since r) ++ more) b :=
  (asks_diff (.since r)).bind hnext

theorem asks_sinceFork (r : String) (hnext : git.Asks (next (git.namesOf (.sinceFork r))) more b) :
    git.Asks (git.run ["merge-base", r, "HEAD"] >>= fun fork => git.diff (Text.strip fork ++ "..HEAD") >>= next)
      (git.commandsFor (.sinceFork r) ++ more) b := by
  have hfork : git.Asks (git.run ["merge-base", r, "HEAD"]) [forkCommand r] (git.output (forkCommand r)) :=
    Asks.run _
  exact hfork.bind ((asks_diff (.sinceFork r)).bind hnext)

theorem asks_listedNames (request : DiffRequest) :
    git.Asks (git.listedNames request) ((sources request).flatMap git.commandsFor) (git.names request) := by
  rw [← List.append_nil (List.flatMap git.commandsFor (sources request))]
  unfold names sources listedNames
  simp only [List.flatMap_append, List.append_assoc]
  refine asks_if request.staged (s := .staged) rfl ?_
  refine asks_if request.worktree (s := .worktree) rfl ?_
  refine asks_match _ (fun r h => asks_since r h) ?_
  refine asks_match _ (fun r h => asks_sinceFork r h) ?_
  exact .pure _

end Diffs

/-! ### Files -/

/-- The files with these names, each once and in order. -/
def filesAt (top : Path) (names : List String) : List Path :=
  ((names.map fun name => top / Path.parse name).foldl addNew []).mergeSort Path.le

section Files
variable {top : Path} {names : List String}

@[simp] theorem filesAt_nil : filesAt top [] = [] := List.mergeSort_nil

theorem mem_filesAt {p : Path} : p ∈ filesAt top names ↔ ∃ name ∈ names, p = top / Path.parse name := by
  rw [filesAt, (List.mergeSort_perm _ _).mem_iff, mem_foldl_addNew, List.mem_map]
  simp only [List.not_mem_nil, false_or, eq_comm]

theorem proper_of_mem_filesAt (htop : ∀ n ∈ top.names, Path.IsProper n) {p : Path} (hp : p ∈ filesAt top names) :
    ∀ n ∈ p.names, Path.IsProper n := by
  obtain ⟨name, _, rfl⟩ := mem_filesAt.mp hp
  intro n hn
  by_cases habs : (Path.parse name).isAbsolute = true
  · rw [Path.div_of_absolute habs] at hn
    exact Path.proper_of_mem_parse hn
  · rw [Path.div_of_relative habs] at hn
    exact (List.mem_append.mp hn).elim (htop n) Path.proper_of_mem_parse

theorem filesAt_ascending (top : Path) (names : List String) (htop : ∀ n ∈ top.names, Path.IsProper n) :
    (filesAt top names).Pairwise Path.Before := by
  have hsorted : (filesAt top names).Pairwise fun p q => p.le q = true :=
    List.pairwise_mergeSort Path.le_trans Path.le_total _
  have hnodup : (filesAt top names).Nodup := (List.mergeSort_perm _ _).nodup_iff.mpr (nodup_foldl_addNew _)
  refine (hsorted.and hnodup).imp_of_mem fun hp hq h => ?_
  exact Path.before_of_le (proper_of_mem_filesAt htop hp) (proper_of_mem_filesAt htop hq) h.1 h.2

end Files

section Union
variable {git : Git}

theorem sources_eq_nil {request : DiffRequest} (h : request.isEmpty = true) : sources request = [] := by
  simp only [DiffRequest.isEmpty, Bool.not_eq_true', Bool.or_eq_false_iff, Option.isSome_eq_false_iff,
    Option.isNone_iff_eq_none] at h
  obtain ⟨⟨⟨hstaged, hworktree⟩, hsince⟩, hfork⟩ := h
  simp [sources, hstaged, hworktree, hsince, hfork]

theorem asks_changedFiles (git : Git) (request : DiffRequest) :
    git.Asks (git.changedFiles request) (git.commands request) (filesAt git.top (git.names request)) := by
  unfold changedFiles commands
  split
  · next hempty =>
    have hnames : git.names request = [] := congrArg (List.flatMap git.namesOf) (sources_eq_nil hempty)
    rw [hnames, sources_eq_nil hempty, filesAt_nil]
    exact .pure _
  · refine (asks_listedNames request).bind ?_
    split
    · next hnames =>
      rw [hnames, filesAt_nil]
      exact .pure _
    · have htop : git.Asks git.topLevel [topCommand] git.top := (Asks.run topCommand).bind (.pure _)
      exact htop.bind (.pure _)

/-- A diff that a request asks for lists a name: on one of the lines that it prints, perhaps between blanks. -/
def Lists (git : Git) (request : DiffRequest) (name : String) : Prop :=
  name ≠ "" ∧ ∃ s ∈ sources request, ∃ line ∈ Text.lines (git.output (git.diffCommand s)), Text.strip line = name

theorem mem_names_iff {request : DiffRequest} {name : String} : name ∈ git.names request ↔ git.Lists request name := by
  simp only [names, namesOf, namesIn, Lists, List.mem_flatMap, List.mem_filter, List.mem_map, bne_iff_ne]
  grind

/-- **The changed files are the union of what the requested diffs list**, and the first failure ends the talk.
The commands are asked in order, up to the first that fails: its error is the outcome. If none fails, the outcome
is the files that some requested diff lists: those with an absolute name as they are, the others below the top of
the repository. They come part by part in ascending order, so which diff lists a name, where and how often makes
no difference. -/
theorem changed_files_are_union (git : Git) (request : DiffRequest) (asked : List (List String)) :
    ∃ files, (git.changedFiles request).run.run asked =
        (((git.commands request).findSome? git.failure?).elim (.ok files) .error,
          asked ++ git.askedOf (git.commands request)) ∧
      files.Pairwise Path.Before ∧
      (∀ p, p ∈ files ↔ ∃ name, git.Lists request name ∧
        p = if (Path.parse name).isAbsolute then Path.parse name
          else ⟨git.top.anchor, git.top.names ++ (Path.parse name).names⟩) ∧
      ∀ (git' : Git) (request' : DiffRequest), (∀ name, git'.Lists request' name ↔ git.Lists request name) →
        git'.top = git.top → (git'.commands request').findSome? git'.failure? = none →
          ∀ asked', ((git'.changedFiles request').run.run asked').1 = .ok files := by
  have hascending := filesAt_ascending git.top (git.names request) fun n => Path.proper_of_mem_parse
  have hbelow : ∀ q : Path, git.top / q = if q.isAbsolute then q else ⟨git.top.anchor, git.top.names ++ q.names⟩ :=
    fun _ => rfl
  refine ⟨filesAt git.top (git.names request), ?_, hascending, fun p => ?_, ?_⟩
  · exact asks_changedFiles git request asked
  · simp only [mem_filesAt, mem_names_iff, hbelow]
  intro git' request' hlists hsame hdone asked'
  have hfiles : filesAt git'.top (git'.names request') = filesAt git.top (git.names request) := by
    refine Path.eq_of_ascending (filesAt_ascending _ _ fun n => Path.proper_of_mem_parse) hascending fun p => ?_
    simp only [mem_filesAt, mem_names_iff, hsame, hlists]
  have hrun' := asks_changedFiles git' request' asked'
  rw [hrun', hdone, hfiles]
  rfl

/-- Two files that are staged are found as they are in the work tree, where one is listed twice and between blanks. -/
theorem same_names_same_files :
    let answer (listing : String) : Git := some fun args => ⟨0, if args = topCommand then "/repo\n" else listing, ""⟩
    let git := answer "b.py\na.py\n"
    let git' := answer "a.py\n\n b.py\r\na.py\n"
    let staged : DiffRequest := ⟨true, false, none, none⟩
    let worktree : DiffRequest := ⟨false, true, none, none⟩
    (∀ name, git'.Lists worktree name ↔ git.Lists staged name) ∧ git'.top = git.top ∧
      (git'.commands worktree).findSome? git'.failure? = none ∧
      ((git'.changedFiles worktree).run.run []).1 = .ok [⟨.root, ["repo", "a.py"]⟩, ⟨.root, ["repo", "b.py"]⟩] := by
  intro answer git git' staged worktree
  have hnames : git.names staged = ["b.py", "a.py"] := by cbv
  have hnames' : git'.names worktree = ["a.py", "b.py", "a.py"] := by cbv
  have htop : git.top = ⟨.root, ["repo"]⟩ := by cbv
  have htop' : git'.top = ⟨.root, ["repo"]⟩ := by cbv
  have hlists : ∀ name, git'.Lists worktree name ↔ git.Lists staged name := by
    intro name
    rw [← mem_names_iff, ← mem_names_iff, hnames, hnames']
    grind
  have hdone : (git'.commands worktree).findSome? git'.failure? = none :=
    List.findSome?_eq_none_iff.mpr fun args _ => rfl
  have htops : git'.top = git.top := htop'.trans htop.symm
  obtain ⟨files, -, hascending, hmem, hsame⟩ := changed_files_are_union git staged []
  have hfiles : files = [⟨.root, ["repo", "a.py"]⟩, ⟨.root, ["repo", "b.py"]⟩] := by
    have hascending' : ([⟨.root, ["repo", "a.py"]⟩, ⟨.root, ["repo", "b.py"]⟩] : List Path).Pairwise Path.Before := by
      decide
    have ha : Path.parse "a.py" = ⟨.relative, ["a.py"]⟩ := by cbv
    have hb : Path.parse "b.py" = ⟨.relative, ["b.py"]⟩ := by cbv
    refine Path.eq_of_ascending hascending hascending' fun p => ?_
    simp only [hmem, ← mem_names_iff, hnames, htop, List.mem_cons, List.not_mem_nil, or_false, or_and_right,
      exists_or, exists_eq_left, ha, hb]
    exact or_comm
  exact ⟨hlists, htops, hdone, hfiles ▸ hsame git' worktree hlists htops hdone []⟩

end Union

end Ripple.Git
