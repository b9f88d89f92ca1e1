import RevealGates.Proofs.Program
import RevealGates.Proofs.Settings.Search

/-!
What runs do to the files.

The only thing that a run ever writes is the starter settings file of its working directory, and it
writes it only when it is asked to and says so by its exit code. What many runs leave behind, one
after the other and in whichever directories, follows from what a single run does.
-/

set_option autoImplicit false

namespace RevealGates

/-! ## Writing a file -/

namespace Files.Tree

variable {tree : Tree} {here location : Location}

theorem put_put (tree : Tree) (location : Location) (node : Node) :
    (tree.put location node).put location node = tree.put location node := by
  simp [put]

theorem walk_eq_foldl {segments : List String} (reached : tree.walk here segments = .ok location) :
    location = segments.foldl step here := by
  induction segments generalizing here with
  | nil =>
      cases reached
      rfl
  | cons segment rest ih =>
      rw [walk] at reached
      split at reached
      · exact ih reached
      · cases reached
      · cases reached

/-- A way that leads through directories does not change when something else is replaced. -/
theorem walk_put {segments : List String} (reached : tree.walk here segments = .ok location)
    {target : Location} (other : tree.node? target ≠ some .directory) (node : Node) :
    (tree.put target node).walk here segments = .ok location := by
  induction segments generalizing here with
  | nil => exact reached
  | cons segment rest ih =>
      rw [walk] at reached
      split at reached
      · next directory =>
        have different : here ≠ target := by
          intro same
          exact other (same ▸ directory)
        rw [walk, node?_put_of_ne tree different, directory]
        exact ih reached
      · cases reached
      · cases reached

theorem locate_put {path : Path} (reached : tree.locate here path = .ok location)
    {target : Location} (other : tree.node? target ≠ some .directory) (node : Node) :
    (tree.put target node).locate here path = .ok location := by
  by_cases absolute : path.absolute = true
  · rw [locate, if_pos absolute] at reached ⊢
    exact walk_put reached other node
  · rw [locate, if_neg absolute] at reached ⊢
    by_cases empty : path.segments = []
    · rw [if_pos empty] at reached
      cases reached
    · rw [if_neg empty] at reached ⊢
      exact walk_put reached other node

end Files.Tree

/-! ## The starter file of a directory -/

namespace Settings.Starter

open Files (Location Path Tree)

/-- The location of the settings file of a working directory. -/
def place (here : Location) : Location := here.foldl Tree.step [] ++ [fileName]

example : place ["home", "project"] = ["home", "project", "boolgate.toml"] := by decide

variable {tree : Tree} {here : Location}

theorem place_ne_nil (here : Location) : place here ≠ [] := by
  simp [place]

theorem foldl_step_child (here : Location) :
    ((⟨true, here.reverse⟩ : Path).child fileName).segments.reverse.foldl Tree.step [] =
      place here := by
  have last (front : Location) : Tree.step front fileName = front ++ [fileName] := rfl
  unfold Path.child
  split
  · next rest slash =>
    obtain rfl : here = rest.reverse ++ [""] := List.reverse_eq_cons_iff.mp slash
    have idle (front : Location) : Tree.step front "" = front := rfl
    simp [place, last, idle]
  · simp [place, last]

theorem locate_eq_place {location : Location}
    (reached : tree.locate here ((⟨true, here.reverse⟩ : Path).child fileName) = .ok location) :
    location = place here := by
  have absolute : ((⟨true, here.reverse⟩ : Path).child fileName).absolute = true := by
    unfold Path.child
    split <;> rfl
  rw [Tree.locate, if_pos absolute] at reached
  exact (Tree.walk_eq_foldl reached).trans (foldl_step_child here)

/-- How writing the starter file of a working directory ends: there is something that is not to be
replaced, or the file cannot be written, or it is written and nothing else is touched. -/
inductive CreationEnds (tree : Tree) (here : Location) (force : Bool) : Creation → Prop where
  | kept : Has tree here ⟨true, here.reverse⟩ fileName → force = false →
      CreationEnds tree here force ⟨.kept, tree, []⟩
  | failed {fault} : ¬ Has tree here ⟨true, here.reverse⟩ fileName ∨ force = true →
      CreationEnds tree here force ⟨.failed fault, tree, []⟩
  | created {events} : ¬ Has tree here ⟨true, here.reverse⟩ fileName ∨ force = true →
      tree.locate here ((⟨true, here.reverse⟩ : Path).child fileName) = .ok (place here) →
      tree.node? (place here) ≠ some .directory →
      CreationEnds tree here force ⟨.created, tree.put (place here) (.file text.toUTF8), events⟩

theorem create_ends (tree : Tree) (here : Location) (force : Bool) :
    CreationEnds tree here force (create tree here ⟨true, here.reverse⟩ force) := by
  unfold create
  dsimp only
  split
  · next guarded =>
    rw [Bool.and_eq_true, isPresent_child_iff, Bool.not_eq_true'] at guarded
    exact .kept guarded.1 guarded.2
  · next unguarded =>
    rw [Bool.and_eq_true, isPresent_child_iff, Bool.not_eq_true', not_and_or,
      Bool.not_eq_false] at unguarded
    unfold Tree.writeText
    cases located : tree.locate here ((⟨true, here.reverse⟩ : Path).child fileName) with
    | error fault => exact .failed unguarded
    | ok location =>
        obtain rfl := locate_eq_place located
        simp only [bind, Except.bind]
        cases found : tree.node? (place here) with
        | none => exact .created unguarded located (by rw [found]; nofun)
        | some node =>
            cases node with
            | directory => exact .failed unguarded
            | file content => exact .created unguarded located (by rw [found]; nofun)

/-- By force the file is written again as it is. -/
theorem create_again {tree : Tree} {here : Location}
    (located : tree.locate here ((⟨true, here.reverse⟩ : Path).child fileName) = .ok (place here))
    (free : tree.node? (place here) ≠ some .directory) :
    let written := tree.put (place here) (.file text.toUTF8)
    (create written here ⟨true, here.reverse⟩ true).tree = written := by
  intro written
  have again := Tree.locate_put located free (.file text.toUTF8)
  have held := tree.node?_put_self (place_ne_nil here) (.file text.toUTF8)
  simp only [create, Bool.not_true, Bool.and_false, Bool.false_eq_true, if_false, Tree.writeText,
    written, again, held, bind, Except.bind, Tree.put_put]

end Settings.Starter

/-! ## One run -/

namespace Program

open Files (Location Tree)
open Settings (Has)
open Settings.Starter (place)

/-- A run that is to take place. -/
structure Launch where
  environment : Environment := {}
  here : Location := []
  completions : Shell → String := fun _ => ""
  words : List String

namespace Launch

def context (launch : Launch) (files : Tree) : Context where
  environment := launch.environment
  here := launch.here
  files := files
  completions := launch.completions

def run (launch : Launch) (files : Tree) : Outcome :=
  Program.run (launch.context files) launch.words

/-- The run is to write the starter file of its working directory. -/
def IsInit (launch : Launch) (force : Bool) : Prop :=
  ∃ config, CommandLine.parse (launch.environment.get? CommandLine.Help.configVariable)
    launch.words = .ok ⟨config, some (.init force)⟩

end Launch

theorem prepare_files {context : Context} {report : List Notice → Prepared → Outcome}
    (kept : ∀ notices prepared, (report notices prepared).files = context.files)
    (config : Option String) (choice : ReportChoice) :
    (prepare context config choice report).files = context.files := by
  unfold prepare
  split
  · rfl
  · dsimp only
    split
    · rfl
    · exact kept _ _

theorem runInvocation_files (context : Context) (config : Option String) {command : Option Command}
    (other : ∀ force, command ≠ some (.init force)) :
    (runInvocation context ⟨config, command⟩).files = context.files := by
  cases command with
  | none => rfl
  | some command =>
      cases command with
      | eval inputs expect choice =>
          apply prepare_files
          intro notices prepared
          dsimp only
          split
          · rfl
          · split <;> rfl
      | table choice => exact prepare_files (fun _ _ => rfl) config choice
      | init force => exact absurd rfl (other force)
      | completions shell => rfl

namespace Launch

variable {launch : Launch} {force : Bool}

theorem run_of_isInit (asked : launch.IsInit force) (files : Tree) :
    launch.run files = runInit (launch.context files) force := by
  obtain ⟨config, understood⟩ := asked
  have read : CommandLine.parse (configVariable (launch.context files)) launch.words =
      .ok ⟨config, some (.init force)⟩ := understood
  simp only [run, Program.run, read, runInvocation]

theorem IsInit.ends (isInit : launch.IsInit force) (files : Tree) :
    ∃ creation, Settings.Starter.CreationEnds files launch.here force creation ∧
      (launch.run files).code = creation.outcome.exitCode ∧
      (launch.run files).files = creation.tree := by
  refine ⟨_, Settings.Starter.create_ends files launch.here force, ?_⟩
  rw [run_of_isInit isInit]
  exact ⟨rfl, rfl⟩

theorem files_of_not_isInit (other : ∀ force, ¬ launch.IsInit force) (files : Tree) :
    (launch.run files).files = files := by
  unfold run Program.run
  split
  · next stop _ => cases stop <;> rfl
  · next invocation understood =>
    obtain ⟨config, command⟩ := invocation
    apply runInvocation_files
    intro force same
    subst same
    exact other force ⟨config, understood⟩

/-- The run writes the starter file of its working directory, and says so. -/
def Creates (launch : Launch) (files : Tree) : Prop :=
  (∃ force, launch.IsInit force) ∧ (launch.run files).code = .success

/-- A run writes one file or none. -/
theorem files_cases (launch : Launch) (files : Tree) :
    ¬ launch.Creates files ∧ (launch.run files).files = files ∨
      launch.Creates files ∧ (launch.run files).files =
        files.put (place launch.here) (.file Settings.Starter.text.toUTF8) := by
  by_cases asked : ∃ force, launch.IsInit force
  · obtain ⟨force, isInit⟩ := asked
    obtain ⟨creation, ends, code, after⟩ := isInit.ends files
    cases ends with
    | kept | failed =>
        refine .inl ⟨?_, after⟩
        intro creates
        cases code.symm.trans creates.2
    | created => exact .inr ⟨⟨⟨force, isInit⟩, code⟩, after⟩
  · refine .inl ⟨fun creates => asked creates.1, ?_⟩
    exact files_of_not_isInit (fun force isInit => asked ⟨force, isInit⟩) files

theorem IsInit.again (isInit : launch.IsInit true) (files : Tree) :
    (launch.run (launch.run files).files).files = (launch.run files).files := by
  obtain ⟨creation, ends, -, after⟩ := isInit.ends files
  cases ends with
  | kept _ unforced => cases unforced
  | failed =>
      -- Nothing has changed, so the second run is the first one again.
      have unchanged : (launch.run files).files = files := after
      rw [unchanged, unchanged]
  | created _ located free =>
      rw [after, run_of_isInit isInit]
      exact Settings.Starter.create_again located free

end Launch

/-! ## Many runs -/

/-- Runs one after the other with their outcomes, each in the files that the one before it left. -/
def history : Tree → List Launch → List (Launch × Outcome)
  | _, [] => []
  | files, launch :: rest => (launch, launch.run files) :: history (launch.run files).files rest

/-- The files after runs one after the other. -/
def filesAfter (files : Tree) (launches : List Launch) : Tree :=
  launches.foldl (fun files launch => (launch.run files).files) files

/-- Some run was to write the starter file at this location, and ended with success. -/
def Initialised (files : Tree) (launches : List Launch) (location : Location) : Prop :=
  ∃ launch outcome force, (launch, outcome) ∈ history files launches ∧ launch.IsInit force ∧
    outcome.code.number = 0 ∧ location = place launch.here

variable {files : Tree} {location : Location}

theorem initialised_cons {launch : Launch} {rest : List Launch} :
    Initialised files (launch :: rest) location ↔
      launch.Creates files ∧ location = place launch.here ∨
        Initialised (launch.run files).files rest location := by
  have success (code : ExitCode) : code.number = 0 ↔ code = .success := by
    cases code <;> decide
  constructor
  · intro initialised
    obtain ⟨other, outcome, force, listed, isInit, code, same⟩ := initialised
    rcases List.mem_cons.mp listed with first | later
    · cases first
      exact .inl ⟨⟨⟨force, isInit⟩, (success _).mp code⟩, same⟩
    · exact .inr ⟨other, outcome, force, later, isInit, code, same⟩
  · intro initialised
    rcases initialised with ⟨⟨⟨force, isInit⟩, code⟩, same⟩ | later
    · exact ⟨launch, _, force, .head _, isInit, (success _).mpr code, same⟩
    · obtain ⟨other, outcome, force, listed, rest⟩ := later
      exact ⟨other, outcome, force, .tail _ listed, rest⟩

theorem node?_filesAfter_of_not_initialised {launches : List Launch}
    (untouched : ¬ Initialised files launches location) :
    (filesAfter files launches).node? location = files.node? location := by
  induction launches generalizing files with
  | nil => rfl
  | cons launch rest ih =>
      rw [initialised_cons, not_or] at untouched
      obtain ⟨notHere, notLater⟩ := untouched
      refine (ih notLater).trans ?_
      rcases launch.files_cases files with ⟨-, unchanged⟩ | ⟨creates, written⟩
      · rw [unchanged]
      · have elsewhere : location ≠ place launch.here := by
          intro same
          exact notHere ⟨creates, same⟩
        rw [written, files.node?_put_of_ne elsewhere]

theorem node?_filesAfter_of_initialised {launches : List Launch}
    (initialised : Initialised files launches location) :
    (filesAfter files launches).node? location =
      some (.file Settings.Starter.text.toUTF8) := by
  induction launches generalizing files with
  | nil =>
      obtain ⟨_, _, _, listed, -⟩ := initialised
      cases listed
  | cons launch rest ih =>
      by_cases later : Initialised (launch.run files).files rest location
      · exact ih later
      · obtain ⟨creates, rfl⟩ := (initialised_cons.mp initialised).resolve_right later
        refine (node?_filesAfter_of_not_initialised later).trans ?_
        rcases launch.files_cases files with ⟨fails, -⟩ | ⟨-, written⟩
        · exact absurd creates fails
        · rw [written, files.node?_put_self (Settings.Starter.place_ne_nil launch.here)]

/-- Runs of any commands, one after the other, leave every place as it was except for the settings
files of working directories where some run was to write the starter file and ended with success;
these hold the starter text. Such a run changes files only if it succeeds. It succeeds only by force
or where there was no settings file, it ends with code 2 where there was one and no force, and by
force it can be repeated without any change. -/
theorem runs_write_only_starter_files (files : Tree) (launches : List Launch) :
    (∀ location,
        (Initialised files launches location → (filesAfter files launches).node? location =
          some (.file Settings.Starter.text.toUTF8)) ∧
        (¬ Initialised files launches location →
          (filesAfter files launches).node? location = files.node? location)) ∧
      ∀ (launch : Launch) (force : Bool), launch.IsInit force → ∀ before : Tree,
        let outcome := launch.run before
        let settingsFileThere :=
          Has before launch.here ⟨true, launch.here.reverse⟩ Settings.fileName
        (outcome.code.number ≠ 0 → outcome.files = before) ∧
          (outcome.code.number = 0 → force = true ∨ ¬ settingsFileThere) ∧
          (force = false → settingsFileThere → outcome.code.number = 2) ∧
          (force = true → (launch.run outcome.files).files = outcome.files) := by
  refine ⟨fun location => ⟨node?_filesAfter_of_initialised,
    node?_filesAfter_of_not_initialised⟩, ?_⟩
  intro launch force isInit before outcome settingsFileThere
  have repeated : force = true → (launch.run outcome.files).files = outcome.files := by
    intro forced
    subst forced
    exact isInit.again before
  obtain ⟨creation, ends, code, after⟩ := isInit.ends before
  change outcome.code = _ at code
  change outcome.files = _ at after
  cases ends with
  | kept there unforced =>
      refine ⟨fun _ => after, ?_, fun _ _ => code ▸ rfl, repeated⟩
      intro success
      rw [code] at success
      cases success
  | failed free =>
      refine ⟨fun _ => after, fun _ => free.symm, ?_, repeated⟩
      intro unforced there
      exact (free.elim (absurd there) (fun forced => nomatch unforced.symm.trans forced))
  | created free =>
      refine ⟨fun failure => absurd (code ▸ rfl) failure, fun _ => free.symm, ?_, repeated⟩
      intro unforced there
      exact (free.elim (absurd there) (fun forced => nomatch unforced.symm.trans forced))

/-- A run that is to write the starter file, below the top directory. -/
def firstInit : Launch where
  here := ["a"]
  words := ["init"]

theorem firstInit_writes_starter_file :
    let files : Tree := ⟨[(["a"], .directory)]⟩
    Initialised files [firstInit] ["a", "boolgate.toml"] ∧
      files.node? ["a", "boolgate.toml"] = none ∧
      (filesAfter files [firstInit]).node? ["a", "boolgate.toml"] =
        some (.file Settings.Starter.text.toUTF8) := by
  intro files
  have isInit : firstInit.IsInit false := ⟨none, by cbv⟩
  have code : (firstInit.run files).code = .success := by
    rw [Launch.run_of_isInit isInit]
    decide
  have initialised : Initialised files [firstInit] ["a", "boolgate.toml"] :=
    ⟨firstInit, _, false, .head _, isInit, code ▸ rfl, rfl⟩
  obtain ⟨places, -⟩ := runs_write_only_starter_files files [firstInit]
  exact ⟨initialised, rfl, (places ["a", "boolgate.toml"]).1 initialised⟩

end Program

end RevealGates
