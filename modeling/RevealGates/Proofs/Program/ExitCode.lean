import RevealGates.Proofs.Files.Tree
import RevealGates.Proofs.Program

/-!
The exit codes of reports.

A report goes through a fixed row of obstacles: contradictory options, a settings file that is asked
for and not there, one that is no text, one that is refused, and a sequence that was expected and
does not come. The first obstacle decides the exit code. What an obstacle is is said here about the
files as they are, not about the way they are looked up and read.
-/

set_option autoImplicit false

namespace RevealGates

/-! ## Obstacles -/

namespace Command

/-- The command expects a sequence, and under these settings another one is returned. -/
def ExpectsOther (settings : Settings) : Command → Prop
  | .eval inputs (some expected) choice =>
      let (mode, reveal) := choice.gates.resolve settings
      expected ≠ Evaluation.returnedValues mode inputs reveal
  | _ => False

end Command

namespace Program

open Files (Path)

/-- The settings file of a run: the one that is asked for, or else the one that is found. -/
def Selects (context : Context) (config : Option String) (path : Path) : Prop :=
  match config with
  | some text => path = Path.ofText text
  | none => Settings.find context.files context.here context.directory = some path

/-- A settings file is asked for, and there is nothing at its path. -/
def Missing (context : Context) (config : Option String) : Prop :=
  ∃ text, config = some text ∧
    ∀ node, context.files.lookup context.here (Path.ofText text) ≠ .ok node

/-- There is a settings file, and it holds no text. -/
def Unreadable (context : Context) (config : Option String) : Prop :=
  ∃ path, Selects context config path ∧
    ∀ text, ¬ context.files.Holds context.here path text

/-- There is a settings file, and its text is refused. -/
def Refused (context : Context) (config : Option String) : Prop :=
  ∃ path text failure, Selects context config path ∧
    context.files.Holds context.here path text ∧
    (Settings.ofText path.text text).outcome = .error failure

/-- These are the settings in force: those of the settings file, or the defaults where there is
none. -/
def Configured (context : Context) (config : Option String) (settings : Settings) : Prop :=
  (∃ path text, Selects context config path ∧ context.files.Holds context.here path text ∧
      (Settings.ofText path.text text).outcome = .ok settings) ∨
    (∀ path, ¬ Selects context config path) ∧ settings = {}

/-- A sequence is expected that the settings in force do not lead to. -/
def Unmet (context : Context) (config : Option String) (command : Command) : Prop :=
  ∃ settings, Configured context config settings ∧ command.ExpectsOther settings

variable {context : Context} {config : Option String}

theorem Selects.unique {path other : Path} (first : Selects context config path)
    (second : Selects context config other) : path = other := by
  cases config with
  | some text => exact first.trans second.symm
  | none => exact Option.some.inj (first.symm.trans second)

theorem Selects.not_missing {path : Path} (selected : Selects context config path)
    {node : Files.Node} (present : context.files.lookup context.here path = .ok node) :
    ¬ Missing context config := by
  rintro ⟨text, rfl, absent⟩
  obtain rfl : path = Path.ofText text := selected
  exact absent node present

theorem Selects.not_unreadable {path : Path} (selected : Selects context config path)
    {text : String} (held : context.files.Holds context.here path text) :
    ¬ Unreadable context config := by
  rintro ⟨other, otherSelected, unreadable⟩
  obtain rfl := selected.unique otherSelected
  exact unreadable text held

theorem Configured.not_refused {settings : Settings}
    (configured : Configured context config settings) : ¬ Refused context config := by
  rintro ⟨path, text, failure, selected, held, refused⟩
  rcases configured with ⟨other, otherText, otherSelected, otherHeld, accepted⟩ | ⟨none, -⟩
  · obtain rfl := selected.unique otherSelected
    obtain rfl := held.unique otherHeld
    cases refused.symm.trans accepted
  · exact none path selected

theorem Configured.unique {settings other : Settings}
    (first : Configured context config settings) (second : Configured context config other) :
    settings = other := by
  rcases first with ⟨path, text, selected, held, accepted⟩ | ⟨none, rfl⟩
  · rcases second with ⟨path', text', selected', held', accepted'⟩ | ⟨none', -⟩
    · obtain rfl := selected.unique selected'
      obtain rfl := held.unique held'
      exact Except.ok.inj (accepted.symm.trans accepted')
    · exact absurd selected (none' path)
  · rcases second with ⟨path', -, selected', -⟩ | ⟨-, rfl⟩
    · exact absurd selected' (none path')
    · rfl

/-! ## Loading -/

theorem exitCode_of_ofText {path text : String} {failure : Failure}
    (refused : (Settings.ofText path text).outcome = .error failure) :
    failure.exitCode = .refused := by
  simp only [Settings.ofText] at refused
  cases decoded : (Settings.parse path text).outcome with
  | error fault =>
      rw [decoded] at refused
      cases refused
      rfl
  | ok settings =>
      rw [decoded] at refused
      cases refused

/-- How loading ends is told by the first obstacle among the files. -/
inductive LoadingEnds (context : Context) (config : Option String) :
    Except Failure Settings → Prop where
  | missing {failure} : Missing context config → failure.exitCode = .refused →
      LoadingEnds context config (.error failure)
  | unreadable {failure} : ¬ Missing context config → Unreadable context config →
      failure.exitCode = .internal → LoadingEnds context config (.error failure)
  | refused {failure} : ¬ Missing context config → ¬ Unreadable context config →
      Refused context config → failure.exitCode = .refused →
      LoadingEnds context config (.error failure)
  | configured {settings} : ¬ Missing context config → ¬ Unreadable context config →
      Configured context config settings → LoadingEnds context config (.ok settings)

theorem findIn_isPresent {tree : Files.Tree} {here : Files.Location} {directories : List Path}
    {path : Path} (found : Settings.findIn tree here directories = some path) :
    tree.isPresent here path = true := by
  induction directories with
  | nil => cases found
  | cons directory outer ih =>
      simp only [Settings.findIn] at found
      split at found
      · next present =>
        cases found
        exact present
      · split at found
        · cases found
        · exact ih found

theorem read_ends {path : Path} (selected : Selects context config path)
    (present : context.files.isPresent context.here path = true) :
    LoadingEnds context config (Settings.read context.files context.here path).outcome := by
  obtain ⟨node, reached⟩ := Files.Tree.isPresent_iff.mp present
  have found := selected.not_missing reached
  unfold Settings.read
  cases content : context.files.readText context.here path with
  | error fault =>
      refine .unreadable found ⟨path, selected, ?_⟩ rfl
      intro text held
      cases content.symm.trans (Files.Tree.readText_eq_ok_iff.mpr held)
  | ok text =>
      have held := Files.Tree.readText_eq_ok_iff.mp content
      have readable := selected.not_unreadable held
      change LoadingEnds context config (Settings.ofText path.text text).outcome
      cases outcome : (Settings.ofText path.text text).outcome with
      | error failure =>
          exact .refused found readable ⟨path, text, failure, selected, held, outcome⟩
            (exitCode_of_ofText outcome)
      | ok settings =>
          exact .configured found readable (.inl ⟨path, text, selected, held, outcome⟩)

theorem loading_ends (context : Context) (config : Option String) :
    LoadingEnds context config (loading context config).outcome := by
  unfold loading Settings.load Settings.select
  cases config with
  | some text =>
      cases present : context.files.isPresent context.here (Path.ofText text) with
      | true =>
          have selected : Selects context (some text) (Path.ofText text) := rfl
          simp only [Option.map_some, present, if_true]
          exact read_ends selected present
      | false =>
          simp only [Option.map_some, present, Bool.false_eq_true, if_false]
          refine .missing ⟨text, rfl, fun node reached => ?_⟩ rfl
          cases present.symm.trans (Files.Tree.isPresent_iff.mpr ⟨node, reached⟩)
  | none =>
      cases found : Settings.find context.files context.here context.directory with
      | some path =>
          have selected : Selects context none path := found
          simp only [Option.map_none]
          exact read_ends selected (findIn_isPresent found)
      | none =>
          simp only [Option.map_none]
          have unselected : ∀ path, ¬ Selects context none path :=
            fun path selected => nomatch found.symm.trans selected
          refine .configured ?_ ?_ (.inr ⟨unselected, rfl⟩)
          · rintro ⟨text, given, -⟩
            cases given
          · rintro ⟨path, selected, -⟩
            exact unselected path selected

theorem Configured.loading_eq {settings : Settings}
    (configured : Configured context config settings) :
    (loading context config).outcome = .ok settings := by
  have ended := loading_ends context config
  cases loaded : (loading context config).outcome with
  | ok other =>
      rw [loaded] at ended
      cases ended with
      | configured _ _ otherConfigured => rw [configured.unique otherConfigured]
  | error failure =>
      rw [loaded] at ended
      refine False.elim ?_
      cases ended with
      | refused _ _ refused _ => exact configured.not_refused refused
      | missing missing _ =>
          rcases configured with ⟨path, text, selected, held, -⟩ | ⟨unselected, -⟩
          · exact selected.not_missing held missing
          · obtain ⟨text, rfl, -⟩ := missing
            exact unselected (Files.Path.ofText text) rfl
      | unreadable _ unreadable _ =>
          rcases configured with ⟨path, text, selected, held, -⟩ | ⟨unselected, -⟩
          · exact selected.not_unreadable held unreadable
          · obtain ⟨path, selected, -⟩ := unreadable
            exact unselected path selected

/-! ## Reports -/

theorem Configured.unmet_iff {settings : Settings}
    (configured : Configured context config settings) {command : Command} :
    Unmet context config command ↔ command.ExpectsOther settings := by
  constructor
  · rintro ⟨other, otherConfigured, expects⟩
    exact configured.unique otherConfigured ▸ expects
  · intro expects
    exact ⟨settings, configured, expects⟩

theorem runInvocation_eq_prepare (context : Context) (config : Option String) {command : Command}
    {choice : ReportChoice} (reports : command.report? = some choice) :
    ∃ report, runInvocation context ⟨config, some command⟩ =
      prepare context config choice report := by
  cases command with
  | init | completions => cases reports
  | eval | table =>
      cases reports
      simp only [runInvocation, runEval, runTable]
      exact ⟨_, rfl⟩

/-- Once it is prepared, a report fails at most to meet an expectation. -/
theorem runInvocation_of_settings {command : Command} {choice : ReportChoice}
    (reports : command.report? = some choice)
    (consistent : (choice.color && choice.noColor) = false) {settings : Settings}
    (loaded : (loading context config).outcome = .ok settings) :
    ∃ code text notices last,
      runInvocation context ⟨config, some command⟩ = context.finish code text notices last ∧
        (command.ExpectsOther settings ∧ code = .mismatch ∨
          ¬ command.ExpectsOther settings ∧ code = .success) := by
  cases command with
  | init | completions => cases reports
  | table =>
      cases reports
      obtain ⟨text, notices, finished⟩ := runTable_of_settings consistent loaded
      exact ⟨_, text, notices, _, finished, .inr ⟨id, rfl⟩⟩
  | eval inputs expect =>
      cases reports
      refine ⟨_, _, _, _, runEval_of_settings consistent loaded inputs expect, ?_⟩
      cases expect with
      | none => exact .inr ⟨id, rfl⟩
      | some expected =>
          by_cases met : expected = Evaluation.returnedValues
              (choice.gates.resolve settings).1 inputs (choice.gates.resolve settings).2
          · refine .inr ⟨not_not_intro met, ?_⟩
            rw [verdict, if_pos met]
          · refine .inl ⟨met, ?_⟩
            rw [verdict, if_neg met]

open Classical in
/-- The exit code of a report is decided by the first obstacle in its way. A run that ends with code
2 or 3 prints nothing, and no run changes a file. -/
theorem run_exit_code_by_first_obstacle (context : Context) (words : List String)
    (config : Option String) (command : Command) (choice : ReportChoice)
    (understood : CommandLine.parse (configVariable context) words = .ok ⟨config, some command⟩)
    (reports : command.report? = some choice) :
    let outcome := run context words
    outcome.code.number =
        (if choice.color = true ∧ choice.noColor = true then 2
        else if Missing context config then 2
        else if Unreadable context config then 3
        else if Refused context config then 2
        else if Unmet context config command then 1
        else 0) ∧
      (outcome.code.number = 2 ∨ outcome.code.number = 3 → outcome.stdout = "") ∧
      outcome.files = context.files := by
  intro outcome
  have started : outcome = runInvocation context ⟨config, some command⟩ := by
    simp only [outcome, run, understood]
  have prepares := runInvocation_eq_prepare context config reports
  cases contradictory : choice.color && choice.noColor with
  | true =>
      obtain ⟨report, prepared⟩ := prepares
      rw [started, prepared, prepare_of_contradiction contradictory,
        if_pos (by simpa using contradictory)]
      exact ⟨rfl, fun _ => rfl, rfl⟩
  | false =>
      rw [if_neg (by simpa using contradictory)]
      have ended := loading_ends context config
      cases loaded : (loading context config).outcome with
      | error failure =>
          obtain ⟨report, prepared⟩ := prepares
          rw [started, prepared, prepare_of_failure contradictory loaded]
          refine ⟨?_, fun _ => rfl, rfl⟩
          change failure.exitCode.number = _
          rw [loaded] at ended
          cases ended with
          | missing missing code =>
              rw [if_pos missing, code]
              rfl
          | unreadable found unreadable code =>
              rw [if_neg found, if_pos unreadable, code]
              rfl
          | refused found readable refused code =>
              rw [if_neg found, if_neg readable, if_pos refused, code]
              rfl
      | ok settings =>
          rw [loaded] at ended
          obtain ⟨code, text, notices, last, finished, met⟩ :=
            runInvocation_of_settings reports contradictory loaded
          rw [started, finished]
          cases ended with
          | configured found readable configured =>
              rw [if_neg found, if_neg readable, if_neg configured.not_refused,
                configured.unmet_iff]
              rcases met with ⟨expects, rfl⟩ | ⟨expects, rfl⟩
              · rw [if_pos expects]
                exact ⟨rfl, by simp [Context.finish, ExitCode.number], rfl⟩
              · rw [if_neg expects]
                exact ⟨rfl, by simp [Context.finish, ExitCode.number], rfl⟩

/-- A run that asks for a settings file and names a directory. -/
def misled : Context where
  files := ⟨[(["conf"], .directory)]⟩

theorem run_misled_is_unreadable :
    CommandLine.parse (configVariable misled) ["eval", "tf10", "-Cconf", "--expect", ""] =
        .ok ⟨some "conf", some (.eval ⟨true, false, true, false⟩ (some []) {})⟩ ∧
      (run misled ["eval", "tf10", "-Cconf", "--expect", ""]).code.number = 3 ∧
      (run misled ["eval", "tf10", "-Cconf", "--expect", ""]).stdout = "" := by
  have understood : CommandLine.parse (configVariable misled)
      ["eval", "tf10", "-Cconf", "--expect", ""] =
        .ok ⟨some "conf", some (.eval ⟨true, false, true, false⟩ (some []) {})⟩ := by
    cbv
  have entry : misled.files.lookup misled.here (Path.ofText "conf") = .ok .directory := by
    cbv
  have selected : Selects misled (some "conf") (Path.ofText "conf") := rfl
  have unreadable : Unreadable misled (some "conf") := by
    refine ⟨_, selected, fun text held => ?_⟩
    cases entry.symm.trans held
  obtain ⟨code, silent, -⟩ :=
    run_exit_code_by_first_obstacle misled _ _ _ {} understood rfl
  rw [if_neg (by decide), if_neg (selected.not_missing entry), if_pos unreadable] at code
  exact ⟨understood, code, silent (.inr code)⟩

end Program

end RevealGates
