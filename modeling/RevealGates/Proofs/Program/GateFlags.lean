import RevealGates.Proofs.CommandLine.AddedGates
import RevealGates.Proofs.Program.ExitCode

/-!
Options that stand for settings.

Of its settings a report uses the mode and the gates, and of everything else around it only what
decides about colours. A run whose options say what the settings of another run say therefore prints
the same and ends with the same code, whatever its own settings are.
-/

set_option autoImplicit false

namespace RevealGates

/-- Nothing differs except perhaps the path of a settings file. -/
structure Environment.SameLooks (left right : Environment) : Prop where
  terminal : left.terminal = right.terminal
  values : ∀ name, name ≠ CommandLine.Help.configVariable → left.get? name = right.get? name

namespace Program

/-! ## What a report tells -/

/-- What a report prints and its exit code, once mode, gates and colours are known. The other
commands are no reports. -/
def told (surface : Surface) (mode : Mode) (reveal : Reveal) : Command → String × ExitCode
  | .eval inputs expect _ =>
      ((evaluationText surface ⟨mode, inputs, reveal⟩).1,
        (verdict expect (Evaluation.returnedValues mode inputs reveal)).1)
  | .table _ =>
      ((Output.buffer.writeAll "" (surface.table (TruthTable.sweep mode reveal))).2, .success)
  | .init _ | .completions _ => ("", .success)

theorem told_withGates (surface : Surface) (mode : Mode) (reveal : Reveal) (gates : GateChoice)
    (command : Command) :
    told surface mode reveal (command.withGates gates) = told surface mode reveal command := by
  cases command <;> rfl

theorem report?_withGates {command : Command} {choice : ReportChoice}
    (reports : command.report? = some choice) (gates : GateChoice) :
    (command.withGates gates).report? = some { choice with gates := gates } := by
  cases command with
  | eval | table =>
      cases reports
      rfl
  | init | completions => cases reports

theorem runInvocation_of_contradiction {context : Context} {config : Option String}
    {command : Command} {choice : ReportChoice} (reports : command.report? = some choice)
    (contradictory : (choice.color && choice.noColor) = true) :
    ∃ last, runInvocation context ⟨config, some command⟩ = context.finish .refused "" [] last := by
  obtain ⟨report, prepared⟩ := runInvocation_eq_prepare context config reports
  exact ⟨_, prepared.trans (prepare_of_contradiction contradictory report)⟩

theorem runInvocation_eq_told {context : Context} {config : Option String} {command : Command}
    {choice : ReportChoice} (reports : command.report? = some choice)
    (consistent : (choice.color && choice.noColor) = false) {settings : Settings}
    (loaded : (loading context config).outcome = .ok settings) :
    ((runInvocation context ⟨config, some command⟩).stdout,
        (runInvocation context ⟨config, some command⟩).code) =
      told (surface context choice) (choice.gates.resolve settings).1
        (choice.gates.resolve settings).2 command := by
  cases command with
  | init | completions => cases reports
  | eval inputs expect =>
      cases reports
      simp only [runInvocation]
      rw [runEval_of_settings consistent loaded]
      rfl
  | table =>
      cases reports
      simp only [runInvocation, runTable]
      rw [prepare_of_settings consistent loaded]
      rfl

/-! ## Two runs -/

section TwoRuns

variable {left right : Context}

theorem surface_eq_of_sameLooks (looks : left.environment.SameLooks right.environment)
    (choice : ReportChoice) : surface left choice = surface right choice := by
  have isSet (name : String) (other : name ≠ CommandLine.Help.configVariable) :
      left.environment.isSet name = right.environment.isSet name := by
    rw [Environment.isSet, Environment.isSet, looks.values name other]
  have attended : ColourChoice.unattended.any left.environment.isSet =
      ColourChoice.unattended.any right.environment.isSet := by
    simp only [ColourChoice.unattended, List.any_cons, List.any_nil,
      isSet "CLAUDE_CODE" (by decide), isSet "CODEX" (by decide), isSet "CURSOR" (by decide),
      isSet "CI" (by decide)]
  have environment : ColourChoice.ofEnvironment left.environment =
      ColourChoice.ofEnvironment right.environment := by
    rw [ColourChoice.ofEnvironment, ColourChoice.ofEnvironment, isSet "NO_COLOR" (by decide),
      isSet "COLOR" (by decide), looks.terminal, attended]
  have capable : ColourChoice.isCapable left.environment =
      ColourChoice.isCapable right.environment := by
    rw [ColourChoice.isCapable, ColourChoice.isCapable, looks.values "TERM" (by decide)]
  have painter (colours : ColourChoice) :
      colours.painter left.environment = colours.painter right.environment := by
    cases colours with
    | never | always => rfl
    | auto => rw [ColourChoice.painter, ColourChoice.painter, capable]
  simp only [surface, ColourChoice.resolve, environment, painter]

/-- Where mode and gates come to the same, so do the reports. -/
theorem runInvocation_agrees (looks : left.environment.SameLooks right.environment)
    {command : Command} {choice : ReportChoice} (reports : command.report? = some choice)
    {config other : Option String} {settings others : Settings}
    (configured : Configured left config settings) (otherwise : Configured right other others)
    {gates : GateChoice} (same : gates.resolve others = choice.gates.resolve settings) :
    let plain := runInvocation left ⟨config, some command⟩
    let flagged := runInvocation right ⟨other, some (command.withGates gates)⟩
    flagged.stdout = plain.stdout ∧ flagged.code = plain.code := by
  intro plain flagged
  have otherReports := report?_withGates reports gates
  cases contradictory : choice.color && choice.noColor with
  | true =>
      obtain ⟨_, ended⟩ := runInvocation_of_contradiction reports contradictory
      obtain ⟨_, otherEnded⟩ := runInvocation_of_contradiction otherReports contradictory
      simp only [plain, flagged]
      rw [ended, otherEnded]
      exact ⟨rfl, rfl⟩
  | false =>
      have first := runInvocation_eq_told reports contradictory configured.loading_eq
      have second := runInvocation_eq_told otherReports contradictory otherwise.loading_eq
      have looksSame : surface right { choice with gates := gates } = surface left choice :=
        (surface_eq_of_sameLooks looks choice).symm
      rw [told_withGates, looksSame, same, ← first] at second
      exact Prod.mk.inj second

end TwoRuns

/-- Options can stand for settings. A report that is asked for without a word about gates and mode
prints the same and ends with the same code as the same report elsewhere, under any settings that
can be loaded there, with options added that set the mode and the gates of the first. Every line
that asks for the report has a place for the options, and every such place will do. -/
theorem run_flags_stand_for_settings (left right : Context) (words others : List String)
    (config other : Option String) (command : Command) (choice : ReportChoice)
    (settings : Settings)
    (looks : left.environment.SameLooks right.environment)
    (understood : CommandLine.parse (configVariable left) words = .ok ⟨config, some command⟩)
    (understoodToo : CommandLine.parse (configVariable right) others = .ok ⟨other, some command⟩)
    (reports : command.report? = some choice) (unset : choice.gates = {})
    (configured : Configured left config settings)
    (loadable : ∃ loaded, Configured right other loaded) :
    let plain := run left words
    (∃ leading trailing, others = leading ++ trailing ∧ CommandLine.TakesOptions leading) ∧
      ∀ leading trailing, others = leading ++ trailing → CommandLine.TakesOptions leading →
        (let flagged := run right
          (leading ++ ["--mode", settings.mode.name, "--reveal", settings.reveal.text] ++ trailing)
        flagged.stdout = plain.stdout ∧ flagged.code = plain.code) ∧
        (settings.reveal = .everything →
          let opened := run right
            (leading ++ ["--mode", settings.mode.name, "--reveal-all"] ++ trailing)
          opened.stdout = plain.stdout ∧ opened.code = plain.code) := by
  intro plain
  obtain ⟨loaded, otherwise⟩ := loadable
  have started : plain = runInvocation left ⟨config, some command⟩ := by
    simp only [plain, run, understood]
  refine ⟨CommandLine.exists_takesOptions understoodToo reports, ?_⟩
  intro leading trailing cut takes
  subst cut
  have agrees (reveal? : Option Reveal) (same : reveal?.getD .everything = settings.reveal) :
      let flagged := run right
        (leading ++ CommandLine.gateWords settings.mode reveal? ++ trailing)
      flagged.stdout = plain.stdout ∧ flagged.code = plain.code := by
    have read := CommandLine.parse_gateWords takes understoodToo reports unset settings.mode reveal?
    have resolved : (CommandLine.gatesOf settings.mode reveal?).resolve loaded =
        choice.gates.resolve settings := by
      rw [unset]
      cases reveal? <;> exact congrArg (Prod.mk settings.mode) same
    simp only [started, run, read]
    exact runInvocation_agrees looks reports configured otherwise resolved
  refine ⟨agrees (some settings.reveal) rfl, fun all => ?_⟩
  exact agrees none all.symm

/-- A settings file that differs from the defaults in both respects. -/
def shadedText : String :=
  "version = 1\n[eval]\nmode = \"corrected\"\n[reveal]\ninverted_pairs = false\n"

def shaded : Context where
  files := ⟨[(["gates.toml"], .file shadedText.toUTF8)]⟩

theorem run_shaded_with_flags_elsewhere :
    let settings : Settings := { mode := .corrected, reveal := { invertedPairs := false } }
    let plain := run shaded ["-Cgates.toml", "eval", "0110"]
    let flagged := run {} ["eval", "--mode", "corrected", "--reveal", "111011", "--", "0110"]
    Configured shaded (some "gates.toml") settings ∧ Configured {} none {} ∧
      flagged.stdout = plain.stdout ∧ flagged.code = plain.code := by
  intro settings plain flagged
  have understood : CommandLine.parse (configVariable shaded) ["-Cgates.toml", "eval", "0110"] =
      .ok ⟨some "gates.toml", some (.eval ⟨false, true, true, false⟩ none {})⟩ := by
    cbv
  have understoodToo : CommandLine.parse (configVariable {}) ["eval", "--", "0110"] =
      .ok ⟨none, some (.eval ⟨false, true, true, false⟩ none {})⟩ := by
    cbv
  have held : shaded.files.Holds shaded.here (Files.Path.ofText "gates.toml") shadedText := by
    rw [Files.Tree.Holds]
    cbv
  have accepted : (Settings.ofText "gates.toml" shadedText).outcome = .ok settings := by
    cbv
  have configured : Configured shaded (some "gates.toml") settings :=
    .inl ⟨_, shadedText, rfl, held, accepted⟩
  have unselected : ∀ path, ¬ Selects {} none path := by
    intro path selected
    have nowhere : Settings.find ⟨[]⟩ [] ⟨true, []⟩ = none := by cbv
    cases nowhere.symm.trans selected
  have default : Configured {} none {} := .inr ⟨unselected, rfl⟩
  have takes : CommandLine.TakesOptions ["eval"] :=
    ⟨⟨none, none, .eval ⟨true, true, true, true⟩ none {}, by cbv⟩, by decide⟩
  obtain ⟨-, flags⟩ := run_flags_stand_for_settings shaded {} _ _ _ _ _ {} settings
    ⟨rfl, fun _ _ => rfl⟩ understood understoodToo rfl rfl configured ⟨{}, default⟩
  exact ⟨configured, default, (flags ["eval"] ["--", "0110"] rfl takes).1⟩

end Program

end RevealGates
