import RevealGates.Proofs.CommandLine.Spelling

/-!
Command lines that ask for a report.

A report is asked for by the name of its command and by its settings, in any order and in any
spelling; defaults may be left out, and the path to the settings file may stand in front of the
command. A line that is written so is read back to the very report it was written for.
-/

set_option autoImplicit false

namespace RevealGates.CommandLine

/-! ## What a report has to say -/

/-- What a report says about an argument. -/
def setting? (choice : ReportChoice) : Argument → Option Setting
  | .reveal => choice.gates.reveal.map .reveal
  | .revealAll => if choice.gates.revealAll then some .revealAll else none
  | .mode => choice.gates.mode.map .mode
  | .output => some (.output choice.format)
  | .color => if choice.color then some .color else none
  | .noColor => if choice.noColor then some .noColor else none
  | _ => none

/-- What a command that makes a report says about an argument, given the path to its settings. -/
def asked? (config : Option String) : Command → Argument → Option Setting
  | .eval _ _ _, .config | .table _, .config => config.map .config
  | .eval inputs _ _, .inputs => some (.inputs inputs)
  | .eval _ expect _, .expect => expect.map .expect
  | .eval _ _ choice, argument | .table choice, argument => setting? choice argument
  | .init _, _ | .completions _, _ => none

def reportName? : Command → Option CommandName
  | .eval _ _ _ => some .eval
  | .table _ => some .table
  | .init _ | .completions _ => none

/-- The gates are set in at most one of the two ways. -/
def Exclusive : Command → Prop
  | .eval _ _ choice | .table choice =>
      choice.gates.reveal = none ∨ choice.gates.revealAll = false
  | .init _ | .completions _ => True

/-- What goes without saying. -/
def Setting.IsDefault (setting : Setting) : Prop :=
  setting = .inputs ⟨true, true, true, true⟩ ∨ setting = .output .text

/-- The settings say what the command asks for: nothing twice, nothing else, and all of it except
perhaps for defaults. -/
structure States (config : Option String) (command : Command) (settings : List Setting) :
    Prop where
  once : (settings.map Setting.argument).Nodup
  meant : ∀ setting ∈ settings, asked? config command setting.argument = some setting
  complete : ∀ argument setting, asked? config command argument = some setting →
    setting ∈ settings ∨ setting.IsDefault

/-- The command lines for a command and the path to its settings: the path stands among the other
settings or in front of the command. -/
inductive Written : Option String → Command → List String → Prop where
  | after {config : Option String} {command : Command} {name : CommandName}
      {settings : List Setting} {words : List String} : reportName? command = some name →
      States config command settings → SpelledAll settings words →
      Written config command (name.word :: words)
  | before {path : String} {command : Command} {name : CommandName} {settings : List Setting}
      {front words : List String} : reportName? command = some name →
      Spelled (.config path) front → States none command settings → SpelledAll settings words →
      Written (some path) command (front ++ name.word :: words)

/-! ## What was asked for -/

section Asked

variable {config : Option String} {command : Command} {settings : List Setting} {given : Given}

theorem argument_of_said? {argument : Argument} {setting : Setting}
    (said : given.said? argument = some setting) : setting.argument = argument := by
  cases argument with
  | config | inputs | reveal | mode | output | expect =>
      obtain ⟨value, _, rfl⟩ := Option.map_eq_some_iff.mp said
      rfl
  | revealAll | color | noColor =>
      simp only [Given.said?] at said
      split at said
      · cases said
        rfl
      · cases said
  | shell | force | help | version => cases said

theorem argument_of_setting? {choice : ReportChoice} {argument : Argument} {setting : Setting}
    (asked : setting? choice argument = some setting) : setting.argument = argument := by
  cases argument with
  | reveal | mode =>
      obtain ⟨value, _, rfl⟩ := Option.map_eq_some_iff.mp asked
      rfl
  | output =>
      cases asked
      rfl
  | revealAll | color | noColor =>
      simp only [setting?] at asked
      split at asked
      · cases asked
        rfl
      · cases asked
  | config | inputs | expect | shell | force | help | version => cases asked

theorem argument_of_asked? {argument : Argument} {setting : Setting}
    (asked : asked? config command argument = some setting) : setting.argument = argument := by
  cases command with
  | eval _ _ choice =>
      cases argument with
      | config | expect =>
          obtain ⟨value, _, rfl⟩ := Option.map_eq_some_iff.mp asked
          rfl
      | inputs =>
          cases asked
          rfl
      | reveal | revealAll | mode | output | color | noColor | shell | force | help | version =>
          exact @argument_of_setting? choice _ _ asked
  | table choice =>
      cases argument with
      | config =>
          obtain ⟨value, _, rfl⟩ := Option.map_eq_some_iff.mp asked
          rfl
      | inputs | expect | reveal | revealAll | mode | output | color | noColor | shell | force
      | help | version => exact @argument_of_setting? choice _ _ asked
  | init | completions => cases asked

theorem Exclusive.asked? (exclusive : Exclusive command) (config : Option String) :
    asked? config command .reveal = none ∨ asked? config command .revealAll = none := by
  cases command with
  | eval _ _ choice | table choice =>
      rcases exclusive with noReveal | notAll
      · exact .inl (by simp [CommandLine.asked?, setting?, noReveal])
      · exact .inr (by simp [CommandLine.asked?, setting?, notAll])
  | init | completions => exact .inl rfl

/-- What was said is what was asked for, unless it goes without saying. -/
theorem Records.said?_eq_or (records : Records given settings)
    (states : States config command settings) (argument : Argument) :
    given.said? argument = asked? config command argument ∨
      given.said? argument = none ∧
        ∃ setting, asked? config command argument = some setting ∧ setting.IsDefault := by
  cases said : given.said? argument with
  | some setting =>
      obtain rfl := argument_of_said? said
      exact .inl (states.meant setting ((records.said setting).mp said)).symm
  | none =>
      cases asked : asked? config command argument with
      | none => exact .inl rfl
      | some setting =>
          obtain rfl := argument_of_asked? asked
          rcases states.complete _ setting asked with included | implied
          · rw [(records.said setting).mpr included] at said
            cases said
          · exact .inr ⟨rfl, setting, rfl, implied⟩

theorem Records.said?_eq (records : Records given settings)
    (states : States config command settings) (argument : Argument)
    (notInputs : argument ≠ .inputs) (notOutput : argument ≠ .output) :
    given.said? argument = asked? config command argument := by
  rcases records.said?_eq_or states argument with same | ⟨_, setting, asked, rfl | rfl⟩
  · exact same
  · exact absurd (argument_of_asked? asked).symm notInputs
  · exact absurd (argument_of_asked? asked).symm notOutput

theorem Records.inputs_eq (records : Records given settings)
    (states : States config command settings) {inputs : Inputs}
    (asked : asked? config command .inputs = some (.inputs inputs)) :
    given.inputs.getD Given.defaultInputs = inputs := by
  have said := records.said?_eq_or states .inputs
  simp only [Given.said?, asked] at said
  cases found : given.inputs with
  | some held => simpa [found] using said
  | none => simpa [found, Setting.IsDefault, Given.defaultInputs, eq_comm] using said

theorem Records.format_eq (records : Records given settings)
    (states : States config command settings) {format : Format}
    (asked : asked? config command .output = some (.output format)) :
    given.output.getD .text = format := by
  have said := records.said?_eq_or states .output
  simp only [Given.said?, asked] at said
  cases found : given.output with
  | some held => simpa [found] using said
  | none => simpa [found, Setting.IsDefault, eq_comm] using said

private theorem eq_of_ite_eq {Value : Type} {left right : Bool} {value : Value}
    (same : (if left then some value else none) = if right then some value else none) :
    left = right := by
  cases left <;> cases right <;> first | rfl | cases same

theorem Records.reportChoice_eq (records : Records given settings)
    (states : States config command settings) {choice : ReportChoice}
    (asked : ∀ argument ∈ [Argument.reveal, .revealAll, .mode, .output, .color, .noColor],
      asked? config command argument = setting? choice argument) :
    given.reportChoice = choice := by
  have said (argument : Argument) (notOutput : argument ≠ .output)
      (included : argument ∈ [Argument.reveal, .revealAll, .mode, .output, .color, .noColor]) :
      given.said? argument = setting? choice argument := by
    have notInputs : argument ≠ .inputs := by
      rintro rfl
      exact absurd included (by decide)
    exact (records.said?_eq states argument notInputs notOutput).trans (asked argument included)
  have reveal : given.reveal = choice.gates.reveal :=
    Option.map_injective (fun _ _ => Setting.reveal.inj) (said .reveal nofun (by decide))
  have mode : given.mode = choice.gates.mode :=
    Option.map_injective (fun _ _ => Setting.mode.inj) (said .mode nofun (by decide))
  have revealAll := eq_of_ite_eq (said .revealAll nofun (by decide))
  have color := eq_of_ite_eq (said .color nofun (by decide))
  have noColor := eq_of_ite_eq (said .noColor nofun (by decide))
  have format := records.format_eq states (asked .output (by decide))
  rw [Given.reportChoice, Given.gateChoice, reveal, mode, revealAll, color, noColor, format]

theorem Records.config_eq (records : Records given settings)
    (states : States config command settings) {name : CommandName}
    (named : reportName? command = some name) : given.config = config := by
  have said := records.said?_eq states .config nofun nofun
  have asked : asked? config command .config = config.map .config := by
    cases command with
    | eval | table => rfl
    | init | completions => cases named
  exact Option.map_injective (fun _ _ => Setting.config.inj) (said.trans asked)

theorem Records.command_eq (records : Records given settings)
    (states : States config command settings) {name : CommandName}
    (named : reportName? command = some name) : given.command name = .ok command := by
  cases command with
  | eval inputs expect choice =>
      cases named
      have said := records.said?_eq states .expect nofun nofun
      have expected : given.expect = expect :=
        Option.map_injective (fun _ _ => Setting.expect.inj) said
      have choices : given.reportChoice = choice :=
        records.reportChoice_eq states (by simp [asked?])
      rw [Given.command, records.inputs_eq states rfl, expected, choices]
  | table choice =>
      cases named
      have choices : given.reportChoice = choice :=
        records.reportChoice_eq states (by simp [asked?])
      rw [Given.command, choices]
  | init | completions => cases named

theorem Records.checkConflict_eq (records : Records given settings)
    (states : States config command settings)
    (exclusive : Exclusive command) : given.checkConflict = .ok () := by
  have apart := exclusive.asked? config
  have asked {argument : Argument} (mentioned : argument ∈ given.order) :
      asked? config command argument ≠ none := by
    rw [records.order] at mentioned
    obtain ⟨setting, included, rfl⟩ := List.mem_map.mp mentioned
    rw [states.meant setting included]
    nofun
  have once : given.order.Nodup := records.order ▸ states.once
  unfold Given.checkConflict
  split
  · next first other rest both =>
    -- Two different arguments are left, so they are the two that exclude each other.
    have left : ∀ argument ∈ first :: other :: rest,
        argument ∈ given.order ∧ (argument = .reveal ∨ argument = .revealAll) := by
      intro argument included
      rw [← both, List.mem_filter, decide_eq_true_iff] at included
      exact included
    have different : first ≠ other := by
      have distinct := once.filter fun argument => argument = .reveal ∨ argument = .revealAll
      rw [both] at distinct
      exact fun same => (List.nodup_cons.mp distinct).1 (same ▸ .head _)
    obtain ⟨firstGiven, isFirst⟩ := left first (.head _)
    obtain ⟨otherGiven, isOther⟩ := left other (.tail _ (.head _))
    rcases isFirst with rfl | rfl <;> rcases isOther with rfl | rfl
    · exact absurd rfl different
    · exact (apart.elim (asked firstGiven) (asked otherGiven)).elim
    · exact (apart.elim (asked otherGiven) (asked firstGiven)).elim
    · exact absurd rfl different
  · rfl

theorem States.takes (states : States config command settings) {name : CommandName}
    (named : reportName? command = some name) :
    ∀ setting ∈ settings, (Level.command name).Takes setting := by
  intro setting included
  have asked := states.meant setting included
  cases command with
  | eval =>
      cases named
      cases setting with
      | inputs => exact .inl ⟨rfl, rfl⟩
      | config | reveal | revealAll | mode | output | expect | color | noColor =>
          exact .inr (by simp [Setting.argument, Level.options])
  | table =>
      cases named
      cases setting with
      | inputs | expect => cases asked
      | config | reveal | revealAll | mode | output | color | noColor =>
          exact .inr (by simp [Setting.argument, Level.options])
  | init | completions => cases named

end Asked

/-! ## Whole lines -/

theorem finishLevel_settles {environment : Option String} (usable : environment ≠ some "")
    {progress : Progress} {given : Given} (settles : progress.Settles given)
    (agree : given.checkConflict = .ok ()) : finishLevel environment progress = .ok given := by
  rw [finishLevel, settles]
  simp only [bind, Except.bind, usable, and_false, ↓reduceIte, agree]

/-- A word that names a command ends the top level, once nothing waits for a value. -/
theorem readWords_command {progress : Progress} {given : Given} (settles : progress.Settles given)
    (name : CommandName) (words : List String) :
    readWords .top (name.word :: words) progress = .ok ⟨progress, some (name, words)⟩ := by
  have plain : Word.ofText name.word = .plain name.word := by cases name <;> rfl
  have known : CommandName.ofWord? name.word = some name := by cases name <;> rfl
  rw [readWords, plain]
  cases pending : progress.pending with
  | awaiting argument => exact absurd pending (settles.not_awaiting argument)
  | nothing | held => simp only [known]

theorem parseCommand_spelledAll {environment : Option String} (usable : environment ≠ some "")
    {config : Option String} {command : Command} {name : CommandName} {settings : List Setting}
    {words : List String} (named : reportName? command = some name)
    (states : States config command settings) (spelled : SpelledAll settings words)
    (exclusive : Exclusive command) :
    ∃ given, parseCommand environment name words = .ok (given, command) ∧
      given.config = config := by
  obtain ⟨given, records, advances⟩ :=
    advances_spelledAll spelled .nil (states.takes named) states.once
  obtain ⟨later, settles, read⟩ := advances {} rfl []
  refine ⟨given, ?_, records.config_eq states named⟩
  rw [List.append_nil] at read
  rw [parseCommand, read, readWords]
  have finished := finishLevel_settles usable settles (records.checkConflict_eq states exclusive)
  simp only [finished, records.command_eq states named, Except.mapError, bind, Except.bind]

/-- A line that is written for a report is read back to that report, in whichever order and spelling
its settings are. A path from the environment has no say where the line gives one. -/
theorem parse_written {environment config : Option String} {command : Command}
    {words : List String} (written : Written config command words)
    (exclusive : Exclusive command)
    (overruled : environment = none ∨ config ≠ none ∧ environment ≠ some "") :
    parse environment words = .ok ⟨config, some command⟩ := by
  have usable : environment ≠ some "" := by
    rcases overruled with rfl | ⟨_, filled⟩
    · nofun
    · exact filled
  have chosen : (config <|> environment) = config := by
    rcases overruled with rfl | ⟨present, _⟩
    · cases config <;> rfl
    · cases config with
      | none => exact absurd rfl present
      | some path => rfl
  cases written with
  | after named states spelled =>
      obtain ⟨given, read, path⟩ := parseCommand_spelledAll usable named states spelled exclusive
      have top : finishLevel environment {} = .ok {} := finishLevel_settles usable rfl rfl
      rw [parse_command, read, top]
      simp only [Except.mapError, bind, Except.bind, path]
      exact congrArg (fun path => Except.ok (Invocation.mk path (some command))) chosen
  | @before path _ _ _ _ _ named front states spelled =>
      obtain ⟨given, read, none⟩ := parseCommand_spelledAll usable named states spelled exclusive
      have takes : Level.top.Takes (.config path) := .inr (.head _)
      obtain ⟨later, settles, reading⟩ := advances_spelled takes rfl front {} rfl _
      have top := finishLevel_settles usable settles rfl
      rw [parse, reading, readWords_command settles]
      simp only [read, top, Except.mapError, bind, Except.bind, none]
      rfl

/-- An evaluation of which an empty sequence is expected. Below it is asked for with a path that is
named like a command and with options on both sides of the inputs. -/
def mixedCommand : Command :=
  .eval ⟨true, false, false, true⟩ (some [])
    ⟨⟨some ⟨true, true, true, false, false, false⟩, false, some .corrected⟩, .json, false, true⟩

private def mixedSettings : List Setting :=
  [.expect [], .output .json, .inputs ⟨true, false, false, true⟩,
    .reveal ⟨true, true, true, false, false, false⟩, .mode .corrected, .noColor]

private theorem states_mixed : States none mixedCommand mixedSettings where
  once := by decide
  meant := by simp [mixedSettings, mixedCommand, asked?, setting?, Setting.argument]
  complete := by
    intro argument setting asked
    cases argument <;> simp [mixedCommand, asked?, setting?] at asked <;>
      simp [← asked, mixedSettings]

private theorem spelled_mixed : SpelledAll mixedSettings ["--expect", "", "-o=json", "tF0T",
    "--reveal=1tT0fF", "--mode", "corrected", "--no-color"] := by
  have expect : Spelled (.expect []) ["--expect", ""] :=
    .option rfl (.expect (by simp [Bits.Spells])) .apart
  have output : Spelled (.output .json) ["-o=json"] :=
    .option rfl .json (.letterEquals rfl (by decide))
  have inputs : Spelled (.inputs ⟨true, false, false, true⟩) ["tF0T"] :=
    .positional rfl (.inputs (by simp [Bits.Spells, Bits.characters, Inputs.toList]))
  have flags : Bits.Spells (Reveal.flags ⟨true, true, true, false, false, false⟩) "1tT0fF" := by
    simp [Bits.Spells, Bits.characters, Reveal.flags, Stage.all, Reveal.isOpen]
  have reveal : Spelled (.reveal ⟨true, true, true, false, false, false⟩) ["--reveal=1tT0fF"] :=
    .option rfl (.reveal flags) (.attached (by decide))
  have mode : Spelled (.mode .corrected) ["--mode", "corrected"] := .option rfl .corrected .apart
  have noColor : Spelled .noColor ["--" ++ "no-color"] := .flag rfl
  exact .cons expect (.cons output (.cons inputs (.cons reveal (.cons mode (.cons noColor .nil)))))

theorem parse_written_in_mixed_spellings :
    ∃ words, words = ["-Ceval", "eval", "--expect", "", "-o=json", "tF0T", "--reveal=1tT0fF",
        "--mode", "corrected", "--no-color"] ∧
      Written (some "eval") mixedCommand words ∧ Exclusive mixedCommand ∧
      parse (some "other.toml") words = .ok ⟨some "eval", some mixedCommand⟩ := by
  have front : Spelled (.config "eval") ["-Ceval"] :=
    .option rfl (.config (by decide) (by decide) (by decide)) (.letterAttached rfl (by decide))
  have named : reportName? mixedCommand = some .eval := rfl
  have written := Written.before named front states_mixed spelled_mixed
  exact ⟨_, rfl, written, .inr rfl,
    parse_written written (.inr rfl) (.inr ⟨nofun, by decide⟩)⟩

end RevealGates.CommandLine
