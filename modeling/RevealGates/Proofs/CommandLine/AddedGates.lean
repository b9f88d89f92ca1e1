import RevealGates.Proofs.CommandLine.AddedOptions

/-!
Gates and mode added to a command line.

A command line that says nothing about gates and mode still reads the same when options that do are
put somewhere between its words, and these are what is then said about gates and mode.
-/

set_option autoImplicit false

namespace RevealGates

/-- The command with its gates and mode set in this way. Only reports have any. -/
def Command.withGates (gates : GateChoice) : Command → Command
  | .eval inputs expect choice => .eval inputs expect { choice with gates := gates }
  | .table choice => .table { choice with gates := gates }
  | .init force => .init force
  | .completions shell => .completions shell

namespace CommandLine

def Argument.isGate : Argument → Bool
  | .reveal | .revealAll | .mode => true
  | .inputs | .shell | .config | .output | .expect | .color | .noColor | .force | .help
  | .version => false

/-- The words that set the mode, and the gates to what is given or else open all of them. -/
def gateWords (mode : Mode) : Option Reveal → List String
  | some reveal => ["--mode", mode.name, "--reveal", reveal.text]
  | none => ["--mode", mode.name, "--reveal-all"]

/-- What the words set. -/
def gatesOf (mode : Mode) (reveal? : Option Reveal) : GateChoice :=
  ⟨reveal?, reveal?.isNone, some mode⟩

def revealSetting : Option Reveal → Setting
  | some reveal => .reveal reveal
  | none => .revealAll

theorem Setting.Text.of_mode (mode : Mode) : Setting.Text (.mode mode) mode.name := by
  cases mode with
  | fixture => exact .fixture
  | corrected => exact .corrected

theorem Setting.Text.of_reveal (reveal : Reveal) : Setting.Text (.reveal reveal) reveal.text :=
  .reveal (Bits.spells_format reveal.flags)

theorem spelledAll_gateWords (mode : Mode) (reveal? : Option Reveal) :
    SpelledAll [.mode mode, revealSetting reveal?] (gateWords mode reveal?) := by
  have modeSpelled : Spelled (.mode mode) ["--mode", mode.name] :=
    .option rfl (.of_mode mode) .apart
  cases reveal? with
  | some reveal =>
      have revealSpelled : Spelled (.reveal reveal) ["--reveal", reveal.text] :=
        .option rfl (.of_reveal reveal) .apart
      exact .cons modeSpelled (.cons revealSpelled .nil)
  | none =>
      have allSpelled : Spelled .revealAll ["--" ++ "reveal-all"] := .flag rfl
      exact .cons modeSpelled (.cons allSpelled .nil)

theorem adds_gates {name : CommandName} (report : name = .eval ∨ name = .table) (mode : Mode)
    (reveal? : Option Reveal) : Adds Argument.isGate name [.mode mode, revealSetting reveal?] where
  addable := by
    refine ⟨fun argument gate => ?_, rfl, rfl⟩
    cases argument with
    | reveal => exact ⟨.reveal {}, rfl⟩
    | revealAll => exact ⟨.revealAll, rfl⟩
    | mode => exact ⟨.mode .fixture, rfl⟩
    | inputs | shell | config | output | expect | color | noColor | force | help | version =>
        cases gate
  among := by
    cases reveal? <;> simp [revealSetting, Setting.argument, Argument.isGate]
  options := by
    rcases report with rfl | rfl <;> cases reveal? <;>
      simp [revealSetting, Setting.argument, Level.options]
  once := by
    cases reveal? <;> simp [revealSetting, Setting.argument]
  consistent := by
    cases reveal? <;> rfl

namespace Given

variable {given other : Given}

theorem bare_of_gateChoice (unset : given.gateChoice = {}) : given.Bare Argument.isGate := by
  obtain ⟨reveal, revealAll, mode⟩ := GateChoice.mk.inj unset
  intro argument gate
  cases argument with
  | reveal => rw [said?, reveal]; rfl
  | revealAll => rw [said?, revealAll]; rfl
  | mode => rw [said?, mode]; rfl
  | inputs | shell | config | output | expect | color | noColor | force | help | version =>
      cases gate

theorem Joins.command_withGates {extra : Given} (joins : given.Joins Argument.isGate extra other)
    {name : CommandName} {command : Command} (made : given.command name = .ok command) :
    other.command name = .ok (command.withGates extra.gateChoice) := by
  obtain ⟨rfl, rfl⟩ := joins
  have gates : (other.keep Argument.isGate).gateChoice = other.gateChoice := by
    simp [gateChoice, keep, has, Argument.isGate]
  have rest (argument : Argument) (plain : argument.isGate = false) :
      (other.keep fun argument => !argument.isGate).has argument = other.has argument :=
    has_keep (by simp [plain])
  cases name with
  | eval | table | init =>
      cases made
      simp only [Given.command, Command.withGates, reportChoice, gates, rest .color rfl,
        rest .noColor rfl, rest .force rfl] <;> rfl
  | completions =>
      have shell : (other.keep fun argument => !argument.isGate).shell = other.shell := rfl
      simp only [Given.command, shell] at made ⊢
      split at made
      · cases made
        rfl
      · cases made

end Given

/-- A line that says nothing about gates and mode reads the same with words added that set them,
wherever options can be put. -/
theorem parse_gateWords {environment config : Option String} {leading trailing : List String}
    (takes : TakesOptions leading) {command : Command}
    (understood : parse environment (leading ++ trailing) = .ok ⟨config, some command⟩)
    {choice : ReportChoice} (reports : command.report? = some choice) (unset : choice.gates = {})
    (mode : Mode) (reveal? : Option Reveal) :
    parse environment (leading ++ gateWords mode reveal? ++ trailing) =
      .ok ⟨config, some (command.withGates (gatesOf mode reveal?))⟩ := by
  obtain ⟨name, given, made, added⟩ := parse_added takes understood
  obtain ⟨report, same⟩ := gateChoice_of_report made reports
  obtain ⟨other, joins, parses⟩ := added _ _ _ (adds_gates report mode reveal?)
    (Given.bare_of_gateChoice (same.trans unset)) (spelledAll_gateWords mode reveal?)
  have gates : ([.mode mode, revealSetting reveal?].foldl Given.add {}).gateChoice =
      gatesOf mode reveal? := by
    cases reveal? <;> rfl
  exact parses _ (gates ▸ joins.command_withGates made)

end CommandLine

end RevealGates
