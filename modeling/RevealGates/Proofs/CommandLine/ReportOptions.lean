import Mathlib.Data.List.TakeDrop
import RevealGates.CommandLine.Parse
import RevealGates.Proofs.Bits

/-!
Options that both reports take.

The words after `eval` and the words after `table` are read by the same loop at different levels.
For the options that both levels know the level makes no difference, and inputs that were given in
front of them stay where they are. So either both command lines are refused with the same fault, or
both are understood with the same choices.
-/

set_option autoImplicit false

namespace RevealGates

/-- What the command reports on, if it is a report. -/
def Command.report? : Command → Option ReportChoice
  | .eval _ _ choice | .table choice => some choice
  | .init _ | .completions _ => none

namespace CommandLine

/-! ## Inputs in front -/

namespace Argument

/-- Whether both reports take an argument after the form of the report is settled. -/
def isShared : Argument → Bool
  | .config | .reveal | .revealAll | .mode | .color | .noColor => true
  | .inputs | .shell | .output | .expect | .force | .help | .version => false

end Argument

namespace Given

variable {inputs : Inputs} {given : Given} {argument : Argument}

end Given

/-- What is pending concerns an argument that both reports take. -/
def Pending.Shared : Pending → Prop
  | .nothing => True
  | .awaiting argument | .held argument _ => argument.isShared = true

namespace Progress

variable {inputs : Inputs} {progress : Progress} {argument : Argument}

end Progress

/-! ## Options as they are given -/

/-- The value of an option, in the word of the option or in the next one. -/
structure OptionValue where
  text : String
  apart : Bool := false

/-- A value that begins with a hyphen has to be attached. -/
def OptionValue.words (name : String) (value : OptionValue) : List String :=
  if value.apart ∧ value.text.toList.head? ≠ some '-' then ["--" ++ name, value.text]
  else ["--" ++ name ++ "=" ++ value.text]

/-- An option that both reports take. Nothing is said about its value. -/
inductive ReportOption where
  | config (value : OptionValue)
  | reveal (value : OptionValue)
  | revealAll
  | mode (value : OptionValue)
  | color
  | noColor

namespace ReportOption

def words : ReportOption → List String
  | .config value => value.words "config"
  | .reveal value => value.words "reveal"
  | .revealAll => ["--reveal-all"]
  | .mode value => value.words "mode"
  | .color => ["--color"]
  | .noColor => ["--no-color"]

def readValue (argument : Argument) (value : OptionValue) (progress : Progress) :
    Except UsageFault Progress :=
  if value.apart ∧ value.text.toList.head? ≠ some '-' then do
    let progress ← progress.settle
    .ok { progress with pending := .held argument value.text }
  else progress.attach argument value.text

def readFlag (argument : Argument) (progress : Progress) : Except UsageFault Progress := do
  let progress ← progress.settle
  let given ← progress.given.mention argument
  .ok { progress with given := given }

/-- What reading an option does, at whichever level. -/
def read (progress : Progress) : ReportOption → Except UsageFault Progress
  | .config value => readValue .config value progress
  | .reveal value => readValue .reveal value progress
  | .revealAll => readFlag .revealAll progress
  | .mode value => readValue .mode value progress
  | .color => readFlag .color progress
  | .noColor => readFlag .noColor progress

end ReportOption

/-! ## Words of options -/

private theorem ofText_eq_ofLong {text : String} {chars : List Char} (filled : chars ≠ [])
    (spelled : text.toList = '-' :: '-' :: chars) : Word.ofText text = Word.ofLong chars := by
  rw [Word.ofText, spelled]
  cases chars with
  | nil => exact absurd rfl filled
  | cons first rest => rfl

theorem Word.ofText_attached {name : String} (plain : '=' ∉ name.toList) (value : String) :
    Word.ofText ("--" ++ name ++ "=" ++ value) = .long name (some value) := by
  have all : ∀ c ∈ name.toList, (c != '=') = true := by
    intro c member
    rw [bne_iff_ne]
    rintro rfl
    exact plain member
  have span : (name.toList ++ '=' :: value.toList).span (· != '=') =
      (name.toList, '=' :: value.toList) := by
    rw [List.span_eq_takeWhile_dropWhile, List.takeWhile_append_of_pos all,
      List.dropWhile_append_of_pos all]
    simp
  rw [ofText_eq_ofLong (by simp) (by simp : _ = '-' :: '-' :: (name.toList ++ '=' :: value.toList)),
    Word.ofLong, span]
  simp

theorem Word.ofText_plain {text : String} (plain : text.toList.head? ≠ some '-') :
    Word.ofText text = .plain text := by
  unfold Word.ofText
  split
  · next same => simp [same] at plain
  · next same => simp [same] at plain
  · next same => simp [same] at plain
  · rfl

namespace ReportOption

variable {level : Level} {name : String} {argument : Argument}

theorem readWords_value (known : level.long? name = some argument)
    (valued : argument.takesValue = true) (plain : '=' ∉ name.toList)
    (bare : Word.ofText ("--" ++ name) = .long name none) (value : OptionValue)
    (rest : List String) (progress : Progress) :
    readWords level (value.words name ++ rest) progress =
      ((readValue argument value progress).mapError .usage >>= readWords level rest) := by
  by_cases apart : value.apart ∧ value.text.toList.head? ≠ some '-'
  · simp only [OptionValue.words, readValue, if_pos apart, List.cons_append, List.nil_append]
    rw [readWords, bare]
    simp only [readLong, known, valued, Progress.await]
    cases progress.settle with
    | error fault => rfl
    | ok settled =>
        simp only [Except.mapError, bind, Except.bind]
        rw [readWords, Word.ofText_plain apart.2]
  · simp only [OptionValue.words, readValue, if_neg apart, List.cons_append, List.nil_append]
    rw [readWords, Word.ofText_attached plain]
    simp only [readLong, known, valued]

theorem readWords_flag (known : level.long? name = some argument)
    (bare : argument.takesValue = false) (shared : argument.isShared = true) {word : String}
    (spelled : Word.ofText word = .long name none) (rest : List String) (progress : Progress) :
    readWords level (word :: rest) progress =
      ((readFlag argument progress).mapError .usage >>= readWords level rest) := by
  rw [readWords, spelled]
  simp only [readLong, known, bare, raise, readFlag]
  cases progress.settle with
  | error fault => rfl
  | ok settled =>
      simp only [Except.mapError, bind, Except.bind]
      cases argument with
      | revealAll | color | noColor => cases settled.given.mention _ <;> rfl
      | config | reveal | mode => cases bare
      | inputs | shell | output | expect | force | help | version => cases shared

theorem bind_eq_ok {Fault First Second : Type} {value : Except Fault First}
    {next : First → Except Fault Second} {result : Second} (ended : value >>= next = .ok result) :
    ∃ reached, value = .ok reached ∧ next reached = .ok result := by
  cases value with
  | error fault => cases ended
  | ok reached => exact ⟨reached, rfl, ended⟩

/-- The form of the report is chosen, and no sequence is expected. -/
structure Ready (given : Given) : Prop where
  output : given.output = some .json
  expect : given.expect = none

theorem Ready.store {given stored : Given} (ready : Ready given) {argument : Argument}
    (shared : argument.isShared = true) {value : String}
    (accepted : given.store argument value = .ok stored) : Ready stored := by
  cases argument with
  | config =>
      simp only [Given.store] at accepted
      split at accepted
      · cases accepted
      · cases accepted
        exact ⟨ready.output, ready.expect⟩
  | reveal | mode =>
      obtain ⟨_, _, kept⟩ := bind_eq_ok accepted
      cases kept
      exact ⟨ready.output, ready.expect⟩
  | revealAll | color | noColor =>
      cases accepted
      exact ready
  | inputs | shell | output | expect | force | help | version => cases shared

theorem Ready.mention {given mentioned : Given} (ready : Ready given) {argument : Argument}
    (accepted : given.mention argument = .ok mentioned) : Ready mentioned := by
  unfold Given.mention at accepted
  split at accepted
  · cases accepted
  · cases accepted
    exact ⟨ready.output, ready.expect⟩

theorem Ready.accept {given accepted : Given} (ready : Ready given) {argument : Argument}
    (shared : argument.isShared = true) {value : String}
    (run : given.accept argument value = .ok accepted) : Ready accepted := by
  obtain ⟨mentioned, noted, stored⟩ := bind_eq_ok run
  exact (ready.mention noted).store shared stored

/-- What can be pending between two options concerns options only. -/
structure Between (progress : Progress) : Prop where
  pending : progress.pending.Shared
  ready : Ready progress.given

theorem Between.settle {progress settled : Progress} (between : Between progress)
    (run : progress.settle = .ok settled) : settled.pending = .nothing ∧ Ready settled.given := by
  obtain ⟨given, pending, placed⟩ := progress
  cases pending with
  | nothing =>
      cases run
      exact ⟨rfl, between.ready⟩
  | awaiting argument => cases run
  | held argument value =>
      obtain ⟨accepted, taken, rest⟩ := bind_eq_ok run
      cases rest
      exact ⟨rfl, between.ready.accept between.pending taken⟩

theorem Between.readValue {progress next : Progress} (between : Between progress)
    {argument : Argument} (shared : argument.isShared = true) {value : OptionValue}
    (run : readValue argument value progress = .ok next) : Between next := by
  unfold ReportOption.readValue at run
  split at run
  · obtain ⟨settled, before, last⟩ := bind_eq_ok run
    cases last
    exact ⟨shared, (between.settle before).2⟩
  · obtain ⟨settled, before, rest⟩ := bind_eq_ok run
    obtain ⟨accepted, taken, last⟩ := bind_eq_ok rest
    cases last
    obtain ⟨none, ready⟩ := between.settle before
    exact ⟨none ▸ trivial, ready.accept shared taken⟩

theorem Between.readFlag {progress next : Progress} (between : Between progress)
    {argument : Argument} (run : readFlag argument progress = .ok next) : Between next := by
  obtain ⟨settled, before, rest⟩ := bind_eq_ok run
  obtain ⟨mentioned, noted, last⟩ := bind_eq_ok rest
  cases last
  obtain ⟨none, ready⟩ := between.settle before
  exact ⟨none ▸ trivial, ready.mention noted⟩

theorem Between.read {progress next : Progress} (between : Between progress)
    {option : ReportOption} (run : option.read progress = .ok next) : Between next := by
  cases option with
  | config value | reveal value | mode value => exact between.readValue rfl run
  | revealAll | color | noColor => exact between.readFlag run

theorem Between.finishLevel {progress : Progress} (between : Between progress)
    {environment : Option String} {given : Given}
    (run : finishLevel environment progress = .ok given) : Ready given := by
  obtain ⟨settled, before, rest⟩ := bind_eq_ok run
  split at rest
  · cases rest
  · obtain ⟨_, _, last⟩ := bind_eq_ok rest
    cases last
    exact (between.settle before).2

/-! ## Inputs in front of options -/

section

variable {inputs : Inputs} {progress : Progress}

end

end ReportOption

/-! ## Both command lines -/

open ReportOption

theorem parse_command (environment : Option String) (name : CommandName) (words : List String) :
    parse environment (name.word :: words) =
      (parseCommand environment name words >>= fun read =>
        (finishLevel environment {}).mapError .usage >>= fun top =>
          .ok ⟨read.1.config <|> top.config <|> environment, some read.2⟩) := by
  cases name <;> rfl

end CommandLine

end RevealGates
