import RevealGates.Proofs.CommandLine.AddedOptions
import RevealGates.Proofs.Program.ExitCode

/-!
Expected sequences.

What a run is told to expect is looked at after everything else: the report is printed as it would
be without it, and only the exit code and a last line on standard error depend on it. That line
shows both sequences in brackets, in the very notation in which a sequence is expected, so the one
that was found can be expected the next time.
-/

set_option autoImplicit false

namespace RevealGates

/-! ## Sequences in brackets -/

namespace Text

/-- What stands behind each opening bracket, up to the next closing one. -/
def bracketedIn : List Char → List (List Char)
  | [] => []
  | c :: rest =>
      if c = '[' then rest.takeWhile (· ≠ ']') :: bracketedIn rest else bracketedIn rest

def bracketed (text : String) : List String :=
  (bracketedIn text.toList).map String.ofList

theorem bracketedIn_append {front : List Char} (outside : '[' ∉ front) (rest : List Char) :
    bracketedIn (front ++ rest) = bracketedIn rest := by
  induction front with
  | nil => rfl
  | cons c others ih =>
      obtain ⟨first, further⟩ := not_or.mp fun found => outside (List.mem_cons.mpr found)
      rw [List.cons_append, bracketedIn, if_neg (Ne.symm first), ih further]

theorem bracketedIn_group {inner : List Char} (noOpening : '[' ∉ inner) (noClosing : ']' ∉ inner)
    (rest : List Char) :
    bracketedIn ('[' :: (inner ++ ']' :: rest)) = inner :: bracketedIn rest := by
  have upTo : (inner ++ ']' :: rest).takeWhile (· ≠ ']') = inner := by
    rw [List.takeWhile_append_of_pos, List.takeWhile_cons_of_neg (by simp), List.append_nil]
    intro c included
    simpa using fun same : c = ']' => noClosing (same ▸ included)
  have after : bracketedIn ([']'] ++ rest) = bracketedIn rest := bracketedIn_append (by decide) rest
  rw [bracketedIn, if_pos rfl, upTo, bracketedIn_append noOpening]
  exact congrArg (inner :: ·) after

end Text

namespace CommandLine

/-! ## An expectation that is added -/

def Argument.isExpect (argument : Argument) : Bool := argument = .expect

theorem adds_expect (bits : List Bool) : Adds Argument.isExpect .eval [.expect bits] where
  addable := ⟨fun argument expects => ⟨.expect [], (of_decide_eq_true expects).symm⟩, rfl, rfl⟩
  among := by simp [Setting.argument, Argument.isExpect]
  options := by simp [Setting.argument, Level.options]
  once := List.nodup_singleton _
  consistent := rfl

theorem Given.Joins.command_expecting {given extra other : Given}
    (joins : given.Joins Argument.isExpect extra other) {name : CommandName} {inputs : Inputs}
    {choice : ReportChoice} (made : given.command name = .ok (.eval inputs none choice)) :
    other.command name = .ok (.eval inputs extra.expect choice) := by
  obtain ⟨rfl, rfl⟩ := joins
  have has (argument : Argument) (plain : argument.isExpect = false) :
      (other.keep fun argument => !argument.isExpect).has argument = other.has argument :=
    has_keep (by simp [plain])
  cases name with
  | eval =>
      cases made
      simp only [Given.command, reportChoice, gateChoice, has .revealAll rfl, has .color rfl,
        has .noColor rfl]
      rfl
  | table | init => cases made
  | completions =>
      simp only [Given.command] at made
      split at made <;> cases made

theorem expect_of_command {given : Given} {name : CommandName} {inputs : Inputs}
    {choice : ReportChoice} (made : given.command name = .ok (.eval inputs none choice)) :
    name = .eval ∧ given.expect = none := by
  cases name with
  | eval =>
      obtain ⟨-, unset, -⟩ := Command.eval.inj (Except.ok.inj made)
      exact ⟨rfl, unset⟩
  | table | init => cases made
  | completions =>
      simp only [Given.command] at made
      split at made <;> cases made

/-- A line that asks for an evaluation and expects nothing reads the same with an expectation added,
wherever options can be put. -/
theorem parse_expecting {environment config : Option String} {leading trailing : List String}
    (takes : TakesOptions leading) {inputs : Inputs} {choice : ReportChoice}
    (understood : parse environment (leading ++ trailing) =
      .ok ⟨config, some (.eval inputs none choice)⟩)
    {bits : List Bool} {text : String} (spells : Bits.Spells bits text) {added : List String}
    (valued : Valued "expect" none text added) :
    parse environment (leading ++ added ++ trailing) =
      .ok ⟨config, some (.eval inputs (some bits) choice)⟩ := by
  obtain ⟨name, given, made, adding⟩ := parse_added takes understood
  obtain ⟨rfl, unset⟩ := expect_of_command made
  have bare : given.Bare Argument.isExpect := by
    intro argument expects
    obtain rfl : argument = .expect := of_decide_eq_true expects
    rw [Given.said?, unset]
    rfl
  have spelled : SpelledAll [.expect bits] (added ++ []) :=
    .cons (.option rfl (.expect spells) valued) .nil
  rw [List.append_nil] at spelled
  obtain ⟨other, joins, parses⟩ := adding _ _ _ (adds_expect bits) bare spelled
  exact parses _ (joins.command_expecting made)

end CommandLine

namespace Program

variable {context : Context} {config : Option String} {choice : ReportChoice}

/-- The last line of a run that finds another sequence than the one expected. -/
def mismatchLine (expected found : List Bool) : String :=
  "boolgate: result mismatch: expected [" ++ Bits.format expected ++ "], got [" ++
    Bits.format found ++ "]"

theorem mismatchText_eq (expected found : List Bool) :
    mismatchText expected found = mismatchLine expected found ++ "\n" := by
  unfold mismatchText mismatchLine
  simp [String.append_assoc]

theorem toList_mismatchLine (expected found : List Bool) :
    (mismatchLine expected found).toList =
      "boolgate: result mismatch: expected ".toList ++ '[' :: ((Bits.format expected).toList ++
        ']' :: (", got ".toList ++ '[' :: ((Bits.format found).toList ++ [']']))) := by
  unfold mismatchLine
  simp

theorem not_mem_mismatchLine (expected found : List Bool) :
    '\n' ∉ (mismatchLine expected found).toList := by
  have bits (bits : List Bool) : '\n' ∉ (Bits.format bits).toList :=
    Bits.not_mem_format (by decide) bits
  simp [toList_mismatchLine, bits]

theorem bracketed_mismatchLine (expected found : List Bool) :
    Text.bracketed (mismatchLine expected found) = [Bits.format expected, Bits.format found] := by
  have opening : '[' ∉ "boolgate: result mismatch: expected ".toList := by simp
  have middle : '[' ∉ ", got ".toList := by simp
  have inner (bits : List Bool) : '[' ∉ (Bits.format bits).toList ∧
      ']' ∉ (Bits.format bits).toList :=
    ⟨Bits.not_mem_format (by decide) bits, Bits.not_mem_format (by decide) bits⟩
  rw [Text.bracketed, toList_mismatchLine, Text.bracketedIn_append opening,
    Text.bracketedIn_group (inner expected).1 (inner expected).2, Text.bracketedIn_append middle,
    Text.bracketedIn_group (inner found).1 (inner found).2]
  simp [Text.bracketedIn]

theorem configured_of_success {inputs : Inputs} {expect : Option (List Bool)}
    (succeeded : (runEval context config inputs expect choice).code = .success) :
    (choice.color && choice.noColor) = false ∧
      ∃ settings, (loading context config).outcome = .ok settings ∧
        Configured context config settings := by
  cases contradictory : choice.color && choice.noColor with
  | true =>
      rw [runEval, prepare_of_contradiction contradictory] at succeeded
      cases succeeded
  | false =>
      have ended := loading_ends context config
      cases loaded : (loading context config).outcome with
      | error failure =>
          rw [runEval, prepare_of_failure contradictory loaded] at succeeded
          exact absurd succeeded (exitCode_ne_success failure)
      | ok settings =>
          rw [loaded] at ended
          cases ended with
          | configured _ _ configured => exact ⟨rfl, settings, rfl, configured⟩

/-- What is expected makes no difference until everything is printed. -/
theorem runEval_expecting (consistent : (choice.color && choice.noColor) = false)
    {settings : Settings} (loaded : (loading context config).outcome = .ok settings)
    (inputs : Inputs) (expected : List Bool) :
    let found := Evaluation.returnedValues (choice.gates.resolve settings).1 inputs
      (choice.gates.resolve settings).2
    let plain := runEval context config inputs none choice
    let checked := runEval context config inputs (some expected) choice
    checked.stdout = plain.stdout ∧
      (expected = found → checked.code = .success ∧ checked.stderr = plain.stderr) ∧
      (expected ≠ found → checked.code = .mismatch ∧
        checked.stderr = plain.stderr ++ mismatchText expected found) := by
  intro found plain checked
  obtain ⟨text, notices, runs⟩ : ∃ text notices, ∀ expect,
      runEval context config inputs expect choice =
        context.finish (verdict expect found).1 text notices (verdict expect found).2 :=
    ⟨_, _, runEval_of_settings consistent loaded inputs⟩
  simp only [plain, checked, runs]
  refine ⟨rfl, fun met => ?_, fun unmet => ?_⟩
  · have passed : verdict (some expected) found = (.success, "") := if_pos met
    rw [passed]
    exact ⟨rfl, rfl⟩
  · have failed : verdict (some expected) found = (.mismatch, mismatchText expected found) :=
      if_neg unmet
    rw [failed]
    exact ⟨rfl, by simp [Context.finish, verdict]⟩

/-- An expectation may be put wherever options can be, and be any text over the six characters for
bits. It changes nothing on standard output. If the text stands for the sequence that is found, it
changes nothing at all; otherwise the run ends with code 1 and one more line on standard error,
which shows the two sequences in brackets. To expect what that line shows last always succeeds. If
events are shown, what is the same on standard error are their log lines without the times at which
they were written. -/
theorem run_succeeds_iff_expected_is_found (context : Context) (words : List String)
    (config : Option String) (inputs : Inputs) (choice : ReportChoice)
    (understood : CommandLine.parse (configVariable context) words =
      .ok ⟨config, some (.eval inputs none choice)⟩)
    (succeeded : (run context words).code.number = 0) :
    let plain := run context words
    ∃ settings, Configured context config settings ∧
      let found := Evaluation.returnedValues (choice.gates.resolve settings).1 inputs
        (choice.gates.resolve settings).2
      (∃ leading trailing, words = leading ++ trailing ∧ CommandLine.TakesOptions leading) ∧
      ∀ leading trailing, words = leading ++ trailing → CommandLine.TakesOptions leading →
        let expecting := fun added => run context (leading ++ added ++ trailing)
        ∀ text : String, (∀ c ∈ text.toList, c ∈ ['1', '0', 't', 'f', 'T', 'F']) →
          ∃ bits, Bits.Spells bits text ∧ Bits.parse text = .ok bits ∧
            ∀ added, CommandLine.Valued "expect" none text added →
              (expecting added).stdout = plain.stdout ∧
              ((expecting added).code.number = 0 ∧ (expecting added).stderr = plain.stderr ↔
                bits = found) ∧
              (bits ≠ found → (expecting added).code.number = 1 ∧
                ∃ line, (expecting added).stderr = plain.stderr ++ line ++ "\n" ∧
                  '\n' ∉ line.toList ∧
                  Text.bracketed line = [Bits.format bits, Bits.format found] ∧
                  ∀ shown again, (Text.bracketed line)[1]? = some shown →
                    CommandLine.Valued "expect" none shown again →
                    (expecting again).code.number = 0) := by
  intro plain
  have started : plain = runEval context config inputs none choice := by
    simp only [plain, run, understood, runInvocation]
  have success : plain.code = .success := by
    cases code : plain.code with
    | success => rfl
    | mismatch | refused | internal =>
        rw [code] at succeeded
        cases succeeded
  obtain ⟨consistent, settings, loaded, configured⟩ := configured_of_success (started ▸ success)
  refine ⟨settings, configured, CommandLine.exists_takesOptions understood rfl, ?_⟩
  intro leading trailing cut takes expecting text written
  subst cut
  have checked {bits : List Bool} {text : String} (spells : Bits.Spells bits text)
      {added : List String} (valued : CommandLine.Valued "expect" none text added) :
      expecting added = runEval context config inputs (some bits) choice := by
    simp only [expecting, run, CommandLine.parse_expecting takes understood spells valued,
      runInvocation]
  obtain ⟨bits, spells⟩ := Bits.exists_spells written
  refine ⟨bits, spells, spells.parse, fun added valued => ?_⟩
  obtain ⟨sameOutput, met, unmet⟩ := runEval_expecting consistent loaded inputs bits
  rw [← started, ← checked spells valued] at sameOutput met unmet
  refine ⟨sameOutput, ⟨fun ended => ?_, fun same => ?_⟩, fun different => ?_⟩
  · by_contra different
    rw [(unmet different).1] at ended
    cases ended.1
  · rw [(met same).1]
    exact ⟨rfl, (met same).2⟩
  · obtain ⟨code, told⟩ := unmet different
    refine ⟨by rw [code]; rfl, mismatchLine bits _, ?_, not_mem_mismatchLine _ _,
      bracketed_mismatchLine _ _, fun shown again last valuedAgain => ?_⟩
    · rw [told, mismatchText_eq, String.append_assoc]
    · rw [bracketed_mismatchLine] at last
      obtain rfl := Option.some.inj last
      rw [checked (Bits.spells_format _) valuedAgain,
        ((runEval_expecting consistent loaded inputs _).2.1 rfl).1]
      rfl

/-- Nothing of the sequence is known at first, and then it is taken from what the run says. -/
theorem run_succeeds_with_what_it_showed :
    let plain := run {} ["eval", "--reveal", "11f000", "1010"]
    let wrong := run {} ["eval", "--expect", "", "--reveal", "11f000", "1010"]
    let right := run {} ["eval", "--expect=010000", "--reveal", "11f000", "1010"]
    plain.code.number = 0 ∧ wrong.code.number = 1 ∧ wrong.stdout = plain.stdout ∧
      right.code.number = 0 ∧ right.stdout = plain.stdout ∧ right.stderr = plain.stderr := by
  intro plain wrong right
  have understood : CommandLine.parse (configVariable {}) ["eval", "--reveal", "11f000", "1010"] =
      .ok ⟨none, some (.eval ⟨true, false, true, false⟩ none
        ⟨⟨some (.stoppingAt .pairs), false, none⟩, .text, false, false⟩)⟩ := by
    cbv
  have loaded : (loading {} none).outcome = .ok {} := by cbv
  have succeeded : plain.code.number = 0 := by
    simp only [plain, run, understood, runInvocation]
    rw [runEval_of_settings rfl loaded]
    rfl
  have takes : CommandLine.TakesOptions ["eval"] :=
    ⟨⟨none, none, .eval ⟨true, true, true, true⟩ none {}, by cbv⟩, by decide⟩
  obtain ⟨settings, configured, -, expecting⟩ :=
    run_succeeds_iff_expected_is_found {} _ _ _ _ understood succeeded
  obtain rfl : settings = {} := Except.ok.inj (configured.loading_eq.symm.trans loaded)
  obtain ⟨none, -, read, expectNone⟩ := expecting ["eval"] _ rfl takes "" (by simp)
  obtain ⟨some, -, readSome, expectSome⟩ := expecting ["eval"] _ rfl takes "010000" (by simp)
  obtain rfl : [] = none := Except.ok.inj read
  obtain ⟨sameOutput, -, unmet⟩ := expectNone ["--expect", ""] .apart
  obtain ⟨otherOutput, met, -⟩ := expectSome ["--expect=010000"] (.attached (by decide))
  have decoded : Bits.parse "010000" = .ok [false, true, false, false, false, false] := by cbv
  obtain rfl := Except.ok.inj (readSome.symm.trans decoded)
  exact ⟨succeeded, (unmet (by decide)).1, sameOutput, (met.mpr (by decide)).1, otherOutput,
    (met.mpr (by decide)).2⟩

end Program

end RevealGates
