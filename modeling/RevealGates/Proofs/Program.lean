import Mathlib
import RevealGates.Program
import RevealGates.Proofs.CommandLine.ReportOptions
import RevealGates.Proofs.Session

/-!
Reports of whole runs.

Both commands that report something prepare in the same way: they refuse contradictory colour
options, load the settings and combine them with the gates of the command line. Whatever stops one
of them there stops the other with the same words, and whatever comes after it succeeds. What a
table tells about some inputs is therefore what an evaluation of these inputs tells.
-/

set_option autoImplicit false

namespace RevealGates

namespace Output

theorem writeAll_buffer (written : String) (pieces : List String) :
    buffer.writeAll written pieces = (.ok (), written ++ String.join pieces) := by
  induction pieces generalizing written with
  | nil => simp [Output.writeAll]
  | cons piece rest ih =>
      have step : buffer.write written piece = (.ok (), written ++ piece) := rfl
      simp only [Output.writeAll, step, ih, String.join_cons, String.append_assoc]

end Output

namespace Inputs

theorem mem_all (inputs : Inputs) : inputs ∈ all := by
  obtain ⟨a, b, c, d⟩ := inputs
  cases a <;> cases b <;> cases c <;> cases d <;> decide

theorem text_injective {left right : Inputs} (same : left.text = right.text) : left = right := by
  have bits : left.toList.map Bits.digit = right.toList.map Bits.digit := String.ofList_inj.mp same
  have digits : Function.Injective Bits.digit := by
    intro left right
    cases left <;> cases right <;> decide
  have lists : left.toList = right.toList := List.map_injective_iff.mpr digits bits
  obtain ⟨a, b, c, d⟩ := left
  obtain ⟨a', b', c', d'⟩ := right
  simpa [toList] using lists

end Inputs

namespace Json

/-- What an object holds under a name. -/
def field? (name : String) : Json → Option Json
  | .object members => members.lookup name
  | _ => none

end Json

namespace Program

open Report

/-! ## Preparing a report -/

theorem exitCode_ne_success (failure : Failure) : failure.exitCode ≠ .success := by
  cases failure <;> nofun

/-- The settings that a run works with. -/
def loading (context : Context) (config : Option String) : Settings.Loading :=
  Settings.load context.files context.here (config.map Files.Path.ofText) context.directory

variable {context : Context} {config : Option String} {choice : ReportChoice}

theorem prepare_of_contradiction (contradictory : (choice.color && choice.noColor) = true)
    (report : List Notice → Prepared → Outcome) :
    prepare context config choice report =
      context.finish .refused "" [] "--color and --no-color cannot be used together\n" :=
  if_pos contradictory

theorem prepare_of_failure (consistent : (choice.color && choice.noColor) = false)
    {failure : Failure} (failed : (loading context config).outcome = .error failure)
    (report : List Notice → Prepared → Outcome) :
    prepare context config choice report =
      context.fail (loading context config).notices failure := by
  unfold loading at failed ⊢
  simp only [prepare, consistent, failed, Bool.false_eq_true, if_false]

theorem prepare_of_settings (consistent : (choice.color && choice.noColor) = false)
    {settings : Settings} (loaded : (loading context config).outcome = .ok settings)
    (report : List Notice → Prepared → Outcome) :
    prepare context config choice report =
      report (loading context config).notices
        ⟨(choice.gates.resolve settings).1, (choice.gates.resolve settings).2,
          surface context choice⟩ := by
  unfold loading at loaded ⊢
  simp only [prepare, consistent, loaded, Bool.false_eq_true, if_false]

theorem evaluationText_eq (surface : Surface) (request : Request) :
    let lines := Evaluation.lines request.mode request.inputs request.reveal
    let evaluation := Evaluation.compute request.mode request.inputs request.reveal
    (evaluationText surface request).1 =
        String.join (lines.flatMap surface.line ++ surface.result request lines evaluation) ∧
      (evaluationText surface request).2.evaluation = evaluation := by
  intro lines evaluation
  have streamed := Output.feed_toSink Output.buffer surface.line "" lines
  rw [Output.writeAll_buffer] at streamed
  have last := (Evaluation.evaluate_of_feed_ok streamed).2
  constructor
  · simp [evaluationText, Request.run, Output.writeAll_buffer, last, lines, evaluation,
      String.join_append]
  · simp [evaluationText, Request.run, evaluation]

@[simp] theorem values_evaluationText (surface : Surface) (request : Request) :
    (evaluationText surface request).2.evaluation.values =
      Evaluation.returnedValues request.mode request.inputs request.reveal := by
  rw [(evaluationText_eq surface request).2, Evaluation.values_compute]

@[simp] theorem events_evaluationText (surface : Surface) (request : Request) :
    (evaluationText surface request).2.events = (request.run Sink.discard ()).events :=
  Evaluation.events_evaluate _ request.mode request.inputs request.reveal ""

/-- The exit code of an evaluation and its last words, by what was expected and what came. -/
def verdict (expect : Option (List Bool)) (values : List Bool) : ExitCode × String :=
  match expect with
  | none => (.success, "")
  | some expected =>
      if expected = values then (.success, "") else (.mismatch, mismatchText expected values)

/-- What an evaluation tells about its progress, wherever its lines go. -/
def evaluationEvents (request : Request) : List Event :=
  .evaluating request.inputs request.reveal request.mode :: (request.run Sink.discard ()).events

theorem runEval_of_settings (consistent : (choice.color && choice.noColor) = false)
    {settings : Settings} (loaded : (loading context config).outcome = .ok settings)
    (inputs : Inputs) (expect : Option (List Bool)) :
    let request : Request :=
      ⟨(choice.gates.resolve settings).1, inputs, (choice.gates.resolve settings).2⟩
    let last := verdict expect (Evaluation.returnedValues request.mode inputs request.reveal)
    runEval context config inputs expect choice =
      context.finish last.1 (evaluationText (surface context choice) request).1
        ((loading context config).notices ++ (evaluationEvents request).map .event) last.2 := by
  intro request last
  unfold runEval
  rw [prepare_of_settings consistent loaded]
  simp only [values_evaluationText, events_evaluationText, last, request, evaluationEvents]
  cases expect with
  | none => rfl
  | some expected =>
      simp only [verdict]
      split <;> rfl

theorem runTable_of_settings (consistent : (choice.color && choice.noColor) = false)
    {settings : Settings} (loaded : (loading context config).outcome = .ok settings) :
    ∃ text notices, runTable context config choice = context.finish .success text notices "" :=
  ⟨_, _, prepare_of_settings consistent loaded _⟩

end Program

end RevealGates
