import RevealGates.Output
import RevealGates.Report.Document
import RevealGates.Report.Text

/-!
Sessions: several reports written to one output.

A surface says how lines and reports look; a step is one thing to write. Each step either writes all
of its text or stops where the output fails, and nothing is carried from one step to the next except
what the output itself remembers.
-/

set_option autoImplicit false

namespace RevealGates

/-- What to evaluate. -/
structure Request where
  mode : Mode := .fixture
  inputs : Inputs := {}
  reveal : Reveal := {}
  deriving DecidableEq, Repr

namespace Request

def run {State Fault : Type} (request : Request) (sink : Sink State Fault) (state : State) :
    EvaluationRun State Fault :=
  Evaluation.evaluate sink request.mode request.inputs request.reveal state

/-- The truth table under the mode and the gates of a request. -/
def table (request : Request) : TruthTable :=
  TruthTable.sweep request.mode request.reveal

end Request

/-- The looks of a report. -/
inductive Surface where
  /-- Bare lines; there are no summaries and no tables. -/
  | lines
  | text (painter : Painter)
  /-- The JSON report; it is written whole, so it takes no single lines. -/
  | json
  deriving DecidableEq, Repr

namespace Surface

def line : Surface → String → List String
  | .lines, line => [line, "\n"]
  | .text painter, line => painter.paintAll (Report.Text.line line)
  | .json, _ => []

/-- The pieces of an evaluation's report, given the lines that it emitted. -/
def result : Surface → Request → List String → Evaluation → List String
  | .lines, _, _, _ => []
  | .text painter, _, _, evaluation => painter.paintAll (Report.Text.summary evaluation)
  | .json, request, emitted, evaluation =>
      [Report.Document.text (Report.Document.evaluation
        ⟨request.inputs, request.mode, request.reveal, emitted, evaluation⟩)]

def table : Surface → TruthTable → List String
  | .lines, _ => []
  | .text painter, table => painter.paintAll (Report.Text.table table)
  | .json, table => [Report.Document.text (Report.Document.table table)]

end Surface

/-- One thing to write. -/
inductive Step where
  | emit (line : String)
  | evaluate (request : Request)
  /-- The report of an evaluation, whose lines go elsewhere. -/
  | result (request : Request)
  | table (request : Request)
  deriving DecidableEq, Repr

/-- How a step ended. -/
structure StepRun (State Fault : Type) where
  /-- The evaluation, if the step was one, or the output's failure. -/
  outcome : Except Fault (Option Evaluation)
  state : State
  events : List Event

namespace Step

variable {State Fault : Type}

def finish (written : Except Fault Unit × State) (events : List Event) : StepRun State Fault :=
  ⟨written.1.map fun _ => none, written.2, events⟩

def perform (output : Output State Fault) (surface : Surface) (state : State) :
    Step → StepRun State Fault
  | .emit line => finish (output.writeAll state (surface.line line)) []
  | .evaluate request =>
      let run := request.run (output.toSink surface.line) state
      ⟨run.outcome.map some, run.state, run.events⟩
  | .result request =>
      let run := request.run Sink.collect []
      finish (output.writeAll state (surface.result request run.state run.evaluation))
        run.events
  | .table request =>
      finish (output.writeAll state (surface.table request.table))
        (TruthTable.sweepEvents request.mode request.reveal)

/-- Performs steps in turn. A failed step ends there; the steps after it still run. -/
def performAll (output : Output State Fault) (surface : Surface) :
    State → List Step → List (StepRun State Fault)
  | _, [] => []
  | state, step :: rest =>
      let run := step.perform output surface state
      run :: performAll output surface run.state rest

end Step

end RevealGates
