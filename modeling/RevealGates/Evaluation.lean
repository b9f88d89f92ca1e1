import RevealGates.Event
import RevealGates.Sink

/-!
Evaluation: stages are computed in order and revealed line by line until a gate is closed.

The stage behind the first closed gate is computed and returned, not revealed. With every gate open
nothing is returned. `evaluate` runs against any sink and reports, beside its outcome, the sink's
final state and the events of the run; `script` is the list of lines that such a run offers, and
`lookUp` finds what it returns without it.
-/

set_option autoImplicit false

namespace RevealGates

/-- A stage with its computed values. -/
structure StageResult where
  stage : Stage
  values : List Bool
  deriving DecidableEq, Repr

def valueText (value : Bool) : String :=
  if value then "true" else "false"

/-- The lines that reveal a stage: its header and then its values. -/
def StageResult.lines (result : StageResult) : List String :=
  result.stage.header :: result.values.map valueText

def Stage.result (stage : Stage) (mode : Mode) (inputs : Inputs) : StageResult :=
  ⟨stage, stage.values mode inputs⟩

/-- What an evaluation reveals and what it returns. -/
structure Evaluation where
  revealed : List StageResult
  returned : Option StageResult
  deriving DecidableEq, Repr

namespace Evaluation

def terminatedAt (evaluation : Evaluation) : Option Stage :=
  evaluation.returned.map StageResult.stage

/-- The returned sequence, empty when every gate was open. -/
def values (evaluation : Evaluation) : List Bool :=
  (evaluation.returned.map StageResult.values).getD []

def introFragments : List String :=
  ["This ", "is ", "an ", "example ", "of ", "non-maintainable ", "function."]

def intro : String :=
  String.join introFragments

/-- The evaluation of some inputs, independent of any sink. -/
def compute (mode : Mode) (inputs : Inputs) (reveal : Reveal) : Evaluation where
  revealed := reveal.revealed.map (·.result mode inputs)
  returned := reveal.terminating?.map (·.result mode inputs)

def returnedValues (mode : Mode) (inputs : Inputs) (reveal : Reveal) : List Bool :=
  match reveal.terminating? with
  | some stage => stage.values mode inputs
  | none => []

/-- A returned sequence that was looked up, and the events of the look-up. -/
structure LookUp where
  values : List Bool
  events : List Event
  deriving DecidableEq, Repr

/-- Looks up the returned sequence without an evaluation. Of the stages only the one that is
returned is computed, no line is offered to anyone, and no event arises. -/
def lookUp (mode : Mode) (inputs : Inputs) (reveal : Reveal) : LookUp where
  values := returnedValues mode inputs reveal
  events := []

/-- Every line that an evaluation offers to a sink that accepts all. -/
def script (mode : Mode) (inputs : Inputs) (reveal : Reveal) : List String :=
  intro :: reveal.revealed.flatMap fun stage => (stage.result mode inputs).lines

end Evaluation

/-- One run of an evaluation against a sink. -/
structure EvaluationRun (State Fault : Type) where
  /-- The evaluation, or the refusal of the first line that was refused. -/
  outcome : Except Fault Evaluation
  state : State
  events : List Event

namespace EvaluationRun

variable {State Fault : Type}

/-- The evaluation of a run against a sink that refuses nothing. -/
def evaluation (run : EvaluationRun State Empty) : Evaluation :=
  match run.outcome with
  | .ok evaluation => evaluation

/-- The same run with one more event at its front. -/
def after (event : Event) (run : EvaluationRun State Fault) : EvaluationRun State Fault :=
  { run with events := event :: run.events }

end EvaluationRun

namespace Evaluation

variable {State Fault : Type}

/-- Continues an evaluation at the given stages. A stage is computed only when everything before it
has been revealed; its own lines are offered only when its gate is open. -/
def proceed (sink : Sink State Fault) (mode : Mode) (inputs : Inputs) (reveal : Reveal) :
    List Stage → List StageResult → State → EvaluationRun State Fault
  | [], revealed, state => ⟨.ok ⟨revealed, none⟩, state, [.allRevealed]⟩
  | stage :: later, revealed, state =>
      let result := stage.result mode inputs
      let computed := Event.computed stage result.values
      if reveal.isOpen stage then
        match sink.feed state result.lines with
        | (.ok (), next) =>
            (proceed sink mode inputs reveal later (revealed ++ [result]) next).after
              computed
        | (.error fault, next) => ⟨.error fault, next, [computed]⟩
      else
        ⟨.ok ⟨revealed, some result⟩, state, [computed, .gateClosed stage]⟩

/-- Evaluates some inputs, offering every line to the sink as soon as it is known. -/
def evaluate (sink : Sink State Fault) (mode : Mode) (inputs : Inputs) (reveal : Reveal)
    (state : State) : EvaluationRun State Fault :=
  match sink.emit state intro with
  | (.ok (), next) => proceed sink mode inputs reveal Stage.all [] next
  | (.error fault, next) => ⟨.error fault, next, []⟩

end Evaluation

end RevealGates
