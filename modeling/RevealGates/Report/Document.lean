import RevealGates.Json
import RevealGates.TruthTable

/-! The JSON report: one document for an evaluation or for a truth table, and one newline. -/

set_option autoImplicit false

namespace RevealGates.Report

/-- Everything the JSON report of one evaluation tells. -/
structure EvaluationReport where
  inputs : Inputs
  mode : Mode
  reveal : Reveal
  lines : List String
  evaluation : Evaluation
  deriving DecidableEq, Repr

/-- The fields of the JSON report of one evaluation. -/
structure EvaluationFields where
  inputs : Inputs
  mode : Mode
  reveal : Reveal
  lines : List String
  revealed : List StageResult
  terminatedAt : Option Stage
  result : List Bool
  deriving DecidableEq, Repr

def EvaluationReport.fields (report : EvaluationReport) : EvaluationFields where
  inputs := report.inputs
  mode := report.mode
  reveal := report.reveal
  lines := report.lines
  revealed := report.evaluation.revealed
  terminatedAt := report.evaluation.terminatedAt
  result := report.evaluation.values

namespace Document

def bools (values : List Bool) : Json :=
  .array (values.map .bool)

def stage? : Option Stage → Json
  | some stage => .string stage.id
  | none => .null

def inputs (inputs : Inputs) : Json :=
  .object [("a", .bool inputs.a), ("b", .bool inputs.b), ("c", .bool inputs.c),
    ("d", .bool inputs.d)]

def reveal (reveal : Reveal) : Json :=
  .object (Stage.all.map fun stage => (stage.key, .bool (reveal.isOpen stage)))

def stageResult (result : StageResult) : Json :=
  .object [("stage", .string result.stage.id), ("values", bools result.values)]

def evaluationFields (fields : EvaluationFields) : Json :=
  .object
    [("inputs", inputs fields.inputs),
      ("mode", .string fields.mode.name),
      ("reveal", reveal fields.reveal),
      ("lines", .array (fields.lines.map .string)),
      ("revealed", .array (fields.revealed.map stageResult)),
      ("terminated_at", stage? fields.terminatedAt),
      ("result", bools fields.result)]

def evaluation (report : EvaluationReport) : Json :=
  evaluationFields report.fields

/-- One row of a table; the inputs are a bit string here. -/
def tableRow (row : TruthTable.Row) : Json :=
  .object
    [("inputs", .string row.inputs.text),
      ("terminated_at", stage? row.terminatedAt),
      ("result", bools row.result)]

def table (table : TruthTable) : Json :=
  .object
    [("mode", .string table.mode.name),
      ("reveal", reveal table.reveal),
      ("rows", .array (table.rows.map tableRow))]

/-- A document as it is written: its text and a newline. -/
def text (value : Json) : String :=
  value.pretty ++ "\n"

end Document

end RevealGates.Report
