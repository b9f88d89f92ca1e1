import RevealGates.Style
import RevealGates.TruthTable

/-!
The text report: evaluator lines as they come, a summary line, and truth tables in columns.

Everything is laid out as spans first, so that the characters are the same whether or not they are
coloured.
-/

set_option autoImplicit false

namespace RevealGates.Report.Text

def lineEnd : Span := .plain "\n"

def value (value : Bool) : Span :=
  .styled (if value then .green else .red) (valueText value)

/-- The style of an emitted line, told from its text alone. -/
def lineStyle (line : String) : Option Style :=
  if line = valueText true then some .green
  else if line = valueText false then some .red
  else if line = Evaluation.intro then some .dimmed
  else if Stage.all.any fun stage => stage.header == line then some .bold
  else none

def line (line : String) : List Span :=
  [⟨lineStyle line, line⟩, lineEnd]

def values : List Bool → List Span
  | [] => []
  | [last] => [value last]
  | first :: rest => value first :: .plain ", " :: values rest

/-- The summary of an evaluation: where it ended and what it returned. -/
def summary (evaluation : Evaluation) : List Span :=
  let stage := (evaluation.terminatedAt.map Stage.id).getD "none"
  [.plain "result: ", .styled .cyan stage, .plain " ["] ++ values evaluation.values ++
    [.plain "]\n"]

/-- The width of the stage column: every stage name fits. -/
def stageWidth : Nat :=
  (Stage.all.map fun stage => stage.id.length).foldl max 0

def padRight (width : Nat) (text : String) : String :=
  text ++ String.ofList (List.replicate (width - text.length) ' ')

def tableHeader : List Span :=
  [.styled .bold ("ABCD  " ++ padRight stageWidth "stage" ++ "  result"), lineEnd]

def tableRow (row : TruthTable.Row) : List Span :=
  let stage := (row.terminatedAt.map Stage.id).getD "-"
  [.plain (row.inputs.text ++ "  "), .styled .cyan (padRight stageWidth stage),
    .plain ("  " ++ Bits.format row.result ++ "\n")]

def table (table : TruthTable) : List Span :=
  tableHeader ++ table.rows.flatMap tableRow

end RevealGates.Report.Text
