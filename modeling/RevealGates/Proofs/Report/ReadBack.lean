import RevealGates.Proofs.Json.Reader
import RevealGates.Proofs.Program.TextAndJson

/-!
JSON reports without loss.

Each part of a report is recovered from its JSON value by the names of its members. The text of a
report is one JSON value and a newline, so everything that a report was made of can be read off its
text, and different reports have different texts.
-/

set_option autoImplicit false

namespace RevealGates

open Report

/-! ## The parts of a report -/

/-- What is read under a name. -/
def Json.under {Part : Type} (name : String) (read : Json → Option Part) (value : Json) :
    Option Part :=
  value.field? name >>= read

theorem Json.elements?_bools (values : List Bool) :
    Json.elements? Json.bool? (Document.bools values) = some values := by
  have single (value : Bool) : (Json.bool value).bool? = some value := rfl
  exact Json.elements?_array single values

namespace Inputs

/-- Inputs from an object with a truth value for each. -/
def ofJson? (value : Json) : Option Inputs := do
  let a ← value.under "a" Json.bool?
  let b ← value.under "b" Json.bool?
  let c ← value.under "c" Json.bool?
  let d ← value.under "d" Json.bool?
  some ⟨a, b, c, d⟩

/-- Inputs from a bit string. -/
def ofBits? (value : Json) : Option Inputs :=
  value.string? >>= fun text => (parse text).toOption

theorem ofJson?_inputs (inputs : Inputs) : ofJson? (Document.inputs inputs) = some inputs := rfl

theorem ofBits?_text (inputs : Inputs) : ofBits? (.string inputs.text) = some inputs := by
  obtain ⟨a, b, c, d⟩ := inputs
  cases a <;> cases b <;> cases c <;> cases d <;> rfl

end Inputs

namespace Stage

def ofJson? (value : Json) : Option Stage :=
  value.string? >>= ofId?

/-- A stage, or none where there is nothing. -/
def orNull? : Json → Option (Option Stage)
  | .null => some none
  | value => (ofJson? value).map some

theorem orNull?_stage? (stage : Option Stage) : orNull? (Document.stage? stage) = some stage := by
  cases stage with
  | none => rfl
  | some stage => cases stage <;> rfl

end Stage

def StageResult.ofJson? (value : Json) : Option StageResult := do
  let stage ← value.under "stage" Stage.ofJson?
  let values ← value.under "values" (Json.elements? Json.bool?)
  some ⟨stage, values⟩

theorem StageResult.ofJson?_stageResult (result : StageResult) :
    ofJson? (Document.stageResult result) = some result := by
  obtain ⟨stage, values⟩ := result
  have named : (Document.stageResult ⟨stage, values⟩).under "stage" Stage.ofJson? =
      some stage := by
    cases stage <;> rfl
  have all : (Document.stageResult ⟨stage, values⟩).under "values" (Json.elements? Json.bool?) =
      some values := Json.elements?_bools values
  rw [ofJson?, named, all]
  rfl

theorem Reveal.ofJson?_reveal (reveal : Reveal) :
    ofJson? (Document.reveal reveal) = some reveal := rfl

theorem Mode.ofJson?_name (mode : Mode) : ofJson? (.string mode.name) = some mode := by
  cases mode <;> rfl

/-! ## Whole reports -/

namespace Report.EvaluationFields

def ofJson? (value : Json) : Option EvaluationFields := do
  let inputs ← value.under "inputs" Inputs.ofJson?
  let mode ← value.under "mode" Mode.ofJson?
  let reveal ← value.under "reveal" Reveal.ofJson?
  let lines ← value.under "lines" (Json.elements? Json.string?)
  let revealed ← value.under "revealed" (Json.elements? StageResult.ofJson?)
  let terminatedAt ← value.under "terminated_at" Stage.orNull?
  let result ← value.under "result" (Json.elements? Json.bool?)
  some ⟨inputs, mode, reveal, lines, revealed, terminatedAt, result⟩

theorem ofJson?_evaluationFields (fields : EvaluationFields) :
    ofJson? (Document.evaluationFields fields) = some fields := by
  have line (text : String) : (Json.string text).string? = some text := rfl
  have inputs : (Document.evaluationFields fields).under "inputs" Inputs.ofJson? =
      some fields.inputs := Inputs.ofJson?_inputs fields.inputs
  have mode : (Document.evaluationFields fields).under "mode" Mode.ofJson? = some fields.mode :=
    Mode.ofJson?_name fields.mode
  have reveal : (Document.evaluationFields fields).under "reveal" Reveal.ofJson? =
      some fields.reveal := Reveal.ofJson?_reveal fields.reveal
  have lines : (Document.evaluationFields fields).under "lines" (Json.elements? Json.string?) =
      some fields.lines := Json.elements?_array line fields.lines
  have revealed : (Document.evaluationFields fields).under "revealed"
      (Json.elements? StageResult.ofJson?) = some fields.revealed :=
    Json.elements?_array StageResult.ofJson?_stageResult fields.revealed
  have terminatedAt : (Document.evaluationFields fields).under "terminated_at" Stage.orNull? =
      some fields.terminatedAt := Stage.orNull?_stage? fields.terminatedAt
  have result : (Document.evaluationFields fields).under "result" (Json.elements? Json.bool?) =
      some fields.result := Json.elements?_bools fields.result
  rw [ofJson?, inputs, mode, reveal, lines, revealed, terminatedAt, result]
  rfl

end Report.EvaluationFields

namespace TruthTable

def Row.ofJson? (value : Json) : Option Row := do
  let inputs ← value.under "inputs" Inputs.ofBits?
  let terminatedAt ← value.under "terminated_at" Stage.orNull?
  let result ← value.under "result" (Json.elements? Json.bool?)
  some ⟨inputs, terminatedAt, result⟩

theorem Row.ofJson?_tableRow (row : Row) : ofJson? (Document.tableRow row) = some row := by
  have inputs : (Document.tableRow row).under "inputs" Inputs.ofBits? = some row.inputs :=
    Inputs.ofBits?_text row.inputs
  have terminatedAt : (Document.tableRow row).under "terminated_at" Stage.orNull? =
      some row.terminatedAt := Stage.orNull?_stage? row.terminatedAt
  have result : (Document.tableRow row).under "result" (Json.elements? Json.bool?) =
      some row.result := Json.elements?_bools row.result
  rw [ofJson?, inputs, terminatedAt, result]
  rfl

def ofJson? (value : Json) : Option TruthTable := do
  let mode ← value.under "mode" Mode.ofJson?
  let reveal ← value.under "reveal" Reveal.ofJson?
  let rows ← value.under "rows" (Json.elements? Row.ofJson?)
  some ⟨mode, reveal, rows⟩

theorem ofJson?_table (table : TruthTable) : ofJson? (Document.table table) = some table := by
  have mode : (Document.table table).under "mode" Mode.ofJson? = some table.mode :=
    Mode.ofJson?_name table.mode
  have reveal : (Document.table table).under "reveal" Reveal.ofJson? = some table.reveal :=
    Reveal.ofJson?_reveal table.reveal
  have rows : (Document.table table).under "rows" (Json.elements? Row.ofJson?) =
      some table.rows := Json.elements?_array Row.ofJson?_tableRow table.rows
  rw [ofJson?, mode, reveal, rows]
  rfl

end TruthTable

/-! ## Texts -/

namespace Report.Document

open Json.Reader (Nested)

section Nested

variable {bound : Nat}

theorem nested_bools (values : List Bool) : Nested (bound + 1) (bools values) := by
  apply Nested.array
  intro element listed
  obtain ⟨value, _, rfl⟩ := List.mem_map.mp listed
  exact .bool

theorem nested_stage? (stage : Option Stage) : Nested bound (stage? stage) := by
  cases stage with
  | none => exact .null
  | some stage => exact .string

theorem nested_reveal (gates : Reveal) : Nested (bound + 1) (reveal gates) := by
  apply Nested.object
  intro member listed
  obtain ⟨stage, _, rfl⟩ := List.mem_map.mp listed
  exact .bool

theorem nested_inputs (given : Inputs) : Nested (bound + 1) (inputs given) := by
  apply Nested.object
  simp [Nested.bool]

theorem nested_stageResult (result : StageResult) : Nested (bound + 2) (stageResult result) := by
  apply Nested.object
  simp [Nested.string, nested_bools]

theorem nested_tableRow (row : TruthTable.Row) : Nested (bound + 2) (tableRow row) := by
  apply Nested.object
  simp [Nested.string, nested_stage?, nested_bools]

theorem nested_evaluationFields (fields : EvaluationFields) :
    Nested (bound + 4) (evaluationFields fields) := by
  have lines : Nested (bound + 3) (.array (fields.lines.map .string)) := by
    apply Nested.array
    intro element listed
    obtain ⟨line, _, rfl⟩ := List.mem_map.mp listed
    exact .string
  have revealed : Nested (bound + 3) (.array (fields.revealed.map stageResult)) := by
    apply Nested.array
    intro element listed
    obtain ⟨result, _, rfl⟩ := List.mem_map.mp listed
    exact nested_stageResult result
  apply Nested.object
  simp [nested_inputs, Nested.string, nested_reveal, lines, revealed, nested_stage?, nested_bools]

theorem nested_table (whole : TruthTable) : Nested (bound + 4) (table whole) := by
  have rows : Nested (bound + 3) (.array (whole.rows.map tableRow)) := by
    apply Nested.array
    intro element listed
    obtain ⟨row, _, rfl⟩ := List.mem_map.mp listed
    exact nested_tableRow row
  apply Nested.object
  simp [Nested.string, nested_reveal, rows]

end Nested

section Texts

theorem value_text {document : Json} (nested : Nested Json.Reader.nesting document) :
    Json.Reader.value Json.Reader.nesting (text document).toList = some (document, ['\n']) := by
  have stops : Json.Reader.Stops ['\n'] := by
    intro c others same
    cases same
    exact .inr rfl
  have read := Json.Reader.value_prettyAt nested 0 stops
  rwa [text, String.toList_append, Json.pretty]

theorem read_text {document : Json} (nested : Nested Json.Reader.nesting document) :
    Json.Reader.read (text document) = some document := by
  apply Json.Reader.read_pretty nested
  simp [Json.Reader.isSpace]

theorem eq_of_text_eq {document other : Json} (left : Nested Json.Reader.nesting document)
    (right : Nested Json.Reader.nesting other) (same : text document = text other) :
    document = other := by
  have read := read_text left
  rw [same, read_text right] at read
  exact (Option.some.inj read).symm

variable {Content : Type} {write : Content → Json} {ofJson? : Json → Option Content}
  (nested : ∀ content, Nested Json.Reader.nesting (write content))
  (inverse : ∀ content, ofJson? (write content) = some content)

include nested inverse

theorem read_text_bind (content : Content) :
    (Json.Reader.read (text (write content)) >>= ofJson?) = some content := by
  rw [read_text (nested content)]
  exact inverse content

theorem text_eq_iff (left right : Content) :
    text (write left) = text (write right) ↔ left = right := by
  constructor
  · intro same
    have documents := eq_of_text_eq (nested left) (nested right) same
    apply Option.some.inj
    rw [← inverse left, documents, inverse right]
  · rintro rfl
    rfl

end Texts

/-- The text of a JSON report is one JSON value and one newline, and every field of the report is
read back from it. So reports that differ in any field have different texts, and the text of an
evaluation is never that of a table. -/
theorem reports_read_back_from_text :
    (∀ fields : EvaluationFields,
      Json.Reader.value Json.Reader.nesting (text (evaluationFields fields)).toList =
        some (evaluationFields fields, ['\n']) ∧
      (Json.Reader.read (text (evaluationFields fields)) >>= EvaluationFields.ofJson?) =
        some fields) ∧
    (∀ whole : TruthTable,
      Json.Reader.value Json.Reader.nesting (text (table whole)).toList =
        some (table whole, ['\n']) ∧
      (Json.Reader.read (text (table whole)) >>= TruthTable.ofJson?) = some whole) ∧
    (∀ left right : EvaluationFields,
      text (evaluationFields left) = text (evaluationFields right) ↔ left = right) ∧
    (∀ left right : TruthTable, text (table left) = text (table right) ↔ left = right) ∧
    ∀ (fields : EvaluationFields) (whole : TruthTable),
      text (evaluationFields fields) ≠ text (table whole) := by
  have evaluations (fields : EvaluationFields) :
      Nested Json.Reader.nesting (evaluationFields fields) := nested_evaluationFields fields
  have tables (whole : TruthTable) : Nested Json.Reader.nesting (table whole) := nested_table whole
  refine ⟨?_, ?_, ?_, ?_, ?_⟩
  · intro fields
    exact ⟨value_text (evaluations fields),
      read_text_bind evaluations EvaluationFields.ofJson?_evaluationFields fields⟩
  · intro whole
    exact ⟨value_text (tables whole), read_text_bind tables TruthTable.ofJson?_table whole⟩
  · exact text_eq_iff evaluations EvaluationFields.ofJson?_evaluationFields
  · exact text_eq_iff tables TruthTable.ofJson?_table
  · intro fields whole same
    -- Only a table has rows.
    have documents := eq_of_text_eq (evaluations fields) (tables whole) same
    cases congrArg (Json.field? "rows") documents

end Report.Document

end RevealGates
