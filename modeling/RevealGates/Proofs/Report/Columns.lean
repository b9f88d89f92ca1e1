import RevealGates.Proofs.Report.Looks
import RevealGates.Proofs.Text.Quoted

/-!
Plain reports without ambiguity.

A summary names the stage up to a blank and shows each value by a word of its own, so both are read
off its line. A table is a header and one line for each row. Inputs and stages stand in columns of a
fixed width, and the bits fill the rest of the line, so a row is read off its line and the rows are
read off the lines.
-/

set_option autoImplicit false

namespace RevealGates

open Report (Text.summary Text.table Text.tableRow Text.values Text.value Text.padRight
  Text.stageWidth)

/-! ## Notations that can be read back -/

/-- The name of the stage where something ended, or of no stage at all. -/
def endingName (otherwise : String) (stage : Option Stage) : String :=
  (stage.map Stage.id).getD otherwise

theorem blank_not_mem_endingName {otherwise : String} (solid : ' ' ∉ otherwise.toList)
    (stage : Option Stage) : ' ' ∉ (endingName otherwise stage).toList := by
  have names (stage : Stage) : ' ' ∉ stage.id.toList := by cases stage <;> decide
  cases stage with
  | none => exact solid
  | some stage => exact names stage

theorem endingName_injective {otherwise : String} (apart : Stage.ofId? otherwise = none) :
    Function.Injective (endingName otherwise) := by
  have read : ∀ stage, Stage.ofId? (endingName otherwise stage) = stage := by
    intro stage
    cases stage with
    | none => exact apart
    | some stage => cases stage <;> rfl
  exact Function.LeftInverse.injective read

/-! ## Summaries -/

/-- The truth value whose word begins with the character. -/
def initial? : Char → Option Bool
  | 't' => some true
  | 'f' => some false
  | _ => none

theorem initials_valueText (value : Bool) :
    (valueText value).toList.filterMap initial? = [value] := by
  cases value <;> rfl

theorem initials_values (values : List Bool) :
    (String.join ((Text.values values).map Span.text)).toList.filterMap initial? = values := by
  fun_induction Text.values values with
  | case1 => rfl
  | case2 last => simp [Text.value, Span.styled, initials_valueText]
  | case3 first rest _ ih =>
      simp only [List.map_cons, String.join_cons, String.toList_append, List.filterMap_append, ih]
      simp [Text.value, Span.styled, Span.plain, initials_valueText, initial?]

theorem initials_brackets (inner : List Char) :
    ('[' :: inner ++ [']', '\n']).filterMap initial? = inner.filterMap initial? := by
  simp [initial?]

theorem toList_summary (evaluation : Evaluation) :
    (String.join (Painter.plain.paintAll (Text.summary evaluation))).toList =
      "result: ".toList ++ ((endingName "none" evaluation.terminatedAt).toList ++
        ' ' :: ('[' :: (String.join ((Text.values evaluation.values).map Span.text)).toList ++
          [']', '\n'])) := by
  rw [Painter.join_paintAll_plain]
  simp [Text.summary, Span.plain, Span.styled, endingName]

theorem summary_eq_iff {left right : Evaluation} :
    String.join (Painter.plain.paintAll (Text.summary left)) =
        String.join (Painter.plain.paintAll (Text.summary right)) ↔
      left.terminatedAt = right.terminatedAt ∧ left.values = right.values := by
  constructor
  · intro same
    have solid (stage : Option Stage) : ' ' ∉ (endingName "none" stage).toList :=
      blank_not_mem_endingName (by decide) stage
    have chars := congrArg String.toList same
    rw [toList_summary, toList_summary, List.append_cancel_left_eq] at chars
    obtain ⟨endings, bracketed⟩ := Text.eq_of_append_mark (solid _) (solid _) chars
    refine ⟨endingName_injective rfl (String.toList_inj.mp endings), ?_⟩
    have initials := congrArg (List.filterMap initial?) bracketed
    rwa [initials_brackets, initials_brackets, initials_values, initials_values] at initials
  · rintro ⟨ending, values⟩
    simp only [Text.summary, ending, values]

/-! ## Lines -/

/-- The lines, each with a newline behind it. -/
def ended (lines : List String) : String := String.join (lines.map (· ++ "\n"))

theorem toList_ended_cons (line : String) (rest : List String) :
    (ended (line :: rest)).toList = line.toList ++ '\n' :: (ended rest).toList := by
  simp [ended]

theorem eq_of_ended_eq {left right : List String} (leftSingle : ∀ line ∈ left, '\n' ∉ line.toList)
    (rightSingle : ∀ line ∈ right, '\n' ∉ line.toList) (same : ended left = ended right) :
    left = right := by
  induction left generalizing right with
  | nil =>
      cases right with
      | nil => rfl
      | cons line rest =>
          have chars := congrArg String.toList same
          rw [toList_ended_cons] at chars
          cases (List.append_eq_nil_iff.mp chars.symm).2
  | cons line rest ih =>
      cases right with
      | nil =>
          have chars := congrArg String.toList same
          rw [toList_ended_cons] at chars
          cases (List.append_eq_nil_iff.mp chars).2
      | cons other later =>
          obtain ⟨lineSingle, restSingle⟩ := List.forall_mem_cons.mp leftSingle
          obtain ⟨otherSingle, laterSingle⟩ := List.forall_mem_cons.mp rightSingle
          have chars := congrArg String.toList same
          rw [toList_ended_cons, toList_ended_cons] at chars
          obtain ⟨first, others⟩ := Text.eq_of_append_mark lineSingle otherSingle chars
          rw [String.toList_inj.mp first,
            ih restSingle laterSingle (String.toList_inj.mp others)]

/-! ## Columns -/

/-- A line of a table: the inputs in the first four columns, the stage from column 6 with blanks up
to column 21, and the result from column 24 to the end. -/
structure Columns (inputs stage result line : String) : Prop where
  inputs : line.toList.take 4 = inputs.toList
  inputsGap : (line.toList.drop 4).take 2 = [' ', ' ']
  stage : ∃ blanks, (line.toList.drop 6).take 16 = stage.toList ++ List.replicate blanks ' '
  stageWidth : ((line.toList.drop 6).take 16).length = 16
  stageGap : (line.toList.drop 22).take 2 = [' ', ' ']
  result : line.toList.drop 24 = result.toList

/-- The line of a row: three texts with two blanks between them. -/
def columnLine (inputs stage result : String) : String :=
  inputs ++ "  " ++ Text.padRight Text.stageWidth stage ++ "  " ++ result

theorem toList_padRight (width : Nat) (text : String) :
    (Text.padRight width text).toList =
      text.toList ++ List.replicate (width - text.toList.length) ' ' := by
  rw [Text.padRight, String.toList_append, String.toList_ofList, String.length_toList]

theorem drop_of_drop {start stop : Nat} {chars front rest : List Char}
    (there : chars.drop start = front ++ rest) (sum : start + front.length = stop) :
    chars.drop stop = rest := by
  rw [← sum, ← List.drop_drop, there, List.drop_left]

theorem columns_columnLine {inputs stage : String} (four : inputs.toList.length = 4)
    (fits : stage.toList.length ≤ 16) (result : String) :
    Columns inputs stage result (columnLine inputs stage result) := by
  have padded := toList_padRight Text.stageWidth stage
  have sixteen : (Text.padRight Text.stageWidth stage).toList.length = 16 := by
    have width : Text.stageWidth = 16 := rfl
    rw [padded, List.length_append, List.length_replicate, width]
    omega
  have all : (columnLine inputs stage result).toList = inputs.toList ++ ([' ', ' '] ++
      ((Text.padRight Text.stageWidth stage).toList ++ ([' ', ' '] ++ result.toList))) := by
    simp [columnLine]
  have from4 : (columnLine inputs stage result).toList.drop 4 = [' ', ' '] ++
      ((Text.padRight Text.stageWidth stage).toList ++ ([' ', ' '] ++ result.toList)) := by
    rw [all, List.drop_left' four]
  have from6 : (columnLine inputs stage result).toList.drop 6 =
      (Text.padRight Text.stageWidth stage).toList ++ ([' ', ' '] ++ result.toList) :=
    drop_of_drop from4 rfl
  have from22 : (columnLine inputs stage result).toList.drop 22 = [' ', ' '] ++ result.toList :=
    drop_of_drop from6 (by rw [sixteen])
  have column : ((columnLine inputs stage result).toList.drop 6).take 16 =
      (Text.padRight Text.stageWidth stage).toList := by
    rw [from6, List.take_left' sixteen]
  exact {
    inputs := by rw [all, List.take_left' four]
    inputsGap := by rw [from4]; rfl
    stage := ⟨_, column.trans padded⟩
    stageWidth := by rw [column, sixteen]
    stageGap := by rw [from22]; rfl
    result := drop_of_drop from22 rfl }

/-- What a line shows in its columns is read off it, as long as no stage has blanks in its name. -/
theorem Columns.eq_of_line {inputs stage result otherInputs otherStage otherResult line : String}
    (columns : Columns inputs stage result line)
    (other : Columns otherInputs otherStage otherResult line) (solid : ' ' ∉ stage.toList)
    (otherSolid : ' ' ∉ otherStage.toList) :
    inputs = otherInputs ∧ stage = otherStage ∧ result = otherResult := by
  refine ⟨String.toList_inj.mp (columns.inputs.symm.trans other.inputs), ?_,
    String.toList_inj.mp (columns.result.symm.trans other.result)⟩
  obtain ⟨blanks, column⟩ := columns.stage
  obtain ⟨otherBlanks, otherColumn⟩ := other.stage
  -- With one more blank behind them both names are followed by a blank.
  have same := congrArg (· ++ [' ']) (column.symm.trans otherColumn)
  simp only [List.append_assoc, ← List.replicate_succ', List.replicate_succ] at same
  exact String.toList_inj.mp (Text.eq_of_append_mark solid otherSolid same).1

/-! ## Tables -/

/-- The line of a table that shows a row. -/
def RowColumns (row : TruthTable.Row) (line : String) : Prop :=
  Columns row.inputs.text (endingName "-" row.terminatedAt) (Bits.format row.result) line

theorem RowColumns.eq_of_line {row other : TruthTable.Row} {line : String}
    (columns : RowColumns row line) (otherColumns : RowColumns other line) : row = other := by
  have solid (stage : Option Stage) : ' ' ∉ (endingName "-" stage).toList :=
    blank_not_mem_endingName (by decide) stage
  obtain ⟨inputs, ending, result⟩ := Columns.eq_of_line columns otherColumns (solid _) (solid _)
  cases row
  cases other
  rw [TruthTable.Row.mk.injEq]
  exact ⟨Inputs.text_injective inputs, endingName_injective rfl ending,
    Bits.format_injective result⟩

def rowLine (row : TruthTable.Row) : String :=
  columnLine row.inputs.text (endingName "-" row.terminatedAt) (Bits.format row.result)

def headerLine : String := columnLine "ABCD" "stage" "result"

theorem rowColumns_rowLine (row : TruthTable.Row) : RowColumns row (rowLine row) := by
  have four : row.inputs.text.toList.length = 4 := by
    simp [Inputs.text, Bits.format, Inputs.toList]
  have names (stage : Stage) : stage.id.toList.length ≤ 16 := by cases stage <;> decide
  have fits : (endingName "-" row.terminatedAt).toList.length ≤ 16 := by
    cases row.terminatedAt with
    | none => decide
    | some stage => exact names stage
  exact columns_columnLine four fits _

theorem newline_not_mem_rowLine (row : TruthTable.Row) : '\n' ∉ (rowLine row).toList := by
  have blanks : Calm "  " := by simp [Calm]
  have dash : Calm "-" := by simp [Calm]
  have calm : Calm (rowLine row) :=
    ((((Calm.format _).append blanks).append ((dash.ending _).padRight _)).append blanks).append
      (.format _)
  exact fun found => (calm _ found).2 rfl

theorem newline_not_mem_headerLine : '\n' ∉ headerLine.toList := by
  decide

theorem join_row (row : TruthTable.Row) :
    String.join ((Text.tableRow row).map Span.text) = rowLine row ++ "\n" := by
  simp [Text.tableRow, rowLine, columnLine, endingName, Span.plain, Span.styled,
    String.append_assoc]

theorem join_table (table : TruthTable) :
    String.join (Painter.plain.paintAll (Text.table table)) =
      ended (headerLine :: table.rows.map rowLine) := by
  have header : String.join (Report.Text.tableHeader.map Span.text) = headerLine ++ "\n" := rfl
  have rows (rows : List TruthTable.Row) :
      String.join ((rows.flatMap Text.tableRow).map Span.text) = ended (rows.map rowLine) := by
    induction rows with
    | nil => rfl
    | cons row rest ih =>
        rw [List.flatMap_cons, List.map_append, String.join_append, join_row, ih]
        simp [ended]
  rw [Painter.join_paintAll_plain, Text.table, List.map_append, String.join_append, header, rows]
  simp [ended]

theorem newline_not_mem_tableLines (table : TruthTable) :
    ∀ line ∈ headerLine :: table.rows.map rowLine, '\n' ∉ line.toList := by
  refine List.forall_mem_cons.mpr ⟨newline_not_mem_headerLine, fun line included => ?_⟩
  obtain ⟨row, -, rfl⟩ := List.mem_map.mp included
  exact newline_not_mem_rowLine row

theorem rowLine_injective : Function.Injective rowLine := by
  intro left right same
  exact (rowColumns_rowLine left).eq_of_line (same ▸ rowColumns_rowLine right)

theorem table_eq_iff {left right : TruthTable} :
    String.join (Painter.plain.paintAll (Text.table left)) =
        String.join (Painter.plain.paintAll (Text.table right)) ↔ left.rows = right.rows := by
  rw [join_table, join_table]
  constructor
  · intro same
    have lines := eq_of_ended_eq (newline_not_mem_tableLines left)
      (newline_not_mem_tableLines right) same
    exact rowLine_injective.list_map (List.cons.inj lines).2
  · intro same
    rw [same]

namespace Closing

/-- What is written for a report without colour. -/
def plainText (closing : Closing) : String := (Surface.text .plain).written [] [closing]

theorem plainText_eq (closing : Closing) :
    closing.plainText = String.join (Painter.plain.paintAll closing.spans) := by
  rw [plainText, Surface.written_text, Surface.spans, List.flatMap_nil, List.nil_append,
    List.flatMap_singleton]

/-- Without colour the report of an evaluation tells exactly the stage where it ended and its
values, and that of a table tells exactly its rows. A table is a header and a line for each row, in
the same columns: inputs, stage or a dash, and bits up to the end of the line. -/
theorem plain_reports_tell_their_content :
    (∀ (request otherRequest : Request) (emitted otherEmitted : List String)
        (left right : Evaluation),
      (Closing.result request emitted left).plainText =
          (Closing.result otherRequest otherEmitted right).plainText ↔
        left.terminatedAt = right.terminatedAt ∧ left.values = right.values) ∧
    (∀ left right : TruthTable,
      (Closing.table left).plainText = (Closing.table right).plainText ↔ left.rows = right.rows) ∧
    ∀ table : TruthTable, ∃ header lines,
      (Closing.table table).plainText = ended (header :: lines) ∧
      (∀ line ∈ header :: lines, '\n' ∉ line.toList) ∧
      Columns "ABCD" "stage" "result" header ∧ List.Forall₂ RowColumns table.rows lines := by
  refine ⟨fun _ _ _ _ left right => ?_, fun left right => ?_, fun table => ?_⟩
  · rw [plainText_eq, plainText_eq]
    exact summary_eq_iff
  · rw [plainText_eq, plainText_eq]
    exact table_eq_iff
  · refine ⟨headerLine, table.rows.map rowLine, (plainText_eq _).trans (join_table table),
      newline_not_mem_tableLines table, columns_columnLine (by decide) (by decide) _, ?_⟩
    rw [List.forall₂_map_right_iff, List.forall₂_same]
    exact fun row _ => rowColumns_rowLine row

end Closing

end RevealGates
