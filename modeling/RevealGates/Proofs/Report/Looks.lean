import RevealGates.Proofs.Program.TextAndJson

/-!
How a coloured report looks on a terminal.

A terminal takes characters one at a time. Escape sequences are not shown; they change the looks of
what comes after them, until the looks are cleared or changed again. Read in this way, a coloured
report shows the characters of the plain one, each in the looks of its span, and leaves the terminal
as it found it.
-/

set_option autoImplicit false

namespace RevealGates

open Report (Text.line Text.lineStyle Text.lineEnd Text.value Text.values Text.summary
  Text.tableHeader Text.tableRow Text.table Text.stageWidth Text.padRight)

/-! ## Terminals -/

/-- The colours that terminals have numbers for. -/
inductive Ink where
  | black | red | green | yellow | blue | magenta | cyan | white
  deriving DecidableEq, Repr

/-- How a character is shown. -/
structure Looks where
  bold : Bool := false
  dimmed : Bool := false
  ink : Option Ink := none
  deriving DecidableEq, Repr

namespace Looks

/-- What a number in an escape sequence makes of the looks. Zero clears them; a number without a
meaning here changes nothing. -/
def select (looks : Looks) : Nat → Looks
  | 0 => {}
  | 1 => { looks with bold := true }
  | 2 => { looks with dimmed := true }
  | 30 => { looks with ink := some .black }
  | 31 => { looks with ink := some .red }
  | 32 => { looks with ink := some .green }
  | 33 => { looks with ink := some .yellow }
  | 34 => { looks with ink := some .blue }
  | 35 => { looks with ink := some .magenta }
  | 36 => { looks with ink := some .cyan }
  | 37 => { looks with ink := some .white }
  | _ => looks

def ofStyle? : Option Style → Looks
  | none => {}
  | some .bold => { bold := true }
  | some .dimmed => { dimmed := true }
  | some .green => { ink := some .green }
  | some .red => { ink := some .red }
  | some .cyan => { ink := some .cyan }

end Looks

/-- How far a terminal is in an escape sequence. -/
inductive Phase where
  | text
  | escape
  /-- Numbers are being read: those that are complete, and the last one so far. -/
  | numbers (complete : List Nat) (last : Nat)
  deriving DecidableEq, Repr

/-- A terminal that is about to read a character. -/
structure Terminal where
  phase : Phase := .text
  looks : Looks := {}
  deriving DecidableEq, Repr

namespace Terminal

/-- What one character shows, and the terminal after it. -/
def step : Terminal → Char → List (Char × Looks) × Terminal
  | ⟨.text, looks⟩, c =>
      if c = '\x1b' then ([], ⟨.escape, looks⟩) else ([(c, looks)], ⟨.text, looks⟩)
  | ⟨.escape, looks⟩, c => ([], ⟨if c = '[' then .numbers [] 0 else .text, looks⟩)
  | ⟨.numbers complete last, looks⟩, c =>
      if c.isDigit then ([], ⟨.numbers complete (last * 10 + (c.toNat - '0'.toNat)), looks⟩)
      else if c = ';' then ([], ⟨.numbers (complete ++ [last]) 0, looks⟩)
      else if c = 'm' then ([], ⟨.text, (complete ++ [last]).foldl Looks.select looks⟩)
      else ([], ⟨.text, looks⟩)

def read : Terminal → List Char → List (Char × Looks) × Terminal
  | terminal, [] => ([], terminal)
  | terminal, c :: rest =>
      let (shown, next) := terminal.step c
      let (later, final) := next.read rest
      (shown ++ later, final)

theorem read_append (terminal : Terminal) (front back : List Char) :
    terminal.read (front ++ back) =
      ((terminal.read front).1 ++ ((terminal.read front).2.read back).1,
        ((terminal.read front).2.read back).2) := by
  induction front generalizing terminal with
  | nil => rfl
  | cons c rest ih => simp only [List.cons_append, read, ih, List.append_assoc]

theorem read_text {chars : List Char} (free : '\x1b' ∉ chars) (looks : Looks) :
    read ⟨.text, looks⟩ chars = (chars.map fun c => (c, looks), ⟨.text, looks⟩) := by
  induction chars with
  | nil => rfl
  | cons c rest ih =>
      obtain ⟨ordinary, restFree⟩ : c ≠ '\x1b' ∧ '\x1b' ∉ rest := by
        simpa [not_or, eq_comm] using free
      simp only [read, step, if_neg ordinary, ih restFree, List.map_cons, List.singleton_append]

theorem read_reset (looks : Looks) :
    read ⟨.text, looks⟩ Painter.reset.toList = ([], {}) := by
  simp [Painter.reset, Painter.sequence, read, step, Looks.select]

theorem read_sequence (style : Style) :
    read {} (Painter.sequence style.code).toList = ([], ⟨.text, .ofStyle? (some style)⟩) := by
  cases style <;>
    simp [Painter.sequence, Style.code, read, step, Looks.select, Looks.ofStyle?]

end Terminal

/-! ## Spans -/

namespace Span

/-- The characters of a span, each in the looks of its style. -/
def shown (span : Span) : List (Char × Looks) :=
  span.text.toList.map fun c => (c, .ofStyle? span.style)

theorem map_fst_shown (span : Span) : span.shown.map Prod.fst = span.text.toList := by
  rw [shown, List.map_map]
  exact List.map_id _

theorem read_paint {span : Span} (free : '\x1b' ∉ span.text.toList) :
    Terminal.read {} (String.join (Painter.ansi.paint span)).toList = (span.shown, {}) := by
  obtain ⟨style, text⟩ := span
  cases style with
  | none =>
      have plain : String.join (Painter.ansi.paint ⟨none, text⟩) = text := by simp [Painter.paint]
      rw [plain]
      exact Terminal.read_text free {}
  | some style =>
      have pieces : (String.join (Painter.ansi.paint ⟨some style, text⟩)).toList =
          Painter.reset.toList ++ ((Painter.sequence style.code).toList ++
            (text.toList ++ Painter.reset.toList)) := by
        simp [Painter.paint]
      simp only [pieces, Terminal.read_append, Terminal.read_reset, Terminal.read_sequence,
        Terminal.read_text free, List.nil_append, List.append_nil]
      rfl

/-- Each span leaves the terminal as it found it, so the spans are shown independently. -/
theorem read_paintAll {spans : List Span} (free : ∀ span ∈ spans, '\x1b' ∉ span.text.toList) :
    Terminal.read {} (String.join (Painter.ansi.paintAll spans)).toList =
      (spans.flatMap shown, {}) := by
  induction spans with
  | nil => rfl
  | cons span rest ih =>
      obtain ⟨first, others⟩ := List.forall_mem_cons.mp free
      simp only [Painter.paintAll, List.flatMap_cons, String.join_append, String.toList_append,
        Terminal.read_append, read_paint first] at ih ⊢
      rw [ih others]

end Span

/-! ## The spans of reports -/

/-- The text stays on its line, and the terminal shows all of it. -/
def Calm (text : String) : Prop := ∀ c ∈ text.toList, c ≠ '\x1b' ∧ c ≠ '\n'

namespace Calm

theorem free {text : String} (calm : Calm text) : '\x1b' ∉ text.toList :=
  fun member => (calm _ member).1 rfl

theorem append {front back : String} (first : Calm front) (second : Calm back) :
    Calm (front ++ back) := by
  intro c member
  rw [String.toList_append, List.mem_append] at member
  exact member.elim (first c) (second c)

theorem padRight {text : String} (calm : Calm text) (width : Nat) :
    Calm (Text.padRight width text) := by
  apply calm.append
  intro c member
  rw [String.toList_ofList, List.mem_replicate] at member
  obtain ⟨-, rfl⟩ := member
  decide

theorem format (bits : List Bool) : Calm (Bits.format bits) := by
  intro c member
  rw [Bits.format, String.toList_ofList] at member
  obtain ⟨bit, -, rfl⟩ := List.mem_map.mp member
  cases bit <;> decide

theorem ending {otherwise : String} (calm : Calm otherwise) (stage : Option Stage) :
    Calm ((stage.map Stage.id).getD otherwise) := by
  cases stage with
  | none => exact calm
  | some stage =>
      rw [Option.map_some, Option.getD_some]
      cases stage <;> simp [Calm, Stage.id]

end Calm

namespace Span

/-- No text disturbs the terminal, and nothing but plain text goes on to another line. -/
structure Tidy (span : Span) : Prop where
  free : '\x1b' ∉ span.text.toList
  closed : '\n' ∈ span.text.toList → span.style = none

theorem Tidy.of_calm {style : Option Style} {text : String} (calm : Calm text) :
    Tidy ⟨style, text⟩ where
  free := calm.free
  closed member := absurd rfl (calm _ member).2

theorem Tidy.of_free {text : String} (free : '\x1b' ∉ text.toList) : Tidy (.plain text) :=
  ⟨free, fun _ => rfl⟩

theorem Tidy.looks_of_newline {span : Span} (tidy : span.Tidy) {looks : Looks}
    (member : ('\n', looks) ∈ span.shown) : looks = {} := by
  obtain ⟨c, inside, same⟩ := List.mem_map.mp member
  obtain ⟨rfl, rfl⟩ := Prod.mk.inj same
  rw [tidy.closed inside]
  rfl

theorem tidy_lineEnd : Text.lineEnd.Tidy := .of_free (by decide)

theorem tidy_value (value : Bool) : (Text.value value).Tidy := by
  apply Tidy.of_calm
  cases value <;> simp [Calm, valueText]

theorem tidy_values (values : List Bool) : ∀ span ∈ Text.values values, span.Tidy := by
  fun_induction Text.values values with
  | case1 =>
      intro span listed
      cases listed
  | case2 last => exact List.forall_mem_singleton.mpr (tidy_value last)
  | case3 first rest _ ih =>
      have comma : (plain ", ").Tidy := .of_free (by decide)
      exact List.forall_mem_cons.mpr ⟨tidy_value first, List.forall_mem_cons.mpr ⟨comma, ih⟩⟩

theorem tidy_summary (evaluation : Evaluation) :
    ∀ span ∈ Text.summary evaluation, span.Tidy := by
  have calm : Calm "none" := by simp [Calm]
  have front : (plain "result: ").Tidy := .of_free (by decide)
  have stage : (styled .cyan ((evaluation.terminatedAt.map Stage.id).getD "none")).Tidy :=
    .of_calm (calm.ending _)
  have opened : (plain " [").Tidy := .of_free (by decide)
  have closed : (plain "]\n").Tidy := .of_free (by decide)
  simpa [Text.summary, or_imp, forall_and] using
    ⟨front, stage, opened, tidy_values evaluation.values, closed⟩

theorem tidy_tableHeader : ∀ span ∈ Text.tableHeader, span.Tidy := by
  have stage : Calm "stage" := by simp [Calm]
  have calm : Calm ("ABCD  " ++ Text.padRight Text.stageWidth "stage" ++ "  result") :=
    .append (.append (by simp [Calm]) (stage.padRight _)) (by simp [Calm])
  simpa [Text.tableHeader] using ⟨Tidy.of_calm calm, tidy_lineEnd⟩

theorem tidy_tableRow (row : TruthTable.Row) : ∀ span ∈ Text.tableRow row, span.Tidy := by
  have blanks : Calm "  " := by simp [Calm]
  have dash : Calm "-" := by simp [Calm]
  have inputs : (plain (row.inputs.text ++ "  ")).Tidy :=
    .of_calm ((Calm.format _).append blanks)
  have stage := (dash.ending row.terminatedAt).padRight Text.stageWidth
  have result : (plain ("  " ++ Bits.format row.result ++ "\n")).Tidy := by
    apply Tidy.of_free
    rw [String.toList_append, List.mem_append, not_or]
    exact ⟨(blanks.append (.format row.result)).free, by decide⟩
  simpa [Text.tableRow] using ⟨inputs, Tidy.of_calm stage, result⟩

end Span

/-! ## Lines -/

/-- Which lines carry which style. -/
inductive Styled : String → Option Style → Prop where
  | positive : Styled "true" (some .green)
  | negative : Styled "false" (some .red)
  | intro : Styled Evaluation.intro (some .dimmed)
  | header (stage : Stage) : Styled stage.header (some .bold)
  | other {line} : line ≠ "true" → line ≠ "false" → line ≠ Evaluation.intro →
      (∀ stage : Stage, line ≠ stage.header) → Styled line none

theorem header_mem_iff {line : String} :
    (Stage.all.any fun stage => stage.header == line) = true ↔
      ∃ stage : Stage, line = stage.header := by
  rw [List.any_eq_true]
  constructor
  · rintro ⟨stage, -, same⟩
    exact ⟨stage, (beq_iff_eq.mp same).symm⟩
  · rintro ⟨stage, rfl⟩
    exact ⟨stage, by cases stage <;> decide, beq_self_eq_true _⟩

theorem styled_iff {line : String} {style : Option Style} :
    Styled line style ↔ Text.lineStyle line = style := by
  constructor
  · intro styled
    cases styled with
    | positive | negative | intro => rfl
    | header stage => cases stage <;> rfl
    | other notTrue notFalse notIntro noHeader =>
        have unlisted := mt header_mem_iff.mp (not_exists.mpr noHeader)
        rw [Text.lineStyle, valueText, valueText, if_pos rfl, if_neg notTrue]
        rw [if_neg Bool.false_ne_true, if_neg notFalse, if_neg notIntro, if_neg unlisted]
  · rintro rfl
    unfold Text.lineStyle
    split
    · next same => exact same ▸ .positive
    split
    · next same => exact same ▸ .negative
    split
    · next same => exact same ▸ .intro
    split
    · next found =>
      obtain ⟨stage, rfl⟩ := header_mem_iff.mp found
      exact .header stage
    · next notTrue notFalse notIntro unlisted =>
      exact .other notTrue notFalse notIntro (not_exists.mp (mt header_mem_iff.mpr unlisted))

theorem Styled.calm {line : String} {style : Option Style} (styled : Styled line style) :
    style = none ∨ Calm line := by
  cases styled with
  | positive | negative => exact .inr (by simp [Calm])
  | intro => exact .inr (by simp [Calm, Evaluation.intro, Evaluation.introFragments])
  | header stage => exact .inr (by cases stage <;> simp [Calm, Stage.header])
  | other => exact .inl rfl

theorem Looks.ofStyle?_injective : Function.Injective Looks.ofStyle? := by
  intro left right same
  rcases left with - | left
  · rcases right with - | right
    · rfl
    · cases right <;> cases same
  · rcases right with - | right
    · cases left <;> cases same
    · cases left <;> cases right <;> simp_all [Looks.ofStyle?]

theorem tidy_line {line : String} (free : '\x1b' ∉ line.toList) :
    ∀ span ∈ Text.line line, span.Tidy := by
  have text : Span.Tidy ⟨Text.lineStyle line, line⟩ := by
    rcases (styled_iff.mpr rfl : Styled line (Text.lineStyle line)).calm with unstyled | calm
    · exact ⟨free, fun _ => unstyled⟩
    · exact .of_calm calm
  simpa [Text.line] using ⟨text, Span.tidy_lineEnd⟩

/-! ## Sessions -/

/-- A report that follows the lines of a session. -/
inductive Closing where
  | result (request : Request) (emitted : List String) (evaluation : Evaluation)
  | table (table : TruthTable)

namespace Closing

def pieces (surface : Surface) : Closing → List String
  | .result request emitted evaluation => surface.result request emitted evaluation
  | .table rows => surface.table rows

def spans : Closing → List Span
  | .result _ _ evaluation => Text.summary evaluation
  | .table rows => Text.table rows

theorem pieces_text (painter : Painter) (closing : Closing) :
    closing.pieces (.text painter) = painter.paintAll closing.spans := by
  cases closing <;> rfl

theorem tidy_spans (closing : Closing) : ∀ span ∈ closing.spans, span.Tidy := by
  cases closing with
  | result _ _ evaluation => exact Span.tidy_summary evaluation
  | table table =>
      intro span member
      rcases List.mem_append.mp member with header | rows
      · exact Span.tidy_tableHeader span header
      · obtain ⟨row, -, inside⟩ := List.mem_flatMap.mp rows
        exact Span.tidy_tableRow row span inside

end Closing

namespace Surface

/-- The text that a surface makes of lines, emitted one at a time, and of reports after them. -/
def written (surface : Surface) (lines : List String) (closings : List Closing) : String :=
  let emitted := ((Output.buffer.toSink surface.line).feed "" lines).2
  (Output.buffer.writeAll emitted (closings.flatMap (Closing.pieces surface))).2

theorem written_eq (surface : Surface) (lines : List String) (closings : List Closing) :
    surface.written lines closings =
      String.join (lines.flatMap surface.line ++ closings.flatMap (Closing.pieces surface)) := by
  simp only [written, Output.feed_toSink, Output.writeAll_buffer, String.empty_append,
    String.join_append]

def spans (lines : List String) (closings : List Closing) : List Span :=
  lines.flatMap Text.line ++ closings.flatMap Closing.spans

theorem written_text (painter : Painter) (lines : List String) (closings : List Closing) :
    (Surface.text painter).written lines closings =
      String.join (painter.paintAll (spans lines closings)) := by
  rw [written_eq, spans, Painter.paintAll, List.flatMap_append, List.flatMap_assoc,
    List.flatMap_assoc]
  congr 2
  exact congrArg (closings.flatMap ·) (funext (Closing.pieces_text painter))

theorem tidy_spans {lines : List String} (free : ∀ line ∈ lines, '\x1b' ∉ line.toList)
    (closings : List Closing) : ∀ span ∈ spans lines closings, span.Tidy := by
  intro span member
  rcases List.mem_append.mp member with front | back
  · obtain ⟨line, listed, inside⟩ := List.mem_flatMap.mp front
    exact tidy_line (free line listed) span inside
  · obtain ⟨closing, -, inside⟩ := List.mem_flatMap.mp back
    exact closing.tidy_spans span inside

theorem read_written {lines : List String} (free : ∀ line ∈ lines, '\x1b' ∉ line.toList)
    (closings : List Closing) :
    Terminal.read {} ((Surface.text .ansi).written lines closings).toList =
      ((spans lines closings).flatMap Span.shown, {}) := by
  rw [written_text]
  exact Span.read_paintAll fun span member => (tidy_spans free closings span member).free

theorem map_fst_shown (spans : List Span) :
    (spans.flatMap Span.shown).map Prod.fst = (String.join (spans.map Span.text)).toList := by
  induction spans with
  | nil => rfl
  | cons span rest ih =>
      rw [List.flatMap_cons, List.map_append, Span.map_fst_shown, ih, List.map_cons,
        String.join_cons, String.toList_append]

theorem join_bare_lines (lines : List String) :
    String.join (lines.flatMap Surface.lines.line) = String.join (lines.map (· ++ "\n")) := by
  induction lines with
  | nil => rfl
  | cons line rest ih =>
      simp only [List.flatMap_cons, String.join_append, ih, List.map_cons, String.join_cons]
      simp [Surface.line]

theorem shown_lines (lines : List String) :
    (lines.flatMap Text.line).flatMap Span.shown =
      lines.flatMap fun line =>
        line.toList.map (fun c => (c, Looks.ofStyle? (Text.lineStyle line))) ++
          [('\n', ({} : Looks))] := by
  rw [List.flatMap_assoc]
  rfl

/-- Lines without escape characters, emitted one at a time, and reports after them. The coloured
text shows the characters of the plain text. For lines alone these are the characters that bare
lines have, each line with a newline behind it. Every newline and the end of the text have the
default looks. A whole line has the looks of its style, and what comes after the lines looks as it
would without them. -/
theorem coloured_shows_plain {lines : List String}
    (free : ∀ line ∈ lines, '\x1b' ∉ line.toList) (closings : List Closing) :
    let plain := Surface.text .plain
    let screen := fun lines =>
      Terminal.read {} ((Surface.text .ansi).written lines closings).toList
    (screen lines).1.map Prod.fst = (plain.written lines closings).toList ∧
      (plain.written lines [] = Surface.lines.written lines [] ∧
        plain.written lines [] = String.join ((Sink.collect.feed [] lines).2.map (· ++ "\n"))) ∧
      ((∀ looks, ('\n', looks) ∈ (screen lines).1 → looks = {}) ∧ (screen lines).2 = {}) ∧
      ∃ looksOf : String → Looks,
        (∀ line style, looksOf line = Looks.ofStyle? style ↔ Styled line style) ∧
        (screen lines).1 =
          (lines.flatMap fun line =>
            line.toList.map (fun c => (c, looksOf line)) ++ [('\n', ({} : Looks))]) ++
            (screen []).1 := by
  intro plain screen
  have shown : screen lines = ((spans lines closings).flatMap Span.shown, {}) :=
    read_written free closings
  have later : screen [] = ((spans [] closings).flatMap Span.shown, {}) :=
    read_written (List.forall_mem_nil _) closings
  rw [shown, later]
  refine ⟨?_, ⟨?_, ?_⟩, ⟨?_, rfl⟩, fun line => .ofStyle? (Text.lineStyle line), ?_, ?_⟩
  · rw [map_fst_shown, ← Painter.join_paintAll_plain, written_text]
  · simp only [plain, written_eq, List.flatMap_nil, List.append_nil, join_lines, join_bare_lines]
  · simp only [plain, written_eq, List.flatMap_nil, List.append_nil, join_lines, Sink.feed_collect,
      List.nil_append]
  · intro looks member
    obtain ⟨span, listed, inside⟩ := List.mem_flatMap.mp member
    exact (tidy_spans free closings span listed).looks_of_newline inside
  · intro line style
    rw [Looks.ofStyle?_injective.eq_iff, styled_iff]
  · rw [spans, List.flatMap_append, shown_lines]
    rfl

theorem coloured_shows_plain_of_lookalikes :
    let lines := ["true", "true ", "a\nfalse"]
    let closings := [.result {} [] ⟨[], some ⟨.pairs, [true, false]⟩⟩]
    (∀ line ∈ lines, '\x1b' ∉ line.toList) ∧
      (Terminal.read {} ((Surface.text .ansi).written lines closings).toList).1.map Prod.fst =
        "true\ntrue \na\nfalse\nresult: pairs [true, false]\n".toList := by
  intro lines closings
  have free : ∀ line ∈ lines, '\x1b' ∉ line.toList := by simp [lines]
  refine ⟨free, (coloured_shows_plain free closings).1.trans (congrArg String.toList ?_)⟩
  rw [written_text]
  decide +kernel

end Surface

end RevealGates
