import RevealGates.Proofs.Json.Characters
import RevealGates.Proofs.Program.GateFlags
import RevealGates.Proofs.Report.Looks
import RevealGates.Proofs.Settings.Warnings

/-!
Colours of whole runs.

Whether a report is coloured is decided by two options, by variables of the environment and by the
terminal. The decision reaches nothing but the painter of a text report. Two runs that differ in it
therefore end in the same way and say the same on standard error, and what they print differs at
most in escape sequences: a terminal shows the same characters.
-/

set_option autoImplicit false

namespace RevealGates

/-! ## Text without escape sequences -/

namespace Terminal

/-- What is left of a text without its escape sequences: the characters that a terminal shows. -/
def visible (text : String) : String :=
  String.ofList ((read {} text.toList).1.map Prod.fst)

theorem visible_of_free {text : String} (free : '\x1b' ∉ text.toList) : visible text = text := by
  rw [visible, read_text free, List.map_map]
  exact (congrArg String.ofList (List.map_id _)).trans String.ofList_toList

end Terminal

namespace Surface

variable {lines : List String}

/-- Without colour no character begins an escape sequence. -/
theorem escape_not_mem_written (free : ∀ line ∈ lines, '\x1b' ∉ line.toList)
    (closings : List Closing) :
    '\x1b' ∉ ((Surface.text .plain).written lines closings).toList := by
  rw [written_text, Painter.join_paintAll_plain, String.toList_join]
  intro member
  obtain ⟨text, listed, inside⟩ := List.mem_flatMap.mp member
  obtain ⟨span, reported, rfl⟩ := List.mem_map.mp listed
  exact (tidy_spans free closings span reported).free inside

/-- However it is painted, a report shows the characters of the plain one. -/
theorem visible_written (free : ∀ line ∈ lines, '\x1b' ∉ line.toList) (closings : List Closing)
    (painter : Painter) :
    Terminal.visible ((Surface.text painter).written lines closings) =
      (Surface.text .plain).written lines closings := by
  cases painter with
  | plain => exact Terminal.visible_of_free (escape_not_mem_written free closings)
  | ansi =>
      rw [Terminal.visible, read_written free, map_fst_shown, String.ofList_toList,
        ← Painter.join_paintAll_plain, ← written_text]

/-- A JSON report has no escape sequences at all. -/
theorem escape_not_mem_written_json (lines : List String) (closings : List Closing) :
    '\x1b' ∉ (Surface.json.written lines closings).toList := by
  rw [written_eq, String.toList_join]
  intro member
  obtain ⟨piece, listed, inside⟩ := List.mem_flatMap.mp member
  have clean : Json.Clean piece := by
    rcases List.mem_append.mp listed with line | closing
    · obtain ⟨_, -, nothing⟩ := List.mem_flatMap.mp line
      cases nothing
    · obtain ⟨closing, -, written⟩ := List.mem_flatMap.mp closing
      have newline : Json.Clean "\n" := by decide
      cases closing with
      | result | table =>
          obtain rfl := List.mem_singleton.mp written
          exact (Json.clean_prettyAt 0 _).append newline
  exact clean.escape_not_mem inside

end Surface

theorem Evaluation.escape_not_mem_lines (mode : Mode) (inputs : Inputs) (reveal : Reveal) :
    ∀ line ∈ Evaluation.lines mode inputs reveal, '\x1b' ∉ line.toList := by
  intro line listed
  rcases List.mem_cons.mp listed with rfl | revealed
  · simp [Evaluation.intro, Evaluation.introFragments]
  · obtain ⟨stage, -, told⟩ := List.mem_flatMap.mp revealed
    rcases List.mem_cons.mp told with rfl | computed
    · cases stage <;> decide
    · obtain ⟨value, -, rfl⟩ := List.mem_map.mp computed
      cases value <;> decide

namespace Command

/-- The command with its options about colour set in this way. Only reports have any. -/
def withColours (color noColor : Bool) : Command → Command
  | .eval inputs expect choice =>
      .eval inputs expect { choice with color := color, noColor := noColor }
  | .table choice => .table { choice with color := color, noColor := noColor }
  | .init force => .init force
  | .completions shell => .completions shell

theorem report?_withColours {command : Command} {choice : ReportChoice}
    (reports : command.report? = some choice) (color noColor : Bool) :
    (command.withColours color noColor).report? =
      some { choice with color := color, noColor := noColor } := by
  cases command with
  | eval | table =>
      cases reports
      rfl
  | init | completions => cases reports

end Command

namespace Program

/-! ## What a report tells -/

/-- What a report prints is made of the same lines and reports on every surface. -/
theorem exists_told_eq_written (mode : Mode) (reveal : Reveal) (command : Command) :
    ∃ lines closings, (∀ line ∈ lines, '\x1b' ∉ line.toList) ∧ ∀ surface : Surface,
      (told surface mode reveal command).1 = surface.written lines closings := by
  cases command with
  | eval inputs expect choice =>
      refine ⟨Evaluation.lines mode inputs reveal,
        [.result ⟨mode, inputs, reveal⟩ (Evaluation.lines mode inputs reveal)
          (Evaluation.compute mode inputs reveal)],
        Evaluation.escape_not_mem_lines mode inputs reveal, fun surface => ?_⟩
      rw [Surface.written_eq, List.flatMap_singleton]
      exact (evaluationText_eq surface ⟨mode, inputs, reveal⟩).1
  | table choice =>
      refine ⟨[], [.table (TruthTable.sweep mode reveal)], List.forall_mem_nil _, fun surface => ?_⟩
      rw [Surface.written_eq, List.flatMap_singleton]
      exact congrArg Prod.snd (Output.writeAll_buffer "" _)
  | init | completions => exact ⟨[], [], List.forall_mem_nil _, fun _ => rfl⟩

theorem visible_told (painter : Painter) (mode : Mode) (reveal : Reveal) (command : Command) :
    Terminal.visible (told (.text painter) mode reveal command).1 =
      (told (.text .plain) mode reveal command).1 := by
  obtain ⟨lines, closings, free, written⟩ := exists_told_eq_written mode reveal command
  rw [written, written, Surface.visible_written free]

theorem escape_not_mem_told_json (mode : Mode) (reveal : Reveal) (command : Command) :
    '\x1b' ∉ (told .json mode reveal command).1.toList := by
  obtain ⟨lines, closings, -, written⟩ := exists_told_eq_written mode reveal command
  rw [written]
  exact Surface.escape_not_mem_written_json lines closings

theorem told_withColours (surface : Surface) (mode : Mode) (reveal : Reveal)
    (color noColor : Bool) (command : Command) :
    told surface mode reveal (command.withColours color noColor) =
      told surface mode reveal command := by
  cases command <;> rfl

theorem told_code (one two : Surface) (mode : Mode) (reveal : Reveal) (command : Command) :
    (told one mode reveal command).2 = (told two mode reveal command).2 := by
  cases command <;> rfl

/-- What a report says on standard error after what is said about the settings. -/
def lastWords (mode : Mode) (reveal : Reveal) : Command → String
  | .eval inputs expect _ => (verdict expect (Evaluation.returnedValues mode inputs reveal)).2
  | .table _ | .init _ | .completions _ => ""

theorem lastWords_withColours (mode : Mode) (reveal : Reveal) (color noColor : Bool)
    (command : Command) :
    lastWords mode reveal (command.withColours color noColor) = lastWords mode reveal command := by
  cases command <;> rfl

section OneRun

variable {context : Context} {config : Option String} {command : Command} {choice : ReportChoice}
  {settings : Settings} (reports : command.report? = some choice)
  (consistent : (choice.color && choice.noColor) = false)
  (loaded : (loading context config).outcome = .ok settings)

include reports consistent loaded

theorem stderr_runInvocation (quiet : context.Quiet) :
    (runInvocation context ⟨config, some command⟩).stderr =
      context.transcript (loading context config).notices ++
        lastWords (choice.gates.resolve settings).1 (choice.gates.resolve settings).2 command := by
  cases command with
  | init | completions => cases reports
  | eval inputs expect =>
      cases reports
      simp only [runInvocation]
      rw [runEval_of_settings consistent loaded]
      simp only [Context.finish, Context.transcript_append, quiet.transcript_events,
        String.append_empty]
      rfl
  | table =>
      cases reports
      simp only [runInvocation, runTable]
      rw [prepare_of_settings consistent loaded]
      simp only [Context.finish, Context.transcript_append, quiet.transcript_events,
        String.append_empty, lastWords]

theorem code_runInvocation :
    (runInvocation context ⟨config, some command⟩).code =
      (told .json (choice.gates.resolve settings).1 (choice.gates.resolve settings).2
        command).2 := by
  have code := congrArg Prod.snd (runInvocation_eq_told reports consistent loaded)
  exact code.trans (told_code _ _ _ _ _)

theorem stdout_of_json (json : choice.format = .json) :
    (runInvocation context ⟨config, some command⟩).stdout =
      (told .json (choice.gates.resolve settings).1 (choice.gates.resolve settings).2
        command).1 := by
  have surfaced : surface context choice = .json := by rw [surface, json]
  rw [← surfaced]
  exact congrArg Prod.fst (runInvocation_eq_told reports consistent loaded)

theorem visible_of_text (text : choice.format = .text) :
    Terminal.visible (runInvocation context ⟨config, some command⟩).stdout =
      (told (.text .plain) (choice.gates.resolve settings).1 (choice.gates.resolve settings).2
        command).1 := by
  obtain ⟨painter, surfaced⟩ : ∃ painter, surface context choice = .text painter := by
    rw [surface, text]
    exact ⟨_, rfl⟩
  rw [← visible_told painter, ← surfaced]
  have stdout := congrArg Prod.fst (runInvocation_eq_told reports consistent loaded)
  exact congrArg Terminal.visible stdout

end OneRun

/-! ## Two runs -/

section TwoRuns

variable {left right : Context}

theorem loading_eq (files : left.files = right.files) (here : left.here = right.here)
    (config : Option String) : loading left config = loading right config := by
  simp only [loading, Context.directory, files, here]

theorem transcript_eq (quiet : left.Quiet) (quietToo : right.Quiet) (notices : List Notice) :
    left.transcript notices = right.transcript notices := by
  have shows : left.shows = right.shows := by
    funext notice
    cases notice with
    | warning => rfl
    | event event => rw [quiet event, quietToo event]
  rw [Context.transcript, Context.transcript, shows]

/-- Nothing differs between two runs of a report but escape sequences in its text. -/
structure SameButEscapes (format : Format) (one two : Outcome) : Prop where
  code : one.code = two.code
  stderr : one.stderr = two.stderr
  json : format = .json → one.stdout = two.stdout ∧ '\x1b' ∉ one.stdout.toList
  text : format = .text → Terminal.visible one.stdout = Terminal.visible two.stdout

/-- A report that cannot be prepared prints nothing, whatever its colours. -/
theorem SameButEscapes.of_finish (format : Format) {code : ExitCode} {notices : List Notice}
    {last : String} (transcript : left.transcript notices = right.transcript notices) :
    SameButEscapes format (left.finish code "" notices last)
      (right.finish code "" notices last) where
  code := rfl
  stderr := congrArg (· ++ last) transcript
  json _ := ⟨rfl, List.not_mem_nil⟩
  text _ := rfl

end TwoRuns

/-- The colours of a report change nothing but its escape sequences. Two runs with the same files
ask for the same report, one of them with other options about colour, in any order and spelling of
the words; their variables and their terminals may differ. -/
theorem run_colours_change_only_escapes (left right : Context) (words others : List String)
    (config : Option String) (command : Command) (choice : ReportChoice) (color noColor : Bool)
    (files : left.files = right.files) (here : left.here = right.here)
    (quiet : left.Quiet) (quietToo : right.Quiet)
    (understood : CommandLine.parse (configVariable left) words = .ok ⟨config, some command⟩)
    (understoodToo : CommandLine.parse (configVariable right) others =
      .ok ⟨config, some (command.withColours color noColor)⟩)
    (reports : command.report? = some choice)
    (consistent : (choice.color && choice.noColor) = false)
    (consistentToo : (color && noColor) = false) :
    SameButEscapes choice.format (run left words) (run right others) := by
  have otherReports := Command.report?_withColours reports color noColor
  have sameLoading : loading right config = loading left config :=
    (loading_eq files here config).symm
  have sameTranscript := transcript_eq quiet quietToo (loading left config).notices
  simp only [run, understood, understoodToo]
  cases loaded : (loading left config).outcome with
  | error failure =>
      have otherLoaded : (loading right config).outcome = .error failure := sameLoading ▸ loaded
      obtain ⟨report, first⟩ := runInvocation_eq_prepare left config reports
      obtain ⟨otherReport, second⟩ := runInvocation_eq_prepare right config otherReports
      rw [first, second, prepare_of_failure consistent loaded,
        prepare_of_failure consistentToo otherLoaded, sameLoading]
      exact .of_finish choice.format sameTranscript
  | ok settings =>
      have otherLoaded : (loading right config).outcome = .ok settings := sameLoading ▸ loaded
      constructor
      case code =>
        rw [code_runInvocation reports consistent loaded,
          code_runInvocation otherReports consistentToo otherLoaded, told_withColours]
      case stderr =>
        rw [stderr_runInvocation reports consistent loaded quiet,
          stderr_runInvocation otherReports consistentToo otherLoaded quietToo, sameLoading,
          sameTranscript, lastWords_withColours]
      case json =>
        intro json
        rw [stdout_of_json reports consistent loaded json,
          stdout_of_json otherReports consistentToo otherLoaded json, told_withColours]
        exact ⟨rfl, escape_not_mem_told_json _ _ _⟩
      case text =>
        intro text
        rw [visible_of_text reports consistent loaded text,
          visible_of_text otherReports consistentToo otherLoaded text, told_withColours]

/-- A terminal that nobody watches. -/
def unwatched : Context where
  environment := { bindings := [("CI", "1"), ("TERM", "xterm")], terminal := true }

/-- A place where somebody wants no colours. -/
def colourless : Context where
  environment := { bindings := [("NO_COLOR", "")] }

theorem run_colourless_asked_for_colour :
    surface unwatched {} = .text .plain ∧ surface colourless { color := true } = .text .ansi ∧
      SameButEscapes .text (run unwatched ["eval", "0110"])
        (run colourless ["eval", "--color", "0110"]) := by
  have understood : CommandLine.parse (configVariable unwatched) ["eval", "0110"] =
      .ok ⟨none, some (.eval ⟨false, true, true, false⟩ none {})⟩ := by
    cbv
  have understoodToo : CommandLine.parse (configVariable colourless) ["eval", "--color", "0110"] =
      .ok ⟨none, some (.eval ⟨false, true, true, false⟩ none { color := true })⟩ := by
    cbv
  refine ⟨by decide, by decide, ?_⟩
  exact run_colours_change_only_escapes unwatched colourless _ _ none _ {} true false rfl rfl
    (Context.quiet_of_unset rfl) (Context.quiet_of_unset rfl) understood understoodToo rfl rfl rfl

end Program

end RevealGates
