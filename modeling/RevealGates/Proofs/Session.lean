import Mathlib
import RevealGates.Proofs.Evaluation
import RevealGates.Session

/-!
Sessions on an output that runs full.

Every step of a session writes a fixed list of pieces, whatever the output and whatever was written
before. An output that takes the first `limit` bytes and refuses everything after them therefore
ends up with the first `limit` bytes of all steps together, and a step succeeds exactly if all the
bytes up to its end fit. Nothing is kept back and nothing is remembered between steps.
-/

set_option autoImplicit false

namespace RevealGates

/-! ## Outputs with a limit -/

namespace Output

variable {State Fault : Type}

/-- The bytes of some pieces of text, one after the other. -/
def bytes (pieces : List String) : List UInt8 :=
  pieces.flatMap fun piece => piece.toUTF8.toList

@[simp] theorem bytes_nil : bytes [] = [] := rfl

@[simp] theorem bytes_cons (piece : String) (rest : List String) :
    bytes (piece :: rest) = piece.toUTF8.toList ++ bytes rest := rfl

private theorem length_toList_loop (content : ByteArray) (position : Nat)
    (front : List UInt8) :
    (ByteArray.toList.loop content position front).length =
      front.length + (content.size - position) := by
  fun_induction ByteArray.toList.loop content position front with
  | case1 position front below ih =>
      rw [ih, List.length_cons]
      omega
  | case2 position front beyond =>
      rw [List.length_reverse]
      omega

theorem length_toUTF8_toList (piece : String) :
    piece.toUTF8.toList.length = piece.utf8ByteSize := by
  simpa [ByteArray.toList] using length_toList_loop piece.toUTF8 0 []

theorem bytes_ne_nil {pieces : List String} {piece : String} (member : piece ∈ pieces)
    (filled : piece ≠ "") : bytes pieces ≠ [] := by
  intro empty
  have noBytes : piece.toUTF8.toList = [] := List.flatMap_eq_nil_iff.mp empty piece member
  have noSize : piece.utf8ByteSize = 0 := by
    rw [← length_toUTF8_toList, noBytes, List.length_nil]
  exact filled (String.utf8ByteSize_eq_zero_iff.mp noSize)

/-- The output takes exactly the first `limit` bytes that it is given; a write of which something is
left over fails with `fault`. Which bytes a state has taken is told by `taken`. -/
structure Capped (output : Output State Fault) (limit : Nat) (fault : Fault)
    (taken : State → List UInt8) : Prop where
  fits : ∀ state piece, piece.toUTF8.toList.length ≤ limit - (taken state).length →
    ∃ next, output.write state piece = (.ok (), next) ∧
      taken next = taken state ++ piece.toUTF8.toList
  overflows : ∀ state piece, limit - (taken state).length < piece.toUTF8.toList.length →
    ∃ next, output.write state piece = (.error fault, next) ∧
      taken next = taken state ++ piece.toUTF8.toList.take (limit - (taken state).length)

theorem limited_capped (limit : Nat) : (limited (some limit)).Capped limit .full id where
  fits _ _ room := ⟨_, if_pos room, rfl⟩
  overflows _ _ tooLong := ⟨_, if_neg (Nat.not_le.mpr tooLong), rfl⟩

/-- Pieces written in turn are taken as their bytes in one go would be. -/
theorem Capped.writeAll {output : Output State Fault} {limit : Nat} {fault : Fault}
    {taken : State → List UInt8} (capped : output.Capped limit fault taken) (state : State)
    (pieces : List String) :
    (output.writeAll state pieces).1 =
        (if (bytes pieces).length ≤ limit - (taken state).length then .ok ()
        else .error fault) ∧
      taken (output.writeAll state pieces).2 =
        taken state ++ (bytes pieces).take (limit - (taken state).length) := by
  induction pieces generalizing state with
  | nil => simp [Output.writeAll]
  | cons piece rest ih =>
      by_cases room : piece.toUTF8.toList.length ≤ limit - (taken state).length
      · obtain ⟨next, written, held⟩ := capped.fits state piece room
        obtain ⟨answer, last⟩ := ih next
        have left : limit - (taken next).length =
            limit - (taken state).length - piece.toUTF8.toList.length := by
          rw [held, List.length_append]
          omega
        simp only [Output.writeAll, written, bytes_cons, List.length_append]
        constructor
        · rw [answer, left]
          congr 1
          apply propext
          omega
        · rw [last, left, held, List.append_assoc, List.take_append,
            List.take_of_length_le room]
      · obtain ⟨next, written, held⟩ := capped.overflows state piece (Nat.lt_of_not_le room)
        simp only [Output.writeAll, written, bytes_cons, List.length_append]
        constructor
        · rw [if_neg (by omega)]
        · rw [held, List.take_append_of_le_length (by omega)]

/-- Without a limit everything is taken. -/
theorem writeAll_unlimited (written : List UInt8) (pieces : List String) :
    (limited none).writeAll written pieces = (.ok (), written ++ bytes pieces) := by
  induction pieces generalizing written with
  | nil => simp [Output.writeAll]
  | cons piece rest ih =>
      have step : (limited none).write written piece =
          (.ok (), written ++ piece.toUTF8.toList) := rfl
      simp only [Output.writeAll, step, ih, bytes_cons, List.append_assoc]

theorem writeAll_append (output : Output State Fault) (state : State)
    (first second : List String) :
    output.writeAll state (first ++ second) =
      match output.writeAll state first with
      | (.ok (), next) => output.writeAll next second
      | (.error fault, next) => (.error fault, next) := by
  induction first generalizing state with
  | nil => rfl
  | cons piece rest ih =>
      simp only [List.cons_append, Output.writeAll]
      split
      · exact ih _
      · rfl

/-- Lines fed through a layout are the pieces of all lines written in turn. -/
theorem feed_toSink (output : Output State Fault) (layout : String → List String)
    (state : State) (lines : List String) :
    (output.toSink layout).feed state lines = output.writeAll state (lines.flatMap layout) := by
  induction lines generalizing state with
  | nil => rfl
  | cons line rest ih =>
      rw [List.flatMap_cons, writeAll_append]
      simp only [Sink.feed, toSink] at ih ⊢
      cases written : output.writeAll state (layout line) with
      | mk answer next =>
          cases answer with
          | ok taken => exact ih next
          | error fault => rfl

end Output

/-! ## What a step writes -/

namespace Step

variable {State Fault : Type}

/-- The pieces that a step writes. They depend on the step and the surface alone. -/
def pieces (surface : Surface) : Step → List String
  | .emit line => surface.line line
  | .evaluate request =>
      (Evaluation.lines request.mode request.inputs request.reveal).flatMap surface.line
  | .result request =>
      surface.result request (Evaluation.lines request.mode request.inputs request.reveal)
        (Evaluation.compute request.mode request.inputs request.reveal)
  | .table request => surface.table request.table

/-- The evaluation that a step hands back when it succeeds. -/
def evaluation? : Step → Option Evaluation
  | .evaluate request =>
      some (Evaluation.compute request.mode request.inputs request.reveal)
  | _ => none

theorem perform_eq_writeAll (output : Output State Fault) (surface : Surface) (state : State)
    (step : Step) :
    (step.perform output surface state).outcome =
        (output.writeAll state (step.pieces surface)).1.map (fun _ => step.evaluation?) ∧
      (step.perform output surface state).state =
        (output.writeAll state (step.pieces surface)).2 := by
  cases step with
  | emit line => exact ⟨rfl, rfl⟩
  | table request => exact ⟨rfl, rfl⟩
  | result request =>
      simp [perform, finish, pieces, evaluation?, Request.run]
  | evaluate request =>
      obtain ⟨outcome, last⟩ := Evaluation.evaluate_eq_feed (output.toSink surface.line)
        request.mode request.inputs request.reveal state
      rw [Output.feed_toSink] at outcome last
      constructor
      · simp only [perform, Request.run, outcome, pieces, evaluation?]
        cases (output.writeAll state _).1 <;> rfl
      · simp only [perform, Request.run, last, pieces]

/-- What a step writes alone, on a fresh output without a limit. -/
def bytes (surface : Surface) (step : Step) : List UInt8 :=
  (step.perform (Output.limited none) surface []).state

theorem bytes_eq (surface : Surface) (step : Step) :
    step.bytes surface = Output.bytes (step.pieces surface) := by
  rw [bytes, (perform_eq_writeAll _ surface [] step).2, Output.writeAll_unlimited,
    List.nil_append]

theorem length_bytes (surface : Surface) (step : Step) :
    (step.bytes surface).length = ((step.pieces surface).map String.utf8ByteSize).sum := by
  rw [bytes_eq, Output.bytes, List.length_flatMap]
  simp only [Output.length_toUTF8_toList]

theorem outcome_alone (surface : Surface) (step : Step) :
    (step.perform (Output.limited none) surface []).outcome = .ok step.evaluation? := by
  rw [(perform_eq_writeAll _ surface [] step).1, Output.writeAll_unlimited]
  rfl

/-- A step on an output with a limit: only the number of bytes already taken matters. -/
theorem perform_capped {output : Output State Fault} {limit : Nat} {fault : Fault}
    {taken : State → List UInt8} (capped : output.Capped limit fault taken)
    (surface : Surface) (state : State) (step : Step) :
    (step.perform output surface state).outcome =
        (if (step.bytes surface).length ≤ limit - (taken state).length then
          .ok step.evaluation?
        else .error fault) ∧
      taken (step.perform output surface state).state =
        taken state ++ (step.bytes surface).take (limit - (taken state).length) := by
  obtain ⟨outcome, last⟩ := perform_eq_writeAll output surface state step
  obtain ⟨answer, held⟩ := capped.writeAll state (step.pieces surface)
  rw [bytes_eq]
  constructor
  · rw [outcome, answer]
    split <;> rfl
  · rw [last, held]

end Step

/-! ## Steps that a surface offers -/

namespace Surface

/-- Bare lines have no reports, and the JSON report has no single lines. -/
def supports : Surface → Step → Bool
  | .lines, .emit _ | .lines, .evaluate _ => true
  | .lines, .result _ | .lines, .table _ => false
  | .text _, _ => true
  | .json, .emit _ | .json, .evaluate _ => false
  | .json, .result _ | .json, .table _ => true

private theorem mem_paintAll_of_plain (painter : Painter) {spans : List Span} {text : String}
    (member : Span.plain text ∈ spans) : text ∈ painter.paintAll spans := by
  apply List.mem_flatMap.mpr
  exact ⟨.plain text, member, by cases painter <;> exact List.mem_singleton.mpr rfl⟩

private theorem newline_mem_emit {surface : Surface} (line : String) (offered : surface ≠ .json) :
    "\n" ∈ (Step.emit line).pieces surface := by
  cases surface with
  | lines => exact .tail _ (.head _)
  | text painter => exact mem_paintAll_of_plain painter (.tail _ (.head _))
  | json => exact absurd rfl offered

private theorem newline_mem_evaluation {surface : Surface} (request : Request)
    (offered : surface ≠ .json) : "\n" ∈ (Step.evaluate request).pieces surface :=
  List.mem_flatMap.mpr ⟨Evaluation.intro, .head _, newline_mem_emit _ offered⟩

private theorem document_ne_empty (document : Json) : Report.Document.text document ≠ "" := by
  simp [Report.Document.text]

/-- Every step that a surface offers writes something. -/
theorem bytes_step_ne_nil {surface : Surface} {step : Step}
    (supported : surface.supports step = true) : step.bytes surface ≠ [] := by
  rw [Step.bytes_eq]
  cases surface with
  | lines =>
      cases step with
      | emit line => exact Output.bytes_ne_nil (newline_mem_emit line nofun) (by decide)
      | evaluate request =>
          exact Output.bytes_ne_nil (newline_mem_evaluation request nofun) (by decide)
      | result request => cases supported
      | table request => cases supported
  | text painter =>
      cases step with
      | emit line => exact Output.bytes_ne_nil (newline_mem_emit line nofun) (by decide)
      | evaluate request =>
          exact Output.bytes_ne_nil (newline_mem_evaluation request nofun) (by decide)
      | result request =>
          have opening : "result: " ∈ (Step.result request).pieces (.text painter) :=
            mem_paintAll_of_plain painter (.head _)
          exact Output.bytes_ne_nil opening (by decide)
      | table request =>
          have lineEnd : Report.Text.lineEnd ∈ Report.Text.table request.table :=
            List.mem_append_left _ (List.mem_cons_of_mem _ (.head _))
          have heading : "\n" ∈ (Step.table request).pieces (.text painter) :=
            mem_paintAll_of_plain painter lineEnd
          exact Output.bytes_ne_nil heading (by decide)
  | json =>
      cases step with
      | emit line => cases supported
      | evaluate request => cases supported
      | result request => exact Output.bytes_ne_nil (.head _) (document_ne_empty _)
      | table request => exact Output.bytes_ne_nil (.head _) (document_ne_empty _)

end Surface

/-! ## Whole sessions -/

namespace Step

variable {State Fault : Type}

/-- Where a session leaves the output. -/
def stateAfter (output : Output State Fault) (surface : Surface) (start : State)
    (steps : List Step) : State :=
  steps.foldl (fun state step => (step.perform output surface state).state) start

theorem getElem?_performAll (output : Output State Fault) (surface : Surface) (start : State)
    (earlier : List Step) (step : Step) (later : List Step) :
    (performAll output surface start (earlier ++ step :: later))[earlier.length]? =
      some (step.perform output surface (stateAfter output surface start earlier)) := by
  induction earlier generalizing start with
  | nil => rfl
  | cons first rest ih => simpa [performAll, stateAfter] using ih _

theorem getLast?_performAll (output : Output State Fault) (surface : Surface) (start : State)
    (steps : List Step) :
    ((performAll output surface start steps).getLast?.map StepRun.state).getD start =
      stateAfter output surface start steps := by
  induction steps generalizing start with
  | nil => rfl
  | cons step rest ih =>
      have last := ih (step.perform output surface start).state
      cases rest with
      | nil => rfl
      | cons next others => simpa [performAll, stateAfter, List.getLast?_cons] using last

variable {output : Output State Fault} {limit : Nat} {fault : Fault}
  {taken : State → List UInt8}

/-- One step keeps the output filled with the first bytes of everything written so far. -/
theorem taken_perform (capped : output.Capped limit fault taken) (surface : Surface)
    (step : Step) {state : State} {written : List UInt8}
    (filled : taken state = written.take limit) :
    taken (step.perform output surface state).state =
      (written ++ step.bytes surface).take limit := by
  have room : limit - (taken state).length = limit - written.length := by
    rw [filled, List.length_take]
    omega
  rw [(perform_capped capped surface state step).2, room, filled, List.take_append]

theorem taken_stateAfter (capped : output.Capped limit fault taken) (surface : Surface)
    (steps : List Step) {state : State} {written : List UInt8}
    (filled : taken state = written.take limit) :
    taken (stateAfter output surface state steps) =
      (written ++ steps.flatMap (bytes surface)).take limit := by
  induction steps generalizing state written with
  | nil => simpa [stateAfter] using filled
  | cons step rest ih =>
      have next := ih (taken_perform capped surface step filled)
      simpa [stateAfter, List.append_assoc] using next

/-- A step succeeds exactly if everything up to its end fits. It has to write something: an empty
step would succeed on an output that is already full. -/
theorem outcome_perform (capped : output.Capped limit fault taken) {surface : Surface}
    {step : Step} (supported : surface.supports step = true) {state : State}
    {written : List UInt8} (filled : taken state = written.take limit) :
    (step.perform output surface state).outcome =
      if written.length + (step.bytes surface).length ≤ limit then .ok step.evaluation?
      else .error fault := by
  have something : 0 < (step.bytes surface).length :=
    List.length_pos_iff.mpr (Surface.bytes_step_ne_nil supported)
  rw [(perform_capped capped surface state step).1, filled, List.length_take]
  congr 1
  apply propext
  omega

/-- A session on an output that takes `limit` bytes, started on a fresh one. The bytes taken are the
first `limit` bytes of what the steps write alone, one after the other. A step succeeds exactly if
these bytes fit up to its end, and then hands back what it hands back alone; otherwise it fails with
the output's own fault. What came before a step counts only by the number of bytes taken. -/
theorem performAll_writes_leading_bytes (capped : output.Capped limit fault taken)
    (surface : Surface) (steps : List Step)
    (supported : ∀ step ∈ steps, surface.supports step = true) (start : State)
    (fresh : taken start = []) :
    let runs := performAll output surface start steps
    taken ((runs.getLast?.map StepRun.state).getD start) =
        (steps.flatMap (bytes surface)).take limit ∧
      (∀ earlier step later, steps = earlier ++ step :: later →
        ∃ run result, runs[earlier.length]? = some run ∧
          (step.perform (Output.limited none) surface []).outcome = .ok result ∧
          run.outcome =
            (if ((earlier ++ [step]).map fun step => (step.bytes surface).length).sum ≤ limit then
              .ok result
            else .error fault)) ∧
      ∀ (step : Step) (state other : State), (taken state).length = (taken other).length →
        (step.perform output surface state).outcome =
            (step.perform output surface other).outcome ∧
          ∃ added, taken (step.perform output surface state).state = taken state ++ added ∧
            taken (step.perform output surface other).state = taken other ++ added := by
  intro runs
  have filled : taken start = ([] : List UInt8).take limit := by rw [fresh, List.take_nil]
  refine ⟨?_, ?_, ?_⟩
  · rw [getLast?_performAll, taken_stateAfter capped surface steps filled, List.nil_append]
  · intro earlier step later split
    have offered : surface.supports step = true := supported step (by simp [split])
    have before := taken_stateAfter capped surface earlier filled
    rw [List.nil_append] at before
    refine ⟨step.perform output surface (stateAfter output surface start earlier),
      step.evaluation?, ?_, outcome_alone surface step, ?_⟩
    · simp only [runs, split]
      exact getElem?_performAll output surface start earlier step later
    · rw [outcome_perform capped offered before]
      simp [List.length_flatMap]
  · intro step state other same
    obtain ⟨outcome, held⟩ := perform_capped capped surface state step
    obtain ⟨otherOutcome, otherHeld⟩ := perform_capped capped surface other step
    rw [← same] at otherOutcome otherHeld
    exact ⟨outcome.trans otherOutcome.symm, _, held, otherHeld⟩

-- The second line is cut after two bytes, and the third finds the output full.
theorem performAll_cut_within_line :
    let surface := Surface.text .ansi
    let steps : List Step := [.emit "true", .emit "false", .emit ""]
    let runs := performAll (Output.limited (some 20)) surface [] steps
    (∀ step ∈ steps, surface.supports step = true) ∧
      (∃ run, runs[0]? = some run ∧ run.outcome = .ok none) ∧
      (∃ run, runs[1]? = some run ∧ run.outcome = .error .full) ∧
      ((runs.getLast?.map StepRun.state).getD []).length = 20 := by
  intro surface steps runs
  have supported : ∀ step ∈ steps, surface.supports step = true := by decide
  obtain ⟨written, outcomes, -⟩ := performAll_writes_leading_bytes (Output.limited_capped 20)
    surface steps supported [] rfl
  obtain ⟨first, result, atFirst, alone, fits⟩ := outcomes [] _ _ rfl
  obtain ⟨second, _, atSecond, _, cut⟩ := outcomes [.emit "true"] _ _ rfl
  simp only [length_bytes] at fits cut
  refine ⟨supported, ⟨first, atFirst, ?_⟩, ⟨second, atSecond, ?_⟩, ?_⟩
  · rw [fits, if_pos (by decide), ← alone, outcome_alone]
    rfl
  · rw [cut, if_neg (by decide)]
  · have taken := congrArg List.length written
    simp only [List.length_take, List.length_flatMap, length_bytes] at taken
    exact taken.trans (by decide)

end Step

end RevealGates
