import Mathlib.Data.List.TakeWhile
import RevealGates.Evaluation

/-!
An evaluation is its lines fed to a sink.

Which lines are offered, and what is returned at the end, depends on the inputs, the mode and the
gates alone. A sink decides only how far the offering gets: it stops at the first refusal, in the
state that the refusing call left. Nothing is assumed of the sink.
-/

set_option autoImplicit false

namespace RevealGates

/-! ## The stages in front of the first closed gate -/

namespace Reveal

/-- The stages strictly before the one that ends an evaluation, all of them if none does. -/
def reached (reveal : Reveal) : List Stage :=
  match reveal.terminating? with
  | none => Stage.all
  | some stage => stage.before

private theorem takeWhile_isOpen_of_none {stages : List Stage} {isOpen : Stage → Bool}
    (allOpen : stages.find? (fun stage => !isOpen stage) = none) :
    stages.takeWhile isOpen = stages := by
  apply List.takeWhile_eq_self_iff.mpr
  intro stage member
  simpa using List.find?_eq_none.mp allOpen stage member

/-- In a list without repetitions that follows the order of the stages, what precedes the first
closed gate is what lies below it. -/
private theorem takeWhile_isOpen_of_some {stages : List Stage} {isOpen : Stage → Bool}
    {closed : Stage} (ordered : stages.Pairwise fun left right => left.index < right.index)
    (found : stages.find? (fun stage => !isOpen stage) = some closed) :
    stages.takeWhile isOpen = stages.filter fun stage => stage.index < closed.index := by
  induction stages with
  | nil => simp at found
  | cons stage later ih =>
      obtain ⟨above, laterOrdered⟩ := List.pairwise_cons.mp ordered
      cases gate : isOpen stage with
      | true =>
          have foundLater : later.find? (fun stage => !isOpen stage) = some closed := by
            simpa [gate] using found
          have below : stage.index < closed.index :=
            above closed (List.mem_of_find?_eq_some foundLater)
          rw [List.takeWhile_cons_of_pos gate, List.filter_cons_of_pos (by simpa using below),
            ih laterOrdered foundLater]
      | false =>
          obtain rfl : stage = closed := by simpa [gate] using found
          rw [List.takeWhile_cons_of_neg (by simp [gate]), List.filter_cons_of_neg (by simp)]
          symm
          apply List.filter_eq_nil_iff.mpr
          intro other member
          have := above other member
          simp only [decide_eq_true_eq]
          omega

theorem revealed_eq_reached (reveal : Reveal) : reveal.revealed = reveal.reached := by
  unfold revealed reached
  cases found : reveal.terminating? with
  | none => exact takeWhile_isOpen_of_none found
  | some closed => exact takeWhile_isOpen_of_some (by decide) found

end Reveal

/-! ## Feeding a sink -/

namespace Sink

variable {State Fault : Type}

/-- The same sink, keeping beside its state every line that it was offered. -/
def recorded (sink : Sink State Fault) : Sink (State × List String) Fault where
  emit held line :=
    let (answer, next) := sink.emit held.1 line
    (answer, next, held.2 ++ [line])

theorem feed_cons_ok {sink : Sink State Fault} {state next : State} {line : String}
    (accepted : sink.emit state line = (.ok (), next)) (rest : List String) :
    sink.feed state (line :: rest) = sink.feed next rest := by
  simp only [feed, accepted]

theorem feed_cons_error {sink : Sink State Fault} {state next : State} {line : String}
    {fault : Fault} (refused : sink.emit state line = (.error fault, next))
    (rest : List String) : sink.feed state (line :: rest) = (.error fault, next) := by
  simp only [feed, refused]

/-- Feeding ends in a fault exactly if some line is refused with it after all lines in front of that
line were accepted; the state is the one that the refusing call left. -/
theorem feed_eq_error_iff {sink : Sink State Fault} {state final : State} {lines : List String}
    {fault : Fault} :
    sink.feed state lines = (.error fault, final) ↔
      ∃ accepted line rest before, lines = accepted ++ line :: rest ∧
        sink.feed state accepted = (.ok (), before) ∧
        sink.emit before line = (.error fault, final) := by
  constructor
  · intro failed
    induction lines generalizing state with
    | nil => simp at failed
    | cons line rest ih =>
        cases step : sink.emit state line with
        | mk answer next =>
            cases answer with
            | error other =>
                rw [feed_cons_error step] at failed
                exact ⟨[], line, rest, state, rfl, rfl, failed ▸ step⟩
            | ok accepted =>
                rw [feed_cons_ok step] at failed
                obtain ⟨front, refused, left, before, split, reached, refusal⟩ := ih failed
                refine ⟨line :: front, refused, left, before, by rw [split]; rfl, ?_, refusal⟩
                rw [feed_cons_ok step, reached]
  · rintro ⟨front, line, rest, before, rfl, reached, refusal⟩
    rw [feed_append, reached]
    exact feed_cons_error refusal rest

/-- A recording sink answers as the sink does, and keeps what was offered: everything, if all was
accepted. -/
theorem feed_recorded_of_ok {sink : Sink State Fault} {state final : State}
    {lines : List String} (accepted : sink.feed state lines = (.ok (), final))
    (kept : List String) :
    sink.recorded.feed (state, kept) lines = (.ok (), final, kept ++ lines) := by
  induction lines generalizing state kept with
  | nil =>
      obtain rfl : state = final := congrArg Prod.snd accepted
      simp
  | cons line rest ih =>
      cases step : sink.emit state line with
      | mk answer next =>
          cases answer with
          | error other => simp [feed_cons_error step] at accepted
          | ok taken =>
              rw [feed_cons_ok step] at accepted
              have recordedStep : sink.recorded.emit (state, kept) line =
                  (.ok (), next, kept ++ [line]) := by simp [recorded, step]
              rw [feed_cons_ok recordedStep, ih accepted, List.append_assoc]
              rfl

/-- After a refusal nothing more is offered: a recording sink keeps the accepted lines and the
refused one. -/
theorem feed_recorded_of_refused {sink : Sink State Fault} {state before final : State}
    {accepted : List String} {line : String} {fault : Fault}
    (reached : sink.feed state accepted = (.ok (), before))
    (refused : sink.emit before line = (.error fault, final)) (rest kept : List String) :
    sink.recorded.feed (state, kept) (accepted ++ line :: rest) =
      (.error fault, final, kept ++ accepted ++ [line]) := by
  have recordedStep : sink.recorded.emit (before, kept ++ accepted) line =
      (.error fault, final, kept ++ accepted ++ [line]) := by simp [recorded, refused]
  rw [feed_append, feed_recorded_of_ok reached]
  exact feed_cons_error recordedStep rest

end Sink

/-! ## Evaluations -/

namespace Evaluation

variable {State Fault : Type}

/-- The lines of an evaluation: the introduction and then, for each stage strictly before the one
that ends it, the header and the computed values. -/
def lines (mode : Mode) (inputs : Inputs) (reveal : Reveal) : List String :=
  intro :: reveal.reached.flatMap fun stage =>
    stage.header :: (stage.values mode inputs).map valueText

theorem script_eq_lines (mode : Mode) (inputs : Inputs) (reveal : Reveal) :
    script mode inputs reveal = lines mode inputs reveal := by
  unfold script lines
  rw [Reveal.revealed_eq_reached]
  rfl

/-- The views of an evaluation determine it. -/
theorem eq_of_views {left right : Evaluation} (revealed : left.revealed = right.revealed)
    (terminated : left.terminatedAt = right.terminatedAt) (values : left.values = right.values) :
    left = right := by
  obtain ⟨leftRevealed, leftReturned⟩ := left
  obtain ⟨rightRevealed, rightReturned⟩ := right
  obtain rfl : leftRevealed = rightRevealed := revealed
  cases leftReturned with
  | none =>
      cases rightReturned with
      | none => rfl
      | some result => simp [terminatedAt] at terminated
  | some leftResult =>
      cases rightReturned with
      | none => simp [terminatedAt] at terminated
      | some rightResult =>
          obtain ⟨leftStage, leftValues⟩ := leftResult
          obtain ⟨rightStage, rightValues⟩ := rightResult
          obtain rfl : leftStage = rightStage := by simpa [terminatedAt] using terminated
          obtain rfl : leftValues = rightValues := by simpa [Evaluation.values] using values
          rfl

@[simp] theorem revealed_compute (mode : Mode) (inputs : Inputs) (reveal : Reveal) :
    (compute mode inputs reveal).revealed = reveal.reached.map (·.result mode inputs) := by
  rw [← Reveal.revealed_eq_reached]
  rfl

@[simp] theorem terminatedAt_compute (mode : Mode) (inputs : Inputs) (reveal : Reveal) :
    (compute mode inputs reveal).terminatedAt = reveal.terminating? := by
  unfold terminatedAt compute
  cases reveal.terminating? <;> rfl

@[simp] theorem values_compute (mode : Mode) (inputs : Inputs) (reveal : Reveal) :
    (compute mode inputs reveal).values = returnedValues mode inputs reveal := by
  unfold values compute returnedValues
  cases reveal.terminating? <;> rfl

/-- What is left of an evaluation at some stages is feeding the lines of the open ones among them.
The revealed results so far are carried along; the gates of earlier stages are not looked at. -/
theorem proceed_eq_feed (sink : Sink State Fault) (mode : Mode) (inputs : Inputs)
    (reveal : Reveal) (stages : List Stage) (revealed : List StageResult) (state : State) :
    let run := proceed sink mode inputs reveal stages revealed state
    let fed := sink.feed state
      ((stages.takeWhile reveal.isOpen).flatMap fun stage => (stage.result mode inputs).lines)
    run.outcome = fed.1.map (fun _ =>
        ⟨revealed ++ (stages.takeWhile reveal.isOpen).map (·.result mode inputs),
          (stages.find? fun stage => !reveal.isOpen stage).map (·.result mode inputs)⟩) ∧
      run.state = fed.2 := by
  induction stages generalizing revealed state with
  | nil => simp [proceed, Except.map]
  | cons stage later ih =>
      cases gate : reveal.isOpen stage with
      | false => simp [proceed, gate, Except.map]
      | true =>
          simp only [proceed, gate, if_true, List.takeWhile_cons_of_pos, List.flatMap_cons,
            Sink.feed_append, List.map_cons, List.find?_cons, Bool.not_true]
          cases fed : sink.feed state (stage.result mode inputs).lines with
          | mk answer next =>
              cases answer with
              | error fault => simp [Except.map]
              | ok accepted =>
                  simpa [EvaluationRun.after] using
                    ih (revealed ++ [stage.result mode inputs]) next

/-- An evaluation ends as feeding its lines ends, with an evaluation that no sink has a say in. -/
theorem evaluate_eq_feed (sink : Sink State Fault) (mode : Mode) (inputs : Inputs)
    (reveal : Reveal) (state : State) :
    (evaluate sink mode inputs reveal state).outcome =
        (sink.feed state (lines mode inputs reveal)).1.map
          (fun _ => compute mode inputs reveal) ∧
      (evaluate sink mode inputs reveal state).state =
        (sink.feed state (lines mode inputs reveal)).2 := by
  rw [← script_eq_lines]
  unfold evaluate script
  cases step : sink.emit state intro with
  | mk answer next =>
      cases answer with
      | error fault => simp [Sink.feed_cons_error step, Except.map]
      | ok accepted =>
          rw [Sink.feed_cons_ok step]
          exact proceed_eq_feed sink mode inputs reveal Stage.all [] next

theorem evaluate_of_feed_ok {sink : Sink State Fault} {mode : Mode} {inputs : Inputs}
    {reveal : Reveal} {state final : State}
    (accepted : sink.feed state (lines mode inputs reveal) = (.ok (), final)) :
    (evaluate sink mode inputs reveal state).outcome = .ok (compute mode inputs reveal) ∧
      (evaluate sink mode inputs reveal state).state = final := by
  obtain ⟨outcome, last⟩ := evaluate_eq_feed sink mode inputs reveal state
  rw [accepted] at outcome last
  exact ⟨outcome, last⟩

theorem evaluate_of_feed_error {sink : Sink State Fault} {mode : Mode} {inputs : Inputs}
    {reveal : Reveal} {state final : State} {fault : Fault}
    (refused : sink.feed state (lines mode inputs reveal) = (.error fault, final)) :
    (evaluate sink mode inputs reveal state).outcome = .error fault ∧
      (evaluate sink mode inputs reveal state).state = final := by
  obtain ⟨outcome, last⟩ := evaluate_eq_feed sink mode inputs reveal state
  rw [refused] at outcome last
  exact ⟨outcome, last⟩

theorem eq_compute_of_ok {sink : Sink State Fault} {mode : Mode} {inputs : Inputs}
    {reveal : Reveal} {state : State} {evaluation : Evaluation}
    (ended : (evaluate sink mode inputs reveal state).outcome = .ok evaluation) :
    evaluation = compute mode inputs reveal := by
  rw [(evaluate_eq_feed sink mode inputs reveal state).1] at ended
  cases answer : (sink.feed state (lines mode inputs reveal)).1 with
  | error fault => simp [answer, Except.map] at ended
  | ok accepted => simpa [answer, Except.map, eq_comm] using ended

/-- Where no line can be refused, every sink sees the same evaluation. -/
@[simp] theorem evaluation_evaluate (sink : Sink State Empty) (mode : Mode) (inputs : Inputs)
    (reveal : Reveal) (state : State) :
    (evaluate sink mode inputs reveal state).evaluation = compute mode inputs reveal := by
  cases fed : sink.feed state (lines mode inputs reveal) with
  | mk answer final =>
      cases answer with
      | error fault => cases fault
      | ok accepted => simp only [EvaluationRun.evaluation, (evaluate_of_feed_ok fed).1]

@[simp] theorem state_evaluate_collect (mode : Mode) (inputs : Inputs) (reveal : Reveal)
    (kept : List String) :
    (evaluate Sink.collect mode inputs reveal kept).state =
      kept ++ lines mode inputs reveal :=
  (evaluate_of_feed_ok (Sink.feed_collect kept (lines mode inputs reveal))).2

private theorem events_proceed {First Second : Type} (first : Sink First Empty)
    (second : Sink Second Empty) (mode : Mode) (inputs : Inputs) (reveal : Reveal)
    (stages : List Stage) (firstRevealed secondRevealed : List StageResult) (firstState : First)
    (secondState : Second) :
    (proceed first mode inputs reveal stages firstRevealed firstState).events =
      (proceed second mode inputs reveal stages secondRevealed secondState).events := by
  induction stages generalizing firstRevealed secondRevealed firstState secondState with
  | nil => rfl
  | cons stage later ih =>
      cases gate : reveal.isOpen stage with
      | false => simp [proceed, gate]
      | true =>
          simp only [proceed, gate, if_true]
          cases first.feed firstState (stage.result mode inputs).lines with
          | mk answer firstNext =>
          cases second.feed secondState (stage.result mode inputs).lines with
          | mk secondAnswer secondNext =>
          cases answer with
          | error fault => cases fault
          | ok accepted =>
          cases secondAnswer with
          | error fault => cases fault
          | ok secondAccepted =>
              simp only [EvaluationRun.after]
              rw [ih]

/-- Where no line can be refused, every sink sees the same events. -/
theorem events_evaluate (sink : Sink State Empty) (mode : Mode) (inputs : Inputs)
    (reveal : Reveal) (state : State) :
    (evaluate sink mode inputs reveal state).events =
      (evaluate Sink.discard mode inputs reveal ()).events := by
  unfold evaluate
  cases sink.emit state intro with
  | mk answer next =>
      cases answer with
      | error fault => cases fault
      | ok accepted =>
          exact events_proceed sink Sink.discard mode inputs reveal Stage.all [] [] next ()

/-- An evaluation against any sink is feeding its lines one at a time up to the first refusal. It
fails exactly if a line is refused, with that refusal, in the state that the refusing call left, and
with that line as the last one offered. Otherwise all lines were offered, and the evaluation is the
one that the stages, the first closed gate and the returned sequence describe. -/
theorem evaluate_offers_lines (sink : Sink State Fault) (mode : Mode) (inputs : Inputs)
    (reveal : Reveal) (state : State) :
    let script := lines mode inputs reveal
    let run := evaluate sink mode inputs reveal state
    let offered := (evaluate sink.recorded mode inputs reveal (state, [])).state.2
    (run.outcome.map (fun _ => ()), run.state) = sink.feed state script ∧
      (∀ fault, run.outcome = .error fault ↔
        ∃ accepted line rest before, script = accepted ++ line :: rest ∧
          sink.feed state accepted = (.ok (), before) ∧
          sink.emit before line = (.error fault, run.state) ∧
          offered = accepted ++ [line]) ∧
      ∀ evaluation, run.outcome = .ok evaluation ↔
        (sink.feed state script).1 = .ok () ∧ offered = script ∧
          evaluation.revealed = reveal.reached.map (·.result mode inputs) ∧
          evaluation.terminatedAt = reveal.terminating? ∧
          evaluation.values = returnedValues mode inputs reveal := by
  intro script run offered
  cases fed : sink.feed state script with
  | mk answer final =>
      cases answer with
      | ok taken =>
          obtain ⟨outcome, last⟩ := evaluate_of_feed_ok fed
          have recorded : offered = script :=
            congrArg Prod.snd (evaluate_of_feed_ok (Sink.feed_recorded_of_ok fed [])).2
          refine ⟨by simp only [run, outcome, last, Except.map], ?_, ?_⟩
          · intro fault
            constructor
            · intro failed
              cases outcome.symm.trans failed
            · rintro ⟨accepted, line, rest, before, split, reached, refused, -⟩
              have failed := Sink.feed_eq_error_iff.mpr
                ⟨accepted, line, rest, before, split, reached, refused⟩
              cases fed.symm.trans failed
          · intro evaluation
            constructor
            · intro ended
              obtain rfl : compute mode inputs reveal = evaluation :=
                Except.ok.inj (outcome.symm.trans ended)
              exact ⟨rfl, recorded, by simp, by simp, by simp⟩
            · rintro ⟨-, -, revealed, terminated, values⟩
              have same : evaluation = compute mode inputs reveal :=
                eq_of_views (by simpa using revealed) (by simpa using terminated)
                  (by simpa using values)
              rw [same]
              exact outcome
      | error fault =>
          obtain ⟨outcome, last⟩ := evaluate_of_feed_error fed
          obtain ⟨accepted, line, rest, before, split, reached, refused⟩ :=
            Sink.feed_eq_error_iff.mp fed
          have recordedFeed := Sink.feed_recorded_of_refused reached refused rest []
          rw [← split] at recordedFeed
          have recorded : offered = accepted ++ [line] :=
            congrArg Prod.snd (evaluate_of_feed_error recordedFeed).2
          refine ⟨by simp only [run, outcome, last, Except.map], ?_, ?_⟩
          · intro other
            constructor
            · intro failed
              obtain rfl : fault = other := Except.error.inj (outcome.symm.trans failed)
              exact ⟨accepted, line, rest, before, split, reached, last ▸ refused, recorded⟩
            · rintro ⟨front, stop, left, held, split', reached', refused', -⟩
              have failed := Sink.feed_eq_error_iff.mpr
                ⟨front, stop, left, held, split', reached', refused'⟩
              obtain ⟨rfl, -⟩ : fault = other ∧ final = run.state := by
                simpa using fed.symm.trans failed
              exact outcome
          · intro evaluation
            constructor
            · intro ended
              cases outcome.symm.trans ended
            · rintro ⟨accepted, -⟩
              simp at accepted

end Evaluation

end RevealGates
