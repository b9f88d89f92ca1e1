import RevealGates.Proofs.Evaluation
import RevealGates.Proofs.Reveal
import RevealGates.TruthTable

/-!
What an evaluation tells about its progress.

A stage is told of as soon as it is computed. That happens only after everything in front of it was
revealed: the earlier gates are open, and the sink took every line up to the last value of the stage
before. How an evaluation ended is told last, if it was not cut short.
-/

set_option autoImplicit false

namespace RevealGates

namespace Sink

variable {State Fault : Type}

theorem isOk_feed_of_append {sink : Sink State Fault} {state : State} {first second : List String}
    (accepted : (sink.feed state (first ++ second)).1.isOk = true) :
    (sink.feed state first).1.isOk = true := by
  rw [feed_append] at accepted
  cases fed : sink.feed state first with
  | mk answer next =>
      cases answer with
      | ok taken => rfl
      | error fault => simp [fed, Except.isOk, Except.toBool] at accepted

end Sink

/-! ## The stages that are computed -/

namespace Evaluation

variable {State Fault : Type}

/-- The lines that come before a stage: the introduction and all lines of the stages in front. -/
def linesBefore (mode : Mode) (inputs : Inputs) (stage : Stage) : List String :=
  intro :: stage.before.flatMap fun earlier =>
    earlier.header :: (earlier.values mode inputs).map valueText

/-- All gates in front of the stage are open, and the sink takes every line that comes before it. -/
def arrivesAt (sink : Sink State Fault) (mode : Mode) (inputs : Inputs) (reveal : Reveal)
    (state : State) (stage : Stage) : Bool :=
  stage.before.all reveal.isOpen &&
    (sink.feed state (linesBefore mode inputs stage)).1.isOk

/-- What is told last: how the evaluation ended, and nothing if a line was refused. -/
def closing : Except Fault Evaluation → List Event
  | .error _ => []
  | .ok evaluation =>
      match evaluation.terminatedAt with
      | some stage => [.gateClosed stage]
      | none => [.allRevealed]

section Arrival

variable {sink : Sink State Fault} {mode : Mode} {inputs : Inputs} {reveal : Reveal} {state : State}
  {stage : Stage}

theorem linesBefore_of_split {done later : List Stage}
    (split : Stage.all = done ++ stage :: later) :
    linesBefore mode inputs stage =
      intro :: done.flatMap fun earlier => (earlier.result mode inputs).lines := by
  rw [linesBefore, Stage.before_eq_of_split split]
  rfl

/-- An evaluation that arrives at a stage has passed all stages in front of it. -/
theorem passed_of_arrivesAt {later : Stage} (earlier : stage.index < later.index)
    (arrives : arrivesAt sink mode inputs reveal state later = true) :
    reveal.isOpen stage = true ∧
      (sink.feed state (linesBefore mode inputs stage ++ (stage.result mode inputs).lines)).1.isOk
        = true := by
  obtain ⟨opened, accepted⟩ := (Bool.and_eq_true _ _).mp arrives
  obtain ⟨between, before⟩ := Stage.exists_before_eq earlier
  have lines : linesBefore mode inputs later =
      (linesBefore mode inputs stage ++ (stage.result mode inputs).lines) ++
        between.flatMap fun other => (other.result mode inputs).lines := by
    simp only [linesBefore, before, List.flatMap_append, List.flatMap_cons, StageResult.lines,
      Stage.result, List.cons_append, List.append_assoc]
  refine ⟨List.all_eq_true.mp opened stage (Stage.mem_before_iff.mpr earlier), ?_⟩
  rw [lines] at accepted
  exact Sink.isOk_feed_of_append accepted

/-- Behind a stage that is not passed an evaluation arrives nowhere. -/
theorem filter_arrivesAt_eq_nil {done later : List Stage}
    (split : Stage.all = done ++ stage :: later)
    (stopped : reveal.isOpen stage = false ∨
      (sink.feed state (linesBefore mode inputs stage ++ (stage.result mode inputs).lines)).1.isOk
        = false) :
    later.filter (arrivesAt sink mode inputs reveal state) = [] := by
  refine List.filter_eq_nil_iff.mpr fun other behind arrives => ?_
  obtain ⟨opened, accepted⟩ := passed_of_arrivesAt (Stage.index_lt_of_split split behind) arrives
  rcases stopped with closed | refused
  · cases closed.symm.trans opened
  · cases refused.symm.trans accepted

/-- What an evaluation tells from a stage onwards, once it has come there. -/
theorem events_proceed_eq {start : State} {done stages : List Stage}
    (split : Stage.all = done ++ stages) (opened : ∀ earlier ∈ done, reveal.isOpen earlier = true)
    (fed : sink.feed start (intro :: done.flatMap fun earlier =>
      (earlier.result mode inputs).lines) = (.ok (), state))
    (revealed : List StageResult) :
    (proceed sink mode inputs reveal stages revealed state).events =
      (stages.filter (arrivesAt sink mode inputs reveal start)).map
          (fun stage => .computed stage (stage.values mode inputs)) ++
        closing (proceed sink mode inputs reveal stages revealed state).outcome := by
  -- The stages that are done grow at their end, as do the lines that were taken.
  induction stages generalizing done state revealed with
  | nil => rfl
  | cons stage later ih =>
      have before : linesBefore mode inputs stage = _ := linesBefore_of_split split
      have arrives : arrivesAt sink mode inputs reveal start stage = true := by
        rw [arrivesAt, before, fed, Stage.before_eq_of_split split, List.all_eq_true.mpr opened]
        rfl
      rw [List.filter_cons_of_pos arrives, List.map_cons, List.cons_append]
      cases gate : reveal.isOpen stage with
      | false =>
          rw [filter_arrivesAt_eq_nil split (.inl gate)]
          simp [proceed, gate, closing, terminatedAt, Stage.result]
      | true =>
          cases offered : sink.feed state (stage.result mode inputs).lines with
          | mk answer next =>
              cases answer with
              | error fault =>
                  have refused : (sink.feed start
                      (linesBefore mode inputs stage ++ (stage.result mode inputs).lines)).1.isOk
                        = false := by
                    rw [before, Sink.feed_append, fed]
                    simp only [offered]
                    rfl
                  rw [filter_arrivesAt_eq_nil split (.inr refused)]
                  simp only [proceed, gate, if_true, offered]
                  rfl
              | ok accepted =>
                  have doneSplit : Stage.all = (done ++ [stage]) ++ later := by simp [split]
                  have doneOpened : ∀ earlier ∈ done ++ [stage], reveal.isOpen earlier = true := by
                    simpa [or_imp, forall_and] using And.intro opened gate
                  have doneFed : sink.feed start (intro :: (done ++ [stage]).flatMap fun earlier =>
                      (earlier.result mode inputs).lines) = (.ok (), next) := by
                    rw [List.flatMap_append, ← List.cons_append, Sink.feed_append, fed]
                    simpa using offered
                  have onwards := ih doneSplit doneOpened doneFed
                    (revealed ++ [stage.result mode inputs])
                  simp only [proceed, gate, if_true, offered, EvaluationRun.after, onwards]
                  rfl

theorem events_evaluate_eq (sink : Sink State Fault) (mode : Mode) (inputs : Inputs)
    (reveal : Reveal) (state : State) :
    (evaluate sink mode inputs reveal state).events =
      (Stage.all.filter (arrivesAt sink mode inputs reveal state)).map
          (fun stage => .computed stage (stage.values mode inputs)) ++
        closing (evaluate sink mode inputs reveal state).outcome := by
  unfold evaluate
  cases step : sink.emit state intro with
  | mk answer next =>
      cases answer with
      | error fault =>
          have nowhere : Stage.all.filter (arrivesAt sink mode inputs reveal state) = [] := by
            refine List.filter_eq_nil_iff.mpr fun stage _ arrives => ?_
            rw [arrivesAt, linesBefore, Sink.feed_cons_error step] at arrives
            simp [Except.isOk, Except.toBool] at arrives
          simp [nowhere, closing]
      | ok accepted =>
          have fed : sink.feed state (intro :: ([] : List Stage).flatMap fun earlier =>
              (earlier.result mode inputs).lines) = (.ok (), next) := Sink.feed_cons_ok step []
          exact events_proceed_eq rfl (by simp) fed []

theorem computed_not_mem_closing (outcome : Except Fault Evaluation) (values : List Bool) :
    Event.computed stage values ∉ closing outcome := by
  unfold closing
  split
  · simp
  · split <;> simp

theorem gateClosed_mem_closing_iff {outcome : Except Fault Evaluation} :
    Event.gateClosed stage ∈ closing outcome ↔
      ∃ evaluation, outcome = .ok evaluation ∧ evaluation.terminatedAt = some stage := by
  cases outcome with
  | error fault => simp [closing]
  | ok evaluation =>
      cases ended : evaluation.terminatedAt with
      | none => simp [closing, ended]
      | some closed => simpa [closing, ended] using eq_comm

theorem allRevealed_mem_closing_iff {outcome : Except Fault Evaluation} :
    Event.allRevealed ∈ closing outcome ↔
      ∃ evaluation, outcome = .ok evaluation ∧ evaluation.terminatedAt = none := by
  cases outcome with
  | error fault => simp [closing]
  | ok evaluation => cases ended : evaluation.terminatedAt <;> simp [closing, ended]

theorem computed_mem_events_iff {values : List Bool} :
    Event.computed stage values ∈ (evaluate sink mode inputs reveal state).events ↔
      arrivesAt sink mode inputs reveal state stage = true ∧ values = stage.values mode inputs := by
  rw [events_evaluate_eq, List.mem_append, or_iff_left (computed_not_mem_closing _ _)]
  simp only [List.mem_map, List.mem_filter, Event.computed.injEq]
  constructor
  · rintro ⟨other, ⟨-, arrives⟩, rfl, rfl⟩
    exact ⟨arrives, rfl⟩
  · rintro ⟨arrives, rfl⟩
    exact ⟨stage, ⟨stage.mem_all, arrives⟩, rfl, rfl⟩

end Arrival

/-- Against any sink an evaluation tells of exactly the stages that it arrives at, in their order
and with their values, and then how it ended, if no line was refused: at the first closed gate or
past all of them. Nothing is told of an evaluation whose first line is refused, and where the lines
of a stage are refused that stage is the last one told of. To look up the returned sequence instead
gives what an evaluation that comes to its end returns, and tells of nothing; nor does a sweep,
which makes sixteen look-ups, tell of any evaluation. -/
theorem evaluate_tells_of_stages_arrived_at (sink : Sink State Fault) (mode : Mode)
    (inputs : Inputs) (reveal : Reveal) (state : State) :
    let run := evaluate sink mode inputs reveal state
    let arrives := arrivesAt sink mode inputs reveal state
    run.events = (Stage.all.filter arrives).map
        (fun stage => .computed stage (stage.values mode inputs)) ++ closing run.outcome ∧
      (∀ stage, .gateClosed stage ∈ run.events ↔
        (∃ evaluation, run.outcome = .ok evaluation ∧ evaluation.terminatedAt = some stage)) ∧
      (.allRevealed ∈ run.events ↔
        ∃ evaluation, run.outcome = .ok evaluation ∧ evaluation.terminatedAt = none) ∧
      (∀ evaluation, run.outcome = .ok evaluation →
        evaluation.terminatedAt = reveal.terminating?) ∧
      ((sink.emit state intro).1.isOk = false → run.events = []) ∧
      (∀ stage, arrives stage = true →
        (sink.feed state
          (linesBefore mode inputs stage ++ (stage.result mode inputs).lines)).1.isOk = false →
        .computed stage (stage.values mode inputs) ∈ run.events ∧
          ∀ later values, stage.index < later.index → .computed later values ∉ run.events) ∧
      ((lookUp mode inputs reveal).events = [] ∧ ∀ evaluation, run.outcome = .ok evaluation →
        (lookUp mode inputs reveal).values = evaluation.values) ∧
      ∀ event ∈ TruthTable.sweepEvents mode reveal, event.origin ≠ "boolgate::eval" := by
  intro run arrives
  have told : run.events = _ := events_evaluate_eq sink mode inputs reveal state
  have last (event : Event) (other : ∀ stage values, event ≠ .computed stage values) :
      event ∈ run.events ↔ event ∈ closing run.outcome := by
    rw [told, List.mem_append, or_iff_right]
    intro included
    obtain ⟨stage, -, rfl⟩ := List.mem_map.mp included
    exact other stage _ rfl
  refine ⟨told, ?_, ?_, ?_, ?_, ?_, ⟨rfl, ?_⟩, ?_⟩
  · intro stage
    rw [last _ (by simp), gateClosed_mem_closing_iff]
  · rw [last _ (by simp), allRevealed_mem_closing_iff]
  · intro evaluation ended
    rw [eq_compute_of_ok ended, terminatedAt_compute]
  · intro refused
    simp only [run, evaluate]
    cases step : sink.emit state intro with
    | mk answer next =>
        cases answer with
        | error fault => rfl
        | ok accepted =>
            rw [step] at refused
            cases refused
  · intro stage arrived refused
    refine ⟨computed_mem_events_iff.mpr ⟨arrived, rfl⟩, fun later values behind told => ?_⟩
    obtain ⟨-, accepted⟩ := passed_of_arrivesAt behind (computed_mem_events_iff.mp told).1
    cases refused.symm.trans accepted
  · intro evaluation ended
    rw [eq_compute_of_ok ended, values_compute]
    rfl
  · intro event included
    rw [TruthTable.sweepEvents_eq, List.mem_singleton] at included
    simp [included, Event.origin]

/-- A sink with room for seven lines takes no value of the second stage, which is told of anyway. -/
example : (evaluate (Sink.collectUpTo 7) .fixture ⟨true, false, true, false⟩ {} []).events =
    [.computed .singles [true, false, true, false],
      .computed .invertedSingles [false, true, false, true]] := by
  decide

end Evaluation

end RevealGates
