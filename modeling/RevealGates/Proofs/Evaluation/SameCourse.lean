import RevealGates.Proofs.Evaluation
import RevealGates.Proofs.Reveal

/-!
Settings under which evaluations cannot be told apart.

Which stages are computed depends on the first closed gate alone, and of these only the inverted
pairs depend on the mode, where B and C and B and D are not the same. No sink notices any other
difference between two settings, and every one of these shows in the evaluation itself.
-/

set_option autoImplicit false

namespace RevealGates

theorem Stage.values_eq_iff {stage : Stage} {mode other : Mode} {inputs : Inputs} :
    stage.values mode inputs = stage.values other inputs ↔
      mode = other ∨ stage ≠ .invertedPairs ∨
        (inputs.b && inputs.c) = (inputs.b && inputs.d) := by
  cases stage with
  | invertedPairs =>
      cases mode <;> cases other <;> simp [values, Mode.invertedPairs, -Bool.not_and, eq_comm]
  | singles | invertedSingles | pairs | triples | invertedTriples => simp [values]

namespace Reveal

/-- The stages that an evaluation computes when no line is refused: those that it reveals and the
one that it returns. -/
def computed (reveal : Reveal) : List Stage :=
  reveal.reached ++ reveal.terminating?.toList

theorem mem_computed_iff {reveal : Reveal} {stage : Stage} :
    stage ∈ reveal.computed ↔
      ¬ ∃ closed, reveal.terminating? = some closed ∧ closed.index < stage.index := by
  unfold computed reached
  cases reveal.terminating? with
  | none => simp [Stage.mem_all]
  | some closed =>
      have same : stage = closed ↔ stage.index = closed.index :=
        ⟨congrArg Stage.index, Stage.index_injective⟩
      simp only [Option.toList_some, List.mem_append, Stage.mem_before_iff, List.mem_singleton,
        same, Option.some.injEq, exists_eq_left']
      omega

theorem reached_eq_of_terminating?_eq {reveal other : Reveal}
    (same : reveal.terminating? = other.terminating?) : reveal.reached = other.reached := by
  rw [reached, reached, same]

end Reveal

namespace Evaluation

variable {State Fault : Type} {mode other : Mode} {inputs : Inputs} {reveal others : Reveal}

/-- The first closed gate is the same, and the mode is the same or makes no difference: because the
evaluation ends before the inverted pairs, or because of the inputs. -/
structure SameCourse (inputs : Inputs) (mode other : Mode) (reveal others : Reveal) : Prop where
  terminating : reveal.terminating? = others.terminating?
  mode : mode = other ∨
    (∃ stage, reveal.terminating? = some stage ∧ stage.index < Stage.invertedPairs.index) ∨
    (inputs.b && inputs.c) = (inputs.b && inputs.d)

theorem forall_values_eq_iff :
    (∀ stage ∈ reveal.computed, stage.values mode inputs = stage.values other inputs) ↔
      mode = other ∨
        (∃ stage, reveal.terminating? = some stage ∧ stage.index < Stage.invertedPairs.index) ∨
        (inputs.b && inputs.c) = (inputs.b && inputs.d) := by
  rw [← not_iff_comm.mp Reveal.mem_computed_iff.symm]
  constructor
  · intro agree
    by_cases included : Stage.invertedPairs ∈ reveal.computed
    · simpa [included] using Stage.values_eq_iff.mp (agree _ included)
    · exact .inr (.inl included)
  · rintro same stage included
    refine Stage.values_eq_iff.mpr (same.imp_right (Or.imp_left fun excluded => ?_))
    rintro rfl
    exact excluded included

theorem lines_eq_of_sameCourse (same : SameCourse inputs mode other reveal others) :
    lines mode inputs reveal = lines other inputs others := by
  have agree := forall_values_eq_iff.mpr same.mode
  rw [lines, lines, ← Reveal.reached_eq_of_terminating?_eq same.terminating]
  congr 1
  refine List.flatMap_congr fun stage included => ?_
  rw [agree stage (List.mem_append_left _ included)]

/-- Evaluations are the same exactly if their settings take the same course. -/
theorem compute_eq_iff_sameCourse :
    compute mode inputs reveal = compute other inputs others ↔
      SameCourse inputs mode other reveal others := by
  constructor
  · intro same
    have terminating : reveal.terminating? = others.terminating? := by
      simpa using congrArg terminatedAt same
    refine ⟨terminating, forall_values_eq_iff.mp fun stage included => ?_⟩
    have results : stage.result mode inputs = stage.result other inputs := by
      rcases List.mem_append.mp included with front | last
      · have revealed := congrArg Evaluation.revealed same
        simp only [revealed_compute, ← Reveal.reached_eq_of_terminating?_eq terminating] at revealed
        exact List.map_inj_left.mp revealed stage front
      · have returned := congrArg Evaluation.returned same
        rw [Option.mem_toList] at last
        simpa [compute, ← terminating, Option.mem_def.mp last] using returned
    exact congrArg StageResult.values results
  · intro same
    have agree := forall_values_eq_iff.mpr same.mode
    have results : ∀ stage ∈ reveal.computed,
        stage.result mode inputs = stage.result other inputs :=
      fun stage included => congrArg (StageResult.mk stage) (agree stage included)
    rw [compute, compute, Reveal.revealed_eq_reached, Reveal.revealed_eq_reached,
      ← Reveal.reached_eq_of_terminating?_eq same.terminating, ← same.terminating]
    congr 1
    · refine List.map_congr_left fun stage included => ?_
      exact results stage (List.mem_append_left _ included)
    · refine Option.map_congr fun stage found => ?_
      exact results stage (List.mem_append_right _ (Option.mem_toList.mpr found))

theorem evaluate_eq_of_sameCourse (sink : Sink State Fault) (state : State)
    (same : SameCourse inputs mode other reveal others) :
    (evaluate sink mode inputs reveal state).outcome =
        (evaluate sink other inputs others state).outcome ∧
      (evaluate sink mode inputs reveal state).state =
        (evaluate sink other inputs others state).state := by
  obtain ⟨firstOutcome, firstState⟩ := evaluate_eq_feed sink mode inputs reveal state
  obtain ⟨secondOutcome, secondState⟩ := evaluate_eq_feed sink other inputs others state
  rw [lines_eq_of_sameCourse same, compute_eq_iff_sameCourse.mpr same, ← secondOutcome]
    at firstOutcome
  rw [lines_eq_of_sameCourse same, ← secondState] at firstState
  exact ⟨firstOutcome, firstState⟩

/-- Two settings that take the same course give the same result against every sink and leave it in
the same state, whether lines are refused or not. Two settings that end with the same evaluation
take the same course. -/
theorem evaluate_agrees_iff_same_course (sink : Sink State Fault) (state : State) (inputs : Inputs)
    (reveal others : Reveal) (mode other : Mode) :
    let first := evaluate sink mode inputs reveal state
    let second := evaluate sink other inputs others state
    (SameCourse inputs mode other reveal others →
        first.outcome = second.outcome ∧ first.state = second.state) ∧
      ∀ evaluation, first.outcome = .ok evaluation → second.outcome = .ok evaluation →
        SameCourse inputs mode other reveal others := by
  intro first second
  refine ⟨evaluate_eq_of_sameCourse sink state, fun evaluation firstEnds secondEnds => ?_⟩
  exact compute_eq_iff_sameCourse.mp
    ((eq_compute_of_ok firstEnds).symm.trans (eq_compute_of_ok secondEnds))

end Evaluation

end RevealGates
