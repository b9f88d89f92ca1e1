import Mathlib.Data.List.Basic
import RevealGates.Reveal

/-!
Stages in their order, and the first closed gate among them.

What stands in front of a stage is what has a smaller index. The first closed gate is known by the
gates up to it: it is closed, and those in front of it are open. Flipping a gate behind it changes
nothing about that, and flipping any other gate does.
-/

set_option autoImplicit false

namespace RevealGates

/-! ## The order of the stages -/

namespace Stage

theorem mem_all (stage : Stage) : stage ∈ all := by
  cases stage <;> decide

theorem mem_before_iff {earlier stage : Stage} :
    earlier ∈ stage.before ↔ earlier.index < stage.index := by
  simp [before, mem_all]

theorem all_increasing : all.Pairwise fun left right => left.index < right.index := by
  decide

theorem index_lt_of_split {done later : List Stage} {stage : Stage}
    (split : all = done ++ stage :: later) {other : Stage} (behind : other ∈ later) :
    stage.index < other.index := by
  have increasing := all_increasing
  rw [split] at increasing
  exact (List.pairwise_cons.mp (List.pairwise_append.mp increasing).2.1).1 other behind

/-- What stands in front of a stage is what lies below it. -/
theorem before_eq_of_split {done later : List Stage} {stage : Stage}
    (split : all = done ++ stage :: later) : stage.before = done := by
  have increasing := all_increasing
  rw [split] at increasing
  have below : ∀ other ∈ done, other.index < stage.index :=
    fun other front => (List.pairwise_append.mp increasing).2.2 other front stage (.head _)
  have above : ∀ other ∈ stage :: later, ¬ other.index < stage.index := by
    intro other behind
    rcases List.mem_cons.mp behind with rfl | behind
    · exact Nat.lt_irrefl _
    · exact Nat.lt_asymm (index_lt_of_split split behind)
  rw [before, split, List.filter_append, List.filter_eq_self.mpr (by simpa using below),
    List.filter_eq_nil_iff.mpr (by simpa using above), List.append_nil]

/-- A stage and the stages in front of it lead the stages in front of every later one. -/
theorem exists_before_eq {stage later : Stage} (earlier : stage.index < later.index) :
    ∃ between, later.before = stage.before ++ stage :: between := by
  obtain ⟨front, between, cut⟩ := List.mem_iff_append.mp (mem_before_iff.mpr earlier)
  obtain ⟨done, rest, split⟩ := List.mem_iff_append.mp (mem_all later)
  have whole : all = front ++ stage :: (between ++ later :: rest) := by
    rw [split, ← before_eq_of_split split, cut, List.append_assoc]
    rfl
  exact ⟨between, by rw [cut, before_eq_of_split whole]⟩

/-- Searching the stages finds the one of least index. -/
theorem find?_all_eq_some_iff {wanted : Stage → Bool} {stage : Stage} :
    all.find? wanted = some stage ↔ wanted stage = true ∧
      ∀ earlier : Stage, earlier.index < stage.index → wanted earlier = false := by
  rw [List.find?_eq_some_iff_append]
  constructor
  · rintro ⟨holds, front, back, split, fails⟩
    refine ⟨holds, fun earlier below => ?_⟩
    rw [← mem_before_iff, before_eq_of_split split] at below
    simpa using fails earlier below
  · rintro ⟨holds, fails⟩
    obtain ⟨front, back, split⟩ := List.mem_iff_append.mp stage.mem_all
    refine ⟨holds, front, back, split, fun earlier included => ?_⟩
    rw [← before_eq_of_split split, mem_before_iff] at included
    simpa using fails earlier included

theorem index_injective {left right : Stage} (same : left.index = right.index) : left = right := by
  cases left <;> cases right <;> first | rfl | cases same

end Stage

/-! ## The first closed gate -/

namespace Reveal

variable {reveal : Reveal} {closed stage : Stage}

theorem terminating?_eq_none_iff :
    reveal.terminating? = none ↔ ∀ stage, reveal.isOpen stage = true := by
  simp [terminating?, Stage.mem_all]

theorem terminating?_eq_some_iff :
    reveal.terminating? = some closed ↔ reveal.isOpen closed = false ∧
      ∀ earlier : Stage, earlier.index < closed.index → reveal.isOpen earlier = true := by
  rw [terminating?, Stage.find?_all_eq_some_iff]
  simp

/-- The gates with that of one stage the other way round. -/
def flip (reveal : Reveal) (stage : Stage) : Reveal :=
  reveal.set stage (!reveal.isOpen stage)

@[simp] theorem isOpen_flip_self : (reveal.flip stage).isOpen stage = !reveal.isOpen stage := by
  simp [flip, set]

theorem isOpen_flip_of_ne {other : Stage} (different : other ≠ stage) :
    (reveal.flip stage).isOpen other = reveal.isOpen other := by
  simp [flip, set, different]

/-- A gate can be flipped without moving the first closed gate only behind it. -/
theorem terminating?_flip_eq_iff :
    (reveal.flip stage).terminating? = reveal.terminating? ↔
      ∃ closed, reveal.terminating? = some closed ∧ closed.index < stage.index := by
  constructor
  · intro same
    cases found : reveal.terminating? with
    | none =>
        rw [found, terminating?_eq_none_iff] at same
        have flipped := same stage
        rw [isOpen_flip_self, terminating?_eq_none_iff.mp found stage] at flipped
        cases flipped
    | some closed =>
        rw [found, terminating?_eq_some_iff] at same
        obtain ⟨gate, opened⟩ := terminating?_eq_some_iff.mp found
        refine ⟨closed, rfl, Nat.lt_of_not_le fun atMost => ?_⟩
        rcases Nat.lt_or_eq_of_le atMost with below | equal
        · have flipped := same.2 stage below
          rw [isOpen_flip_self, opened stage below] at flipped
          cases flipped
        · obtain rfl := Stage.index_injective equal
          have flipped := same.1
          rw [isOpen_flip_self, gate] at flipped
          cases flipped
  · rintro ⟨closed, found, behind⟩
    obtain ⟨gate, opened⟩ := terminating?_eq_some_iff.mp found
    have kept (other : Stage) (upTo : other.index ≤ closed.index) :
        (reveal.flip stage).isOpen other = reveal.isOpen other := by
      refine isOpen_flip_of_ne ?_
      rintro rfl
      omega
    rw [found, terminating?_eq_some_iff]
    exact ⟨(kept closed (Nat.le_refl _)).trans gate,
      fun earlier below => (kept earlier (Nat.le_of_lt below)).trans (opened earlier below)⟩

end Reveal

end RevealGates
