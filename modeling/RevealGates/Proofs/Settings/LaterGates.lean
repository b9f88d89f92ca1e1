import RevealGates.Proofs.Evaluation.SameCourse
import RevealGates.Proofs.Settings.Warnings

/-!
Gates without effect.

A settings file may mention gates that no evaluation ever looks at. Which ones those are is decided
by their place: they stand behind the first closed gate. That this is what it means to have no
effect is a statement about evaluations, against every sink.
-/

set_option autoImplicit false

namespace RevealGates

open Evaluation (evaluate)

/-- With this one gate the other way round every evaluation gives the same result and leaves its
sink in the same state. -/
def Reveal.FlipIsHarmless (reveal : Reveal) (stage : Stage) : Prop :=
  ∀ (State Fault : Type) (sink : Sink State Fault) (mode : Mode) (inputs : Inputs) (state : State),
    let flipped := evaluate sink mode inputs (reveal.flip stage) state
    let plain := evaluate sink mode inputs reveal state
    flipped.outcome = plain.outcome ∧ flipped.state = plain.state

theorem Reveal.flipIsHarmless_iff {reveal : Reveal} {stage : Stage} :
    reveal.FlipIsHarmless stage ↔
      ∃ closed, reveal.terminating? = some closed ∧ closed.index < stage.index := by
  rw [← terminating?_flip_eq_iff]
  constructor
  · intro harmless
    -- A sink that refuses nothing gets to see where the evaluation ends.
    obtain ⟨outcomes, -⟩ := harmless _ _ Sink.collect .fixture ⟨true, true, true, true⟩ []
    rw [(Evaluation.evaluate_of_feed_ok (Sink.feed_collect [] _)).1,
      (Evaluation.evaluate_of_feed_ok (Sink.feed_collect [] _)).1] at outcomes
    simpa using congrArg Evaluation.terminatedAt (Except.ok.inj outcomes)
  · intro same State Fault sink mode inputs state
    exact Evaluation.evaluate_eq_of_sameCourse sink state ⟨same, .inl rfl⟩

namespace Settings

variable {members : Toml.Table} {reveal : Reveal} {closed stage : Stage}

theorem mem_laterGates_iff :
    stage ∈ laterGates members closed ↔
      closed.index < stage.index ∧ (members.get? stage.key).isSome := by
  simp [laterGates, Stage.mem_all]

/-- The gates that the table mentions without effect, if there is a closed gate at all. -/
def idleGates (members : Toml.Table) (reveal : Reveal) : List Stage :=
  reveal.terminating?.elim [] (laterGates members)

theorem idleGates_sublist : (idleGates members reveal).Sublist Stage.all := by
  unfold idleGates
  cases reveal.terminating? with
  | none => exact List.nil_sublist _
  | some closed => exact List.filter_sublist

theorem mem_idleGates_iff :
    stage ∈ idleGates members reveal ↔
      (members.get? stage.key).isSome ∧ reveal.FlipIsHarmless stage := by
  rw [Reveal.flipIsHarmless_iff, idleGates]
  cases reveal.terminating? with
  | none => simp
  | some closed => simpa using mem_laterGates_iff.trans and_comm

theorem laterGatesEvents_of_none (path : String) (none : idleGates members reveal = []) :
    laterGatesEvents path members reveal = [] := by
  unfold laterGatesEvents
  cases found : reveal.terminating? with
  | none => rfl
  | some closed =>
      rw [idleGates, found, Option.elim_some] at none
      simp only [none]

theorem laterGatesEvents_of_some (path : String) (found : reveal.terminating? = some closed)
    (some : idleGates members reveal ≠ []) :
    laterGatesEvents path members reveal =
      [.event (.laterGates path closed (idleGates members reveal))] := by
  rw [idleGates, found, Option.elim_some] at some ⊢
  simp only [laterGatesEvents, found]

/-- The key of a closed gate is there, since a gate that is not mentioned is open. -/
theorem get?_of_flagOr_eq_false {found : Option Toml.Value} (off : flagOr true found = false) :
    found = some (.boolean false) := by
  unfold flagOr at off
  split at off
  · rw [off]
  · cases off

/-- A table of gates, whatever else it holds, is told of for the gates in it that have no effect,
and for no others. Such a gate can be flipped in every evaluation, whatever sink takes its lines,
without any difference to the result; flipping any other gate makes a difference. The message lists
them in the order of the stages, and names the first closed gate, which the table closes itself. -/
theorem decodeReveal_tells_of_gates_without_effect (path : String) (members : Toml.Table)
    (unique : members.keys.Nodup)
    (flags : ∀ (stage : Stage) (value : Toml.Value), members.get? stage.key = some value →
      ∃ flag, value = .boolean flag) :
    let decoding := decodeReveal path (some (.table members))
    let events := decoding.notices.filterMap Notice.event?
    ∃ reveal listed, decoding.outcome = .ok reveal ∧
      (∀ stage, reveal.isOpen stage = flagOr true (members.get? stage.key)) ∧
      listed.Sublist Stage.all ∧
      (∀ stage, stage ∈ listed ↔
        (members.get? stage.key).isSome ∧ reveal.FlipIsHarmless stage) ∧
      (∀ stage ∈ listed,
        ∃ closed, reveal.terminating? = some closed ∧ closed.index < stage.index) ∧
      (listed = [] → events = []) ∧
      (listed ≠ [] → ∃ closed, reveal.terminating? = some closed ∧
        members.get? closed.key = some (.boolean false) ∧
        events = [.laterGates path closed listed] ∧
        (Event.laterGates path closed listed).message =
          Text.escaped path ++ ": reveal." ++ closed.key ++
            " is closed; later gates have no effect: " ++
            ", ".intercalate (listed.map Stage.key)) := by
  intro decoding events
  have accepted (stage : Stage) : ¬ NoFlag (members.get? stage.key) := by
    rintro ⟨value, found, refused⟩
    obtain ⟨flag, same⟩ := flags stage value found
    exact refused flag same
  obtain ⟨unknown, reveal, -, gates, decoded⟩ := decodeReveal_of_flags path unique accepted
  have told : events = (laterGatesEvents path members reveal).filterMap Notice.event? := by
    have quiet : (unknown.map fun key => Notice.warning (.unknownGate path key)).filterMap
        Notice.event? = [] :=
      List.filterMap_eq_nil_iff.mpr fun notice included => by
        obtain ⟨key, -, rfl⟩ := List.mem_map.mp included
        rfl
    simp only [events, decoding, decoded, List.filterMap_append, quiet, List.nil_append]
  refine ⟨reveal, idleGates members reveal, congrArg Decoding.outcome decoded, gates,
    idleGates_sublist, fun stage => mem_idleGates_iff, ?_, ?_, ?_⟩
  · intro stage included
    exact Reveal.flipIsHarmless_iff.mp (mem_idleGates_iff.mp included).2
  · intro none
    rw [told, laterGatesEvents_of_none path none]
    rfl
  · intro some
    obtain ⟨stage, included⟩ := List.exists_mem_of_ne_nil _ some
    obtain ⟨closed, found, -⟩ := Reveal.flipIsHarmless_iff.mp (mem_idleGates_iff.mp included).2
    rw [laterGatesEvents_of_some path found some] at told
    have off := (Reveal.terminating?_eq_some_iff.mp found).1
    rw [gates] at off
    exact ⟨closed, found, get?_of_flagOr_eq_false off, told, rfl⟩

/-- Two gates behind the first closed one, not in the order of stages, and a key that is none. -/
def crossed : Toml.Table :=
  [("inverted_triples", .boolean false), ("pair", .integer 1), ("triples", .boolean true),
    ("pairs", .boolean false), ("singles", .boolean true)]

theorem decodeReveal_tells_of_crossed :
    let decoding := decodeReveal "gates.toml" (some (.table crossed))
    let reveal : Reveal := { pairs := false, invertedTriples := false }
    decoding.outcome = .ok reveal ∧
      decoding.notices.filterMap Notice.event? =
        [.laterGates "gates.toml" .pairs [.triples, .invertedTriples]] ∧
      ∀ stage, (crossed.get? stage.key).isSome ∧ reveal.FlipIsHarmless stage ↔
        stage = .triples ∨ stage = .invertedTriples := by
  intro decoding reveal
  have unique : crossed.keys.Nodup := by decide
  have flags (stage : Stage) (value : Toml.Value)
      (found : crossed.get? stage.key = some value) : ∃ flag, value = .boolean flag := by
    cases stage <;> simp [crossed, Toml.Members.get?, Stage.key] at found <;> exact ⟨_, found.symm⟩
  obtain ⟨decoded, listed, outcome, -, -, mentioned, -, silent, told⟩ :=
    decodeReveal_tells_of_gates_without_effect "gates.toml" crossed unique flags
  have result : decodeReveal "gates.toml" (some (.table crossed)) =
      ⟨[.warning (.unknownGate "gates.toml" "pair"),
        .event (.laterGates "gates.toml" .pairs [.triples, .invertedTriples])], .ok reveal⟩ := by
    cbv
  have ended : decoding.outcome = .ok reveal := congrArg Decoding.outcome result
  have events : decoding.notices.filterMap Notice.event? =
      [.laterGates "gates.toml" .pairs [.triples, .invertedTriples]] :=
    congrArg (fun decoding => decoding.notices.filterMap Notice.event?) result
  obtain rfl : reveal = decoded := Except.ok.inj (ended.symm.trans outcome)
  have some : listed ≠ [] := fun none => by cases (silent none).symm.trans events
  obtain ⟨closed, -, -, given, -⟩ := told some
  obtain rfl : listed = [.triples, .invertedTriples] := by
    cases given.symm.trans events
    rfl
  exact ⟨ended, events, fun stage => (mentioned stage).symm.trans (by simp)⟩

end Settings

end RevealGates
