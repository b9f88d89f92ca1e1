/-!
Line sinks: where an evaluation sends its lines.

A sink is a state together with a step that takes one line and either accepts or refuses it.
Refusing may change the state too, so the state after a failure is part of the result. Nothing else
is known of a sink, and whatever is proved about evaluations holds for every one.
-/

set_option autoImplicit false

namespace RevealGates

/-- A destination for lines, with states `State` and refusals `Fault`. -/
structure Sink (State Fault : Type) where
  emit : State → String → Except Fault Unit × State

namespace Sink

variable {State Fault : Type}

/-- Offers lines one at a time and stops at the first refusal, leaving the state that the refusing
call left. -/
def feed (sink : Sink State Fault) : State → List String → Except Fault Unit × State
  | state, [] => (.ok (), state)
  | state, line :: rest =>
      match sink.emit state line with
      | (.ok (), next) => sink.feed next rest
      | (.error fault, next) => (.error fault, next)

@[simp] theorem feed_nil (sink : Sink State Fault) (state : State) :
    sink.feed state [] = (.ok (), state) := rfl

/-- Feeding two lists in turn is feeding the first and, if all of it was accepted, the second. -/
theorem feed_append (sink : Sink State Fault) (state : State) (first second : List String) :
    sink.feed state (first ++ second) =
      match sink.feed state first with
      | (.ok (), next) => sink.feed next second
      | (.error fault, next) => (.error fault, next) := by
  induction first generalizing state with
  | nil => rfl
  | cons line rest ih =>
      simp only [List.cons_append, feed]
      split
      · exact ih _
      · rfl

def collect : Sink (List String) Empty where
  emit lines line := (.ok (), lines ++ [line])

def discard : Sink Unit Empty where
  emit state _ := (.ok (), state)

/-- Refusal of a line by a destination that takes no more. -/
inductive Closed where
  | closed
  deriving DecidableEq, Repr

/-- Keeps the first `room` lines and refuses every line after them. -/
def collectUpTo (room : Nat) : Sink (List String) Closed where
  emit lines line :=
    if lines.length < room then (.ok (), lines ++ [line]) else (.error .closed, lines)

/-- Lines kept by a collecting sink are those it held before and then those fed to it. -/
@[simp] theorem feed_collect (kept lines : List String) :
    collect.feed kept lines = (.ok (), kept ++ lines) := by
  induction lines generalizing kept with
  | nil => simp
  | cons line rest ih => simp [feed, collect] at ih ⊢; simp [ih]

end Sink

end RevealGates
