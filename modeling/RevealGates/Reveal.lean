import RevealGates.Stage

/-!
Reveal gates: one flag per stage.

An open gate lets its stage be revealed. The first closed gate ends an evaluation, so the gates
after it have no effect.
-/

set_option autoImplicit false

namespace RevealGates

/-- Which gates are open. A gate that nobody mentions is open. -/
structure Reveal where
  singles : Bool := true
  invertedSingles : Bool := true
  pairs : Bool := true
  invertedPairs : Bool := true
  triples : Bool := true
  invertedTriples : Bool := true
  deriving DecidableEq, Repr

namespace Reveal

def isOpen (reveal : Reveal) : Stage → Bool
  | .singles => reveal.singles
  | .invertedSingles => reveal.invertedSingles
  | .pairs => reveal.pairs
  | .invertedPairs => reveal.invertedPairs
  | .triples => reveal.triples
  | .invertedTriples => reveal.invertedTriples

/-- The gates that are open at exactly the stages of a predicate. -/
def ofStages (isOpen : Stage → Bool) : Reveal where
  singles := isOpen .singles
  invertedSingles := isOpen .invertedSingles
  pairs := isOpen .pairs
  invertedPairs := isOpen .invertedPairs
  triples := isOpen .triples
  invertedTriples := isOpen .invertedTriples

@[simp] theorem isOpen_ofStages (choice : Stage → Bool) (stage : Stage) :
    (ofStages choice).isOpen stage = choice stage := by
  cases stage <;> rfl

@[simp] theorem ofStages_isOpen (reveal : Reveal) : ofStages reveal.isOpen = reveal := rfl

def everything : Reveal := ofStages fun _ => true

def nothing : Reveal := ofStages fun _ => false

def set (reveal : Reveal) (stage : Stage) (flag : Bool) : Reveal :=
  ofStages fun other => if other = stage then flag else reveal.isOpen other

/-- The gates that are open exactly before a stage, so that an evaluation ends there. -/
def stoppingAt (stage : Stage) : Reveal :=
  ofStages fun other => other.index < stage.index

def flags (reveal : Reveal) : List Bool :=
  Stage.all.map reveal.isOpen

/-- Six flags in stage order; no other number of flags describes the gates. -/
def ofFlags? : List Bool → Option Reveal
  | [singles, invertedSingles, pairs, invertedPairs, triples, invertedTriples] =>
      some ⟨singles, invertedSingles, pairs, invertedPairs, triples, invertedTriples⟩
  | _ => none

@[simp] theorem ofFlags?_flags (reveal : Reveal) : ofFlags? reveal.flags = some reveal := rfl

def text (reveal : Reveal) : String :=
  Bits.format reveal.flags

/-- Reads six bits. A bad character is reported before a wrong count. -/
def parse (text : String) : Except ArgumentError Reveal := do
  let bits ← Bits.parse text
  match ofFlags? bits with
  | some reveal => .ok reveal
  | none => .error (.revealCount bits.length text)

/-- The first stage whose gate is closed, if any: the stage that an evaluation returns. -/
def terminating? (reveal : Reveal) : Option Stage :=
  Stage.all.find? fun stage => !reveal.isOpen stage

/-- The stages that an evaluation reveals: those before the first closed gate. -/
def revealed (reveal : Reveal) : List Stage :=
  Stage.all.takeWhile reveal.isOpen

end Reveal

end RevealGates
