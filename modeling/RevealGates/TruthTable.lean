import RevealGates.Evaluation

/-! Truth tables: what an evaluation returns for each of the sixteen input combinations. -/

set_option autoImplicit false

namespace RevealGates

/-- One input combination and what is returned for it. -/
structure TruthTable.Row where
  inputs : Inputs
  terminatedAt : Option Stage
  result : List Bool
  deriving DecidableEq, Repr

/-- The returned sequences under one mode and one setting of the gates. -/
structure TruthTable where
  mode : Mode
  reveal : Reveal
  rows : List TruthTable.Row
  deriving DecidableEq, Repr

namespace TruthTable

def row (mode : Mode) (reveal : Reveal) (inputs : Inputs) : Row where
  inputs := inputs
  terminatedAt := reveal.terminating?
  result := (Evaluation.lookUp mode inputs reveal).values

/-- The table of all combinations, from `0000` to `1111`. -/
def sweep (mode : Mode) (reveal : Reveal) : TruthTable where
  mode := mode
  reveal := reveal
  rows := Inputs.all.map (row mode reveal)

/-- What a sweep tells: the events of its look-ups in their order, and then that it is done. -/
def sweepEvents (mode : Mode) (reveal : Reveal) : List Event :=
  (Inputs.all.flatMap fun inputs => (Evaluation.lookUp mode inputs reveal).events) ++
    [.swept mode reveal]

/-- Of its look-ups a sweep has nothing to tell. -/
@[simp] theorem sweepEvents_eq (mode : Mode) (reveal : Reveal) :
    sweepEvents mode reveal = [.swept mode reveal] := by
  have silent :
      (Inputs.all.flatMap fun inputs => (Evaluation.lookUp mode inputs reveal).events) = [] :=
    List.flatMap_eq_nil_iff.mpr fun _ _ => rfl
  rw [sweepEvents, silent, List.nil_append]

end TruthTable

end RevealGates
