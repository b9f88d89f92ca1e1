import RevealGates.Mode

/-!
The six stages of an evaluation, in the order in which they are reached.

Each stage computes a fixed number of values from the inputs; only the inverted pairs depend on the
mode.
-/

set_option autoImplicit false

namespace RevealGates

/-- A stage of the evaluation. -/
inductive Stage where
  | singles
  | invertedSingles
  | pairs
  | invertedPairs
  | triples
  | invertedTriples
  deriving DecidableEq, Repr

namespace Stage

def all : List Stage :=
  [.singles, .invertedSingles, .pairs, .invertedPairs, .triples, .invertedTriples]

def index : Stage → Nat
  | .singles => 0
  | .invertedSingles => 1
  | .pairs => 2
  | .invertedPairs => 3
  | .triples => 4
  | .invertedTriples => 5

def id : Stage → String
  | .singles => "singles"
  | .invertedSingles => "inverted-singles"
  | .pairs => "pairs"
  | .invertedPairs => "inverted-pairs"
  | .triples => "triples"
  | .invertedTriples => "inverted-triples"

/-- The name of a stage's gate in a settings file. -/
def key : Stage → String
  | .singles => "singles"
  | .invertedSingles => "inverted_singles"
  | .pairs => "pairs"
  | .invertedPairs => "inverted_pairs"
  | .triples => "triples"
  | .invertedTriples => "inverted_triples"

def header : Stage → String
  | .singles => "Vars:"
  | .invertedSingles => "Inverted vars:"
  | .pairs => "Pairs:"
  | .invertedPairs => "Inverted pairs:"
  | .triples => "Triplets:"
  | .invertedTriples => "Inverted triplets:"

def cardinality : Stage → Nat
  | .singles | .invertedSingles => 4
  | .pairs | .invertedPairs => 6
  | .triples | .invertedTriples => 3

def ofId? (id : String) : Option Stage :=
  all.find? fun stage => stage.id == id

def ofKey? (key : String) : Option Stage :=
  all.find? fun stage => stage.key == key

def before (stage : Stage) : List Stage :=
  all.filter fun earlier => earlier.index < stage.index

def values (stage : Stage) (mode : Mode) (inputs : Inputs) : List Bool :=
  match stage with
  | .singles => inputs.toList
  | .invertedSingles => inputs.toList.map not
  | .pairs => inputs.pairs
  | .invertedPairs => mode.invertedPairs inputs
  | .triples => inputs.triples
  | .invertedTriples => inputs.triples.map not

/-- A stage computes as many values as its cardinality says, whatever the inputs and the mode. -/
@[simp] theorem length_values (stage : Stage) (mode : Mode) (inputs : Inputs) :
    (stage.values mode inputs).length = stage.cardinality := by
  cases stage <;> rfl

end Stage

end RevealGates
