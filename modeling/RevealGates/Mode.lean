import RevealGates.Inputs

/-! The two conventions for the fifth inverted pair. -/

set_option autoImplicit false

namespace RevealGates

/-- Which conjunction the fifth inverted pair negates. -/
inductive Mode where
  /-- The fifth inverted pair repeats the fourth: both negate B and C. -/
  | fixture
  /-- The fifth inverted pair negates the fifth pair, B and D. -/
  | corrected
  deriving DecidableEq, Repr

namespace Mode

def all : List Mode := [.fixture, .corrected]

def name : Mode → String
  | .fixture => "fixture"
  | .corrected => "corrected"

/-- Names are matched exactly, letter case included. -/
def ofName? (name : String) : Option Mode :=
  all.find? fun mode => mode.name == name

def invertedPairs (mode : Mode) (inputs : Inputs) : List Bool :=
  let fifth :=
    match mode with
    | .fixture => inputs.b && inputs.c
    | .corrected => inputs.b && inputs.d
  [!(inputs.a && inputs.b), !(inputs.a && inputs.c), !(inputs.a && inputs.d),
    !(inputs.b && inputs.c), !fifth, !(inputs.c && inputs.d)]

end Mode

end RevealGates
