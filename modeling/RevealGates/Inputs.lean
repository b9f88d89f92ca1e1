import RevealGates.Bits

/-! The four boolean inputs A, B, C and D of an evaluation. -/

set_option autoImplicit false

namespace RevealGates

/-- One combination of the four inputs. -/
structure Inputs where
  a : Bool := false
  b : Bool := false
  c : Bool := false
  d : Bool := false
  deriving DecidableEq, Repr

namespace Inputs

/-- The inputs in the order in which they are written. -/
def toList (inputs : Inputs) : List Bool :=
  [inputs.a, inputs.b, inputs.c, inputs.d]

/-- Four bits are a combination; no other number of bits is. -/
def ofList? : List Bool → Option Inputs
  | [a, b, c, d] => some ⟨a, b, c, d⟩
  | _ => none

def text (inputs : Inputs) : String :=
  Bits.format inputs.toList

/-- Reads four bits. A bad character is reported before a wrong count. -/
def parse (text : String) : Except ArgumentError Inputs := do
  let bits ← Bits.parse text
  match ofList? bits with
  | some inputs => .ok inputs
  | none => .error (.inputCount bits.length text)

/-- All sixteen combinations, counting upwards with A as the most significant bit. -/
def all : List Inputs :=
  let values := [false, true]
  values.flatMap fun a => values.flatMap fun b => values.flatMap fun c => values.map fun d =>
    ⟨a, b, c, d⟩

/-- The conjunction of each pair of inputs, in the order AB, AC, AD, BC, BD, CD. -/
def pairs (inputs : Inputs) : List Bool :=
  [inputs.a && inputs.b, inputs.a && inputs.c, inputs.a && inputs.d,
    inputs.b && inputs.c, inputs.b && inputs.d, inputs.c && inputs.d]

/-- The conjunction of three inputs, in the order ABC, ABD, ACD. The triple without A is not
among them. -/
def triples (inputs : Inputs) : List Bool :=
  [inputs.a && inputs.b && inputs.c, inputs.a && inputs.b && inputs.d,
    inputs.a && inputs.c && inputs.d]

end Inputs

end RevealGates
