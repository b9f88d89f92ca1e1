/-! The environment of a run: its variables, and whether it writes to a terminal. -/

set_option autoImplicit false

namespace RevealGates

/-- What surrounds a run. -/
structure Environment where
  /-- The variables that are set, with their values. -/
  bindings : List (String × String) := []
  terminal : Bool := false
  deriving DecidableEq, Repr

namespace Environment

def get? (environment : Environment) (name : String) : Option String :=
  environment.bindings.lookup name

/-- Whether a variable is set, be it to an empty value. -/
def isSet (environment : Environment) (name : String) : Bool :=
  (environment.get? name).isSome

/-- Whether a variable is set to a value that is not empty. -/
def isFilled (environment : Environment) (name : String) : Bool :=
  match environment.get? name with
  | none => false
  | some value => value != ""

end Environment

end RevealGates
