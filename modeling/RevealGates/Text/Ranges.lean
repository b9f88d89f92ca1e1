/-! Sets of code points, given by ranges. Both ends of a range belong to it. -/

set_option autoImplicit false

namespace RevealGates.Text

/-- Ranges of code points, from the first to the last of each. -/
abbrev Ranges := List (Nat × Nat)

def Ranges.contain (ranges : Ranges) (c : Char) : Bool :=
  ranges.any fun (first, last) => first ≤ c.toNat && c.toNat ≤ last

end RevealGates.Text
