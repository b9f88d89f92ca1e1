import RevealGates.Toml.Moment
import RevealGates.Toml.Value

/-!
Moments that are spelled as a table.

A table whose first key is the mark stands for the moment that the value of the mark spells. The
value must be a string and the string must be a moment. What follows the mark in the table counts
for nothing, unless the reader insists that nothing follows.
-/

set_option autoImplicit false

namespace RevealGates.Toml.Spelled

/-- The key that marks a table as the spelling of a moment. -/
def mark : String := "$__toml_private_datetime"

/-- What is wrong with the spelling of a moment. -/
inductive Fault where
  | shape (shape : Shape)
  | text
  | surplus
  deriving DecidableEq, Repr

def moment : Value → Except Fault Value
  | .string text =>
      if Moment.isMoment text.toList then .ok (.moment text) else .error .text
  | value => .error (.shape value.shape)

mutual

/-- A value with every table that spells a moment replaced by that moment. If `alone` holds, nothing
may follow a mark. -/
def resolve (alone : Bool) : Value → Except Fault Value
  | .array elements => do .ok (.array (← resolveAll alone elements))
  | .table [] => .ok (.table [])
  | .table ((key, value) :: rest) => do
      if key = mark then
        let spelled ← moment value
        if alone ∧ ¬ rest.isEmpty then .error .surplus else .ok spelled
      else
        let value ← resolve alone value
        .ok (.table ((key, value) :: (← resolveMembers alone rest)))
  | value => .ok value

def resolveAll (alone : Bool) : List Value → Except Fault (List Value)
  | [] => .ok []
  | value :: rest => do
      let value ← resolve alone value
      .ok (value :: (← resolveAll alone rest))

/-- The values of members in order, up to the first fault. -/
def resolveMembers (alone : Bool) : List (String × Value) → Except Fault (List (String × Value))
  | [] => .ok []
  | (key, value) :: rest => do
      let value ← resolve alone value
      .ok ((key, value) :: (← resolveMembers alone rest))

end

end RevealGates.Toml.Spelled
