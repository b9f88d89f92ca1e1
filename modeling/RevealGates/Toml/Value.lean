import RevealGates.Decimal.Binary64
import RevealGates.Text.Quoted
import RevealGates.Toml.Members

/-! The values that a TOML document can hold, and how a message names what it found. -/

set_option autoImplicit false

namespace RevealGates.Toml

/-- A TOML value. Integers have 64 bits; a date, a time or both together are kept as written. -/
inductive Value where
  | string (text : String)
  | integer (value : Int)
  | float (value : Decimal.Binary64)
  | boolean (value : Bool)
  | moment (text : String)
  | array (elements : List Value)
  | table (members : List (String × Value))

/-- A table: keys with their values, in the order of the document. -/
abbrev Table := Members Value

/-- What a value looks like to a reader that wants another kind. -/
inductive Shape where
  | string (text : String)
  | integer (value : Int)
  | float (value : Decimal.Binary64)
  | boolean (value : Bool)
  | sequence
  | map
  deriving DecidableEq, Repr

/-- The shape of a value. A moment has the shape of a table that spells it. -/
def Value.shape : Value → Shape
  | .string text => .string text
  | .integer value => .integer value
  | .float value => .float value
  | .boolean value => .boolean value
  | .moment _ => .map
  | .array _ => .sequence
  | .table _ => .map

def Shape.text : Shape → String
  | .string text => "string " ++ Text.Quoted.string text
  | .integer value => "integer `" ++ toString value ++ "`"
  | .float value => "floating point `" ++ value.text ++ "`"
  | .boolean value => "boolean `" ++ (if value then "true" else "false") ++ "`"
  | .sequence => "sequence"
  | .map => "map"

end RevealGates.Toml
