import RevealGates.Text.Hexadecimal

/-!
JSON values and their indented text.

Objects keep their members in the order given. The text puts every element and every member on a
line of its own, two spaces deeper than what holds it; an empty list or object stays on one line.
-/

set_option autoImplicit false

namespace RevealGates

/-- A JSON value. A number is `mantissa · 10 ^ -exponent`. -/
inductive Json where
  | null
  | bool (value : Bool)
  | number (mantissa : Int) (exponent : Nat)
  | string (text : String)
  | array (elements : List Json)
  | object (members : List (String × Json))
  deriving Inhabited

namespace Json

/-- How a character is written inside a string. Only the quotation mark, the backslash and the
characters below the space are escaped. -/
def escape (c : Char) : List Char :=
  if c = '\x22' then ['\x5c', '\x22']
  else if c = '\x5c' then ['\x5c', '\x5c']
  else if c = '\x08' then ['\x5c', 'b']
  else if c = '\x0c' then ['\x5c', 'f']
  else if c = '\n' then ['\x5c', 'n']
  else if c = '\r' then ['\x5c', 'r']
  else if c = '\t' then ['\x5c', 't']
  else if c.toNat < 0x20 then
    ['\x5c', 'u', '0', '0', Text.Hexadecimal.digit (c.toNat / 16),
      Text.Hexadecimal.digit (c.toNat % 16)]
  else [c]

def quote (text : String) : String :=
  String.ofList ('\x22' :: (text.toList.flatMap escape ++ ['\x22']))

def numberText (mantissa : Int) (exponent : Nat) : String :=
  if exponent = 0 then toString mantissa else toString mantissa ++ "e-" ++ toString exponent

def newline (depth : Nat) : String :=
  String.ofList ('\n' :: List.replicate (2 * depth) ' ')

mutual

/-- The text of a value that stands at some depth. -/
def prettyAt (depth : Nat) : Json → String
  | .null => "null"
  | .bool true => "true"
  | .bool false => "false"
  | .number mantissa exponent => numberText mantissa exponent
  | .string text => quote text
  | .array [] => "[]"
  | .array (first :: rest) =>
      "[" ++ newline (depth + 1) ++ prettyAt (depth + 1) first ++ prettyElements (depth + 1) rest ++
        newline depth ++ "]"
  | .object [] => "\x7b\x7d"
  | .object ((key, value) :: rest) =>
      "\x7b" ++ newline (depth + 1) ++ quote key ++ ": " ++ prettyAt (depth + 1) value ++
        prettyMembers (depth + 1) rest ++ newline depth ++ "\x7d"

/-- The elements after the first, each behind its comma. -/
def prettyElements (depth : Nat) : List Json → String
  | [] => ""
  | element :: rest => "," ++ newline depth ++ prettyAt depth element ++ prettyElements depth rest

/-- The members after the first, each behind its comma. -/
def prettyMembers (depth : Nat) : List (String × Json) → String
  | [] => ""
  | (key, value) :: rest =>
      "," ++ newline depth ++ quote key ++ ": " ++ prettyAt depth value ++ prettyMembers depth rest

end

def pretty (value : Json) : String :=
  prettyAt 0 value

end Json

end RevealGates
