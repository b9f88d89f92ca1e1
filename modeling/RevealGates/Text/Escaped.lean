import RevealGates.Text.Hexadecimal

/-!
Log text: the control characters that a terminal acts on are written by their code.

Those are the escape character, the bell, the backspace, the form feed, the delete character and the
C1 control characters. Other characters stand for themselves, the backslash included.
-/

set_option autoImplicit false

namespace RevealGates.Text.Escaped

/-- The control characters below `U+0080` that a terminal acts on. -/
def controls : List Char := ['\x1b', '\x07', '\x08', '\x0c', '\x7f']

def escape (c : Char) : List Char :=
  if c ∈ controls then
    ['\x5c', 'x', Hexadecimal.digit (c.toNat / 16), Hexadecimal.digit (c.toNat % 16)]
  else if 0x80 ≤ c.toNat ∧ c.toNat ≤ 0x9f then
    ['\x5c', 'u', '\x7b'] ++ Hexadecimal.digits c.toNat ++ ['\x7d']
  else [c]

end RevealGates.Text.Escaped

namespace RevealGates.Text

def escaped (text : String) : String :=
  String.ofList (text.toList.flatMap Escaped.escape)

end RevealGates.Text
