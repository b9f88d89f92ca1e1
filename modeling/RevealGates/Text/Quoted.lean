import RevealGates.Text.Hexadecimal
import RevealGates.Text.Unprintable

/-!
Quoted text, as messages show a word that could not be read.

A quotation stands on one line and names its text completely: the quotation mark and the backslash
are written after a backslash, four control characters have short names, and every other unprintable
character is given by its code point in braces.
-/

set_option autoImplicit false

namespace RevealGates.Text.Quoted

/-- How one character is written between two marks. The other kind of quotation mark needs no
escape, because it cannot end this quotation. -/
def escape (mark c : Char) : List Char :=
  if c = mark ∨ c = '\x5c' then ['\x5c', c]
  else if c = '\x00' then ['\x5c', '0']
  else if c = '\t' then ['\x5c', 't']
  else if c = '\n' then ['\x5c', 'n']
  else if c = '\r' then ['\x5c', 'r']
  else if isUnprintable c then ['\x5c', 'u', '\x7b'] ++ Hexadecimal.digits c.toNat ++ ['\x7d']
  else [c]

/-- The characters of a text between two marks, escaped one by one. -/
def between (mark : Char) (text : List Char) : List Char :=
  mark :: (text.flatMap (escape mark) ++ [mark])

def character (c : Char) : String :=
  String.ofList (between '\x27' [c])

def string (text : String) : String :=
  String.ofList (between '\x22' text.toList)

end RevealGates.Text.Quoted
