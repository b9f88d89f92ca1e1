import RevealGates.Text.Quoted

/-!
Bit strings: the notation for inputs, gates and expected sequences.

Six characters are bits, three for each value; anything else is refused, and the refusal names the
first offending character together with the whole text. Writing uses `1` and `0` only, so a text
read and written again is its canonical spelling.
-/

set_option autoImplicit false

namespace RevealGates

/-- Why a text is not the bit string that was asked for. -/
inductive ArgumentError where
  /-- A character that is no bit; it is the first such in the text. -/
  | badBit (found : Char) (text : String)
  /-- A bit string that does not give the four inputs. -/
  | inputCount (count : Nat) (text : String)
  /-- A bit string that does not give one flag per stage. -/
  | revealCount (count : Nat) (text : String)
  deriving DecidableEq, Repr

def ArgumentError.message : ArgumentError → String
  | .badBit found text =>
      "argument error: invalid bit " ++ Text.Quoted.character found ++ " in " ++
        Text.Quoted.string text ++ " (expected 1/0 or t/f)"
  | .inputCount count text =>
      "argument error: inputs must be 4 bits (A, B, C, D), got " ++ toString count ++ " in " ++
        Text.Quoted.string text
  | .revealCount count text =>
      "argument error: reveal flags must be 6 bits (one per stage), got " ++ toString count ++
        " in " ++ Text.Quoted.string text

namespace Bits

def bit? : Char → Option Bool
  | '1' | 't' | 'T' => some true
  | '0' | 'f' | 'F' => some false
  | _ => none

/-- Reads characters one by one; `text` is the whole text, kept for the message. -/
def parseChars (text : String) : List Char → Except ArgumentError (List Bool)
  | [] => .ok []
  | c :: rest =>
      match bit? c with
      | some value => (parseChars text rest).map (value :: ·)
      | none => .error (.badBit c text)

def parse (text : String) : Except ArgumentError (List Bool) :=
  parseChars text text.toList

def digit (value : Bool) : Char :=
  if value then '1' else '0'

/-- Writes a bit string in its canonical spelling. -/
def format (bits : List Bool) : String :=
  String.ofList (bits.map digit)

end Bits

end RevealGates
