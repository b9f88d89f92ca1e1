import RevealGates.Pattern.Flags
import RevealGates.Text.Hexadecimal

/-!
Atoms of a search pattern: what stands for one character or one place, and the escapes among them.

Whether an atom is supported depends on the flags. There are no tables of character properties for
patterns, so that categories, boundaries of words and both cases of a letter are only known of
ASCII; and a pattern must not be able to find a part of a character.
-/

set_option autoImplicit false

namespace RevealGates.Pattern

/-- One unit of a pattern. -/
inductive Atom where
  /-- A character; `isByte` tells that it was given as a byte, by two hexadecimal digits. -/
  | literal (c : Char) (isByte : Bool)
  /-- The digits, the white space or the letters of words, or everything else. -/
  | category (negated : Bool)
  | boundary
  | edge
  | any
  deriving DecidableEq, Repr

namespace Atom

def hexadecimal (flags : Flags) : (count number : Nat) → List Char → Option (Nat × List Char)
  | 0, number, chars => some (number, flags.skip chars)
  | count + 1, number, chars =>
      match flags.skip chars with
      | [] => none
      | c :: rest => do
          let digit ← Text.Hexadecimal.value? c
          hexadecimal flags count (number * 16 + digit) rest

def byCode (flags : Flags) (count : Nat) (chars : List Char) : Option (Atom × List Char) := do
  let (number, rest) ← hexadecimal flags count 0 chars
  if number.isValidChar then some (.literal (Char.ofNat number) (count = 2), rest) else none

/-- Reads what follows a backslash. Letters and digits without a meaning are reserved; every other
character of ASCII may be escaped. -/
def escape (flags : Flags) : List Char → Option (Atom × List Char)
  | [] => none
  | c :: rest =>
      match c with
      | 'x' => byCode flags 2 rest
      | 'u' => byCode flags 4 rest
      | 'U' => byCode flags 8 rest
      | 'd' | 's' | 'w' => some (.category false, rest)
      | 'D' | 'S' | 'W' => some (.category true, rest)
      | 'a' => some (.literal '\x07' false, rest)
      | 'f' => some (.literal '\x0c' false, rest)
      | 't' => some (.literal '\t' false, rest)
      | 'n' => some (.literal '\n' false, rest)
      | 'r' => some (.literal '\r' false, rest)
      | 'v' => some (.literal '\x0b' false, rest)
      | 'A' | 'z' => some (.edge, rest)
      | 'b' | 'B' | '<' | '>' => some (.boundary, rest)
      | _ =>
          if c.isAlphanum || 0x80 ≤ c.toNat then none else some (.literal c false, rest)

def isSupported (flags : Flags) : Atom → Bool
  | .literal c isByte =>
      if flags.unicode then !flags.caseless else !isByte || c.toNat < 0x80
  | .category negated => !flags.unicode && !negated
  | .boundary => !flags.unicode
  | .edge => true
  | .any => flags.unicode

def isMember (flags : Flags) : Atom → Bool
  | .literal c _ => if flags.unicode then !flags.caseless else c.toNat < 0x80
  | .category negated => !flags.unicode && !negated
  | .boundary | .edge | .any => false

end Atom

end RevealGates.Pattern
