import RevealGates.Text.Blank

/-!
Flags of a search pattern: how the part of the pattern that follows is to be read.

Flags are given by letters; those after a hyphen are turned off. Four further letters are known that
decide what a pattern finds but not whether it can be read, so nothing is kept of them.
-/

set_option autoImplicit false

namespace RevealGates.Pattern

/-- How a pattern is read. -/
structure Flags where
  caseless : Bool := false
  /-- A pattern is about characters and not about bytes. -/
  unicode : Bool := true
  spaced : Bool := false
  deriving DecidableEq, Repr

/-- Leaves out white space and comments, which run to the end of their line. -/
def skipSpace : (inComment : Bool) → List Char → List Char
  | _, [] => []
  | true, c :: rest => skipSpace (c != '\n') rest
  | false, c :: rest =>
      if Text.isBlank c then skipSpace false rest
      else if c = '#' then skipSpace true rest
      else c :: rest

namespace Flags

def skip (flags : Flags) (chars : List Char) : List Char :=
  if flags.spaced then skipSpace false chars else chars

/-- The character that a hyphen in brackets is followed by. White space is passed over where the
flags say so, and so is one mark of a comment, but not the comment. -/
def peek (flags : Flags) (chars : List Char) : Option Char :=
  if flags.spaced then
    match chars.filter fun c => !Text.isBlank c with
    | '#' :: c :: _ => some c
    | ['#'] | [] => chars.head?
    | c :: _ => some c
  else chars.head?

def set? (flags : Flags) (letter : Char) (value : Bool) : Option Flags :=
  match letter with
  | 'i' => some { flags with caseless := value }
  | 'u' => some { flags with unicode := value }
  | 'x' => some { flags with spaced := value }
  | 'm' | 's' | 'U' | 'R' => some flags
  | _ => none

/-- Reads flags up to a colon or a closing parenthesis, which are left. No letter is given twice,
nor is the hyphen, and a letter follows it. The letters so far are given last one first. -/
def read (flags : Flags) (given : List Char) : List Char → Option (Flags × List Char)
  | [] => none
  | c :: rest =>
      if c = ':' ∨ c = ')' then
        if given.head? = some '-' then none else some (flags, c :: rest)
      else if given.contains c then none
      else if c = '-' then read flags (c :: given) rest
      else
        match flags.set? c (!given.contains '-') with
        | some flags => read flags (c :: given) rest
        | none => none

end Flags

end RevealGates.Pattern
