/-!
Scanning TOML text: the parts that carry no meaning of their own.

A scanner takes characters from the front of the text and returns what it read with what is left, or
nothing if the text does not start as it should. All faults of a document are alike, so none is
described further.
-/

set_option autoImplicit false

namespace RevealGates.Toml

/-- Reads something from the front of a text. -/
abbrev Scanner (Result : Type) := List Char → Option (Result × List Char)

/-- Spaces and tabs separate things within a line. -/
def isBlank (c : Char) : Bool := c == ' ' || c == '\t'

def skipBlanks (chars : List Char) : List Char := chars.dropWhile isBlank

/-- Everything but control characters, of which the tab alone is allowed. Beyond ASCII all is
allowed. -/
def isPlain (c : Char) : Bool :=
  c == '\t' || (0x20 ≤ c.toNat && c.toNat != 0x7f)

/-- What follows a line break: a line feed, or a carriage return and a line feed. -/
def afterBreak? : List Char → Option (List Char)
  | '\n' :: rest => some rest
  | '\r' :: '\n' :: rest => some rest
  | _ => none

/-- Leaves out a comment, which runs up to the end of its line. -/
def skipComment : List Char → List Char
  | '#' :: rest => rest.dropWhile isPlain
  | chars => chars

/-- What follows the end of a line, before which only blanks and a comment may stand. The end of
the text ends a line too. -/
def afterLine? (chars : List Char) : Option (List Char) :=
  match skipComment (skipBlanks chars) with
  | [] => some []
  | rest => afterBreak? rest

/-- Leaves out blanks, line breaks and comments, as between the elements of an array. A character
that may not stand in a comment ends it; nothing that follows can start with such a character, so
the text is refused there. -/
def skipTrivia (inComment : Bool) : List Char → List Char
  | '\n' :: rest => skipTrivia false rest
  | '\r' :: '\n' :: rest => skipTrivia false rest
  | c :: rest =>
      if inComment then
        if isPlain c then skipTrivia true rest else c :: rest
      else if isBlank c then skipTrivia false rest
      else if c = '#' then skipTrivia true rest
      else c :: rest
  | [] => []

end RevealGates.Toml
