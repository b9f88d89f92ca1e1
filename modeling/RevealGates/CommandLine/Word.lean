/-! Words of a command line, told apart by the hyphens they begin with. -/

set_option autoImplicit false

namespace RevealGates.CommandLine

/-- A word of a command line. -/
inductive Word where
  /-- Two hyphens alone: all words after it are positional. -/
  | separator
  /-- A long option, with what follows an equals sign. -/
  | long (name : String) (value : Option String)
  /-- A letter option, with what follows the letter. -/
  | short (letter : Char) (rest : List Char)
  /-- Anything else; a single hyphen is such a word. -/
  | plain (text : String)
  deriving DecidableEq, Repr

namespace Word

/-- Splits a long option at its first equals sign. -/
def ofLong (chars : List Char) : Word :=
  match chars.span (· != '=') with
  | (name, []) => .long (String.ofList name) none
  | (name, _ :: value) => .long (String.ofList name) (some (String.ofList value))

def ofText (text : String) : Word :=
  match text.toList with
  | ['-', '-'] => .separator
  | '-' :: '-' :: rest => ofLong rest
  | '-' :: letter :: rest => .short letter rest
  | _ => .plain text

end Word

end RevealGates.CommandLine
