/-!
Text without terminal control: what is left to read when control sequences are taken out.

A sequence begins with the escape character. How far it reaches depends on the character after that:
most take one more character, control sequences run to a final letter, and strings for the terminal
run to a terminator. Outside of sequences, control characters other than white space are taken out.

White space inside a sequence is kept. What it does to the sequence depends on where the text goes:
in a message it ends the sequence; on a stream the text after it is read as usual, but the sequence
is only suspended and goes on at the next control character.
-/

set_option autoImplicit false

namespace RevealGates.Text

/-- Where in a sequence a text stands. -/
inductive Control where
  | none
  | escape
  /-- After the escape character and intermediate characters. -/
  | intermediate
  | parameters
  | title
  | device
  | deviceParameters
  /-- In the intermediate characters of a string for a device. -/
  | deviceIntermediate
  | string
  deriving DecidableEq, Repr

namespace Control

def isSpace (c : Char) : Bool :=
  c == '\t' || c == '\n' || c == '\x0c' || c == '\r'

/-- Whether the encoding of a character contains the byte that terminates strings. -/
def isTerminator (c : Char) : Bool :=
  (String.utf8EncodeChar c).contains 0x9c

/-- Where the text stands after a character below `DEL` that is no control character. -/
def advance (control : Control) (c : Char) : Control :=
  match control with
  | .none => .none
  | .escape =>
      if c.toNat < 0x30 then .intermediate
      else if c = '[' then .parameters
      else if c = ']' then .title
      else if c = 'P' then .device
      else if c = 'X' ∨ c = '^' ∨ c = '_' then .string
      else .none
  | .intermediate => if c.toNat < 0x30 then .intermediate else .none
  | .parameters => if c.toNat < 0x40 then .parameters else .none
  | .title => .title
  | .device =>
      if c.toNat < 0x30 then .deviceIntermediate
      else if c.toNat < 0x40 then .deviceParameters
      else .string
  | .deviceParameters =>
      if c.toNat < 0x30 then .deviceIntermediate
      else if c.toNat < 0x3c then .deviceParameters
      else .string
  | .deviceIntermediate => if c.toNat < 0x30 then .deviceIntermediate else .string
  | .string => .string

/-- Where the text stands after a character that is taken out. -/
def next (control : Control) (c : Char) : Control :=
  if c = '\x1b' then .escape
  else if c = '\x18' ∨ c = '\x1a' then .none
  else if 0x20 ≤ c.toNat ∧ c.toNat < 0x7f then control.advance c
  else
    match control with
    | .title => if c = '\x07' then .none else .title
    | .string => if 0x7f < c.toNat ∧ isTerminator c then .none else .string
    | _ => control

/-- Whether a character is kept. White space is kept in a sequence, except in a string. -/
def keeps (control : Control) (c : Char) : Bool :=
  match control with
  | .none => isSpace c || (0x20 ≤ c.toNat && c.toNat != 0x7f)
  | .escape | .intermediate | .parameters => isSpace c
  | _ => false

/-- Where a text goes. -/
inductive Medium where
  | message
  | stream
  deriving DecidableEq, Repr

/-- What is left of a sequence after a character that is kept. A character of several bytes ends it
on a stream, too. -/
def suspended (medium : Medium) (control : Control) (c : Char) : Control :=
  match medium with
  | .message => .none
  | .stream => if c.toNat < 0x80 then control else .none

/-- The characters that are kept. A sequence may be suspended, which takes nothing out. -/
def strip (medium : Medium) : (isSuspended : Bool) → Control → List Char → List Char
  | _, _, [] => []
  | isSuspended, control, c :: rest =>
      if (if isSuspended then Control.none else control).keeps c then
        c :: strip medium true (control.suspended medium c) rest
      else strip medium false (control.next c) rest

end Control

def stripped (text : String) : String :=
  String.ofList (Control.strip .message false .none text.toList)

def streamed (text : String) : String :=
  String.ofList (Control.strip .stream false .none text.toList)

end RevealGates.Text
