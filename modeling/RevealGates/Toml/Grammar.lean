import RevealGates.Toml.Moment
import RevealGates.Toml.Number
import RevealGates.Toml.Section
import RevealGates.Toml.Strings

/-!
The grammar of TOML: keys, values and the lines of a document.

Loops over a text check that each round leaves less of it than the round before and stop otherwise,
so every function here ends on every text. Nesting is bounded, and so is the length of a dotted key.
-/

set_option autoImplicit false

namespace RevealGates.Toml.Grammar

/-- How deep arrays and inline tables may be nested. -/
def nesting : Nat := 79

def keyParts : Nat := 79

def isBare (c : Char) : Bool := c.isAlphanum || c == '_' || c == '-'

def keyPart : Scanner String := fun chars =>
  match chars.span isBare with
  | ([], _) => Strings.keyString chars
  | (bare, rest) => some (String.ofList bare, rest)

/-- The parts of a dotted key after its first. Blanks may stand around the points. -/
def keyTail (chars : List Char) : Option (List String × List Char) :=
  match skipBlanks chars with
  | '.' :: rest =>
      match keyPart (skipBlanks rest) with
      | some (part, left) =>
          if left.length < chars.length then
            (keyTail left).map fun (parts, left) => (part :: parts, left)
          else none
      | none => none
  | rest => some ([], rest)
termination_by chars.length

/-- A key: the keys of the tables around it and its own. -/
def key : Scanner (List String × String) := fun chars => do
  let (first, rest) ← keyPart (skipBlanks chars)
  let (others, rest) ← keyTail rest
  let parts := first :: others
  if parts.length ≤ keyParts then
    some ((parts.dropLast, parts.getLastD first), rest)
  else none

def endsWord (c : Char) : Bool :=
  isBlank c || c == '\n' || c == '\r' || c == '#' || c == ',' || c == ']' || c == '\x7d'

/-- The next word. A date takes the time behind a single space with it. -/
def word (chars : List Char) : List Char × List Char :=
  match chars.span fun c => !endsWord c with
  | (word, ' ' :: c :: rest) =>
      if Moment.isDate word ∧ c.isDigit then
        let (time, left) := (c :: rest).span fun c => !endsWord c
        (word ++ ' ' :: time, left)
      else (word, ' ' :: c :: rest)
  | other => other

/-- The value of a word: a truth value, a moment or a number. -/
def wordValue? (word : List Char) : Option Value :=
  if word = ['t', 'r', 'u', 'e'] then some (.boolean true)
  else if word = ['f', 'a', 'l', 's', 'e'] then some (.boolean false)
  else if Moment.isMoment word then some (.moment (String.ofList word))
  else
    match Number.float? word with
    | some float => some (.float float)
    | none => (Number.integer? word).map .integer

/-- The elements of an array up to its closing bracket. A comma may follow the last one. -/
def elements (element : Scanner Value) (chars : List Char) : Option (List Value × List Char) :=
  match skipTrivia false chars with
  | ']' :: rest => some ([], rest)
  | start =>
      match element start with
      | none => none
      | some (value, left) =>
          match skipTrivia false left with
          | ']' :: rest => some ([value], rest)
          | ',' :: rest =>
              if rest.length < chars.length then
                (elements element rest).map fun (values, left) => (value :: values, left)
              else none
          | _ => none
termination_by chars.length

def assignment (value : Scanner Value) : Scanner Assignment := fun chars => do
  let ((parents, name), rest) ← key chars
  match rest with
  | '=' :: rest =>
      let (value, rest) ← value (skipBlanks rest)
      some (⟨parents, name, value⟩, rest)
  | _ => none

/-- The assignments of an inline table up to its closing brace, at least one. -/
def inlineAssignments (value : Scanner Value) (chars : List Char) :
    Option (List Assignment × List Char) :=
  match assignment value chars with
  | none => none
  | some (first, left) =>
      match skipBlanks left with
      | '\x7d' :: rest => some ([first], rest)
      | ',' :: rest =>
          if rest.length < chars.length then
            (inlineAssignments value rest).map fun (others, left) => (first :: others, left)
          else none
      | _ => none
termination_by chars.length

def inlineTable (value : Scanner Value) : Scanner Value := fun chars =>
  match skipBlanks chars with
  | '\x7d' :: rest => some (.table [], rest)
  | start => do
      let (assignments, rest) ← inlineAssignments value start
      some (← Section.inlineTable assignments, rest)

def value : Nat → Scanner Value
  | depth, '[' :: rest =>
      match depth with
      | 0 => none
      | depth + 1 => (elements (value depth) rest).map fun (values, left) => (.array values, left)
  | depth, '\x7b' :: rest =>
      match depth with
      | 0 => none
      | depth + 1 => inlineTable (value depth) rest
  | _, '\x22' :: rest =>
      (Strings.string ('\x22' :: rest)).map fun (text, left) => (.string text, left)
  | _, '\x27' :: rest =>
      (Strings.string ('\x27' :: rest)).map fun (text, left) => (.string text, left)
  | _, chars =>
      let (word, left) := word chars
      (wordValue? word).map fun value => (value, left)

/-- A line that says something. -/
inductive Line where
  /-- A header; a repeated one adds an element to an array of tables. -/
  | header (repeated : Bool) (parents : List String) (key : String)
  | assignment (assignment : Assignment)

/-- A line up to the brackets or the value that ends it. -/
def line : Scanner Line
  | '[' :: '[' :: rest => do
      let ((parents, name), rest) ← key rest
      match rest with
      | ']' :: ']' :: rest => some (.header true parents name, rest)
      | _ => none
  | '[' :: rest => do
      let ((parents, name), rest) ← key rest
      match rest with
      | ']' :: rest => some (.header false parents name, rest)
      | _ => none
  | chars => do
      let (assignment, rest) ← assignment (value nesting) chars
      some (.assignment assignment, rest)

/-- The lines of a text. Empty lines and comments say nothing. -/
def lines (chars : List Char) : Option (List Line) :=
  match skipBlanks chars with
  | [] => some []
  | start =>
      match afterLine? start with
      | some rest => if rest.length < chars.length then lines rest else none
      | none =>
          match line start with
          | none => none
          | some (said, left) =>
              match afterLine? left with
              | none => none
              | some rest =>
                  if rest.length < chars.length then (lines rest).map (said :: ·) else none
termination_by chars.length

/-- The assignments in front of the first header, and the blocks that headers begin. -/
def blocks : List Line → List Assignment × List Block
  | [] => ([], [])
  | .assignment assignment :: rest =>
      let (assignments, blocks) := blocks rest
      (assignment :: assignments, blocks)
  | .header repeated parents key :: rest =>
      let (assignments, blocks) := blocks rest
      ([], ⟨repeated, parents, key, assignments⟩ :: blocks)

end RevealGates.Toml.Grammar

namespace RevealGates.Toml

/-- Leaves out a byte order mark at the front of a text. -/
def dropMark : List Char → List Char
  | '\uFEFF' :: rest => rest
  | chars => chars

/-- Reads a document, or nothing if the text is not one. -/
def parse (text : String) : Option Table := do
  let lines ← Grammar.lines (dropMark text.toList)
  let (assignments, blocks) := Grammar.blocks lines
  Section.assemble assignments blocks

end RevealGates.Toml
