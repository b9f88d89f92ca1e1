import RevealGates.Pattern.Bracket
import RevealGates.Text.Numeric

/-!
Search patterns: which texts can be read as a pattern.

A pattern is made of branches between bars, and a branch of items one after the other: atoms,
bracket expressions and groups in parentheses, each with any number of repetition signs after it.
Groups can have a name, and flags that hold up to the end of the group. Nothing is searched for
here, so nothing is kept of a pattern but how deep it is nested, which is limited.
-/

set_option autoImplicit false

namespace RevealGates.Pattern

/-- How deep the parts of a pattern can be nested. -/
def nesting : Nat := 250

/-- A part of a branch. -/
structure Item where
  depth : Nat
  isRepeatable : Bool
  deriving DecidableEq, Repr

/-- How far a group has been read; the whole pattern counts as one. -/
structure Frame where
  flags : Flags := {}
  /-- The items of the current branch, last one first. -/
  items : List Item := []
  branches : List Nat := []
  deriving DecidableEq, Repr

namespace Frame

def add (frame : Frame) (item : Item) : Frame :=
  { frame with items := item :: frame.items }

def branch (frame : Frame) : Nat :=
  Bracket.depthOf (frame.items.map Item.depth)

def depth (frame : Frame) : Nat :=
  Bracket.depthOf (frame.branch :: frame.branches)

end Frame

/-- A pattern that is being read. -/
structure State where
  flags : Flags := {}
  names : List (List Char) := []
  frame : Frame := {}
  /-- The groups around the current one, innermost first. -/
  outer : List Frame := []
  deriving DecidableEq, Repr

/-- Whether a character may begin the name of a group. -/
def startsName (c : Char) : Bool := c == '_' || Text.isAlphabetic c

/-- Whether a character may stand in the name of a group. -/
def continuesName (c : Char) : Bool :=
  c == '_' || c == '.' || c == '[' || c == ']' || Text.isAlphanumeric c

namespace State

def add (state : State) (item : Item) : State :=
  { state with frame := state.frame.add item }

def begin (state : State) (flags : Flags) : State :=
  { state with flags, frame := { flags := state.flags }, outer := state.frame :: state.outer }

/-- Begins a group whose name is given up to a closing angle bracket. -/
def beginNamed (state : State) (chars : List Char) : Option (State × List Char) :=
  match chars.span (· != '>') with
  | (first :: others, '>' :: rest) =>
      let name := first :: others
      if startsName first && others.all continuesName && !state.names.contains name then
        some ({ state.begin state.flags with names := name :: state.names }, rest)
      else none
  | _ => none

/-- Reads what follows an opening parenthesis. Flags without a colon hold for the rest of the group
around them. -/
def parenthesis (state : State) : List Char → Option (State × List Char)
  | '?' :: 'P' :: '<' :: rest => state.beginNamed rest
  | '?' :: '<' :: rest => state.beginNamed rest
  | '?' :: ')' :: _ => none
  | '?' :: rest =>
      match state.flags.read [] rest with
      | some (flags, ':' :: rest) => some (state.begin flags, rest)
      | some (flags, _ :: rest) => some ({ state.add ⟨0, false⟩ with flags }, rest)
      | _ => none
  | rest => some (state.begin state.flags, rest)

def close (state : State) (rest : List Char) : Option (State × List Char) :=
  match state.outer with
  | [] => none
  | frame :: outer =>
      let closed := { state with flags := state.frame.flags, frame, outer }
      some (closed.add ⟨1 + state.frame.depth, true⟩, rest)

/-- Repeats the last item. A question mark after a repetition sign belongs to it. -/
def repeated (state : State) (chars : List Char) : Option (State × List Char) :=
  match state.frame.items with
  | ⟨depth, true⟩ :: items =>
      let frame := { state.frame with items := ⟨depth + 1, true⟩ :: items }
      match chars with
      | '?' :: rest => some ({ state with frame }, rest)
      | rest => some ({ state with frame }, rest)
  | _ => none

def addAtom (state : State) (atom : Atom) (rest : List Char) : Option (State × List Char) :=
  if atom.isSupported state.flags then some (state.add ⟨0, true⟩, rest) else none

/-- Reads the next part of a pattern. A brace would begin a number of repetitions. -/
def step (state : State) : List Char → Option (State × List Char)
  | [] => none
  | '(' :: rest => state.parenthesis (state.flags.skip rest)
  | ')' :: rest => state.close rest
  | '|' :: rest =>
      let branches := state.frame.branch :: state.frame.branches
      some ({ state with frame := { state.frame with items := [], branches } }, rest)
  | '[' :: rest => do
      let (depth, rest) ← Bracket.read state.flags rest
      some (state.add ⟨depth, true⟩, rest)
  | '?' :: rest => state.repeated rest
  | '*' :: rest => state.repeated rest
  | '+' :: rest => state.repeated rest
  | '\x7b' :: _ => none
  | '.' :: rest => state.addAtom .any rest
  | '^' :: rest => state.addAtom .edge rest
  | '$' :: rest => state.addAtom .edge rest
  | '\x5c' :: rest => do
      let (atom, rest) ← Atom.escape state.flags rest
      state.addAtom atom rest
  | c :: rest => state.addAtom (.literal c false) rest

end State

def run (state : State) (chars : List Char) : Option State :=
  match state.flags.skip chars with
  | [] => some state
  | start =>
      match state.step start with
      | none => none
      | some (state, rest) => if rest.length < chars.length then run state rest else none
termination_by chars.length

/-- Whether a text is a pattern. A text here never holds a closing brace, so that no number of
repetitions and no code point in braces can be complete. -/
def isPattern (chars : List Char) : Bool :=
  match run {} chars with
  | none => false
  | some state => state.outer.isEmpty && state.frame.depth ≤ nesting

end RevealGates.Pattern
