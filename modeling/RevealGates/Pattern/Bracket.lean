import RevealGates.Pattern.Atom

/-!
Bracket expressions of a search pattern: sets of characters by their members.

A member is a character, a range, a category, a named set or another bracket expression; two signs
of one kind between members take the common, the different or the remaining characters. A hyphen at
the beginning stands for itself, and so does a closing bracket that would leave an expression empty.
-/

set_option autoImplicit false

namespace RevealGates.Pattern.Bracket

/-- The depth of several parts side by side. One part alone needs no level of its own. -/
def depthOf : List Nat → Nat
  | [] => 0
  | [depth] => depth
  | depths => 1 + depths.foldl max 0

/-- How far an expression has been read, as depths of what is in it. -/
structure Frame where
  left : Option Nat := none
  members : List Nat := []
  deriving DecidableEq, Repr

namespace Frame

def depth (frame : Frame) : Nat :=
  match frame.left with
  | none => depthOf frame.members
  | some left => 1 + max left (depthOf frame.members)

def add (frame : Frame) (depth : Nat) : Frame :=
  { frame with members := depth :: frame.members }

end Frame

/-- An expression that is being read, inside of others. -/
structure State where
  /-- Whether a hyphen stands for itself because nothing else has come before. -/
  isFresh : Bool := true
  frame : Frame := {}
  outer : List Frame := []
  deriving DecidableEq, Repr

def setNames : List String :=
  ["alnum", "alpha", "ascii", "blank", "cntrl", "digit", "graph", "lower", "print", "punct",
   "space", "upper", "word", "xdigit"]

/-- Reads a named set after its opening bracket: whether it is negated, and what follows. -/
def namedSet? : List Char → Option (Bool × List Char)
  | ':' :: rest =>
      let (negated, rest) :=
        match rest with
        | '^' :: rest => (true, rest)
        | rest => (false, rest)
      match rest.span (· != ':') with
      | (name, ':' :: ']' :: rest) =>
          if setNames.contains (String.ofList name) then some (negated, rest) else none
      | _ => none
  | _ => none

def allowsNamed (flags : Flags) (negated : Bool) : Bool :=
  if flags.unicode then !flags.caseless else !negated

/-- Reads the beginning of an expression after its bracket. Only characters can be excluded. -/
def opening (flags : Flags) (chars : List Char) : Option (List Char) :=
  match flags.skip chars with
  | '^' :: rest => if flags.unicode then some rest else none
  | rest => some rest

def atom (flags : Flags) : List Char → Option (Atom × List Char)
  | [] => none
  | '\x5c' :: rest => Atom.escape flags rest
  | c :: rest => some (.literal c false, rest)

def member (flags : Flags) (chars : List Char) : Option (List Char) := do
  let (first, rest) ← atom flags chars
  if !first.isMember flags then none
  else
    match flags.skip rest with
    | '-' :: after =>
        if flags.peek after = some ']' ∨ flags.peek after = some '-' then some ('-' :: after)
        else do
          let (last, rest) ← atom flags (flags.skip after)
          match first, last with
          | .literal low _, .literal high _ =>
              if low.toNat ≤ high.toNat ∧ last.isMember flags then some rest else none
          | _, _ => none
    | rest => some rest

/-- What a step leads to: more of the expression, or its end with its depth. -/
inductive Step where
  | more (state : State)
  | done (depth : Nat)
  deriving DecidableEq, Repr

def State.addPlain (flags : Flags) (state : State) (isFresh : Bool) (rest : List Char) :
    Option (Step × List Char) :=
  if flags.unicode && flags.caseless then none
  else some (.more { state with isFresh, frame := state.frame.add 0 }, rest)

def State.combine (state : State) (rest : List Char) : Option (Step × List Char) :=
  some (.more { state with isFresh := false, frame := ⟨some state.frame.depth, []⟩ }, rest)

def State.close (state : State) (rest : List Char) : Option (Step × List Char) :=
  let depth := 1 + state.frame.depth
  match state.outer with
  | [] => some (.done depth, rest)
  | frame :: outer => some (.more ⟨false, frame.add depth, outer⟩, rest)

def State.nest (flags : Flags) (state : State) (rest : List Char) :
    Option (Step × List Char) := do
  let rest ← opening flags rest
  some (.more ⟨true, {}, state.frame :: state.outer⟩, rest)

def State.step (flags : Flags) (state : State) (chars : List Char) : Option (Step × List Char) :=
  match state.isFresh, flags.skip chars with
  | _, [] => none
  | true, '-' :: rest => state.addPlain flags true rest
  | isFresh, ']' :: rest =>
      if isFresh && state.frame.members.isEmpty then state.addPlain flags false rest
      else state.close rest
  | _, '[' :: rest =>
      match namedSet? rest with
      | some (negated, rest) =>
          if allowsNamed flags negated then
            some (.more { state with isFresh := false, frame := state.frame.add 0 }, rest)
          else none
      | none => state.nest flags rest
  | _, '&' :: '&' :: rest => state.combine rest
  | _, '-' :: '-' :: rest => state.combine rest
  | _, '~' :: '~' :: rest => state.combine rest
  | _, rest => do
      let rest ← member flags rest
      some (.more { state with isFresh := false, frame := state.frame.add 0 }, rest)

/-- Reads the rest of an expression: its depth, and what follows. -/
def run (flags : Flags) (state : State) (chars : List Char) : Option (Nat × List Char) :=
  match state.step flags chars with
  | none => none
  | some (.done depth, rest) => some (depth, rest)
  | some (.more state, rest) =>
      if rest.length < chars.length then run flags state rest else none
termination_by chars.length

/-- Reads an expression after its opening bracket. -/
def read (flags : Flags) (chars : List Char) : Option (Nat × List Char) := do
  run flags {} (← opening flags chars)

end RevealGates.Pattern.Bracket
