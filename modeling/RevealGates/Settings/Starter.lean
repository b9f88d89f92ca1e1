import RevealGates.Settings.Locate

/-! The starter settings file, which spells out every default. -/

set_option autoImplicit false

namespace RevealGates.Settings.Starter

open Files (Location Path Tree)

def lines : List String :=
  ["version = 1",
    "",
    "[eval]",
    "# \"fixture\" repeats not(B and C) in the fifth inverted pair.",
    "# \"corrected\" uses not(B and D) there instead.",
    "mode = \"fixture\"",
    "",
    "# Evaluation stops at the first closed gate and returns that stage.",
    "[reveal]",
    "singles = true",
    "inverted_singles = true",
    "pairs = true",
    "inverted_pairs = true",
    "triples = true",
    "inverted_triples = true"]

def text : String :=
  String.join (lines.map (· ++ "\n"))

/-- What came of writing the starter file. -/
inductive Outcome where
  | created
  /-- There was something already, and it was not to be replaced. -/
  | kept
  | failed (fault : Files.Fault)
  deriving DecidableEq, Repr

namespace Outcome

def stdout : Outcome → String
  | .created => "Created " ++ fileName ++ "\n"
  | .kept | .failed _ => ""

/-- What an outcome says on standard error. A failure is reported by the run that it ends. -/
def stderr : Outcome → String
  | .kept => fileName ++ " already exists. Use --force to overwrite.\n"
  | .created | .failed _ => ""

def exitCode : Outcome → ExitCode
  | .created => .success
  | .kept => .refused
  | .failed _ => .internal

end Outcome

/-- The outcome with the tree afterwards and the events. -/
structure Creation where
  outcome : Outcome
  tree : Tree
  events : List Event

/-- Writes the starter file into a directory. An existing file is replaced only by force. -/
def create (tree : Tree) (here : Location) (directory : Path) (force : Bool) : Creation :=
  let path := directory.child fileName
  if tree.isPresent here path && !force then ⟨.kept, tree, []⟩
  else
    match tree.writeText here path text with
    | .error fault => ⟨.failed fault, tree, []⟩
    | .ok written => ⟨.created, written, [.wrote path.text]⟩

end RevealGates.Settings.Starter
