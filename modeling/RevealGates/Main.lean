import RevealGates.Program

/-!
The command line program.

A run looks at few places: the settings file and the repository mark in each directory from the
working directory outwards, and the places along an explicit settings path. They are read in
advance, the run is computed from what was found, and then its outcome is carried out. Links are
followed; a working directory that was removed, and a stream that refuses to be written, end the
program outside of a run. Completion scripts are not made here.
-/

set_option autoImplicit false

namespace RevealGates.Main

open Files (Location Node Path Tree)

def variableNames : List String :=
  [CommandLine.Help.configVariable, Program.Context.logVariable, "NO_COLOR", "COLOR",
    "CLICOLOR_FORCE", "TERM"] ++ ColourChoice.unattended

def passed (start : Location) : List String → List Location
  | [] => [start]
  | segment :: rest => start :: passed (Tree.step start segment) rest

/-- The locations in and around the working directory that a run looks at. -/
def surroundings (here : Location) : List Location :=
  let directories := (List.range (here.length + 1)).map here.take
  directories ++ directories.flatMap fun directory =>
    [directory ++ [Settings.fileName], directory ++ [Settings.repositoryMark]]

/-- The locations that an explicit settings path passes. -/
def explicitPlaces (here : Location) (text : String) : List Location :=
  let path := Path.ofText text
  passed (if path.absolute then [] else here) path.segments.reverse

/-- The settings path that a run is given, if its words can be read. -/
def givenPath (environment : Environment) (words : List String) : Option String :=
  match CommandLine.parse (environment.get? CommandLine.Help.configVariable) words with
  | .ok invocation => invocation.config
  | .error _ => none

def locationText (location : Location) : String :=
  "/" ++ "/".intercalate location

def look (location : Location) : IO (Option Node) := do
  let place := (← IO.currentDir) / locationText location
  if ← place.isDir then return some .directory
  if ← place.pathExists then return some (.file (← IO.FS.readBinFile place))
  return none

def observe (locations : List Location) : IO Tree := do
  let mut tree : Tree := ⟨[]⟩
  for location in locations do
    match ← look location with
    | some node => tree := tree.put location node
    | none => pure ()
  return tree

def write (location : Location) (content : ByteArray) : IO Unit := do
  IO.FS.writeBinFile ((← IO.currentDir) / locationText location) content

/-- Writes the settings file of the working directory if a run changed it. -/
def carryOut (here : Location) (before after : Tree) : IO Unit := do
  let location := here ++ [Settings.fileName]
  match before.node? location, after.node? location with
  | some (.file held), some (.file content) =>
      if held.data ≠ content.data then write location content
  | _, some (.file content) => write location content
  | _, _ => pure ()

def currentEnvironment : IO Environment := do
  let mut bindings := []
  for name in variableNames do
    match ← IO.getEnv name with
    | some value => bindings := bindings ++ [(name, value)]
    | none => pure ()
  return { bindings, terminal := ← (← IO.getStdout).isTty }

end RevealGates.Main

open RevealGates in
/-- Runs the program on the words of the command line. -/
def main (words : List String) : IO UInt32 := do
  let environment ← Main.currentEnvironment
  let here := (Files.Path.ofText (← IO.currentDir).toString).segments.reverse
  let explicit := (Main.givenPath environment words).toList.flatMap (Main.explicitPlaces here)
  let files ← Main.observe (Main.surroundings here ++ explicit)
  let outcome := Program.run { environment, here, files } words
  Main.carryOut here files outcome.files
  IO.print outcome.stdout
  IO.eprint outcome.stderr
  return UInt32.ofNat outcome.code.number
