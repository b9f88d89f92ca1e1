import RevealGates.Files.Path

/-!
File trees: the files and directories that a run can see.

A location names a place from the top directory down. A written path is followed segment by segment,
and every place on the way has to be a directory. Links and special files are left out, and so are
permissions: whatever is there can be read and replaced.
-/

set_option autoImplicit false

namespace RevealGates.Files

/-- The names that lead from the top directory to a place. -/
abbrev Location := List String

/-- What can be at a place. There are no links and no special files. -/
inductive Node where
  | directory
  | file (content : ByteArray)

/-- Why a file cannot be read or written. -/
inductive Fault where
  | noEntry
  | notDirectory
  | isDirectory
  | notText
  deriving DecidableEq, Repr

def Fault.message : Fault → String
  | .noEntry => "No such file or directory (os error 2)"
  | .notDirectory => "Not a directory (os error 20)"
  | .isDirectory => "Is a directory (os error 21)"
  | .notText => "stream did not contain valid UTF-8"

/-- The places that are taken. Nothing is said about who may read or write them. -/
structure Tree where
  entries : List (Location × Node)

namespace Tree

/-- What is at a location. The top directory is always there. -/
def node? (tree : Tree) (location : Location) : Option Node :=
  if location = [] then some .directory
  else (tree.entries.find? fun entry => entry.1 == location).map Prod.snd

/-- Puts a node at a location, replacing what was there. -/
def put (tree : Tree) (location : Location) (node : Node) : Tree :=
  ⟨(location, node) :: tree.entries.filter fun entry => entry.1 != location⟩

def step (here : Location) (segment : String) : Location :=
  if Path.isIdle segment then here
  else if segment = ".." then here.dropLast
  else here ++ [segment]

def walk (tree : Tree) : Location → List String → Except Fault Location
  | here, [] => .ok here
  | here, segment :: rest =>
      match tree.node? here with
      | some .directory => tree.walk (step here segment) rest
      | some (.file _) => .error .notDirectory
      | none => .error .noEntry

/-- Where a path leads when the working directory is `here`. An empty path leads nowhere. -/
def locate (tree : Tree) (here : Location) (path : Path) : Except Fault Location :=
  if path.absolute then tree.walk [] path.segments.reverse
  else if path.segments = [] then .error .noEntry
  else tree.walk here path.segments.reverse

def lookup (tree : Tree) (here : Location) (path : Path) : Except Fault Node := do
  let location ← tree.locate here path
  match tree.node? location with
  | some node => .ok node
  | none => .error .noEntry

/-- Whether there is anything at the end of a path. -/
def isPresent (tree : Tree) (here : Location) (path : Path) : Bool :=
  match tree.lookup here path with
  | .ok _ => true
  | .error _ => false

def readText (tree : Tree) (here : Location) (path : Path) : Except Fault String := do
  match ← tree.lookup here path with
  | .directory => .error .isDirectory
  | .file content =>
      match String.fromUTF8? content with
      | some text => .ok text
      | none => .error .notText

/-- Writes a whole file, replacing what it held. A directory is not replaced. -/
def writeText (tree : Tree) (here : Location) (path : Path) (text : String) :
    Except Fault Tree := do
  let location ← tree.locate here path
  match tree.node? location with
  | some .directory => .error .isDirectory
  | _ => .ok (tree.put location (.file text.toUTF8))

/-- Setting a place shows there. The top directory cannot be replaced. -/
theorem node?_put_self (tree : Tree) {location : Location} (below : location ≠ []) (node : Node) :
    (tree.put location node).node? location = some node := by
  simp [put, node?, below]

theorem node?_put_of_ne (tree : Tree) {location other : Location} (distinct : other ≠ location)
    (node : Node) : (tree.put location node).node? other = tree.node? other := by
  unfold node? put
  split
  · rfl
  · rw [List.find?_cons_of_neg (by simpa using distinct.symm), List.find?_filter]
    congr 2
    funext entry
    by_cases same : entry.1 = other
    · simp [same, distinct]
    · simp [same]

end Tree

end RevealGates.Files
