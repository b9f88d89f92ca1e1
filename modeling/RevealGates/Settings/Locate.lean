import RevealGates.Failure

/-!
Finding and loading settings.

Without an explicit path the settings file is looked for in the working directory and then outwards.
A directory that holds a repository ends the search after it has been looked at itself.
-/

set_option autoImplicit false

namespace RevealGates.Settings

open Files (Location Path Tree)

def repositoryMark : String := ".git"

/-- Goes through directories in order: the first with a settings file ends the search with it, and
the first with a repository ends it without one. -/
def findIn (tree : Tree) (here : Location) : List Path → Option Path
  | [] => none
  | directory :: outer =>
      if tree.isPresent here (directory.child fileName) then some (directory.child fileName)
      else if tree.isPresent here (directory.child repositoryMark) then none
      else findIn tree here outer

/-- Looks for a settings file from a directory outwards. -/
def find (tree : Tree) (here : Location) (start : Path) : Option Path :=
  findIn tree here start.ancestry

/-- The settings file to use, if any. An explicit one has to be there. -/
def select (tree : Tree) (here : Location) (explicit : Option Path) (start : Path) :
    Except Failure (Option Path) :=
  match explicit with
  | none => .ok (find tree here start)
  | some path =>
      if tree.isPresent here path then .ok (some path)
      else .error (.settings path.text .notFound)

/-- What loading gives: the settings or a failure, and the notices up to there. -/
structure Loading where
  notices : List Notice
  outcome : Except Failure Settings

/-- Reads the settings from the text of a file. A refusal names the file. -/
def ofText (path text : String) : Loading :=
  let decoding := parse path text
  ⟨decoding.notices, decoding.outcome.mapError (.settings path)⟩

def read (tree : Tree) (here : Location) (path : Path) : Loading :=
  match tree.readText here path with
  | .error fault => ⟨[], .error (.unreadable path.text fault)⟩
  | .ok text => ofText path.text text

/-- Loads the settings of a run. Where there is no file, every setting has its default. -/
def load (tree : Tree) (here : Location) (explicit : Option Path) (start : Path) : Loading :=
  match select tree here explicit start with
  | .error failure => ⟨[], .error failure⟩
  | .ok none => ⟨[.event .noSettings], .ok {}⟩
  | .ok (some path) =>
      let loading := read tree here path
      { loading with notices := .event (.loading path.text) :: loading.notices }

end RevealGates.Settings
