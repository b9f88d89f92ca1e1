import RevealGates.Settings.Decode

/-!
Invocations: what a command line asks for, once it has been understood.
-/

set_option autoImplicit false

namespace RevealGates

/-- The form of a report. -/
inductive Format where
  | text
  | json
  deriving DecidableEq, Repr

namespace Format

def all : List Format := [.text, .json]

def name : Format → String
  | .text => "text"
  | .json => "json"

def ofName? (name : String) : Option Format :=
  all.find? fun format => format.name == name

end Format

/-- The shells that completions are written for. -/
inductive Shell where
  | bash
  | elvish
  | fish
  | powershell
  | zsh
  deriving DecidableEq, Repr

namespace Shell

def all : List Shell := [.bash, .elvish, .fish, .powershell, .zsh]

def name : Shell → String
  | .bash => "bash"
  | .elvish => "elvish"
  | .fish => "fish"
  | .powershell => "powershell"
  | .zsh => "zsh"

def ofName? (name : String) : Option Shell :=
  all.find? fun shell => shell.name == name

end Shell

/-- What is said about gates and mode on a command line. -/
structure GateChoice where
  reveal : Option Reveal := none
  revealAll : Bool := false
  mode : Option Mode := none
  deriving DecidableEq, Repr

namespace GateChoice

def override? (choice : GateChoice) : Option Reveal :=
  if choice.revealAll then some Reveal.everything else choice.reveal

/-- The mode and the gates to use. Each is taken from the command line if it is set there, and from
the settings otherwise. -/
def resolve (choice : GateChoice) (settings : Settings) : Mode × Reveal :=
  (choice.mode.getD settings.mode, choice.override?.getD settings.reveal)

end GateChoice

/-- What every report can be asked for. -/
structure ReportChoice where
  gates : GateChoice := {}
  format : Format := .text
  color : Bool := false
  noColor : Bool := false
  deriving DecidableEq, Repr

/-- What a run is to do. -/
inductive Command where
  /-- Evaluates one input combination, and compares the returned sequence if one is expected. -/
  | eval (inputs : Inputs) (expect : Option (List Bool)) (report : ReportChoice)
  | table (report : ReportChoice)
  | init (force : Bool)
  | completions (shell : Shell)
  deriving DecidableEq, Repr

/-- A command line that has been understood. -/
structure Invocation where
  /-- The settings file to use instead of one that is found. -/
  config : Option String
  command : Option Command
  deriving DecidableEq, Repr

end RevealGates
