import RevealGates.Environment
import RevealGates.Style

/-!
Whether reports are coloured.

Options decide before the environment does, and refusing colour goes before asking for it. If nobody
says anything, colour goes to terminals that people look at.
-/

set_option autoImplicit false

namespace RevealGates

/-- A decision about colour. -/
inductive ColourChoice where
  | never
  | always
  | auto
  deriving DecidableEq, Repr

namespace ColourChoice

/-- Variables that are set where no person looks at the terminal. -/
def unattended : List String := ["CLAUDE_CODE", "CODEX", "CURSOR", "CI"]

def ofEnvironment (environment : Environment) : ColourChoice :=
  if environment.isSet "NO_COLOR" then .never
  else if environment.isSet "COLOR" then .always
  else if !environment.terminal then .never
  else if unattended.any environment.isSet then .never
  else .auto

/-- The decision from the options and then the environment. -/
def resolve (color noColor : Bool) (environment : Environment) : ColourChoice :=
  if noColor then .never
  else if color then .always
  else ofEnvironment environment

/-- Whether messages and help are emphasized even where no terminal shows it. Here a variable counts
only if it is not empty. -/
def isForced (environment : Environment) : Bool :=
  environment.isFilled "CLICOLOR_FORCE" && !environment.isFilled "NO_COLOR"

/-- Whether the terminal shows colours, by the name that it gives itself. -/
def isCapable (environment : Environment) : Bool :=
  match environment.get? "TERM" with
  | none => false
  | some name => name != "dumb"

/-- The painter for a decision. If nobody decided, the terminal has to be able to show colours. -/
def painter (environment : Environment) : ColourChoice → Painter
  | .never => .plain
  | .always => .ansi
  | .auto => if isCapable environment then .ansi else .plain

end ColourChoice

end RevealGates
