import RevealGates.Event
import RevealGates.Settings.Suggestion

/-!
Notices: warnings and log events in the order in which they arise.

Warnings are always shown; whether an event is shown depends on the chosen log level.
-/

set_option autoImplicit false

namespace RevealGates

/-- Something in a settings file that is ignored. -/
inductive Warning where
  /-- A key that has no meaning, with the name of its table in front where it has one. -/
  | unknownField (path field : String)
  | unknownGate (path key : String)
  deriving DecidableEq, Repr

namespace Warning

def unrecognized (path field : String) : String :=
  "boolgate: warning: " ++ path ++ ": unrecognized field `" ++ field ++ "` (ignored)"

/-- What is added for an unknown gate: a suggestion, or the list of gates. -/
def advice (key : String) : String :=
  match Suggestion.suggest? key with
  | some stage => ". Did you mean `" ++ stage.key ++ "`?"
  | none => "\n  Valid gates: " ++ ", ".intercalate (Stage.all.map Stage.key)

/-- The text of a warning, without its final newline. -/
def text : Warning → String
  | .unknownField path field => unrecognized path field
  | .unknownGate path key => unrecognized path ("reveal." ++ key) ++ advice key

end Warning

/-- A warning or a log event. -/
inductive Notice where
  | warning (warning : Warning)
  | event (event : Event)
  deriving DecidableEq, Repr

namespace Notice

/-- The text of a notice on standard error: a warning as it stands, an event by its log line, of
which the time and the colours are left out. -/
def line : Notice → String
  | .warning issued => issued.text ++ "\n"
  | .event logged => logged.text ++ "\n"

def warning? : Notice → Option Warning
  | .warning issued => some issued
  | .event _ => none

def event? : Notice → Option Event
  | .event logged => some logged
  | .warning _ => none

end Notice

end RevealGates
