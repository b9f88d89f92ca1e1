import RevealGates.Reveal
import RevealGates.Text.Escaped

/-!
Log events: what an evaluation or a run tells about its progress.

Events are values. Code that reports something returns its events in order, and only the outermost
layer decides which of them are shown.
-/

set_option autoImplicit false

namespace RevealGates

/-- How detailed an event is. -/
inductive Event.Level where
  | debug
  | trace
  deriving DecidableEq, Repr

/-- Something worth telling about a run. -/
inductive Event where
  | computed (stage : Stage) (values : List Bool)
  /-- The gate of a stage was closed, so the evaluation returned that stage. -/
  | gateClosed (stage : Stage)
  /-- Every gate was open, so the evaluation returned nothing. -/
  | allRevealed
  | swept (mode : Mode) (reveal : Reveal)
  | loading (path : String)
  | noSettings
  /-- A settings file mentions gates after its first closed one. -/
  | laterGates (path : String) (closed : Stage) (later : List Stage)
  | wrote (path : String)
  | evaluating (inputs : Inputs) (reveal : Reveal) (mode : Mode)
  deriving DecidableEq, Repr

namespace Event

/-- Values of single stages are the only detail kept for tracing. -/
def level : Event → Level
  | .computed .. => .trace
  | _ => .debug

/-- The part of the program that an event comes from, by the name under which it is selected. -/
def origin : Event → String
  | .computed .. | .gateClosed _ | .allRevealed => "boolgate::eval"
  | .swept .. => "boolgate::table"
  | .loading _ | .noSettings => "boolgate::discovery"
  | .laterGates .. => "boolgate::config::parse"
  | .wrote _ => "boolgate::cmd_init"
  | .evaluating .. => "boolgate::cmd_eval"

/-- The names of the fields of an event; its message is one of them. -/
def fields : Event → List String
  | .computed .. => ["message", "stage", "values"]
  | .gateClosed _ => ["message", "stage"]
  | .swept .. => ["message", "mode", "reveal"]
  | .evaluating .. => ["message", "inputs", "reveal", "mode"]
  | .allRevealed | .loading _ | .noSettings | .laterGates .. | .wrote _ => ["message"]

def Level.name : Level → String
  | .debug => "DEBUG"
  | .trace => "TRACE"

/-- The message of an event followed by its other fields. -/
def message : Event → String
  | .computed stage values =>
      "computed stage=\"" ++ stage.id ++ "\" values=" ++ Bits.format values
  | .gateClosed stage => "gate closed, returning stage stage=\"" ++ stage.id ++ "\""
  | .allRevealed => "all stages revealed, returning empty sequence"
  | .swept mode reveal =>
      "swept all input combinations mode=\"" ++ mode.name ++ "\" reveal=" ++ reveal.text
  | .loading path => "loading config from " ++ Text.escaped path
  | .noSettings => "no config found, using defaults"
  | .laterGates path closed later =>
      Text.escaped path ++ ": reveal." ++ closed.key ++
        " is closed; later gates have no effect: " ++ ", ".intercalate (later.map Stage.key)
  | .wrote path => "wrote " ++ Text.escaped path
  | .evaluating inputs reveal mode =>
      "evaluating inputs=" ++ inputs.text ++ " reveal=" ++ reveal.text ++ " mode=\"" ++
        mode.name ++ "\""

/-- The log line of an event, without its newline. The time at its front and the colours of its
parts are left out. -/
def text (event : Event) : String :=
  event.level.name ++ " " ++ event.message

end Event

end RevealGates
