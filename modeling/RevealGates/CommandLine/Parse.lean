import RevealGates.CommandLine.Argument
import RevealGates.CommandLine.Word

/-!
Reading a command line from left to right.

A value that stands in a word of its own is held back and checked when the next argument begins or
the words end, so a word that no argument can be made of is reported before the value in front of it
is looked at. The words after a command are read completely before the last value in front of the
command is checked.
-/

set_option autoImplicit false

namespace RevealGates.CommandLine

/-- The arguments that a level has accepted. -/
structure Given where
  order : List Argument := []
  config : Option String := none
  inputs : Option Inputs := none
  reveal : Option Reveal := none
  mode : Option Mode := none
  output : Option Format := none
  expect : Option (List Bool) := none
  shell : Option Shell := none
  deriving DecidableEq, Repr

namespace Given

def has (given : Given) (argument : Argument) : Bool := given.order.contains argument

/-- A name from a fixed list; an empty one counts as no value. -/
def choose {Choice : Type} (argument : Argument) (ofName? : String → Option Choice)
    (value : String) : Except UsageFault Choice :=
  if value = "" then .error (.missingValue argument)
  else
    match ofName? value with
    | some choice => .ok choice
    | none => .error (.unknownValue argument value)

def readBits {Result : Type} (argument : Argument)
    (parse : String → Except ArgumentError Result) (value : String) :
    Except UsageFault Result :=
  (parse value).mapError (.badBits argument value)

/-- Stores the value of an argument that takes one. -/
def store (given : Given) (argument : Argument) (value : String) : Except UsageFault Given :=
  match argument with
  | .config =>
      if value = "" then .error (.missingValue .config)
      else .ok { given with config := some value }
  | .inputs => do
      let inputs ← readBits argument Inputs.parse value
      .ok { given with inputs := some inputs }
  | .reveal => do
      let reveal ← readBits argument Reveal.parse value
      .ok { given with reveal := some reveal }
  | .expect => do
      let bits ← readBits argument Bits.parse value
      .ok { given with expect := some bits }
  | .mode => do
      let mode ← choose argument Mode.ofName? value
      .ok { given with mode := some mode }
  | .output => do
      let format ← choose argument Format.ofName? value
      .ok { given with output := some format }
  | .shell => do
      let shell ← choose argument Shell.ofName? value
      .ok { given with shell := some shell }
  | .revealAll | .color | .noColor | .force | .help | .version => .ok given

/-- Notes that an argument is given. No argument is given twice. -/
def mention (given : Given) (argument : Argument) : Except UsageFault Given :=
  if given.has argument then .error (.repeated argument)
  else .ok { given with order := given.order ++ [argument] }

def accept (given : Given) (argument : Argument) (value : String) : Except UsageFault Given := do
  let given ← given.mention argument
  given.store argument value

/-- Checks what can only be checked at the end: the two ways of setting the gates exclude each
other. -/
def checkConflict (given : Given) : Except UsageFault Unit :=
  match given.order.filter fun argument => argument = .reveal ∨ argument = .revealAll with
  | first :: other :: _ => .error (.conflict first other)
  | _ => .ok ()

def gateChoice (given : Given) : GateChoice where
  reveal := given.reveal
  revealAll := given.has .revealAll
  mode := given.mode

def reportChoice (given : Given) : ReportChoice where
  gates := given.gateChoice
  format := given.output.getD .text
  color := given.has .color
  noColor := given.has .noColor

def defaultInputs : Inputs := ⟨true, true, true, true⟩

/-- The command that the arguments of its level make up. -/
def command (given : Given) : CommandName → Except UsageFault Command
  | .eval => .ok (.eval (given.inputs.getD defaultInputs) given.expect given.reportChoice)
  | .table => .ok (.table given.reportChoice)
  | .init => .ok (.init (given.has .force))
  | .completions =>
      match given.shell with
      | some shell => .ok (.completions shell)
      | none => .error (.missingArgument .shell)

end Given

/-- An argument whose value has not been checked yet. -/
inductive Pending where
  | nothing
  | awaiting (argument : Argument)
  | held (argument : Argument) (value : String)
  deriving DecidableEq, Repr

/-- How far the words of a level have been read. -/
structure Progress where
  given : Given := {}
  pending : Pending := .nothing
  /-- Whether the positional argument has been given. -/
  placed : Bool := false
  deriving DecidableEq, Repr

namespace Progress

def settle (progress : Progress) : Except UsageFault Progress :=
  match progress.pending with
  | .nothing => .ok progress
  | .awaiting argument => .error (.missingValue argument)
  | .held argument value => do
      let given ← progress.given.accept argument value
      .ok { progress with given := given, pending := .nothing }

/-- Accepts an option with a value in the same word. -/
def attach (progress : Progress) (argument : Argument) (value : String) :
    Except UsageFault Progress := do
  let progress ← progress.settle
  let given ← progress.given.accept argument value
  .ok { progress with given := given }

/-- Begins an option whose value is the next word. -/
def await (progress : Progress) (argument : Argument) : Except UsageFault Progress := do
  let progress ← progress.settle
  .ok { progress with pending := .awaiting argument }

end Progress

/-- Accepts an option without a value. Help and version end the reading at once. -/
def raise (level : Level) (detail : Detail) (argument : Argument) (progress : Progress) :
    Except Stop Progress := do
  let progress ← progress.settle.mapError .usage
  match argument with
  | .help => .error (.help (.level level) detail)
  | .version => .error (.version level)
  | _ => do
      let given ← (progress.given.mention argument).mapError .usage
      .ok { progress with given := given }

def readLong (level : Level) (name : String) (value : Option String) (progress : Progress) :
    Except Stop Progress :=
  match level.long? name with
  | none => .error (.usage (.unexpectedWord ("--" ++ name)))
  | some argument =>
      match argument.takesValue, value with
      | true, some value => (progress.attach argument value).mapError .usage
      | true, none => (progress.await argument).mapError .usage
      | false, some value => .error (.usage (.unexpectedValue argument value))
      | false, none => raise level .full argument progress

/-- Reads letter options. An equals sign before a value is left out. -/
def readShort (level : Level) : Char → List Char → Progress → Except Stop Progress
  | letter, rest, progress =>
      match level.short? letter with
      | none => .error (.usage (.unexpectedWord (String.ofList ['-', letter])))
      | some argument =>
          match argument.takesValue, rest with
          | true, [] => (progress.await argument).mapError .usage
          | true, '=' :: value => (progress.attach argument (String.ofList value)).mapError .usage
          | true, value => (progress.attach argument (String.ofList value)).mapError .usage
          | false, [] => raise level .brief argument progress
          | false, next :: others => do
              let progress ← raise level .brief argument progress
              readShort level next others progress
termination_by _ rest => rest.length

def readPositional (level : Level) (separated : Bool) (word : String) (progress : Progress) :
    Except UsageFault Progress :=
  match level.positional?, progress.placed with
  | some argument, false => do
      let progress ← progress.settle
      .ok { progress with pending := .held argument word, placed := true }
  | _, _ =>
      match level with
      | .top =>
          if separated ∧ ((CommandName.ofWord? word).isSome ∨ word = helpWord) then
            .error (.unexpectedWord word)
          else .error (.unknownCommand word)
      | .command _ => .error (.unexpectedWord word)

def readPositionals (level : Level) : List String → Progress → Except UsageFault Progress
  | [], progress => .ok progress
  | word :: rest, progress => do
      let progress ← readPositional level true word progress
      readPositionals level rest progress

/-- The help that the words after the help command ask for. No command has commands of its own. -/
def helpStop : List String → Stop
  | [] => .help (.level .top) .full
  | word :: rest =>
      let topic? : Option Topic :=
        match CommandName.ofWord? word with
        | some name => some (.level (.command name))
        | none => if word = helpWord then some .help else none
      match topic?, rest with
      | none, _ => .usage (.unknownCommand word)
      | some topic, [] => .help topic .full
      | some _, next :: _ => .usage (.unknownCommand next)

/-- The words of a level have been read, up to their end or to a command. -/
structure Reading where
  progress : Progress
  command : Option (CommandName × List String)

/-- Reads the words of a level. A word that names a command ends the top level, unless an option is
waiting for its value. -/
def readWords (level : Level) : List String → Progress → Except Stop Reading
  | [], progress => .ok ⟨progress, none⟩
  | word :: rest, progress =>
      let next (progress : Progress) := readWords level rest progress
      match Word.ofText word, progress.pending with
      | .separator, _ => do
          let progress ← (readPositionals level rest progress).mapError .usage
          .ok ⟨progress, none⟩
      | .long name value, _ => do next (← readLong level name value progress)
      | .short letter letters, _ => do next (← readShort level letter letters progress)
      | .plain text, .awaiting argument => next { progress with pending := .held argument text }
      | .plain text, _ =>
          match level, CommandName.ofWord? text with
          | .top, some name => .ok ⟨progress, some (name, rest)⟩
          | _, _ =>
              if level = .top ∧ text = helpWord then .error (helpStop rest)
              else do next (← (readPositional level false text progress).mapError .usage)

/-- Ends a level: the pending argument is checked, then the path from the environment if it is used,
then conflicts. -/
def finishLevel (environment : Option String) (progress : Progress) : Except UsageFault Given := do
  let progress ← progress.settle
  if progress.given.config = none ∧ environment = some "" then .error (.missingValue .config)
  else do
    progress.given.checkConflict
    .ok progress.given

def parseCommand (environment : Option String) (name : CommandName) (words : List String) :
    Except Stop (Given × Command) := do
  let reading ← readWords (.command name) words {}
  let given ← (finishLevel environment reading.progress).mapError .usage
  let command ← (given.command name).mapError .usage
  .ok (given, command)

/-- Reads a command line, without the name of the program. A path after the command goes before one
in front of it, and both before the one from the environment. -/
def parse (environment : Option String) (words : List String) : Except Stop Invocation := do
  let reading ← readWords .top words {}
  match reading.command with
  | none => do
      let top ← (finishLevel environment reading.progress).mapError .usage
      .ok ⟨top.config <|> environment, none⟩
  | some (name, rest) => do
      let (given, command) ← parseCommand environment name rest
      let top ← (finishLevel environment reading.progress).mapError .usage
      .ok ⟨given.config <|> top.config <|> environment, some command⟩

end RevealGates.CommandLine
