import RevealGates.Colour
import RevealGates.CommandLine.Help
import RevealGates.CommandLine.Parse
import RevealGates.LogFilter
import RevealGates.Session
import RevealGates.Settings.Starter

/-!
Whole runs of the program.

A run is a function of its words, its environment, its working directory and the files it can see.
It gives an exit code, the two output texts and the files afterwards.

Both output texts are taken whole: no stream refuses to be written. The working directory is always
known. Of texts whose wording comes from elsewhere only a part is kept: of a usage error its first
line, of a complaint about the syntax of a settings file its first words, and of a log line all but
the time and the colours.
-/

set_option autoImplicit false

namespace RevealGates.Program

open Files (Location Path Tree)

/-- The surroundings of a run. -/
structure Context where
  environment : Environment := {}
  here : Location := []
  files : Tree := ⟨[]⟩
  /-- The completion script for each shell. It is made from the options elsewhere; a run hands it
  out as it is. -/
  completions : Shell → String := fun _ => ""

/-- What a run leaves behind. -/
structure Outcome where
  code : ExitCode
  stdout : String := ""
  stderr : String := ""
  files : Tree

namespace Context

/-- The working directory, from the top directory down. A run whose working directory was removed,
which ends as an internal failure before anything is looked for, is left out. -/
def directory (context : Context) : Path := ⟨true, context.here.reverse⟩

def logVariable : String := "BOOLGATE_LOG"

/-- The directives of the log filter. Without the variable nothing is shown. -/
def directives (context : Context) : List LogFilter.Directive :=
  match context.environment.get? logVariable with
  | none => []
  | some text => LogFilter.parse text

/-- Whether a notice is shown: a warning always, an event if the filter says so. -/
def shows (context : Context) : Notice → Bool
  | .warning _ => true
  | .event event => LogFilter.shows context.directives event

def transcript (context : Context) (notices : List Notice) : String :=
  String.join ((notices.filter context.shows).map Notice.line)

/-- Ends a run after some notices, with a last text on standard error. -/
def finish (context : Context) (code : ExitCode) (stdout : String) (notices : List Notice)
    (last : String) : Outcome where
  code := code
  stdout := stdout
  stderr := context.transcript notices ++ last
  files := context.files

def fail (context : Context) (notices : List Notice) (failure : Failure) : Outcome :=
  context.finish failure.exitCode "" notices ("boolgate: " ++ failure.message ++ "\n")

end Context

/-- What both reports need: the mode, the gates and the looks. -/
structure Prepared where
  mode : Mode
  reveal : Reveal
  surface : Surface

def surface (context : Context) (choice : ReportChoice) : Surface :=
  match choice.format with
  | .text =>
      let colours := ColourChoice.resolve choice.color choice.noColor context.environment
      .text (colours.painter context.environment)
  | .json => .json

/-- Prepares a report: contradictory colour options are refused first, then the settings are loaded
and combined with the command line. What follows is run with the notices so far. -/
def prepare (context : Context) (config : Option String) (choice : ReportChoice)
    (report : List Notice → Prepared → Outcome) : Outcome :=
  if choice.color && choice.noColor then
    context.finish .refused "" [] "--color and --no-color cannot be used together\n"
  else
    let loading :=
      Settings.load context.files context.here (config.map Path.ofText) context.directory
    match loading.outcome with
    | .error failure => context.fail loading.notices failure
    | .ok settings =>
        let (mode, reveal) := choice.gates.resolve settings
        report loading.notices ⟨mode, reveal, surface context choice⟩

/-- The report of an evaluation: the surface takes the lines as they come where it can, and then the
summary. -/
def evaluationText (surface : Surface) (request : Request) : String × EvaluationRun String Empty :=
  let run := request.run (Output.buffer.toSink surface.line) ""
  let collected := request.run Sink.collect []
  let written :=
    Output.buffer.writeAll run.state (surface.result request collected.state run.evaluation)
  (written.2, run)

/-- The last word about an expectation that is not met. -/
def mismatchText (expected found : List Bool) : String :=
  "boolgate: result mismatch: expected [" ++ Bits.format expected ++ "], got [" ++
    Bits.format found ++ "]\n"

def runEval (context : Context) (config : Option String) (inputs : Inputs)
    (expect : Option (List Bool)) (choice : ReportChoice) : Outcome :=
  prepare context config choice fun notices prepared =>
    let request : Request := ⟨prepared.mode, inputs, prepared.reveal⟩
    let (text, run) := evaluationText prepared.surface request
    let values := run.evaluation.values
    let notices := notices ++
      (.evaluating inputs prepared.reveal prepared.mode :: run.events).map .event
    match expect with
    | none => context.finish .success text notices ""
    | some expected =>
        if expected = values then context.finish .success text notices ""
        else context.finish .mismatch text notices (mismatchText expected values)

def runTable (context : Context) (config : Option String) (choice : ReportChoice) : Outcome :=
  prepare context config choice fun notices prepared =>
    let table := TruthTable.sweep prepared.mode prepared.reveal
    let events := TruthTable.sweepEvents prepared.mode prepared.reveal
    let written := Output.buffer.writeAll "" (prepared.surface.table table)
    context.finish .success written.2 (notices ++ events.map .event) ""

/-- Writes the starter settings file into the working directory. -/
def runInit (context : Context) (force : Bool) : Outcome :=
  let creation := Settings.Starter.create context.files context.here context.directory force
  let last :=
    match creation.outcome with
    | .failed fault => "boolgate: " ++ fault.message ++ "\n"
    | outcome => outcome.stderr
  { context.finish creation.outcome.exitCode creation.outcome.stdout
      (creation.events.map .event) last with
    files := creation.tree }

def configVariable (context : Context) : Option String :=
  context.environment.get? CommandLine.Help.configVariable

/-- Phrases as they are written in the environment of a run. -/
def written (context : Context) (phrases : List CommandLine.Phrase) : String :=
  CommandLine.Phrase.written (ColourChoice.isForced context.environment) phrases

def helpText (context : Context) (topic : CommandLine.Topic) (detail : CommandLine.Detail) :
    String :=
  written context (CommandLine.Help.phrases (configVariable context) topic detail)

/-- Does what an invocation asks for. Without a command the help is shown, and a further newline. -/
def runInvocation (context : Context) (invocation : Invocation) : Outcome :=
  match invocation.command with
  | none => context.finish .success (helpText context (.level .top) .brief ++ "\n") [] ""
  | some (.eval inputs expect choice) => runEval context invocation.config inputs expect choice
  | some (.table choice) => runTable context invocation.config choice
  | some (.init force) => runInit context force
  | some (.completions shell) =>
      context.finish .success (context.completions shell) [] ""

/-- Ends a run whose words do not lead to a command. Of a usage error only the first line is said
here. The lines after it are left out; they show how the command is used, and so are not the same
for each command. -/
def runStop (context : Context) : CommandLine.Stop → Outcome
  | .usage fault => context.finish .refused "" [] (written context fault.wording ++ "\n")
  | .help topic detail => context.finish .success (helpText context topic detail) [] ""
  | .version level => context.finish .success (CommandLine.Help.versionText level) [] ""

def run (context : Context) (words : List String) : Outcome :=
  match CommandLine.parse (configVariable context) words with
  | .error stop => runStop context stop
  | .ok invocation => runInvocation context invocation

end RevealGates.Program
