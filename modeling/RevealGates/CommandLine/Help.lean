import RevealGates.CommandLine.Argument

/-!
Help: the arguments of a level, described in columns or, in full, one below the other.

Only a level that has more to say about some argument has a full form of its own; elsewhere both
forms are the same.
-/

set_option autoImplicit false

namespace RevealGates.CommandLine.Help

def program : String := "boolgate"

def programVersion : String := "0.1.0"

def configVariable : String := "BOOLGATE_CONFIG"

/-- A name that can be chosen, with what it means where that is told. -/
structure Choice where
  name : String
  meaning : Option String := none

def choices : Argument → List Choice
  | .mode =>
      Mode.all.map fun mode =>
        match mode with
        | .fixture =>
            ⟨mode.name, "Reproduce the fixture: `¬(B∧C)` in both the fourth and fifth slot"⟩
        | .corrected =>
            ⟨mode.name, "Negate each pair in order: the fifth slot is `¬(B∧D)`"⟩
  | .output => Format.all.map fun format => ⟨format.name, none⟩
  | .shell => Shell.all.map fun shell => ⟨shell.name, none⟩
  | _ => []

/-- Whether there is more to say about an argument than fits beside it. -/
def isDetailed (argument : Argument) : Bool :=
  (choices argument).any fun choice => choice.meaning.isSome

def hasFullForm (level : Level) : Bool :=
  level.options.any isDetailed

def purpose (level : Level) (detail : Detail) : Argument → String
  | .inputs => "Inputs A, B, C, D as four bits (1/0 or t/f)"
  | .shell => "Shell to generate completions for"
  | .config => "Use specific config file"
  | .reveal => "Reveal flags, one bit per stage (e.g. 110000)"
  | .revealAll => "Reveal every stage"
  | .mode => "Inverted pairs convention"
  | .output => "Output format"
  | .expect => "Expected returned sequence; exit 1 on mismatch"
  | .color => "Force color output"
  | .noColor => "Disable color output"
  | .force => "Overwrite existing boolgate.toml"
  | .help =>
      match hasFullForm level, detail with
      | false, _ => "Print help"
      | true, .brief => "Print help (see more with '--help')"
      | true, .full => "Print help (see a summary with '-h')"
  | .version => "Print version"

/-- The value that an argument has when it is not given. -/
def default? : Argument → Option String
  | .inputs => some "1111"
  | .output => some Format.text.name
  | _ => none

/-- Remarks in brackets: the variable that stands in for the argument, its default, and the names it
allows where they are not listed below it. -/
def remarks (environment : Option String) (listed : Bool) (argument : Argument) : List String :=
  let standIn :=
    if argument = .config then
      ["[env: " ++ configVariable ++ "=" ++ environment.getD "" ++ "]"]
    else []
  let fallback := (default? argument).toList.map fun value => "[default: " ++ value ++ "]"
  let names := (choices argument).map Choice.name
  let allowed :=
    if names.isEmpty || listed then []
    else ["[possible values: " ++ ", ".intercalate names ++ "]"]
  standIn ++ fallback ++ allowed

def spaces (n : Nat) : String := String.ofList (List.replicate n ' ')

/-- Makes every line of a text but the first begin in a column. -/
def hang (column : Nat) (text : String) : String :=
  String.ofList (text.toList.flatMap fun c =>
    if c = '\n' then '\n' :: List.replicate column ' ' else [c])

/-- How the help names an argument. Letters have a column of their own. -/
def entry (argument : Argument) : List Phrase :=
  match argument.long? with
  | none => [.plain argument.label]
  | some long =>
      let letter :=
        match argument.short? with
        | some letter => [.literal (String.ofList ['-', letter]), .plain ", "]
        | none => [.plain (spaces 4)]
      let placeholder :=
        match argument.placeholder? with
        | some placeholder => [.plain (" <" ++ placeholder ++ ">")]
        | none => []
      letter ++ .literal ("--" ++ long) :: placeholder

def columns (rows : List (List Phrase × String)) : List Phrase :=
  let widest := (rows.map fun row => Phrase.width row.1).foldl max 0
  rows.flatMap fun (left, right) =>
    .plain (spaces 2) :: left ++
      [.plain (spaces (widest - Phrase.width left + 2) ++ hang (widest + 4) right ++ "\n")]

/-- Arguments with their purpose and remarks beside them. -/
def briefArguments (environment : Option String) (level : Level) (detail : Detail)
    (arguments : List Argument) : List Phrase :=
  columns (arguments.map fun argument =>
    (entry argument,
      " ".intercalate (purpose level detail argument :: remarks environment false argument)))

def indentation : Nat := 10

/-- The allowed names of an argument below each other, with their meanings. -/
def listing (argument : Argument) : List Phrase :=
  let widest := ((choices argument).map fun choice => choice.name.length).foldl max 0
  .plain ("\n" ++ spaces indentation ++ "Possible values:\n") ::
    (choices argument).flatMap fun choice =>
      [.plain (spaces indentation ++ "- "), .literal choice.name,
        .plain (":" ++ spaces (widest - choice.name.length + 1) ++ choice.meaning.getD "" ++ "\n")]

def fullArgument (environment : Option String) (level : Level) (argument : Argument) :
    List Phrase :=
  let listed := isDetailed argument
  let remarks := remarks environment listed argument
  let told :=
    if remarks.isEmpty then purpose level .full argument
    else purpose level .full argument ++ "\n\n" ++ "\n".intercalate remarks
  .plain (spaces 2) :: entry argument ++
    .plain ("\n" ++ spaces indentation ++ hang indentation told ++ "\n") ::
    if listed then listing argument else []

/-- Arguments in the full form, with empty lines between them. -/
def fullArguments (environment : Option String) (level : Level) (arguments : List Argument) :
    List Phrase :=
  [Phrase.plain "\n"].intercalate (arguments.map (fullArgument environment level))

/-- A part of the help under its title; nothing if it is empty. -/
def part (title : String) (body : List Phrase) : List Phrase :=
  if body = [] then [] else .plain "\n" :: .title (title ++ ":") :: .plain "\n" :: body

def about : Level → String
  | .top => "Staged boolean combination evaluator with reveal gates"
  | .command .eval => "Evaluate one input combination"
  | .command .table => "Evaluate all 16 input combinations"
  | .command .init => "Write a default boolgate.toml"
  | .command .completions => "Print a shell completion script"

def aboutHelp : String := "Print this message or the help of the given subcommand(s)"

def usage (level : Level) : List Phrase :=
  match level with
  | .top => [.literal program, .plain " [OPTIONS] [COMMAND]"]
  | .command name =>
      [.literal (program ++ " " ++ name.word), .plain (" [OPTIONS]" ++
        ((level.positional?.map fun argument => " " ++ argument.label).getD ""))]

def heading (about : String) (usage : List Phrase) : List Phrase :=
  [.plain (about ++ "\n\n"), .title "Usage:", .plain " "] ++ usage ++ [.plain "\n"]

def commands : List Phrase :=
  columns ((CommandName.all.map fun name => ([.literal name.word], about (.command name))) ++
    [([.literal helpWord], aboutHelp)])

def ofLevel (environment : Option String) (level : Level) (detail : Detail) : List Phrase :=
  let arguments (arguments : List Argument) :=
    if hasFullForm level ∧ detail = .full then fullArguments environment level arguments
    else briefArguments environment level detail arguments
  heading (about level) (usage level) ++
    (if level = .top then part "Commands" commands else []) ++
    part "Arguments" (arguments level.positional?.toList) ++
    part "Options" (arguments level.options)

def ofHelp : List Phrase :=
  heading aboutHelp [.literal (program ++ " " ++ helpWord), .plain " [COMMAND]..."] ++
    part "Arguments" (columns [([.plain "[COMMAND]..."], "Print help for the subcommand(s)")])

/-- The help about a topic. The environment's path is shown as it is. -/
def phrases (environment : Option String) (topic : Topic) (detail : Detail) : List Phrase :=
  match topic with
  | .level level => ofLevel environment level detail
  | .help => ofHelp

def versionText : Level → String
  | .top => program ++ " " ++ programVersion ++ "\n"
  | .command name => program ++ "-" ++ name.word ++ " " ++ programVersion ++ "\n"

end RevealGates.CommandLine.Help
