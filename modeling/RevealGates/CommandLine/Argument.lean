import RevealGates.CommandLine.Invocation
import RevealGates.CommandLine.Phrase

/-!
The arguments of the command line: which there are, where they are allowed, and what is wrong with
them when a command line is refused.
-/

set_option autoImplicit false

namespace RevealGates.CommandLine

/-- Everything that can be given on a command line besides the commands themselves. -/
inductive Argument where
  | inputs
  | shell
  | config
  | reveal
  | revealAll
  | mode
  | output
  | expect
  | color
  | noColor
  | force
  | help
  | version
  deriving DecidableEq, Repr

/-- The commands by name. -/
inductive CommandName where
  | eval
  | table
  | init
  | completions
  deriving DecidableEq, Repr

namespace CommandName

def all : List CommandName := [.eval, .table, .init, .completions]

def word : CommandName → String
  | .eval => "eval"
  | .table => "table"
  | .init => "init"
  | .completions => "completions"

def ofWord? (word : String) : Option CommandName :=
  all.find? fun name => name.word == word

end CommandName

def helpWord : String := "help"

/-- Arguments stand before the command or after it. -/
inductive Level where
  | top
  | command (name : CommandName)
  deriving DecidableEq, Repr

namespace Argument

def long? : Argument → Option String
  | .inputs | .shell => none
  | .config => some "config"
  | .reveal => some "reveal"
  | .revealAll => some "reveal-all"
  | .mode => some "mode"
  | .output => some "output"
  | .expect => some "expect"
  | .color => some "color"
  | .noColor => some "no-color"
  | .force => some "force"
  | .help => some "help"
  | .version => some "version"

def short? : Argument → Option Char
  | .config => some 'C'
  | .output => some 'o'
  | .help => some 'h'
  | .version => some 'V'
  | _ => none

/-- The placeholder for the value of an argument that takes one. -/
def placeholder? : Argument → Option String
  | .inputs => some "INPUTS"
  | .shell => some "SHELL"
  | .config => some "CONFIG"
  | .reveal | .expect => some "BITS"
  | .mode => some "MODE"
  | .output => some "OUTPUT"
  | _ => none

def takesValue (argument : Argument) : Bool := argument.placeholder?.isSome

/-- Whether a command cannot do without the argument. -/
def isRequired : Argument → Bool
  | .shell => true
  | _ => false

/-- How messages and help name an argument. Brackets mark a positional that may be left out. -/
def label (argument : Argument) : String :=
  match argument.long?, argument.placeholder? with
  | some long, some placeholder => "--" ++ long ++ " <" ++ placeholder ++ ">"
  | some long, none => "--" ++ long
  | none, some placeholder =>
      if argument.isRequired then "<" ++ placeholder ++ ">" else "[" ++ placeholder ++ "]"
  | none, none => ""

end Argument

namespace Level

/-- The options that a level allows, in the order of the help. -/
def options : Level → List Argument
  | .top => [.config, .help, .version]
  | .command .eval =>
      [.config, .reveal, .revealAll, .mode, .output, .expect, .color, .noColor, .help, .version]
  | .command .table =>
      [.config, .reveal, .revealAll, .mode, .output, .color, .noColor, .help, .version]
  | .command .init => [.config, .force, .help, .version]
  | .command .completions => [.config, .help, .version]

/-- The positional argument of a level, if it has one. -/
def positional? : Level → Option Argument
  | .command .eval => some .inputs
  | .command .completions => some .shell
  | _ => none

def long? (level : Level) (name : String) : Option Argument :=
  level.options.find? fun argument => argument.long? == some name

def short? (level : Level) (letter : Char) : Option Argument :=
  level.options.find? fun argument => argument.short? == some letter

end Level

/-- Why a command line is refused. -/
inductive UsageFault where
  /-- A value that is no bit string of the right kind. -/
  | badBits (argument : Argument) (value : String) (error : ArgumentError)
  | unknownValue (argument : Argument) (value : String)
  /-- No value, or an empty one where that is no value. -/
  | missingValue (argument : Argument)
  | repeated (argument : Argument)
  | conflict (first other : Argument)
  | unexpectedWord (word : String)
  | unexpectedValue (argument : Argument) (value : String)
  | unknownCommand (word : String)
  | missingArgument (argument : Argument)
  deriving DecidableEq, Repr

namespace UsageFault

/-- The wording of each fault after the word of alarm. -/
def complaint : UsageFault → List Phrase
  | .badBits argument value error =>
      [.plain "invalid value '", .invalid value, .plain "' for '", .literal argument.label,
        .plain ("': " ++ error.message)]
  | .unknownValue argument value =>
      [.plain "invalid value '", .invalid value, .plain "' for '", .literal argument.label,
        .plain "'"]
  | .missingValue argument =>
      [.plain "a value is required for '", .invalid argument.label,
        .plain "' but none was supplied"]
  | .repeated argument =>
      [.plain "the argument '", .invalid argument.label,
        .plain "' cannot be used multiple times"]
  | .conflict first other =>
      [.plain "the argument '", .invalid first.label, .plain "' cannot be used with '",
        .invalid other.label, .plain "'"]
  | .unexpectedWord word => [.plain "unexpected argument '", .invalid word, .plain "' found"]
  | .unexpectedValue argument value =>
      [.plain "unexpected value '", .invalid value, .plain "' for '", .literal argument.label,
        .plain "' found; no more were expected"]
  | .unknownCommand word => [.plain "unrecognized subcommand '", .invalid word, .plain "'"]
  | .missingArgument _ => [.plain "the following required arguments were not provided:"]

/-- The wording of each fault, in the line that names it. Words are repeated as they were given.
What can follow in further lines is left out: missing arguments, suggestions, usage and a pointer to
the help. -/
def wording (fault : UsageFault) : List Phrase :=
  .alarm "error:" :: .plain " " :: fault.complaint

def message (fault : UsageFault) : String :=
  Phrase.message fault.wording

end UsageFault

/-- What help can be asked about. -/
inductive Topic where
  | level (level : Level)
  | help
  deriving DecidableEq, Repr

/-- How detailed help is. -/
inductive Detail where
  | brief
  | full
  deriving DecidableEq, Repr

/-- Why reading a command line ends before there is something to do. -/
inductive Stop where
  | usage (fault : UsageFault)
  | help (topic : Topic) (detail : Detail)
  | version (level : Level)
  deriving DecidableEq, Repr

end RevealGates.CommandLine
