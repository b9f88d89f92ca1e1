import RevealGates.Notice
import RevealGates.Toml.Grammar
import RevealGates.Toml.Spelled

/-!
Settings: what a settings file says about the mode and the gates.

Decoding checks one thing after the other and stops at the first fault: the syntax of the document,
its version, its moments, the table of evaluator settings, and the table of gates. Keys without a
meaning are warned about when they are reached and change nothing else, so a document can both warn
and fail.
-/

set_option autoImplicit false

namespace RevealGates

/-- The settings of a run. -/
structure Settings where
  version : Int := 1
  mode : Mode := .fixture
  reveal : Reveal := {}
  deriving DecidableEq, Repr

/-- Why a settings file is refused. -/
inductive SettingsFault where
  | syntaxFault
  | versionShape (shape : Toml.Shape)
  | versionMissing
  | versionUnsupported (version : Int)
  /-- A moment is spelled by something that is no string. -/
  | momentShape (shape : Toml.Shape)
  | momentSpelling
  | evaluatorNotTable
  | modeNotString
  | modeUnknown (name : String)
  | gatesNotTable
  | gateNotBoolean (stage : Stage)
  | notFound
  deriving DecidableEq, Repr

namespace Settings

def fileName : String := "boolgate.toml"

def supportedVersion : Int := 1

def sectionKeys : List String := ["eval", "reveal"]

def knownKeys : List String := "version" :: sectionKeys

/-- What decoding gives: the settings or the first fault, and the notices up to there. -/
structure Decoding (Result : Type) where
  notices : List Notice
  outcome : Except SettingsFault Result

namespace Decoding

variable {Result Next : Type}

def ok (result : Result) : Decoding Result := ⟨[], .ok result⟩

def fail (fault : SettingsFault) : Decoding Result := ⟨[], .error fault⟩

def after (notices : List Notice) (decoding : Decoding Result) : Decoding Result :=
  { decoding with notices := notices ++ decoding.notices }

/-- Continues a decoding that succeeded; notices add up either way. -/
def andThen (decoding : Decoding Result) (next : Result → Decoding Next) : Decoding Next :=
  match decoding.outcome with
  | .ok result => (next result).after decoding.notices
  | .error fault => ⟨decoding.notices, .error fault⟩

end Decoding

def checkVersion (document : Toml.Table) : Except SettingsFault Int :=
  match document.get? "version" with
  | none => .error .versionMissing
  | some (.integer version) =>
      if version = supportedVersion then .ok version else .error (.versionUnsupported version)
  | some value => .error (.versionShape value.shape)

def momentFault : Toml.Spelled.Fault → SettingsFault
  | .shape shape => .momentShape shape
  | .text | .surplus => .momentSpelling

/-- The document with moments in place of the tables that spell them. The sections are looked at
first; all other values only have to be in order, and stricter order at that. -/
def resolveMoments (document : Toml.Table) : Except SettingsFault Toml.Table := do
  let sections := document.filter fun member => sectionKeys.contains member.1
  let others := document.filter fun member => !sectionKeys.contains member.1
  let sections ← (Toml.Spelled.resolveMembers false sections).mapError momentFault
  let others ← (Toml.Spelled.resolveMembers true others).mapError momentFault
  .ok (sections ++ others)

/-- A warning for each key that is not among the known ones, in increasing order. -/
def unknownFields (path table : String) (known : List String) (members : Toml.Table) :
    List Notice :=
  (members.sorted.keys.filter fun key => !known.contains key).map fun key =>
    .warning (.unknownField path (table ++ key))

def decodeMode : Option Toml.Value → Except SettingsFault Mode
  | none => .ok .fixture
  | some (.string name) =>
      match Mode.ofName? name with
      | some mode => .ok mode
      | none => .error (.modeUnknown name)
  | some _ => .error .modeNotString

def decodeEvaluator (path : String) : Option Toml.Value → Decoding Mode
  | none => .ok .fixture
  | some (.table members) =>
      ⟨unknownFields path "eval." ["mode"] members,
        decodeMode (Toml.Members.get? "mode" members)⟩
  | some _ => .fail .evaluatorNotTable

/-- Goes through the members of the gate table in order, setting the gates that they name. -/
def decodeGates (path : String) : Toml.Table → Reveal → Decoding Reveal
  | [], reveal => .ok reveal
  | (key, value) :: rest, reveal =>
      match Stage.ofKey? key with
      | none => (decodeGates path rest reveal).after [.warning (.unknownGate path key)]
      | some stage =>
          match value with
          | .boolean flag => decodeGates path rest (reveal.set stage flag)
          | _ => .fail (.gateNotBoolean stage)

/-- The gates that a table mentions after the first closed one. -/
def laterGates (members : Toml.Table) (closed : Stage) : List Stage :=
  Stage.all.filter fun stage =>
    closed.index < stage.index && (members.get? stage.key).isSome

/-- The event that tells of gates without effect, if there are any. -/
def laterGatesEvents (path : String) (members : Toml.Table) (reveal : Reveal) : List Notice :=
  match reveal.terminating? with
  | none => []
  | some closed =>
      match laterGates members closed with
      | [] => []
      | later => [.event (.laterGates path closed later)]

/-- Decodes the table of gates in increasing order of its keys. A gate that is not mentioned is
open. -/
def decodeReveal (path : String) : Option Toml.Value → Decoding Reveal
  | none => .ok {}
  | some (.table members) =>
      (decodeGates path (Toml.Members.sorted members) {}).andThen fun reveal =>
        ⟨laterGatesEvents path members reveal, .ok reveal⟩
  | some _ => .fail .gatesNotTable

/-- Decodes a document. Nothing is warned about before the version is known to be supported and the
moments are known to be spelled correctly. -/
def decode (path : String) (document : Toml.Table) : Decoding Settings :=
  match checkVersion document with
  | .error fault => .fail fault
  | .ok version =>
      match resolveMoments document with
      | .error fault => .fail fault
      | .ok document =>
          ((decodeEvaluator path (document.get? "eval")).andThen fun mode =>
            (decodeReveal path (document.get? "reveal")).andThen fun reveal =>
              .ok { version, mode, reveal }).after (unknownFields path "" knownKeys document)

/-- Reads the text of a settings file; the path is for the notices. -/
def parse (path text : String) : Decoding Settings :=
  match Toml.parse text with
  | none => .fail .syntaxFault
  | some document => decode path document

end Settings

/-- The wording of each fault; the path is that of the settings file. A complaint about the syntax
has only its first words here, without the place and the excerpt that follow them; if it is about
the type of a value, its last line is kept as well. -/
def SettingsFault.message (path : String) : SettingsFault → String
  | .syntaxFault => "TOML parse error"
  | .versionShape shape => "TOML parse error: invalid type: " ++ shape.text ++ ", expected i64"
  | .momentShape shape =>
      "TOML parse error: invalid type: " ++ shape.text ++ ", expected string containing a datetime"
  | .momentSpelling => "TOML parse error"
  | .versionMissing => "missing required field: version"
  | .versionUnsupported version =>
      "unsupported config version " ++ toString version ++ " (supported: " ++
        toString Settings.supportedVersion ++ ")\n  Upgrade boolgate to use this config."
  | .evaluatorNotTable => "`eval` must be a table"
  | .modeNotString => "eval.mode must be a string"
  | .modeUnknown name =>
      "invalid eval.mode `" ++ name ++ "` (expected " ++
        " or ".intercalate (Mode.all.map fun mode => "\"" ++ mode.name ++ "\"") ++ ")"
  | .gatesNotTable => "`reveal` must be a table"
  | .gateNotBoolean stage => "reveal." ++ stage.key ++ " must be a boolean"
  | .notFound => "config file not found: " ++ path

end RevealGates
