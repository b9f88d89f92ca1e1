import RevealGates.Json
import RevealGates.Reveal

/-!
Gates and modes from JSON values.

Gates come as an object by name or as a list in stage order; what is missing is open. A mode comes
as its name, or as an object whose only member has that name and no content.
-/

set_option autoImplicit false

namespace RevealGates

namespace Json

def bool? : Json → Option Bool
  | .bool value => some value
  | _ => none

/-- The member of an object with a given name; names are taken to be distinct. -/
def member? (name : String) (members : List (String × Json)) : Option Json :=
  (members.find? fun member => member.1 == name).map Prod.snd

end Json

namespace Reveal

/-- The gates with those of some stages set in turn, as far as the values are truth values. Values
without a stage left to belong to are refused. -/
def setAll? : List Stage → List Json → Reveal → Option Reveal
  | _, [], reveal => some reveal
  | [], _ :: _, _ => none
  | stage :: stages, value :: values, reveal => do
      let flag ← value.bool?
      setAll? stages values (reveal.set stage flag)

/-- The gates with that of one stage set if an object mentions it. -/
def setMember? (members : List (String × Json)) (reveal : Reveal) (stage : Stage) :
    Option Reveal :=
  match Json.member? stage.key members with
  | none => some reveal
  | some value => value.bool?.map (reveal.set stage)

def ofJson? : Json → Option Reveal
  | .object members => Stage.all.foldlM (setMember? members) {}
  | .array values => setAll? Stage.all values {}
  | _ => none

end Reveal

namespace Mode

def ofJson? : Json → Option Mode
  | .string name => ofName? name
  | .object [(name, .null)] => ofName? name
  | _ => none

end Mode

end RevealGates
