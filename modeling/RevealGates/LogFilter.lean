import RevealGates.Event
import RevealGates.Pattern
import RevealGates.Text.Bytes

/-!
Which log events are shown.

A filter is a list of directives between commas. A directive is a level for everything, or the
beginning of an origin, optionally followed by a level after an equals sign. Brackets between the
two narrow it down: a field name in braces to the events that have the field, anything else to what
happens inside some span of time. The most specific directive that fits an event decides.
-/

set_option autoImplicit false

namespace RevealGates.LogFilter

/-- How much is shown. Nothing is ever logged below `debug`, so the lower levels are alike. -/
inductive Verbosity where
  | quiet
  | debug
  | trace
  deriving DecidableEq, Repr

namespace Verbosity

def shows : Verbosity → Event.Level → Bool
  | .quiet, _ => false
  | .debug, level => level = .debug
  | .trace, _ => true

/-- The verbosity of a level that is given by its number. -/
def ofNumber? (number : Nat) : Option Verbosity :=
  if number ≤ 3 then some .quiet
  else if number = 4 then some .debug
  else if number = 5 then some .trace
  else none

/-- The verbosity of a level that is given by its name, in letters of either case. -/
def ofName? (name : String) : Option Verbosity :=
  match name.toLower with
  | "off" | "error" | "warn" | "info" => some .quiet
  | "debug" => some .debug
  | "trace" => some .trace
  | _ => none

/-- The number that decimal digits denote; a plus sign may stand in front of them. -/
def number? (chars : List Char) : Option Nat :=
  let digits := if chars.head? = some '+' then chars.drop 1 else chars
  if digits.isEmpty || !digits.all Char.isDigit then none
  else some (digits.foldl (fun number c => number * 10 + (c.toNat - '0'.toNat)) 0)

def ofText? (chars : List Char) : Option Verbosity :=
  match number? chars with
  | some number => ofNumber? number
  | none => ofName? (String.ofList chars)

end Verbosity

/-- A verbosity for some events. -/
structure Directive where
  beginning : List Char := []
  field : Option String := none
  verbosity : Verbosity
  deriving DecidableEq, Repr

/-- What brackets ask for. -/
inductive Narrowing where
  | field (name : String)
  /-- A span that the event happens in. There are no spans, so no event does. -/
  | span
  deriving DecidableEq, Repr

/-- What stands in brackets: the name of a span, and a field in braces. -/
structure Brackets where
  span : List Char
  field : Option (List Char)
  deriving DecidableEq, Repr

namespace Brackets

/-- Reads brackets after the opening one. A field is not empty. -/
def read (chars : List Char) : Option (Brackets × List Char) :=
  match chars.span fun c => c != ']' && c != '\x7b' with
  | (span, ']' :: rest) => some (⟨span, none⟩, rest)
  | (span, '\x7b' :: inner) =>
      match inner.span (· != '\x7d') with
      | ([], _) => none
      | (field, '\x7d' :: ']' :: rest) => some (⟨span, some field⟩, rest)
      | _ => none
  | _ => none

def unsigned : List Char → List Char
  | '+' :: rest => rest
  | '-' :: rest => rest
  | chars => chars

/-- Whether a text is a decimal number without a sign, or the name of a special one. -/
def isNumber (chars : List Char) : Bool :=
  ["inf", "infinity", "nan"].contains (String.ofList chars).toLower ||
    let (whole, rest) := chars.span Char.isDigit
    let (fraction, rest) :=
      match rest with
      | '.' :: rest => rest.span Char.isDigit
      | rest => ([], rest)
    !(whole ++ fraction).isEmpty &&
      match rest with
      | [] => true
      | mark :: power =>
          let digits := unsigned power
          (mark == 'e' || mark == 'E') && !digits.isEmpty && digits.all Char.isDigit

/-- Whether a text can be compared with the values of a field. Numbers without a plus sign are
patterns anyway. -/
def isValue : List Char → Bool
  | '+' :: rest => isNumber rest
  | chars => Pattern.isPattern chars

/-- What brackets ask for. Only spans have names and only their fields have values; a value runs up
to the next equals sign. -/
def narrowing? (brackets : Brackets) : Option Narrowing :=
  match brackets.field with
  | none => some .span
  | some field =>
      match field.span (· != '=') with
      | (name, []) =>
          if brackets.span.isEmpty then some (.field (String.ofList name)) else some .span
      | (_, _ :: value) => if isValue (value.takeWhile (· != '=')) then some .span else none

end Brackets

namespace Directive

/-- Whether a character may begin the name of an origin. -/
def startsName (c : Char) : Bool :=
  c == '-' || c == ':' || c == '_' || Text.isAlphanumeric c

/-- The part of a text that is as long as `part` and follows as much as `front` takes. Parts are
found in a text without the white space in front of it and then cut out of the whole text, so white
space in front makes every part another one. -/
def cut (text front part : List Char) : List Char :=
  Text.takeBytes (Text.byteCount part) (Text.dropBytes (Text.byteCount front) text)

/-- Reads the level at the end of a directive, after as much as `front` takes. None, or an empty
one, means everything. -/
def level? (text front : List Char) : List Char → Option Verbosity
  | '=' :: _ =>
      match Text.dropBytes (Text.byteCount front + 1) text with
      | [] => some .trace
      | level => Verbosity.ofText? level
  | rest => if rest.all Text.isBlank then some .trace else none

/-- Reads a text that is only a level or only the beginning of an origin. -/
def ofWord (text : List Char) : Directive :=
  match Verbosity.ofText? text with
  | some verbosity => ⟨[], none, verbosity⟩
  | none => ⟨text, none, .trace⟩

/-- Reads a directive, given the text without white space in front. No directive is left of one that
fits nothing. -/
def ofBody? (text body : List Char) : Option (List Directive) :=
  match body.span fun c => c != '=' && c != '[' with
  | (_, []) => some [ofWord text]
  | (name, '[' :: rest) => do
      let (brackets, left) ← Brackets.read rest
      let front := name ++ '[' :: brackets.span ++ ['\x7b']
      let narrowing ← Brackets.narrowing?
        { brackets with field := brackets.field.map (cut text front) }
      let verbosity ← level? text (body.take (body.length - left.length)) left
      match narrowing with
      | .field field => some [⟨cut text [] name, some field, verbosity⟩]
      | .span => some []
  | (name, rest) =>
      (level? text name rest).map fun verbosity => [⟨cut text [] name, none, verbosity⟩]

def parse? (text : List Char) : Option (List Directive) :=
  match text.dropWhile Text.isBlank with
  | [] => none
  | first :: rest =>
      if first == '[' || startsName first then ofBody? text (first :: rest) else none

def fits (directive : Directive) (event : Event) : Bool :=
  directive.beginning.isPrefixOf event.origin.toList &&
    (directive.field.map event.fields.contains).getD true

/-- Whether a directive is more specific than another: by a longer beginning, then by having a
field, then by the greater name of the field. -/
def isStricter (directive other : Directive) : Bool :=
  if directive.beginning.length = other.beginning.length then
    match directive.field, other.field with
    | some field, some otherField => otherField < field
    | some _, none => true
    | none, _ => false
  else other.beginning.length < directive.beginning.length

end Directive

/-- The parts of a text between commas, leaving out empty ones. -/
def parts (text : List Char) : List (List Char) :=
  (text.splitOn ',').filter fun part => !part.isEmpty

/-- Reads a filter. One directive that cannot be read turns the whole log off. -/
def parse (text : String) : List Directive :=
  (((parts text.toList).mapM Directive.parse?).map List.flatten).getD []

/-- The better of two directives that fit: the more specific one, or else the later one. -/
def better (best : Option Directive) (directive : Directive) : Option Directive :=
  match best with
  | none => some directive
  | some held => if held.isStricter directive then some held else some directive

def shows (directives : List Directive) (event : Event) : Bool :=
  match (directives.filter fun directive => directive.fits event).foldl better none with
  | none => false
  | some directive => directive.verbosity.shows event.level

end RevealGates.LogFilter
