import RevealGates.Style
import RevealGates.Text.Stripped

/-!
Phrases: the pieces that messages and help are put together from, some of them emphasized.

Emphasis is written as escape sequences. A stream that shows no emphasis gets the same text with all
terminal control taken out. So a sequence that somebody's words leave unfinished reaches to the next
change of emphasis and not beyond.
-/

set_option autoImplicit false

namespace RevealGates.CommandLine

/-- Why words are emphasized. -/
inductive Emphasis where
  | title
  | literal
  | alarm
  | invalid
  deriving DecidableEq, Repr

/-- The selectors of an emphasis: bold or not, underlined or not, and the colour. -/
def Emphasis.selectors : Emphasis → List String
  | .title => ["1", "4"]
  | .literal => ["1"]
  | .alarm => ["1", "31"]
  | .invalid => ["33"]

/-- Some words and their emphasis, if any. -/
structure Phrase where
  emphasis : Option Emphasis
  text : String
  deriving DecidableEq, Repr

namespace Phrase

def plain (text : String) : Phrase := ⟨none, text⟩

def title (text : String) : Phrase := ⟨some .title, text⟩

def literal (text : String) : Phrase := ⟨some .literal, text⟩

def alarm (text : String) : Phrase := ⟨some .alarm, text⟩

def invalid (text : String) : Phrase := ⟨some .invalid, text⟩

def painted (phrase : Phrase) : String :=
  match phrase.emphasis with
  | none => phrase.text
  | some emphasis =>
      String.join (emphasis.selectors.map Painter.sequence) ++ phrase.text ++ Painter.reset

def width (phrases : List Phrase) : Nat :=
  phrases.foldl (fun width phrase => width + phrase.text.length) 0

def paintAll (phrases : List Phrase) : String :=
  String.join (phrases.map painted)

def message (phrases : List Phrase) : String :=
  Text.stripped (paintAll phrases)

def written (showsEmphasis : Bool) (phrases : List Phrase) : String :=
  if showsEmphasis then paintAll phrases else Text.streamed (paintAll phrases)

end Phrase

end RevealGates.CommandLine
