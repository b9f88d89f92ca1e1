/-!
Styled text: spans of characters that carry at most one style.

A painter turns a span into the pieces to write. The plain painter writes the characters alone; the
colouring painter surrounds a styled span with escape sequences that set the style and clear it
again, so that nothing outside the span is affected.
-/

set_option autoImplicit false

namespace RevealGates

/-- The styles in use. -/
inductive Style where
  | bold
  | dimmed
  | green
  | red
  | cyan
  deriving DecidableEq, Repr

/-- The number that selects a style in an escape sequence. -/
def Style.code : Style → String
  | .bold => "1"
  | .dimmed => "2"
  | .green => "32"
  | .red => "31"
  | .cyan => "36"

/-- Some text and the style it carries, if any. -/
structure Span where
  style : Option Style
  text : String
  deriving DecidableEq, Repr

namespace Span

def plain (text : String) : Span := ⟨none, text⟩

def styled (style : Style) (text : String) : Span := ⟨some style, text⟩

end Span

/-- How spans are put on paper. -/
inductive Painter where
  | plain
  | ansi
  deriving DecidableEq, Repr

namespace Painter

def sequence (selector : String) : String :=
  "\x1b[" ++ selector ++ "m"

def reset : String := sequence "0"

/-- The pieces of one span. Styles are cleared before one is set. -/
def paint (painter : Painter) (span : Span) : List String :=
  match painter, span.style with
  | .ansi, some style => [reset, sequence style.code, span.text, reset]
  | _, _ => [span.text]

def paintAll (painter : Painter) (spans : List Span) : List String :=
  spans.flatMap painter.paint

end Painter

end RevealGates
