import Mathlib
import RevealGates.Proofs.Json.Reader
import RevealGates.Proofs.Text.Quoted

/-!
The characters of JSON texts.

Of the characters below the space only the newline stands in the text of a value, whatever strings
the value holds: in a string they are all escaped, and between strings the layout puts only newlines
and blanks.
-/

set_option autoImplicit false

namespace RevealGates.Json

/-- Of the characters below the space only the newline is in the text. -/
def Clean (text : String) : Prop := ∀ c ∈ text.toList, c = '\n' ∨ 0x20 ≤ c.toNat

instance (text : String) : Decidable (Clean text) :=
  List.decidableBAll (fun c : Char => c = '\n' ∨ 0x20 ≤ c.toNat) text.toList

namespace Clean

theorem append {front back : String} (first : Clean front) (second : Clean back) :
    Clean (front ++ back) :=
  Text.forall_mem_append first second

theorem escape_not_mem {text : String} (clean : Clean text) : '\x1b' ∉ text.toList := by
  intro member
  rcases clean _ member with newline | high
  · cases newline
  · exact absurd high (by decide)

end Clean

/-! ## Strings, numbers and line ends -/

theorem toNat_digit {value : Nat} (small : value < 16) :
    0x20 ≤ (Text.Hexadecimal.digit value).toNat := by
  have all : ∀ m : Fin 16, 0x20 ≤ (Text.Hexadecimal.digit m.val).toNat := by decide
  exact all ⟨value, small⟩

theorem toNat_of_mem_escape {c d : Char} (member : d ∈ escape c) : 0x20 ≤ d.toNat := by
  have pair {other : Char} (high : 0x20 ≤ other.toNat) (either : d ∈ ['\x5c', other]) :
      0x20 ≤ d.toNat := by
    simp only [List.mem_cons, List.not_mem_nil, or_false] at either
    rcases either with rfl | rfl
    · decide
    · exact high
  unfold escape at member
  split_ifs at member with mark backslash backspace formFeed lineFeed carriage tab low
  · exact pair (by decide) member
  · exact pair (by decide) member
  · exact pair (by decide) member
  · exact pair (by decide) member
  · exact pair (by decide) member
  · exact pair (by decide) member
  · exact pair (by decide) member
  · simp only [List.mem_cons, List.not_mem_nil, or_false] at member
    rcases member with rfl | rfl | rfl | rfl | rfl | rfl
    · decide
    · decide
    · decide
    · decide
    · exact toNat_digit (by omega)
    · exact toNat_digit (by omega)
  · obtain rfl := List.mem_singleton.mp member
    exact Nat.le_of_not_lt low

theorem clean_quote (text : String) : Clean (quote text) := by
  intro c member
  rw [quote, String.toList_ofList] at member
  simp only [List.mem_cons, List.mem_append, List.mem_flatMap, List.not_mem_nil, or_false] at member
  rcases member with rfl | ⟨d, -, escaped⟩ | rfl
  · decide
  · exact .inr (toNat_of_mem_escape escaped)
  · decide

theorem clean_newline (depth : Nat) : Clean (newline depth) := by
  intro c member
  rw [newline, String.toList_ofList, List.mem_cons, List.mem_replicate] at member
  rcases member with rfl | ⟨-, rfl⟩
  · exact .inl rfl
  · decide

theorem toNat_of_mem_numeral {n exponent : Nat} {c : Char}
    (member : c ∈ Reader.numeral n exponent) : 0x20 ≤ c.toNat := by
  have digit {n : Nat} (written : c ∈ Nat.toDigits 10 n) : 0x20 ≤ c.toNat := by
    have := Text.toNat_of_isDigit (Nat.isDigit_of_mem_toDigits (by decide) (by decide) written)
    omega
  rcases List.mem_append.mp member with front | back
  · exact digit front
  · split at back
    · cases back
    · simp only [List.mem_cons] at back
      rcases back with rfl | rfl | power
      · decide
      · decide
      · exact digit power

theorem clean_numberText (mantissa : Int) (exponent : Nat) :
    Clean (numberText mantissa exponent) := by
  intro c member
  rw [Reader.toList_numberText] at member
  cases mantissa with
  | ofNat n => exact .inr (toNat_of_mem_numeral member)
  | negSucc n =>
      rcases List.mem_cons.mp member with rfl | digits
      · decide
      · exact .inr (toNat_of_mem_numeral digits)

/-! ## Values -/

mutual

theorem clean_prettyAt (depth : Nat) : (value : Json) → Clean (prettyAt depth value)
  | .null => by
      rw [prettyAt]
      decide
  | .bool true => by
      rw [prettyAt]
      decide
  | .bool false => by
      rw [prettyAt]
      decide
  | .number mantissa exponent => by
      rw [prettyAt]
      exact clean_numberText mantissa exponent
  | .string text => by
      rw [prettyAt]
      exact clean_quote text
  | .array [] => by
      rw [prettyAt]
      decide
  | .array (first :: rest) => by
      have opened : Clean "[" := by decide
      have closed : Clean "]" := by decide
      rw [prettyAt]
      exact ((((opened.append (clean_newline _)).append (clean_prettyAt _ first)).append
        (clean_prettyElements _ rest)).append (clean_newline _)).append closed
  | .object [] => by
      rw [prettyAt]
      decide
  | .object ((key, value) :: rest) => by
      have opened : Clean "\x7b" := by decide
      have colon : Clean ": " := by decide
      have closed : Clean "\x7d" := by decide
      rw [prettyAt]
      exact ((((((opened.append (clean_newline _)).append (clean_quote key)).append colon).append
        (clean_prettyAt _ value)).append (clean_prettyMembers _ rest)).append
          (clean_newline _)).append closed

theorem clean_prettyElements (depth : Nat) :
    (elements : List Json) → Clean (prettyElements depth elements)
  | [] => by
      rw [prettyElements]
      decide
  | element :: rest => by
      have comma : Clean "," := by decide
      rw [prettyElements]
      exact ((comma.append (clean_newline depth)).append (clean_prettyAt depth element)).append
        (clean_prettyElements depth rest)

theorem clean_prettyMembers (depth : Nat) :
    (members : List (String × Json)) → Clean (prettyMembers depth members)
  | [] => by
      rw [prettyMembers]
      decide
  | (key, value) :: rest => by
      have comma : Clean "," := by decide
      have colon : Clean ": " := by decide
      rw [prettyMembers]
      exact ((((comma.append (clean_newline depth)).append (clean_quote key)).append colon).append
        (clean_prettyAt depth value)).append (clean_prettyMembers depth rest)

end

end RevealGates.Json
