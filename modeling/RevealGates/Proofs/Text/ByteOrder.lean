import Mathlib.Data.String.Basic

/-!
The order of texts is the order of their bytes.

Texts are compared character by character, and keys of settings are sorted in that order. UTF-8 is
made so that comparing the encoded bytes gives the same order: a greater character has a greater
byte at the first place where the two encodings differ, and neither encoding begins the other.
-/

set_option autoImplicit false

namespace RevealGates.Text

/-- The bytes of a text. -/
def bytes (text : String) : List UInt8 := text.toUTF8.data.toList

theorem bytes_eq_flatMap (text : String) :
    bytes text = text.toList.flatMap String.utf8EncodeChar := by
  rw [bytes, String.toUTF8_eq_toByteArray, ← String.utf8Encode_toList, List.utf8Encode,
    List.toList_data_toByteArray]

private theorem val_lt (c : Char) : c.val.toNat < 1114112 := by
  rcases c.valid with below | ⟨_, below⟩
  · exact Nat.lt_trans below (by decide)
  · exact below

/-- A smaller character has the smaller encoding, whatever follows the two. -/
private theorem encoding_lt {left right : Char} (below : left < right)
    (leftRest rightRest : List UInt8) :
    String.utf8EncodeChar left ++ leftRest < String.utf8EncodeChar right ++ rightRest := by
  have codes : left.val.toNat < right.val.toNat := below
  have bound := val_lt right
  unfold String.utf8EncodeChar
  generalize left.val.toNat = l at codes
  generalize right.val.toNat = r at codes bound
  dsimp only
  -- The bytes after the first are digits to the base 64, and the mark in the first byte grows with
  -- their number. So for each pair of lengths the comparison is one of digits, highest first.
  split_ifs <;>
    simp only [List.cons_append, List.nil_append, List.cons_lt_cons_iff, UInt8.lt_iff_toNat_lt,
      ← UInt8.toNat_inj, UInt8.toNat_ofNat'] <;>
    simp (disch := omega) only [Nat.mod_eq_of_lt] <;>
    omega

private theorem flatMap_lt {left right : List Char} (below : left < right) :
    left.flatMap String.utf8EncodeChar < right.flatMap String.utf8EncodeChar := by
  induction left generalizing right with
  | nil =>
      cases right with
      | nil => exact absurd below (List.lt_irrefl _)
      | cons first rest =>
          rw [List.flatMap_nil, List.flatMap_cons]
          cases encoded : String.utf8EncodeChar first with
          | nil => exact absurd encoded String.utf8EncodeChar_ne_nil
          | cons byte others => exact List.nil_lt_cons byte _
  | cons first rest ih =>
      cases right with
      | nil => exact absurd below (List.not_lt_nil _)
      | cons other others =>
          rw [List.flatMap_cons, List.flatMap_cons]
          rcases List.cons_lt_cons_iff.mp below with smaller | ⟨rfl, restBelow⟩
          · exact encoding_lt smaller _ _
          · exact List.append_left_lt (ih restBelow)

theorem bytes_lt_of_lt {left right : String} (below : left < right) : bytes left < bytes right := by
  rw [bytes_eq_flatMap, bytes_eq_flatMap]
  exact flatMap_lt below

/-- Texts stand in the order of their bytes. -/
theorem lt_iff_bytes_lt {left right : String} : left < right ↔ bytes left < bytes right := by
  refine ⟨bytes_lt_of_lt, fun below => ?_⟩
  rcases lt_trichotomy left right with smaller | rfl | greater
  · exact smaller
  · exact absurd below (List.lt_irrefl _)
  · exact absurd below (List.lt_asymm (bytes_lt_of_lt greater))

end RevealGates.Text
