/-! Measuring and cutting text by the bytes of its encoding. -/

set_option autoImplicit false

namespace RevealGates.Text

def byteCount : List Char → Nat
  | [] => 0
  | c :: rest => c.utf8Size + byteCount rest

def dropBytes : Nat → List Char → List Char
  | 0, chars => chars
  | _, [] => []
  | count + 1, c :: rest => dropBytes (count + 1 - c.utf8Size) rest

def takeBytes : Nat → List Char → List Char
  | 0, _ => []
  | _, [] => []
  | count + 1, c :: rest => c :: takeBytes (count + 1 - c.utf8Size) rest

/-- Dropping the bytes of the characters in front leaves the others. -/
@[simp] theorem dropBytes_append (front rest : List Char) :
    dropBytes (byteCount front) (front ++ rest) = rest := by
  induction front with
  | nil => simp [byteCount, dropBytes]
  | cons c front ih =>
      have positive := c.utf8Size_pos
      obtain ⟨count, size⟩ : ∃ count, c.utf8Size + byteCount front = count + 1 :=
        ⟨c.utf8Size + byteCount front - 1, by omega⟩
      have left : count + 1 - c.utf8Size = byteCount front := by omega
      simp only [byteCount, size, List.cons_append, dropBytes, left, ih]

/-- Taking the bytes of the characters in front gives these characters. -/
@[simp] theorem takeBytes_append (front rest : List Char) :
    takeBytes (byteCount front) (front ++ rest) = front := by
  induction front with
  | nil => simp [byteCount, takeBytes]
  | cons c front ih =>
      have positive := c.utf8Size_pos
      obtain ⟨count, size⟩ : ∃ count, c.utf8Size + byteCount front = count + 1 :=
        ⟨c.utf8Size + byteCount front - 1, by omega⟩
      have left : count + 1 - c.utf8Size = byteCount front := by omega
      simp only [byteCount, size, List.cons_append, takeBytes, left, ih]

end RevealGates.Text
