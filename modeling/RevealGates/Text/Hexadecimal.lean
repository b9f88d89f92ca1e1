/-!
Hexadecimal notation: digits of either case are read, small letters are written.

Written digits read back as the number they were written for, whatever its size.
-/

set_option autoImplicit false

namespace RevealGates.Text.Hexadecimal

def digit (n : Nat) : Char :=
  if n < 10 then Char.ofNat (0x30 + n) else Char.ofNat (0x57 + n)

def value? (c : Char) : Option Nat :=
  if '0' ≤ c ∧ c ≤ '9' then some (c.toNat - '0'.toNat)
  else if 'a' ≤ c ∧ c ≤ 'f' then some (c.toNat - 'a'.toNat + 10)
  else if 'A' ≤ c ∧ c ≤ 'F' then some (c.toNat - 'A'.toNat + 10)
  else none

/-- The digits of a number, most significant first and without leading zeros. -/
def digits (n : Nat) : List Char :=
  if n < 16 then [digit n] else digits (n / 16) ++ [digit (n % 16)]
termination_by n
decreasing_by omega

def number? (chars : List Char) : Option Nat :=
  chars.foldlM (fun number c => (value? c).map (number * 16 + ·)) 0

/-- A written digit has the value that it was written for. -/
theorem value?_digit {n : Nat} (small : n < 16) : value? (digit n) = some n := by
  have all : ∀ m : Fin 16, value? (digit m.val) = some m.val := by decide
  exact all ⟨n, small⟩

/-- Written digits denote the number that they were written for. -/
@[simp] theorem number?_digits (n : Nat) : number? (digits n) = some n := by
  fun_induction digits n with
  | case1 n small => simp [number?, value?_digit small]
  | case2 n _ ih =>
      have low : n % 16 < 16 := Nat.mod_lt n (by decide)
      simp only [number?] at ih
      simp only [number?, List.foldlM_append, ih]
      simp [value?_digit low]
      omega

end RevealGates.Text.Hexadecimal
