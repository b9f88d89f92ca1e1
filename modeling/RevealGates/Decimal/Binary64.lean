/-!
Double-precision numbers by their definition: a sign, a coefficient below `2 ^ 53` and a power of
two.

Decimal notation is read by rounding an exact fraction to the nearest such number, a tie going to
the even coefficient. Writing takes the fewest significant digits that still read back as the same
number and, among those, the nearest, a tie going away from zero; the notation is always positional
and always has a fractional part.
-/

set_option autoImplicit false

namespace RevealGates.Decimal

/-- A double-precision number. -/
inductive Binary64 where
  | finite (negative : Bool) (coefficient : Nat) (exponent : Int)
  | infinite (negative : Bool)
  | nan
  deriving DecidableEq, Repr

/-- The quotient rounded to the nearest integer, a tie to the even one. -/
def roundDiv (num den : Nat) : Nat :=
  let quotient := num / den
  let twice := 2 * (num % den)
  if twice < den then quotient
  else if den < twice then quotient + 1
  else if quotient % 2 = 0 then quotient
  else quotient + 1

/-- The fraction `num / den` divided by a power of the base, again as a fraction. -/
def shift (base num den : Nat) (power : Int) : Nat × Nat :=
  match power with
  | .ofNat n => (num, den * base.pow n)
  | .negSucc n => (num * base.pow (n + 1), den)

namespace Binary64

/-- The least exponent, that of the subnormal numbers. -/
def leastExponent : Int := -1074

def greatestExponent : Int := 971

/-- The least coefficient of a normal number: the first with 53 binary digits. -/
def leastNormal : Nat := Nat.pow 2 52

def ofFraction (negative : Bool) (num den : Nat) : Binary64 :=
  if num = 0 then .finite negative 0 0
  else
    -- The binary logarithm of the fraction is this guess or one less.
    let guess : Int := (Nat.log2 num : Int) - (Nat.log2 den : Int)
    let (above, below) := shift 2 num den guess
    let leading := if above < below then guess - 1 else guess
    let exponent := max (leading - 52) leastExponent
    let (above, below) := shift 2 num den exponent
    let rounded := roundDiv above below
    let (coefficient, exponent) :=
      if rounded = 2 * leastNormal then (leastNormal, exponent + 1) else (rounded, exponent)
    if greatestExponent < exponent then .infinite negative
    else .finite negative coefficient exponent

def decimalLength (n : Nat) : Nat :=
  (Nat.toDigits 10 n).length

/-- The number nearest to `digits · 10 ^ power`. Powers far outside the range of the format are
settled by the number of digits, so that no huge power is ever computed. -/
def ofDecimal (negative : Bool) (digits : Nat) (power : Int) : Binary64 :=
  let magnitude := power + decimalLength digits
  if digits = 0 then .finite negative 0 0
  else if 400 < magnitude then .infinite negative
  else if magnitude < -400 then .finite negative 0 0
  else
    let (num, den) := shift 10 digits 1 (-power)
    ofFraction negative num den

/-- Looks for the shortest decimal that reads back, on coarser grids first. The interval of reals
that round to the number runs from `low` to `high` around `middle`, all over `den`; its ends belong
to it when `closed` holds. -/
def shortestFrom (low middle high den : Nat) (closed : Bool) : Nat → Int → Nat × Int
  | 0, power => (0, power)
  | steps + 1, power =>
      let (above, below) := shift 10 middle den power
      let floor := above / below
      -- A multiple of the grid lies in the interval if it does so over the common denominator.
      let inside (candidate : Nat) : Bool :=
        let (lowAbove, lowBelow) := shift 10 low den power
        let (highAbove, highBelow) := shift 10 high den power
        if closed then lowAbove ≤ candidate * lowBelow && candidate * highBelow ≤ highAbove
        else lowAbove < candidate * lowBelow && candidate * highBelow < highAbove
      match inside floor, inside (floor + 1) with
      | true, true => (if 2 * (above % below) < below then floor else floor + 1, power)
      | true, false => (floor, power)
      | false, true => (floor + 1, power)
      | false, false => shortestFrom low middle high den closed steps (power - 1)

/-- The digits and the power of ten of the shortest decimal for `coefficient · 2 ^ exponent`. The
interval reaches half way to each neighbour; below a power of two the neighbour is nearer. -/
def shortest (coefficient : Nat) (exponent : Int) : Nat × Int :=
  let lowGap := if coefficient = leastNormal ∧ leastExponent < exponent then 1 else 2
  let (unit, den) := shift 2 1 1 (2 - exponent)
  shortestFrom ((4 * coefficient - lowGap) * unit) (4 * coefficient * unit)
    ((4 * coefficient + 2) * unit) den (coefficient % 2 = 0) 700 310

def zeros (n : Nat) : List Char := List.replicate n '0'

/-- The positional notation of `digits · 10 ^ power`, with at least one digit on either side of the
point. -/
def positional (digits : Nat) (power : Int) : List Char :=
  let written := Nat.toDigits 10 digits
  match power with
  | .ofNat n => written ++ zeros n ++ ['.', '0']
  | .negSucc n =>
      let places := n + 1
      if places < written.length then
        written.take (written.length - places) ++ '.' :: written.drop (written.length - places)
      else ['0', '.'] ++ zeros (places - written.length) ++ written

def text : Binary64 → String
  | .finite negative coefficient exponent =>
      let (digits, power) :=
        if coefficient = 0 then (0, (0 : Int)) else shortest coefficient exponent
      (if negative then "-" else "") ++ String.ofList (positional digits power)
  | .infinite negative => if negative then "-inf" else "inf"
  | .nan => "NaN"

end Binary64

end RevealGates.Decimal
