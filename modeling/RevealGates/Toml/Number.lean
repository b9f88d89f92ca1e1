import RevealGates.Text.Hexadecimal
import RevealGates.Toml.Value

/-!
TOML numbers, read from a whole word.

Underscores may stand between two digits and nowhere else. A decimal integer has no leading zeros;
an integer outside 64 bits is no integer at all, and a positive number too great for a double is no
float.
-/

set_option autoImplicit false

namespace RevealGates.Toml.Number

/-- The digits of a word in which single underscores may separate digits. -/
def digits? (isDigit : Char → Bool) : List Char → Option (List Char)
  | [] => none
  | [c] => if isDigit c then some [c] else none
  | c :: '_' :: rest => if isDigit c then (digits? isDigit rest).map (c :: ·) else none
  | c :: rest => if isDigit c then (digits? isDigit rest).map (c :: ·) else none

def number? (base : Nat) (isDigit : Char → Bool) (word : List Char) : Option Nat := do
  let digits ← digits? isDigit word
  digits.foldlM (fun number c => (Text.Hexadecimal.value? c).map (number * base + ·)) 0

/-- Decimal digits without a leading zero, or a single zero. -/
def decimal? (word : List Char) : Option (List Char) :=
  match digits? Char.isDigit word with
  | some ['0'] => some ['0']
  | some ('0' :: _) => none
  | other => other

def value (digits : List Char) : Nat :=
  digits.foldl (fun number c => number * 10 + (c.toNat - '0'.toNat)) 0

/-- Splits an optional sign from a word; true is the minus sign. -/
def sign : List Char → Bool × List Char
  | '-' :: rest => (true, rest)
  | '+' :: rest => (false, rest)
  | word => (false, word)

/-- An integer, if it has at most 64 bits with its sign. -/
def inRange? (n : Int) : Option Int :=
  if -9223372036854775808 ≤ n ∧ n ≤ 9223372036854775807 then some n else none

/-- Whether a character is a digit in octal notation. -/
def isOctal (c : Char) : Bool := '0' ≤ c && c ≤ '7'

/-- Whether a character is a digit in binary notation. -/
def isBinary (c : Char) : Bool := c == '0' || c == '1'

/-- An integer. A sign goes with decimal notation only. -/
def integer? (word : List Char) : Option Int :=
  match word with
  | '0' :: 'x' :: rest =>
      (number? 16 (fun c => (Text.Hexadecimal.value? c).isSome) rest).bind fun n => inRange? n
  | '0' :: 'o' :: rest => (number? 8 isOctal rest).bind fun n => inRange? n
  | '0' :: 'b' :: rest => (number? 2 isBinary rest).bind fun n => inRange? n
  | _ => do
      let (negative, rest) := sign word
      let n := value (← decimal? rest)
      inRange? (if negative then -n else n)

/-- Splits a word before its exponent, if it has one. -/
def splitExponent (word : List Char) : List Char × Option (List Char) :=
  match word.span fun c => c != 'e' && c != 'E' with
  | (mantissa, _ :: exponent) => (mantissa, some exponent)
  | (mantissa, []) => (mantissa, none)

/-- Splits a mantissa at its point, if it has one. -/
def splitPoint (word : List Char) : List Char × Option (List Char) :=
  match word.span (· != '.') with
  | (whole, _ :: fraction) => (whole, some fraction)
  | (whole, []) => (whole, none)

/-- An exponent with its optional sign; leading zeros are allowed. -/
def exponent? (word : List Char) : Option Int := do
  let (negative, rest) := sign word
  let n := value (← digits? Char.isDigit rest)
  some (if negative then -n else n)

/-- A float in decimal notation: a fraction, an exponent or both must be there. -/
def decimalFloat? (negative : Bool) (word : List Char) : Option Decimal.Binary64 := do
  let (mantissa, exponent) := splitExponent word
  let (whole, fraction) := splitPoint mantissa
  if exponent.isNone ∧ fraction.isNone then none
  else
    let whole ← decimal? whole
    let fraction ← (fraction.map (digits? Char.isDigit)).getD (some [])
    let exponent ← (exponent.map exponent?).getD (some 0)
    match Decimal.Binary64.ofDecimal negative (value (whole ++ fraction))
        (exponent - fraction.length) with
    | .infinite false => none
    | float => some float

def float? (word : List Char) : Option Decimal.Binary64 :=
  let (negative, rest) := sign word
  if rest = ['i', 'n', 'f'] then some (.infinite negative)
  else if rest = ['n', 'a', 'n'] then some .nan
  else decimalFloat? negative rest

end RevealGates.Toml.Number
