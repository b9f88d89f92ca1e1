/-!
TOML dates and times, read from a whole word.

A moment is a date, a time, or a date and a time with an optional offset. Every part must be in its
range, and a day must exist in its month.
-/

set_option autoImplicit false

namespace RevealGates.Toml.Moment

def twoDigits? (tens ones : Char) : Option Nat :=
  if tens.isDigit ∧ ones.isDigit then
    some ((tens.toNat - '0'.toNat) * 10 + (ones.toNat - '0'.toNat))
  else none

def isLeapYear (year : Nat) : Bool :=
  year % 4 == 0 && (year % 100 != 0 || year % 400 == 0)

def daysIn (year month : Nat) : Nat :=
  if month = 2 then if isLeapYear year then 29 else 28
  else if month = 4 ∨ month = 6 ∨ month = 9 ∨ month = 11 then 30
  else 31

def afterDate? : List Char → Option (List Char)
  | y₁ :: y₂ :: y₃ :: y₄ :: '-' :: m₁ :: m₂ :: '-' :: d₁ :: d₂ :: rest => do
      let year := (← twoDigits? y₁ y₂) * 100 + (← twoDigits? y₃ y₄)
      let month ← twoDigits? m₁ m₂
      let day ← twoDigits? d₁ d₂
      if 1 ≤ month ∧ month ≤ 12 ∧ 1 ≤ day ∧ day ≤ daysIn year month then some rest else none
  | _ => none

/-- What follows a fraction of a second, of one digit or more. -/
def afterFraction? : List Char → Option (List Char)
  | '.' :: c :: rest => if c.isDigit then some (rest.dropWhile Char.isDigit) else none
  | '.' :: [] => none
  | word => some word

/-- What follows a time at the front of a word. Sixty seconds are a leap second. -/
def afterTime? : List Char → Option (List Char)
  | h₁ :: h₂ :: ':' :: m₁ :: m₂ :: ':' :: s₁ :: s₂ :: rest => do
      let hour ← twoDigits? h₁ h₂
      let minute ← twoDigits? m₁ m₂
      let second ← twoDigits? s₁ s₂
      if hour ≤ 23 ∧ minute ≤ 59 ∧ second ≤ 60 then afterFraction? rest else none
  | _ => none

/-- Whether a word is an offset from universal time. -/
def isOffset : List Char → Bool
  | [c] => c == 'Z' || c == 'z'
  | [sign, h₁, h₂, ':', m₁, m₂] =>
      (sign == '+' || sign == '-') &&
        (match twoDigits? h₁ h₂, twoDigits? m₁ m₂ with
        | some hours, some minutes => hours ≤ 23 && minutes ≤ 59
        | _, _ => false)
  | _ => false

def isDate (word : List Char) : Bool :=
  afterDate? word == some []

/-- Whether a word is a time, with an offset where that is allowed. -/
def isTime (withOffset : Bool) (word : List Char) : Bool :=
  match afterTime? word with
  | some [] => true
  | some rest => withOffset && isOffset rest
  | none => false

/-- Whether a word is a moment. The time after a date follows a `T` of either case or a space. -/
def isMoment (word : List Char) : Bool :=
  match afterDate? word with
  | some [] => true
  | some (c :: time) => (c == 'T' || c == 't' || c == ' ') && isTime true time
  | none => isTime false word

end RevealGates.Toml.Moment
