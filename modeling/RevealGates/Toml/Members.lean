/-!
Members of a table: keys with their values, in the order in which the keys first came up.

Keys are looked up from the front. Where the order must not depend on the text, members are sorted
by key, code point by code point.
-/

set_option autoImplicit false

namespace RevealGates.Toml

/-- Keys with their values. -/
abbrev Members (Value : Type) := List (String × Value)

namespace Members

variable {Value : Type}

def get? (key : String) : Members Value → Option Value
  | [] => none
  | (other, value) :: rest => if other = key then some value else get? key rest

/-- Sets the value of a key. A key keeps its place, and a new key goes to the end. -/
def put (key : String) (value : Value) : Members Value → Members Value
  | [] => [(key, value)]
  | (other, held) :: rest =>
      if other = key then (key, value) :: rest else (other, held) :: put key value rest

def erase (key : String) (members : Members Value) : Members Value :=
  members.filter fun member => member.1 ≠ key

def add? (key : String) (value : Value) (members : Members Value) : Option (Members Value) :=
  match members.get? key with
  | some _ => none
  | none => some (members.put key value)

def keys (members : Members Value) : List String :=
  members.map Prod.fst

/-- Inserts a member before the first whose key is not smaller. -/
def insert (key : String) (value : Value) : Members Value → Members Value
  | [] => [(key, value)]
  | (other, held) :: rest =>
      if other < key then (other, held) :: insert key value rest
      else (key, value) :: (other, held) :: rest

/-- The members in increasing order of their keys. -/
def sorted : Members Value → Members Value
  | [] => []
  | (key, value) :: rest => insert key value (sorted rest)

/-- A key that was just set has the value it was set to. -/
@[simp] theorem get?_put_self (key : String) (value : Value) (members : Members Value) :
    get? key (put key value members) = some value := by
  induction members with
  | nil => simp [put, get?]
  | cons member rest ih =>
      obtain ⟨other, held⟩ := member
      simp only [put]
      split
      · simp [get?]
      · simp [get?, *]

theorem get?_put_of_ne {key other : String} (distinct : other ≠ key) (value : Value)
    (members : Members Value) : get? other (put key value members) = get? other members := by
  induction members with
  | nil => simp [put, get?, distinct.symm]
  | cons member rest ih =>
      obtain ⟨present, held⟩ := member
      simp only [put]
      split
      · next same => subst same; simp [get?, distinct.symm]
      · simp [get?, ih]

/-- An inserted key has its value, and the others are not touched. -/
theorem get?_insert (wanted key : String) (value : Value) (members : Members Value) :
    get? wanted (insert key value members) =
      if key = wanted then some value else get? wanted members := by
  induction members with
  | nil => simp [insert, get?]
  | cons member rest ih =>
      obtain ⟨other, held⟩ := member
      simp only [insert]
      split
      · next smaller =>
        have distinct : key ≠ other := by
          intro same
          subst same
          exact String.lt_irrefl _ smaller
        by_cases found : other = wanted
        · subst found
          simp [get?, distinct]
        · simp [get?, found, ih]
      · simp [get?]

/-- Sorting does not change what a key stands for. -/
@[simp] theorem get?_sorted (wanted : String) (members : Members Value) :
    get? wanted (sorted members) = get? wanted members := by
  induction members with
  | nil => rfl
  | cons member rest ih =>
      obtain ⟨key, value⟩ := member
      simp [sorted, get?, get?_insert, ih]

end Members

end RevealGates.Toml
