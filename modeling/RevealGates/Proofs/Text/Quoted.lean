import Mathlib
import RevealGates.Text.Quoted

/-!
Quotations that are read back.

A reader goes through a quotation one character at a time and stops behind its closing mark. It
reads every text back and leaves what follows, so of two lines that begin with a quotation only the
same ones can be equal. No quotation has a control character in it, whatever its text is.
-/

set_option autoImplicit false

namespace RevealGates.Text

/-! ## Text without control characters -/

theorem toNat_of_isDigit {c : Char} (digit : c.isDigit = true) :
    0x30 ≤ c.toNat ∧ c.toNat ≤ 0x39 := by
  simp only [Char.isDigit, Bool.and_eq_true, decide_eq_true_eq, ge_iff_le,
    UInt32.le_iff_toNat_le] at digit
  exact digit

theorem forall_mem_append {admits : Char → Prop} {front back : String}
    (first : ∀ c ∈ front.toList, admits c) (second : ∀ c ∈ back.toList, admits c) :
    ∀ c ∈ (front ++ back).toList, admits c := by
  intro c member
  rw [String.toList_append, List.mem_append] at member
  exact member.elim (first c) (second c)

/-- No character of the text is a control character, so that it stays on its line. -/
def Graphic (text : String) : Prop := ∀ c ∈ text.toList, isControl c = false

instance (text : String) : Decidable (Graphic text) :=
  List.decidableBAll (fun c => isControl c = false) text.toList

namespace Graphic

theorem append {front back : String} (first : Graphic front) (second : Graphic back) :
    Graphic (front ++ back) :=
  forall_mem_append first second

theorem numeral (n : Nat) : Graphic (toString n) := by
  intro c member
  rw [Nat.toString_eq_repr, Nat.toList_repr] at member
  have bounds := toNat_of_isDigit (Nat.isDigit_of_mem_toDigits (by decide) (by decide) member)
  simp only [isControl, Bool.or_eq_false_iff, Bool.and_eq_false_iff, decide_eq_false_iff_not]
  omega

end Graphic

theorem isUnprintable_of_isControl {c : Char} (control : isControl c = true) :
    isUnprintable c = true := by
  rw [isUnprintable, control, Bool.true_or]

/-! ## Cuts at a mark -/

theorem eq_of_append_mark {mark : Char} {front other rest later : List Char}
    (frontFree : mark ∉ front) (otherFree : mark ∉ other)
    (same : front ++ mark :: rest = other ++ mark :: later) : front = other ∧ rest = later := by
  induction front generalizing other with
  | nil =>
      cases other with
      | nil => exact ⟨rfl, (List.cons.inj same).2⟩
      | cons c others => exact absurd ((List.cons.inj same).1 ▸ .head _) otherFree
  | cons c others ih =>
      cases other with
      | nil => exact absurd ((List.cons.inj same).1 ▸ .head _) frontFree
      | cons d further =>
          obtain ⟨rfl, tails⟩ := List.cons.inj same
          obtain ⟨rfl, rests⟩ := ih (fun found => frontFree (.tail _ found))
            (fun found => otherFree (.tail _ found)) tails
          exact ⟨rfl, rests⟩

/-! ## Hexadecimal digits -/

namespace Hexadecimal

theorem exists_of_mem_digits {n : Nat} {c : Char} (member : c ∈ digits n) :
    ∃ value < 16, c = digit value := by
  fun_induction digits n with
  | case1 n small => exact ⟨n, small, List.mem_singleton.mp member⟩
  | case2 n _ ih =>
      rcases List.mem_append.mp member with front | last
      · exact ih front
      · exact ⟨n % 16, Nat.mod_lt n (by decide), List.mem_singleton.mp last⟩

theorem isControl_digit {value : Nat} (small : value < 16) : isControl (digit value) = false := by
  have all : ∀ m : Fin 16, isControl (digit m.val) = false := by decide
  exact all ⟨value, small⟩

end Hexadecimal

namespace Quoted

/-! ## Control characters -/

theorem isControl_escape {mark c d : Char} (graphic : isControl mark = false)
    (member : d ∈ escape mark c) : isControl d = false := by
  have pair {other : Char} (shown : isControl other = false) (either : d ∈ ['\x5c', other]) :
      isControl d = false := by
    simp only [List.mem_cons, List.not_mem_nil, or_false] at either
    rcases either with rfl | rfl
    · decide
    · exact shown
  unfold escape at member
  split_ifs at member with special null tab newline carriage unprintable
  · apply pair _ member
    rcases special with rfl | rfl
    · exact graphic
    · decide
  · exact pair (by decide) member
  · exact pair (by decide) member
  · exact pair (by decide) member
  · exact pair (by decide) member
  · simp only [List.mem_append, List.mem_cons, List.not_mem_nil, or_false] at member
    rcases member with ((rfl | rfl | rfl) | digit) | rfl
    · decide
    · decide
    · decide
    · obtain ⟨value, small, rfl⟩ := Hexadecimal.exists_of_mem_digits digit
      exact Hexadecimal.isControl_digit small
    · decide
  · obtain rfl := List.mem_singleton.mp member
    exact Bool.eq_false_iff.mpr (mt isUnprintable_of_isControl unprintable)

theorem isControl_between {mark d : Char} {text : List Char} (graphic : isControl mark = false)
    (member : d ∈ between mark text) : isControl d = false := by
  simp only [between, List.mem_cons, List.mem_append, List.mem_flatMap, List.not_mem_nil,
    or_false] at member
  rcases member with rfl | ⟨c, -, escaped⟩ | rfl
  · exact graphic
  · exact isControl_escape graphic escaped
  · exact graphic

theorem graphic_character (c : Char) : Graphic (character c) := by
  intro d member
  rw [character, String.toList_ofList] at member
  exact isControl_between (by decide) member

theorem graphic_string (text : String) : Graphic (string text) := by
  intro d member
  rw [string, String.toList_ofList] at member
  exact isControl_between (by decide) member

/-! ## Reading a quotation -/

/-- Where in a quotation a reader stands. -/
inductive Place where
  | text
  /-- Behind a backslash. -/
  | escape
  /-- In front of the brace that opens a code. -/
  | brace
  /-- Among the digits of a code, with the number that they make so far. -/
  | code (number : Nat)
  deriving DecidableEq, Repr

/-- The character that is written by this one behind a backslash. -/
def named : Char → Char
  | '0' => '\x00'
  | 't' => '\t'
  | 'n' => '\n'
  | 'r' => '\r'
  | c => c

/-- Puts a character in front of what was read behind it. -/
def push (c : Char) (read : Option (List Char × List Char)) : Option (List Char × List Char) :=
  read.map fun (text, rest) => (c :: text, rest)

/-- Reads up to the closing mark and leaves what follows it. -/
def readFrom (mark : Char) : Place → List Char → Option (List Char × List Char)
  | _, [] => none
  | .text, c :: rest =>
      if c = mark then some ([], rest)
      else if c = '\x5c' then readFrom mark .escape rest
      else push c (readFrom mark .text rest)
  | .escape, c :: rest =>
      if c = 'u' then readFrom mark .brace rest
      else push (named c) (readFrom mark .text rest)
  | .brace, c :: rest => if c = '\x7b' then readFrom mark (.code 0) rest else none
  | .code number, c :: rest =>
      if c = '\x7d' then push (Char.ofNat number) (readFrom mark .text rest)
      else
        match Hexadecimal.value? c with
        | some digit => readFrom mark (.code (number * 16 + digit)) rest
        | none => none

def read (mark : Char) : List Char → Option (List Char × List Char)
  | [] => none
  | c :: rest => if c = mark then readFrom mark .text rest else none

section Reading

variable {mark : Char}

/-- Digits are read to the number that they denote, whatever was read before them. -/
theorem readFrom_code {digits : List Char} {start number : Nat}
    (denoted : digits.foldlM (fun number c => (Hexadecimal.value? c).map (number * 16 + ·)) start =
      some number) (rest : List Char) :
    readFrom mark (.code start) (digits ++ '\x7d' :: rest) =
      push (Char.ofNat number) (readFrom mark .text rest) := by
  induction digits generalizing start with
  | nil =>
      obtain rfl : start = number := Option.some.inj denoted
      simp [readFrom]
  | cons c others ih =>
      have inner : c ≠ '\x7d' := by
        rintro rfl
        cases denoted
      cases value : Hexadecimal.value? c with
      | none => simp [value] at denoted
      | some digit =>
          simp only [List.foldlM_cons, value, Option.map_some, Option.bind_eq_bind,
            Option.bind_some] at denoted
          simp only [List.cons_append, readFrom, if_neg inner, value]
          exact ih denoted

theorem readFrom_escape (isMark : mark = '\x22' ∨ mark = '\x27') (c : Char) (rest : List Char) :
    readFrom mark .text (escape mark c ++ rest) = push c (readFrom mark .text rest) := by
  have behind (d : Char) (others : List Char) :
      readFrom mark .text ('\x5c' :: d :: others) = readFrom mark .escape (d :: others) := by
    rcases isMark with rfl | rfl <;> rfl
  unfold escape
  split_ifs with special null tab newline carriage unprintable
  · rw [List.cons_append, List.cons_append, behind]
    rcases special with rfl | rfl
    · rcases isMark with rfl | rfl <;> rfl
    · rfl
  · subst null
    exact behind _ _
  · subst tab
    exact behind _ _
  · subst newline
    exact behind _ _
  · subst carriage
    exact behind _ _
  · have denoted : readFrom mark (.code 0) (Hexadecimal.digits c.toNat ++ '\x7d' :: rest) =
        push (Char.ofNat c.toNat) (readFrom mark .text rest) :=
      readFrom_code (Hexadecimal.number?_digits c.toNat) rest
    rw [Char.ofNat_toNat] at denoted
    rw [List.append_assoc, List.append_assoc]
    exact (behind _ _).trans denoted
  · rw [not_or] at special
    simp only [List.singleton_append, readFrom, if_neg special.1, if_neg special.2]

theorem readFrom_flatMap_escape (isMark : mark = '\x22' ∨ mark = '\x27') (text rest : List Char) :
    readFrom mark .text (text.flatMap (escape mark) ++ mark :: rest) = some (text, rest) := by
  induction text with
  | nil => simp [readFrom]
  | cons c others ih =>
      rw [List.flatMap_cons, List.append_assoc, readFrom_escape isMark, ih]
      rfl

/-- A quotation is read back, and what follows it is left. -/
theorem read_between (isMark : mark = '\x22' ∨ mark = '\x27') (text rest : List Char) :
    read mark (between mark text ++ rest) = some (text, rest) := by
  rw [between, List.cons_append, List.append_assoc, List.singleton_append, read, if_pos rfl,
    readFrom_flatMap_escape isMark]

/-- No quotation is the beginning of another one. -/
theorem between_prefix_free (isMark : mark = '\x22' ∨ mark = '\x27')
    {text other rest later : List Char}
    (same : between mark text ++ rest = between mark other ++ later) :
    text = other ∧ rest = later := by
  have read := read_between isMark text rest
  rw [same, read_between isMark] at read
  exact (Prod.mk.inj (Option.some.inj read)).imp Eq.symm Eq.symm

end Reading

end Quoted

end RevealGates.Text
