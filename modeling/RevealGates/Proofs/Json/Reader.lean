import Mathlib
import RevealGates.Json

/-!
Reading JSON, and reading back what was written.

The reader takes any JSON: spaces wherever they may stand, all escapes in strings, characters beyond
the basic plane as pairs of escapes, fractions and exponents in numbers. Only nesting is bounded.
Every value that is nested no deeper is read back from its text, whatever follows the text.
-/

set_option autoImplicit false

namespace RevealGates.Json.Reader

/-- Reads something from the front of a text. -/
abbrev Scanner (Result : Type) := List Char → Option (Result × List Char)

def isSpace (c : Char) : Bool := c == ' ' || c == '\n' || c == '\r' || c == '\t'

def skipSpace (chars : List Char) : List Char := chars.dropWhile isSpace

theorem length_skipSpace_le (chars : List Char) : (skipSpace chars).length ≤ chars.length :=
  (List.dropWhile_suffix isSpace).length_le

/-! ## Strings -/

def shortEscape? : Char → Option Char
  | '\x22' => some '\x22'
  | '\x5c' => some '\x5c'
  | '/' => some '/'
  | 'b' => some '\x08'
  | 'f' => some '\x0c'
  | 'n' => some '\n'
  | 'r' => some '\r'
  | 't' => some '\t'
  | _ => none

def paired? (high low : Nat) : Option Char :=
  if 0xd800 ≤ high ∧ high < 0xdc00 ∧ 0xdc00 ≤ low ∧ low < 0xe000 then
    some (Char.ofNat (0x10000 + (high - 0xd800) * 0x400 + (low - 0xdc00)))
  else none

def push (c : Char) (read : Option (List Char × List Char)) : Option (List Char × List Char) :=
  read.map fun (text, rest) => (c :: text, rest)

/-- The rest of a string after its opening mark. -/
def stringTail : Scanner (List Char)
  | '\x22' :: rest => some ([], rest)
  | '\x5c' :: 'u' :: a :: b :: c :: d :: rest =>
      match Text.Hexadecimal.number? [a, b, c, d] with
      | none => none
      | some code =>
          if Nat.isValidChar code then push (Char.ofNat code) (stringTail rest)
          else
            -- A surrogate stands for half of a character.
            match rest with
            | '\x5c' :: 'u' :: e :: f :: g :: h :: rest => do
                let low ← Text.Hexadecimal.number? [e, f, g, h]
                push (← paired? code low) (stringTail rest)
            | _ => none
  | '\x5c' :: c :: rest => do push (← shortEscape? c) (stringTail rest)
  | c :: rest => if 0x20 ≤ c.toNat ∧ c ≠ '\x5c' then push c (stringTail rest) else none
  | [] => none

/-! ## Numbers -/

def digits : Scanner (List Char) := fun chars =>
  match chars.span Char.isDigit with
  | ([], _) => none
  | found => some found

/-- The digits in front of the point. A zero is not followed by others. -/
def wholeDigits : Scanner (List Char) := fun chars =>
  match digits chars with
  | some ('0' :: _ :: _, _) => none
  | found => found

def fractionDigits : Scanner (List Char)
  | '.' :: rest => digits rest
  | chars => some ([], chars)

def natural : Scanner Nat := fun chars =>
  (digits chars).map fun (found, left) => (Nat.ofDigitChars 10 found 0, left)

def integer : Scanner Int
  | '-' :: rest => (natural rest).map fun (n, left) => (-(n : Int), left)
  | '+' :: rest => (natural rest).map fun (n, left) => (n, left)
  | rest => (natural rest).map fun (n, left) => (n, left)

def exponent : Scanner Int
  | 'e' :: rest => integer rest
  | 'E' :: rest => integer rest
  | chars => some (0, chars)

def scaled (mantissa : Int) : Int → Json
  | .ofNat power => .number (mantissa * 10 ^ power) 0
  | .negSucc power => .number mantissa (power + 1)

def unsigned : Scanner (Nat × Int) := fun chars => do
  let (whole, rest) ← wholeDigits chars
  let (fraction, rest) ← fractionDigits rest
  let (power, rest) ← exponent rest
  some ((Nat.ofDigitChars 10 (whole ++ fraction) 0, power - fraction.length), rest)

def number : Scanner Json
  | '-' :: rest => (unsigned rest).map fun (read, left) => (scaled (-(read.1 : Int)) read.2, left)
  | chars => (unsigned chars).map fun (read, left) => (scaled read.1 read.2, left)

/-! ## Lists and objects -/

section Items

variable {Item : Type}

/-- Items between commas, at least one, up to a closing mark. -/
def items (close : Char) (item : Scanner Item) (chars : List Char) :
    Option (List Item × List Char) :=
  match item chars with
  | none => none
  | some (first, left) =>
      match skipSpace left with
      | [] => none
      | c :: rest =>
          if c = close then some ([first], rest)
          else if c = ',' ∧ rest.length < chars.length then
            (items close item (skipSpace rest)).map fun (others, left) => (first :: others, left)
          else none
termination_by chars.length
decreasing_by
  have := length_skipSpace_le rest
  omega

/-- The same where there need not be any items. -/
def collection (close : Char) (item : Scanner Item) : Scanner (List Item) := fun chars =>
  match skipSpace chars with
  | [] => none
  | c :: rest => if c = close then some ([], rest) else items close item (c :: rest)

end Items

def member (value : Scanner Json) : Scanner (String × Json)
  | '\x22' :: rest => do
      let (key, rest) ← stringTail rest
      match skipSpace rest with
      | ':' :: rest => do
          let (held, rest) ← value (skipSpace rest)
          some ((String.ofList key, held), rest)
      | _ => none
  | _ => none

/-- A value. Lists and objects may be nested as deep as the bound says. -/
def value : Nat → Scanner Json
  | nesting, '[' :: rest =>
      match nesting with
      | 0 => none
      | nesting + 1 =>
          (collection ']' (value nesting) rest).map fun (elements, left) => (.array elements, left)
  | nesting, '\x7b' :: rest =>
      match nesting with
      | 0 => none
      | nesting + 1 =>
          (collection '\x7d' (member (value nesting)) rest).map fun (members, left) =>
            (.object members, left)
  | _, '\x22' :: rest =>
      (stringTail rest).map fun (text, left) => (.string (String.ofList text), left)
  | _, 'n' :: 'u' :: 'l' :: 'l' :: rest => some (.null, rest)
  | _, 't' :: 'r' :: 'u' :: 'e' :: rest => some (.bool true, rest)
  | _, 'f' :: 'a' :: 'l' :: 's' :: 'e' :: rest => some (.bool false, rest)
  | _, chars => number chars

def nesting : Nat := 127

/-- Reads a text that holds one value and nothing else but spaces. -/
def read (text : String) : Option Json :=
  match value nesting (skipSpace text.toList) with
  | some (value, rest) => if skipSpace rest = [] then some value else none
  | none => none

/-! ## Reading back strings -/

theorem stringTail_plain {c : Char} (high : 0x20 ≤ c.toNat) (mark : c ≠ '\x22')
    (backslash : c ≠ '\x5c') (rest : List Char) :
    stringTail (c :: rest) = push c (stringTail rest) := by
  rw [stringTail.eq_def]
  split
  · next same => exact absurd (List.cons.inj same).1 mark
  · next same => exact absurd (List.cons.inj same).1 backslash
  · next same => exact absurd (List.cons.inj same).1 backslash
  · next d others _ _ _ same =>
    obtain ⟨rfl, rfl⟩ := List.cons.inj same
    rw [if_pos ⟨high, backslash⟩]
  · next same => cases same

theorem stringTail_control {c : Char} (low : c.toNat < 0x20) (rest : List Char) :
    stringTail ('\x5c' :: 'u' :: '0' :: '0' :: Text.Hexadecimal.digit (c.toNat / 16) ::
      Text.Hexadecimal.digit (c.toNat % 16) :: rest) = push c (stringTail rest) := by
  have high : c.toNat / 16 < 16 := by omega
  have last : c.toNat % 16 < 16 := by omega
  have code : Text.Hexadecimal.number? ['0', '0', Text.Hexadecimal.digit (c.toNat / 16),
      Text.Hexadecimal.digit (c.toNat % 16)] = some c.toNat := by
    have zero : Text.Hexadecimal.value? '0' = some 0 := rfl
    simp [Text.Hexadecimal.number?, zero, Text.Hexadecimal.value?_digit high,
      Text.Hexadecimal.value?_digit last]
    omega
  have valid : Nat.isValidChar c.toNat := .inl (by omega)
  rw [stringTail, code]
  simp only [if_pos valid, Char.ofNat_toNat]

theorem stringTail_escape (c : Char) (rest : List Char) :
    stringTail (escape c ++ rest) = push c (stringTail rest) := by
  unfold escape
  split_ifs with mark backslash backspace formFeed lineFeed carriage tab low
  · subst mark; rfl
  · subst backslash; rfl
  · subst backspace; rfl
  · subst formFeed; rfl
  · subst lineFeed; rfl
  · subst carriage; rfl
  · subst tab; rfl
  · exact stringTail_control low rest
  · exact stringTail_plain (Nat.le_of_not_lt low) mark backslash rest

theorem stringTail_flatMap_escape (text rest : List Char) :
    stringTail (text.flatMap escape ++ '\x22' :: rest) = some (text, rest) := by
  induction text with
  | nil => rfl
  | cons c others ih =>
      rw [List.flatMap_cons, List.append_assoc, stringTail_escape, ih]
      rfl

/-! ## Reading back numbers -/

/-- A number ends before this: there is nothing, a comma or a space. -/
def Stops (rest : List Char) : Prop :=
  ∀ c others, rest = c :: others → c = ',' ∨ isSpace c = true

theorem digits_append {found rest : List Char} (some : found ≠ [])
    (each : ∀ c ∈ found, c.isDigit = true)
    (stops : ∀ c others, rest = c :: others → c.isDigit = false) :
    digits (found ++ rest) = .some (found, rest) := by
  have split : (found ++ rest).span Char.isDigit = (found, rest) := by
    rw [List.span_eq_takeWhile_dropWhile, List.takeWhile_append_of_pos each,
      List.dropWhile_append_of_pos each]
    cases rest with
    | nil => simp
    | cons c others => simp [stops c others rfl]
  unfold digits
  rw [split]
  cases found with
  | nil => exact absurd rfl some
  | cons c others => rfl

theorem digits_toDigits (n : Nat) {rest : List Char}
    (stops : ∀ c others, rest = c :: others → c.isDigit = false) :
    digits (Nat.toDigits 10 n ++ rest) = some (Nat.toDigits 10 n, rest) :=
  digits_append Nat.toDigits_ne_nil
    (fun _ member => Nat.isDigit_of_mem_toDigits (by decide) (by decide) member) stops

theorem toDigits_leading (n : Nat) (positive : 0 < n) :
    ∃ c others, Nat.toDigits 10 n = c :: others ∧ c ≠ '0' := by
  induction n using Nat.strongRecOn with
  | ind n ih =>
      by_cases small : n < 10
      · refine ⟨n.digitChar, [], Nat.toDigits_of_lt_base small, ?_⟩
        have all : ∀ m : Fin 10, 0 < m.val → m.val.digitChar ≠ '0' := by decide
        exact all ⟨n, small⟩ positive
      · obtain ⟨c, others, front, leading⟩ := ih (n / 10) (by omega) (by omega)
        refine ⟨c, others ++ [(n % 10).digitChar], ?_, leading⟩
        rw [Nat.toDigits_of_base_le (by decide) (by omega), front]
        rfl

theorem wholeDigits_toDigits (n : Nat) {rest : List Char}
    (stops : ∀ c others, rest = c :: others → c.isDigit = false) :
    wholeDigits (Nat.toDigits 10 n ++ rest) = some (Nat.toDigits 10 n, rest) := by
  rw [wholeDigits, digits_toDigits n stops]
  split
  · next second others left same =>
    obtain ⟨spelled, _⟩ := Prod.mk.inj (Option.some.inj same)
    by_cases positive : 0 < n
    · obtain ⟨c, _, other, leading⟩ := toDigits_leading n positive
      exact absurd (List.cons.inj (other.symm.trans spelled)).1 leading
    · obtain rfl : n = 0 := by omega
      cases spelled
  · rfl

theorem fractionDigits_eq {rest : List Char} (point : ∀ others, rest ≠ '.' :: others) :
    fractionDigits rest = some ([], rest) := by
  unfold fractionDigits
  split
  · exact absurd rfl (point _)
  · rfl

theorem exponent_eq {rest : List Char} (small : ∀ others, rest ≠ 'e' :: others)
    (capital : ∀ others, rest ≠ 'E' :: others) : exponent rest = some (0, rest) := by
  unfold exponent
  split
  · exact absurd rfl (small _)
  · exact absurd rfl (capital _)
  · rfl

theorem exponent_toDigits (n : Nat) {rest : List Char}
    (stops : ∀ c others, rest = c :: others → c.isDigit = false) :
    exponent ('e' :: '-' :: (Nat.toDigits 10 n ++ rest)) = some (-(n : Int), rest) := by
  simp [exponent, integer, natural, digits_toDigits n stops]

theorem Stops.ne {rest : List Char} (stops : Stops rest) {c : Char} (comma : c ≠ ',')
    (space : isSpace c = false) (others : List Char) : rest ≠ c :: others := by
  intro same
  rcases stops c others same with isComma | isBlank
  · exact comma isComma
  · exact Bool.noConfusion (space.symm.trans isBlank)

theorem isSpace_of_isDigit {c : Char} (digit : c.isDigit = true) : isSpace c = false := by
  apply Bool.eq_false_iff.mpr
  intro space
  simp only [isSpace, Bool.or_eq_true, beq_iff_eq] at space
  rcases space with ((rfl | rfl) | rfl) | rfl <;> cases digit

theorem Stops.isDigit {rest : List Char} (stops : Stops rest) (c : Char) (others : List Char)
    (same : rest = c :: others) : c.isDigit = false := by
  by_contra other
  have digit : c.isDigit = true := Bool.not_eq_false _ ▸ other
  refine stops.ne ?_ (isSpace_of_isDigit digit) others same
  rintro rfl
  cases digit

/-- The digits of a number with its power of ten behind them, if there is one. -/
def numeral (n exponent : Nat) : List Char :=
  Nat.toDigits 10 n ++ if exponent = 0 then [] else 'e' :: '-' :: Nat.toDigits 10 exponent

theorem unsigned_numeral (n exponent : Nat) {rest : List Char} (stops : Stops rest) :
    unsigned (numeral n exponent ++ rest) = some ((n, -(exponent : Int)), rest) := by
  by_cases bare : exponent = 0
  · subst bare
    have power := exponent_eq (stops.ne (by decide) rfl) (stops.ne (by decide) rfl)
    have fraction := fractionDigits_eq (stops.ne (by decide) rfl)
    simp [unsigned, numeral, wholeDigits_toDigits n stops.isDigit, fraction, power]
  · have written : numeral n exponent ++ rest =
        Nat.toDigits 10 n ++ ('e' :: '-' :: (Nat.toDigits 10 exponent ++ rest)) := by
      simp [numeral, bare]
    have whole : wholeDigits (numeral n exponent ++ rest) =
        some (Nat.toDigits 10 n, 'e' :: '-' :: (Nat.toDigits 10 exponent ++ rest)) := by
      rw [written]
      apply wholeDigits_toDigits
      intro c others same
      cases same
      rfl
    have power := exponent_toDigits exponent stops.isDigit
    simp [unsigned, whole, fractionDigits, power]

theorem scaled_neg (mantissa : Int) (exponent : Nat) :
    scaled mantissa (-(exponent : Int)) = .number mantissa exponent := by
  cases exponent with
  | zero => simp [scaled]
  | succ power => rfl

theorem exists_numeral_eq (n exponent : Nat) :
    ∃ c others, numeral n exponent = c :: others ∧ c.isDigit = true := by
  cases spelled : Nat.toDigits 10 n with
  | nil => exact absurd spelled Nat.toDigits_ne_nil
  | cons c others =>
      refine ⟨c, _, by rw [numeral, spelled]; rfl, ?_⟩
      exact Nat.isDigit_of_mem_toDigits (by decide) (by decide) (spelled ▸ List.mem_cons_self)

theorem toList_numberText (mantissa : Int) (exponent : Nat) :
    (numberText mantissa exponent).toList =
      match mantissa with
      | .ofNat n => numeral n exponent
      | .negSucc n => '-' :: numeral (n + 1) exponent := by
  cases mantissa <;>
    by_cases bare : exponent = 0 <;>
      simp [numberText, numeral, bare, Int.toString_eq_repr, Int.repr, Nat.toList_repr]

theorem exists_numberText_eq (mantissa : Int) (exponent : Nat) :
    ∃ c others, (numberText mantissa exponent).toList = c :: others ∧
      (c.isDigit = true ∨ c = '-') := by
  rw [toList_numberText]
  cases mantissa with
  | ofNat n =>
      obtain ⟨c, others, spelled, digit⟩ := exists_numeral_eq n exponent
      exact ⟨c, others, spelled, .inl digit⟩
  | negSucc n => exact ⟨'-', _, rfl, .inr rfl⟩

theorem number_numberText (mantissa : Int) (exponent : Nat) {rest : List Char}
    (stops : Stops rest) :
    number ((numberText mantissa exponent).toList ++ rest) =
      some (.number mantissa exponent, rest) := by
  rw [toList_numberText]
  cases mantissa with
  | ofNat n =>
      obtain ⟨c, others, spelled, digit⟩ := exists_numeral_eq n exponent
      have read := unsigned_numeral n exponent stops
      simp only [spelled] at read ⊢
      unfold number
      split
      · next same =>
        rw [(List.cons.inj same).1] at digit
        cases digit
      · rw [read]
        exact congrArg (fun value => some (value, rest)) (scaled_neg n exponent)
  | negSucc n =>
      simp only [List.cons_append, number, unsigned_numeral (n + 1) exponent stops,
        Option.map_some]
      exact congrArg (fun value => some (value, rest)) (scaled_neg _ exponent)

/-! ## Reading back lists and objects -/

theorem skipSpace_newline (depth : Nat) (rest : List Char) :
    skipSpace ((newline depth).toList ++ rest) = skipSpace rest := by
  have spaces : ∀ c ∈ (newline depth).toList, isSpace c = true := by
    simp [newline, isSpace]
  exact List.dropWhile_append_of_pos spaces

theorem skipSpace_cons {c : Char} (visible : isSpace c = false) (rest : List Char) :
    skipSpace (c :: rest) = c :: rest := by
  simp [skipSpace, visible]

theorem stops_newline (depth : Nat) (rest : List Char) :
    Stops ((newline depth).toList ++ rest) := by
  intro c others same
  have first : '\n' = c := by
    simp only [newline, String.toList_ofList, List.cons_append] at same
    exact (List.cons.inj same).1
  subst first
  exact .inr rfl

section Items

variable {Item : Type} {close : Char} {item : Scanner Item} {write : Item → List Char}

/-- The text of an item shows where it starts, and is read as the item. -/
structure ReadsBack (close : Char) (item : Scanner Item) (write : Item → List Char)
    (written : Item) : Prop where
  starts : ∃ c others, write written = c :: others ∧ isSpace c = false ∧ c ≠ close
  read : ∀ rest, Stops rest → item (write written ++ rest) = some (written, rest)

/-- The items after the first, each behind its comma and on its own line. -/
def following (depth : Nat) (write : Item → List Char) (others : List Item) : List Char :=
  others.flatMap fun item => ',' :: ((newline depth).toList ++ write item)

theorem items_following (comma : close ≠ ',') (visible : isSpace close = false)
    (inner outer : Nat) {first : Item} {others : List Item}
    (each : ∀ written ∈ first :: others, ReadsBack close item write written) (rest : List Char) :
    items close item (write first ++ (following inner write others ++
      ((newline outer).toList ++ close :: rest))) = some (first :: others, rest) := by
  have firstBack := each first (.head _)
  induction others generalizing first with
  | nil =>
      have read := firstBack.read _ (stops_newline outer (close :: rest))
      rw [items]
      simp only [following, List.flatMap_nil, List.nil_append, read, skipSpace_newline,
        skipSpace_cons visible, if_true]
  | cons second others ih =>
      -- What follows the first item is a comma and then the text that the hypothesis is about.
      have secondBack := each second (.tail _ (.head _))
      have later := ih (fun written member => each written (.tail _ member)) secondBack
      generalize remaining : write second ++ (following inner write others ++
        ((newline outer).toList ++ close :: rest)) = left at later
      have unfolded : following inner write (second :: others) ++
          ((newline outer).toList ++ close :: rest) = ',' :: ((newline inner).toList ++ left) := by
        simp [following, ← remaining]
      have stops : Stops (',' :: ((newline inner).toList ++ left)) := by
        intro c others same
        exact .inl (List.cons.inj same).1.symm
      have started : skipSpace ((newline inner).toList ++ left) = left := by
        obtain ⟨c, cs, spelled, visible, _⟩ := secondBack.starts
        rw [skipSpace_newline, ← remaining, spelled]
        exact skipSpace_cons visible _
      have shorter : ((newline inner).toList ++ left).length <
          (write first ++ ',' :: ((newline inner).toList ++ left)).length := by
        simp only [List.length_append, List.length_cons]
        omega
      rw [unfolded, items, firstBack.read _ stops]
      have between : skipSpace (',' :: ((newline inner).toList ++ left)) =
          ',' :: ((newline inner).toList ++ left) := skipSpace_cons rfl _
      simp only [between, if_neg comma.symm, true_and, if_pos shorter, started, later,
        Option.map_some]

theorem collection_following (comma : close ≠ ',') (visible : isSpace close = false)
    (inner outer : Nat) {first : Item} {others : List Item}
    (each : ∀ written ∈ first :: others, ReadsBack close item write written) (rest : List Char) :
    collection close item ((newline inner).toList ++ (write first ++
      (following inner write others ++ ((newline outer).toList ++ close :: rest)))) =
        some (first :: others, rest) := by
  have all := items_following comma visible inner outer each rest
  obtain ⟨c, cs, spelled, visible', open'⟩ := (each first (.head _)).starts
  rw [spelled] at all ⊢
  rw [collection, skipSpace_newline]
  simp only [List.cons_append, skipSpace_cons visible', if_neg open'] at all ⊢
  exact all

end Items

theorem toList_prettyElements (depth : Nat) (elements : List Json) :
    (prettyElements depth elements).toList =
      following depth (fun element => (prettyAt depth element).toList) elements := by
  induction elements with
  | nil => simp [prettyElements, following]
  | cons element rest ih =>
      simp only [following] at ih
      simp [prettyElements, following, ih]

def memberText (depth : Nat) (member : String × Json) : List Char :=
  (quote member.1).toList ++ (':' :: ' ' :: (prettyAt depth member.2).toList)

theorem toList_prettyMembers (depth : Nat) (members : List (String × Json)) :
    (prettyMembers depth members).toList = following depth (memberText depth) members := by
  induction members with
  | nil => simp [prettyMembers, following]
  | cons member rest ih =>
      simp only [following] at ih
      simp [prettyMembers, following, memberText, ih]

/-! ## Reading back values -/

/-- Lists and objects are nested in the value no deeper than the bound says. -/
inductive Nested : Nat → Json → Prop where
  | null {bound} : Nested bound .null
  | bool {bound value} : Nested bound (.bool value)
  | number {bound mantissa exponent} : Nested bound (.number mantissa exponent)
  | string {bound text} : Nested bound (.string text)
  | array {bound elements} : (∀ element ∈ elements, Nested bound element) →
      Nested (bound + 1) (.array elements)
  | object {bound members} : (∀ member ∈ members, Nested bound member.2) →
      Nested (bound + 1) (.object members)

theorem exists_prettyAt_eq (depth : Nat) (value : Json) :
    ∃ c others, (prettyAt depth value).toList = c :: others ∧ isSpace c = false ∧
      c ≠ ']' ∧ c ≠ '\x7d' := by
  cases value with
  | null => exact ⟨_, _, by rw [prettyAt]; rfl, by decide, by decide, by decide⟩
  | bool flag =>
      cases flag <;> exact ⟨_, _, by rw [prettyAt]; rfl, by decide, by decide, by decide⟩
  | number mantissa exponent =>
      obtain ⟨c, others, spelled, digit | rfl⟩ := exists_numberText_eq mantissa exponent
      · refine ⟨c, others, by rw [prettyAt, spelled], isSpace_of_isDigit digit, ?_, ?_⟩
        · rintro rfl
          cases digit
        · rintro rfl
          cases digit
      · exact ⟨'-', others, by rw [prettyAt, spelled], by decide, by decide, by decide⟩
  | string text =>
      exact ⟨'\x22', text.toList.flatMap escape ++ ['\x22'], by rw [prettyAt, quote]; simp,
        by decide, by decide, by decide⟩
  | array elements =>
      refine ⟨'[', (prettyAt depth (.array elements)).toList.tail, ?_, by decide, by decide,
        by decide⟩
      cases elements <;> simp [prettyAt]
  | object members =>
      refine ⟨'\x7b', (prettyAt depth (.object members)).toList.tail, ?_, by decide, by decide,
        by decide⟩
      cases members <;> simp [prettyAt]

theorem value_of_digit {bound : Nat} {c : Char} (digit : c.isDigit = true ∨ c = '-')
    (rest : List Char) : value bound (c :: rest) = number (c :: rest) := by
  have other {d : Char} (plain : d.isDigit = false) (sign : d ≠ '-') : c ≠ d := by
    rintro rfl
    rcases digit with isDigit | isSign
    · exact Bool.noConfusion (plain.symm.trans isDigit)
    · exact sign isSign
  unfold value
  split
  -- No other kind of value starts with a digit or a sign.
  iterate 6 next same => exact absurd (List.cons.inj same).1 (other rfl (by decide))
  rfl

theorem value_number {bound : Nat} (mantissa : Int) (exponent : Nat) {rest : List Char}
    (stops : Stops rest) :
    value bound ((numberText mantissa exponent).toList ++ rest) =
      some (.number mantissa exponent, rest) := by
  have read := number_numberText mantissa exponent stops
  obtain ⟨c, others, spelled, digit⟩ := exists_numberText_eq mantissa exponent
  rw [spelled] at read ⊢
  rw [List.cons_append, value_of_digit digit]
  exact read

theorem member_memberText {bound depth : Nat} {entry : String × Json}
    (read : ∀ rest, Stops rest →
      value bound ((prettyAt depth entry.2).toList ++ rest) = some (entry.2, rest))
    {rest : List Char} (stops : Stops rest) :
    member (value bound) (memberText depth entry ++ rest) = some (entry, rest) := by
  obtain ⟨key, held⟩ := entry
  have started : skipSpace (' ' :: ((prettyAt depth held).toList ++ rest)) =
      (prettyAt depth held).toList ++ rest := by
    obtain ⟨c, others, spelled, visible, _⟩ := exists_prettyAt_eq depth held
    rw [spelled]
    exact skipSpace_cons visible _
  have written : memberText depth (key, held) ++ rest =
      '\x22' :: (key.toList.flatMap escape ++ '\x22' :: ':' :: ' ' ::
        ((prettyAt depth held).toList ++ rest)) := by
    simp [memberText, quote]
  have colon (rest : List Char) : skipSpace (':' :: rest) = ':' :: rest := skipSpace_cons rfl _
  simp [written, member, stringTail_flatMap_escape, colon, started, read rest stops]

/-- Every value is read back from its text, whatever may follow it. -/
theorem value_prettyAt {bound : Nat} {written : Json} (nested : Nested bound written)
    (depth : Nat) {rest : List Char} (stops : Stops rest) :
    value bound ((prettyAt depth written).toList ++ rest) = some (written, rest) := by
  induction nested generalizing depth rest with
  | null => simp [prettyAt, value]
  | @bool bound flag => cases flag <;> simp [prettyAt, value]
  | number => exact value_number _ _ stops
  | @string bound text => simp [prettyAt, quote, value, stringTail_flatMap_escape]
  | @array bound elements _ ih =>
      cases elements with
      | nil => simp [prettyAt, value, collection, skipSpace, isSpace]
      | cons first others =>
          have each : ∀ element ∈ first :: others,
              ReadsBack ']' (value bound)
                (fun element => (prettyAt (depth + 1) element).toList) element := by
            intro element listed
            obtain ⟨c, cs, spelled, visible, bracket, _⟩ := exists_prettyAt_eq (depth + 1) element
            exact ⟨⟨c, cs, spelled, visible, bracket⟩, fun rest stops => ih element listed _ stops⟩
          have read := collection_following (by decide) rfl (depth + 1) depth each rest
          rw [← toList_prettyElements] at read
          simp [prettyAt, value, read]
  | @object bound members _ ih =>
      cases members with
      | nil => simp [prettyAt, value, collection, skipSpace, isSpace]
      | cons first others =>
          have each : ∀ entry ∈ first :: others,
              ReadsBack '\x7d' (member (value bound)) (memberText (depth + 1)) entry := by
            intro entry listed
            refine ⟨⟨'\x22', (memberText (depth + 1) entry).tail, ?_, rfl, by decide⟩, ?_⟩
            · simp [memberText, quote]
            intro rest stops
            exact member_memberText (fun rest stops => ih entry listed _ stops) stops
          have read := collection_following (by decide) rfl (depth + 1) depth each rest
          rw [← toList_prettyMembers] at read
          obtain ⟨key, held⟩ := first
          simp only [memberText, List.append_assoc, List.cons_append] at read
          simp [prettyAt, value, read]

theorem read_pretty {written : Json} (nested : Nested nesting written) {rest : String}
    (spaces : ∀ c ∈ rest.toList, isSpace c = true) :
    read (written.pretty ++ rest) = some written := by
  have stops : Stops rest.toList := by
    intro c others same
    exact .inr (spaces c (same ▸ .head _))
  have ended : skipSpace rest.toList = [] := List.dropWhile_eq_nil_iff.mpr spaces
  have whole := value_prettyAt nested 0 stops
  have started : skipSpace (written.pretty ++ rest).toList = (written.pretty ++ rest).toList := by
    obtain ⟨c, others, spelled, visible, _⟩ := exists_prettyAt_eq 0 written
    rw [String.toList_append, pretty, spelled]
    exact skipSpace_cons visible _
  rw [read, started, String.toList_append, pretty, whole]
  simp only [ended, if_true]

-- Texts of other writers are read as well.
example : read " [-1.50E+3,\t\"\\ud83d\\ude00\\/\", \x7b\x7d ]" =
    some (.array [.number (-1500) 0, .string "😀/", .object []]) := by
  cbv

end RevealGates.Json.Reader
