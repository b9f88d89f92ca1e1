import Mathlib.Data.List.Forall2
import RevealGates.Inputs
import RevealGates.Reveal

/-!
Bit strings: what is accepted, what it means and what is refused.

Which texts stand for which bits is said by a relation in which reading plays no part, and reading
accepts exactly the texts that stand for some bits. A text that stands for none is refused with the
first character at which it fails. Inputs and gates are bit strings of a fixed length; what is no
bit string at all is refused before anything is counted.
-/

set_option autoImplicit false

namespace RevealGates

namespace Bits

/-! ## Spellings -/

def characters : Bool → List Char
  | true => ['1', 't', 'T']
  | false => ['0', 'f', 'F']

/-- The characters of the text stand for the bits, one for each. -/
def Spells (bits : List Bool) (text : String) : Prop :=
  List.Forall₂ (fun bit c => c ∈ characters bit) bits text.toList

/-- The text consists of the six characters for bits. -/
def Legible (text : String) : Prop := ∀ c ∈ text.toList, c ∈ ['1', '0', 't', 'f', 'T', 'F']

/-- The first character of the text that is none of the six. -/
def FirstOther (text : String) (found : Char) : Prop :=
  ∃ front back, text.toList = front ++ found :: back ∧
    (∀ c ∈ front, c ∈ ['1', '0', 't', 'f', 'T', 'F']) ∧ found ∉ ['1', '0', 't', 'f', 'T', 'F']

/-- The text in which each character for a bit is written as `1` or `0`. -/
def canonical (text : String) : String :=
  String.ofList (text.toList.map fun c => if c ∈ ['1', 't', 'T'] then '1' else '0')

variable {bits : List Bool} {text : String}

theorem bit?_eq_some_iff {bit : Bool} {c : Char} : bit? c = some bit ↔ c ∈ characters bit := by
  constructor
  · intro read
    unfold bit? at read
    split at read <;> cases read <;> decide
  · intro spelled
    cases bit <;> simp only [characters, List.mem_cons, List.not_mem_nil, or_false] at spelled <;>
      rcases spelled with rfl | rfl | rfl <;> rfl

theorem mem_six_iff {c : Char} :
    c ∈ ['1', '0', 't', 'f', 'T', 'F'] ↔ ∃ bit, c ∈ characters bit := by
  simp only [Bool.exists_bool, characters, List.mem_cons, List.not_mem_nil, or_false]
  tauto

theorem bit?_eq_none {c : Char} (other : c ∉ ['1', '0', 't', 'f', 'T', 'F']) : bit? c = none := by
  cases read : bit? c with
  | none => rfl
  | some bit => exact absurd (mem_six_iff.mpr ⟨bit, bit?_eq_some_iff.mp read⟩) other

/-- Every text over the six characters stands for bits. -/
theorem exists_spells (legible : Legible text) : ∃ bits, Spells bits text := by
  unfold Legible at legible
  unfold Spells
  generalize text.toList = chars at legible ⊢
  induction chars with
  | nil => exact ⟨[], .nil⟩
  | cons c rest ih =>
      obtain ⟨first, others⟩ := List.forall_mem_cons.mp legible
      obtain ⟨bits, spelled⟩ := ih others
      obtain ⟨bit, isBit⟩ := mem_six_iff.mp first
      exact ⟨bit :: bits, .cons isBit spelled⟩

theorem Spells.legible (spells : Spells bits text) : Legible text := by
  unfold Spells at spells
  unfold Legible
  generalize text.toList = chars at spells ⊢
  induction spells with
  | nil => exact List.forall_mem_nil _
  | cons first _ ih => exact List.forall_mem_cons.mpr ⟨mem_six_iff.mpr ⟨_, first⟩, ih⟩

theorem Spells.length_eq (spells : Spells bits text) : bits.length = text.length := by
  rw [← String.length_toList]
  exact List.Forall₂.length_eq spells

theorem spells_format (bits : List Bool) : Spells bits (format bits) := by
  rw [Spells, format, String.toList_ofList]
  induction bits with
  | nil => exact .nil
  | cons bit rest ih => exact .cons (by cases bit <;> decide) ih

/-! ## Reading and writing -/

theorem parseChars_eq_ok_iff (whole : String) {chars : List Char} :
    parseChars whole chars = .ok bits ↔
      List.Forall₂ (fun bit c => c ∈ characters bit) bits chars := by
  induction chars generalizing bits with
  | nil =>
      constructor
      · intro read
        cases read
        exact .nil
      · rintro ⟨⟩
        rfl
  | cons c rest ih =>
      constructor
      · intro read
        unfold parseChars at read
        split at read
        · next bit first =>
          cases others : parseChars whole rest with
          | error fault =>
              rw [others] at read
              cases read
          | ok later =>
              rw [others] at read
              cases read
              exact .cons (bit?_eq_some_iff.mp first) (ih.mp others)
        · cases read
      · rintro (_ | ⟨first, others⟩)
        simp only [parseChars, bit?_eq_some_iff.mpr first, ih.mpr others, Except.map]

theorem parse_eq_ok_iff : parse text = .ok bits ↔ Spells bits text :=
  parseChars_eq_ok_iff text

theorem Spells.parse (spells : Spells bits text) : Bits.parse text = .ok bits :=
  parse_eq_ok_iff.mpr spells

theorem parse_format (bits : List Bool) : parse (format bits) = .ok bits :=
  (spells_format bits).parse

theorem format_injective : Function.Injective format := by
  intro left right same
  have read := parse_format left
  rw [same, parse_format] at read
  exact (Except.ok.inj read).symm

theorem not_mem_format {c : Char} (other : c ≠ '1' ∧ c ≠ '0') (bits : List Bool) :
    c ∉ (format bits).toList := by
  rw [format, String.toList_ofList]
  intro included
  obtain ⟨bit, -, rfl⟩ := List.mem_map.mp included
  cases bit
  · exact other.2 rfl
  · exact other.1 rfl

theorem Spells.isSome_head (spells : Spells bits text) {c : Char}
    (first : text.toList.head? = some c) : (bit? c).isSome := by
  unfold Spells at spells
  cases chars : text.toList with
  | nil => simp [chars] at first
  | cons other rest =>
      obtain rfl : other = c := by simpa [chars] using first
      rw [chars] at spells
      cases spells with
      | cons spelled _ => rw [bit?_eq_some_iff.mpr spelled]; rfl

theorem legible_iff : Legible text ↔ ∃ bits, parse text = .ok bits := by
  constructor
  · intro legible
    obtain ⟨bits, spells⟩ := exists_spells legible
    exact ⟨bits, spells.parse⟩
  · rintro ⟨bits, read⟩
    exact (parse_eq_ok_iff.mp read).legible

/-- Writing the bits of a text gives its canonical spelling. -/
theorem Spells.format_eq (spells : Spells bits text) : format bits = canonical text := by
  have digit_eq {bit : Bool} {c : Char} (spelled : c ∈ characters bit) :
      digit bit = if c ∈ ['1', 't', 'T'] then '1' else '0' := by
    cases bit <;> simp only [characters, List.mem_cons, List.not_mem_nil, or_false] at spelled <;>
      rcases spelled with rfl | rfl | rfl <;> rfl
  unfold Spells at spells
  rw [format, canonical]
  generalize text.toList = chars at spells
  congr 1
  induction spells with
  | nil => rfl
  | cons first _ ih => rw [List.map_cons, List.map_cons, digit_eq first, ih]

/-! ## Refusals -/

theorem exists_firstOther (illegible : ¬ Legible text) : ∃ found, FirstOther text found := by
  unfold Legible at illegible
  unfold FirstOther
  generalize text.toList = chars at illegible ⊢
  induction chars with
  | nil => exact absurd (List.forall_mem_nil _) illegible
  | cons c rest ih =>
      by_cases isBit : c ∈ ['1', '0', 't', 'f', 'T', 'F']
      · have later : ¬ ∀ d ∈ rest, d ∈ ['1', '0', 't', 'f', 'T', 'F'] :=
          fun legible => illegible (List.forall_mem_cons.mpr ⟨isBit, legible⟩)
        obtain ⟨found, front, back, cut, before, other⟩ := ih later
        exact ⟨found, c :: front, back, by rw [cut, List.cons_append],
          List.forall_mem_cons.mpr ⟨isBit, before⟩, other⟩
      · exact ⟨c, [], rest, rfl, List.forall_mem_nil _, isBit⟩

theorem FirstOther.parse {found : Char} (first : FirstOther text found) :
    Bits.parse text = .error (.badBit found text) := by
  obtain ⟨front, back, cut, before, other⟩ := first
  rw [Bits.parse, cut]
  clear cut
  induction front with
  | nil => rw [List.nil_append, parseChars, bit?_eq_none other]
  | cons c rest ih =>
      obtain ⟨isBit, others⟩ := List.forall_mem_cons.mp before
      obtain ⟨bit, spelled⟩ := mem_six_iff.mp isBit
      simp only [List.cons_append, parseChars, bit?_eq_some_iff.mpr spelled, ih others, Except.map]

end Bits

/-! ## A fixed number of bits -/

/-- A reader of values that are written as a fixed number of bits. -/
structure ReadsBits {Value : Type} (count : Nat) (read : String → Except ArgumentError Value)
    (bitsOf : Value → List Bool) (shown : Value → String)
    (miscount : Nat → String → ArgumentError) : Prop where
  accepts : ∀ text, (∃ value, read text = .ok value) ↔ Bits.Legible text ∧ text.length = count
  places : ∀ text value, read text = .ok value ↔ Bits.parse text = .ok (bitsOf value)
  shows : ∀ text value, read text = .ok value → shown value = Bits.canonical text
  illegible : ∀ text found, Bits.FirstOther text found →
    read text = .error (.badBit found text)
  miscounted : ∀ text, Bits.Legible text → text.length ≠ count →
    read text = .error (miscount text.length text)

section FixedCount

variable {Value : Type} {count : Nat} {read : String → Except ArgumentError Value}
  {bitsOf : Value → List Bool} {shown : Value → String} {miscount : Nat → String → ArgumentError}

/-- A reader that refuses what is no bit string, takes the bits of a value for that value, and
complains about any other number of bits than there should be. -/
theorem readsBits_of_cases
    (length : ∀ value, (bitsOf value).length = count)
    (complete : ∀ bits : List Bool, bits.length = count → ∃ value, bits = bitsOf value)
    (written : ∀ value, shown value = Bits.format (bitsOf value))
    (refused : ∀ text fault, Bits.parse text = .error fault → read text = .error fault)
    (taken : ∀ text value, Bits.parse text = .ok (bitsOf value) → read text = .ok value)
    (miscounted : ∀ text bits, Bits.parse text = .ok bits → bits.length ≠ count →
      read text = .error (miscount bits.length text)) :
    ReadsBits count read bitsOf shown miscount := by
  have parsed {text : String} {value : Value} (accepted : read text = .ok value) :
      Bits.parse text = .ok (bitsOf value) := by
    cases parsed : Bits.parse text with
    | error fault => cases accepted.symm.trans (refused text fault parsed)
    | ok bits =>
        by_cases right : bits.length = count
        · obtain ⟨other, rfl⟩ := complete bits right
          obtain rfl := Except.ok.inj (accepted.symm.trans (taken text other parsed))
          rfl
        · cases accepted.symm.trans (miscounted text bits parsed right)
  refine ⟨?accepts, fun text value => ⟨parsed, taken text value⟩, ?shows, ?illegible, ?miscounted⟩
  case accepts =>
    intro text
    constructor
    · rintro ⟨value, accepted⟩
      have spells := Bits.parse_eq_ok_iff.mp (parsed accepted)
      exact ⟨spells.legible, spells.length_eq ▸ length value⟩
    · rintro ⟨legible, right⟩
      obtain ⟨bits, spells⟩ := Bits.exists_spells legible
      obtain ⟨value, rfl⟩ := complete bits (spells.length_eq.trans right)
      exact ⟨value, taken text value spells.parse⟩
  case shows =>
    intro text value accepted
    rw [written, (Bits.parse_eq_ok_iff.mp (parsed accepted)).format_eq]
  case illegible =>
    intro text found first
    exact refused text _ first.parse
  case miscounted =>
    intro text legible wrong
    obtain ⟨bits, spells⟩ := Bits.exists_spells legible
    rw [← spells.length_eq] at wrong ⊢
    exact miscounted text bits spells.parse wrong

end FixedCount

theorem Inputs.readsBits :
    ReadsBits 4 Inputs.parse (fun inputs => [inputs.a, inputs.b, inputs.c, inputs.d]) Inputs.text
      .inputCount := by
  refine readsBits_of_cases (fun _ => rfl) ?complete (fun _ => rfl) ?refused ?taken ?miscounted
  case complete =>
    intro bits four
    match bits, four with
    | [a, b, c, d], _ => exact ⟨⟨a, b, c, d⟩, rfl⟩
  case refused =>
    intro text fault parsed
    rw [Inputs.parse, parsed]
    rfl
  case taken =>
    intro text inputs parsed
    rw [Inputs.parse, parsed]
    rfl
  case miscounted =>
    intro text bits parsed wrong
    have noInputs : Inputs.ofList? bits = none := by
      unfold Inputs.ofList?
      split
      · exact absurd rfl wrong
      · rfl
    rw [Inputs.parse, parsed]
    simp only [bind, Except.bind, noInputs]

theorem Reveal.readsBits :
    ReadsBits 6 Reveal.parse (fun reveal => Stage.all.map reveal.isOpen) Reveal.text
      .revealCount := by
  refine readsBits_of_cases (fun _ => rfl) ?complete (fun _ => rfl) ?refused ?taken ?miscounted
  case complete =>
    intro bits six
    match bits, six with
    | [a, b, c, d, e, f], _ => exact ⟨⟨a, b, c, d, e, f⟩, rfl⟩
  case refused =>
    intro text fault parsed
    rw [Reveal.parse, parsed]
    rfl
  case taken =>
    intro text reveal parsed
    rw [Reveal.parse, parsed]
    rfl
  case miscounted =>
    intro text bits parsed wrong
    have noGates : Reveal.ofFlags? bits = none := by
      unfold Reveal.ofFlags?
      split
      · exact absurd rfl wrong
      · rfl
    rw [Reveal.parse, parsed]
    simp only [bind, Except.bind, noGates]

/-- Bit strings are read and written. A text is accepted if it consists of the six characters, each
of them standing for one bit, and is refused with its first other character otherwise. Bits that are
written are read back, and a text that was read is written in its canonical spelling, so texts have
the same bits if they have the same one. Inputs and gates are the bit strings of four and of six
bits, in their order; bad characters go before a wrong count, which is one of characters. -/
theorem bit_strings_read_and_written :
    (∀ text : String,
      ((∃ bits, Bits.parse text = .ok bits) ↔ Bits.Legible text) ∧
      (∀ bits, Bits.parse text = .ok bits ↔ Bits.Spells bits text) ∧
      (∀ bits, Bits.parse text = .ok bits → bits.length = text.length) ∧
      (¬ Bits.Legible text →
        ∃ found, Bits.FirstOther text found ∧ Bits.parse text = .error (.badBit found text))) ∧
    (∀ bits, Bits.parse (Bits.format bits) = .ok bits) ∧
    (∀ text bits, Bits.parse text = .ok bits → Bits.format bits = Bits.canonical text) ∧
    (∀ left right bits others, Bits.parse left = .ok bits → Bits.parse right = .ok others →
      (bits = others ↔ Bits.canonical left = Bits.canonical right)) ∧
    ReadsBits 4 Inputs.parse (fun inputs => [inputs.a, inputs.b, inputs.c, inputs.d]) Inputs.text
      .inputCount ∧
    ReadsBits 6 Reveal.parse (fun reveal => Stage.all.map reveal.isOpen) Reveal.text
      .revealCount := by
  have written (text : String) (bits : List Bool) (read : Bits.parse text = .ok bits) :
      Bits.format bits = Bits.canonical text := (Bits.parse_eq_ok_iff.mp read).format_eq
  refine ⟨fun text => ⟨Bits.legible_iff.symm, fun _ => Bits.parse_eq_ok_iff, ?_, ?_⟩,
    Bits.parse_format, written, ?_, Inputs.readsBits, Reveal.readsBits⟩
  · intro bits read
    exact (Bits.parse_eq_ok_iff.mp read).length_eq
  · intro illegible
    obtain ⟨found, first⟩ := Bits.exists_firstOther illegible
    exact ⟨found, first, first.parse⟩
  · intro left right bits others read readToo
    rw [← written left bits read, ← written right others readToo]
    exact Bits.format_injective.eq_iff.symm

end RevealGates
