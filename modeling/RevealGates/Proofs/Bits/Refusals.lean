import RevealGates.Proofs.Bits
import RevealGates.Proofs.Text.Quoted

/-!
Messages about texts that are no bit strings.

A message quotes the text that it is about, and where one character is to blame also that. Since a
quotation is no beginning of another one, the parts of a message can be told apart, and different
causes have different messages. What is quoted can be any text at all; the message about it stays on
one line.
-/

set_option autoImplicit false

namespace RevealGates

open Text (Graphic)

namespace ArgumentError

/-- The text that was refused. -/
def text : ArgumentError → String
  | .badBit _ text => text
  | .inputCount _ text => text
  | .revealCount _ text => text

theorem graphic_message (error : ArgumentError) : Graphic error.message := by
  have middle : Graphic " in " := by decide
  cases error with
  | badBit found text =>
      have front : Graphic "argument error: invalid bit " := by decide
      have back : Graphic " (expected 1/0 or t/f)" := by decide
      exact (((front.append (Text.Quoted.graphic_character found)).append middle).append
        (Text.Quoted.graphic_string text)).append back
  | inputCount count text =>
      have front : Graphic "argument error: inputs must be 4 bits (A, B, C, D), got " := by
        decide
      exact ((front.append (.numeral count)).append middle).append
        (Text.Quoted.graphic_string text)
  | revealCount count text =>
      have front : Graphic "argument error: reveal flags must be 6 bits (one per stage), got " := by
        decide
      exact ((front.append (.numeral count)).append middle).append
        (Text.Quoted.graphic_string text)

/-! ## The parts of a message -/

theorem toList_badBit (found : Char) (text : String) :
    (badBit found text).message.toList = "argument error: invalid bit ".toList ++
      (Text.Quoted.between '\x27' [found] ++ (" in ".toList ++
        (Text.Quoted.between '\x22' text.toList ++ " (expected 1/0 or t/f)".toList))) := by
  unfold message
  simp only [Text.Quoted.character, Text.Quoted.string, String.toList_append, String.toList_ofList,
    List.append_assoc]

/-- A number of bits and the text that they are in, as messages put them. -/
def counted (count : Nat) (text : String) : List Char :=
  Nat.toDigits 10 count ++ ' ' :: ("in ".toList ++ (Text.Quoted.between '\x22' text.toList ++ []))

theorem toList_counted (front : String) (count : Nat) (text : String) :
    (front ++ toString count ++ " in " ++ Text.Quoted.string text).toList =
      front.toList ++ counted count text := by
  simp only [counted, Text.Quoted.string, String.toList_append, String.toList_ofList,
    Nat.toString_eq_repr, Nat.toList_repr, List.append_assoc, List.append_nil]
  rfl

theorem toList_inputCount (count : Nat) (text : String) :
    (inputCount count text).message.toList =
      "argument error: inputs must be 4 bits (A, B, C, D), got ".toList ++ counted count text :=
  toList_counted _ count text

theorem toList_revealCount (count : Nat) (text : String) :
    (revealCount count text).message.toList =
      "argument error: reveal flags must be 6 bits (one per stage), got ".toList ++
        counted count text :=
  toList_counted _ count text

theorem eq_of_counted_eq {count other : Nat} {text otherText : String}
    (same : counted count text = counted other otherText) : count = other ∧ text = otherText := by
  have solid (n : Nat) : ' ' ∉ Nat.toDigits 10 n := by
    intro member
    cases Nat.isDigit_of_mem_toDigits (by decide) (by decide) member
  obtain ⟨digits, quotations⟩ := Text.eq_of_append_mark (solid count) (solid other) same
  rw [List.append_cancel_left_eq] at quotations
  obtain ⟨texts, -⟩ := Text.Quoted.between_prefix_free (.inl rfl) quotations
  rw [← Nat.toList_repr, ← Nat.toList_repr] at digits
  exact ⟨Nat.repr_inj.mp (String.toList_inj.mp digits), String.toList_inj.mp texts⟩

/-- The letters by which the messages of one kind differ from those of another. -/
def kind : ArgumentError → List Char
  | .badBit _ _ => ['i', 'n', 'v']
  | .inputCount _ _ => ['i', 'n', 'p']
  | .revealCount _ _ => ['r', 'e', 'v']

theorem take_drop_message (error : ArgumentError) :
    (error.message.toList.drop 16).take 3 = error.kind := by
  cases error with
  | badBit found text =>
      rw [toList_badBit]
      rfl
  | inputCount count text =>
      rw [toList_inputCount]
      rfl
  | revealCount count text =>
      rw [toList_revealCount]
      rfl

theorem message_injective : Function.Injective message := by
  intro left right same
  have chars := congrArg String.toList same
  have kinds := congrArg (fun chars => (chars.drop 16).take 3) chars
  simp only [take_drop_message] at kinds
  cases left with
  | badBit found text =>
      cases right with
      | badBit other otherText =>
          rw [toList_badBit, toList_badBit, List.append_cancel_left_eq] at chars
          obtain ⟨founds, texts⟩ := Text.Quoted.between_prefix_free (.inr rfl) chars
          rw [List.append_cancel_left_eq] at texts
          obtain ⟨texts, -⟩ := Text.Quoted.between_prefix_free (.inl rfl) texts
          rw [(List.cons.inj founds).1, String.toList_inj.mp texts]
      | inputCount | revealCount => simp [kind] at kinds
  | inputCount count text =>
      cases right with
      | inputCount other otherText =>
          rw [toList_inputCount, toList_inputCount, List.append_cancel_left_eq] at chars
          obtain ⟨rfl, rfl⟩ := eq_of_counted_eq chars
          rfl
      | badBit | revealCount => simp [kind] at kinds
  | revealCount count text =>
      cases right with
      | revealCount other otherText =>
          rw [toList_revealCount, toList_revealCount, List.append_cancel_left_eq] at chars
          obtain ⟨rfl, rfl⟩ := eq_of_counted_eq chars
          rfl
      | badBit | inputCount => simp [kind] at kinds

end ArgumentError

/-! ## Refused texts -/

/-- What is said about the texts that a reader refuses stays on one line and acts on no terminal,
and about two texts it is never the same. -/
structure TellsRefused {Value : Type} (read : String → Except ArgumentError Value) : Prop where
  graphic : ∀ text error, read text = .error error → Graphic error.message
  distinct : ∀ text other error otherError, read text = .error error →
    read other = .error otherError → text ≠ other → error.message ≠ otherError.message

/-- A reader whose errors hold the refused text tells it by its messages. -/
theorem tellsRefused_of_text {Value : Type} {read : String → Except ArgumentError Value}
    (held : ∀ text error, read text = .error error → error.text = text) : TellsRefused read where
  graphic _ error _ := error.graphic_message
  distinct text other error otherError refused otherRefused different same := by
    obtain rfl := ArgumentError.message_injective same
    exact different ((held text error refused).symm.trans (held other error otherRefused))

theorem Bits.text_of_refused {text : String} {error : ArgumentError}
    (refused : Bits.parse text = .error error) : error.text = text := by
  have illegible : ¬ Bits.Legible text := by
    rintro legible
    obtain ⟨bits, read⟩ := Bits.legible_iff.mp legible
    cases refused.symm.trans read
  obtain ⟨found, first⟩ := Bits.exists_firstOther illegible
  cases refused.symm.trans first.parse
  rfl

theorem ReadsBits.text_of_refused {Value : Type} {count : Nat}
    {read : String → Except ArgumentError Value} {bitsOf : Value → List Bool}
    {shown : Value → String} {miscount : Nat → String → ArgumentError}
    (reads : ReadsBits count read bitsOf shown miscount)
    (held : ∀ length text, (miscount length text).text = text) {text : String}
    {error : ArgumentError} (refused : read text = .error error) : error.text = text := by
  by_cases legible : Bits.Legible text
  · by_cases right : text.length = count
    · obtain ⟨value, accepted⟩ := (reads.accepts text).mpr ⟨legible, right⟩
      cases refused.symm.trans accepted
    · cases refused.symm.trans (reads.miscounted text legible right)
      exact held text.length text
  · obtain ⟨found, first⟩ := Bits.exists_firstOther legible
    cases refused.symm.trans (reads.illegible text found first)
    rfl

/-- Whatever text is refused as bits, as inputs or as gates, the message about it is free of control
characters, and no other refused text has the same message. -/
theorem refusals_tell_refused_text :
    TellsRefused Bits.parse ∧ TellsRefused Inputs.parse ∧ TellsRefused Reveal.parse :=
  ⟨tellsRefused_of_text fun _ _ => Bits.text_of_refused,
    tellsRefused_of_text fun _ _ => Inputs.readsBits.text_of_refused fun _ _ => rfl,
    tellsRefused_of_text fun _ _ => Reveal.readsBits.text_of_refused fun _ _ => rfl⟩

end RevealGates
