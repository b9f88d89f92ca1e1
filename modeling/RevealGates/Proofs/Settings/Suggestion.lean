import Mathlib.Data.List.Forall2
import RevealGates.Proofs.Reveal
import RevealGates.Settings.Suggestion

/-!
Which gate is suggested for a key.

The suggestion is said by the normal form of the key alone, and the normal form is said character by
character. No key of a gate begins another one, so a name that continues a key continues only that
one. A name that begins keys gets the first of them; the list of aliases has some such names in it,
and it agrees. What is left gets a suggestion only from the list.
-/

set_option autoImplicit false

namespace RevealGates

/-! ## Keys that begin names -/

/-- No key of a gate begins another one. -/
theorem Stage.key_prefix_free {left right : Stage}
    (begins : left.key.toList <+: right.key.toList) : left = right := by
  cases left <;> cases right <;> first | rfl | exact absurd begins (by decide)

theorem Stage.eq_of_continued_keys {left right : Stage} {name : List Char}
    (leftBegins : left.key.toList <+: name) (rightBegins : right.key.toList <+: name) :
    left = right := by
  rcases List.prefix_or_prefix_of_prefix leftBegins rightBegins with begins | begins
  · exact key_prefix_free begins
  · exact (key_prefix_free begins).symm

theorem Stage.two_le_length_key (stage : Stage) : 2 ≤ stage.key.toList.length := by
  cases stage <;> decide

namespace Suggestion

/-! ## Normal forms -/

/-- What a character becomes in the normal form. -/
inductive Folds : Char → Char → Prop where
  | hyphen : Folds '-' '_'
  | space : Folds ' ' '_'
  | capital {c small : Char} : 'A' ≤ c → c ≤ 'Z' → small.toNat = c.toNat + 32 → Folds c small
  | other {c : Char} : c ≠ '-' → c ≠ ' ' → ¬ ('A' ≤ c ∧ c ≤ 'Z') → Folds c c

/-- The normal form of a key, one character for each. -/
def NormalForm (key normal : String) : Prop :=
  List.Forall₂ Folds key.toList normal.toList

private theorem toNat_toLower {c : Char} (above : 'A' ≤ c) (below : c ≤ 'Z') :
    c.toLower.toNat = c.toNat + 32 := by
  have capital : c.val ≥ 'A'.val ∧ c.val ≤ 'Z'.val := ⟨above, below⟩
  have small : c.val.toNat ≤ 90 := UInt32.le_iff_toNat_le.mp below
  have lowered : c.toLower.val = c.val + 32 := congrArg Char.val (dif_pos capital)
  rw [Char.toNat, lowered, UInt32.toNat_add]
  change (c.val.toNat + 32) % 2 ^ 32 = c.val.toNat + 32
  omega

private theorem toLower_of_small {c : Char} (small : ¬ ('A' ≤ c ∧ c ≤ 'Z')) : c.toLower = c :=
  dif_neg small

theorem folds_iff {c folded : Char} : Folds c folded ↔ normalizeChar c = folded := by
  unfold normalizeChar
  constructor
  · intro folds
    cases folds with
    | hyphen | space => rfl
    | capital above below moved =>
        have apart : ¬ (c = '-' ∨ c = ' ') := by
          rintro (rfl | rfl) <;> exact absurd above (by decide)
        rw [if_neg apart]
        exact Char.toNat_inj.mp ((toNat_toLower above below).trans moved.symm)
    | other noHyphen noSpace small =>
        rw [if_neg (not_or.mpr ⟨noHyphen, noSpace⟩), toLower_of_small small]
  · rintro rfl
    split
    · next apart => rcases apart with rfl | rfl <;> constructor
    · next apart =>
      by_cases capital : 'A' ≤ c ∧ c ≤ 'Z'
      · exact .capital capital.1 capital.2 (toNat_toLower capital.1 capital.2)
      · rw [toLower_of_small capital]
        exact .other (not_or.mp apart).1 (not_or.mp apart).2 capital

theorem normalForm_iff {key normal : String} :
    NormalForm key normal ↔ normalize key = normal.toList := by
  have same : Folds = fun c folded => normalizeChar c = folded :=
    funext₂ fun _ _ => propext folds_iff
  have equal : (normalize key = normal.toList) = List.Forall₂ Eq (normalize key) normal.toList := by
    rw [List.forall₂_eq_eq_eq]
  rw [NormalForm, same, equal, normalize, List.forall₂_map_left_iff]

/-! ## Characters and bytes -/

theorem length_le_bytes (text : String) : text.toList.length ≤ text.utf8ByteSize := by
  obtain ⟨chars, rfl⟩ : ∃ chars, text = String.ofList chars := ⟨_, String.ofList_toList.symm⟩
  rw [String.toList_ofList]
  induction chars with
  | nil => exact Nat.zero_le _
  | cons c rest ih =>
      have filled := c.utf8Size_pos
      simp only [String.ofList_cons, String.utf8ByteSize_append, String.utf8ByteSize_singleton,
        List.length_cons]
      omega

theorem bytes_eq_length {text : String} (ascii : ∀ c ∈ text.toList, c.utf8Size = 1) :
    text.utf8ByteSize = text.toList.length := by
  obtain ⟨chars, rfl⟩ : ∃ chars, text = String.ofList chars := ⟨_, String.ofList_toList.symm⟩
  rw [String.toList_ofList] at ascii ⊢
  induction chars with
  | nil => rfl
  | cons c rest ih =>
      obtain ⟨first, others⟩ := List.forall_mem_cons.mp ascii
      simp only [String.ofList_cons, String.utf8ByteSize_append, String.utf8ByteSize_singleton,
        List.length_cons, first, ih others]
      omega

/-- What begins a key is ASCII. -/
theorem bytes_of_begins {name : String} {stage : Stage}
    (begins : name.toList <+: stage.key.toList) : name.utf8ByteSize = name.toList.length := by
  have ascii : (stage.key.toList.all fun c => c.utf8Size == 1) = true := by cases stage <;> rfl
  exact bytes_eq_length fun c included =>
    beq_iff_eq.mp (List.all_eq_true.mp ascii c (begins.subset included))

/-! ## Aliases -/

theorem byAlias?_eq_some_iff {name : String} {stage : Stage} :
    byAlias? name.toList = some stage ↔ name ∈ aliases stage := by
  constructor
  · intro found
    simpa [String.toList_inj] using List.find?_some found
  · revert name
    cases stage <;> decide

theorem not_continues_of_alias {name : String} {stage : Stage} (listed : name ∈ aliases stage)
    (other : Stage) : ¬ other.key.toList <+: name.toList := by
  revert name
  cases stage <;> cases other <;> decide

/-- An alias that begins a key begins the key it stands for, and no key before. -/
theorem begins_of_alias {name : String} {stage : Stage} (listed : name ∈ aliases stage)
    {other : Stage} (begins : name.toList <+: other.key.toList) :
    name.toList <+: stage.key.toList ∧ stage.index ≤ other.index := by
  revert name
  cases stage <;> cases other <;> decide

theorem two_le_length_of_alias {name : String} {stage : Stage} (listed : name ∈ aliases stage) :
    2 ≤ name.toList.length := by
  revert name
  cases stage <;> decide

/-! ## Beginnings -/

/-- The name begins the key of the stage, and it begins no key before. -/
structure FirstBegun (name : String) (stage : Stage) : Prop where
  begins : name.toList <+: stage.key.toList
  first : ∀ earlier : Stage, earlier.index < stage.index → ¬ name.toList <+: earlier.key.toList

theorem exists_firstBegun {name : String} {stage : Stage}
    (begins : name.toList <+: stage.key.toList) : ∃ first, FirstBegun name first := by
  cases found : Stage.all.find? fun stage => name.toList.isPrefixOf stage.key.toList with
  | none => exact absurd begins (by simpa using List.find?_eq_none.mp found stage stage.mem_all)
  | some first =>
      obtain ⟨begun, earlier⟩ := Stage.find?_all_eq_some_iff.mp found
      refine ⟨first, List.isPrefixOf_iff_prefix.mp begun, fun other before begins => ?_⟩
      exact Bool.eq_false_iff.mp (earlier other before) (List.isPrefixOf_iff_prefix.mpr begins)

/-- The list of aliases and the keys agree on names that begin keys. -/
theorem FirstBegun.eq_of_alias {name : String} {first stage : Stage}
    (begun : FirstBegun name first) (listed : name ∈ aliases stage) : stage = first := by
  obtain ⟨begins, atMost⟩ := begins_of_alias listed begun.begins
  have notBefore : ¬ stage.index < first.index := fun before => begun.first stage before begins
  exact Stage.index_injective (by omega)

/-- The name begins a key or continues it. -/
def Shares (name : String) (stage : Stage) : Prop :=
  name.toList <+: stage.key.toList ∨ stage.key.toList <+: name.toList

theorem shares_iff {name : String} {stage : Stage} :
    (name.toList.isPrefixOf stage.key.toList || stage.key.toList.isPrefixOf name.toList) = true ↔
      Shares name stage := by
  rw [Bool.or_eq_true, List.isPrefixOf_iff_prefix, List.isPrefixOf_iff_prefix, Shares]

theorem byBeginning?_of_first {name : String} {stage : Stage} (shares : Shares name stage)
    (first : ∀ earlier : Stage, earlier.index < stage.index → ¬ Shares name earlier) :
    byBeginning? name.toList = some stage := by
  refine Stage.find?_all_eq_some_iff.mpr ⟨shares_iff.mpr shares, fun earlier before => ?_⟩
  exact Bool.eq_false_iff.mpr (mt shares_iff.mp (first earlier before))

theorem byBeginning?_of_none {name : String} (none : ∀ stage, ¬ Shares name stage) :
    byBeginning? name.toList = Option.none := by
  exact List.find?_eq_none.mpr fun stage _ => mt shares_iff.mp (none stage)

/-! ## The suggestion -/

section Suggest

variable {key normal : String} (form : NormalForm key normal)

include form

theorem suggest?_of_alias {stage : Stage} (listed : normal ∈ aliases stage) :
    suggest? key = some stage := by
  simp only [suggest?, normalForm_iff.mp form, byAlias?_eq_some_iff.mpr listed]

theorem suggest?_of_unlisted (unlisted : ∀ stage, normal ∉ aliases stage) :
    suggest? key =
      if normal.toList.length < 2 then none else byBeginning? normal.toList := by
  have none : byAlias? normal.toList = none :=
    Option.eq_none_iff_forall_ne_some.mpr fun stage found =>
      unlisted stage (byAlias?_eq_some_iff.mp found)
  simp only [suggest?, normalForm_iff.mp form, none]

theorem suggest?_of_continues {stage : Stage} (continues : stage.key.toList <+: normal.toList) :
    suggest? key = some stage := by
  have unlisted (other : Stage) : normal ∉ aliases other :=
    fun listed => not_continues_of_alias listed stage continues
  have long : ¬ normal.toList.length < 2 :=
    Nat.not_lt.mpr (Nat.le_trans stage.two_le_length_key continues.length_le)
  rw [suggest?_of_unlisted form unlisted, if_neg long]
  refine byBeginning?_of_first (.inr continues) fun earlier before shares => ?_
  have same : stage = earlier := by
    rcases shares with begins | other
    · exact Stage.key_prefix_free (continues.trans begins)
    · exact Stage.eq_of_continued_keys continues other
  exact Nat.lt_irrefl _ (same ▸ before)

theorem suggest?_of_firstBegun {stage : Stage} (begun : FirstBegun normal stage)
    (long : 2 ≤ normal.utf8ByteSize) : suggest? key = some stage := by
  by_cases listed : ∃ other, normal ∈ aliases other
  · obtain ⟨other, listed⟩ := listed
    rw [suggest?_of_alias form listed, begun.eq_of_alias listed]
  · rw [bytes_of_begins begun.begins] at long
    rw [suggest?_of_unlisted form (not_exists.mp listed), if_neg (Nat.not_lt.mpr long)]
    refine byBeginning?_of_first (.inl begun.begins) fun earlier before shares => ?_
    rcases shares with begins | continues
    · exact begun.first earlier before begins
    · have same := Stage.key_prefix_free (continues.trans begun.begins)
      exact Nat.lt_irrefl _ (same ▸ before)

theorem suggest?_of_neither (continues : ∀ stage : Stage, ¬ stage.key.toList <+: normal.toList)
    (begins : ¬ (2 ≤ normal.utf8ByteSize ∧ ∃ stage : Stage, normal.toList <+: stage.key.toList))
    (stage : Stage) : suggest? key = some stage ↔ normal ∈ aliases stage := by
  refine ⟨fun suggested => ?_, suggest?_of_alias form⟩
  by_cases listed : ∃ other, normal ∈ aliases other
  · obtain ⟨other, listed⟩ := listed
    rw [suggest?_of_alias form listed] at suggested
    exact Option.some.inj suggested ▸ listed
  · rw [suggest?_of_unlisted form (not_exists.mp listed)] at suggested
    split at suggested
    · cases suggested
    · next long =>
      have bytes : 2 ≤ normal.utf8ByteSize :=
        Nat.le_trans (Nat.not_lt.mp long) (length_le_bytes normal)
      rw [byBeginning?_of_none] at suggested
      · cases suggested
      · rintro other (begun | continued)
        · exact begins ⟨bytes, other, begun⟩
        · exact continues other continued

theorem suggest?_of_short (short : key.utf8ByteSize ≤ 1) : suggest? key = none := by
  have length : normal.toList.length ≤ 1 := by
    rw [← form.length_eq]
    exact Nat.le_trans (length_le_bytes key) short
  have unlisted (stage : Stage) : normal ∉ aliases stage := fun listed => by
    have := two_le_length_of_alias listed
    omega
  rw [suggest?_of_unlisted form unlisted, if_pos (by omega)]

end Suggest

/-- Every key has one normal form, and the suggestion depends on nothing else. If the normal form
continues the key of a gate, that is the only such gate and it is suggested; if it is long enough
and begins keys, the first of them in stage order is suggested. Otherwise a gate is suggested only
for its aliases. Keys of at most one byte are too short for any suggestion. -/
theorem suggestion_by_beginnings_and_aliases (key : String) :
    ∃ normal, (∀ other, NormalForm key other ↔ other = normal) ∧
      (∀ other, NormalForm other normal → suggest? other = suggest? key) ∧
      (∀ stage : Stage, stage.key.toList <+: normal.toList →
        suggest? key = some stage ∧
          ∀ other : Stage, other.key.toList <+: normal.toList → other = stage) ∧
      (2 ≤ normal.utf8ByteSize → (∃ stage : Stage, normal.toList <+: stage.key.toList) →
        ∃ stage, FirstBegun normal stage ∧ suggest? key = some stage) ∧
      ((∀ stage : Stage, ¬ stage.key.toList <+: normal.toList) →
        ¬ (2 ≤ normal.utf8ByteSize ∧ ∃ stage : Stage, normal.toList <+: stage.key.toList) →
        ∀ stage, suggest? key = some stage ↔ normal ∈ aliases stage) ∧
      (key.utf8ByteSize ≤ 1 → suggest? key = none) := by
  have form : NormalForm key (String.ofList (normalize key)) :=
    normalForm_iff.mpr String.toList_ofList.symm
  refine ⟨_, fun other => ?_, fun other same => ?_, fun stage continues => ?_, ?_,
    suggest?_of_neither form, suggest?_of_short form⟩
  · rw [normalForm_iff, ← String.toList_inj, String.toList_ofList, eq_comm]
  · have normalized : normalize other = normalize key :=
      (normalForm_iff.mp same).trans String.toList_ofList
    simp only [suggest?, normalized]
  · exact ⟨suggest?_of_continues form continues,
      fun other continued => Stage.eq_of_continued_keys continued continues⟩
  · rintro long ⟨stage, begins⟩
    obtain ⟨first, begun⟩ := exists_firstBegun begins
    exact ⟨first, begun, suggest?_of_firstBegun form begun long⟩

end Suggestion

end RevealGates
