import RevealGates.Json.Decode
import RevealGates.Proofs.Reveal
import RevealGates.Proofs.Settings.FirstFault

/-!
Gates from tables, objects and lists.

Gates are decoded from the table of a settings file, from a JSON object by name, and from a JSON
list in stage order. What a decoder makes of a table or an object is said stage by stage: a gate
that is not mentioned is open, and one that is mentioned needs a truth value, which it then has. An
object that mirrors a table therefore comes to the same, and a list comes to the same as the object
that names its elements.
-/

set_option autoImplicit false

namespace RevealGates

namespace Toml.Value

def boolean? : Value → Option Bool
  | .boolean flag => some flag
  | _ => none

theorem boolean?_eq_some_iff {value : Value} {flag : Bool} :
    value.boolean? = some flag ↔ value = .boolean flag := by
  cases value <;> simp [boolean?]

end Toml.Value

theorem Json.bool?_eq_some_iff {value : Json} {flag : Bool} :
    value.bool? = some flag ↔ value = .bool flag := by
  cases value <;> simp [Json.bool?]

/-- The truth value that is there, or else the one given; something else that is there is none. -/
def flagFrom (otherwise : Bool) (found : Option (Option Bool)) : Option Bool :=
  found.getD (some otherwise)

namespace Reveal

theorem ext_isOpen {left right : Reveal} (same : ∀ stage, left.isOpen stage = right.isOpen stage) :
    left = right :=
  (congrArg ofStages (funext same) : ofStages left.isOpen = ofStages right.isOpen)

theorem isOpen_set (reveal : Reveal) (stage other : Stage) (flag : Bool) :
    (reveal.set stage flag).isOpen other = if other = stage then flag else reveal.isOpen other :=
  isOpen_ofStages _ _

theorem set_isOpen (reveal : Reveal) (stage : Stage) :
    reveal.set stage (reveal.isOpen stage) = reveal := by
  refine ext_isOpen fun other => ?_
  rw [isOpen_set]
  split
  · next same => rw [same]
  · rfl

/-! ## Objects -/

section Objects

variable {members : List (String × Json)} {start reveal : Reveal}

theorem setMember?_eq_some_iff {stage : Stage} :
    setMember? members start stage = some reveal ↔
      ∃ flag, flagFrom (start.isOpen stage) ((Json.member? stage.key members).map Json.bool?) =
        some flag ∧ start.set stage flag = reveal := by
  unfold setMember? flagFrom
  cases Json.member? stage.key members with
  | none => simp [set_isOpen]
  | some value => simp

/-- Each of the stages gets the truth value that is there for it, and the others are left alone. -/
theorem foldlM_setMember?_eq_some_iff {stages : List Stage} (once : stages.Nodup) :
    stages.foldlM (setMember? members) start = some reveal ↔
      (∀ stage ∈ stages, flagFrom (start.isOpen stage)
        ((Json.member? stage.key members).map Json.bool?) = some (reveal.isOpen stage)) ∧
      ∀ stage, stage ∉ stages → reveal.isOpen stage = start.isOpen stage := by
  induction stages generalizing start with
  | nil =>
      constructor
      · intro ended
        cases ended
        exact ⟨nofun, fun _ _ => rfl⟩
      · intro same
        exact congrArg some (ext_isOpen fun stage => (same.2 stage List.not_mem_nil).symm)
  | cons stage rest ih =>
      obtain ⟨fresh, restOnce⟩ := List.nodup_cons.mp once
      rw [List.foldlM_cons, Option.bind_eq_bind, Option.bind_eq_some_iff]
      simp only [setMember?_eq_some_iff, ih restOnce]
      constructor
      · rintro ⟨_, ⟨flag, given, rfl⟩, each, others⟩
        have opened : reveal.isOpen stage = flag := by
          rw [others stage fresh, isOpen_set, if_pos rfl]
        refine ⟨List.forall_mem_cons.mpr ⟨given.trans (congrArg some opened.symm), ?_⟩, ?_⟩
        · intro other included
          have different : other ≠ stage := fun same => fresh (same ▸ included)
          simpa only [isOpen_set, if_neg different] using each other included
        · intro other outside
          obtain ⟨different, later⟩ := not_or.mp (mt List.mem_cons.mpr outside)
          rw [others other later, isOpen_set, if_neg different]
      · rintro ⟨each, others⟩
        obtain ⟨given, later⟩ := List.forall_mem_cons.mp each
        refine ⟨_, ⟨_, given, rfl⟩, fun other included => ?_, fun other outside => ?_⟩
        · have different : other ≠ stage := fun same => fresh (same ▸ included)
          simpa only [isOpen_set, if_neg different] using later other included
        · rw [isOpen_set]
          split
          · next same => rw [same]
          · next different =>
            exact others other (List.not_mem_cons_of_ne_of_not_mem different outside)

theorem ofJson?_object_eq_some_iff :
    ofJson? (.object members) = some reveal ↔ ∀ stage : Stage,
      flagFrom true ((Json.member? stage.key members).map Json.bool?) =
        some (reveal.isOpen stage) := by
  have opened (stage : Stage) : isOpen {} stage = true := by cases stage <;> rfl
  rw [ofJson?, foldlM_setMember?_eq_some_iff (by decide)]
  simp [Stage.mem_all, opened]

end Objects

/-! ## Lists -/

theorem isSome_setAll?_iff {stages : List Stage} {values : List Json} {start : Reveal} :
    (setAll? stages values start).isSome ↔
      values.length ≤ stages.length ∧ ∀ value ∈ values, ∃ flag, value = .bool flag := by
  induction stages generalizing values start with
  | nil => cases values <;> simp [setAll?]
  | cons stage rest ih =>
      cases values with
      | nil => simp [setAll?]
      | cons value later =>
          cases given : value.bool? with
          | none =>
              have none (flag : Bool) : value ≠ .bool flag := by
                rintro rfl
                cases given
              simp [setAll?, given, none]
          | some flag =>
              obtain rfl := Json.bool?_eq_some_iff.mp given
              simp [setAll?, Json.bool?, ih]

theorem setAll?_eq_foldlM {stages : List Stage} (once : stages.Nodup) {values : List Json}
    (fits : values.length ≤ stages.length) {members : List (String × Json)}
    (named : ∀ stage ∈ stages, Json.member? stage.key members =
      Json.member? stage.key ((stages.map Stage.key).zip values)) (start : Reveal) :
    setAll? stages values start = stages.foldlM (setMember? members) start := by
  -- The members are those of all the stages, also where only some are left to be set.
  induction stages generalizing values start with
  | nil =>
      obtain rfl := List.eq_nil_of_length_eq_zero (Nat.le_zero.mp fits)
      rfl
  | cons stage rest ih =>
      obtain ⟨fresh, restOnce⟩ := List.nodup_cons.mp once
      obtain ⟨first, others⟩ := List.forall_mem_cons.mp named
      cases values with
      | nil =>
          have unmentioned : setMember? members start stage = some start := by
            rw [setMember?, first]
            rfl
          rw [List.foldlM_cons, unmentioned]
          have empty : setAll? rest [] start = some start := by cases rest <;> rfl
          exact empty.symm.trans (ih restOnce (Nat.zero_le _) (by simpa using others) start)
      | cons value later =>
          have mentioned : setMember? members start stage =
              value.bool?.map (start.set stage) := by
            rw [setMember?, first]
            simp [Json.member?]
          have onwards : ∀ other ∈ rest, Json.member? other.key members =
              Json.member? other.key ((rest.map Stage.key).zip later) := by
            intro other included
            have different : stage.key ≠ other.key := fun same =>
              fresh (Settings.key_injective same ▸ included)
            rw [others other included]
            simp [Json.member?, different]
          rw [List.foldlM_cons, mentioned]
          cases given : value.bool? with
          | none => simp [setAll?, given]
          | some flag =>
              simp only [setAll?, given]
              exact ih restOnce (Nat.le_of_succ_le_succ fits) onwards (start.set stage flag)

theorem ofJson?_array_eq_object {values : List Json} (fits : values.length ≤ 6) :
    ofJson? (.array values) = ofJson? (.object ((Stage.all.map Stage.key).zip values)) :=
  setAll?_eq_foldlM (by decide) fits (fun _ _ => rfl) {}

end Reveal

/-! ## Tables -/

namespace Settings

theorem flagFrom_boolean? (found : Option Toml.Value) :
    (¬ NoFlag found ∧ flagFrom true (found.map Toml.Value.boolean?) = some (flagOr true found)) ∨
      NoFlag found ∧ flagFrom true (found.map Toml.Value.boolean?) = none := by
  cases found with
  | none => exact .inl ⟨not_noFlag_none, rfl⟩
  | some value =>
      cases given : value.boolean? with
      | some flag =>
          obtain rfl := Toml.Value.boolean?_eq_some_iff.mp given
          exact .inl ⟨not_noFlag_boolean flag, rfl⟩
      | none =>
          refine .inr ⟨⟨value, rfl, ?_⟩, by simp [flagFrom, given]⟩
          rintro flag rfl
          cases given

theorem decodeReveal_table_eq_ok_iff (path : String) {table : Toml.Table}
    (unique : table.keys.Nodup) {reveal : Reveal} :
    (decodeReveal path (some (.table table))).outcome = .ok reveal ↔ ∀ stage : Stage,
      flagFrom true ((table.get? stage.key).map Toml.Value.boolean?) =
        some (reveal.isOpen stage) := by
  have opened (stage : Stage) : Reveal.isOpen {} stage = true := by cases stage <;> rfl
  have gates := decodeGates_outcome path (Toml.Members.ordered_sorted unique) {}
  simp only [Toml.Members.get?_sorted, opened] at gates
  rcases gates with ⟨decoded, fits⟩ | ⟨stage, decoded, refused, -⟩
  · have flags (stage : Stage) := ((flagFrom_boolean? (table.get? stage.key)).resolve_right
      fun refused => fits stage refused.1).2
    simp only [decodeReveal, Decoding.andThen, Decoding.after, decoded, flags, Except.ok.injEq,
      Option.some.injEq]
    constructor
    · rintro rfl stage
      rw [Reveal.isOpen_ofStages]
    · intro same
      exact Reveal.ext_isOpen fun stage => (Reveal.isOpen_ofStages _ stage).trans (same stage)
  · have none := ((flagFrom_boolean? (table.get? stage.key)).resolve_left
      fun fits => fits.1 refused).2
    simp only [decodeReveal, Decoding.andThen, decoded]
    refine iff_of_false (fun accepted => by cases accepted) fun told => ?_
    have given := told stage
    rw [none] at given
    cases given

/-! ## All three -/

/-- The object and the table have the same keys, each of them once. Under each key they have the
same truth value, or else neither of them has one. -/
structure Mirrors (members : List (String × Json)) (table : Toml.Table) : Prop where
  names : (members.map Prod.fst).Nodup
  keys : table.keys.Nodup
  values : ∀ key,
    (Json.member? key members).map Json.bool? = (table.get? key).map Toml.Value.boolean?

/-- The table of a settings file and an object that mirrors it give the same gates or are both
refused: gates need a truth value if they are mentioned, and nothing else counts. A list gives gates
exactly if it has at most one truth value for each stage and nothing else, and then those of the
object that has its elements under the keys of the stages. No other value gives gates. -/
theorem gate_decoders_agree (path : String) {members : List (String × Json)} {table : Toml.Table}
    (mirrors : Mirrors members table) :
    (decodeReveal path (some (.table table))).outcome.toOption = Reveal.ofJson? (.object members) ∧
    (∀ reveal, Reveal.ofJson? (.object members) = some reveal ↔ ∀ stage : Stage,
      flagFrom true ((table.get? stage.key).map Toml.Value.boolean?) =
        some (reveal.isOpen stage)) ∧
    (∀ values, ((Reveal.ofJson? (.array values)).isSome ↔
        values.length ≤ 6 ∧ ∀ value ∈ values, ∃ flag, value = .bool flag) ∧
      ((Reveal.ofJson? (.array values)).isSome → Reveal.ofJson? (.array values) =
        Reveal.ofJson? (.object ((Stage.all.map Stage.key).zip values)))) ∧
    ∀ value : Json, (∀ members, value ≠ .object members) → (∀ values, value ≠ .array values) →
      Reveal.ofJson? value = none := by
  have told (reveal : Reveal) : Reveal.ofJson? (.object members) = some reveal ↔
      ∀ stage : Stage, flagFrom true ((table.get? stage.key).map Toml.Value.boolean?) =
        some (reveal.isOpen stage) := by
    simp only [Reveal.ofJson?_object_eq_some_iff, mirrors.values]
  refine ⟨Option.ext fun reveal => ?_, told, fun values => ?_, ?_⟩
  · rw [told, ← decodeReveal_table_eq_ok_iff path mirrors.keys]
    cases (decodeReveal path (some (.table table))).outcome <;> simp [Except.toOption]
  · have some : (Reveal.ofJson? (.array values)).isSome ↔ _ := Reveal.isSome_setAll?_iff
    exact ⟨some, fun given => Reveal.ofJson?_array_eq_object (some.mp given).1⟩
  · intro value noObject noArray
    cases value with
    | object members => exact absurd rfl (noObject members)
    | array values => exact absurd rfl (noArray values)
    | null | bool | number | string => rfl

/-- A table with keys that name no gate, and an object with its members in another order. -/
def scattered : Toml.Table :=
  [("triples", .boolean false), ("Pairs", .integer 1), ("inverted_singles", .boolean true),
    ("pair", .table [("singles", .boolean false)])]

def gathered : List (String × Json) :=
  [("pair", .null), ("inverted_singles", .bool true), ("triples", .bool false),
    ("Pairs", .array [])]

theorem gate_decoders_agree_on_scattered :
    Mirrors gathered scattered ∧
      (decodeReveal "gates.toml" (some (.table scattered))).outcome.toOption =
        some { triples := false } ∧
      Reveal.ofJson? (.object gathered) = some { triples := false } := by
  have mirrors : Mirrors gathered scattered := by
    refine ⟨by decide, by decide, fun key => ?_⟩
    by_cases listed : key ∈ ["triples", "Pairs", "inverted_singles", "pair"]
    · simp only [List.mem_cons, List.not_mem_nil, or_false] at listed
      rcases listed with rfl | rfl | rfl | rfl <;> rfl
    · simp only [List.mem_cons, List.not_mem_nil, or_false, not_or] at listed
      obtain ⟨noTriples, noPairs, noSingles, noPair⟩ := listed
      simp [gathered, scattered, Json.member?, Toml.Members.get?, Ne.symm noTriples,
        Ne.symm noPairs, Ne.symm noSingles, Ne.symm noPair]
  obtain ⟨agree, told, -⟩ := gate_decoders_agree "gates.toml" mirrors
  have gates : Reveal.ofJson? (.object gathered) = some { triples := false } :=
    (told _).mpr fun stage => by cases stage <;> rfl
  exact ⟨mirrors, agree.trans gates, gates⟩

end Settings

end RevealGates
