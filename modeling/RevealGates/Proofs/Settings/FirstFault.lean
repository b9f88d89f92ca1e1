import Mathlib
import RevealGates.Proofs.Toml.DistinctKeys
import RevealGates.Settings.Locate

/-!
Which settings are accepted, and with which fault the others are refused.

What is accepted and what is refused is said by look-ups alone: the version, the mode in the table
of evaluator settings and the gates in the table of gates. The faults stand in the order of the
checks, and each comes with the checks before it passed. No other key and no other value has a say.
Tables that spell moments are left aside: the documents here do not use their mark as a key.
-/

set_option autoImplicit false

namespace RevealGates

/-! ## Documents without marks -/

namespace Toml

/-- No table inside the value has the mark of a spelled moment among its keys. -/
inductive Value.Unmarked : Value → Prop where
  | string {text} : Unmarked (.string text)
  | integer {value} : Unmarked (.integer value)
  | float {value} : Unmarked (.float value)
  | boolean {value} : Unmarked (.boolean value)
  | moment {text} : Unmarked (.moment text)
  | array {elements} : (∀ element ∈ elements, Unmarked element) → Unmarked (.array elements)
  | table {members} : (∀ member ∈ members, member.1 ≠ Spelled.mark) →
      (∀ member ∈ members, Unmarked member.2) → Unmarked (.table members)

namespace Spelled

theorem resolveAll_eq_self {alone : Bool} {values : List Value}
    (each : ∀ value ∈ values, resolve alone value = .ok value) :
    resolveAll alone values = .ok values := by
  induction values with
  | nil => rfl
  | cons value rest ih =>
      have first := each value (.head _)
      have others := ih fun other included => each other (.tail _ included)
      simp only [resolveAll, first, others, bind, Except.bind]

theorem resolveMembers_eq_self {alone : Bool} {members : Table}
    (each : ∀ member ∈ members, resolve alone member.2 = .ok member.2) :
    resolveMembers alone members = .ok members := by
  induction members with
  | nil => rfl
  | cons member rest ih =>
      obtain ⟨key, value⟩ := member
      have first : resolve alone value = .ok value := each (key, value) (.head _)
      have others := ih fun other included => each other (.tail _ included)
      simp only [resolveMembers, first, others, bind, Except.bind]

theorem resolve_eq_self {value : Value} (unmarked : value.Unmarked) (alone : Bool) :
    resolve alone value = .ok value := by
  induction unmarked with
  | string | integer | float | boolean | moment => rfl
  | array _ ih => simp only [resolve, resolveAll_eq_self ih, bind, Except.bind]
  | @table members unmarked _ ih =>
      cases members with
      | nil => rfl
      | cons member rest =>
          obtain ⟨key, value⟩ := member
          have plain : key ≠ mark := unmarked (key, value) (.head _)
          have first : resolve alone value = .ok value := ih (key, value) (.head _)
          have others := resolveMembers_eq_self fun other included => ih other (.tail _ included)
          simp only [resolve, if_neg plain, first, others, bind, Except.bind]

end Spelled

namespace Members

variable {Value : Type}

theorem get?_append (key : String) (front back : Members Value) :
    get? key (front ++ back) = (get? key front).or (get? key back) := by
  induction front with
  | nil => rfl
  | cons member rest ih =>
      obtain ⟨other, held⟩ := member
      simp only [List.cons_append, get?]
      split
      · rfl
      · exact ih

theorem get?_filter (key : String) (wanted : String → Bool) (members : Members Value) :
    get? key (members.filter fun member => wanted member.1) =
      if wanted key then get? key members else none := by
  induction members with
  | nil => simp [get?]
  | cons member rest ih =>
      obtain ⟨other, held⟩ := member
      by_cases same : other = key
      · subst same
        cases kept : wanted other with
        | true => simp [kept, get?]
        | false => simpa [kept] using ih
      · cases kept : wanted other with
        | true => simpa [kept, get?, same] using ih
        | false => simpa [kept, get?, same] using ih

end Members

end Toml

/-! ## Messages -/

/-- Only what is misspelled in a document is complained about in no more than these words. -/
theorem SettingsFault.message_eq_iff {path : String} {fault : SettingsFault} :
    fault.message path = "TOML parse error" ↔ fault = .syntaxFault ∨ fault = .momentSpelling := by
  have begins {front back whole : String} (same : front ++ back = whole) :
      front.toList <+: whole.toList := ⟨back.toList, by rw [← same, String.toList_append]⟩
  constructor
  · intro same
    unfold message at same
    cases fault with
    | syntaxFault => exact .inl rfl
    | momentSpelling => exact .inr rfl
    | versionMissing | evaluatorNotTable | modeNotString | gatesNotTable =>
        dsimp only at same
        exact absurd same (by decide)
    | notFound => exact absurd (begins same) (by decide)
    | versionShape | momentShape | versionUnsupported | modeUnknown | gateNotBoolean =>
        -- The part in front of the first value is already another text.
        dsimp only at same
        simp only [String.append_assoc] at same
        exact absurd (begins same) (by decide)
  · rintro (rfl | rfl) <;> rfl

namespace Settings

theorem resolveMoments_of_unmarked {document : Toml.Table}
    (unmarked : (Toml.Value.table document).Unmarked) :
    ∃ resolved, resolveMoments document = .ok resolved ∧
      ∀ key, resolved.get? key = document.get? key := by
  have each : ∀ alone, ∀ member ∈ document, Toml.Spelled.resolve alone member.2 = .ok member.2 := by
    intro alone member included
    cases unmarked with
    | table _ values => exact Toml.Spelled.resolve_eq_self (values member included) alone
  have part : ∀ alone (wanted : String × Toml.Value → Bool),
      Toml.Spelled.resolveMembers alone (document.filter wanted) = .ok (document.filter wanted) :=
    fun alone wanted => Toml.Spelled.resolveMembers_eq_self fun member included =>
      each alone member (List.mem_filter.mp included).1
  refine ⟨document.filter (fun member => sectionKeys.contains member.1) ++
    document.filter (fun member => !sectionKeys.contains member.1),
    by simp only [resolveMoments, part, Except.mapError, bind, Except.bind], ?_⟩
  intro key
  rw [Toml.Members.get?_append, Toml.Members.get?_filter key sectionKeys.contains,
    Toml.Members.get?_filter key fun key => !sectionKeys.contains key]
  cases sectionKeys.contains key <;> simp

/-! ## What is accepted -/

/-- The value under a key of a section; there is none where the section is no table. -/
def lookup? (document : Toml.Table) (title key : String) : Option Toml.Value :=
  match document.get? title with
  | some (.table members) => Toml.Members.get? key members
  | _ => none

/-- A section that is there is a table. -/
def SectionFits (document : Toml.Table) (title : String) : Prop :=
  ∀ value, document.get? title = some value → ∃ members, value = .table members

/-- A mode that is named has one of the two names. -/
def ModeFits (document : Toml.Table) : Prop :=
  ∀ value, lookup? document "eval" "mode" = some value →
    value = .string "fixture" ∨ value = .string "corrected"

/-- Something is there, and it is no flag. -/
def NoFlag (found : Option Toml.Value) : Prop :=
  ∃ value, found = some value ∧ ∀ flag, value ≠ .boolean flag

/-- The gate of a stage is mentioned, and not with a flag. -/
def GateRefused (document : Toml.Table) (stage : Stage) : Prop :=
  NoFlag (lookup? document "reveal" stage.key)

/-- What a document has to say to be accepted. -/
structure Accepted (document : Toml.Table) : Prop where
  version : document.get? "version" = some (.integer 1)
  evaluator : SectionFits document "eval"
  mode : ModeFits document
  gates : SectionFits document "reveal"
  flags : ∀ stage, ¬ GateRefused document stage

/-- The mode that a document names, or the default. -/
def modeOf (document : Toml.Table) : Mode :=
  match lookup? document "eval" "mode" with
  | some (.string "corrected") => .corrected
  | _ => .fixture

/-- The flag that is there, or else the one given. -/
def flagOr (otherwise : Bool) : Option Toml.Value → Bool
  | some (.boolean flag) => flag
  | _ => otherwise

/-- What a document says about the gate of a stage, under the key of that very stage. -/
def gateOf (document : Toml.Table) (stage : Stage) : Bool :=
  flagOr true (lookup? document "reveal" stage.key)

/-- The first check that fails, in the order of the checks. Among the gates it is the one whose key
comes first byte by byte. -/
inductive FirstFault : Option Toml.Table → SettingsFault → Prop where
  | noDocument : FirstFault none .syntaxFault
  | versionShape {document value} : document.get? "version" = some value →
      (∀ version, value ≠ .integer version) →
      FirstFault (some document) (.versionShape value.shape)
  | versionMissing {document} : document.get? "version" = none →
      FirstFault (some document) .versionMissing
  | versionUnsupported {document version} : document.get? "version" = some (.integer version) →
      version ≠ 1 → FirstFault (some document) (.versionUnsupported version)
  | evaluatorNotTable {document} : document.get? "version" = some (.integer 1) →
      ¬ SectionFits document "eval" → FirstFault (some document) .evaluatorNotTable
  | modeNotString {document value} : document.get? "version" = some (.integer 1) →
      lookup? document "eval" "mode" = some value → (∀ name, value ≠ .string name) →
      FirstFault (some document) .modeNotString
  | modeUnknown {document name} : document.get? "version" = some (.integer 1) →
      lookup? document "eval" "mode" = some (.string name) → name ≠ "fixture" → name ≠ "corrected" →
      FirstFault (some document) (.modeUnknown name)
  | gatesNotTable {document} : document.get? "version" = some (.integer 1) →
      SectionFits document "eval" → ModeFits document →
      ¬ SectionFits document "reveal" → FirstFault (some document) .gatesNotTable
  | gateNotBoolean {document stage} : document.get? "version" = some (.integer 1) →
      SectionFits document "eval" → ModeFits document →
      GateRefused document stage →
      (∀ other, GateRefused document other →
        stage.key.toUTF8.data.toList ≤ other.key.toUTF8.data.toList) →
      FirstFault (some document) (.gateNotBoolean stage)

/-! ## The gates one after the other -/

theorem ofKey?_eq_some_iff {key : String} {stage : Stage} :
    Stage.ofKey? key = some stage ↔ stage.key = key := by
  constructor
  · intro found
    simpa using List.find?_some found
  · rintro rfl
    cases stage <;> rfl

theorem key_ne_of_ofKey?_eq_none {key : String} (unnamed : Stage.ofKey? key = none)
    (stage : Stage) : key ≠ stage.key := by
  rintro rfl
  rw [ofKey?_eq_some_iff.mpr rfl] at unnamed
  cases unnamed

theorem key_injective {left right : Stage} (same : left.key = right.key) :
    left = right :=
  Option.some.inj ((ofKey?_eq_some_iff.mpr same).symm.trans (ofKey?_eq_some_iff.mpr rfl))

private theorem get?_cons_key (stage other : Stage) (value : Toml.Value) (rest : Toml.Table) :
    Toml.Members.get? other.key ((stage.key, value) :: rest) =
      if other = stage then some value else rest.get? other.key := by
  simp only [Toml.Members.get?]
  split
  · next same => rw [if_pos (key_injective same.symm)]
  · next different => rw [if_neg fun same => different (congrArg Stage.key same).symm]

theorem get?_eq_none_of_above {key : String} {members : Toml.Table}
    (above : ∀ member ∈ members, key < member.1) : members.get? key = none := by
  apply Toml.Members.get?_eq_none_iff.mpr
  intro included
  obtain ⟨member, present, same⟩ := List.mem_map.mp included
  exact String.lt_irrefl key (by simpa [same] using above member present)

theorem not_noFlag_none : ¬ NoFlag none := by
  rintro ⟨value, found, _⟩
  cases found

theorem not_noFlag_boolean (flag : Bool) : ¬ NoFlag (some (.boolean flag)) := by
  rintro ⟨value, found, refused⟩
  cases found
  exact refused flag rfl

theorem noFlag_get?_cons_boolean {stage : Stage} {rest : Toml.Table}
    (once : rest.get? stage.key = none) (flag : Bool) (other : Stage) :
    NoFlag (Toml.Members.get? other.key ((stage.key, .boolean flag) :: rest)) ↔
      NoFlag (rest.get? other.key) := by
  rw [get?_cons_key]
  split
  · next same =>
    rw [same, once]
    exact iff_of_false (not_noFlag_boolean flag) not_noFlag_none
  · rfl

theorem decodeGates_outcome (path : String) {members : Toml.Table}
    (ordered : members.Pairwise fun left right => left.1 < right.1) (reveal : Reveal) :
    ((decodeGates path members reveal).outcome =
        .ok (.ofStages fun stage => flagOr (reveal.isOpen stage) (members.get? stage.key)) ∧
      ∀ stage : Stage, ¬ NoFlag (members.get? stage.key)) ∨
    ∃ stage : Stage, (decodeGates path members reveal).outcome = .error (.gateNotBoolean stage) ∧
      NoFlag (members.get? stage.key) ∧
      ∀ other : Stage, NoFlag (members.get? other.key) → stage.key ≤ other.key := by
  induction members generalizing reveal with
  | nil => exact .inl ⟨rfl, fun _ => not_noFlag_none⟩
  | cons member rest ih =>
      obtain ⟨key, value⟩ := member
      obtain ⟨above, restOrdered⟩ := List.pairwise_cons.mp ordered
      cases named : Stage.ofKey? key with
      | none =>
          simp only [decodeGates, named, Decoding.after, Toml.Members.get?,
            if_neg (key_ne_of_ofKey?_eq_none named _)]
          exact ih restOrdered reveal
      | some stage =>
          obtain rfl := ofKey?_eq_some_iff.mp named
          by_cases isFlag : ∃ flag, value = .boolean flag
          · obtain ⟨flag, rfl⟩ := isFlag
            -- No later member has this key, so the gate keeps the flag it gets here.
            have once : Toml.Members.get? stage.key rest = none := get?_eq_none_of_above above
            have flags (other : Stage) :
                flagOr (reveal.isOpen other)
                    (Toml.Members.get? other.key ((stage.key, .boolean flag) :: rest)) =
                  flagOr ((reveal.set stage flag).isOpen other)
                    (Toml.Members.get? other.key rest) := by
              rw [get?_cons_key, Reveal.set, Reveal.isOpen_ofStages]
              split
              · next same => rw [same, once]; rfl
              · rfl
            simp only [decodeGates, named, flags, noFlag_get?_cons_boolean once]
            exact ih restOrdered (reveal.set stage flag)
          · have noFlag : ∀ flag, value ≠ .boolean flag := fun flag same => isFlag ⟨flag, same⟩
            refine .inr ⟨stage, ?_, ⟨value, if_pos rfl, noFlag⟩, ?_⟩
            · simp only [decodeGates, named, Decoding.fail]
            · rintro other ⟨held, found, _⟩
              rcases List.mem_cons.mp (Toml.Members.mem_of_get? found) with same | later
              · exact (Prod.mk.inj same).1 ▸ String.le_refl _
              · exact String.not_lt.mp (String.lt_asymm (above (other.key, held) later))

/-! ## The sections -/

theorem lookup?_of_table {document members : Toml.Table} {title : String}
    (found : document.get? title = some (.table members)) (key : String) :
    lookup? document title key = members.get? key := by
  rw [lookup?, found]

theorem lookup?_of_none {document : Toml.Table} {title : String}
    (missing : document.get? title = none) (key : String) :
    lookup? document title key = none := by
  rw [lookup?, missing]

theorem SectionFits.of_lookup? {document : Toml.Table} {title key : String} {value : Toml.Value}
    (found : lookup? document title key = some value) : SectionFits document title := by
  intro held present
  rw [lookup?, present] at found
  cases held with
  | table members => exact ⟨members, rfl⟩
  | string | integer | float | boolean | moment | array => cases found

theorem not_sectionFits {document : Toml.Table} {title : String}
    (misfit : ¬ SectionFits document title) :
    ∃ value, document.get? title = some value ∧ ∀ members, value ≠ .table members := by
  simpa [SectionFits] using misfit

theorem decodeEvaluator_of_fits (path : String) {document : Toml.Table}
    (fits : SectionFits document "eval") :
    (decodeEvaluator path (document.get? "eval")).outcome =
      decodeMode (lookup? document "eval" "mode") := by
  cases present : document.get? "eval" with
  | none => rw [lookup?_of_none present]; rfl
  | some value =>
      obtain ⟨members, rfl⟩ := fits value present
      rw [lookup?_of_table present]
      rfl

theorem decodeEvaluator_of_misfit (path : String) {document : Toml.Table}
    (misfit : ¬ SectionFits document "eval") :
    (decodeEvaluator path (document.get? "eval")).outcome = .error .evaluatorNotTable := by
  obtain ⟨value, present, noTable⟩ := not_sectionFits misfit
  simp only [present, decodeEvaluator, Decoding.fail]

theorem decodeMode_of_fits {document : Toml.Table} (fits : ModeFits document) :
    decodeMode (lookup? document "eval" "mode") = .ok (modeOf document) := by
  cases named : lookup? document "eval" "mode" with
  | none => simp only [decodeMode, modeOf, named]
  | some value =>
      rcases fits value named with rfl | rfl
      · simp only [modeOf, named]; rfl
      · simp only [modeOf, named]; rfl

theorem ofName?_eq_none {name : String} (fixture : name ≠ "fixture")
    (corrected : name ≠ "corrected") : Mode.ofName? name = none := by
  simp [Mode.ofName?, Mode.all, Mode.name, fixture.symm, corrected.symm]

theorem decodeReveal_of_misfit (path : String) {document : Toml.Table}
    (misfit : ¬ SectionFits document "reveal") :
    (decodeReveal path (document.get? "reveal")).outcome = .error .gatesNotTable := by
  obtain ⟨value, present, noTable⟩ := not_sectionFits misfit
  simp only [present, decodeReveal, Decoding.fail]

theorem decodeReveal_of_fits (path : String) {document : Toml.Table}
    (distinct : document.Distinct Toml.Value.Distinct) (fits : SectionFits document "reveal") :
    ((decodeReveal path (document.get? "reveal")).outcome = .ok (.ofStages (gateOf document)) ∧
      ∀ stage, ¬ GateRefused document stage) ∨
    ∃ stage, (decodeReveal path (document.get? "reveal")).outcome =
        .error (.gateNotBoolean stage) ∧
      GateRefused document stage ∧
      ∀ other, GateRefused document other → stage.key ≤ other.key := by
  cases present : document.get? "reveal" with
  | none =>
      have flags : gateOf document = fun _ => true := by
        funext stage
        rw [gateOf, lookup?_of_none present]
        rfl
      simp only [flags, GateRefused, lookup?_of_none present]
      exact .inl ⟨rfl, fun _ => not_noFlag_none⟩
  | some value =>
      obtain ⟨members, rfl⟩ := fits value present
      have flags : gateOf document =
          fun stage => flagOr (Reveal.isOpen {} stage) (Toml.Members.get? stage.key members) := by
        funext stage
        rw [gateOf, lookup?_of_table present]
        cases stage <;> rfl
      have unique : (Toml.Members.keys members).Nodup := (distinct.get? present).members.unique
      have gates := decodeGates_outcome path (Toml.Members.ordered_sorted unique) {}
      simp only [Toml.Members.get?_sorted] at gates
      simp only [flags, GateRefused, lookup?_of_table present, decodeReveal, Decoding.andThen]
      rcases gates with ⟨decoded, none⟩ | ⟨stage, refused, least⟩
      · rw [decoded]
        exact .inl ⟨rfl, none⟩
      · rw [refused]
        exact .inr ⟨stage, rfl, least⟩

/-! ## The whole document -/

theorem decode_outcome (path : String) {document : Toml.Table}
    (unmarked : (Toml.Value.table document).Unmarked) :
    (decode path document).outcome =
      checkVersion document >>= fun version =>
        (decodeEvaluator path (document.get? "eval")).outcome >>= fun mode =>
          (decodeReveal path (document.get? "reveal")).outcome >>= fun reveal =>
            .ok { version, mode, reveal } := by
  obtain ⟨resolved, spelled, same⟩ := resolveMoments_of_unmarked unmarked
  rw [decode, ← same "eval", ← same "reveal", spelled]
  cases checkVersion document with
  | error fault => rfl
  | ok version =>
      cases mode : (decodeEvaluator path (resolved.get? "eval")).outcome with
      | error fault =>
          simp only [Decoding.after, Decoding.andThen, mode, bind, Except.bind]
      | ok mode =>
          cases reveal : (decodeReveal path (resolved.get? "reveal")).outcome with
          | error fault =>
              simp only [Decoding.after, Decoding.andThen, mode, reveal, bind, Except.bind]
          | ok reveal =>
              simp only [Decoding.after, Decoding.andThen, Decoding.ok, mode, reveal, bind,
                Except.bind]

theorem checkVersion_of_supported {document : Toml.Table}
    (found : document.get? "version" = some (.integer 1)) : checkVersion document = .ok 1 := by
  simp [checkVersion, found, supportedVersion]

private theorem bytes_le_iff (left right : Stage) :
    left.key.toUTF8.data.toList ≤ right.key.toUTF8.data.toList ↔ left.key ≤ right.key := by
  cases left <;> cases right <;> decide

theorem decode_of_accepted (path : String) {document : Toml.Table}
    (distinct : document.Distinct Toml.Value.Distinct)
    (unmarked : (Toml.Value.table document).Unmarked) (accepted : Accepted document) :
    (decode path document).outcome =
      .ok ⟨1, modeOf document, .ofStages (gateOf document)⟩ := by
  rw [decode_outcome path unmarked, checkVersion_of_supported accepted.version,
    decodeEvaluator_of_fits path accepted.evaluator, decodeMode_of_fits accepted.mode]
  rcases decodeReveal_of_fits path distinct accepted.gates with
    ⟨decoded, _⟩ | ⟨stage, _, refused, _⟩
  · rw [decoded]
    rfl
  · exact absurd refused (accepted.flags stage)

theorem decode_of_firstFault (path : String) {document : Toml.Table}
    (distinct : document.Distinct Toml.Value.Distinct)
    (unmarked : (Toml.Value.table document).Unmarked) {fault : SettingsFault}
    (first : FirstFault (some document) fault) : (decode path document).outcome = .error fault := by
  rw [decode_outcome path unmarked]
  cases first with
  | versionShape found shape => simp only [checkVersion, found]; rfl
  | versionMissing missing => simp only [checkVersion, missing]; rfl
  | versionUnsupported found other =>
      simp only [checkVersion, found, supportedVersion, other, ↓reduceIte]; rfl
  | evaluatorNotTable version misfit =>
      rw [checkVersion_of_supported version, decodeEvaluator_of_misfit path misfit]; rfl
  | modeNotString version found noString =>
      rw [checkVersion_of_supported version,
        decodeEvaluator_of_fits path (.of_lookup? found), found]
      simp only [decodeMode]; rfl
  | modeUnknown version found fixture corrected =>
      rw [checkVersion_of_supported version,
        decodeEvaluator_of_fits path (.of_lookup? found), found]
      simp only [decodeMode, ofName?_eq_none fixture corrected]; rfl
  | gatesNotTable version evaluator mode misfit =>
      rw [checkVersion_of_supported version, decodeEvaluator_of_fits path evaluator,
        decodeMode_of_fits mode, decodeReveal_of_misfit path misfit]; rfl
  | @gateNotBoolean _ stage version evaluator mode refused least =>
      rw [checkVersion_of_supported version, decodeEvaluator_of_fits path evaluator,
        decodeMode_of_fits mode]
      have ⟨value, found, _⟩ := refused
      rcases decodeReveal_of_fits path distinct (.of_lookup? found) with
        ⟨_, none⟩ | ⟨other, decoded, otherRefused, otherLeast⟩
      · exact absurd refused (none stage)
      · -- The loop stops at the least key as a string, which is the least one byte by byte.
        have same : other = stage := key_injective (String.le_antisymm (otherLeast stage refused)
          ((bytes_le_iff stage other).mp (least other otherRefused)))
        rw [decoded, same]; rfl

private theorem firstFault_of_version {document : Toml.Table}
    (refused : document.get? "version" ≠ some (.integer 1)) :
    ∃ fault, FirstFault (some document) fault := by
  cases found : document.get? "version" with
  | none => exact ⟨_, .versionMissing found⟩
  | some value =>
      by_cases number : ∃ version, value = .integer version
      · obtain ⟨version, rfl⟩ := number
        refine ⟨_, .versionUnsupported found ?_⟩
        rintro rfl
        exact refused found
      · exact ⟨_, .versionShape found fun version same => number ⟨version, same⟩⟩

private theorem firstFault_of_mode {document : Toml.Table}
    (version : document.get? "version" = some (.integer 1)) (refused : ¬ ModeFits document) :
    ∃ fault, FirstFault (some document) fault := by
  obtain ⟨value, found, fixture, corrected⟩ : ∃ value, lookup? document "eval" "mode" = some value ∧
      value ≠ .string "fixture" ∧ value ≠ .string "corrected" := by
    simpa [ModeFits] using refused
  by_cases text : ∃ name, value = .string name
  · obtain ⟨name, rfl⟩ := text
    exact ⟨_, .modeUnknown version found (fun same => fixture (same ▸ rfl))
      (fun same => corrected (same ▸ rfl))⟩
  · exact ⟨_, .modeNotString version found fun name same => text ⟨name, same⟩⟩

theorem accepted_or_firstFault {document : Toml.Table}
    (distinct : document.Distinct Toml.Value.Distinct) :
    Accepted document ∨ ∃ fault, FirstFault (some document) fault := by
  by_cases version : document.get? "version" = some (.integer 1)
  case neg => exact .inr (firstFault_of_version version)
  by_cases evaluator : SectionFits document "eval"
  case neg => exact .inr ⟨_, .evaluatorNotTable version evaluator⟩
  by_cases mode : ModeFits document
  case neg => exact .inr (firstFault_of_mode version mode)
  by_cases gates : SectionFits document "reveal"
  case neg => exact .inr ⟨_, .gatesNotTable version evaluator mode gates⟩
  rcases decodeReveal_of_fits "" distinct gates with ⟨_, flags⟩ | ⟨stage, _, refused, least⟩
  · exact .inl ⟨version, evaluator, mode, gates, flags⟩
  · exact .inr ⟨_, .gateNotBoolean version evaluator mode refused fun other otherRefused =>
      (bytes_le_iff stage other).mpr (least other otherRefused)⟩

/-! ## Only the known keys count -/

/-- Two documents say the same about the version, the mode and each gate. -/
structure SameSettings (left right : Toml.Table) : Prop where
  version : left.get? "version" = right.get? "version"
  evaluator : SectionFits left "eval" ↔ SectionFits right "eval"
  mode : lookup? left "eval" "mode" = lookup? right "eval" "mode"
  gates : SectionFits left "reveal" ↔ SectionFits right "reveal"
  flags : ∀ stage : Stage, lookup? left "reveal" stage.key = lookup? right "reveal" stage.key

namespace SameSettings

variable {left right : Toml.Table}

theorem modeFits (same : SameSettings left right) : ModeFits left ↔ ModeFits right := by
  rw [ModeFits, ModeFits, same.mode]

theorem gateRefused (same : SameSettings left right) (stage : Stage) :
    GateRefused left stage ↔ GateRefused right stage := by
  rw [GateRefused, GateRefused, same.flags]

theorem accepted (same : SameSettings left right) (accepted : Accepted left) : Accepted right where
  version := same.version ▸ accepted.version
  evaluator := same.evaluator.mp accepted.evaluator
  mode := same.modeFits.mp accepted.mode
  gates := same.gates.mp accepted.gates
  flags := fun stage refused => accepted.flags stage ((same.gateRefused stage).mpr refused)

theorem firstFault (same : SameSettings left right) {fault : SettingsFault}
    (first : FirstFault (some left) fault) : FirstFault (some right) fault := by
  cases first with
  | versionShape found shape => exact .versionShape (same.version ▸ found) shape
  | versionMissing missing => exact .versionMissing (same.version ▸ missing)
  | versionUnsupported found other => exact .versionUnsupported (same.version ▸ found) other
  | evaluatorNotTable version misfit =>
      exact .evaluatorNotTable (same.version ▸ version) (mt same.evaluator.mpr misfit)
  | modeNotString version found noString =>
      exact .modeNotString (same.version ▸ version) (same.mode ▸ found) noString
  | modeUnknown version found fixture corrected =>
      exact .modeUnknown (same.version ▸ version) (same.mode ▸ found) fixture corrected
  | gatesNotTable version evaluator mode misfit =>
      exact .gatesNotTable (same.version ▸ version) (same.evaluator.mp evaluator)
        (same.modeFits.mp mode) (mt same.gates.mpr misfit)
  | gateNotBoolean version evaluator mode refused least =>
      exact .gateNotBoolean (same.version ▸ version) (same.evaluator.mp evaluator)
        (same.modeFits.mp mode) ((same.gateRefused _).mp refused)
        fun other otherRefused => least other ((same.gateRefused other).mpr otherRefused)

theorem outcome (same : SameSettings left right)
    (leftDistinct : left.Distinct Toml.Value.Distinct)
    (leftUnmarked : (Toml.Value.table left).Unmarked)
    (rightDistinct : right.Distinct Toml.Value.Distinct)
    (rightUnmarked : (Toml.Value.table right).Unmarked) (leftPath rightPath : String) :
    (decode leftPath left).outcome = (decode rightPath right).outcome := by
  rcases accepted_or_firstFault leftDistinct with accepted | ⟨fault, first⟩
  · have mode : modeOf left = modeOf right := by rw [modeOf, modeOf, same.mode]
    have gates : gateOf left = gateOf right := by
      funext stage
      rw [gateOf, gateOf, same.flags]
    rw [decode_of_accepted leftPath leftDistinct leftUnmarked accepted,
      decode_of_accepted rightPath rightDistinct rightUnmarked (same.accepted accepted),
      mode, gates]
  · rw [decode_of_firstFault leftPath leftDistinct leftUnmarked first,
      decode_of_firstFault rightPath rightDistinct rightUnmarked (same.firstFault first)]

end SameSettings

/-! ## The text of a file -/

theorem ofText_of_parsed {text : String} {document : Toml.Table}
    (parsed : Toml.parse text = some document) (path : String) :
    (ofText path text).outcome = (decode path document).outcome.mapError (.settings path) := by
  simp only [ofText, parse, parsed]

theorem ofText_of_firstFault (path : String) {text : String}
    (unmarked : ∀ document, Toml.parse text = some document →
      (Toml.Value.table document).Unmarked) {fault : SettingsFault}
    (first : FirstFault (Toml.parse text) fault) :
    (ofText path text).outcome = .error (.settings path fault) := by
  cases parsed : Toml.parse text with
  | none =>
      rw [parsed] at first
      cases first
      simp only [ofText, parse, parsed]
      rfl
  | some document =>
      rw [ofText_of_parsed parsed, decode_of_firstFault path (Toml.parse_distinct parsed)
        (unmarked document parsed) (parsed ▸ first)]
      rfl

theorem ofText_of_accepted (path : String) {text : String} {document : Toml.Table}
    (parsed : Toml.parse text = some document)
    (unmarked : (Toml.Value.table document).Unmarked) (accepted : Accepted document) :
    (ofText path text).outcome = .ok ⟨1, modeOf document, .ofStages (gateOf document)⟩ := by
  rw [ofText_of_parsed parsed,
    decode_of_accepted path (Toml.parse_distinct parsed) unmarked accepted]
  rfl

/-- The text of a settings file gives settings exactly if the version is supported and what is said
about the mode and the gates can be used; the settings are then what it says, with defaults for the
rest. Any other text fails with the first fault and the path of the file. Two texts that say the
same under the known keys come to the same. -/
theorem ofText_accepts_or_names_first_fault (path text : String)
    (unmarked : ∀ document, Toml.parse text = some document →
      (Toml.Value.table document).Unmarked) :
    (∀ settings, (ofText path text).outcome = .ok settings ↔
      ∃ document, Toml.parse text = some document ∧ Accepted document ∧
        settings = ⟨1, modeOf document, .ofStages (gateOf document)⟩) ∧
    (∀ failure, (ofText path text).outcome = .error failure ↔
      ∃ fault, failure = .settings path fault ∧ FirstFault (Toml.parse text) fault) ∧
    (∀ document otherText other, Toml.parse text = some document →
      Toml.parse otherText = some other → (Toml.Value.table other).Unmarked →
      SameSettings document other →
      (ofText path otherText).outcome = (ofText path text).outcome) := by
  have total : (∃ document, Toml.parse text = some document ∧ Accepted document) ∨
      ∃ fault, FirstFault (Toml.parse text) fault := by
    cases parsed : Toml.parse text with
    | none => exact .inr ⟨_, .noDocument⟩
    | some document =>
        exact (accepted_or_firstFault (Toml.parse_distinct parsed)).imp_left
          fun accepted => ⟨document, rfl, accepted⟩
  refine ⟨fun settings => ⟨fun outcome => ?_, ?_⟩, fun failure => ⟨fun outcome => ?_, ?_⟩, ?_⟩
  · rcases total with ⟨document, parsed, accepted⟩ | ⟨fault, first⟩
    · rw [ofText_of_accepted path parsed (unmarked document parsed) accepted] at outcome
      exact ⟨document, parsed, accepted, (Except.ok.inj outcome).symm⟩
    · rw [ofText_of_firstFault path unmarked first] at outcome
      cases outcome
  · rintro ⟨document, parsed, accepted, rfl⟩
    exact ofText_of_accepted path parsed (unmarked document parsed) accepted
  · rcases total with ⟨document, parsed, accepted⟩ | ⟨fault, first⟩
    · rw [ofText_of_accepted path parsed (unmarked document parsed) accepted] at outcome
      cases outcome
    · rw [ofText_of_firstFault path unmarked first] at outcome
      exact ⟨fault, (Except.error.inj outcome).symm, first⟩
  · rintro ⟨fault, rfl, first⟩
    exact ofText_of_firstFault path unmarked first
  · intro document otherText other parsed otherParsed otherUnmarked same
    rw [ofText_of_parsed otherParsed, ofText_of_parsed parsed,
      same.outcome (Toml.parse_distinct parsed) (unmarked document parsed)
        (Toml.parse_distinct otherParsed) otherUnmarked]

/-- Two gates are refused here, and the one that is reached later has the smaller key. The last
section has no meaning, whatever its keys. -/
def clashing : String :=
  "version = 1\n[reveal]\nsingles = 1\ninverted_triples = \"no\"\n[extra]\nversion = 2\n"

private theorem parse_clashing : Toml.parse clashing = some [("version", .integer 1),
    ("reveal", .table [("singles", .integer 1), ("inverted_triples", .string "no")]),
    ("extra", .table [("version", .integer 2)])] := by
  cbv

theorem ofText_names_inverted_triples_before_singles :
    (∀ document, Toml.parse clashing = some document → (Toml.Value.table document).Unmarked) ∧
    (ofText "boolgate.toml" clashing).outcome =
      .error (.settings "boolgate.toml" (.gateNotBoolean .invertedTriples)) := by
  have unmarked : ∀ document, Toml.parse clashing = some document →
      (Toml.Value.table document).Unmarked := by
    intro document found
    cases parse_clashing.symm.trans found
    refine .table (by decide) ?_
    simp only [List.forall_mem_cons, List.not_mem_nil, false_implies, implies_true, and_true]
    refine ⟨.integer, .table (by decide) ?_, .table (by decide) ?_⟩
    · simpa using ⟨.integer, .string⟩
    · simpa using .integer
  refine ⟨unmarked, ((ofText_accepts_or_names_first_fault _ _ unmarked).2.1 _).mpr ⟨_, rfl, ?_⟩⟩
  rw [parse_clashing]
  refine .gateNotBoolean rfl ?_ ?_ ⟨.string "no", rfl, nofun⟩ ?_
  · intro value found
    simp [Toml.Members.get?] at found
  · intro value found
    simp [lookup?, Toml.Members.get?] at found
  · rintro other ⟨value, found, _⟩
    cases other with
    | invertedSingles | invertedPairs =>
        simp [lookup?, Toml.Members.get?, Stage.key] at found
    | singles | pairs | triples | invertedTriples => decide

end Settings

end RevealGates
