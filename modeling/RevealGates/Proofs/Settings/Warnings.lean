import RevealGates.Program
import RevealGates.Proofs.Settings.FirstFault
import RevealGates.Proofs.Text.ByteOrder

/-!
What a settings file is warned about.

Keys without a meaning are told of in three lists: those at the top, those among the evaluator
settings and those among the gates, each in the order of the bytes. Which keys are listed is said by
look-ups, as are the faults: a list is cut off exactly where the decoding ends. A text whose syntax
or version is wrong is not warned about at all.
-/

set_option autoImplicit false

namespace RevealGates

/-! ## Spelled moments and keys -/

namespace Toml.Spelled

theorem resolveMembers_cons {alone : Bool} {key : String} {value : Value}
    {rest resolved : Table} (spelled : resolveMembers alone ((key, value) :: rest) = .ok resolved) :
    ∃ held others, resolve alone value = .ok held ∧ resolveMembers alone rest = .ok others ∧
      resolved = (key, held) :: others := by
  unfold resolveMembers at spelled
  cases first : resolve alone value with
  | error fault => simp [first, bind, Except.bind] at spelled
  | ok held =>
      cases later : resolveMembers alone rest with
      | error fault => simp [first, later, bind, Except.bind] at spelled
      | ok others =>
          simp only [first, later, bind, Except.bind, Except.ok.injEq] at spelled
          exact ⟨held, others, rfl, rfl, spelled.symm⟩

theorem keys_resolveMembers {alone : Bool} {members resolved : Table}
    (spelled : resolveMembers alone members = .ok resolved) :
    resolved.keys = members.keys := by
  induction members generalizing resolved with
  | nil =>
      cases spelled
      rfl
  | cons member rest ih =>
      obtain ⟨key, value⟩ := member
      obtain ⟨held, others, _, later, rfl⟩ := resolveMembers_cons spelled
      exact congrArg (key :: ·) (ih later)

theorem exists_of_mem_resolveMembers {alone : Bool} {members resolved : Table}
    (spelled : resolveMembers alone members = .ok resolved) {member : String × Value}
    (included : member ∈ resolved) :
    ∃ original ∈ members, resolve alone original.2 = .ok member.2 := by
  induction members generalizing resolved with
  | nil =>
      cases spelled
      cases included
  | cons first rest ih =>
      obtain ⟨key, value⟩ := first
      obtain ⟨held, others, resolved, later, rfl⟩ := resolveMembers_cons spelled
      rcases List.mem_cons.mp included with rfl | behind
      · exact ⟨(key, value), .head _, resolved⟩
      · obtain ⟨original, present, same⟩ := ih later behind
        exact ⟨original, .tail _ present, same⟩

/-- A table that is left after resolving was a table with the same keys. -/
theorem keys_of_resolve {alone : Bool} {value : Value} {members : Table}
    (spelled : resolve alone value = .ok (.table members)) :
    ∃ original, value = .table original ∧ members.keys = Members.keys original := by
  match value with
  | .table [] =>
      cases spelled
      exact ⟨[], rfl, rfl⟩
  | .table ((key, held) :: rest) =>
      refine ⟨_, rfl, ?_⟩
      by_cases marked : key = mark
      · -- A moment is no table.
        exfalso
        cases held with
        | string text =>
            by_cases word : Moment.isMoment text.toList = true
            · simp only [resolve, if_pos marked, moment, if_pos word, bind, Except.bind] at spelled
              split at spelled <;> cases spelled
            · simp [resolve, marked, moment, word, bind, Except.bind] at spelled
        | integer | float | boolean | moment | array | table =>
            simp [resolve, marked, moment, bind, Except.bind] at spelled
      · have unfolded : resolve alone (.table ((key, held) :: rest)) =
            (resolveMembers alone ((key, held) :: rest)).map .table := by
          simp only [resolve, resolveMembers, if_neg marked, bind, Except.bind]
          cases resolve alone held with
          | error fault => rfl
          | ok first => cases resolveMembers alone rest <;> rfl
        rw [unfolded] at spelled
        cases resolved : resolveMembers alone ((key, held) :: rest) with
        | error fault => simp [resolved, Except.map] at spelled
        | ok others =>
            obtain rfl : others = members := by simpa [resolved, Except.map] using spelled
            exact keys_resolveMembers resolved
  | .array elements =>
      simp only [resolve, bind, Except.bind] at spelled
      split at spelled <;> cases spelled
  | .string _ | .integer _ | .float _ | .boolean _ | .moment _ => cases spelled

end Toml.Spelled

/-! ## Standard error -/

namespace Program.Context

variable {context : Context}

theorem transcript_append (first second : List Notice) :
    context.transcript (first ++ second) =
      context.transcript first ++ context.transcript second := by
  simp only [transcript, List.filter_append, List.map_append, String.join_append]

theorem transcript_warnings (keys : List String) (warning : String → Warning) :
    context.transcript (keys.map fun key => .warning (warning key)) =
      String.join (keys.map fun key => (warning key).text ++ "\n") := by
  have shown : (keys.map fun key => Notice.warning (warning key)).filter context.shows =
      keys.map fun key => Notice.warning (warning key) := by
    simp [List.filter_eq_self, shows]
  rw [transcript, shown, List.map_map]
  rfl

/-- Nothing of the log is shown. -/
def Quiet (context : Context) : Prop := ∀ event, context.shows (.event event) = false

theorem quiet_of_unset (unset : context.environment.get? logVariable = none) : context.Quiet := by
  intro event
  simp [shows, directives, unset, LogFilter.shows]

theorem Quiet.transcript_events (quiet : context.Quiet) (events : List Event) :
    context.transcript (events.map .event) = "" := by
  have hidden : (events.map Notice.event).filter context.shows = [] := by
    simp [List.filter_eq_nil_iff, quiet _]
  rw [transcript, hidden]
  rfl

end Program.Context

namespace Settings

open Program (Context)

theorem exists_of_resolveMoments {document values : Toml.Table}
    (spelled : resolveMoments document = .ok values) :
    ∃ sections others,
      Toml.Spelled.resolveMembers false
        (document.filter fun member => sectionKeys.contains member.1) = .ok sections ∧
      Toml.Spelled.resolveMembers true
        (document.filter fun member => !sectionKeys.contains member.1) = .ok others ∧
      values = sections ++ others := by
  unfold resolveMoments at spelled
  cases first : Toml.Spelled.resolveMembers false
      (document.filter fun member => sectionKeys.contains member.1) with
  | error fault => simp only [first, Except.mapError, bind, Except.bind, reduceCtorEq] at spelled
  | ok sections =>
      cases second : Toml.Spelled.resolveMembers true
          (document.filter fun member => !sectionKeys.contains member.1) with
      | error fault =>
          simp only [first, second, Except.mapError, bind, Except.bind, reduceCtorEq] at spelled
      | ok others =>
          simp only [first, second, Except.mapError, bind, Except.bind, Except.ok.injEq] at spelled
          exact ⟨sections, others, rfl, rfl, spelled.symm⟩

/-- Resolving the moments of a document leaves its keys as they are, and those of its sections. -/
theorem nodup_keys_of_resolveMoments {document values : Toml.Table}
    (distinct : document.Distinct Toml.Value.Distinct)
    (spelled : resolveMoments document = .ok values) :
    values.Distinct fun value => ∀ members, value = .table members →
      (Toml.Members.keys members).Nodup := by
  obtain ⟨sections, others, first, second, rfl⟩ := exists_of_resolveMoments spelled
  constructor
  · have keys : (sections ++ others).map Prod.fst =
        (document.filter (fun member => sectionKeys.contains member.1) ++
          document.filter (fun member => !sectionKeys.contains member.1)).map Prod.fst := by
      rw [List.map_append, List.map_append]
      exact congrArg₂ _ (Toml.Spelled.keys_resolveMembers first)
        (Toml.Spelled.keys_resolveMembers second)
    rw [Toml.Members.keys, keys]
    exact ((List.filter_append_perm _ document).map Prod.fst).nodup_iff.mpr distinct.unique
  · rintro ⟨key, value⟩ included members rfl
    have original : ∃ alone, ∃ member ∈ document,
        Toml.Spelled.resolve alone member.2 = .ok (.table members) := by
      rcases List.mem_append.mp included with front | back
      · obtain ⟨member, present, same⟩ := Toml.Spelled.exists_of_mem_resolveMembers first front
        exact ⟨false, member, (List.mem_filter.mp present).1, same⟩
      · obtain ⟨member, present, same⟩ := Toml.Spelled.exists_of_mem_resolveMembers second back
        exact ⟨true, member, (List.mem_filter.mp present).1, same⟩
    obtain ⟨alone, member, present, same⟩ := original
    obtain ⟨table, held, keys⟩ := Toml.Spelled.keys_of_resolve same
    have valid := distinct.each member present
    rw [held] at valid
    rw [keys]
    exact valid.members.unique

/-! ## What is listed -/

/-- The keys that are wanted, each of them once, in the order of their bytes. -/
structure Listed (wanted : String → Prop) (keys : List String) : Prop where
  increasing : keys.Pairwise fun left right => Text.bytes left < Text.bytes right
  complete : ∀ key, key ∈ keys ↔ wanted key

theorem Listed.nil {wanted : String → Prop} (none : ∀ key, ¬ wanted key) : Listed wanted [] :=
  ⟨.nil, fun key => iff_of_false nofun (none key)⟩

theorem Listed.congr {wanted asked : String → Prop} {keys : List String}
    (listed : Listed wanted keys) (same : ∀ key, wanted key ↔ asked key) : Listed asked keys :=
  ⟨listed.increasing, fun key => (listed.complete key).trans (same key)⟩

/-- A key at the top that has no meaning. -/
def UnknownField (values : Toml.Table) (key : String) : Prop :=
  (values.get? key).isSome ∧ key ∉ ["version", "eval", "reveal"]

/-- A key among the evaluator settings that has no meaning. -/
def UnknownOption (values : Toml.Table) (key : String) : Prop :=
  (lookup? values "eval" key).isSome ∧ key ≠ "mode"

/-- A key among the gates that names none and comes before every gate that is refused; `gate?` looks
the keys up. -/
@[mk_iff unnamedGate_iff]
structure UnnamedGate (gate? : String → Option Toml.Value) (key : String) : Prop where
  present : (gate? key).isSome
  unnamed : ∀ stage : Stage, key ≠ stage.key
  reached : ∀ stage : Stage, NoFlag (gate? stage.key) → Text.bytes key < Text.bytes stage.key

/-- A key among the gates that has no meaning. The gates are reached only if the evaluator settings
are accepted. -/
def UnknownGate (values : Toml.Table) (key : String) : Prop :=
  SectionFits values "eval" ∧ ModeFits values ∧ UnnamedGate (lookup? values "reveal") key

/-- The line about an ignored field. -/
def ignoredLine (path field advice : String) : String :=
  "boolgate: warning: " ++ path ++ ": unrecognized field `" ++ field ++ "` (ignored)" ++ advice ++
    "\n"

/-- The advice about an unknown gate: the one that may be meant, or all that there are. -/
def gateAdvice (key : String) : String :=
  match Suggestion.suggest? key with
  | some stage => ". Did you mean `" ++ stage.key ++ "`?"
  | none =>
      "\n  Valid gates: singles, inverted_singles, pairs, inverted_pairs, triples, inverted_triples"

/-! ## The lists one by one -/

theorem isSome_get?_iff {key : String} {members : Toml.Table} :
    (members.get? key).isSome ↔ key ∈ members.keys := by
  rw [Option.isSome_iff_ne_none, Ne, Toml.Members.get?_eq_none_iff, not_not]

theorem lt_of_isSome_get? {first key : String} {members : Toml.Table}
    (above : ∀ member ∈ members, first < member.1) (present : (members.get? key).isSome) :
    first < key := by
  obtain ⟨value, found⟩ := Option.isSome_iff_exists.mp present
  exact above _ (Toml.Members.mem_of_get? found)

theorem unknownFields_listed (path table : String) (known : List String) {members : Toml.Table}
    (unique : members.keys.Nodup) :
    ∃ keys, Listed (fun key => (members.get? key).isSome ∧ key ∉ known) keys ∧
      unknownFields path table known members =
        keys.map fun key => .warning (.unknownField path (table ++ key)) := by
  refine ⟨_, ⟨?_, ?_⟩, rfl⟩
  · have ordered : members.sorted.keys.Pairwise fun left right => left < right :=
      List.pairwise_map.mpr (Toml.Members.ordered_sorted unique)
    exact (ordered.imp Text.bytes_lt_of_lt).filter _
  · intro key
    rw [List.mem_filter, ← isSome_get?_iff, Toml.Members.get?_sorted]
    simp

section Gates

variable {first key : String} {value : Toml.Value} {rest : Toml.Table}

theorem unnamedGate_cons_of_unnamed (unnamed : ∀ stage : Stage, first ≠ stage.key)
    (above : ∀ member ∈ rest, first < member.1) :
    UnnamedGate (Toml.Members.get? · ((first, value) :: rest)) key ↔
      key = first ∨ UnnamedGate (Toml.Members.get? · rest) key := by
  simp only [unnamedGate_iff, Toml.Members.get?, if_neg (unnamed _)]
  by_cases same : key = first
  · subst same
    refine iff_of_true ⟨by simp, unnamed, ?_⟩ (.inl rfl)
    rintro stage ⟨held, found, _⟩
    exact Text.bytes_lt_of_lt
      (lt_of_isSome_get? above (Option.isSome_iff_exists.mpr ⟨held, found⟩))
  · rw [if_neg (Ne.symm same), or_iff_right same]

theorem unnamedGate_cons_of_flag {stage : Stage} (flag : Bool)
    (above : ∀ member ∈ rest, stage.key < member.1) :
    UnnamedGate (Toml.Members.get? · ((stage.key, .boolean flag) :: rest)) key ↔
      UnnamedGate (Toml.Members.get? · rest) key := by
  simp only [unnamedGate_iff, noFlag_get?_cons_boolean (get?_eq_none_of_above above)]
  refine and_congr_left fun ⟨unnamed, _⟩ => ?_
  rw [Toml.Members.get?, if_neg (unnamed stage).symm]

/-- What follows a gate that is refused comes after it, so it is not told of. -/
theorem not_unnamedGate_cons {stage : Stage} (refused : ∀ flag, value ≠ .boolean flag)
    (above : ∀ member ∈ rest, stage.key < member.1) :
    ¬ UnnamedGate (Toml.Members.get? · ((stage.key, value) :: rest)) key := by
  rintro ⟨present, unnamed, reached⟩
  rw [Toml.Members.get?, if_neg (unnamed stage).symm] at present
  have before := reached stage ⟨value, if_pos rfl, refused⟩
  exact String.lt_asymm (Text.lt_iff_bytes_lt.mpr before) (lt_of_isSome_get? above present)

end Gates

theorem decodeGates_listed (path : String) {members : Toml.Table}
    (ordered : members.Pairwise fun left right => left.1 < right.1) (reveal : Reveal) :
    ∃ keys, Listed (UnnamedGate (Toml.Members.get? · members)) keys ∧
      (decodeGates path members reveal).notices =
        keys.map fun key => .warning (.unknownGate path key) := by
  induction members generalizing reveal with
  | nil => exact ⟨[], .nil fun key unknown => Bool.noConfusion unknown.present, rfl⟩
  | cons member rest ih =>
      obtain ⟨first, value⟩ := member
      obtain ⟨above, restOrdered⟩ := List.pairwise_cons.mp ordered
      cases named : Stage.ofKey? first with
      | none =>
          obtain ⟨keys, ⟨increasing, complete⟩, notices⟩ := ih restOrdered reveal
          refine ⟨first :: keys, ⟨List.pairwise_cons.mpr ⟨?_, increasing⟩, ?_⟩, ?_⟩
          · intro key included
            have unknown := (complete key).mp included
            exact Text.bytes_lt_of_lt (lt_of_isSome_get? above unknown.present)
          · intro key
            rw [List.mem_cons, complete,
              unnamedGate_cons_of_unnamed (key_ne_of_ofKey?_eq_none named) above]
          · simp only [decodeGates, named, Decoding.after, notices, List.map_cons,
              List.singleton_append]
      | some stage =>
          obtain rfl := ofKey?_eq_some_iff.mp named
          by_cases isFlag : ∃ flag, value = .boolean flag
          · obtain ⟨flag, rfl⟩ := isFlag
            obtain ⟨keys, listed, notices⟩ := ih restOrdered (reveal.set stage flag)
            refine ⟨keys, listed.congr fun key => (unnamedGate_cons_of_flag flag above).symm, ?_⟩
            simp only [decodeGates, named, notices]
          · have refused : ∀ flag, value ≠ .boolean flag := not_exists.mp isFlag
            refine ⟨[], .nil fun key => not_unnamedGate_cons refused above, ?_⟩
            simp only [decodeGates, named, Decoding.fail, List.map_nil]

/-! ## The sections -/

section Sections

variable {values : Toml.Table}
  (unique : values.Distinct fun value => ∀ members, value = .table members →
    (Toml.Members.keys members).Nodup)

theorem lookup?_of_noTable {title : String}
    (noTable : ¬ ∃ members, values.get? title = some (.table members)) (key : String) :
    lookup? values title key = none := by
  unfold lookup?
  split
  · next members found => exact absurd ⟨members, found⟩ noTable
  · rfl

include unique in
theorem decodeEvaluator_listed (path : String) :
    ∃ keys, Listed (UnknownOption values) keys ∧
      (decodeEvaluator path (values.get? "eval")).notices =
        keys.map fun key => .warning (.unknownField path ("eval." ++ key)) := by
  by_cases isTable : ∃ members, values.get? "eval" = some (.table members)
  · obtain ⟨members, found⟩ := isTable
    obtain ⟨keys, listed, notices⟩ :=
      unknownFields_listed path "eval." ["mode"] (unique.get? found members rfl)
    refine ⟨keys, listed.congr fun key => ?_, by rw [found]; exact notices⟩
    rw [UnknownOption, lookup?_of_table found, List.mem_singleton]
  · refine ⟨[], .nil ?_, ?_⟩
    · rintro key ⟨present, _⟩
      rw [lookup?_of_noTable isTable] at present
      cases present
    · unfold decodeEvaluator
      split
      · rfl
      · next members found => exact absurd ⟨members, found⟩ isTable
      · rfl

theorem decodeEvaluator_isOk_iff (path : String) (values : Toml.Table) :
    (decodeEvaluator path (values.get? "eval")).outcome.isOk ↔
      SectionFits values "eval" ∧ ModeFits values := by
  constructor
  · intro accepted
    by_cases fits : SectionFits values "eval"
    · refine ⟨fits, fun value found => ?_⟩
      rw [decodeEvaluator_of_fits path fits, found] at accepted
      cases value with
      | string name =>
          by_contra unknown
          rw [not_or] at unknown
          rw [decodeMode, ofName?_eq_none (fun same => unknown.1 (same ▸ rfl))
            (fun same => unknown.2 (same ▸ rfl))] at accepted
          cases accepted
      | integer | float | boolean | moment | array | table => cases accepted
    · rw [decodeEvaluator_of_misfit path fits] at accepted
      cases accepted
  · rintro ⟨fits, mode⟩
    rw [decodeEvaluator_of_fits path fits, decodeMode_of_fits mode]
    rfl

theorem laterGatesEvents_eq_map (path : String) (members : Toml.Table) (reveal : Reveal) :
    ∃ events : List Event, laterGatesEvents path members reveal = events.map .event := by
  unfold laterGatesEvents
  split
  · exact ⟨[], rfl⟩
  · split
    · exact ⟨[], rfl⟩
    · exact ⟨[_], rfl⟩

/-- A table that gives every gate it names as a flag, among other members, is accepted. -/
theorem decodeReveal_of_flags (path : String) {members : Toml.Table}
    (once : members.keys.Nodup) (flags : ∀ stage : Stage, ¬ NoFlag (members.get? stage.key)) :
    ∃ unknown, ∃ reveal : Reveal,
      Listed (fun key => key ∈ members.keys ∧ ∀ stage : Stage, key ≠ stage.key) unknown ∧
      (∀ stage, reveal.isOpen stage = flagOr true (members.get? stage.key)) ∧
      decodeReveal path (some (.table members)) =
        ⟨unknown.map (fun key => .warning (.unknownGate path key)) ++
            laterGatesEvents path members reveal, .ok reveal⟩ := by
  have ordered := Toml.Members.ordered_sorted once
  obtain ⟨unknown, listed, notices⟩ := decodeGates_listed path ordered {}
  have wanted (key : String) : UnnamedGate (Toml.Members.get? · members.sorted) key ↔
      key ∈ members.keys ∧ ∀ stage : Stage, key ≠ stage.key := by
    simp only [unnamedGate_iff, Toml.Members.get?_sorted, flags, false_imp_iff, implies_true,
      and_true, isSome_get?_iff]
  rcases decodeGates_outcome path ordered {} with ⟨decoded, _⟩ | ⟨stage, _, refused, _⟩
  · have untouched (stage : Stage) : Reveal.isOpen {} stage = true := by
      cases stage <;> rfl
    simp only [Toml.Members.get?_sorted, untouched] at decoded
    refine ⟨unknown, .ofStages fun stage => flagOr true (members.get? stage.key),
      listed.congr wanted, Reveal.isOpen_ofStages _, ?_⟩
    simp only [decodeReveal, Decoding.andThen, Decoding.after, decoded, notices]
  · rw [Toml.Members.get?_sorted] at refused
    exact absurd refused (flags _)

include unique in
theorem decodeReveal_listed (path : String) :
    ∃ keys, ∃ events : List Event, Listed (UnnamedGate (lookup? values "reveal")) keys ∧
      (decodeReveal path (values.get? "reveal")).notices =
        keys.map (fun key => .warning (.unknownGate path key)) ++ events.map .event := by
  by_cases isTable : ∃ members, values.get? "reveal" = some (.table members)
  · obtain ⟨members, found⟩ := isTable
    have ordered := Toml.Members.ordered_sorted (unique.get? found members rfl)
    obtain ⟨keys, listed, notices⟩ := decodeGates_listed path ordered {}
    simp only [Toml.Members.get?_sorted] at listed
    have sameGates : lookup? values "reveal" = (Toml.Members.get? · members) :=
      funext (lookup?_of_table found)
    rw [sameGates, found]
    simp only [decodeReveal, Decoding.andThen]
    split
    · next reveal _ =>
      obtain ⟨events, later⟩ := laterGatesEvents_eq_map path members reveal
      exact ⟨keys, events, listed, congrArg₂ _ notices later⟩
    · exact ⟨keys, [], listed, notices.trans (List.append_nil _).symm⟩
  · refine ⟨[], [], .nil ?_, ?_⟩
    · rintro key ⟨present, _⟩
      rw [lookup?_of_noTable isTable] at present
      cases present
    · unfold decodeReveal
      split
      · rfl
      · next members found => exact absurd ⟨members, found⟩ isTable
      · rfl

/-- Whether the gates are reached makes no difference to the form of the notices: where they are
not, none of their keys is told of. -/
theorem decode_listed (path : String) {document : Toml.Table}
    (distinct : document.Distinct Toml.Value.Distinct)
    (version : document.get? "version" = some (.integer 1))
    (spelled : resolveMoments document = .ok values) :
    ∃ fields options gates, ∃ events : List Event,
      Listed (UnknownField values) fields ∧ Listed (UnknownOption values) options ∧
      Listed (UnknownGate values) gates ∧
      (decode path document).notices =
        fields.map (fun key => .warning (.unknownField path key)) ++
        (options.map (fun key => .warning (.unknownField path ("eval." ++ key))) ++
        (gates.map (fun key => .warning (.unknownGate path key)) ++ events.map .event)) := by
  have unique := nodup_keys_of_resolveMoments distinct spelled
  obtain ⟨fields, fieldsListed, top⟩ := unknownFields_listed path "" knownKeys unique.unique
  obtain ⟨options, optionsListed, evaluator⟩ := decodeEvaluator_listed unique path
  obtain ⟨gates, events, gatesListed, reveal⟩ := decodeReveal_listed unique path
  have fit := decodeEvaluator_isOk_iff path values
  simp only [String.empty_append] at top
  cases accepted : (decodeEvaluator path (values.get? "eval")).outcome with
  | error fault =>
      rw [accepted] at fit
      refine ⟨fields, options, [], [], fieldsListed, optionsListed, .nil ?_, ?_⟩
      · rintro key ⟨fits, mode, _⟩
        exact Bool.noConfusion (fit.mpr ⟨fits, mode⟩)
      · simp only [decode, checkVersion_of_supported version, spelled, Decoding.andThen, accepted,
          Decoding.after, top, evaluator, List.map_nil, List.append_nil]
  | ok mode =>
      rw [accepted] at fit
      obtain ⟨fits, modeFits⟩ := fit.mp rfl
      have reached (key : String) :
          UnnamedGate (lookup? values "reveal") key ↔ UnknownGate values key :=
        ⟨fun unknown => ⟨fits, modeFits, unknown⟩, fun known => known.2.2⟩
      refine ⟨fields, options, gates, events, fieldsListed, optionsListed,
        gatesListed.congr reached, ?_⟩
      simp only [decode, checkVersion_of_supported version, spelled, Decoding.andThen, accepted,
        Decoding.after, top, evaluator]
      cases (decodeReveal path (values.get? "reveal")).outcome with
      | error fault => simp only [reveal]
      | ok gate => simp only [reveal, Decoding.ok, List.append_nil]

end Sections

/-! ## Wordings -/

theorem ignoredLine_eq (path field advice : String) :
    ignoredLine path field advice = Warning.unrecognized path field ++ advice ++ "\n" := rfl

theorem unknownField_text (path field : String) :
    (Warning.unknownField path field).text ++ "\n" = ignoredLine path field "" := by
  rw [ignoredLine_eq, String.append_empty]
  rfl

theorem advice_eq_gateAdvice (key : String) : Warning.advice key = gateAdvice key := by
  unfold Warning.advice gateAdvice
  cases Suggestion.suggest? key with
  | none => decide
  | some stage => rfl

theorem unknownGate_text (path key : String) :
    (Warning.unknownGate path key).text ++ "\n" =
      ignoredLine path ("reveal." ++ key) (gateAdvice key) := by
  rw [ignoredLine_eq, ← advice_eq_gateAdvice]
  rfl

theorem checkVersion_eq_ok {document : Toml.Table} {version : Int}
    (checked : checkVersion document = .ok version) :
    document.get? "version" = some (.integer 1) := by
  unfold checkVersion at checked
  split at checked
  · cases checked
  · next found =>
    split at checked
    · next supported => rw [found, supported, supportedVersion]
    · cases checked
  · cases checked

theorem ofText_notices_of_refused {path text : String}
    (refused : ∀ document values, Toml.parse text = some document →
      document.get? "version" = some (.integer 1) → resolveMoments document ≠ .ok values) :
    (ofText path text).notices = [] := by
  simp only [ofText, parse]
  cases parsed : Toml.parse text with
  | none => rfl
  | some document =>
      simp only [decode]
      cases checked : checkVersion document with
      | error fault => rfl
      | ok version =>
          have supported := checkVersion_eq_ok checked
          cases spelled : resolveMoments document with
          | error fault => rfl
          | ok values => exact absurd spelled (refused document values parsed supported)

/-- Where nothing is logged, a settings file whose version is supported makes for one line about
each unknown key: first those at the top, then those of the evaluator settings, then those of the
gates up to the first gate that is refused, each in the order of the bytes. Without a supported
version, or with a moment that is misspelled, nothing is printed. A moment has to be spelled with a
mark; in a document without marks the keys are those that stand there. -/
theorem ofText_warns_of_each_unknown_key (context : Context)
    (quiet : context.environment.get? Context.logVariable = none) (path text : String) :
    (∀ document values, Toml.parse text = some document →
      document.get? "version" = some (.integer 1) → resolveMoments document = .ok values →
      ∃ fields options gates,
        Listed (UnknownField values) fields ∧ Listed (UnknownOption values) options ∧
        Listed (UnknownGate values) gates ∧
        context.transcript (ofText path text).notices =
          String.join (fields.map fun key => ignoredLine path key "") ++
          (String.join (options.map fun key => ignoredLine path ("eval." ++ key) "") ++
          String.join (gates.map fun key =>
            ignoredLine path ("reveal." ++ key) (gateAdvice key)))) ∧
    ((∀ document values, Toml.parse text = some document →
      document.get? "version" = some (.integer 1) → resolveMoments document ≠ .ok values) →
      context.transcript (ofText path text).notices = "") ∧
    (∀ document, Toml.parse text = some document → (Toml.Value.table document).Unmarked →
      ∃ values, resolveMoments document = .ok values ∧
        ∀ key, values.get? key = document.get? key) := by
  refine ⟨?_, ?_, fun document _ unmarked => resolveMoments_of_unmarked unmarked⟩
  · intro document values parsed version spelled
    obtain ⟨fields, options, gates, events, fieldsListed, optionsListed, gatesListed, notices⟩ :=
      decode_listed path (Toml.parse_distinct parsed) version spelled
    refine ⟨fields, options, gates, fieldsListed, optionsListed, gatesListed, ?_⟩
    simp only [ofText, parse, parsed, notices, Context.transcript_append,
      Context.transcript_warnings, (Context.quiet_of_unset quiet).transcript_events,
      String.append_empty, unknownField_text, unknownGate_text]
  · intro refused
    rw [ofText_notices_of_refused refused]
    rfl

/-- Unknown keys everywhere, none of them in order. Two of the gate table come before the gate that
is refused, and two after it. -/
def cluttered : String :=
  "zeta = 1\nversion = 1\nAlpha = 2\n[eval]\nspeed = 3\nmode = \"fixture\"\n" ++
    "[reveal]\nvars = true\nabc = 1\npairs = 0\nzz = false\nInverted-Pair = true\n"

private def clutteredSections : Toml.Table :=
  [("eval", .table [("speed", .integer 3), ("mode", .string "fixture")]),
    ("reveal", .table [("vars", .boolean true), ("abc", .integer 1), ("pairs", .integer 0),
      ("zz", .boolean false), ("Inverted-Pair", .boolean true)])]

private def clutteredOthers : Toml.Table :=
  [("zeta", .integer 1), ("version", .integer 1), ("Alpha", .integer 2)]

private theorem parse_cluttered :
    Toml.parse cluttered = some (clutteredOthers ++ clutteredSections) := by
  cbv

private theorem resolveMoments_cluttered :
    resolveMoments (clutteredOthers ++ clutteredSections) =
      .ok (clutteredSections ++ clutteredOthers) := by
  cbv

private theorem notices_cluttered : (ofText "f" cluttered).notices =
    [.warning (.unknownField "f" "Alpha"), .warning (.unknownField "f" "zeta"),
      .warning (.unknownField "f" "eval.speed"), .warning (.unknownGate "f" "Inverted-Pair"),
      .warning (.unknownGate "f" "abc")] := by
  rw [ofText, parse, parse_cluttered]
  cbv

theorem ofText_warns_of_cluttered :
    ({} : Context).environment.get? Context.logVariable = none ∧
    ∃ document values fields options gates,
      Toml.parse cluttered = some document ∧ resolveMoments document = .ok values ∧
      Listed (UnknownField values) fields ∧ Listed (UnknownOption values) options ∧
      Listed (UnknownGate values) gates ∧
      "boolgate: warning: f: unrecognized field `Alpha` (ignored)\n" ++
      "boolgate: warning: f: unrecognized field `zeta` (ignored)\n" ++
      "boolgate: warning: f: unrecognized field `eval.speed` (ignored)\n" ++
      "boolgate: warning: f: unrecognized field `reveal.Inverted-Pair` (ignored). " ++
        "Did you mean `inverted_pairs`?\n" ++
      "boolgate: warning: f: unrecognized field `reveal.abc` (ignored)\n" ++
        "  Valid gates: singles, inverted_singles, pairs, inverted_pairs, triples, " ++
        "inverted_triples\n" =
        String.join (fields.map fun key => ignoredLine "f" key "") ++
        (String.join (options.map fun key => ignoredLine "f" ("eval." ++ key) "") ++
        String.join (gates.map fun key =>
          ignoredLine "f" ("reveal." ++ key) (gateAdvice key))) := by
  have version : (clutteredOthers ++ clutteredSections).get? "version" = some (.integer 1) := by
    cbv
  obtain ⟨fields, options, gates, fieldsListed, optionsListed, gatesListed, printed⟩ :=
    (ofText_warns_of_each_unknown_key {} rfl "f" cluttered).1 _ _ parse_cluttered version
      resolveMoments_cluttered
  refine ⟨rfl, _, _, fields, options, gates, parse_cluttered, resolveMoments_cluttered,
    fieldsListed, optionsListed, gatesListed, .trans ?_ printed⟩
  rw [notices_cluttered]
  decide +kernel

end Settings

end RevealGates
