import RevealGates.Proofs.Settings.Warnings
import RevealGates.Proofs.Toml.Layout
import RevealGates.Settings.Starter

/-!
Settings read from a laid-out text.

The text has the version, a section with the mode and a section with one line for each gate. Blank
lines and comments may stand anywhere between these lines, and either section may come first. What
the text says is read off the list of its gates: the gates that are named have the flags they are
given, the keys that name no gate are warned about, and a key that comes twice makes the whole text
unreadable.
-/

set_option autoImplicit false

namespace RevealGates.Settings

open Program (Context)

/-! ## The layout -/

def evaluatorLines (mode : Mode) : List String :=
  ["[eval]", "mode = \"" ++ mode.name ++ "\""]

def gateLines (entries : List (String × Bool)) : List String :=
  "[reveal]" :: entries.map fun entry => entry.1 ++ " = " ++ toString entry.2

/-- The lines of a text that says everything there is to say. -/
def layout (gatesFirst : Bool) (mode : Mode) (entries : List (String × Bool)) : List String :=
  "version = 1" ::
    if gatesFirst then gateLines entries ++ evaluatorLines mode
    else evaluatorLines mode ++ gateLines entries

/-- A text of such lines, with blank lines and comments between them. -/
def LaidOut (mode : Mode) (entries : List (String × Bool)) (text : String) : Prop :=
  ∃ gatesFirst lines, Toml.Padded (layout gatesFirst mode entries) lines ∧
    text = "\n".intercalate lines

/-- The gates are as the entries say, and open where no entry names them. -/
structure Follows (entries : List (String × Bool)) (reveal : Reveal) : Prop where
  named : ∀ (stage : Stage) flag, (stage.key, flag) ∈ entries → reveal.isOpen stage = flag
  unnamed : ∀ stage : Stage, stage.key ∉ entries.map Prod.fst → reveal.isOpen stage = true

/-! ## The document -/

def evaluatorTable (mode : Mode) : Toml.Table := [("mode", .string mode.name)]

def gateTable (entries : List (String × Bool)) : Toml.Table :=
  entries.map fun entry => (entry.1, .boolean entry.2)

def sections (gatesFirst : Bool) (mode : Mode) (entries : List (String × Bool)) :
    List (String × Toml.Table) :=
  if gatesFirst then [("reveal", gateTable entries), ("eval", evaluatorTable mode)]
  else [("eval", evaluatorTable mode), ("reveal", gateTable entries)]

def tables (gatesFirst : Bool) (mode : Mode) (entries : List (String × Bool)) : Toml.Table :=
  (sections gatesFirst mode entries).map fun part => (part.1, .table part.2)

def documentOf (gatesFirst : Bool) (mode : Mode) (entries : List (String × Bool)) : Toml.Table :=
  ("version", .integer 1) :: tables gatesFirst mode entries

theorem keys_gateTable (entries : List (String × Bool)) :
    (gateTable entries).keys = entries.map Prod.fst := by
  simp [gateTable, Toml.Members.keys, Function.comp_def]

section Lines

open Toml.Grammar (Means Bare Line means_assignment means_header plainLines)

theorem means_version : Means "version = 1" (.assignment ⟨[], "version", .integer 1⟩) := by
  have bare : Bare "version" := ⟨by decide, by simp⟩
  have spells : Toml.Grammar.Spells "1" (.integer 1) := by
    rintro rest (rfl | ⟨more, rfl⟩) <;> rfl
  exact means_assignment bare spells

theorem means_mode (mode : Mode) :
    Means ("mode = \"" ++ mode.name ++ "\"")
      (.assignment ⟨[], "mode", .string mode.name⟩) := by
  have bare : Bare "mode" := ⟨by decide, by simp⟩
  have spells : Toml.Grammar.Spells ("\"" ++ mode.name ++ "\"") (.string mode.name) := by
    rintro rest _
    cases mode <;> rfl
  have line : "mode = \"" ++ mode.name ++ "\"" =
      "mode" ++ " = " ++ ("\"" ++ mode.name ++ "\"") := by
    cases mode <;> rfl
  rw [line]
  exact means_assignment bare spells

variable {entries : List (String × Bool)}

theorem means_evaluator (mode : Mode) :
    List.Forall₂ Means (evaluatorLines mode)
      (.header false [] "eval" ::
        (evaluatorTable mode).map fun member => .assignment (Toml.Section.plain member)) := by
  have bare : Bare "eval" := ⟨by decide, by simp⟩
  exact .cons (means_header bare) (.cons (means_mode mode) .nil)

theorem means_gates (bare : ∀ entry ∈ entries, Bare entry.1) :
    List.Forall₂ Means (gateLines entries)
      (.header false [] "reveal" ::
        (gateTable entries).map fun member => .assignment (Toml.Section.plain member)) := by
  have title : Bare "reveal" := ⟨by decide, by simp⟩
  refine .cons (means_header title) ?_
  simp only [gateTable, List.map_map, List.forall₂_map_left_iff, List.forall₂_map_right_iff]
  apply List.forall₂_same.mpr
  intro entry member
  exact means_assignment (bare entry member) (Toml.Grammar.spells_boolean entry.2)

theorem means_layout (bare : ∀ entry ∈ entries, Bare entry.1) (gatesFirst : Bool) (mode : Mode) :
    List.Forall₂ Means (layout gatesFirst mode entries)
      (plainLines [("version", .integer 1)] (sections gatesFirst mode entries)) := by
  refine .cons means_version ?_
  cases gatesFirst with
  | true =>
      have both := List.rel_append (means_gates bare) (means_evaluator mode)
      simpa [sections] using both
  | false =>
      have both := List.rel_append (means_evaluator mode) (means_gates bare)
      simpa [sections] using both

/-- A laid-out text is read as the document it shows, unless a gate comes twice. -/
theorem parse_laidOut (bare : ∀ entry ∈ entries, Bare entry.1) {gatesFirst : Bool} {mode : Mode}
    {lines : List String} (padded : Toml.Padded (layout gatesFirst mode entries) lines) :
    Toml.parse ("\n".intercalate lines) =
      if (entries.map Prod.fst).Nodup then some (documentOf gatesFirst mode entries) else none := by
  have titles : (Toml.Members.keys [("version", Toml.Value.integer 1)] ++
      (sections gatesFirst mode entries).map Prod.fst).Nodup := by
    cases gatesFirst <;> simp [Toml.Members.keys, sections]
  rw [Toml.parse_padded titles (means_layout bare gatesFirst mode) padded, ← keys_gateTable]
  have once : (∀ part ∈ sections gatesFirst mode entries, (Toml.Members.keys part.2).Nodup) ↔
      (gateTable entries).keys.Nodup := by
    have single : (evaluatorTable mode).keys.Nodup := List.nodup_singleton _
    cases gatesFirst <;> simp [sections, single]
  simp only [once]
  rfl

end Lines

/-! ## Decoding -/

theorem unknownFields_eq_nil (path table : String) {known : List String} {members : Toml.Table}
    (each : ∀ member ∈ members, member.1 ∈ known) :
    unknownFields path table known members = [] := by
  rw [unknownFields, List.map_eq_nil_iff, List.filter_eq_nil_iff]
  intro key included
  obtain ⟨member, present, rfl⟩ := List.mem_map.mp included
  simpa using each member (Toml.Members.mem_sorted.mp present)

section Decoding

variable {entries others : List (String × Bool)}

theorem gateTable_unmarked (bare : ∀ entry ∈ entries, Toml.Grammar.Bare entry.1) :
    (Toml.Value.table (gateTable entries)).Unmarked := by
  apply Toml.Value.Unmarked.table
  · intro member included
    obtain ⟨entry, present, rfl⟩ := List.mem_map.mp included
    intro (marked : entry.1 = Toml.Spelled.mark)
    -- The mark starts with a sign that no bare key has.
    have sign := (bare entry present).each '$'
    rw [marked] at sign
    revert sign
    decide
  · intro member included
    obtain ⟨entry, _, rfl⟩ := List.mem_map.mp included
    exact .boolean

theorem evaluatorTable_unmarked (mode : Mode) :
    (Toml.Value.table (evaluatorTable mode)).Unmarked := by
  apply Toml.Value.Unmarked.table
  · simp [evaluatorTable, Toml.Spelled.mark]
  · simp [evaluatorTable, Toml.Value.Unmarked.string]

theorem resolveMoments_documentOf (bare : ∀ entry ∈ entries, Toml.Grammar.Bare entry.1)
    (gatesFirst : Bool) (mode : Mode) :
    resolveMoments (documentOf gatesFirst mode entries) =
      .ok (tables gatesFirst mode entries ++ [("version", .integer 1)]) := by
  have gates := Toml.Spelled.resolve_eq_self (gateTable_unmarked bare)
  have evaluator := Toml.Spelled.resolve_eq_self (evaluatorTable_unmarked mode)
  cases gatesFirst <;>
    simp [resolveMoments, documentOf, tables, sections, sectionKeys, Toml.Spelled.resolveMembers,
      Toml.Spelled.resolve, gates, evaluator, bind, Except.bind, Except.mapError]

theorem decodeEvaluator_evaluatorTable (path : String) (mode : Mode) :
    decodeEvaluator path (some (.table (evaluatorTable mode))) = .ok mode := by
  have options : unknownFields path "eval." ["mode"] (evaluatorTable mode) = [] := by
    apply unknownFields_eq_nil
    simp [evaluatorTable]
  have found : decodeMode (Toml.Members.get? "mode" (evaluatorTable mode)) = .ok mode := by
    cases mode <;> rfl
  rw [decodeEvaluator, options, found]
  rfl

/-- The version and the mode are taken as they are; all else depends on the gates alone. -/
theorem decode_documentOf (bare : ∀ entry ∈ entries, Toml.Grammar.Bare entry.1) (path : String)
    (gatesFirst : Bool) (mode : Mode) :
    decode path (documentOf gatesFirst mode entries) =
      (decodeReveal path (some (.table (gateTable entries)))).andThen fun reveal =>
        .ok { mode, reveal } := by
  have version : checkVersion (documentOf gatesFirst mode entries) = .ok 1 :=
    checkVersion_of_supported rfl
  have fields : unknownFields path "" knownKeys
      (tables gatesFirst mode entries ++ [("version", .integer 1)]) = [] := by
    apply unknownFields_eq_nil
    cases gatesFirst <;> simp [tables, sections, knownKeys, sectionKeys]
  have first : Toml.Members.get? "eval"
      (tables gatesFirst mode entries ++ [("version", Toml.Value.integer 1)]) =
        some (.table (evaluatorTable mode)) := by
    cases gatesFirst <;> rfl
  have second : Toml.Members.get? "reveal"
      (tables gatesFirst mode entries ++ [("version", Toml.Value.integer 1)]) =
        some (.table (gateTable entries)) := by
    cases gatesFirst <;> rfl
  simp only [decode, version, resolveMoments_documentOf bare, fields, first, second,
    decodeEvaluator_evaluatorTable]
  rfl

/-- The gates are gone through in the order of their keys, so the order of the entries does not
matter. -/
theorem decodeReveal_of_perm (path : String) (unique : (entries.map Prod.fst).Nodup)
    (same : others.Perm entries) :
    decodeReveal path (some (.table (gateTable others))) =
      decodeReveal path (some (.table (gateTable entries))) := by
  have sorted : (gateTable others).sorted = (gateTable entries).sorted := by
    apply Toml.Members.sorted_eq_of_perm (same.map _)
    rw [← gateTable, keys_gateTable]
    exact (same.map Prod.fst).nodup_iff.mpr unique
  have found (key : String) : (gateTable others).get? key = (gateTable entries).get? key := by
    rw [← Toml.Members.get?_sorted, sorted, Toml.Members.get?_sorted]
  simp only [decodeReveal, sorted, laterGatesEvents, laterGates, found]

theorem not_noFlag_gateTable (entries : List (String × Bool)) (key : String) :
    ¬ NoFlag ((gateTable entries).get? key) := by
  rintro ⟨value, found, refused⟩
  obtain ⟨entry, _, same⟩ := List.mem_map.mp (Toml.Members.mem_of_get? found)
  exact refused entry.2 (Prod.mk.inj same).2.symm

theorem follows_gateTable (unique : (entries.map Prod.fst).Nodup) {reveal : Reveal}
    (flags : ∀ stage : Stage,
      reveal.isOpen stage = flagOr true ((gateTable entries).get? stage.key)) :
    Follows entries reveal where
  named := by
    intro stage flag included
    have present : (stage.key, Toml.Value.boolean flag) ∈ gateTable entries :=
      List.mem_map.mpr ⟨_, included, rfl⟩
    rw [flags, Toml.Members.get?_of_mem (by rwa [keys_gateTable]) present]
    rfl
  unnamed := by
    intro stage absent
    rw [flags, Toml.Members.get?_eq_none_iff.mpr (by rwa [keys_gateTable])]
    rfl

theorem decodeReveal_gateTable (path : String) (unique : (entries.map Prod.fst).Nodup) :
    ∃ reveal unknown, ∃ events : List Event, Follows entries reveal ∧
      Listed (fun key => key ∈ entries.map Prod.fst ∧ ∀ stage : Stage, key ≠ stage.key) unknown ∧
      decodeReveal path (some (.table (gateTable entries))) =
        ⟨unknown.map (fun key => .warning (.unknownGate path key)) ++ events.map .event,
          .ok reveal⟩ := by
  obtain ⟨unknown, reveal, listed, flags, decoded⟩ :=
    decodeReveal_of_flags path ((keys_gateTable entries).symm ▸ unique)
      fun stage => not_noFlag_gateTable entries stage.key
  obtain ⟨events, later⟩ := laterGatesEvents_eq_map path (gateTable entries) reveal
  rw [keys_gateTable] at listed
  exact ⟨reveal, unknown, events, follows_gateTable unique flags, listed, later ▸ decoded⟩

/-- What a laid-out text is read as, with nothing left of its layout. -/
theorem parse_of_laidOut (bare : ∀ entry ∈ entries, Toml.Grammar.Bare entry.1) {mode : Mode}
    {text : String} (laidOut : LaidOut mode entries text) (path : String) :
    parse path text =
      if (entries.map Prod.fst).Nodup then
        (decodeReveal path (some (.table (gateTable entries)))).andThen fun reveal =>
          .ok { mode, reveal }
      else .fail .syntaxFault := by
  obtain ⟨gatesFirst, lines, padded, rfl⟩ := laidOut
  rw [parse, parse_laidOut bare padded]
  by_cases unique : (entries.map Prod.fst).Nodup
  · rw [if_pos unique, if_pos unique]
    exact decode_documentOf bare path gatesFirst mode
  · rw [if_neg unique, if_neg unique]

end Decoding

/-- The starter file is laid out, with every gate open. -/
theorem starter_laidOut :
    LaidOut .fixture (Stage.all.map fun stage => (stage.key, true)) Starter.text := by
  have empty : Toml.Filler "" := .blank (by simp)
  have fixture : Toml.Filler "# \"fixture\" repeats not(B and C) in the fifth inverted pair." :=
    @Toml.Filler.of_all_isPlain " \"fixture\" repeats not(B and C) in the fifth inverted pair." rfl
  have corrected : Toml.Filler "# \"corrected\" uses not(B and D) there instead." :=
    @Toml.Filler.of_all_isPlain " \"corrected\" uses not(B and D) there instead." rfl
  have gates : Toml.Filler "# Evaluation stops at the first closed gate and returns that stage." :=
    @Toml.Filler.of_all_isPlain
      " Evaluation stops at the first closed gate and returns that stage." rfl
  refine ⟨false, Starter.lines ++ [""], ?_, by decide +kernel⟩
  exact .said <| .filler empty <| .said <| .filler fixture <| .filler corrected <| .said <|
    .filler empty <| .filler gates <| .said <| .said <| .said <| .said <| .said <| .said <|
    .said <| .filler empty .nil

/-- A laid-out text without repeated gates is accepted with the mode and the gates that it gives;
each key that names no gate makes for one warning, in the order of the bytes. Neither the order of
the gates nor that of the sections nor what is put between the lines makes a difference. A text that
gives a gate twice is no document, and nothing is said about its keys; the message about it is one
that nothing has but what is misspelled. -/
theorem ofText_reads_laidOut {entries : List (String × Bool)}
    (bare : ∀ entry ∈ entries, Toml.Grammar.Bare entry.1) {mode : Mode} {text : String}
    (laidOut : LaidOut mode entries text) (path : String) :
    ((entries.map Prod.fst).Nodup →
      ∃ reveal unknown, Follows entries reveal ∧
        Listed (fun key => key ∈ entries.map Prod.fst ∧ ∀ stage : Stage, key ≠ stage.key) unknown ∧
        (ofText path text).outcome = .ok ⟨1, mode, reveal⟩ ∧
        (ofText path text).notices.filterMap Notice.warning? = unknown.map (.unknownGate path) ∧
        ∀ context : Context, context.environment.get? Context.logVariable = none →
          context.transcript (ofText path text).notices =
            String.join (unknown.map fun key =>
              ignoredLine path ("reveal." ++ key) (gateAdvice key))) ∧
    (¬ (entries.map Prod.fst).Nodup →
      ofText path text = ⟨[], .error (.settings path .syntaxFault)⟩ ∧
      ∀ fault : SettingsFault, fault.message path = "TOML parse error" ↔
        fault = .syntaxFault ∨ fault = .momentSpelling) ∧
    (∀ others otherText, others.Perm entries → LaidOut mode others otherText →
      ofText path otherText = ofText path text) ∧
    LaidOut .fixture (Stage.all.map fun stage => (stage.key, true)) Starter.text := by
  have parsed := parse_of_laidOut bare laidOut path
  refine ⟨?_, ?_, ?_, starter_laidOut⟩
  · intro unique
    obtain ⟨reveal, unknown, events, follows, listed, decoded⟩ :=
      decodeReveal_gateTable path unique
    rw [if_pos unique, decoded] at parsed
    have notices : (ofText path text).notices =
        unknown.map (fun key => .warning (.unknownGate path key)) ++ events.map .event := by
      rw [ofText, parsed]
      exact List.append_nil _
    refine ⟨reveal, unknown, follows, listed, ?_, ?_, ?_⟩
    · rw [ofText, parsed]
      rfl
    · simp [notices, List.filterMap_append, List.filterMap_map, Function.comp_def, Notice.warning?]
    · intro context quiet
      simp only [notices, Context.transcript_append, Context.transcript_warnings,
        (Context.quiet_of_unset quiet).transcript_events, String.append_empty, unknownGate_text]
  · intro repeated
    rw [if_neg repeated] at parsed
    refine ⟨?_, fun _ => SettingsFault.message_eq_iff⟩
    rw [ofText, parsed]
    rfl
  · intro others otherText same otherLaidOut
    have otherBare : ∀ entry ∈ others, Toml.Grammar.Bare entry.1 :=
      fun entry member => bare entry (same.mem_iff.mp member)
    have otherParsed := parse_of_laidOut otherBare otherLaidOut path
    have sameKeys : (others.map Prod.fst).Nodup ↔ (entries.map Prod.fst).Nodup :=
      (same.map Prod.fst).nodup_iff
    rw [ofText, ofText, otherParsed, parsed]
    by_cases unique : (entries.map Prod.fst).Nodup
    · rw [if_pos unique, if_pos (sameKeys.mpr unique), decodeReveal_of_perm path unique same]
    · rw [if_neg unique, if_neg fun twice => unique (sameKeys.mp twice)]

/-- Keys without a meaning around the gates, and none of them in order. -/
def tangledGates : List (String × Bool) :=
  [("zz", true), ("triples", true), ("A-1", false), ("pairs", false)]

private theorem tangledGates_bare : ∀ entry ∈ tangledGates, Toml.Grammar.Bare entry.1 := by
  have each : ∀ entry ∈ tangledGates, entry.1 ≠ "" ∧
      ∀ c ∈ entry.1.toList, c.isAlphanum = true ∨ c = '_' ∨ c = '-' := by
    simp [tangledGates]
  exact fun entry member => ⟨(each entry member).1, (each entry member).2⟩

def tangled : String :=
  "\n".intercalate
    ["", "# Gates first", "version = 1", "[reveal]", "zz = true", "triples = true", "\t ",
      "A-1 = false", "#", "pairs = false", "[eval]", "mode = \"corrected\"", ""]

private theorem tangled_laidOut : LaidOut .corrected tangledGates tangled := by
  have empty : Toml.Filler "" := .blank (by simp)
  have blank : Toml.Filler "\t " := .blank (by simp)
  have bare : Toml.Filler "#" := @Toml.Filler.of_all_isPlain "" rfl
  have comment : Toml.Filler "# Gates first" := @Toml.Filler.of_all_isPlain " Gates first" rfl
  refine ⟨true, _, ?_, rfl⟩
  exact .filler empty <| .filler comment <| .said <| .said <| .said <| .said <| .filler blank <|
    .said <| .filler bare <| .said <| .said <| .said <| .filler empty .nil

theorem ofText_reads_tangled :
    (∀ entry ∈ tangledGates, Toml.Grammar.Bare entry.1) ∧
    ("A-1", false) ∈ tangledGates ∧ LaidOut .corrected tangledGates tangled ∧
    (tangledGates.map Prod.fst).Nodup ∧
    ∃ reveal unknown, Follows tangledGates reveal ∧
      Listed (fun key => key ∈ tangledGates.map Prod.fst ∧ ∀ stage : Stage, key ≠ stage.key)
        unknown ∧
      (ofText "f" tangled).outcome = .ok ⟨1, .corrected, reveal⟩ ∧
      [Warning.unknownGate "f" "A-1", .unknownGate "f" "zz"] = unknown.map (.unknownGate "f") := by
  have unique : (tangledGates.map Prod.fst).Nodup := by
    decide
  obtain ⟨reveal, unknown, follows, listed, accepted, warnings, _⟩ :=
    (ofText_reads_laidOut tangledGates_bare tangled_laidOut "f").1 unique
  refine ⟨tangledGates_bare, by decide, tangled_laidOut, unique, reveal, unknown, follows, listed,
    accepted, .trans ?_ warnings⟩
  cbv

end RevealGates.Settings
