import Mathlib.Data.List.Forall2
import Mathlib.Data.List.TakeDrop
import RevealGates.Proofs.Toml.DistinctKeys

/-!
Texts that are laid out line by line.

A line either says something or is filler: blanks, with or without a comment. However the lines that
say something are spread among fillers, the grammar reads what they say in their order. Lines of two
kinds are known to say something here: a header in brackets, and a bare key with its value.
-/

set_option autoImplicit false

namespace RevealGates.Toml

/-! ## Fillers -/

/-- A line that says nothing. Its comment has no control characters but tabs. -/
inductive Filler : String → Prop where
  | blank {line : String} : (∀ c ∈ line.toList, c = ' ' ∨ c = '\t') → Filler line
  | comment {blanks text : String} : (∀ c ∈ blanks.toList, c = ' ' ∨ c = '\t') →
      (∀ c ∈ text.toList, c = '\t' ∨ 0x20 ≤ c.toNat ∧ c.toNat ≠ 0x7f) →
      Filler (blanks ++ "#" ++ text)

/-- Lines in their order with fillers put in anywhere. -/
inductive Padded : List String → List String → Prop where
  | nil : Padded [] []
  | said {line texts lines} : Padded texts lines → Padded (line :: texts) (line :: lines)
  | filler {line texts lines} : Filler line → Padded texts lines → Padded texts (line :: lines)

def joined (lines : List String) : List Char := ("\n".intercalate lines).toList

/-- What follows a line: the other lines, each on a line of its own. -/
def below (lines : List String) : List Char := lines.flatMap fun line => '\n' :: line.toList

theorem joined_cons (line : String) (lines : List String) :
    joined (line :: lines) = line.toList ++ below lines := by
  induction lines generalizing line with
  | nil => simp [joined, below]
  | cons next rest ih =>
      have later := ih next
      simp only [joined, below] at later ⊢
      simp [String.intercalate_cons_cons, later]

/-- The text ends here, or at least its line does. -/
def Ends (rest : List Char) : Prop := rest = [] ∨ ∃ more, rest = '\n' :: more

theorem ends_below (lines : List String) : Ends (below lines) := by
  cases lines with
  | nil => exact .inl rfl
  | cons line rest => exact .inr ⟨_, rfl⟩

theorem afterLine?_below (lines : List String) :
    afterLine? (below lines) = some (joined lines) := by
  cases lines with
  | nil => rfl
  | cons line rest =>
      rw [joined_cons]
      rfl

theorem isBlank_iff {c : Char} : isBlank c = true ↔ c = ' ' ∨ c = '\t' := by
  simp [isBlank]

theorem isPlain_iff {c : Char} :
    isPlain c = true ↔ c = '\t' ∨ 0x20 ≤ c.toNat ∧ c.toNat ≠ 0x7f := by
  simp [isPlain]

theorem Filler.of_all_isPlain {text : String} (plain : text.toList.all isPlain = true) :
    Filler ("#" ++ text) := by
  have commented := @Filler.comment "" text (by simp)
    fun c member => isPlain_iff.mp (List.all_eq_true.mp plain c member)
  simpa using commented

namespace Ends

variable {rest : List Char}

theorem skipBlanks (ends : Ends rest) : skipBlanks rest = rest := by
  rcases ends with rfl | ⟨more, rfl⟩ <;> rfl

theorem dropWhile_isPlain (ends : Ends rest) : rest.dropWhile isPlain = rest := by
  rcases ends with rfl | ⟨more, rfl⟩ <;> rfl

theorem length_lt {next : List Char} (ends : Ends rest) (read : afterLine? rest = some next)
    {front : List Char} (filled : front ++ rest ≠ []) : next.length < (front ++ rest).length := by
  rcases ends with rfl | ⟨more, rfl⟩
  · cases read
    exact List.length_pos_iff.mpr filled
  · cases read
    simp only [List.length_append, List.length_cons]
    omega

end Ends

theorem Filler.skipBlanks {line : String} (filler : Filler line) {rest : List Char}
    (ends : Ends rest) :
    ∃ comment, skipBlanks (line.toList ++ rest) = comment ++ rest ∧
      afterLine? (comment ++ rest) = afterLine? rest := by
  cases filler with
  | blank blanks =>
      refine ⟨[], ?_, rfl⟩
      rw [Toml.skipBlanks,
        List.dropWhile_append_of_pos fun c member => isBlank_iff.mpr (blanks c member)]
      exact ends.skipBlanks
  | @comment blanks text blank plain =>
      have dropped : (text.toList ++ rest).dropWhile isPlain = rest := by
        rw [List.dropWhile_append_of_pos fun c member => isPlain_iff.mpr (plain c member)]
        exact ends.dropWhile_isPlain
      refine ⟨'#' :: text.toList, ?_, ?_⟩
      · simp only [Toml.skipBlanks, String.toList_append, List.append_assoc]
        rw [List.dropWhile_append_of_pos fun c member => isBlank_iff.mpr (blank c member)]
        rfl
      · have comment : skipComment (Toml.skipBlanks ('#' :: text.toList ++ rest)) = rest := dropped
        have ended : skipComment (Toml.skipBlanks rest) = rest := by
          rcases ends with rfl | ⟨more, rfl⟩ <;> rfl
        rw [afterLine?, afterLine?, comment, ended]

namespace Grammar

section Lines

variable {chars start left next : List Char} {first : Line}

theorem lines_of_blank (started : skipBlanks chars = []) : lines chars = some [] := by
  rw [lines, started]

theorem lines_of_idle (started : skipBlanks chars = start) (filled : start ≠ [])
    (idle : afterLine? start = some next) (shorter : next.length < chars.length) :
    lines chars = lines next := by
  cases start with
  | nil => exact absurd rfl filled
  | cons c rest => rw [lines, started]; simp only [idle, shorter, if_true]

theorem lines_of_said (started : skipBlanks chars = start) (filled : start ≠ [])
    (busy : afterLine? start = none) (said : line start = some (first, left))
    (ended : afterLine? left = some next) (shorter : next.length < chars.length) :
    lines chars = (lines next).map (first :: ·) := by
  cases start with
  | nil => exact absurd rfl filled
  | cons c rest => rw [lines, started]; simp only [busy, said, ended, shorter, if_true]

end Lines

theorem lines_filler {line : String} (filler : Filler line) {rest next : List Char}
    (ends : Ends rest) (read : afterLine? rest = some next) :
    lines (line.toList ++ rest) = lines next := by
  obtain ⟨comment, started, idle⟩ := filler.skipBlanks ends
  by_cases empty : comment ++ rest = []
  · obtain ⟨rfl, rfl⟩ := List.append_eq_nil_iff.mp empty
    cases read
    rw [lines_of_blank started, lines_of_blank rfl]
  · apply lines_of_idle started empty (idle.trans read)
    apply ends.length_lt read
    intro none
    rw [none] at started
    exact empty started.symm

/-- What a line says, whatever comes after it. -/
structure Means (text : String) (said : Line) : Prop where
  starts : ∃ c rest, text.toList = c :: rest ∧ (isBare c = true ∨ c = '[')
  read : ∀ rest, Ends rest → line (text.toList ++ rest) = some (said, rest)

/-- What starts a key or a header is no blank, no comment, no line break and no byte order mark. -/
theorem ne_of_starts {c : Char} (starts : isBare c = true ∨ c = '[') :
    isBlank c = false ∧ c ≠ '#' ∧ c ≠ '\n' ∧ c ≠ '\r' ∧ c ≠ '\uFEFF' := by
  have other {d : Char} (bare : isBare d = false) (bracket : d ≠ '[') : c ≠ d := by
    rintro rfl
    rcases starts with isBare | isBracket
    · exact Bool.noConfusion (bare.symm.trans isBare)
    · exact bracket isBracket
  refine ⟨?_, other rfl (by decide), other rfl (by decide), other rfl (by decide),
    other rfl (by decide)⟩
  apply Bool.eq_false_iff.mpr
  intro blank
  rcases isBlank_iff.mp blank with space | tab
  · exact other rfl (by decide) space
  · exact other rfl (by decide) tab

theorem lines_said {text : String} {said : Line} (means : Means text said)
    {rest next : List Char} (ends : Ends rest) (read : afterLine? rest = some next) :
    lines (text.toList ++ rest) = (lines next).map (said :: ·) := by
  obtain ⟨c, others, spelled, starts⟩ := means.starts
  obtain ⟨blank, comment, feed, carriage, _⟩ := ne_of_starts starts
  have said := means.read rest ends
  rw [spelled] at said ⊢
  have started : skipBlanks (c :: others ++ rest) = c :: others ++ rest := by
    simp [skipBlanks, blank]
  have busy : afterLine? (c :: others ++ rest) = none := by
    have kept : skipComment (c :: others ++ rest) = c :: others ++ rest := by
      simp [skipComment, comment]
    rw [afterLine?, started, kept]
    simp [afterBreak?, feed, carriage]
  exact lines_of_said started (List.cons_ne_nil _ _) busy said read
    (ends.length_lt read (List.cons_ne_nil _ _))

/-- The grammar reads what the lines say, and not the fillers between them. -/
theorem lines_padded {texts all : List String} {said : List Line}
    (each : List.Forall₂ Means texts said) (padded : Padded texts all) :
    lines (joined all) = some said := by
  -- Each line leaves the text of the lines below it, so the hypothesis is about the rest as it is.
  induction padded generalizing said with
  | nil =>
      cases each
      exact lines_of_blank rfl
  | @said text texts all _ ih =>
      cases each with
      | cons means others =>
        rw [joined_cons, lines_said means (ends_below all) (afterLine?_below all), ih others]
        rfl
  | @filler text texts all filler _ ih =>
      rw [joined_cons, lines_filler filler (ends_below all) (afterLine?_below all), ih each]

/-- No byte order mark is left out: neither a filler nor a line that says something starts with
one. -/
theorem dropMark_padded {texts all : List String} {said : List Line}
    (each : List.Forall₂ Means texts said) (padded : Padded texts all) :
    dropMark (joined all) = joined all := by
  have kept {c : Char} {rest : List Char} (other : c ≠ '\uFEFF') :
      dropMark (c :: rest) = c :: rest := by
    unfold dropMark
    split
    · next same => exact absurd (List.cons.inj same).1 other
    · rfl
  cases padded with
  | nil => rfl
  | @said text texts all _ =>
      cases each with
      | cons means _ =>
        obtain ⟨c, others, spelled, starts⟩ := means.starts
        rw [joined_cons, spelled]
        exact kept (ne_of_starts starts).2.2.2.2
  | @filler text texts all filler _ =>
      rw [joined_cons]
      cases filler with
      | blank blank =>
          cases spelled : text.toList with
          | nil => rcases ends_below all with nothing | ⟨more, more'⟩ <;> simp [*, dropMark]
          | cons c others =>
              apply kept
              rcases blank c (by simp [spelled]) with rfl | rfl <;> decide
      | @comment blanks comment blank _ =>
          cases spelled : blanks.toList with
          | nil => simp [spelled, dropMark]
          | cons c others =>
              simp only [String.toList_append, spelled]
              apply kept
              rcases blank c (by simp [spelled]) with rfl | rfl <;> decide

/-! ## Keys, values and headers -/

/-- A key that needs no quotes. -/
structure Bare (key : String) : Prop where
  filled : key ≠ ""
  each : ∀ c ∈ key.toList, c.isAlphanum = true ∨ c = '_' ∨ c = '-'

namespace Bare

variable {key : String}

theorem isBare (bare : Bare key) : ∀ c ∈ key.toList, isBare c = true := by
  intro c member
  simpa [Grammar.isBare, or_assoc] using bare.each c member

theorem exists_cons (bare : Bare key) :
    ∃ c rest, key.toList = c :: rest ∧ Grammar.isBare c = true := by
  cases spelled : key.toList with
  | nil => exact absurd (String.toList_eq_nil_iff.mp spelled) bare.filled
  | cons c rest => exact ⟨c, rest, rfl, bare.isBare c (by simp [spelled])⟩

theorem keyPart (bare : Bare key) {c : Char} (stops : Grammar.isBare c = false)
    (rest : List Char) : keyPart (key.toList ++ c :: rest) = some (key, c :: rest) := by
  have split : (key.toList ++ c :: rest).span Grammar.isBare = (key.toList, c :: rest) := by
    rw [List.span_eq_takeWhile_dropWhile, List.takeWhile_append_of_pos bare.isBare,
      List.dropWhile_append_of_pos bare.isBare]
    simp [stops]
  obtain ⟨first, others, spelled, _⟩ := bare.exists_cons
  have read : Grammar.keyPart (key.toList ++ c :: rest) =
      some (String.ofList (first :: others), c :: rest) := by
    rw [Grammar.keyPart, split, spelled]
  rw [read, ← spelled, String.ofList_toList]

/-- A bare key without points is read up to the character that follows it. -/
theorem key_eq (bare : Bare key) {c d : Char} {rest left : List Char}
    (stops : Grammar.isBare c = false) (next : skipBlanks (c :: rest) = d :: left)
    (plain : d ≠ '.') :
    Grammar.key (key.toList ++ c :: rest) = some (([], key), d :: left) := by
  have started : skipBlanks (key.toList ++ c :: rest) = key.toList ++ c :: rest := by
    obtain ⟨first, others, spelled, isBare⟩ := bare.exists_cons
    simp [spelled, skipBlanks, (ne_of_starts (.inl isBare)).1]
  have alone : keyTail (c :: rest) = some ([], d :: left) := by
    rw [keyTail, next]
    split
    · next same => exact absurd (List.cons.inj same).1 plain
    · rfl
  simp [Grammar.key, started, bare.keyPart stops, alone, keyParts]

end Bare

/-- What is written for a value, whatever comes after it. Blanks may stand in front. -/
def Spells (written : String) (held : Value) : Prop :=
  ∀ rest, Ends rest → value nesting (skipBlanks (written.toList ++ rest)) = some (held, rest)

theorem spells_boolean (flag : Bool) : Spells (toString flag) (.boolean flag) := by
  rintro rest (rfl | ⟨more, rfl⟩) <;> cases flag <;> rfl

theorem line_of_ne {c : Char} (plain : c ≠ '[') (rest : List Char) :
    line (c :: rest) =
      (assignment (value nesting) (c :: rest)).map fun read => (.assignment read.1, read.2) := by
  unfold line
  split
  · next same => exact absurd (List.cons.inj same).1 plain
  · next same => exact absurd (List.cons.inj same).1 plain
  · cases assignment (value nesting) (c :: rest) <;> rfl

theorem means_assignment {key written : String} {held : Value} (bare : Bare key)
    (spells : Spells written held) :
    Means (key ++ " = " ++ written) (.assignment ⟨[], key, held⟩) where
  starts := by
    obtain ⟨c, rest, spelled, isBare⟩ := bare.exists_cons
    exact ⟨c, rest ++ (" = " ++ written).toList, by simp [spelled], .inl isBare⟩
  read := by
    intro rest ends
    have read : assignment (value nesting) (key.toList ++ ' ' :: '=' :: ' ' ::
        (written.toList ++ rest)) = some (⟨[], key, held⟩, rest) := by
      rw [assignment, bare.key_eq rfl rfl (by decide)]
      have spelled := spells rest ends
      simp only [skipBlanks] at spelled
      simp [skipBlanks, isBlank, spelled]
    obtain ⟨c, others, spelled, isBare⟩ := bare.exists_cons
    have plain : c ≠ '[' := by
      rintro rfl
      cases isBare
    rw [spelled] at read
    simp only [String.toList_append, spelled, List.append_assoc, List.cons_append]
    rw [line_of_ne plain]
    exact congrArg (Option.map _) read

theorem means_header {key : String} (bare : Bare key) :
    Means ("[" ++ key ++ "]") (.header false [] key) where
  starts := ⟨'[', key.toList ++ [']'], by simp, .inr rfl⟩
  read := by
    intro rest _
    have read : Grammar.key (key.toList ++ ']' :: rest) = some (([], key), ']' :: rest) :=
      bare.key_eq rfl rfl (by decide)
    obtain ⟨c, others, spelled, isBare⟩ := bare.exists_cons
    have single : c ≠ '[' := by
      rintro rfl
      cases isBare
    have opened : line ('[' :: (key.toList ++ ']' :: rest)) =
        some (.header false [] key, rest) := by
      rw [spelled] at read ⊢
      unfold line
      split
      · next same => exact absurd (List.cons.inj (List.cons.inj same).2).1 single
      · next same =>
        obtain ⟨_, rfl⟩ := List.cons.inj same
        rw [read]
        rfl
      · next _ other => exact absurd rfl (other _)
    simpa using opened

end Grammar

/-! ## Documents of two levels -/

namespace Members

variable {Value : Type}

theorem put_fresh {key : String} {members : Members Value} (fresh : key ∉ members.keys)
    (value : Value) : members.put key value = members ++ [(key, value)] := by
  induction members with
  | nil => rfl
  | cons member rest ih =>
      obtain ⟨other, held⟩ := member
      obtain ⟨different, later⟩ : key ≠ other ∧ key ∉ keys rest := by
        simpa [keys, not_or] using fresh
      rw [put, if_neg different.symm, ih later]
      rfl

theorem keys_append (front back : Members Value) :
    keys (front ++ back) = front.keys ++ back.keys :=
  List.map_append

end Members

namespace Section

/-- The assignment of a value to a key at the top of its table. -/
def plain (member : String × Value) : Assignment := ⟨[], member.1, member.2⟩

def titled (part : String × Table) : Block := ⟨false, [], part.1, part.2.map plain⟩

def assigned (table : Table) : Members Item := table.map fun member => (member.1, .value member.2)

theorem keys_assigned (table : Table) : (assigned table).keys = table.keys := by
  simp [assigned, Members.keys, Function.comp_def]

theorem finish_assigned (table : Table) : finish (assigned table) = table := by
  rw [finish_eq_map, assigned, List.map_map]
  exact List.map_id table

theorem finish_append (front back : Members Item) :
    finish (front ++ back) = finish front ++ finish back := by
  simp [finish_eq_map]

theorem assign_plain (member : String × Value) (members : Members Item) :
    assign (plain member) members = members.add? member.1 (.value member.2) := by
  simp [assign, update, plain]

/-- Plain assignments fill up a table as long as no key comes twice. -/
theorem assignAll_plain (table : Table) {members : Members Item} (unique : members.keys.Nodup) :
    assignAll (table.map plain) members =
      if (members.keys ++ table.keys).Nodup then some (members ++ assigned table) else none := by
  induction table generalizing members with
  | nil =>
      have alone : (members.keys ++ Members.keys ([] : Table)).Nodup := by
        rwa [Members.keys, Members.keys, List.map_nil, List.append_nil]
      rw [if_pos alone]
      exact congrArg some (List.append_nil members).symm
  | cons member rest ih =>
      have step : assignAll ((member :: rest).map plain) members =
          members.add? member.1 (.value member.2) >>= assignAll (rest.map plain) := by
        rw [← assign_plain]
        rfl
      rw [step, Members.add?]
      cases found : members.get? member.1 with
      | some held =>
          have taken : member.1 ∈ members.keys := by
            by_contra fresh
            rw [Members.get?_eq_none_iff.mpr fresh] at found
            cases found
          have twice : ¬ (members.keys ++ Members.keys (member :: rest)).Nodup := by
            intro nodup
            exact (List.nodup_append.mp nodup).2.2 _ taken _ (.head _) rfl
          rw [if_neg twice]
          rfl
      | none =>
          have fresh := Members.get?_eq_none_iff.mp found
          have grown : (members ++ [(member.1, Item.value member.2)]).keys =
              members.keys ++ [member.1] := Members.keys_append _ _
          have still : (members ++ [(member.1, Item.value member.2)]).keys.Nodup := by
            rw [← Members.put_fresh fresh]
            exact Members.nodup_keys_put unique
          have later := ih still
          rw [grown, List.append_assoc, List.append_assoc] at later
          simp only [Members.put_fresh fresh]
          exact later

theorem assignAll_plain_nil (table : Table) :
    assignAll (table.map plain) [] =
      if table.keys.Nodup then some (assigned table) else none := by
  have empty : (Members.keys ([] : Members Item)).Nodup := List.nodup_nil
  exact assignAll_plain table empty

theorem addBlock_titled (part : String × Table) {document : Members Item}
    (fresh : part.1 ∉ document.keys) :
    addBlock (titled part) document =
      if part.2.keys.Nodup then
        some (document ++ [(part.1, .section .header (assigned part.2))])
      else none := by
  simp only [addBlock, update, titled, Members.get?_eq_none_iff.mpr fresh, assignAll_plain_nil]
  by_cases once : part.2.keys.Nodup
  · rw [if_pos once, if_pos once]
    exact congrArg some (Members.put_fresh fresh _)
  · rw [if_neg once, if_neg once]
    rfl

/-- Where each title is new and none of the tables has a key twice, the blocks stand in the document
as they come. -/
theorem addBlocks_titled (parts : List (String × Table)) {document : Members Item}
    (titles : (document.keys ++ parts.map Prod.fst).Nodup) :
    (parts.map titled).foldlM (fun document block => addBlock block document) document =
      if ∀ part ∈ parts, part.2.keys.Nodup then
        some (document ++ parts.map fun part => (part.1, .section .header (assigned part.2)))
      else none := by
  induction parts generalizing document with
  | nil => simp
  | cons part rest ih =>
      have fresh : part.1 ∉ document.keys := by
        intro taken
        exact (List.nodup_append.mp titles).2.2 _ taken _ (.head _) rfl
      rw [List.map_cons, List.foldlM_cons, addBlock_titled part fresh]
      by_cases once : part.2.keys.Nodup
      · have grown : (document ++ [(part.1, Item.section .header (assigned part.2))]).keys =
            document.keys ++ [part.1] := Members.keys_append _ _
        have still : ((document ++ [(part.1, Item.section .header (assigned part.2))]).keys ++
            rest.map Prod.fst).Nodup := by
          rw [grown, List.append_assoc]
          exact titles
        have remaining : (∀ other ∈ part :: rest, other.2.keys.Nodup) ↔
            ∀ other ∈ rest, other.2.keys.Nodup := by
          rw [List.forall_mem_cons, and_iff_right once]
        simp only [if_pos once, remaining, Option.bind_eq_bind, Option.bind_some, ih still,
          List.append_assoc, List.singleton_append, List.map_cons]
      · rw [if_neg once, if_neg fun all => once (all part (.head _))]
        rfl

/-- A document of plain assignments, at the top and under titles that all differ, is refused if one
of its tables has a key twice; else it holds what was assigned. -/
theorem assemble_plain (top : Table) (parts : List (String × Table))
    (titles : (top.keys ++ parts.map Prod.fst).Nodup) :
    assemble (top.map plain) (parts.map titled) =
      if ∀ part ∈ parts, part.2.keys.Nodup then
        some (top ++ parts.map fun part => (part.1, .table part.2))
      else none := by
  have topUnique : top.keys.Nodup := (List.nodup_append.mp titles).1
  have filled : assignAll (top.map plain) [] = some (assigned top) := by
    rw [assignAll_plain_nil, if_pos topUnique]
  rw [← keys_assigned] at titles
  simp only [assemble, filled, Option.bind_eq_bind, Option.bind_some, addBlocks_titled parts titles]
  by_cases once : ∀ part ∈ parts, part.2.keys.Nodup
  · rw [if_pos once, if_pos once, Option.bind_some, finish_append, finish_assigned, finish_eq_map,
      List.map_map]
    simp [Function.comp_def, finishItem, finish_assigned]
  · rw [if_neg once, if_neg once]
    rfl

end Section

namespace Grammar

/-- The lines of a document of plain assignments, at the top and under titles. -/
def plainLines (top : Table) (parts : List (String × Table)) : List Line :=
  top.map (fun member => .assignment (Section.plain member)) ++
    parts.flatMap fun part =>
      .header false [] part.1 :: part.2.map fun member => .assignment (Section.plain member)

theorem blocks_plain_append (table : Table) (rest : List Line) :
    blocks (table.map (fun member => .assignment (Section.plain member)) ++ rest) =
      (table.map Section.plain ++ (blocks rest).1, (blocks rest).2) := by
  induction table with
  | nil => rfl
  | cons member others ih => simp only [List.map_cons, List.cons_append, blocks, ih]

theorem blocks_plainLines (top : Table) (parts : List (String × Table)) :
    blocks (plainLines top parts) = (top.map Section.plain, parts.map Section.titled) := by
  induction parts generalizing top with
  | nil =>
      rw [plainLines, blocks_plain_append, List.flatMap_nil, blocks, List.append_nil]
      rfl
  | cons part rest ih =>
      have later := ih part.2
      simp only [plainLines] at later
      simp [plainLines, blocks_plain_append, blocks, later, Section.titled]

end Grammar

/-- A text of which the lines say a plain document is read as that document, unless one of its
tables has a key twice. -/
theorem parse_padded {top : Table} {parts : List (String × Table)} {texts lines : List String}
    (titles : (top.keys ++ parts.map Prod.fst).Nodup)
    (each : List.Forall₂ Grammar.Means texts (Grammar.plainLines top parts))
    (padded : Padded texts lines) :
    parse ("\n".intercalate lines) =
      if ∀ part ∈ parts, part.2.keys.Nodup then
        some (top ++ parts.map fun part => (part.1, .table part.2))
      else none := by
  have said : Grammar.lines (dropMark ("\n".intercalate lines).toList) =
      some (Grammar.plainLines top parts) := by
    have whole := Grammar.lines_padded each padded
    rwa [← Grammar.dropMark_padded each padded] at whole
  simp only [parse, said, Option.bind_eq_bind, Option.bind_some, Grammar.blocks_plainLines,
    Section.assemble_plain top parts titles]

end RevealGates.Toml
