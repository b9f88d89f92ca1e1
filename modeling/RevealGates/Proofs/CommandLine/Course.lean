import RevealGates.Proofs.CommandLine.AddedOptions
import RevealGates.Proofs.CommandLine.PathWords

/-!
The course of a level of a command line.

A level that is understood is one item after the other, an option with its value or a positional
word, up to a command, to two hyphens that stand alone or to the last word. Each item records one
argument. The relations say what the items are, and they are read off a run of the reader once.
-/

set_option autoImplicit false

namespace RevealGates.CommandLine

open ReportOption (bind_eq_ok)

/-! ## Items -/

namespace Given

/-- One more argument is recorded, and it is no path. -/
def Grows (given next : Given) : Prop :=
  ∃ argument, argument ≠ .config ∧
    (given.mention argument = .ok next ∨ ∃ value, given.accept argument value = .ok next)

end Given

/-- The words of one item, and what is recorded when it is read. -/
inductive Item (level : Level) (given next : Given) : List String → Prop where
  | path {path : String} {words : List String} :
      PathWords path words → (∀ word ∈ words.tail, Inert word) →
      given.accept .config path = .ok next → Item level given next words
  | other {words : List String} :
      level ≠ .top → (∀ word ∈ words, Inert word) → given.Grows next → Item level given next words

/-- The words of a level from the first to the last, and how the level is left. -/
inductive Course (level : Level) :
    Given → List String → Given → Option (CommandName × List String) → Prop where
  | ends {given : Given} : Course level given [] given none
  | separated {given final : Given} {rest : List String} :
      (level = .top → rest = []) → final = given ∨ given.Grows final →
      Course level given ("--" :: rest) final none
  | enters {given : Given} {name : CommandName} {rest : List String} :
      level = .top → Course level given (name.word :: rest) given (some (name, rest))
  | item {given next final : Given} {words rest : List String}
      {command : Option (CommandName × List String)} :
      Item level given next words → Course level next rest final command →
      Course level given (words ++ rest) final command

/-! ## Words one by one -/

/-- The words of a level and the end of it. -/
def readLevel (environment : Option String) (level : Level) (words : List String)
    (progress : Progress) : Except Stop (Given × Option (CommandName × List String)) :=
  readWords level words progress >>= fun reading =>
    (finishLevel environment reading.progress).mapError .usage >>= fun given =>
      .ok (given, reading.command)

/-- How a word that begins an option is read. -/
inductive OptionOf (level : Level) : Word → (Progress → Except Stop Progress) → Prop where
  | long {name : String} {value : Option String} :
      OptionOf level (.long name value) (readLong level name value)
  | short {letter : Char} {letters : List Char} :
      OptionOf level (.short letter letters) (readShort level letter letters)

theorem OptionOf.step {level : Level} {kind : Word} {step : Progress → Except Stop Progress}
    (option : OptionOf level kind step) : OptionStep step := by
  cases option with
  | long => exact readLong_step level _ _
  | short => exact readShort_step level _ _

/-- No option is read while a value is missing or wrong. -/
theorem OptionStep.settle_of_ok {step : Progress → Except Stop Progress} (steps : OptionStep step)
    {progress next : Progress} (taken : step progress = .ok next) :
    ∃ settled, progress.settle = .ok settled ∧ step settled = .ok next := by
  have settles : ∃ settled, progress.settle = .ok settled := by
    induction steps generalizing next with
    | refuse stop => cases taken
    | await argument | attach argument value =>
        obtain ⟨settled, run, -⟩ := bind_eq_ok (mapError_eq_ok_iff.mp taken)
        exact ⟨settled, run⟩
    | raise level detail flag =>
        obtain ⟨settled, run, -⟩ := bind_eq_ok taken
        exact ⟨settled, mapError_eq_ok_iff.mp run⟩
    | andThen _ _ near _ =>
        obtain ⟨_, first, -⟩ := bind_eq_ok taken
        exact near first
  obtain ⟨settled, run⟩ := settles
  exact ⟨settled, run, steps.settlesFirst progress settled run ▸ taken⟩

theorem held_of_readPositional {level : Level} {separated : Bool} {word : String}
    {progress next : Progress} (read : readPositional level separated word progress = .ok next) :
    ∃ argument settled, level.positional? = some argument ∧ progress.placed = false ∧
      progress.settle = .ok settled ∧
      next = { settled with pending := .held argument word, placed := true } := by
  obtain ⟨argument, positional, free⟩ := readPositional_eq_ok read
  rw [readPositional_of_free positional separated word free] at read
  obtain ⟨settled, run, held⟩ := bind_eq_ok read
  cases held
  exact ⟨argument, settled, positional, free, run, rfl⟩

/-- What the first word of a level does if all words of the level are understood. -/
inductive FirstWord (environment : Option String) (level : Level) (word : String)
    (rest : List String) (progress : Progress) (final : Given) :
    Option (CommandName × List String) → Prop where
  | separates {last : Progress} : word = "--" → readPositionals level rest progress = .ok last →
      finishLevel environment last = .ok final →
      FirstWord environment level word rest progress final none
  | option {step : Progress → Except Stop Progress} {next : Progress}
      {command : Option (CommandName × List String)} :
      OptionOf level (Word.ofText word) step → step progress = .ok next →
      readLevel environment level rest next = .ok (final, command) →
      FirstWord environment level word rest progress final command
  | value {argument : Argument} {command : Option (CommandName × List String)} :
      Word.ofText word = .plain word → progress.pending = .awaiting argument →
      readLevel environment level rest { progress with pending := .held argument word } =
        .ok (final, command) →
      FirstWord environment level word rest progress final command
  | enters {name : CommandName} : level = .top → CommandName.ofWord? word = some name →
      finishLevel environment progress = .ok final →
      FirstWord environment level word rest progress final (some (name, rest))
  | positional {next : Progress} {command : Option (CommandName × List String)} :
      Word.ofText word = .plain word → readPositional level false word progress = .ok next →
      readLevel environment level rest next = .ok (final, command) →
      FirstWord environment level word rest progress final command

section Levels

variable {environment : Option String} {level : Level} {progress : Progress} {given final : Given}
  {word : String} {rest : List String} {command : Option (CommandName × List String)}

theorem readLevel_eq_ok_iff {words : List String} :
    readLevel environment level words progress = .ok (final, command) ↔
      ∃ last, readWords level words progress = .ok ⟨last, command⟩ ∧
        finishLevel environment last = .ok final := by
  constructor
  · intro read
    obtain ⟨⟨last, left⟩, reads, finishes⟩ := bind_eq_ok read
    obtain ⟨_, finished, kept⟩ := bind_eq_ok finishes
    cases kept
    exact ⟨last, reads, mapError_eq_ok_iff.mp finished⟩
  · rintro ⟨last, reads, finished⟩
    rw [readLevel, reads]
    simp only [bind, Except.bind, finished, Except.mapError]

theorem readLevel_cons
    (read : readLevel environment level (word :: rest) progress = .ok (final, command)) :
    FirstWord environment level word rest progress final command := by
  obtain ⟨last, reads, finished⟩ := readLevel_eq_ok_iff.mp read
  have later {next : Progress} (onwards : readWords level rest next = .ok ⟨last, command⟩) :
      readLevel environment level rest next = .ok (final, command) :=
    readLevel_eq_ok_iff.mpr ⟨last, onwards, finished⟩
  rw [readWords] at reads
  cases kind : Word.ofText word with
  | separator =>
      simp only [kind] at reads
      obtain ⟨_, placed, ended⟩ := bind_eq_ok reads
      cases ended
      exact .separates (Word.eq_of_ofText_separator kind) (mapError_eq_ok_iff.mp placed) finished
  | long name value =>
      simp only [kind] at reads
      obtain ⟨next, taken, onwards⟩ := bind_eq_ok reads
      exact .option (kind ▸ .long) taken (later onwards)
  | short letter letters =>
      simp only [kind] at reads
      obtain ⟨next, taken, onwards⟩ := bind_eq_ok reads
      exact .option (kind ▸ .short) taken (later onwards)
  | plain text =>
      obtain rfl := Word.eq_of_ofText_plain kind
      cases pending : progress.pending with
      | awaiting argument =>
          simp only [kind, pending] at reads
          exact .value kind pending (later reads)
      | nothing | held =>
          simp only [kind, pending] at reads
          split at reads
          · next name known =>
            cases reads
            exact .enters rfl known finished
          · split at reads
            · cases reads
            · obtain ⟨next, taken, onwards⟩ := bind_eq_ok reads
              exact .positional kind (mapError_eq_ok_iff.mp taken) (later onwards)

/-- The level cannot end without a value that is awaited, and only a plain word is one. -/
theorem readLevel_awaiting {argument : Argument} {placed : Bool} {words : List String}
    (read : readLevel environment level words ⟨given, .awaiting argument, placed⟩ =
      .ok (final, command)) :
    ∃ value rest, words = value :: rest ∧ Word.ofText value = .plain value ∧
      readLevel environment level rest ⟨given, .held argument value, placed⟩ =
        .ok (final, command) := by
  have unsettled {settled : Progress} :
      Progress.settle ⟨given, .awaiting argument, placed⟩ ≠ .ok settled := nofun
  have unfinished : finishLevel environment ⟨given, .awaiting argument, placed⟩ ≠ .ok final := nofun
  cases words with
  | nil =>
      obtain ⟨_, reads, finished⟩ := readLevel_eq_ok_iff.mp read
      cases reads
      exact absurd finished unfinished
  | cons word rest =>
      cases readLevel_cons read with
      | separates _ placed finished =>
          cases rest with
          | nil =>
              cases placed
              exact absurd finished unfinished
          | cons =>
              obtain ⟨_, first, -⟩ := bind_eq_ok placed
              obtain ⟨_, _, -, -, run, -⟩ := held_of_readPositional first
              exact absurd run unsettled
      | option option taken =>
          obtain ⟨_, run, -⟩ := option.step.settle_of_ok taken
          exact absurd run unsettled
      | value kind pending onwards =>
          cases pending
          exact ⟨word, rest, rfl, kind, onwards⟩
      | enters _ _ finished => exact absurd finished unfinished
      | positional _ first =>
          obtain ⟨_, _, -, -, run, -⟩ := held_of_readPositional first
          exact absurd run unsettled

end Levels

/-! ## Options where nothing is pending -/

/-- The word begins an option of the level for the argument. -/
structure Begins (level : Level) (kind : Word) (argument : Argument) : Prop where
  inside : kind ≠ .separator
  allowed : argument ∈ level.options
  path : argument = .config ↔ kind.BeginsPath

theorem Begins.of_long? {level : Level} {name : String} {argument : Argument}
    (known : level.long? name = some argument) (value : Option String) :
    Begins level (.long name value) argument where
  inside := nofun
  allowed := List.mem_of_find?_eq_some known
  path := by
    have named : argument.long? = some name := by simpa using List.find?_some known
    constructor
    · rintro rfl
      exact (Option.some.inj named).symm
    · rintro rfl
      cases argument <;> first | rfl | exact absurd named (by decide)

theorem Begins.of_short? {level : Level} {letter : Char} {argument : Argument}
    (known : level.short? letter = some argument) (letters : List Char) :
    Begins level (.short letter letters) argument where
  inside := nofun
  allowed := List.mem_of_find?_eq_some known
  path := by
    have named : argument.short? = some letter := by simpa using List.find?_some known
    constructor
    · rintro rfl
      exact (Option.some.inj named).symm
    · rintro rfl
      cases argument <;> first | rfl | exact absurd named (by decide)

/-- What an option does where nothing is pending: its value is taken from its word, or is the next
word, or there is none. -/
inductive Takes (level : Level) (kind : Word) (given : Given) (placed : Bool) :
    Progress → Prop where
  | attached {argument : Argument} {value : String} {next : Given} :
      Begins level kind argument → argument.takesValue = true → kind.value? = some value →
      given.accept argument value = .ok next →
      Takes level kind given placed ⟨next, .nothing, placed⟩
  | apart {argument : Argument} :
      Begins level kind argument → argument.takesValue = true → kind.value? = none →
      Takes level kind given placed ⟨given, .awaiting argument, placed⟩
  | flag {argument : Argument} {next : Given} :
      Begins level kind argument → argument.takesValue = false →
      argument ≠ .help ∧ argument ≠ .version → given.mention argument = .ok next →
      Takes level kind given placed ⟨next, .nothing, placed⟩

namespace Takes

variable {level : Level} {kind : Word} {argument : Argument} {given : Given} {placed : Bool}
  {next : Progress}

theorem of_attach (begins : Begins level kind argument) (valued : argument.takesValue = true)
    {value : String} (supplied : kind.value? = some value)
    (taken : (Progress.attach ⟨given, .nothing, placed⟩ argument value).mapError .usage =
      (.ok next : Except Stop Progress)) : Takes level kind given placed next := by
  obtain ⟨_, run, rest⟩ := bind_eq_ok (mapError_eq_ok_iff.mp taken)
  cases run
  obtain ⟨_, accepted, kept⟩ := bind_eq_ok rest
  cases kept
  exact .attached begins valued supplied accepted

theorem of_raise (begins : Begins level kind argument) (bare : argument.takesValue = false)
    {detail : Detail} (taken : raise level detail argument ⟨given, .nothing, placed⟩ = .ok next) :
    Takes level kind given placed next := by
  obtain ⟨_, run, rest⟩ := bind_eq_ok taken
  cases run
  split at rest
  · cases rest
  · cases rest
  · next noHelp noVersion =>
    obtain ⟨_, mentioned, kept⟩ := bind_eq_ok rest
    cases kept
    exact .flag begins bare ⟨noHelp, noVersion⟩ (mapError_eq_ok_iff.mp mentioned)

theorem of_readLong {name : String} {value : Option String}
    (taken : readLong level name value ⟨given, .nothing, placed⟩ = .ok next) :
    Takes level (.long name value) given placed next := by
  unfold readLong at taken
  split at taken
  · cases taken
  · next argument known =>
    have begins := Begins.of_long? known value
    split at taken
    · next valued => exact .of_attach begins valued rfl taken
    · next valued =>
      cases taken
      exact .apart begins valued rfl
    · cases taken
    · next bare => exact .of_raise begins bare taken

/-- The letters without a value are those of help and version, and both end the reading. -/
theorem not_raise_of_short? {letter : Char} (named : argument.short? = some letter)
    (bare : argument.takesValue = false) {detail : Detail} :
    raise level detail argument ⟨given, .nothing, placed⟩ ≠ .ok next := by
  cases argument with
  | help | version => exact nofun
  | config | output => cases bare
  | inputs | shell | reveal | revealAll | mode | expect | color | noColor | force => cases named

theorem of_readShort {letter : Char} {letters : List Char}
    (taken : readShort level letter letters ⟨given, .nothing, placed⟩ = .ok next) :
    Takes level (.short letter letters) given placed next := by
  cases known : level.short? letter with
  | none =>
      rw [readShort, known] at taken
      cases taken
  | some argument =>
      have begins := Begins.of_short? known letters
      cases valued : argument.takesValue with
      | true =>
          cases letters with
          | nil =>
              simp only [readShort, known, valued] at taken
              cases taken
              exact .apart begins valued rfl
          | cons first others =>
              rw [readShort_attached known valued] at taken
              exact .of_attach begins valued rfl taken
      | false =>
          have named : argument.short? = some letter := by simpa using List.find?_some known
          cases letters with
          | nil =>
              simp only [readShort, known, valued] at taken
              exact absurd taken (not_raise_of_short? named valued)
          | cons second others =>
              rw [readShort] at taken
              simp only [known, valued] at taken
              obtain ⟨_, raised, -⟩ := bind_eq_ok taken
              exact absurd raised (not_raise_of_short? named valued)

theorem of_option {step : Progress → Except Stop Progress} (option : OptionOf level kind step)
    (taken : step ⟨given, .nothing, placed⟩ = .ok next) : Takes level kind given placed next := by
  cases option with
  | long => exact of_readLong taken
  | short => exact of_readShort taken

end Takes

/-! ## A level as a whole -/

section Courses

variable {environment : Option String} {level : Level} {progress : Progress} {given final : Given}
  {words rest : List String} {command : Option (CommandName × List String)}

theorem finishLevel_eq_ok (finished : finishLevel environment progress = .ok final) :
    ∃ placed, progress.settle = .ok ⟨final, .nothing, placed⟩ ∧
      ¬ (final.config = none ∧ environment = some "") ∧ final.checkConflict = .ok () := by
  obtain ⟨⟨settled, pending, placed⟩, run, rest⟩ := bind_eq_ok finished
  obtain rfl : pending = .nothing := settle_pending run
  split at rest
  · cases rest
  · next usable =>
    obtain ⟨_, checked, kept⟩ := bind_eq_ok rest
    cases kept
    exact ⟨placed, run, usable, checked⟩

theorem settle_held_eq_ok {argument : Argument} {value : String} {placed : Bool}
    {settled : Progress}
    (run : Progress.settle ⟨given, .held argument value, placed⟩ = .ok settled) :
    ∃ next, given.accept argument value = .ok next ∧ settled = ⟨next, .nothing, placed⟩ := by
  obtain ⟨next, accepted, kept⟩ := bind_eq_ok run
  cases kept
  exact ⟨next, accepted, rfl⟩

theorem positional_ne {argument : Argument} (positional : level.positional? = some argument) :
    argument ≠ .config ∧ level ≠ .top := by
  rcases level with _ | (_ | _ | _ | _) <;> cases positional <;> decide

/-- Where all words are positional there is one at most, and none in front of a command. -/
theorem readPositionals_cases {last : Progress}
    (read : readPositionals level rest progress = .ok last)
    (finished : finishLevel environment last = .ok final) :
    ∃ given placed, progress.settle = .ok ⟨given, .nothing, placed⟩ ∧
      (level = .top → rest = []) ∧ (final = given ∨ given.Grows final) := by
  obtain ⟨placed, run, -⟩ := finishLevel_eq_ok finished
  obtain _ | ⟨word, rest⟩ := rest
  · cases read
    exact ⟨final, placed, run, fun _ => rfl, .inl rfl⟩
  · obtain ⟨next, first, others⟩ := bind_eq_ok read
    obtain ⟨argument, ⟨given, pending, _⟩, positional, -, start, rfl⟩ :=
      held_of_readPositional first
    obtain rfl : pending = .nothing := settle_pending start
    obtain ⟨other, notTop⟩ := positional_ne positional
    refine ⟨given, _, start, fun top => absurd top notTop, .inr ⟨argument, other, .inr ⟨word, ?_⟩⟩⟩
    cases rest with
    | nil =>
        cases others
        obtain ⟨_, accepted, kept⟩ := settle_held_eq_ok run
        cases kept
        exact accepted
    | cons second more =>
        obtain ⟨_, again, -⟩ := bind_eq_ok others
        obtain ⟨_, _, -, free, -⟩ := held_of_readPositional again
        cases free

theorem eq_config_of_top {argument : Argument} (allowed : argument ∈ level.options)
    (top : level = .top) (apart : argument ≠ .help ∧ argument ≠ .version) :
    argument = .config := by
  subst top
  simpa [Level.options, apart.1, apart.2] using allowed

theorem Begins.inert {word : String} {kind : Word} {argument : Argument}
    (begins : Begins level kind argument) (read : Word.ofText word = kind)
    (other : argument ≠ .config) : Inert word := by
  rw [Inert, read]
  exact ⟨begins.inside, fun path => other (begins.path.mpr path)⟩

theorem Item.of_value {word value : String} {more : List String} {kind : Word}
    {argument : Argument} {next : Given} (read : Word.ofText word = kind)
    (begins : Begins level kind argument) (valued : argument.takesValue = true)
    (supplies : kind.Supplies value more) (inert : ∀ word ∈ more, Inert word)
    (accepted : given.accept argument value = .ok next) : Item level given next (word :: more) := by
  by_cases other : argument = .config
  · subst other
    exact .path (.of_supplies read (begins.path.mp rfl) supplies) inert accepted
  · have notTop : level ≠ .top := by
      intro top
      refine other (eq_config_of_top begins.allowed top ⟨?_, ?_⟩) <;> rintro rfl <;> cases valued
    exact .other notTop (List.forall_mem_cons.mpr ⟨begins.inert read other, inert⟩)
      ⟨argument, other, .inr ⟨value, accepted⟩⟩

theorem Item.of_flag {word : String} {kind : Word} {argument : Argument} {next : Given}
    (read : Word.ofText word = kind) (begins : Begins level kind argument)
    (bare : argument.takesValue = false) (apart : argument ≠ .help ∧ argument ≠ .version)
    (mentioned : given.mention argument = .ok next) : Item level given next [word] := by
  have other : argument ≠ .config := by
    rintro rfl
    cases bare
  exact .other (fun top => other (eq_config_of_top begins.allowed top apart))
    (List.forall_mem_singleton.mpr (begins.inert read other)) ⟨argument, other, .inl mentioned⟩

/-- The words of an option are an item, up to a value that is still to be settled. -/
theorem Takes.item {word : String} {placed : Bool} {next : Progress}
    (takes : Takes level (Word.ofText word) given placed next)
    (read : readLevel environment level rest next = .ok (final, command)) :
    ∃ more others later, rest = more ++ others ∧
      readLevel environment level others later = .ok (final, command) ∧
      (∀ argument, later.pending ≠ .awaiting argument) ∧
      ∀ settled, later.settle = .ok settled → Item level given settled.given (word :: more) := by
  cases takes with
  | attached begins valued supplied accepted =>
      refine ⟨[], rest, _, rfl, read, fun _ => nofun, ?_⟩
      rintro _ ⟨⟩
      exact .of_value rfl begins valued (.inl ⟨supplied, rfl⟩) nofun accepted
  | @apart argument begins valued unsupplied =>
      obtain ⟨value, others, rfl, plain, later⟩ := readLevel_awaiting read
      refine ⟨[value], others, _, rfl, later, fun _ => nofun, fun settled run => ?_⟩
      obtain ⟨_, accepted, rfl⟩ := settle_held_eq_ok run
      exact .of_value rfl begins valued (.inr ⟨unsupplied, rfl⟩)
        (List.forall_mem_singleton.mpr (.of_plain plain)) accepted
  | flag begins bare apart mentioned =>
      refine ⟨[], rest, _, rfl, read, fun _ => nofun, ?_⟩
      rintro _ ⟨⟩
      exact .of_flag rfl begins bare apart mentioned

theorem Item.of_positional {word : String} {placed : Bool} {next : Progress}
    (kind : Word.ofText word = .plain word)
    (read : readPositional level false word ⟨given, .nothing, placed⟩ = .ok next)
    {settled : Progress} (run : next.settle = .ok settled) :
    Item level given settled.given [word] := by
  obtain ⟨argument, _, positional, -, start, rfl⟩ := held_of_readPositional read
  cases start
  obtain ⟨_, accepted, rfl⟩ := settle_held_eq_ok run
  obtain ⟨other, notTop⟩ := positional_ne positional
  exact .other notTop (List.forall_mem_singleton.mpr (.of_plain kind))
    ⟨argument, other, .inr ⟨word, accepted⟩⟩

/-- What is pending in front of the words is settled, and then they are items. An item may take two
words, so what is left of them gets shorter and is not always the rest of the list. -/
theorem course_of_readLevel {words : List String} {progress : Progress}
    (read : readLevel environment level words progress = .ok (final, command))
    (ready : ∀ argument, progress.pending ≠ .awaiting argument) :
    ∃ given placed, progress.settle = .ok ⟨given, .nothing, placed⟩ ∧
      Course level given words final command := by
  match words with
  | [] =>
      obtain ⟨_, reads, finished⟩ := readLevel_eq_ok_iff.mp read
      cases reads
      obtain ⟨placed, run, -⟩ := finishLevel_eq_ok finished
      exact ⟨final, placed, run, .ends⟩
  | word :: rest =>
      cases readLevel_cons read with
      | separates separates positionals finished =>
          subst separates
          obtain ⟨given, placed, run, top, grows⟩ := readPositionals_cases positionals finished
          exact ⟨given, placed, run, .separated top grows⟩
      | value _ pending => exact absurd pending (ready _)
      | enters top known finished =>
          obtain ⟨placed, run, -⟩ := finishLevel_eq_ok finished
          obtain rfl : _ = word := by simpa using List.find?_some known
          exact ⟨final, placed, run, .enters top⟩
      | positional kind first onwards =>
          obtain ⟨_, ⟨given, pending, placed⟩, _, -, run, rfl⟩ := held_of_readPositional first
          obtain rfl : pending = .nothing := settle_pending run
          have again :=
            (readPositional_settlesFirst level false word progress _ run).symm.trans first
          obtain ⟨_, _, settles, course⟩ := course_of_readLevel onwards fun _ => nofun
          exact ⟨given, placed, run, .item (.of_positional kind again settles) course⟩
      | option option taken onwards =>
          obtain ⟨⟨given, pending, placed⟩, run, again⟩ := option.step.settle_of_ok taken
          obtain rfl : pending = .nothing := settle_pending run
          obtain ⟨more, others, later, whole, read, settling, item⟩ :=
            (Takes.of_option option again).item onwards
          have shorter : others.length < (word :: rest).length := by
            simp only [whole, List.length_cons, List.length_append]
            omega
          obtain ⟨_, _, settles, course⟩ := course_of_readLevel read settling
          subst whole
          exact ⟨given, placed, run, .item (item _ settles) course⟩
termination_by words.length

end Courses

end RevealGates.CommandLine
