import RevealGates.Proofs.CommandLine.Spelling

/-!
Options added to a command line.

A command line that says nothing about some arguments still reads the same when options that do are
put somewhere between its words. Everything else that is said is recorded beside them as it was. No
order or spelling of the other words is assumed, only that the words in front of the place are a
command line of their own.
-/

set_option autoImplicit false

namespace RevealGates.CommandLine

open ReportOption (bind_eq_ok)

/-! ## Some of the arguments -/

namespace Given

/-- Only what is said about the wanted arguments. -/
def keep (wanted : Argument → Bool) (given : Given) : Given where
  order := given.order.filter wanted
  config := if wanted .config then given.config else none
  inputs := if wanted .inputs then given.inputs else none
  reveal := if wanted .reveal then given.reveal else none
  mode := if wanted .mode then given.mode else none
  output := if wanted .output then given.output else none
  expect := if wanted .expect then given.expect else none
  shell := if wanted .shell then given.shell else none

section Accepted

variable {given next : Given} {argument : Argument} {value : String}

theorem eq_of_mention (mentioned : given.mention argument = .ok next) :
    given.has argument = false ∧ next = { given with order := given.order ++ [argument] } := by
  unfold mention at mentioned
  split at mentioned
  · cases mentioned
  · next fresh =>
    cases mentioned
    exact ⟨Bool.eq_false_iff.mpr fresh, rfl⟩

theorem eq_of_store_config (stored : given.store .config value = .ok next) :
    value ≠ "" ∧ next = { given with config := some value } := by
  simp only [store] at stored
  split at stored
  · cases stored
  · next filled =>
    cases stored
    exact ⟨filled, rfl⟩

end Accepted

section Keeping

variable {wanted : Argument → Bool} {given next : Given} {argument : Argument} {value : String}

theorem keep_keep_not : (given.keep fun argument => !wanted argument).keep wanted = {} := by
  simp +contextual [keep]

theorem has_keep (kept : wanted argument = true) :
    (given.keep wanted).has argument = given.has argument := by
  simp [has, keep, kept]

theorem mention_keep (kept : wanted argument = true) :
    (given.keep wanted).mention argument = (given.mention argument).map (keep wanted) := by
  unfold mention
  rw [has_keep kept]
  split
  · rfl
  · simp [Except.map, keep, kept]

theorem keep_of_mention (left : wanted argument = false)
    (mentioned : given.mention argument = .ok next) : next.keep wanted = given.keep wanted := by
  obtain ⟨-, rfl⟩ := eq_of_mention mentioned
  simp [keep, left]

theorem store_keep (kept : wanted argument = true) (value : String) :
    (given.keep wanted).store argument value = (given.store argument value).map (keep wanted) := by
  -- A value is read before it is stored, and reading it does not look at the other arguments.
  have stored {Result : Type} (read : Except UsageFault Result) (put other : Result → Given)
      (same : ∀ result, put result = (other result).keep wanted) :
      (read >>= fun result => .ok (put result)) =
        (read >>= fun result => .ok (other result)).map (keep wanted) := by
    cases read with
    | error fault => rfl
    | ok result => exact congrArg Except.ok (same result)
  cases argument with
  | config =>
      simp only [store]
      split
      · rfl
      · simp [Except.map, keep, kept]
  | inputs | shell | reveal | mode | output | expect => exact stored _ _ _ (by simp [keep, kept])
  | revealAll | color | noColor | force | help | version => rfl

theorem keep_of_store (left : wanted argument = false)
    (stored : given.store argument value = .ok next) : next.keep wanted = given.keep wanted := by
  cases argument with
  | config =>
      obtain ⟨-, rfl⟩ := eq_of_store_config stored
      simp [keep, left]
  | inputs | shell | reveal | mode | output | expect =>
      obtain ⟨_, _, kept⟩ := bind_eq_ok stored
      cases kept
      simp [keep, left]
  | revealAll | color | noColor | force | help | version =>
      cases stored
      rfl

theorem accept_keep (kept : wanted argument = true) (value : String) :
    (given.keep wanted).accept argument value =
      (given.accept argument value).map (keep wanted) := by
  rw [accept, accept, mention_keep kept]
  cases given.mention argument with
  | error fault => rfl
  | ok mentioned => exact store_keep kept value

theorem keep_of_accept (left : wanted argument = false)
    (accepted : given.accept argument value = .ok next) :
    next.keep wanted = given.keep wanted := by
  obtain ⟨_, noted, stored⟩ := bind_eq_ok accepted
  exact (keep_of_store left stored).trans (keep_of_mention left noted)

theorem checkConflict_keep (reveal : wanted .reveal = true) (revealAll : wanted .revealAll = true) :
    (given.keep wanted).checkConflict = given.checkConflict := by
  have same : (given.order.filter wanted).filter
        (fun argument => argument = .reveal ∨ argument = .revealAll) =
      given.order.filter fun argument => argument = .reveal ∨ argument = .revealAll := by
    rw [List.filter_filter]
    refine List.filter_congr fun argument _ => ?_
    cases argument <;> simp [reveal, revealAll]
  simp only [checkConflict, keep, same]

end Keeping

/-! ## Arguments that are added -/

/-- Nothing is said about these arguments. -/
def Bare (adds : Argument → Bool) (given : Given) : Prop :=
  ∀ argument, adds argument = true → given.said? argument = none

/-- The other arguments are these ones, and the extra ones besides. -/
structure Joins (adds : Argument → Bool) (given extra other : Given) : Prop where
  rest : (other.keep fun argument => !adds argument) = given
  added : other.keep adds = extra

/-- What can be added to a line that says nothing about it: settings of a report other than a path.
The two ways to set the gates exclude each other, so they are added together or not at all. -/
structure Addable (adds : Argument → Bool) : Prop where
  setting : ∀ argument, adds argument = true → ∃ setting : Setting, setting.argument = argument
  config : adds .config = false
  gates : adds .reveal = adds .revealAll

variable {adds : Argument → Bool} {extra given other next : Given} {argument : Argument}
  {value : String}

theorem said?_of_mention (mentioned : given.mention argument = .ok next) {asked : Argument}
    (different : asked ≠ argument) : next.said? asked = given.said? asked := by
  obtain ⟨-, rfl⟩ := eq_of_mention mentioned
  cases asked <;> simp [said?, has, different]

theorem said?_of_store (stored : given.store argument value = .ok next) {asked : Argument}
    (different : asked ≠ argument) : next.said? asked = given.said? asked := by
  cases argument with
  | config =>
      obtain ⟨-, rfl⟩ := eq_of_store_config stored
      cases asked <;> first | rfl | exact absurd rfl different
  | inputs | shell | reveal | mode | output | expect =>
      obtain ⟨_, _, kept⟩ := bind_eq_ok stored
      cases kept
      cases asked <;> first | rfl | exact absurd rfl different
  | revealAll | color | noColor | force | help | version =>
      cases stored
      rfl

theorem said?_mentioned {setting : Setting} (flag : setting.argument.takesValue = false)
    (mentioned : given.mention setting.argument = .ok next) :
    next.said? setting.argument ≠ none := by
  obtain ⟨-, rfl⟩ := eq_of_mention mentioned
  cases setting with
  | revealAll | color | noColor => simp [said?, has, Setting.argument]
  | config | inputs | reveal | mode | output | expect => cases flag

theorem said?_accepted {setting : Setting}
    (accepted : given.accept setting.argument value = .ok next) :
    next.said? setting.argument ≠ none := by
  obtain ⟨mentioned, noted, stored⟩ := bind_eq_ok accepted
  cases setting with
  | config =>
      obtain ⟨-, rfl⟩ := eq_of_store_config stored
      exact Option.some_ne_none _
  | inputs | reveal | mode | output | expect =>
      obtain ⟨_, _, kept⟩ := bind_eq_ok stored
      cases kept
      exact Option.some_ne_none _
  | revealAll | color | noColor =>
      cases stored
      exact said?_mentioned rfl noted

theorem ne_of_apart {asked : Argument} (apart : adds argument = false)
    (added : adds asked = true) : asked ≠ argument := by
  rintro rfl
  cases apart.symm.trans added

theorem Bare.of_mention (addable : Addable adds) (flag : argument.takesValue = false)
    (mentioned : given.mention argument = .ok next) (bare : next.Bare adds) :
    given.Bare adds ∧ adds argument = false := by
  have apart : adds argument = false := by
    refine Bool.eq_false_iff.mpr fun added => ?_
    obtain ⟨setting, rfl⟩ := addable.setting argument added
    exact said?_mentioned flag mentioned (bare _ added)
  refine ⟨fun asked added => ?_, apart⟩
  rw [← said?_of_mention mentioned (ne_of_apart apart added)]
  exact bare asked added

theorem Bare.of_accept (addable : Addable adds) (accepted : given.accept argument value = .ok next)
    (bare : next.Bare adds) : given.Bare adds ∧ adds argument = false := by
  have apart : adds argument = false := by
    refine Bool.eq_false_iff.mpr fun added => ?_
    obtain ⟨setting, rfl⟩ := addable.setting argument added
    exact said?_accepted accepted (bare _ added)
  refine ⟨fun asked added => ?_, apart⟩
  have different := ne_of_apart apart added
  obtain ⟨_, noted, stored⟩ := bind_eq_ok accepted
  rw [← said?_of_mention noted different, ← said?_of_store stored different]
  exact bare asked added

theorem Joins.config (joins : given.Joins adds extra other) (addable : Addable adds) :
    other.config = given.config := by
  obtain ⟨rfl, -⟩ := joins
  simp [keep, addable.config]

theorem Joins.checkConflict (joins : given.Joins adds extra other) (addable : Addable adds)
    (consistent : extra.checkConflict = .ok ()) (checked : given.checkConflict = .ok ()) :
    other.checkConflict = .ok () := by
  obtain ⟨rfl, rfl⟩ := joins
  cases gates : adds .reveal with
  | true => rwa [checkConflict_keep gates (addable.gates ▸ gates)] at consistent
  | false =>
      rwa [checkConflict_keep (by simp [gates]) (by simp [← addable.gates, gates])] at checked

theorem Joins.mention (joins : given.Joins adds extra other) (apart : adds argument = false)
    (mentioned : given.mention argument = .ok next) :
    ∃ later, other.mention argument = .ok later ∧ next.Joins adds extra later := by
  obtain ⟨rfl, rfl⟩ := joins
  rw [mention_keep (by simp [apart]), map_eq_ok_iff] at mentioned
  obtain ⟨later, run, rest⟩ := mentioned
  exact ⟨later, run, rest, keep_of_mention apart run⟩

theorem Joins.accept (joins : given.Joins adds extra other) (apart : adds argument = false)
    (accepted : given.accept argument value = .ok next) :
    ∃ later, other.accept argument value = .ok later ∧ next.Joins adds extra later := by
  obtain ⟨rfl, rfl⟩ := joins
  rw [accept_keep (by simp [apart]), map_eq_ok_iff] at accepted
  obtain ⟨later, run, rest⟩ := accepted
  exact ⟨later, run, rest, keep_of_accept apart run⟩

end Given

/-! ## Steps beside what is added -/

/-- What is pending says nothing about these arguments. -/
def Pending.Bare (adds : Argument → Bool) : Pending → Prop
  | .nothing => True
  | .awaiting argument | .held argument _ => adds argument = false

namespace Progress

def Bare (adds : Argument → Bool) (progress : Progress) : Prop :=
  progress.given.Bare adds ∧ progress.pending.Bare adds

structure Joins (adds : Argument → Bool) (extra : Given) (progress other : Progress) : Prop where
  given : progress.given.Joins adds extra other.given
  pending : other.pending = progress.pending
  placed : other.placed = progress.placed

end Progress

/-- A step that leaves nothing said about the arguments found nothing said about them, and it is
taken in the same way beside what is said about them elsewhere. -/
def Beside {Fault : Type} (adds : Argument → Bool) (extra : Given)
    (step : Progress → Except Fault Progress) : Prop :=
  ∀ progress next, step progress = .ok next → next.Bare adds →
    progress.Bare adds ∧ ∀ other, progress.Joins adds extra other →
      ∃ later, step other = .ok later ∧ next.Joins adds extra later

section Steps

variable {adds : Argument → Bool} {extra : Given} {Fault Other : Type}

theorem Beside.mapError {step : Progress → Except Fault Progress}
    (beside : Beside adds extra step) (wrap : Fault → Other) :
    Beside adds extra fun progress => (step progress).mapError wrap := by
  intro progress next taken bare
  obtain ⟨start, along⟩ := beside progress next (mapError_eq_ok_iff.mp taken) bare
  refine ⟨start, fun other joins => ?_⟩
  obtain ⟨later, otherTaken, joined⟩ := along other joins
  exact ⟨later, mapError_eq_ok_iff.mpr otherTaken, joined⟩

theorem Beside.of_error (fault : Fault) : Beside adds extra fun _ => .error fault := by
  intro progress next taken
  cases taken

theorem Beside.of_ok :
    Beside adds extra fun progress => (.ok progress : Except Fault Progress) := by
  intro progress next taken bare
  cases taken
  exact ⟨bare, fun other joins => ⟨other, rfl, joins⟩⟩

theorem Beside.bind {first second : Progress → Except Fault Progress}
    (near : Beside adds extra first) (far : Beside adds extra second) :
    Beside adds extra fun progress => first progress >>= second := by
  intro progress next taken bare
  obtain ⟨middle, reached, rest⟩ := bind_eq_ok taken
  obtain ⟨middleBare, onwards⟩ := far middle next rest bare
  obtain ⟨start, along⟩ := near progress middle reached middleBare
  refine ⟨start, fun other joins => ?_⟩
  obtain ⟨otherMiddle, otherReached, joined⟩ := along other joins
  obtain ⟨later, otherRest, atLast⟩ := onwards otherMiddle joined
  refine ⟨later, ?_, atLast⟩
  simp only [otherReached]
  exact otherRest

variable (addable : Given.Addable adds)

include addable

theorem settle_beside : Beside adds extra Progress.settle := by
  intro progress next taken bare
  obtain ⟨none, rfl⟩ | ⟨argument, value, given, held, run, rfl⟩ := settle_cases taken
  · refine ⟨bare, fun other joins => ⟨other, ?_, joins⟩⟩
    rw [Progress.settle, joins.pending, none]
  · obtain ⟨start, apart⟩ := Given.Bare.of_accept addable run bare.1
    refine ⟨⟨start, held ▸ apart⟩, fun other joins => ?_⟩
    obtain ⟨later, otherRun, joined⟩ := joins.given.accept apart run
    refine ⟨{ other with given := later, pending := .nothing }, ?_, joined, rfl, joins.placed⟩
    simp only [Progress.settle, joins.pending, held, otherRun, bind, Except.bind]

/-- What becomes pending after a step is what counts. -/
theorem hold_beside (pending : Pending) (place : Bool → Bool) :
    Beside adds extra fun progress => progress.settle >>= fun settled =>
      .ok { settled with pending := pending, placed := place settled.placed } := by
  intro progress next taken bare
  obtain ⟨settled, run, kept⟩ := bind_eq_ok taken
  cases kept
  have settledBare : settled.Bare adds := ⟨bare.1, settle_pending run ▸ trivial⟩
  obtain ⟨start, along⟩ := settle_beside addable progress settled run settledBare
  refine ⟨start, fun other joins => ?_⟩
  obtain ⟨later, otherRun, joined⟩ := along other joins
  refine ⟨{ later with pending := pending, placed := place later.placed }, ?_, joined.given, rfl,
    congrArg place joined.placed⟩
  simp only [otherRun, bind, Except.bind]

theorem attach_beside (argument : Argument) (value : String) :
    Beside adds extra fun progress => progress.attach argument value := by
  refine (settle_beside addable).bind ?_
  intro progress next taken bare
  obtain ⟨accepted, run, kept⟩ := bind_eq_ok taken
  cases kept
  obtain ⟨start, apart⟩ := Given.Bare.of_accept addable run bare.1
  refine ⟨⟨start, bare.2⟩, fun other joins => ?_⟩
  obtain ⟨later, otherRun, joined⟩ := joins.given.accept apart run
  refine ⟨{ other with given := later }, ?_, joined, joins.pending, joins.placed⟩
  simp only [otherRun, bind, Except.bind]

theorem await_beside (argument : Argument) :
    Beside adds extra fun progress => progress.await argument :=
  hold_beside addable (.awaiting argument) id

theorem mention_beside {argument : Argument} (flag : argument.takesValue = false) :
    Beside adds extra fun progress => (progress.given.mention argument).mapError Stop.usage >>=
      fun given => .ok { progress with given := given } := by
  intro progress next taken bare
  obtain ⟨mentioned, noted, kept⟩ := bind_eq_ok taken
  cases kept
  rw [mapError_eq_ok_iff] at noted
  obtain ⟨start, apart⟩ := Given.Bare.of_mention addable flag noted bare.1
  refine ⟨⟨start, bare.2⟩, fun other joins => ?_⟩
  obtain ⟨later, otherNoted, joined⟩ := joins.given.mention apart noted
  refine ⟨{ other with given := later }, ?_, joined, joins.pending, joins.placed⟩
  simp only [otherNoted, Except.mapError, bind, Except.bind]

theorem raise_beside (level : Level) (detail : Detail) {argument : Argument}
    (flag : argument.takesValue = false) : Beside adds extra (raise level detail argument) := by
  refine ((settle_beside addable).mapError Stop.usage).bind ?_
  cases argument with
  | help => exact Beside.of_error (Stop.help (.level level) detail)
  | version => exact Beside.of_error (Stop.version level)
  | revealAll | color | noColor | force => exact mention_beside addable flag
  | reveal | mode | inputs | shell | config | output | expect => cases flag

theorem OptionStep.beside {step : Progress → Except Stop Progress} (steps : OptionStep step) :
    Beside adds extra step := by
  induction steps with
  | refuse stop => exact .of_error stop
  | await argument => exact (await_beside addable argument).mapError _
  | attach argument value => exact (attach_beside addable argument value).mapError _
  | raise level detail flag => exact raise_beside addable level detail flag
  | andThen _ _ near far => exact near.bind far

omit addable in
theorem readPositional_eq_ok {level : Level} {separated : Bool} {word : String}
    {progress next : Progress} (taken : readPositional level separated word progress = .ok next) :
    ∃ argument, level.positional? = some argument ∧ progress.placed = false := by
  unfold readPositional at taken
  split at taken
  · next argument positional free => exact ⟨argument, positional, free⟩
  · split at taken
    · split at taken <;> cases taken
    · cases taken

omit addable in
theorem readPositional_of_free {level : Level} {argument : Argument}
    (positional : level.positional? = some argument) (separated : Bool) (word : String)
    {progress : Progress} (free : progress.placed = false) :
    readPositional level separated word progress = progress.settle >>= fun settled =>
      .ok { settled with pending := .held argument word, placed := true } := by
  simp only [readPositional, positional, free]

theorem readPositional_beside (level : Level) (separated : Bool) (word : String) :
    Beside adds extra (readPositional level separated word) := by
  intro progress next taken bare
  obtain ⟨argument, positional, free⟩ := readPositional_eq_ok taken
  rw [readPositional_of_free positional separated word free] at taken
  obtain ⟨start, along⟩ :=
    hold_beside addable (.held argument word) (fun _ => true) progress next taken bare
  refine ⟨start, fun other joins => ?_⟩
  rw [readPositional_of_free positional separated word (joins.placed.trans free)]
  exact along other joins

theorem readPositionals_beside (level : Level) (words : List String) :
    Beside adds extra (readPositionals level words) := by
  induction words with
  | nil => exact .of_ok
  | cons word rest ih => exact (readPositional_beside addable level true word).bind ih

theorem readWord_beside (name : CommandName) (word : String) :
    Beside adds extra (readWord name word) := by
  have positional : Beside adds extra fun progress =>
      (readPositional (.command name) false word progress).mapError Stop.usage :=
    (readPositional_beside addable _ false word).mapError _
  unfold readWord
  cases Word.ofText word with
  | long option value => exact (readLong_step _ option value).beside addable
  | short letter letters => exact (readShort_step _ letter letters).beside addable
  | separator => exact positional
  | plain text =>
      intro progress next taken bare
      obtain ⟨given, pending, placed⟩ := progress
      cases pending with
      | awaiting argument =>
          cases taken
          refine ⟨bare, fun other joins => ⟨{ other with pending := .held argument text }, ?_, ?_⟩⟩
          · simp only [joins.pending]
          · exact ⟨joins.given, rfl, joins.placed⟩
      | nothing | held =>
          obtain ⟨start, along⟩ := positional _ next taken bare
          refine ⟨start, fun other joins => ?_⟩
          simp only [joins.pending]
          exact along other joins

theorem readAfter_beside (name : CommandName) (words : List String) :
    Beside adds extra (readAfter name words) := by
  induction words with
  | nil => exact .of_ok
  | cons word rest ih =>
      by_cases separates : word = "--"
      · subst separates
        rw [funext (readAfter_separator rest)]
        exact (readPositionals_beside addable _ rest).mapError _
      · rw [funext (readAfter_cons separates rest)]
        exact (readWord_beside addable name word).bind ih

variable (consistent : extra.checkConflict = .ok ())

include consistent

theorem finishLevel_beside {environment : Option String} {progress : Progress} {given : Given}
    (finished : finishLevel environment progress = .ok given) (bare : given.Bare adds) :
    progress.Bare adds ∧ ∀ other, progress.Joins adds extra other →
      ∃ later, finishLevel environment other = .ok later ∧ given.Joins adds extra later := by
  obtain ⟨settled, run, rest⟩ := bind_eq_ok finished
  split at rest
  · cases rest
  · next usable =>
    obtain ⟨_, checked, kept⟩ := bind_eq_ok rest
    cases kept
    obtain ⟨start, along⟩ :=
      settle_beside addable progress settled run ⟨bare, settle_pending run ▸ trivial⟩
    refine ⟨start, fun other joins => ?_⟩
    obtain ⟨later, otherRun, joined⟩ := along other joins
    refine ⟨later.given, ?_, joined.given⟩
    rw [← joined.given.config addable] at usable
    simp only [finishLevel, otherRun, bind, Except.bind, if_neg usable,
      joined.given.checkConflict addable consistent checked]

theorem readOut_beside {environment : Option String} {name : CommandName} {words : List String}
    {progress : Progress} {given : Given}
    (read : readOut environment name words progress = .ok given) (bare : given.Bare adds) :
    progress.Bare adds ∧ ∀ other, progress.Joins adds extra other →
      ∃ later, readOut environment name words other = .ok later ∧
        given.Joins adds extra later := by
  obtain ⟨last, reached, finished⟩ := bind_eq_ok read
  rw [mapError_eq_ok_iff] at finished
  obtain ⟨lastBare, onwards⟩ := finishLevel_beside addable consistent finished bare
  obtain ⟨start, along⟩ := readAfter_beside addable name words progress last reached lastBare
  refine ⟨start, fun other joins => ?_⟩
  obtain ⟨otherLast, otherReached, joined⟩ := along other joins
  obtain ⟨later, otherFinished, atLast⟩ := onwards otherLast joined
  refine ⟨later, ?_, atLast⟩
  rw [readOut, otherReached]
  exact mapError_eq_ok_iff.mpr otherFinished

end Steps

/-! ## Words that are added -/

/-- These settings can be added together after a command: they are options of it, none is said
twice, and the gates are not set in both ways. -/
structure Adds (adds : Argument → Bool) (name : CommandName) (settings : List Setting) : Prop where
  addable : Given.Addable adds
  among : ∀ setting ∈ settings, adds setting.argument = true
  options : ∀ setting ∈ settings, setting.argument ∈ (Level.command name).options
  once : (settings.map Setting.argument).Nodup
  consistent : (settings.foldl Given.add {}).checkConflict = .ok ()

namespace Given

variable {wanted : Argument → Bool} {given : Given}

theorem keep_add (given : Given) (setting : Setting) :
    (given.add setting).keep wanted =
      if wanted setting.argument then (given.keep wanted).add setting else given.keep wanted := by
  cases setting <;> cases kept : wanted (Setting.argument _) <;>
    simp [Setting.argument] at kept <;> simp [keep, add, Setting.argument, kept]

theorem keep_addAll_of_wanted {settings : List Setting}
    (among : ∀ setting ∈ settings, wanted setting.argument = true) :
    (settings.foldl add given).keep wanted = settings.foldl add (given.keep wanted) := by
  induction settings generalizing given with
  | nil => rfl
  | cons setting rest ih =>
      obtain ⟨first, others⟩ := List.forall_mem_cons.mp among
      rw [List.foldl_cons, ih others, keep_add, if_pos first, List.foldl_cons]

theorem keep_addAll_of_unwanted {settings : List Setting}
    (apart : ∀ setting ∈ settings, wanted setting.argument = false) :
    (settings.foldl add given).keep wanted = given.keep wanted := by
  induction settings generalizing given with
  | nil => rfl
  | cons setting rest ih =>
      obtain ⟨first, others⟩ := List.forall_mem_cons.mp apart
      rw [List.foldl_cons, ih others, keep_add, if_neg (by simp [first])]

variable {adds : Argument → Bool} (clear : (given.keep fun argument => !adds argument) = given)

include clear

theorem joins_addAll {settings : List Setting}
    (among : ∀ setting ∈ settings, adds setting.argument = true) :
    given.Joins adds (settings.foldl add {}) (settings.foldl add given) where
  rest := by
    rw [keep_addAll_of_unwanted fun setting included => by simp [among setting included], clear]
  added := by
    have nothing : given.keep adds = {} := by rw [← clear, keep_keep_not]
    rw [keep_addAll_of_wanted among, nothing]

theorem has_of_clear {argument : Argument} (added : adds argument = true) :
    given.has argument = false := by
  rw [← clear, has, keep, ← Bool.not_eq_true, List.contains_iff_mem, List.mem_filter]
  intro said
  simp [added] at said

end Given

/-- An option that is added somewhere is recorded after what was settled before it. -/
theorem readAfter_spelled {name : CommandName} {setting : Setting} {given : Given}
    {words : List String} (allowed : setting.argument ∈ (Level.command name).options)
    (fresh : given.has setting.argument = false) (spelled : Spelled setting words)
    {progress : Progress} {placed : Bool}
    (run : progress.settle = .ok ⟨given, .nothing, placed⟩) (rest : List String) :
    ∃ later : Progress, later.settle = .ok ⟨given.add setting, .nothing, placed⟩ ∧
      readAfter name (words ++ rest) progress = readAfter name rest later := by
  cases spelled with
  | positional inputs _ =>
      rw [inputs] at allowed
      cases name <;> exact absurd allowed (by decide)
  | option names written valued =>
      obtain ⟨later, settles, read⟩ := readWords_option allowed fresh names written valued run rest
      exact ⟨later, settles, congrArg (Except.map Reading.progress) read⟩
  | flag named =>
      have read := readWords_flagged allowed fresh named run rest
      exact ⟨_, rfl, congrArg (Except.map Reading.progress) read⟩

theorem readAfter_spelledAll {name : CommandName} {settings : List Setting} {words : List String}
    (spelled : SpelledAll settings words) {given : Given}
    (options : ∀ setting ∈ settings, setting.argument ∈ (Level.command name).options)
    (once : (settings.map Setting.argument).Nodup)
    (fresh : ∀ setting ∈ settings, given.has setting.argument = false)
    {progress : Progress} {placed : Bool}
    (run : progress.settle = .ok ⟨given, .nothing, placed⟩) (rest : List String) :
    ∃ later : Progress, later.settle = .ok ⟨settings.foldl Given.add given, .nothing, placed⟩ ∧
      readAfter name (words ++ rest) progress = readAfter name rest later := by
  induction spelled generalizing given progress with
  | nil => exact ⟨progress, run, rfl⟩
  | @cons setting settings front words first _ ih =>
      obtain ⟨allowed, others⟩ := List.forall_mem_cons.mp options
      obtain ⟨new, unsaid⟩ := List.forall_mem_cons.mp fresh
      obtain ⟨different, onceMore⟩ := List.nodup_cons.mp once
      have stillFresh : ∀ other ∈ settings, (given.add setting).has other.argument = false := by
        intro other included
        have apart : other.argument ≠ setting.argument :=
          fun same => different (List.mem_map.mpr ⟨other, included, same⟩)
        simpa [Given.has, apart] using unsaid other included
      obtain ⟨middle, settles, read⟩ := readAfter_spelled allowed new first run (words ++ rest)
      obtain ⟨later, last, readOn⟩ := ih others onceMore stillFresh settles
      exact ⟨later, last, by rw [List.append_assoc, read, readOn]⟩

/-! ## Whole lines -/

/-- Where nothing is said about the arguments, none of them is recorded either. -/
theorem keep_of_bare {adds : Argument → Bool} (addable : Given.Addable adds) {name : CommandName}
    {words : List String} {progress settled : Progress}
    (read : readAfter name words {} = .ok progress) (run : progress.settle = .ok settled)
    (bare : settled.Bare adds) :
    (settled.given.keep fun argument => !adds argument) = settled.given := by
  -- No words join themselves with nothing added, and reading takes that along to what is settled.
  have nothing (wanted : Argument → Bool) : Given.keep wanted {} = {} := by simp [Given.keep]
  have start : Progress.Joins adds {} {} {} := ⟨⟨nothing _, nothing _⟩, rfl, rfl⟩
  obtain ⟨reached, onwards⟩ := settle_beside addable progress settled run bare
  obtain ⟨_, along⟩ := readAfter_beside addable name words {} progress read reached
  obtain ⟨same, readSame, joins⟩ := along {} start
  obtain rfl := Except.ok.inj (read.symm.trans readSame)
  obtain ⟨last, runSame, joined⟩ := onwards progress joins
  obtain rfl := Except.ok.inj (run.symm.trans runSame)
  exact joined.given.rest

/-- Options can be put behind these words: they are a command line of their own, and none of them
makes what follows positional. -/
structure TakesOptions (words : List String) : Prop where
  opens : ∃ environment config command, parse environment words = .ok ⟨config, some command⟩
  inside : "--" ∉ words

theorem finishLevel_none {environment : Option String} {progress : Progress} {given : Given}
    (finished : finishLevel environment progress = .ok given) :
    finishLevel none progress = .ok given := by
  obtain ⟨settled, run, rest⟩ := bind_eq_ok finished
  split at rest
  · cases rest
  · have usable : ¬ (settled.given.config = none ∧ (none : Option String) = some "") := by
      intro unusable
      cases unusable.2
    rw [finishLevel, run]
    exact (if_neg usable).trans rest

theorem gateChoice_of_report {given : Given} {name : CommandName} {command : Command}
    (made : given.command name = .ok command) {choice : ReportChoice}
    (reports : command.report? = some choice) :
    (name = .eval ∨ name = .table) ∧ given.gateChoice = choice.gates := by
  cases name with
  | eval =>
      cases made
      cases reports
      exact ⟨.inl rfl, rfl⟩
  | table =>
      cases made
      cases reports
      exact ⟨.inr rfl, rfl⟩
  | init =>
      cases made
      cases reports
  | completions =>
      simp only [Given.command] at made
      split at made
      · cases made
        cases reports
      · cases made

/-- Every line that asks for a report has a place for options, at the latest behind the command. -/
theorem exists_takesOptions {environment config : Option String} {words : List String}
    {command : Command} (understood : parse environment words = .ok ⟨config, some command⟩)
    {choice : ReportChoice} (reports : command.report? = some choice) :
    ∃ leading trailing, words = leading ++ trailing ∧ TakesOptions leading := by
  obtain ⟨top, name, rest, given, outer, reading, -, made, closed, -⟩ :=
    parse_eq_ok_iff.mp understood
  obtain ⟨front, whole, inside, reads⟩ := readWords_top_cut reading
  refine ⟨front, rest, whole, ⟨none, outer.config, ?_⟩, inside⟩
  have alone : readWords .top front {} = .ok ⟨top, some (name, [])⟩ := by
    simpa using reads []
  rcases (gateChoice_of_report made reports).1 with rfl | rfl
  · exact ⟨_, parse_eq_ok_iff.mpr ⟨top, .eval, [], {}, outer, alone, rfl, rfl,
      finishLevel_none closed, by simp⟩⟩
  · exact ⟨_, parse_eq_ok_iff.mpr ⟨top, .table, [], {}, outer, alone, rfl, rfl,
      finishLevel_none closed, by simp⟩⟩

/-- A line that says nothing about some arguments reads the same with options added that do,
wherever options can be put: the command is then made up of what the line says and what is added. -/
theorem parse_added {environment config : Option String} {leading trailing : List String}
    (takes : TakesOptions leading) {command : Command}
    (understood : parse environment (leading ++ trailing) = .ok ⟨config, some command⟩) :
    ∃ (name : CommandName) (given : Given), given.command name = .ok command ∧
      ∀ (adds : Argument → Bool) (settings : List Setting) (words : List String),
        Adds adds name settings → given.Bare adds → SpelledAll settings words →
        ∃ other : Given, given.Joins adds (settings.foldl Given.add {}) other ∧
          ∀ more, other.command name = .ok more →
            parse environment (leading ++ words ++ trailing) = .ok ⟨config, some more⟩ := by
  obtain ⟨⟨_, _, _, line⟩, inside⟩ := takes
  obtain ⟨top, name, rest, _, _, reading, readAlone, -⟩ := parse_eq_ok_iff.mp line
  obtain ⟨front, rfl, -, reads⟩ := readWords_top_cut reading
  obtain ⟨progress, reached, finished⟩ := bind_eq_ok readAlone
  obtain ⟨settled, run, -⟩ := bind_eq_ok (mapError_eq_ok_iff.mp finished)
  have within : "--" ∉ rest := fun found => inside (List.mem_append_right front found)
  obtain ⟨_, _, _, given, outer, longer, readOn, made, closed, path⟩ :=
    parse_eq_ok_iff.mp understood
  rw [List.append_assoc, reads] at longer
  cases longer
  refine ⟨name, given, made, fun adds settings words adding bare spelled => ?_⟩
  -- The first added word settles what the words in front of it leave pending. It makes no
  -- difference to settle that at the same place without them.
  have plain : readOut environment name trailing settled = .ok given := by
    rw [← readOn, readOut_append within reached]
    exact (readOut_settlesFirst environment name trailing progress settled run).symm
  obtain ⟨settledBare, along⟩ := readOut_beside adding.addable adding.consistent plain bare
  have clear := keep_of_bare adding.addable reached run settledBare
  obtain ⟨before, pending, placed⟩ := settled
  obtain rfl : pending = .nothing := settle_pending run
  obtain ⟨later, laterRun, added⟩ := readAfter_spelledAll spelled adding.options adding.once
    (fun setting included => Given.has_of_clear clear (adding.among setting included)) run trailing
  obtain ⟨other, otherRead, joined⟩ :=
    along ⟨settings.foldl Given.add before, .nothing, placed⟩
      ⟨Given.joins_addAll clear adding.among, rfl, rfl⟩
  refine ⟨other, joined, fun more makes => parse_eq_ok_iff.mpr ⟨top, name, rest ++
    (words ++ trailing), other, outer, ?_, ?_, makes, closed, ?_⟩⟩
  · rw [List.append_assoc, List.append_assoc]
    exact reads _
  · rw [readOut_append within reached, readOut, added]
    exact (readOut_settlesFirst environment name trailing later _ laterRun).trans otherRead
  · rw [joined.config adding.addable]
    exact path

end RevealGates.CommandLine
