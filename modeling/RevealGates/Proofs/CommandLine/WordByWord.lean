import RevealGates.Proofs.CommandLine.ReportOptions

/-!
Command lines word by word.

The words after a command are read one at a time, and what is read of some words does not depend on
the words that follow. A value that is held back may as well be settled before the next word is
looked at. So a line can be cut in two between its words, and its parts can be read one after the
other.
-/

set_option autoImplicit false

namespace RevealGates.CommandLine

open ReportOption (bind_eq_ok)

theorem mapError_eq_ok_iff {Fault Other Result : Type} {value : Except Fault Result}
    {wrap : Fault → Other} {result : Result} :
    value.mapError wrap = .ok result ↔ value = .ok result := by
  cases value <;> simp [Except.mapError]

theorem map_eq_ok_iff {Fault Value Result : Type} {value : Except Fault Value}
    {change : Value → Result} {result : Result} :
    value.map change = .ok result ↔ ∃ held, value = .ok held ∧ change held = result := by
  cases value <;> simp [Except.map]

/-! ## What an option does -/

/-- What reading an option does: it is refused, it does one of three things, or several letters in a
word do them in turn. -/
inductive OptionStep : (Progress → Except Stop Progress) → Prop where
  | refuse (stop : Stop) : OptionStep fun _ => .error stop
  | await (argument : Argument) :
      OptionStep fun progress => (progress.await argument).mapError .usage
  | attach (argument : Argument) (value : String) :
      OptionStep fun progress => (progress.attach argument value).mapError .usage
  | raise (level : Level) (detail : Detail) {argument : Argument} :
      argument.takesValue = false → OptionStep (raise level detail argument)
  | andThen {first second : Progress → Except Stop Progress} : OptionStep first →
      OptionStep second → OptionStep fun progress => first progress >>= second

theorem readLong_step (level : Level) (name : String) (value : Option String) :
    OptionStep (readLong level name value) := by
  unfold readLong
  cases level.long? name with
  | none => exact .refuse _
  | some argument =>
      dsimp only
      cases valued : argument.takesValue with
      | true =>
          cases value with
          | none => exact .await argument
          | some value => exact .attach argument value
      | false =>
          cases value with
          | none => exact .raise level .full valued
          | some value => exact .refuse _

/-- What follows the letter of an option is its value, less an equals sign in front. -/
theorem readShort_attached {level : Level} {letter : Char} {argument : Argument}
    (known : level.short? letter = some argument) (valued : argument.takesValue = true)
    (first : Char) (others : List Char) (progress : Progress) :
    readShort level letter (first :: others) progress =
      (progress.attach argument
        (String.ofList (if first = '=' then others else first :: others))).mapError .usage := by
  rw [readShort]
  simp only [known, valued]
  split
  · next none => cases none
  · next same =>
    cases same
    rw [if_pos rfl]
  · next different =>
    rw [if_neg fun equals => different others (congrArg (· :: others) equals)]
  · next flag _ => cases flag
  · next flag _ => cases flag

theorem readShort_step (level : Level) (letter : Char) (letters : List Char) :
    OptionStep (readShort level letter letters) := by
  cases known : level.short? letter with
  | none =>
      have read : readShort level letter letters = fun _ =>
          .error (.usage (.unexpectedWord (String.ofList ['-', letter]))) := by
        funext progress
        rw [readShort, known]
      exact read ▸ .refuse _
  | some argument =>
      cases valued : argument.takesValue with
      | true =>
          cases letters with
          | nil =>
              have read : readShort level letter [] = fun progress =>
                  (progress.await argument).mapError .usage := by
                funext progress
                simp only [readShort, known, valued]
              exact read ▸ .await argument
          | cons first others =>
              rw [funext (readShort_attached known valued first others)]
              exact .attach argument _
      | false =>
          cases letters with
          | nil =>
              have read : readShort level letter [] = raise level .brief argument := by
                funext progress
                simp only [readShort, known, valued]
              exact read ▸ .raise level .brief valued
          | cons second others =>
              have read : readShort level letter (second :: others) = fun progress =>
                  raise level .brief argument progress >>= readShort level second others := by
                funext progress
                rw [readShort]
                simp only [known, valued]
              rw [read]
              exact .andThen (.raise level .brief valued) (readShort_step level second others)

/-! ## Settling early -/

/-- Settling succeeds if nothing is pending or a held value is accepted. -/
theorem settle_cases {progress settled : Progress} (run : progress.settle = .ok settled) :
    (progress.pending = .nothing ∧ settled = progress) ∨
      ∃ argument value given, progress.pending = .held argument value ∧
        progress.given.accept argument value = .ok given ∧
        settled = { progress with given := given, pending := .nothing } := by
  unfold Progress.settle at run
  split at run
  · next none =>
    cases run
    exact .inl ⟨none, rfl⟩
  · cases run
  · next argument value held =>
    obtain ⟨given, accepted, kept⟩ := bind_eq_ok run
    cases kept
    exact .inr ⟨argument, value, given, held, accepted, rfl⟩

theorem settle_pending {progress settled : Progress} (run : progress.settle = .ok settled) :
    settled.pending = .nothing := by
  obtain ⟨none, rfl⟩ | ⟨_, _, _, _, _, rfl⟩ := settle_cases run
  · exact none
  · rfl

theorem settle_placed {progress settled : Progress} (run : progress.settle = .ok settled) :
    settled.placed = progress.placed := by
  obtain ⟨_, rfl⟩ | ⟨_, _, _, _, _, rfl⟩ := settle_cases run
  · rfl
  · rfl

theorem settle_settled {progress settled : Progress} (run : progress.settle = .ok settled) :
    settled.settle = .ok settled := by
  rw [Progress.settle, settle_pending run]

/-- A step that begins by settling what is pending. -/
def SettlesFirst {Fault Result : Type} (step : Progress → Except Fault Result) : Prop :=
  ∀ progress settled, progress.settle = .ok settled → step progress = step settled

section Settling

variable {Fault Other Result Last : Type}

theorem SettlesFirst.settle_bind (next : Progress → Except UsageFault Result) :
    SettlesFirst fun progress => progress.settle >>= next := by
  intro progress settled run
  simp only [run, settle_settled run]

theorem SettlesFirst.const (result : Except Fault Result) : SettlesFirst fun _ => result :=
  fun _ _ _ => rfl

theorem SettlesFirst.mapError {step : Progress → Except Fault Result} (settles : SettlesFirst step)
    (wrap : Fault → Other) : SettlesFirst fun progress => (step progress).mapError wrap :=
  fun progress settled run => congrArg (Except.mapError wrap) (settles progress settled run)

theorem SettlesFirst.bind {step : Progress → Except Fault Result} (settles : SettlesFirst step)
    (next : Result → Except Fault Last) : SettlesFirst fun progress => step progress >>= next :=
  fun progress settled run => congrArg (· >>= next) (settles progress settled run)

theorem raise_settlesFirst (level : Level) (detail : Detail) (argument : Argument) :
    SettlesFirst (raise level detail argument) := by
  intro progress settled run
  simp only [raise, run, settle_settled run]

theorem OptionStep.settlesFirst {step : Progress → Except Stop Progress}
    (steps : OptionStep step) : SettlesFirst step := by
  induction steps with
  | refuse stop => exact .const _
  | await argument => exact (SettlesFirst.settle_bind _).mapError _
  | attach argument value => exact (SettlesFirst.settle_bind _).mapError _
  | raise level detail flag => exact raise_settlesFirst level detail _
  | andThen _ _ near _ => exact near.bind _

theorem readPositional_settlesFirst (level : Level) (separated : Bool) (word : String) :
    SettlesFirst (readPositional level separated word) := by
  intro progress settled run
  unfold readPositional
  simp only [run, settle_settled run, settle_placed run]

end Settling

/-! ## Words after a command -/

theorem Word.eq_of_ofText_separator {word : String} (read : Word.ofText word = .separator) :
    word = "--" := by
  unfold Word.ofText at read
  split at read
  · next spelled => exact String.toList_inj.mp spelled
  · unfold Word.ofLong at read
    split at read <;> cases read
  · cases read
  · cases read

theorem Word.eq_of_ofText_plain {word text : String} (read : Word.ofText word = .plain text) :
    word = text := by
  unfold Word.ofText at read
  split at read
  · cases read
  · unfold Word.ofLong at read
    split at read <;> cases read
  · cases read
  · cases read
    rfl

/-- How far the words after a command get. -/
def readAfter (name : CommandName) (words : List String) (progress : Progress) :
    Except Stop Progress :=
  (readWords (.command name) words progress).map Reading.progress

/-- What a single word after a command does, unless it separates. -/
def readWord (name : CommandName) (word : String) (progress : Progress) : Except Stop Progress :=
  match Word.ofText word, progress.pending with
  | .long option value, _ => readLong (.command name) option value progress
  | .short letter letters, _ => readShort (.command name) letter letters progress
  | .plain text, .awaiting argument => .ok { progress with pending := .held argument text }
  | _, _ => (readPositional (.command name) false word progress).mapError .usage

section Words

variable {name : CommandName} {word : String}

theorem readAfter_separator (rest : List String) (progress : Progress) :
    readAfter name ("--" :: rest) progress =
      (readPositionals (.command name) rest progress).mapError .usage := by
  have separator : Word.ofText "--" = .separator := by decide
  rw [readAfter, readWords, separator]
  cases readPositionals (.command name) rest progress <;> rfl

theorem readAfter_cons (inside : word ≠ "--") (rest : List String) (progress : Progress) :
    readAfter name (word :: rest) progress =
      (readWord name word progress >>= readAfter name rest) := by
  rw [readAfter, readWords, readWord]
  cases read : Word.ofText word with
  | separator => exact absurd (Word.eq_of_ofText_separator read) inside
  | long option value =>
      dsimp only
      cases readLong (.command name) option value progress <;> rfl
  | short letter letters =>
      dsimp only
      cases readShort (.command name) letter letters progress <;> rfl
  | plain text =>
      obtain rfl := Word.eq_of_ofText_plain read
      cases pending : progress.pending with
      | awaiting argument => rfl
      | nothing | held =>
          simp only [reduceCtorEq, false_and, if_false]
          cases readPositional (.command name) false word progress <;> rfl

theorem readAfter_append {front : List String} (inside : "--" ∉ front) (back : List String)
    (progress : Progress) :
    readAfter name (front ++ back) progress =
      (readAfter name front progress >>= readAfter name back) := by
  induction front generalizing progress with
  | nil => rfl
  | cons word rest ih =>
      obtain ⟨first, others⟩ := not_or.mp fun found => inside (List.mem_cons.mpr found)
      rw [List.cons_append, readAfter_cons (Ne.symm first), readAfter_cons (Ne.symm first)]
      cases readWord name word progress with
      | error stop => rfl
      | ok next => exact ih others next

theorem readWord_settlesFirst (name : CommandName) (word : String) :
    SettlesFirst (readWord name word) := by
  have positional : SettlesFirst fun progress =>
      (readPositional (.command name) false word progress).mapError Stop.usage :=
    (readPositional_settlesFirst _ false word).mapError _
  unfold readWord
  cases Word.ofText word with
  | long option value => exact (readLong_step _ option value).settlesFirst
  | short letter letters => exact (readShort_step _ letter letters).settlesFirst
  | separator => exact positional
  | plain text =>
      intro progress settled run
      have same := positional progress settled run
      obtain ⟨given, pending, placed⟩ := progress
      simp only [settle_pending run]
      cases pending with
      | awaiting argument => cases run
      | nothing | held => exact same

/-- The words after a command and the end of its level. -/
def readOut (environment : Option String) (name : CommandName) (words : List String)
    (progress : Progress) : Except Stop Given :=
  readAfter name words progress >>= fun last => (finishLevel environment last).mapError .usage

theorem readOut_append {environment : Option String} {name : CommandName} {front : List String}
    (inside : "--" ∉ front) {progress reached : Progress}
    (read : readAfter name front progress = .ok reached) (back : List String) :
    readOut environment name (front ++ back) progress =
      readOut environment name back reached := by
  rw [readOut, readAfter_append inside, read]
  rfl

theorem readOut_settlesFirst (environment : Option String) (name : CommandName)
    (words : List String) : SettlesFirst (readOut environment name words) := by
  unfold readOut
  cases words with
  | nil => exact (SettlesFirst.settle_bind _).mapError _
  | cons word rest =>
      by_cases separates : word = "--"
      · subst separates
        rw [funext (readAfter_separator rest)]
        cases rest with
        | nil => exact (SettlesFirst.settle_bind _).mapError _
        | cons word rest =>
            have first : SettlesFirst (readPositionals (.command name) (word :: rest)) :=
              (readPositional_settlesFirst _ true word).bind _
            exact (first.mapError _).bind _
      · rw [funext (readAfter_cons separates rest)]
        exact ((readWord_settlesFirst name word).bind _).bind _

end Words

/-! ## Whole lines -/

theorem parseCommand_eq_readOut (environment : Option String) (name : CommandName)
    (words : List String) :
    parseCommand environment name words = readOut environment name words {} >>= fun given =>
      (given.command name).mapError .usage >>= fun command => .ok (given, command) := by
  rw [parseCommand, readOut, readAfter]
  cases readWords (.command name) words {} <;> rfl

/-- On the way to a command a word is the command or leads on, whatever comes after it. -/
theorem readWords_top_step {word : String} {others rest : List String} {progress last : Progress}
    {name : CommandName}
    (read : readWords .top (word :: others) progress = .ok ⟨last, some (name, rest)⟩) :
    word ≠ "--" ∧
      ((others = rest ∧
          ∀ more, readWords .top (word :: more) progress = .ok ⟨last, some (name, more)⟩) ∨
        ∃ next, readWords .top others next = .ok ⟨last, some (name, rest)⟩ ∧
          ∀ more, readWords .top (word :: more) progress = readWords .top more next) := by
  have inside (kind : Word.ofText word ≠ .separator) : word ≠ "--" := by
    intro same
    exact kind (congrArg Word.ofText same)
  rw [readWords] at read
  simp only [readWords]
  cases kind : Word.ofText word with
  | separator =>
      simp only [kind] at read
      obtain ⟨next, _, ended⟩ := bind_eq_ok read
      cases ended
  | long option value =>
      simp only [kind] at read ⊢
      obtain ⟨next, taken, later⟩ := bind_eq_ok read
      exact ⟨inside (by simp [kind]), .inr ⟨next, later, fun more => by rw [taken]; rfl⟩⟩
  | short letter letters =>
      simp only [kind] at read ⊢
      obtain ⟨next, taken, later⟩ := bind_eq_ok read
      exact ⟨inside (by simp [kind]), .inr ⟨next, later, fun more => by rw [taken]; rfl⟩⟩
  | plain text =>
      refine ⟨inside (by simp [kind]), ?_⟩
      cases pending : progress.pending with
      | awaiting argument =>
          simp only [kind, pending] at read ⊢
          exact .inr ⟨_, read, fun more => rfl⟩
      | nothing | held =>
          cases known : CommandName.ofWord? text with
          | some name =>
              simp only [kind, pending, known] at read ⊢
              cases read
              exact .inl ⟨rfl, fun more => rfl⟩
          | none =>
              simp only [kind, pending, known] at read ⊢
              split at read
              · cases read
              · next usable =>
                simp only [if_neg usable]
                obtain ⟨next, taken, later⟩ := bind_eq_ok read
                exact .inr ⟨next, later, fun more => by rw [taken]; rfl⟩

/-- A line that comes to a command can be cut behind it, and other words can be put there. -/
theorem readWords_top_cut {words rest : List String} {progress last : Progress}
    {name : CommandName} (read : readWords .top words progress = .ok ⟨last, some (name, rest)⟩) :
    ∃ front, words = front ++ rest ∧ "--" ∉ front ∧ ∀ more,
      readWords .top (front ++ more) progress = .ok ⟨last, some (name, more)⟩ := by
  induction words generalizing progress with
  | nil => cases read
  | cons word others ih =>
      obtain ⟨inside, ⟨rfl, reads⟩ | ⟨next, later, step⟩⟩ := readWords_top_step read
      · exact ⟨[word], rfl, List.not_mem_cons_of_ne_of_not_mem inside.symm List.not_mem_nil, reads⟩
      · obtain ⟨front, whole, within, reads⟩ := ih later
        refine ⟨word :: front, congrArg (word :: ·) whole, ?_, fun more => ?_⟩
        · exact List.not_mem_cons_of_ne_of_not_mem inside.symm within
        · exact (step (front ++ more)).trans (reads more)

theorem parse_eq_ok_iff {environment config : Option String} {words : List String}
    {command : Command} :
    parse environment words = .ok ⟨config, some command⟩ ↔
      ∃ top name rest given outer,
        readWords .top words {} = .ok ⟨top, some (name, rest)⟩ ∧
          readOut environment name rest {} = .ok given ∧ given.command name = .ok command ∧
          finishLevel environment top = .ok outer ∧
          (given.config <|> outer.config <|> environment) = config := by
  constructor
  · intro understood
    obtain ⟨⟨top, _ | ⟨name, rest⟩⟩, read, following⟩ := bind_eq_ok understood
    · obtain ⟨outer, _, ended⟩ := bind_eq_ok following
      cases ended
    · obtain ⟨⟨given, made⟩, parsed, closing⟩ := bind_eq_ok following
      rw [parseCommand_eq_readOut] at parsed
      obtain ⟨_, readOn, making⟩ := bind_eq_ok parsed
      obtain ⟨_, makes, kept⟩ := bind_eq_ok making
      cases kept
      obtain ⟨outer, finished, ended⟩ := bind_eq_ok closing
      cases ended
      rw [mapError_eq_ok_iff] at makes finished
      exact ⟨top, name, rest, given, outer, read, readOn, makes, finished, rfl⟩
  · intro steps
    obtain ⟨top, name, rest, given, outer, read, readOn, makes, finished, rfl⟩ := steps
    rw [parse, read]
    simp only [bind, Except.bind, parseCommand_eq_readOut, readOn, makes, finished,
      Except.mapError]

end RevealGates.CommandLine
