import RevealGates.Proofs.CommandLine.WordByWord

/-!
Spellings of the settings that follow the name of a report.

A setting has several spellings: bits have three characters each, and a value stands in a word of
its own or in the word of its option, after the name or the letter. What may be written is said by
relations in which reading plays no part. Whichever spelling is used, reading its words adds the one
setting to those before, and reading the words of many settings adds them all.
-/

set_option autoImplicit false

namespace RevealGates.CommandLine

/-! ## Spellings -/

/-- One thing that is said after the name of a report. -/
inductive Setting where
  | config (path : String)
  | inputs (inputs : Inputs)
  | reveal (reveal : Reveal)
  | revealAll
  | mode (mode : Mode)
  | output (format : Format)
  | expect (bits : List Bool)
  | color
  | noColor

namespace Setting

def argument : Setting → Argument
  | .config _ => .config
  | .inputs _ => .inputs
  | .reveal _ => .reveal
  | .revealAll => .revealAll
  | .mode _ => .mode
  | .output _ => .output
  | .expect _ => .expect
  | .color => .color
  | .noColor => .noColor

/-- How an option with a value is called, by a word and perhaps by a letter. -/
def names? : Setting → Option (String × Option Char)
  | .config _ => some ("config", some 'C')
  | .reveal _ => some ("reveal", none)
  | .mode _ => some ("mode", none)
  | .output _ => some ("output", some 'o')
  | .expect _ => some ("expect", none)
  | .inputs _ | .revealAll | .color | .noColor => none

def flag? : Setting → Option String
  | .revealAll => some "reveal-all"
  | .color => some "color"
  | .noColor => some "no-color"
  | .config _ | .inputs _ | .reveal _ | .mode _ | .output _ | .expect _ => none

/-- The texts that stand for the value of a setting. A path is not empty and does not begin like an
option or like the rest of one. -/
inductive Text : Setting → String → Prop where
  | config {path : String} : path ≠ "" → path.toList.head? ≠ some '-' →
      path.toList.head? ≠ some '=' → Text (.config path) path
  | inputs {inputs : Inputs} {text : String} : Bits.Spells inputs.toList text →
      Text (.inputs inputs) text
  | reveal {reveal : Reveal} {text : String} : Bits.Spells reveal.flags text →
      Text (.reveal reveal) text
  | expect {bits : List Bool} {text : String} : Bits.Spells bits text → Text (.expect bits) text
  | fixture : Text (.mode .fixture) "fixture"
  | corrected : Text (.mode .corrected) "corrected"
  | text : Text (.output .text) "text"
  | json : Text (.output .json) "json"

end Setting

/-- The words for an option with a value. An empty value needs a word of its own. -/
inductive Valued (long : String) (letter? : Option Char) (value : String) : List String → Prop where
  | apart : Valued long letter? value ["--" ++ long, value]
  | attached : value ≠ "" → Valued long letter? value ["--" ++ long ++ "=" ++ value]
  | letterApart {letter : Char} : letter? = some letter →
      Valued long letter? value ["-" ++ letter.toString, value]
  | letterAttached {letter : Char} : letter? = some letter → value ≠ "" →
      Valued long letter? value ["-" ++ letter.toString ++ value]
  | letterEquals {letter : Char} : letter? = some letter → value ≠ "" →
      Valued long letter? value ["-" ++ letter.toString ++ "=" ++ value]

/-- The words for a setting. -/
inductive Spelled (setting : Setting) : List String → Prop where
  | positional {text : String} : setting.argument = .inputs → setting.Text text →
      Spelled setting [text]
  | option {long text : String} {letter? : Option Char} {words : List String} :
      setting.names? = some (long, letter?) → setting.Text text →
      Valued long letter? text words → Spelled setting words
  | flag {long : String} : setting.flag? = some long → Spelled setting ["--" ++ long]

/-- The words for settings in their order. -/
inductive SpelledAll : List Setting → List String → Prop where
  | nil : SpelledAll [] []
  | cons {setting : Setting} {settings : List Setting} {front words : List String} :
      Spelled setting front → SpelledAll settings words →
      SpelledAll (setting :: settings) (front ++ words)

/-! ## Texts of values -/

namespace Setting.Text

variable {setting : Setting} {text : String}

theorem head?_ne (spelled : setting.Text text) {c : Char} (mark : c = '-' ∨ c = '=') :
    text.toList.head? ≠ some c := by
  intro first
  cases spelled with
  | config _ noHyphen noEquals =>
      rcases mark with rfl | rfl
      · exact noHyphen first
      · exact noEquals first
  | inputs spells | reveal spells | expect spells =>
      have isBit := spells.isSome_head first
      rcases mark with rfl | rfl <;> cases isBit
  | fixture | corrected | text | json =>
      rcases mark with rfl | rfl <;> revert first <;> decide

end Setting.Text

/-! ## Arguments that are recorded -/

namespace Given

/-- The arguments with one more setting. -/
def add (given : Given) (setting : Setting) : Given :=
  let given := { given with order := given.order ++ [setting.argument] }
  match setting with
  | .config path => { given with config := some path }
  | .inputs inputs => { given with inputs := some inputs }
  | .reveal reveal => { given with reveal := some reveal }
  | .mode mode => { given with mode := some mode }
  | .output format => { given with output := some format }
  | .expect bits => { given with expect := some bits }
  | .revealAll | .color | .noColor => given

/-- What was said about an argument. -/
def said? (given : Given) : Argument → Option Setting
  | .config => given.config.map .config
  | .inputs => given.inputs.map .inputs
  | .reveal => given.reveal.map .reveal
  | .revealAll => if given.has .revealAll then some .revealAll else none
  | .mode => given.mode.map .mode
  | .output => given.output.map .output
  | .expect => given.expect.map .expect
  | .color => if given.has .color then some .color else none
  | .noColor => if given.has .noColor then some .noColor else none
  | .shell | .force | .help | .version => none

@[simp] theorem order_add (given : Given) (setting : Setting) :
    (given.add setting).order = given.order ++ [setting.argument] := by
  cases setting <;> rfl

theorem said?_add (given : Given) (setting : Setting) (argument : Argument) :
    (given.add setting).said? argument =
      if argument = setting.argument then some setting else given.said? argument := by
  cases setting <;> cases argument <;> simp [add, said?, has, Setting.argument]

theorem accept_eq_add {given : Given} {setting : Setting}
    (fresh : given.has setting.argument = false) {text : String} (spelled : setting.Text text) :
    given.accept setting.argument text = .ok (given.add setting) := by
  simp only [accept, mention, fresh, Bool.false_eq_true, ↓reduceIte, bind, Except.bind]
  cases spelled with
  | config filled => simp only [Setting.argument, store, if_neg filled, add]
  | inputs spells =>
      simp only [Setting.argument, store, readBits, Inputs.parse, spells.parse]
      rfl
  | reveal spells =>
      simp only [Setting.argument, store, readBits, Reveal.parse, spells.parse]
      rfl
  | expect spells =>
      simp only [Setting.argument, store, readBits, spells.parse]
      rfl
  | fixture | corrected | text | json => rfl

end Given

/-! ## One setting after the other -/

/-- Once what is pending is settled, these arguments are given. -/
def Progress.Settles (progress : Progress) (given : Given) : Prop :=
  progress.settle = .ok ⟨given, .nothing, given.has .inputs⟩

theorem Progress.Settles.placed {progress : Progress} {given : Given}
    (settles : progress.Settles given) : progress.placed = given.has .inputs :=
  (settle_placed settles).symm

theorem Progress.Settles.not_awaiting {progress : Progress} {given : Given}
    (settles : progress.Settles given) (argument : Argument) :
    progress.pending ≠ .awaiting argument := by
  intro same
  rw [Settles, settle, same] at settles
  cases settles

/-- At this level the words lead from some arguments to others, whatever follows them. -/
def Advances (level : Level) (words : List String) (given next : Given) : Prop :=
  ∀ progress : Progress, progress.Settles given → ∀ rest, ∃ later : Progress,
    later.Settles next ∧ readWords level (words ++ rest) progress = readWords level rest later

theorem Advances.nil (level : Level) (given : Given) : Advances level [] given given :=
  fun progress settles _ => ⟨progress, settles, rfl⟩

theorem Advances.append {level : Level} {front back : List String} {given middle next : Given}
    (first : Advances level front given middle) (second : Advances level back middle next) :
    Advances level (front ++ back) given next := by
  intro progress settles rest
  obtain ⟨later, laterSettles, read⟩ := first progress settles (back ++ rest)
  obtain ⟨last, lastSettles, readOn⟩ := second later laterSettles rest
  exact ⟨last, lastSettles, by rw [List.append_assoc, read, readOn]⟩

/-- A setting has its place at a level. -/
def Level.Takes (level : Level) (setting : Setting) : Prop :=
  level = .command .eval ∧ setting.argument = .inputs ∨ setting.argument ∈ level.options

theorem Level.long?_of_mem {level : Level} {argument : Argument}
    (allowed : argument ∈ level.options) {name : String} (named : argument.long? = some name) :
    level.long? name = some argument := by
  rcases level with _ | (_ | _ | _ | _) <;> cases argument <;> cases named <;>
    first | rfl | exact absurd allowed (by decide)

theorem Level.short?_of_mem {level : Level} {argument : Argument}
    (allowed : argument ∈ level.options) {letter : Char} (named : argument.short? = some letter) :
    level.short? letter = some argument := by
  rcases level with _ | (_ | _ | _ | _) <;> cases argument <;> cases named <;>
    first | rfl | exact absurd allowed (by decide)

theorem long?_plain {argument : Argument} {name : String} (named : argument.long? = some name) :
    '=' ∉ name.toList ∧ Word.ofText ("--" ++ name) = .long name none := by
  cases argument <;> cases named <;> exact ⟨by decide, rfl⟩

theorem short?_ne_hyphen {argument : Argument} {letter : Char}
    (named : argument.short? = some letter) : letter ≠ '-' := by
  cases argument <;> cases named <;> decide

theorem Word.ofText_letter {letter : Char} (noHyphen : letter ≠ '-') (rest : String) :
    Word.ofText ("-" ++ letter.toString ++ rest) = .short letter rest.toList := by
  have chars : ("-" ++ letter.toString ++ rest).toList = '-' :: letter :: rest.toList := by
    simp
  rw [Word.ofText, chars]
  split
  · next same => exact absurd (List.cons.inj (List.cons.inj same).2).1 noHyphen
  · next same => exact absurd (List.cons.inj (List.cons.inj same).2).1 noHyphen
  · next same => cases same; rfl
  · next other => exact absurd rfl (other letter rest.toList)

section Step

variable {level : Level} {setting : Setting} {given : Given} {text : String}

/-- An option that takes a value is allowed at a level and has these names. -/
structure Named (level : Level) (argument : Argument) (long : String) (letter? : Option Char) :
    Prop where
  allowed : argument ∈ level.options
  long : argument.long? = some long
  letter : argument.short? = letter?
  valued : argument.takesValue = true

section Value

variable {argument : Argument} {long : String} {letter? : Option Char} {progress : Progress}

theorem readWords_letter_apart {letter : Char} (named : Named level argument long (some letter))
    (noHyphen : text.toList.head? ≠ some '-') {settled : Progress}
    (run : progress.settle = .ok settled) (rest : List String) :
    readWords level (("-" ++ letter.toString) :: text :: rest) progress =
      readWords level rest { settled with pending := .held argument text } := by
  have known := Level.short?_of_mem named.allowed named.letter
  have word := Word.ofText_letter (short?_ne_hyphen named.letter) ""
  rw [String.append_empty] at word
  rw [readWords, word]
  simp only [String.toList_empty, readShort, known, named.valued, Progress.await, run,
    Except.mapError, bind, Except.bind]
  rw [readWords, Word.ofText_plain noHyphen]

theorem readWords_letter_equals {letter : Char} (named : Named level argument long (some letter))
    (rest : List String) :
    readWords level (("-" ++ letter.toString ++ "=" ++ text) :: rest) progress =
      ((progress.attach argument text).mapError .usage >>= readWords level rest) := by
  have known := Level.short?_of_mem named.allowed named.letter
  rw [readWords, String.append_assoc, Word.ofText_letter (short?_ne_hyphen named.letter)]
  simp only [String.toList_append, String.reduceToList, List.cons_append, List.nil_append,
    readShort, known, named.valued, String.ofList_toList]

theorem readWords_letter_attached {letter : Char} (named : Named level argument long (some letter))
    (filled : text ≠ "") (noEquals : text.toList.head? ≠ some '=') (rest : List String) :
    readWords level (("-" ++ letter.toString ++ text) :: rest) progress =
      ((progress.attach argument text).mapError .usage >>= readWords level rest) := by
  have known := Level.short?_of_mem named.allowed named.letter
  rw [readWords, Word.ofText_letter (short?_ne_hyphen named.letter)]
  cases chars : text.toList with
  | nil => exact absurd (String.toList_eq_nil_iff.mp chars) filled
  | cons first others =>
      have different : first ≠ '=' := by simpa [chars] using noEquals
      have whole : String.ofList (first :: others) = text := by rw [← chars, String.ofList_toList]
      have read : readShort level letter (first :: others) progress =
          (progress.attach argument text).mapError .usage := by
        rw [readShort_attached known named.valued, if_neg different, whole]
      simp only [read]

/-- There are five spellings but only two ways to be read: a value in a word of its own is held
back, and any other is accepted at once. -/
theorem readWords_valued (named : Named level argument long letter?)
    (noHyphen : text.toList.head? ≠ some '-') (noEquals : text.toList.head? ≠ some '=')
    {words : List String} (spelled : Valued long letter? text words) {settled : Progress}
    (run : progress.settle = .ok settled) (rest : List String) :
    readWords level (words ++ rest) progress =
        readWords level rest { settled with pending := .held argument text } ∨
      readWords level (words ++ rest) progress =
        ((progress.attach argument text).mapError .usage >>= readWords level rest) := by
  have known := Level.long?_of_mem named.allowed named.long
  obtain ⟨plain, bare⟩ := long?_plain named.long
  have read (apart : Bool) := ReportOption.readWords_value known named.valued plain bare
    ⟨text, apart⟩ rest progress
  cases spelled with
  | apart =>
      have read := read true
      simp only [OptionValue.words, ReportOption.readValue, noHyphen, ne_eq, not_false_eq_true,
        and_self, ↓reduceIte, run] at read
      exact .inl read
  | attached =>
      have read := read false
      simp only [OptionValue.words, ReportOption.readValue, Bool.false_eq_true, false_and,
        ↓reduceIte] at read
      exact .inr read
  | letterApart same => exact .inl (readWords_letter_apart (same ▸ named) noHyphen run rest)
  | letterAttached same filled =>
      exact .inr (readWords_letter_attached (same ▸ named) filled noEquals rest)
  | letterEquals same => exact .inr (readWords_letter_equals (same ▸ named) rest)

end Value

theorem settles_nothing : Progress.Settles ⟨given, .nothing, given.has .inputs⟩ given := rfl

theorem settle_held (fresh : given.has setting.argument = false) (spelled : setting.Text text)
    (placed : Bool) :
    Progress.settle ⟨given, .held setting.argument text, placed⟩ =
      .ok ⟨given.add setting, .nothing, placed⟩ := by
  simp only [Progress.settle, Given.accept_eq_add fresh spelled, bind, Except.bind]

theorem has_inputs_add (other : setting.argument ≠ .inputs) :
    (given.add setting).has .inputs = given.has .inputs := by
  simp [Given.has, other.symm]

theorem advances_positional (takes : level.Takes setting) (isInputs : setting.argument = .inputs)
    (fresh : given.has setting.argument = false) (spelled : setting.Text text) :
    Advances level [text] given (given.add setting) := by
  intro progress settles rest
  rcases takes with ⟨rfl, _⟩ | allowed
  case inr =>
    rw [isInputs] at allowed
    rcases level with _ | (_ | _ | _ | _) <;> exact absurd allowed (by decide)
  refine ⟨_, settle_held fresh spelled _, ?_⟩
  have placed : (given.add setting).has .inputs = true := by simp [Given.has, isInputs]
  have unplaced : progress.placed = false := settles.placed.trans (isInputs ▸ fresh)
  have taken : readPositional (.command .eval) false text progress =
      .ok ⟨given, .held .inputs text, true⟩ := by
    simp only [readPositional, Level.positional?, unplaced]
    rw [settles]
    rfl
  rw [List.singleton_append, readWords, Word.ofText_plain (spelled.head?_ne (.inl rfl)), placed,
    isInputs]
  cases pending : progress.pending with
  | awaiting argument => exact absurd pending (settles.not_awaiting argument)
  | nothing | held => simp [taken, Except.mapError, bind, Except.bind]

/-- An option adds its setting to those that are settled before it. -/
theorem readWords_option (allowed : setting.argument ∈ level.options)
    (fresh : given.has setting.argument = false) {long : String} {letter? : Option Char}
    {words : List String} (names : setting.names? = some (long, letter?))
    (spelled : setting.Text text) (valued : Valued long letter? text words) {progress : Progress}
    {placed : Bool} (run : progress.settle = .ok ⟨given, .nothing, placed⟩) (rest : List String) :
    ∃ later : Progress, later.settle = .ok ⟨given.add setting, .nothing, placed⟩ ∧
      readWords level (words ++ rest) progress = readWords level rest later := by
  obtain ⟨isLong, isShort, takesValue⟩ : setting.argument.long? = some long ∧
      setting.argument.short? = letter? ∧ setting.argument.takesValue = true := by
    cases setting <;> cases names <;> exact ⟨rfl, rfl, rfl⟩
  have named : Named level setting.argument long letter? := ⟨allowed, isLong, isShort, takesValue⟩
  rcases readWords_valued named (spelled.head?_ne (.inl rfl)) (spelled.head?_ne (.inr rfl)) valued
    run rest with held | attached
  · exact ⟨_, settle_held fresh spelled placed, held⟩
  · have taken : progress.attach setting.argument text =
        .ok ⟨given.add setting, .nothing, placed⟩ := by
      rw [Progress.attach, run]
      simp only [Given.accept_eq_add fresh spelled, bind, Except.bind]
    rw [taken] at attached
    exact ⟨_, rfl, attached⟩

theorem readWords_flagged (allowed : setting.argument ∈ level.options)
    (fresh : given.has setting.argument = false) {long : String}
    (named : setting.flag? = some long) {progress : Progress} {placed : Bool}
    (run : progress.settle = .ok ⟨given, .nothing, placed⟩) (rest : List String) :
    readWords level (("--" ++ long) :: rest) progress =
      readWords level rest ⟨given.add setting, .nothing, placed⟩ := by
  obtain ⟨isLong, bare, shared, added⟩ : setting.argument.long? = some long ∧
      setting.argument.takesValue = false ∧ setting.argument.isShared = true ∧
      given.add setting = { given with order := given.order ++ [setting.argument] } := by
    cases setting <;> cases named <;> exact ⟨rfl, rfl, rfl, rfl⟩
  have flagged : ReportOption.readFlag setting.argument progress =
      .ok ⟨given.add setting, .nothing, placed⟩ := by
    rw [ReportOption.readFlag, run, added]
    simp only [Given.mention, fresh, Bool.false_eq_true, ↓reduceIte, bind, Except.bind]
  have read := ReportOption.readWords_flag (Level.long?_of_mem allowed isLong) bare shared
    (long?_plain isLong).2 rest progress
  rw [flagged] at read
  exact read

theorem advances_option (takes : level.Takes setting)
    (fresh : given.has setting.argument = false) {long : String} {letter? : Option Char}
    {words : List String} (names : setting.names? = some (long, letter?))
    (spelled : setting.Text text) (valued : Valued long letter? text words) :
    Advances level words given (given.add setting) := by
  intro progress settles rest
  have other : setting.argument ≠ .inputs := by cases setting <;> cases names <;> nofun
  have allowed := takes.resolve_left fun inputs => other inputs.2
  rw [Progress.Settles, ← has_inputs_add other] at settles
  exact readWords_option allowed fresh names spelled valued settles rest

theorem advances_flag (takes : level.Takes setting)
    (fresh : given.has setting.argument = false) {long : String}
    (named : setting.flag? = some long) :
    Advances level ["--" ++ long] given (given.add setting) := by
  intro progress settles rest
  have other : setting.argument ≠ .inputs := by cases setting <;> cases named <;> nofun
  have allowed := takes.resolve_left fun inputs => other inputs.2
  rw [Progress.Settles, ← has_inputs_add other] at settles
  exact ⟨_, settles_nothing, readWords_flagged allowed fresh named settles rest⟩

theorem advances_spelled (takes : level.Takes setting)
    (fresh : given.has setting.argument = false) {words : List String}
    (spelled : Spelled setting words) : Advances level words given (given.add setting) := by
  cases spelled with
  | positional isInputs written => exact advances_positional takes isInputs fresh written
  | option named written valued => exact advances_option takes fresh named written valued
  | flag named => exact advances_flag takes fresh named

end Step

/-! ## All settings -/

/-- The arguments are those of the settings, in their order and with their values. -/
structure Records (given : Given) (settings : List Setting) : Prop where
  order : given.order = settings.map Setting.argument
  said : ∀ setting, given.said? setting.argument = some setting ↔ setting ∈ settings

theorem Records.nil : Records {} [] :=
  ⟨rfl, fun setting => iff_of_false (by cases setting <;> nofun) nofun⟩

theorem Records.has_iff {given : Given} {settings : List Setting} (records : Records given settings)
    {argument : Argument} :
    given.has argument = true ↔ argument ∈ settings.map Setting.argument := by
  rw [Given.has, records.order, List.contains_iff_mem]

theorem Records.add {given : Given} {settings : List Setting} (records : Records given settings)
    {setting : Setting} (fresh : setting.argument ∉ settings.map Setting.argument) :
    Records (given.add setting) (settings ++ [setting]) where
  order := by rw [Given.order_add, records.order, List.map_append, List.map_singleton]
  said := by
    intro other
    rw [Given.said?_add, List.mem_append, List.mem_singleton]
    by_cases same : other.argument = setting.argument
    · have absent : other ∉ settings := by
        intro included
        exact fresh (same ▸ List.mem_map_of_mem included)
      rw [if_pos same, Option.some.injEq, or_iff_right absent, eq_comm]
    · have different : other ≠ setting := fun equal => same (congrArg Setting.argument equal)
      rw [if_neg same, records.said, or_iff_left different]

/-- Words for settings, none of which is said twice, add these settings to those before. -/
theorem advances_spelledAll {level : Level} {settings : List Setting} {words : List String}
    (spelled : SpelledAll settings words) {before : List Setting} {given : Given}
    (records : Records given before) (takes : ∀ setting ∈ settings, level.Takes setting)
    (once : ((before ++ settings).map Setting.argument).Nodup) :
    ∃ next, Records next (before ++ settings) ∧ Advances level words given next := by
  -- What has been read grows at its end, so the settings before are arbitrary in the induction.
  induction spelled generalizing before given with
  | nil => exact ⟨given, by rwa [List.append_nil], .nil level given⟩
  | @cons setting settings front words first _ ih =>
      have fresh : setting.argument ∉ before.map Setting.argument := by
        rw [List.map_append, List.map_cons] at once
        exact fun said => (List.nodup_append.mp once).2.2 _ said _ (.head _) rfl
      have unsaid : given.has setting.argument = false := by
        rw [← Bool.not_eq_true, records.has_iff]
        exact fresh
      obtain ⟨next, nextRecords, later⟩ := ih (records.add fresh)
        (fun other included => takes other (.tail _ included)) (by simpa using once)
      refine ⟨next, by simpa using nextRecords, .append ?_ later⟩
      exact advances_spelled (takes setting (.head _)) unsaid first

end RevealGates.CommandLine
