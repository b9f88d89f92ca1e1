import Mathlib.Data.Option.Basic
import RevealGates.Proofs.CommandLine.Course

/-!
The path and the gates on an understood command line.

An understood line uses the path behind its command, or else the one in front of it, or else the one
from the environment. Which paths a line gives can be seen from its words. Gates are not set in both
ways, which is checked only when all words of the level have been read.
-/

set_option autoImplicit false

namespace RevealGates

/-- The name that a command is asked for by. -/
def Command.name : Command → CommandLine.CommandName
  | .eval .. => .eval
  | .table _ => .table
  | .init _ => .init
  | .completions _ => .completions

namespace CommandLine

open ReportOption (bind_eq_ok)

/-- The words in front of a command give a path or nothing. -/
inductive LeadingPath : Option String → List String → Prop where
  | none : LeadingPath none []
  | path {path : String} {words : List String} :
      PathWords path words → LeadingPath (some path) words

/-- The paths that a line gives in front of its command and behind it. A line without a command may
end in two hyphens. -/
inductive LinePaths (before : Option String) :
    Option String → Option Command → List String → Prop where
  | alone {front back : List String} : LeadingPath before front → back = [] ∨ back = ["--"] →
      LinePaths before none none (front ++ back)
  | around {front rest : List String} {after : Option String} {command : Command} :
      LeadingPath before front → (∀ path, after = some path ↔ GivesPath path rest) →
      LinePaths before after (some command) (front ++ command.name.word :: rest)

/-! ## Paths as they are told -/

theorem LeadingPath.unique {before other : Option String} {front otherFront rest back : List String}
    (leading : LeadingPath before front) (again : LeadingPath other otherFront)
    (same : front ++ rest = otherFront ++ back)
    (plain : ∀ word ∈ rest.head?, ¬ (Word.ofText word).BeginsPath)
    (otherPlain : ∀ word ∈ back.head?, ¬ (Word.ofText word).BeginsPath) :
    before = other ∧ rest = back := by
  cases leading with
  | none =>
      cases again with
      | none => exact ⟨rfl, same⟩
      | path spelled =>
          obtain _ | ⟨word, more⟩ := otherFront
          · cases spelled
          · subst same
            exact absurd spelled.supplies.1 (plain word rfl)
  | path spelled =>
      cases again with
      | none =>
          obtain _ | ⟨word, more⟩ := front
          · cases spelled
          · subst same
            exact absurd spelled.supplies.1 (otherPlain word rfl)
      | path otherSpelled =>
          obtain ⟨rfl, ends⟩ := spelled.eq_of_append otherSpelled same
          exact ⟨rfl, ends⟩

/-- The words of a line tell its paths. -/
theorem LinePaths.unique {before otherBefore after otherAfter : Option String}
    {command : Option Command} {words : List String}
    (paths : LinePaths before after command words)
    (others : LinePaths otherBefore otherAfter command words) :
    before = otherBefore ∧ after = otherAfter := by
  have named (name : CommandName) (rest : List String) :
      ∀ word ∈ (name.word :: rest).head?, ¬ (Word.ofText word).BeginsPath := by
    rintro _ ⟨⟩
    cases name <;> decide
  have closed {back : List String} (ends : back = [] ∨ back = ["--"]) :
      ∀ word ∈ back.head?, ¬ (Word.ofText word).BeginsPath := by
    rcases ends with rfl | rfl <;> decide
  generalize whole : words = line at others
  cases paths with
  | alone leading ends =>
      cases others with
      | alone again otherEnds =>
          exact ⟨(leading.unique again whole (closed ends) (closed otherEnds)).1, rfl⟩
  | around leading told =>
      cases others with
      | around again otherTold =>
          obtain ⟨rfl, same⟩ := leading.unique again whole (named _ _) (named _ _)
          obtain ⟨-, rfl⟩ := List.cons.inj same
          exact ⟨rfl, Option.ext fun path => (told path).trans (otherTold path).symm⟩

/-! ## Arguments as they are recorded -/

namespace Given

/-- What is said was recorded, and an empty path is never said. -/
structure Recorded (given : Given) : Prop where
  noted : ∀ argument, given.said? argument ≠ none → given.has argument = true
  filled : given.config ≠ some ""

theorem recorded_nothing : Recorded {} where
  noted := by
    intro argument said
    cases argument <;> exact absurd rfl said
  filled := nofun

variable {given next : Given} {argument : Argument} {value : String}

theorem order_of_store (stored : given.store argument value = .ok next) :
    next.order = given.order := by
  cases argument with
  | config =>
      obtain ⟨-, rfl⟩ := eq_of_store_config stored
      rfl
  | inputs | shell | reveal | mode | output | expect =>
      obtain ⟨_, _, kept⟩ := bind_eq_ok stored
      cases kept
      rfl
  | revealAll | color | noColor | force | help | version =>
      cases stored
      rfl

theorem config_of_said? (same : next.said? .config = given.said? .config) :
    next.config = given.config :=
  Option.map_injective (fun _ _ => Setting.config.inj) same

theorem Recorded.mention (recorded : given.Recorded)
    (mentioned : given.mention argument = .ok next) :
    next.Recorded ∧ next.has argument = true := by
  obtain ⟨-, rfl⟩ := eq_of_mention mentioned
  refine ⟨⟨fun asked said => ?_, recorded.filled⟩, by simp [has]⟩
  by_cases same : asked = argument
  · simp [has, same]
  · rw [said?_of_mention mentioned same] at said
    have noted := recorded.noted asked said
    simp only [has, List.contains_iff_mem] at noted ⊢
    exact List.mem_append_left _ noted

theorem Recorded.store (recorded : given.Recorded) (noted : given.has argument = true)
    (stored : given.store argument value = .ok next) : next.Recorded := by
  have order (asked : Argument) : next.has asked = given.has asked :=
    congrArg (List.contains · asked) (order_of_store stored)
  refine ⟨fun asked said => ?_, ?_⟩
  · rw [order]
    by_cases same : asked = argument
    · exact same ▸ noted
    · exact recorded.noted asked (said?_of_store stored same ▸ said)
  · by_cases same : .config = argument
    · subst same
      obtain ⟨filled, rfl⟩ := eq_of_store_config stored
      simpa using filled
    · rw [config_of_said? (said?_of_store stored same)]
      exact recorded.filled

theorem Recorded.accept (recorded : given.Recorded)
    (accepted : given.accept argument value = .ok next) : next.Recorded := by
  obtain ⟨mentioned, noted, stored⟩ := bind_eq_ok accepted
  obtain ⟨still, has⟩ := recorded.mention noted
  exact still.store has stored

theorem Grows.config (grows : given.Grows next) : next.config = given.config := by
  obtain ⟨argument, other, mentioned | ⟨value, accepted⟩⟩ := grows
  · exact config_of_said? (said?_of_mention mentioned other.symm)
  · obtain ⟨_, noted, stored⟩ := bind_eq_ok accepted
    exact (config_of_said? (said?_of_store stored other.symm)).trans
      (config_of_said? (said?_of_mention noted other.symm))

theorem Grows.recorded (grows : given.Grows next) (recorded : given.Recorded) :
    next.Recorded := by
  obtain ⟨argument, _, mentioned | ⟨value, accepted⟩⟩ := grows
  · exact (recorded.mention mentioned).1
  · exact recorded.accept accepted

/-- A path is accepted only where none was before. -/
theorem config_of_accept (recorded : given.Recorded)
    (accepted : given.accept .config value = .ok next) :
    given.config = none ∧ next.config = some value := by
  obtain ⟨_, noted, stored⟩ := bind_eq_ok accepted
  refine ⟨?_, congrArg Given.config (eq_of_store_config stored).2⟩
  by_contra said
  have before := recorded.noted .config (by simpa [said?] using said)
  cases before.symm.trans (eq_of_mention noted).1

/-- The two ways of setting the gates exclude each other where they were checked. -/
theorem exclusive_of_checkConflict (recorded : given.Recorded)
    (checked : given.checkConflict = .ok ()) :
    given.gateChoice.reveal = none ∨ given.gateChoice.revealAll = false := by
  by_contra both
  obtain ⟨said, all⟩ := not_or.mp both
  have reveal := recorded.noted .reveal (by simpa [said?, gateChoice] using said)
  have revealAll : given.has .revealAll = true := Bool.not_eq_false _ ▸ all
  simp only [has, List.contains_iff_mem] at reveal revealAll
  unfold checkConflict at checked
  generalize among : given.order.filter _ = kept at checked
  have first : .reveal ∈ kept := by simp [← among, reveal]
  have second : .revealAll ∈ kept := by simp [← among, revealAll]
  obtain _ | ⟨only, _ | ⟨other, rest⟩⟩ := kept
  · cases first
  · rw [List.mem_singleton] at first second
    cases first.trans second.symm
  · cases checked

end Given

/-! ## The path that is recorded -/

section Courses

variable {level : Level} {given final : Given} {words : List String}
  {command : Option (CommandName × List String)}

namespace Course

theorem recorded (course : Course level given words final command) (before : given.Recorded) :
    final.Recorded := by
  induction course with
  | ends | enters => exact before
  | separated _ grows =>
      rcases grows with rfl | grows
      · exact before
      · exact grows.recorded before
  | item item _ ih =>
      cases item with
      | path _ _ accepted => exact ih (before.accept accepted)
      | other _ _ grows => exact ih (grows.recorded before)

/-- Behind a command the path that was given before or is given by the words is recorded. -/
theorem config_iff (course : Course level given words final command) (below : level ≠ .top)
    (before : given.Recorded) (path : String) :
    final.config = some path ↔ given.config = some path ∨ GivesPath path words := by
  induction course with
  | ends => simp [GivesPath.not_nil]
  | enters top => exact absurd top below
  | separated _ grows =>
      have same : _ = _ := grows.elim (congrArg Given.config) Given.Grows.config
      simp [same, GivesPath.not_separated]
  | item item _ ih =>
      cases item with
      | path spelled inert accepted =>
          obtain ⟨none, some⟩ := Given.config_of_accept before accepted
          rw [ih (before.accept accepted), GivesPath.append_iff_of_path spelled inert, none, some]
          simp [eq_comm]
      | other _ inert grows =>
          rw [ih (grows.recorded before), GivesPath.append_iff_of_inert inert, grows.config]

/-- In front of a command a path can be given, at most once, and nothing else. -/
theorem top_cases (course : Course .top given words final command) (before : given.Recorded) :
    ∃ front back, words = front ++ back ∧
      (command = none ∧ (back = [] ∨ back = ["--"]) ∨
        ∃ name rest, command = some (name, rest) ∧ back = name.word :: rest) ∧
      (front = [] ∧ final.config = given.config ∨
        ∃ path, given.config = none ∧ PathWords path front ∧ final.config = some path) := by
  induction course with
  | ends => exact ⟨[], [], rfl, .inl ⟨rfl, .inl rfl⟩, .inl ⟨rfl, rfl⟩⟩
  | enters => exact ⟨[], _, rfl, .inr ⟨_, _, rfl, rfl⟩, .inl ⟨rfl, rfl⟩⟩
  | separated alone grows =>
      have same := grows.elim (congrArg Given.config) Given.Grows.config
      exact ⟨[], _, rfl, .inl ⟨rfl, .inr (by rw [alone rfl])⟩, .inl ⟨rfl, same⟩⟩
  | item item _ ih =>
      cases item with
      | other notTop => exact absurd rfl notTop
      | path spelled _ accepted =>
          obtain ⟨none, some⟩ := Given.config_of_accept before accepted
          obtain ⟨front, back, rfl, left, ⟨rfl, same⟩ | ⟨_, fresh, -⟩⟩ :=
            ih (before.accept accepted)
          · exact ⟨_, back, rfl, left, .inr ⟨_, none, spelled, same.trans some⟩⟩
          · cases fresh.symm.trans some

end Course

end Courses

/-! ## Whole lines -/

/-- What is recorded where a level ends. -/
theorem ended_of_readLevel {environment : Option String} {level : Level} {words : List String}
    {final : Given} {command : Option (CommandName × List String)}
    (read : readLevel environment level words {} = .ok (final, command)) :
    Course level {} words final command ∧ final.Recorded ∧
      ¬ (final.config = none ∧ environment = some "") ∧ final.checkConflict = .ok () := by
  obtain ⟨_, _, start, course⟩ := course_of_readLevel read fun _ => nofun
  cases start
  obtain ⟨_, _, finished⟩ := readLevel_eq_ok_iff.mp read
  obtain ⟨_, _, usable, checked⟩ := finishLevel_eq_ok finished
  exact ⟨course, course.recorded Given.recorded_nothing, usable, checked⟩

theorem readLevel_of_readOut {environment : Option String} {name : CommandName}
    {words : List String} {given : Given} (read : readOut environment name words {} = .ok given) :
    ∃ command, readLevel environment (.command name) words {} = .ok (given, command) := by
  obtain ⟨_, reached, finished⟩ := bind_eq_ok read
  obtain ⟨⟨last, command⟩, reads, rfl⟩ := map_eq_ok_iff.mp reached
  exact ⟨command, readLevel_eq_ok_iff.mpr ⟨last, reads, mapError_eq_ok_iff.mp finished⟩⟩

theorem Given.name_of_command {given : Given} {name : CommandName} {command : Command}
    (made : given.command name = .ok command) : command.name = name := by
  cases name with
  | eval | table | init =>
      cases made
      rfl
  | completions =>
      simp only [Given.command] at made
      split at made
      · cases made
        rfl
      · cases made

theorem front_of_course {words : List String} {final : Given}
    {command : Option (CommandName × List String)} (course : Course .top {} words final command) :
    ∃ front back, words = front ++ back ∧ LeadingPath final.config front ∧
      (command = none ∧ (back = [] ∨ back = ["--"]) ∨
        ∃ name rest, command = some (name, rest) ∧ back = name.word :: rest) := by
  obtain ⟨front, back, whole, left, ⟨rfl, nothing⟩ | ⟨path, -, spelled, said⟩⟩ :=
    course.top_cases Given.recorded_nothing
  · exact ⟨[], back, whole, nothing ▸ .none, left⟩
  · exact ⟨front, back, whole, said ▸ .path spelled, left⟩

/-- An understood line has no command and is all in front, or its words behind the command were read
to their end as well. -/
theorem parse_levels {environment config : Option String} {words : List String}
    {command : Option Command} (understood : parse environment words = .ok ⟨config, command⟩) :
    ∃ outer, (readLevel environment .top words {} = .ok (outer, none) ∧ command = none ∧
        config = (outer.config <|> environment)) ∨
      ∃ name rest given left made,
        readLevel environment .top words {} = .ok (outer, some (name, rest)) ∧
          readLevel environment (.command name) rest {} = .ok (given, left) ∧
          given.command name = .ok made ∧ command = some made ∧
          config = (given.config <|> outer.config <|> environment) := by
  cases command with
  | none =>
      obtain ⟨⟨top, _ | ⟨name, rest⟩⟩, reads, following⟩ := bind_eq_ok understood
      · obtain ⟨outer, finished, kept⟩ := bind_eq_ok following
        cases kept
        have read := readLevel_eq_ok_iff.mpr ⟨top, reads, mapError_eq_ok_iff.mp finished⟩
        exact ⟨outer, .inl ⟨read, rfl, rfl⟩⟩
      · obtain ⟨⟨_, _⟩, -, closing⟩ := bind_eq_ok following
        obtain ⟨_, -, ended⟩ := bind_eq_ok closing
        cases ended
  | some made =>
      obtain ⟨top, name, rest, given, outer, reads, readOn, makes, finished, rfl⟩ :=
        parse_eq_ok_iff.mp understood
      obtain ⟨left, within⟩ := readLevel_of_readOut readOn
      have read := readLevel_eq_ok_iff.mpr ⟨top, reads, finished⟩
      exact ⟨outer, .inr ⟨name, rest, given, left, made, read, within, makes, rfl, rfl⟩⟩

section Understood

variable {environment config : Option String} {words : List String} {command : Option Command}
  (understood : parse environment words = .ok ⟨config, command⟩)

include understood

theorem linePaths_of_parse : ∃ before after, LinePaths before after command words ∧
    config = (after <|> before <|> environment) := by
  obtain ⟨outer, ⟨read, rfl, rfl⟩ | ⟨name, rest, given, _, made, read, readOn, makes, rfl, rfl⟩⟩ :=
    parse_levels understood
  · obtain ⟨course, -⟩ := ended_of_readLevel read
    obtain ⟨front, back, rfl, leading, ⟨-, ends⟩ | ⟨_, _, enters, -⟩⟩ := front_of_course course
    · exact ⟨outer.config, none, .alone leading ends, by simp⟩
    · cases enters
  · obtain ⟨course, -⟩ := ended_of_readLevel read
    obtain ⟨within, -⟩ := ended_of_readLevel readOn
    obtain ⟨front, back, rfl, leading, ⟨none, -⟩ | ⟨_, _, enters, rfl⟩⟩ := front_of_course course
    · cases none
    cases enters
    obtain rfl := Given.name_of_command makes
    have told (path : String) : given.config = some path ↔ GivesPath path rest := by
      rw [within.config_iff nofun Given.recorded_nothing]
      simp
    exact ⟨outer.config, given.config, .around leading told, rfl⟩

theorem config_ne_empty_of_parse : config ≠ some "" := by
  obtain ⟨outer, ⟨read, rfl, rfl⟩ | ⟨name, rest, given, _, made, read, readOn, makes, rfl, rfl⟩⟩ :=
    parse_levels understood
  · obtain ⟨-, recorded, usable, -⟩ := ended_of_readLevel read
    rw [ne_eq, Option.orElse_eq_some]
    exact not_or.mpr ⟨recorded.filled, usable⟩
  · obtain ⟨-, recorded, usable, -⟩ := ended_of_readLevel read
    obtain ⟨-, noted, -⟩ := ended_of_readLevel readOn
    rw [ne_eq, Option.orElse_eq_some, Option.orElse_eq_some]
    rintro (empty | ⟨-, empty | unusable⟩)
    · exact noted.filled empty
    · exact recorded.filled empty
    · exact usable unusable

theorem exclusive_of_parse {made : Command} (asked : command = some made) {choice : ReportChoice}
    (reports : made.report? = some choice) :
    choice.gates.reveal = none ∨ choice.gates.revealAll = false := by
  obtain ⟨outer, ⟨-, rfl, -⟩ | ⟨name, rest, given, _, _, -, readOn, makes, rfl, -⟩⟩ :=
    parse_levels understood
  · cases asked
  · cases asked
    obtain ⟨-, noted, -, checked⟩ := ended_of_readLevel readOn
    rw [← (gateChoice_of_report makes reports).2]
    exact Given.exclusive_of_checkConflict noted checked

end Understood

theorem override?_of_exclusive {choice : GateChoice}
    (exclusive : choice.reveal = none ∨ choice.revealAll = false) {reveal : Reveal}
    (explicit : choice.reveal = some reveal) : choice.override? = some reveal := by
  obtain none | off := exclusive
  · cases none.symm.trans explicit
  · rw [GateChoice.override?, off]
    exact explicit

/-- An understood line never sets the gates in both ways, so gates that it names are the ones that
are used. Its path is the one given behind the command, or else the one in front of it, or else the
one from the environment, and it is never empty. -/
theorem parse_uses_nearest_path_and_stated_gates {environment config : Option String}
    {words : List String} {command : Option Command}
    (understood : parse environment words = .ok ⟨config, command⟩) :
    (∃ before after, LinePaths before after command words) ∧
      (∀ before after, LinePaths before after command words →
        config = (after <|> before <|> environment)) ∧
      config ≠ some "" ∧
      ∀ made choice, command = some made → made.report? = some choice →
        (choice.gates.reveal = none ∨ choice.gates.revealAll = false) ∧
          ∀ reveal, choice.gates.reveal = some reveal → choice.gates.override? = some reveal := by
  obtain ⟨before, after, paths, used⟩ := linePaths_of_parse understood
  refine ⟨⟨before, after, paths⟩, fun otherBefore otherAfter others => ?_,
    config_ne_empty_of_parse understood, fun made choice asked reports => ?_⟩
  · obtain ⟨rfl, rfl⟩ := paths.unique others
    exact used
  · have exclusive := exclusive_of_parse understood asked reports
    exact ⟨exclusive, fun reveal => override?_of_exclusive exclusive⟩

/-- The name of a command and equals signs in paths, paths on both sides and gates in front of
positional words. -/
theorem parse_uses_path_behind_eval :
    let words := ["-C", "table", "eval", "--expect", "1", "-C==a b", "--reveal", "110000", "--",
      "0101"]
    let gates : GateChoice := { reveal := some ⟨true, true, false, false, false, false⟩ }
    let command : Command := .eval ⟨false, true, false, true⟩ (some [true]) { gates := gates }
    ∃ config, parse (some "env.toml") words = .ok ⟨config, some command⟩ ∧
      LinePaths (some "table") (some "=a b") (some command) words ∧ config = some "=a b" ∧
      gates.override? = gates.reveal := by
  intro words gates command
  have understood : parse (some "env.toml") words = .ok ⟨some "=a b", some command⟩ := by
    cbv
  have told (path : String) : some "=a b" = some path ↔
      GivesPath path ["--expect", "1", "-C==a b", "--reveal", "110000", "--", "0101"] := by
    have front : ∀ word ∈ ["--expect", "1"], Inert word := by decide
    have spelled : PathWords "=a b" ["-C==a b"] := .attached (.inr rfl)
    have alone : ∀ word ∈ ["-C==a b"].tail, Inert word := by decide
    have back : ∀ word ∈ ["--reveal", "110000"], Inert word := by decide
    have behind : ¬ GivesPath path ["--reveal", "110000", "--", "0101"] := fun gives =>
      GivesPath.not_separated ((GivesPath.append_iff_of_inert back).mp gives)
    rw [Option.some.injEq, eq_comm]
    exact (or_iff_left behind).symm.trans ((GivesPath.append_iff_of_path spelled alone).symm.trans
      (GivesPath.append_iff_of_inert front).symm)
  have paths : LinePaths (some "table") (some "=a b") (some command) words :=
    .around (.path (.apart (.inr rfl))) told
  obtain ⟨-, used, -, stated⟩ := parse_uses_nearest_path_and_stated_gates understood
  exact ⟨_, understood, paths, used _ _ paths, (stated command _ rfl rfl).2 _ rfl⟩

end CommandLine

end RevealGates
