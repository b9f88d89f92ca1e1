import RevealGates.Proofs.CommandLine.Spelling

/-!
Paths among the words of a command line.

A path is given in five spellings, with the name of the option or with its letter, in a word of its
own or in the word of the option. The words are looked at as they stand, and reading plays no part.
-/

set_option autoImplicit false

namespace RevealGates.CommandLine

/-! ## Spellings -/

/-- The words of the option that gives a path. An equals sign behind the name or the letter is not
part of the path. -/
inductive PathWords (path : String) : List String → Prop where
  | apart {name : String} : name = "--config" ∨ name = "-C" → PathWords path [name, path]
  | attached {front : String} : front = "--config=" ∨ front = "-C=" → PathWords path [front ++ path]
  | letter : path ≠ "" → path.toList.head? ≠ some '=' → PathWords path ["-C" ++ path]

/-- The path is given among the words, in front of two hyphens that stand alone. -/
inductive GivesPath (path : String) : List String → Prop where
  | here {words : List String} (rest : List String) :
      PathWords path words → GivesPath path (words ++ rest)
  | later {word : String} {rest : List String} :
      word ≠ "--" → GivesPath path rest → GivesPath path (word :: rest)

namespace Word

/-- The word begins the option that gives a path. -/
def BeginsPath : Word → Prop
  | .long name _ => name = "config"
  | .short letter _ => letter = 'C'
  | .separator | .plain _ => False

instance : DecidablePred BeginsPath
  | .long name _ => inferInstanceAs (Decidable (name = "config"))
  | .short letter _ => inferInstanceAs (Decidable (letter = 'C'))
  | .separator | .plain _ => inferInstanceAs (Decidable False)

/-- The value in the word of an option. -/
def value? : Word → Option String
  | .long _ value => value
  | .short _ (first :: others) =>
      some (String.ofList (if first = '=' then others else first :: others))
  | .short _ [] | .separator | .plain _ => none

theorem ofLong_eq_long {chars : List Char} :
    ∃ name value, ofLong chars = .long name value ∧
      chars = name.toList ++ value.elim [] fun text => '=' :: text.toList := by
  have whole := List.takeWhile_append_dropWhile (p := (· != '=')) (l := chars)
  rw [ofLong, List.span_eq_takeWhile_dropWhile]
  cases left : chars.dropWhile (· != '=') with
  | nil =>
      refine ⟨_, none, rfl, ?_⟩
      simpa [left] using whole.symm
  | cons mark rest =>
      have stops := List.head?_dropWhile_not (· != '=') chars
      rw [left] at stops whole
      obtain rfl : mark = '=' := by simpa using stops
      refine ⟨_, some (String.ofList rest), rfl, ?_⟩
      simpa using whole.symm

theorem toList_of_ofText_long {word name : String} {value : Option String}
    (read : ofText word = .long name value) :
    word.toList = '-' :: '-' :: (name.toList ++ value.elim [] fun text => '=' :: text.toList) := by
  unfold ofText at read
  split at read
  · cases read
  · next spelled =>
    obtain ⟨_, _, long, whole⟩ := ofLong_eq_long
    cases long.symm.trans read
    rw [spelled, whole]
  · cases read
  · cases read

theorem toList_of_ofText_short {word : String} {letter : Char} {rest : List Char}
    (read : ofText word = .short letter rest) : word.toList = '-' :: letter :: rest := by
  unfold ofText at read
  split at read
  · cases read
  · obtain ⟨_, _, long, _⟩ := ofLong_eq_long
    cases long.symm.trans read
  · next spelled =>
    cases read
    exact spelled
  · cases read

end Word

/-- The value of an option stands in the word of the option or is the next word. -/
def Word.Supplies (kind : Word) (value : String) (more : List String) : Prop :=
  kind.value? = some value ∧ more = [] ∨ kind.value? = none ∧ more = [value]

namespace PathWords

variable {path word : String} {more : List String} {kind : Word}

theorem of_supplies (read : Word.ofText word = kind) (begins : kind.BeginsPath)
    (supplies : kind.Supplies path more) : PathWords path (word :: more) := by
  cases kind with
  | separator | plain => exact False.elim begins
  | long name value =>
      obtain rfl : name = "config" := begins
      have spelled := Word.toList_of_ofText_long read
      obtain ⟨rfl, rfl⟩ | ⟨rfl, rfl⟩ : value = _ ∧ _ ∨ value = _ ∧ _ := supplies
      · obtain rfl : word = "--config=" ++ path := String.toList_inj.mp (by simpa using spelled)
        exact .attached (.inl rfl)
      · obtain rfl : word = "--config" := String.toList_inj.mp (by simpa using spelled)
        exact .apart (.inl rfl)
  | short letter rest =>
      obtain rfl : letter = 'C' := begins
      have spelled := Word.toList_of_ofText_short read
      obtain ⟨valued, rfl⟩ | ⟨unvalued, rfl⟩ := supplies
      · cases rest with
        | nil => cases valued
        | cons first others =>
            by_cases equals : first = '='
            · obtain rfl : String.ofList others = path := by
                simpa [Word.value?, equals] using valued
              obtain rfl : word = "-C=" ++ String.ofList others :=
                String.toList_inj.mp (by simpa [equals] using spelled)
              exact .attached (.inr rfl)
            · obtain rfl : String.ofList (first :: others) = path := by
                simpa [Word.value?, equals] using valued
              obtain rfl : word = "-C" ++ String.ofList (first :: others) :=
                String.toList_inj.mp (by simpa using spelled)
              exact .letter (by simp [← String.toList_inj]) (by simpa using equals)
      · cases rest with
        | nil =>
            obtain rfl : word = "-C" := String.toList_inj.mp (by simpa using spelled)
            exact .apart (.inr rfl)
        | cons => cases unvalued

theorem supplies (spelled : PathWords path (word :: more)) :
    (Word.ofText word).BeginsPath ∧ (Word.ofText word).Supplies path more := by
  have short : "-C" = "-" ++ Char.toString 'C' := by decide
  have letter (rest : String) : Word.ofText ("-C" ++ rest) = .short 'C' rest.toList := by
    rw [short]
    exact Word.ofText_letter (by decide) rest
  cases spelled with
  | apart name =>
      rcases name with rfl | rfl
      · exact ⟨rfl, .inr ⟨rfl, rfl⟩⟩
      · exact ⟨rfl, .inr ⟨rfl, rfl⟩⟩
  | attached front =>
      rcases front with rfl | rfl
      · have long : "--config=" = "--" ++ "config" ++ "=" := by decide
        rw [long, Word.ofText_attached (by decide)]
        exact ⟨rfl, .inl ⟨rfl, rfl⟩⟩
      · have read : Word.ofText ("-C=" ++ path) = .short 'C' ('=' :: path.toList) := by
          simpa [← String.append_assoc] using letter ("=" ++ path)
        rw [read]
        exact ⟨rfl, .inl ⟨by simp [Word.value?], rfl⟩⟩
  | letter filled noEquals =>
      rw [letter]
      cases chars : path.toList with
      | nil => exact absurd (String.toList_eq_nil_iff.mp chars) filled
      | cons first others =>
          have different : first ≠ '=' := by simpa [chars] using noEquals
          have whole : String.ofList (first :: others) = path := by
            rw [← chars, String.ofList_toList]
          exact ⟨rfl, .inl ⟨by simp [Word.value?, different, whole], rfl⟩⟩

/-- What stands in front of words tells its path and where those words begin. -/
theorem eq_of_append {other : String} {front otherFront rest back : List String}
    (spelled : PathWords path front) (again : PathWords other otherFront)
    (same : front ++ rest = otherFront ++ back) : path = other ∧ rest = back := by
  obtain _ | ⟨word, more⟩ := front
  · cases spelled
  obtain _ | ⟨otherWord, others⟩ := otherFront
  · cases again
  obtain ⟨rfl, tails⟩ := List.cons.inj same
  -- Whether the path stands in the word of the option is the same on both sides.
  obtain ⟨-, ⟨valued, rfl⟩ | ⟨unvalued, rfl⟩⟩ := spelled.supplies <;>
    obtain ⟨-, ⟨otherValued, rfl⟩ | ⟨otherUnvalued, rfl⟩⟩ := again.supplies
  · exact ⟨Option.some.inj (valued.symm.trans otherValued), tails⟩
  · cases valued.symm.trans otherUnvalued
  · cases unvalued.symm.trans otherValued
  · exact List.cons.inj tails

end PathWords

/-! ## Paths among other words -/

/-- No path is given from this word on, and it does not stand between options and positional
words. -/
def Inert (word : String) : Prop :=
  Word.ofText word ≠ .separator ∧ ¬ (Word.ofText word).BeginsPath

instance : DecidablePred Inert := fun _ => inferInstanceAs (Decidable (_ ∧ _))

theorem Inert.of_plain {word text : String} (read : Word.ofText word = .plain text) :
    Inert word := by
  rw [Inert, read]
  exact ⟨by simp, id⟩

theorem ne_separator {word : String} (kind : Word.ofText word ≠ .separator) : word ≠ "--" :=
  fun same => kind (congrArg Word.ofText same)

namespace GivesPath

theorem not_nil {path : String} : ¬ GivesPath path [] := by
  generalize none : [] = line
  intro gives
  cases gives with
  | later => cases none
  | @here front _ spelled =>
      cases front with
      | nil => cases spelled
      | cons => cases none

variable {path word : String} {words rest : List String}

theorem cons_cases (gives : GivesPath path (word :: rest)) :
    (∃ more back, PathWords path (word :: more) ∧ rest = more ++ back) ∨
      word ≠ "--" ∧ GivesPath path rest := by
  generalize whole : word :: rest = line at gives
  cases gives with
  | later inside gives =>
      cases whole
      exact .inr ⟨inside, gives⟩
  | @here front back spelled =>
      cases front with
      | nil => cases spelled
      | cons first more =>
          cases whole
          exact .inl ⟨more, back, spelled, rfl⟩

theorem append_iff_of_inert (inert : ∀ word ∈ words, Inert word) :
    GivesPath path (words ++ rest) ↔ GivesPath path rest := by
  induction words with
  | nil => rfl
  | cons word more ih =>
      obtain ⟨first, others⟩ := List.forall_mem_cons.mp inert
      rw [List.cons_append, ← ih others]
      refine ⟨fun gives => ?_, .later (ne_separator first.1)⟩
      obtain ⟨_, _, spelled, -⟩ | ⟨_, later⟩ := gives.cons_cases
      · exact absurd spelled.supplies.1 first.2
      · exact later

theorem not_separated : ¬ GivesPath path ("--" :: rest) := by
  intro gives
  obtain ⟨_, _, spelled, -⟩ | ⟨inside, -⟩ := gives.cons_cases
  · exact spelled.supplies.1
  · exact inside rfl

/-- The words of a path option give its path, and no other one begins among them. -/
theorem append_iff_of_path {given : String} (spelled : PathWords given words)
    (inert : ∀ word ∈ words.tail, Inert word) :
    GivesPath path (words ++ rest) ↔ path = given ∨ GivesPath path rest := by
  obtain _ | ⟨word, more⟩ := words
  · cases spelled
  rw [List.tail_cons] at inert
  constructor
  · intro gives
    obtain ⟨others, back, again, same⟩ | ⟨_, later⟩ := gives.cons_cases
    · exact .inl (again.eq_of_append spelled (congrArg (word :: ·) same.symm)).1
    · exact .inr ((append_iff_of_inert inert).mp later)
  · rintro (rfl | later)
    · exact .here rest spelled
    · have notSeparator : Word.ofText word ≠ .separator := by
        intro same
        have begins := spelled.supplies.1
        rw [same] at begins
        exact begins
      exact .later (ne_separator notSeparator) ((append_iff_of_inert inert).mpr later)

end GivesPath

end RevealGates.CommandLine
