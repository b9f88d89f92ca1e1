import RevealGates.Proofs.Files.Enclosing
import RevealGates.Proofs.Files.Tree
import RevealGates.Settings.Locate

/-!
The search for a settings file, and what loading settings looks at.

The search comes as far as a directory if no directory nearer to the start holds a settings file or
a repository. Which file it finds, and which places two trees have to agree about for the same
settings to be loaded, is said by this alone.
-/

set_option autoImplicit false

namespace RevealGates.Settings

open Files (Location Path Tree)

/-- Something is in the directory under the name. -/
def Has (tree : Tree) (here : Location) (directory : Path) (name : String) : Prop :=
  ∃ node, tree.lookup here (directory.child name) = .ok node

/-- The directory is the start or encloses it, and no nearer one ends the search. -/
structure Reached (tree : Tree) (here : Location) (start directory : Path) : Prop where
  surrounds : directory.Surrounds start
  passed : ∀ nearer : Path, nearer.Surrounds start → directory.Encloses nearer →
    ¬ Has tree here nearer fileName ∧ ¬ Has tree here nearer repositoryMark

variable {tree : Tree} {here : Location} {start directory : Path}

theorem isPresent_child_iff {name : String} :
    tree.isPresent here (directory.child name) = true ↔ Has tree here directory name :=
  Files.Tree.isPresent_iff

/-! ## Going through directories -/

theorem findIn_of_has {outwards : List Path} (config : Has tree here directory fileName) :
    findIn tree here (directory :: outwards) = some (directory.child fileName) :=
  if_pos (isPresent_child_iff.mpr config)

theorem findIn_of_mark {outwards : List Path} (noConfig : ¬ Has tree here directory fileName)
    (mark : Has tree here directory repositoryMark) :
    findIn tree here (directory :: outwards) = none := by
  rw [findIn, if_neg (mt isPresent_child_iff.mp noConfig), if_pos (isPresent_child_iff.mpr mark)]

theorem findIn_of_neither {outwards : List Path} (noConfig : ¬ Has tree here directory fileName)
    (noMark : ¬ Has tree here directory repositoryMark) :
    findIn tree here (directory :: outwards) = findIn tree here outwards := by
  rw [findIn, if_neg (mt isPresent_child_iff.mp noConfig),
    if_neg (mt isPresent_child_iff.mp noMark)]

theorem findIn_eq_some_iff {directories : List Path} {path : Path} :
    findIn tree here directories = some path ↔
      ∃ nearer directory outwards, directories = nearer ++ directory :: outwards ∧
        (∀ near ∈ nearer, ¬ Has tree here near fileName ∧ ¬ Has tree here near repositoryMark) ∧
        Has tree here directory fileName ∧ path = directory.child fileName := by
  induction directories with
  | nil => simp [findIn]
  | cons first rest ih =>
      by_cases config : Has tree here first fileName
      · rw [findIn_of_has config]
        constructor
        · intro found
          cases found
          exact ⟨[], first, rest, rfl, nofun, config, rfl⟩
        · intro place
          obtain ⟨nearer, directory, outwards, listed, passed, -, rfl⟩ := place
          cases nearer with
          | nil =>
              cases listed
              rfl
          | cons near others =>
              cases listed
              exact absurd config (passed first (.head _)).1
      · by_cases mark : Has tree here first repositoryMark
        · rw [findIn_of_mark config mark]
          constructor
          · nofun
          · intro place
            obtain ⟨nearer, directory, outwards, listed, passed, found, -⟩ := place
            cases nearer with
            | nil =>
                cases listed
                exact absurd found config
            | cons near others =>
                cases listed
                exact absurd mark (passed first (.head _)).2
        · rw [findIn_of_neither config mark, ih]
          constructor
          · intro place
            obtain ⟨nearer, directory, outwards, rfl, passed, found⟩ := place
            refine ⟨first :: nearer, directory, outwards, rfl, ?_, found⟩
            exact List.forall_mem_cons.mpr ⟨⟨config, mark⟩, passed⟩
          · intro place
            obtain ⟨nearer, directory, outwards, listed, passed, found, named⟩ := place
            cases nearer with
            | nil =>
                cases listed
                exact absurd found config
            | cons near others =>
                cases listed
                exact ⟨others, directory, outwards, rfl,
                  fun near member => passed near (.tail _ member), found, named⟩

/-- A search goes the same way in two trees that agree on all directories it comes to. -/
theorem findIn_congr {left right : Tree} {directories : List Path}
    (agree : ∀ nearer directory outwards, directories = nearer ++ directory :: outwards →
      (∀ near ∈ nearer, ¬ Has left here near fileName ∧ ¬ Has left here near repositoryMark) →
      (Has left here directory fileName ↔ Has right here directory fileName) ∧
        (Has left here directory repositoryMark ↔ Has right here directory repositoryMark)) :
    findIn left here directories = findIn right here directories := by
  induction directories with
  | nil => rfl
  | cons first rest ih =>
      obtain ⟨configs, marks⟩ := agree [] first rest rfl nofun
      by_cases config : Has left here first fileName
      · rw [findIn_of_has config, findIn_of_has (configs.mp config)]
      · have noConfig := mt configs.mpr config
        by_cases mark : Has left here first repositoryMark
        · rw [findIn_of_mark config mark, findIn_of_mark noConfig (marks.mp mark)]
        · rw [findIn_of_neither config mark, findIn_of_neither noConfig (mt marks.mpr mark)]
          apply ih
          intro nearer directory outwards listed passed
          apply agree (first :: nearer) directory outwards (by rw [listed]; rfl)
          exact List.forall_mem_cons.mpr ⟨⟨config, mark⟩, passed⟩

/-! ## Coming by -/

theorem reached_iff_of_ancestry {nearer outwards : List Path}
    (listed : start.ancestry = nearer ++ directory :: outwards) :
    Reached tree here start directory ↔
      ∀ near ∈ nearer, ¬ Has tree here near fileName ∧ ¬ Has tree here near repositoryMark := by
  have surrounds {other : Path} (member : other ∈ nearer ++ directory :: outwards) :
      other.Surrounds start := Path.mem_ancestry_iff.mp (listed ▸ member)
  constructor
  · intro reached near member
    have around := surrounds (List.mem_append_left _ member)
    exact reached.passed near around ((Path.encloses_iff_of_ancestry listed around).mpr member)
  · intro passed
    refine ⟨surrounds (List.mem_append_right _ (.head _)), ?_⟩
    intro near around encloses
    exact passed near ((Path.encloses_iff_of_ancestry listed around).mp encloses)

theorem find_eq_some_iff {path : Path} :
    find tree here start = some path ↔ ∃ directory, Reached tree here start directory ∧
      Has tree here directory fileName ∧ path = directory.child fileName := by
  rw [find, findIn_eq_some_iff]
  constructor
  · intro place
    obtain ⟨nearer, directory, outwards, listed, passed, found⟩ := place
    exact ⟨directory, (reached_iff_of_ancestry listed).mpr passed, found⟩
  · intro place
    obtain ⟨directory, reached, found⟩ := place
    obtain ⟨nearer, outwards, listed⟩ :=
      List.append_of_mem (Path.mem_ancestry_iff.mpr reached.surrounds)
    exact ⟨nearer, directory, outwards, listed, (reached_iff_of_ancestry listed).mp reached, found⟩

theorem find_eq_none_iff :
    find tree here start = none ↔
      ¬ ∃ directory, Reached tree here start directory ∧ Has tree here directory fileName := by
  rw [Option.eq_none_iff_forall_ne_some]
  constructor
  · intro missed place
    obtain ⟨directory, reached, config⟩ := place
    exact missed _ (find_eq_some_iff.mpr ⟨directory, reached, config, rfl⟩)
  · intro none path found
    obtain ⟨directory, reached, config, -⟩ := find_eq_some_iff.mp found
    exact none ⟨directory, reached, config⟩

/-- The settings file that is found is the one in the nearest directory that has one, unless a
repository ends the search before. A repository does not hide the settings file beside it; it hides
those further out, and so does a settings file. -/
theorem find_nearest_up_to_repository (tree : Tree) (here : Location) (start : Path) :
    (∀ path, find tree here start = some path ↔
        ∃ directory, Reached tree here start directory ∧
          Has tree here directory fileName ∧ path = directory.child fileName) ∧
      (find tree here start = none ↔
        ¬ ∃ directory, Reached tree here start directory ∧ Has tree here directory fileName) ∧
      (∀ directory, Reached tree here start directory → Has tree here directory fileName →
        Has tree here directory repositoryMark →
        find tree here start = some (directory.child fileName)) ∧
      ∀ nearer directory : Path, nearer.Surrounds start → directory.Encloses nearer →
        Has tree here nearer fileName ∨ Has tree here nearer repositoryMark →
        find tree here start ≠ some (directory.child fileName) := by
  refine ⟨fun path => find_eq_some_iff, find_eq_none_iff, ?_, ?_⟩
  · intro directory reached config _
    exact find_eq_some_iff.mpr ⟨directory, reached, config, rfl⟩
  · intro nearer directory around encloses ends found
    obtain ⟨other, reached, -, same⟩ := find_eq_some_iff.mp found
    obtain rfl : directory = other :=
      Path.Surrounds.eq_of_child_eq (.inr (encloses.surrounds around)) reached.surrounds same
    obtain ⟨noConfig, noMark⟩ := reached.passed nearer around encloses
    exact ends.elim noConfig noMark

/-! ## Loading -/

section Footprint

variable {left right : Tree} {path : Path}

theorem read_eq_of_sameAt (same : left.SameAt right here path)
    (present : left.isPresent here path = true) : read left here path = read right here path := by
  rw [read, read, same.readText_eq present]

theorem load_explicit_of_absent (absent : tree.isPresent here path = false) :
    load tree here (some path) start = ⟨[], .error (.settings path.text .notFound)⟩ := by
  simp only [load, select, absent, Bool.false_eq_true, if_false]

theorem load_of_find_none (missed : find tree here start = none) :
    load tree here none start = ⟨[.event .noSettings], .ok {}⟩ := by
  simp only [load, select, missed]

theorem load_of_find_some (found : find tree here start = some path) :
    load tree here none start =
      ⟨.event (.loading path.text) :: (read tree here path).notices,
        (read tree here path).outcome⟩ := by
  simp only [load, select, found]

theorem load_explicit_eq_of_sameAt (same : left.SameAt right here path) (otherStart : Path) :
    load left here (some path) start = load right here (some path) otherStart := by
  have presence := same.isPresent_eq
  cases present : left.isPresent here path with
  | false =>
      rw [load_explicit_of_absent present, load_explicit_of_absent (presence ▸ present)]
  | true =>
      simp only [load, select, ← presence, present, if_true, read_eq_of_sameAt same present]

theorem find_eq_of_agree
    (agree : ∀ directory, Reached left here start directory →
      (Has left here directory fileName ↔ Has right here directory fileName) ∧
        (Has left here directory repositoryMark ↔ Has right here directory repositoryMark)) :
    find left here start = find right here start := by
  apply findIn_congr
  intro nearer directory outwards listed passed
  exact agree directory ((reached_iff_of_ancestry listed).mpr passed)

/-- Loading looks at nothing but the file that it selects and the directories on the way to it. A
file that is asked for is the only one looked at, and there has to be one. Otherwise it counts which
directories have a settings file or a repository, up to the first that does, and what the settings
file there holds; where there is none, every setting has its default and nothing is warned about. -/
theorem load_reads_selected_file (left right : Tree) (here : Location) :
    (∀ path start otherStart, left.SameAt right here path →
        load left here (some path) start = load right here (some path) otherStart) ∧
      (∀ path start, (∀ node, left.lookup here path ≠ .ok node) →
        load left here (some path) start = ⟨[], .error (.settings path.text .notFound)⟩) ∧
      (∀ start,
        (∀ directory, Reached left here start directory →
          (Has left here directory fileName ↔ Has right here directory fileName) ∧
            (Has left here directory repositoryMark ↔ Has right here directory repositoryMark) ∧
            (Has left here directory fileName →
              left.SameAt right here (directory.child fileName))) →
        load left here none start = load right here none start) ∧
      ∀ start,
        (¬ ∃ directory, Reached left here start directory ∧ Has left here directory fileName) →
        (load left here none start).outcome = .ok {} ∧
          (load left here none start).notices.filterMap Notice.warning? = [] := by
  refine ⟨?_, ?_, ?_, ?_⟩
  · intro path start otherStart same
    exact load_explicit_eq_of_sameAt same otherStart
  · intro path start missing
    apply load_explicit_of_absent
    rw [← Bool.not_eq_true, Files.Tree.isPresent_iff]
    intro present
    obtain ⟨node, found⟩ := present
    exact missing node found
  · intro start agree
    have searches := find_eq_of_agree fun directory reached =>
      ⟨(agree directory reached).1, (agree directory reached).2.1⟩
    cases found : find left here start with
    | none => rw [load_of_find_none found, load_of_find_none (searches ▸ found)]
    | some path =>
        rw [load_of_find_some found, load_of_find_some (searches ▸ found)]
        obtain ⟨directory, reached, config, rfl⟩ := find_eq_some_iff.mp found
        have same := (agree directory reached).2.2 config
        rw [read_eq_of_sameAt same (isPresent_child_iff.mpr config)]
  · intro start none
    rw [load_of_find_none (find_eq_none_iff.mpr none)]
    exact ⟨rfl, rfl⟩

end Footprint

/-- A settings file beside a repository, one directory out from where a run starts. -/
def quiet : Tree :=
  ⟨[(["a"], .directory), (["a", "b"], .directory), (["a", repositoryMark], .directory),
    (["a", fileName], .file "version = 1\n".toUTF8)]⟩

/-- The same with another settings file further out and other things nearby. -/
def crowded : Tree :=
  ⟨([fileName], .file "?".toUTF8) :: (["a", "b", "notes"], .directory) :: quiet.entries⟩

private theorem ancestry_b_in_a : (⟨true, ["b", "a"]⟩ : Path).ancestry =
    [⟨true, ["b", "a"]⟩, ⟨true, ["a"]⟩, ⟨true, []⟩] := by
  cbv

theorem load_same_in_quiet_and_crowded :
    load quiet ["a", "b"] none ⟨true, ["b", "a"]⟩ =
        load crowded ["a", "b"] none ⟨true, ["b", "a"]⟩ ∧
      ¬ Has quiet ["a", "b"] ⟨true, []⟩ fileName ∧ Has crowded ["a", "b"] ⟨true, []⟩ fileName := by
  obtain ⟨-, -, searched, -⟩ := load_reads_selected_file quiet crowded ["a", "b"]
  refine ⟨searched ⟨true, ["b", "a"]⟩ ?_, ?_, ?_⟩
  · intro directory reached
    have listed := Path.mem_ancestry_iff.mpr reached.surrounds
    simp only [ancestry_b_in_a, List.mem_cons, List.not_mem_nil, or_false] at listed
    rcases listed with rfl | rfl | rfl
    · simp only [← isPresent_child_iff]
      exact ⟨by decide, by decide, fun config => absurd config (by decide)⟩
    · simp only [← isPresent_child_iff]
      refine ⟨by decide, by decide, fun _ node => ?_⟩
      exact iff_of_eq (congrArg (· = Except.ok node) rfl)
    · -- The search ends before it comes to the top directory.
      have inner : Path.Surrounds ⟨true, ["a"]⟩ ⟨true, ["b", "a"]⟩ := by
        rw [← Path.mem_ancestry_iff, ancestry_b_in_a]
        exact .tail _ (.head _)
      have outside : Path.Encloses ⟨true, []⟩ ⟨true, ["a"]⟩ :=
        ⟨rfl, nofun, [], "a", [], rfl, rfl⟩
      refine absurd ?_ (reached.passed _ inner outside).1
      rw [← isPresent_child_iff]
      decide
  · rw [← isPresent_child_iff]
    decide
  · rw [← isPresent_child_iff]
    decide

end RevealGates.Settings
