import RevealGates.Proofs.Program.StarterFile
import RevealGates.Proofs.Settings.LaidOut

/-!
Loading what the starter file says.

A starter file that was written is found from its directory and from every directory below, as far
as the search gets that far, and what it says are the defaults. What was in the directory before,
and what is further out, makes no difference. Directories are compared in two ways: by their paths,
which is how the search goes outwards, and by the places that the paths lead to.
-/

set_option autoImplicit false

namespace RevealGates

namespace Files.Tree

variable {tree after : Tree} {here base place home : Location} {path other : Path} {text : String}

theorem holds_of_writeText (written : tree.writeText here path text = .ok after) :
    after.Holds here path text := by
  unfold writeText at written
  cases located : tree.locate here path with
  | error fault => simp [located, bind, Except.bind] at written
  | ok location =>
      simp only [located, bind, Except.bind] at written
      split at written
      · cases written
      · next free =>
        cases written
        have below : location ≠ [] := by
          rintro rfl
          exact free rfl
        simp only [Holds, lookup, locate_put located free, node?_put_self tree below, bind,
          Except.bind]

theorem Holds.of_locate_eq (holds : tree.Holds here path text)
    (same : tree.locate here other = tree.locate here path) : tree.Holds here other text := by
  rw [Holds, lookup, same]
  exact holds

/-! ## Places -/

theorem step_of_isIdle {segment : String} (idle : Path.isIdle segment = true) :
    step place segment = place :=
  if_pos idle

theorem walk_concat {front : List String} {segment : String} :
    tree.walk base (front ++ [segment]) = .ok place ↔
      ∃ before, tree.walk base front = .ok before ∧ tree.node? before = some .directory ∧
        step before segment = place := by
  induction front generalizing base with
  | nil =>
      simp only [List.nil_append, walk]
      split <;> simp [*]
  | cons first rest ih =>
      simp only [List.cons_append, walk]
      split
      · exact ih
      · simp
      · simp

/-- The path leads to a directory at the place and never steps back on its way. The empty path names
the working directory. -/
structure Names (tree : Tree) (here : Location) (path : Path) (place : Location) : Prop where
  direct : ".." ∉ path.segments
  walked : tree.walk (if path.absolute then [] else here) path.segments.reverse = .ok place
  directory : tree.node? place = some .directory

/-- What the end of a path is trimmed of leads nowhere. -/
theorem walk_trimmed {absolute : Bool} {segments : List String}
    (walked : tree.walk base segments.reverse = .ok place) :
    tree.walk base (Path.trimmed absolute segments).reverse = .ok place := by
  induction segments with
  | nil => exact walked
  | cons segment front ih =>
      rw [Path.trimmed]
      split
      · exact walked
      · next stays =>
        have idle : Path.isIdle segment = true := by
          by_contra other
          exact stays (by simp [Path.leads, other])
        rw [List.reverse_cons, walk_concat] at walked
        obtain ⟨before, earlier, _, same⟩ := walked
        rw [step_of_isIdle idle] at same
        exact ih (same ▸ earlier)

/-- The directory around a path names the same place or the one around it. -/
theorem Names.parent? {parent : Path} (names : tree.Names here path place)
    (found : path.parent? = some parent) :
    ∃ outer, tree.Names here parent outer ∧
      (place = outer ∨ ∃ name, place = outer ++ [name]) := by
  unfold Path.parent? at found
  split at found
  · cases found
  · next segment front kept =>
      obtain rfl := Option.some.inj found
      have inside : ∀ {name}, name ∈ segment :: front → name ∈ path.segments := fun member =>
        (Path.trimmed_suffix path.absolute path.segments).subset (kept ▸ member)
      have walked : tree.walk _ (segment :: front).reverse = .ok place :=
        kept ▸ walk_trimmed names.walked
      rw [List.reverse_cons, walk_concat] at walked
      obtain ⟨outer, earlier, directory, last⟩ := walked
      refine ⟨outer, ⟨?_, walk_trimmed earlier, directory⟩, ?_⟩
      · intro back
        have among := (Path.trimmed_suffix path.absolute front).subset back
        exact names.direct (inside (.tail _ among))
      · have forward : segment ≠ ".." := by
          rintro rfl
          exact names.direct (inside (.head _))
        rw [step, if_neg forward] at last
        split at last
        · exact .inl last.symm
        · exact .inr ⟨segment, last.symm⟩

theorem exists_child_eq (path : Path) (name : String) :
    ∃ front, path.child name = ⟨path.absolute, name :: front⟩ ∧
      (path.segments = "" :: front ∨ path.segments = front) := by
  unfold Path.child
  split
  · next front slash => exact ⟨front, rfl, .inl slash⟩
  · exact ⟨path.segments, rfl, .inr rfl⟩

theorem Names.locate_child {name : String} (names : tree.Names here path place)
    (proper : Path.isIdle name = false) (forward : name ≠ "..") :
    tree.locate here (path.child name) = .ok (place ++ [name]) := by
  have last : step place name = place ++ [name] := by
    rw [step, if_neg (by simp [proper]), if_neg forward]
  obtain ⟨front, child, segments⟩ := exists_child_eq path name
  have earlier : tree.walk (if path.absolute then [] else here) front.reverse = .ok place := by
    rcases segments with slash | whole
    · have walked := names.walked
      rw [slash, List.reverse_cons, walk_concat] at walked
      obtain ⟨before, earlier, _, same⟩ := walked
      exact same ▸ earlier
    · exact whole ▸ names.walked
  have walked : tree.walk (if path.absolute then [] else here) (name :: front).reverse =
      .ok (place ++ [name]) := by
    rw [List.reverse_cons, walk_concat]
    exact ⟨place, earlier, names.directory, last⟩
  rw [child, locate]
  cases absolute : path.absolute <;> simpa [absolute] using walked

end Files.Tree

namespace Settings

open Files (Location Path Tree)

variable {tree after : Tree} {here home place : Location} {path start directory : Path}

/-! ## The search -/

theorem reached_self (tree : Tree) (here : Location) (start : Path) :
    Reached tree here start start where
  surrounds := .inl rfl
  passed := by
    intro nearer around encloses
    rcases around with rfl | outside
    · exact absurd encloses (Path.Encloses.irrefl _)
    · exact absurd encloses outside.asymm

theorem has_iff_of_names {name : String} (names : tree.Names here start place)
    (proper : Path.isIdle name = false) (forward : name ≠ "..") :
    Has tree here start name ↔ ∃ node, tree.node? (place ++ [name]) = some node := by
  simp only [Has, Tree.lookup, names.locate_child proper forward, bind, Except.bind]
  cases tree.node? (place ++ [name]) <;> simp

/-- Nothing ends a search in the directories at the place and around it, as far as those inside the
home. -/
def ClearBelow (tree : Tree) (home place : Location) : Prop :=
  ∀ between, home <+: between → between ≠ home → between <+: place →
    tree.node? (between ++ [fileName]) = none ∧ tree.node? (between ++ [repositoryMark]) = none

theorem ClearBelow.mono {outer : Location} (clear : ClearBelow tree home place)
    (around : outer <+: place) : ClearBelow tree home outer :=
  fun between inside different part => clear between inside different (part.trans around)

/-- At the home a search finds what it is looking for; inside the home it goes on. -/
theorem findIn_cons_of_clearBelow (config : ∃ node, tree.node? (home ++ [fileName]) = some node)
    (names : tree.Names here path place) (below : home <+: place)
    (clear : ClearBelow tree home place) (outwards : List Path) :
    place = home ∧ findIn tree here (path :: outwards) = some (path.child fileName) ∨
      place ≠ home ∧ findIn tree here (path :: outwards) = findIn tree here outwards := by
  have hasFile : Has tree here path fileName ↔
      ∃ node, tree.node? (place ++ [fileName]) = some node :=
    has_iff_of_names names rfl (by decide)
  have hasMark : Has tree here path repositoryMark ↔
      ∃ node, tree.node? (place ++ [repositoryMark]) = some node :=
    has_iff_of_names names rfl (by decide)
  by_cases arrived : place = home
  · refine .inl ⟨arrived, findIn_of_has (hasFile.mpr ?_)⟩
    rwa [arrived]
  · obtain ⟨noConfig, noMark⟩ := clear place below arrived List.prefix_rfl
    refine .inr ⟨arrived, findIn_of_neither (mt hasFile.mp ?_) (mt hasMark.mp ?_)⟩
    · simp [noConfig]
    · simp [noMark]

/-- A search that starts inside the home ends there or nowhere. It does not come by if a relative
path ends before. -/
theorem find_of_clearBelow (config : ∃ node, tree.node? (home ++ [fileName]) = some node)
    (names : tree.Names here start place) (below : home <+: place)
    (clear : ClearBelow tree home place) :
    find tree here start = none ∨
      ∃ outer, tree.Names here outer home ∧ find tree here start = some (outer.child fileName) := by
  unfold find
  fun_induction Path.ancestry start generalizing place with
  | case1 start top =>
      rcases findIn_cons_of_clearBelow config names below clear [] with
        ⟨rfl, found⟩ | ⟨_, missed⟩
      · exact .inr ⟨start, names, found⟩
      · exact .inl missed
  | case2 start parent found _ ih =>
      rcases findIn_cons_of_clearBelow config names below clear parent.ancestry with
        ⟨rfl, found⟩ | ⟨inside, passed⟩
      · exact .inr ⟨start, names, found⟩
      · -- One step outwards leads to the same place or to the one around it, so not past the home.
        obtain ⟨outer, outerNames, near⟩ := names.parent? found
        have around : outer <+: place := by
          rcases near with rfl | ⟨name, rfl⟩
          · exact List.prefix_rfl
          · exact List.prefix_append _ _
        have still : home <+: outer := by
          rcases near with rfl | ⟨name, rfl⟩
          · exact below
          · exact (List.prefix_concat_iff.mp below).resolve_left (Ne.symm inside)
        rw [passed]
        exact ih outerNames still (clear.mono around)

/-! ## Loading -/

theorem read_of_holds {text : String} (holds : tree.Holds here path text) :
    read tree here path = ofText path.text text := by
  rw [read, Files.Tree.readText_eq_ok_iff.mpr holds]

/-- Every setting has its default, and nothing is warned about. -/
def LoadsDefaults (tree : Tree) (here : Location) (start : Path) : Prop :=
  (load tree here none start).outcome = .ok {} ∧
    (load tree here none start).notices.filterMap Notice.warning? = []

namespace Starter

theorem ofText_text (path : String) : ofText path text = ⟨[], .ok {}⟩ := by
  have bare : ∀ entry ∈ Stage.all.map fun stage => (stage.key, true),
      Toml.Grammar.Bare entry.1 := by
    intro entry member
    obtain ⟨stage, _, rfl⟩ := List.mem_map.mp member
    cases stage <;> exact ⟨by decide, by simp [Stage.key]⟩
  rw [ofText, parse_of_laidOut bare starter_laidOut, if_pos (by decide)]
  rfl

theorem loadsDefaults_of_find_none (missed : find tree here start = none) :
    LoadsDefaults tree here start := by
  rw [LoadsDefaults, load_of_find_none missed]
  exact ⟨rfl, rfl⟩

theorem loadsDefaults_of_find_some (found : find tree here start = some path)
    (holds : tree.Holds here path text) : LoadsDefaults tree here start := by
  rw [LoadsDefaults, load_of_find_some found, read_of_holds holds, ofText_text]
  exact ⟨rfl, rfl⟩

theorem loadsDefaults_of_reached (reached : Reached tree here start directory)
    (holds : tree.Holds here (directory.child fileName) text) : LoadsDefaults tree here start :=
  loadsDefaults_of_find_some (find_eq_some_iff.mpr ⟨directory, reached, ⟨_, holds⟩, rfl⟩) holds

theorem holds_of_created {force : Bool} {events : List Event}
    (created : create tree here directory force = ⟨.created, after, events⟩) :
    after.Holds here (directory.child fileName) text := by
  unfold create at created
  dsimp only at created
  split at created
  · cases created
  · cases written : tree.writeText here (directory.child fileName) text with
    | error fault => simp [written] at created
    | ok _ =>
        simp only [written, Creation.mk.injEq] at created
        exact created.2.1 ▸ Tree.holds_of_writeText written

/-- Once the starter file is written, the defaults are loaded without a warning from its directory,
whatever was there before and whatever is further out. The same holds for every directory below from
which no directory on the way holds a settings file or a repository. The way is that of the paths,
and the directory may be written differently on it; or it is the way of the places, for paths that
never step back. -/
theorem created_file_loads_defaults {force : Bool} {events : List Event}
    (created : create tree here directory force = ⟨.created, after, events⟩) :
    LoadsDefaults after here directory ∧
    (∀ start outer : Path,
      after.locate here (outer.child fileName) = after.locate here (directory.child fileName) →
      Reached after here start outer → LoadsDefaults after here start) ∧
    ∀ (start : Path) (home place : Location),
      after.locate here (directory.child fileName) = .ok (home ++ [fileName]) →
      after.Names here start place → home <+: place → ClearBelow after home place →
      LoadsDefaults after here start := by
  have holds := holds_of_created created
  refine ⟨loadsDefaults_of_reached (reached_self after here directory) holds, ?_, ?_⟩
  · intro start outer same reached
    exact loadsDefaults_of_reached reached (holds.of_locate_eq same)
  · intro start home place located names below clear
    have config : ∃ node, after.node? (home ++ [fileName]) = some node := by
      have found := holds
      simp only [Tree.Holds, Tree.lookup, located, bind, Except.bind] at found
      split at found
      · next node present => exact ⟨node, present⟩
      · cases found
    rcases find_of_clearBelow config names below clear with missed | ⟨outer, outerNames, found⟩
    · exact loadsDefaults_of_find_none missed
    · have same : after.locate here (outer.child fileName) =
          after.locate here (directory.child fileName) := by
        rw [located, outerNames.locate_child rfl (by decide)]
      exact loadsDefaults_of_find_some found (holds.of_locate_eq same)

/-- A repository whose settings file cannot be read, with another one further out. -/
def neglected : Tree :=
  ⟨[(["a"], .directory), (["a", repositoryMark], .directory),
    (["a", fileName], .file "?".toUTF8), (["a", "b"], .directory), (["a", "b", "c"], .directory),
    ([fileName], .file "version = 2\n".toUTF8)]⟩

private theorem load_neglected :
    (load neglected [] none ⟨true, ["c", "b", "a"]⟩).outcome =
      .error (.settings "/a/boolgate.toml" .syntaxFault) := by
  have outwards : (⟨true, ["c", "b", "a"]⟩ : Path).ancestry =
      [⟨true, ["c", "b", "a"]⟩, ⟨true, ["b", "a"]⟩, ⟨true, ["a"]⟩, ⟨true, []⟩] := by
    cbv
  have found : find neglected [] ⟨true, ["c", "b", "a"]⟩ =
      some ⟨true, [fileName, "a"]⟩ := by
    rw [find, outwards]
    rfl
  have holds : neglected.Holds [] ⟨true, [fileName, "a"]⟩ "?" := rfl
  rw [load_of_find_some found, read_of_holds holds]
  cbv

private theorem clearBelow_neglected :
    ClearBelow (create neglected [] ⟨true, ["a"]⟩ true).tree ["a"] ["a", "b", "c"] := by
  intro between inside different around
  have cases : between = ["a", "b"] ∨ between = ["a", "b", "c"] := by
    rw [← List.mem_inits] at around
    simp only [List.inits, List.map_cons, List.map_nil, List.mem_cons, List.not_mem_nil,
      or_false] at around
    rcases around with rfl | rfl | rfl | rfl
    · simp at inside
    · exact absurd rfl different
    · exact .inl rfl
    · exact .inr rfl
  rcases cases with rfl | rfl <;> exact ⟨rfl, rfl⟩

theorem neglected_loads_defaults_after_init :
    (load neglected [] none ⟨true, ["c", "b", "a"]⟩).outcome =
      .error (.settings "/a/boolgate.toml" .syntaxFault) ∧
    (create neglected [] ⟨true, ["a"]⟩ true).outcome = .created ∧
    LoadsDefaults (create neglected [] ⟨true, ["a"]⟩ true).tree [] ⟨true, ["c", "b", "a"]⟩ := by
  obtain ⟨_, _, below⟩ := created_file_loads_defaults
    (rfl : create neglected [] ⟨true, ["a"]⟩ true =
      ⟨.created, (create neglected [] ⟨true, ["a"]⟩ true).tree, [.wrote "/a/boolgate.toml"]⟩)
  refine ⟨load_neglected, rfl, ?_⟩
  exact below ⟨true, ["c", "b", "a"]⟩ ["a"] ["a", "b", "c"] rfl ⟨by decide, rfl, rfl⟩
    (List.prefix_append ["a"] ["b", "c"]) clearBelow_neglected

end Starter

end Settings

end RevealGates
