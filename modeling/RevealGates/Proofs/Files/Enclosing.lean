import RevealGates.Files.Path

/-!
Directories around a path.

One directory encloses another if the text of the other goes on where its own text ends, and leads
further there. Nothing is said about steps from a directory to the next one out; the list that takes
such steps turns out to hold the path itself and the directories that enclose it, nearest first.
-/

set_option autoImplicit false

namespace RevealGates.Files.Path

/-! ## Enclosing -/

/-- The path of the inner directory goes on after the path of the outer one. The outer path has
nothing at its end that leads nowhere. -/
structure Encloses (outer inner : Path) : Prop where
  anchored : outer.absolute = inner.absolute
  bare : ∀ segment front, outer.segments = segment :: front →
    leads outer.absolute segment front = true
  further : ∃ back segment between,
    inner.segments = back ++ segment :: (between ++ outer.segments) ∧
      leads inner.absolute segment (between ++ outer.segments) = true

/-- The path itself or a directory that encloses it. -/
def Surrounds (outer inner : Path) : Prop := outer = inner ∨ outer.Encloses inner

variable {inner middle outer : Path}

theorem Encloses.length_lt (encloses : outer.Encloses inner) :
    outer.segments.length < inner.segments.length := by
  obtain ⟨back, segment, between, whole, -⟩ := encloses.further
  rw [whole]
  simp only [List.length_append, List.length_cons]
  omega

theorem Encloses.irrefl (path : Path) : ¬ path.Encloses path := by
  intro encloses
  exact Nat.lt_irrefl _ encloses.length_lt

theorem Encloses.asymm (encloses : outer.Encloses inner) : ¬ inner.Encloses outer := by
  intro converse
  exact Nat.lt_asymm encloses.length_lt converse.length_lt

theorem Encloses.trans (far : outer.Encloses middle) (near : middle.Encloses inner) :
    outer.Encloses inner := by
  obtain ⟨back, segment, between, whole, -⟩ := near.further
  obtain ⟨back', segment', between', whole', leads⟩ := far.further
  refine ⟨far.anchored.trans near.anchored, far.bare,
    back ++ segment :: (between ++ back'), segment', between', ?_, near.anchored ▸ leads⟩
  rw [whole, whole']
  simp

theorem Encloses.surrounds (far : outer.Encloses middle) (near : middle.Surrounds inner) :
    outer.Encloses inner := by
  rcases near with rfl | near
  · exact far
  · exact far.trans near

/-! ## One step outwards -/

theorem trimmed_eq_self {absolute : Bool} {segments : List String}
    (bare : ∀ segment front, segments = segment :: front → leads absolute segment front = true) :
    trimmed absolute segments = segments := by
  cases segments with
  | nil => rfl
  | cons segment front => rw [trimmed, if_pos (bare segment front rfl)]

theorem leads_trimmed {absolute : Bool} {segments front : List String} {segment : String}
    (kept : trimmed absolute segments = segment :: front) :
    leads absolute segment front = true := by
  induction segments with
  | nil => cases kept
  | cons first rest ih =>
      rw [trimmed] at kept
      split at kept
      · next leads =>
        obtain ⟨rfl, rfl⟩ := List.cons.inj kept
        exact leads
      · exact ih kept

/-- What is left after the end is trimmed begins inside what was put in front, or is what would be
left without it. -/
theorem trimmed_append (absolute : Bool) (back rest : List String) :
    trimmed absolute (back ++ rest) = trimmed absolute rest ∨
      ∃ dropped segment between, back = dropped ++ segment :: between ∧
        leads absolute segment (between ++ rest) = true ∧
        trimmed absolute (back ++ rest) = segment :: (between ++ rest) := by
  induction back with
  | nil => exact .inl rfl
  | cons first others ih =>
      rw [List.cons_append, trimmed]
      split
      · next leads => exact .inr ⟨[], first, others, rfl, leads, rfl⟩
      · rcases ih with same | ⟨dropped, segment, between, rfl, leads, kept⟩
        · exact .inl same
        · exact .inr ⟨first :: dropped, segment, between, rfl, leads, kept⟩

theorem encloses_of_parent? {path parent : Path} (found : path.parent? = some parent) :
    parent.Encloses path := by
  unfold parent? at found
  split at found
  · cases found
  · next segment front kept =>
      obtain rfl := Option.some.inj found
      obtain ⟨back, whole⟩ := trimmed_suffix path.absolute path.segments
      obtain ⟨between, rest⟩ := trimmed_suffix path.absolute front
      refine ⟨rfl, fun _ _ kept => leads_trimmed kept, back, segment, between, ?_, ?_⟩
      · rw [rest, ← kept, whole]
      · rw [rest]
        exact leads_trimmed kept

/-- Nothing lies between a path and the next directory out. -/
theorem Encloses.parent? (encloses : outer.Encloses inner) :
    ∃ parent, inner.parent? = some parent ∧ outer.Surrounds parent := by
  obtain ⟨absolute, segments⟩ := outer
  obtain ⟨anchored, bare, back, segment, between, whole, further⟩ := encloses
  simp only at anchored bare whole further
  rw [← anchored] at further
  -- The last segment that leads somewhere is the one that is known to, or comes after it.
  have last : ∃ name beyond, trimmed absolute inner.segments = name :: (beyond ++ segments) := by
    rw [whole]
    rcases trimmed_append absolute back (segment :: (between ++ segments)) with
      same | ⟨_, name, beyond, -, -, kept⟩
    · exact ⟨segment, between, by rw [same, trimmed, if_pos further]⟩
    · exact ⟨name, beyond ++ segment :: between, by simp [kept]⟩
  obtain ⟨name, beyond, kept⟩ := last
  refine ⟨⟨absolute, trimmed absolute (beyond ++ segments)⟩, ?_, ?_⟩
  · rw [Path.parent?, ← anchored, kept]
  · rcases trimmed_append absolute beyond segments with
      same | ⟨_, name, between, -, leads, kept⟩
    · exact .inl (by rw [same, trimmed_eq_self bare])
    · exact .inr ⟨rfl, bare, [], name, between, kept, leads⟩

theorem encloses_iff_of_parent? {parent : Path} (found : inner.parent? = some parent) :
    outer.Encloses inner ↔ outer.Surrounds parent := by
  constructor
  · intro encloses
    obtain ⟨other, same, surrounds⟩ := encloses.parent?
    obtain rfl := Option.some.inj (found.symm.trans same)
    exact surrounds
  · intro surrounds
    rcases surrounds with rfl | encloses
    · exact encloses_of_parent? found
    · exact encloses.trans (encloses_of_parent? found)

/-! ## All steps outwards -/

theorem mem_ancestry_iff : outer ∈ inner.ancestry ↔ outer.Surrounds inner := by
  fun_induction ancestry inner with
  | case1 inner top =>
      rw [List.mem_singleton]
      constructor
      · exact .inl
      · intro surrounds
        rcases surrounds with rfl | encloses
        · rfl
        · obtain ⟨parent, found, -⟩ := encloses.parent?
          cases top.symm.trans found
  | case2 inner parent found _ ih =>
      rw [List.mem_cons, ih, ← encloses_iff_of_parent? found]
      rfl

/-- Each directory of the list encloses all that come before it. -/
theorem ancestry_pairwise (path : Path) :
    path.ancestry.Pairwise fun near far => far.Encloses near := by
  fun_induction ancestry path with
  | case1 path top => exact List.pairwise_singleton _ path
  | case2 path parent found _ ih =>
      refine .cons ?_ ih
      intro far listed
      exact (encloses_iff_of_parent? found).mpr (mem_ancestry_iff.mp listed)

section Listed

variable {start directory : Path} {nearer outwards : List Path}

theorem encloses_of_ancestry (listed : start.ancestry = nearer ++ directory :: outwards) :
    (∀ near ∈ nearer, directory.Encloses near) ∧ ∀ far ∈ outwards, far.Encloses directory := by
  have ordered := ancestry_pairwise start
  rw [listed, List.pairwise_append, List.pairwise_cons] at ordered
  obtain ⟨-, ⟨beyond, -⟩, before⟩ := ordered
  exact ⟨fun near member => before near member directory (.head _), beyond⟩

/-- In the list, the directories in front of one are those that it encloses. -/
theorem encloses_iff_of_ancestry (listed : start.ancestry = nearer ++ directory :: outwards)
    {other : Path} (surrounds : other.Surrounds start) :
    directory.Encloses other ↔ other ∈ nearer := by
  obtain ⟨before, beyond⟩ := encloses_of_ancestry listed
  constructor
  · intro encloses
    have member := mem_ancestry_iff.mpr surrounds
    rw [listed, List.mem_append, List.mem_cons] at member
    rcases member with near | rfl | far
    · exact near
    · exact absurd encloses (Encloses.irrefl other)
    · exact absurd encloses (beyond other far).asymm
  · exact before other

theorem Surrounds.comparable {left right : Path} (first : left.Surrounds start)
    (second : right.Surrounds start) :
    left = right ∨ left.Encloses right ∨ right.Encloses left := by
  obtain ⟨nearer, outwards, listed⟩ := List.append_of_mem (mem_ancestry_iff.mpr first)
  obtain ⟨before, beyond⟩ := encloses_of_ancestry listed
  have member := mem_ancestry_iff.mpr second
  rw [listed, List.mem_append, List.mem_cons] at member
  rcases member with near | rfl | far
  · exact .inr (.inl (before right near))
  · exact .inl rfl
  · exact .inr (.inr (beyond right far))

end Listed

/-! ## Names inside directories -/

theorem length_child_le (directory : Path) (name : String) :
    (directory.child name).segments.length ≤ directory.segments.length + 1 := by
  unfold child
  split
  · next slash => simp [slash]
  · simp

theorem length_le_child (directory : Path) (name : String) :
    directory.segments.length ≤ (directory.child name).segments.length := by
  unfold child
  split
  · next slash => simp [slash]
  · simp

theorem Encloses.length_child_lt (encloses : outer.Encloses inner) (name : String) :
    (outer.child name).segments.length < (inner.child name).segments.length := by
  have short := length_child_le outer name
  obtain ⟨back, segment, between, whole, further⟩ := encloses.further
  cases back with
  | nil =>
      -- The inner path has no slash at its end, so its own segments all stay.
      have filled : segment ≠ "" := by
        intro empty
        subst empty
        cases further
      have long : (inner.child name).segments.length = inner.segments.length + 1 := by
        unfold child
        split
        · next slash =>
          rw [whole] at slash
          exact absurd (List.cons.inj slash).1 filled
        · rfl
      have further := encloses.length_lt
      omega
  | cons last others =>
      have long := length_le_child inner name
      have far : outer.segments.length + 2 ≤ inner.segments.length := by
        rw [whole]
        simp only [List.length_append, List.length_cons]
        omega
      omega

/-- On the way outwards every directory has its own path for a name. -/
theorem Surrounds.eq_of_child_eq {start left right : Path} (first : left.Surrounds start)
    (second : right.Surrounds start) {name : String} (same : left.child name = right.child name) :
    left = right := by
  have lengths : (left.child name).segments.length = (right.child name).segments.length := by
    rw [same]
  rcases first.comparable second with equal | around | inside
  · exact equal
  · have shorter := around.length_child_lt name
    omega
  · have longer := inside.length_child_lt name
    omega

end RevealGates.Files.Path
