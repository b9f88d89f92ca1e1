/-!
Paths as they are written.

A path keeps every segment between its slashes, also empty ones and dots, so that its text can be
given back unchanged. The segments are held last first, which makes the enclosing directory the rest
of the list.
-/

set_option autoImplicit false

namespace RevealGates.Files

/-- A written path. -/
structure Path where
  absolute : Bool
  segments : List String
  deriving DecidableEq, Repr

/-- The parts of a text between its slashes; there is always at least one. -/
def splitSlashes : List Char → List (List Char)
  | [] => [[]]
  | '/' :: rest => [] :: splitSlashes rest
  | c :: rest =>
      match splitSlashes rest with
      | [] => [[c]]
      | part :: parts => (c :: part) :: parts

namespace Path

/-- The segments of a text, last first. An empty text has none. -/
def segmentsOf (text : List Char) : List String :=
  if text = [] then [] else ((splitSlashes text).map String.ofList).reverse

def ofText (text : String) : Path :=
  match text.toList with
  | '/' :: rest => ⟨true, segmentsOf rest⟩
  | chars => ⟨false, segmentsOf chars⟩

def text (path : Path) : String :=
  (if path.absolute then "/" else "") ++ "/".intercalate path.segments.reverse

def isIdle (segment : String) : Bool := segment == "" || segment == "."

/-- The path of a name inside a directory. A slash at the end of the directory is not doubled. -/
def child (directory : Path) (name : String) : Path :=
  match directory.segments with
  | "" :: rest => ⟨directory.absolute, name :: rest⟩
  | segments => ⟨directory.absolute, name :: segments⟩

/-- Whether a segment leads somewhere, given the segments in front of it. Empty segments and dots do
not, except for a dot at the beginning of a relative path, which is the working directory. -/
def leads (absolute : Bool) (segment : String) (front : List String) : Bool :=
  !isIdle segment || (segment == "." && front.isEmpty && !absolute)

/-- The segments up to the last one that leads somewhere. -/
def trimmed (absolute : Bool) : List String → List String
  | [] => []
  | segment :: front =>
      if leads absolute segment front then segment :: front else trimmed absolute front

theorem trimmed_suffix (absolute : Bool) (segments : List String) :
    trimmed absolute segments <:+ segments := by
  induction segments with
  | nil => exact List.suffix_rfl
  | cons segment front ih =>
      rw [trimmed]
      split
      · exact List.suffix_rfl
      · exact ih.trans (List.suffix_cons segment front)

/-- The enclosing directory of a path, by its text alone: the last segment that leads somewhere is
left out. The top directory has none, and neither has the empty path. -/
def parent? (path : Path) : Option Path :=
  match trimmed path.absolute path.segments with
  | [] => none
  | _ :: front => some ⟨path.absolute, trimmed path.absolute front⟩

theorem length_parent?_lt {path parent : Path} (found : path.parent? = some parent) :
    parent.segments.length < path.segments.length := by
  unfold parent? at found
  split at found
  · cases found
  · next segment front kept =>
      obtain rfl := Option.some.inj found
      have whole := (trimmed_suffix path.absolute path.segments).length_le
      have part := (trimmed_suffix path.absolute front).length_le
      rw [kept, List.length_cons] at whole
      simp only
      omega

/-- A directory and the directories around it, nearest first. -/
def ancestry (path : Path) : List Path :=
  match found : path.parent? with
  | none => [path]
  | some parent =>
      have := length_parent?_lt found
      path :: ancestry parent
termination_by path.segments.length

end Path

end RevealGates.Files
