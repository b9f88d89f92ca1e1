import RevealGates.Files.Tree

/-!
Files and what they hold.

What is at the end of a path is said here by looking it up; whether something is there and which
text can be read follow from it. Two trees can be compared at a single path.
-/

set_option autoImplicit false

namespace RevealGates

namespace Files.Tree

variable {tree : Tree} {here : Location} {path : Path} {text : String}

/-- At the end of the path there is a file whose bytes are the text in UTF-8. -/
def Holds (tree : Tree) (here : Location) (path : Path) (text : String) : Prop :=
  tree.lookup here path = .ok (.file text.toUTF8)

theorem fromUTF8?_eq_some_iff {content : ByteArray} :
    String.fromUTF8? content = some text ↔ content = text.toUTF8 := by
  constructor
  · intro decoded
    unfold String.fromUTF8? at decoded
    split at decoded
    · cases decoded
      rfl
    · cases decoded
  · rintro rfl
    rw [String.fromUTF8?, String.toUTF8_eq_toByteArray, dif_pos text.isValidUTF8]
    rfl

theorem readText_eq_ok_iff : tree.readText here path = .ok text ↔ tree.Holds here path text := by
  unfold readText Holds
  cases tree.lookup here path with
  | error fault => exact iff_of_false nofun nofun
  | ok node =>
      cases node with
      | directory => exact iff_of_false nofun nofun
      | file content =>
          rw [Except.ok.injEq, Node.file.injEq, ← fromUTF8?_eq_some_iff]
          simp only [bind, Except.bind]
          cases String.fromUTF8? content <;> simp

theorem isPresent_iff :
    tree.isPresent here path = true ↔ ∃ node, tree.lookup here path = .ok node := by
  unfold isPresent
  cases tree.lookup here path with
  | error fault => exact iff_of_false nofun nofun
  | ok node => exact iff_of_true rfl ⟨node, rfl⟩

theorem Holds.unique {other : String} (first : tree.Holds here path text)
    (second : tree.Holds here path other) : text = other :=
  String.toByteArray_inj.mp (Node.file.inj (Except.ok.inj (first.symm.trans second)))

/-! ## Two trees -/

/-- Both trees have the same at the end of the path, or both have nothing there. -/
def SameAt (left right : Tree) (here : Location) (path : Path) : Prop :=
  ∀ node, left.lookup here path = .ok node ↔ right.lookup here path = .ok node

variable {left right : Tree}

theorem SameAt.isPresent_eq (same : left.SameAt right here path) :
    left.isPresent here path = right.isPresent here path := by
  rw [Bool.eq_iff_iff, isPresent_iff, isPresent_iff]
  exact exists_congr same

/-- Why nothing can be read may differ where nothing is there. -/
theorem SameAt.readText_eq (same : left.SameAt right here path)
    (present : left.isPresent here path = true) :
    left.readText here path = right.readText here path := by
  obtain ⟨node, found⟩ := isPresent_iff.mp present
  rw [readText, readText, found, (same node).mp found]

end Files.Tree

end RevealGates
