import RevealGates.Toml.Value

/-!
Sections: the tables of a document while it is being put together.

A table may be announced by its own header, implied by the header of a table below it, or implied
by a dotted key. How it came about decides what may still be added: a header may give a table only
once, and dotted keys extend only tables that dotted keys began.
-/

set_option autoImplicit false

namespace RevealGates.Toml

/-- How a table came about. -/
inductive Origin where
  /-- By its own header; the document itself counts as such. -/
  | header
  | implied
  | dotted
  deriving DecidableEq, Repr

/-- What a key of an unfinished document stands for. -/
inductive Item where
  | value (value : Value)
  | section (origin : Origin) (members : List (String × Item))
  | sections (elements : List (List (String × Item)))

/-- An assignment of a value to a key below some parent keys. -/
structure Assignment where
  parents : List String
  key : String
  value : Value

/-- A header with the assignments below it. -/
structure Block where
  /-- Whether the header adds an element to an array of tables. -/
  repeated : Bool
  parents : List String
  key : String
  assignments : List Assignment

namespace Section

/-- Changes the table that a path leads to, beginning tables on the way where there are none.
Through an array of tables the path leads to its last element; through a value it leads nowhere. -/
def update (dotted : Bool) (change : Origin → Members Item → Option (Members Item)) :
    List String → Origin → Members Item → Option (Members Item)
  | [], origin, members => change origin members
  | key :: path, _, members =>
      match members.get? key with
      | none => do
          let origin := if dotted then Origin.dotted else Origin.implied
          let inner ← update dotted change path origin []
          some (members.put key (.section origin inner))
      | some (.value _) => none
      | some (.section origin held) => do
          if dotted ∧ origin = .header then none
          else
            let inner ← update dotted change path origin held
            some (members.put key (.section origin inner))
      | some (.sections elements) =>
          match elements.getLast? with
          | none => none
          | some last => do
              let inner ← update dotted change path .header last
              some (members.put key (.sections (elements.dropLast ++ [inner])))

/-- Carries out one assignment. A key is assigned once; a dotted key ends in a table that dotted
keys began, and a plain key in one that they did not. -/
def assign (assignment : Assignment) (members : Members Item) : Option (Members Item) :=
  update true
    (fun origin members =>
      if origin = .dotted ↔ assignment.parents = [] then none
      else members.add? assignment.key (.value assignment.value))
    assignment.parents .header members

def assignAll (assignments : List Assignment) (members : Members Item) : Option (Members Item) :=
  assignments.foldlM (fun members assignment => assign assignment members) members

/-- Adds a block to a document. A table takes its place in the document at its own header, even if
it was implied before. -/
def addBlock (block : Block) (document : Members Item) : Option (Members Item) :=
  update false
    (fun _ members =>
      match block.repeated, members.get? block.key with
      | false, none => do
          let filled ← assignAll block.assignments []
          some (members.put block.key (.section .header filled))
      | false, some (.section .implied held) => do
          let filled ← assignAll block.assignments held
          some ((members.erase block.key).put block.key (.section .header filled))
      | true, none => do
          let filled ← assignAll block.assignments []
          some (members.put block.key (.sections [filled]))
      | true, some (.sections elements) => do
          let filled ← assignAll block.assignments []
          some (members.put block.key (.sections (elements ++ [filled])))
      | _, _ => none)
    block.parents .header document

mutual

def finishItem : Item → Value
  | .value value => value
  | .section _ members => .table (finish members)
  | .sections elements => .array (finishAll elements)

def finish : List (String × Item) → List (String × Value)
  | [] => []
  | (key, item) :: rest => (key, finishItem item) :: finish rest

def finishAll : List (List (String × Item)) → List Value
  | [] => []
  | members :: rest => .table (finish members) :: finishAll rest

end

/-- Puts a whole document together: the assignments before the first header, then the blocks. -/
def assemble (assignments : List Assignment) (blocks : List Block) : Option Table := do
  let top ← assignAll assignments []
  let document ← blocks.foldlM (fun document block => addBlock block document) top
  some (finish document)

def inlineTable (assignments : List Assignment) : Option Value := do
  let members ← assignAll assignments []
  some (.table (finish members))

end Section

end RevealGates.Toml
