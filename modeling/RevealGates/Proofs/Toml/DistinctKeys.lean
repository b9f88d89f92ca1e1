import RevealGates.Proofs.Toml.Members
import RevealGates.Toml.Grammar

/-!
Keys of a document are distinct.

A key is assigned once, a header gives a table once, and what is added to a table later goes in
beside the keys it has. So no table of a document, at any depth and however it came about, holds a
key twice. This is what makes a list of members a table: its order does not matter to a look-up.
-/

set_option autoImplicit false

namespace RevealGates.Toml

/-! ## Values and unfinished documents -/

/-- No table inside a value holds a key twice. -/
inductive Value.Distinct : Value → Prop where
  | string {text} : Distinct (.string text)
  | integer {value} : Distinct (.integer value)
  | float {value} : Distinct (.float value)
  | boolean {value} : Distinct (.boolean value)
  | moment {text} : Distinct (.moment text)
  | array {elements} : (∀ element ∈ elements, Distinct element) → Distinct (.array elements)
  | table {members} : (Members.keys members).Nodup →
      (∀ member ∈ members, Distinct member.2) → Distinct (.table members)

/-- No table inside an unfinished item holds a key twice. -/
inductive Item.Distinct : Item → Prop where
  | value {value} : value.Distinct → Distinct (.value value)
  | table {origin members} : (Members.keys members).Nodup →
      (∀ member ∈ members, Distinct member.2) → Distinct (.section origin members)
  | tables {elements} : (∀ members ∈ elements, (Members.keys members).Nodup) →
      (∀ members ∈ elements, ∀ member ∈ members, Distinct member.2) →
      Distinct (.sections elements)

theorem Value.Distinct.members {members : Table} (distinct : (Value.table members).Distinct) :
    Members.Distinct Value.Distinct members := by
  cases distinct with
  | table unique each => exact ⟨unique, each⟩

theorem Members.Distinct.value {members : Table} (distinct : members.Distinct Value.Distinct) :
    (Value.table members).Distinct :=
  .table distinct.unique distinct.each

namespace Item.Distinct

theorem members {origin : Origin} {members : Members Item}
    (distinct : (Item.section origin members).Distinct) :
    members.Distinct Item.Distinct := by
  cases distinct with
  | table unique each => exact ⟨unique, each⟩

theorem elements {elements : List (Members Item)} (distinct : (Item.sections elements).Distinct)
    {members : Members Item} (included : members ∈ elements) :
    members.Distinct Item.Distinct := by
  cases distinct with
  | tables unique each => exact ⟨unique members included, each members included⟩

theorem snoc {elements : List (Members Item)} {last : Members Item}
    (each : ∀ members ∈ elements, Members.Distinct Item.Distinct members)
    (valid : last.Distinct Item.Distinct) : (Item.sections (elements ++ [last])).Distinct := by
  have all : ∀ members ∈ elements ++ [last], Members.Distinct Item.Distinct members := by
    intro members included
    rcases List.mem_append.mp included with kept | new
    · exact each members kept
    · exact List.mem_singleton.mp new ▸ valid
  exact .tables (fun members included => (all members included).unique)
    (fun members included => (all members included).each)

end Item.Distinct

theorem Members.Distinct.item {members : Members Item} (distinct : members.Distinct Item.Distinct)
    (origin : Origin) : (Item.section origin members).Distinct :=
  .table distinct.unique distinct.each

namespace Section

theorem finish_eq_map (members : Members Item) :
    finish members = members.map fun member => (member.1, finishItem member.2) := by
  induction members with
  | nil => rfl
  | cons member rest ih =>
      obtain ⟨key, item⟩ := member
      rw [finish, ih, List.map_cons]

theorem finishAll_eq_map (elements : List (Members Item)) :
    finishAll elements = elements.map fun members => .table (finish members) := by
  induction elements with
  | nil => rfl
  | cons members rest ih => rw [finishAll, ih, List.map_cons]

theorem finish_distinct {members : Members Item} (unique : members.keys.Nodup)
    (each : ∀ member ∈ members, (finishItem member.2).Distinct) :
    Members.Distinct Value.Distinct (finish members) where
  unique := by
    rw [finish_eq_map, Members.keys, List.map_map]
    exact unique
  each := by
    intro member included
    rw [finish_eq_map] at included
    obtain ⟨held, present, rfl⟩ := List.mem_map.mp included
    exact each held present

theorem finishItem_distinct {item : Item} (distinct : item.Distinct) :
    (finishItem item).Distinct := by
  induction distinct with
  | value valid => exact valid
  | table unique _ ih =>
      rw [finishItem]
      exact (finish_distinct unique ih).value
  | tables unique _ ih =>
      rw [finishItem, finishAll_eq_map]
      apply Value.Distinct.array
      intro element included
      obtain ⟨members, present, rfl⟩ := List.mem_map.mp included
      exact (finish_distinct (unique members present) (ih members present)).value

theorem finish_members_distinct {members : Members Item}
    (distinct : members.Distinct Item.Distinct) :
    Members.Distinct Value.Distinct (finish members) :=
  finish_distinct distinct.unique fun member included =>
    finishItem_distinct (distinct.each member included)

/-- A change at the end of a path keeps keys distinct all along it, if it does so where it is
made. -/
theorem update_distinct {dotted : Bool}
    {change : Origin → Members Item → Option (Members Item)}
    (changed : ∀ origin members updated, Members.Distinct Item.Distinct members →
      change origin members = some updated → updated.Distinct Item.Distinct)
    {path : List String} {origin : Origin} {members updated : Members Item}
    (distinct : members.Distinct Item.Distinct)
    (accepted : update dotted change path origin members = some updated) :
    updated.Distinct Item.Distinct := by
  induction path generalizing origin members updated with
  | nil => exact changed origin members updated distinct accepted
  | cons key path ih =>
      rw [update] at accepted
      cases found : members.get? key with
      | none =>
          rw [found] at accepted
          obtain ⟨inner, recursive, shape⟩ := Option.bind_eq_some_iff.mp accepted
          cases shape
          exact distinct.put key ((ih Members.Distinct.nil recursive).item _)
      | some item =>
          have valid := distinct.get? found
          rw [found] at accepted
          cases item with
          | value _ => cases accepted
          | «section» heldOrigin held =>
              dsimp only at accepted
              split at accepted
              · cases accepted
              · obtain ⟨inner, recursive, shape⟩ := Option.bind_eq_some_iff.mp accepted
                cases shape
                exact distinct.put key ((ih valid.members recursive).item heldOrigin)
          | sections elements =>
              dsimp only at accepted
              split at accepted
              · cases accepted
              · next last isLast =>
                obtain ⟨inner, recursive, shape⟩ := Option.bind_eq_some_iff.mp accepted
                cases shape
                have below := ih (valid.elements (List.mem_of_getLast? isLast)) recursive
                apply distinct.put key
                apply Item.Distinct.snoc _ below
                intro members included
                exact valid.elements ((List.dropLast_sublist elements).subset included)

theorem assign_distinct {assignment : Assignment} (valid : assignment.value.Distinct)
    {members updated : Members Item} (distinct : members.Distinct Item.Distinct)
    (accepted : assign assignment members = some updated) :
    updated.Distinct Item.Distinct := by
  unfold assign at accepted
  apply update_distinct _ distinct accepted
  intro origin members updated distinct added
  split at added
  · cases added
  · exact distinct.add? (.value valid) added

theorem assignAll_distinct {assignments : List Assignment}
    (valid : ∀ assignment ∈ assignments, assignment.value.Distinct)
    {members updated : Members Item} (distinct : members.Distinct Item.Distinct)
    (accepted : assignAll assignments members = some updated) :
    updated.Distinct Item.Distinct := by
  induction assignments generalizing members with
  | nil =>
      cases accepted
      exact distinct
  | cons assignment rest ih =>
      unfold assignAll at accepted
      rw [List.foldlM_cons] at accepted
      obtain ⟨next, assigned, remaining⟩ := Option.bind_eq_some_iff.mp accepted
      exact ih (fun other included => valid other (.tail _ included))
        (assign_distinct (valid assignment (.head _)) distinct assigned) remaining

theorem addBlock_distinct {block : Block}
    (valid : ∀ assignment ∈ block.assignments, assignment.value.Distinct)
    {document updated : Members Item} (distinct : document.Distinct Item.Distinct)
    (accepted : addBlock block document = some updated) :
    updated.Distinct Item.Distinct := by
  unfold addBlock at accepted
  apply update_distinct _ distinct accepted
  intro origin members updated distinct added
  split at added
  · obtain ⟨filled, assigned, shape⟩ := Option.bind_eq_some_iff.mp added
    cases shape
    exact distinct.put block.key ((assignAll_distinct valid .nil assigned).item _)
  · next held found =>
    obtain ⟨filled, assigned, shape⟩ := Option.bind_eq_some_iff.mp added
    cases shape
    have below := assignAll_distinct valid (distinct.get? found).members assigned
    exact (distinct.erase block.key).put block.key (below.item _)
  · obtain ⟨filled, assigned, shape⟩ := Option.bind_eq_some_iff.mp added
    cases shape
    have only : (Item.sections ([] ++ [filled])).Distinct :=
      Item.Distinct.snoc (by simp) (assignAll_distinct valid .nil assigned)
    exact distinct.put block.key only
  · next elements found =>
    obtain ⟨filled, assigned, shape⟩ := Option.bind_eq_some_iff.mp added
    cases shape
    apply distinct.put block.key
    apply Item.Distinct.snoc _ (assignAll_distinct valid .nil assigned)
    exact fun members included => (distinct.get? found).elements included
  · cases added

theorem assemble_distinct {assignments : List Assignment} {blocks : List Block}
    (validTop : ∀ assignment ∈ assignments, assignment.value.Distinct)
    (validBlocks : ∀ block ∈ blocks, ∀ assignment ∈ block.assignments,
      assignment.value.Distinct)
    {document : Table} (accepted : assemble assignments blocks = some document) :
    document.Distinct Value.Distinct := by
  obtain ⟨top, assigned, remaining⟩ := Option.bind_eq_some_iff.mp accepted
  obtain ⟨whole, added, shape⟩ := Option.bind_eq_some_iff.mp remaining
  cases shape
  apply finish_members_distinct
  have topDistinct := assignAll_distinct validTop .nil assigned
  clear accepted assigned remaining
  induction blocks generalizing top with
  | nil =>
      cases added
      exact topDistinct
  | cons block rest ih =>
      rw [List.foldlM_cons] at added
      obtain ⟨next, step, later⟩ := Option.bind_eq_some_iff.mp added
      exact ih (fun other included => validBlocks other (.tail _ included)) next later
        (addBlock_distinct (validBlocks block (.head _)) topDistinct step)

theorem inlineTable_distinct {assignments : List Assignment}
    (valid : ∀ assignment ∈ assignments, assignment.value.Distinct) {value : Value}
    (accepted : inlineTable assignments = some value) : value.Distinct := by
  obtain ⟨members, assigned, shape⟩ := Option.bind_eq_some_iff.mp accepted
  cases shape
  exact (finish_members_distinct (assignAll_distinct valid .nil assigned)).value

end Section

/-! ## What the grammar reads -/

namespace Grammar

/-- The scanner reads only values whose keys are distinct. -/
def ReadsDistinct (scanner : Scanner Value) : Prop :=
  ∀ chars value rest, scanner chars = some (value, rest) → value.Distinct

theorem elements_distinct {element : Scanner Value} (reads : ReadsDistinct element)
    {chars rest : List Char} {values : List Value}
    (read : elements element chars = some (values, rest)) :
    ∀ value ∈ values, value.Distinct := by
  fun_induction elements element chars generalizing values rest with
  | case1 chars rest' closed =>
      cases read
      simp
  | case2 => cases read
  | case3 chars value left rest' closed more atElement =>
      cases read
      simpa using reads _ _ _ atElement
  | case4 chars value left rest' comma shorter more atElement ih =>
      obtain ⟨⟨others, final⟩, recursive, shape⟩ := Option.map_eq_some_iff.mp read
      cases shape
      simpa using ⟨reads _ _ _ atElement, ih recursive⟩
  | case5 => cases read
  | case6 => cases read

theorem assignment_distinct {value : Scanner Value} (reads : ReadsDistinct value)
    {chars rest : List Char} {result : Assignment}
    (read : assignment value chars = some (result, rest)) : result.value.Distinct := by
  obtain ⟨⟨⟨parents, name⟩, left⟩, _, remaining⟩ := Option.bind_eq_some_iff.mp read
  dsimp only at remaining
  split at remaining
  · obtain ⟨⟨held, final⟩, atValue, shape⟩ := Option.bind_eq_some_iff.mp remaining
    cases shape
    exact reads _ _ _ atValue
  · cases remaining

theorem inlineAssignments_distinct {value : Scanner Value} (reads : ReadsDistinct value)
    {chars rest : List Char} {assignments : List Assignment}
    (read : inlineAssignments value chars = some (assignments, rest)) :
    ∀ assignment ∈ assignments, assignment.value.Distinct := by
  fun_induction inlineAssignments value chars generalizing assignments rest with
  | case1 => cases read
  | case2 chars first left atFirst rest' closed =>
      cases read
      simpa using assignment_distinct reads atFirst
  | case3 chars first left atFirst rest' comma shorter ih =>
      obtain ⟨⟨others, final⟩, recursive, shape⟩ := Option.map_eq_some_iff.mp read
      cases shape
      simpa using ⟨assignment_distinct reads atFirst, ih recursive⟩
  | case4 => cases read
  | case5 => cases read

theorem inlineTable_reads {value : Scanner Value} (reads : ReadsDistinct value) :
    ReadsDistinct (inlineTable value) := by
  intro chars result rest read
  unfold inlineTable at read
  split at read
  · cases read
    exact .table List.nodup_nil nofun
  · obtain ⟨⟨assignments, left⟩, inside, remaining⟩ := Option.bind_eq_some_iff.mp read
    obtain ⟨held, assembled, shape⟩ := Option.bind_eq_some_iff.mp remaining
    cases shape
    exact Section.inlineTable_distinct (inlineAssignments_distinct reads inside) assembled

private theorem wordValue?_distinct {word : List Char} {value : Value}
    (read : wordValue? word = some value) : value.Distinct := by
  unfold wordValue? at read
  split at read
  · cases read
    exact .boolean
  split at read
  · cases read
    exact .boolean
  split at read
  · cases read
    exact .moment
  split at read
  · cases read
    exact .float
  · obtain ⟨number, _, shape⟩ := Option.map_eq_some_iff.mp read
    cases shape
    exact .integer

private theorem value_reads_above {depth : Nat}
    (below : ∀ smaller, depth = smaller + 1 → ReadsDistinct (value smaller)) :
    ReadsDistinct (value depth) := by
  intro chars result rest read
  rw [value.eq_def] at read
  split at read
  · cases depth with
    | zero => cases read
    | succ smaller =>
        obtain ⟨⟨values, left⟩, inside, shape⟩ := Option.map_eq_some_iff.mp read
        cases shape
        exact .array (elements_distinct (below smaller rfl) inside)
  · cases depth with
    | zero => cases read
    | succ smaller => exact inlineTable_reads (below smaller rfl) _ _ _ read
  · obtain ⟨⟨text, left⟩, _, shape⟩ := Option.map_eq_some_iff.mp read
    cases shape
    exact .string
  · obtain ⟨⟨text, left⟩, _, shape⟩ := Option.map_eq_some_iff.mp read
    cases shape
    exact .string
  · obtain ⟨held, named, shape⟩ := Option.map_eq_some_iff.mp read
    cases shape
    exact wordValue?_distinct named

theorem value_reads (depth : Nat) : ReadsDistinct (value depth) := by
  induction depth with
  | zero => exact value_reads_above nofun
  | succ depth ih =>
      apply value_reads_above
      intro smaller same
      cases same
      exact ih

theorem line_distinct {chars rest : List Char} {assignment : Assignment}
    (read : line chars = some (.assignment assignment, rest)) : assignment.value.Distinct := by
  unfold line at read
  split at read
  · obtain ⟨⟨⟨parents, name⟩, left⟩, _, remaining⟩ := Option.bind_eq_some_iff.mp read
    dsimp only at remaining
    split at remaining <;> cases remaining
  · obtain ⟨⟨⟨parents, name⟩, left⟩, _, remaining⟩ := Option.bind_eq_some_iff.mp read
    dsimp only at remaining
    split at remaining <;> cases remaining
  · obtain ⟨⟨held, left⟩, inside, shape⟩ := Option.bind_eq_some_iff.mp read
    cases shape
    exact assignment_distinct (value_reads nesting) inside

theorem lines_distinct {chars : List Char} {said : List Line} (read : lines chars = some said)
    {assignment : Assignment} (included : .assignment assignment ∈ said) :
    assignment.value.Distinct := by
  fun_induction lines chars generalizing said with
  | case1 =>
      cases read
      simp at included
  | case2 chars rest shorter started blank ih =>
      exact ih read included
  | case3 => cases read
  | case4 => cases read
  | case5 => cases read
  | case6 chars first left rest ended shorter started unblank atLine ih =>
      obtain ⟨others, recursive, rfl⟩ := Option.map_eq_some_iff.mp read
      rcases List.mem_cons.mp included with rfl | later
      · exact line_distinct atLine
      · exact ih recursive later
  | case7 => cases read

theorem blocks_distinct {said : List Line}
    (valid : ∀ assignment, .assignment assignment ∈ said → assignment.value.Distinct) :
    (∀ assignment ∈ (blocks said).1, assignment.value.Distinct) ∧
      ∀ block ∈ (blocks said).2, ∀ assignment ∈ block.assignments,
        assignment.value.Distinct := by
  induction said with
  | nil => simp [blocks]
  | cons line rest ih =>
      obtain ⟨top, below⟩ := ih fun assignment included => valid assignment (.tail _ included)
      cases line with
      | assignment first =>
          refine ⟨?_, below⟩
          intro assignment included
          rcases List.mem_cons.mp included with rfl | later
          · exact valid assignment (.head _)
          · exact top assignment later
      | header repeated parents key =>
          refine ⟨nofun, ?_⟩
          intro block included
          rcases List.mem_cons.mp included with rfl | later
          · exact top
          · exact below block later

end Grammar

/-- No table of a document holds a key twice. -/
theorem parse_distinct {text : String} {document : Table} (read : parse text = some document) :
    document.Distinct Value.Distinct := by
  obtain ⟨said, scanned, assembled⟩ := Option.bind_eq_some_iff.mp read
  obtain ⟨top, below⟩ := Grammar.blocks_distinct fun _ => Grammar.lines_distinct scanned
  exact Section.assemble_distinct top below assembled

end RevealGates.Toml
