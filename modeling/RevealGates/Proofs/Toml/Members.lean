import RevealGates.Toml.Members

/-!
Members of a table without repeated keys.

What is added to a table goes in beside the keys it has, so keys stay distinct. Sorting puts
distinct keys in strictly increasing order.
-/

set_option autoImplicit false

namespace RevealGates.Toml

namespace Members

variable {Value : Type}

/-- No key comes twice, and all values are good. -/
structure Distinct (good : Value → Prop) (members : Members Value) : Prop where
  unique : members.keys.Nodup
  each : ∀ member ∈ members, good member.2

theorem mem_of_get? {key : String} {value : Value} {members : Members Value}
    (found : members.get? key = some value) : (key, value) ∈ members := by
  induction members with
  | nil => simp [get?] at found
  | cons member rest ih =>
      obtain ⟨other, held⟩ := member
      by_cases same : other = key
      · obtain rfl : held = value := by simpa [get?, same] using found
        exact same ▸ .head _
      · exact .tail _ (ih (by simpa [get?, same] using found))

theorem get?_eq_none_iff {key : String} {members : Members Value} :
    members.get? key = none ↔ key ∉ members.keys := by
  induction members with
  | nil => simp [get?, keys]
  | cons member rest ih =>
      obtain ⟨other, held⟩ := member
      by_cases same : other = key
      · simp [get?, keys, same]
      · simpa [get?, keys, same, Ne.symm same] using ih

theorem mem_put {key : String} {value : Value} {members : Members Value}
    {member : String × Value} (included : member ∈ members.put key value) :
    member = (key, value) ∨ member ∈ members := by
  induction members with
  | nil => exact .inl (List.mem_singleton.mp included)
  | cons first rest ih =>
      obtain ⟨other, held⟩ := first
      simp only [put] at included
      split at included
      · rcases List.mem_cons.mp included with new | old
        · exact .inl new
        · exact .inr (.tail _ old)
      · rcases List.mem_cons.mp included with old | later
        · exact .inr (old ▸ .head _)
        · exact (ih later).imp id (.tail _)

theorem mem_keys_put {key other : String} {value : Value} {members : Members Value}
    (included : other ∈ (members.put key value).keys) : other = key ∨ other ∈ members.keys := by
  obtain ⟨member, present, rfl⟩ := List.mem_map.mp included
  rcases mem_put present with rfl | old
  · exact .inl rfl
  · exact .inr (List.mem_map_of_mem old)

theorem nodup_keys_put {key : String} {value : Value} {members : Members Value}
    (unique : members.keys.Nodup) : (members.put key value).keys.Nodup := by
  induction members with
  | nil => simp [put, keys]
  | cons first rest ih =>
      obtain ⟨other, held⟩ := first
      obtain ⟨fresh, restUnique⟩ := List.nodup_cons.mp unique
      simp only [put]
      split
      · next same => exact same ▸ unique
      · next different =>
        apply List.nodup_cons.mpr
        refine ⟨?_, ih restUnique⟩
        intro included
        rcases mem_keys_put included with same | old
        · exact different same
        · exact fresh old

namespace Distinct

variable {good : Value → Prop} {members : Members Value}

theorem nil : Distinct good ([] : Members Value) := ⟨List.nodup_nil, nofun⟩

theorem get? (distinct : members.Distinct good) {key : String} {value : Value}
    (found : members.get? key = some value) : good value :=
  distinct.each _ (mem_of_get? found)

theorem put (distinct : members.Distinct good) (key : String) {value : Value}
    (valid : good value) : (members.put key value).Distinct good where
  unique := nodup_keys_put distinct.unique
  each := by
    intro member included
    rcases mem_put included with rfl | old
    · exact valid
    · exact distinct.each member old

theorem erase (distinct : members.Distinct good) (key : String) :
    (members.erase key).Distinct good where
  unique := distinct.unique.sublist (List.filter_sublist.map Prod.fst)
  each := fun member included => distinct.each member (List.mem_filter.mp included).1

theorem add? (distinct : members.Distinct good) {key : String} {value : Value}
    (valid : good value) {updated : Members Value}
    (added : members.add? key value = some updated) : updated.Distinct good := by
  unfold Members.add? at added
  split at added
  · cases added
  · cases added
    exact distinct.put key valid

end Distinct

/-! ## Sorting -/

theorem mem_insert {key : String} {value : Value} {members : Members Value}
    {member : String × Value} :
    member ∈ members.insert key value ↔ member = (key, value) ∨ member ∈ members := by
  induction members with
  | nil => simp [insert]
  | cons first rest ih =>
      obtain ⟨other, held⟩ := first
      simp only [insert]
      split
      · rw [List.mem_cons, ih, List.mem_cons]
        exact or_left_comm
      · rw [List.mem_cons]

theorem mem_sorted {members : Members Value} {member : String × Value} :
    member ∈ members.sorted ↔ member ∈ members := by
  induction members with
  | nil => rfl
  | cons first rest ih =>
      obtain ⟨key, value⟩ := first
      rw [sorted, mem_insert, ih, List.mem_cons]

private theorem lt_of_not_lt {left right : String} (notBelow : ¬ left < right)
    (different : left ≠ right) : right < left := by
  apply String.not_le.mp
  intro atMost
  exact different (String.le_antisymm atMost (String.not_lt.mp notBelow))

theorem ordered_insert {key : String} {value : Value} {members : Members Value}
    (fresh : key ∉ members.keys)
    (ordered : members.Pairwise fun left right => left.1 < right.1) :
    (members.insert key value).Pairwise fun left right => left.1 < right.1 := by
  induction members with
  | nil => exact List.pairwise_singleton _ _
  | cons first rest ih =>
      obtain ⟨other, held⟩ := first
      obtain ⟨above, restOrdered⟩ := List.pairwise_cons.mp ordered
      obtain ⟨different, freshRest⟩ : key ≠ other ∧ key ∉ keys rest := by
        simpa [keys, not_or] using fresh
      simp only [insert]
      split
      · next below =>
        apply List.pairwise_cons.mpr
        refine ⟨?_, ih freshRest restOrdered⟩
        intro member included
        rcases mem_insert.mp included with rfl | old
        · exact below
        · exact above member old
      · next notBelow =>
        have first := lt_of_not_lt notBelow different.symm
        apply List.pairwise_cons.mpr
        refine ⟨?_, ordered⟩
        intro member included
        rcases List.mem_cons.mp included with rfl | later
        · exact first
        · exact String.lt_trans first (above member later)

theorem ordered_sorted {members : Members Value} (unique : members.keys.Nodup) :
    members.sorted.Pairwise fun left right => left.1 < right.1 := by
  induction members with
  | nil => exact .nil
  | cons first rest ih =>
      obtain ⟨key, value⟩ := first
      obtain ⟨fresh, restUnique⟩ := List.nodup_cons.mp unique
      apply ordered_insert _ (ih restUnique)
      intro included
      obtain ⟨member, present, same⟩ := List.mem_map.mp included
      exact fresh (List.mem_map.mpr ⟨member, mem_sorted.mp present, same⟩)

theorem insert_perm (key : String) (value : Value) (members : Members Value) :
    (members.insert key value).Perm ((key, value) :: members) := by
  induction members with
  | nil => exact .refl _
  | cons first rest ih =>
      obtain ⟨other, held⟩ := first
      simp only [insert]
      split
      · exact (ih.cons _).trans (.swap _ _ _)
      · exact .refl _

theorem sorted_perm (members : Members Value) : members.sorted.Perm members := by
  induction members with
  | nil => exact .refl _
  | cons first rest ih =>
      obtain ⟨key, value⟩ := first
      exact (insert_perm key value _).trans (ih.cons _)

/-- Distinct keys are in the same order after sorting, however they came. -/
theorem sorted_eq_of_perm {left right : Members Value} (same : left.Perm right)
    (unique : left.keys.Nodup) : left.sorted = right.sorted := by
  have rightUnique : right.keys.Nodup := (same.map Prod.fst).nodup_iff.mp unique
  apply List.Perm.eq_of_pairwise _ (ordered_sorted unique) (ordered_sorted rightUnique)
    ((sorted_perm left).trans (same.trans (sorted_perm right).symm))
  intro first second _ _ below above
  exact absurd above (String.lt_asymm below)

theorem get?_of_mem {key : String} {value : Value} {members : Members Value}
    (unique : members.keys.Nodup) (included : (key, value) ∈ members) :
    members.get? key = some value := by
  induction members with
  | nil => cases included
  | cons first rest ih =>
      obtain ⟨other, held⟩ := first
      obtain ⟨fresh, restUnique⟩ := List.nodup_cons.mp unique
      rcases List.mem_cons.mp included with same | later
      · cases same
        exact if_pos rfl
      · have different : other ≠ key := by
          rintro rfl
          exact fresh (List.mem_map.mpr ⟨_, later, rfl⟩)
        rw [get?, if_neg different]
        exact ih restUnique later

end Members

end RevealGates.Toml
