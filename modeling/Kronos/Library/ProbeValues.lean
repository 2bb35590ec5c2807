import Kronos.Library.ProbeMap

/-!
# Values stored once

Two entries of a table never carry the same part of a value, if insertions
always bring a new one.  This needs nothing of the probing invariant: it also
holds of tables in which lookups would go wrong.
-/

namespace Library

namespace Slot

variable {κ ν : Type}

/-- The value stored in a slot. -/
def value? : Slot κ ν -> Option ν
  | live _ value => some value
  | _ => none

end Slot

namespace ProbeTable

variable {κ ν ρ : Type} {project : ν -> ρ} {slots : List (Slot κ ν)}

/-- No two slots store values with the same projection. -/
def DistinctValues (project : ν -> ρ) (slots : List (Slot κ ν)) : Prop :=
  ∀ (left right : Nat) (leftSlot rightSlot : Slot κ ν)
    (leftValue rightValue : ν),
    slots[left]? = some leftSlot -> slots[right]? = some rightSlot ->
    leftSlot.value? = some leftValue -> rightSlot.value? = some rightValue ->
    project leftValue = project rightValue -> left = right

/-- The slot stores no value with the given projection. -/
def Fresh (project : ν -> ρ) (slots : List (Slot κ ν)) (part : ρ) : Prop :=
  ∀ slot ∈ slots, ∀ value, slot.value? = some value -> project value ≠ part

/-- A new projection may be written anywhere. -/
theorem DistinctValues.set_live
    (distinct : DistinctValues project slots)
    {key : κ}
    {value : ν}
    (fresh : Fresh project slots (project value))
    (position : Nat) :
    DistinctValues project (slots.set position (.live key value)) := by
  intro left right leftSlot rightSlot leftValue rightValue leftRead rightRead
    leftStored rightStored same
  rw [List.getElem?_set] at leftRead rightRead
  by_cases leftHere : position = left
  · by_cases rightHere : position = right
    · exact leftHere.symm.trans rightHere
    · rw [if_pos leftHere] at leftRead
      rw [if_neg rightHere] at rightRead
      split at leftRead
      case isFalse => cases leftRead
      case isTrue =>
        cases leftRead
        cases leftStored
        exact absurd same.symm
          (fresh rightSlot (List.mem_of_getElem? rightRead) rightValue
            rightStored)
  · rw [if_neg leftHere] at leftRead
    by_cases rightHere : position = right
    · rw [if_pos rightHere] at rightRead
      split at rightRead
      case isFalse => cases rightRead
      case isTrue =>
        cases rightRead
        cases rightStored
        exact absurd same
          (fresh leftSlot (List.mem_of_getElem? leftRead) leftValue
            leftStored)
    · rw [if_neg rightHere] at rightRead
      exact distinct left right leftSlot rightSlot leftValue rightValue
        leftRead rightRead leftStored rightStored same

/-- Slots may be emptied. -/
theorem DistinctValues.set_tombstone
    (distinct : DistinctValues project slots)
    (position : Nat) :
    DistinctValues project (slots.set position .tombstone) := by
  intro left right leftSlot rightSlot leftValue rightValue leftRead rightRead
    leftStored rightStored same
  rw [List.getElem?_set] at leftRead rightRead
  split at leftRead
  case isTrue =>
    split at leftRead
    case isFalse => cases leftRead
    case isTrue =>
      cases leftRead
      cases leftStored
  case isFalse =>
    split at rightRead
    case isTrue =>
      split at rightRead
      case isFalse => cases rightRead
      case isTrue =>
        cases rightRead
        cases rightStored
    case isFalse =>
      exact distinct left right leftSlot rightSlot leftValue rightValue
        leftRead rightRead leftStored rightStored same

/-- Values after a write are the written one or old ones. -/
theorem value_of_mem_set
    {slot written : Slot κ ν}
    {position : Nat}
    {value : ν}
    (member : slot ∈ slots.set position written)
    (stored : slot.value? = some value) :
    written.value? = some value ∨
      ∃ old ∈ slots, old.value? = some value := by
  rcases List.mem_or_eq_of_mem_set member with old | rfl
  · exact Or.inr ⟨slot, old, stored⟩
  · exact Or.inl stored

/-- Distinct values in the order of the slots. -/
theorem DistinctValues.pairwise
    (distinct : DistinctValues project slots) :
    slots.Pairwise fun left right => ∀ leftValue rightValue,
      left.value? = some leftValue -> right.value? = some rightValue ->
        project leftValue ≠ project rightValue := by
  rw [List.pairwise_iff_getElem]
  intro left right leftInside rightInside below leftValue rightValue
    leftStored rightStored same
  have equal := distinct left right _ _ leftValue rightValue
    (List.getElem?_eq_getElem leftInside)
    (List.getElem?_eq_getElem rightInside) leftStored rightStored same
  omega

/-- A rehash brings over each value once. -/
theorem distinctValues_foldl_rehash
    (hash : κ -> Nat)
    (entries : List (Slot κ ν))
    {table : ProbeTable κ ν}
    (distinct : DistinctValues project table.slots)
    (apart : entries.Pairwise fun left right => ∀ leftValue rightValue,
      left.value? = some leftValue -> right.value? = some rightValue ->
        project leftValue ≠ project rightValue)
    (fresh : ∀ slot ∈ entries, ∀ value, slot.value? = some value ->
      Fresh project table.slots (project value)) :
    DistinctValues project (entries.foldl (rehash hash) table).slots ∧
      ∀ slot ∈ (entries.foldl (rehash hash) table).slots, ∀ value,
        slot.value? = some value ->
          ∃ old, (old ∈ table.slots ∨ old ∈ entries) ∧
            old.value? = some value := by
  induction entries generalizing table with
  | nil =>
      refine ⟨distinct, ?_⟩
      intro slot member value stored
      exact ⟨slot, Or.inl member, stored⟩
  | cons head entries inductionHypothesis =>
      obtain ⟨headApart, tailApart⟩ := List.pairwise_cons.mp apart
      rw [List.foldl_cons]
      have skipped : ∀ unchanged : table.rehash hash head = table,
          DistinctValues project
              (entries.foldl (rehash hash) (table.rehash hash head)).slots ∧
            ∀ slot ∈ (entries.foldl (rehash hash)
                (table.rehash hash head)).slots, ∀ value,
              slot.value? = some value ->
                ∃ old, (old ∈ table.slots ∨ old ∈ head :: entries) ∧
                  old.value? = some value := by
        intro unchanged
        rw [unchanged]
        obtain ⟨grown, origin⟩ := inductionHypothesis distinct tailApart
          (fun slot member => fresh slot (List.mem_cons_of_mem head member))
        refine ⟨grown, ?_⟩
        intro slot member value stored
        obtain ⟨old, from_, same⟩ := origin slot member value stored
        exact ⟨old, from_.imp_right (List.mem_cons_of_mem head), same⟩
      cases head with
      | empty => exact skipped rfl
      | tombstone => exact skipped rfl
      | live key value =>
          have entered : DistinctValues project
              (table.rehash hash (.live key value)).slots :=
            distinct.set_live (fresh (.live key value) (by simp) value rfl) _
          have freshNext : ∀ slot ∈ entries, ∀ other,
              slot.value? = some other ->
                Fresh project (table.rehash hash (.live key value)).slots
                  (project other) := by
            intro slot member other stored current currentMember currentValue
              currentStored
            rcases value_of_mem_set currentMember currentStored with
              written | ⟨old, oldMember, oldStored⟩
            · cases written
              exact headApart slot member value other rfl stored
            · exact fresh slot (by simp [member]) other stored old oldMember
                currentValue oldStored
          obtain ⟨grown, origin⟩ :=
            inductionHypothesis entered tailApart freshNext
          refine ⟨grown, ?_⟩
          intro slot member other stored
          obtain ⟨old, oldFrom, same⟩ := origin slot member other stored
          rcases oldFrom with inTable | inEntries
          · rcases value_of_mem_set inTable same with
              written | ⟨older, olderMember, olderStored⟩
            · exact ⟨.live key value, by simp, written⟩
            · exact ⟨older, Or.inl olderMember, olderStored⟩
          · exact ⟨old, Or.inr (by simp [inEntries]), same⟩

theorem create_distinctValues (project : ν -> ρ) (capacity : Nat) :
    DistinctValues project
      (create capacity : ProbeTable κ ν).slots := by
  intro left right leftSlot rightSlot leftValue rightValue leftRead _
    leftStored
  have member := List.mem_of_getElem? leftRead
  simp only [create, List.mem_replicate] at member
  rw [member.2] at leftStored
  cases leftStored

/-- Making room keeps the stored values. -/
theorem DistinctValues.makeRoom
    {table : ProbeTable κ ν}
    (distinct : DistinctValues project table.slots)
    (hash : κ -> Nat)
    (allocated : Bool) :
    DistinctValues project (table.makeRoom hash allocated).slots ∧
      ∀ part, Fresh project table.slots part ->
        Fresh project (table.makeRoom hash allocated).slots part := by
  unfold ProbeTable.makeRoom
  split
  case isFalse => exact ⟨distinct, fun _ fresh => fresh⟩
  case isTrue =>
    obtain ⟨grown, origin⟩ := distinctValues_foldl_rehash hash table.slots
      (create_distinctValues project (table.slots.length * 2 % 2 ^ 32))
      distinct.pairwise (by
        intro slot _ value _ current member currentValue stored
        simp only [create, List.mem_replicate] at member
        rw [member.2] at stored
        cases stored)
    refine ⟨grown, ?_⟩
    intro part fresh slot member value stored
    obtain ⟨old, from_, same⟩ := origin slot member value stored
    rcases from_ with empty | inTable
    · simp only [create, List.mem_replicate] at empty
      rw [empty.2] at same
      cases same
    · exact fresh old inTable value same

/-! ## What is stored -/

section Stored

variable {holds : κ -> ν -> Prop} {table : ProbeTable κ ν}

/-- Every entry of the array has a property. -/
def AllStored (holds : κ -> ν -> Prop) (slots : List (Slot κ ν)) : Prop :=
  ∀ key value, .live key value ∈ slots -> holds key value

theorem AllStored.set
    (stored : AllStored holds slots)
    {written : Slot κ ν}
    (allowed : ∀ key value, written = .live key value -> holds key value)
    (position : Nat) :
    AllStored holds (slots.set position written) := by
  intro key value member
  rcases List.mem_or_eq_of_mem_set member with old | new
  · exact stored key value old
  · exact allowed key value new.symm

theorem create_allStored (holds : κ -> ν -> Prop) (capacity : Nat) :
    AllStored holds (create capacity : ProbeTable κ ν).slots := by
  intro key value member
  cases List.eq_of_mem_replicate member

theorem AllStored.foldl_rehash
    (stored : AllStored holds table.slots)
    (hash : κ -> Nat)
    {entries : List (Slot κ ν)}
    (entered : AllStored holds entries) :
    AllStored holds (entries.foldl (rehash hash) table).slots := by
  induction entries generalizing table with
  | nil => exact stored
  | cons head entries inductionHypothesis =>
      have later : AllStored holds entries := by
        intro key value member
        exact entered key value (List.mem_cons_of_mem head member)
      refine inductionHypothesis ?_ later
      cases head with
      | empty => exact stored
      | tombstone => exact stored
      | live key value =>
          refine stored.set ?_ _
          intro otherKey other same
          cases same
          exact entered key value (by simp)

theorem AllStored.makeRoom
    (stored : AllStored holds table.slots)
    (hash : κ -> Nat)
    (allocated : Bool) :
    AllStored holds (table.makeRoom hash allocated).slots := by
  unfold ProbeTable.makeRoom
  split
  case isFalse => exact stored
  case isTrue =>
      exact (create_allStored holds _).foldl_rehash hash stored

end Stored

/-! ## Operations on keys -/

variable [DecidableEq κ]

/-- Binding a key to a new value keeps values distinct. -/
theorem DistinctValues.put
    {table : ProbeTable κ ν}
    (distinct : DistinctValues project table.slots)
    (hash : κ -> Nat)
    (key : κ)
    (value : ν)
    (fresh : Fresh project table.slots (project value))
    (allocated : Bool) :
    DistinctValues project (table.put hash key value allocated).slots ∧
      ∀ slot ∈ (table.put hash key value allocated).slots, ∀ stored,
        slot.value? = some stored ->
          stored = value ∨ ¬ Fresh project table.slots (project stored) := by
  obtain ⟨roomy, kept⟩ := distinct.makeRoom hash allocated
  have written : ∃ position, (table.put hash key value allocated).slots =
      (table.makeRoom hash allocated).slots.set position
        (.live key value) := by
    unfold ProbeTable.put ProbeTable.insert
    split <;> exact ⟨_, rfl⟩
  obtain ⟨position, slots⟩ := written
  rw [slots]
  refine ⟨roomy.set_live (kept _ fresh) position, ?_⟩
  intro slot member stored storedHere
  rcases value_of_mem_set member storedHere with here | ⟨old, oldMember, same⟩
  · cases here
    exact Or.inl rfl
  · right
    intro absent
    exact kept _ absent old oldMember stored same rfl

/-- Unbinding a key keeps values distinct and brings none. -/
theorem DistinctValues.remove
    {table : ProbeTable κ ν}
    (distinct : DistinctValues project table.slots)
    (hash : κ -> Nat)
    (key : κ) :
    DistinctValues project (table.remove hash key).slots ∧
      ∀ part, Fresh project table.slots part ->
        Fresh project (table.remove hash key).slots part := by
  unfold ProbeTable.remove
  split
  case h_2 => exact ⟨distinct, fun _ fresh => fresh⟩
  case h_1 position _ _ =>
    refine ⟨distinct.set_tombstone position, ?_⟩
    intro part fresh slot member value stored
    rcases value_of_mem_set member stored with here | ⟨old, oldMember, same⟩
    · cases here
    · exact fresh old oldMember value same

/-- Binding a key adds its own entry at most. -/
theorem AllStored.put
    {holds : κ -> ν -> Prop}
    {table : ProbeTable κ ν}
    (stored : AllStored holds table.slots)
    (hash : κ -> Nat)
    {key : κ}
    {value : ν}
    (allowed : holds key value)
    (allocated : Bool) :
    AllStored holds (table.put hash key value allocated).slots := by
  have roomy := stored.makeRoom hash allocated
  have own : ∀ otherKey other,
      (.live key value : Slot κ ν) = .live otherKey other ->
        holds otherKey other := by
    intro otherKey other same
    cases same
    exact allowed
  unfold ProbeTable.put ProbeTable.insert
  split <;> exact roomy.set own _

/-- Unbinding a key adds no entry. -/
theorem AllStored.remove
    {holds : κ -> ν -> Prop}
    {table : ProbeTable κ ν}
    (stored : AllStored holds table.slots)
    (hash : κ -> Nat)
    (key : κ) :
    AllStored holds (table.remove hash key).slots := by
  unfold ProbeTable.remove
  split
  case h_2 => exact stored
  case h_1 => exact stored.set (fun _ _ same => by cases same) _

/-- What a lookup finds is stored. -/
theorem AllStored.get
    {holds : κ -> ν -> Prop}
    {table : ProbeTable κ ν}
    (stored : AllStored holds table.slots)
    {hash : κ -> Nat}
    {key : κ}
    {value : ν}
    (found : table.get hash key = some value) :
    holds key value := by
  obtain ⟨⟨position, _⟩, walked, rfl⟩ := Option.map_eq_some_iff.mp found
  exact stored key _ (List.mem_of_getElem? (findFrom_sound walked))

end ProbeTable

end Library
