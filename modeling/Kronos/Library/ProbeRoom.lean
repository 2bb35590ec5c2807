import Kronos.Library.ProbeChurn

/-!
# Insertions without room

When the array cannot be doubled, insertions go on filling it.  As long as some
slot is empty or a tombstone they find a place.  In an array full of entries
the walk of a new key comes around to where it began, and the insertion
overwrites the entry it finds there.
-/

namespace Library

namespace ProbeTable

variable {κ ν : Type} {hash : κ -> Nat} {table : ProbeTable κ ν}

/-- An insertion that doubles the array does not overflow the capacity, and one
that does not finds a slot for the key. -/
def HasRoom
    [DecidableEq κ]
    (table : ProbeTable κ ν)
    (key : κ)
    (allocated : Bool) : Prop :=
  if table.crowded && allocated then table.slots.length ≤ 2 ^ 30
  else Accepts table.slots key

instance hasRoomDecidable
    [DecidableEq κ]
    (table : ProbeTable κ ν)
    (key : κ)
    (allocated : Bool) :
    Decidable (HasRoom table key allocated) :=
  inferInstanceAs (Decidable
    (if (table.crowded && allocated) = true then table.slots.length ≤ 2 ^ 30
    else Accepts table.slots key))

/-- The counters of a counted table stay within its capacity. -/
theorem Counted.count_le (counted : Counted hash table) :
    table.count ≤ table.slots.length := by
  rw [counted.live]
  exact List.countP_le_length

/-- A lookup in a placed table reads off what the table represents. -/
theorem Placed.represents_get
    [DecidableEq κ]
    (placed : Placed hash table.slots) :
    Represents table.slots (table.get hash) :=
  fun _ _ => (get_eq_some_iff placed).symm

section Room

variable [DecidableEq κ] {key : κ} {allocated : Bool}

/-- A doubled array has room. -/
theorem Counted.grow_accepts
    (counted : Counted hash table)
    (bounded : table.slots.length ≤ 2 ^ 30)
    (key : κ) :
    Accepts (table.grow hash).slots key := by
  obtain ⟨grown, -, length, count, noneBuried⟩ := counted.grow bounded
  have within := counted.count_le
  have positive := length_pos_of_power counted.placed.power
  have notFull : (table.grow hash).slots.countP Slot.isLive +
      (table.grow hash).slots.countP Slot.isTombstone <
        (table.grow hash).slots.length := by
    rw [← grown.live, ← grown.buried, count, noneBuried, length]
    omega
  obtain ⟨distance, -, vacant⟩ : ∃ distance < (table.grow hash).slots.length,
      pathSlot hash (table.grow hash).slots key distance = .empty :=
    room_of_not_full notFull key
  have present := getElem?_of_pathSlot
    (length_pos_of_power grown.placed.power) vacant
  exact ⟨.empty, List.mem_of_getElem? present, rfl⟩

theorem Counted.takesKey
    (counted : Counted hash table)
    (room : HasRoom table key allocated) :
    TakesKey hash table key allocated := by
  unfold HasRoom at room
  unfold TakesKey makeRoom
  split at room
  case isTrue grows =>
    rw [if_pos grows]
    exact ⟨fun _ _ => room, counted.grow_accepts room key⟩
  case isFalse stays =>
    rw [if_neg stays]
    refine ⟨fun crowded given => absurd ?_ stays, room⟩
    rw [crowded, given]
    rfl

/-- The capacity after an insertion with room. -/
theorem length_put_of_hasRoom
    (room : HasRoom table key allocated)
    (small : table.slots.length ≤ 2 ^ 31)
    (value : ν) :
    (table.put hash key value allocated).slots.length ≤ 2 ^ 31 := by
  unfold HasRoom at room
  rw [length_put]
  split at room
  case isTrue grows =>
    rw [if_pos grows]
    omega
  case isFalse stays =>
    rw [if_neg stays]
    exact small

/-- An array without a place for the key is full of entries. -/
theorem Counted.count_of_not_accepts
    (counted : Counted hash table)
    (full : ¬ Accepts table.slots key) :
    table.count = table.slots.length := by
  rw [counted.live, List.countP_eq_length]
  intro slot member
  cases slot with
  | empty => exact absurd ⟨.empty, member, rfl⟩ full
  | tombstone => exact absurd ⟨.tombstone, member, rfl⟩ full
  | live stored value => rfl

/-- An insertion without room counts an entry more than there are slots. -/
theorem Counted.put_overfull
    (counted : Counted hash table)
    (small : table.slots.length ≤ 2 ^ 31)
    (noRoom : ¬ HasRoom table key allocated)
    (value : ν) :
    (table.put hash key value allocated).slots.length <
      (table.put hash key value allocated).count := by
  unfold HasRoom at noRoom
  split at noRoom
  case isTrue grows =>
    have top : table.slots.length = 2 ^ 31 := by
      by_contra different
      exact noRoom (le_of_power_lt counted.placed.power (by omega))
    have gone : (table.grow hash).slots = [] := by
      rw [← List.length_eq_zero_iff, length_grow, top]
      rfl
    rw [length_put, if_pos grows, top, ProbeTable.put, makeRoom,
      if_pos grows, ProbeTable.insert, gone]
    exact Nat.succ_pos _
  case isFalse stays =>
    have walked : spotFrom table.slots key table.slots.length
        ((hash key + 0) % table.slots.length) none = .vacant _ :=
      spotFrom_of_not_accepts counted.placed.power noRoom
        table.slots.length 0
    rw [Nat.add_zero, ← mask_eq_mod counted.placed.power] at walked
    rw [length_put, if_neg stays, ProbeTable.put, makeRoom, if_neg stays,
      ProbeTable.insert, walked, ← counted.count_of_not_accepts noRoom]
    exact Nat.lt_succ_self _

end Room

end ProbeTable

end Library
