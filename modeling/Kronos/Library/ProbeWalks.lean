import Kronos.Library.ProbeMap

/-!
# Every walk of a sound table stops

A lookup and an insertion walk on over tombstones and foreign entries, and a
rehash over every entry.  The bound on the steps of a lookup is never what ends
it: within one round of the array the walk meets an empty slot, if it does not
meet the key before.  A rehash has no bound on its steps at all.
-/

namespace Library

namespace ProbeTable

variable {κ ν : Type} {hash : κ -> Nat} {slots : List (Slot κ ν)}

/-- The position of a walk after a number of steps. -/
def walk (capacity : Nat) : Nat -> Nat -> Nat
  | 0, position => position
  | steps + 1, position => walk capacity steps (mask capacity (position + 1))

/-- A walk that starts at the home of a key meets an empty slot within one
round, before it would step on a slot twice. -/
def WalkStops
    (hash : κ -> Nat)
    (slots : List (Slot κ ν))
    (key : κ) : Prop :=
  ∃ steps < slots.length,
    slots[walk slots.length steps (mask slots.length (hash key))]? =
      some .empty

theorem walk_eq_mod
    {capacity : Nat}
    (power : ∃ exponent, capacity = 2 ^ exponent)
    (steps start : Nat) :
    walk capacity steps (mask capacity start) =
      (start + steps) % capacity := by
  induction steps generalizing start with
  | zero => exact mask_eq_mod power start
  | succ steps inductionHypothesis =>
      have next : mask capacity (mask capacity start + 1) =
          mask capacity (start + 1) := by
        rw [mask_eq_mod power, mask_eq_mod power, mask_eq_mod power,
          Nat.mod_add_mod]
      rw [walk, next, inductionHypothesis]
      congr 1
      omega

theorem walkStops_of_room
    (power : ∃ exponent, slots.length = 2 ^ exponent)
    {key : κ}
    (room : ∃ distance < slots.length,
      pathSlot hash slots key distance = .empty) :
    WalkStops hash slots key := by
  obtain ⟨distance, near, vacant⟩ := room
  refine ⟨distance, near, ?_⟩
  rw [walk_eq_mod power]
  exact getElem?_of_pathSlot (length_pos_of_power power) vacant

theorem Sound.walkStops
    {table : ProbeTable κ ν}
    (sound : Sound hash table)
    (key : κ) :
    WalkStops hash table.slots key :=
  walkStops_of_room sound.placed.power (sound.room key)

/-- The table that an insertion walks over is sound. -/
theorem Sound.makeRoom
    {table : ProbeTable κ ν}
    (sound : Sound hash table)
    (bounded : table.slots.length ≤ 2 ^ 30)
    (allocated : Bool) :
    Sound hash (table.makeRoom hash allocated) := by
  unfold ProbeTable.makeRoom
  split
  case isTrue => exact (sound.grow bounded).1
  case isFalse => exact sound

/-- The walk of a rehash for each old entry, over the entries entered before
it. -/
theorem Sound.rehash_walkStops
    {table : ProbeTable κ ν}
    (sound : Sound hash table)
    (bounded : table.slots.length ≤ 2 ^ 30)
    {entered rest : List (Slot κ ν)}
    {key : κ}
    {value : ν}
    (split : table.slots = entered ++ .live key value :: rest) :
    WalkStops hash
      (entered.foldl (rehash hash)
        (create (table.slots.length * 2 % 2 ^ 32))).slots key := by
  have large := sound.large
  have shorter : entered.countP Slot.isLive ≤ table.slots.length := by
    rw [split, List.length_append]
    exact Nat.le_add_right_of_le List.countP_le_length
  obtain ⟨filling, -, grownLength, count⟩ :=
    sound.placed.rehash_part bounded split
  refine walkStops_of_room filling.placed.power (room_of_not_full ?_ key)
  rw [← filling.live, filling.noTombstone, count, grownLength]
  omega

end ProbeTable

end Library
