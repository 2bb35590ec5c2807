import Mathlib.Data.List.Nodup
import Mathlib.Data.List.Perm.Subperm
import Mathlib.Data.Nat.ModEq
import Kronos.Library.ProbeMap

/-!
# Churn in a probe table

A `put` doubles the array when entries and tombstones together take three
quarters of it, whatever part of that is tombstones.  The number of `put`s pays
for the growth in both directions: a `put` takes at most one slot more, so a
table that keeps few entries cannot be doubled by few `put`s; and keys with
consecutive hashes take every slot in turn, so that it is doubled by many.
-/

namespace Library

namespace ProbeTable

variable {κ ν : Type} {hash : κ -> Nat} {table : ProbeTable κ ν}

/-- The slots in use, by entries and by tombstones. -/
def load (table : ProbeTable κ ν) : Nat :=
  table.count + table.tombstones

/-! ## Capacities -/

theorem length_foldl_rehash
    (entries : List (Slot κ ν))
    (table : ProbeTable κ ν) :
    (entries.foldl (rehash hash) table).slots.length =
      table.slots.length := by
  induction entries generalizing table with
  | nil => rfl
  | cons slot entries inductionHypothesis =>
      rw [List.foldl_cons, inductionHypothesis]
      cases slot with
      | empty => rfl
      | tombstone => rfl
      | live key value => exact List.length_set

/-- The array is doubled in 32-bit arithmetic. -/
theorem length_grow (table : ProbeTable κ ν) :
    (table.grow hash).slots.length = table.slots.length * 2 % 2 ^ 32 := by
  rw [ProbeTable.grow, length_foldl_rehash]
  exact List.length_replicate

section Lengths

variable [DecidableEq κ]

theorem length_insert (key : κ) (value : ν) :
    (table.insert hash key value).slots.length = table.slots.length := by
  rw [insert_slots, List.length_set]

theorem length_remove (key : κ) :
    (table.remove hash key).slots.length = table.slots.length := by
  unfold ProbeTable.remove
  split
  case h_1 => exact List.length_set
  case h_2 => rfl

/-- The capacity after a `put`. -/
theorem length_put (key : κ) (value : ν) (allocated : Bool) :
    (table.put hash key value allocated).slots.length =
      if table.crowded && allocated then table.slots.length * 2 % 2 ^ 32
      else table.slots.length := by
  rw [ProbeTable.put, length_insert, makeRoom]
  split
  case isTrue => exact length_grow table
  case isFalse => rfl

end Lengths

/-! ## The load -/

section Loads

variable [DecidableEq κ]

/-- A `put` takes one slot more, or doubles the array and leaves only entries
in it. -/
theorem Sound.put_load
    (sound : Sound hash table)
    (bounded : table.slots.length ≤ 2 ^ 30)
    (key : κ)
    (value : ν) :
    (table.load * 4 < table.slots.length * 3 ∧
      (table.put hash key value true).slots.length = table.slots.length ∧
      (table.put hash key value true).load ≤ table.load + 1) ∨
    (table.slots.length * 3 ≤ table.load * 4 ∧
      (table.put hash key value true).slots.length =
        table.slots.length * 2 ∧
      (table.put hash key value true).load ≤ table.count + 1) := by
  rw [ProbeTable.put, makeRoom, Bool.and_true, length_insert]
  by_cases crowd : table.crowded = true
  · rw [if_pos crowd]
    obtain ⟨grown, -, room⟩ := sound.grow bounded
    obtain ⟨-, -, length, count, noneBuried⟩ := sound.counted.grow bounded
    obtain ⟨-, -, -, load⟩ := grown.counted.insert (grown.accepts key) value
    rw [count, noneBuried] at load
    exact .inr ⟨(sound.crowded_iff bounded).mp crowd, length, load⟩
  · rw [if_neg crowd]
    obtain ⟨-, -, -, load⟩ := sound.counted.insert (sound.accepts key) value
    rw [sound.crowded_iff bounded] at crowd
    exact .inl ⟨Nat.lt_of_not_le crowd, rfl, load⟩

/-- A new key is one entry more. -/
theorem Sound.insert_count
    (sound : Sound hash table)
    {key : κ}
    (absent : ∀ value, .live key value ∉ table.slots)
    (value : ν) :
    (table.insert hash key value).count = table.count + 1 := by
  have fits := sound.placed.insert_fits (sound.accepts key)
  rw [ProbeTable.insert]
  cases spot : spotFrom table.slots key table.slots.length
      (mask table.slots.length (hash key)) none with
  | present position =>
      rw [spot] at fits
      obtain ⟨stored, present⟩ := fits
      exact absurd (List.mem_of_getElem? present) (absent stored)
  | reused position => rfl
  | vacant position => rfl

theorem Sound.put_count
    (sound : Sound hash table)
    (bounded : table.slots.length ≤ 2 ^ 30)
    {key : κ}
    (absent : ∀ value, .live key value ∉ table.slots)
    (value : ν) :
    (table.put hash key value true).count = table.count + 1 := by
  rw [ProbeTable.put, makeRoom, Bool.and_true]
  split
  case isTrue =>
      obtain ⟨grown, members, -⟩ := sound.grow bounded
      obtain ⟨-, -, -, count, -⟩ := sound.counted.grow bounded
      rw [grown.insert_count (fun stored => mt (members key stored).mp
        (absent stored)), count]
  case isFalse => exact sound.insert_count absent value

/-- Removing a key is one entry less, if there was one. -/
theorem remove_count (key : κ) :
    (table.remove hash key).count =
      if (table.get hash key).isSome then table.count - 1
      else table.count := by
  rw [ProbeTable.remove, ProbeTable.get]
  cases table.find hash key with
  | none => rfl
  | some entry => rfl

end Loads

/-! ## Slots in use -/

/-- The slot at a position was used. -/
def Occupied (slots : List (Slot κ ν)) (position : Nat) : Prop :=
  slots.getD position .empty ≠ .empty

section Occupation

variable {slots : List (Slot κ ν)}

/-- No write makes a slot unused. -/
theorem Occupied.set
    {position other : Nat}
    {slot : Slot κ ν}
    (occupied : Occupied slots position)
    (used : slot ≠ .empty) :
    Occupied (slots.set other slot) position := by
  unfold Occupied at occupied ⊢
  rw [List.getD_eq_getElem?_getD] at occupied ⊢
  rw [List.getElem?_set]
  split
  case isTrue same =>
      split
      case isTrue => exact used
      case isFalse outside =>
          rw [← same, List.getElem?_eq_none (Nat.le_of_not_lt outside)]
            at occupied
          exact absurd rfl occupied
  case isFalse => exact occupied

theorem Occupied.insert
    [DecidableEq κ]
    {position : Nat}
    (occupied : Occupied table.slots position)
    (key : κ)
    (value : ν) :
    Occupied (table.insert hash key value).slots position := by
  rw [insert_slots]
  exact occupied.set (by simp)

theorem Occupied.remove
    [DecidableEq κ]
    {position : Nat}
    (occupied : Occupied table.slots position)
    (key : κ) :
    Occupied (table.remove hash key).slots position := by
  unfold ProbeTable.remove
  split
  case h_1 => exact occupied.set (by simp)
  case h_2 => exact occupied

/-- An insertion leaves the home of its key in use. -/
theorem insert_occupies_home
    [DecidableEq κ]
    (power : ∃ exponent, table.slots.length = 2 ^ exponent)
    (key : κ)
    (value : ν) :
    Occupied (table.insert hash key value).slots
      (hash key % table.slots.length) := by
  have positive := length_pos_of_power power
  have inside := Nat.mod_lt (hash key) positive
  by_cases home : table.slots.getD (hash key % table.slots.length) .empty =
      .empty
  · have spot : spotFrom table.slots key table.slots.length
        (mask table.slots.length (hash key)) none =
          .vacant (hash key % table.slots.length) := by
      obtain ⟨left, length⟩ := Nat.exists_eq_succ_of_ne_zero positive.ne'
      rw [mask_eq_mod power]
      generalize hash key % table.slots.length = position at home
      rw [length, spotFrom, home]
      rfl
    rw [insert_slots, spot, Occupied, List.getD_eq_getElem?_getD,
      Spot.position, List.getElem?_set_self inside]
    simp
  · exact Occupied.insert home key value

theorem Occupied.put_of_room
    [DecidableEq κ]
    {position : Nat}
    (occupied : Occupied table.slots position)
    (room : table.crowded = false)
    (key : κ)
    (value : ν) :
    Occupied (table.put hash key value true).slots position := by
  rw [ProbeTable.put, makeRoom, room]
  exact occupied.insert key value

/-- A `put` leaves the home of its key in use, in the array that it leaves. -/
theorem Sound.put_occupies_home
    [DecidableEq κ]
    (sound : Sound hash table)
    (bounded : table.slots.length ≤ 2 ^ 30)
    (key : κ)
    (value : ν) :
    Occupied (table.put hash key value true).slots
      (hash key % (table.put hash key value true).slots.length) := by
  rw [ProbeTable.put, length_insert]
  apply insert_occupies_home
  rw [makeRoom, Bool.and_true]
  split
  case isTrue => exact (sound.grow bounded).1.placed.power
  case isFalse => exact sound.placed.power

/-- The load counts the slots in use. -/
theorem Counted.load_eq_countP (counted : Counted hash table) :
    table.load = table.slots.countP fun slot => !slot.isEmpty := by
  have total := length_eq_countP table.slots
  have split := table.slots.length_eq_countP_add_countP Slot.isEmpty
  rw [load, counted.live, counted.buried]
  simp only [Bool.not_eq_true, Bool.decide_eq_false] at split
  omega

/-- Distinct slots in use are counted by the load. -/
theorem Counted.length_le_load
    (counted : Counted hash table)
    {positions : List Nat}
    (distinct : positions.Nodup)
    (occupied : ∀ position ∈ positions, Occupied table.slots position) :
    positions.length ≤ table.load := by
  have read : (List.range table.slots.length).map
      (fun position => table.slots.getD position .empty) = table.slots := by
    apply List.ext_getElem
    · simp
    · intro position inside outside
      simp [outside]
  have used : positions ⊆ (List.range table.slots.length).filter
      fun position => !(table.slots.getD position .empty).isEmpty := by
    intro position member
    have nonempty := occupied position member
    rw [List.mem_filter, List.mem_range]
    constructor
    · by_contra outside
      apply nonempty
      rw [List.getD_eq_getElem?_getD,
        List.getElem?_eq_none (Nat.le_of_not_lt outside), Option.getD_none]
    · cases slot : table.slots.getD position .empty with
      | empty => exact absurd slot nonempty
      | tombstone => rfl
      | live key value => rfl
  have fewer := (List.subperm_of_subset distinct used).length_le
  rw [counted.load_eq_countP, ← read, List.countP_map,
    List.countP_eq_length_filter]
  exact fewer

end Occupation

/-! ## Paying for growth -/

/-- The `put`s that pay for a number of doublings, from a capacity on, of a
table that keeps a number of entries: three quarters of each capacity, less the
entries kept. -/
def growthCost (capacity kept : Nat) : Nat -> Nat
  | 0 => 0
  | growths + 1 =>
      growthCost capacity kept growths +
        (capacity * 2 ^ growths * 3 / 4 - kept)

/-- A table that was doubled no more often than its `put`s pay for. -/
structure Paced
    (hash : κ -> Nat)
    (capacity kept growths puts : Nat)
    (table : ProbeTable κ ν) : Prop where
  sound : Sound hash table
  length : table.slots.length = capacity * 2 ^ growths
  paid : growthCost capacity kept growths + table.load ≤ puts

section Pace

variable {capacity kept growths puts : Nat}

theorem create_paced
    {exponent : Nat}
    (large : 4 ≤ exponent)
    (kept : Nat) :
    Paced hash (2 ^ exponent) kept 0 0
      (create (2 ^ exponent) : ProbeTable κ ν) where
  sound := create_sound hash large
  length := by simp [create]
  paid := le_refl 0

/-- A `put` into a table with few entries doubles it only when it is paid for
up to three quarters of the capacity. -/
theorem Paced.put
    [DecidableEq κ]
    (paced : Paced hash capacity kept growths puts table)
    (bounded : table.slots.length ≤ 2 ^ 30)
    (few : table.count ≤ kept)
    (key : κ)
    (value : ν) :
    Paced hash capacity kept growths (puts + 1)
        (table.put hash key value true) ∨
      growthCost capacity kept growths + capacity * 2 ^ growths * 3 / 4 ≤
          puts ∧
        Paced hash capacity kept (growths + 1) (puts + 1)
          (table.put hash key value true) := by
  obtain ⟨sound, length, paid⟩ := paced
  obtain ⟨stillSound, -⟩ := sound.put bounded key value
  rcases sound.put_load bounded key value with
    ⟨-, sameLength, load⟩ | ⟨crowded, doubled, load⟩
  · exact .inl ⟨stillSound, sameLength.trans length, by omega⟩
  · have entries : table.count ≤ table.load := Nat.le_add_right _ _
    rw [length] at crowded doubled
    refine .inr ⟨by omega, stillSound, ?_, ?_⟩
    · rw [doubled, Nat.pow_succ, Nat.mul_assoc]
    · rw [growthCost]
      omega

theorem Paced.remove
    [DecidableEq κ]
    (paced : Paced hash capacity kept growths puts table)
    (key : κ) :
    Paced hash capacity kept growths puts (table.remove hash key) := by
  obtain ⟨sound, length, paid⟩ := paced
  obtain ⟨removed, -, sameLength⟩ := sound.remove key
  obtain ⟨-, -, -, load⟩ := sound.counted.remove key
  refine ⟨removed, sameLength.trans length, ?_⟩
  rw [ProbeTable.load, load]
  exact paid

end Pace

/-! ## Consecutive hashes -/

/-- A table into which keys with consecutive hashes were put, the next one to
come with hash `next`: the homes of those since the last doubling are in
use. -/
structure Swept
    (hash : κ -> Nat)
    (capacity growths puts next : Nat)
    (table : ProbeTable κ ν) : Prop where
  sound : Sound hash table
  length : table.slots.length = capacity * 2 ^ growths
  recent : ∃ recent, recent ≤ next ∧ recent ≤ table.slots.length ∧
    puts ≤ growthCost capacity 0 growths + recent ∧
    ∀ position < recent,
      Occupied table.slots ((next - recent + position) % table.slots.length)

section Sweep

variable {capacity growths puts next : Nat}

theorem create_swept
    {exponent : Nat}
    (large : 4 ≤ exponent)
    (next : Nat) :
    Swept hash (2 ^ exponent) 0 0 next
      (create (2 ^ exponent) : ProbeTable κ ν) where
  sound := create_sound hash large
  length := by simp [create]
  recent := ⟨0, Nat.zero_le _, Nat.zero_le _, le_refl 0, by simp⟩

/-- Consecutive homes, not more than the array has, are distinct. -/
theorem consecutive_homes_nodup
    (first : Nat)
    {recent length : Nat}
    (fits : recent ≤ length) :
    ((List.range recent).map fun position =>
      (first + position) % length).Nodup := by
  apply List.Nodup.map_on _ List.nodup_range
  intro left leftInside right rightInside same
  rw [List.mem_range] at leftInside rightInside
  have congruent : left ≡ right [MOD length] :=
    Nat.ModEq.add_left_cancel' first same
  exact congruent.eq_of_lt_of_lt (by omega) (by omega)

/-- Consecutive homes in use are counted by the load. -/
theorem Counted.recent_le_load
    (counted : Counted hash table)
    {first recent : Nat}
    (fits : recent ≤ table.slots.length)
    (occupied : ∀ position < recent,
      Occupied table.slots ((first + position) % table.slots.length)) :
    recent ≤ table.load := by
  have fewer := counted.length_le_load (consecutive_homes_nodup first fits) (by
    intro position member
    obtain ⟨offset, inside, rfl⟩ := List.mem_map.mp member
    exact occupied offset (List.mem_range.mp inside))
  rw [List.length_map, List.length_range] at fewer
  exact fewer

/-- The doublings and the slots in use account for all `put`s. -/
theorem Swept.puts_le
    (swept : Swept hash capacity growths puts next table) :
    puts ≤ growthCost capacity 0 growths + table.load := by
  obtain ⟨sound, -, recent, -, fits, paid, occupied⟩ := swept
  have counted := sound.counted.recent_le_load fits occupied
  omega

/-- The next key takes its home, or doubles the array after at most three
quarters of it were taken. -/
theorem Swept.put
    [DecidableEq κ]
    (swept : Swept hash capacity growths puts next table)
    (aligned : 4 ∣ capacity)
    (bounded : table.slots.length ≤ 2 ^ 30)
    {key : κ}
    (issued : hash key = next)
    (value : ν) :
    ∃ grown, Swept hash capacity grown (puts + 1) (next + 1)
      (table.put hash key value true) := by
  have afford := swept.puts_le
  obtain ⟨sound, length, recent, before, fits, paid, occupied⟩ := swept
  obtain ⟨stillSound, -⟩ := sound.put bounded key value
  have home := sound.put_occupies_home bounded key value
  rw [issued] at home
  rcases sound.put_load bounded key value with
    ⟨room, sameLength, load⟩ | ⟨crowded, doubled, load⟩
  · have recentLoad := sound.counted.recent_le_load fits occupied
    have notCrowded : table.crowded = false := by
      apply Bool.eq_false_of_not_eq_true
      rw [sound.crowded_iff bounded]
      exact Nat.not_le.mpr room
    refine ⟨growths, stillSound, sameLength.trans length, recent + 1,
      by omega, by omega, by omega, ?_⟩
    intro position inside
    rcases Nat.lt_or_eq_of_le (Nat.le_of_lt_succ inside) with earlier | rfl
    · rw [sameLength, Nat.add_sub_add_right]
      exact (occupied position earlier).put_of_room notCrowded key value
    · rw [Nat.add_sub_add_right, Nat.sub_add_cancel before]
      exact home
  · have aligned : 4 ∣ table.slots.length := by
      rw [length]
      exact aligned.mul_right _
    have full := sound.load
    have large := stillSound.large
    rw [← ProbeTable.load] at full
    refine ⟨growths + 1, stillSound, ?_, 1, by omega, by omega, ?_, ?_⟩
    · rw [doubled, length, Nat.pow_succ, Nat.mul_assoc]
    · rw [growthCost, ← length]
      omega
    · intro position inside
      obtain rfl := Nat.lt_one_iff.mp inside
      exact home

theorem Swept.remove
    [DecidableEq κ]
    (swept : Swept hash capacity growths puts next table)
    (key : κ) :
    Swept hash capacity growths puts next (table.remove hash key) := by
  obtain ⟨sound, length, recent, before, fits, paid, occupied⟩ := swept
  obtain ⟨removed, -, sameLength⟩ := sound.remove key
  refine ⟨removed, sameLength.trans length, recent, before, ?_, paid, ?_⟩
  · rw [sameLength]
    exact fits
  · intro position inside
    rw [sameLength]
    exact (occupied position inside).remove key

end Sweep

end ProbeTable

end Library
