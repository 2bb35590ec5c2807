import Mathlib.Data.List.Basic
import Mathlib.Data.Nat.Bitwise

/-!
# Open addressing with linear probing

A hash table stores its entries in an array whose size is a power of two.  An
operation on a key starts at the masked hash of the key and walks on, one slot
at a time and around the end, until it meets an empty slot.  Removed entries
leave tombstones, which lookups walk over and insertions reuse.  The array is
doubled when three quarters of it are in use; sizes are 32-bit words, as are
the products compared in that test.

`Placed` is the invariant that makes probing work: between the home of a key
and its slot there is no empty slot, and a key has one slot.  Under it lookups
find exactly the live entries, and the walks of an insertion and of a rehash
end at a slot that the key may take.
-/

namespace Library

/-- A slot of the array. -/
inductive Slot (κ ν : Type)
  | empty
  | tombstone
  | live (key : κ) (value : ν)
  deriving DecidableEq, Repr

/-- The array with its two counters. -/
structure ProbeTable (κ ν : Type) where
  slots : List (Slot κ ν)
  count : Nat
  tombstones : Nat
  deriving DecidableEq, Repr

/-- Where an insertion ends: at the key's own slot, at a tombstone to reuse, or
at the slot at which the walk stopped. -/
inductive Spot
  | present (position : Nat)
  | reused (position : Nat)
  | vacant (position : Nat)
  deriving DecidableEq, Repr

/-- Where an insertion writes. -/
def Spot.position : Spot -> Nat
  | present position => position
  | reused position => position
  | vacant position => position

namespace Slot

variable {κ ν : Type}

/-- The slot holds an entry. -/
def isLive : Slot κ ν -> Bool
  | live _ _ => true
  | _ => false

/-- The slot held an entry that was removed. -/
def isTombstone : Slot κ ν -> Bool
  | tombstone => true
  | _ => false

/-- The slot was never used. -/
def isEmpty : Slot κ ν -> Bool
  | empty => true
  | _ => false

/-- An entry of the key may be written to the slot. -/
def takes [DecidableEq κ] (key : κ) : Slot κ ν -> Bool
  | live stored _ => decide (stored = key)
  | _ => true

end Slot

namespace ProbeTable

variable {κ ν : Type}

section Operations

variable [DecidableEq κ]

/-- Reduce a position to the array, as `position & (capacity - 1)`. -/
def mask (capacity position : Nat) : Nat :=
  position &&& (capacity - 1)

/-- A table without entries. -/
def create (capacity : Nat) : ProbeTable κ ν :=
  { slots := List.replicate capacity .empty, count := 0, tombstones := 0 }

/-- The walk of a lookup, for at most `left` slots. -/
def findFrom (slots : List (Slot κ ν)) (key : κ) :
    Nat -> Nat -> Option (Nat × ν)
  | 0, _ => none
  | left + 1, position =>
      match slots.getD position .empty with
      | .empty => none
      | .tombstone =>
          findFrom slots key left (mask slots.length (position + 1))
      | .live stored value =>
          if stored = key then some (position, value)
          else findFrom slots key left (mask slots.length (position + 1))

/-- Position and value of a key. -/
def find (hash : κ -> Nat) (table : ProbeTable κ ν) (key : κ) :
    Option (Nat × ν) :=
  findFrom table.slots key table.slots.length
    (mask table.slots.length (hash key))

/-- The value of a key. -/
def get (hash : κ -> Nat) (table : ProbeTable κ ν) (key : κ) : Option ν :=
  (table.find hash key).map Prod.snd

/-- Where the walk of an insertion ends when it stops at `position`. -/
def endSpot (firstTombstone : Option Nat) (position : Nat) : Spot :=
  match firstTombstone with
  | some tombstone => .reused tombstone
  | none => .vacant position

/-- The walk of an insertion, for at most `left` slots; the first tombstone met
is remembered. -/
def spotFrom (slots : List (Slot κ ν)) (key : κ) :
    Nat -> Nat -> Option Nat -> Spot
  | 0, position, firstTombstone => endSpot firstTombstone position
  | left + 1, position, firstTombstone =>
      match slots.getD position .empty with
      | .empty => endSpot firstTombstone position
      | .tombstone =>
          spotFrom slots key left (mask slots.length (position + 1))
            (firstTombstone.or (some position))
      | .live stored _ =>
          if stored = key then .present position
          else spotFrom slots key left (mask slots.length (position + 1))
            firstTombstone

/-- The walk of a rehash to the first unused slot. -/
def unusedFrom (slots : List (Slot κ ν)) : Nat -> Nat -> Nat
  | 0, position => position
  | left + 1, position =>
      match slots.getD position .empty with
      | .empty => position
      | _ => unusedFrom slots left (mask slots.length (position + 1))

/-- Enter one slot of the old array into the new one. -/
def rehash (hash : κ -> Nat) (table : ProbeTable κ ν) :
    Slot κ ν -> ProbeTable κ ν
  | .live key value =>
      let position := unusedFrom table.slots table.slots.length
        (mask table.slots.length (hash key))
      { table with
        slots := table.slots.set position (.live key value)
        count := table.count + 1 }
  | _ => table

/-- Double the array. -/
def grow (hash : κ -> Nat) (table : ProbeTable κ ν) : ProbeTable κ ν :=
  table.slots.foldl (rehash hash)
    (create (table.slots.length * 2 % 2 ^ 32))

/-- The growth test, in 32-bit arithmetic. -/
def crowded (table : ProbeTable κ ν) : Bool :=
  decide ((table.count + table.tombstones) * 4 % 2 ^ 32 ≥
    table.slots.length * 3 % 2 ^ 32)

/-- Double the array when it is crowded and the memory is there. -/
def makeRoom
    (hash : κ -> Nat)
    (table : ProbeTable κ ν)
    (allocated : Bool) : ProbeTable κ ν :=
  if table.crowded && allocated then table.grow hash else table

/-- Bind a key, without growing. -/
def insert
    (hash : κ -> Nat)
    (table : ProbeTable κ ν)
    (key : κ)
    (value : ν) : ProbeTable κ ν :=
  match spotFrom table.slots key table.slots.length
      (mask table.slots.length (hash key)) none with
  | .present position =>
      { table with slots := table.slots.set position (.live key value) }
  | .reused position =>
      { slots := table.slots.set position (.live key value)
        count := table.count + 1
        tombstones := table.tombstones - 1 }
  | .vacant position =>
      { table with
        slots := table.slots.set position (.live key value)
        count := table.count + 1 }

/-- Bind a key. -/
def put
    (hash : κ -> Nat)
    (table : ProbeTable κ ν)
    (key : κ)
    (value : ν)
    (allocated : Bool) : ProbeTable κ ν :=
  (table.makeRoom hash allocated).insert hash key value

/-- Unbind a key. -/
def remove (hash : κ -> Nat) (table : ProbeTable κ ν) (key : κ) :
    ProbeTable κ ν :=
  match table.find hash key with
  | some (position, _) =>
      { slots := table.slots.set position .tombstone
        count := table.count - 1
        tombstones := table.tombstones + 1 }
  | none => table

end Operations

/-! ## Probe paths -/

/-- The slot at a distance from the home of a key. -/
def pathSlot
    (hash : κ -> Nat)
    (slots : List (Slot κ ν))
    (key : κ)
    (distance : Nat) : Slot κ ν :=
  slots.getD ((hash key + distance) % slots.length) .empty

/-- A position that an operation on the key gets to: no slot before it on the
path of the key is empty. -/
def Reached
    (hash : κ -> Nat)
    (slots : List (Slot κ ν))
    (key : κ)
    (position : Nat) : Prop :=
  ∃ distance < slots.length,
    position = (hash key + distance) % slots.length ∧
    ∀ earlier < distance, pathSlot hash slots key earlier ≠ .empty

/-- The probing invariant. -/
structure Placed (hash : κ -> Nat) (slots : List (Slot κ ν)) : Prop where
  power : ∃ exponent, slots.length = 2 ^ exponent
  reached : ∀ (position : Nat) (key : κ) (value : ν),
    slots[position]? = some (.live key value) ->
      Reached hash slots key position
  distinct : ∀ (left right : Nat) (key : κ) (leftValue rightValue : ν),
    slots[left]? = some (.live key leftValue) ->
      slots[right]? = some (.live key rightValue) -> left = right

variable {hash : κ -> Nat} {slots : List (Slot κ ν)}

theorem mask_eq_mod
    {capacity : Nat}
    (power : ∃ exponent, capacity = 2 ^ exponent)
    (position : Nat) :
    mask capacity position = position % capacity := by
  obtain ⟨exponent, rfl⟩ := power
  exact Nat.and_two_pow_sub_one_eq_mod position exponent

/-- One step of a walk is one step further on the path. -/
theorem mask_path_succ
    (power : ∃ exponent, slots.length = 2 ^ exponent)
    (start distance : Nat) :
    mask slots.length ((start + distance) % slots.length + 1) =
      (start + (distance + 1)) % slots.length := by
  rw [mask_eq_mod power, ← Nat.add_assoc, Nat.mod_add_mod]

theorem length_pos_of_power
    (power : ∃ exponent, slots.length = 2 ^ exponent) :
    0 < slots.length := by
  obtain ⟨exponent, length⟩ := power
  rw [length]
  exact Nat.two_pow_pos exponent

/-- A power of two below `2 ^ 31`. -/
theorem le_of_power_lt
    {length : Nat}
    (power : ∃ exponent, length = 2 ^ exponent)
    (small : length < 2 ^ 31) :
    length ≤ 2 ^ 30 := by
  obtain ⟨exponent, rfl⟩ := power
  have below : exponent < 31 := (Nat.pow_lt_pow_iff_right (by decide)).mp small
  exact Nat.pow_le_pow_right (by decide) (by omega)

/-- A slot read on a path is a slot of the array. -/
theorem getElem?_of_pathSlot
    (positive : 0 < slots.length)
    {key : κ}
    {distance : Nat}
    {slot : Slot κ ν}
    (read : pathSlot hash slots key distance = slot) :
    slots[(hash key + distance) % slots.length]? = some slot := by
  have inside := Nat.mod_lt (hash key + distance) positive
  rw [pathSlot, List.getD_eq_getElem?_getD,
    List.getElem?_eq_getElem inside] at read
  rw [List.getElem?_eq_getElem inside]
  exact congrArg some read

theorem pathSlot_of_getElem?
    {key : κ}
    {distance : Nat}
    {slot : Slot κ ν}
    (present : slots[(hash key + distance) % slots.length]? = some slot) :
    pathSlot hash slots key distance = slot := by
  rw [pathSlot, List.getD_eq_getElem?_getD, present, Option.getD_some]

/-! ## Lookups -/

section Lookups

variable [DecidableEq κ]

theorem findFrom_sound
    {key : κ}
    {left start position : Nat}
    {value : ν}
    (found : findFrom slots key left start = some (position, value)) :
    slots[position]? = some (.live key value) := by
  induction left generalizing start with
  | zero => cases found
  | succ left inductionHypothesis =>
      rw [findFrom] at found
      cases read : slots[start]? with
      | none =>
          rw [List.getD_eq_getElem?_getD, read] at found
          cases found
      | some slot =>
          rw [List.getD_eq_getElem?_getD, read, Option.getD_some] at found
          cases slot with
          | empty => cases found
          | tombstone => exact inductionHypothesis found
          | live stored storedValue =>
              simp only at found
              split at found
              case isTrue same =>
                cases found
                rw [read, same]
              case isFalse => exact inductionHypothesis found

/-- A lookup that starts on the path of a live key, not behind it, gets to
it. -/
theorem findFrom_of_live
    (placed : Placed hash slots)
    {key : κ}
    {value : ν}
    {distance : Nat}
    (inside : distance < slots.length)
    (present : slots[(hash key + distance) % slots.length]? =
      some (.live key value))
    (path : ∀ earlier < distance,
      pathSlot hash slots key earlier ≠ .empty)
    {left start : Nat}
    (budget : start + left = slots.length)
    (notBehind : start ≤ distance) :
    findFrom slots key left ((hash key + start) % slots.length) =
      some ((hash key + distance) % slots.length, value) := by
  induction left generalizing start with
  | zero => omega
  | succ left inductionHypothesis =>
      rw [findFrom]
      rcases Nat.eq_or_lt_of_le notBehind with here | before
      · subst here
        rw [List.getD_eq_getElem?_getD, present, Option.getD_some]
        simp
      · have later := inductionHypothesis (by omega)
          (show start + 1 ≤ distance by omega)
        cases read : pathSlot hash slots key start with
        | empty => exact absurd read (path start before)
        | tombstone =>
            rw [pathSlot] at read
            rw [read]
            simp only [mask_path_succ placed.power]
            exact later
        | live stored storedValue =>
            have storedAt := getElem?_of_pathSlot
              (length_pos_of_power placed.power) read
            rw [pathSlot] at read
            rw [read]
            simp only [mask_path_succ placed.power]
            split
            case isTrue same =>
              subst same
              have position := placed.distinct _ _ _ _ _ storedAt present
              rw [position, present] at storedAt
              cases storedAt
              rw [position]
            case isFalse => exact later

/-- Lookups find exactly the live entries. -/
theorem find_eq_some_iff
    {table : ProbeTable κ ν}
    (placed : Placed hash table.slots)
    {key : κ}
    {position : Nat}
    {value : ν} :
    table.find hash key = some (position, value) ↔
      table.slots[position]? = some (.live key value) := by
  constructor
  · exact findFrom_sound
  · intro present
    obtain ⟨distance, inside, rfl, path⟩ :=
      placed.reached position key value present
    have found := findFrom_of_live placed inside present path
      (show 0 + table.slots.length = table.slots.length by omega)
      (Nat.zero_le _)
    rw [Nat.add_zero, ← mask_eq_mod placed.power] at found
    exact found

theorem get_eq_some_iff
    {table : ProbeTable κ ν}
    (placed : Placed hash table.slots)
    {key : κ}
    {value : ν} :
    table.get hash key = some value ↔ .live key value ∈ table.slots := by
  rw [get, Option.map_eq_some_iff, List.mem_iff_getElem?]
  constructor
  · rintro ⟨⟨position, stored⟩, found, rfl⟩
    exact ⟨position, (find_eq_some_iff placed).mp found⟩
  · rintro ⟨position, present⟩
    exact ⟨⟨position, value⟩, (find_eq_some_iff placed).mpr present, rfl⟩

theorem find_eq_none_iff
    {table : ProbeTable κ ν}
    (placed : Placed hash table.slots)
    {key : κ} :
    table.find hash key = none ↔ ∀ value, .live key value ∉ table.slots := by
  constructor
  · intro missing value present
    obtain ⟨position, stored⟩ := List.mem_iff_getElem?.mp present
    rw [(find_eq_some_iff placed).mpr stored] at missing
    cases missing
  · intro absent
    cases found : table.find hash key with
    | none => rfl
    | some entry =>
        obtain ⟨position, value⟩ := entry
        have present := (find_eq_some_iff placed).mp found
        exact absurd (List.mem_of_getElem? present) (absent value)

end Lookups

/-! ## Writing a slot -/

theorem pathSlot_set_ne_empty
    {position distance : Nat}
    {slot : Slot κ ν}
    {key : κ}
    (used : slot ≠ .empty)
    (before : pathSlot hash slots key distance ≠ .empty) :
    pathSlot hash (slots.set position slot) key distance ≠ .empty := by
  rw [pathSlot, List.getD_eq_getElem?_getD] at before ⊢
  rw [List.length_set, List.getElem?_set]
  split
  case isTrue =>
    split
    case isTrue => exact used
    case isFalse outside =>
      rw [List.getElem?_eq_none_iff.mpr (by omega)] at before
      exact before
  case isFalse => exact before

/-- Using a slot leaves every path open. -/
theorem Reached.set
    {position target : Nat}
    {slot : Slot κ ν}
    {key : κ}
    (reached : Reached hash slots key target)
    (used : slot ≠ .empty) :
    Reached hash (slots.set position slot) key target := by
  obtain ⟨distance, inside, rfl, path⟩ := reached
  refine ⟨distance, by rw [List.length_set]; exact inside,
    by rw [List.length_set], ?_⟩
  intro earlier before
  exact pathSlot_set_ne_empty used (path earlier before)

/-- Writing a used slot keeps the invariant when the written key, if any, gets
to the slot and has no other. -/
theorem Placed.set
    (placed : Placed hash slots)
    {position : Nat}
    {slot : Slot κ ν}
    (used : slot ≠ .empty)
    (reached : ∀ key value, slot = .live key value ->
      Reached hash slots key position)
    (unique : ∀ (key : κ) (value stored : ν) (other : Nat),
      slot = .live key value -> slots[other]? = some (.live key stored) ->
        other = position) :
    Placed hash (slots.set position slot) where
  power := by
    rw [List.length_set]
    exact placed.power
  reached := by
    intro target key value present
    rw [List.getElem?_set] at present
    split at present
    case isTrue same =>
      subst same
      split at present
      case isTrue =>
        exact (reached key value (Option.some.inj present)).set used
      case isFalse => cases present
    case isFalse => exact (placed.reached target key value present).set used
  distinct := by
    intro left right key leftValue rightValue leftPresent rightPresent
    rw [List.getElem?_set] at leftPresent rightPresent
    split at leftPresent
    case isTrue leftSame =>
      subst leftSame
      split at leftPresent
      case isFalse => cases leftPresent
      case isTrue =>
        split at rightPresent
        case isTrue rightSame => exact rightSame
        case isFalse =>
          exact (unique key leftValue rightValue right
            (Option.some.inj leftPresent) rightPresent).symm
    case isFalse =>
      split at rightPresent
      case isTrue rightSame =>
        subst rightSame
        split at rightPresent
        case isFalse => cases rightPresent
        case isTrue =>
          exact unique key rightValue leftValue left
            (Option.some.inj rightPresent) leftPresent
      case isFalse =>
        exact placed.distinct left right key leftValue rightValue leftPresent
          rightPresent

/-- The entries after a write: the written one, and those of other slots. -/
theorem live_mem_set_iff
    {position : Nat}
    {slot : Slot κ ν}
    (inside : position < slots.length)
    {key : κ}
    {value : ν} :
    .live key value ∈ slots.set position slot ↔
      slot = .live key value ∨
        ∃ other, other ≠ position ∧
          slots[other]? = some (.live key value) := by
  rw [List.mem_iff_getElem?]
  constructor
  · rintro ⟨other, present⟩
    by_cases same : other = position
    · subst same
      rw [List.getElem?_set_self inside] at present
      exact Or.inl (Option.some.inj present)
    · rw [List.getElem?_set_ne (Ne.symm same)] at present
      exact Or.inr ⟨other, same, present⟩
  · rintro (rfl | ⟨other, different, present⟩)
    · exact ⟨position, List.getElem?_set_self inside⟩
    · refine ⟨other, ?_⟩
      rw [List.getElem?_set_ne different.symm]
      exact present

/-- Entries in other slots than a key's own are those of other keys. -/
theorem Placed.other_slot_iff
    (placed : Placed hash slots)
    {position : Nat}
    {key : κ}
    {value : ν}
    (present : slots[position]? = some (.live key value))
    {otherKey : κ}
    {otherValue : ν} :
    (∃ other, other ≠ position ∧
        slots[other]? = some (.live otherKey otherValue)) ↔
      otherKey ≠ key ∧ .live otherKey otherValue ∈ slots := by
  rw [List.mem_iff_getElem?]
  constructor
  · rintro ⟨other, different, stored⟩
    refine ⟨?_, other, stored⟩
    rintro rfl
    exact different
      (placed.distinct other position otherKey otherValue value stored present)
  · rintro ⟨different, other, stored⟩
    refine ⟨other, ?_, stored⟩
    rintro rfl
    rw [present] at stored
    cases stored
    exact different rfl

/-- Entries in other slots than one without an entry are all entries. -/
theorem other_slot_of_unused_iff
    {position : Nat}
    {slot : Slot κ ν}
    (present : slots[position]? = some slot)
    (unused : slot.isLive = false)
    {key : κ}
    {value : ν} :
    (∃ other, other ≠ position ∧
        slots[other]? = some (.live key value)) ↔
      .live key value ∈ slots := by
  rw [List.mem_iff_getElem?]
  constructor
  · rintro ⟨other, -, stored⟩
    exact ⟨other, stored⟩
  · rintro ⟨other, stored⟩
    refine ⟨other, ?_, stored⟩
    rintro rfl
    rw [present] at stored
    cases stored
    cases unused

/-! ## Walks that look for room -/

/-- A key that is live somewhere is live before the first empty slot of its
path. -/
theorem Placed.absent_of_path
    (placed : Placed hash slots)
    {key : κ}
    {start : Nat}
    (stop : pathSlot hash slots key start = .empty)
    (elsewhere : ∀ earlier < start, ∀ value,
      pathSlot hash slots key earlier ≠ .live key value)
    (value : ν) :
    .live key value ∉ slots := by
  intro member
  obtain ⟨position, present⟩ := List.mem_iff_getElem?.mp member
  obtain ⟨distance, inside, rfl, path⟩ :=
    placed.reached position key value present
  have read := pathSlot_of_getElem? present
  rcases Nat.lt_trichotomy distance start with before | here | behind
  · exact elsewhere distance before value read
  · rw [here, stop] at read
    cases read
  · exact path start behind stop

/-- What the spot of an insertion has to be. -/
def SpotFits (hash : κ -> Nat) (slots : List (Slot κ ν)) (key : κ) :
    Spot -> Prop
  | .present position =>
      ∃ value, slots[position]? = some (.live key value)
  | .reused position =>
      slots[position]? = some .tombstone ∧ Reached hash slots key position ∧
        ∀ value, .live key value ∉ slots
  | .vacant position =>
      slots[position]? = some .empty ∧ Reached hash slots key position ∧
        ∀ value, .live key value ∉ slots

/-- Every position lies on every path. -/
theorem path_covers
    (hash : κ -> Nat)
    {position : Nat}
    (inside : position < slots.length)
    (key : κ) :
    ∃ distance < slots.length,
      (hash key + distance) % slots.length = position := by
  have home : hash key % slots.length < slots.length :=
    Nat.mod_lt _ (by omega)
  refine ⟨(position + (slots.length - hash key % slots.length)) %
    slots.length, Nat.mod_lt _ (by omega), ?_⟩
  have rounds : hash key + (position +
      (slots.length - hash key % slots.length)) =
      position + slots.length * (hash key / slots.length + 1) := by
    have division := Nat.div_add_mod (hash key) slots.length
    rw [Nat.mul_add, Nat.mul_one]
    omega
  rw [Nat.add_mod_mod, rounds, Nat.add_mul_mod_self_left,
    Nat.mod_eq_of_lt inside]

/-- A slot of the array is met on every path. -/
theorem pathSlot_of_mem
    (hash : κ -> Nat)
    {slot : Slot κ ν}
    (member : slot ∈ slots)
    (key : κ) :
    ∃ distance < slots.length, pathSlot hash slots key distance = slot := by
  obtain ⟨position, inside, value⟩ := List.getElem_of_mem member
  obtain ⟨distance, near, around⟩ := path_covers hash inside key
  refine ⟨distance, near, ?_⟩
  rw [pathSlot, around, List.getD_eq_getElem?_getD,
    List.getElem?_eq_getElem inside, value, Option.getD_some]

/-- There is a place for the key: its own slot, or one without an entry. -/
def Accepts [DecidableEq κ] (slots : List (Slot κ ν)) (key : κ) : Prop :=
  ∃ slot ∈ slots, slot.takes key = true

instance acceptsDecidable
    [DecidableEq κ]
    (slots : List (Slot κ ν))
    (key : κ) :
    Decidable (Accepts slots key) :=
  inferInstanceAs (Decidable (∃ slot ∈ slots, slot.takes key = true))

theorem endSpot_fits
    {key : κ}
    {start : Nat}
    {firstTombstone : Option Nat}
    (placed : Placed hash slots)
    (inside : start < slots.length)
    (stop : pathSlot hash slots key start = .empty)
    (path : ∀ earlier < start, pathSlot hash slots key earlier ≠ .empty)
    (elsewhere : ∀ earlier < start, ∀ value,
      pathSlot hash slots key earlier ≠ .live key value)
    (remembered : ∀ position, firstTombstone = some position ->
      slots[position]? = some .tombstone ∧
        Reached hash slots key position) :
    SpotFits hash slots key
      (endSpot firstTombstone ((hash key + start) % slots.length)) := by
  have absent := placed.absent_of_path stop elsewhere
  cases firstTombstone with
  | none =>
      exact ⟨getElem?_of_pathSlot (length_pos_of_power placed.power) stop,
        ⟨start, inside, rfl, path⟩, absent⟩
  | some position =>
      obtain ⟨buried, reached⟩ := remembered position rfl
      exact ⟨buried, reached, absent⟩

/-- A walk all around an array without empty slots ends at a tombstone. -/
theorem endSpot_fits_around
    [DecidableEq κ]
    {key : κ}
    {firstTombstone : Option Nat}
    (accepts : Accepts slots key)
    (path : ∀ earlier < slots.length,
      pathSlot hash slots key earlier ≠ .empty)
    (elsewhere : ∀ earlier < slots.length, ∀ value,
      pathSlot hash slots key earlier ≠ .live key value)
    (remembered : ∀ position, firstTombstone = some position ->
      slots[position]? = some .tombstone ∧
        Reached hash slots key position)
    (unburied : firstTombstone = none -> ∀ earlier < slots.length,
      pathSlot hash slots key earlier ≠ .tombstone)
    (position : Nat) :
    SpotFits hash slots key (endSpot firstTombstone position) := by
  have absent : ∀ value, .live key value ∉ slots := by
    intro value member
    obtain ⟨distance, near, read⟩ := pathSlot_of_mem hash member key
    exact elsewhere distance near value read
  cases firstTombstone with
  | some tombstone =>
      obtain ⟨buried, reached⟩ := remembered tombstone rfl
      exact ⟨buried, reached, absent⟩
  | none =>
      exfalso
      obtain ⟨slot, member, taken⟩ := accepts
      obtain ⟨distance, near, read⟩ := pathSlot_of_mem hash member key
      cases slot with
      | empty => exact path distance near read
      | tombstone => exact unburied rfl distance near read
      | live stored value =>
          obtain rfl := of_decide_eq_true taken
          exact absent value member

theorem spotFrom_fits
    [DecidableEq κ]
    (placed : Placed hash slots)
    {key : κ}
    (accepts : Accepts slots key)
    {left start : Nat}
    {firstTombstone : Option Nat}
    (budget : start + left = slots.length)
    (path : ∀ earlier < start, pathSlot hash slots key earlier ≠ .empty)
    (elsewhere : ∀ earlier < start, ∀ value,
      pathSlot hash slots key earlier ≠ .live key value)
    (remembered : ∀ position, firstTombstone = some position ->
      slots[position]? = some .tombstone ∧
        Reached hash slots key position)
    (unburied : firstTombstone = none -> ∀ earlier < start,
      pathSlot hash slots key earlier ≠ .tombstone) :
    SpotFits hash slots key (spotFrom slots key left
      ((hash key + start) % slots.length) firstTombstone) := by
  have positive := length_pos_of_power placed.power
  induction left generalizing start firstTombstone with
  | zero =>
      obtain rfl : start = slots.length := by omega
      exact endSpot_fits_around accepts path elsewhere remembered
        unburied _
  | succ left inductionHypothesis =>
      rw [spotFrom]
      cases read : pathSlot hash slots key start with
      | empty =>
          have stop := read
          rw [pathSlot] at read
          rw [read]
          exact endSpot_fits placed (by omega) stop path elsewhere remembered
      | tombstone =>
          have buried := getElem?_of_pathSlot positive read
          have pathNext : ∀ earlier < start + 1,
              pathSlot hash slots key earlier ≠ .empty :=
            Nat.forall_lt_succ_right.mpr ⟨path, by simp [read]⟩
          have elsewhereNext : ∀ earlier < start + 1, ∀ value,
              pathSlot hash slots key earlier ≠ .live key value :=
            Nat.forall_lt_succ_right.mpr ⟨elsewhere, by simp [read]⟩
          rw [pathSlot] at read
          rw [read]
          simp only [mask_path_succ placed.power]
          refine inductionHypothesis (by omega) pathNext elsewhereNext ?_ ?_
          · intro position known
            cases firstTombstone with
            | none =>
                cases known
                exact ⟨buried, start, by omega, rfl, path⟩
            | some first => exact remembered position known
          · intro unknown
            cases firstTombstone <;> cases unknown
      | live stored storedValue =>
          have present := getElem?_of_pathSlot positive read
          have slotRead := read
          rw [pathSlot] at read
          rw [read]
          simp only [mask_path_succ placed.power]
          split
          case isTrue same =>
            subst same
            exact ⟨storedValue, present⟩
          case isFalse different =>
            refine inductionHypothesis (by omega)
              (Nat.forall_lt_succ_right.mpr ⟨path, by simp [slotRead]⟩)
              (Nat.forall_lt_succ_right.mpr ⟨elsewhere, ?_⟩) remembered
              (fun unknown => Nat.forall_lt_succ_right.mpr
                ⟨unburied unknown, by simp [slotRead]⟩)
            intro value contradiction
            rw [slotRead] at contradiction
            cases contradiction
            exact different rfl

theorem unusedFrom_reached
    (power : ∃ exponent, slots.length = 2 ^ exponent)
    {key : κ}
    (room : ∃ distance < slots.length,
      pathSlot hash slots key distance = .empty)
    {left start : Nat}
    (budget : start + left = slots.length)
    (path : ∀ earlier < start, pathSlot hash slots key earlier ≠ .empty) :
    let position :=
      unusedFrom slots left ((hash key + start) % slots.length)
    slots[position]? = some .empty ∧ Reached hash slots key position := by
  have positive := length_pos_of_power power
  induction left generalizing start with
  | zero =>
      obtain ⟨distance, inside, vacant⟩ := room
      exact absurd vacant (path distance (by omega))
  | succ left inductionHypothesis =>
      rw [unusedFrom]
      by_cases vacant : pathSlot hash slots key start = .empty
      · have present := getElem?_of_pathSlot positive vacant
        rw [pathSlot] at vacant
        rw [vacant]
        exact ⟨present, start, by omega, rfl, path⟩
      · have next := inductionHypothesis (by omega)
          (Nat.forall_lt_succ_right.mpr ⟨path, vacant⟩)
        have walked : (match slots.getD ((hash key + start) % slots.length)
              .empty with
            | .empty => (hash key + start) % slots.length
            | _ => unusedFrom slots left (mask slots.length
                ((hash key + start) % slots.length + 1))) =
            unusedFrom slots left
              ((hash key + (start + 1)) % slots.length) := by
          rw [pathSlot] at vacant
          rw [← mask_path_succ power]
          split
          case h_1 stop => exact absurd stop vacant
          case h_2 => rfl
        rw [walked]
        exact next

end ProbeTable

end Library
