import Mathlib.Data.List.Basic
import Mathlib.Order.Nat

/-!
# Ring buffers

A ring buffer keeps a queue in the cells of an array, from the cell at `head`
on and around the end of the array; `tail` is the cell behind the last item.
`RingBuffer.Holds` says which list a ring stands for, and the operations are
read as operations on that list.  Cells outside the queue may hold anything.
-/

namespace Library

/-- An array of cells with the indices of a queue in it. -/
structure RingBuffer (α : Type) where
  cells : List (Option α)
  head : Nat
  tail : Nat
  count : Nat
  deriving DecidableEq, Repr

namespace RingBuffer

variable {α : Type}

/-- The number of cells. -/
def capacity (ring : RingBuffer α) : Nat := ring.cells.length

/-- An empty ring with unused cells. -/
def create (capacity : Nat) : RingBuffer α :=
  { cells := List.replicate capacity none
    head := 0
    tail := 0
    count := 0 }

/-- The item at a distance from the head. -/
def cellAt (ring : RingBuffer α) (index : Nat) : Option α :=
  ring.cells[(ring.head + index) % ring.capacity]?.join

/-- Write an item behind the last one. -/
def put (ring : RingBuffer α) (item : α) : RingBuffer α :=
  { cells := ring.cells.set ring.tail (some item)
    head := ring.head
    tail := (ring.tail + 1) % ring.capacity
    count := ring.count + 1 }

/-- The item at the head. -/
def front (ring : RingBuffer α) : Option α := ring.cells[ring.head]?.join

/-- Forget the item at the head. -/
def advance (ring : RingBuffer α) : RingBuffer α :=
  { ring with
    head := (ring.head + 1) % ring.capacity
    count := ring.count - 1 }

/-- Copy the queue to the start of a new array. -/
def relinearize (ring : RingBuffer α) (capacity : Nat) : RingBuffer α :=
  { cells := (List.range ring.count).map ring.cellAt ++
      List.replicate (capacity - ring.count) none
    head := 0
    tail := ring.count
    count := ring.count }

/-- Blank the cells of the queue and start again at the first cell. -/
def clear (ring : RingBuffer α) : RingBuffer α :=
  { cells := (List.range ring.count).foldl (fun cells index =>
      cells.set ((ring.head + index) % ring.capacity) none) ring.cells
    head := 0
    tail := 0
    count := 0 }

/-- The ring holds exactly these items, in this order. -/
structure Holds (ring : RingBuffer α) (items : List α) : Prop where
  inside : ring.head < ring.capacity
  fits : items.length ≤ ring.capacity
  counted : ring.count = items.length
  ends : ring.tail = (ring.head + items.length) % ring.capacity
  stored : ∀ index item, items[index]? = some item ->
    ring.cells[(ring.head + index) % ring.capacity]? = some (some item)

/-- An index runs around the end of the array at most once. -/
theorem wrap_eq
    {head index capacity : Nat}
    (inside : head < capacity)
    (near : index ≤ capacity) :
    (head + index) % capacity =
      if head + index < capacity then head + index
      else head + index - capacity := by
  split
  case isTrue below => exact Nat.mod_eq_of_lt below
  case isFalse above =>
    rw [Nat.mod_eq_sub_mod (Nat.le_of_not_lt above), Nat.mod_eq_of_lt]
    omega

/-- Different distances from the head are different cells. -/
theorem wrap_injective
    {head first second capacity : Nat}
    (inside : head < capacity)
    (firstNear : first < capacity)
    (secondNear : second < capacity)
    (same : (head + first) % capacity = (head + second) % capacity) :
    first = second := by
  rw [wrap_eq inside firstNear.le, wrap_eq inside secondNear.le] at same
  split_ifs at same <;> omega

theorem wrap_succ (head index capacity : Nat) :
    ((head + 1) % capacity + index) % capacity =
      (head + (index + 1)) % capacity := by
  rw [Nat.mod_add_mod]
  congr 1
  omega

variable {ring : RingBuffer α} {items : List α}

theorem create_holds
    {capacity : Nat}
    (positive : 0 < capacity) :
    (create capacity : RingBuffer α).Holds [] where
  inside := by simpa [create, RingBuffer.capacity] using positive
  fits := Nat.zero_le _
  counted := rfl
  ends := (Nat.zero_mod _).symm
  stored := by simp

theorem Holds.cellAt
    (holds : ring.Holds items)
    {index : Nat}
    {item : α}
    (read : items[index]? = some item) :
    ring.cellAt index = some item := by
  rw [RingBuffer.cellAt, holds.stored index item read]
  rfl

/-- The cells read from the head on, one for each item. -/
theorem Holds.map_cellAt (holds : ring.Holds items) :
    (List.range ring.count).map ring.cellAt = items.map some := by
  apply List.ext_getElem?
  intro index
  rw [List.getElem?_map, List.getElem?_map, holds.counted]
  cases read : items[index]? with
  | none =>
      rw [List.getElem?_eq_none_iff] at read
      rw [List.getElem?_eq_none_iff.mpr (by simpa using read)]
      rfl
  | some item =>
      obtain ⟨inside, -⟩ := List.getElem?_eq_some_iff.mp read
      rw [List.getElem?_range inside]
      exact congrArg some (holds.cellAt read)

theorem Holds.filterMap_cellAt (holds : ring.Holds items) :
    (List.range ring.count).filterMap ring.cellAt = items := by
  have cells := congrArg (List.filterMap id) holds.map_cellAt
  rw [List.filterMap_map, List.filterMap_map] at cells
  exact cells.trans List.filterMap_some

theorem Holds.put
    (holds : ring.Holds items)
    (room : items.length < ring.capacity)
    (item : α) :
    (ring.put item).Holds (items ++ [item]) where
  inside := by
    rw [RingBuffer.capacity, RingBuffer.put, List.length_set]
    exact holds.inside
  fits := by
    rw [RingBuffer.capacity, RingBuffer.put, List.length_set,
      List.length_append]
    exact room
  counted := by
    rw [RingBuffer.put, holds.counted, List.length_append]
    rfl
  ends := by
    simp only [RingBuffer.put, RingBuffer.capacity, List.length_set,
      List.length_append, List.length_singleton]
    rw [holds.ends, RingBuffer.capacity, Nat.mod_add_mod, Nat.add_assoc]
  stored := by
    intro index other read
    simp only [RingBuffer.put, RingBuffer.capacity, List.length_set]
    rw [holds.ends, RingBuffer.capacity]
    rcases Nat.lt_or_ge index items.length with earlier | last
    · rw [List.getElem?_append_left earlier] at read
      rw [List.getElem?_set_ne]
      · exact holds.stored index other read
      · intro same
        have equal := wrap_injective holds.inside room (earlier.trans room)
          same
        omega
    · rw [List.getElem?_append_right last] at read
      obtain ⟨zero, -⟩ := List.getElem?_eq_some_iff.mp read
      rw [List.length_singleton] at zero
      have position : index = items.length := by omega
      subst position
      rw [Nat.sub_self] at read
      cases read
      rw [List.getElem?_set_self]
      exact Nat.mod_lt _ (Nat.zero_lt_of_lt holds.inside)

theorem Holds.front
    {item : α}
    (holds : ring.Holds (item :: items)) :
    ring.front = some item := by
  have first := holds.stored 0 item rfl
  rw [Nat.add_zero, Nat.mod_eq_of_lt holds.inside] at first
  rw [RingBuffer.front, first]
  rfl

theorem Holds.advance
    {item : α}
    (holds : ring.Holds (item :: items)) :
    ring.advance.Holds items where
  inside := Nat.mod_lt _ (Nat.zero_lt_of_lt holds.inside)
  fits := (Nat.le_succ _).trans holds.fits
  counted := by
    rw [RingBuffer.advance, holds.counted]
    rfl
  ends := by
    simp only [RingBuffer.advance, RingBuffer.capacity]
    rw [holds.ends, wrap_succ]
    rfl
  stored := by
    intro index other read
    simp only [RingBuffer.advance, RingBuffer.capacity]
    rw [wrap_succ]
    exact holds.stored (index + 1) other read

theorem Holds.relinearize_capacity
    (holds : ring.Holds items)
    {capacity : Nat}
    (wider : items.length < capacity) :
    (ring.relinearize capacity).capacity = capacity := by
  simp only [RingBuffer.capacity, RingBuffer.relinearize, List.length_append,
    List.length_map, List.length_range, List.length_replicate, holds.counted]
  omega

theorem Holds.relinearize
    (holds : ring.Holds items)
    {capacity : Nat}
    (wider : items.length < capacity) :
    (ring.relinearize capacity).Holds items := by
  have length := holds.relinearize_capacity wider
  refine ⟨?_, ?_, holds.counted, ?_, ?_⟩
  · rw [length]
    exact Nat.zero_lt_of_lt wider
  · rw [length]
    exact wider.le
  · rw [length]
    change ring.count = (0 + items.length) % capacity
    rw [Nat.zero_add, Nat.mod_eq_of_lt wider, holds.counted]
  · intro index item read
    obtain ⟨inside, -⟩ := List.getElem?_eq_some_iff.mp read
    rw [length]
    change ((List.range ring.count).map ring.cellAt ++ _)[(0 + index) %
      capacity]? = _
    rw [Nat.zero_add, Nat.mod_eq_of_lt (inside.trans wider),
      holds.map_cellAt,
      List.getElem?_append_left (by simpa using inside), List.getElem?_map,
      read]
    rfl

theorem length_foldl_set
    (position : Nat -> Nat)
    (indices : List Nat)
    (cells : List (Option α)) :
    (indices.foldl (fun cells index =>
      cells.set (position index) none) cells).length = cells.length := by
  induction indices generalizing cells with
  | nil => rfl
  | cons index indices inductionHypothesis =>
      rw [List.foldl_cons, inductionHypothesis, List.length_set]

theorem clear_capacity (ring : RingBuffer α) :
    ring.clear.capacity = ring.capacity :=
  length_foldl_set _ _ _

theorem Holds.clear (holds : ring.Holds items) : ring.clear.Holds [] where
  inside := by
    rw [clear_capacity]
    exact Nat.zero_lt_of_lt holds.inside
  fits := Nat.zero_le _
  counted := rfl
  ends := (Nat.zero_mod _).symm
  stored := by simp

end RingBuffer

end Library
