import Mathlib.Data.List.Basic
import Mathlib.Logic.Function.Basic

/-!
# Accesses to a buffer

Code that fills a buffer is described by its stores, in program order.  Code
that reads a buffer is written in a monad that records the positions it loads
from beside the value it computes.  Offsets count from the start of the buffer
and may lie past its end, so that code that leaves its buffer is described as
well.
-/

namespace Library

/-! ## Stores -/

section Stores

variable {α : Type}

/-- The memory after the stores of a list, made in order. -/
def applyStores (memory : Nat -> α) (stores : List (Nat × α)) : Nat -> α :=
  stores.foldl (fun current store =>
    Function.update current store.1 store.2) memory

/-- The stores of consecutive values from an offset on. -/
def consecutive : Nat -> List α -> List (Nat × α)
  | _, [] => []
  | start, value :: values => (start, value) :: consecutive (start + 1) values

theorem consecutive_append
    (start : Nat)
    (first second : List α) :
    consecutive start (first ++ second) =
      consecutive start first ++ consecutive (start + first.length) second := by
  induction first generalizing start with
  | nil => rfl
  | cons value values inductionHypothesis =>
      rw [List.cons_append, consecutive, inductionHypothesis, consecutive,
        List.cons_append, List.length_cons, Nat.add_assoc,
        Nat.add_comm 1 values.length]

/-- The stores of a list of values given by their index. -/
theorem consecutive_map_range
    (start count : Nat)
    (value : Nat -> α) :
    consecutive start ((List.range count).map value) =
      (List.range count).map fun k => (start + k, value k) := by
  induction count with
  | zero => rfl
  | succ count inductionHypothesis =>
      rw [List.range_succ, List.map_append, List.map_append,
        consecutive_append, inductionHypothesis, List.length_map,
        List.length_range]
      rfl

/-- Consecutive stores touch exactly the offsets of their values. -/
theorem mem_offsets_consecutive
    {start offset : Nat}
    {values : List α} :
    offset ∈ (consecutive start values).map Prod.fst ↔
      start ≤ offset ∧ offset < start + values.length := by
  induction values generalizing start with
  | nil =>
      simp only [consecutive, List.map_nil, List.not_mem_nil, false_iff,
        List.length_nil]
      omega
  | cons value values inductionHypothesis =>
      rw [consecutive, List.map_cons, List.mem_cons, inductionHypothesis,
        List.length_cons]
      dsimp only
      omega

/-- An offset that is not stored to keeps its value. -/
theorem applyStores_of_not_mem
    (memory : Nat -> α)
    {stores : List (Nat × α)}
    {offset : Nat}
    (untouched : offset ∉ stores.map Prod.fst) :
    applyStores memory stores offset = memory offset := by
  induction stores generalizing memory with
  | nil => rfl
  | cons store stores inductionHypothesis =>
      rw [List.map_cons, List.mem_cons, not_or] at untouched
      have later := inductionHypothesis
        (Function.update memory store.1 store.2) untouched.2
      rw [Function.update_of_ne untouched.1] at later
      exact later

/-- An offset that is stored to does not depend on the memory before. -/
theorem applyStores_of_mem
    {stores : List (Nat × α)}
    {offset : Nat}
    (touched : offset ∈ stores.map Prod.fst)
    (memory other : Nat -> α) :
    applyStores memory stores offset = applyStores other stores offset := by
  induction stores generalizing memory other with
  | nil => cases touched
  | cons store stores inductionHypothesis =>
      by_cases later : offset ∈ stores.map Prod.fst
      · exact inductionHypothesis later _ _
      · have now : offset = store.1 := by
          rw [List.map_cons, List.mem_cons] at touched
          exact touched.resolve_right later
        change applyStores (Function.update memory store.1 store.2) stores
            offset =
          applyStores (Function.update other store.1 store.2) stores offset
        rw [applyStores_of_not_mem _ later, applyStores_of_not_mem _ later, now,
          Function.update_self, Function.update_self]

/-- What consecutive stores leave at the offset of a value. -/
theorem applyStores_consecutive
    (memory : Nat -> α)
    (start : Nat)
    {values : List α}
    {index : Nat}
    (inside : index < values.length) :
    applyStores memory (consecutive start values) (start + index) =
      values[index] := by
  induction values generalizing start index memory with
  | nil => cases inside
  | cons value values inductionHypothesis =>
      change applyStores (Function.update memory start value)
        (consecutive (start + 1) values) (start + index) = _
      cases index with
      | zero =>
          have behind : start + 0 ∉
              (consecutive (start + 1) values).map Prod.fst := by
            rw [mem_offsets_consecutive]
            omega
          rw [applyStores_of_not_mem _ behind]
          exact Function.update_self ..
      | succ index =>
          have later := inductionHypothesis
            (Function.update memory start value) (start + 1)
            (Nat.lt_of_succ_lt_succ inside)
          rw [List.getElem_cons_succ, ← later, Nat.add_assoc,
            Nat.add_comm 1 index]

end Stores

/-! ## Loads -/

/-- A computed value, and the positions that were loaded from for it. -/
structure Reading (α : Type) where
  value : α
  positions : List Nat

namespace Reading

instance : Monad Reading where
  pure value := { value := value, positions := [] }
  bind first next :=
    { value := (next first.value).value
      positions := first.positions ++ (next first.value).positions }

/-- Load from one position. -/
def load {α : Type} (memory : Nat -> α) (position : Nat) : Reading α :=
  { value := memory position, positions := [position] }

/-- Load from consecutive positions. -/
def loadRange
    {α : Type}
    (memory : Nat -> α)
    (start count : Nat) : Reading (List α) :=
  { value := (List.range count).map fun k => memory (start + k)
    positions := (List.range count).map fun k => start + k }

section Rules

variable {α β : Type}

@[simp] theorem value_pure (value : α) :
    (pure value : Reading α).value = value := rfl

@[simp] theorem value_bind (first : Reading α) (next : α -> Reading β) :
    (first >>= next).value = (next first.value).value := rfl

@[simp] theorem value_load (memory : Nat -> α) (position : Nat) :
    (load memory position).value = memory position := rfl

/-- A loop of loads computes the fold over the values loaded. -/
theorem value_foldlM
    (body : β -> α -> Reading β)
    (start : β)
    (items : List α) :
    (items.foldlM body start).value =
      items.foldl (fun current item => (body current item).value) start := by
  induction items generalizing start with
  | nil => rfl
  | cons item items inductionHypothesis =>
      rw [List.foldlM_cons, value_bind, inductionHypothesis, List.foldl_cons]

/-- Every load is from below the limit. -/
def Within (limit : Nat) (reading : Reading α) : Prop :=
  ∀ position ∈ reading.positions, position < limit

theorem within_pure (limit : Nat) (value : α) :
    (pure value : Reading α).Within limit := nofun

theorem within_load
    (memory : Nat -> α)
    {limit position : Nat}
    (below : position < limit) :
    (load memory position).Within limit := by
  intro loaded member
  rw [List.mem_singleton.mp member]
  exact below

theorem within_loadRange
    (memory : Nat -> α)
    {limit start count : Nat}
    (below : start + count ≤ limit) :
    (loadRange memory start count).Within limit := by
  intro loaded member
  obtain ⟨k, inside, rfl⟩ := List.mem_map.mp member
  have := List.mem_range.mp inside
  omega

theorem Within.mono
    {limit larger : Nat}
    {reading : Reading α}
    (within : reading.Within limit)
    (grows : limit ≤ larger) :
    reading.Within larger :=
  fun position member => Nat.lt_of_lt_of_le (within position member) grows

/-- One after the other. -/
theorem Within.bind
    {limit : Nat}
    {first : Reading α}
    {next : α -> Reading β}
    (before : first.Within limit)
    (after : (next first.value).Within limit) :
    (first >>= next).Within limit := by
  intro position member
  rcases List.mem_append.mp member with early | late
  · exact before position early
  · exact after position late

/-- A guard: only the branch taken loads. -/
theorem Within.ite
    {limit : Nat}
    {condition : Prop}
    [Decidable condition]
    {first second : Reading α}
    (taken : condition -> first.Within limit)
    (other : ¬ condition -> second.Within limit) :
    (if condition then first else second).Within limit := by
  split
  case isTrue holds => exact taken holds
  case isFalse fails => exact other fails

/-- A loop whose rounds stay below the limit. -/
theorem within_foldlM
    {limit : Nat}
    {body : β -> α -> Reading β}
    {items : List α}
    (rounds : ∀ current, ∀ item ∈ items, (body current item).Within limit)
    (start : β) :
    (items.foldlM body start).Within limit := by
  induction items generalizing start with
  | nil => exact within_pure limit start
  | cons item items inductionHypothesis =>
      rw [List.foldlM_cons]
      refine Within.bind (rounds start item List.mem_cons_self) ?_
      exact inductionHypothesis (fun current later member =>
        rounds current later (List.mem_cons_of_mem _ member)) _

end Rules

end Reading

end Library
