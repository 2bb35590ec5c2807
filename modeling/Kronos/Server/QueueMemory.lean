import Kronos.Library.CellBlock
import Kronos.Server.MessageQueue
import Mathlib.Algebra.GroupWithZero.Nat

/-!
# The array of the message queue

`message_queue.c` on its array, with every access checked against it.  The size
that `krs_message_queue_create` asks for is a product in 64 bits, so from a
capacity of `2 ^ 61` pointers on the array has fewer cells than the capacity
says.  Below that the queue never leaves its array and refines the bounded
queue on lists; from there on it leaves it after some pushes.
-/

namespace Kronos

open Library

variable {μ : Type}

/-! ## Calls on an array -/

/-- `MessageQueue_t`, with an array that may have any number of cells. -/
structure QueueMemory (μ : Type) where
  items : List (Option μ)
  capacity : Nat
  head : Nat := 0
  tail : Nat := 0
  count : Nat := 0
  maxCapacity : Nat := 65536
  stopped : Bool := false
  deriving DecidableEq, Repr

namespace QueueMemory

/-- The cells of an array for so many pointers, each of 8 bytes: the size is a
`size_t`. -/
def allocatedCells (capacity : UInt64) : Nat := (capacity * 8).toNat / 8

/-- `krs_message_queue_create`, with both allocations granted. -/
def create (initialCapacity : UInt64) : QueueMemory μ :=
  let capacity := if initialCapacity = 0 then 64 else initialCapacity
  { items := List.replicate (allocatedCells capacity) none
    capacity := capacity.toNat }

/-- The end of `krs_message_queue_push`: the message is written at the
tail. -/
def store (queue : QueueMemory μ) (msg : μ) : Option (QueueMemory μ) :=
  (storeCell queue.items queue.tail (some msg)).map fun items =>
    { queue with
      items := items
      tail := (queue.tail + 1) % queue.capacity
      count := queue.count + 1 }

/-- The pointers of the queue are copied to a larger array. -/
def grow (queue : QueueMemory μ) : Option (QueueMemory μ) :=
  let newCapacity :=
    if queue.capacity * 2 > queue.maxCapacity then queue.maxCapacity
    else queue.capacity * 2
  ((List.range queue.count).mapM fun index =>
      queue.items[(queue.head + index) % queue.capacity]?).map
    fun copied =>
      { queue with
        items := copied ++
          List.replicate (newCapacity - queue.count) none
        head := 0
        tail := queue.count
        capacity := newCapacity }

/-- `krs_message_queue_push`: the queue and the message that is released. -/
def push (queue : QueueMemory μ) (msg : μ) (grown : Bool) :
    Option (QueueMemory μ × Option μ) :=
  if queue.count = queue.capacity then
    if queue.capacity ≥ queue.maxCapacity then
      (queue.items[queue.head]?).bind fun oldest =>
        ({ queue with
            head := (queue.head + 1) % queue.capacity
            count := queue.count - 1 }.store msg).map fun next =>
          (next, oldest)
    else if !grown then some (queue, some msg)
    else
      queue.grow.bind fun larger =>
        (larger.store msg).map fun next => (next, none)
  else (queue.store msg).map fun next => (next, none)

/-- `krs_message_queue_pop` when it does not wait. -/
def pop (queue : QueueMemory μ) : Option (Option μ × QueueMemory μ) :=
  if queue.count = 0 then some (none, queue)
  else
    (queue.items[queue.head]?).map fun msg =>
      (msg, { queue with
        head := (queue.head + 1) % queue.capacity
        count := queue.count - 1 })

/-- One turn of the loop of `krs_message_queue_drain`. -/
def drainTurn
    (queue : QueueMemory μ)
    (drained : List (Option μ) × List μ)
    (index : Nat) : Option (List (Option μ) × List μ) :=
  let position := (queue.head + index) % queue.capacity
  (drained.1[position]?).bind fun cell =>
    (storeCell drained.1 position none).map fun items =>
      (items, drained.2 ++ cell.toList)

/-- `krs_message_queue_drain`: the messages that are released, in order. -/
def drain (queue : QueueMemory μ) : Option (List μ × QueueMemory μ) :=
  ((List.range queue.count).foldlM queue.drainTurn (queue.items, [])).map
    fun drained =>
      (drained.2, { queue with
        items := drained.1
        head := 0
        tail := 0
        count := 0 })

end QueueMemory

/-- One call on the array; `none` stands for an access outside of it. -/
def queueMemoryStep (queue : QueueMemory μ) :
    QueueEvent μ -> Option (QueueMemory μ × QueueOutput μ)
  | .push msg grown =>
      (queue.push msg grown).map fun pushed =>
        (pushed.1, { released := pushed.2.toList })
  | .pop => queue.pop.map fun popped => (popped.2, { returned := popped.1 })
  | .stop => some ({ queue with stopped := true }, {})
  | .drain =>
      queue.drain.map fun drained => (drained.2, { released := drained.1 })

/-! ## An array of the right size -/

/-- The queue whose array has as many cells as its capacity says. -/
def MessageQueue.memory (queue : MessageQueue μ) : QueueMemory μ :=
  { items := queue.cells
    capacity := queue.capacity
    head := queue.head
    tail := queue.tail
    count := queue.count
    maxCapacity := queue.maxCapacity
    stopped := queue.stopped }

section

variable {queue : MessageQueue μ} {waiting : List μ}

theorem memory_store
    (holds : queue.Holds waiting)
    (msg : μ) :
    queue.memory.store msg = some (queue.store msg).memory := by
  have inside : queue.tail < queue.cells.length := by
    rw [holds.ends]
    exact Nat.mod_lt _ (Nat.zero_lt_of_lt holds.inside)
  have stored : storeCell queue.memory.items queue.memory.tail (some msg) =
      some (queue.cells.set queue.tail (some msg)) := if_pos inside
  rw [QueueMemory.store, stored]
  simp [MessageQueue.memory, MessageQueue.store, RingBuffer.put,
    RingBuffer.capacity]

theorem memory_front
    {oldest : μ}
    (holds : queue.Holds (oldest :: waiting)) :
    queue.memory.items[queue.memory.head]? = some (some oldest) := by
  have first := holds.stored 0 oldest rfl
  rwa [Nat.add_zero, Nat.mod_eq_of_lt holds.inside] at first

theorem getElem?_foldl_set_of_not_mem
    {cells : List (Option μ)}
    {indices : List Nat}
    {place : Nat -> Nat}
    {position : Nat}
    (apart : ∀ index ∈ indices, place index ≠ position) :
    (indices.foldl (fun cells index => cells.set (place index) none)
      cells)[position]? = cells[position]? := by
  induction indices generalizing cells with
  | nil => rfl
  | cons index indices inductionHypothesis =>
      rw [List.foldl_cons, inductionHypothesis fun other member =>
        apart other (List.mem_cons_of_mem _ member)]
      exact List.getElem?_set_ne (apart index List.mem_cons_self)

/-- The cells of the queue are inside of its array. -/
theorem mapM_cells
    (holds : queue.Holds waiting) :
    ((List.range queue.count).mapM fun index =>
      queue.cells[(queue.head + index) % queue.capacity]?) =
      some ((List.range queue.count).map queue.cellAt) := by
  have positive : 0 < queue.capacity := Nat.zero_lt_of_lt holds.inside
  generalize List.range queue.count = indices
  induction indices with
  | nil => rfl
  | cons index indices inductionHypothesis =>
      have inside : (queue.head + index) % queue.capacity <
          queue.cells.length := Nat.mod_lt _ positive
      rw [List.mapM_cons, inductionHypothesis,
        List.getElem?_eq_getElem inside]
      simp [RingBuffer.cellAt, List.getElem?_eq_getElem inside]

theorem memory_grow
    (holds : queue.Holds waiting)
    (wider : waiting.length < queue.newCapacity) :
    queue.memory.grow =
      some (MessageQueue.memory
        { queue with
          toRingBuffer := queue.relinearize queue.newCapacity }) := by
  have length : (queue.relinearize queue.newCapacity).cells.length =
      queue.newCapacity := holds.relinearize_capacity wider
  have copied := mapM_cells holds
  unfold QueueMemory.grow MessageQueue.memory
  dsimp only
  rw [copied, Option.map_some, Option.some_inj, QueueMemory.mk.injEq]
  exact ⟨rfl, length.symm, rfl, rfl, rfl, rfl, rfl⟩

/-- The loop of a drain, up to any cell. -/
theorem foldlM_drainTurn
    (holds : queue.Holds waiting)
    {turns : Nat}
    (few : turns ≤ waiting.length) :
    (List.range turns).foldlM queue.memory.drainTurn (queue.cells, []) =
      some
        ((List.range turns).foldl (fun cells index =>
            cells.set ((queue.head + index) % queue.capacity) none)
          queue.cells,
          (List.range turns).filterMap queue.cellAt) := by
  induction turns with
  | zero => rfl
  | succ turns inductionHypothesis =>
      have fits := holds.fits
      have positive := Nat.zero_lt_of_lt holds.inside
      obtain ⟨msg, read⟩ : ∃ msg, waiting[turns]? = some msg :=
        ⟨_, List.getElem?_eq_getElem few⟩
      rw [List.range_succ, List.foldlM_append,
        inductionHypothesis (Nat.le_of_succ_le few)]
      generalize cut : (List.range turns).foldl (fun cells index =>
        cells.set ((queue.head + index) % queue.capacity) none)
          queue.cells = cells
      have length : cells.length = queue.capacity := by
        rw [← cut]
        exact RingBuffer.length_foldl_set _ _ _
      have kept : cells[(queue.head + turns) % queue.capacity]? =
          some (some msg) := by
        rw [← cut, getElem?_foldl_set_of_not_mem]
        · exact holds.stored turns msg read
        · intro index member same
          have earlier := List.mem_range.mp member
          have equal := RingBuffer.wrap_injective holds.inside
            (by omega) (by omega) same
          omega
      have inside : (queue.head + turns) % queue.capacity < cells.length := by
        rw [length]
        exact Nat.mod_lt _ positive
      have turn : queue.memory.drainTurn
          (cells, (List.range turns).filterMap queue.cellAt) turns =
            some (cells.set ((queue.head + turns) % queue.capacity) none,
              (List.range turns).filterMap queue.cellAt ++ [msg]) := by
        unfold QueueMemory.drainTurn MessageQueue.memory
        dsimp only
        rw [kept, Option.bind_some, storeCell, if_pos inside]
        rfl
      rw [Option.bind_eq_bind, Option.bind_some, List.foldlM_cons, turn,
        List.foldl_append, cut, List.filterMap_append]
      simp [holds.cellAt read]

theorem memory_drain
    (holds : queue.Holds waiting) :
    queue.memory.drain =
      some ((krsMessageQueueDrain queue).1,
        (krsMessageQueueDrain queue).2.memory) := by
  have loop := foldlM_drainTurn holds (Nat.le_refl _)
  rw [← holds.counted] at loop
  have length := RingBuffer.clear_capacity queue.toRingBuffer
  have cells : queue.memory.items = queue.cells := rfl
  have count : queue.memory.count = queue.count := rfl
  rw [QueueMemory.drain, cells, count, loop]
  simp only [Option.map_some, krsMessageQueueDrain, MessageQueue.memory,
    length]
  rfl

theorem memory_push
    (holds : queue.Holds waiting)
    (msg : μ)
    (grown : Bool) :
    queue.memory.push msg grown =
      some ((krsMessageQueuePush queue msg grown).1.memory,
        (krsMessageQueuePush queue msg grown).2) := by
  have count : queue.memory.count = queue.count := rfl
  have capacity : queue.memory.capacity = queue.capacity := rfl
  have limit : queue.memory.maxCapacity = queue.maxCapacity := rfl
  unfold QueueMemory.push krsMessageQueuePush
  rw [count, capacity, limit]
  by_cases full : queue.count = queue.capacity
  · rw [if_pos full, if_pos full]
    have counted := holds.counted
    have inside := holds.inside
    by_cases limited : queue.capacity ≥ queue.maxCapacity
    · rw [if_pos limited, if_pos limited]
      cases waiting with
      | nil =>
          rw [full, List.length_nil] at counted
          omega
      | cons oldest others =>
          have advanced : queue.dropOldest.Holds others := holds.advance
          have stored := memory_store advanced msg
          rw [memory_front holds, Option.bind_some, holds.front]
          exact congrArg (Option.map fun next => (next, some oldest)) stored
    · rw [if_neg limited, if_neg limited]
      cases grown with
      | false => rfl
      | true =>
          have wider : waiting.length < queue.newCapacity := by
            rw [newCapacity_eq, ← counted]
            omega
          let larger : MessageQueue μ :=
            { queue with
              toRingBuffer := queue.relinearize queue.newCapacity }
          have copied : larger.Holds waiting := holds.relinearize wider
          have stored := memory_store copied msg
          rw [memory_grow holds wider]
          exact congrArg (Option.map fun next => (next, none)) stored
  · rw [if_neg full, if_neg full, memory_store holds]
    rfl

theorem memory_pop
    (holds : queue.Holds waiting) :
    queue.memory.pop =
      some ((krsMessageQueuePop queue).1,
        (krsMessageQueuePop queue).2.memory) := by
  have count : queue.memory.count = queue.count := rfl
  unfold QueueMemory.pop
  rw [count, holds.counted]
  cases waiting with
  | nil =>
      rw [krsMessageQueuePop_nil holds]
      rfl
  | cons oldest others =>
      rw [krsMessageQueuePop_cons holds, memory_front holds,
        List.length_cons, if_neg (Nat.succ_ne_zero _), Option.map_some,
        ← List.length_cons, ← holds.counted]
      rfl

/-- Every call stays inside of the array, and does what it does on the
ring. -/
theorem queueMemoryStep_memory
    (holds : queue.Holds waiting)
    (event : QueueEvent μ) :
    queueMemoryStep queue.memory event =
      some ((queueStep queue event).1.memory, (queueStep queue event).2) := by
  cases event with
  | push msg grown =>
      rw [queueMemoryStep, memory_push holds]
      rfl
  | pop =>
      rw [queueMemoryStep, memory_pop holds]
      rfl
  | stop => rfl
  | drain =>
      rw [queueMemoryStep, memory_drain holds]
      rfl

theorem runOutputs_memory
    {limit : Nat}
    {fifo : BoundedFifo μ}
    (refines : queue.Refines limit fifo)
    (events : List (QueueEvent μ)) :
    runOutputs queueMemoryStep queue.memory events =
      some ((runTotal queueStep queue events).1.memory,
        (runTotal queueStep queue events).2) := by
  induction events generalizing queue fifo with
  | nil => rfl
  | cons event events inductionHypothesis =>
      exact runOutputs_cons (queueMemoryStep_memory refines.holds event)
        (inductionHypothesis (queueStep_refines refines event).1)

end

/-! ## An array that is too small -/

/-- A size that wraps leaves fewer cells than the capacity. -/
theorem allocatedCells_eq (capacity : UInt64) :
    QueueMemory.allocatedCells capacity = capacity.toNat % 2 ^ 61 := by
  unfold QueueMemory.allocatedCells
  rw [UInt64.toNat_mul]
  change capacity.toNat * 8 % 2 ^ 64 / 8 = _
  omega

/-- Pushes go on until the array is full. -/
theorem runOutputs_pushes
    (msg : μ)
    {initialCapacity : UInt64}
    (wraps : 2 ^ 61 ≤ initialCapacity.toNat)
    (pushes : Nat)
    (few : pushes ≤ initialCapacity.toNat % 2 ^ 61) :
    ∃ queue : QueueMemory μ, ∃ outputs,
      runOutputs queueMemoryStep (.create initialCapacity)
          (List.replicate pushes (.push msg true)) =
        some (queue, outputs) ∧
      queue.items.length = initialCapacity.toNat % 2 ^ 61 ∧
      queue.capacity = initialCapacity.toNat ∧
      queue.count = pushes ∧ queue.tail = pushes := by
  induction pushes with
  | zero =>
      have nonzero : initialCapacity ≠ 0 := by
        rintro rfl
        exact absurd wraps (by decide)
      refine ⟨_, _, rfl, ?_, ?_, rfl, rfl⟩
      · simp only [QueueMemory.create, if_neg nonzero,
          List.length_replicate, allocatedCells_eq]
      · simp only [QueueMemory.create, if_neg nonzero]
  | succ pushes inductionHypothesis =>
      obtain ⟨queue, outputs, reached, size, capacity, counted, behind⟩ :=
        inductionHypothesis (Nat.le_of_succ_le few)
      have small := Nat.mod_lt initialCapacity.toNat
        (by decide : 0 < 2 ^ 61)
      have stored : storeCell queue.items queue.tail (some msg) =
          some (queue.items.set pushes (some msg)) := by
        rw [behind]
        exact if_pos (by omega)
      have pushed : queueMemoryStep queue (.push msg true) =
          some ({ queue with
            items := queue.items.set pushes (some msg)
            tail := pushes + 1
            count := pushes + 1 }, {}) := by
        rw [queueMemoryStep, QueueMemory.push, if_neg (by omega),
          QueueMemory.store, stored, behind, counted,
          Nat.mod_eq_of_lt (by omega)]
        rfl
      have run := runOutputs_append reached
        (runOutputs_cons pushed (rfl : runOutputs queueMemoryStep _ [] = _))
      rw [← List.replicate_succ'] at run
      exact ⟨_, _, run, List.length_set.trans size, capacity, rfl, rfl⟩

/-- The next push writes outside of the array. -/
theorem runOutputs_overrun
    (msg : μ)
    {initialCapacity : UInt64}
    (wraps : 2 ^ 61 ≤ initialCapacity.toNat) :
    runOutputs queueMemoryStep (.create initialCapacity)
      (List.replicate (initialCapacity.toNat % 2 ^ 61 + 1)
        (.push msg true)) = none := by
  obtain ⟨queue, outputs, reached, size, capacity, counted, behind⟩ :=
    runOutputs_pushes msg wraps _ (Nat.le_refl _)
  have small := Nat.mod_lt initialCapacity.toNat (by decide : 0 < 2 ^ 61)
  have outside : queueMemoryStep queue (.push msg true) = none := by
    rw [queueMemoryStep, QueueMemory.push, if_neg (by omega),
      QueueMemory.store, storeCell_outside (by omega)]
    rfl
  rw [List.replicate_succ']
  exact runOutputs_stuck reached outside

/-! ## The queue and its array -/

/-- In this run of calls the queue stays inside of its array, and does what the
bounded queue on lists does. -/
def RefinesFifo
    (initialCapacity : UInt64)
    (events : List (QueueEvent μ)) : Prop :=
  ∃ (queue : QueueMemory μ) (outputs : List (QueueOutput μ)),
    runOutputs queueMemoryStep (.create initialCapacity) events =
      some (queue, outputs) ∧
    let fifo := runTotal (fifoStep 65536) (newFifo initialCapacity.toNat)
      events
    let ring : RingBuffer μ :=
      { cells := queue.items
        head := queue.head
        tail := queue.tail
        count := queue.count }
    outputs = fifo.2 ∧ queue.items.length = queue.capacity ∧
      ring.Holds fifo.1.waiting ∧ queue.capacity = fifo.1.capacity ∧
      fifo.1.Accounts (events.filterMap QueueEvent.pushed)
        (outputs.filterMap QueueOutput.returned)

/-- Every run of calls on a queue refines the bounded queue on lists if and
only if the size of its first array, eight bytes a pointer, does not wrap
around in 64 bits. -/
theorem queue_array_refines_fifo_iff
    (msg : μ)
    (initialCapacity : UInt64) :
    (∀ events : List (QueueEvent μ),
        RefinesFifo initialCapacity events) ↔
      initialCapacity.toNat * 8 < 2 ^ 64 := by
  constructor
  · intro refines
    by_contra wraps
    obtain ⟨queue, outputs, reached, -⟩ := refines
      (List.replicate (initialCapacity.toNat % 2 ^ 61 + 1)
        (.push msg true))
    rw [runOutputs_overrun msg (by omega)] at reached
    cases reached
  · intro fits events
    have created : QueueMemory.create initialCapacity =
        (krsMessageQueueCreate initialCapacity.toNat :
          MessageQueue μ).memory := by
      unfold QueueMemory.create krsMessageQueueCreate MessageQueue.memory
      by_cases zero : initialCapacity = 0
      · subst zero
        rfl
      · have nonzero : initialCapacity.toNat ≠ 0 := fun same =>
          zero (UInt64.toNat_inj.mp same)
        have cells : QueueMemory.allocatedCells initialCapacity =
            initialCapacity.toNat := by
          rw [allocatedCells_eq]
          exact Nat.mod_eq_of_lt (by omega)
        simp only [if_neg zero, if_neg nonzero, cells, RingBuffer.create,
          RingBuffer.capacity, List.length_replicate]
    have room : 0 < (newFifo initialCapacity.toNat :
        BoundedFifo μ).capacity := newFifo_room _
    have start : (krsMessageQueueCreate initialCapacity.toNat :
        MessageQueue μ).Refines 65536 (newFifo initialCapacity.toNat) :=
      ⟨RingBuffer.create_holds room, List.length_replicate, rfl⟩
    have reached := runOutputs_memory start events
    obtain ⟨sameOutputs, holds, capacity, accounts⟩ :=
      message_queue_refines_fifo initialCapacity.toNat events
    rw [← created] at reached
    exact ⟨_, _, reached, sameOutputs, rfl, holds, capacity, accounts⟩

/-- A queue of `2 ^ 61` pointers has an array without cells, and the first push
writes outside of it. -/
theorem huge_queue_overruns :
    runOutputs queueMemoryStep
        (QueueMemory.create 2305843009213693952)
        [.push (7 : Nat) true] = none ∧
      ¬ RefinesFifo 2305843009213693952 [.push (7 : Nat) true] := by
  have overrun := runOutputs_overrun 7
    (by decide : 2 ^ 61 ≤ (2305843009213693952 : UInt64).toNat)
  refine ⟨overrun, ?_⟩
  rintro ⟨queue, outputs, reached, -⟩
  exact absurd (overrun.symm.trans reached) (by simp)

end Kronos
