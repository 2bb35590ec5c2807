import Mathlib.Algebra.Order.Group.Multiset
import Mathlib.Tactic.Abel
import Kronos.Library.ThreadPool
import Kronos.Server.MessageQueue

/-!
# The message pool

`message_pool.c` and its users: I/O threads acquire a buffer for each datagram
and push it on the message queue, handler threads pop and release, and the last
step of a stopping server drains the queue.  A buffer comes from the pool's
storage or, when that is used up, from the heap, up to a limit.

The threads interleave between any two critical sections and interlocked
operations.  Each buffer is always in exactly one place.
-/

namespace Kronos

open Library

/-- An `IncomingMessage_t*`: a cell of the pool's storage or a block of the
heap, which are apart. -/
inductive MessageRef
  | pooled (index : Nat)
  | heap (address : Nat)
  deriving DecidableEq, Repr

/-- `KRS_MESSAGE_POOL_MAX_FALLBACK`. -/
def krsMessagePoolMaxFallback : Nat := 1024

/-- `MessagePool_t`.  The used part of `free_stack` is a list with the top
first, and `free_count` is its length. -/
structure MessagePool where
  capacity : Nat
  freeStack : List MessageRef
  outstandingFallbackCount : Int
  fallbackCount : Nat
  deriving DecidableEq, Repr

/-- `free_count`. -/
def MessagePool.freeCount (pool : MessagePool) : Nat := pool.freeStack.length

/-- `krs_message_pool_create`. -/
def krsMessagePoolCreate (capacity : Nat) : MessagePool :=
  let capacity := if capacity = 0 then 256 else capacity
  { capacity := capacity
    freeStack := ((List.range capacity).map MessageRef.pooled).reverse
    outstandingFallbackCount := 0
    fallbackCount := 0 }

/-- The pool, the heap blocks that are allocated for messages, and whether
anything has gone wrong with them: a block freed that is not allocated, or a
write beyond the end of the free stack. -/
structure MessageMemory where
  pool : MessagePool
  allocated : List Nat := []
  faulted : Bool := false
  deriving DecidableEq, Repr

/-- The part of `krs_message_pool_release` for a cell of the storage. -/
def MessageMemory.pushFree (memory : MessageMemory) (msg : MessageRef) :
    MessageMemory :=
  { memory with
    pool :=
      { memory.pool with freeStack := msg :: memory.pool.freeStack }
    faulted := memory.faulted ||
      decide (memory.pool.capacity ≤ memory.pool.freeCount) }

/-- `free` of a heap message. -/
def MessageMemory.free (memory : MessageMemory) (address : Nat) :
    MessageMemory :=
  { memory with
    allocated := memory.allocated.erase address
    faulted := memory.faulted || !memory.allocated.contains address }

/-- An interlocked change of `outstanding_fallback_count`. -/
def MessageMemory.addOutstanding (memory : MessageMemory) (change : Int) :
    MessageMemory :=
  { memory with
    pool :=
      { memory.pool with
        outstandingFallbackCount :=
          memory.pool.outstandingFallbackCount + change } }

/-- `malloc` of a fallback message, and its count. -/
def MessageMemory.allocate (memory : MessageMemory) (address : Nat) :
    MessageMemory :=
  { memory with
    allocated := address :: memory.allocated
    pool :=
      { memory.pool with fallbackCount := memory.pool.fallbackCount + 1 } }

/-- `krs_message_pool_release` without interruption. -/
def krsMessagePoolRelease (memory : MessageMemory) :
    MessageRef -> MessageMemory
  | .pooled index => memory.pushFree (.pooled index)
  | .heap address => (memory.free address).addOutstanding (-1)

/-! ## Threads -/

/-- Where a thread is between two of its operations.

`idle` is the head of the loop of an I/O or a handler thread.  The next four
are inside `krs_message_pool_acquire`: the free stack was empty; the count was
raised beyond the limit, or within it; the allocation failed.  `acquired` is
before `krs_message_queue_push`, `popped` is a handler with a message, and
`routing` is inside `s_route_frame`.  `releasing` and `uncounting` are inside
`krs_message_pool_release`, before it and between `free` and the count; where a
push releases the oldest message for its own, it goes on with `storing` and
holds the lock of the queue all the while. -/
inductive MessageThread
  | idle
  | exhausted
  | overLimit
  | counted
  | unallocated
  | acquired (msg : MessageRef)
  | popped (msg : MessageRef)
  | routing (msg : MessageRef)
  | releasing (msg : MessageRef) (pushing : Option MessageRef)
  | uncounting (pushing : Option MessageRef)
  | storing (msg : MessageRef)
  deriving DecidableEq, Repr

/-- Where a thread goes on after a release. -/
def MessageThread.resumed : Option MessageRef -> MessageThread
  | none => .idle
  | some msg => .storing msg

/-- The buffers that a thread holds. -/
def MessageThread.buffers : MessageThread -> List MessageRef
  | .acquired msg => [msg]
  | .popped msg => [msg]
  | .routing msg => [msg]
  | .releasing msg pushing => msg :: pushing.toList
  | .uncounting pushing => pushing.toList
  | .storing msg => [msg]
  | _ => []

/-- The thread is inside a push and holds the lock of the queue. -/
def MessageThread.locksQueue : MessageThread -> Bool
  | .releasing _ (some _) => true
  | .uncounting (some _) => true
  | .storing _ => true
  | _ => false

/-- How `krs_server_message_handler_thread` goes on with a message: there is no
descriptor for its port; the protocol byte is wrong; the body is missing; or
the frame is routed. -/
inductive HandlerVerdict
  | unknownPort
  | invalidProtocol
  | missingBody
  | routed
  deriving DecidableEq, Repr

/-- The loop of a handler, from a popped message on. -/
def handleMessage (msg : MessageRef) : HandlerVerdict -> MessageThread
  | .unknownPort => .releasing msg none
  | .invalidProtocol => .releasing msg none
  | .missingBody => .releasing msg none
  | .routed => .routing msg

/-- What the environment decides for a step of a thread: whether an idle thread
takes a datagram or polls the queue, what a handler finds in its message, what
`malloc` returns, and whether the queue can grow. -/
structure MessageChoice where
  receives : Bool := true
  verdict : HandlerVerdict := .routed
  address : Option Nat := none
  grown : Bool := true
  deriving DecidableEq, Repr

/-- The memory, the queue and the threads. -/
structure MessageSystem where
  memory : MessageMemory
  queue : MessageQueue MessageRef
  threads : List MessageThread
  deriving DecidableEq, Repr

/-- Some thread holds the lock of the queue. -/
def MessageSystem.queueLocked (system : MessageSystem) : Bool :=
  system.threads.any MessageThread.locksQueue

/-- `krs_message_queue_push` of a thread with its message, up to the release of
another message or its end. -/
def pushMessage
    (queue : MessageQueue MessageRef)
    (msg : MessageRef)
    (grown : Bool) : MessageQueue MessageRef × MessageThread :=
  if queue.count = queue.capacity then
    if queue.capacity ≥ queue.maxCapacity then
      match queue.front with
      | some oldest => (queue.dropOldest, .releasing oldest (some msg))
      | none => (queue.dropOldest, .storing msg)
    else if !grown then (queue, .releasing msg none)
    else
      ({ queue with
        toRingBuffer := queue.relinearize queue.newCapacity }.store msg, .idle)
  else (queue.store msg, .idle)

/-- The next operation of a thread.  There is none while another thread holds
the lock that it waits for, and `malloc` returns no block that is in use. -/
def threadAdvance (system : MessageSystem) (choice : MessageChoice) :
    MessageThread ->
      Option (MessageMemory × MessageQueue MessageRef × MessageThread)
  | .idle =>
      if choice.receives then
        match system.memory.pool.freeStack with
        | [] => some (system.memory, system.queue, .exhausted)
        | msg :: rest =>
            some ({ system.memory with
              pool := { system.memory.pool with freeStack := rest } },
              system.queue, .acquired msg)
      else if system.queueLocked then none
      else
        let popped := krsMessageQueuePop system.queue
        some (system.memory, popped.2,
          match popped.1 with
          | none => .idle
          | some msg => .popped msg)
  | .exhausted =>
      let raised := system.memory.addOutstanding 1
      some (raised, system.queue,
        if raised.pool.outstandingFallbackCount > krsMessagePoolMaxFallback
        then .overLimit
        else .counted)
  | .overLimit => some (system.memory.addOutstanding (-1), system.queue, .idle)
  | .counted =>
      match choice.address with
      | none => some (system.memory, system.queue, .unallocated)
      | some address =>
          if system.memory.allocated.contains address then none
          else
            some (system.memory.allocate address, system.queue,
              .acquired (.heap address))
  | .unallocated =>
      some (system.memory.addOutstanding (-1), system.queue, .idle)
  | .acquired msg =>
      if system.queueLocked then none
      else
        let pushed := pushMessage system.queue msg choice.grown
        some (system.memory, pushed.1, pushed.2)
  | .popped msg =>
      some (system.memory, system.queue, handleMessage msg choice.verdict)
  | .routing msg => some (system.memory, system.queue, .releasing msg none)
  | .releasing (.pooled index) pushing =>
      some (system.memory.pushFree (.pooled index), system.queue,
        .resumed pushing)
  | .releasing (.heap address) pushing =>
      some (system.memory.free address, system.queue, .uncounting pushing)
  | .uncounting pushing =>
      some (system.memory.addOutstanding (-1), system.queue,
        .resumed pushing)
  | .storing msg => some (system.memory, system.queue.store msg, .idle)

/-- What happens: a thread takes its next operation, or, with every thread back
at the head of its loop, the queue is drained. -/
inductive MessageEvent
  | advance (thread : Nat) (choice : MessageChoice)
  | drain
  deriving DecidableEq, Repr

/-- `krs_message_queue_drain` into the pool. -/
def MessageSystem.drain (system : MessageSystem) : MessageSystem :=
  let drained := krsMessageQueueDrain system.queue
  { system with
    memory := drained.1.foldl krsMessagePoolRelease system.memory
    queue := drained.2 }

/-- Every thread is at the head of its loop, where it exits. -/
def MessageSystem.allIdle (system : MessageSystem) : Bool :=
  system.threads.all (· == .idle)

/-- One step. -/
def messageStep (system : MessageSystem) : MessageEvent -> Option MessageSystem
  | .advance position choice =>
      system.threads[position]?.bind fun thread =>
        (threadAdvance system choice thread).map fun advanced =>
          { memory := advanced.1
            queue := advanced.2.1
            threads := splice system.threads position [advanced.2.2] }
  | .drain => if system.allIdle then some system.drain else none

/-- The start: a new pool, a new queue, and any number of threads. -/
def MessageSystem.start (poolCapacity queueCapacity threads : Nat) :
    MessageSystem :=
  { memory := { pool := krsMessagePoolCreate poolCapacity }
    queue := krsMessageQueueCreate queueCapacity
    threads := List.replicate threads .idle }

/-! ## The invariant -/

/-- Every buffer there is: the cells of the storage and the allocated blocks. -/
def MessageMemory.everyBuffer (memory : MessageMemory) : List MessageRef :=
  (List.range memory.pool.capacity).map MessageRef.pooled ++
    memory.allocated.map MessageRef.heap

/-- The buffer is a cell of the storage. -/
def MessageRef.isPooled : MessageRef -> Bool
  | .pooled _ => true
  | .heap _ => false

theorem countP_everyBuffer (memory : MessageMemory) :
    memory.everyBuffer.countP (·.isPooled = true) = memory.pool.capacity := by
  have cells : ((List.range memory.pool.capacity).map
      MessageRef.pooled).countP (·.isPooled = true) =
        memory.pool.capacity := by
    rw [List.countP_map]
    exact (List.countP_eq_length.mpr fun _ _ => rfl).trans List.length_range
  have blocks : (memory.allocated.map MessageRef.heap).countP
      (·.isPooled = true) = 0 := by
    rw [List.countP_map]
    exact List.countP_eq_zero.mpr fun _ _ => Bool.false_ne_true
  rw [MessageMemory.everyBuffer, List.countP_append, cells, blocks,
    Nat.add_zero]

/-- The thread has a fallback message counted that is not allocated: not yet,
or not any more. -/
def MessageThread.countsSlot : MessageThread -> Bool
  | .counted => true
  | .unallocated => true
  | .uncounting _ => true
  | _ => false

/-- The thread has raised the count beyond the limit. -/
def MessageThread.exceeds : MessageThread -> Bool
  | .overLimit => true
  | _ => false

/-- Every buffer is in one place; the fallback messages are counted; and a
thread that holds the lock of the queue finds room in it. -/
structure MessageInvariant
    (memory : MessageMemory)
    (queue : MessageQueue MessageRef)
    (threads : List MessageThread)
    (contents : List MessageRef) : Prop where
  holds : queue.Holds contents
  places : (↑memory.pool.freeStack + ↑contents +
    gathered MessageThread.buffers threads : Multiset MessageRef) =
      ↑memory.everyBuffer
  pooled : ∀ msg ∈ memory.pool.freeStack, ∃ index, msg = .pooled index
  distinct : memory.allocated.Nodup
  outstanding : memory.pool.outstandingFallbackCount =
    memory.allocated.length + threads.countP MessageThread.countsSlot +
      threads.countP MessageThread.exceeds
  limited : memory.allocated.length +
    threads.countP MessageThread.countsSlot ≤ krsMessagePoolMaxFallback
  exclusive : threads.countP MessageThread.locksQueue ≤ 1
  room : 0 < threads.countP MessageThread.locksQueue ->
    contents.length < queue.capacity
  sound : memory.faulted = false

theorem MessageInvariant.perm
    {memory : MessageMemory}
    {queue : MessageQueue MessageRef}
    {threads others : List MessageThread}
    {contents : List MessageRef}
    (invariant : MessageInvariant memory queue threads contents)
    (perm : threads.Perm others) :
    MessageInvariant memory queue others contents where
  holds := invariant.holds
  places := by
    rw [← gathered_perm perm]
    exact invariant.places
  pooled := invariant.pooled
  distinct := invariant.distinct
  outstanding := by
    rw [← perm.countP_eq, ← perm.countP_eq]
    exact invariant.outstanding
  limited := by
    rw [← perm.countP_eq]
    exact invariant.limited
  exclusive := by
    rw [← perm.countP_eq]
    exact invariant.exclusive
  room := by
    rw [← perm.countP_eq]
    exact invariant.room
  sound := invariant.sound

section Resumed

variable (msg : MessageRef) (pushing : Option MessageRef)

@[simp]
theorem resumed_buffers :
    (MessageThread.resumed pushing).buffers = pushing.toList := by
  cases pushing <;> rfl

@[simp]
theorem resumed_countsSlot :
    (MessageThread.resumed pushing).countsSlot = false := by
  cases pushing <;> rfl

@[simp]
theorem resumed_exceeds :
    (MessageThread.resumed pushing).exceeds = false := by
  cases pushing <;> rfl

@[simp]
theorem resumed_locksQueue :
    (MessageThread.resumed pushing).locksQueue = pushing.isSome := by
  cases pushing <;> rfl

@[simp]
theorem releasing_locksQueue :
    (MessageThread.releasing msg pushing).locksQueue = pushing.isSome := by
  cases pushing <;> rfl

@[simp]
theorem uncounting_locksQueue :
    (MessageThread.uncounting pushing).locksQueue = pushing.isSome := by
  cases pushing <;> rfl

end Resumed

/-- The cells of the storage on the free stack and elsewhere. -/
theorem MessageInvariant.cells
    {memory : MessageMemory}
    {queue : MessageQueue MessageRef}
    {threads : List MessageThread}
    {contents : List MessageRef}
    (invariant : MessageInvariant memory queue threads contents) :
    memory.pool.freeCount + Multiset.countP (MessageRef.isPooled · = true)
        ((contents : Multiset MessageRef) +
          gathered MessageThread.buffers threads) =
      memory.pool.capacity := by
  have counts := congrArg (Multiset.countP (·.isPooled = true))
    invariant.places
  have stack : memory.pool.freeStack.countP (·.isPooled = true) =
      memory.pool.freeCount := by
    apply List.countP_eq_length.mpr
    intro msg member
    obtain ⟨index, rfl⟩ := invariant.pooled msg member
    rfl
  rw [add_assoc, Multiset.countP_add, Multiset.coe_countP, stack,
    Multiset.coe_countP, countP_everyBuffer] at counts
  exact counts

section Step

variable
  {memory : MessageMemory}
  {queue : MessageQueue MessageRef}
  {rest : List MessageThread}
  {contents : List MessageRef}

/-- A thread goes on to a state with the same buffers, counts and locks. -/
theorem MessageInvariant.goOn
    {before after : MessageThread}
    (invariant : MessageInvariant memory queue (before :: rest) contents)
    (buffers : after.buffers = before.buffers)
    (slot : after.countsSlot = before.countsSlot)
    (excess : after.exceeds = before.exceeds)
    (lock : after.locksQueue = before.locksQueue) :
    MessageInvariant memory queue (after :: rest) contents where
  holds := invariant.holds
  places := by
    rw [gathered_cons, buffers, ← gathered_cons]
    exact invariant.places
  pooled := invariant.pooled
  distinct := invariant.distinct
  outstanding := by
    rw [List.countP_cons, List.countP_cons, slot, excess, ← List.countP_cons,
      ← List.countP_cons]
    exact invariant.outstanding
  limited := by
    rw [List.countP_cons, slot, ← List.countP_cons]
    exact invariant.limited
  exclusive := by
    rw [List.countP_cons, lock, ← List.countP_cons]
    exact invariant.exclusive
  room := by
    rw [List.countP_cons, lock, ← List.countP_cons]
    exact invariant.room
  sound := invariant.sound

/-- A thread takes the top of the free stack. -/
theorem MessageInvariant.acquire
    {msg : MessageRef}
    {others : List MessageRef}
    (invariant : MessageInvariant memory queue (.idle :: rest) contents)
    (top : memory.pool.freeStack = msg :: others) :
    MessageInvariant
      { memory with pool := { memory.pool with freeStack := others } } queue
      (.acquired msg :: rest) contents where
  holds := invariant.holds
  places := by
    have places := invariant.places
    rw [top, gathered_cons] at places
    rw [gathered_cons]
    refine Eq.trans ?_ places
    simp only [MessageThread.buffers, ← Multiset.cons_coe,
      ← Multiset.singleton_add, Multiset.coe_nil]
    abel
  pooled := by
    intro other member
    apply invariant.pooled
    rw [top]
    exact List.mem_cons_of_mem msg member
  distinct := invariant.distinct
  outstanding := invariant.outstanding
  limited := invariant.limited
  exclusive := invariant.exclusive
  room := invariant.room
  sound := invariant.sound

/-- A thread without the lock takes the oldest message of the queue. -/
theorem MessageInvariant.pop
    {msg : MessageRef}
    {others : List MessageRef}
    (invariant : MessageInvariant memory queue (.idle :: rest) (msg :: others))
    (unlocked : (MessageThread.idle :: rest).countP
      MessageThread.locksQueue = 0) :
    MessageInvariant memory queue.dropOldest (.popped msg :: rest) others where
  holds := invariant.holds.advance
  places := by
    have places := invariant.places
    rw [gathered_cons] at places
    rw [gathered_cons]
    refine Eq.trans ?_ places
    simp only [MessageThread.buffers, ← Multiset.cons_coe,
      ← Multiset.singleton_add, Multiset.coe_nil]
    abel
  pooled := invariant.pooled
  distinct := invariant.distinct
  outstanding := invariant.outstanding
  limited := invariant.limited
  exclusive := invariant.exclusive
  room := fun locked => absurd locked (by
    change ¬ 0 < (MessageThread.idle :: rest).countP MessageThread.locksQueue
    omega)
  sound := invariant.sound

/-- The count is raised within the limit. -/
theorem MessageInvariant.count
    (invariant : MessageInvariant memory queue (.exhausted :: rest) contents)
    (within : memory.pool.outstandingFallbackCount + 1 ≤
      krsMessagePoolMaxFallback) :
    MessageInvariant (memory.addOutstanding 1) queue (.counted :: rest)
      contents := by
  obtain ⟨holds, places, pooled, distinct, outstanding, limited, exclusive,
    room, sound⟩ := invariant
  simp only [List.countP_cons, MessageThread.countsSlot,
    MessageThread.exceeds, Bool.false_eq_true, if_false, Nat.add_zero]
    at outstanding limited
  refine ⟨holds, places, pooled, distinct, ?_, ?_, exclusive, room, sound⟩
  · simp only [List.countP_cons, MessageThread.countsSlot,
      MessageThread.exceeds, MessageMemory.addOutstanding,
      Bool.false_eq_true, if_false, if_true]
    omega
  · simp only [List.countP_cons, MessageThread.countsSlot,
      MessageMemory.addOutstanding, if_true]
    omega

/-- The count is raised beyond the limit. -/
theorem MessageInvariant.exceed
    (invariant : MessageInvariant memory queue (.exhausted :: rest)
      contents) :
    MessageInvariant (memory.addOutstanding 1) queue (.overLimit :: rest)
      contents := by
  obtain ⟨holds, places, pooled, distinct, outstanding, limited, exclusive,
    room, sound⟩ := invariant
  simp only [List.countP_cons, MessageThread.countsSlot,
    MessageThread.exceeds, Bool.false_eq_true, if_false, Nat.add_zero]
    at outstanding
  refine ⟨holds, places, pooled, distinct, ?_, limited, exclusive, room,
    sound⟩
  simp only [List.countP_cons, MessageThread.countsSlot,
    MessageThread.exceeds, MessageMemory.addOutstanding, Bool.false_eq_true,
    if_false, if_true]
  omega

/-- The count is lowered by a thread that had raised it. -/
theorem MessageInvariant.uncount
    {before after : MessageThread}
    (invariant : MessageInvariant memory queue (before :: rest) contents)
    (counting : before.countsSlot = true ∧ before.exceeds = false ∨
      before.countsSlot = false ∧ before.exceeds = true)
    (settled : after.countsSlot = false ∧ after.exceeds = false)
    (buffers : after.buffers = before.buffers)
    (lock : after.locksQueue = before.locksQueue) :
    MessageInvariant (memory.addOutstanding (-1)) queue (after :: rest)
      contents := by
  obtain ⟨holds, places, pooled, distinct, outstanding, limited, exclusive,
    room, sound⟩ := invariant
  simp only [List.countP_cons] at outstanding limited exclusive room
  refine ⟨holds, ?_, pooled, distinct, ?_, ?_, ?_, ?_, sound⟩
  · rw [gathered_cons, buffers, ← gathered_cons]
    exact places
  · simp only [List.countP_cons, settled, MessageMemory.addOutstanding]
    rcases counting with ⟨slot, excess⟩ | ⟨slot, excess⟩ <;>
      simp only [slot, excess, Bool.false_eq_true, if_false, if_true]
        at outstanding ⊢ <;> omega
  · simp only [List.countP_cons, settled, MessageMemory.addOutstanding,
      Bool.false_eq_true, if_false]
    omega
  · simp only [List.countP_cons, lock]
    exact exclusive
  · simp only [List.countP_cons, lock]
    exact room

theorem everyBuffer_allocate (memory : MessageMemory) (address : Nat) :
    (↑(memory.allocate address).everyBuffer : Multiset MessageRef) =
      {.heap address} + ↑memory.everyBuffer := by
  simp only [MessageMemory.everyBuffer, MessageMemory.allocate,
    List.map_cons, ← Multiset.coe_add, ← Multiset.cons_coe,
    ← Multiset.singleton_add]
  abel

/-- A counted thread gets a block that is not in use. -/
theorem MessageInvariant.allocate
    {address : Nat}
    (invariant : MessageInvariant memory queue (.counted :: rest) contents)
    (fresh : memory.allocated.contains address = false) :
    MessageInvariant (memory.allocate address) queue
      (.acquired (.heap address) :: rest) contents := by
  obtain ⟨holds, places, pooled, distinct, outstanding, limited, exclusive,
    room, sound⟩ := invariant
  rw [gathered_cons] at places
  simp only [List.countP_cons, MessageThread.countsSlot,
    MessageThread.exceeds, Bool.false_eq_true, if_false, if_true,
    Nat.add_zero] at outstanding limited
  refine ⟨holds, ?_, pooled, ?_, ?_, ?_, exclusive, room, sound⟩
  · rw [everyBuffer_allocate, ← places, gathered_cons]
    simp only [MessageThread.buffers, MessageMemory.allocate,
      ← Multiset.cons_coe, ← Multiset.singleton_add, Multiset.coe_nil]
    abel
  · rw [List.contains_eq_mem, decide_eq_false_iff_not] at fresh
    exact List.nodup_cons.mpr ⟨fresh, distinct⟩
  · simp only [List.countP_cons, MessageThread.countsSlot,
      MessageThread.exceeds, MessageMemory.allocate, List.length_cons,
      Bool.false_eq_true, if_false]
    omega
  · simp only [List.countP_cons, MessageThread.countsSlot,
      MessageMemory.allocate, List.length_cons, Bool.false_eq_true, if_false]
    omega

/-- A full queue at its limit gives up its oldest message under the lock. -/
theorem MessageInvariant.replace
    {msg oldest : MessageRef}
    {others : List MessageRef}
    (invariant : MessageInvariant memory queue (.acquired msg :: rest)
      (oldest :: others))
    (unlocked : (MessageThread.acquired msg :: rest).countP
      MessageThread.locksQueue = 0) :
    MessageInvariant memory queue.dropOldest
      (.releasing oldest (some msg) :: rest) others := by
  obtain ⟨holds, places, pooled, distinct, outstanding, limited, exclusive,
    room, sound⟩ := invariant
  simp only [List.countP_cons, MessageThread.locksQueue, Bool.false_eq_true,
    if_false, Nat.add_zero] at unlocked
  refine ⟨holds.advance, ?_, pooled, distinct, outstanding, limited, ?_, ?_,
    sound⟩
  · rw [← places, gathered_cons, gathered_cons]
    simp only [MessageThread.buffers, Option.toList_some,
      ← Multiset.cons_coe, ← Multiset.singleton_add, Multiset.coe_nil]
    abel
  · simp only [List.countP_cons, MessageThread.locksQueue, unlocked, if_true]
    exact Nat.le_refl _
  · intro _
    exact holds.fits

/-- A message is stored by the thread that holds it. -/
theorem MessageInvariant.store
    {before : MessageThread}
    {stored : MessageQueue MessageRef}
    {msg : MessageRef}
    (invariant : MessageInvariant memory queue (before :: rest) contents)
    (buffers : before.buffers = [msg])
    (counts : before.countsSlot = false ∧ before.exceeds = false)
    (unlocked : rest.countP MessageThread.locksQueue = 0)
    (holds : stored.Holds (contents ++ [msg])) :
    MessageInvariant memory stored (.idle :: rest) (contents ++ [msg]) := by
  obtain ⟨-, places, pooled, distinct, outstanding, limited, exclusive,
    room, sound⟩ := invariant
  simp only [List.countP_cons, counts, Bool.false_eq_true, if_false]
    at outstanding limited
  refine ⟨holds, ?_, pooled, distinct, outstanding, limited, ?_, ?_, sound⟩
  · rw [← places, gathered_cons, gathered_cons, buffers, ← Multiset.coe_add]
    simp only [MessageThread.buffers, Multiset.coe_nil]
    abel
  · simp only [List.countP_cons, unlocked, MessageThread.locksQueue,
      Bool.false_eq_true, if_false]
    exact Nat.zero_le _
  · simp only [List.countP_cons, unlocked, MessageThread.locksQueue,
      Bool.false_eq_true, if_false]
    exact fun locked => absurd locked (Nat.lt_irrefl 0)

/-- The cells of the storage on the stack are not all there are while a thread
holds one. -/
theorem MessageInvariant.freeCount_lt
    {index : Nat}
    {pushing : Option MessageRef}
    (invariant : MessageInvariant memory queue
      (.releasing (.pooled index) pushing :: rest) contents) :
    memory.pool.freeCount < memory.pool.capacity := by
  have cells := invariant.cells
  rw [gathered_cons, MessageThread.buffers, ← Multiset.cons_coe,
    Multiset.cons_add, Multiset.add_cons,
    Multiset.countP_cons_of_pos _ (by rfl)] at cells
  omega

/-- A cell of the storage is put back on the stack. -/
theorem MessageInvariant.pushFree
    {index : Nat}
    {pushing : Option MessageRef}
    (invariant : MessageInvariant memory queue
      (.releasing (.pooled index) pushing :: rest) contents) :
    MessageInvariant (memory.pushFree (.pooled index)) queue
      (.resumed pushing :: rest) contents := by
  have below := invariant.freeCount_lt
  obtain ⟨holds, places, pooled, distinct, outstanding, limited, exclusive,
    room, sound⟩ := invariant
  rw [gathered_cons] at places
  refine ⟨holds, ?_, ?_, distinct, ?_, ?_, ?_, ?_, ?_⟩
  · rw [gathered_cons, resumed_buffers]
    refine Eq.trans ?_ places
    simp only [MessageThread.buffers, MessageMemory.pushFree,
      ← Multiset.cons_coe, ← Multiset.singleton_add]
    abel
  · intro msg member
    rcases List.mem_cons.mp member with rfl | member
    · exact ⟨index, rfl⟩
    · exact pooled msg member
  · rw [List.countP_cons, List.countP_cons, resumed_countsSlot,
      resumed_exceeds]
    rw [List.countP_cons, List.countP_cons] at outstanding
    exact outstanding
  · rw [List.countP_cons, resumed_countsSlot]
    rw [List.countP_cons] at limited
    exact limited
  · simpa only [List.countP_cons, resumed_locksQueue,
      releasing_locksQueue] using exclusive
  · simpa only [List.countP_cons, resumed_locksQueue,
      releasing_locksQueue] using room
  · rw [MessageMemory.pushFree, sound, Bool.false_or, decide_eq_false_iff_not]
    omega

/-- A block that a thread holds is allocated. -/
theorem MessageInvariant.mem_allocated
    {address : Nat}
    {pushing : Option MessageRef}
    (invariant : MessageInvariant memory queue
      (.releasing (.heap address) pushing :: rest) contents) :
    address ∈ memory.allocated := by
  have member : MessageRef.heap address ∈
      (↑memory.everyBuffer : Multiset MessageRef) := by
    rw [← invariant.places, gathered_cons]
    simp only [Multiset.mem_add, Multiset.mem_coe, MessageThread.buffers,
      List.mem_cons, true_or, or_true]
  simpa [MessageMemory.everyBuffer] using member

theorem everyBuffer_free
    {address : Nat}
    (allocated : address ∈ memory.allocated) :
    (↑memory.everyBuffer : Multiset MessageRef) =
      {.heap address} + ↑(memory.free address).everyBuffer := by
  have perm := (List.perm_cons_erase allocated).map MessageRef.heap
  simp only [MessageMemory.everyBuffer, MessageMemory.free, ← Multiset.coe_add]
  rw [Multiset.coe_eq_coe.mpr perm, List.map_cons, ← Multiset.cons_coe,
    ← Multiset.singleton_add]
  abel

/-- A heap message is freed; its count is still to be taken back. -/
theorem MessageInvariant.free
    {address : Nat}
    {pushing : Option MessageRef}
    (invariant : MessageInvariant memory queue
      (.releasing (.heap address) pushing :: rest) contents) :
    MessageInvariant (memory.free address) queue
      (.uncounting pushing :: rest) contents := by
  have allocated := invariant.mem_allocated
  have shorter := List.length_erase_of_mem allocated
  have positive := List.length_pos_of_mem allocated
  obtain ⟨holds, places, pooled, distinct, outstanding, limited, exclusive,
    room, sound⟩ := invariant
  rw [gathered_cons, everyBuffer_free allocated] at places
  simp only [List.countP_cons, MessageThread.countsSlot,
    MessageThread.exceeds, Bool.false_eq_true, if_false, Nat.add_zero]
    at outstanding limited
  refine ⟨holds, ?_, pooled, distinct.erase address, ?_, ?_, ?_, ?_, ?_⟩
  · apply add_left_cancel (a := {MessageRef.heap address})
    rw [← places, gathered_cons]
    simp only [MessageThread.buffers, MessageMemory.free,
      ← Multiset.cons_coe, ← Multiset.singleton_add]
    abel
  · simp only [List.countP_cons, MessageThread.countsSlot,
      MessageThread.exceeds, MessageMemory.free, Bool.false_eq_true,
      if_false, if_true]
    omega
  · simp only [List.countP_cons, MessageThread.countsSlot,
      MessageMemory.free, if_true]
    omega
  · simpa only [List.countP_cons, uncounting_locksQueue,
      releasing_locksQueue] using exclusive
  · simpa only [List.countP_cons, uncounting_locksQueue,
      releasing_locksQueue] using room
  · rw [MessageMemory.free, sound, List.contains_eq_mem,
      decide_eq_true allocated]
    rfl

/-- A push up to the release of another message or its end, while no thread
holds the lock. -/
theorem MessageInvariant.pushMessage
    {msg : MessageRef}
    (invariant : MessageInvariant memory queue (.acquired msg :: rest)
      contents)
    (unlocked : (MessageThread.acquired msg :: rest).countP
      MessageThread.locksQueue = 0)
    (grown : Bool) :
    ∃ contents, MessageInvariant memory
      (Kronos.pushMessage queue msg grown).1
      ((Kronos.pushMessage queue msg grown).2 :: rest) contents := by
  have holds := invariant.holds
  have others : rest.countP MessageThread.locksQueue = 0 := by
    simpa only [List.countP_cons, MessageThread.locksQueue,
      Bool.false_eq_true, if_false, Nat.add_zero] using unlocked
  unfold Kronos.pushMessage
  split
  case isTrue full =>
      rw [holds.counted] at full
      split
      case isTrue limit =>
          cases contents with
          | nil =>
              have inside := Nat.zero_lt_of_lt holds.inside
              rw [← full] at inside
              exact absurd inside (Nat.lt_irrefl 0)
          | cons oldest contents =>
              rw [holds.front]
              exact ⟨contents, invariant.replace unlocked⟩
      case isFalse small =>
          cases grown with
          | false =>
              exact ⟨contents, invariant.goOn rfl rfl rfl rfl⟩
          | true =>
              have inside := holds.inside
              have wider : contents.length < queue.newCapacity := by
                rw [newCapacity_eq]
                omega
              have moved := holds.relinearize wider
              refine ⟨contents ++ [msg],
                invariant.store rfl ⟨rfl, rfl⟩ others (moved.put ?_ msg)⟩
              rw [holds.relinearize_capacity wider]
              exact wider
  case isFalse space =>
      rw [holds.counted] at space
      have room := Nat.lt_of_le_of_ne holds.fits space
      exact ⟨contents ++ [msg],
        invariant.store rfl ⟨rfl, rfl⟩ others (holds.put room msg)⟩

end Step

/-- One operation of a thread. -/
theorem threadAdvance_invariant
    {system : MessageSystem}
    {choice : MessageChoice}
    {thread after : MessageThread}
    {rest : List MessageThread}
    {contents : List MessageRef}
    {memory : MessageMemory}
    {queue : MessageQueue MessageRef}
    (invariant : MessageInvariant system.memory system.queue
      (thread :: rest) contents)
    (unlocked : system.queueLocked = false ->
      (thread :: rest).countP MessageThread.locksQueue = 0)
    (advanced : threadAdvance system choice thread =
      some (memory, queue, after)) :
    ∃ contents, MessageInvariant memory queue (after :: rest) contents := by
  cases thread with
  | idle =>
      simp only [threadAdvance] at advanced
      split at advanced
      case isTrue receives =>
          cases top : system.memory.pool.freeStack with
          | nil =>
              rw [top] at advanced
              cases advanced
              exact ⟨contents, invariant.goOn rfl rfl rfl rfl⟩
          | cons msg others =>
              rw [top] at advanced
              cases advanced
              exact ⟨contents, invariant.acquire top⟩
      case isFalse polls =>
          split at advanced
          case isTrue locked => cases advanced
          case isFalse free =>
              cases advanced
              cases contents with
              | nil =>
                  rw [krsMessageQueuePop_nil invariant.holds]
                  exact ⟨[], invariant⟩
              | cons msg others =>
                  rw [krsMessageQueuePop_cons invariant.holds]
                  exact ⟨others, invariant.pop
                    (unlocked (Bool.eq_false_of_not_eq_true free))⟩
  | exhausted =>
      cases advanced
      refine ⟨contents, ?_⟩
      split
      case isTrue beyond => exact invariant.exceed
      case isFalse within => exact invariant.count (Int.not_lt.mp within)
  | overLimit =>
      cases advanced
      exact ⟨contents,
        invariant.uncount (.inr ⟨rfl, rfl⟩) ⟨rfl, rfl⟩ rfl rfl⟩
  | counted =>
      simp only [threadAdvance] at advanced
      cases returned : choice.address with
      | none =>
          rw [returned] at advanced
          cases advanced
          exact ⟨contents, invariant.goOn rfl rfl rfl rfl⟩
      | some address =>
          rw [returned] at advanced
          simp only at advanced
          split at advanced
          case isTrue used => cases advanced
          case isFalse fresh =>
              cases advanced
              exact ⟨contents,
                invariant.allocate (Bool.eq_false_of_not_eq_true fresh)⟩
  | unallocated =>
      cases advanced
      exact ⟨contents,
        invariant.uncount (.inl ⟨rfl, rfl⟩) ⟨rfl, rfl⟩ rfl rfl⟩
  | acquired msg =>
      simp only [threadAdvance] at advanced
      split at advanced
      case isTrue locked => cases advanced
      case isFalse free =>
          cases advanced
          exact invariant.pushMessage
            (unlocked (Bool.eq_false_of_not_eq_true free)) choice.grown
  | popped msg =>
      cases advanced
      refine ⟨contents, ?_⟩
      cases choice.verdict <;> exact invariant.goOn rfl rfl rfl rfl
  | routing msg =>
      cases advanced
      exact ⟨contents, invariant.goOn rfl rfl rfl rfl⟩
  | releasing msg pushing =>
      cases msg with
      | pooled index =>
          cases advanced
          exact ⟨contents, invariant.pushFree⟩
      | heap address =>
          cases advanced
          exact ⟨contents, invariant.free⟩
  | uncounting pushing =>
      cases advanced
      refine ⟨contents, invariant.uncount (.inl ⟨rfl, rfl⟩) ?_ ?_ ?_⟩
      · exact ⟨resumed_countsSlot pushing, resumed_exceeds pushing⟩
      · exact resumed_buffers pushing
      · rw [resumed_locksQueue, uncounting_locksQueue]
  | storing msg =>
      cases advanced
      have exclusive := invariant.exclusive
      have room := invariant.room
      rw [List.countP_cons_of_pos (by rfl)] at exclusive room
      exact ⟨contents ++ [msg], invariant.store rfl ⟨rfl, rfl⟩ (by omega)
        (invariant.holds.put (room (Nat.succ_pos _)) msg)⟩

theorem MessageSystem.unlocked
    {system : MessageSystem}
    {others : List MessageThread}
    (perm : system.threads.Perm others)
    (free : system.queueLocked = false) :
    others.countP MessageThread.locksQueue = 0 := by
  rw [← perm.countP_eq, List.countP_eq_zero]
  intro thread member locks
  exact Bool.false_ne_true
    (free.symm.trans (List.any_eq_true.mpr ⟨thread, member, locks⟩))

/-! ## The drain -/

section Drain

variable
  {memory : MessageMemory}
  {queue : MessageQueue MessageRef}
  {threads : List MessageThread}
  {contents : List MessageRef}

/-- The drain releases one message after the other, as a handler would. -/
theorem MessageInvariant.releaseAll
    (invariant : MessageInvariant memory queue (.idle :: threads) contents)
    (unlocked : (MessageThread.idle :: threads).countP
      MessageThread.locksQueue = 0) :
    ∃ queue, MessageInvariant (contents.foldl krsMessagePoolRelease memory)
      queue (.idle :: threads) [] := by
  induction contents generalizing memory queue with
  | nil => exact ⟨queue, invariant⟩
  | cons msg contents inductionHypothesis =>
      have popped : MessageInvariant memory queue.dropOldest
          (.releasing msg none :: threads) contents :=
        (invariant.pop unlocked).goOn rfl rfl rfl rfl
      rw [List.foldl_cons]
      cases msg with
      | pooled index => exact inductionHypothesis popped.pushFree
      | heap address =>
          have freed := popped.free
          exact inductionHypothesis
            (freed.uncount (.inl ⟨rfl, rfl⟩) ⟨rfl, rfl⟩ rfl rfl)

/-- A thread at the head of its loop holds nothing. -/
theorem messageInvariant_idle_cons :
    MessageInvariant memory queue (.idle :: threads) contents ↔
      MessageInvariant memory queue threads contents := by
  have buffers : gathered MessageThread.buffers (.idle :: threads) =
      gathered MessageThread.buffers threads := rfl
  constructor
  · intro invariant
    have places := invariant.places
    rw [buffers] at places
    exact { invariant with places := places }
  · intro invariant
    have places := invariant.places
    rw [← buffers] at places
    exact { invariant with places := places }

theorem countP_idle
    (idle : threads.all (· == .idle) = true)
    {part : MessageThread -> Bool}
    (outside : part .idle = false) :
    threads.countP part = 0 := by
  rw [List.countP_eq_zero]
  intro thread member
  rw [eq_of_beq (List.all_eq_true.mp idle thread member), outside]
  exact Bool.false_ne_true

theorem gathered_idle
    (idle : threads.all (· == .idle) = true) :
    gathered MessageThread.buffers threads = 0 := by
  rw [gathered, Multiset.coe_eq_zero, List.flatMap_eq_nil_iff]
  intro thread member
  rw [eq_of_beq (List.all_eq_true.mp idle thread member)]
  rfl

/-- With every thread at the head of its loop and the queue empty, the whole
storage is on the free stack and no fallback message is left. -/
theorem MessageInvariant.settled
    (invariant : MessageInvariant memory queue threads [])
    (idle : threads.all (· == .idle) = true) :
    memory.allocated = [] ∧
      memory.pool.freeCount = memory.pool.capacity ∧
      memory.pool.outstandingFallbackCount = 0 := by
  have places := invariant.places
  rw [gathered_idle idle, add_zero, Multiset.coe_nil, add_zero,
    Multiset.coe_eq_coe] at places
  have none : memory.allocated = [] := by
    rw [List.eq_nil_iff_forall_not_mem]
    intro address member
    have stacked : MessageRef.heap address ∈ memory.pool.freeStack := by
      rw [places.mem_iff, MessageMemory.everyBuffer, List.mem_append]
      exact .inr (List.mem_map_of_mem member)
    obtain ⟨index, equal⟩ := invariant.pooled _ stacked
    cases equal
  have outstanding := invariant.outstanding
  rw [none, countP_idle idle rfl, countP_idle idle rfl] at outstanding
  refine ⟨none, ?_, outstanding⟩
  rw [MessagePool.freeCount, places.length_eq, MessageMemory.everyBuffer, none,
    List.map_nil, List.append_nil, List.length_map, List.length_range]

end Drain

/-- The invariant, with the messages that the queue holds. -/
def MessageSystem.Accounted (system : MessageSystem) : Prop :=
  ∃ contents, MessageInvariant system.memory system.queue system.threads
    contents

theorem MessageSystem.Accounted.drain
    {system : MessageSystem}
    (accounted : system.Accounted)
    (idle : system.allIdle = true) :
    MessageInvariant system.drain.memory system.drain.queue
      system.drain.threads [] := by
  obtain ⟨contents, invariant⟩ := accounted
  have unlocked : (MessageThread.idle :: system.threads).countP
      MessageThread.locksQueue = 0 := countP_idle idle rfl
  obtain ⟨emptied, released⟩ := MessageInvariant.releaseAll
    (messageInvariant_idle_cons.mpr invariant) unlocked
  have drained : system.drain.memory =
      contents.foldl krsMessagePoolRelease system.memory := by
    simp only [MessageSystem.drain, krsMessageQueueDrain,
      invariant.holds.filterMap_cellAt]
  rw [drained]
  exact
    { messageInvariant_idle_cons.mp released with
      holds := invariant.holds.clear
      room := fun locked => absurd locked
        (Nat.not_lt_of_le (Nat.le_of_eq (countP_idle idle rfl))) }

/-! ## Runs -/

theorem messageStep_accounted
    {system after : MessageSystem}
    {event : MessageEvent}
    (accounted : system.Accounted)
    (step : messageStep system event = some after) :
    after.Accounted := by
  cases event with
  | advance position choice =>
      obtain ⟨contents, invariant⟩ := accounted
      obtain ⟨thread, found, taken⟩ := Option.bind_eq_some_iff.mp step
      obtain ⟨⟨memory, queue, next⟩, advanced, rfl⟩ :=
        Option.map_eq_some_iff.mp taken
      have perm := perm_of_getElem? found
      obtain ⟨contents, kept⟩ := threadAdvance_invariant
        (invariant.perm perm) (MessageSystem.unlocked perm) advanced
      exact ⟨contents,
        kept.perm (splice_perm system.threads position [next]).symm⟩
  | drain =>
      simp only [messageStep] at step
      split at step
      case isTrue idle =>
          cases step
          exact ⟨[], accounted.drain idle⟩
      case isFalse busy => cases step

/-- A new pool has all its cells on the free stack. -/
theorem MessageInvariant.created
    {queue : MessageQueue MessageRef}
    {threads : List MessageThread}
    (poolCapacity : Nat)
    (empty : queue.Holds [])
    (idle : threads.all (· == .idle) = true) :
    MessageInvariant { pool := krsMessagePoolCreate poolCapacity } queue
      threads [] where
  holds := empty
  places := by
    rw [gathered_idle idle, add_zero, Multiset.coe_nil, add_zero,
      Multiset.coe_eq_coe]
    simp only [MessageMemory.everyBuffer, krsMessagePoolCreate, List.map_nil,
      List.append_nil]
    exact List.reverse_perm _
  pooled := by
    intro msg member
    simp only [krsMessagePoolCreate, List.mem_reverse, List.mem_map] at member
    obtain ⟨index, -, equal⟩ := member
    exact ⟨index, equal.symm⟩
  distinct := List.nodup_nil
  outstanding := by
    rw [countP_idle idle rfl, countP_idle idle rfl]
    rfl
  limited := by
    rw [countP_idle idle rfl]
    exact Nat.zero_le _
  exclusive := by
    rw [countP_idle idle rfl]
    exact Nat.zero_le _
  room := by
    rw [countP_idle idle rfl]
    exact fun locked => absurd locked (Nat.lt_irrefl 0)
  sound := rfl

theorem krsMessageQueueCreate_holds (initialCapacity : Nat) :
    (krsMessageQueueCreate (μ := MessageRef) initialCapacity).Holds [] := by
  have positive : 0 < if initialCapacity = 0 then 64 else initialCapacity := by
    split <;> omega
  exact RingBuffer.create_holds positive

theorem MessageSystem.start_accounted
    (poolCapacity queueCapacity threads : Nat) :
    (MessageSystem.start poolCapacity queueCapacity threads).Accounted := by
  have idle : (List.replicate threads MessageThread.idle).all (· == .idle) =
      true := by
    simp
  exact ⟨[], .created poolCapacity (krsMessageQueueCreate_holds queueCapacity)
    idle⟩

/-- The places where a buffer can be: the free stack, the slots of the queue,
and the threads. -/
def MessageSystem.places (system : MessageSystem) : List MessageRef :=
  system.memory.pool.freeStack ++
    (List.range system.queue.count).filterMap system.queue.cellAt ++
    system.threads.flatMap MessageThread.buffers

theorem MessageMemory.everyBuffer_nodup
    {memory : MessageMemory}
    (distinct : memory.allocated.Nodup) :
    memory.everyBuffer.Nodup := by
  rw [MessageMemory.everyBuffer, List.nodup_append']
  refine ⟨?_, ?_, ?_⟩
  · apply List.nodup_range.map
    intro first second equal
    cases equal
    rfl
  · apply distinct.map
    intro first second equal
    cases equal
    rfl
  · intro buffer cell block
    obtain ⟨index, -, rfl⟩ := List.mem_map.mp cell
    obtain ⟨address, -, equal⟩ := List.mem_map.mp block
    cases equal

theorem MessageSystem.Accounted.places_perm
    {system : MessageSystem}
    (accounted : system.Accounted) :
    system.places.Perm system.memory.everyBuffer := by
  obtain ⟨contents, invariant⟩ := accounted
  rw [← Multiset.coe_eq_coe, ← invariant.places, MessageSystem.places,
    invariant.holds.filterMap_cellAt, ← Multiset.coe_add, ← Multiset.coe_add]
  rfl

/-- However the I/O and the handler threads interleave and whatever the
allocations return, every buffer is in exactly one place: each cell of the
storage and each block that is allocated is once on the free stack, in a slot
of the queue or with a thread, and no other buffer is anywhere.  The free stack
stays within its array, at most 1024 fallback messages are allocated, and
nothing is freed twice.  The drain after all threads have left their loops
brings the whole storage back and leaves no fallback message. -/
theorem message_buffer_in_one_place
    (poolCapacity queueCapacity threads : Nat)
    {events : List MessageEvent}
    {system : MessageSystem}
    (reached : run messageStep
      (.start poolCapacity queueCapacity threads) events = some system) :
    (system.places.Nodup ∧
      (∀ index, MessageRef.pooled index ∈ system.places ↔
        index < system.memory.pool.capacity) ∧
      ∀ address, MessageRef.heap address ∈ system.places ↔
        address ∈ system.memory.allocated) ∧
    system.memory.pool.freeCount ≤ system.memory.pool.capacity ∧
    (system.memory.allocated.Nodup ∧
      system.memory.allocated.length ≤ krsMessagePoolMaxFallback) ∧
    system.memory.faulted = false ∧
    ∀ drained, messageStep system .drain = some drained ->
      drained.memory.pool.freeCount = drained.memory.pool.capacity ∧
      drained.memory.pool.outstandingFallbackCount = 0 ∧
      drained.memory.allocated = [] := by
  have accounted : system.Accounted :=
    run_invariant (fun _ _ _ => messageStep_accounted)
      (MessageSystem.start_accounted poolCapacity queueCapacity threads)
      reached
  have perm := accounted.places_perm
  obtain ⟨contents, invariant⟩ := accounted
  refine ⟨⟨?_, ?_, ?_⟩, ?_, ⟨invariant.distinct, ?_⟩, invariant.sound, ?_⟩
  · exact perm.nodup_iff.mpr
      (MessageMemory.everyBuffer_nodup invariant.distinct)
  · intro index
    rw [perm.mem_iff]
    simp [MessageMemory.everyBuffer]
  · intro address
    rw [perm.mem_iff]
    simp [MessageMemory.everyBuffer]
  · exact Nat.le.intro invariant.cells
  · exact (Nat.le_add_right _ _).trans invariant.limited
  · intro drained step
    simp only [messageStep] at step
    split at step
    case isTrue idle =>
        cases step
        have emptied := MessageSystem.Accounted.drain ⟨contents, invariant⟩
          idle
        obtain ⟨blocks, stack, count⟩ := emptied.settled idle
        exact ⟨stack, count, blocks⟩
    case isFalse busy => cases step

/-- Two threads with a pool of one cell and a queue of one slot: the second
datagram gets a block of the heap and makes the queue grow; the first is
handled, and the drain releases the second. -/
def fallbackEvents : List MessageEvent :=
  [.advance 0 {}, .advance 0 {}, .advance 1 {}, .advance 1 {},
    .advance 1 { address := some 7 }, .advance 1 {},
    .advance 0 { receives := false }, .advance 0 {}, .advance 0 {},
    .advance 0 {}]

/-- Before the drain: the cell is free again, and the queue holds the block. -/
def fallbackSystem : MessageSystem :=
  { memory :=
      { pool :=
          { capacity := 1
            freeStack := [.pooled 0]
            outstandingFallbackCount := 1
            fallbackCount := 1 }
        allocated := [7] }
    queue :=
      { cells := [some (.pooled 0), some (.heap 7)]
        head := 1
        tail := 0
        count := 1
        maxCapacity := 65536
        stopped := false }
    threads := [.idle, .idle] }

theorem fallback_message_drained :
    run messageStep (.start 1 1 2) fallbackEvents = some fallbackSystem ∧
    fallbackSystem.places = [.pooled 0, .heap 7] ∧
    fallbackSystem.places.Nodup ∧
    ∀ drained, messageStep fallbackSystem .drain = some drained ->
      drained.memory.pool.freeCount = drained.memory.pool.capacity ∧
      drained.memory.pool.outstandingFallbackCount = 0 ∧
      drained.memory.allocated = [] := by
  have reached : run messageStep (.start 1 1 2) fallbackEvents =
      some fallbackSystem := by
    decide +kernel
  obtain ⟨⟨nodup, -⟩, -, -, -, drained⟩ :=
    message_buffer_in_one_place 1 1 2 reached
  exact ⟨reached, by decide, nodup, drained⟩

end Kronos
