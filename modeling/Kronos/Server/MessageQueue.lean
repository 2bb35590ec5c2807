import Kronos.Library.RingBuffer
import Kronos.Library.Transition

/-!
# The message queue

`message_queue.c`: a ring of message pointers that doubles when it is full, up
to a limit, and from there on gives up its oldest message for a new one.  The
queue refines a bounded first-in first-out queue on lists.

Messages are of any type here.  A call returns what it hands to
`krs_message_pool_release`.  A new queue is one whose array was allocated.
-/

namespace Kronos

open Library

variable {μ : Type}

/-- `MessageQueue_t`: the array with its indices, its limit, and whether the
queue was stopped. -/
structure MessageQueue (μ : Type) extends RingBuffer μ where
  maxCapacity : Nat
  stopped : Bool
  deriving DecidableEq, Repr

/-- `krs_message_queue_create`. -/
def krsMessageQueueCreate (initialCapacity : Nat) : MessageQueue μ :=
  { toRingBuffer := RingBuffer.create
      (if initialCapacity = 0 then 64 else initialCapacity)
    maxCapacity := 65536
    stopped := false }

/-- The end of `krs_message_queue_push`: the message is written at the tail. -/
def MessageQueue.store (queue : MessageQueue μ) (msg : μ) : MessageQueue μ :=
  { queue with toRingBuffer := queue.put msg }

/-- The head moves on to the next message. -/
def MessageQueue.dropOldest (queue : MessageQueue μ) : MessageQueue μ :=
  { queue with toRingBuffer := queue.advance }

/-- The capacity after a growth: doubled, up to the limit. -/
def MessageQueue.newCapacity (queue : MessageQueue μ) : Nat :=
  if queue.capacity * 2 > queue.maxCapacity then queue.maxCapacity
  else queue.capacity * 2

/-- `krs_message_queue_push`: the queue and the message that is released.
`grown` is the outcome of the allocation of a larger array. -/
def krsMessageQueuePush
    (queue : MessageQueue μ)
    (msg : μ)
    (grown : Bool) : MessageQueue μ × Option μ :=
  if queue.count = queue.capacity then
    if queue.capacity ≥ queue.maxCapacity then
      (queue.dropOldest.store msg, queue.front)
    else if !grown then (queue, some msg)
    else
      ({ queue with
        toRingBuffer := queue.relinearize queue.newCapacity }.store msg, none)
  else (queue.store msg, none)

/-- `krs_message_queue_pop` when it does not wait: nothing from an empty
queue. -/
def krsMessageQueuePop (queue : MessageQueue μ) : Option μ × MessageQueue μ :=
  if queue.count = 0 then (none, queue)
  else (queue.front, queue.dropOldest)

/-- `krs_message_queue_stop`. -/
def krsMessageQueueStop (queue : MessageQueue μ) : MessageQueue μ :=
  { queue with stopped := true }

/-- `krs_message_queue_drain`: the messages that are released, in order. -/
def krsMessageQueueDrain (queue : MessageQueue μ) :
    List μ × MessageQueue μ :=
  ((List.range queue.count).filterMap queue.cellAt,
    { queue with toRingBuffer := queue.clear })

/-! ## Runs -/

/-- The calls made on a queue. -/
inductive QueueEvent (μ : Type)
  | push (msg : μ) (grown : Bool)
  | pop
  | stop
  | drain
  deriving DecidableEq, Repr

/-- What a call hands out: a message returned to the caller, and messages
released. -/
structure QueueOutput (μ : Type) where
  returned : Option μ := none
  released : List μ := []
  deriving DecidableEq, Repr

/-- One call. -/
def queueStep (queue : MessageQueue μ) :
    QueueEvent μ -> MessageQueue μ × QueueOutput μ
  | .push msg grown =>
      let pushed := krsMessageQueuePush queue msg grown
      (pushed.1, { released := pushed.2.toList })
  | .pop =>
      let popped := krsMessageQueuePop queue
      (popped.2, { returned := popped.1 })
  | .stop => (krsMessageQueueStop queue, {})
  | .drain =>
      let drained := krsMessageQueueDrain queue
      (drained.2, { released := drained.1 })

/-! ## The bounded queue on lists -/

/-- How a stored message left the queue: returned by a pop, released as the
oldest by a push, or drained. -/
inductive Departure
  | popped
  | overflowed
  | drained
  deriving DecidableEq, Repr

/-- A bounded first-in first-out queue: the messages that wait, and the record
of those that were stored, that left, and that were refused. -/
structure BoundedFifo (μ : Type) where
  capacity : Nat
  waiting : List μ := []
  stored : List μ := []
  departed : List (μ × Departure) := []
  refused : List μ := []
  deriving DecidableEq, Repr

/-- A message is stored behind the waiting ones. -/
def BoundedFifo.store (fifo : BoundedFifo μ) (msg : μ) : BoundedFifo μ :=
  { fifo with
    waiting := fifo.waiting ++ [msg]
    stored := fifo.stored ++ [msg] }

/-- The oldest message leaves. -/
def BoundedFifo.leave
    (fifo : BoundedFifo μ)
    (oldest : μ)
    (others : List μ)
    (departure : Departure) : BoundedFifo μ :=
  { fifo with
    waiting := others
    departed := fifo.departed ++ [(oldest, departure)] }

/-- What the queue is for.  A push to a full queue gives up the oldest message
if the capacity has reached the limit, and is refused if the queue cannot
grow. -/
def fifoStep (limit : Nat) (fifo : BoundedFifo μ) :
    QueueEvent μ -> BoundedFifo μ × QueueOutput μ
  | .push msg grown =>
      if fifo.waiting.length < fifo.capacity then (fifo.store msg, {})
      else if fifo.capacity < limit then
        if grown then
          ({ fifo with capacity := min (fifo.capacity * 2) limit }.store msg,
            {})
        else
          ({ fifo with refused := fifo.refused ++ [msg] },
            { released := [msg] })
      else
        match fifo.waiting with
        | [] => (fifo, {})
        | oldest :: others =>
            ((fifo.leave oldest others .overflowed).store msg,
              { released := [oldest] })
  | .pop =>
      match fifo.waiting with
      | [] => (fifo, {})
      | oldest :: others =>
          (fifo.leave oldest others .popped, { returned := some oldest })
  | .stop => (fifo, {})
  | .drain =>
      ({ fifo with
          waiting := []
          departed := fifo.departed ++
            fifo.waiting.map fun msg => (msg, .drained) },
        { released := fifo.waiting })

/-- The ring holds the waiting messages, and the capacities agree. -/
structure MessageQueue.Refines
    (queue : MessageQueue μ)
    (limit : Nat)
    (fifo : BoundedFifo μ) : Prop where
  holds : queue.Holds fifo.waiting
  capacity : queue.capacity = fifo.capacity
  limited : queue.maxCapacity = limit

theorem newCapacity_eq (queue : MessageQueue μ) :
    queue.newCapacity = min (queue.capacity * 2) queue.maxCapacity := by
  unfold MessageQueue.newCapacity
  split_ifs <;> omega

theorem krsMessageQueuePop_nil
    {queue : MessageQueue μ}
    (holds : queue.Holds []) :
    krsMessageQueuePop queue = (none, queue) :=
  if_pos holds.counted

theorem krsMessageQueuePop_cons
    {queue : MessageQueue μ}
    {oldest : μ}
    {others : List μ}
    (holds : queue.Holds (oldest :: others)) :
    krsMessageQueuePop queue = (some oldest, queue.dropOldest) := by
  rw [krsMessageQueuePop, holds.counted, holds.front]
  exact if_neg (Nat.succ_ne_zero _)

section Refinement

variable {limit : Nat} {queue : MessageQueue μ} {fifo : BoundedFifo μ}

/-- A message is stored where there is room. -/
theorem MessageQueue.Refines.store
    (refines : queue.Refines limit fifo)
    (room : fifo.waiting.length < fifo.capacity)
    (msg : μ) :
    (queue.store msg).Refines limit (fifo.store msg) where
  holds := refines.holds.put (by rw [refines.capacity]; exact room) msg
  capacity := by
    change (queue.cells.set _ _).length = fifo.capacity
    rw [List.length_set]
    exact refines.capacity
  limited := refines.limited

theorem MessageQueue.Refines.leave
    (refines : queue.Refines limit fifo)
    {oldest : μ}
    {others : List μ}
    (waiting : fifo.waiting = oldest :: others)
    (departure : Departure) :
    queue.front = some oldest ∧
      queue.dropOldest.Refines limit
        (fifo.leave oldest others departure) := by
  have holds := refines.holds
  rw [waiting] at holds
  exact ⟨holds.front, holds.advance, refines.capacity, refines.limited⟩

/-- A full queue has an oldest message. -/
theorem MessageQueue.Refines.nonempty
    (refines : queue.Refines limit fifo)
    (full : ¬ fifo.waiting.length < fifo.capacity) :
    ∃ oldest others, fifo.waiting = oldest :: others := by
  apply List.exists_cons_of_ne_nil
  intro empty
  have inside := refines.holds.inside
  rw [refines.capacity] at inside
  rw [empty] at full
  exact full (Nat.zero_lt_of_lt inside)

theorem MessageQueue.Refines.grow
    (refines : queue.Refines limit fifo)
    (small : fifo.capacity < limit) :
    let grown := { fifo with capacity := min (fifo.capacity * 2) limit }
    grown.waiting.length < grown.capacity ∧
      { queue with
        toRingBuffer := queue.relinearize queue.newCapacity }.Refines limit
          grown := by
  have inside := refines.holds.inside
  have fits := refines.holds.fits
  rw [refines.capacity] at inside fits
  have wider : fifo.waiting.length < min (fifo.capacity * 2) limit := by
    omega
  have newCapacity : queue.newCapacity = min (fifo.capacity * 2) limit := by
    rw [newCapacity_eq, refines.capacity, refines.limited]
  rw [← newCapacity] at wider
  refine ⟨?_, refines.holds.relinearize wider, ?_, refines.limited⟩
  · rw [← newCapacity]
    exact wider
  · rw [← newCapacity]
    exact refines.holds.relinearize_capacity wider

theorem push_refines
    (refines : queue.Refines limit fifo)
    (msg : μ)
    (grown : Bool) :
    (queueStep queue (.push msg grown)).1.Refines limit
        (fifoStep limit fifo (.push msg grown)).1 ∧
      (queueStep queue (.push msg grown)).2 =
        (fifoStep limit fifo (.push msg grown)).2 := by
  have full : queue.count = queue.capacity ↔
      ¬ fifo.waiting.length < fifo.capacity := by
    have fits := refines.holds.fits
    rw [refines.holds.counted, ← refines.capacity]
    omega
  obtain rfl := refines.limited
  simp only [queueStep, fifoStep, krsMessageQueuePush, full]
  by_cases room : fifo.waiting.length < fifo.capacity
  · simp only [room, not_true_eq_false, if_false, if_true]
    exact ⟨refines.store room msg, rfl⟩
  · simp only [room, not_false_eq_true, if_false, if_true, refines.capacity]
    by_cases small : fifo.capacity < queue.maxCapacity
    · simp only [small, if_true, Nat.not_le.mpr small, if_false]
      cases grown with
      | false =>
          exact ⟨⟨refines.holds, refines.capacity, refines.limited⟩, rfl⟩
      | true =>
          obtain ⟨wider, grows⟩ := refines.grow small
          exact ⟨grows.store wider msg, rfl⟩
    · simp only [small, if_false, Nat.not_lt.mp small, if_true]
      obtain ⟨oldest, others, waiting⟩ := refines.nonempty room
      obtain ⟨front, left⟩ := refines.leave waiting .overflowed
      have fits := refines.holds.fits
      rw [waiting, List.length_cons, refines.capacity] at fits
      rw [front]
      simp only [waiting]
      exact ⟨left.store fits msg, rfl⟩

/-- Every call of the ring is the call of the queue on lists. -/
theorem queueStep_refines
    (refines : queue.Refines limit fifo)
    (event : QueueEvent μ) :
    (queueStep queue event).1.Refines limit (fifoStep limit fifo event).1 ∧
      (queueStep queue event).2 = (fifoStep limit fifo event).2 := by
  cases event with
  | push msg grown => exact push_refines refines msg grown
  | pop =>
      have holds := refines.holds
      cases waiting : fifo.waiting with
      | nil =>
          rw [waiting] at holds
          simp only [queueStep, fifoStep, waiting,
            krsMessageQueuePop_nil holds, and_true]
          exact refines
      | cons oldest others =>
          rw [waiting] at holds
          simp only [queueStep, fifoStep, waiting,
            krsMessageQueuePop_cons holds, and_true]
          exact (refines.leave waiting .popped).2
  | stop => exact ⟨⟨refines.holds, refines.capacity, refines.limited⟩, rfl⟩
  | drain =>
      simp only [queueStep, fifoStep, krsMessageQueueDrain]
      refine ⟨⟨refines.holds.clear, ?_, refines.limited⟩, ?_⟩
      · exact (RingBuffer.clear_capacity _).trans refines.capacity
      · rw [refines.holds.filterMap_cellAt]

end Refinement

/-! ## The law of the queue -/

/-- The message that a call pushes. -/
def QueueEvent.pushed : QueueEvent μ -> Option μ
  | .push msg _ => some msg
  | _ => none

/-- The messages that left in one way, in order. -/
def BoundedFifo.left (fifo : BoundedFifo μ) (departure : Departure) :
    List μ :=
  (fifo.departed.filter fun entry => entry.2 == departure).map Prod.fst

/-- A queue for messages that were pushed and returned so far: what was stored
has left in the order of storing, or waits; every pushed message was stored or
refused; and the pops returned what left by them. -/
structure BoundedFifo.Accounts
    (fifo : BoundedFifo μ)
    (pushed returned : List μ) : Prop where
  room : 0 < fifo.capacity
  inOrder : fifo.stored = fifo.departed.map Prod.fst ++ fifo.waiting
  accepted : pushed.Perm (fifo.stored ++ fifo.refused)
  popped : fifo.left .popped = returned

namespace BoundedFifo.Accounts

variable {fifo : BoundedFifo μ} {pushed returned : List μ}

theorem store
    (accounts : fifo.Accounts pushed returned)
    (msg : μ) :
    (fifo.store msg).Accounts (pushed ++ [msg]) returned where
  room := accounts.room
  inOrder := by
    simp only [BoundedFifo.store]
    rw [accounts.inOrder, List.append_assoc]
  accepted := by
    simp only [BoundedFifo.store]
    rw [List.append_assoc]
    refine (accounts.accepted.append_right [msg]).trans ?_
    rw [List.append_assoc]
    exact List.perm_append_comm.append_left fifo.stored
  popped := accounts.popped

theorem leave
    (accounts : fifo.Accounts pushed returned)
    {oldest : μ}
    {others : List μ}
    (waiting : fifo.waiting = oldest :: others)
    (departure : Departure) :
    (fifo.leave oldest others departure).Accounts pushed
      (returned ++ if departure = .popped then [oldest] else []) where
  room := accounts.room
  inOrder := by
    simp only [BoundedFifo.leave]
    rw [accounts.inOrder, waiting, List.map_append, List.append_assoc]
    rfl
  accepted := accounts.accepted
  popped := by
    rw [← accounts.popped]
    simp only [BoundedFifo.left, BoundedFifo.leave, List.filter_append,
      List.map_append]
    congr 1
    cases departure <;> rfl

/-- One call, with the messages that it pushes and returns. -/
theorem step
    (accounts : fifo.Accounts pushed returned)
    {limit : Nat}
    (positive : 0 < limit)
    (event : QueueEvent μ) :
    (fifoStep limit fifo event).1.Accounts (pushed ++ event.pushed.toList)
      (returned ++ (fifoStep limit fifo event).2.returned.toList) := by
  cases event with
  | push msg grown =>
      simp only [fifoStep, QueueEvent.pushed]
      split_ifs with room small allocated
      · simp only [Option.toList_none, Option.toList_some, List.append_nil]
        exact accounts.store msg
      · simp only [Option.toList_none, Option.toList_some, List.append_nil]
        have wide := accounts.room
        have grown : BoundedFifo.Accounts
            { fifo with capacity := min (fifo.capacity * 2) limit } pushed
            returned :=
          ⟨by change 0 < min (fifo.capacity * 2) limit; omega,
            accounts.inOrder, accounts.accepted, accounts.popped⟩
        exact grown.store msg
      · simp only [Option.toList_none, Option.toList_some, List.append_nil]
        refine ⟨accounts.room, accounts.inOrder, ?_, accounts.popped⟩
        rw [← List.append_assoc]
        exact accounts.accepted.append_right [msg]
      · split
        case h_1 empty =>
          rw [empty] at room
          exact absurd accounts.room room
        case h_2 oldest others waiting =>
          have left := accounts.leave waiting .overflowed
          exact left.store msg
  | pop =>
      simp only [fifoStep, QueueEvent.pushed]
      split
      case h_1 =>
        simp only [Option.toList_none, List.append_nil]
        exact accounts
      case h_2 oldest others waiting =>
        simp only [Option.toList_none, List.append_nil]
        exact accounts.leave waiting .popped
  | stop =>
      simp only [fifoStep, QueueEvent.pushed]
      simp only [Option.toList_none, List.append_nil]
      exact accounts
  | drain =>
      simp only [fifoStep, QueueEvent.pushed]
      simp only [Option.toList_none, List.append_nil]
      refine ⟨accounts.room, ?_, accounts.accepted, ?_⟩
      · simp [accounts.inOrder, Function.comp_def]
      · rw [← accounts.popped]
        simp [BoundedFifo.left]

/-- A whole run. -/
theorem runTotal
    (accounts : fifo.Accounts pushed returned)
    {limit : Nat}
    (positive : 0 < limit)
    (events : List (QueueEvent μ)) :
    let ran := Library.runTotal (fifoStep limit) fifo events
    ran.1.Accounts (pushed ++ events.filterMap QueueEvent.pushed)
      (returned ++ ran.2.filterMap QueueOutput.returned) := by
  induction events generalizing fifo pushed returned with
  | nil =>
      simp only [Library.runTotal, List.filterMap_nil, List.append_nil]
      exact accounts
  | cons event events inductionHypothesis =>
      have rest := inductionHypothesis (accounts.step positive event)
      have cons {ε : Type} (pick : ε -> Option μ) (first : ε)
          (later : List ε) (before : List μ) :
          before ++ (first :: later).filterMap pick =
            before ++ (pick first).toList ++ later.filterMap pick := by
        rw [List.append_assoc]
        congr 1
        cases picked : pick first with
        | none => rw [List.filterMap_cons_none picked]; rfl
        | some msg => rw [List.filterMap_cons_some picked]; rfl
      rw [Library.runTotal]
      dsimp only
      rw [cons, cons]
      exact rest

end BoundedFifo.Accounts

/-- The bounded queue that a new message queue stands for. -/
def newFifo (initialCapacity : Nat) : BoundedFifo μ :=
  { capacity := if initialCapacity = 0 then 64 else initialCapacity }

theorem newFifo_room (initialCapacity : Nat) :
    0 < (newFifo initialCapacity : BoundedFifo μ).capacity := by
  unfold newFifo
  dsimp only
  split_ifs <;> omega

/-- For every initial capacity and every sequence of calls, the ring and the
queue on lists hand out the same messages, and the ring holds, from its head on
and in order, the messages that wait there.  Every pushed message was stored or
refused; the stored ones left in the order of storing, or wait; and what left
without being returned by a pop overflowed or was drained. -/
theorem message_queue_refines_fifo
    (initialCapacity : Nat)
    (events : List (QueueEvent μ)) :
    let queue := runTotal queueStep (krsMessageQueueCreate initialCapacity)
      events
    let fifo := runTotal (fifoStep 65536) (newFifo initialCapacity) events
    queue.2 = fifo.2 ∧ queue.1.Holds fifo.1.waiting ∧
      queue.1.capacity = fifo.1.capacity ∧
      fifo.1.Accounts (events.filterMap QueueEvent.pushed)
        (queue.2.filterMap QueueOutput.returned) := by
  intro queue fifo
  have room : 0 < (newFifo initialCapacity : BoundedFifo μ).capacity :=
    newFifo_room initialCapacity
  have start : (krsMessageQueueCreate initialCapacity :
      MessageQueue μ).Refines 65536 (newFifo initialCapacity) :=
    ⟨RingBuffer.create_holds room,
      List.length_replicate, rfl⟩
  obtain ⟨refines, sameOutputs⟩ := runTotal_simulation
    (fun (queue : MessageQueue μ) fifo => queue.Refines 65536 fifo)
    (fun _ _ event refines => queueStep_refines refines event) start events
  have accounts : (newFifo initialCapacity : BoundedFifo μ).Accounts [] [] :=
    ⟨room, rfl, List.Perm.nil, rfl⟩
  refine ⟨sameOutputs, refines.holds, refines.capacity, ?_⟩
  rw [sameOutputs]
  exact accounts.runTotal (by decide) events

end Kronos
