import Kronos.Library.ConditionVariable
import Kronos.Server.MessageQueue

/-!
# Waiting for messages

`krs_message_queue_pop` with its wait.  Consumers sleep on `not_empty` while the
queue is empty and not stopped; a push wakes one of them, a stop wakes all, and
a sleeper may also time out or be woken for no reason.  The sections under the
lock of the queue are the steps, in any order.

No message is left waiting beside a sleeping consumer unless a woken one is on
its way, and no consumer sleeps through a stop.
-/

namespace Kronos

open Library

variable {μ : Type}

/-- A queue and the consumers that pop from it. -/
structure WaitingQueue (μ : Type) where
  queue : MessageQueue μ
  consumers : List Sleeper
  deriving DecidableEq, Repr

/-- What can happen.  A push says which sleeper the condition variable wakes.
`pop` is the begin of a call, `resume` the return of
`SleepConditionVariableCS` after a wakeup, and `timeout` its failure; `stir` is
a wakeup that nobody asked for. -/
inductive WaitingEvent (μ : Type)
  | push (msg : μ) (grown : Bool) (woken : Option Nat)
  | pop (consumer : Nat)
  | resume (consumer : Nat)
  | timeout (consumer : Nat)
  | stir (consumer : Nat)
  | stop
  | drain
  deriving DecidableEq, Repr

/-- The growth of a full queue fails: the push returns early. -/
def MessageQueue.refuses (queue : MessageQueue μ) (grown : Bool) : Bool :=
  queue.count == queue.capacity &&
    (queue.capacity < queue.maxCapacity && !grown)

namespace WaitingQueue

/-- The queue for its first use by some number of threads. -/
def start (initialCapacity threads : Nat) : WaitingQueue μ :=
  { queue := krsMessageQueueCreate initialCapacity
    consumers := List.replicate threads .outside }

/-- A consumer goes on to another place. -/
def move
    (current : WaitingQueue μ)
    (consumer : Nat)
    (sleeper : Sleeper) : WaitingQueue μ :=
  { current with consumers := current.consumers.set consumer sleeper }

/-- The loop of `krs_message_queue_pop` from the test of its condition on: the
consumer falls asleep, or the call returns. -/
def popRound
    (current : WaitingQueue μ)
    (consumer : Nat) : WaitingQueue μ × QueueOutput μ :=
  if current.queue.count = 0 ∧ current.queue.stopped = false then
    (current.move consumer .asleep, {})
  else
    let popped := krsMessageQueuePop current.queue
    ({ current with queue := popped.2 }.move consumer .outside,
      { returned := popped.1 })

end WaitingQueue

/-- One section under the lock of the queue. -/
def waitingStep (current : WaitingQueue μ) :
    WaitingEvent μ -> Option (WaitingQueue μ × QueueOutput μ)
  | .push msg grown woken =>
      let pushed := krsMessageQueuePush current.queue msg grown
      let awakened :=
        if current.queue.refuses grown then
          if woken = none then some current.consumers else none
        else wakeOne current.consumers woken
      awakened.map fun consumers =>
        ({ queue := pushed.1, consumers := consumers },
          { released := pushed.2.toList })
  | .pop consumer =>
      if current.consumers[consumer]? = some .outside then
        some (current.popRound consumer)
      else none
  | .resume consumer =>
      if current.consumers[consumer]? = some .woken then
        some (current.popRound consumer)
      else none
  | .timeout consumer =>
      if current.consumers[consumer]? = some .asleep then
        some (current.move consumer .outside, {})
      else none
  | .stir consumer =>
      if current.consumers[consumer]? = some .asleep then
        some (current.move consumer .woken, {})
      else none
  | .stop =>
      some
        ({ queue := krsMessageQueueStop current.queue
           consumers := wakeAll current.consumers }, {})
  | .drain =>
      let drained := krsMessageQueueDrain current.queue
      some ({ current with queue := drained.2 }, { released := drained.1 })

/-! ## Wakeups -/

/-- While a consumer sleeps, the queue is not stopped, and each waiting message
has a woken consumer of its own. -/
structure WaitingInvariant (current : WaitingQueue μ) : Prop where
  served : Served current.queue.count current.consumers
  attentive : current.queue.stopped = true -> .asleep ∉ current.consumers

variable {current next : WaitingQueue μ} {output : QueueOutput μ}

theorem krsMessageQueuePush_stopped
    (queue : MessageQueue μ)
    (msg : μ)
    (grown : Bool) :
    (krsMessageQueuePush queue msg grown).1.stopped = queue.stopped := by
  unfold krsMessageQueuePush
  split_ifs <;> rfl

/-- A push adds one message at most, and none if it returns early. -/
theorem krsMessageQueuePush_count
    (queue : MessageQueue μ)
    (msg : μ)
    (grown : Bool) :
    (krsMessageQueuePush queue msg grown).1.count ≤ queue.count +
      if queue.refuses grown then 0 else 1 := by
  by_cases refused : queue.refuses grown = true
  · have full : queue.count = queue.capacity ∧
        queue.capacity < queue.maxCapacity ∧ grown = false := by
      simpa [MessageQueue.refuses] using refused
    rw [if_pos refused, krsMessageQueuePush, if_pos full.1,
      if_neg (Nat.not_le.mpr full.2.1), full.2.2]
    exact Nat.le_refl _
  · rw [if_neg refused]
    unfold krsMessageQueuePush
    split_ifs
    · exact Nat.succ_le_succ (Nat.sub_le _ _)
    · exact Nat.le_succ _
    · exact Nat.le_refl _
    · exact Nat.le_refl _

theorem krsMessageQueuePop_count (queue : MessageQueue μ) :
    (krsMessageQueuePop queue).2.count ≤ queue.count - 1 := by
  unfold krsMessageQueuePop
  split_ifs with empty
  · rw [empty]
  · exact Nat.le_refl _

theorem krsMessageQueuePop_stopped (queue : MessageQueue μ) :
    (krsMessageQueuePop queue).2.stopped = queue.stopped := by
  unfold krsMessageQueuePop
  split_ifs <;> rfl

/-- The condition of the wait is looked at by a consumer that is not asleep. -/
theorem WaitingInvariant.popRound
    (invariant : WaitingInvariant current)
    {consumer : Nat}
    {before : Sleeper}
    (found : current.consumers[consumer]? = some before) :
    WaitingInvariant (current.popRound consumer).1 := by
  unfold WaitingQueue.popRound
  split
  case isTrue empty =>
    refine ⟨?_, ?_⟩
    · change Served current.queue.count _
      rw [empty.1]
      exact Served.none _
    · intro stopped
      rw [show current.queue.stopped = true from stopped] at empty
      cases empty.2
  case isFalse =>
    refine ⟨?_, ?_⟩
    · exact (invariant.served.take found).mono (krsMessageQueuePop_count _)
    · intro stopped sleeps
      have still : current.queue.stopped = true :=
        (krsMessageQueuePop_stopped current.queue).symm.trans stopped
      exact invariant.attentive still
        (asleep_mem_of_set sleeps Sleeper.noConfusion)

/-- A sleeper leaves its sleep. -/
theorem WaitingInvariant.rouse
    (invariant : WaitingInvariant current)
    {consumer : Nat}
    (found : current.consumers[consumer]? = some .asleep)
    {after : Sleeper}
    (awake : after ≠ .asleep) :
    WaitingInvariant (current.move consumer after) where
  served := invariant.served.rouse found Sleeper.noConfusion awake
  attentive := fun stopped sleeps =>
    invariant.attentive stopped (asleep_mem_of_set sleeps awake)

theorem WaitingInvariant.push
    (invariant : WaitingInvariant current)
    (msg : μ)
    (grown : Bool)
    {woken : Option Nat}
    (taken : waitingStep current (.push msg grown woken) =
      some (next, output)) :
    WaitingInvariant next := by
  obtain ⟨consumers, awakened, same⟩ := Option.map_eq_some_iff.mp taken
  cases same
  have count := krsMessageQueuePush_count current.queue msg grown
  have stopped := krsMessageQueuePush_stopped current.queue msg grown
  split at awakened
  case isTrue refused =>
    rw [if_pos refused] at count
    split at awakened
    case isFalse => cases awakened
    case isTrue =>
      cases awakened
      refine ⟨invariant.served.mono count, fun stop => ?_⟩
      exact invariant.attentive (stopped.symm.trans stop)
  case isFalse accepted =>
    rw [if_neg accepted] at count
    refine ⟨(invariant.served.wakeOne awakened).mono count, ?_⟩
    intro stop sleeps
    have nobody := invariant.attentive (stopped.symm.trans stop)
    cases woken with
    | none =>
        simp only [wakeOne] at awakened
        split at awakened
        case isTrue => cases awakened
        case isFalse =>
          cases awakened
          exact nobody sleeps
    | some chosen =>
        simp only [wakeOne] at awakened
        split at awakened
        case isFalse => cases awakened
        case isTrue found => exact nobody (List.mem_of_getElem? found)

/-- Every section keeps the invariant. -/
theorem WaitingInvariant.step
    (invariant : WaitingInvariant current)
    {event : WaitingEvent μ}
    (taken : waitingStep current event = some (next, output)) :
    WaitingInvariant next := by
  cases event with
  | push msg grown woken => exact invariant.push msg grown taken
  | pop consumer | resume consumer =>
      simp only [waitingStep] at taken
      split at taken
      case isFalse => cases taken
      case isTrue found =>
        have kept := invariant.popRound found
        rw [Option.some.inj taken] at kept
        exact kept
  | timeout consumer | stir consumer =>
      simp only [waitingStep] at taken
      split at taken
      case isFalse => cases taken
      case isTrue found =>
        cases taken
        exact invariant.rouse found Sleeper.noConfusion
  | stop =>
      cases taken
      refine ⟨fun sleeps => ?_, fun _ => asleep_not_mem_wakeAll _⟩
      exact absurd sleeps (asleep_not_mem_wakeAll _)
  | drain =>
      cases taken
      exact ⟨Served.none _, invariant.attentive⟩

/-! ## The order of the messages -/

/-- The call of the queue in a section. -/
def WaitingEvent.queueEvent : WaitingEvent μ -> Option (QueueEvent μ)
  | .push msg grown _ => some (.push msg grown)
  | .pop _ => some .pop
  | .resume _ => some .pop
  | .timeout _ => none
  | .stir _ => none
  | .stop => some .stop
  | .drain => some .drain

/-- A consumer that falls asleep has popped from an empty queue. -/
theorem popRound_queueStep
    (current : WaitingQueue μ)
    (consumer : Nat) :
    queueStep current.queue .pop =
      ((current.popRound consumer).1.queue,
        (current.popRound consumer).2) := by
  unfold WaitingQueue.popRound
  split
  case isTrue empty =>
    rw [queueStep, krsMessageQueuePop, if_pos empty.1]
    rfl
  case isFalse => rfl

/-- What a section does to the queue. -/
theorem waitingStep_queueStep
    {event : WaitingEvent μ}
    (taken : waitingStep current event = some (next, output)) :
    match event.queueEvent with
    | none => next.queue = current.queue ∧ output = {}
    | some call => queueStep current.queue call = (next.queue, output) := by
  cases event with
  | push msg grown woken =>
      obtain ⟨consumers, -, same⟩ := Option.map_eq_some_iff.mp taken
      cases same
      rfl
  | pop consumer | resume consumer =>
      simp only [waitingStep] at taken
      split at taken
      case isFalse => cases taken
      case isTrue =>
        have popped := popRound_queueStep current consumer
        rw [Option.some.inj taken] at popped
        exact popped
  | timeout consumer | stir consumer =>
      simp only [waitingStep] at taken
      split at taken
      case isFalse => cases taken
      case isTrue =>
        cases taken
        exact ⟨rfl, rfl⟩
  | stop | drain =>
      cases taken
      rfl

/-- A run of consumers is a run of calls that returns the same messages. -/
theorem runOutputs_queueStep
    {events : List (WaitingEvent μ)}
    {outputs : List (QueueOutput μ)}
    (reached : runOutputs waitingStep current events =
      some (next, outputs)) :
    let ran := runTotal queueStep current.queue
      (events.filterMap WaitingEvent.queueEvent)
    ran.1 = next.queue ∧
      ran.2.filterMap QueueOutput.returned =
        outputs.filterMap QueueOutput.returned := by
  induction events generalizing current outputs with
  | nil =>
      cases reached
      exact ⟨rfl, rfl⟩
  | cons event events inductionHypothesis =>
      rw [runOutputs] at reached
      obtain ⟨⟨between, first⟩, taken, tail⟩ :=
        Option.bind_eq_some_iff.mp reached
      obtain ⟨⟨final, later⟩, rest, same⟩ := Option.map_eq_some_iff.mp tail
      cases same
      have call := waitingStep_queueStep taken
      obtain ⟨sameQueue, sameReturned⟩ := inductionHypothesis rest
      cases called : event.queueEvent with
      | none =>
          rw [called] at call
          obtain ⟨unchanged, silent⟩ := call
          rw [List.filterMap_cons_none called, ← unchanged, silent]
          exact ⟨sameQueue, sameReturned⟩
      | some queueEvent =>
          rw [called] at call
          dsimp only at call
          rw [List.filterMap_cons_some called]
          dsimp only [runTotal]
          rw [call]
          refine ⟨sameQueue, ?_⟩
          rw [List.filterMap_cons, List.filterMap_cons, sameReturned]

/-! ## Every run -/

theorem WaitingInvariant.start (initialCapacity threads : Nat) :
    WaitingInvariant (.start initialCapacity threads : WaitingQueue μ) where
  served := Served.none _
  attentive := nofun

/-- A woken consumer that finds a message or a stopped queue returns. -/
theorem resume_returns
    {consumer : Nat}
    (found : current.consumers[consumer]? = some .woken)
    (ready : current.queue.count ≠ 0 ∨ current.queue.stopped = true) :
    ∃ next output,
      waitingStep current (.resume consumer) = some (next, output) ∧
      next.consumers[consumer]? = some .outside := by
  have awake : ¬ (current.queue.count = 0 ∧
      current.queue.stopped = false) := by
    rintro ⟨empty, running⟩
    rcases ready with present | stopped
    · exact present empty
    · rw [running] at stopped
      cases stopped
  refine ⟨_, _, (if_pos found).trans (congrArg some (if_neg awake)), ?_⟩
  obtain ⟨inside, -⟩ := List.getElem?_eq_some_iff.mp found
  exact List.getElem?_set_self inside

/-- In every run of pushes, pops with their waits, stops and drains: while a
consumer sleeps, the queue runs and has no more messages than consumers that
were woken and are on their way; a woken consumer that finds a message or a
stopped queue returns from its call; and the messages are returned in the order
of the first-in first-out queue, each to one call. -/
theorem no_wakeup_lost
    (initialCapacity threads : Nat)
    {events : List (WaitingEvent μ)}
    {final : WaitingQueue μ}
    {outputs : List (QueueOutput μ)}
    (reached : runOutputs waitingStep (.start initialCapacity threads)
      events = some (final, outputs)) :
    (.asleep ∈ final.consumers -> final.queue.stopped = false ∧
      final.queue.count ≤ final.consumers.count .woken) ∧
    (∀ consumer : Nat, final.consumers[consumer]? = some .woken ->
      final.queue.count ≠ 0 ∨ final.queue.stopped = true ->
      ∃ next output,
        waitingStep final (.resume consumer) = some (next, output) ∧
        next.consumers[consumer]? = some .outside) ∧
    let calls := events.filterMap WaitingEvent.queueEvent
    let fifo := (runTotal (fifoStep 65536) (newFifo initialCapacity) calls).1
    final.queue.Holds fifo.waiting ∧
      fifo.Accounts (calls.filterMap QueueEvent.pushed)
        (outputs.filterMap QueueOutput.returned) := by
  have invariant : WaitingInvariant final := by
    refine runOutputs_invariant ?_ (WaitingInvariant.start _ _) reached
    exact fun _ _ _ _ invariant taken => invariant.step taken
  refine ⟨?_, ?_, ?_⟩
  · intro sleeps
    refine ⟨?_, invariant.served sleeps⟩
    by_contra stopped
    exact invariant.attentive (by simpa using stopped) sleeps
  · intro consumer found ready
    exact resume_returns found ready
  · intro calls fifo
    obtain ⟨sameQueue, sameReturned⟩ := runOutputs_queueStep reached
    obtain ⟨-, holds, -, accounts⟩ :=
      message_queue_refines_fifo initialCapacity calls
    have returned : (runTotal queueStep (krsMessageQueueCreate
        initialCapacity) calls).2.filterMap QueueOutput.returned =
          outputs.filterMap QueueOutput.returned := sameReturned
    rw [returned] at accounts
    rw [← sameQueue]
    exact ⟨holds, accounts⟩

/-- Two consumers sleep; the first message is taken by a third one before the
woken consumer is back, and the second message wakes the other. -/
def stolenEvents : List (WaitingEvent Nat) :=
  [.pop 0, .pop 1, .push 7 true (some 0), .pop 2, .resume 0,
    .push 8 true (some 1)]

/-- The queue after these sections, and what they hand out. -/
def stolenEnd : WaitingQueue Nat × List (QueueOutput Nat) :=
  (runOutputs waitingStep (.start 2 3) stolenEvents).getD (.start 2 3, [])

theorem stolen_message_wakes_another :
    runOutputs waitingStep (.start 2 3) stolenEvents = some stolenEnd ∧
    stolenEnd.1.consumers = [.asleep, .woken, .outside] ∧
    (stolenEnd.1.queue.stopped = false ∧
      stolenEnd.1.queue.count ≤ stolenEnd.1.consumers.count .woken) := by
  have reached : runOutputs waitingStep (.start 2 3) stolenEvents =
      some stolenEnd := by
    decide +kernel
  have places : stolenEnd.1.consumers = [.asleep, .woken, .outside] := by
    decide +kernel
  have sleeps : .asleep ∈ stolenEnd.1.consumers := by
    rw [places]
    exact List.mem_cons_self
  exact ⟨reached, places, (no_wakeup_lost 2 3 reached).1 sleeps⟩

end Kronos
