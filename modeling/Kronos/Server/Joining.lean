import Kronos.Library.WorkBound
import Kronos.Server.Waiting

/-!
# Ending the threads of a server

The loops of the I/O threads, the message handlers and the retransmit thread,
and the part of `krs_server_stop` and of label `fail` in `krs_server_start` that
ends them.  One step takes a thread from one place of its loop to the next;
messages wait in the queue, whose sections are those of `waitingStep`.

Time is not counted: a wait with a timeout may return early at any moment.  The
handling of a frame and a retransmit tick are one step each, as both return.
A wait for more threads than `WaitForMultipleObjects` supports fails at once.
-/

namespace Kronos

open Library

variable {μ : Type}

/-! ## The model -/

/-- What is posted to the completion port: a received datagram, or the packet
with `SHUTDOWN_KEY`. -/
inductive CompletionPacket (μ : Type)
  | datagram (msg : μ)
  | shutdown
  deriving DecidableEq, Repr

/-- `krs_server_iocp_io_thread`: before the test of its loop, in
`GetQueuedCompletionStatus`, with a datagram, or ended. -/
inductive IocpPhase (μ : Type)
  | loop
  | waiting
  | handling (msg : μ)
  | ended
  deriving DecidableEq, Repr

/-- `krs_server_message_handler_thread`: before the test of its loop, in
`krs_message_queue_pop`, with a message, or ended. -/
inductive HandlerPhase (μ : Type)
  | loop
  | popping
  | handling (msg : μ)
  | ended
  deriving DecidableEq, Repr

/-- `krs_server_retransmit_thread`: before the test of its loop, in `Sleep`, in
a tick, or ended. -/
inductive RetransmitPhase
  | loop
  | sleeping
  | ticking
  | ended
  deriving DecidableEq, Repr

/-- The thread has returned. -/
def IocpPhase.isEnded : IocpPhase μ -> Bool
  | .ended => true
  | _ => false

/-- The thread has returned. -/
def HandlerPhase.isEnded : HandlerPhase μ -> Bool
  | .ended => true
  | _ => false

/-- The thread has returned. -/
def RetransmitPhase.isEnded : RetransmitPhase -> Bool
  | .ended => true
  | _ => false

/-- What a thread that ends the server does, in steps.  `tearDown` is all that
comes after the last wait. -/
inductive StopAction
  | post
  | joinIocpThreads
  | stopQueue
  | joinHandlerThreads
  | joinRetransmitThread
  | tearDown
  deriving DecidableEq, Repr

/-- `MAXIMUM_WAIT_OBJECTS` of `WaitForMultipleObjects`. -/
def maximumWaitObjects : Nat := 64

/-- `krs_server_stop` after it has cleared `running`. -/
def stopActions (iocpThreadCount : Nat) : List StopAction :=
  List.replicate iocpThreadCount .post ++
    [.joinIocpThreads, .stopQueue, .joinHandlerThreads,
      .joinRetransmitThread, .tearDown]

/-- The handlers at label `fail`, if any was started. -/
def failHandlers (handlerStarted : Nat) : List StopAction :=
  if handlerStarted = 0 then [] else [.stopQueue, .joinHandlerThreads]

/-- The I/O threads at label `fail`, if any was started. -/
def failIocpThreads (iocpStarted : Nat) : List StopAction :=
  if iocpStarted = 0 then []
  else List.replicate iocpStarted .post ++ [.joinIocpThreads]

/-- Label `fail` after it has cleared `running`. -/
def failActions (iocpStarted handlerStarted : Nat) : List StopAction :=
  failHandlers handlerStarted ++ failIocpThreads iocpStarted ++ [.tearDown]

/-- The threads of a server and what they wait for.  `actions` is empty until
the server is stopped or its start fails, and is what is left to do then. -/
structure WorkingServer (μ : Type) where
  running : Bool := true
  iocpThreads : List (IocpPhase μ) := []
  handlerThreads : List (HandlerPhase μ) := []
  retransmitThread : Option RetransmitPhase := none
  completionPort : List (CompletionPacket μ) := []
  messages : WaitingQueue μ
  actions : List StopAction := []
  deriving DecidableEq, Repr

/-- What can happen.  An I/O thread that has a datagram says whether the pool
gives a message and whether a full queue grows, and which consumer its push
wakes.  `arrive` is a datagram for a receive that is under way, `timeout` the
end of the time that a pop waits for, `stir` a wakeup that nobody asked for,
and `giveUp` a wait for threads that times out. -/
inductive WorkingEvent (μ : Type)
  | createIocpThread
  | createHandlerThread
  | createRetransmitThread
  | stop
  | fail
  | arrive (msg : μ)
  | iocp (thread : Nat) (acquired grown : Bool) (woken : Option Nat)
  | handler (thread : Nat)
  | timeout (thread : Nat)
  | stir (thread : Nat)
  | retransmit
  | action
  | giveUp
  deriving DecidableEq, Repr

namespace WorkingServer

/-- `krs_server_start` has created no thread yet. -/
def start (initialCapacity : Nat) : WorkingServer μ :=
  { messages := .start initialCapacity 0 }

/-- An I/O thread with a packet. -/
def afterPacket (running : Bool) : CompletionPacket μ -> IocpPhase μ
  | .shutdown => .ended
  | .datagram msg => if running then .handling msg else .ended

/-- An I/O thread with a datagram: it pushes a message, if the pool has one. -/
def pushMessage
    (messages : WaitingQueue μ)
    (msg : μ)
    (acquired grown : Bool)
    (woken : Option Nat) : Option (WaitingQueue μ) :=
  if acquired then
    (waitingStep messages (.push msg grown woken)).map Prod.fst
  else some messages

/-- The next step of an I/O thread. -/
def iocpStep
    (server : WorkingServer μ)
    (thread : Nat)
    (acquired grown : Bool)
    (woken : Option Nat) : IocpPhase μ -> Option (WorkingServer μ)
  | .loop =>
      some { server with
        iocpThreads := server.iocpThreads.set thread
          (if server.running then .waiting else .ended) }
  | .waiting =>
      match server.completionPort with
      | [] => none
      | packet :: packets =>
          some { server with
            completionPort := packets
            iocpThreads := server.iocpThreads.set thread
              (afterPacket server.running packet) }
  | .handling msg =>
      (pushMessage server.messages msg acquired grown woken).map
        fun messages =>
          { server with
            messages := messages
            iocpThreads := server.iocpThreads.set thread .loop }
  | .ended => none

/-- Where a handler is after a section of its pop: asleep in it, or back from
it with a message or with `NULL`. -/
def afterPop
    (messages : WaitingQueue μ)
    (thread : Nat)
    (returned : Option μ) : HandlerPhase μ :=
  if messages.consumers[thread]? = some .asleep then .popping
  else returned.elim .loop .handling

/-- A handler takes a section of its pop. -/
def popStep
    (server : WorkingServer μ)
    (thread : Nat)
    (event : WaitingEvent μ) : Option (WorkingServer μ) :=
  (waitingStep server.messages event).map fun taken =>
    { server with
      messages := taken.1
      handlerThreads := server.handlerThreads.set thread
        (afterPop taken.1 thread taken.2.returned) }

/-- The next step of a message handler. -/
def handlerStep
    (server : WorkingServer μ)
    (thread : Nat) : HandlerPhase μ -> Option (WorkingServer μ)
  | .loop =>
      if server.running then server.popStep thread (.pop thread)
      else
        some { server with
          handlerThreads := server.handlerThreads.set thread .ended }
  | .popping => server.popStep thread (.resume thread)
  | .handling _ =>
      some { server with
        handlerThreads := server.handlerThreads.set thread .loop }
  | .ended => none

/-- A handler whose pop has waited for its time. -/
def timeoutStep
    (server : WorkingServer μ)
    (thread : Nat) : HandlerPhase μ -> Option (WorkingServer μ)
  | .popping => server.popStep thread (.timeout thread)
  | _ => none

/-- The next place of the retransmit thread. -/
def retransmitNext (running : Bool) :
    RetransmitPhase -> Option RetransmitPhase
  | .loop => some (if running then .sleeping else .ended)
  | .sleeping => some (if running then .ticking else .ended)
  | .ticking => some .loop
  | .ended => none

/-- A wait for threads returns once they have ended, or fails at once. -/
def waitReturns (ended : α -> Bool) (threads : List α) : Bool :=
  decide (maximumWaitObjects < threads.length) || threads.all ended

/-- The next step of the thread that ends the server. -/
def actionStep (server : WorkingServer μ) :
    StopAction -> Option (WorkingServer μ)
  | .post =>
      some { server with
        completionPort := server.completionPort ++ [.shutdown] }
  | .joinIocpThreads =>
      if waitReturns IocpPhase.isEnded server.iocpThreads then some server
      else none
  | .stopQueue =>
      (waitingStep server.messages .stop).map fun taken =>
        { server with messages := taken.1 }
  | .joinHandlerThreads =>
      if waitReturns HandlerPhase.isEnded server.handlerThreads then some server
      else none
  | .joinRetransmitThread =>
      if waitReturns RetransmitPhase.isEnded
          server.retransmitThread.toList then some server
      else none
  | .tearDown => some server

/-- All threads have ended. -/
def allEnded (server : WorkingServer μ) : Bool :=
  server.iocpThreads.all IocpPhase.isEnded &&
    server.handlerThreads.all HandlerPhase.isEnded &&
    server.retransmitThread.toList.all RetransmitPhase.isEnded

/-- The server starts to end. -/
def finish
    (server : WorkingServer μ)
    (actions : List StopAction) : WorkingServer μ :=
  { server with running := false, actions := actions }

end WorkingServer

/-- An action that waits for threads. -/
def StopAction.joins : StopAction -> Bool
  | .joinIocpThreads => true
  | .joinHandlerThreads => true
  | .joinRetransmitThread => true
  | _ => false

/-- One step of a server.  Threads are created, and the server is stopped, while
it is running; its start fails before it has created the retransmit thread. -/
def workingStep (server : WorkingServer μ) :
    WorkingEvent μ -> Option (WorkingServer μ)
  | .createIocpThread =>
      if server.running then
        some { server with iocpThreads := server.iocpThreads ++ [.loop] }
      else none
  | .createHandlerThread =>
      if server.running then
        some { server with
          handlerThreads := server.handlerThreads ++ [.loop]
          messages :=
            { server.messages with
              consumers := server.messages.consumers ++ [.outside] } }
      else none
  | .createRetransmitThread =>
      if server.running ∧ server.retransmitThread = none then
        some { server with retransmitThread := some .loop }
      else none
  | .stop =>
      if server.running then
        some (server.finish (stopActions server.iocpThreads.length))
      else none
  | .fail =>
      if server.running ∧ server.retransmitThread = none then
        some (server.finish (failActions server.iocpThreads.length
          server.handlerThreads.length))
      else none
  | .arrive msg =>
      some { server with
        completionPort := server.completionPort ++ [.datagram msg] }
  | .iocp thread acquired grown woken =>
      (server.iocpThreads[thread]?).bind
        (server.iocpStep thread acquired grown woken)
  | .handler thread =>
      (server.handlerThreads[thread]?).bind (server.handlerStep thread)
  | .timeout thread =>
      (server.handlerThreads[thread]?).bind (server.timeoutStep thread)
  | .stir thread =>
      (waitingStep server.messages (.stir thread)).map fun taken =>
        { server with messages := taken.1 }
  | .retransmit =>
      (server.retransmitThread.bind
        (WorkingServer.retransmitNext server.running)).map fun next =>
          { server with retransmitThread := some next }
  | .action =>
      match server.actions with
      | [] => none
      | action :: rest =>
          (server.actionStep action).map fun next =>
            { next with actions := rest }
  | .giveUp =>
      match server.actions with
      | [] => none
      | action :: rest =>
          if action.joins then some { server with actions := rest } else none

/-- What a step of a server finds, and what it leaves. -/
inductive WorkingTaken (server : WorkingServer μ) :
    WorkingEvent μ -> WorkingServer μ -> Prop
  | createIocpThread
      (runs : server.running = true) :
      WorkingTaken server .createIocpThread
        { server with iocpThreads := server.iocpThreads ++ [.loop] }
  | createHandlerThread
      (runs : server.running = true) :
      WorkingTaken server .createHandlerThread
        { server with
          handlerThreads := server.handlerThreads ++ [.loop]
          messages :=
            { server.messages with
              consumers := server.messages.consumers ++ [.outside] } }
  | createRetransmitThread
      (runs : server.running = true)
      (absent : server.retransmitThread = none) :
      WorkingTaken server .createRetransmitThread
        { server with retransmitThread := some .loop }
  | stop
      (runs : server.running = true) :
      WorkingTaken server .stop
        (server.finish (stopActions server.iocpThreads.length))
  | fail
      (runs : server.running = true)
      (absent : server.retransmitThread = none) :
      WorkingTaken server .fail
        (server.finish (failActions server.iocpThreads.length
          server.handlerThreads.length))
  | arrive
      (msg : μ) :
      WorkingTaken server (.arrive msg)
        { server with
          completionPort := server.completionPort ++ [.datagram msg] }
  | iocp
      {thread : Nat}
      {acquired grown : Bool}
      {woken : Option Nat}
      {phase : IocpPhase μ}
      {next : WorkingServer μ}
      (found : server.iocpThreads[thread]? = some phase)
      (step : server.iocpStep thread acquired grown woken phase =
        some next) :
      WorkingTaken server (.iocp thread acquired grown woken) next
  | handler
      {thread : Nat}
      {phase : HandlerPhase μ}
      {next : WorkingServer μ}
      (found : server.handlerThreads[thread]? = some phase)
      (step : server.handlerStep thread phase = some next) :
      WorkingTaken server (.handler thread) next
  | timeout
      {thread : Nat}
      {next : WorkingServer μ}
      (found : server.handlerThreads[thread]? = some .popping)
      (step : server.popStep thread (.timeout thread) = some next) :
      WorkingTaken server (.timeout thread) next
  | stir
      {thread : Nat}
      {messages : WaitingQueue μ}
      {output : QueueOutput μ}
      (step : waitingStep server.messages (.stir thread) =
        some (messages, output)) :
      WorkingTaken server (.stir thread)
        { server with messages := messages }
  | retransmit
      {phase next : RetransmitPhase}
      (found : server.retransmitThread = some phase)
      (step : WorkingServer.retransmitNext server.running phase =
        some next) :
      WorkingTaken server .retransmit
        { server with retransmitThread := some next }
  | action
      {action : StopAction}
      {rest : List StopAction}
      {next : WorkingServer μ}
      (ahead : server.actions = action :: rest)
      (step : server.actionStep action = some next) :
      WorkingTaken server .action { next with actions := rest }
  | giveUp
      {action : StopAction}
      {rest : List StopAction}
      (ahead : server.actions = action :: rest)
      (joins : action.joins = true) :
      WorkingTaken server .giveUp { server with actions := rest }

theorem workingStep_cases
    {server next : WorkingServer μ}
    {event : WorkingEvent μ}
    (taken : workingStep server event = some next) :
    WorkingTaken server event next := by
  cases event with
  | createIocpThread =>
      rw [workingStep] at taken
      split at taken
      case isFalse => cases taken
      case isTrue runs =>
        cases taken
        exact .createIocpThread runs
  | createHandlerThread =>
      rw [workingStep] at taken
      split at taken
      case isFalse => cases taken
      case isTrue runs =>
        cases taken
        exact .createHandlerThread runs
  | createRetransmitThread =>
      rw [workingStep] at taken
      split at taken
      case isFalse => cases taken
      case isTrue guard =>
        cases taken
        exact .createRetransmitThread guard.1 guard.2
  | stop =>
      rw [workingStep] at taken
      split at taken
      case isFalse => cases taken
      case isTrue runs =>
        cases taken
        exact .stop runs
  | fail =>
      rw [workingStep] at taken
      split at taken
      case isFalse => cases taken
      case isTrue guard =>
        cases taken
        exact .fail guard.1 guard.2
  | arrive msg =>
      cases taken
      exact .arrive msg
  | iocp thread acquired grown woken =>
      obtain ⟨phase, found, step⟩ := Option.bind_eq_some_iff.mp taken
      exact .iocp found step
  | handler thread =>
      obtain ⟨phase, found, step⟩ := Option.bind_eq_some_iff.mp taken
      exact .handler found step
  | timeout thread =>
      obtain ⟨phase, found, step⟩ := Option.bind_eq_some_iff.mp taken
      cases phase with
      | popping => exact .timeout found step
      | loop | handling msg | ended => cases step
  | stir thread =>
      obtain ⟨⟨messages, output⟩, step, same⟩ :=
        Option.map_eq_some_iff.mp taken
      cases same
      exact .stir step
  | retransmit =>
      obtain ⟨phase, step, same⟩ := Option.map_eq_some_iff.mp taken
      obtain ⟨before, found, move⟩ := Option.bind_eq_some_iff.mp step
      cases same
      exact .retransmit found move
  | action =>
      rw [workingStep] at taken
      split at taken
      case h_1 => cases taken
      case h_2 action rest ahead =>
        obtain ⟨acted, step, same⟩ := Option.map_eq_some_iff.mp taken
        cases same
        exact .action ahead step
  | giveUp =>
      rw [workingStep] at taken
      split at taken
      case h_1 => cases taken
      case h_2 action rest ahead =>
        split at taken
        case isFalse => cases taken
        case isTrue joins =>
          cases taken
          exact .giveUp ahead joins

/-! ## Steps of the queue -/

/-- The consumer is in the wait of its pop. -/
def WaitingQueue.Waits
    (current : WaitingQueue μ)
    (consumer : Nat) : Prop :=
  current.consumers[consumer]? = some .asleep ∨
    current.consumers[consumer]? = some .woken

/-- The consumer whose section it is. -/
def WaitingEvent.consumer : WaitingEvent μ -> Option Nat
  | .pop consumer => some consumer
  | .resume consumer => some consumer
  | .timeout consumer => some consumer
  | _ => none

variable {current after : WaitingQueue μ} {output : QueueOutput μ}

/-- A section of a pop or the end of its time changes one consumer, and takes
it on. -/
theorem popRound_consumers
    (current : WaitingQueue μ)
    (consumer : Nat) :
    (current.popRound consumer).1.consumers =
      current.consumers.set consumer
        (if current.queue.count = 0 ∧ current.queue.stopped = false
          then .asleep else .outside) := by
  unfold WaitingQueue.popRound
  split <;> rfl

/-- A wakeup takes a consumer out of its sleep, or changes nothing. -/
theorem wakeOne_cases
    {sleepers next : List Sleeper}
    {chosen : Option Nat}
    (woken : wakeOne sleepers chosen = some next) :
    next = sleepers ∨ ∃ position, sleepers[position]? = some .asleep ∧
      next = sleepers.set position .woken := by
  cases chosen with
  | none =>
      simp only [wakeOne] at woken
      split at woken
      case isTrue => cases woken
      case isFalse =>
        cases woken
        exact Or.inl rfl
  | some chosen =>
      simp only [wakeOne] at woken
      split at woken
      case isFalse => cases woken
      case isTrue found =>
        cases woken
        exact Or.inr ⟨chosen, found, rfl⟩

theorem push_consumers
    {msg : μ}
    {grown : Bool}
    {woken : Option Nat}
    (taken : waitingStep current (.push msg grown woken) =
      some (after, output)) :
    after.consumers = current.consumers ∨
      ∃ position, current.consumers[position]? = some .asleep ∧
        after.consumers = current.consumers.set position .woken := by
  obtain ⟨consumers, awakened, same⟩ := Option.map_eq_some_iff.mp taken
  cases same
  split at awakened
  case isTrue =>
    split at awakened
    case isFalse => cases awakened
    case isTrue =>
      cases awakened
      exact Or.inl rfl
  case isFalse => exact wakeOne_cases awakened

/-- There is a sleeper to wake, or none has to be woken. -/
theorem wakeOne_enabled (sleepers : List Sleeper) :
    ∃ chosen next, wakeOne sleepers chosen = some next := by
  by_cases sleeps : Sleeper.asleep ∈ sleepers
  · obtain ⟨position, found⟩ := List.mem_iff_getElem?.mp sleeps
    exact ⟨some position, _, if_pos found⟩
  · exact ⟨none, _, if_neg sleeps⟩

/-- A push is never held up. -/
theorem push_enabled
    (current : WaitingQueue μ)
    (msg : μ)
    (grown : Bool) :
    ∃ woken taken,
      waitingStep current (.push msg grown woken) = some taken := by
  simp only [waitingStep]
  by_cases refused : current.queue.refuses grown = true
  · simp [refused]
  · obtain ⟨chosen, next, awakened⟩ := wakeOne_enabled current.consumers
    exact ⟨chosen, _, by rw [if_neg refused, awakened]; rfl⟩

/-- A consumer that is set to another place in its wait stays in it. -/
theorem waits_set
    {consumers : List Sleeper}
    {position consumer : Nat}
    {sleeper : Sleeper}
    (stays : sleeper ≠ .outside ∨ position ≠ consumer)
    (inside : consumers[consumer]? = some .asleep ∨
      consumers[consumer]? = some .woken) :
    (consumers.set position sleeper)[consumer]? = some .asleep ∨
      (consumers.set position sleeper)[consumer]? = some .woken := by
  have bounded : consumer < consumers.length := by
    rcases inside with found | found <;>
      exact (List.getElem?_eq_some_iff.mp found).1
  by_cases same : position = consumer
  · cases same
    rw [List.getElem?_set_self bounded]
    cases sleeper with
    | outside => exact absurd rfl (stays.resolve_right (absurd rfl))
    | asleep => exact Or.inl rfl
    | woken => exact Or.inr rfl
  · rw [List.getElem?_set_ne same]
    exact inside

/-- Only its own sections take a consumer out of its wait. -/
theorem WaitingQueue.Waits.step
    {consumer : Nat}
    (waits : current.Waits consumer)
    {event : WaitingEvent μ}
    (taken : waitingStep current event = some (after, output))
    (other : event.consumer ≠ some consumer) :
    after.Waits consumer := by
  cases event with
  | push msg grown woken =>
      unfold WaitingQueue.Waits
      rcases push_consumers taken with same | ⟨position, -, same⟩
      · rw [same]
        exact waits
      · rw [same]
        exact waits_set (Or.inl Sleeper.noConfusion) waits
  | pop popping | resume popping =>
      simp only [waitingStep] at taken
      split at taken
      case isFalse => cases taken
      case isTrue =>
        have round := popRound_consumers current popping
        rw [Option.some.inj taken] at round
        unfold WaitingQueue.Waits
        rw [round]
        exact waits_set
          (Or.inr fun same => other (congrArg some same)) waits
  | timeout popping =>
      simp only [waitingStep] at taken
      split at taken
      case isFalse => cases taken
      case isTrue =>
        cases taken
        exact waits_set
          (Or.inr fun same => other (congrArg some same)) waits
  | stir popping =>
      simp only [waitingStep] at taken
      split at taken
      case isFalse => cases taken
      case isTrue =>
        cases taken
        exact waits_set (Or.inl Sleeper.noConfusion) waits
  | stop =>
      cases taken
      refine Or.inr ?_
      change (current.consumers.map Sleeper.wake)[consumer]? = _
      rcases waits with found | found <;>
        rw [List.getElem?_map, found] <;> rfl
  | drain =>
      cases taken
      exact waits

end Kronos
