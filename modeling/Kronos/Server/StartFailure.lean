import Kronos.Basic
import Kronos.Server.Joining
import Kronos.Server.MessagePool

/-!
# A server that fails to start

`krs_server_start` of `iocp_lifecycle.c`: it creates the completion port, the
message queue, the message pool and the connection map, and then one thread
after the other.  The threads that it has created run meanwhile: I/O threads
receive datagrams and queue them.  Where a step fails, label `fail` waits for
the threads and destroys the pool, and after it the queue, which still releases
its messages into the pool.  A wait returns when its threads have ended, fails
at once when they are too many for it, or is given up after two seconds; the
threads that are left go on.

The completion port, the connection map and the arrays of thread handles hold
no message: only whether they are obtained is kept of them.
-/

namespace Kronos

open Library

/-! ## Destroying the pool and the queue -/

/-- The message pool of a server: there is none yet, it is in use, or it was
destroyed.  The pool pointer of the queue is set right after the pool is
created, and nothing clears it. -/
inductive PoolCell
  | absent
  | live (memory : MessageMemory)
  | destroyed
  deriving DecidableEq, Repr

/-- `krs_message_pool_destroy`. -/
def PoolCell.destroy : PoolCell -> PoolCell
  | .absent => .absent
  | _ => .destroyed

/-- `krs_message_pool_release` through the pool pointer of the queue.  Without a
pool the message is freed.  There is no outcome for a pool that was destroyed,
whose fields the function would read. -/
def PoolCell.release : PoolCell -> MessageRef -> Option PoolCell
  | .absent, _ => some .absent
  | .live memory, msg => some (.live (krsMessagePoolRelease memory msg))
  | .destroyed, _ => none

/-- The pool, and the messages that were released while a server is taken
apart. -/
structure ReleaseLog where
  cell : PoolCell
  released : List MessageRef := []
  deriving DecidableEq, Repr

/-- One release. -/
def ReleaseLog.release (log : ReleaseLog) (msg : MessageRef) :
    Option ReleaseLog :=
  (log.cell.release msg).map fun cell =>
    { cell := cell, released := log.released ++ [msg] }

/-- `krs_message_pool_destroy` of the pool. -/
def ReleaseLog.destroyPool (log : ReleaseLog) : ReleaseLog :=
  { log with cell := log.cell.destroy }

/-- The messages in a queue, from the head on. -/
def MessageQueue.queued (queue : MessageQueue MessageRef) : List MessageRef :=
  (List.range queue.count).filterMap queue.cellAt

/-- `krs_message_queue_destroy`: it releases what is queued, one message after
the other. -/
def krsMessageQueueDestroy
    (log : ReleaseLog)
    (queue : MessageQueue MessageRef) : Option ReleaseLog :=
  queue.queued.foldlM ReleaseLog.release log

/-- `krs_server_stop` takes the pool and the queue apart in this order. -/
def stopTearDown (cell : PoolCell) (queue : MessageQueue MessageRef) :
    Option ReleaseLog :=
  let drained := krsMessageQueueDrain queue
  ((drained.1.foldlM ReleaseLog.release { cell := cell }).bind fun log =>
    krsMessageQueueDestroy log drained.2).map ReleaseLog.destroyPool

/-! ## The start -/

/-- Where `krs_server_start` is: before the step that obtains a resource, in one
of its loops over the threads, at its successful end, or at label `fail`, which
waits for the handlers, waits for the I/O threads, destroys the pool, and
destroys the queue. -/
inductive StartStage
  | completionPort
  | messageQueue
  | messagePool
  | connectionMap
  | iocpThreadArray
  | iocpThreads
  | handlerThreadArray
  | handlerThreads
  | retransmitThread
  | started
  | joinHandlers
  | joinIocpThreads
  | destroyPool
  | destroyQueue
  | returned
  deriving DecidableEq, Repr

/-- A thread that `krs_server_start` has created: where it is in its loop,
whether it is an I/O thread that has received a datagram and has then found the
server running, and whether it has returned. -/
structure StartedThread where
  place : MessageThread := .idle
  received : Bool := false
  ended : Bool := false
  deriving DecidableEq, Repr

/-- A server in `krs_server_start`.  Of its threads the I/O threads come
first. -/
structure StartingServer where
  stage : StartStage := .completionPort
  configIocpThreads : Nat
  configHandlerThreads : Nat
  running : Bool := false
  iocpStarted : Nat := 0
  handlerStarted : Nat := 0
  messageQueue : Option (MessageQueue MessageRef) := none
  messagePool : PoolCell := .absent
  threads : List StartedThread := []
  released : List MessageRef := []
  result : KronosResult := .suc
  deriving DecidableEq, Repr

/-- `goto fail`, up to the wait for the handlers. -/
def StartingServer.fail
    (server : StartingServer)
    (errorCode : KronosError)
    (message : String) : StartingServer :=
  { server with
    stage := .joinHandlers
    running := false
    messageQueue :=
      if server.handlerStarted > 0 then
        server.messageQueue.map krsMessageQueueStop
      else server.messageQueue
    result := .wMsg errorCode message }

/-- A step that obtains a resource, or fails. -/
def StartingServer.attempt
    (server : StartingServer)
    (succeeds : Bool)
    (next : StartingServer)
    (errorCode : KronosError)
    (message : String) : StartingServer :=
  if succeeds then next else server.fail errorCode message

/-- The places of the threads. -/
def StartingServer.places (server : StartingServer) : List MessageThread :=
  server.threads.map StartedThread.place

/-- `krs_server_start` goes on by one step; `succeeds` is the outcome of the
system call or the allocation in it. -/
def StartingServer.proceed (server : StartingServer) (succeeds : Bool) :
    Option StartingServer :=
  match server.stage with
  | .completionPort =>
      some (server.attempt succeeds { server with stage := .messageQueue }
        .platformWindowsSocket "CreateIoCompletionPort failed")
  | .messageQueue =>
      some (server.attempt succeeds
        { server with
          stage := .messagePool
          messageQueue := some (krsMessageQueueCreate 256) }
        .memoryAllocation "message queue alloc failed")
  | .messagePool =>
      some (server.attempt succeeds
        { server with
          stage := .connectionMap
          messagePool := .live { pool := krsMessagePoolCreate 1024 } }
        .memoryAllocation "message pool alloc failed")
  | .connectionMap =>
      some (server.attempt succeeds
        { server with stage := .iocpThreadArray, running := true }
        .memoryAllocation "connection map alloc failed")
  | .iocpThreadArray =>
      some (server.attempt succeeds { server with stage := .iocpThreads }
        .memoryAllocation "thread array alloc failed")
  | .iocpThreads =>
      if server.iocpStarted < server.configIocpThreads then
        some (server.attempt succeeds
          { server with
            iocpStarted := server.iocpStarted + 1
            threads := server.threads ++ [{}] }
          .platformWindowsSocket "CreateThread failed for IOCP thread")
      else some { server with stage := .handlerThreadArray }
  | .handlerThreadArray =>
      some (server.attempt succeeds { server with stage := .handlerThreads }
        .memoryAllocation "handler thread array alloc failed")
  | .handlerThreads =>
      if server.handlerStarted < server.configHandlerThreads then
        some (server.attempt succeeds
          { server with
            handlerStarted := server.handlerStarted + 1
            threads := server.threads ++ [{}] }
          .platformWindowsSocket "CreateThread failed for handler thread")
      else some { server with stage := .retransmitThread }
  | .retransmitThread =>
      some (server.attempt succeeds { server with stage := .started }
        .platformWindowsSocket "CreateThread failed for retransmit thread")
  | .joinHandlers =>
      if WorkingServer.waitReturns StartedThread.ended
          (server.threads.drop server.iocpStarted) then
        some { server with stage := .joinIocpThreads }
      else none
  | .joinIocpThreads =>
      if WorkingServer.waitReturns StartedThread.ended
          (server.threads.take server.iocpStarted) then
        some { server with stage := .destroyPool }
      else none
  | .destroyPool =>
      some { server with
        stage := .destroyQueue
        messagePool := server.messagePool.destroy }
  | .destroyQueue =>
      match server.messageQueue with
      | none => some { server with stage := .returned }
      | some queue =>
          (krsMessageQueueDestroy { cell := server.messagePool } queue).map
            fun log =>
              { server with
                stage := .returned
                messageQueue := none
                messagePool := log.cell
                released := log.released }
  | .started => none
  | .returned => none

/-- A wait of label `fail` is given up after its two seconds. -/
def StartingServer.giveUp (server : StartingServer) :
    Option StartingServer :=
  match server.stage with
  | .joinHandlers => some { server with stage := .joinIocpThreads }
  | .joinIocpThreads => some { server with stage := .destroyPool }
  | _ => none

/-- The next operation of a thread when the pool is gone, of which
`spm->message_pool` is `NULL` then: a datagram gets a block of the heap.  There
is no outcome for an operation on the pool that was destroyed. -/
def orphanAdvance
    (queue : MessageQueue MessageRef)
    (locked : Bool)
    (choice : MessageChoice) :
    MessageThread -> Option (MessageQueue MessageRef × MessageThread)
  | .idle =>
      if choice.receives then
        some (queue,
          match choice.address with
          | none => .idle
          | some address => .acquired (.heap address))
      else if locked then none
      else
        let popped := krsMessageQueuePop queue
        some (popped.2,
          match popped.1 with
          | none => .idle
          | some msg => .popped msg)
  | .acquired msg =>
      if locked then none else some (pushMessage queue msg choice.grown)
  | .popped msg => some (queue, handleMessage msg choice.verdict)
  | .routing msg => some (queue, .releasing msg none)
  | .storing msg => some (queue.store msg, .idle)
  | _ => none

/-- A thread that goes on, at another place. -/
def StartingServer.moveThread
    (server : StartingServer)
    (position : Nat)
    (place : MessageThread) : StartingServer :=
  { server with
    threads := splice server.threads position [{ place := place }] }

/-- An I/O thread at the head of its loop that has not received a datagram
while the server was running. -/
def StartingServer.awaits
    (server : StartingServer)
    (position : Nat)
    (thread : StartedThread) : Bool :=
  decide (position < server.iocpStarted) && thread.place == .idle &&
    !thread.received

/-- An I/O thread receives a datagram and finds the server running.  It does
not look at `running` again before it is back at the head of its loop. -/
def StartingServer.receive (server : StartingServer) (position : Nat) :
    Option StartingServer :=
  server.threads[position]?.bind fun thread =>
    if server.running && server.awaits position thread && !thread.ended then
      some { server with
        threads := splice server.threads position [{ received := true }] }
    else none

/-- A thread takes its next operation: an I/O thread at the head of its loop
acquires a message for the datagram that it has received, and a handler polls
the queue. -/
def StartingServer.advance
    (server : StartingServer)
    (position : Nat)
    (choice : MessageChoice) : Option StartingServer :=
  server.threads[position]?.bind fun thread =>
    let chosen :=
      { choice with receives := decide (position < server.iocpStarted) }
    if thread.ended || server.awaits position thread then none
    else
      match server.messageQueue, server.messagePool with
      | some queue, .live memory =>
          (threadAdvance
            { memory := memory, queue := queue, threads := server.places }
            chosen thread.place).map fun advanced =>
              { server.moveThread position advanced.2.2 with
                messageQueue := some advanced.2.1
                messagePool := .live advanced.1 }
      | some queue, .destroyed =>
          (orphanAdvance queue
            (server.places.any MessageThread.locksQueue) chosen
            thread.place).map fun advanced =>
              { server.moveThread position advanced.2 with
                messageQueue := some advanced.1 }
      | _, _ => none

/-- A thread at the head of its loop sees that the server is not running, and
returns. -/
def StartingServer.exit (server : StartingServer) (position : Nat) :
    Option StartingServer :=
  server.threads[position]?.bind fun thread =>
    if !server.running && thread.place == .idle && !thread.received then
      some { server with
        threads := splice server.threads position [{ ended := true }] }
    else none

/-- What happens during a start: `krs_server_start` goes on or gives up a wait,
or a thread that it has created receives a datagram, goes on or returns. -/
inductive StartEvent
  | proceed (succeeds : Bool)
  | giveUp
  | receive (thread : Nat)
  | advance (thread : Nat) (choice : MessageChoice)
  | exit (thread : Nat)
  deriving DecidableEq, Repr

/-- One step. -/
def startStep (server : StartingServer) : StartEvent -> Option StartingServer
  | .proceed succeeds => server.proceed succeeds
  | .giveUp => server.giveUp
  | .receive position => server.receive position
  | .advance position choice => server.advance position choice
  | .exit position => server.exit position

/-- A server that is not running, with the configured numbers of threads. -/
def StartingServer.start (iocpThreads handlerThreads : Nat) : StartingServer :=
  { configIocpThreads := iocpThreads
    configHandlerThreads := handlerThreads }

/-- The messages that are queued. -/
def StartingServer.queued (server : StartingServer) : List MessageRef :=
  (server.messageQueue.map MessageQueue.queued).getD []

/-! ## Destroying the queue -/

/-- Releases into a pool in use all get through. -/
theorem foldlM_release_live
    (memory : MessageMemory)
    (released messages : List MessageRef) :
    messages.foldlM ReleaseLog.release
        { cell := .live memory, released := released } =
      some
        { cell := .live (messages.foldl krsMessagePoolRelease memory)
          released := released ++ messages } := by
  induction messages generalizing memory released with
  | nil => simp
  | cons msg messages inductionHypothesis =>
      rw [List.foldlM_cons]
      have taken : ReleaseLog.release
          { cell := .live memory, released := released } msg =
            some
              { cell := .live (krsMessagePoolRelease memory msg)
                released := released ++ [msg] } := rfl
      rw [taken, Option.bind_eq_bind, Option.bind_some, inductionHypothesis,
        List.append_assoc]
      rfl

/-- In the order of `krs_server_stop`, whatever is queued is released. -/
theorem stopTearDown_live
    (memory : MessageMemory)
    (queue : MessageQueue MessageRef) :
    stopTearDown (.live memory) queue =
      some { cell := .destroyed, released := queue.queued } := by
  have emptied : (krsMessageQueueDrain queue).2.queued = [] := rfl
  have drained : (krsMessageQueueDrain queue).1 = queue.queued := rfl
  simp only [stopTearDown, drained, foldlM_release_live, Option.bind_some,
    krsMessageQueueDestroy, emptied, List.foldlM_nil, List.nil_append]
  rfl

/-! ## What a starting server holds -/

/-- The start is at label `fail` and has destroyed nothing yet. -/
def StartStage.failing : StartStage -> Bool
  | .joinHandlers => true
  | .joinIocpThreads => true
  | .destroyPool => true
  | _ => false

/-- The start has destroyed the pool. -/
def StartStage.torn : StartStage -> Bool
  | .destroyQueue => true
  | .returned => true
  | _ => false

/-- The start has obtained the pool and has not failed. -/
def StartStage.beyondPool : StartStage -> Bool
  | .completionPort => false
  | .messageQueue => false
  | .messagePool => false
  | stage => !stage.failing && !stage.torn

theorem StartStage.failing_of_beyondPool
    {stage : StartStage}
    (beyond : stage.beyondPool = true) :
    stage.failing = false := by
  cases stage with
  | joinHandlers | joinIocpThreads | destroyPool => cases beyond
  | _ => rfl

theorem StartStage.gone_of_torn
    {stage : StartStage}
    (torn : stage.torn = true) :
    stage.beyondPool = false ∧ stage.failing = false := by
  cases stage with
  | destroyQueue | returned => exact ⟨rfl, rfl⟩
  | _ => cases torn

/-- There is no queue yet; or an empty queue without a pool; or a queue and a
pool, with the threads that use them; or the pool is gone. -/
inductive StartInvariant (server : StartingServer) : Prop
  | bare
      (queueless : server.messageQueue = none)
      (poolless : server.messagePool = .absent)
      (threadless : server.threads = [])
      (stage : server.stage = .completionPort ∨
        server.stage = .messageQueue ∨ server.stage.failing = true)
  | queueOnly
      (queue : MessageQueue MessageRef)
      (found : server.messageQueue = some queue)
      (empty : queue.Holds [])
      (poolless : server.messagePool = .absent)
      (threadless : server.threads = [])
      (stage : server.stage = .messagePool ∨ server.stage.failing = true)
  | pooled
      (queue : MessageQueue MessageRef)
      (memory : MessageMemory)
      (found : server.messageQueue = some queue)
      (live : server.messagePool = .live memory)
      (accounted : MessageSystem.Accounted
        { memory := memory, queue := queue, threads := server.places })
      (cells : 0 < memory.pool.capacity)
      (stage : server.stage.beyondPool = true ∨ server.stage.failing = true)
  | torn (stage : server.stage.torn = true)

theorem StartInvariant.start (iocpThreads handlerThreads : Nat) :
    StartInvariant (.start iocpThreads handlerThreads) :=
  .bare rfl rfl rfl (.inl rfl)

/-- Stopping the queue leaves its messages. -/
theorem krsMessageQueueStop_accounted
    {memory : MessageMemory}
    {queue : MessageQueue MessageRef}
    {threads : List MessageThread}
    (accounted : MessageSystem.Accounted
      { memory := memory, queue := queue, threads := threads }) :
    MessageSystem.Accounted
      { memory := memory
        queue := krsMessageQueueStop queue
        threads := threads } := by
  obtain ⟨contents, invariant⟩ := accounted
  exact ⟨contents,
    { invariant with
      holds := invariant.holds
      room := invariant.room }⟩

/-- The step to label `fail` keeps what there is. -/
theorem StartInvariant.fail
    {server : StartingServer}
    (invariant : StartInvariant server)
    (standing : server.stage.torn = false)
    (errorCode : KronosError)
    (message : String) :
    StartInvariant (server.fail errorCode message) := by
  cases invariant with
  | bare queueless poolless threadless stage =>
      refine .bare ?_ poolless threadless (.inr (.inr rfl))
      simp [StartingServer.fail, queueless]
  | queueOnly queue found empty poolless threadless stage =>
      unfold StartingServer.fail
      split
      case isTrue handlers =>
          exact .queueOnly (krsMessageQueueStop queue)
            (congrArg (Option.map _) found) empty poolless threadless
            (.inr rfl)
      case isFalse handlers =>
          exact .queueOnly queue found empty poolless threadless (.inr rfl)
  | pooled queue memory found live accounted cells stage =>
      unfold StartingServer.fail
      split
      case isTrue handlers =>
          exact .pooled (krsMessageQueueStop queue) memory
            (congrArg (Option.map _) found) live
            (krsMessageQueueStop_accounted accounted) cells (.inr rfl)
      case isFalse handlers =>
          exact .pooled queue memory found live accounted cells (.inr rfl)
  | torn stage =>
      rw [standing] at stage
      cases stage

theorem StartInvariant.attempt
    {server next : StartingServer}
    (invariant : StartInvariant server)
    (standing : server.stage.torn = false)
    (succeeded : StartInvariant next)
    (succeeds : Bool)
    (errorCode : KronosError)
    (message : String) :
    StartInvariant (server.attempt succeeds next errorCode message) := by
  cases succeeds with
  | true => exact succeeded
  | false => exact invariant.fail standing errorCode message

/-- From where the pool is created on, there are the queue and the pool. -/
theorem StartInvariant.obtained
    {server : StartingServer}
    (invariant : StartInvariant server)
    (beyond : server.stage.beyondPool = true) :
    ∃ queue memory, server.messageQueue = some queue ∧
      server.messagePool = .live memory ∧
      MessageSystem.Accounted
        { memory := memory, queue := queue, threads := server.places } ∧
      0 < memory.pool.capacity := by
  cases invariant with
  | bare queueless poolless threadless stage =>
      obtain stage | stage | stage := stage
      · simp [stage, StartStage.beyondPool] at beyond
      · simp [stage, StartStage.beyondPool] at beyond
      · rw [StartStage.failing_of_beyondPool beyond] at stage
        cases stage
  | queueOnly queue found empty poolless threadless stage =>
      obtain stage | stage := stage
      · simp [stage, StartStage.beyondPool] at beyond
      · rw [StartStage.failing_of_beyondPool beyond] at stage
        cases stage
  | pooled queue memory found live accounted cells stage =>
      exact ⟨queue, memory, found, live, accounted, cells⟩
  | torn stage =>
      rw [(StartStage.gone_of_torn stage).1] at beyond
      cases beyond

/-- A step that leaves the queue, the pool and the threads. -/
theorem StartInvariant.moved
    {server next : StartingServer}
    (invariant : StartInvariant server)
    (beyond : server.stage.beyondPool = true)
    (sameQueue : next.messageQueue = server.messageQueue)
    (samePool : next.messagePool = server.messagePool)
    (samePlaces : next.places = server.places)
    (stage : next.stage.beyondPool = true) :
    StartInvariant next := by
  obtain ⟨queue, memory, found, live, accounted, cells⟩ :=
    invariant.obtained beyond
  rw [← samePlaces] at accounted
  exact .pooled queue memory (sameQueue.trans found) (samePool.trans live)
    accounted cells (.inl stage)

/-- A new thread is at the head of its loop. -/
theorem StartInvariant.spawned
    {server next : StartingServer}
    (invariant : StartInvariant server)
    (beyond : server.stage.beyondPool = true)
    (sameQueue : next.messageQueue = server.messageQueue)
    (samePool : next.messagePool = server.messagePool)
    (threads : next.threads = server.threads ++ [({} : StartedThread)])
    (stage : next.stage = server.stage) :
    StartInvariant next := by
  obtain ⟨queue, memory, found, live, ⟨contents, accounted⟩, cells⟩ :=
    invariant.obtained beyond
  have perm : (MessageThread.idle :: server.places).Perm next.places := by
    rw [StartingServer.places, StartingServer.places, threads,
      List.map_append]
    exact (List.perm_append_singleton _ _).symm
  have grown := (messageInvariant_idle_cons.mpr accounted).perm perm
  rw [← stage] at beyond
  exact .pooled queue memory (sameQueue.trans found) (samePool.trans live)
    ⟨contents, grown⟩ cells (.inl beyond)

/-- Label `fail` goes on after a wait, with the threads as they are. -/
theorem StartInvariant.waited
    {server next : StartingServer}
    (invariant : StartInvariant server)
    (failing : server.stage.failing = true)
    (sameQueue : next.messageQueue = server.messageQueue)
    (samePool : next.messagePool = server.messagePool)
    (sameThreads : next.threads = server.threads)
    (stage : next.stage.failing = true) :
    StartInvariant next := by
  cases invariant with
  | bare queueless poolless threadless before =>
      exact .bare (sameQueue.trans queueless) (samePool.trans poolless)
        (sameThreads.trans threadless) (.inr (.inr stage))
  | queueOnly queue found empty poolless threadless before =>
      exact .queueOnly queue (sameQueue.trans found) empty
        (samePool.trans poolless) (sameThreads.trans threadless) (.inr stage)
  | pooled queue memory found live accounted cells before =>
      refine .pooled queue memory (sameQueue.trans found)
        (samePool.trans live) ?_ cells (.inr stage)
      rw [StartingServer.places, sameThreads]
      exact accounted
  | torn before =>
      rw [(StartStage.gone_of_torn before).2] at failing
      cases failing

/-- One step of `krs_server_start`. -/
theorem proceed_startInvariant
    {server after : StartingServer}
    {succeeds : Bool}
    (invariant : StartInvariant server)
    (step : server.proceed succeeds = some after) :
    StartInvariant after := by
  cases stage : server.stage with
  | completionPort =>
      simp only [StartingServer.proceed, stage, Option.some.injEq] at step
      rw [← step]
      apply invariant.attempt (by rw [stage]; rfl)
      cases invariant with
      | bare queueless poolless threadless before =>
          exact .bare queueless poolless threadless (.inr (.inl rfl))
      | queueOnly queue found empty poolless threadless before =>
          simp [stage, StartStage.failing] at before
      | pooled queue memory found live accounted cells before =>
          simp [stage, StartStage.beyondPool, StartStage.failing] at before
      | torn before => simp [stage, StartStage.torn] at before
  | messageQueue =>
      simp only [StartingServer.proceed, stage, Option.some.injEq] at step
      rw [← step]
      apply invariant.attempt (by rw [stage]; rfl)
      cases invariant with
      | bare queueless poolless threadless before =>
          exact .queueOnly _ rfl (krsMessageQueueCreate_holds 256) poolless
            threadless (.inl rfl)
      | queueOnly queue found empty poolless threadless before =>
          simp [stage, StartStage.failing] at before
      | pooled queue memory found live accounted cells before =>
          simp [stage, StartStage.beyondPool, StartStage.failing] at before
      | torn before => simp [stage, StartStage.torn] at before
  | messagePool =>
      simp only [StartingServer.proceed, stage, Option.some.injEq] at step
      rw [← step]
      apply invariant.attempt (by rw [stage]; rfl)
      cases invariant with
      | bare queueless poolless threadless before =>
          simp [stage, StartStage.failing] at before
      | queueOnly queue found empty poolless threadless before =>
          have idle : server.places.all (· == .idle) = true := by
            rw [StartingServer.places, threadless]
            rfl
          exact .pooled queue _ found rfl ⟨[], .created 1024 empty idle⟩
            (by decide) (.inl rfl)
      | pooled queue memory found live accounted cells before =>
          simp [stage, StartStage.beyondPool, StartStage.failing] at before
      | torn before => simp [stage, StartStage.torn] at before
  | connectionMap | iocpThreadArray | handlerThreadArray
  | retransmitThread =>
      have beyond : server.stage.beyondPool = true := by rw [stage]; rfl
      simp only [StartingServer.proceed, stage, Option.some.injEq] at step
      rw [← step]
      apply invariant.attempt (by rw [stage]; rfl)
      exact invariant.moved beyond rfl rfl rfl rfl
  | iocpThreads | handlerThreads =>
      have beyond : server.stage.beyondPool = true := by rw [stage]; rfl
      simp only [StartingServer.proceed, stage] at step
      split at step
      case isTrue more =>
          cases step
          apply invariant.attempt (by rw [stage]; rfl)
          exact invariant.spawned beyond rfl rfl rfl stage.symm
      case isFalse all =>
          cases step
          exact invariant.moved beyond rfl rfl rfl rfl
  | joinHandlers | joinIocpThreads =>
      simp only [StartingServer.proceed, stage] at step
      split at step
      case isTrue ended =>
          cases step
          exact invariant.waited (by rw [stage]; rfl) rfl rfl rfl rfl
      case isFalse busy => cases step
  | destroyPool =>
      simp only [StartingServer.proceed, stage, Option.some.injEq] at step
      rw [← step]
      exact .torn rfl
  | destroyQueue =>
      simp only [StartingServer.proceed, stage] at step
      split at step
      case h_1 =>
          cases step
          exact .torn rfl
      case h_2 =>
          obtain ⟨log, released, rfl⟩ := Option.map_eq_some_iff.mp step
          exact .torn rfl
  | started | returned =>
      simp [StartingServer.proceed, stage] at step

/-- The waits that are given up. -/
theorem giveUp_startInvariant
    {server after : StartingServer}
    (invariant : StartInvariant server)
    (step : server.giveUp = some after) :
    StartInvariant after := by
  unfold StartingServer.giveUp at step
  split at step
  case h_1 stage =>
      cases step
      exact invariant.waited (by rw [stage]; rfl) rfl rfl rfl rfl
  case h_2 stage =>
      cases step
      exact invariant.waited (by rw [stage]; rfl) rfl rfl rfl rfl
  case h_3 => cases step

/-- A thread leaves the size of the storage. -/
theorem threadAdvance_capacity
    {system : MessageSystem}
    {choice : MessageChoice}
    {thread after : MessageThread}
    {memory : MessageMemory}
    {queue : MessageQueue MessageRef}
    (advanced : threadAdvance system choice thread =
      some (memory, queue, after)) :
    memory.pool.capacity = system.memory.pool.capacity := by
  cases thread with
  | idle =>
      simp only [threadAdvance] at advanced
      split at advanced
      case isTrue =>
          split at advanced <;> (cases advanced; rfl)
      case isFalse =>
          split at advanced
          case isTrue => cases advanced
          case isFalse => cases advanced; rfl
  | counted =>
      simp only [threadAdvance] at advanced
      split at advanced
      case h_1 => cases advanced; rfl
      case h_2 =>
          split at advanced
          case isTrue => cases advanced
          case isFalse => cases advanced; rfl
  | acquired msg =>
      simp only [threadAdvance] at advanced
      split at advanced
      case isTrue => cases advanced
      case isFalse => cases advanced; rfl
  | releasing msg pushing =>
      cases msg <;> (cases advanced; rfl)
  | exhausted | overLimit | unallocated | popped | routing | uncounting
  | storing => cases advanced; rfl

/-- The places after an operation of a thread. -/
theorem moveThread_places
    (server : StartingServer)
    (position : Nat)
    (place : MessageThread) :
    (server.moveThread position place).places =
      splice server.places position [place] :=
  map_splice StartedThread.place server.threads position _

/-- One operation of a thread is one of the message pool's threads, or the pool
is gone. -/
theorem advance_cases
    {server after : StartingServer}
    {position : Nat}
    {choice : MessageChoice}
    (step : server.advance position choice = some after) :
    ∃ thread queue place, server.threads[position]? = some thread ∧
      (thread.ended || server.awaits position thread) = false ∧
      server.messageQueue = some queue ∧
      let chosen :=
        { choice with receives := decide (position < server.iocpStarted) }
      ((∃ memory advanced, server.messagePool = .live memory ∧
        threadAdvance
          { memory := memory, queue := queue, threads := server.places }
          chosen thread.place = some (advanced, place) ∧
        after =
          { server.moveThread position place.2 with
            messageQueue := some place.1
            messagePool := .live advanced }) ∨
      server.messagePool = .destroyed ∧
        orphanAdvance queue (server.places.any MessageThread.locksQueue)
          chosen thread.place = some place ∧
        after =
          { server.moveThread position place.2 with
            messageQueue := some place.1 }) := by
  obtain ⟨thread, found, taken⟩ := Option.bind_eq_some_iff.mp step
  cases away : thread.ended || server.awaits position thread with
  | true =>
      dsimp only at taken
      rw [if_pos away] at taken
      cases taken
  | false =>
      dsimp only at taken
      rw [if_neg (Bool.eq_false_iff.mp away)] at taken
      split at taken
      case h_1 queue memory found' live =>
          obtain ⟨⟨advanced, place⟩, moved, rfl⟩ :=
            Option.map_eq_some_iff.mp taken
          exact ⟨thread, queue, place, found, away, found',
            .inl ⟨memory, advanced, live, moved, rfl⟩⟩
      case h_2 queue found' gone =>
          obtain ⟨place, moved, rfl⟩ := Option.map_eq_some_iff.mp taken
          exact ⟨thread, queue, place, found, away, found',
            .inr ⟨gone, moved, rfl⟩⟩
      case h_3 => cases taken

/-- One operation of a thread. -/
theorem advance_startInvariant
    {server after : StartingServer}
    {position : Nat}
    {choice : MessageChoice}
    (invariant : StartInvariant server)
    (step : server.advance position choice = some after) :
    StartInvariant after := by
  obtain ⟨thread, queue, place, found, -, held,
    ⟨memory, advanced, live, moved, rfl⟩ | ⟨gone, -, rfl⟩⟩ :=
      advance_cases step
  · cases invariant with
    | bare queueless poolless threadless stage =>
        rw [threadless] at found
        cases found
    | queueOnly queue other empty poolless threadless stage =>
        rw [threadless] at found
        cases found
    | pooled queue' memory' held' live' accounted cells stage =>
        cases held.symm.trans held'
        cases live.symm.trans live'
        have placed : server.places[position]? = some thread.place := by
          rw [StartingServer.places, List.getElem?_map, found]
          rfl
        have taken : messageStep
            { memory := memory, queue := queue, threads := server.places }
            (.advance position
              { choice with
                receives := decide (position < server.iocpStarted) }) = some
              { memory := advanced
                queue := place.1
                threads := splice server.places position [place.2] } := by
          rw [messageStep, placed, Option.bind_some, moved]
          rfl
        refine .pooled place.1 advanced rfl rfl ?_ ?_ stage
        · have kept := messageStep_accounted accounted taken
          rw [← moveThread_places] at kept
          exact kept
        · rw [threadAdvance_capacity moved]
          exact cells
    | torn stage => exact .torn stage
  · cases invariant with
    | bare queueless poolless threadless stage =>
        rw [threadless] at found
        cases found
    | queueOnly queue other empty poolless threadless stage =>
        rw [threadless] at found
        cases found
    | pooled queue' memory' held' live' accounted cells stage =>
        rw [gone] at live'
        cases live'
    | torn stage => exact .torn stage

/-- A thread that receives a datagram is an I/O thread at the head of its
loop. -/
theorem receive_cases
    {server after : StartingServer}
    {position : Nat}
    (step : server.receive position = some after) :
    ∃ thread, server.threads[position]? = some thread ∧
      thread.place = .idle ∧ server.running = true ∧
      position < server.iocpStarted ∧
      after = { server with
        threads :=
          splice server.threads position [{ received := true }] } := by
  obtain ⟨thread, found, taken⟩ := Option.bind_eq_some_iff.mp step
  split at taken
  case isTrue receives =>
      simp only [StartingServer.awaits, Bool.and_eq_true,
        decide_eq_true_eq] at receives
      cases taken
      exact ⟨thread, found, eq_of_beq receives.1.2.1.2, receives.1.1,
        receives.1.2.1.1, rfl⟩
  case isFalse => cases taken

/-- A thread that returns was at the head of its loop. -/
theorem exit_cases
    {server after : StartingServer}
    {position : Nat}
    (step : server.exit position = some after) :
    ∃ thread, server.threads[position]? = some thread ∧
      thread.place = .idle ∧
      after = { server with
        threads := splice server.threads position [{ ended := true }] } := by
  obtain ⟨thread, found, taken⟩ := Option.bind_eq_some_iff.mp step
  split at taken
  case isTrue returns =>
      simp only [Bool.and_eq_true] at returns
      cases taken
      exact ⟨thread, found, eq_of_beq returns.1.2, rfl⟩
  case isFalse => cases taken

/-- A thread at the head of its loop, as it was or with another flag. -/
theorem splice_places
    {server : StartingServer}
    {position : Nat}
    {before next : StartedThread}
    (found : server.threads[position]? = some before)
    (head : before.place = .idle)
    (stays : next.place = .idle) :
    (splice server.threads position [next]).map StartedThread.place =
      server.places := by
  have placed : server.places[position]? = some .idle := by
    rw [StartingServer.places, List.getElem?_map, found, ← head]
    rfl
  obtain ⟨inside, same⟩ := List.getElem?_eq_some_iff.mp placed
  rw [map_splice, List.map_cons, List.map_nil, stays,
    ← StartingServer.places, splice_singleton placed, ← same,
    List.set_getElem_self]

/-- A thread that stays at the head of its loop. -/
theorem StartInvariant.flagged
    {server : StartingServer}
    (invariant : StartInvariant server)
    {position : Nat}
    {before next : StartedThread}
    (found : server.threads[position]? = some before)
    (head : before.place = .idle)
    (stays : next.place = .idle) :
    StartInvariant { server with
      threads := splice server.threads position [next] } := by
  cases invariant with
  | bare queueless poolless threadless stage =>
      rw [threadless] at found
      cases found
  | queueOnly queue other empty poolless threadless stage =>
      rw [threadless] at found
      cases found
  | pooled queue memory held live accounted cells stage =>
      refine .pooled queue memory held live ?_ cells stage
      rw [StartingServer.places, splice_places found head stays]
      exact accounted
  | torn stage => exact .torn stage

theorem startStep_startInvariant
    {server after : StartingServer}
    {event : StartEvent}
    (invariant : StartInvariant server)
    (step : startStep server event = some after) :
    StartInvariant after := by
  cases event with
  | proceed succeeds => exact proceed_startInvariant invariant step
  | giveUp => exact giveUp_startInvariant invariant step
  | receive position =>
      obtain ⟨thread, found, head, -, -, rfl⟩ := receive_cases step
      exact invariant.flagged found head rfl
  | advance position choice => exact advance_startInvariant invariant step
  | exit position =>
      obtain ⟨thread, found, head, rfl⟩ := exit_cases step
      exact invariant.flagged found head rfl

theorem startInvariant_of_run
    {iocpThreads handlerThreads : Nat}
    {events : List StartEvent}
    {server : StartingServer}
    (reached : run startStep (.start iocpThreads handlerThreads) events =
      some server) :
    StartInvariant server :=
  run_invariant (fun _ _ _ => startStep_startInvariant)
    (StartInvariant.start iocpThreads handlerThreads) reached

/-- From label `fail` on, the server is not running. -/
def StartingServer.Stopped (server : StartingServer) : Prop :=
  server.stage.failing = true ∨ server.stage.torn = true ->
    server.running = false

/-- A stage at which a server may run. -/
theorem StartingServer.Stopped.of_standing
    {server : StartingServer}
    (standing : server.stage.failing = false)
    (whole : server.stage.torn = false) :
    server.Stopped := by
  rintro (failing | torn)
  · rw [standing] at failing
    cases failing
  · rw [whole] at torn
    cases torn

theorem StartingServer.Stopped.attempt
    {next : StartingServer}
    (stopped : next.Stopped)
    (server : StartingServer)
    (succeeds : Bool)
    (errorCode : KronosError)
    (message : String) :
    (server.attempt succeeds next errorCode message).Stopped := by
  cases succeeds with
  | true => exact stopped
  | false => exact fun _ => rfl

theorem proceed_stopped
    {server after : StartingServer}
    {succeeds : Bool}
    (stopped : server.Stopped)
    (step : server.proceed succeeds = some after) :
    after.Stopped := by
  cases stage : server.stage with
  | completionPort | messageQueue | messagePool | connectionMap
  | iocpThreadArray | handlerThreadArray | retransmitThread =>
      simp only [StartingServer.proceed, stage, Option.some.injEq] at step
      rw [← step]
      exact (StartingServer.Stopped.of_standing rfl rfl).attempt _ _ _ _
  | iocpThreads | handlerThreads =>
      simp only [StartingServer.proceed, stage] at step
      split at step
      case isTrue =>
          cases step
          exact (StartingServer.Stopped.of_standing rfl rfl).attempt _ _ _ _
      case isFalse =>
          cases step
          exact .of_standing rfl rfl
  | joinHandlers | joinIocpThreads =>
      simp only [StartingServer.proceed, stage] at step
      split at step
      case isTrue =>
          cases step
          exact fun _ => stopped (.inl (by rw [stage]; rfl))
      case isFalse => cases step
  | destroyPool =>
      simp only [StartingServer.proceed, stage, Option.some.injEq] at step
      rw [← step]
      exact fun _ => stopped (.inl (by rw [stage]; rfl))
  | destroyQueue =>
      simp only [StartingServer.proceed, stage] at step
      split at step
      case h_1 =>
          cases step
          exact fun _ => stopped (.inr (by rw [stage]; rfl))
      case h_2 =>
          obtain ⟨log, released, rfl⟩ := Option.map_eq_some_iff.mp step
          exact fun _ => stopped (.inr (by rw [stage]; rfl))
  | started | returned =>
      simp [StartingServer.proceed, stage] at step

theorem startStep_stopped
    {server after : StartingServer}
    {event : StartEvent}
    (stopped : server.Stopped)
    (step : startStep server event = some after) :
    after.Stopped := by
  cases event with
  | proceed succeeds => exact proceed_stopped stopped step
  | giveUp =>
      simp only [startStep, StartingServer.giveUp] at step
      split at step
      case h_1 stage =>
          cases step
          exact fun _ => stopped (.inl (by rw [stage]; rfl))
      case h_2 stage =>
          cases step
          exact fun _ => stopped (.inl (by rw [stage]; rfl))
      case h_3 => cases step
  | receive position =>
      obtain ⟨thread, -, -, -, -, rfl⟩ := receive_cases step
      exact stopped
  | advance position choice =>
      obtain ⟨thread, queue, place, -, -, -,
        ⟨memory, advanced, -, -, rfl⟩ | ⟨-, -, rfl⟩⟩ := advance_cases step
      · exact stopped
      · exact stopped
  | exit position =>
      obtain ⟨thread, -, -, rfl⟩ := exit_cases step
      exact stopped

theorem stopped_of_run
    {iocpThreads handlerThreads : Nat}
    {events : List StartEvent}
    {server : StartingServer}
    (reached : run startStep (.start iocpThreads handlerThreads) events =
      some server) :
    server.Stopped :=
  run_invariant (fun _ _ _ => startStep_stopped)
    (.of_standing rfl rfl) reached

end Kronos
