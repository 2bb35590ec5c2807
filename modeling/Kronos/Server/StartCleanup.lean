import Kronos.Server.StartFailure

/-!
# The cleanup of a failed start

Label `fail` destroys the pool before the queue, and it may do so while threads
are left.  What is queued then is released into the pool that is gone, and so
is what an I/O thread queues in between or a handler still has.  The cleanup is
safe exactly where none of this can happen any more.
-/

namespace Kronos

open Library

/-! ## What the cleanup has to do, and when it does -/

/-- The thread is inside `krs_message_pool_release`: its next operation is to
release a message, or to count the block that it has freed. -/
def MessageThread.releases : MessageThread -> Bool
  | .releasing _ _ => true
  | .uncounting _ => true
  | _ => false

/-- The thread is done with every message and gets none before it is back at
the head of its loop: it is there, or it gives up the acquisition of a
message. -/
def MessageThread.resting : MessageThread -> Bool
  | .idle => true
  | .overLimit => true
  | .unallocated => true
  | _ => false

/-- The thread rests, and has received no datagram. -/
def StartedThread.resting (thread : StartedThread) : Bool :=
  thread.place.resting && !thread.received

namespace StartingServer

/-- A release goes into the pool that was destroyed: the next one, of a message
in the queue, which is destroyed next, or that of a thread. -/
def ReleasesLate (server : StartingServer) : Prop :=
  server.messagePool = .destroyed ∧
    (server.stage = .destroyQueue ∧ server.queued ≠ [] ∨
      ∃ thread ∈ server.threads, thread.place.releases = true)

/-- The cleanup can get through.  Whatever the threads that are left do, no
message is released into a pool that was destroyed, and each message that was
queued has been released once when `krs_server_start` returns. -/
def ReleasesQueued (server : StartingServer) : Prop :=
  (∃ events final, run startStep server events = some final ∧
    final.stage = .returned) ∧
  ∀ events final, run startStep server events = some final ->
    ¬ final.ReleasesLate ∧
      (final.stage = .returned ->
        ∀ msg ∈ server.queued, final.released.count msg = 1)

/-- No message is queued, and no thread has a message or gets one: a thread
that is left ends, without another datagram, when it looks at `running`. -/
structure AllHandled (server : StartingServer) : Prop where
  queue : server.queued = []
  threads : ∀ thread ∈ server.threads, thread.resting = true

instance (server : StartingServer) : Decidable server.AllHandled :=
  decidable_of_iff
    (server.queued = [] ∧ ∀ thread ∈ server.threads, thread.resting = true)
    ⟨fun ⟨queue, threads⟩ => ⟨queue, threads⟩,
      fun ⟨queue, threads⟩ => ⟨queue, threads⟩⟩

end StartingServer

/-! ## Where threads can be -/

/-- A thread that has returned was at the head of its loop, and one that has
received a datagram is an I/O thread there. -/
structure ThreadRoles (server : StartingServer) : Prop where
  returned : ∀ thread ∈ server.threads,
    thread.ended = true -> thread.place = .idle ∧ thread.received = false
  receivers : ∀ position thread, server.threads[position]? = some thread ->
    thread.received = true ->
      thread.place = .idle ∧ position < server.iocpStarted

/-- `krs_server_start` leaves the threads, or creates one. -/
theorem proceed_threads
    {server after : StartingServer}
    {succeeds : Bool}
    (step : server.proceed succeeds = some after) :
    (after.threads = server.threads ∧
        after.iocpStarted = server.iocpStarted) ∨
      after.threads = server.threads ++ [({} : StartedThread)] ∧
        server.iocpStarted ≤ after.iocpStarted := by
  have attempted
      (next : StartingServer)
      (errorCode : KronosError)
      (message : String)
      (same : next.threads = server.threads ∧
          next.iocpStarted = server.iocpStarted ∨
        next.threads = server.threads ++ [({} : StartedThread)] ∧
          server.iocpStarted ≤ next.iocpStarted) :
      let tried := server.attempt succeeds next errorCode message
      tried.threads = server.threads ∧
          tried.iocpStarted = server.iocpStarted ∨
        tried.threads = server.threads ++ [({} : StartedThread)] ∧
          server.iocpStarted ≤ tried.iocpStarted := by
    cases succeeds with
    | true => exact same
    | false => exact .inl ⟨rfl, rfl⟩
  cases stage : server.stage with
  | completionPort | messageQueue | messagePool | connectionMap
  | iocpThreadArray | handlerThreadArray | retransmitThread =>
      simp only [StartingServer.proceed, stage, Option.some.injEq] at step
      rw [← step]
      exact attempted _ _ _ (.inl ⟨rfl, rfl⟩)
  | iocpThreads | handlerThreads =>
      simp only [StartingServer.proceed, stage] at step
      split at step
      case isTrue =>
          cases step
          exact attempted _ _ _ (.inr ⟨rfl, by simp⟩)
      case isFalse =>
          cases step
          exact .inl ⟨rfl, rfl⟩
  | joinHandlers | joinIocpThreads =>
      simp only [StartingServer.proceed, stage] at step
      split at step
      case isTrue =>
          cases step
          exact .inl ⟨rfl, rfl⟩
      case isFalse => cases step
  | destroyPool =>
      simp only [StartingServer.proceed, stage, Option.some.injEq] at step
      rw [← step]
      exact .inl ⟨rfl, rfl⟩
  | destroyQueue =>
      simp only [StartingServer.proceed, stage] at step
      split at step
      case h_1 =>
          cases step
          exact .inl ⟨rfl, rfl⟩
      case h_2 =>
          obtain ⟨log, released, rfl⟩ := Option.map_eq_some_iff.mp step
          exact .inl ⟨rfl, rfl⟩
  | started | returned =>
      simp [StartingServer.proceed, stage] at step

/-- One thread goes on. -/
theorem ThreadRoles.splice
    {server after : StartingServer}
    (roles : ThreadRoles server)
    {position : Nat}
    {before next : StartedThread}
    (found : server.threads[position]? = some before)
    (threads : after.threads = splice server.threads position [next])
    (iocp : after.iocpStarted = server.iocpStarted)
    (returned : next.ended = true ->
      next.place = .idle ∧ next.received = false)
    (receives : next.received = true ->
      next.place = .idle ∧ position < server.iocpStarted) :
    ThreadRoles after := by
  rw [splice_singleton found] at threads
  constructor
  · rw [threads]
    intro thread member ended
    rcases List.mem_or_eq_of_mem_set member with earlier | rfl
    · exact roles.returned thread earlier ended
    · exact returned ended
  · intro other thread read received
    rw [threads, List.getElem?_set] at read
    rw [iocp]
    split at read
    case isTrue same =>
        subst same
        split at read
        case isTrue =>
            cases read
            exact receives received
        case isFalse => cases read
    case isFalse => exact roles.receivers other thread read received

theorem ThreadRoles.step
    {server after : StartingServer}
    {event : StartEvent}
    (roles : ThreadRoles server)
    (step : startStep server event = some after) :
    ThreadRoles after := by
  cases event with
  | proceed succeeds =>
      rcases proceed_threads step with ⟨same, iocp⟩ | ⟨more, iocp⟩
      · constructor
        · rw [same]
          exact roles.returned
        · rw [same, iocp]
          exact roles.receivers
      · constructor
        · rw [more]
          intro thread member ended
          rcases List.mem_append.mp member with earlier | new
          · exact roles.returned thread earlier ended
          · rw [List.mem_singleton.mp new]
            exact ⟨rfl, rfl⟩
        · intro position thread read received
          rw [more, List.getElem?_append] at read
          split at read
          case isTrue =>
              obtain ⟨head, inside⟩ :=
                roles.receivers position thread read received
              exact ⟨head, Nat.lt_of_lt_of_le inside iocp⟩
          case isFalse =>
              have new := List.mem_of_getElem? read
              rw [List.mem_singleton.mp new] at received
              cases received
  | giveUp =>
      simp only [startStep, StartingServer.giveUp] at step
      split at step <;> cases step <;>
        exact ⟨roles.returned, roles.receivers⟩
  | receive position =>
      obtain ⟨thread, found, -, -, inside, rfl⟩ := receive_cases step
      exact roles.splice found rfl rfl (fun ended => by cases ended)
        fun _ => ⟨rfl, inside⟩
  | advance position choice =>
      obtain ⟨thread, queue, place, found, -, -,
        ⟨memory, advanced, -, -, rfl⟩ | ⟨-, -, rfl⟩⟩ := advance_cases step
      · exact roles.splice found rfl rfl (fun ended => by cases ended)
          fun received => by cases received
      · exact roles.splice found rfl rfl (fun ended => by cases ended)
          fun received => by cases received
  | exit position =>
      obtain ⟨thread, found, -, rfl⟩ := exit_cases step
      exact roles.splice found rfl rfl (fun _ => ⟨rfl, rfl⟩)
        fun received => by cases received

theorem ThreadRoles.start (iocpThreads handlerThreads : Nat) :
    ThreadRoles (.start iocpThreads handlerThreads) := by
  constructor
  · intro thread member
    cases member
  · intro position thread read
    simp [StartingServer.start] at read

theorem ThreadRoles.of_run
    {iocpThreads handlerThreads : Nat}
    {events : List StartEvent}
    {server : StartingServer}
    (reached : run startStep (.start iocpThreads handlerThreads) events =
      some server) :
    ThreadRoles server :=
  run_invariant (fun _ _ _ here => here.step)
    (ThreadRoles.start iocpThreads handlerThreads) reached

theorem MessageQueue.queued_eq
    {queue : MessageQueue MessageRef}
    {contents : List MessageRef}
    (holds : queue.Holds contents) :
    queue.queued = contents :=
  holds.filterMap_cellAt

/-! ## Where everything is handled -/

/-- The cleanup is under way, nothing is queued, and no thread has a message or
gets one. -/
structure NothingLeft (server : StartingServer) : Prop where
  stage : server.stage = .destroyPool ∨ server.stage.torn = true
  stopped : server.running = false
  queue : ∀ queue, server.messageQueue = some queue -> queue.Holds []
  resting : ∀ thread ∈ server.threads, thread.resting = true

theorem StartInvariant.queue_holds
    {server : StartingServer}
    (invariant : StartInvariant server)
    (stage : server.stage = .destroyPool)
    (empty : server.queued = [])
    {queue : MessageQueue MessageRef}
    (held : server.messageQueue = some queue) :
    queue.Holds [] := by
  cases invariant with
  | bare queueless poolless threadless before =>
      rw [held] at queueless
      cases queueless
  | queueOnly other found holds poolless threadless before =>
      cases held.symm.trans found
      exact holds
  | pooled other memory found live accounted cells before =>
      cases held.symm.trans found
      obtain ⟨contents, accounted⟩ := accounted
      have same : contents = [] := by
        rw [← MessageQueue.queued_eq accounted.holds, ← empty,
          StartingServer.queued, held]
        rfl
      rw [← same]
      exact accounted.holds
  | torn torn =>
      rw [stage] at torn
      cases torn

theorem NothingLeft.of_allHandled
    {server : StartingServer}
    (invariant : StartInvariant server)
    (stopped : server.Stopped)
    (stage : server.stage = .destroyPool)
    (handled : server.AllHandled) :
    NothingLeft server where
  stage := .inl stage
  stopped := stopped (.inl (by rw [stage]; rfl))
  queue := fun _ held => invariant.queue_holds stage handled.queue held
  resting := handled.threads

/-- A thread that rests finds the queue empty and goes on resting. -/
theorem threadAdvance_resting
    {system : MessageSystem}
    {choice : MessageChoice}
    {thread after : MessageThread}
    {memory : MessageMemory}
    {queue : MessageQueue MessageRef}
    (holds : system.queue.Holds [])
    (polls : thread = .idle -> choice.receives = false)
    (resting : thread.resting = true)
    (advanced : threadAdvance system choice thread =
      some (memory, queue, after)) :
    queue = system.queue ∧ after = .idle := by
  cases thread with
  | idle =>
      simp only [threadAdvance, polls rfl, Bool.false_eq_true, if_false,
        krsMessageQueuePop_nil holds] at advanced
      split at advanced
      case isTrue => cases advanced
      case isFalse => cases advanced; exact ⟨rfl, rfl⟩
  | overLimit | unallocated => cases advanced; exact ⟨rfl, rfl⟩
  | exhausted | counted | acquired | popped | routing | releasing
  | uncounting | storing => cases resting

theorem orphanAdvance_resting
    {queue after : MessageQueue MessageRef}
    {locked : Bool}
    {choice : MessageChoice}
    {thread next : MessageThread}
    (holds : queue.Holds [])
    (polls : thread = .idle -> choice.receives = false)
    (resting : thread.resting = true)
    (advanced : orphanAdvance queue locked choice thread =
      some (after, next)) :
    after = queue ∧ next = .idle := by
  cases thread with
  | idle =>
      simp only [orphanAdvance, polls rfl, Bool.false_eq_true, if_false,
        krsMessageQueuePop_nil holds] at advanced
      split at advanced
      case isTrue => cases advanced
      case isFalse => cases advanced; exact ⟨rfl, rfl⟩
  | overLimit | unallocated => cases advanced
  | exhausted | counted | acquired | popped | routing | releasing
  | uncounting | storing => cases resting

/-- One thread goes on, to the head of its loop. -/
theorem NothingLeft.splice
    {server after : StartingServer}
    (nothing : NothingLeft server)
    {position : Nat}
    {before next : StartedThread}
    (found : server.threads[position]? = some before)
    (threads : after.threads = splice server.threads position [next])
    (stage : after.stage = server.stage)
    (running : after.running = server.running)
    (queue : ∀ queue, after.messageQueue = some queue -> queue.Holds [])
    (rests : next.resting = true) :
    NothingLeft after := by
  rw [splice_singleton found] at threads
  refine ⟨by rw [stage]; exact nothing.stage,
    running.trans nothing.stopped, queue, ?_⟩
  rw [threads]
  intro thread member
  rcases List.mem_or_eq_of_mem_set member with earlier | rfl
  · exact nothing.resting thread earlier
  · exact rests

theorem NothingLeft.step
    {server after : StartingServer}
    {event : StartEvent}
    (nothing : NothingLeft server)
    (step : startStep server event = some after) :
    NothingLeft after := by
  cases event with
  | proceed succeeds =>
      simp only [startStep] at step
      rcases nothing.stage with stage | torn
      · simp only [StartingServer.proceed, stage, Option.some.injEq] at step
        rw [← step]
        exact { nothing with stage := .inr rfl }
      · cases stage : server.stage with
        | destroyQueue =>
            simp only [StartingServer.proceed, stage] at step
            split at step
            case h_1 =>
                cases step
                exact { nothing with stage := .inr rfl }
            case h_2 =>
                obtain ⟨log, released, rfl⟩ := Option.map_eq_some_iff.mp step
                refine { nothing with stage := .inr rfl, queue := ?_ }
                intro _ held
                cases held
        | returned => simp [StartingServer.proceed, stage] at step
        | _ =>
            rw [stage] at torn
            cases torn
  | giveUp =>
      simp only [startStep, StartingServer.giveUp] at step
      rcases nothing.stage with stage | torn
      · simp [stage] at step
      · split at step
        case h_1 stage =>
            rw [stage] at torn
            cases torn
        case h_2 stage =>
            rw [stage] at torn
            cases torn
        case h_3 => cases step
  | receive position =>
      obtain ⟨thread, -, -, running, -, -⟩ := receive_cases step
      rw [nothing.stopped] at running
      cases running
  | advance position choice =>
      obtain ⟨thread, queue, place, found, present, held,
        ⟨memory, advanced, live, moved, rfl⟩ | ⟨gone, moved, rfl⟩⟩ :=
          advance_cases step
      all_goals
        have holds := nothing.queue queue held
        have resting := nothing.resting thread (List.mem_of_getElem? found)
        rw [StartedThread.resting, Bool.and_eq_true,
          Bool.not_eq_true'] at resting
        have polls (head : thread.place = .idle) :
            decide (position < server.iocpStarted) = false := by
          simp only [StartingServer.awaits, head, resting.2, BEq.rfl,
            Bool.not_false, Bool.and_true, Bool.or_eq_false_iff] at present
          exact present.2
      · obtain ⟨same, head⟩ := threadAdvance_resting holds polls
          resting.1 moved
        refine nothing.splice found rfl rfl rfl ?_ ?_
        · rintro _ ⟨⟩
          rw [same]
          exact holds
        · rw [head]
          rfl
      · obtain ⟨same, head⟩ := orphanAdvance_resting holds polls
          resting.1 moved
        refine nothing.splice found rfl rfl rfl ?_ ?_
        · rintro _ ⟨⟩
          rw [same]
          exact holds
        · rw [head]
          rfl
  | exit position =>
      obtain ⟨thread, found, head, rfl⟩ := exit_cases step
      exact nothing.splice found rfl rfl rfl nothing.queue rfl

theorem NothingLeft.not_releasesLate
    {server : StartingServer}
    (nothing : NothingLeft server) :
    ¬ server.ReleasesLate := by
  rintro ⟨-, ⟨-, filled⟩ | ⟨thread, member, releases⟩⟩
  · apply filled
    unfold StartingServer.queued
    cases held : server.messageQueue with
    | none => rfl
    | some queue => exact MessageQueue.queued_eq (nothing.queue queue held)
  · have resting := nothing.resting thread member
    cases place : thread.place with
    | releasing | uncounting =>
        rw [StartedThread.resting, place] at resting
        cases resting
    | _ =>
        rw [place] at releases
        cases releases

/-- The cleanup gets through where nothing is queued. -/
theorem NothingLeft.returns
    {server : StartingServer}
    (nothing : NothingLeft server)
    (stage : server.stage = .destroyPool) :
    ∃ events final, run startStep server events = some final ∧
      final.stage = .returned := by
  refine ⟨[.proceed true, .proceed true], ?_⟩
  simp only [run_cons, startStep, StartingServer.proceed, stage,
    Option.bind_some]
  cases held : server.messageQueue with
  | none => exact ⟨_, rfl, rfl⟩
  | some queue =>
      dsimp only
      rw [krsMessageQueueDestroy,
        MessageQueue.queued_eq (nothing.queue queue held)]
      exact ⟨_, rfl, rfl⟩

/-! ## Where something is left -/

/-- The server can get to a late release. -/
def ReleasesLateLater (server : StartingServer) : Prop :=
  ∃ events final, run startStep server events = some final ∧
    final.ReleasesLate

theorem ReleasesLateLater.of_step
    {server next : StartingServer}
    {event : StartEvent}
    (step : startStep server event = some next)
    (later : ReleasesLateLater next) :
    ReleasesLateLater server := by
  obtain ⟨events, final, reached, late⟩ := later
  refine ⟨event :: events, final, ?_, late⟩
  rw [run_cons, step]
  exact reached

/-- The pool is destroyed next. -/
theorem late_of_destroy
    {server : StartingServer}
    {memory : MessageMemory}
    (stage : server.stage = .destroyPool)
    (live : server.messagePool = .live memory)
    (left : server.queued ≠ [] ∨
      ∃ thread ∈ server.threads, thread.place.releases = true) :
    ReleasesLateLater server := by
  refine ⟨[.proceed true],
    { server with stage := .destroyQueue, messagePool := .destroyed }, ?_,
    rfl, ?_⟩
  · rw [run_cons, startStep, StartingServer.proceed, stage]
    dsimp only
    rw [live]
    rfl
  · exact left.imp_left fun filled => ⟨rfl, filled⟩

/-- The pool is destroyed next, nothing is queued, and the threads that are
left use pool and queue. -/
structure Poised
    (server : StartingServer)
    (queue : MessageQueue MessageRef)
    (memory : MessageMemory) : Prop where
  stage : server.stage = .destroyPool
  held : server.messageQueue = some queue
  live : server.messagePool = .live memory
  holds : queue.Holds []
  accounted : MessageSystem.Accounted
    { memory := memory, queue := queue, threads := server.places }
  cells : 0 < memory.pool.capacity
  roles : ThreadRoles server

section Poised

variable
  {server : StartingServer}
  {queue : MessageQueue MessageRef}
  {memory : MessageMemory}
  {position : Nat}
  {thread : StartedThread}

/-- What a thread finds. -/
def StartingServer.system
    (server : StartingServer)
    (queue : MessageQueue MessageRef)
    (memory : MessageMemory) : MessageSystem :=
  { memory := memory, queue := queue, threads := server.places }

/-- A thread that is in the middle of something has not returned and does not
wait for a datagram. -/
theorem Poised.present
    (poised : Poised server queue memory)
    (found : server.threads[position]? = some thread)
    (away : thread.place ≠ .idle ∨ thread.received = true) :
    (thread.ended || server.awaits position thread) = false := by
  rw [Bool.or_eq_false_iff]
  constructor
  · apply Bool.eq_false_iff.mpr
    intro ended
    obtain ⟨head, none⟩ :=
      poised.roles.returned thread (List.mem_of_getElem? found) ended
    rcases away with away | received
    · exact away head
    · rw [none] at received
      cases received
  · apply Bool.eq_false_iff.mpr
    intro awaits
    simp only [StartingServer.awaits, Bool.and_eq_true,
      Bool.not_eq_true'] at awaits
    rcases away with away | received
    · exact away (eq_of_beq awaits.1.2)
    · rw [awaits.2] at received
      cases received

/-- A thread goes on. -/
theorem Poised.advances
    (poised : Poised server queue memory)
    (found : server.threads[position]? = some thread)
    (present : (thread.ended || server.awaits position thread) = false)
    (choice : MessageChoice)
    {advanced : MessageMemory × MessageQueue MessageRef × MessageThread}
    (moved : threadAdvance (server.system queue memory)
      { choice with receives := decide (position < server.iocpStarted) }
      thread.place = some advanced) :
    startStep server (.advance position choice) = some
      { server.moveThread position advanced.2.2 with
        messageQueue := some advanced.2.1
        messagePool := .live advanced.1 } := by
  rw [startStep, StartingServer.advance, found, Option.bind_some]
  dsimp only
  rw [if_neg (Bool.eq_false_iff.mp present), poised.held, poised.live]
  dsimp only
  rw [← StartingServer.system, moved]
  rfl

/-- A thread goes on and leaves the queue. -/
theorem Poised.moves
    (poised : Poised server queue memory)
    (found : server.threads[position]? = some thread)
    (present : (thread.ended || server.awaits position thread) = false)
    (choice : MessageChoice)
    (after : MessageMemory)
    (next : MessageThread)
    (moved : threadAdvance (server.system queue memory)
      { choice with receives := decide (position < server.iocpStarted) }
      thread.place = some (after, queue, next)) :
    ∃ server', startStep server (.advance position choice) = some server' ∧
      Poised server' queue after ∧
      server'.threads = server.threads.set position { place := next } := by
  have step := poised.advances found present choice moved
  refine ⟨_, step,
    { stage := poised.stage
      held := rfl
      live := rfl
      holds := poised.holds
      accounted := ?_
      cells := ?_
      roles := poised.roles.step step }, splice_singleton found _⟩
  · have placed : server.places[position]? = some thread.place := by
      rw [StartingServer.places, List.getElem?_map, found]
      rfl
    have taken : messageStep (server.system queue memory)
        (.advance position
          { choice with
            receives := decide (position < server.iocpStarted) }) = some
          { memory := after
            queue := queue
            threads := splice server.places position [next] } := by
      rw [messageStep]
      change (server.places[position]?).bind _ = _
      rw [placed, Option.bind_some, moved]
      rfl
    have kept := messageStep_accounted poised.accounted taken
    rw [← moveThread_places] at kept
    exact kept
  · rw [threadAdvance_capacity moved]
    exact poised.cells

/-- Where a thread is that went on. -/
theorem getElem?_of_moved
    {after : StartingServer}
    {next : StartedThread}
    (found : server.threads[position]? = some thread)
    (threads : after.threads = server.threads.set position next) :
    after.threads[position]? = some next := by
  obtain ⟨inside, -⟩ := List.getElem?_eq_some_iff.mp found
  rw [threads, List.getElem?_set_self inside]

/-- A thread that goes on and stores a message. -/
theorem Poised.stores
    (poised : Poised server queue memory)
    (found : server.threads[position]? = some thread)
    (away : thread.place ≠ .idle)
    (msg : MessageRef)
    (moved : threadAdvance (server.system queue memory)
      { receives := decide (position < server.iocpStarted) }
      thread.place = some (memory, queue.store msg, .idle)) :
    ReleasesLateLater server := by
  refine .of_step (poised.advances found
    (poised.present found (.inl away)) {} moved)
    (late_of_destroy poised.stage rfl (.inl ?_))
  have stored : (queue.store msg).queued = [msg] :=
    MessageQueue.queued_eq
      (poised.holds.put (Nat.zero_lt_of_lt poised.holds.inside) msg)
  change (queue.store msg).queued ≠ []
  rw [stored]
  exact List.cons_ne_nil _ _

/-- A thread in a push whose message has its place. -/
theorem Poised.late_of_lock
    (poised : Poised server queue memory)
    (found : server.threads[position]? = some thread)
    (locks : thread.place.locksQueue = true) :
    ReleasesLateLater server := by
  cases place : thread.place with
  | releasing | uncounting =>
      exact late_of_destroy poised.stage poised.live
        (.inr ⟨thread, List.mem_of_getElem? found, by rw [place]; rfl⟩)
  | storing msg =>
      exact poised.stores found (by simp [place]) msg (by rw [place]; rfl)
  | idle | exhausted | overLimit | counted | unallocated | acquired | popped
  | routing =>
      rw [place] at locks
      cases locks

/-- A thread that has a message. -/
theorem Poised.late_of_buffers
    (poised : Poised server queue memory)
    (member : thread ∈ server.threads)
    (filled : thread.place.buffers ≠ []) :
    ReleasesLateLater server := by
  obtain ⟨position, found⟩ := List.mem_iff_getElem?.mp member
  cases place : thread.place with
  | releasing | uncounting =>
      exact late_of_destroy poised.stage poised.live
        (.inr ⟨thread, member, by rw [place]; rfl⟩)
  | storing msg =>
      exact poised.late_of_lock found (by rw [place]; rfl)
  | acquired msg =>
      cases locked : (server.system queue memory).queueLocked with
      | true =>
          obtain ⟨holder, present, locks⟩ := List.any_eq_true.mp locked
          obtain ⟨other, among, rfl⟩ := List.mem_map.mp present
          obtain ⟨_, read⟩ := List.mem_iff_getElem?.mp among
          exact poised.late_of_lock read locks
      | false =>
          refine poised.stores found (by simp [place]) msg ?_
          have empty : queue.count ≠ queue.capacity := by
            rw [poised.holds.counted]
            exact Nat.ne_of_lt (Nat.zero_lt_of_lt poised.holds.inside)
          rw [place, threadAdvance, locked, if_neg Bool.false_ne_true,
            pushMessage]
          change some (memory, (if queue.count = queue.capacity then _
            else (queue.store msg, MessageThread.idle))) = _
          rw [if_neg empty]
  | popped msg | routing msg =>
      have away : thread.place ≠ .idle := by simp [place]
      obtain ⟨next, step, poised, threads⟩ :=
        poised.moves found (poised.present found (.inl away))
          { verdict := .unknownPort } memory (.releasing msg none)
          (by rw [place]; rfl)
      exact .of_step step (late_of_destroy poised.stage poised.live
        (.inr ⟨_, List.mem_of_getElem? (getElem?_of_moved found threads),
          rfl⟩))
  | idle | exhausted | overLimit | counted | unallocated =>
      rw [place] at filled
      exact absurd rfl filled

/-- Where no thread has a message, every message is on the free stack. -/
theorem Poised.free
    (poised : Poised server queue memory)
    (empty : ∀ thread ∈ server.threads, thread.place.buffers = []) :
    (↑memory.pool.freeStack : Multiset MessageRef) = ↑memory.everyBuffer := by
  obtain ⟨contents, invariant⟩ := poised.accounted
  have same : contents = [] :=
    (MessageQueue.queued_eq invariant.holds).symm.trans
      (MessageQueue.queued_eq poised.holds)
  have none : gathered MessageThread.buffers server.places = 0 := by
    rw [gathered, Multiset.coe_eq_zero, List.flatMap_eq_nil_iff]
    intro place member
    obtain ⟨thread, among, rfl⟩ := List.mem_map.mp member
    exact empty thread among
  have places := invariant.places
  dsimp only at places
  rwa [same, none, Multiset.coe_nil, add_zero, add_zero] at places

/-- Where no thread has a message, no fallback message is allocated. -/
theorem Poised.unallocated
    (poised : Poised server queue memory)
    (empty : ∀ thread ∈ server.threads, thread.place.buffers = []) :
    memory.allocated = [] := by
  obtain ⟨contents, invariant⟩ := poised.accounted
  apply List.eq_nil_iff_forall_not_mem.mpr
  intro address present
  have buffer : MessageRef.heap address ∈ memory.pool.freeStack := by
    rw [← Multiset.mem_coe, poised.free empty, Multiset.mem_coe,
      MessageMemory.everyBuffer]
    exact List.mem_append_right _ (List.mem_map_of_mem present)
  obtain ⟨index, pooled⟩ := invariant.pooled _ buffer
  cases pooled

/-- A thread has a message, or no thread has one. -/
theorem Poised.late_or_empty
    (poised : Poised server queue memory) :
    ReleasesLateLater server ∨
      ∀ thread ∈ server.threads, thread.place.buffers = [] := by
  by_cases filled : ∃ thread ∈ server.threads, thread.place.buffers ≠ []
  · obtain ⟨thread, member, filled⟩ := filled
    exact .inl (poised.late_of_buffers member filled)
  · exact .inr fun thread member =>
      by_contra fun held => filled ⟨thread, member, held⟩

/-- An I/O thread that has received a datagram. -/
theorem Poised.late_of_received
    (poised : Poised server queue memory)
    (found : server.threads[position]? = some thread)
    (received : thread.received = true) :
    ReleasesLateLater server := by
  rcases poised.late_or_empty with late | empty
  · exact late
  obtain ⟨place, inside⟩ :=
    poised.roles.receivers position thread found received
  have cell : MessageRef.pooled 0 ∈ memory.pool.freeStack := by
    rw [← Multiset.mem_coe, poised.free empty, Multiset.mem_coe,
      MessageMemory.everyBuffer]
    exact List.mem_append_left _ (List.mem_map_of_mem
      (List.mem_range.mpr poised.cells))
  cases top : memory.pool.freeStack with
  | nil =>
      rw [top] at cell
      cases cell
  | cons msg rest =>
      obtain ⟨next, step, poised, threads⟩ :=
        poised.moves found (poised.present found (.inr received)) {}
          { memory with pool := { memory.pool with freeStack := rest } }
          (.acquired msg) (by
            rw [place, threadAdvance, decide_eq_true inside, if_pos rfl]
            simp only [StartingServer.system, top])
      exact .of_step step (poised.late_of_buffers
        (List.mem_of_getElem? (getElem?_of_moved found threads))
        (List.cons_ne_nil _ _))

/-- An I/O thread whose fallback message is counted: `malloc` finds a block. -/
theorem Poised.late_of_counted
    (poised : Poised server queue memory)
    (found : server.threads[position]? = some thread)
    (place : thread.place = .counted) :
    ReleasesLateLater server := by
  rcases poised.late_or_empty with late | empty
  · exact late
  have away : thread.place ≠ .idle := by simp [place]
  have fresh : ¬ memory.allocated.contains 0 = true := by
    simp [poised.unallocated empty]
  obtain ⟨next, step, poised, threads⟩ :=
    poised.moves found (poised.present found (.inl away))
      { address := some 0 } (memory.allocate 0) (.acquired (.heap 0)) (by
        rw [place]
        exact if_neg fresh)
  exact .of_step step (poised.late_of_buffers
    (List.mem_of_getElem? (getElem?_of_moved found threads))
    (List.cons_ne_nil _ _))

/-- The thread lowers the count of the fallback messages, and gets back to the
head of its loop. -/
def MessageThread.lowers : MessageThread -> Bool
  | .overLimit => true
  | .unallocated => true
  | _ => false

/-- Where the count is at its limit, a thread is about to queue or to release a
message, or one lowers the count. -/
theorem Poised.late_or_lowers
    (poised : Poised server queue memory)
    (full : (krsMessagePoolMaxFallback : Int) ≤
      memory.pool.outstandingFallbackCount) :
    ReleasesLateLater server ∨
      ∃ (position : Nat) (thread : StartedThread),
        server.threads[position]? = some thread ∧
          thread.place.lowers = true := by
  rcases poised.late_or_empty with late | empty
  · exact .inl late
  obtain ⟨contents, invariant⟩ := poised.accounted
  have outstanding := invariant.outstanding
  dsimp only at outstanding
  rw [poised.unallocated empty, List.length_nil] at outstanding
  have limit : (0 : Int) < krsMessagePoolMaxFallback := by decide
  have counted : 0 < server.places.countP MessageThread.countsSlot ∨
      0 < server.places.countP MessageThread.exceeds := by
    omega
  rcases counted with some | some
  · obtain ⟨place, present, counts⟩ := List.countP_pos_iff.mp some
    obtain ⟨thread, among, rfl⟩ := List.mem_map.mp present
    obtain ⟨position, found⟩ := List.mem_iff_getElem?.mp among
    cases place : thread.place with
    | counted => exact .inl (poised.late_of_counted found place)
    | unallocated => exact .inr ⟨position, thread, found, by rw [place]; rfl⟩
    | uncounting =>
        exact .inl (late_of_destroy poised.stage poised.live
          (.inr ⟨thread, among, by rw [place]; rfl⟩))
    | idle | exhausted | overLimit | acquired | popped | routing | releasing
    | storing =>
        rw [place] at counts
        cases counts
  · obtain ⟨place, present, exceeds⟩ := List.countP_pos_iff.mp some
    obtain ⟨thread, among, rfl⟩ := List.mem_map.mp present
    obtain ⟨position, found⟩ := List.mem_iff_getElem?.mp among
    refine .inr ⟨position, thread, found, ?_⟩
    cases place : thread.place with
    | overLimit => rfl
    | _ =>
        rw [place] at exceeds
        cases exceeds

/-- A thread lowers the count. -/
theorem Poised.lowered
    (poised : Poised server queue memory)
    (found : server.threads[position]? = some thread)
    (lowers : thread.place.lowers = true) :
    ∃ next, startStep server (.advance position {}) = some next ∧
      Poised next queue (memory.addOutstanding (-1)) ∧
      next.threads = server.threads.set position {} := by
  cases place : thread.place with
  | overLimit | unallocated =>
      have away : thread.place ≠ .idle := by simp [place]
      exact poised.moves found (poised.present found (.inl away)) {} _ .idle
        (by rw [place]; rfl)
  | idle | exhausted | counted | acquired | popped | routing | releasing
  | uncounting | storing =>
      rw [place] at lowers
      cases lowers

/-- An I/O thread that has found the free stack empty, and can have a fallback
message. -/
theorem Poised.late_of_room
    (poised : Poised server queue memory)
    (room : memory.pool.outstandingFallbackCount <
      krsMessagePoolMaxFallback)
    (found : server.threads[position]? = some thread)
    (place : thread.place = .exhausted) :
    ReleasesLateLater server := by
  have away : thread.place ≠ .idle := by simp [place]
  have within : ¬ (memory.addOutstanding
      1).pool.outstandingFallbackCount > krsMessagePoolMaxFallback :=
    Int.not_lt.mpr (Int.add_one_le_of_lt room)
  obtain ⟨next, step, poised, threads⟩ :=
    poised.moves found (poised.present found (.inl away)) {}
      (memory.addOutstanding 1) .counted (by
        rw [place]
        exact congrArg (fun next => some (_, queue, next)) (if_neg within))
  exact .of_step step
    (poised.late_of_counted (getElem?_of_moved found threads) rfl)

/-- An I/O thread that has found the free stack empty.  The others lower the
count of the fallback messages until it can have one. -/
theorem Poised.late_of_exhausted
    (count : Nat)
    (poised : Poised server queue memory)
    (bounded : memory.pool.outstandingFallbackCount ≤ count)
    (found : server.threads[position]? = some thread)
    (place : thread.place = .exhausted) :
    ReleasesLateLater server := by
  have limit : (0 : Int) < krsMessagePoolMaxFallback := by decide
  induction count generalizing server memory with
  | zero =>
      exact poised.late_of_room (Int.lt_of_le_of_lt bounded limit) found
        place
  | succ count inductionHypothesis =>
      rcases Int.lt_or_le memory.pool.outstandingFallbackCount
          krsMessagePoolMaxFallback with room | full
      · exact poised.late_of_room room found place
      rcases poised.late_or_lowers full with late | ⟨other, mover, read, lowers⟩
      · exact late
      have apart : other ≠ position := by
        rintro rfl
        cases found.symm.trans read
        rw [place] at lowers
        cases lowers
      obtain ⟨next, step, poised, threads⟩ := poised.lowered read lowers
      refine .of_step step (inductionHypothesis poised ?_ ?_)
      · change memory.pool.outstandingFallbackCount + -1 ≤ count
        omega
      · rw [threads, List.getElem?_set_ne apart, found]

/-- A thread that does not rest. -/
theorem Poised.late_of_busy
    (poised : Poised server queue memory)
    (found : server.threads[position]? = some thread)
    (busy : thread.resting = false) :
    ReleasesLateLater server := by
  cases received : thread.received with
  | true => exact poised.late_of_received found received
  | false =>
      rw [StartedThread.resting, received, Bool.not_false,
        Bool.and_true] at busy
      cases place : thread.place with
      | counted => exact poised.late_of_counted found place
      | exhausted =>
          exact poised.late_of_exhausted
            memory.pool.outstandingFallbackCount.toNat
            (Int.self_le_toNat _) found place
      | uncounting =>
          exact late_of_destroy poised.stage poised.live
            (.inr ⟨thread, List.mem_of_getElem? found, by rw [place]; rfl⟩)
      | acquired | popped | routing | releasing | storing =>
          exact poised.late_of_buffers (List.mem_of_getElem? found)
            (by rw [place]; exact List.cons_ne_nil _ _)
      | idle | overLimit | unallocated =>
          rw [place] at busy
          cases busy

end Poised

/-! ## The cleanup of a failed start -/

theorem MessageSystem.Accounted.queued_nodup
    {system : MessageSystem}
    (accounted : system.Accounted) :
    system.queue.queued.Nodup := by
  have perm := accounted.places_perm
  obtain ⟨contents, invariant⟩ := accounted
  have distinct : system.places.Nodup :=
    perm.nodup_iff.mpr (MessageMemory.everyBuffer_nodup invariant.distinct)
  rw [MessageSystem.places, List.append_assoc] at distinct
  exact distinct.of_append_right.of_append_left

/-- A cleanup that is about to begin where something is left. -/
theorem StartInvariant.allHandled
    {server : StartingServer}
    (invariant : StartInvariant server)
    (roles : ThreadRoles server)
    (stage : server.stage = .destroyPool)
    (never : ¬ ReleasesLateLater server) :
    server.AllHandled := by
  cases invariant with
  | bare queueless poolless threadless before =>
      constructor
      · rw [StartingServer.queued, queueless]
        rfl
      · rw [threadless]
        intro thread member
        cases member
  | queueOnly queue found holds poolless threadless before =>
      constructor
      · rw [StartingServer.queued, found]
        exact MessageQueue.queued_eq holds
      · rw [threadless]
        intro thread member
        cases member
  | pooled queue memory found live accounted cells before =>
      have empty : server.queued = [] := by
        by_contra filled
        exact never (late_of_destroy stage live (.inl filled))
      have poised : Poised server queue memory :=
        { stage := stage
          held := found
          live := live
          holds := StartInvariant.queue_holds
            (.pooled queue memory found live accounted cells before) stage
            empty found
          accounted := accounted
          cells := cells
          roles := roles }
      refine ⟨empty, fun thread member => ?_⟩
      obtain ⟨position, read⟩ := List.mem_iff_getElem?.mp member
      by_contra busy
      exact never (poised.late_of_busy read (Bool.eq_false_iff.mpr busy))
  | torn torn =>
      rw [stage] at torn
      cases torn

/-- Where every thread has ended, only the queue is left to look at. -/
theorem ThreadRoles.allHandled_iff
    {server : StartingServer}
    (roles : ThreadRoles server)
    (ended : ∀ thread ∈ server.threads, thread.ended = true) :
    server.AllHandled ↔ server.queued = [] := by
  refine ⟨StartingServer.AllHandled.queue, fun empty => ⟨empty, ?_⟩⟩
  intro thread member
  obtain ⟨head, none⟩ := roles.returned thread member (ended thread member)
  rw [StartedThread.resting, head, none]
  rfl

/-- Whatever step of `krs_server_start` fails, whatever the threads did by then
and however the waits of label `fail` returned: no message is released into the
pool that was destroyed, and every queued message is released once, if and only
if nothing is queued when the pool is destroyed and every thread that is left
rests. -/
theorem start_failure_releases_queued_iff
    (iocpThreads handlerThreads : Nat)
    {events : List StartEvent}
    {server : StartingServer}
    (reached : run startStep (.start iocpThreads handlerThreads) events =
      some server)
    (stage : server.stage = .destroyPool) :
    server.ReleasesQueued ↔ server.AllHandled := by
  have invariant := startInvariant_of_run reached
  have roles := ThreadRoles.of_run reached
  constructor
  · rintro ⟨-, always⟩
    apply invariant.allHandled roles stage
    rintro ⟨events, final, later, late⟩
    exact (always events final later).1 late
  · intro handled
    have nothing := NothingLeft.of_allHandled invariant
      (stopped_of_run reached) stage handled
    refine ⟨nothing.returns stage, ?_⟩
    intro events final later
    have stays : NothingLeft final :=
      run_invariant (fun _ _ _ here => here.step) nothing later
    refine ⟨stays.not_releasesLate, fun _ msg member => ?_⟩
    rw [handled.queue] at member
    cases member

/-- The order of `krs_server_stop`, without interruption, would release every
queued message once, from any state. -/
theorem stopTearDown_releases_queued
    (iocpThreads handlerThreads : Nat)
    {events : List StartEvent}
    {server : StartingServer}
    {queue : MessageQueue MessageRef}
    {memory : MessageMemory}
    (reached : run startStep (.start iocpThreads handlerThreads) events =
      some server)
    (standing : server.stage.torn = false)
    (found : server.messageQueue = some queue)
    (live : server.messagePool = .live memory) :
    ∃ log, stopTearDown server.messagePool queue = some log ∧
      ∀ msg ∈ server.queued, log.released.count msg = 1 := by
  have invariant := startInvariant_of_run reached
  have queued : server.queued = queue.queued := by
    simp [StartingServer.queued, found]
  have distinct : queue.queued.Nodup := by
    cases invariant with
    | bare queueless poolless threadless stage =>
        rw [found] at queueless
        cases queueless
    | queueOnly other others holds poolless threadless stage =>
        rw [live] at poolless
        cases poolless
    | pooled other memory others living accounted cells stage =>
        cases found.symm.trans others
        exact accounted.queued_nodup
    | torn torn =>
        rw [standing] at torn
        cases torn
  refine ⟨{ cell := .destroyed, released := queue.queued }, ?_, ?_⟩
  · rw [live]
    exact stopTearDown_live memory queue
  · rw [queued]
    intro msg member
    exact List.count_eq_one_of_mem distinct member

/-- One I/O thread and one handler are configured.  The I/O thread runs. -/
def receivingEvents : List StartEvent :=
  List.replicate 7 (.proceed true) ++
    [.receive 0, .advance 0 {}, .advance 0 {}]

/-- A datagram is queued; the handler takes it; the retransmission thread cannot
be created; the threads return. -/
def handledEvents : List StartEvent :=
  receivingEvents ++ [.proceed true, .proceed true, .proceed true,
    .advance 1 {}, .advance 1 {}, .advance 1 {}, .advance 1 {},
    .proceed false, .exit 1, .proceed true, .exit 0, .proceed true]

/-- A datagram is queued; the handler cannot be created; the I/O thread
returns. -/
def unhandledEvents : List StartEvent :=
  receivingEvents ++ [.proceed true, .proceed false, .proceed true, .exit 0,
    .proceed true]

/-- The I/O thread has acquired a message for its datagram; the handler cannot
be created; the wait for the I/O thread is given up; the pool is destroyed; and
then the I/O thread queues its message. -/
def givenUpEvents : List StartEvent :=
  List.replicate 7 (.proceed true) ++ [.receive 0, .advance 0 {},
    .proceed true, .proceed false, .proceed true, .giveUp, .proceed true,
    .advance 0 {}]

/-- A failed start with nothing left is cleaned up. -/
theorem handled_datagram_cleaned_up :
    ∃ server, run startStep (.start 1 1) handledEvents = some server ∧
      server.result = .wMsg .platformWindowsSocket
        "CreateThread failed for retransmit thread" ∧
      server.ReleasesQueued := by
  have reached : (run startStep (.start 1 1) handledEvents).map
      (fun server => (server.stage, server.result,
        decide server.AllHandled)) =
        some (.destroyPool, .wMsg .platformWindowsSocket
          "CreateThread failed for retransmit thread", true) := by
    decide +kernel
  obtain ⟨server, run, equal⟩ := Option.map_eq_some_iff.mp reached
  simp only [Prod.mk.injEq] at equal
  obtain ⟨stage, result, handled⟩ := equal
  exact ⟨server, run, result,
    (start_failure_releases_queued_iff 1 1 run stage).mpr
      (of_decide_eq_true handled)⟩

/-- A datagram that is still queued is released into the destroyed pool. -/
theorem unhandled_datagram_released_late :
    ∃ server, run startStep (.start 1 1) unhandledEvents = some server ∧
      server.stage = .destroyPool ∧
      server.threads.all StartedThread.ended = true ∧
      server.result = .wMsg .platformWindowsSocket
        "CreateThread failed for handler thread" ∧
      server.queued = [.pooled 1023] ∧
      ¬ server.ReleasesQueued := by
  have reached : (run startStep (.start 1 1) unhandledEvents).map
      (fun server => (server.stage,
        server.threads.all StartedThread.ended, server.result,
        server.queued)) =
        some (.destroyPool, true, .wMsg .platformWindowsSocket
          "CreateThread failed for handler thread", [.pooled 1023]) := by
    decide +kernel
  have destroyed : (run startStep (.start 1 1)
      (unhandledEvents ++ [.proceed true])).map
        (fun next => (next.stage, next.messagePool, next.queued)) =
        some (.destroyQueue, .destroyed, [.pooled 1023]) := by
    decide +kernel
  obtain ⟨server, begun, equal⟩ := Option.map_eq_some_iff.mp reached
  simp only [Prod.mk.injEq] at equal
  obtain ⟨stage, ended, result, queued⟩ := equal
  refine ⟨server, begun, stage, ended, result, queued, ?_⟩
  rintro ⟨-, always⟩
  rw [run_append, begun, Option.bind_some] at destroyed
  obtain ⟨next, step, equal⟩ := Option.map_eq_some_iff.mp destroyed
  simp only [Prod.mk.injEq] at equal
  obtain ⟨stage, gone, queued⟩ := equal
  exact (always [.proceed true] next step).1
    ⟨gone, .inl ⟨stage, by rw [queued]; exact List.cons_ne_nil _ _⟩⟩

/-- A wait that is given up leaves an I/O thread that queues its message when
the pool is gone. -/
example :
    (run startStep (.start 1 1) givenUpEvents).map
      (fun server => (server.stage, server.messagePool, server.queued)) =
    some (.destroyQueue, .destroyed, [.pooled 1023]) := by
  decide +kernel

end Kronos
