import Kronos.Server.Ending

/-!
# The end of a server

Once a server is not running, each step of its threads brings it closer to its
end, and until then some thread can take a step by itself.  No wait has to time
out for that, whatever the allocations answer and whatever arrives meanwhile.
-/

namespace Kronos

open Library

variable {μ : Type} {server next : WorkingServer μ}

/-! ## Steps that are left -/

/-- Steps that an I/O thread has left once the server is not running; one of
them may wake a handler. -/
def IocpPhase.left : IocpPhase μ -> Nat
  | .loop => 1
  | .waiting => 1
  | .handling _ => 3
  | .ended => 0

/-- Steps that a handler has left, besides those in the wait of its pop. -/
def HandlerPhase.left : HandlerPhase μ -> Nat
  | .loop => 1
  | .popping => 2
  | .handling _ => 2
  | .ended => 0

/-- Steps that a consumer has left in the wait of its pop. -/
def sleeperLeft : Sleeper -> Nat
  | .outside => 0
  | .asleep => 1
  | .woken => 2

/-- Steps that the retransmit thread has left. -/
def RetransmitPhase.left : RetransmitPhase -> Nat
  | .loop => 1
  | .sleeping => 1
  | .ticking => 2
  | .ended => 0

/-- Steps that a server has left once it is not running.  To stop the queue
wakes every consumer. -/
def WorkingServer.left (server : WorkingServer μ) : Nat :=
  totalWeight IocpPhase.left server.iocpThreads +
    totalWeight HandlerPhase.left server.handlerThreads +
    totalWeight sleeperLeft server.messages.consumers +
    totalWeight RetransmitPhase.left server.retransmitThread.toList +
    server.actions.length +
    server.actions.count .stopQueue * server.messages.consumers.length

/-- A step of one of the server's threads. -/
def WorkingEvent.isThreadStep : WorkingEvent μ -> Bool
  | .iocp _ _ _ _ => true
  | .handler _ => true
  | .timeout _ => true
  | .retransmit => true
  | .action => true
  | .giveUp => true
  | _ => false

/-- A wakeup that nobody asked for. -/
def WorkingEvent.isStir : WorkingEvent μ -> Bool
  | .stir _ => true
  | _ => false

/-- The consumers after a push: one step more at most. -/
theorem push_sleeperLeft
    {current after : WaitingQueue μ}
    {output : QueueOutput μ}
    {msg : μ}
    {grown : Bool}
    {woken : Option Nat}
    (taken : waitingStep current (.push msg grown woken) =
      some (after, output)) :
    totalWeight sleeperLeft after.consumers ≤
        totalWeight sleeperLeft current.consumers + 1 ∧
      after.consumers.length = current.consumers.length := by
  rcases push_consumers taken with same | ⟨position, found, same⟩
  · rw [same]
    exact ⟨Nat.le_succ _, rfl⟩
  · rw [same]
    have moved := totalWeight_set sleeperLeft found .woken
    simp only [sleeperLeft] at moved
    exact ⟨by omega, List.length_set⟩

/-- A woken consumer is back in its sleep, or out of its pop. -/
theorem resume_sleeperLeft
    {current after : WaitingQueue μ}
    {output : QueueOutput μ}
    {consumer : Nat}
    (taken : waitingStep current (.resume consumer) =
      some (after, output)) :
    (totalWeight sleeperLeft after.consumers + 1 ≤
        totalWeight sleeperLeft current.consumers ∧
      (after.consumers[consumer]? ≠ some .asleep ->
        totalWeight sleeperLeft after.consumers + 2 =
          totalWeight sleeperLeft current.consumers)) ∧
      after.consumers.length = current.consumers.length := by
  simp only [waitingStep] at taken
  split at taken
  case isFalse => cases taken
  case isTrue found =>
    have round := popRound_consumers current consumer
    rw [Option.some.inj taken] at round
    obtain ⟨inside, -⟩ := List.getElem?_eq_some_iff.mp found
    rw [round]
    refine ⟨?_, List.length_set⟩
    split
    case isTrue =>
      have moved := totalWeight_set sleeperLeft found .asleep
      simp only [sleeperLeft] at moved
      refine ⟨by omega, fun awake => ?_⟩
      exact absurd (List.getElem?_set_self inside) awake
    case isFalse =>
      have moved := totalWeight_set sleeperLeft found .outside
      simp only [sleeperLeft] at moved
      exact ⟨by omega, fun _ => by omega⟩

/-- A consumer that has waited for its time. -/
theorem timeout_sleeperLeft
    {current after : WaitingQueue μ}
    {output : QueueOutput μ}
    {consumer : Nat}
    (taken : waitingStep current (.timeout consumer) =
      some (after, output)) :
    totalWeight sleeperLeft after.consumers + 1 =
        totalWeight sleeperLeft current.consumers ∧
      after.consumers.length = current.consumers.length := by
  simp only [waitingStep] at taken
  split at taken
  case isFalse => cases taken
  case isTrue found =>
    cases taken
    have moved := totalWeight_set sleeperLeft found .outside
    exact ⟨moved, List.length_set⟩

/-- Where a handler is after a section of its pop. -/
theorem afterPop_left_le
    (messages : WaitingQueue μ)
    (thread : Nat)
    (returned : Option μ) :
    (WorkingServer.afterPop messages thread returned).left ≤ 2 := by
  unfold WorkingServer.afterPop
  split
  case isTrue => exact Nat.le_refl _
  case isFalse =>
    cases returned with
    | none => exact Nat.le_succ _
    | some msg => exact Nat.le_refl _

/-- A handler takes a section of its pop: it has fewer steps left. -/
theorem popStep_left
    {thread : Nat}
    {event : WaitingEvent μ}
    (found : server.handlerThreads[thread]? = some .popping)
    (own : event = .resume thread ∨ event = .timeout thread)
    (taken : server.popStep thread event = some next) :
    next.running = server.running ∧ next.left + 1 ≤ server.left := by
  obtain ⟨⟨messages, output⟩, step, same⟩ := Option.map_eq_some_iff.mp taken
  cases same
  refine ⟨rfl, ?_⟩
  have moved := totalWeight_set HandlerPhase.left found
    (WorkingServer.afterPop messages thread output.returned)
  have small := afterPop_left_le messages thread output.returned
  have before : (HandlerPhase.popping : HandlerPhase μ).left = 2 := rfl
  obtain ⟨fewer, sameLength⟩ :
      totalWeight sleeperLeft messages.consumers + 1 ≤
          totalWeight sleeperLeft server.messages.consumers ∧
        messages.consumers.length = server.messages.consumers.length := by
    rcases own with rfl | rfl
    · exact ⟨(resume_sleeperLeft step).1.1, (resume_sleeperLeft step).2⟩
    · exact ⟨(timeout_sleeperLeft step).1.le, (timeout_sleeperLeft step).2⟩
  simp only [WorkingServer.left, sameLength]
  omega

/-- A step of an I/O thread, which may wake a handler. -/
theorem iocpStep_left
    {thread : Nat}
    {acquired grown : Bool}
    {woken : Option Nat}
    {phase : IocpPhase μ}
    (ends : server.running = false)
    (found : server.iocpThreads[thread]? = some phase)
    (taken : server.iocpStep thread acquired grown woken phase =
      some next) :
    next.running = false ∧ next.left + 1 ≤ server.left := by
  cases phase with
  | loop =>
      cases taken
      refine ⟨ends, ?_⟩
      have moved := totalWeight_set IocpPhase.left found .ended
      simp only [IocpPhase.left] at moved
      simp only [WorkingServer.left, ends, Bool.false_eq_true, if_false]
      omega
  | waiting =>
      simp only [WorkingServer.iocpStep] at taken
      split at taken
      case h_1 => cases taken
      case h_2 packet packets port =>
        cases taken
        refine ⟨ends, ?_⟩
        have last : WorkingServer.afterPacket server.running packet =
            .ended := by
          rw [ends]
          cases packet <;> rfl
        have moved := totalWeight_set IocpPhase.left found .ended
        simp only [IocpPhase.left] at moved
        simp only [WorkingServer.left, last]
        omega
  | handling msg =>
      obtain ⟨messages, pushed, same⟩ := Option.map_eq_some_iff.mp taken
      cases same
      refine ⟨ends, ?_⟩
      have moved := totalWeight_set IocpPhase.left found .loop
      simp only [IocpPhase.left] at moved
      obtain ⟨woke, sameLength⟩ :
          totalWeight sleeperLeft messages.consumers ≤
              totalWeight sleeperLeft server.messages.consumers + 1 ∧
            messages.consumers.length =
              server.messages.consumers.length := by
        unfold WorkingServer.pushMessage at pushed
        split at pushed
        case isTrue =>
          obtain ⟨pair, push, same⟩ := Option.map_eq_some_iff.mp pushed
          cases same
          exact push_sleeperLeft push
        case isFalse =>
          cases pushed
          exact ⟨Nat.le_succ _, rfl⟩
      simp only [WorkingServer.left, sameLength]
      omega
  | ended => cases taken

/-- A step of a handler once the server is not running. -/
theorem handlerStep_left
    {thread : Nat}
    {phase : HandlerPhase μ}
    (ends : server.running = false)
    (found : server.handlerThreads[thread]? = some phase)
    (taken : server.handlerStep thread phase = some next) :
    next.running = false ∧ next.left + 1 ≤ server.left := by
  cases phase with
  | loop =>
      simp only [WorkingServer.handlerStep, ends, Bool.false_eq_true,
        if_false] at taken
      cases taken
      refine ⟨rfl, ?_⟩
      have moved := totalWeight_set HandlerPhase.left found .ended
      simp only [HandlerPhase.left] at moved
      simp only [WorkingServer.left]
      omega
  | popping =>
      rw [← ends]
      exact popStep_left found (Or.inl rfl) taken
  | handling msg =>
      cases taken
      refine ⟨ends, ?_⟩
      have moved := totalWeight_set HandlerPhase.left found .loop
      simp only [HandlerPhase.left] at moved
      simp only [WorkingServer.left]
      omega
  | ended => cases taken

/-- The next action; to stop the queue wakes every consumer. -/
theorem actionStep_left
    {action : StopAction}
    {rest : List StopAction}
    (ahead : server.actions = action :: rest)
    (taken : server.actionStep action = some next) :
    next.running = server.running ∧
      { next with actions := rest }.left + 1 ≤ server.left := by
  cases action with
  | post =>
      cases taken
      refine ⟨rfl, ?_⟩
      simp only [WorkingServer.left, ahead, List.length_cons]
      rw [List.count_cons_of_ne StopAction.noConfusion]
      omega
  | stopQueue =>
      simp only [WorkingServer.actionStep, waitingStep, Option.map_some]
        at taken
      cases taken
      refine ⟨rfl, ?_⟩
      have woken : totalWeight sleeperLeft
            (server.messages.consumers.map Sleeper.wake) ≤ _ :=
        totalWeight_map_le sleeperLeft
          (fun sleeper => by cases sleeper <;> decide)
          server.messages.consumers
      simp only [WorkingServer.left, ahead, List.length_cons,
        List.count_cons_self, wakeAll, List.length_map, Nat.add_mul]
      omega
  | joinIocpThreads | joinHandlerThreads | joinRetransmitThread =>
      simp only [WorkingServer.actionStep] at taken
      split at taken
      case isFalse => cases taken
      case isTrue =>
        cases taken
        refine ⟨rfl, ?_⟩
        simp only [WorkingServer.left, ahead, List.length_cons]
        rw [List.count_cons_of_ne StopAction.noConfusion]
        omega
  | tearDown =>
      cases taken
      refine ⟨rfl, ?_⟩
      simp only [WorkingServer.left, ahead, List.length_cons]
      rw [List.count_cons_of_ne StopAction.noConfusion]
      omega

/-- The retransmit thread once the server is not running. -/
theorem retransmitNext_left
    {before after : RetransmitPhase}
    (taken : WorkingServer.retransmitNext false before = some after) :
    after.left + 1 = before.left := by
  cases before <;> cases taken <;> rfl

/-- A server that is not running stays so, and each step of a thread uses up
one of those left; only a wakeup that nobody asked for adds one. -/
theorem workingStep_left
    (ends : server.running = false)
    {event : WorkingEvent μ}
    (taken : workingStep server event = some next) :
    next.running = false ∧
      next.left + (if event.isThreadStep then 1 else 0) ≤
        server.left + if event.isStir then 1 else 0 := by
  cases workingStep_cases taken with
  | createIocpThread runs | createHandlerThread runs | stop runs =>
      rw [ends] at runs
      cases runs
  | createRetransmitThread runs | fail runs =>
      rw [ends] at runs
      cases runs
  | arrive msg => exact ⟨ends, Nat.le_refl _⟩
  | iocp found step => exact iocpStep_left ends found step
  | handler found step => exact handlerStep_left ends found step
  | timeout found step =>
      rw [← ends]
      exact popStep_left found (Or.inr rfl) step
  | stir step =>
      simp only [waitingStep] at step
      split at step
      case isFalse => cases step
      case isTrue found =>
        cases step
        have moved := totalWeight_set sleeperLeft found .woken
        simp only [sleeperLeft] at moved
        refine ⟨ends, ?_⟩
        simp only [WorkingEvent.isThreadStep, WorkingEvent.isStir,
          WorkingServer.left, WaitingQueue.move, List.length_set,
          Bool.false_eq_true, if_false, if_true]
        omega
  | retransmit found step =>
      refine ⟨ends, ?_⟩
      rw [ends] at step
      have fewer := retransmitNext_left step
      simp only [WorkingEvent.isThreadStep, WorkingEvent.isStir,
        WorkingServer.left, found, Bool.false_eq_true, if_false, if_true,
        totalWeight, Option.toList_some, List.map_cons, List.map_nil,
        List.sum_cons, List.sum_nil]
      omega
  | action ahead step =>
      obtain ⟨sameRunning, fewer⟩ := actionStep_left ahead step
      exact ⟨sameRunning.trans ends, fewer⟩
  | @giveUp action rest ahead joins =>
      refine ⟨ends, ?_⟩
      have other : action ≠ .stopQueue := by
        rintro rfl
        cases joins
      simp only [WorkingEvent.isThreadStep, WorkingEvent.isStir,
        WorkingServer.left, ahead, List.length_cons,
        List.count_cons_of_ne other, Bool.false_eq_true, if_false,
        if_true]
      omega

/-! ## A server that ends gets through -/

/-- Some thread has not ended. -/
theorem exists_alive
    {ended : α -> Bool}
    {threads : List α}
    (living : threads.all ended = false) :
    ∃ (thread : Nat) (phase : α), threads[thread]? = some phase ∧
      ended phase = false := by
  obtain ⟨phase, member, lives⟩ := List.all_eq_false.mp living
  obtain ⟨thread, found⟩ := List.mem_iff_getElem?.mp member
  exact ⟨thread, phase, found, by simpa using lives⟩

/-- A step that a thread takes by itself, where the allocations of the I/O
threads answer as given. -/
def WorkingEvent.Proceeds (acquired grown : Bool) : WorkingEvent μ -> Prop
  | .iocp _ wasAcquired wasGrown _ =>
      wasAcquired = acquired ∧ wasGrown = grown
  | .handler _ => True
  | .retransmit => True
  | .action => True
  | _ => False

/-- Some thread can take a step by itself. -/
def WorkingServer.CanProceed
    (server : WorkingServer μ)
    (acquired grown : Bool) : Prop :=
  ∃ event next, WorkingEvent.Proceeds acquired grown event ∧
    workingStep server event = some next

/-- The thread that ends the server can go on. -/
theorem WorkingServer.CanProceed.action
    {action : StopAction}
    {rest : List StopAction}
    (ahead : server.actions = action :: rest)
    (enabled : ∃ next, server.actionStep action = some next)
    (acquired grown : Bool) :
    server.CanProceed acquired grown := by
  obtain ⟨next, taken⟩ := enabled
  refine ⟨.action, { next with actions := rest }, trivial, ?_⟩
  simp only [workingStep, ahead, taken, Option.map_some]

/-- An I/O thread that has not ended can go on, if there is a packet for it. -/
theorem WorkingServer.CanProceed.iocp
    {thread : Nat}
    {phase : IocpPhase μ}
    (found : server.iocpThreads[thread]? = some phase)
    (lives : phase.isEnded = false)
    (packets : server.completionPort ≠ [])
    (acquired grown : Bool) :
    server.CanProceed acquired grown := by
  have taken : ∃ woken next,
      server.iocpStep thread acquired grown woken phase = some next := by
    cases phase with
    | loop => exact ⟨none, _, rfl⟩
    | waiting =>
        obtain ⟨packet, others, port⟩ := List.exists_cons_of_ne_nil packets
        simp only [WorkingServer.iocpStep, port]
        exact ⟨none, _, rfl⟩
    | handling msg =>
        cases acquired with
        | false => exact ⟨none, _, rfl⟩
        | true =>
            obtain ⟨woken, pair, push⟩ :=
              push_enabled server.messages msg grown
            have pushed : WorkingServer.pushMessage server.messages msg true
                grown woken = some pair.1 := by
              rw [WorkingServer.pushMessage, if_pos rfl, push]
              rfl
            exact ⟨woken, _, congrArg (Option.map _) pushed⟩
    | ended => cases lives
  obtain ⟨woken, next, step⟩ := taken
  refine ⟨.iocp thread acquired grown woken, next, ⟨rfl, rfl⟩, ?_⟩
  rw [workingStep, found]
  exact step

/-- A handler that has not ended can go on once the queue is stopped. -/
theorem WorkingServer.CanProceed.handler
    (invariant : WorkingInvariant server)
    (ends : server.running = false)
    (stopped : server.messages.queue.stopped = true)
    {thread : Nat}
    {phase : HandlerPhase μ}
    (found : server.handlerThreads[thread]? = some phase)
    (lives : phase.isEnded = false)
    (acquired grown : Bool) :
    server.CanProceed acquired grown := by
  have taken : ∃ next, server.handlerStep thread phase = some next := by
    cases phase with
    | loop =>
        simp only [WorkingServer.handlerStep, ends, Bool.false_eq_true,
          if_false]
        exact ⟨_, rfl⟩
    | popping =>
        rcases invariant.popping thread found with asleep | woken
        · exact absurd (List.mem_of_getElem? asleep)
            (invariant.served.attentive stopped)
        · simp only [WorkingServer.handlerStep, WorkingServer.popStep,
            waitingStep, if_pos woken, Option.map_some]
          exact ⟨_, rfl⟩
    | handling msg => exact ⟨_, rfl⟩
    | ended => cases lives
  obtain ⟨next, step⟩ := taken
  refine ⟨.handler thread, next, trivial, ?_⟩
  rw [workingStep, found]
  exact step

theorem retransmitNext_enabled
    (running : Bool)
    {phase : RetransmitPhase}
    (lives : phase.isEnded = false) :
    ∃ next, WorkingServer.retransmitNext running phase = some next := by
  cases phase with
  | loop | sleeping | ticking => exact ⟨_, rfl⟩
  | ended => cases lives

/-- While an I/O thread lives and all shutdown packets are posted, one of them
waits to be taken. -/
theorem WorkingInvariant.packets
    (invariant : WorkingInvariant server)
    (ends : server.running = false)
    (posted : .post ∉ server.actions)
    (living : server.iocpThreads.all IocpPhase.isEnded = false) :
    server.completionPort ≠ [] := by
  intro empty
  have enough := invariant.posted ends
  rw [empty, List.count_eq_zero_of_not_mem posted] at enough
  have all : server.iocpThreads.countP IocpPhase.isEnded =
      server.iocpThreads.length :=
    Nat.le_antisymm List.countP_le_length (by simpa using enough)
  rw [List.all_eq_true.mpr (List.countP_eq_length.mp all)] at living
  cases living

/-- While something is left to do, some thread can go on. -/
theorem WorkingInvariant.canProceed
    (invariant : WorkingInvariant server)
    (ends : server.running = false)
    (unfinished : server.actions ≠ [])
    (acquired grown : Bool) :
    server.CanProceed acquired grown := by
  obtain ⟨action, rest, ahead⟩ := List.exists_cons_of_ne_nil unfinished
  have ordered := invariant.ordered
  rw [ahead] at ordered
  have after := (List.pairwise_cons.mp ordered).1
  cases action with
  | post | stopQueue | tearDown => exact .action ahead ⟨_, rfl⟩ _ _
  | joinIocpThreads =>
      cases joined : server.iocpThreads.all IocpPhase.isEnded with
      | true =>
          refine .action ahead ⟨server, ?_⟩ _ _
          simp [WorkingServer.actionStep, WorkingServer.waitReturns, joined]
      | false =>
          have posted : .post ∉ server.actions := by
            rw [ahead]
            intro member
            rcases List.mem_cons.mp member with same | later
            · cases same
            · exact (after _ later).2.1 rfl rfl
          obtain ⟨thread, phase, found, lives⟩ := exists_alive joined
          exact .iocp found lives (invariant.packets ends posted joined) _ _
  | joinHandlerThreads =>
      cases joined : server.handlerThreads.all HandlerPhase.isEnded with
      | true =>
          refine .action ahead ⟨server, ?_⟩ _ _
          simp [WorkingServer.actionStep, WorkingServer.waitReturns, joined]
      | false =>
          obtain ⟨thread, phase, found, lives⟩ := exists_alive joined
          have several : server.handlerThreads ≠ [] := by
            intro none
            rw [none] at found
            cases found
          have stopped := (invariant.halted ends several).resolve_right
            (by
              rw [ahead]
              intro member
              rcases List.mem_cons.mp member with same | later
              · cases same
              · exact (after _ later).2.2 rfl rfl)
          exact .handler invariant ends stopped found lives _ _
  | joinRetransmitThread =>
      cases joined : server.retransmitThread.toList.all
          RetransmitPhase.isEnded with
      | true =>
          refine .action ahead ⟨server, ?_⟩ _ _
          simp only [WorkingServer.actionStep, WorkingServer.waitReturns,
            joined, Bool.or_true, if_true]
      | false =>
          cases thread : server.retransmitThread with
          | none =>
              rw [thread] at joined
              cases joined
          | some phase =>
              rw [thread] at joined
              obtain ⟨next, step⟩ := retransmitNext_enabled server.running
                (show phase.isEnded = false by simpa using joined)
              refine ⟨.retransmit,
                { server with retransmitThread := some next }, trivial, ?_⟩
              simp only [workingStep, thread, Option.bind_some, step,
                Option.map_some]

/-- In every run of a server's threads, from the first one created on: once
`krs_server_stop`, or the cleanup of a failed `krs_server_start`, has begun,
some thread can go on by itself until the end, without any wait that times out,
whatever the allocations answer; and the threads take a bounded number of
steps, whatever arrives meanwhile. -/
theorem ending_gets_through
    (initialCapacity : Nat)
    {events : List (WorkingEvent μ)}
    {server : WorkingServer μ}
    (reached : run workingStep (.start initialCapacity) events =
      some server)
    (ends : server.running = false) :
    (server.actions ≠ [] -> ∀ acquired grown,
      server.CanProceed acquired grown) ∧
    ∀ later final, run workingStep server later = some final ->
      final.running = false ∧
      later.countP WorkingEvent.isThreadStep ≤
        server.left + later.countP WorkingEvent.isStir := by
  have invariant := workingInvariant_of_run reached
  refine ⟨invariant.canProceed ends, fun later final taken => ⟨?_, ?_⟩⟩
  · exact run_invariant
      (fun _ _ _ stays step => (workingStep_left stays step).1) ends taken
  · have spent := run_spends WorkingServer.left WorkingEvent.isThreadStep
      WorkingEvent.isStir
      (fun _ _ _ stays step => workingStep_left stays step) ends taken
    omega

/-- A server with one thread of each kind is stopped while a handler sleeps in
its pop and a datagram is on its way. -/
def stoppedWhileServing : List (WorkingEvent Nat) :=
  [.createIocpThread, .createHandlerThread, .createRetransmitThread,
    .iocp 0 true true none, .handler 0, .retransmit, .arrive 7,
    .iocp 0 true true none, .stop]

/-- Then all three threads can be joined. -/
theorem serving_server_gets_through :
    ∃ server : WorkingServer Nat,
      run workingStep (.start 4) stoppedWhileServing = some server ∧
      server.actions ≠ [] ∧ server.CanProceed true true ∧
      server.left = 14 := by
  obtain ⟨server, reached, ends, unfinished, left⟩ :
      ∃ server : WorkingServer Nat,
        run workingStep (.start 4) stoppedWhileServing = some server ∧
        server.running = false ∧ server.actions ≠ [] ∧ server.left = 14 :=
    ⟨_, rfl, by decide, by decide, by decide⟩
  exact ⟨server, reached, unfinished,
    (ending_gets_through 4 reached ends).1 unfinished true true, left⟩

end Kronos
