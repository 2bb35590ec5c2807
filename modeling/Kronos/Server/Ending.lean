import Kronos.Server.Joining

/-!
# A server that ends

What holds of the threads of a server in every run, from the first
`CreateThread` on: a handler in its pop is a consumer in its wait, enough
shutdown packets are posted for the I/O threads that have not ended, and the
queue is stopped before the handlers are waited for.

Every step of a thread, and every action of the thread that ends the server,
keeps this.
-/

namespace Kronos

open Library

variable {μ : Type}

/-! ## Actions -/

/-- Nothing comes after the tear-down, no packet is posted after the wait for
the I/O threads, and the queue is not stopped after the wait for the
handlers. -/
def MayPrecede (first second : StopAction) : Prop :=
  first ≠ .tearDown ∧ (first = .joinIocpThreads -> second ≠ .post) ∧
    (first = .joinHandlerThreads -> second ≠ .stopQueue)

instance (first second : StopAction) : Decidable (MayPrecede first second) :=
  inferInstanceAs (Decidable (_ ∧ _))

/-- Posts may come before anything that is in order. -/
theorem pairwise_posts
    (posts : Nat)
    {actions : List StopAction}
    (ordered : actions.Pairwise MayPrecede) :
    (List.replicate posts StopAction.post ++ actions).Pairwise
      MayPrecede := by
  induction posts with
  | zero => exact ordered
  | succ posts inductionHypothesis =>
      rw [List.replicate_succ, List.cons_append]
      refine List.Pairwise.cons (fun action _ => ?_) inductionHypothesis
      exact ⟨StopAction.noConfusion, StopAction.noConfusion,
        StopAction.noConfusion⟩

theorem stopActions_ordered (iocpThreadCount : Nat) :
    (stopActions iocpThreadCount).Pairwise MayPrecede :=
  pairwise_posts iocpThreadCount (by decide)

theorem failIocpThreads_ordered (iocpStarted : Nat) :
    (failIocpThreads iocpStarted ++ [StopAction.tearDown]).Pairwise
      MayPrecede := by
  unfold failIocpThreads
  split
  case isTrue => decide
  case isFalse =>
    rw [List.append_assoc]
    exact pairwise_posts iocpStarted (by decide)

theorem stopQueue_not_mem_failIocpThreads (iocpStarted : Nat) :
    StopAction.stopQueue ∉ failIocpThreads iocpStarted ++ [.tearDown] := by
  unfold failIocpThreads
  split <;> simp

theorem failActions_ordered (iocpStarted handlerStarted : Nat) :
    (failActions iocpStarted handlerStarted).Pairwise MayPrecede := by
  have later := failIocpThreads_ordered iocpStarted
  have started := stopQueue_not_mem_failIocpThreads iocpStarted
  rw [failActions, List.append_assoc, failHandlers]
  split
  case isTrue => exact later
  case isFalse =>
    refine List.Pairwise.cons (fun action _ => ?_)
      (List.Pairwise.cons (fun action member => ?_) later)
    · exact ⟨StopAction.noConfusion, StopAction.noConfusion,
        StopAction.noConfusion⟩
    · refine ⟨StopAction.noConfusion, StopAction.noConfusion, fun _ => ?_⟩
      rintro rfl
      exact started member

theorem count_post_stopActions (iocpThreadCount : Nat) :
    (stopActions iocpThreadCount).count .post = iocpThreadCount := by
  simp [stopActions, List.count_append]

theorem count_post_failActions (iocpStarted handlerStarted : Nat) :
    (failActions iocpStarted handlerStarted).count .post = iocpStarted := by
  unfold failActions failHandlers failIocpThreads
  split <;> split <;> simp_all [List.count_append]

/-! ## The invariant -/

/-- A packet with `SHUTDOWN_KEY`. -/
def CompletionPacket.isShutdown : CompletionPacket μ -> Bool
  | .shutdown => true
  | .datagram _ => false

/-- What holds of the threads of a server. -/
structure WorkingInvariant (server : WorkingServer μ) : Prop where
  served : WaitingInvariant server.messages
  popping : ∀ thread : Nat,
    server.handlerThreads[thread]? = some .popping ->
      server.messages.Waits thread
  idle : server.running = true -> server.actions = []
  ordered : server.actions.Pairwise MayPrecede
  posted : server.running = false ->
    server.iocpThreads.length ≤
      server.completionPort.countP CompletionPacket.isShutdown +
        server.iocpThreads.countP IocpPhase.isEnded +
          server.actions.count .post
  halted : server.running = false -> server.handlerThreads ≠ [] ->
    server.messages.queue.stopped = true ∨ .stopQueue ∈ server.actions

theorem WorkingInvariant.start (initialCapacity : Nat) :
    WorkingInvariant (.start initialCapacity : WorkingServer μ) where
  served := WaitingInvariant.start _ _
  popping := fun _ found => by cases found
  idle := fun _ => rfl
  ordered := List.Pairwise.nil
  posted := fun stopped => by cases stopped
  halted := fun stopped => by cases stopped

variable {server next : WorkingServer μ}

/-- A stopped queue stays stopped. -/
theorem waitingStep_stopped
    {current after : WaitingQueue μ}
    {output : QueueOutput μ}
    {event : WaitingEvent μ}
    (taken : waitingStep current event = some (after, output))
    (stopped : current.queue.stopped = true) :
    after.queue.stopped = true := by
  cases event with
  | push msg grown woken =>
      obtain ⟨consumers, -, same⟩ := Option.map_eq_some_iff.mp taken
      cases same
      exact (krsMessageQueuePush_stopped current.queue msg grown).trans
        stopped
  | pop consumer | resume consumer =>
      simp only [waitingStep] at taken
      split at taken
      case isFalse => cases taken
      case isTrue =>
        have popped := popRound_queueStep current consumer
        rw [Option.some.inj taken] at popped
        rw [← (Prod.mk.inj popped).1]
        exact (krsMessageQueuePop_stopped current.queue).trans stopped
  | timeout consumer | stir consumer =>
      simp only [waitingStep] at taken
      split at taken
      case isFalse => cases taken
      case isTrue =>
        cases taken
        exact stopped
  | stop =>
      cases taken
      rfl
  | drain =>
      cases taken
      exact stopped

/-- A thread that has not ended goes to another place. -/
theorem countP_ended_set
    (ended : α -> Bool)
    {threads : List α}
    {thread : Nat}
    {before : α}
    (found : threads[thread]? = some before)
    (lives : ended before = false)
    (after : α) :
    (threads.set thread after).countP ended =
      threads.countP ended + if ended after then 1 else 0 := by
  obtain ⟨inside, rfl⟩ := List.getElem?_eq_some_iff.mp found
  rw [List.countP_set inside, lives]
  rfl

/-! ## What each step keeps -/

/-- A section of the queue that is not a consumer's own. -/
theorem WorkingInvariant.queue
    (invariant : WorkingInvariant server)
    {event : WaitingEvent μ}
    {taken : WaitingQueue μ × QueueOutput μ}
    (step : waitingStep server.messages event = some taken)
    (nobody : event.consumer = none) :
    WorkingInvariant { server with messages := taken.1 } where
  served := invariant.served.step step
  popping := by
    intro thread found
    refine (invariant.popping thread found).step step ?_
    rw [nobody]
    exact fun absurd => by cases absurd
  idle := invariant.idle
  ordered := invariant.ordered
  posted := invariant.posted
  halted := fun ends some =>
    (invariant.halted ends some).imp_left (waitingStep_stopped step)

/-- An I/O thread goes on. -/
theorem WorkingInvariant.iocp
    (invariant : WorkingInvariant server)
    {thread : Nat}
    {before : IocpPhase μ}
    (found : server.iocpThreads[thread]? = some before)
    (lives : before.isEnded = false)
    (after : IocpPhase μ) :
    WorkingInvariant
      { server with iocpThreads := server.iocpThreads.set thread after } where
  served := invariant.served
  popping := invariant.popping
  idle := invariant.idle
  ordered := invariant.ordered
  posted := by
    intro ends
    have enough := invariant.posted ends
    have counted := countP_ended_set IocpPhase.isEnded found lives after
    simp only [List.length_set, counted]
    omega
  halted := invariant.halted

/-- An I/O thread takes a packet; a shutdown packet ends it. -/
theorem WorkingInvariant.packet
    (invariant : WorkingInvariant server)
    {thread : Nat}
    {packet : CompletionPacket μ}
    {packets : List (CompletionPacket μ)}
    (found : server.iocpThreads[thread]? = some .waiting)
    (port : server.completionPort = packet :: packets) :
    WorkingInvariant
      { server with
        completionPort := packets
        iocpThreads := server.iocpThreads.set thread
          (WorkingServer.afterPacket server.running packet) } where
  served := invariant.served
  popping := invariant.popping
  idle := invariant.idle
  ordered := invariant.ordered
  posted := by
    intro ends
    have enough := invariant.posted ends
    rw [port, List.countP_cons] at enough
    have counted := countP_ended_set IocpPhase.isEnded found rfl
      (WorkingServer.afterPacket server.running packet)
    simp only [List.length_set, counted]
    cases packet with
    | shutdown =>
        simp only [CompletionPacket.isShutdown, if_true] at enough
        simp only [WorkingServer.afterPacket, IocpPhase.isEnded, if_true]
        omega
    | datagram msg =>
        simp only [CompletionPacket.isShutdown, Bool.false_eq_true,
          if_false] at enough
        omega
  halted := invariant.halted

/-- A handler goes on outside of its pop. -/
theorem WorkingInvariant.handler
    (invariant : WorkingInvariant server)
    (thread : Nat)
    {after : HandlerPhase μ}
    (outside : after ≠ .popping) :
    WorkingInvariant
      { server with
        handlerThreads := server.handlerThreads.set thread after } where
  served := invariant.served
  popping := by
    intro other found
    dsimp only at found
    rw [List.getElem?_set] at found
    split at found
    case isTrue =>
      split at found
      case isTrue => exact absurd (Option.some.inj found) outside
      case isFalse => cases found
    case isFalse => exact invariant.popping other found
  idle := invariant.idle
  ordered := invariant.ordered
  posted := invariant.posted
  halted := fun ends some => invariant.halted ends
    fun none => some (by simp [none])

/-- A handler takes a section of its pop. -/
theorem WorkingInvariant.pop
    (invariant : WorkingInvariant server)
    {thread : Nat}
    {event : WaitingEvent μ}
    (own : event.consumer = some thread)
    (taken : server.popStep thread event = some next) :
    WorkingInvariant next := by
  obtain ⟨⟨messages, output⟩, step, same⟩ := Option.map_eq_some_iff.mp taken
  cases same
  refine ⟨invariant.served.step step, ?_, invariant.idle, invariant.ordered,
    invariant.posted, ?_⟩
  · intro other found
    dsimp only at found
    rw [List.getElem?_set] at found
    split at found
    case isTrue hit =>
      cases hit
      split at found
      case isFalse => cases found
      case isTrue =>
        have phase := Option.some.inj found
        unfold WorkingServer.afterPop at phase
        split at phase
        case isTrue sleeps => exact Or.inl sleeps
        case isFalse => cases returned : output.returned <;>
          rw [returned] at phase <;> cases phase
    case isFalse miss =>
      refine (invariant.popping other found).step step ?_
      rw [own]
      exact fun same => miss (Option.some.inj same)
  · intro ends some
    refine (invariant.halted ends fun none => some ?_).imp_left
      (waitingStep_stopped step)
    simp [none]

/-- The server starts to end. -/
theorem WorkingInvariant.finish
    (invariant : WorkingInvariant server)
    {actions : List StopAction}
    (ordered : actions.Pairwise MayPrecede)
    (posts : actions.count .post = server.iocpThreads.length)
    (stops : server.handlerThreads ≠ [] -> .stopQueue ∈ actions) :
    WorkingInvariant (server.finish actions) where
  served := invariant.served
  popping := invariant.popping
  idle := fun absurd => by cases absurd
  ordered := ordered
  posted := by
    intro _
    change server.iocpThreads.length ≤ _ + _ + actions.count .post
    omega
  halted := fun _ some => Or.inr (stops some)

/-- The thread that ends the server has done an action. -/
theorem WorkingInvariant.done
    (invariant : WorkingInvariant server)
    {action : StopAction}
    {rest : List StopAction}
    (ahead : server.actions = action :: rest)
    (posted : action ≠ .post)
    (halted : action = .stopQueue -> server.messages.queue.stopped = true) :
    WorkingInvariant { server with actions := rest } where
  served := invariant.served
  popping := invariant.popping
  idle := by
    intro runs
    have none := invariant.idle runs
    rw [ahead] at none
    cases none
  ordered := by
    have ordered := invariant.ordered
    rw [ahead] at ordered
    exact ordered.of_cons
  posted := by
    intro ends
    have enough := invariant.posted ends
    rw [ahead, List.count_cons_of_ne posted] at enough
    exact enough
  halted := by
    intro ends some
    rcases invariant.halted ends some with stopped | later
    · exact Or.inl stopped
    · rw [ahead] at later
      rcases List.mem_cons.mp later with same | later
      · exact Or.inl (halted same.symm)
      · exact Or.inr later

/-- A shutdown packet is posted. -/
theorem WorkingInvariant.post
    (invariant : WorkingInvariant server)
    {rest : List StopAction}
    (ahead : server.actions = .post :: rest) :
    WorkingInvariant
      { server with
        completionPort := server.completionPort ++ [.shutdown]
        actions := rest } where
  served := invariant.served
  popping := invariant.popping
  idle := by
    intro runs
    have none := invariant.idle runs
    rw [ahead] at none
    cases none
  ordered := by
    have ordered := invariant.ordered
    rw [ahead] at ordered
    exact ordered.of_cons
  posted := by
    intro ends
    have enough := invariant.posted ends
    rw [ahead, List.count_cons_self] at enough
    simp only [List.countP_append, List.countP_singleton,
      CompletionPacket.isShutdown, if_true]
    omega
  halted := by
    intro ends some
    refine (invariant.halted ends some).imp_right fun later => ?_
    rw [ahead] at later
    exact (List.mem_cons.mp later).resolve_left StopAction.noConfusion

/-- The next action, whatever it is. -/
theorem WorkingInvariant.action
    (invariant : WorkingInvariant server)
    {action : StopAction}
    {rest : List StopAction}
    (ahead : server.actions = action :: rest)
    (taken : server.actionStep action = some next) :
    WorkingInvariant { next with actions := rest } := by
  cases action with
  | post =>
      cases taken
      exact invariant.post ahead
  | stopQueue =>
      simp only [WorkingServer.actionStep] at taken
      obtain ⟨⟨messages, output⟩, step, same⟩ :=
        Option.map_eq_some_iff.mp taken
      cases same
      refine (invariant.queue step rfl).done ahead StopAction.noConfusion
        fun _ => ?_
      cases step
      rfl
  | joinIocpThreads | joinHandlerThreads | joinRetransmitThread =>
      simp only [WorkingServer.actionStep] at taken
      split at taken
      case isFalse => cases taken
      case isTrue =>
        cases taken
        exact invariant.done ahead StopAction.noConfusion
          fun absurd => by cases absurd
  | tearDown =>
      cases taken
      exact invariant.done ahead StopAction.noConfusion
        fun absurd => by cases absurd

/-- A thread is created while the server is running. -/
theorem WorkingInvariant.running
    (invariant : WorkingInvariant server)
    (runs : server.running = true)
    (sameRunning : next.running = server.running)
    (sameActions : next.actions = server.actions)
    (served : WaitingInvariant next.messages)
    (popping : ∀ thread : Nat,
      next.handlerThreads[thread]? = some .popping ->
        next.messages.Waits thread) :
    WorkingInvariant next where
  served := served
  popping := popping
  idle := fun _ => sameActions.trans (invariant.idle runs)
  ordered := by
    rw [sameActions]
    exact invariant.ordered
  posted := by
    rw [sameRunning, runs]
    exact fun absurd => by cases absurd
  halted := by
    rw [sameRunning, runs]
    exact fun absurd => by cases absurd

theorem WaitingInvariant.newConsumer
    {messages : WaitingQueue μ}
    (invariant : WaitingInvariant messages) :
    WaitingInvariant
      { messages with consumers := messages.consumers ++ [.outside] } where
  served := by
    intro sleeps
    have before : .asleep ∈ messages.consumers := by simpa using sleeps
    simpa using invariant.served before
  attentive := by
    intro stopped sleeps
    exact invariant.attentive stopped (by simpa using sleeps)

theorem WorkingInvariant.createHandler
    (invariant : WorkingInvariant server)
    (runs : server.running = true) :
    WorkingInvariant
      { server with
        handlerThreads := server.handlerThreads ++ [.loop]
        messages :=
          { server.messages with
            consumers := server.messages.consumers ++ [.outside] } } := by
  refine invariant.running runs rfl rfl invariant.served.newConsumer ?_
  intro thread found
  dsimp only at found
  rw [List.getElem?_append] at found
  split at found
  case isTrue =>
    have extended : ∀ sleeper,
        server.messages.consumers[thread]? = some sleeper ->
        (server.messages.consumers ++ [.outside])[thread]? =
          some sleeper :=
      fun sleeper here => List.getElem?_append_left
        (List.getElem?_eq_some_iff.mp here).1 |>.trans here
    exact (invariant.popping thread found).imp (extended _) (extended _)
  case isFalse =>
    rw [List.getElem?_singleton] at found
    split at found <;> cases found

/-- One step of an I/O thread. -/
theorem WorkingInvariant.iocpStep
    (invariant : WorkingInvariant server)
    {thread : Nat}
    {acquired grown : Bool}
    {woken : Option Nat}
    {phase : IocpPhase μ}
    (found : server.iocpThreads[thread]? = some phase)
    (step : server.iocpStep thread acquired grown woken phase =
      some next) :
    WorkingInvariant next := by
  cases phase with
  | loop =>
      cases step
      exact invariant.iocp found rfl _
  | waiting =>
      simp only [WorkingServer.iocpStep] at step
      split at step
      case h_1 => cases step
      case h_2 packet packets port =>
        cases step
        exact invariant.packet found port
  | handling msg =>
      obtain ⟨messages, pushed, same⟩ := Option.map_eq_some_iff.mp step
      cases same
      unfold WorkingServer.pushMessage at pushed
      split at pushed
      case isTrue =>
        obtain ⟨pair, push, same⟩ := Option.map_eq_some_iff.mp pushed
        cases same
        exact (invariant.queue push rfl).iocp found rfl _
      case isFalse =>
        cases pushed
        exact invariant.iocp found rfl _
  | ended => cases step

/-- One step of a message handler. -/
theorem WorkingInvariant.handlerStep
    (invariant : WorkingInvariant server)
    {thread : Nat}
    {phase : HandlerPhase μ}
    (step : server.handlerStep thread phase = some next) :
    WorkingInvariant next := by
  cases phase with
  | loop =>
      simp only [WorkingServer.handlerStep] at step
      split at step
      case isTrue => exact invariant.pop rfl step
      case isFalse =>
        cases step
        exact invariant.handler thread fun absurd => by cases absurd
  | popping => exact invariant.pop rfl step
  | handling msg =>
      cases step
      exact invariant.handler thread fun absurd => by cases absurd
  | ended => cases step

/-- Every step keeps the invariant. -/
theorem WorkingInvariant.step
    (invariant : WorkingInvariant server)
    {event : WorkingEvent μ}
    (taken : workingStep server event = some next) :
    WorkingInvariant next := by
  cases workingStep_cases taken with
  | createIocpThread runs =>
      exact invariant.running runs rfl rfl invariant.served
        invariant.popping
  | createHandlerThread runs => exact invariant.createHandler runs
  | createRetransmitThread runs absent =>
      exact invariant.running runs rfl rfl invariant.served
        invariant.popping
  | stop runs =>
      refine invariant.finish (stopActions_ordered _)
        (count_post_stopActions _) fun _ => ?_
      simp [stopActions]
  | fail runs absent =>
      refine invariant.finish (failActions_ordered _ _)
        (count_post_failActions _ _) fun some => ?_
      have several : server.handlerThreads.length ≠ 0 :=
        fun none => some (List.length_eq_zero_iff.mp none)
      simp [failActions, failHandlers, several]
  | arrive msg =>
      refine ⟨invariant.served, invariant.popping, invariant.idle,
        invariant.ordered, fun ends => ?_, invariant.halted⟩
      simpa [CompletionPacket.isShutdown] using invariant.posted ends
  | iocp found step => exact invariant.iocpStep found step
  | handler found step => exact invariant.handlerStep step
  | timeout found step => exact invariant.pop rfl step
  | stir step => exact invariant.queue step rfl
  | retransmit found step =>
      exact ⟨invariant.served, invariant.popping, invariant.idle,
        invariant.ordered, invariant.posted, invariant.halted⟩
  | action ahead step => exact invariant.action ahead step
  | giveUp ahead joins =>
      refine invariant.done ahead ?_ ?_ <;> rintro rfl <;> cases joins

theorem workingInvariant_of_run
    {initialCapacity : Nat}
    {events : List (WorkingEvent μ)}
    (reached : run workingStep (.start initialCapacity) events =
      some server) :
    WorkingInvariant server :=
  run_invariant (fun _ _ _ invariant taken => invariant.step taken)
    (WorkingInvariant.start initialCapacity) reached

end Kronos
