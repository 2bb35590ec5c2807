import Kronos.Server.Ending

/-!
# What a tear-down finds

The tear-down comes after the waits for all threads.  If no wait times out, each
of them ends with the threads that it waits for, unless there are more of them
than one wait supports: `krs_server_set_thread_counts` has no upper bound.
-/

namespace Kronos

open Library

variable {μ : Type} {server next : WorkingServer μ}

/-! ## Threads that were waited for -/

/-- Threads that are not too many for one wait have ended, or the wait for them
is still to come. -/
def Awaited
    (server : WorkingServer μ)
    (wait : StopAction)
    (ended : α -> Bool)
    (threads : List α) : Prop :=
  threads.length ≤ maximumWaitObjects ->
    wait ∈ server.actions ∨ threads.all ended = true

/-- Once a server is not running, this holds of all its threads. -/
structure ThreadsAwaited (server : WorkingServer μ) : Prop where
  iocp : server.running = false ->
    Awaited server .joinIocpThreads IocpPhase.isEnded server.iocpThreads
  handlers : server.running = false ->
    Awaited server .joinHandlerThreads HandlerPhase.isEnded
      server.handlerThreads
  retransmit : server.running = false ->
    Awaited server .joinRetransmitThread RetransmitPhase.isEnded
      server.retransmitThread.toList

theorem ThreadsAwaited.start (initialCapacity : Nat) :
    ThreadsAwaited (.start initialCapacity : WorkingServer μ) where
  iocp := fun ends => by cases ends
  handlers := fun ends => by cases ends
  retransmit := fun ends => by cases ends

theorem ThreadsAwaited.running (runs : next.running = true) :
    ThreadsAwaited next := by
  constructor <;>
    · intro ends
      rw [runs] at ends
      cases ends

/-- A thread that moves had not ended. -/
theorem Awaited.set
    {wait : StopAction}
    {ended : α -> Bool}
    {threads : List α}
    (awaited : Awaited server wait ended threads)
    (sameActions : next.actions = server.actions)
    {thread : Nat}
    {before : α}
    (found : threads[thread]? = some before)
    (lives : ended before = false)
    (after : α) :
    Awaited next wait ended (threads.set thread after) := by
  intro few
  rw [List.length_set] at few
  rcases awaited few with later | all
  · exact Or.inl (sameActions ▸ later)
  · have hasEnded := List.all_eq_true.mp all before
      (List.mem_of_getElem? found)
    rw [lives] at hasEnded
    cases hasEnded

/-- An action that is not the wait itself leaves it ahead. -/
theorem Awaited.action
    {wait action : StopAction}
    {rest : List StopAction}
    {ended : α -> Bool}
    {threads : List α}
    (awaited : Awaited server wait ended threads)
    (ahead : server.actions = action :: rest)
    (sameActions : next.actions = rest)
    (waited : action = wait ->
      WorkingServer.waitReturns ended threads = true) :
    Awaited next wait ended threads := by
  intro few
  rcases awaited few with later | all
  · rw [ahead] at later
    rcases List.mem_cons.mp later with same | later
    · have returns := waited same.symm
      rw [WorkingServer.waitReturns,
        decide_eq_false (Nat.not_lt.mpr few), Bool.false_or] at returns
      exact Or.inr returns
    · exact Or.inl (sameActions ▸ later)
  · exact Or.inr all

/-- The threads after an action, and what a wait for them has found. -/
theorem actionStep_threads
    {action : StopAction}
    (taken : server.actionStep action = some next) :
    next.running = server.running ∧
      next.iocpThreads = server.iocpThreads ∧
      next.handlerThreads = server.handlerThreads ∧
      next.retransmitThread = server.retransmitThread ∧
      (action = .joinIocpThreads ->
        WorkingServer.waitReturns IocpPhase.isEnded server.iocpThreads =
          true) ∧
      (action = .joinHandlerThreads ->
        WorkingServer.waitReturns HandlerPhase.isEnded
          server.handlerThreads = true) ∧
      (action = .joinRetransmitThread ->
        WorkingServer.waitReturns RetransmitPhase.isEnded
          server.retransmitThread.toList = true) := by
  cases action with
  | post | stopQueue | tearDown => cases taken; simp
  | joinIocpThreads | joinHandlerThreads | joinRetransmitThread =>
      simp only [WorkingServer.actionStep] at taken
      split at taken
      case isFalse => cases taken
      case isTrue returns =>
        cases taken
        simp [returns]

theorem stopActions_await
    (server : WorkingServer μ) :
    ThreadsAwaited
      (server.finish (stopActions server.iocpThreads.length)) := by
  constructor <;>
    exact fun _ _ => Or.inl
      (by simp [WorkingServer.finish, stopActions])

theorem failActions_await
    (absent : server.retransmitThread = none) :
    ThreadsAwaited
      (server.finish (failActions server.iocpThreads.length
        server.handlerThreads.length)) := by
  refine ⟨fun _ _ => ?_, fun _ _ => ?_, fun _ _ => Or.inr ?_⟩
  · cases threads : server.iocpThreads with
    | nil => exact Or.inr (by simp [WorkingServer.finish, threads])
    | cons thread others =>
        refine Or.inl ?_
        simp [WorkingServer.finish, failActions, failIocpThreads]
  · cases threads : server.handlerThreads with
    | nil => exact Or.inr (by simp [WorkingServer.finish, threads])
    | cons thread others =>
        refine Or.inl ?_
        simp [WorkingServer.finish, failActions, failHandlers]
  · simp [WorkingServer.finish, absent]

/-- An I/O thread goes on. -/
theorem ThreadsAwaited.moveIocp
    (awaited : ThreadsAwaited server)
    (sameRunning : next.running = server.running)
    (sameActions : next.actions = server.actions)
    (sameHandlers : next.handlerThreads = server.handlerThreads)
    (sameRetransmit : next.retransmitThread = server.retransmitThread)
    {thread : Nat}
    {before after : IocpPhase μ}
    (found : server.iocpThreads[thread]? = some before)
    (lives : before.isEnded = false)
    (moved : next.iocpThreads = server.iocpThreads.set thread after) :
    ThreadsAwaited next where
  iocp := by
    rw [sameRunning, moved]
    exact fun ends => (awaited.iocp ends).set sameActions found lives after
  handlers := by
    rw [sameRunning, sameHandlers]
    intro ends few
    exact sameActions ▸ awaited.handlers ends few
  retransmit := by
    rw [sameRunning, sameRetransmit]
    intro ends few
    exact sameActions ▸ awaited.retransmit ends few

/-- A handler goes on. -/
theorem ThreadsAwaited.moveHandler
    (awaited : ThreadsAwaited server)
    (sameRunning : next.running = server.running)
    (sameActions : next.actions = server.actions)
    (sameIocp : next.iocpThreads = server.iocpThreads)
    (sameRetransmit : next.retransmitThread = server.retransmitThread)
    {thread : Nat}
    {before after : HandlerPhase μ}
    (found : server.handlerThreads[thread]? = some before)
    (lives : before.isEnded = false)
    (moved : next.handlerThreads = server.handlerThreads.set thread after) :
    ThreadsAwaited next where
  iocp := by
    rw [sameRunning, sameIocp]
    intro ends few
    exact sameActions ▸ awaited.iocp ends few
  handlers := by
    rw [sameRunning, moved]
    exact fun ends =>
      (awaited.handlers ends).set sameActions found lives after
  retransmit := by
    rw [sameRunning, sameRetransmit]
    intro ends few
    exact sameActions ▸ awaited.retransmit ends few

/-- A step of an I/O thread. -/
theorem ThreadsAwaited.iocpStep
    (awaited : ThreadsAwaited server)
    {thread : Nat}
    {acquired grown : Bool}
    {woken : Option Nat}
    {phase : IocpPhase μ}
    (found : server.iocpThreads[thread]? = some phase)
    (taken : server.iocpStep thread acquired grown woken phase =
      some next) :
    ThreadsAwaited next := by
  cases phase with
  | loop =>
      cases taken
      exact awaited.moveIocp rfl rfl rfl rfl found rfl rfl
  | waiting =>
      simp only [WorkingServer.iocpStep] at taken
      split at taken
      case h_1 => cases taken
      case h_2 =>
        cases taken
        exact awaited.moveIocp rfl rfl rfl rfl found rfl rfl
  | handling msg =>
      obtain ⟨messages, -, same⟩ := Option.map_eq_some_iff.mp taken
      cases same
      exact awaited.moveIocp rfl rfl rfl rfl found rfl rfl
  | ended => cases taken

/-- A handler takes a section of its pop. -/
theorem ThreadsAwaited.popStep
    (awaited : ThreadsAwaited server)
    {thread : Nat}
    {event : WaitingEvent μ}
    {phase : HandlerPhase μ}
    (found : server.handlerThreads[thread]? = some phase)
    (lives : phase.isEnded = false)
    (taken : server.popStep thread event = some next) :
    ThreadsAwaited next := by
  obtain ⟨pair, -, same⟩ := Option.map_eq_some_iff.mp taken
  cases same
  exact awaited.moveHandler rfl rfl rfl rfl found lives rfl

/-- A step of a handler. -/
theorem ThreadsAwaited.handlerStep
    (awaited : ThreadsAwaited server)
    {thread : Nat}
    {phase : HandlerPhase μ}
    (found : server.handlerThreads[thread]? = some phase)
    (taken : server.handlerStep thread phase = some next) :
    ThreadsAwaited next := by
  cases phase with
  | loop =>
      simp only [WorkingServer.handlerStep] at taken
      split at taken
      case isTrue => exact awaited.popStep found rfl taken
      case isFalse =>
        cases taken
        exact awaited.moveHandler rfl rfl rfl rfl found rfl rfl
  | popping => exact awaited.popStep found rfl taken
  | handling msg =>
      cases taken
      exact awaited.moveHandler rfl rfl rfl rfl found rfl rfl
  | ended => cases taken

/-- A step of the retransmit thread. -/
theorem ThreadsAwaited.retransmitStep
    (awaited : ThreadsAwaited server)
    {before after : RetransmitPhase}
    (found : server.retransmitThread = some before)
    (taken : WorkingServer.retransmitNext server.running before =
      some after) :
    ThreadsAwaited { server with retransmitThread := some after } where
  iocp := awaited.iocp
  handlers := awaited.handlers
  retransmit := by
    intro ends
    have lives : before.isEnded = false := by
      cases before with
      | loop | sleeping | ticking => rfl
      | ended => cases taken
    have before := awaited.retransmit ends
    rw [found] at before
    exact before.set rfl (rfl : [_][0]? = some _) lives after

/-- The next action, which comes after a wait for threads only if that has
returned. -/
theorem ThreadsAwaited.actionStep
    (awaited : ThreadsAwaited server)
    {action : StopAction}
    {rest : List StopAction}
    (ahead : server.actions = action :: rest)
    (taken : server.actionStep action = some next) :
    ThreadsAwaited { next with actions := rest } := by
  obtain ⟨sameRunning, sameIocp, sameHandlers, sameRetransmit, iocp,
    handlers, retransmit⟩ := actionStep_threads taken
  refine ⟨?_, ?_, ?_⟩ <;> dsimp only
  · rw [sameRunning, sameIocp]
    exact fun ends => (awaited.iocp ends).action ahead rfl iocp
  · rw [sameRunning, sameHandlers]
    exact fun ends => (awaited.handlers ends).action ahead rfl handlers
  · rw [sameRunning, sameRetransmit]
    exact fun ends => (awaited.retransmit ends).action ahead rfl retransmit

/-- A wait for threads that times out. -/
def WorkingEvent.givesUp : WorkingEvent μ -> Bool
  | .giveUp => true
  | _ => false

/-- A wait for threads does not time out. -/
def InTime (_ : WorkingServer μ) (event : WorkingEvent μ) : Prop :=
  event.givesUp = false

/-- Every step but a wait that times out keeps this. -/
theorem ThreadsAwaited.step
    (awaited : ThreadsAwaited server)
    {event : WorkingEvent μ}
    (inTime : InTime server event)
    (taken : workingStep server event = some next) :
    ThreadsAwaited next := by
  cases workingStep_cases taken with
  | createIocpThread runs | createHandlerThread runs =>
      exact ThreadsAwaited.running runs
  | createRetransmitThread runs absent =>
      exact ThreadsAwaited.running runs
  | stop runs => exact stopActions_await server
  | fail runs absent => exact failActions_await absent
  | arrive msg | stir step =>
      exact ⟨awaited.iocp, awaited.handlers, awaited.retransmit⟩
  | iocp found step => exact awaited.iocpStep found step
  | handler found step => exact awaited.handlerStep found step
  | timeout found step => exact awaited.popStep found rfl step
  | retransmit found step => exact awaited.retransmitStep found step
  | action ahead step => exact awaited.actionStep ahead step
  | giveUp ahead joins => cases inTime

/-- The tear-down is the last action. -/
theorem WorkingInvariant.tearDown_last
    (invariant : WorkingInvariant server)
    (ahead : server.actions.head? = some .tearDown) :
    server.actions = [.tearDown] := by
  obtain ⟨rest, actions⟩ := List.head?_eq_some_iff.mp ahead
  have ordered := invariant.ordered
  rw [actions] at ordered
  cases rest with
  | nil => exact actions
  | cons later rest =>
      have before := (List.pairwise_cons.mp ordered).1 later
        List.mem_cons_self
      exact absurd rfl before.1

/-- A tear-down of threads that are not too many finds them ended. -/
theorem ThreadsAwaited.allEnded
    (awaited : ThreadsAwaited server)
    (invariant : WorkingInvariant server)
    (ahead : server.actions.head? = some .tearDown)
    (fewIocp : server.iocpThreads.length ≤ maximumWaitObjects)
    (fewHandlers : server.handlerThreads.length ≤ maximumWaitObjects) :
    server.allEnded = true := by
  have last := invariant.tearDown_last ahead
  have ends : server.running = false := by
    cases runs : server.running with
    | false => rfl
    | true =>
        rw [invariant.idle runs] at last
        cases last
  have oneRetransmit : server.retransmitThread.toList.length ≤
      maximumWaitObjects := by
    cases server.retransmitThread <;> simp [maximumWaitObjects]
  have iocp := (awaited.iocp ends fewIocp).resolve_left (by simp [last])
  have handlers := (awaited.handlers ends fewHandlers).resolve_left
    (by simp [last])
  have retransmit := (awaited.retransmit ends oneRetransmit).resolve_left
    (by simp [last])
  rw [WorkingServer.allEnded, iocp, handlers, retransmit]
  rfl

/-! ## Too many threads -/

/-- A server that a run reaches in which no wait for threads times out. -/
def ReachedInTime
    (initialCapacity : Nat)
    (server : WorkingServer μ) : Prop :=
  ∃ events, RunAllowed workingStep InTime (.start initialCapacity) events ∧
    run workingStep (.start initialCapacity) events = some server

variable {initialCapacity : Nat}

theorem ReachedInTime.start :
    ReachedInTime initialCapacity
      (.start initialCapacity : WorkingServer μ) :=
  ⟨[], trivial, rfl⟩

theorem ReachedInTime.step
    (reached : ReachedInTime initialCapacity server)
    (event : WorkingEvent μ)
    (inTime : event.givesUp = false)
    (taken : workingStep server event = some next) :
    ReachedInTime initialCapacity next := by
  obtain ⟨events, allowed, ran⟩ := reached
  refine ⟨events ++ [event], ?_, ?_⟩
  · exact allowed.concat ran inTime
  · rw [run_append, ran, Option.bind_some, run_cons, taken]
    rfl

theorem ReachedInTime.awaited
    (reached : ReachedInTime initialCapacity server) :
    WorkingInvariant server ∧ ThreadsAwaited server := by
  obtain ⟨events, allowed, ran⟩ := reached
  refine @run_induction _ _ workingStep InTime
    (fun server => WorkingInvariant server ∧ ThreadsAwaited server)
    (fun server event next holds inTime taken => ?_) _ _ _ ?_ allowed ran
  · exact ⟨holds.1.step taken, holds.2.step inTime taken⟩
  · exact ⟨WorkingInvariant.start initialCapacity,
      ThreadsAwaited.start initialCapacity⟩

/-- Any numbers of threads can be created. -/
theorem ReachedInTime.create
    (iocpThreads handlerThreads : Nat) :
    ∃ server : WorkingServer μ, ReachedInTime initialCapacity server ∧
      server.running = true ∧ server.retransmitThread = none ∧
      server.iocpThreads = List.replicate iocpThreads .loop ∧
      server.handlerThreads = List.replicate handlerThreads .loop := by
  induction handlerThreads with
  | zero =>
      induction iocpThreads with
      | zero => exact ⟨_, .start, rfl, rfl, rfl, rfl⟩
      | succ count inductionHypothesis =>
          obtain ⟨server, reached, runs, absent, iocp, handlers⟩ :=
            inductionHypothesis
          refine ⟨_, reached.step .createIocpThread rfl
            (if_pos runs), runs, absent, ?_, handlers⟩
          rw [iocp, List.replicate_succ']
  | succ count inductionHypothesis =>
      obtain ⟨server, reached, runs, absent, iocp, handlers⟩ :=
        inductionHypothesis
      refine ⟨_, reached.step .createHandlerThread rfl
        (if_pos runs), runs, absent, iocp, ?_⟩
      rw [handlers, List.replicate_succ']

/-- The server is stopped, and has posted its shutdown packets. -/
theorem ReachedInTime.post
    {rest : List StopAction}
    (posts : Nat)
    (reached : ReachedInTime initialCapacity server)
    (ahead : server.actions =
      List.replicate posts StopAction.post ++ rest) :
    ∃ next : WorkingServer μ, ReachedInTime initialCapacity next ∧
      next.running = server.running ∧ next.actions = rest ∧
      next.iocpThreads = server.iocpThreads ∧
      next.handlerThreads = server.handlerThreads ∧
      next.retransmitThread = server.retransmitThread := by
  induction posts generalizing server with
  | zero => exact ⟨server, reached, rfl, ahead, rfl, rfl, rfl⟩
  | succ posts inductionHypothesis =>
      have taken : workingStep server .action = some
          { server with
            completionPort := server.completionPort ++ [.shutdown]
            actions := List.replicate posts StopAction.post ++ rest } := by
        rw [List.replicate_succ, List.cons_append] at ahead
        rw [workingStep, ahead]
        rfl
      have posted := inductionHypothesis (reached.step .action rfl taken) rfl
      exact posted

/-- The I/O threads that are still before their loop end one by one. -/
theorem ReachedInTime.endIocp
    {done : List (IocpPhase μ)}
    (count : Nat)
    (reached : ReachedInTime initialCapacity server)
    (ends : server.running = false)
    (threads : server.iocpThreads = done ++ List.replicate count .loop) :
    ReachedInTime initialCapacity
      { server with
        iocpThreads := done ++ List.replicate count .ended } := by
  induction count generalizing server done with
  | zero => exact threads ▸ reached
  | succ count inductionHypothesis =>
      have taken : workingStep server (.iocp done.length true true none) =
          some { server with
            iocpThreads :=
              (done ++ [.ended]) ++ List.replicate count .loop } := by
        simp [workingStep, threads, List.replicate_succ,
          WorkingServer.iocpStep, ends]
      have rest := inductionHypothesis (reached.step _ rfl taken) ends rfl
      rw [List.replicate_succ]
      simpa using rest

/-- So do the handlers. -/
theorem ReachedInTime.endHandlers
    {done : List (HandlerPhase μ)}
    (count : Nat)
    (reached : ReachedInTime initialCapacity server)
    (ends : server.running = false)
    (threads : server.handlerThreads =
      done ++ List.replicate count .loop) :
    ReachedInTime initialCapacity
      { server with
        handlerThreads := done ++ List.replicate count .ended } := by
  induction count generalizing server done with
  | zero => exact threads ▸ reached
  | succ count inductionHypothesis =>
      have taken : workingStep server (.handler done.length) =
          some { server with
            handlerThreads :=
              (done ++ [.ended]) ++ List.replicate count .loop } := by
        simp [workingStep, threads, List.replicate_succ,
          WorkingServer.handlerStep, ends]
      have rest := inductionHypothesis (reached.step _ rfl taken) ends rfl
      rw [List.replicate_succ]
      simpa using rest

/-- The wait for the I/O threads is over; more threads than it supports are
still where they were. -/
theorem ReachedInTime.joinIocp
    {rest : List StopAction}
    {count : Nat}
    (reached : ReachedInTime initialCapacity server)
    (ends : server.running = false)
    (ahead : server.actions = .joinIocpThreads :: rest)
    (threads : server.iocpThreads = List.replicate count .loop) :
    ReachedInTime initialCapacity
      { server with
        actions := rest
        iocpThreads := List.replicate count
          (if maximumWaitObjects < count then .loop else .ended) } := by
  split
  case isTrue many =>
    refine reached.step .action rfl ?_
    simp [workingStep, ahead, WorkingServer.actionStep,
      WorkingServer.waitReturns, threads, many]
  case isFalse =>
    have ended := reached.endIocp count ends
      (threads.trans (List.nil_append _).symm)
    refine ended.step .action rfl ?_
    simp [workingStep, ahead, WorkingServer.actionStep,
      WorkingServer.waitReturns, IocpPhase.isEnded]

/-- The same for the handlers. -/
theorem ReachedInTime.joinHandlers
    {rest : List StopAction}
    {count : Nat}
    (reached : ReachedInTime initialCapacity server)
    (ends : server.running = false)
    (ahead : server.actions = .joinHandlerThreads :: rest)
    (threads : server.handlerThreads = List.replicate count .loop) :
    ReachedInTime initialCapacity
      { server with
        actions := rest
        handlerThreads := List.replicate count
          (if maximumWaitObjects < count then .loop else .ended) } := by
  split
  case isTrue many =>
    refine reached.step .action rfl ?_
    simp [workingStep, ahead, WorkingServer.actionStep,
      WorkingServer.waitReturns, threads, many]
  case isFalse =>
    have ended := reached.endHandlers count ends
      (threads.trans (List.nil_append _).symm)
    refine ended.step .action rfl ?_
    simp [workingStep, ahead, WorkingServer.actionStep,
      WorkingServer.waitReturns, HandlerPhase.isEnded]

/-- The retransmit thread ends, and the wait for it is over. -/
theorem ReachedInTime.joinRetransmit
    {rest : List StopAction}
    (reached : ReachedInTime initialCapacity server)
    (ends : server.running = false)
    (ahead : server.actions = .joinRetransmitThread :: rest)
    (thread : server.retransmitThread = some .loop) :
    ReachedInTime initialCapacity
      { server with
        actions := rest
        retransmitThread := some .ended } := by
  have ended : workingStep server .retransmit =
      some { server with retransmitThread := some .ended } := by
    simp only [workingStep, thread, ends]
    rfl
  refine (reached.step .retransmit rfl ended).step .action rfl ?_
  simp [workingStep, ahead, WorkingServer.actionStep,
    WorkingServer.waitReturns, RetransmitPhase.isEnded]

/-- A server of any numbers of threads is stopped, and torn down while those
threads that are too many for one wait have not moved. -/
theorem ReachedInTime.stop
    (iocpThreads handlerThreads : Nat) :
    ∃ server : WorkingServer μ, ReachedInTime initialCapacity server ∧
      server.actions.head? = some .tearDown ∧
      server.iocpThreads = List.replicate iocpThreads
        (if maximumWaitObjects < iocpThreads then .loop else .ended) ∧
      server.handlerThreads = List.replicate handlerThreads
        (if maximumWaitObjects < handlerThreads then .loop
          else .ended) := by
  obtain ⟨created, reached, runs, absent, iocp, handlers⟩ :=
    @ReachedInTime.create μ initialCapacity iocpThreads handlerThreads
  have complete := reached.step .createRetransmitThread rfl
    (if_pos ⟨runs, absent⟩)
  have stopped := complete.step .stop rfl (if_pos runs)
  obtain ⟨posted, reached, ends, ahead, sameIocp, sameHandlers,
    sameRetransmit⟩ := stopped.post created.iocpThreads.length rfl
  have first := reached.joinIocp ends ahead (sameIocp.trans iocp)
  have halted := first.step .action rfl rfl
  have second := halted.joinHandlers ends rfl (sameHandlers.trans handlers)
  have last := second.joinRetransmit ends rfl sameRetransmit
  exact ⟨_, last, rfl, rfl, rfl⟩

/-- Every tear-down that comes after waits in time, of a server with the given
numbers of I/O threads and handlers, finds all threads ended, if and only if
neither number is more than one wait supports. -/
theorem tear_down_finds_threads_ended_iff
    (initialCapacity iocpThreads handlerThreads : Nat) :
    (∀ server : WorkingServer μ, ReachedInTime initialCapacity server ->
      server.iocpThreads.length = iocpThreads ->
      server.handlerThreads.length = handlerThreads ->
      server.actions.head? = some .tearDown ->
      server.allEnded = true) ↔
    iocpThreads ≤ maximumWaitObjects ∧
      handlerThreads ≤ maximumWaitObjects := by
  constructor
  · intro always
    obtain ⟨server, reached, ahead, iocp, handlers⟩ :=
      @ReachedInTime.stop μ initialCapacity iocpThreads handlerThreads
    have ended := always server reached (by simp [iocp])
      (by simp [handlers]) ahead
    simp only [WorkingServer.allEnded, Bool.and_eq_true, iocp,
      handlers] at ended
    refine ⟨Nat.le_of_not_lt fun many => ?_,
      Nat.le_of_not_lt fun many => ?_⟩
    · have first := ended.1.1
      rw [if_pos many] at first
      have several : iocpThreads ≠ 0 := Nat.ne_zero_of_lt many
      simp [several, IocpPhase.isEnded] at first
    · have second := ended.1.2
      rw [if_pos many] at second
      have several : handlerThreads ≠ 0 := Nat.ne_zero_of_lt many
      simp [several, HandlerPhase.isEnded] at second
  · rintro ⟨fewIocp, fewHandlers⟩ server reached rfl rfl ahead
    obtain ⟨invariant, awaited⟩ := reached.awaited
    exact awaited.allEnded invariant ahead fewIocp fewHandlers

end Kronos
