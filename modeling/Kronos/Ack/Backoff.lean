import Kronos.Ack.Pending

/-!
# The schedule of retries

An entry that nobody acknowledges is retried by the checks alone.  The wait
before a retry starts at the base timeout, doubles with each of the first six
retries and is never longer than a minute; the check after the last retry gives
the entry up.
-/

namespace Kronos

open Library

/-! ## One entry along a run -/

/-- The pending entry under a handle. -/
def entryAt (handle : Nat) (history : TrackerHistory) : Option AckEntry :=
  lookup AckEntry.handle history.tracker.pending handle

theorem afterEvent_handle
    {tracker : AckTracker}
    {event : TrackerEvent}
    {entry kept : AckEntry}
    (left : afterEvent tracker event entry = some kept) :
    kept.handle = entry.handle := by
  rcases afterEvent_cases left with
    rfl | ⟨ackedPacketId, channel, rfl⟩ | ⟨now, -, rfl⟩
  · rfl
  · exact observeAck_handle ackedPacketId channel entry
  · rfl

theorem registeredBy_handle
    {handle : Nat}
    {event : TrackerEvent}
    {entry : AckEntry}
    (registered : registeredBy handle event = some entry) :
    entry.handle = handle := by
  unfold registeredBy at registered
  split at registered
  · split_ifs at registered
    cases registered
    rfl
  · cases registered

/-- A call does to the entry under a handle that was given out before what it
does to entries. -/
theorem entryAt_trackerStep
    {history : TrackerHistory}
    (invariant : TrackerInvariant history)
    {handle : Nat}
    (known : handle < history.tracker.registered)
    (event : TrackerEvent) :
    entryAt handle (trackerStep history event) =
      (entryAt handle history).bind (afterEvent history.tracker event) := by
  have after := trackerStep_invariant invariant event
  have others : ∀ kept ∈ (trackerStep history event).tracker.pending,
      kept.handle = handle -> ∃ entry ∈ history.tracker.pending,
        entry.handle = handle ∧
          afterEvent history.tracker event entry = some kept := by
    intro kept member same
    rw [trackerStep_pending] at member
    rcases List.mem_append.mp member with old | new
    · obtain ⟨entry, present, left⟩ := List.mem_filterMap.mp old
      exact ⟨entry, present, (afterEvent_handle left).symm.trans same, left⟩
    · rw [Option.mem_toList] at new
      have fresh := registeredBy_handle new
      omega
  apply Option.ext
  intro kept
  rw [entryAt, after.distinct.lookup_eq_some_iff, Option.bind_eq_some_iff]
  constructor
  · rintro ⟨member, same⟩
    obtain ⟨entry, present, here, left⟩ := others kept member same
    exact ⟨entry, invariant.distinct.lookup_eq_some_iff.mpr ⟨present, here⟩,
      left⟩
  · rintro ⟨entry, found, left⟩
    obtain ⟨present, here⟩ :=
      invariant.distinct.lookup_eq_some_iff.mp found
    refine ⟨?_, (afterEvent_handle left).trans here⟩
    rw [trackerStep_pending]
    exact List.mem_append_left _
      (List.mem_filterMap.mpr ⟨entry, present, left⟩)

/-- Handles that were given out stay given out. -/
theorem registered_le_trackerStep
    (history : TrackerHistory)
    (event : TrackerEvent) :
    history.tracker.registered ≤
      (trackerStep history event).tracker.registered := by
  rw [trackerStep_registered]
  exact Nat.le_add_right _ _

/-! ## The schedule -/

/-- What a check does with an entry that it does not leave alone. -/
inductive Attempt
  | retry (now : UInt64)
  | drop (now : UInt64)
  deriving DecidableEq, Repr

/-- The attempt is a retry. -/
def Attempt.isRetry : Attempt -> Bool
  | .retry _ => true
  | .drop _ => false

/-- What a call does with the entry under a handle. -/
def attemptBy (handle : Nat) (history : TrackerHistory) :
    TrackerEvent -> Option Attempt
  | .checkTimeouts now _ _ =>
      (entryAt handle history).bind fun entry =>
        if retryDue history.tracker now entry then some (.retry now)
        else if dropDue history.tracker now entry then some (.drop now)
        else none
  | _ => none

/-- What the calls of a run do with the entry under a handle. -/
def attempts (handle : Nat) :
    TrackerHistory -> List TrackerEvent -> List Attempt
  | _, [] => []
  | history, event :: events =>
      (attemptBy handle history event).toList ++
        attempts handle (trackerStep history event) events

/-- The time of a check. -/
def TrackerEvent.checkTime : TrackerEvent -> Option UInt64
  | .checkTimeouts now _ _ => some now
  | _ => none

/-- The times of the checks of a run. -/
def checkTimes (events : List TrackerEvent) : List UInt64 :=
  events.filterMap TrackerEvent.checkTime

/-- The wait after the last attempt of an entry that was retried `retries`
times. -/
def backoffMs (timeoutMs retries : Nat) : Nat :=
  min (timeoutMs * 2 ^ min retries 6) krsAckRtoBackoffMaxMs

/-- The attempts that the checks at the given times make for an entry with
`retries` retries and its last attempt at `last`: the next one comes with the
first check at or after the end of the wait. -/
inductive Follows (timeoutMs maxRetries : Nat) :
    UInt64 -> Nat -> List UInt64 -> List Attempt -> Prop
  | waiting
      {last : UInt64}
      {retries : Nat}
      {checks : List UInt64}
      (early : ∀ now ∈ checks,
        now.toNat < last.toNat + backoffMs timeoutMs retries) :
      Follows timeoutMs maxRetries last retries checks []
  | retried
      {last now : UInt64}
      {retries : Nat}
      {earlier later : List UInt64}
      {made : List Attempt}
      (early : ∀ before ∈ earlier,
        before.toNat < last.toNat + backoffMs timeoutMs retries)
      (reached : last.toNat + backoffMs timeoutMs retries ≤ now.toNat)
      (left : retries < maxRetries)
      (rest : Follows timeoutMs maxRetries now (retries + 1) later made) :
      Follows timeoutMs maxRetries last retries (earlier ++ now :: later)
        (.retry now :: made)
  | dropped
      {last now : UInt64}
      {retries : Nat}
      {earlier later : List UInt64}
      (early : ∀ before ∈ earlier,
        before.toNat < last.toNat + backoffMs timeoutMs retries)
      (reached : last.toNat + backoffMs timeoutMs retries ≤ now.toNat)
      (exhausted : retries = maxRetries) :
      Follows timeoutMs maxRetries last retries (earlier ++ now :: later)
        [.drop now]

/-- A check before the end of the wait does nothing. -/
theorem Follows.early
    {timeoutMs maxRetries : Nat}
    {last now : UInt64}
    {retries : Nat}
    {checks : List UInt64}
    {made : List Attempt}
    (follows : Follows timeoutMs maxRetries last retries checks made)
    (soon : now.toNat < last.toNat + backoffMs timeoutMs retries) :
    Follows timeoutMs maxRetries last retries (now :: checks) made := by
  have one {earlier : List UInt64}
      (early : ∀ before ∈ earlier,
        before.toNat < last.toNat + backoffMs timeoutMs retries) :
      ∀ before ∈ now :: earlier,
        before.toNat < last.toNat + backoffMs timeoutMs retries := by
    intro before member
    rcases List.mem_cons.mp member with rfl | later
    · exact soon
    · exact early before later
  cases follows with
  | waiting early => exact .waiting (one early)
  | retried early reached left rest =>
      rw [← List.cons_append]
      exact .retried (one early) reached left rest
  | dropped early reached exhausted =>
      rw [← List.cons_append]
      exact .dropped (one early) reached exhausted

/-- An entry is retried at most as often as allowed, and exactly as often
before it is dropped. -/
theorem Follows.retries_le
    {timeoutMs maxRetries : Nat}
    {last : UInt64}
    {retries : Nat}
    {checks : List UInt64}
    {made : List Attempt}
    (follows : Follows timeoutMs maxRetries last retries checks made)
    (within : retries ≤ maxRetries) :
    retries + made.countP Attempt.isRetry ≤ maxRetries ∧
      ∀ now, .drop now ∈ made ->
        retries + made.countP Attempt.isRetry = maxRetries := by
  induction follows with
  | waiting early => exact ⟨within, nofun⟩
  | retried early reached left rest inductionHypothesis =>
      obtain ⟨atMost, exactly⟩ := inductionHypothesis left
      rw [List.countP_cons_of_pos rfl]
      refine ⟨by omega, ?_⟩
      intro now member
      rcases List.mem_cons.mp member with impossible | later
      · cases impossible
      · have total := exactly now later
        omega
  | dropped early reached exhausted =>
      exact ⟨within, fun _ _ => exhausted⟩

/-! ## The checks follow the schedule -/

/-- The call neither acknowledges the packet or a later one of its channel nor
changes the base timeout. -/
def QuietFor (packetId : UInt64) (channel : Channel) : TrackerEvent -> Prop
  | .receive ackedPacketId onChannel =>
      onChannel = channel -> ackedPacketId < packetId
  | .receiveRtt ackedPacketId onChannel _ =>
      onChannel = channel -> ackedPacketId < packetId
  | .setTimeout _ => False
  | _ => True

instance (packetId : UInt64) (channel : Channel) (event : TrackerEvent) :
    Decidable (QuietFor packetId channel event) :=
  match event with
  | .receive _ _ => inferInstanceAs (Decidable (_ -> _))
  | .receiveRtt _ _ _ => inferInstanceAs (Decidable (_ -> _))
  | .setTimeout _ => isFalse id
  | .expect _ _ _ _ _ _ => isTrue trivial
  | .checkTimeouts _ _ _ => isTrue trivial
  | .setFastRetransmitEnabled _ => isTrue trivial

/-- The arithmetic of a check on an entry stays inside its machine integers:
the elapsed time, the shifted timeout and the retry counter. -/
structure ExactArithmetic
    (tracker : AckTracker)
    (now : UInt64)
    (entry : AckEntry) : Prop where
  elapsed : (now - entry.timestampMs).toNat =
    now.toNat - entry.timestampMs.toNat
  ordered : entry.timestampMs.toNat ≤ now.toNat
  shifted : tracker.timeoutMs <<< min entry.retryCount 6 < 2 ^ 32
  counted : retryDue tracker now entry = true -> entry.retryCount + 1 < 2 ^ 8

section Entry

variable
  (handle : Nat)
  (packetId : UInt64)
  (channel : Channel)
  (timeoutMs maxRetries : Nat)

/-- The entry under the handle waits for its packet, was retried `retries`
times, and was tried at `last` for the last time. -/
structure Waits
    (history : TrackerHistory)
    (last : UInt64)
    (retries : Nat)
    (entry : AckEntry) : Prop where
  invariant : TrackerInvariant history
  known : handle < history.tracker.registered
  timeout : history.tracker.timeoutMs = timeoutMs
  limit : history.tracker.maxRetries = maxRetries
  found : entryAt handle history = some entry
  packet : entry.packetId = packetId
  onChannel : entry.channel = channel
  lastAttempt : entry.timestampMs = last
  retried : entry.retryCount = retries
  unobserved : entry.ackedAfterCount = 0
  within : retries ≤ maxRetries

/-- The entry under the handle is not pending any more. -/
structure Gone (history : TrackerHistory) : Prop where
  invariant : TrackerInvariant history
  known : handle < history.tracker.registered
  absent : entryAt handle history = none

end Entry

section Steps

variable
  {handle : Nat}
  {packetId : UInt64}
  {channel : Channel}
  {timeoutMs maxRetries : Nat}
  {history : TrackerHistory}
  {last : UInt64}
  {retries : Nat}
  {entry : AckEntry}

/-- The wait that the code computes is the backoff. -/
theorem effectiveTimeoutMs_eq_backoffMs
    {tracker : AckTracker}
    (short : tracker.timeoutMs ≤ krsAckRtoBackoffMaxMs)
    (entry : AckEntry) :
    effectiveTimeoutMs tracker entry =
      backoffMs tracker.timeoutMs entry.retryCount := by
  have shift : (if entry.retryCount > 6 then 6 else entry.retryCount) =
      min entry.retryCount 6 := by
    split
    case isTrue => omega
    case isFalse => omega
  unfold effectiveTimeoutMs backoffMs
  split
  case isTrue =>
    simp only [shift, Nat.shiftLeft_eq]
    split
    case isTrue => omega
    case isFalse => omega
  case isFalse untried =>
    have none : entry.retryCount = 0 := by omega
    rw [none]
    simpa using short

theorem QuietFor.timeoutAfter
    {event : TrackerEvent}
    (quiet : QuietFor packetId channel event)
    (timeoutMs : Nat) :
    event.timeoutAfter timeoutMs = timeoutMs := by
  cases event with
  | setTimeout newTimeoutMs => cases quiet
  | expect => rfl
  | receive => rfl
  | receiveRtt => rfl
  | checkTimeouts => rfl
  | setFastRetransmitEnabled => rfl

/-- An acknowledgement of an earlier packet, or on another channel, leaves an
entry as it is. -/
theorem afterAck_of_earlier
    (tracker : AckTracker)
    {ackedPacketId : UInt64}
    {onChannel : Channel}
    (earlier : onChannel = entry.channel -> ackedPacketId < entry.packetId) :
    afterAck tracker ackedPacketId onChannel entry = some entry := by
  by_cases same : onChannel = entry.channel
  · have below := earlier same
    have different : entry.packetId ≠ ackedPacketId :=
      (UInt64.ne_of_lt below).symm
    have notLater : ¬ entry.packetId < ackedPacketId :=
      UInt64.not_lt.mpr (UInt64.le_of_lt below)
    simp [afterAck, AckEntry.awaits, observed, observeAck, different,
      notLater]
  · have other : entry.channel ≠ onChannel := fun equal => same equal.symm
    simp [afterAck, AckEntry.awaits, observed, observeAck, other]

/-- A quiet call that is no check leaves the entry as it is. -/
theorem afterEvent_of_quiet
    (tracker : AckTracker)
    {event : TrackerEvent}
    (quiet : QuietFor entry.packetId entry.channel event)
    (noCheck : event.checkTime = none) :
    afterEvent tracker event entry = some entry := by
  cases event with
  | expect => rfl
  | receive ackedPacketId onChannel => exact afterAck_of_earlier tracker quiet
  | receiveRtt ackedPacketId onChannel now =>
      exact afterAck_of_earlier tracker quiet
  | checkTimeouts => cases noCheck
  | setTimeout => rfl
  | setFastRetransmitEnabled => rfl

/-- The entry as a quiet call leaves it waits on. -/
theorem Waits.next
    (waits : Waits handle packetId channel timeoutMs maxRetries history last
      retries entry)
    {event : TrackerEvent}
    (quiet : QuietFor packetId channel event)
    {kept : AckEntry}
    (left : afterEvent history.tracker event entry = some kept)
    (packet : kept.packetId = entry.packetId)
    (onChannel : kept.channel = entry.channel)
    (unobserved : kept.ackedAfterCount = 0)
    (within : kept.retryCount ≤ maxRetries) :
    Waits handle packetId channel timeoutMs maxRetries
      (trackerStep history event) kept.timestampMs kept.retryCount kept where
  invariant := trackerStep_invariant waits.invariant event
  known := waits.known.trans_le (registered_le_trackerStep history event)
  timeout := by
    rw [(trackerStep_settings history event).1, quiet.timeoutAfter]
    exact waits.timeout
  limit := by
    rw [trackerStep_maxRetries]
    exact waits.limit
  found := by
    rw [entryAt_trackerStep waits.invariant waits.known, waits.found]
    exact left
  packet := packet.trans waits.packet
  onChannel := onChannel.trans waits.onChannel
  lastAttempt := rfl
  retried := rfl
  unobserved := unobserved
  within := within

/-- After a call that leaves the entry alone, the entry still waits. -/
theorem Waits.unchanged
    (waits : Waits handle packetId channel timeoutMs maxRetries history last
      retries entry)
    {event : TrackerEvent}
    (quiet : QuietFor packetId channel event)
    (left : afterEvent history.tracker event entry = some entry) :
    Waits handle packetId channel timeoutMs maxRetries
      (trackerStep history event) last retries entry := by
  have next := waits.next quiet left rfl rfl waits.unobserved
    (waits.retried ▸ waits.within)
  rwa [waits.lastAttempt, waits.retried] at next

theorem Gone.next
    (gone : Gone handle history)
    (event : TrackerEvent) :
    Gone handle (trackerStep history event) where
  invariant := trackerStep_invariant gone.invariant event
  known := gone.known.trans_le (registered_le_trackerStep history event)
  absent := by
    rw [entryAt_trackerStep gone.invariant gone.known, gone.absent]
    rfl

/-- The time that has passed since the last attempt. -/
theorem Waits.exactArithmetic
    (waits : Waits handle packetId channel timeoutMs maxRetries history last
      retries entry)
    (short : timeoutMs ≤ krsAckRtoBackoffMaxMs)
    (small : maxRetries < 2 ^ 8)
    {now : UInt64}
    (ordered : last ≤ now) :
    ExactArithmetic history.tracker now entry where
  elapsed := by
    rw [waits.lastAttempt, UInt64.toNat_sub_of_le _ _ ordered]
  ordered := by
    rw [waits.lastAttempt]
    exact ordered
  shifted := by
    have shift : 2 ^ min entry.retryCount 6 ≤ 2 ^ 6 :=
      Nat.pow_le_pow_right (by decide) (Nat.min_le_right _ _)
    rw [Nat.shiftLeft_eq, waits.timeout]
    calc
      timeoutMs * 2 ^ min entry.retryCount 6 ≤ 60000 * 2 ^ 6 :=
        Nat.mul_le_mul short shift
      _ < 2 ^ 32 := by decide
  counted := by
    intro retried
    rw [retryDue, Bool.and_eq_true, decide_eq_true_eq, waits.limit] at retried
    omega

/-- An entry that waits is due once its backoff is over. -/
theorem Waits.due_iff
    (waits : Waits handle packetId channel timeoutMs maxRetries history last
      retries entry)
    (short : timeoutMs ≤ krsAckRtoBackoffMaxMs)
    {now : UInt64}
    (ordered : last ≤ now) :
    due history.tracker now entry = true ↔
      last.toNat + backoffMs timeoutMs retries ≤ now.toNat := by
  have slow : fastRetransmitDue history.tracker entry = false := by
    rw [fastRetransmitDue, waits.unobserved]
    exact Bool.and_false _
  have below : last.toNat ≤ now.toNat := ordered
  rw [due, slow, Bool.false_or, timeoutDue, decide_eq_true_eq,
    effectiveTimeoutMs_eq_backoffMs (waits.timeout.symm ▸ short),
    waits.lastAttempt, UInt64.toNat_sub_of_le _ _ ordered, waits.timeout,
    waits.retried]
  omega

/-- A check leaves a waiting entry alone before the end of its backoff, and
then retries it or, after the last retry, drops it. -/
theorem Waits.check
    (waits : Waits handle packetId channel timeoutMs maxRetries history last
      retries entry)
    (short : timeoutMs ≤ krsAckRtoBackoffMaxMs)
    {now : UInt64}
    (ordered : last ≤ now)
    (outCapacity droppedCapacity : Nat) :
    let event : TrackerEvent := .checkTimeouts now outCapacity
      droppedCapacity
    let deadline := last.toNat + backoffMs timeoutMs retries
    (now.toNat < deadline ∧ attemptBy handle history event = none ∧
        Waits handle packetId channel timeoutMs maxRetries
          (trackerStep history event) last retries entry) ∨
      (deadline ≤ now.toNat ∧ retries < maxRetries ∧
        attemptBy handle history event = some (.retry now) ∧
        Waits handle packetId channel timeoutMs maxRetries
          (trackerStep history event) now (retries + 1)
          (retriedEntry now entry)) ∨
      (deadline ≤ now.toNat ∧ retries = maxRetries ∧
        attemptBy handle history event = some (.drop now) ∧
        Gone handle (trackerStep history event)) := by
  intro event deadline
  have quiet : QuietFor packetId channel event := trivial
  have attempted : attemptBy handle history event =
      if retryDue history.tracker now entry then some (.retry now)
      else if dropDue history.tracker now entry then some (.drop now)
      else none := by
    change (entryAt handle history).bind _ = _
    rw [waits.found]
    rfl
  have within := waits.within
  rcases Nat.lt_or_ge now.toNat deadline with soon | reached
  · have notDue : due history.tracker now entry = false := by
      rw [← Bool.not_eq_true, waits.due_iff short ordered]
      exact Nat.not_le.mpr soon
    left
    refine ⟨soon, ?_, waits.unchanged quiet ?_⟩
    · rw [attempted]
      simp [retryDue, dropDue, notDue]
    · change afterCheck history.tracker now entry = some entry
      simp [afterCheck, retryDue, dropDue, notDue]
  · have isDue : due history.tracker now entry = true :=
      (waits.due_iff short ordered).mpr reached
    right
    rcases Nat.lt_or_ge retries maxRetries with again | exhausted
    · have retried : retryDue history.tracker now entry = true := by
        simp [retryDue, isDue, waits.limit, waits.retried, again]
      left
      refine ⟨reached, again, ?_, ?_⟩
      · rw [attempted, if_pos retried]
      · have left : afterEvent history.tracker event entry =
            some (retriedEntry now entry) := by
          change afterCheck history.tracker now entry = _
          rw [afterCheck, dropDue_of_retryDue retried, retried]
          rfl
        have next := waits.next quiet left rfl rfl rfl (by
          change entry.retryCount + 1 ≤ maxRetries
          rw [waits.retried]
          exact again)
        change Waits _ _ _ _ _ _ now (entry.retryCount + 1) _ at next
        rwa [waits.retried] at next
    · have last : retries = maxRetries := by omega
      have dropped : dropDue history.tracker now entry = true := by
        simp [dropDue, isDue, waits.limit, waits.retried, exhausted]
      have notRetried : retryDue history.tracker now entry = false := by
        simp [retryDue, waits.limit, waits.retried, exhausted]
      right
      refine ⟨reached, last, ?_, ?_⟩
      · rw [attempted, notRetried, dropped]
        rfl
      · refine ⟨trackerStep_invariant waits.invariant event,
          waits.known.trans_le (registered_le_trackerStep history event),
          ?_⟩
        rw [entryAt_trackerStep waits.invariant waits.known, waits.found]
        change afterCheck history.tracker now entry = none
        rw [afterCheck, dropped]
        rfl

/-- What is left of a run does nothing with an entry that is gone. -/
theorem Gone.attempts
    (gone : Gone handle history)
    (events : List TrackerEvent) :
    Kronos.attempts handle history events = [] := by
  induction events generalizing history with
  | nil => rfl
  | cons event events inductionHypothesis =>
      have none : attemptBy handle history event = none := by
        unfold attemptBy
        split
        case h_1 =>
          rw [gone.absent]
          rfl
        case h_2 => rfl
      rw [Kronos.attempts, none, inductionHypothesis (gone.next event)]
      rfl

/-- A check computes exactly with the entry under a handle. -/
def CheckExact (handle : Nat) (history : TrackerHistory) :
    TrackerEvent -> Prop
  | .checkTimeouts now _ _ => ∀ entry, entryAt handle history = some entry ->
      ExactArithmetic history.tracker now entry
  | _ => True

/-- The arithmetic of every check of a run is exact for the entry. -/
def ChecksExact (handle : Nat) : TrackerHistory -> List TrackerEvent -> Prop
  | _, [] => True
  | history, event :: events =>
      CheckExact handle history event ∧
        ChecksExact handle (trackerStep history event) events

theorem Gone.checksExact
    (gone : Gone handle history)
    (events : List TrackerEvent) :
    ChecksExact handle history events := by
  induction events generalizing history with
  | nil => trivial
  | cons event events inductionHypothesis =>
      refine ⟨?_, inductionHypothesis (gone.next event)⟩
      unfold CheckExact
      split
      case h_1 =>
        intro entry found
        rw [gone.absent] at found
        cases found
      case h_2 => trivial

/-- From any state in which the entry waits, the rest of a quiet run follows
the schedule, and its arithmetic is exact. -/
theorem Waits.follows
    (waits : Waits handle packetId channel timeoutMs maxRetries history last
      retries entry)
    (short : timeoutMs ≤ krsAckRtoBackoffMaxMs)
    (small : maxRetries < 2 ^ 8)
    {events : List TrackerEvent}
    (quiet : ∀ event ∈ events, QuietFor packetId channel event)
    (ordered : (last :: checkTimes events).Pairwise (· ≤ ·)) :
    Follows timeoutMs maxRetries last retries (checkTimes events)
        (Kronos.attempts handle history events) ∧
      ChecksExact handle history events := by
  induction events generalizing history last retries entry with
  | nil => exact ⟨.waiting nofun, trivial⟩
  | cons event events inductionHypothesis =>
      have quietNow := quiet event List.mem_cons_self
      have quietLater : ∀ later ∈ events, QuietFor packetId channel later :=
        fun later member => quiet later (List.mem_cons_of_mem _ member)
      cases checked : event.checkTime with
      | none =>
          have same : checkTimes (event :: events) = checkTimes events := by
            rw [checkTimes, List.filterMap_cons_none checked, checkTimes]
          have still := waits.unchanged quietNow (afterEvent_of_quiet
            history.tracker
            (waits.packet.symm ▸ waits.onChannel.symm ▸ quietNow) checked)
          have idle : attemptBy handle history event = none := by
            cases event <;> first | rfl | cases checked
          have exactly : CheckExact handle history event := by
            cases event <;> trivial
          rw [same] at ordered ⊢
          rw [Kronos.attempts, idle]
          obtain ⟨follows, exact⟩ := inductionHypothesis still quietLater
            ordered
          exact ⟨follows, exactly, exact⟩
      | some now =>
          obtain ⟨outCapacity, droppedCapacity, rfl⟩ : ∃ outCapacity
              droppedCapacity, event =
                .checkTimeouts now outCapacity droppedCapacity := by
            cases event <;> cases checked
            exact ⟨_, _, rfl⟩
          have times : checkTimes
              (.checkTimeouts now outCapacity droppedCapacity :: events) =
                now :: checkTimes events := rfl
          rw [times] at ordered ⊢
          obtain ⟨fromLast, fromNow⟩ := List.pairwise_cons.mp ordered
          have after : last ≤ now := fromLast now List.mem_cons_self
          have exactly : CheckExact handle history
              (.checkTimeouts now outCapacity droppedCapacity) := by
            intro other found
            rw [waits.found] at found
            cases found
            exact waits.exactArithmetic short small after
          have skipped : (last :: checkTimes events).Pairwise (· ≤ ·) :=
            List.pairwise_cons.mpr
              ⟨fun later member => fromLast later
                (List.mem_cons_of_mem _ member),
                (List.pairwise_cons.mp fromNow).2⟩
          rw [Kronos.attempts]
          rcases waits.check short after outCapacity droppedCapacity with
            ⟨soon, idle, still⟩ | ⟨reached, again, attempted, still⟩ |
            ⟨reached, exhausted, attempted, gone⟩
          · obtain ⟨follows, exact⟩ := inductionHypothesis still quietLater
              skipped
            rw [idle]
            exact ⟨follows.early soon, exactly, exact⟩
          · obtain ⟨follows, exact⟩ := inductionHypothesis still quietLater
              fromNow
            rw [attempted, ← List.nil_append (now :: checkTimes events)]
            exact ⟨.retried nofun reached again follows, exactly, exact⟩
          · rw [attempted, gone.attempts,
              ← List.nil_append (now :: checkTimes events)]
            exact ⟨.dropped nofun reached exhausted, exactly,
              gone.checksExact events⟩

end Steps

/-- A new entry waits since its registration. -/
theorem waits_of_expect
    (createdTimeoutMs maxRetries : Nat)
    (before : List TrackerEvent)
    (packetId : UInt64)
    (channel : Channel)
    (frameData : Option (List UInt8))
    (frameSize : Nat)
    (start : UInt64) :
    let earlier := trackerRun createdTimeoutMs maxRetries before
    let handle := earlier.tracker.registered
    Waits handle packetId channel earlier.tracker.timeoutMs maxRetries
      (trackerStep earlier
        (.expect packetId channel frameData frameSize start true)) start 0
      (newEntry handle packetId channel frameData frameSize start) := by
  intro earlier handle
  have invariant : TrackerInvariant earlier :=
    trackerRun_invariant createdTimeoutMs maxRetries before
  have after := trackerStep_invariant invariant
    (.expect packetId channel frameData frameSize start true)
  exact
    { invariant := after
      known := Nat.lt_succ_self _
      timeout := rfl
      limit := trackerRun_maxRetries createdTimeoutMs maxRetries before
      found := after.distinct.lookup_eq_some_iff.mpr
        ⟨List.mem_append_right _ List.mem_cons_self, rfl⟩
      packet := rfl
      onChannel := rfl
      lastAttempt := rfl
      retried := rfl
      unobserved := rfl
      within := Nat.zero_le _ }

/-- An entry that sees no acknowledgement of its packet or of a later one is
retried by the first check after each backoff, at most `maxRetries` times, and
is dropped by the first check after the backoff that follows the last retry. -/
theorem retries_follow_backoff
    {createdTimeoutMs maxRetries : Nat}
    {before after : List TrackerEvent}
    {packetId : UInt64}
    {channel : Channel}
    (frameData : Option (List UInt8))
    (frameSize : Nat)
    {start : UInt64}
    (short : (trackerRun createdTimeoutMs maxRetries
      before).tracker.timeoutMs ≤ 60000)
    (small : maxRetries < 2 ^ 8)
    (quiet : ∀ event ∈ after, QuietFor packetId channel event)
    (ordered : (start :: checkTimes after).Pairwise (· ≤ ·)) :
    let earlier := trackerRun createdTimeoutMs maxRetries before
    let handle := earlier.tracker.registered
    let registered := trackerStep earlier
      (.expect packetId channel frameData frameSize start true)
    let made := attempts handle registered after
    Follows earlier.tracker.timeoutMs maxRetries start 0 (checkTimes after)
        made ∧
      made.countP Attempt.isRetry ≤ maxRetries ∧
      (∀ now, .drop now ∈ made ->
        made.countP Attempt.isRetry = maxRetries) ∧
      ChecksExact handle registered after := by
  intro earlier handle registered made
  have waits := waits_of_expect createdTimeoutMs maxRetries before packetId
    channel frameData frameSize start
  obtain ⟨follows, exactly⟩ := waits.follows short small quiet ordered
  obtain ⟨atMost, whenDropped⟩ := follows.retries_le (Nat.zero_le _)
  rw [Nat.zero_add] at atMost
  refine ⟨follows, atMost, ?_, exactly⟩
  intro now dropped
  rw [← whenDropped now dropped, Nat.zero_add]

/-- Calls on a tracker with a packet 3 of channel 10: acknowledgements of an
earlier packet and on another channel, and five checks. -/
def lonelyCalls : List TrackerEvent :=
  [.checkTimeouts 50 8 8, .receive 5 11, .checkTimeouts 100 8 8,
    .checkTimeouts 250 8 8, .receive 2 10, .checkTimeouts 300 8 8,
    .checkTimeouts 800 8 8]

theorem lonely_packet_follows_backoff :
    let registered := trackerRun 100 2 [.expect 3 10 none 0 0 true]
    attempts 0 registered lonelyCalls =
        [.retry 100, .retry 300, .drop 800] ∧
      Follows 100 2 0 0 [50, 100, 250, 300, 800]
        [.retry 100, .retry 300, .drop 800] := by
  have short : (trackerRun 100 2 []).tracker.timeoutMs ≤ 60000 := by decide
  have small : 2 < 2 ^ 8 := by decide
  have quiet : ∀ event ∈ lonelyCalls, QuietFor 3 10 event := by decide
  have ordered : (0 :: checkTimes lonelyCalls).Pairwise (· ≤ ·) := by decide
  have made : attempts 0 (trackerRun 100 2 [.expect 3 10 none 0 0 true])
      lonelyCalls = [.retry 100, .retry 300, .drop 800] := by
    decide
  have follows := (retries_follow_backoff none 0 short small quiet
    ordered).1
  refine ⟨made, ?_⟩
  rw [← made]
  exact follows

end Kronos
