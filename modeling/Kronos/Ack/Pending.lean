import Kronos.Ack.RetryFrame

/-!
# What a tracker still waits for

The pending list of a tracker is read off the calls made on it: it holds, in
the order of registration, the frames that no later call ended.  A call ends a
registration when it acknowledges its packet id on its channel, or when it is a
check that gives the entry up.

The entries of one channel do not depend on the calls made for the others,
although all channels share the list.
-/

namespace Kronos

open Library

/-! ## One call -/

/-- What a call leaves of a pending entry. -/
def afterEvent
    (tracker : AckTracker)
    (event : TrackerEvent)
    (entry : AckEntry) : Option AckEntry :=
  match event with
  | .receive ackedPacketId channel => afterAck tracker ackedPacketId channel entry
  | .receiveRtt ackedPacketId channel _ =>
      afterAck tracker ackedPacketId channel entry
  | .checkTimeouts now _ _ => afterCheck tracker now entry
  | _ => some entry

/-- The entry that a call registers under a handle. -/
def registeredBy (handle : Nat) : TrackerEvent -> Option AckEntry
  | .expect packetId channel frameData frameSize now allocated =>
      if allocated then
        some (newEntry handle packetId channel frameData frameSize now)
      else none
  | _ => none

/-- Each call rewrites or removes the entries one by one and adds at most one
at the end. -/
theorem trackerStep_pending
    (history : TrackerHistory)
    (event : TrackerEvent) :
    (trackerStep history event).tracker.pending =
      history.tracker.pending.filterMap (afterEvent history.tracker event) ++
        (registeredBy history.tracker.registered event).toList := by
  have unchanged : history.tracker.pending.filterMap some =
      history.tracker.pending := List.filterMap_some
  cases event with
  | expect packetId channel frameData frameSize now allocated =>
      cases allocated with
      | false => exact ((List.append_nil _).trans unchanged).symm
      | true => exact (congrArg (· ++ _) unchanged).symm
  | receive ackedPacketId channel =>
      simp only [trackerStep, krsAckTrackerReceive_eq]
      exact (List.append_nil _).symm
  | receiveRtt ackedPacketId channel now =>
      simp only [trackerStep, krsAckTrackerReceiveRtt_snd]
      exact (List.append_nil _).symm
  | checkTimeouts now outCapacity droppedCapacity =>
      simp only [trackerStep, krsAckTrackerCheckTimeouts_snd]
      exact (List.append_nil _).symm
  | setTimeout timeoutMs =>
      exact ((List.append_nil _).trans unchanged).symm
  | setFastRetransmitEnabled enabled =>
      exact ((List.append_nil _).trans unchanged).symm

theorem trackerStep_registered
    (history : TrackerHistory)
    (event : TrackerEvent) :
    (trackerStep history event).tracker.registered =
      history.tracker.registered +
        (registeredBy history.tracker.registered event).toList.length := by
  cases event with
  | expect packetId channel frameData frameSize now allocated =>
      cases allocated with
      | false => rfl
      | true => rfl
  | receive ackedPacketId channel =>
      simp only [trackerStep, krsAckTrackerReceive_eq]
      rfl
  | receiveRtt ackedPacketId channel now =>
      simp only [trackerStep, krsAckTrackerReceiveRtt_snd]
      rfl
  | checkTimeouts now outCapacity droppedCapacity => rfl
  | setTimeout timeoutMs => rfl
  | setFastRetransmitEnabled enabled => rfl

theorem trackerStep_maxRetries
    (history : TrackerHistory)
    (event : TrackerEvent) :
    (trackerStep history event).tracker.maxRetries =
      history.tracker.maxRetries := by
  cases event with
  | expect packetId channel frameData frameSize now allocated =>
      cases allocated with
      | false => rfl
      | true => rfl
  | receive ackedPacketId channel =>
      simp only [trackerStep, krsAckTrackerReceive_eq]
  | receiveRtt ackedPacketId channel now =>
      simp only [trackerStep, krsAckTrackerReceiveRtt_snd]
  | checkTimeouts now outCapacity droppedCapacity => rfl
  | setTimeout timeoutMs => rfl
  | setFastRetransmitEnabled enabled => rfl

theorem trackerRun_concat
    (timeoutMs maxRetries : Nat)
    (events : List TrackerEvent)
    (event : TrackerEvent) :
    trackerRun timeoutMs maxRetries (events ++ [event]) =
      trackerStep (trackerRun timeoutMs maxRetries events) event := by
  simp [trackerRun]

theorem trackerRun_maxRetries
    (timeoutMs maxRetries : Nat)
    (events : List TrackerEvent) :
    (trackerRun timeoutMs maxRetries events).tracker.maxRetries =
      maxRetries := by
  induction events using List.reverseRecOn with
  | nil => rfl
  | append_singleton events event inductionHypothesis =>
      rw [trackerRun_concat, trackerStep_maxRetries, inductionHypothesis]

/-! ## Registrations -/

/-- What a registration fixes for good: the entry's identity and its frame. -/
structure Registration where
  handle : Nat
  packetId : UInt64
  channel : Channel
  frameData : Option (List UInt8)
  frameSize : Nat
  deriving DecidableEq, Repr

/-- The registration an entry came from. -/
def AckEntry.registration (entry : AckEntry) : Registration :=
  { handle := entry.handle
    packetId := entry.packetId
    channel := entry.channel
    frameData := entry.frameData
    frameSize := entry.frameSize }

/-- The registration made by the call at a position of a run. -/
def registrationAt (events : List TrackerEvent) (position : Nat) :
    Option Registration :=
  (events[position]?.bind (registeredBy
    ((events.take position).countP fun event =>
      (registeredBy 0 event).isSome))).map AckEntry.registration

/-- The call is an acknowledgement of the registered packet. -/
def acknowledges (registration : Registration) : TrackerEvent -> Bool
  | .receive ackedPacketId channel =>
      registration.packetId == ackedPacketId && registration.channel == channel
  | .receiveRtt ackedPacketId channel _ =>
      registration.packetId == ackedPacketId && registration.channel == channel
  | _ => false

/-- The call is a check that finds the registered packet due after its last
retry. -/
def givesUp
    (tracker : AckTracker)
    (registration : Registration) : TrackerEvent -> Bool
  | .checkTimeouts now _ _ => tracker.pending.any fun entry =>
      entry.registration == registration && dropDue tracker now entry
  | _ => false

/-- Some call after the position acknowledges the registration. -/
def acknowledgedAfter
    (events : List TrackerEvent)
    (position : Nat)
    (registration : Registration) : Bool :=
  (List.range events.length).any fun later =>
    decide (position < later) &&
      events[later]?.any (acknowledges registration)

/-- Some check after the position gives the registration up. -/
def droppedAfter
    (timeoutMs maxRetries : Nat)
    (events : List TrackerEvent)
    (position : Nat)
    (registration : Registration) : Bool :=
  (List.range events.length).any fun later =>
    decide (position < later) &&
      events[later]?.any (givesUp
        (trackerRun timeoutMs maxRetries (events.take later)).tracker
        registration)

/-- The registrations of a run that are neither acknowledged nor given up, in
the order in which they were made. -/
def outstanding
    (timeoutMs maxRetries : Nat)
    (events : List TrackerEvent) : List Registration :=
  (List.range events.length).filterMap fun position =>
    (registrationAt events position).filter fun registration =>
      !acknowledgedAfter events position registration &&
        !droppedAfter timeoutMs maxRetries events position registration

/-- The number of registrations is the next handle. -/
theorem trackerRun_registered
    (timeoutMs maxRetries : Nat)
    (events : List TrackerEvent) :
    (trackerRun timeoutMs maxRetries events).tracker.registered =
      events.countP fun event => (registeredBy 0 event).isSome := by
  induction events using List.reverseRecOn with
  | nil => rfl
  | append_singleton events event inductionHypothesis =>
      rw [trackerRun_concat, trackerStep_registered, inductionHypothesis,
        List.countP_append]
      congr 1
      cases event with
      | expect packetId channel frameData frameSize now allocated =>
          cases allocated <;> rfl
      | receive ackedPacketId channel => rfl
      | receiveRtt ackedPacketId channel now => rfl
      | checkTimeouts now outCapacity droppedCapacity => rfl
      | setTimeout timeoutMs => rfl
      | setFastRetransmitEnabled enabled => rfl

section Concat

variable (timeoutMs maxRetries : Nat) (events : List TrackerEvent)
  (event : TrackerEvent)

/-- A search through the calls after a position goes on to one more call. -/
theorem any_range_concat
    {Found FoundBefore : Nat -> TrackerEvent -> Bool}
    (same : ∀ later < events.length, Found later = FoundBefore later)
    {position : Nat}
    (inside : position < events.length) :
    ((List.range (events ++ [event]).length).any fun later =>
        decide (position < later) &&
          (events ++ [event])[later]?.any (Found later)) =
      (((List.range events.length).any fun later =>
        decide (position < later) && events[later]?.any (FoundBefore later)) ||
          Found events.length event) := by
  rw [List.length_append, List.length_singleton, List.range_succ,
    List.any_append]
  congr 1
  · rw [Bool.eq_iff_iff, List.any_eq_true, List.any_eq_true]
    refine exists_congr fun later => and_congr_right fun member => ?_
    have before := List.mem_range.mp member
    rw [List.getElem?_append_left before, same later before]
  · simp [inside]

theorem acknowledgedAfter_concat
    {position : Nat}
    (inside : position < events.length)
    (registration : Registration) :
    acknowledgedAfter (events ++ [event]) position registration =
      (acknowledgedAfter events position registration ||
        acknowledges registration event) :=
  any_range_concat events event (fun _ _ => rfl) inside

theorem droppedAfter_concat
    {position : Nat}
    (inside : position < events.length)
    (registration : Registration) :
    droppedAfter timeoutMs maxRetries (events ++ [event]) position
        registration =
      (droppedAfter timeoutMs maxRetries events position registration ||
        givesUp (trackerRun timeoutMs maxRetries events).tracker registration
          event) := by
  have same : ∀ later < events.length,
      givesUp (trackerRun timeoutMs maxRetries
          ((events ++ [event]).take later)).tracker registration =
        givesUp (trackerRun timeoutMs maxRetries
          (events.take later)).tracker registration := by
    intro later before
    rw [List.take_append_of_le_length before.le]
  have searched := any_range_concat events event same inside
  rw [List.take_left' rfl] at searched
  exact searched

theorem registrationAt_concat
    {position : Nat}
    (inside : position < events.length) :
    registrationAt (events ++ [event]) position =
      registrationAt events position := by
  unfold registrationAt
  rw [List.getElem?_append_left inside,
    List.take_append_of_le_length inside.le]

theorem registrationAt_last :
    registrationAt (events ++ [event]) events.length =
      (registeredBy (trackerRun timeoutMs maxRetries events).tracker.registered
        event).map AckEntry.registration := by
  unfold registrationAt
  rw [List.getElem?_concat_length, List.take_left' rfl, trackerRun_registered]
  rfl

/-- One more call ends the registrations that it acknowledges or gives up, and
adds its own. -/
theorem outstanding_concat :
    outstanding timeoutMs maxRetries (events ++ [event]) =
      ((outstanding timeoutMs maxRetries events).filter fun registration =>
        !acknowledges registration event &&
          !givesUp (trackerRun timeoutMs maxRetries events).tracker registration
            event) ++
        ((registeredBy
          (trackerRun timeoutMs maxRetries events).tracker.registered
          event).map AckEntry.registration).toList := by
  unfold outstanding
  rw [List.length_append, List.length_singleton, List.range_succ,
    List.filterMap_append, List.filter_filterMap]
  congr 1
  · apply List.filterMap_congr
    intro position member
    have inside := List.mem_range.mp member
    rw [registrationAt_concat events event inside]
    cases registrationAt events position with
    | none => rfl
    | some registration =>
        simp only [acknowledgedAfter_concat events event inside,
          droppedAfter_concat timeoutMs maxRetries events event inside]
        grind
  · rw [List.filterMap_cons, List.filterMap_nil,
      registrationAt_last timeoutMs maxRetries]
    cases registeredBy _ event with
    | none => rfl
    | some entry =>
        have nothing (Found : Nat -> Bool) :
            ((List.range (events ++ [event]).length).any fun later =>
              decide (events.length < later) && Found later) = false := by
          rw [List.any_eq_false]
          intro later member
          have inside := List.mem_range.mp member
          rw [List.length_append, List.length_singleton] at inside
          simp [Nat.not_lt.mpr (Nat.lt_succ_iff.mp inside)]
        simp only [acknowledgedAfter, droppedAfter, nothing, Option.map_some]
        rfl

end Concat

theorem observed_registration
    (tracker : AckTracker)
    (ackedPacketId : UInt64)
    (channel : Channel)
    (entry : AckEntry) :
    (observed tracker ackedPacketId channel entry).registration =
      entry.registration := by
  unfold observed observeAck
  split_ifs <;> rfl

theorem afterAck_registration
    (tracker : AckTracker)
    (ackedPacketId : UInt64)
    (channel : Channel)
    (entry : AckEntry) :
    (afterAck tracker ackedPacketId channel entry).map
        AckEntry.registration =
      (some entry.registration).filter fun _ =>
        !entry.awaits ackedPacketId channel := by
  unfold afterAck
  split
  case isTrue awaited => simp [awaited]
  case isFalse other =>
    simp [other, observed_registration, Option.filter_some]

theorem afterCheck_registration
    (tracker : AckTracker)
    (now : UInt64)
    (entry : AckEntry) :
    (afterCheck tracker now entry).map AckEntry.registration =
      (some entry.registration).filter fun _ =>
        !dropDue tracker now entry := by
  unfold afterCheck
  split
  case isTrue dropped => simp [dropped]
  case isFalse stays =>
    rw [Bool.not_eq_true] at stays
    split_ifs <;>
      simp [stays, retriedEntry, AckEntry.registration, Option.filter_some]

/-- What a call leaves of an entry's registration. -/
theorem afterEvent_registration
    {tracker : AckTracker}
    (distinct : DistinctKeys AckEntry.handle tracker.pending)
    (event : TrackerEvent)
    {entry : AckEntry}
    (present : entry ∈ tracker.pending) :
    (afterEvent tracker event entry).map AckEntry.registration =
      (some entry.registration).filter fun registration =>
        !acknowledges registration event &&
          !givesUp tracker registration event := by
  cases event with
  | expect packetId channel frameData frameSize now allocated => rfl
  | receive ackedPacketId channel =>
      refine (afterAck_registration tracker ackedPacketId channel entry).trans ?_
      simp [acknowledges, givesUp, AckEntry.awaits, AckEntry.registration,
        Option.filter_some]
  | receiveRtt ackedPacketId channel now =>
      refine (afterAck_registration tracker ackedPacketId channel entry).trans ?_
      simp [acknowledges, givesUp, AckEntry.awaits, AckEntry.registration,
        Option.filter_some]
  | checkTimeouts now outCapacity droppedCapacity =>
      have own : givesUp tracker entry.registration
          (.checkTimeouts now outCapacity droppedCapacity) =
          dropDue tracker now entry := by
        rw [givesUp, Bool.eq_iff_iff, List.any_eq_true]
        constructor
        · rintro ⟨other, member, dropped⟩
          rw [Bool.and_eq_true, beq_iff_eq] at dropped
          have same := distinct.eq_of_key member present
            (congrArg Registration.handle dropped.1)
          rw [← same]
          exact dropped.2
        · intro dropped
          exact ⟨entry, present, by simp [dropped]⟩
      refine (afterCheck_registration tracker now entry).trans ?_
      rw [Option.filter_some, Option.filter_some, own]
      rfl
  | setTimeout timeoutMs => rfl
  | setFastRetransmitEnabled enabled => rfl

/-- The pending list holds the outstanding registrations, in their order. -/
theorem trackerRun_pending
    (timeoutMs maxRetries : Nat)
    (events : List TrackerEvent) :
    (trackerRun timeoutMs maxRetries events).tracker.pending.map
        AckEntry.registration =
      outstanding timeoutMs maxRetries events := by
  induction events using List.reverseRecOn with
  | nil => rfl
  | append_singleton events event inductionHypothesis =>
      have distinct := (trackerRun_invariant timeoutMs maxRetries events).distinct
      rw [trackerRun_concat, trackerStep_pending, outstanding_concat,
        ← inductionHypothesis, List.map_append, List.map_filterMap]
      congr 1
      · rw [← List.filterMap_eq_map, List.filter_filterMap]
        apply List.filterMap_congr
        intro entry present
        exact afterEvent_registration distinct event present
      · cases registeredBy _ event with
        | none => rfl
        | some entry => rfl

/-! ## Retry counts -/

/-- An entry that a call leaves is unchanged, has counted an acknowledgement or
was retried. -/
theorem afterEvent_cases
    {tracker : AckTracker}
    {event : TrackerEvent}
    {entry kept : AckEntry}
    (left : afterEvent tracker event entry = some kept) :
    kept = entry ∨
      (∃ ackedPacketId channel, kept = observeAck ackedPacketId channel entry) ∨
      ∃ now, entry.retryCount < tracker.maxRetries ∧
        kept = retriedEntry now entry := by
  have acknowledged {ackedPacketId : UInt64} {channel : Channel}
      (left : afterAck tracker ackedPacketId channel entry = some kept) :
      kept = entry ∨
        ∃ ackedPacketId channel,
          kept = observeAck ackedPacketId channel entry := by
    unfold afterAck observed at left
    split_ifs at left
    · exact Or.inr ⟨ackedPacketId, channel, (Option.some.inj left).symm⟩
    · exact Or.inl (Option.some.inj left).symm
  cases event with
  | expect packetId channel frameData frameSize now allocated =>
      exact Or.inl (Option.some.inj left).symm
  | receive ackedPacketId channel =>
      exact (acknowledged left).imp_right Or.inl
  | receiveRtt ackedPacketId channel now =>
      exact (acknowledged left).imp_right Or.inl
  | checkTimeouts now outCapacity droppedCapacity =>
      simp only [afterEvent, afterCheck] at left
      split_ifs at left with dropped retried
      · rw [retryDue, Bool.and_eq_true, decide_eq_true_eq] at retried
        exact Or.inr (Or.inr ⟨now, retried.2, (Option.some.inj left).symm⟩)
      · exact Or.inl (Option.some.inj left).symm
  | setTimeout timeoutMs => exact Or.inl (Option.some.inj left).symm
  | setFastRetransmitEnabled enabled =>
      exact Or.inl (Option.some.inj left).symm

theorem afterEvent_retryCount
    {tracker : AckTracker}
    {event : TrackerEvent}
    {entry kept : AckEntry}
    (left : afterEvent tracker event entry = some kept)
    (within : entry.retryCount ≤ tracker.maxRetries) :
    kept.retryCount ≤ tracker.maxRetries := by
  rcases afterEvent_cases left with
    rfl | ⟨ackedPacketId, channel, rfl⟩ | ⟨now, again, rfl⟩
  · exact within
  · rw [observeAck_retryCount]
    exact within
  · exact again

theorem registeredBy_retryCount
    {handle : Nat}
    {event : TrackerEvent}
    {entry : AckEntry}
    (registered : registeredBy handle event = some entry) :
    entry.retryCount = 0 := by
  unfold registeredBy at registered
  split at registered
  · split_ifs at registered
    cases registered
    rfl
  · cases registered

theorem trackerRun_retryCount
    (timeoutMs maxRetries : Nat)
    (events : List TrackerEvent) :
    ∀ entry ∈ (trackerRun timeoutMs maxRetries events).tracker.pending,
      entry.retryCount ≤ maxRetries := by
  induction events using List.reverseRecOn with
  | nil => simp [trackerRun, krsAckTrackerCreate]
  | append_singleton events event inductionHypothesis =>
      intro kept member
      rw [trackerRun_concat, trackerStep_pending] at member
      rcases List.mem_append.mp member with old | new
      · obtain ⟨entry, present, left⟩ := List.mem_filterMap.mp old
        have within := afterEvent_retryCount left
        rw [trackerRun_maxRetries] at within
        exact within (inductionHypothesis entry present)
      · rw [Option.mem_toList] at new
        rw [registeredBy_retryCount new]
        exact Nat.zero_le _

/-- After any calls, the pending list is exactly the outstanding registrations
in their order, with the frames they were made with, no entry was retried more
often than allowed, and both ways of receiving an acknowledgement have the same
effect. -/
theorem pending_is_outstanding
    (timeoutMs maxRetries : Nat)
    (events : List TrackerEvent) :
    let tracker := (trackerRun timeoutMs maxRetries events).tracker
    tracker.pending.map AckEntry.registration =
        outstanding timeoutMs maxRetries events ∧
      (∀ entry ∈ tracker.pending, entry.retryCount ≤ maxRetries) ∧
      ∀ ackedPacketId channel now,
        krsAckTrackerReceive tracker ackedPacketId channel =
          (krsAckTrackerReceiveRtt tracker ackedPacketId channel now).2 := by
  refine ⟨trackerRun_pending timeoutMs maxRetries events,
    trackerRun_retryCount timeoutMs maxRetries events, ?_⟩
  intro ackedPacketId channel now
  rw [krsAckTrackerReceive_eq, krsAckTrackerReceiveRtt_snd]

/-! ## Channels -/

/-- The call concerns this channel: it is not made for another one. -/
def TrackerEvent.concerns (channel : Channel) : TrackerEvent -> Bool
  | .expect _ other _ _ _ _ => other == channel
  | .receive _ other => other == channel
  | .receiveRtt _ other _ => other == channel
  | _ => true

/-- The call without the sizes of the buffers it is given. -/
def TrackerEvent.unsized : TrackerEvent -> TrackerEvent
  | .checkTimeouts now _ _ => .checkTimeouts now 0 0
  | event => event

/-- An entry without its address: packet id, channel, frame, counters and
time. -/
def AckEntry.unaddressed (entry : AckEntry) : AckEntry :=
  { entry with handle := 0 }

/-- The entries of one channel as they can be compared between runs. -/
def pendingOn (channel : Channel) (tracker : AckTracker) : List AckEntry :=
  (tracker.pending.filter fun entry => entry.channel == channel).map
    AckEntry.unaddressed

/-- Two trackers with the same settings and the same entries of one channel. -/
structure SameOn (channel : Channel) (left right : AckTracker) : Prop where
  timeoutMs : left.timeoutMs = right.timeoutMs
  maxRetries : left.maxRetries = right.maxRetries
  fastRetransmitEnabled :
    left.fastRetransmitEnabled = right.fastRetransmitEnabled
  pending : pendingOn channel left = pendingOn channel right

theorem afterEvent_channel
    {tracker : AckTracker}
    {event : TrackerEvent}
    {entry kept : AckEntry}
    (left : afterEvent tracker event entry = some kept) :
    kept.channel = entry.channel := by
  rcases afterEvent_cases left with
    rfl | ⟨ackedPacketId, channel, rfl⟩ | ⟨now, -, rfl⟩
  · rfl
  · exact observeAck_channel ackedPacketId channel entry
  · rfl

/-- What a call does to an entry depends on the settings only, and not on the
buffers it is given. -/
theorem afterEvent_congr
    {channel : Channel}
    {left right : AckTracker}
    (same : SameOn channel left right)
    {event other : TrackerEvent}
    (sameCall : event.unsized = other.unsized) :
    afterEvent left event = afterEvent right other := by
  have unsized (event : TrackerEvent) :
      afterEvent right event = afterEvent right event.unsized := by
    cases event <;> rfl
  rw [unsized other, ← sameCall, ← unsized]
  obtain ⟨timeoutMs, maxRetries, fastRetransmitEnabled, -⟩ := same
  cases left
  cases right
  cases timeoutMs
  cases maxRetries
  cases fastRetransmitEnabled
  rfl

/-- What a call does to an entry does not depend on where the entry is. -/
theorem afterEvent_unaddressed
    (tracker : AckTracker)
    (event : TrackerEvent)
    (entry : AckEntry) :
    (afterEvent tracker event entry).map AckEntry.unaddressed =
      afterEvent tracker event entry.unaddressed := by
  have acknowledged (ackedPacketId : UInt64) (channel : Channel) :
      (afterAck tracker ackedPacketId channel entry).map
          AckEntry.unaddressed =
        afterAck tracker ackedPacketId channel entry.unaddressed := by
    unfold afterAck observed observeAck AckEntry.awaits AckEntry.unaddressed
    split_ifs <;> rfl
  cases event with
  | expect packetId channel frameData frameSize now allocated => rfl
  | receive ackedPacketId channel => exact acknowledged ackedPacketId channel
  | receiveRtt ackedPacketId channel now =>
      exact acknowledged ackedPacketId channel
  | checkTimeouts now outCapacity droppedCapacity =>
      have dropped : dropDue tracker now entry.unaddressed =
          dropDue tracker now entry := rfl
      have retried : retryDue tracker now entry.unaddressed =
          retryDue tracker now entry := rfl
      simp only [afterEvent, afterCheck, dropped, retried]
      split_ifs <;> rfl
  | setTimeout timeoutMs => rfl
  | setFastRetransmitEnabled enabled => rfl

/-- A call for another channel leaves the entries of this one alone. -/
theorem afterEvent_of_not_concerns
    (tracker : AckTracker)
    {event : TrackerEvent}
    {entry : AckEntry}
    (elsewhere : event.concerns entry.channel = false) :
    afterEvent tracker event entry = some entry := by
  have acknowledged {ackedPacketId : UInt64} {channel : Channel}
      (elsewhere : (channel == entry.channel) = false) :
      afterAck tracker ackedPacketId channel entry = some entry := by
    rw [beq_eq_false_iff_ne] at elsewhere
    simp [afterAck, AckEntry.awaits, observed, observeAck, Ne.symm elsewhere]
  cases event with
  | expect packetId channel frameData frameSize now allocated => rfl
  | receive ackedPacketId channel => exact acknowledged elsewhere
  | receiveRtt ackedPacketId channel now => exact acknowledged elsewhere
  | checkTimeouts now outCapacity droppedCapacity => cases elsewhere
  | setTimeout timeoutMs => rfl
  | setFastRetransmitEnabled enabled => rfl

/-- The entries of a channel after a call, from those before it. -/
theorem pendingOn_trackerStep
    (channel : Channel)
    (history : TrackerHistory)
    (event : TrackerEvent) :
    pendingOn channel (trackerStep history event).tracker =
      (pendingOn channel history.tracker).filterMap
          (afterEvent history.tracker event) ++
        ((registeredBy 0 event).filter fun entry =>
          entry.channel == channel).toList := by
  unfold pendingOn
  rw [trackerStep_pending, List.filter_append, List.map_append]
  congr 1
  · rw [List.filter_filterMap, List.map_filterMap, List.filterMap_map,
      List.filterMap_filter]
    apply List.filterMap_congr
    intro entry _
    rw [Function.comp_apply, ← afterEvent_unaddressed]
    cases left : afterEvent history.tracker event entry with
    | none => simp
    | some kept =>
        have sameChannel := afterEvent_channel left
        simp only [Option.filter_some, sameChannel]
        split_ifs <;> rfl
  · cases event with
    | expect packetId other frameData frameSize now allocated =>
        cases allocated with
        | false => rfl
        | true =>
            by_cases same : other = channel <;>
              simp [registeredBy, newEntry, AckEntry.unaddressed, same,
                Option.filter_some]
    | receive ackedPacketId other => rfl
    | receiveRtt ackedPacketId other now => rfl
    | checkTimeouts now outCapacity droppedCapacity => rfl
    | setTimeout timeoutMs => rfl
    | setFastRetransmitEnabled enabled => rfl

/-- The timeout after a call. -/
def TrackerEvent.timeoutAfter (timeoutMs : Nat) : TrackerEvent -> Nat
  | .setTimeout newTimeoutMs => if newTimeoutMs < 50 then 50 else newTimeoutMs
  | _ => timeoutMs

/-- Whether fast retransmit is on after a call. -/
def TrackerEvent.enabledAfter (enabled : Bool) : TrackerEvent -> Bool
  | .setFastRetransmitEnabled newEnabled => newEnabled
  | _ => enabled

theorem trackerStep_settings
    (history : TrackerHistory)
    (event : TrackerEvent) :
    (trackerStep history event).tracker.timeoutMs =
        event.timeoutAfter history.tracker.timeoutMs ∧
      (trackerStep history event).tracker.fastRetransmitEnabled =
        event.enabledAfter history.tracker.fastRetransmitEnabled := by
  cases event with
  | expect packetId channel frameData frameSize now allocated =>
      cases allocated with
      | false => exact ⟨rfl, rfl⟩
      | true => exact ⟨rfl, rfl⟩
  | receive ackedPacketId channel =>
      simp only [trackerStep, krsAckTrackerReceive_eq]
      exact ⟨rfl, rfl⟩
  | receiveRtt ackedPacketId channel now =>
      simp only [trackerStep, krsAckTrackerReceiveRtt_snd]
      exact ⟨rfl, rfl⟩
  | checkTimeouts now outCapacity droppedCapacity => exact ⟨rfl, rfl⟩
  | setTimeout timeoutMs => exact ⟨rfl, rfl⟩
  | setFastRetransmitEnabled enabled => exact ⟨rfl, rfl⟩

/-- A call for another channel, made on one of the trackers only. -/
theorem SameOn.skip
    {channel : Channel}
    {left right : TrackerHistory}
    (same : SameOn channel left.tracker right.tracker)
    {event : TrackerEvent}
    (elsewhere : event.concerns channel = false) :
    SameOn channel (trackerStep left event).tracker right.tracker := by
  have settings := trackerStep_settings left event
  have kept : event.timeoutAfter left.tracker.timeoutMs =
        left.tracker.timeoutMs ∧
      event.enabledAfter left.tracker.fastRetransmitEnabled =
        left.tracker.fastRetransmitEnabled := by
    cases event <;> first | exact ⟨rfl, rfl⟩ | cases elsewhere
  refine ⟨settings.1.trans (kept.1.trans same.timeoutMs),
    (trackerStep_maxRetries left event).trans same.maxRetries,
    settings.2.trans (kept.2.trans same.fastRetransmitEnabled), ?_⟩
  rw [pendingOn_trackerStep, ← same.pending]
  have unchanged : (pendingOn channel left.tracker).filterMap
      (afterEvent left.tracker event) = pendingOn channel left.tracker := by
    refine (List.filterMap_congr ?_).trans List.filterMap_some
    intro entry member
    obtain ⟨original, present, rfl⟩ := List.mem_map.mp member
    have onChannel : original.unaddressed.channel = channel :=
      beq_iff_eq.mp (List.mem_filter.mp present).2
    rw [← onChannel] at elsewhere
    exact afterEvent_of_not_concerns left.tracker elsewhere
  rw [unchanged]
  cases event with
  | expect packetId other frameData frameSize now allocated =>
      cases allocated with
      | false => exact List.append_nil _
      | true =>
          rw [TrackerEvent.concerns] at elsewhere
          simp [registeredBy, newEntry, Option.filter_some, elsewhere]
  | receive ackedPacketId other => exact List.append_nil _
  | receiveRtt ackedPacketId other now => exact List.append_nil _
  | checkTimeouts now outCapacity droppedCapacity => cases elsewhere
  | setTimeout timeoutMs => cases elsewhere
  | setFastRetransmitEnabled enabled => cases elsewhere

/-- The same call on both trackers. -/
theorem SameOn.both
    {channel : Channel}
    {left right : TrackerHistory}
    (same : SameOn channel left.tracker right.tracker)
    {event other : TrackerEvent}
    (sameCall : event.unsized = other.unsized) :
    SameOn channel (trackerStep left event).tracker
      (trackerStep right other).tracker := by
  have timeout (timeoutMs : Nat) (event : TrackerEvent) :
      event.timeoutAfter timeoutMs = event.unsized.timeoutAfter timeoutMs := by
    cases event <;> rfl
  have enabling (enabled : Bool) (event : TrackerEvent) :
      event.enabledAfter enabled = event.unsized.enabledAfter enabled := by
    cases event <;> rfl
  have registering (event : TrackerEvent) :
      registeredBy 0 event = registeredBy 0 event.unsized := by
    cases event <;> rfl
  have leftSettings := trackerStep_settings left event
  have rightSettings := trackerStep_settings right other
  refine ⟨?_, ?_, ?_, ?_⟩
  · rw [leftSettings.1, rightSettings.1, timeout _ event, timeout _ other,
      sameCall, same.timeoutMs]
  · rw [trackerStep_maxRetries, trackerStep_maxRetries, same.maxRetries]
  · rw [leftSettings.2, rightSettings.2, enabling _ event, enabling _ other,
      sameCall, same.fastRetransmitEnabled]
  · rw [pendingOn_trackerStep, pendingOn_trackerStep, same.pending,
      afterEvent_congr same sameCall, registering event, registering other,
      sameCall]

/-- The entries of a channel are those of the run without the calls made for
other channels, whatever buffers the checks are given in either run. -/
theorem channel_isolated
    (timeoutMs maxRetries : Nat)
    (channel : Channel)
    (events others : List TrackerEvent)
    (sameCalls :
      (events.filter (TrackerEvent.concerns channel)).map
          TrackerEvent.unsized =
        others.map TrackerEvent.unsized) :
    pendingOn channel (trackerRun timeoutMs maxRetries events).tracker =
      pendingOn channel (trackerRun timeoutMs maxRetries others).tracker := by
  suffices sameOn : ∀ (left right : TrackerHistory),
      SameOn channel left.tracker right.tracker ->
      SameOn channel (events.foldl trackerStep left).tracker
        (others.foldl trackerStep right).tracker from
    (sameOn _ _ ⟨rfl, rfl, rfl, rfl⟩).pending
  induction events generalizing others with
  | nil =>
      intro left right same
      rw [List.map_eq_nil_iff.mp sameCalls.symm]
      exact same
  | cons event events inductionHypothesis =>
      intro left right same
      cases concerned : event.concerns channel with
      | false =>
          rw [List.filter_cons_of_neg (by simp [concerned])] at sameCalls
          exact inductionHypothesis others sameCalls _ right
            (same.skip concerned)
      | true =>
          rw [List.filter_cons_of_pos concerned, List.map_cons] at sameCalls
          obtain ⟨other, remaining, rfl, sameCall, sameRest⟩ :=
            List.map_eq_cons_iff.mp sameCalls.symm
          exact inductionHypothesis remaining sameRest.symm _ _
            (same.both sameCall.symm)

/-- Packet 1 on channels 10 and 11: three acknowledgements and a check, with and
without the calls for channel 11. -/
theorem channel_isolated_from_neighbour :
    let neighbour : List TrackerEvent :=
      [.expect 1 11 (some [2]) 1 0 true, .expect 1 10 (some [1]) 1 0 true,
        .receiveRtt 2 11 5, .receive 2 10, .receive 1 11, .receive 3 10,
        .checkTimeouts 5 16 16]
    let alone : List TrackerEvent :=
      [.expect 1 10 (some [1]) 1 0 true, .receive 2 10, .receive 3 10,
        .checkTimeouts 5 0 0]
    pendingOn 10 (trackerRun 1000 5 neighbour).tracker =
      pendingOn 10 (trackerRun 1000 5 alone).tracker := by
  intro neighbour alone
  exact channel_isolated 1000 5 10 neighbour alone (by decide)

end Kronos
