import Kronos.Ack.Backoff
import Kronos.Library.Transition
import Mathlib.Data.Finset.Card

/-!
# Acknowledgements that make a retry fast

A check reports a retry as fast when the counter of its entry has reached
three.  The counter is raised by every acknowledgement of a larger packet id on
the channel, also by one that repeats another.  Here a run keeps, for every
pending entry, the set of larger ids that were acknowledged since it was
registered or last retried; the counter is bounded by the size of that set
while no acknowledgement repeats one that an entry has counted.
-/

namespace Kronos

open Library

/-- A tracker, and for each handle the larger packet ids of its channel that
were acknowledged since the entry was registered or last retried. -/
structure FastRun where
  history : TrackerHistory
  acked : Nat -> Finset UInt64

/-- The ids that are recorded for an entry after a call. -/
def ackedAfter
    (tracker : AckTracker)
    (entry : AckEntry)
    (ids : Finset UInt64) : TrackerEvent -> Finset UInt64
  | .receive ackedPacketId channel =>
      if channel = entry.channel ∧ entry.packetId < ackedPacketId then
        insert ackedPacketId ids
      else ids
  | .receiveRtt ackedPacketId channel _ =>
      if channel = entry.channel ∧ entry.packetId < ackedPacketId then
        insert ackedPacketId ids
      else ids
  | .checkTimeouts now _ _ => if retryDue tracker now entry then ∅ else ids
  | _ => ids

/-- One call.  Nothing is recorded for a handle without a pending entry. -/
def fastStep (current : FastRun) (event : TrackerEvent) : Option FastRun :=
  some
    { history := trackerStep current.history event
      acked := fun handle =>
        match entryAt handle current.history with
        | none => ∅
        | some entry =>
            ackedAfter current.history.tracker entry (current.acked handle)
              event }

/-- A new tracker. -/
def fastStart (timeoutMs maxRetries : Nat) : FastRun :=
  { history := trackerRun timeoutMs maxRetries []
    acked := fun _ => ∅ }

/-- A check reports a retry as fast only for an entry with three different
larger ids acknowledged. -/
def FastReported (current : FastRun) : TrackerEvent -> Prop
  | .checkTimeouts now outCapacity droppedCapacity =>
      ∀ retry ∈ (krsAckTrackerCheckTimeouts current.history.tracker now
          outCapacity droppedCapacity).1.retries,
        retry.wasFast = true -> 3 ≤ (current.acked retry.entry).card
  | _ => True

instance (current : FastRun) (event : TrackerEvent) :
    Decidable (FastReported current event) :=
  match event with
  | .checkTimeouts _ _ _ => inferInstanceAs (Decidable (∀ _ ∈ _, _))
  | .expect _ _ _ _ _ _ => isTrue trivial
  | .receive _ _ => isTrue trivial
  | .receiveRtt _ _ _ => isTrue trivial
  | .setTimeout _ => isTrue trivial
  | .setFastRetransmitEnabled _ => isTrue trivial

/-- While fast retransmit is on, the acknowledgement is new to every pending
entry that counts it. -/
def NewToEntries
    (current : FastRun)
    (ackedPacketId : UInt64)
    (channel : Channel) : Prop :=
  current.history.tracker.fastRetransmitEnabled = true ->
    ∀ entry ∈ current.history.tracker.pending,
      entry.channel = channel -> entry.packetId < ackedPacketId ->
        ackedPacketId ∉ current.acked entry.handle

instance (current : FastRun) (ackedPacketId : UInt64) (channel : Channel) :
    Decidable (NewToEntries current ackedPacketId channel) :=
  inferInstanceAs (Decidable (_ -> ∀ _ ∈ _, _))

/-- No entry counts an acknowledgement twice. -/
def AckCountedOnce (current : FastRun) : TrackerEvent -> Prop
  | .receive ackedPacketId channel =>
      NewToEntries current ackedPacketId channel
  | .receiveRtt ackedPacketId channel _ =>
      NewToEntries current ackedPacketId channel
  | _ => True

instance (current : FastRun) (event : TrackerEvent) :
    Decidable (AckCountedOnce current event) :=
  match event with
  | .receive ackedPacketId channel =>
      inferInstanceAs (Decidable (NewToEntries current ackedPacketId channel))
  | .receiveRtt ackedPacketId channel _ =>
      inferInstanceAs (Decidable (NewToEntries current ackedPacketId channel))
  | .expect _ _ _ _ _ _ => isTrue trivial
  | .checkTimeouts _ _ _ => isTrue trivial
  | .setTimeout _ => isTrue trivial
  | .setFastRetransmitEnabled _ => isTrue trivial

/-- The counters are bounded by the ids recorded. -/
structure FastInvariant (current : FastRun) : Prop where
  tracker : TrackerInvariant current.history
  counted : ∀ entry ∈ current.history.tracker.pending,
    entry.ackedAfterCount ≤ (current.acked entry.handle).card

/-- An acknowledgement that is new to the entry raises the counter and the
record together. -/
theorem observed_counted
    (tracker : AckTracker)
    {ackedPacketId : UInt64}
    {channel : Channel}
    {entry : AckEntry}
    {ids : Finset UInt64}
    (counted : entry.ackedAfterCount ≤ ids.card)
    (new : tracker.fastRetransmitEnabled = true -> entry.channel = channel ->
      entry.packetId < ackedPacketId -> ackedPacketId ∉ ids) :
    (observed tracker ackedPacketId channel entry).ackedAfterCount ≤
      (if channel = entry.channel ∧ entry.packetId < ackedPacketId then
        insert ackedPacketId ids
      else ids).card := by
  by_cases counts : channel = entry.channel ∧ entry.packetId < ackedPacketId
  · rw [if_pos counts]
    have grows : ids.card ≤ (insert ackedPacketId ids).card :=
      Finset.card_le_card (Finset.subset_insert _ _)
    by_cases enabled : tracker.fastRetransmitEnabled = true
    · have absent := new enabled counts.1.symm counts.2
      rw [Finset.card_insert_of_notMem absent]
      have onChannel : ¬ entry.channel ≠ channel :=
        not_not.mpr counts.1.symm
      rw [observed, if_pos enabled, observeAck, if_neg onChannel,
        if_pos counts.2]
      split
      case isTrue => exact Nat.succ_le_succ counted
      case isFalse => omega
    · rw [observed, if_neg enabled]
      exact counted.trans grows
  · have same : observed tracker ackedPacketId channel entry = entry := by
      unfold observed observeAck
      split_ifs with enabled other later
      · rfl
      · exact absurd ⟨(not_not.mp other).symm, later⟩ counts
      · exact absurd ⟨(not_not.mp other).symm, later⟩ counts
      · rfl
      · rfl
    rw [if_neg counts, same]
    exact counted

/-- What a call leaves of an entry is bounded by what it leaves of the
record. -/
theorem afterEvent_counted
    {current : FastRun}
    {event : TrackerEvent}
    {entry kept : AckEntry}
    (once : AckCountedOnce current event)
    (present : entry ∈ current.history.tracker.pending)
    (counted : entry.ackedAfterCount ≤ (current.acked entry.handle).card)
    (left : afterEvent current.history.tracker event entry = some kept) :
    kept.ackedAfterCount ≤ (ackedAfter current.history.tracker entry
      (current.acked entry.handle) event).card := by
  have acknowledged {ackedPacketId : UInt64} {channel : Channel}
      (new : NewToEntries current ackedPacketId channel)
      (left : afterAck current.history.tracker ackedPacketId channel entry =
        some kept) :
      kept.ackedAfterCount ≤
        (if channel = entry.channel ∧ entry.packetId < ackedPacketId then
          insert ackedPacketId (current.acked entry.handle)
        else current.acked entry.handle).card := by
    unfold afterAck at left
    split at left
    case isTrue => cases left
    case isFalse =>
      cases left
      exact observed_counted _ counted fun enabled =>
        new enabled entry present
  cases event with
  | receive ackedPacketId channel => exact acknowledged once left
  | receiveRtt ackedPacketId channel now => exact acknowledged once left
  | checkTimeouts now outCapacity droppedCapacity =>
      change afterCheck current.history.tracker now entry = some kept at left
      dsimp only [ackedAfter]
      unfold afterCheck at left
      split_ifs at left with dropped retried
      · cases left
        exact Nat.zero_le _
      · cases left
        rw [if_neg retried]
        exact counted
  | expect =>
      cases left
      exact counted
  | setTimeout =>
      cases left
      exact counted
  | setFastRetransmitEnabled =>
      cases left
      exact counted

theorem registeredBy_ackedAfterCount
    {handle : Nat}
    {event : TrackerEvent}
    {entry : AckEntry}
    (registered : registeredBy handle event = some entry) :
    entry.ackedAfterCount = 0 := by
  unfold registeredBy at registered
  split at registered
  · split_ifs at registered
    cases registered
    rfl
  · cases registered

/-- A call that no entry counts twice keeps the bound. -/
theorem FastInvariant.step
    (current : FastRun)
    (event : TrackerEvent)
    (next : FastRun)
    (invariant : FastInvariant current)
    (once : AckCountedOnce current event)
    (taken : fastStep current event = some next) :
    FastInvariant next := by
  cases taken
  refine ⟨trackerStep_invariant invariant.tracker event, ?_⟩
  intro kept member
  rw [trackerStep_pending] at member
  rcases List.mem_append.mp member with old | new
  · obtain ⟨entry, present, left⟩ := List.mem_filterMap.mp old
    have found : entryAt entry.handle current.history = some entry :=
      invariant.tracker.distinct.lookup_eq_some_iff.mpr ⟨present, rfl⟩
    dsimp only
    rw [afterEvent_handle left, found]
    exact afterEvent_counted once present (invariant.counted entry present)
      left
  · rw [Option.mem_toList] at new
    rw [registeredBy_ackedAfterCount new]
    exact Nat.zero_le _

/-- Under the bound, a fast report comes with three ids. -/
theorem FastInvariant.reported
    (current : FastRun)
    (event : TrackerEvent)
    (invariant : FastInvariant current) :
    FastReported current event := by
  unfold FastReported
  split
  case h_2 => trivial
  case h_1 now outCapacity droppedCapacity =>
    intro retry member fast
    rw [krsAckTrackerCheckTimeouts_fst] at member
    obtain ⟨entry, chosen, rfl⟩ :=
      List.mem_map.mp (List.mem_of_mem_take member)
    have present : entry ∈ current.history.tracker.pending :=
      List.mem_reverse.mp (List.mem_filter.mp chosen).1
    have threshold : fastRetransmitDue current.history.tracker entry =
        true := fast
    rw [fastRetransmitDue, Bool.and_eq_true, decide_eq_true_eq] at threshold
    exact threshold.2.trans (invariant.counted entry present)

/-- In every run in which no pending entry counts an acknowledgement twice, a
retry is reported as fast only after three different larger packet ids of its
channel were acknowledged since the entry was registered or last retried. -/
theorem fast_retransmit_after_three_ids
    {timeoutMs maxRetries : Nat}
    {events : List TrackerEvent}
    (once : RunAllowed fastStep AckCountedOnce
      (fastStart timeoutMs maxRetries) events) :
    RunAllowed fastStep FastReported (fastStart timeoutMs maxRetries)
      events := by
  have start : FastInvariant (fastStart timeoutMs maxRetries) :=
    ⟨trackerRun_invariant timeoutMs maxRetries [], nofun⟩
  exact once.mono FastInvariant.step
    (fun current event invariant _ => invariant.reported current event) start

/-- Packets 1 to 4 of channel 10 are sent, and 2, 3 and 4 are acknowledged. -/
def threeLaterAcks : List TrackerEvent :=
  [.expect 1 10 none 0 0 true, .expect 2 10 none 0 0 true,
    .expect 3 10 none 0 0 true, .expect 4 10 none 0 0 true,
    .receive 2 10, .receive 4 10, .receive 3 10, .checkTimeouts 10 8 8]

/-- Packet 2 is acknowledged three times. -/
def repeatedAcks : List TrackerEvent :=
  [.expect 1 10 none 0 0 true, .expect 2 10 none 0 0 true, .receive 2 10,
    .receive 2 10, .receive 2 10, .checkTimeouts 10 8 8]

theorem three_later_acks_reported :
    RunAllowed fastStep FastReported (fastStart 100 3) threeLaterAcks :=
  fast_retransmit_after_three_ids (by decide)

/-- One acknowledgement, received three times, makes the retry of packet 1
fast. -/
theorem repeated_ack_reported_fast :
    ¬ RunAllowed fastStep FastReported (fastStart 100 3) repeatedAcks := by
  decide

end Kronos
