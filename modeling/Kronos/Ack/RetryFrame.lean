import Kronos.Ack.Spec

/-!
# The frame fetched for a retry

The server fetches the frame of a retry through the entry's handle, the client
through its packet id.  Several pending entries can share a packet id, so the
two agree only while the first of them holds the right frame.
-/

namespace Kronos

open Library

/-! ## Runs of a tracker -/

/-- The calls made on a tracker. -/
inductive TrackerEvent
  | expect (packetId : UInt64) (channel : Channel)
      (frameData : Option (List UInt8)) (frameSize : Nat) (now : UInt64)
      (allocated : Bool)
  | receive (ackedPacketId : UInt64) (channel : Channel)
  | receiveRtt (ackedPacketId : UInt64) (channel : Channel) (now : UInt64)
  | checkTimeouts (now : UInt64) (outCapacity droppedCapacity : Nat)
  | setTimeout (timeoutMs : Nat)
  | setFastRetransmitEnabled (enabled : Bool)
  deriving DecidableEq, Repr

/-- A tracker with the frames registered so far, by handle. -/
structure TrackerHistory where
  tracker : AckTracker
  registrations : List (Option (List UInt8 × Nat))
  deriving DecidableEq, Repr

/-- The frame a caller registers. -/
def registeredFrame (frameData : Option (List UInt8)) (frameSize : Nat) :
    Option (List UInt8 × Nat) :=
  if frameSize > 0 then
    frameData.map fun data => (data.take frameSize, frameSize)
  else none

/-- One call. -/
def trackerStep (history : TrackerHistory) : TrackerEvent -> TrackerHistory
  | .expect packetId channel frameData frameSize now allocated =>
      { tracker := krsAckTrackerExpect history.tracker packetId channel
          frameData frameSize now allocated
        registrations :=
          if allocated then
            history.registrations ++ [registeredFrame frameData frameSize]
          else history.registrations }
  | .receive ackedPacketId channel =>
      { history with
        tracker := krsAckTrackerReceive history.tracker ackedPacketId
          channel }
  | .receiveRtt ackedPacketId channel now =>
      { history with
        tracker := (krsAckTrackerReceiveRtt history.tracker ackedPacketId
          channel now).2 }
  | .checkTimeouts now outCapacity droppedCapacity =>
      { history with
        tracker := (krsAckTrackerCheckTimeouts history.tracker now outCapacity
          droppedCapacity).2 }
  | .setTimeout timeoutMs =>
      { history with
        tracker := krsAckTrackerSetTimeout history.tracker timeoutMs }
  | .setFastRetransmitEnabled enabled =>
      { history with
        tracker := krsAckTrackerSetFastRetransmitEnabled history.tracker
          enabled }

/-- The state after a run from a new tracker. -/
def trackerRun
    (timeoutMs maxRetries : Nat)
    (events : List TrackerEvent) : TrackerHistory :=
  events.foldl trackerStep
    { tracker := krsAckTrackerCreate timeoutMs maxRetries
      registrations := [] }

/-- Handles are distinct, and each pending entry stores the frame registered
under its handle. -/
structure TrackerInvariant (history : TrackerHistory) : Prop where
  counted : history.tracker.registered = history.registrations.length
  distinct : DistinctKeys AckEntry.handle history.tracker.pending
  stored : ∀ entry ∈ history.tracker.pending,
    history.registrations[entry.handle]? = some entry.storedFrame

theorem newEntry_storedFrame
    (handle : Nat)
    (packetId : UInt64)
    (channel : Channel)
    (frameData : Option (List UInt8))
    (frameSize : Nat)
    (now : UInt64) :
    (newEntry handle packetId channel frameData frameSize now).storedFrame =
      registeredFrame frameData frameSize := by
  unfold newEntry AckEntry.storedFrame registeredFrame
  by_cases empty : frameSize > 0
  · cases frameData with
    | none => simp [empty]
    | some data => simp [empty, Nat.ne_of_gt empty]
  · simp [empty]

/-- Dropping entries, and changing what is neither handle nor frame, keeps the
invariant. -/
theorem TrackerInvariant.filterMap
    {history : TrackerHistory}
    (invariant : TrackerInvariant history)
    {rewrite : AckEntry -> Option AckEntry}
    (handleKept : ∀ entry kept, rewrite entry = some kept ->
      kept.handle = entry.handle)
    (frameKept : ∀ entry kept, rewrite entry = some kept ->
      kept.storedFrame = entry.storedFrame) :
    TrackerInvariant
      { history with
        tracker :=
          { history.tracker with
            pending := history.tracker.pending.filterMap rewrite } } where
  counted := invariant.counted
  distinct := invariant.distinct.filterMap handleKept
  stored := by
    intro kept member
    obtain ⟨entry, present, rewritten⟩ := List.mem_filterMap.mp member
    rw [handleKept entry kept rewritten, frameKept entry kept rewritten]
    exact invariant.stored entry present

theorem trackerStep_invariant
    {history : TrackerHistory}
    (invariant : TrackerInvariant history)
    (event : TrackerEvent) :
    TrackerInvariant (trackerStep history event) := by
  cases event with
  | expect packetId channel frameData frameSize now allocated =>
      cases allocated with
      | false => exact invariant
      | true =>
          have fresh : lookup AckEntry.handle history.tracker.pending
              history.tracker.registered = none := by
            rw [lookup_eq_none_iff]
            intro entry member same
            have known := invariant.stored entry member
            rw [same, invariant.counted,
              List.getElem?_eq_none_iff.mpr (Nat.le_refl _)] at known
            cases known
          refine ⟨?_, invariant.distinct.append fresh, ?_⟩
          · simp [trackerStep, krsAckTrackerExpect, invariant.counted]
          · intro entry member
            rcases List.mem_append.mp member with old | new
            · have known := invariant.stored entry old
              obtain ⟨inside, -⟩ := List.getElem?_eq_some_iff.mp known
              simp only [trackerStep, if_true]
              rw [List.getElem?_append_left inside]
              exact known
            · rw [List.mem_singleton] at new
              subst new
              rw [newEntry_storedFrame]
              simp [trackerStep, newEntry, invariant.counted]
  | receive ackedPacketId channel =>
      simp only [trackerStep, krsAckTrackerReceive_eq]
      exact invariant.filterMap
        (fun _ _ left => (afterAck_handle left).1)
        (fun _ _ left => (afterAck_handle left).2)
  | receiveRtt ackedPacketId channel now =>
      simp only [trackerStep, krsAckTrackerReceiveRtt_snd]
      exact invariant.filterMap
        (fun _ _ left => (afterAck_handle left).1)
        (fun _ _ left => (afterAck_handle left).2)
  | checkTimeouts now outCapacity droppedCapacity =>
      simp only [trackerStep, krsAckTrackerCheckTimeouts_snd]
      exact invariant.filterMap
        (fun _ _ left => (afterCheck_handle left).1)
        (fun _ _ left => (afterCheck_handle left).2.2)
  | setTimeout timeoutMs =>
      exact ⟨invariant.counted, invariant.distinct, invariant.stored⟩
  | setFastRetransmitEnabled enabled =>
      exact ⟨invariant.counted, invariant.distinct, invariant.stored⟩

theorem trackerRun_invariant
    (timeoutMs maxRetries : Nat)
    (events : List TrackerEvent) :
    TrackerInvariant (trackerRun timeoutMs maxRetries events) := by
  unfold trackerRun
  refine List.foldlRecOn events trackerStep ?_ ?_
  · exact ⟨rfl, List.nodup_nil, by simp [krsAckTrackerCreate]⟩
  · intro history invariant event _
    exact trackerStep_invariant invariant event

/-! ## The two lookups -/

/-- The entries that a check reports for retry. -/
def reportedEntries
    (tracker : AckTracker)
    (now : UInt64)
    (outCapacity : Nat) : List AckEntry :=
  (tracker.pending.reverse.filter (retryDue tracker now)).take outCapacity

/-- Before a check: the first pending entry with a packet id that stores a
frame and that the check does not drop. -/
def firstWithId
    (tracker : AckTracker)
    (now : UInt64)
    (packetId : UInt64) : Option AckEntry :=
  tracker.pending.find? fun entry =>
    !dropDue tracker now entry && entry.packetId == packetId &&
      entry.storedFrame.isSome

/-- After a check, a search by packet id ends at the first kept entry. -/
theorem getRetryFrame_afterCheck
    (tracker : AckTracker)
    (now : UInt64)
    (packetId : UInt64) :
    krsAckTrackerGetRetryFrame
        { tracker with
          pending := tracker.pending.filterMap (afterCheck tracker now) }
        packetId =
      (firstWithId tracker now packetId).bind AckEntry.storedFrame := by
  unfold krsAckTrackerGetRetryFrame firstWithId
  simp only
  induction tracker.pending with
  | nil => rfl
  | cons entry pending inductionHypothesis =>
      rw [List.find?_cons]
      cases left : afterCheck tracker now entry with
      | none =>
          have dropped : dropDue tracker now entry = true := by
            unfold afterCheck at left
            split_ifs at left with dropped
            exact dropped
          rw [List.filterMap_cons_none left, dropped]
          exact inductionHypothesis
      | some kept =>
          have stays : dropDue tracker now entry = false := by
            unfold afterCheck at left
            by_contra dropped
            rw [Bool.not_eq_false] at dropped
            rw [if_pos dropped] at left
            cases left
          obtain ⟨-, samePacket, sameFrame⟩ := afterCheck_handle left
          rw [List.filterMap_cons_some left, List.findSome?_cons, samePacket,
            sameFrame, stays]
          by_cases wanted : entry.packetId = packetId
          · simp only [wanted, ne_eq, not_true_eq_false, if_false,
              Bool.not_false, Bool.true_and, beq_self_eq_true]
            cases frame : entry.storedFrame with
            | none => simpa using inductionHypothesis
            | some stored => simp [frame]
          · have unequal : (entry.packetId == packetId) = false := by
              simpa using wanted
            simp only [wanted, ne_eq, not_false_eq_true, if_true, unequal,
              Bool.and_false, Bool.false_and]
            exact inductionHypothesis

/-- What the two lookups return after a check, for an entry that it has
reported. -/
theorem TrackerInvariant.lookups
    {history : TrackerHistory}
    (invariant : TrackerInvariant history)
    {now : UInt64}
    (outCapacity droppedCapacity : Nat)
    {entry : AckEntry}
    (reported : entry ∈ reportedEntries history.tracker now outCapacity) :
    let checked := krsAckTrackerCheckTimeouts history.tracker now outCapacity
      droppedCapacity
    krsAckTrackerGetRetryFrameForEntry checked.2 entry.handle =
        entry.storedFrame ∧
      krsAckTrackerGetRetryFrame checked.2 entry.packetId =
        (firstWithId history.tracker now entry.packetId).bind
          AckEntry.storedFrame ∧
      history.registrations[entry.handle]? = some entry.storedFrame := by
  intro checked
  have after : checked.2 = { history.tracker with
      pending := history.tracker.pending.filterMap
        (afterCheck history.tracker now) } :=
    krsAckTrackerCheckTimeouts_snd history.tracker now outCapacity
      droppedCapacity
  have filtered := List.mem_filter.mp (List.mem_of_mem_take reported)
  have present : entry ∈ history.tracker.pending :=
    List.mem_reverse.mp filtered.1
  rw [after]
  exact ⟨getRetryFrameForEntry_afterCheck invariant.distinct present
      filtered.2,
    getRetryFrame_afterCheck history.tracker now entry.packetId,
    invariant.stored entry present⟩

/-- Both lookups of a reported retry return the frame registered for that
entry if and only if the first pending entry with its packet id stores that
frame. -/
theorem retry_frames_agree_iff
    (timeoutMs maxRetries : Nat)
    (events : List TrackerEvent)
    (now : UInt64)
    (outCapacity droppedCapacity : Nat) :
    let history := trackerRun timeoutMs maxRetries events
    let checked := krsAckTrackerCheckTimeouts history.tracker now outCapacity
      droppedCapacity
    (∀ retry ∈ checked.1.retries,
        krsAckTrackerGetRetryFrame checked.2 retry.packetId =
            krsAckTrackerGetRetryFrameForEntry checked.2 retry.entry ∧
          history.registrations[retry.entry]? =
            some (krsAckTrackerGetRetryFrameForEntry checked.2
              retry.entry)) ↔
      ∀ entry ∈ reportedEntries history.tracker now outCapacity,
        (firstWithId history.tracker now entry.packetId).bind
          AckEntry.storedFrame = entry.storedFrame := by
  intro history checked
  have invariant : TrackerInvariant history :=
    trackerRun_invariant timeoutMs maxRetries events
  have retries : checked.1.retries =
      (reportedEntries history.tracker now outCapacity).map
        (retryReport history.tracker) := by
    simp only [checked, krsAckTrackerCheckTimeouts_fst, reportedEntries,
      List.map_take]
  rw [retries]
  constructor
  · intro agree entry member
    obtain ⟨forEntry, byId, -⟩ :=
      invariant.lookups outCapacity droppedCapacity member
    have same := (agree _ (List.mem_map_of_mem member)).1
    rw [← byId, ← forEntry]
    exact same
  · intro first retry member
    obtain ⟨entry, reported, rfl⟩ := List.mem_map.mp member
    obtain ⟨forEntry, byId, registered⟩ :=
      invariant.lookups outCapacity droppedCapacity reported
    simp only [retryReport]
    rw [forEntry, byId, first entry reported]
    exact ⟨rfl, registered⟩

/-- The pending entries of a packet id were all registered with one frame. -/
def OneFramePerId (history : TrackerHistory) : Prop :=
  ∀ entry ∈ history.tracker.pending, ∀ other ∈ history.tracker.pending,
    entry.packetId = other.packetId ->
      history.registrations[entry.handle]? =
        history.registrations[other.handle]?

/-- As long as no two pending entries of one packet id were registered with
different frames, both lookups of every retry return the frame registered for
its entry. -/
theorem retry_frames_of_oneFramePerId
    (timeoutMs maxRetries : Nat)
    (events : List TrackerEvent)
    (now : UInt64)
    (outCapacity droppedCapacity : Nat)
    (oneFrame : OneFramePerId (trackerRun timeoutMs maxRetries events)) :
    let history := trackerRun timeoutMs maxRetries events
    let checked := krsAckTrackerCheckTimeouts history.tracker now outCapacity
      droppedCapacity
    ∀ entry ∈ reportedEntries history.tracker now outCapacity,
      some (krsAckTrackerGetRetryFrame checked.2 entry.packetId) =
          history.registrations[entry.handle]? ∧
        some (krsAckTrackerGetRetryFrameForEntry checked.2 entry.handle) =
          history.registrations[entry.handle]? := by
  intro history checked entry reported
  have invariant : TrackerInvariant history :=
    trackerRun_invariant timeoutMs maxRetries events
  obtain ⟨forEntry, byId, registered⟩ :=
    invariant.lookups outCapacity droppedCapacity reported
  obtain ⟨present, due⟩ := List.mem_filter.mp (List.mem_of_mem_take reported)
  rw [List.mem_reverse] at present
  rw [forEntry, byId, registered]
  refine ⟨?_, rfl⟩
  cases first : firstWithId history.tracker now entry.packetId with
  | some found =>
      have stored := List.find?_some first
      simp only [Bool.and_eq_true, beq_iff_eq] at stored
      have member := List.mem_of_find?_eq_some first
      have same := oneFrame found member entry present stored.1.2
      rw [invariant.stored found member, registered] at same
      exact same
  | none =>
      have searched := List.find?_eq_none.mp first entry present
      rw [dropDue_of_retryDue due] at searched
      simp only [Bool.not_false, BEq.rfl, Bool.and_self, Bool.true_and,
        Bool.not_eq_true, Option.isSome_eq_false_iff,
        Option.isNone_iff_eq_none] at searched
      rw [searched]
      rfl

/-- Two frames registered under packet id 1, as fragments of one message or
messages on two channels are: the retry of the second is answered with the
frame of the first. -/
theorem retry_frames_differ :
    let history := trackerRun 1000 5
      [.expect 1 10 (some [1]) 1 0 true, .expect 1 11 (some [2]) 1 0 true]
    let checked := krsAckTrackerCheckTimeouts history.tracker 1000 16 16
    ¬ ∀ retry ∈ checked.1.retries,
      krsAckTrackerGetRetryFrame checked.2 retry.packetId =
        krsAckTrackerGetRetryFrameForEntry checked.2 retry.entry := by
  decide

end Kronos
