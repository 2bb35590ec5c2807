import Kronos.Ack.Tracker

/-!
# The ack tracker's operations on its pending list

The loops of the tracker run backwards over the pending array and delete from
it.  Here each of them is read as a function on lists: acknowledgements filter
the list, and `krsAckTrackerCheckTimeouts` splits it into entries that are left
alone, retried and dropped.
-/

namespace Kronos

open Library

/-! ## Acknowledgements -/

@[simp] theorem observeAck_handle
    (ackedPacketId : UInt64)
    (channel : Channel)
    (entry : AckEntry) :
    (observeAck ackedPacketId channel entry).handle = entry.handle := by
  unfold observeAck
  split_ifs <;> rfl

@[simp] theorem observeAck_packetId
    (ackedPacketId : UInt64)
    (channel : Channel)
    (entry : AckEntry) :
    (observeAck ackedPacketId channel entry).packetId = entry.packetId := by
  unfold observeAck
  split_ifs <;> rfl

@[simp] theorem observeAck_channel
    (ackedPacketId : UInt64)
    (channel : Channel)
    (entry : AckEntry) :
    (observeAck ackedPacketId channel entry).channel = entry.channel := by
  unfold observeAck
  split_ifs <;> rfl

@[simp] theorem observeAck_retryCount
    (ackedPacketId : UInt64)
    (channel : Channel)
    (entry : AckEntry) :
    (observeAck ackedPacketId channel entry).retryCount =
      entry.retryCount := by
  unfold observeAck
  split_ifs <;> rfl

@[simp] theorem observeAck_storedFrame
    (ackedPacketId : UInt64)
    (channel : Channel)
    (entry : AckEntry) :
    (observeAck ackedPacketId channel entry).storedFrame =
      entry.storedFrame := by
  unfold observeAck
  split_ifs <;> rfl

/-- An acknowledgement as it changes one entry: counted when fast retransmit
is on. -/
def observed
    (tracker : AckTracker)
    (ackedPacketId : UInt64)
    (channel : Channel)
    (entry : AckEntry) : AckEntry :=
  if tracker.fastRetransmitEnabled then
    observeAck ackedPacketId channel entry
  else entry

theorem recordAckObservation_eq
    (tracker : AckTracker)
    (ackedPacketId : UInt64)
    (channel : Channel) :
    recordAckObservation tracker ackedPacketId channel =
      { tracker with
        pending :=
          tracker.pending.map (observed tracker ackedPacketId channel) } := by
  unfold recordAckObservation observed
  cases enabled : tracker.fastRetransmitEnabled with
  | true => simp
  | false =>
      cases tracker
      simp at enabled ⊢
      exact enabled

/-- What an acknowledgement leaves of one entry. -/
def afterAck
    (tracker : AckTracker)
    (ackedPacketId : UInt64)
    (channel : Channel)
    (entry : AckEntry) : Option AckEntry :=
  if entry.awaits ackedPacketId channel then none
  else some (observed tracker ackedPacketId channel entry)

theorem observed_awaits
    (tracker : AckTracker)
    (ackedPacketId : UInt64)
    (channel : Channel)
    (entry : AckEntry) :
    (observed tracker ackedPacketId channel entry).awaits ackedPacketId
      channel = entry.awaits ackedPacketId channel := by
  unfold observed AckEntry.awaits
  split_ifs <;> simp

/-- `krs_ack_tracker_receive_rtt` removes the acknowledged entries and counts
the acknowledgement for the others. -/
theorem krsAckTrackerReceiveRtt_snd
    (tracker : AckTracker)
    (ackedPacketId : UInt64)
    (channel : Channel)
    (now : UInt64) :
    (krsAckTrackerReceiveRtt tracker ackedPacketId channel now).2 =
      { tracker with
        pending := tracker.pending.filterMap
          (afterAck tracker ackedPacketId channel) } := by
  simp only [krsAckTrackerReceiveRtt, recordAckObservation_eq,
    sweep_eq_sweepRight]
  rw [sweepRight_snd_eq_filterMap (fun entry =>
    if entry.awaits ackedPacketId channel then none else some entry),
    List.filterMap_map]
  · congr 2
    funext entry
    simp only [Function.comp_apply, observed_awaits, afterAck]
  · intro rttMs entry
    split_ifs <;> rfl

/-- Both ways of receiving an acknowledgement leave the same tracker. -/
theorem krsAckTrackerReceive_eq
    (tracker : AckTracker)
    (ackedPacketId : UInt64)
    (channel : Channel) :
    krsAckTrackerReceive tracker ackedPacketId channel =
      { tracker with
        pending := tracker.pending.filterMap
          (afterAck tracker ackedPacketId channel) } := by
  simp only [krsAckTrackerReceive, recordAckObservation_eq,
    sweep_eq_sweepRight]
  rw [sweepRight_snd_eq_filterMap (fun entry =>
    if entry.awaits ackedPacketId channel then none else some entry),
    List.filterMap_map]
  · congr 2
    funext entry
    simp only [Function.comp_apply, observed_awaits, afterAck]
  · intro state entry
    split_ifs <;> rfl

/-- A round-trip time is measured exactly when an entry was acknowledged. -/
theorem krsAckTrackerReceiveRtt_fst_isSome
    (tracker : AckTracker)
    (ackedPacketId : UInt64)
    (channel : Channel)
    (now : UInt64) :
    (krsAckTrackerReceiveRtt tracker ackedPacketId channel now).1.isSome =
      tracker.pending.any fun entry => entry.awaits ackedPacketId channel := by
  simp only [krsAckTrackerReceiveRtt, recordAckObservation_eq,
    sweep_eq_sweepRight]
  induction tracker.pending with
  | nil => rfl
  | cons entry pending inductionHypothesis =>
      rw [List.map_cons, sweepRight_cons, observed_awaits, List.any_cons]
      by_cases awaited : entry.awaits ackedPacketId channel = true
      · simp [awaited]
      · rw [Bool.not_eq_true] at awaited
        simp only [awaited, Bool.false_eq_true, if_false, Bool.false_or]
        exact inductionHypothesis

theorem afterAck_handle
    {tracker : AckTracker}
    {ackedPacketId : UInt64}
    {channel : Channel}
    {entry kept : AckEntry}
    (left : afterAck tracker ackedPacketId channel entry = some kept) :
    kept.handle = entry.handle ∧ kept.storedFrame = entry.storedFrame := by
  unfold afterAck observed at left
  split_ifs at left <;> cases left <;> simp

/-! ## Timeouts -/

/-- The entry has to be resent or given up. -/
def due (tracker : AckTracker) (now : UInt64) (entry : AckEntry) : Bool :=
  fastRetransmitDue tracker entry || timeoutDue tracker now entry

/-- The entry is retried by a check at this time. -/
def retryDue (tracker : AckTracker) (now : UInt64) (entry : AckEntry) :
    Bool :=
  due tracker now entry && decide (entry.retryCount < tracker.maxRetries)

/-- The entry is dropped by a check at this time. -/
def dropDue (tracker : AckTracker) (now : UInt64) (entry : AckEntry) :
    Bool :=
  due tracker now entry && decide (tracker.maxRetries ≤ entry.retryCount)

/-- What a check leaves of one entry. -/
def afterCheck
    (tracker : AckTracker)
    (now : UInt64)
    (entry : AckEntry) : Option AckEntry :=
  if dropDue tracker now entry then none
  else if retryDue tracker now entry then some (retriedEntry now entry)
  else some entry

theorem dropDue_of_retryDue
    {tracker : AckTracker}
    {now : UInt64}
    {entry : AckEntry}
    (retried : retryDue tracker now entry = true) :
    dropDue tracker now entry = false := by
  simp only [retryDue, Bool.and_eq_true, decide_eq_true_eq] at retried
  simp only [dropDue, Bool.and_eq_false_iff, decide_eq_false_iff_not]
  right
  omega

theorem afterCheck_handle
    {tracker : AckTracker}
    {now : UInt64}
    {entry kept : AckEntry}
    (left : afterCheck tracker now entry = some kept) :
    kept.handle = entry.handle ∧ kept.packetId = entry.packetId ∧
      kept.storedFrame = entry.storedFrame := by
  unfold afterCheck at left
  split_ifs at left <;> cases left <;> exact ⟨rfl, rfl, rfl⟩

/-- An entry that is retried stays, and the lookup by its handle finds the
frame it stores. -/
theorem getRetryFrameForEntry_afterCheck
    {tracker : AckTracker}
    {now : UInt64}
    {entry : AckEntry}
    (distinct : DistinctKeys AckEntry.handle tracker.pending)
    (present : entry ∈ tracker.pending)
    (retried : retryDue tracker now entry = true) :
    krsAckTrackerGetRetryFrameForEntry
        { tracker with
          pending := tracker.pending.filterMap (afterCheck tracker now) }
        entry.handle = entry.storedFrame := by
  have left : afterCheck tracker now entry =
      some (retriedEntry now entry) := by
    rw [afterCheck, dropDue_of_retryDue retried, retried]
    rfl
  have handleKept : ∀ entry kept, afterCheck tracker now entry = some kept ->
      kept.handle = entry.handle :=
    fun _ _ left => (afterCheck_handle left).1
  have found := (distinct.filterMap handleKept).lookup_eq_some_iff.mpr
    ⟨List.mem_filterMap.mpr ⟨entry, present, left⟩, rfl⟩
  unfold krsAckTrackerGetRetryFrameForEntry
  exact (congrArg (Option.bind · AckEntry.storedFrame) found).trans rfl

/-- One round of a check, by what it does with the entry. -/
theorem checkEntry_eq
    (tracker : AckTracker)
    (now : UInt64)
    (outCapacity droppedCapacity : Nat)
    (check : TimeoutCheck)
    (entry : AckEntry) :
    checkEntry tracker now outCapacity droppedCapacity check entry =
      if dropDue tracker now entry then
        ({ check with
            dropped :=
              if check.dropped.length < droppedCapacity then
                check.dropped ++ [(entry.packetId, entry.channel)]
              else check.dropped }, none)
      else if retryDue tracker now entry then
        ({ check with
            retries :=
              if check.retryCount < outCapacity then
                check.retries ++ [retryReport tracker entry]
              else check.retries
            retryCount := check.retryCount + 1 },
          some (retriedEntry now entry))
      else (check, some entry) := by
  unfold checkEntry dropDue retryDue due
  cases fastRetransmitDue tracker entry <;>
    cases timeoutDue tracker now entry <;>
    rcases Nat.lt_or_ge entry.retryCount tracker.maxRetries with
      left | exhausted <;> simp_all [Nat.not_le.mpr]

/-- The pending list after a check. -/
theorem krsAckTrackerCheckTimeouts_snd
    (tracker : AckTracker)
    (now : UInt64)
    (outCapacity droppedCapacity : Nat) :
    (krsAckTrackerCheckTimeouts tracker now outCapacity droppedCapacity).2 =
      { tracker with
        pending := tracker.pending.filterMap (afterCheck tracker now) } := by
  simp only [krsAckTrackerCheckTimeouts, sweep_eq_sweepRight]
  rw [sweepRight_snd_eq_filterMap (afterCheck tracker now)]
  intro check entry
  rw [checkEntry_eq, afterCheck]
  split_ifs <;> rfl

/-- A bounded buffer holds the first items written to it. -/
theorem take_append_of_room
    (items : List α)
    (item : α)
    (capacity : Nat) :
    (if items.length < capacity then items.take capacity ++ [item]
      else items.take capacity) = (items ++ [item]).take capacity := by
  split
  case isTrue room =>
    rw [List.take_of_length_le (by omega),
      List.take_of_length_le (by simp; omega)]
  case isFalse full =>
    rw [List.take_append_of_le_length (by omega)]

/-- The reports of a check: the retried and the dropped entries from the end of
the list on, as far as the buffers reach. -/
theorem krsAckTrackerCheckTimeouts_fst
    (tracker : AckTracker)
    (now : UInt64)
    (outCapacity droppedCapacity : Nat) :
    (krsAckTrackerCheckTimeouts tracker now outCapacity droppedCapacity).1 =
      { retries :=
          ((tracker.pending.reverse.filter (retryDue tracker now)).map
            (retryReport tracker)).take outCapacity
        retryCount :=
          (tracker.pending.reverse.filter (retryDue tracker now)).length
        dropped :=
          ((tracker.pending.reverse.filter (dropDue tracker now)).map
            fun entry => (entry.packetId, entry.channel)).take
              droppedCapacity } := by
  simp only [krsAckTrackerCheckTimeouts, sweep_eq_sweepRight]
  induction tracker.pending with
  | nil => simp
  | cons entry pending inductionHypothesis =>
      rw [sweepRight_cons, checkEntry_eq, inductionHypothesis,
        List.reverse_cons, List.filter_append, List.filter_append]
      cases dropped : dropDue tracker now entry with
      | true =>
          have notRetried : retryDue tracker now entry = false := by
            by_contra retried
            rw [Bool.not_eq_false] at retried
            rw [dropDue_of_retryDue retried] at dropped
            cases dropped
          simp only [if_true, List.filter_cons, List.filter_nil, dropped,
            notRetried, Bool.false_eq_true, if_false, List.append_nil,
            List.map_append, List.map_cons, List.map_nil]
          congr 1
          rw [← take_append_of_room]
          congr 1
          rw [List.length_take]
          exact propext (by omega)
      | false =>
          cases retried : retryDue tracker now entry with
          | true =>
              simp only [Bool.false_eq_true, if_false, if_true,
                List.filter_cons, List.filter_nil, dropped, retried,
                List.append_nil, List.map_append, List.map_cons,
                List.map_nil, List.length_append, List.length_cons,
                List.length_nil]
              congr 1
              rw [← take_append_of_room, List.length_map]
          | false =>
              simp only [Bool.false_eq_true, if_false, List.filter_cons,
                List.filter_nil, dropped, retried, List.append_nil]

end Kronos
