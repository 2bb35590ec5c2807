import Kronos.Basic
import Kronos.Library.ArraySweep
import Kronos.Library.KeyedList

/-!
# The ack tracker

A tracker holds one entry per frame that waits for its acknowledgement.  The
entries are heap objects that callers refer to by pointer; here a pointer is a
`handle`, the number of the registration that allocated the entry, and
`registered` counts the registrations so far.
-/

namespace Kronos

open Library

/-- `KRS_FAST_RETRANSMIT_THRESHOLD`. -/
def krsFastRetransmitThreshold : Nat := 3

/-- `KRS_ACK_RTO_BACKOFF_MAX_MS`. -/
def krsAckRtoBackoffMaxMs : Nat := 60000

/-- `AckEntry_t`. -/
structure AckEntry where
  handle : Nat
  packetId : UInt64
  frameData : Option (List UInt8)
  frameSize : Nat
  timestampMs : UInt64
  retryCount : Nat
  ackedAfterCount : Nat
  channel : Channel
  deriving DecidableEq, Repr

/-- `AckTracker_t`. -/
structure AckTracker where
  pending : List AckEntry
  timeoutMs : Nat
  maxRetries : Nat
  fastRetransmitEnabled : Bool
  registered : Nat
  deriving DecidableEq, Repr

/-- `krs_ack_tracker_create`. -/
def krsAckTrackerCreate (timeoutMs maxRetries : Nat) : AckTracker :=
  { pending := []
    timeoutMs := timeoutMs
    maxRetries := maxRetries
    fastRetransmitEnabled := true
    registered := 0 }

/-- The entry that `krs_ack_tracker_expect` allocates.  A frame is copied when
there is one. -/
def newEntry
    (handle : Nat)
    (packetId : UInt64)
    (channel : Channel)
    (frameData : Option (List UInt8))
    (frameSize : Nat)
    (now : UInt64) : AckEntry :=
  { handle := handle
    packetId := packetId
    frameData :=
      if frameSize > 0 then frameData.map (List.take frameSize) else none
    frameSize := frameSize
    timestampMs := now
    retryCount := 0
    ackedAfterCount := 0
    channel := channel }

/-- `krs_ack_tracker_expect`.  `allocated` is the outcome of the allocations of
the call; a failed one registers nothing. -/
def krsAckTrackerExpect
    (tracker : AckTracker)
    (packetId : UInt64)
    (channel : Channel)
    (frameData : Option (List UInt8))
    (frameSize : Nat)
    (now : UInt64)
    (allocated : Bool) : AckTracker :=
  if !allocated then tracker
  else
    { tracker with
      pending := tracker.pending ++
        [newEntry tracker.registered packetId channel frameData frameSize now]
      registered := tracker.registered + 1 }

/-! ## Acknowledgements -/

/-- One round of the loop of `s_record_ack_observation`: an acknowledgement of
a later packet of the channel is counted, up to 255. -/
def observeAck
    (ackedPacketId : UInt64)
    (channel : Channel)
    (entry : AckEntry) : AckEntry :=
  if entry.channel ≠ channel then entry
  else if entry.packetId < ackedPacketId then
    if entry.ackedAfterCount < 255 then
      { entry with ackedAfterCount := entry.ackedAfterCount + 1 }
    else entry
  else entry

/-- `s_record_ack_observation`. -/
def recordAckObservation
    (tracker : AckTracker)
    (ackedPacketId : UInt64)
    (channel : Channel) : AckTracker :=
  if !tracker.fastRetransmitEnabled then tracker
  else
    { tracker with
      pending := tracker.pending.map (observeAck ackedPacketId channel) }

/-- The entry waits for this acknowledgement. -/
def AckEntry.awaits
    (entry : AckEntry)
    (ackedPacketId : UInt64)
    (channel : Channel) : Bool :=
  entry.packetId == ackedPacketId && entry.channel == channel

/-- `krs_ack_tracker_receive`. -/
def krsAckTrackerReceive
    (tracker : AckTracker)
    (ackedPacketId : UInt64)
    (channel : Channel) : AckTracker :=
  let observed := recordAckObservation tracker ackedPacketId channel
  let swept := sweep (fun (_ : Unit) entry =>
    if entry.awaits ackedPacketId channel then ((), none)
    else ((), some entry)) () observed.pending
  { observed with pending := swept.2 }

/-- `krs_ack_tracker_receive_rtt` at time `now`: the round-trip time of the
first entry met, where the source returns a negative time for none. -/
def krsAckTrackerReceiveRtt
    (tracker : AckTracker)
    (ackedPacketId : UInt64)
    (channel : Channel)
    (now : UInt64) : Option Nat × AckTracker :=
  let observed := recordAckObservation tracker ackedPacketId channel
  let swept := sweep (fun rttMs entry =>
    if entry.awaits ackedPacketId channel then
      (rttMs.or (some (now - entry.timestampMs).toNat), none)
    else (rttMs, some entry)) none observed.pending
  (swept.1, { observed with pending := swept.2 })

/-! ## Timeouts -/

/-- Enough later packets were acknowledged to resend without waiting. -/
def fastRetransmitDue (tracker : AckTracker) (entry : AckEntry) : Bool :=
  tracker.fastRetransmitEnabled &&
    decide (entry.ackedAfterCount ≥ krsFastRetransmitThreshold)

/-- The base timeout, doubled with each retry up to a limit. -/
def effectiveTimeoutMs (tracker : AckTracker) (entry : AckEntry) : Nat :=
  if entry.retryCount > 0 then
    let shift := if entry.retryCount > 6 then 6 else entry.retryCount
    let backedOff := tracker.timeoutMs <<< shift
    if backedOff > krsAckRtoBackoffMaxMs then krsAckRtoBackoffMaxMs
    else backedOff
  else tracker.timeoutMs

/-- The entry has waited for its timeout. -/
def timeoutDue
    (tracker : AckTracker)
    (now : UInt64)
    (entry : AckEntry) : Bool :=
  decide ((now - entry.timestampMs).toNat ≥
    effectiveTimeoutMs tracker entry)

/-- What `krs_ack_tracker_check_timeouts` reports about one retry. -/
structure Retry where
  packetId : UInt64
  channel : Channel
  entry : Nat
  wasFast : Bool
  deriving DecidableEq, Repr

/-- The output buffers and counters of `krs_ack_tracker_check_timeouts`. -/
structure TimeoutCheck where
  retries : List Retry := []
  retryCount : Nat := 0
  dropped : List (UInt64 × Channel) := []
  deriving DecidableEq, Repr

/-- The report about an entry that is retried. -/
def retryReport (tracker : AckTracker) (entry : AckEntry) : Retry :=
  { packetId := entry.packetId
    channel := entry.channel
    entry := entry.handle
    wasFast := fastRetransmitDue tracker entry }

/-- The entry after it was retried. -/
def retriedEntry (now : UInt64) (entry : AckEntry) : AckEntry :=
  { entry with
    retryCount := entry.retryCount + 1
    timestampMs := now
    ackedAfterCount := 0 }

/-- One round of the loop of `krs_ack_tracker_check_timeouts`. -/
def checkEntry
    (tracker : AckTracker)
    (now : UInt64)
    (outCapacity droppedCapacity : Nat)
    (check : TimeoutCheck)
    (entry : AckEntry) : TimeoutCheck × Option AckEntry :=
  if !fastRetransmitDue tracker entry && !timeoutDue tracker now entry then
    (check, some entry)
  else if entry.retryCount ≥ tracker.maxRetries then
    ({ check with
        dropped :=
          if check.dropped.length < droppedCapacity then
            check.dropped ++ [(entry.packetId, entry.channel)]
          else check.dropped }, none)
  else
    ({ check with
        retries :=
          if check.retryCount < outCapacity then
            check.retries ++ [retryReport tracker entry]
          else check.retries
        retryCount := check.retryCount + 1 }, some (retriedEntry now entry))

/-- `krs_ack_tracker_check_timeouts` at time `now`. -/
def krsAckTrackerCheckTimeouts
    (tracker : AckTracker)
    (now : UInt64)
    (outCapacity droppedCapacity : Nat) : TimeoutCheck × AckTracker :=
  let swept := sweep (checkEntry tracker now outCapacity droppedCapacity) {}
    tracker.pending
  (swept.1, { tracker with pending := swept.2 })

/-! ## Stored frames and settings -/

/-- The stored frame and its size, unless it is empty. -/
def AckEntry.storedFrame (entry : AckEntry) : Option (List UInt8 × Nat) :=
  match entry.frameData with
  | none => none
  | some data =>
      if entry.frameSize = 0 then none else some (data, entry.frameSize)

/-- `krs_ack_tracker_get_retry_frame`: the first stored frame with the packet
id. -/
def krsAckTrackerGetRetryFrame
    (tracker : AckTracker)
    (packetId : UInt64) : Option (List UInt8 × Nat) :=
  tracker.pending.findSome? fun entry =>
    if entry.packetId ≠ packetId then none else entry.storedFrame

/-- `krs_ack_tracker_get_retry_frame_for_entry`: the frame of the entry that
the handle points to. -/
def krsAckTrackerGetRetryFrameForEntry
    (tracker : AckTracker)
    (entry : Nat) : Option (List UInt8 × Nat) :=
  (lookup AckEntry.handle tracker.pending entry).bind AckEntry.storedFrame

/-- `krs_ack_tracker_set_timeout`: at least 50 milliseconds. -/
def krsAckTrackerSetTimeout (tracker : AckTracker) (timeoutMs : Nat) :
    AckTracker :=
  { tracker with timeoutMs := if timeoutMs < 50 then 50 else timeoutMs }

/-- `krs_ack_tracker_set_fast_retransmit_enabled`. -/
def krsAckTrackerSetFastRetransmitEnabled
    (tracker : AckTracker)
    (enabled : Bool) : AckTracker :=
  { tracker with fastRetransmitEnabled := enabled }

end Kronos
