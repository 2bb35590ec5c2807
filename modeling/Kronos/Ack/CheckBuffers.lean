import Kronos.Ack.Spec

/-!
# The output buffers of a timeout check

`krs_ack_tracker_check_timeouts` reports into buffers of the caller, most of
which may be `NULL`, and counts what it reports.  `krsAckTrackerCheckTimeouts`
collects the same reports in lists; the loop over the buffers follows it step
by step.  Without a buffer for the ids of dropped packets nothing is reported
about dropped packets.
-/

namespace Kronos

open Library

/-- The pointers that `krs_ack_tracker_check_timeouts` is called with, and the
memory behind them; `none` stands for `NULL`. -/
structure CheckBuffers where
  retryIds : Option (List UInt64)
  retryChannels : Option (List Channel)
  retryEntries : Option (List Nat)
  retryWasFast : Option (List Bool)
  droppedIds : Option (List UInt64)
  droppedChannels : Option (List Channel)
  droppedCount : Option Nat
  deriving DecidableEq, Repr

/-- The buffers and the counters inside the loop. -/
structure CheckLoop where
  buffers : CheckBuffers
  retryCount : Nat
  droppedCount : Nat
  deriving DecidableEq, Repr

/-- The report about a retry, at the index of the counter. -/
def writeRetry
    (tracker : AckTracker)
    (entry : AckEntry)
    (loop : CheckLoop) : CheckBuffers :=
  { loop.buffers with
    retryIds :=
      loop.buffers.retryIds.map (·.set loop.retryCount entry.packetId)
    retryChannels :=
      loop.buffers.retryChannels.map (·.set loop.retryCount entry.channel)
    retryEntries :=
      loop.buffers.retryEntries.map (·.set loop.retryCount entry.handle)
    retryWasFast :=
      loop.buffers.retryWasFast.map
        (·.set loop.retryCount (fastRetransmitDue tracker entry)) }

/-- The report about a dropped packet: only with a buffer for its id, and only
while there is room. -/
def writeDropped
    (droppedCapacity : Nat)
    (entry : AckEntry)
    (loop : CheckLoop) : CheckLoop :=
  match loop.buffers.droppedIds with
  | none => loop
  | some ids =>
      if loop.droppedCount < droppedCapacity then
        { loop with
          buffers :=
            { loop.buffers with
              droppedIds := some (ids.set loop.droppedCount entry.packetId)
              droppedChannels := loop.buffers.droppedChannels.map
                (·.set loop.droppedCount entry.channel) }
          droppedCount := loop.droppedCount + 1 }
      else loop

/-- One round of the loop, with the buffers. -/
def checkEntryInto
    (tracker : AckTracker)
    (now : UInt64)
    (outCapacity droppedCapacity : Nat)
    (loop : CheckLoop)
    (entry : AckEntry) : CheckLoop × Option AckEntry :=
  if !fastRetransmitDue tracker entry && !timeoutDue tracker now entry then
    (loop, some entry)
  else if entry.retryCount ≥ tracker.maxRetries then
    (writeDropped droppedCapacity entry loop, none)
  else
    ({ loop with
        buffers :=
          if loop.retryCount < outCapacity then writeRetry tracker entry loop
          else loop.buffers
        retryCount := loop.retryCount + 1 }, some (retriedEntry now entry))

/-- `krs_ack_tracker_check_timeouts` at time `now`, with its buffers: the
number of retries, the buffers and the tracker after the call. -/
def krsAckTrackerCheckTimeoutsInto
    (tracker : AckTracker)
    (now : UInt64)
    (buffers : CheckBuffers)
    (outCapacity droppedCapacity : Nat) :
    Nat × CheckBuffers × AckTracker :=
  let cleared : CheckBuffers :=
    { buffers with droppedCount := buffers.droppedCount.map fun _ => 0 }
  if buffers.retryIds.isNone then (0, cleared, tracker)
  else
    let swept := sweep
      (checkEntryInto tracker now outCapacity droppedCapacity)
      { buffers := cleared, retryCount := 0, droppedCount := 0 }
      tracker.pending
    (swept.1.retryCount,
      { swept.1.buffers with
        droppedCount := swept.1.buffers.droppedCount.map
          fun _ => swept.1.droppedCount },
      { tracker with pending := swept.2 })

/-! ## The loop over the buffers follows the reports -/

/-- Every buffer that is given has room for its capacity. -/
structure CheckBuffers.HasRoom
    (buffers : CheckBuffers)
    (outCapacity droppedCapacity : Nat) : Prop where
  retryIds : ∀ ids ∈ buffers.retryIds, outCapacity ≤ ids.length
  retryChannels : ∀ channels ∈ buffers.retryChannels,
    outCapacity ≤ channels.length
  retryEntries : ∀ entries ∈ buffers.retryEntries,
    outCapacity ≤ entries.length
  retryWasFast : ∀ flags ∈ buffers.retryWasFast, outCapacity ≤ flags.length
  droppedIds : ∀ ids ∈ buffers.droppedIds, droppedCapacity ≤ ids.length
  droppedChannels : ∀ channels ∈ buffers.droppedChannels,
    droppedCapacity ≤ channels.length

/-- The buffers with the reports of a check in them.  Without a buffer for the
dropped ids the buffer for the dropped channels is not touched. -/
def CheckBuffers.withReports
    (buffers : CheckBuffers)
    (retries : List Retry)
    (dropped : List (UInt64 × Channel)) : CheckBuffers :=
  { retryIds := buffers.retryIds.map
      (filled · (retries.map Retry.packetId))
    retryChannels := buffers.retryChannels.map
      (filled · (retries.map Retry.channel))
    retryEntries := buffers.retryEntries.map
      (filled · (retries.map Retry.entry))
    retryWasFast := buffers.retryWasFast.map
      (filled · (retries.map Retry.wasFast))
    droppedIds := buffers.droppedIds.map (filled · (dropped.map Prod.fst))
    droppedChannels :=
      if buffers.droppedIds.isSome then
        buffers.droppedChannels.map (filled · (dropped.map Prod.snd))
      else buffers.droppedChannels
    droppedCount := buffers.droppedCount }

/-- The loop has written what the check has reported so far. -/
structure Writes
    (buffers : CheckBuffers)
    (outCapacity droppedCapacity : Nat)
    (loop : CheckLoop)
    (check : TimeoutCheck) : Prop where
  written : loop.buffers = buffers.withReports check.retries check.dropped
  retryCount : loop.retryCount = check.retryCount
  retries : check.retries.length = min check.retryCount outCapacity
  dropped : check.dropped.length ≤ droppedCapacity
  droppedCount : loop.droppedCount =
    if buffers.droppedIds.isSome then check.dropped.length else 0

theorem map_filled_set
    {buffer : Option (List α)}
    {capacity : Nat}
    (items : List α)
    (item : α)
    (room : ∀ cells ∈ buffer, capacity ≤ cells.length)
    (free : items.length < capacity) :
    (buffer.map (filled · items)).map (·.set items.length item) =
      buffer.map (filled · (items ++ [item])) := by
  cases buffer with
  | none => rfl
  | some cells =>
      have space := room cells rfl
      simp only [Option.map_some, filled_set item
        (show items.length < cells.length by omega)]

/-- Writing a retry adds it to the reports. -/
theorem Writes.writeRetry
    {buffers : CheckBuffers}
    {outCapacity droppedCapacity : Nat}
    {loop : CheckLoop}
    {check : TimeoutCheck}
    (room : buffers.HasRoom outCapacity droppedCapacity)
    (writes : Writes buffers outCapacity droppedCapacity loop check)
    (tracker : AckTracker)
    (entry : AckEntry)
    (free : check.retryCount < outCapacity) :
    Kronos.writeRetry tracker entry loop =
      buffers.withReports (check.retries ++ [retryReport tracker entry])
        check.dropped := by
  have position : loop.retryCount = check.retries.length := by
    rw [writes.retryCount, writes.retries]
    omega
  have inside : check.retries.length < outCapacity := by
    rw [writes.retries]
    omega
  have ids := map_filled_set (check.retries.map Retry.packetId)
    entry.packetId room.retryIds (by simpa using inside)
  have channels := map_filled_set (check.retries.map Retry.channel)
    entry.channel room.retryChannels (by simpa using inside)
  have entries := map_filled_set (check.retries.map Retry.entry)
    entry.handle room.retryEntries (by simpa using inside)
  have flags := map_filled_set (check.retries.map Retry.wasFast)
    (fastRetransmitDue tracker entry) room.retryWasFast
    (by simpa using inside)
  rw [List.length_map] at ids channels entries flags
  rw [Kronos.writeRetry, writes.written, position]
  simp only [CheckBuffers.withReports, ids, channels, entries, flags,
    List.map_append, List.map_singleton, retryReport]

/-- Writing a dropped packet adds it to the reports. -/
theorem Writes.writeDropped
    {buffers : CheckBuffers}
    {outCapacity droppedCapacity : Nat}
    {loop : CheckLoop}
    {check : TimeoutCheck}
    (room : buffers.HasRoom outCapacity droppedCapacity)
    (writes : Writes buffers outCapacity droppedCapacity loop check)
    (entry : AckEntry) :
    Writes buffers outCapacity droppedCapacity
      (Kronos.writeDropped droppedCapacity entry loop)
      { check with
        dropped :=
          if check.dropped.length < droppedCapacity then
            check.dropped ++ [(entry.packetId, entry.channel)]
          else check.dropped } := by
  have written := writes.written
  have counted := writes.droppedCount
  have short := writes.dropped
  have grown : (if check.dropped.length < droppedCapacity then
      check.dropped ++ [(entry.packetId, entry.channel)]
      else check.dropped).length ≤ droppedCapacity := by
    split
    case isTrue free =>
      rw [List.length_append, List.length_singleton]
      exact free
    case isFalse => exact short
  unfold Kronos.writeDropped
  cases given : buffers.droppedIds with
  | none =>
      have absent : loop.buffers.droppedIds = none := by
        rw [written, CheckBuffers.withReports, given]
        rfl
      rw [absent]
      refine ⟨?_, writes.retryCount, writes.retries, grown, ?_⟩
      · rw [written]
        simp only [CheckBuffers.withReports, given]
        rfl
      · rw [counted, given]
        rfl
  | some cells =>
      have present : loop.buffers.droppedIds =
          some (filled cells (check.dropped.map Prod.fst)) := by
        rw [written, CheckBuffers.withReports, given]
        rfl
      rw [given] at counted
      rw [present]
      have position : loop.droppedCount = check.dropped.length := counted
      simp only [position]
      by_cases free : check.dropped.length < droppedCapacity
      · have ids := map_filled_set (check.dropped.map Prod.fst)
          entry.packetId room.droppedIds (by simpa using free)
        have channels := map_filled_set (check.dropped.map Prod.snd)
          entry.channel room.droppedChannels (by simpa using free)
        rw [List.length_map] at ids channels
        rw [given] at ids
        rw [if_pos free, if_pos free]
        rw [if_pos free] at grown
        refine ⟨?_, writes.retryCount, writes.retries, grown, ?_⟩
        · rw [written]
          simp only [CheckBuffers.withReports, given, Option.isSome_some,
            if_true, channels, List.map_append, List.map_singleton]
          rw [← ids]
          rfl
        · rw [given, List.length_append]
          rfl
      · rw [if_neg free, if_neg free]
        exact writes

/-- One round of the loop over the buffers follows one round of the check. -/
theorem Writes.checkEntry
    {buffers : CheckBuffers}
    {outCapacity droppedCapacity : Nat}
    (room : buffers.HasRoom outCapacity droppedCapacity)
    (tracker : AckTracker)
    (now : UInt64)
    (loop : CheckLoop)
    (check : TimeoutCheck)
    (entry : AckEntry)
    (writes : Writes buffers outCapacity droppedCapacity loop check) :
    Writes buffers outCapacity droppedCapacity
        (checkEntryInto tracker now outCapacity droppedCapacity loop
          entry).1
        (Kronos.checkEntry tracker now outCapacity droppedCapacity check
          entry).1 ∧
      (checkEntryInto tracker now outCapacity droppedCapacity loop
          entry).2 =
        (Kronos.checkEntry tracker now outCapacity droppedCapacity check
          entry).2 := by
  unfold checkEntryInto Kronos.checkEntry
  by_cases quiet : (!fastRetransmitDue tracker entry &&
      !timeoutDue tracker now entry) = true
  · rw [if_pos quiet, if_pos quiet]
    exact ⟨writes, rfl⟩
  rw [if_neg quiet, if_neg quiet]
  by_cases exhausted : entry.retryCount ≥ tracker.maxRetries
  · rw [if_pos exhausted, if_pos exhausted]
    exact ⟨writes.writeDropped room entry, rfl⟩
  rw [if_neg exhausted, if_neg exhausted]
  refine ⟨?_, rfl⟩
  have counted := writes.retries
  have same : (loop.retryCount < outCapacity) =
      (check.retryCount < outCapacity) := by rw [writes.retryCount]
  simp only [same]
  by_cases free : check.retryCount < outCapacity
  · rw [if_pos free, if_pos free]
    refine ⟨writes.writeRetry room tracker entry free, ?_, ?_,
      writes.dropped, writes.droppedCount⟩
    · rw [writes.retryCount]
    · rw [List.length_append, List.length_singleton, counted]
      dsimp only
      omega
  · rw [if_neg free, if_neg free]
    refine ⟨writes.written, ?_, ?_, writes.dropped, writes.droppedCount⟩
    · rw [writes.retryCount]
    · dsimp only
      omega

/-! ## The whole call -/

/-- The entries that a check retries, from the end of the list on. -/
def retriesDue (tracker : AckTracker) (now : UInt64) : List AckEntry :=
  tracker.pending.reverse.filter (retryDue tracker now)

/-- The entries that a check drops, from the end of the list on. -/
def dropsDue (tracker : AckTracker) (now : UInt64) : List AckEntry :=
  tracker.pending.reverse.filter (dropDue tracker now)

/-- With a buffer for the retried ids, the call leaves the tracker that the
check leaves, and its reports in the buffers. -/
theorem krsAckTrackerCheckTimeoutsInto_eq
    (tracker : AckTracker)
    (now : UInt64)
    {buffers : CheckBuffers}
    {outCapacity droppedCapacity : Nat}
    (given : buffers.retryIds.isSome = true)
    (room : buffers.HasRoom outCapacity droppedCapacity) :
    let checked := krsAckTrackerCheckTimeouts tracker now outCapacity
      droppedCapacity
    krsAckTrackerCheckTimeoutsInto tracker now buffers outCapacity
        droppedCapacity =
      (checked.1.retryCount,
        { buffers.withReports checked.1.retries checked.1.dropped with
          droppedCount := buffers.droppedCount.map fun _ =>
            if buffers.droppedIds.isSome then checked.1.dropped.length
            else 0 },
        checked.2) := by
  dsimp only
  have notNull : ¬ buffers.retryIds.isNone = true := by
    intro absent
    rw [Option.isNone_iff_eq_none.mp absent] at given
    cases given
  have start : Writes
      { buffers with droppedCount := buffers.droppedCount.map fun _ => 0 }
      outCapacity droppedCapacity
      { buffers :=
          { buffers with
            droppedCount := buffers.droppedCount.map fun _ => 0 }
        retryCount := 0
        droppedCount := 0 } {} := by
    refine ⟨?_, rfl, (Nat.zero_min _).symm, Nat.zero_le _, ?_⟩
    · simp [CheckBuffers.withReports]
    · simp
  have stillRoom :
      { buffers with
        droppedCount := buffers.droppedCount.map fun _ => 0 }.HasRoom
        outCapacity droppedCapacity :=
    ⟨room.retryIds, room.retryChannels, room.retryEntries,
      room.retryWasFast, room.droppedIds, room.droppedChannels⟩
  obtain ⟨writes, samePending⟩ := sweepRight_related
    (Writes.checkEntry stillRoom tracker now) start tracker.pending
  unfold krsAckTrackerCheckTimeoutsInto krsAckTrackerCheckTimeouts
  rw [if_neg notNull, sweep_eq_sweepRight, sweep_eq_sweepRight]
  dsimp only
  rw [samePending, writes.retryCount, writes.written, writes.droppedCount]
  simp only [CheckBuffers.withReports, Option.map_map]
  rfl

/-- A call splits the pending entries into those it leaves alone, those it
drops and those it retries; it returns the number of retries and reports the
first retries and drops from the end of the list into every buffer that is
given.  Drops are reported with a buffer for their ids only. -/
theorem check_timeouts_partition
    (tracker : AckTracker)
    (now : UInt64)
    {buffers : CheckBuffers}
    {outCapacity droppedCapacity : Nat}
    (given : buffers.retryIds.isSome = true)
    (room : buffers.HasRoom outCapacity droppedCapacity) :
    let retried := retriesDue tracker now
    let dropped := dropsDue tracker now
    let result := krsAckTrackerCheckTimeoutsInto tracker now buffers
      outCapacity droppedCapacity
    result.1 = retried.length ∧
      result.2.2 = { tracker with
        pending := tracker.pending.filterMap (afterCheck tracker now) } ∧
      (∀ entry ∈ retried, retriedEntry now entry ∈ result.2.2.pending) ∧
      result.2.1.retryIds = buffers.retryIds.map
        (filled · ((retried.take outCapacity).map AckEntry.packetId)) ∧
      result.2.1.retryChannels = buffers.retryChannels.map
        (filled · ((retried.take outCapacity).map AckEntry.channel)) ∧
      result.2.1.retryEntries = buffers.retryEntries.map
        (filled · ((retried.take outCapacity).map AckEntry.handle)) ∧
      result.2.1.retryWasFast = buffers.retryWasFast.map
        (filled · ((retried.take outCapacity).map
          (fastRetransmitDue tracker))) ∧
      result.2.1.droppedIds = buffers.droppedIds.map
        (filled · ((dropped.take droppedCapacity).map
          AckEntry.packetId)) ∧
      result.2.1.droppedChannels =
        (if buffers.droppedIds.isSome then buffers.droppedChannels.map
            (filled · ((dropped.take droppedCapacity).map
              AckEntry.channel))
          else buffers.droppedChannels) ∧
      result.2.1.droppedCount = buffers.droppedCount.map fun _ =>
        if buffers.droppedIds.isSome then
          (dropped.take droppedCapacity).length
        else 0 := by
  intro retried dropped result
  have called : result = _ := krsAckTrackerCheckTimeoutsInto_eq tracker now
    given room
  have left := krsAckTrackerCheckTimeouts_snd tracker now outCapacity
    droppedCapacity
  rw [called]
  dsimp only
  rw [krsAckTrackerCheckTimeouts_fst, left]
  have reported : ∀ {β : Type} (read : Retry -> β) (items : List AckEntry),
      ((items.map (retryReport tracker)).take outCapacity).map read =
        (items.take outCapacity).map fun entry =>
          read (retryReport tracker entry) := by
    intro β read items
    rw [← List.map_take, List.map_map]
    rfl
  have reportedDrops : ∀ {β : Type} (read : UInt64 × Channel -> β)
      (items : List AckEntry),
      ((items.map fun entry => (entry.packetId, entry.channel)).take
          droppedCapacity).map read =
        (items.take droppedCapacity).map fun entry =>
          read (entry.packetId, entry.channel) := by
    intro β read items
    rw [← List.map_take, List.map_map]
    rfl
  refine ⟨rfl, rfl, ?_, ?_, ?_, ?_, ?_, ?_, ?_, ?_⟩
  · intro entry member
    obtain ⟨present, isRetried⟩ := List.mem_filter.mp member
    refine List.mem_filterMap.mpr
      ⟨entry, List.mem_reverse.mp present, ?_⟩
    rw [afterCheck, dropDue_of_retryDue isRetried, isRetried]
    rfl
  · simp only [CheckBuffers.withReports, reported]
    rfl
  · simp only [CheckBuffers.withReports, reported]
    rfl
  · simp only [CheckBuffers.withReports, reported]
    rfl
  · simp only [CheckBuffers.withReports, reported]
    rfl
  · simp only [CheckBuffers.withReports, reportedDrops]
    rfl
  · simp only [CheckBuffers.withReports, reportedDrops]
    rfl
  · dsimp only
    rw [List.length_take, List.length_map, List.length_take]
    rfl

/-- Five entries: one was registered just now; one has three later packets
acknowledged; two have timed out; and one has timed out for the last time. -/
def mixedTracker : AckTracker :=
  { krsAckTrackerCreate 100 2 with
    pending :=
      [newEntry 0 5 10 none 0 450,
       { newEntry 1 6 11 none 0 450 with ackedAfterCount := 3 },
       newEntry 2 7 10 none 0 0,
       { newEntry 3 8 12 none 0 0 with retryCount := 2 },
       newEntry 4 9 13 none 0 0] }

/-- Two cells for every kind of report. -/
def everyBuffer : CheckBuffers :=
  { retryIds := some [0, 0]
    retryChannels := some [0, 0]
    retryEntries := some [0, 0]
    retryWasFast := some [false, false]
    droppedIds := some [0, 0]
    droppedChannels := some [0, 0]
    droppedCount := some 0 }

/-- Three entries are due for a retry, of which two are reported, and one is
dropped. -/
theorem drop_reported :
    let result := krsAckTrackerCheckTimeoutsInto mixedTracker 500 everyBuffer
      2 2
    result.1 = 3 ∧
      result.2.1.retryIds = some [9, 7] ∧
      result.2.1.retryWasFast = some [false, false] ∧
      result.2.1.droppedIds = some [8, 0] ∧
      result.2.1.droppedChannels = some [12, 0] ∧
      result.2.1.droppedCount = some 1 ∧
      result.2.2.pending.map
          (fun entry => (entry.packetId, entry.retryCount)) =
        [(5, 0), (6, 1), (7, 1), (9, 1)] := by
  have given : everyBuffer.retryIds.isSome = true := rfl
  have room : everyBuffer.HasRoom 2 2 :=
    ⟨by decide, by decide, by decide, by decide, by decide, by decide⟩
  obtain ⟨count, left, -, ids, -, -, fast, droppedIds, droppedChannels,
    droppedCount⟩ := check_timeouts_partition mixedTracker 500 given room
  refine ⟨count.trans (by decide), ids.trans (by decide),
    fast.trans (by decide), droppedIds.trans (by decide),
    droppedChannels.trans (by decide), droppedCount.trans (by decide), ?_⟩
  rw [left]
  decide

/-- An entry that waits for packet 7 on channel 10 since time 0. -/
def waitingEntry : AckEntry :=
  newEntry 0 7 10 none 0 0

/-- A tracker that gives up at the first timeout. -/
def impatientTracker : AckTracker :=
  { krsAckTrackerCreate 100 0 with pending := [waitingEntry] }

/-- A caller that asks for the ids of retries and for everything about drops,
with one cell each. -/
def allButRetries : CheckBuffers :=
  { retryIds := some [0]
    retryChannels := none
    retryEntries := none
    retryWasFast := none
    droppedIds := some [0]
    droppedChannels := some [0]
    droppedCount := some 0 }

/-- Without a buffer for the ids of dropped packets their channels are not
reported either. -/
theorem dropped_channel_unreported :
    let buffers := { allButRetries with droppedIds := none }
    let result := krsAckTrackerCheckTimeoutsInto impatientTracker 500 buffers
      1 1
    (dropsDue impatientTracker 500).map AckEntry.channel = [10] ∧
      result.2.1.droppedChannels ≠ buffers.droppedChannels.map
        (filled · (((dropsDue impatientTracker 500).take 1).map
          AckEntry.channel)) := by
  decide

end Kronos
