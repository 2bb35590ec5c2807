import Kronos.Server.Step

/-!
# Retry counters and retransmissions

A check of the timeouts advances the retry counter of every entry that is due,
while the resend passes through two buffers of fixed size.  As long as both
have room for all retries of a tick, the counter of an entry is the number of
times its own frame was resent.
-/

namespace Kronos

open Library

/-! ## Counting retransmissions -/

/-- The effect resends the frame of this entry of the connection. -/
def ServerEffect.isResendOf (ref : ConnectionRef) (entry : AckEntry) :
    ServerEffect -> Bool
  | .retransmit _ _ frame connection handle =>
      connection == ref && handle == entry.handle &&
        frame == entry.resentFrame
  | _ => false

theorem ServerEffect.isResendOf_iff
    {ref : ConnectionRef}
    {entry : AckEntry}
    {effect : ServerEffect} :
    effect.isResendOf ref entry = true ↔
      ∃ descriptor address, effect =
        .retransmit descriptor address entry.resentFrame ref
          entry.handle := by
  cases effect with
  | retransmit descriptor address frame connection handle =>
      simp only [isResendOf, Bool.and_eq_true, beq_iff_eq]
      constructor
      · rintro ⟨⟨rfl, rfl⟩, rfl⟩
        exact ⟨descriptor, address, rfl⟩
      · rintro ⟨_, _, same⟩
        cases same
        exact ⟨⟨rfl, rfl⟩, rfl⟩
  | netSend => simp [isResendOf]
  | message => simp [isResendOf]
  | connected => simp [isResendOf]
  | disconnected => simp [isResendOf]
  | deliveryFailure => simp [isResendOf]

/-- How often the frame of an entry was handed to `krs_net_send_frame` by
retransmit ticks. -/
def resendCount
    (log : List ServerEffect)
    (ref : ConnectionRef)
    (entry : AckEntry) : Nat :=
  log.countP (ServerEffect.isResendOf ref entry)

theorem resendCount_append
    (log effects : List ServerEffect)
    (ref : ConnectionRef)
    (entry : AckEntry) :
    resendCount (log ++ effects) ref entry =
      resendCount log ref entry + resendCount effects ref entry :=
  List.countP_append

theorem NeverResent.not_mem
    {log : List ServerEffect}
    {ref : ConnectionRef}
    (never : NeverResent log ref)
    {descriptor : Nat}
    {address : PortAddress}
    {frame : List UInt8}
    {handle : Nat} :
    ServerEffect.retransmit descriptor address frame ref handle ∉ log := by
  intro member
  have impossible := never _ member
  rw [ServerEffect.resends, beq_self_eq_true] at impossible
  cases impossible

theorem NeverResent.resendCount_eq_zero
    {log : List ServerEffect}
    {ref : ConnectionRef}
    (never : NeverResent log ref)
    (entry : AckEntry) :
    resendCount log ref entry = 0 := by
  rw [resendCount, List.countP_eq_zero]
  intro effect member resent
  obtain ⟨descriptor, address, rfl⟩ := ServerEffect.isResendOf_iff.mp resent
  exact never.not_mem member

theorem resentFrame_congr
    {first second : AckEntry}
    (frame : first.storedFrame = second.storedFrame) :
    first.resentFrame = second.resentFrame := by
  rw [AckEntry.resentFrame, AckEntry.resentFrame, frame]

/-- Only handle and frame of an entry matter for the count. -/
theorem resendCount_congr
    {first second : AckEntry}
    (handle : first.handle = second.handle)
    (frame : first.storedFrame = second.storedFrame)
    (log : List ServerEffect)
    (ref : ConnectionRef) :
    resendCount log ref first = resendCount log ref second := by
  unfold resendCount ServerEffect.isResendOf
  rw [handle, resentFrame_congr frame]

/-! ## The invariant of a tracker -/

/-- The retransmissions for this connection are those of registered entries. -/
def ResendsBelow
    (log : List ServerEffect)
    (ref : ConnectionRef)
    (registered : Nat) : Prop :=
  ∀ descriptor address frame handle,
    ServerEffect.retransmit descriptor address frame ref handle ∈ log ->
      handle < registered

theorem NeverResent.below
    {log : List ServerEffect}
    {ref : ConnectionRef}
    (never : NeverResent log ref)
    (registered : Nat) :
    ResendsBelow log ref registered :=
  fun _ _ _ _ member => absurd member never.not_mem

theorem ResendsBelow.append
    {log effects : List ServerEffect}
    {ref : ConnectionRef}
    {registered : Nat}
    (below : ResendsBelow log ref registered)
    (later : ResendsBelow effects ref registered) :
    ResendsBelow (log ++ effects) ref registered := by
  intro descriptor address frame handle member
  rcases List.mem_append.mp member with inLog | inEffects
  · exact below descriptor address frame handle inLog
  · exact later descriptor address frame handle inEffects

/-- An entry above all retransmitted handles was never resent. -/
theorem ResendsBelow.resendCount_eq_zero
    {log : List ServerEffect}
    {ref : ConnectionRef}
    {registered : Nat}
    (below : ResendsBelow log ref registered)
    {entry : AckEntry}
    (above : registered ≤ entry.handle) :
    resendCount log ref entry = 0 := by
  rw [resendCount, List.countP_eq_zero]
  intro effect member resent
  obtain ⟨descriptor, address, rfl⟩ := ServerEffect.isResendOf_iff.mp resent
  have inside := below descriptor address entry.resentFrame entry.handle
    member
  omega

/-- The counters of a tracker agree with the log. -/
structure RetriesCounted
    (log : List ServerEffect)
    (ref : ConnectionRef)
    (tracker : AckTracker) : Prop where
  distinct : DistinctKeys AckEntry.handle tracker.pending
  registered : ∀ entry ∈ tracker.pending, entry.handle < tracker.registered
  resendable : ∀ entry ∈ tracker.pending, entry.Resendable
  counted : ∀ entry ∈ tracker.pending,
    entry.retryCount = resendCount log ref entry
  bounded : ∀ entry ∈ tracker.pending,
    entry.retryCount ≤ tracker.maxRetries
  below : ResendsBelow log ref tracker.registered

theorem RetriesCounted.append
    {log effects : List ServerEffect}
    {ref : ConnectionRef}
    {tracker : AckTracker}
    (counted : RetriesCounted log ref tracker)
    (silent : NeverResent effects ref) :
    RetriesCounted (log ++ effects) ref tracker :=
  { counted with
    counted := by
      intro entry present
      rw [resendCount_append, silent.resendCount_eq_zero, Nat.add_zero]
      exact counted.counted entry present
    below := counted.below.append (silent.below _) }

/-- A new tracker, before anything was resent. -/
theorem RetriesCounted.create
    {log : List ServerEffect}
    {ref : ConnectionRef}
    (never : NeverResent log ref)
    (timeoutMs maxRetries : Nat) :
    RetriesCounted log ref (krsAckTrackerCreate timeoutMs maxRetries) where
  distinct := List.nodup_nil
  registered := by simp [krsAckTrackerCreate]
  resendable := by simp [krsAckTrackerCreate]
  counted := by simp [krsAckTrackerCreate]
  bounded := by simp [krsAckTrackerCreate]
  below := never.below _

theorem afterAck_retryCount
    {tracker : AckTracker}
    {packetId : UInt64}
    {channel : Channel}
    {entry kept : AckEntry}
    (left : afterAck tracker packetId channel entry = some kept) :
    kept.retryCount = entry.retryCount := by
  unfold afterAck observed at left
  split_ifs at left <;> cases left <;> simp

theorem AckEntry.Resendable.congr
    {first second : AckEntry}
    (resendable : second.Resendable)
    (frame : first.storedFrame = second.storedFrame) :
    first.Resendable := by
  unfold AckEntry.Resendable
  rw [frame]
  exact resendable

theorem RetriesCounted.receive
    {log : List ServerEffect}
    {ref : ConnectionRef}
    {tracker : AckTracker}
    (counted : RetriesCounted log ref tracker)
    (packetId : UInt64)
    (channel : Channel)
    (timeoutMs : Nat) :
    RetriesCounted log ref
      { tracker with
        pending := tracker.pending.filterMap
          (afterAck tracker packetId channel)
        timeoutMs := timeoutMs } := by
  refine ⟨counted.distinct.filterMap fun _ _ left =>
    (afterAck_handle left).1, ?_, ?_, ?_, ?_, counted.below⟩
  all_goals
    intro kept member
    obtain ⟨entry, present, left⟩ := List.mem_filterMap.mp member
    obtain ⟨handle, frame⟩ := afterAck_handle left
  · rw [handle]
    exact counted.registered entry present
  · exact (counted.resendable entry present).congr frame
  · rw [afterAck_retryCount left, resendCount_congr handle frame]
    exact counted.counted entry present
  · rw [afterAck_retryCount left]
    exact counted.bounded entry present

/-- The entries of a send: new handles, frames that fit a datagram, and no
retries yet. -/
theorem registeredEntries_fresh
    {registered : Nat}
    {packetId : UInt64}
    {channel : Channel}
    {clock : Nat -> UInt64}
    {allocated : Nat -> Bool}
    {frames : List (List UInt8 × Nat)}
    (sizes : ∀ frame ∈ frames,
      0 < frame.2 ∧ frame.2 ≤ kronosBufferSize) :
    let new := registeredEntries registered packetId channel clock allocated
      0 frames
    ∀ entry ∈ new,
      registered ≤ entry.handle ∧ entry.handle < registered + new.length ∧
        entry.Resendable ∧ entry.retryCount = 0 := by
  intro new entry member
  have handles := registeredEntries_handles registered packetId channel clock
    allocated 0 frames
  have position : entry.handle ∈ List.range' registered new.length := by
    rw [← handles]
    exact List.mem_map_of_mem member
  rw [List.mem_range'_1] at position
  obtain ⟨handle, frame, now, inFrames, -, rfl⟩ := mem_registeredEntries
    member
  obtain ⟨positive, fits⟩ := sizes frame inFrames
  refine ⟨position.1, position.2, ?_, rfl⟩
  refine ⟨frame.1.take frame.2, frame.2, ?_, fits⟩
  simp [newEntry, AckEntry.storedFrame, positive, Nat.ne_of_gt positive]

/-- Registering frames that fit a datagram. -/
theorem RetriesCounted.expectFrames
    {log : List ServerEffect}
    {ref : ConnectionRef}
    {tracker : AckTracker}
    (counted : RetriesCounted log ref tracker)
    (packetId : UInt64)
    (channel : Channel)
    (clock : Nat -> UInt64)
    (allocated : Nat -> Bool)
    {frames : List (List UInt8 × Nat)}
    (sizes : ∀ frame ∈ frames,
      0 < frame.2 ∧ frame.2 ≤ kronosBufferSize) :
    RetriesCounted log ref
      (expectFrames tracker packetId channel clock allocated 0 frames) := by
  have handles := registeredEntries_handles tracker.registered packetId
    channel clock allocated 0 frames
  have fresh : ∀ entry ∈ registeredEntries tracker.registered packetId
      channel clock allocated 0 frames, _ := registeredEntries_fresh sizes
  rw [expectFrames_eq]
  simp only at handles fresh ⊢
  generalize registeredEntries tracker.registered packetId channel clock
    allocated 0 frames = new at *
  have each : ∀ {property : AckEntry -> Prop},
      (∀ entry ∈ tracker.pending, property entry) ->
      (∀ entry ∈ new, property entry) ->
      ∀ entry ∈ tracker.pending ++ new, property entry := by
    intro property old created entry member
    rcases List.mem_append.mp member with earlier | later
    · exact old entry earlier
    · exact created entry later
  refine ⟨?_, each ?_ ?_, each counted.resendable ?_, each counted.counted ?_,
    each counted.bounded ?_, ?_⟩
  · unfold DistinctKeys
    rw [List.map_append, handles, List.nodup_append]
    refine ⟨counted.distinct, List.nodup_range' , ?_⟩
    intro left leftIn right rightIn same
    obtain ⟨entry, present, rfl⟩ := List.mem_map.mp leftIn
    have inside := counted.registered entry present
    rw [List.mem_range'_1] at rightIn
    omega
  · intro entry present
    exact Nat.lt_add_right _ (counted.registered entry present)
  · exact fun entry member => (fresh entry member).2.1
  · exact fun entry member => (fresh entry member).2.2.1
  · intro entry member
    obtain ⟨above, -, -, unretried⟩ := fresh entry member
    rw [unretried, counted.below.resendCount_eq_zero above]
  · intro entry member
    rw [(fresh entry member).2.2.2]
    exact Nat.zero_le _
  · intro descriptor address frame handle member
    exact Nat.lt_add_right _ (counted.below descriptor address frame handle
      member)

/-! ## Ticks -/

/-- The queued frame resends this entry of the connection. -/
def PendingRetransmit.isResendOf
    (ref : ConnectionRef)
    (entry : AckEntry)
    (retransmit : PendingRetransmit) : Bool :=
  retransmit.connection == ref && retransmit.entry == entry.handle &&
    retransmit.data == entry.resentFrame

theorem resendCount_collectedEffects
    (buffers : TickBuffers)
    (ref : ConnectionRef)
    (entry : AckEntry) :
    resendCount (collectedEffects buffers) ref entry =
      buffers.pending.countP (PendingRetransmit.isResendOf ref entry) := by
  have silent : (failureCallbacks buffers.failures).countP
      (ServerEffect.isResendOf ref entry) = 0 := by
    rw [List.countP_eq_zero]
    intro effect member
    obtain ⟨failure, -, rfl⟩ := List.mem_map.mp member
    exact Bool.false_ne_true
  rw [resendCount, collectedEffects, List.countP_append, silent,
    Nat.add_zero, flushRetransmits, List.countP_map]
  rfl

/-- Among distinct entries, exactly the one that is asked for is counted. -/
theorem countP_retried
    {pending : List AckEntry}
    (distinct : DistinctKeys AckEntry.handle pending)
    (retried : AckEntry -> Bool)
    {entry : AckEntry}
    (present : entry ∈ pending) :
    (pending.reverse.filter retried).countP (fun other =>
        other.handle == entry.handle &&
          other.resentFrame == entry.resentFrame) =
      if retried entry then 1 else 0 := by
  have own : ∀ other ∈ pending.reverse.filter retried,
      (other.handle == entry.handle &&
          other.resentFrame == entry.resentFrame) =
        (other == entry) := by
    intro other member
    have otherPresent := List.mem_reverse.mp (List.mem_filter.mp member).1
    by_cases same : other = entry
    · simp [same]
    · have apart : other.handle ≠ entry.handle := fun handle =>
        same (distinct.eq_of_key otherPresent present handle)
      rw [beq_eq_false_iff_ne.mpr apart, beq_eq_false_iff_ne.mpr same,
        Bool.false_and]
  have once : (pending.reverse.filter retried).Nodup :=
    (List.nodup_reverse.mpr (List.Nodup.of_map _ distinct)).filter _
  rw [List.countP_congr fun other member => by rw [own other member]]
  change (pending.reverse.filter retried).count entry = _
  rw [List.Nodup.count once]
  simp [present]

/-- What a tick queues for a connection of the map. -/
def contributedRetransmits
    (clock : ConnectionRef -> UInt64)
    (slot : ConnectionMapEntry)
    (conn : ClientConnection) : List PendingRetransmit :=
  (retriedEntries (clock slot.connection) conn).map (retransmitOf slot conn)

/-- All retransmissions that a tick has to queue. -/
def dueRetransmits
    (spm : ServerPortManager)
    (clock : ConnectionRef -> UInt64) : List PendingRetransmit :=
  (visitedEntries spm).flatMap fun slot =>
    (spm.connections[slot.connection]?.map
      (contributedRetransmits clock slot)).getD []

/-- Retransmissions of a visited connection are its retried entries. -/
theorem countP_dueRetransmits
    {spm : ServerPortManager}
    (refs : MapRefs spm.connectionMap spm.connections)
    (clock : ConnectionRef -> UInt64)
    {ref : ConnectionRef}
    {conn : ClientConnection}
    (read : spm.connections[ref]? = some conn)
    (visited : ref ∈ visitedRefs spm)
    {tracker : AckTracker}
    (trackerRead : conn.ackTracker = some tracker)
    (distinct : DistinctKeys AckEntry.handle tracker.pending)
    {entry : AckEntry}
    (present : entry ∈ tracker.pending) :
    (dueRetransmits spm clock).countP
        (PendingRetransmit.isResendOf ref entry) =
      if retryDue tracker (clock ref) entry then 1 else 0 := by
  obtain ⟨slot, slotVisited, rfl⟩ := List.mem_map.mp visited
  have slots : DistinctKeys ConnectionMapEntry.connection
      (visitedEntries spm) := visitedEntries_nodup refs
  rw [dueRetransmits, slots.countP_flatMap slotVisited]
  · rw [read, Option.map_some, Option.getD_some, contributedRetransmits,
      List.countP_map, retriedEntries, trackerRead,
      ← countP_retried distinct _ present]
    simp [Function.comp_def, PendingRetransmit.isResendOf, retransmitOf]
  · intro other _ retransmit member resent
    cases otherRead : spm.connections[other.connection]? with
    | none =>
        rw [otherRead] at member
        cases member
    | some otherConn =>
        rw [otherRead] at member
        obtain ⟨retried, -, rfl⟩ := List.mem_map.mp member
        simp only [PendingRetransmit.isResendOf, retransmitOf,
          Bool.and_eq_true, beq_iff_eq] at resent
        exact resent.1.1

/-- Where a retransmission of a tick comes from. -/
theorem mem_dueRetransmits
    {spm : ServerPortManager}
    {clock : ConnectionRef -> UInt64}
    {retransmit : PendingRetransmit}
    (member : retransmit ∈ dueRetransmits spm clock) :
    retransmit.connection ∈ visitedRefs spm ∧
      ∃ conn tracker entry,
        spm.connections[retransmit.connection]? = some conn ∧
        conn.ackTracker = some tracker ∧ entry ∈ tracker.pending ∧
        retransmit.entry = entry.handle := by
  obtain ⟨slot, visited, contributed⟩ := List.mem_flatMap.mp member
  cases read : spm.connections[slot.connection]? with
  | none =>
      rw [read] at contributed
      cases contributed
  | some conn =>
      rw [read] at contributed
      obtain ⟨entry, retried, rfl⟩ := List.mem_map.mp contributed
      refine ⟨List.mem_map_of_mem visited, conn, ?_⟩
      unfold retriedEntries at retried
      split at retried
      case h_1 => cases retried
      case h_2 tracker trackerRead =>
        exact ⟨tracker, entry, read, trackerRead,
          List.mem_reverse.mp (List.mem_filter.mp retried).1, rfl⟩

/-- A retransmission in the effects of a tick was queued by it. -/
theorem mem_collectedEffects
    {buffers : TickBuffers}
    {descriptor : Nat}
    {address : PortAddress}
    {frame : List UInt8}
    {ref : ConnectionRef}
    {handle : Nat}
    (member : ServerEffect.retransmit descriptor address frame ref handle ∈
      collectedEffects buffers) :
    ∃ retransmit ∈ buffers.pending, retransmit.connection = ref ∧
      retransmit.entry = handle := by
  rcases List.mem_append.mp member with flushed | failed
  · obtain ⟨retransmit, pending, same⟩ := List.mem_map.mp flushed
    cases same
    exact ⟨retransmit, pending, rfl, rfl⟩
  · obtain ⟨failure, -, same⟩ := List.mem_map.mp failed
    cases same

/-- The counters of a checked tracker, when the log has grown by one for each
retried entry. -/
theorem RetriesCounted.check
    {log effects : List ServerEffect}
    {ref : ConnectionRef}
    {tracker : AckTracker}
    (counted : RetriesCounted log ref tracker)
    {now : UInt64}
    (resent : ∀ entry ∈ tracker.pending, resendCount effects ref entry =
      if retryDue tracker now entry then 1 else 0)
    (below : ResendsBelow effects ref tracker.registered) :
    RetriesCounted (log ++ effects) ref
      { tracker with
        pending := tracker.pending.filterMap (afterCheck tracker now) } := by
  refine ⟨counted.distinct.filterMap fun _ _ left =>
    (afterCheck_handle left).1, ?_, ?_, ?_, ?_, ?_⟩
  · intro kept member
    obtain ⟨entry, present, left⟩ := List.mem_filterMap.mp member
    rw [(afterCheck_handle left).1]
    exact counted.registered entry present
  · intro kept member
    obtain ⟨entry, present, left⟩ := List.mem_filterMap.mp member
    exact (counted.resendable entry present).congr (afterCheck_handle left).2.2
  · intro kept member
    obtain ⟨entry, present, left⟩ := List.mem_filterMap.mp member
    obtain ⟨handle, -, frame⟩ := afterCheck_handle left
    rw [resendCount_congr handle frame, resendCount_append,
      resent entry present, ← counted.counted entry present]
    unfold afterCheck at left
    split_ifs at left with dropped retried <;> cases left
    · rw [if_pos retried]
      rfl
    · rw [if_neg retried, Nat.add_zero]
  · intro kept member
    obtain ⟨entry, present, left⟩ := List.mem_filterMap.mp member
    have bound := counted.bounded entry present
    unfold afterCheck at left
    split_ifs at left with dropped retried <;> cases left
    · simp only [retryDue, Bool.and_eq_true, decide_eq_true_eq] at retried
      exact retried.2
    · exact bound
  · exact counted.below.append below

/-! ## Connections -/

/-- The retry counters of a connection agree with the log; nothing was resent
for a connection before it got its tracker. -/
structure ConnectionRetries
    (log : List ServerEffect)
    (ref : ConnectionRef)
    (conn : ClientConnection) : Prop where
  freed : conn.freed = true -> conn.ackTracker = none
  unsent : conn.freed = false -> conn.ackTracker = none ->
    NeverResent log ref
  counted : ∀ tracker ∈ conn.ackTracker, RetriesCounted log ref tracker

theorem ConnectionRetries.append
    {log effects : List ServerEffect}
    {ref : ConnectionRef}
    {conn : ClientConnection}
    (retries : ConnectionRetries log ref conn)
    (silent : NeverResent effects ref) :
    ConnectionRetries (log ++ effects) ref conn where
  freed := retries.freed
  unsent := fun alive absent => (retries.unsent alive absent).append silent
  counted := fun tracker read => (retries.counted tracker read).append silent

theorem ConnectionRetries.acknowledge
    {log : List ServerEffect}
    {ref : ConnectionRef}
    {conn : ClientConnection}
    (retries : ConnectionRetries log ref conn)
    (packetId : UInt64)
    (channel : Channel)
    (now : UInt64) :
    ConnectionRetries log ref (acknowledge conn packetId channel now) := by
  unfold Kronos.acknowledge
  split
  case h_1 => exact retries
  case h_2 tracker trackerRead =>
    have counted := retries.counted tracker trackerRead
    have alive : conn.freed = true -> False := by
      intro freed
      rw [retries.freed freed] at trackerRead
      cases trackerRead
    simp only
    rw [krsAckTrackerReceiveRtt_snd]
    split
    case h_1 =>
      refine ⟨fun freed => (alive freed).elim, fun _ absent => ?_, ?_⟩
      · cases absent
      · intro after afterRead
        cases afterRead
        exact counted.receive packetId channel _
    case h_2 =>
      refine ⟨fun freed => (alive freed).elim, fun _ absent => ?_, ?_⟩
      · cases absent
      · intro after afterRead
        cases afterRead
        exact counted.receive packetId channel _

theorem ConnectionRetries.sendOn
    {log : List ServerEffect}
    {ref : ConnectionRef}
    {conn : ClientConnection}
    (retries : ConnectionRetries log ref conn)
    (alive : conn.freed = false)
    (channel : Channel)
    (packetId : UInt64)
    (data : List UInt8)
    (length : UInt16)
    (requireAck : Bool)
    (clock : Nat -> UInt64)
    (allocations : SendAllocations) :
    ConnectionRetries log ref (sendOn conn channel packetId data length
      requireAck clock allocations).1 := by
  obtain ⟨sameFreed, change⟩ := sendOn_ackTracker conn channel packetId data
    length requireAck clock allocations
  generalize (Kronos.sendOn conn channel packetId data length requireAck
    clock allocations).1 = after at *
  have ready : ∀ tracker, ReadyTracker conn tracker ->
      RetriesCounted log ref tracker := by
    rintro tracker (read | ⟨absent, rfl⟩)
    · exact retries.counted tracker read
    · exact RetriesCounted.create (retries.unsent alive absent) 1000 5
  have of_some : ∀ tracker, after.ackTracker = some tracker ->
      RetriesCounted log ref tracker -> ConnectionRetries log ref after := by
    intro tracker read counted
    refine ⟨?_, ?_, ?_⟩
    · intro freed
      rw [sameFreed, alive] at freed
      cases freed
    · intro _ absent
      rw [read] at absent
      cases absent
    · intro other otherRead
      rw [read] at otherRead
      cases otherRead
      exact counted
  rcases change with same | ⟨tracker, readyTracker, created | ⟨frames, built,
      expected⟩⟩
  · refine ⟨?_, ?_, ?_⟩
    · rw [sameFreed, same]
      exact retries.freed
    · rw [sameFreed, same]
      exact retries.unsent
    · rw [same]
      exact retries.counted
  · exact of_some tracker created (ready tracker readyTracker)
  · exact of_some _ expected ((ready tracker readyTracker).expectFrames
      packetId channel clock allocations.entry
      (fun _ member => messageFrames_sizes built member))

/-! ## Whole runs -/

/-- A tick under which the counters keep counting: no connection retries more
entries than one check reports, and all connections together no more than the
tick can queue. -/
def RetriesAllowed (current : ServerRun) : ServerEvent -> Prop
  | .datagram .. => True
  | .send .. => True
  | .tick clock =>
      (∀ ref ∈ visitedRefs current.spm,
          ∀ conn ∈ current.spm.connections[ref]?,
            (retriedEntries (clock.check ref) conn).length ≤
              checkCapacity) ∧
        (dueRetransmits current.spm clock.check).length ≤
          maxPendingRetransmits

instance (current : ServerRun) :
    ∀ event, Decidable (RetriesAllowed current event)
  | .datagram .. => isTrue trivial
  | .send .. => isTrue trivial
  | .tick _ => inferInstanceAs (Decidable (_ ∧ _))

/-- A tick with room in its buffers queues everything that is due. -/
theorem collectAll_pending
    {spm : ServerPortManager}
    {log : List ServerEffect}
    (refs : MapRefs spm.connectionMap spm.connections)
    (retries : ∀ ref conn, spm.connections[ref]? = some conn ->
      ConnectionRetries log ref conn)
    {clock : ConnectionRef -> UInt64}
    (few : ∀ ref ∈ visitedRefs spm, ∀ conn ∈ spm.connections[ref]?,
      (retriedEntries (clock ref) conn).length ≤ checkCapacity)
    (room : (dueRetransmits spm clock).length ≤ maxPendingRetransmits) :
    (collectAll spm clock).1.pending = dueRetransmits spm clock := by
  rw [collectAll_eq]
  refine (foldl_visitEntry_buffer (failureCallback spm) clock
    TickBuffers.pending (contributedRetransmits clock) maxPendingRetransmits
    (visitedEntries_nodup refs) ?_ ({}, spm.connections) (fun _ _ => rfl)
    ?_).trans (List.nil_append _)
  · intro slot visited conn read buffers fits
    refine collectConnection_pending _ slot (clock slot.connection) conn ?_
      ?_ ?_ buffers fits
    · intro tracker trackerRead
      exact ((retries _ conn read).counted tracker trackerRead).distinct
    · intro tracker trackerRead
      exact ((retries _ conn read).counted tracker trackerRead).resendable
    · exact few slot.connection (List.mem_map_of_mem visited) conn read
  · exact (Nat.zero_add _).trans_le room

/-- A tick with room in its buffers keeps the counters of a connection in step
with the log. -/
theorem ConnectionRetries.tick
    {spm : ServerPortManager}
    {log : List ServerEffect}
    {clock : ConnectionRef -> UInt64}
    (refs : MapRefs spm.connectionMap spm.connections)
    {ref : ConnectionRef}
    {old new : ClientConnection}
    (oldRead : spm.connections[ref]? = some old)
    (retries : ConnectionRetries log ref old)
    (collected : CollectedConnection clock (visitedRefs spm) ref old new)
    {buffers : TickBuffers}
    (pending : buffers.pending = dueRetransmits spm clock) :
    ConnectionRetries (log ++ collectedEffects buffers) ref new := by
  have origin : ∀ descriptor address frame handle,
      ServerEffect.retransmit descriptor address frame ref handle ∈
        collectedEffects buffers ->
      ref ∈ visitedRefs spm ∧ ∃ tracker entry,
        old.ackTracker = some tracker ∧ entry ∈ tracker.pending ∧
          handle = entry.handle := by
    intro descriptor address frame handle member
    obtain ⟨retransmit, queued, rfl, rfl⟩ := mem_collectedEffects member
    rw [pending] at queued
    obtain ⟨visited, conn, tracker, entry, read, trackerRead, present,
      same⟩ := mem_dueRetransmits queued
    rw [oldRead] at read
    cases read
    exact ⟨visited, tracker, entry, trackerRead, present, same⟩
  have silent_of : (∀ tracker, ref ∈ visitedRefs spm ->
      old.ackTracker ≠ some tracker) ->
      NeverResent (collectedEffects buffers) ref := by
    intro absent effect member
    by_contra resends
    rw [Bool.not_eq_false] at resends
    cases effect with
    | retransmit descriptor address frame connection handle =>
        rw [ServerEffect.resends, beq_iff_eq] at resends
        subst resends
        obtain ⟨visited, tracker, -, read, -⟩ :=
          origin descriptor address frame handle member
        exact absent tracker visited read
    | netSend => cases resends
    | message => cases resends
    | connected => cases resends
    | disconnected => cases resends
    | deliveryFailure => cases resends
  obtain ⟨checked, unvisited⟩ := collected
  by_cases visited : ref ∈ visitedRefs spm
  · obtain ⟨callback, descriptor, filling, rfl⟩ := checked visited
    unfold collectConnection
    split
    case h_1 absent =>
      refine retries.append (silent_of fun tracker _ read => ?_)
      rw [absent] at read
      cases read
    case h_2 tracker trackerRead =>
      have counted := retries.counted tracker trackerRead
      simp only
      rw [krsAckTrackerCheckTimeouts_snd]
      refine ⟨?_, ?_, ?_⟩
      · intro freed
        rw [retries.freed freed] at trackerRead
        cases trackerRead
      · intro _ absent
        cases absent
      · intro after afterRead
        cases afterRead
        refine counted.check ?_ ?_
        · intro entry present
          rw [resendCount_collectedEffects, pending]
          exact countP_dueRetransmits refs clock oldRead visited trackerRead
            counted.distinct present
        · intro descriptor address frame handle member
          obtain ⟨-, other, entry, read, present, rfl⟩ :=
            origin descriptor address frame handle member
          rw [trackerRead] at read
          cases read
          exact counted.registered entry present
  · rw [unvisited visited]
    exact retries.append (silent_of fun _ member => absurd member visited)

theorem connectionRetries_connectionInvariant :
    ConnectionInvariant RetriesAllowed ConnectionRetries where
  quiet := fun _ _ ref _ quiet retries =>
    retries.append (quiet.neverResent ref)
  released := by
    intro log ref old new released retries
    rcases released with same | gone
    · refine ⟨?_, ?_, ?_⟩
      · rw [same.freed, same.ackTracker]
        exact retries.freed
      · rw [same.freed, same.ackTracker]
        exact retries.unsent
      · rw [same.ackTracker]
        exact retries.counted
    · refine ⟨fun _ => gone.ackTracker, ?_, ?_⟩
      · intro alive
        rw [gone.freed] at alive
        cases alive
      · intro tracker read
        rw [gone.ackTracker] at read
        cases read
  acknowledged := fun _ _ _ packetId channel now retries =>
    retries.acknowledge packetId channel now
  created := by
    intro log ref conn new never
    refine ⟨fun _ => new.ackTracker, fun _ _ => never, ?_⟩
    intro tracker read
    rw [new.ackTracker] at read
    cases read
  sent := by
    intro current connectionId channel data length requireAck clock
      allocations _ entry desc target _ _ _ alive retries
    have acquired : ConnectionRetries current.log entry.connection
        { target with refcount := target.refcount + 1 } :=
      ⟨retries.freed, retries.unsent, retries.counted⟩
    exact acquired.sendOn alive channel _ data length requireAck clock
      allocations
  ticked := by
    intro current clock refs allowed retries ref old new oldRead newRead
    exact (retries ref old oldRead).tick refs oldRead
      ((collectAll_heap refs clock.check).2 ref old new oldRead newRead)
      (collectAll_pending refs retries allowed.1 allowed.2)

/-- In every run in which the retries of each tick fit its buffers, the retry
counter of a pending entry is the number of times its frame was resent, and an
entry that reaches its last check was resent `max_retries` times. -/
theorem retry_count_eq_resend_count
    {descriptorList : List UDPSocketDescriptor}
    {events : List ServerEvent}
    {final : ServerRun}
    (allowed : RunAllowed serverStep RetriesAllowed
      (runStart descriptorList) events)
    (reached : run serverStep (runStart descriptorList) events = some final)
    {ref : ConnectionRef}
    {conn : ClientConnection}
    (read : final.spm.connections[ref]? = some conn)
    {tracker : AckTracker}
    (trackerRead : conn.ackTracker = some tracker)
    {entry : AckEntry}
    (present : entry ∈ tracker.pending) :
    entry.retryCount = resendCount final.log ref entry ∧
      ∀ now, dropDue tracker now entry = true ->
        resendCount final.log ref entry = tracker.maxRetries := by
  have counted := ((connectionRetries_connectionInvariant.holds_of_run
    allowed reached).connections ref conn read).counted tracker trackerRead
  have same := counted.counted entry present
  refine ⟨same, ?_⟩
  intro now dropped
  simp only [dropDue, Bool.and_eq_true, decide_eq_true_eq] at dropped
  rw [← same]
  exact le_antisymm (counted.bounded entry present) dropped.2

/-- Two packets of which one is acknowledged: the other was resent once. -/
theorem retry_count_of_short_run :
    ∃ final conn tracker entry,
      run serverStep (runStart [{ port := 5000 }])
          [connectFrom 4000 0, sendByte 10 0, sendByte 10 0,
            ackFrom 4000 10 1 40, tickAt 1000] = some final ∧
        final.spm.connections[0]? = some conn ∧
        conn.ackTracker = some tracker ∧ entry ∈ tracker.pending ∧
        entry.retryCount = resendCount final.log 0 entry := by
  have ran : (((run serverStep (runStart [{ port := 5000 }])
      [connectFrom 4000 0, sendByte 10 0, sendByte 10 0, ackFrom 4000 10 1 40,
        tickAt 1000]).bind fun final => final.spm.connections[0]?).bind
          fun conn => conn.ackTracker.bind fun tracker =>
            tracker.pending.head?).isSome = true := by
    decide +kernel
  obtain ⟨entry, found⟩ := Option.isSome_iff_exists.mp ran
  obtain ⟨conn, connFound, inConn⟩ := Option.bind_eq_some_iff.mp found
  obtain ⟨tracker, trackerRead, head⟩ := Option.bind_eq_some_iff.mp inConn
  obtain ⟨final, reached, read⟩ := Option.bind_eq_some_iff.mp connFound
  have present := List.mem_of_head? head
  exact ⟨final, conn, tracker, entry, reached, read, trackerRead, present,
    (retry_count_eq_resend_count (by decide +kernel) reached read trackerRead
      present).1⟩

/-- Eleven messages of three fragments, sent after seven acknowledged packets
have opened the window: all 33 fragments time out together, the check advances
all counters and reports 32 retries, and the first fragment counts a retry it
never had. -/
theorem retry_count_without_resend :
    ((run serverStep (runStart [{ port := 5000 }])
        (connectFrom 4000 0 ::
          (List.range 7).flatMap (fun sent =>
            [sendByte 10 0, ackFrom 4000 10 (UInt64.ofNat (sent + 1)) 0]) ++
          List.replicate 11
            (.send 1 10 (List.replicate 2765 0) 2765 true (fun _ => 0) {}) ++
          [tickAt 1000])).bind fun final =>
      (final.spm.connections[0]?.bind ClientConnection.ackTracker).bind
        fun tracker => tracker.pending.head?.map fun entry =>
          (entry.retryCount, resendCount final.log 0 entry)) =
      some (1, 0) := by
  decide +kernel

end Kronos
