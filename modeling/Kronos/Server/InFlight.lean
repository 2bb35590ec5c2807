import Kronos.Server.Step
import Mathlib.Data.Finset.Card

/-!
# The congestion window and the pending packets

A reliable send takes one slot of the congestion window for all frames of its
packet, and an acknowledgement gives the slot back when it removes the packet's
entries.  A packet whose entries are dropped for too many retries leaves the
tracker without giving its slot back.  The window therefore counts the pending
packets exactly in those runs in which no tick drops the last entries of a
packet.
-/

namespace Kronos

open Library

/-! ## Pending packets -/

/-- The packet an entry belongs to. -/
def AckEntry.packet (entry : AckEntry) : Channel × UInt64 :=
  (entry.channel, entry.packetId)

/-- The packets that have an entry in a pending list. -/
def packetsOf (pending : List AckEntry) : Finset (Channel × UInt64) :=
  (pending.map AckEntry.packet).toFinset

theorem mem_packetsOf
    {pending : List AckEntry}
    {packet : Channel × UInt64} :
    packet ∈ packetsOf pending ↔ ∃ entry ∈ pending, entry.packet = packet := by
  rw [packetsOf, List.mem_toFinset, List.mem_map]

/-- A connection's pending entries. -/
def pendingOf (conn : ClientConnection) : List AckEntry :=
  match conn.ackTracker with
  | none => []
  | some tracker => tracker.pending

/-- The distinct packets pending on a connection. -/
def pendingPackets (conn : ClientConnection) : Finset (Channel × UInt64) :=
  packetsOf (pendingOf conn)

/-- `in_flight` of a connection's controller. -/
def inFlightOf (conn : ClientConnection) : Nat :=
  match conn.congestion with
  | none => 0
  | some cc => cc.inFlight

/-- Tracker and controller exist together, the window is open, and it counts
the pending packets. -/
def Balanced (conn : ClientConnection) : Prop :=
  match conn.ackTracker, conn.congestion with
  | none, none => True
  | some tracker, some cc =>
      WindowOpen cc ∧ cc.inFlight = (packetsOf tracker.pending).card
  | _, _ => False

theorem Balanced.of_none
    {conn : ClientConnection}
    (tracker : conn.ackTracker = none)
    (congestion : conn.congestion = none) :
    Balanced conn := by
  rw [Balanced, tracker, congestion]
  trivial

theorem Balanced.congr
    {old new : ClientConnection}
    (balanced : Balanced old)
    (tracker : new.ackTracker = old.ackTracker)
    (congestion : new.congestion = old.congestion) :
    Balanced new := by
  rw [Balanced, tracker, congestion]
  exact balanced

/-- The two shapes of a balanced connection. -/
theorem Balanced.cases
    {conn : ClientConnection}
    (balanced : Balanced conn) :
    (conn.ackTracker = none ∧ conn.congestion = none) ∨
      ∃ tracker cc, conn.ackTracker = some tracker ∧
        conn.congestion = some cc ∧ WindowOpen cc ∧
        cc.inFlight = (packetsOf tracker.pending).card := by
  unfold Balanced at balanced
  cases tracker : conn.ackTracker with
  | none =>
      cases congestion : conn.congestion with
      | none => exact Or.inl ⟨rfl, rfl⟩
      | some cc =>
          rw [tracker, congestion] at balanced
          exact absurd balanced id
  | some stored =>
      cases congestion : conn.congestion with
      | none =>
          rw [tracker, congestion] at balanced
          exact absurd balanced id
      | some cc =>
          rw [tracker, congestion] at balanced
          exact Or.inr ⟨stored, cc, rfl, rfl, balanced⟩

theorem Balanced.inFlightOf_eq
    {conn : ClientConnection}
    (balanced : Balanced conn) :
    inFlightOf conn = (pendingPackets conn).card := by
  unfold inFlightOf pendingPackets pendingOf
  rcases balanced.cases with ⟨tracker, congestion⟩ |
    ⟨tracker, cc, trackerRead, congestionRead, -, counted⟩
  · rw [tracker, congestion]
    rfl
  · rw [trackerRead, congestionRead]
    exact counted

/-! ## Acknowledgements -/

theorem observed_packet
    (tracker : AckTracker)
    (packetId : UInt64)
    (channel : Channel)
    (entry : AckEntry) :
    (observed tracker packetId channel entry).packet = entry.packet := by
  unfold observed AckEntry.packet
  split_ifs
  · rw [observeAck_channel, observeAck_packetId]
  · rfl

theorem awaits_iff
    {entry : AckEntry}
    {packetId : UInt64}
    {channel : Channel} :
    entry.awaits packetId channel = true ↔
      entry.packet = (channel, packetId) := by
  rw [AckEntry.awaits, AckEntry.packet, Bool.and_eq_true, beq_iff_eq,
    beq_iff_eq, Prod.mk.injEq, and_comm]

/-- An acknowledgement removes its packet. -/
theorem packetsOf_afterAck
    (tracker : AckTracker)
    (packetId : UInt64)
    (channel : Channel) :
    packetsOf (tracker.pending.filterMap
        (afterAck tracker packetId channel)) =
      (packetsOf tracker.pending).erase (channel, packetId) := by
  ext packet
  rw [Finset.mem_erase, mem_packetsOf, mem_packetsOf]
  constructor
  · rintro ⟨entry, member, rfl⟩
    obtain ⟨old, present, kept⟩ := List.mem_filterMap.mp member
    unfold afterAck at kept
    split at kept
    case isTrue => cases kept
    case isFalse other =>
      cases kept
      rw [observed_packet]
      exact ⟨fun same => other (awaits_iff.mpr same), old, present, rfl⟩
  · rintro ⟨other, entry, present, rfl⟩
    refine ⟨observed tracker packetId channel entry, ?_,
      observed_packet _ _ _ _⟩
    refine List.mem_filterMap.mpr ⟨entry, present, ?_⟩
    rw [afterAck, if_neg fun awaited => other (awaits_iff.mp awaited)]

theorem Balanced.acknowledge
    {conn : ClientConnection}
    (balanced : Balanced conn)
    (packetId : UInt64)
    (channel : Channel)
    (now : UInt64) :
    Balanced (acknowledge conn packetId channel now) := by
  rcases balanced.cases with ⟨tracker, -⟩ |
    ⟨tracker, cc, trackerRead, congestionRead, windowOpen, counted⟩
  · rw [Kronos.acknowledge, tracker]
    exact balanced
  · rw [Kronos.acknowledge, trackerRead]
    simp only
    have removed := packetsOf_afterAck tracker packetId channel
    have after := krsAckTrackerReceiveRtt_snd tracker packetId channel now
    have sampled := krsAckTrackerReceiveRtt_fst_isSome tracker packetId
      channel now
    generalize krsAckTrackerReceiveRtt tracker packetId channel now =
      received at *
    cases rtt : received.1 with
    | none =>
        rw [rtt, Option.isSome_none, eq_comm, List.any_eq_false] at sampled
        have absent : (channel, packetId) ∉ packetsOf tracker.pending := by
          rw [mem_packetsOf]
          rintro ⟨entry, present, same⟩
          exact sampled entry present (awaits_iff.mpr same)
        rw [Finset.erase_eq_of_notMem absent] at removed
        simp only [Balanced, congestionRead, after]
        rw [removed]
        exact ⟨windowOpen, counted⟩
    | some rttMs =>
        rw [rtt, Option.isSome_some, eq_comm, List.any_eq_true] at sampled
        obtain ⟨entry, present, awaited⟩ := sampled
        have member : (channel, packetId) ∈ packetsOf tracker.pending :=
          mem_packetsOf.mpr ⟨entry, present, awaits_iff.mp awaited⟩
        have positive : 0 < cc.inFlight := by
          rw [counted]
          exact Finset.card_pos.mpr ⟨_, member⟩
        rw [congestionRead]
        refine ⟨windowOpen.onAck _, ?_⟩
        change (if cc.inFlight > 0 then cc.inFlight - 1 else cc.inFlight) =
          (packetsOf received.2.pending).card
        rw [if_pos positive, after, removed, Finset.card_erase_of_mem member,
          counted]

/-! ## Sends -/

theorem Balanced.ensureReliable
    {conn : ClientConnection}
    (balanced : Balanced conn)
    {allocations : SendAllocations}
    (succeed : allocations.Succeed) :
    ∃ tracker cc,
      (ensureReliable conn allocations).ackTracker = some tracker ∧
        (ensureReliable conn allocations).congestion = some cc ∧
        tracker.pending = pendingOf conn ∧ WindowOpen cc ∧
        cc.inFlight = (packetsOf tracker.pending).card := by
  unfold Kronos.ensureReliable pendingOf
  rcases balanced.cases with ⟨tracker, congestion⟩ |
    ⟨tracker, cc, trackerRead, congestionRead, windowOpen, counted⟩
  · rw [tracker, congestion, succeed]
    exact ⟨_, _, rfl, rfl, rfl, krsCongestionCreate_windowOpen, rfl⟩
  · rw [trackerRead, congestionRead]
    exact ⟨_, _, rfl, rfl, rfl, windowOpen, counted⟩

/-- Registering the frames of a new packet adds exactly that packet. -/
theorem packetsOf_expectFrames
    (tracker : AckTracker)
    (packetId : UInt64)
    (channel : Channel)
    (clock : Nat -> UInt64)
    {allocated : Nat -> Bool}
    (granted : ∀ index, allocated index = true)
    {frames : List (List UInt8 × Nat)}
    (nonempty : frames ≠ []) :
    packetsOf (expectFrames tracker packetId channel clock allocated 0
        frames).pending =
      insert (channel, packetId) (packetsOf tracker.pending) := by
  rw [expectFrames_eq]
  have length := length_registeredEntries granted tracker.registered packetId
    channel clock 0 frames
  have own : ∀ entry ∈ registeredEntries tracker.registered packetId channel
      clock allocated 0 frames, entry.packet = (channel, packetId) := by
    intro entry member
    obtain ⟨handle, frame, now, -, -, rfl⟩ := mem_registeredEntries member
    rfl
  generalize registeredEntries tracker.registered packetId channel clock
    allocated 0 frames = new at *
  ext packet
  rw [Finset.mem_insert, mem_packetsOf, mem_packetsOf]
  constructor
  · rintro ⟨entry, member, rfl⟩
    rcases List.mem_append.mp member with earlier | later
    · exact Or.inr ⟨entry, earlier, rfl⟩
    · exact Or.inl (own entry later)
  · rintro (rfl | ⟨entry, member, rfl⟩)
    · have positive : 0 < new.length := by
        rw [length]
        exact List.length_pos_iff.mpr nonempty
      exact ⟨new[0], List.mem_append_right _ (List.getElem_mem positive),
        own _ (List.getElem_mem positive)⟩
    · exact ⟨entry, List.mem_append_left _ member, rfl⟩

theorem Balanced.sendOn
    {conn : ClientConnection}
    (balanced : Balanced conn)
    {channel : Channel}
    {packetId : UInt64}
    (data : List UInt8)
    (length : UInt16)
    {requireAck : Bool}
    (clock : Nat -> UInt64)
    {allocations : SendAllocations}
    (allowed : requireAck = true ->
      allocations.Succeed ∧ (channel, packetId) ∉ pendingPackets conn) :
    Balanced (sendOn conn channel packetId data length requireAck clock
      allocations).1 := by
  cases requireAck with
  | false =>
      unfold Kronos.sendOn
      simp only [Bool.false_eq_true, if_false]
      split <;> exact balanced
  | true =>
      obtain ⟨succeed, unused⟩ := allowed rfl
      have granted : ∀ index, allocations.entry index = true := by
        rw [succeed]
        exact fun _ => rfl
      obtain ⟨frames, built, nonempty⟩ := messageFrames_of_succeed succeed
        channel packetId data length true .networkSocketError
      obtain ⟨tracker, cc, trackerRead, congestionRead, samePending,
        windowOpen, counted⟩ := balanced.ensureReliable succeed
      unfold Kronos.sendOn
      simp only [if_true]
      generalize Kronos.ensureReliable conn allocations = ready at *
      rw [takeWindowSlot, congestionRead]
      simp only
      cases room : krsCongestionCanSend cc with
      | false =>
          simp only [Bool.false_eq_true, if_false, Balanced, trackerRead,
            congestionRead]
          exact ⟨windowOpen, counted⟩
      | true =>
          simp only [if_true, built, expectOn, Balanced, trackerRead,
            Option.map_some]
          refine ⟨windowOpen.onSend, ?_⟩
          rw [packetsOf_expectFrames tracker packetId channel clock
            granted nonempty, Finset.card_insert_of_notMem]
          · change cc.inFlight + 1 = _
            rw [counted]
          · rw [samePending]
            exact unused

/-! ## Ticks -/

/-- A check at this time drops no packet altogether: where it drops an entry,
another entry of the same packet stays. -/
def KeepsPackets (now : UInt64) (conn : ClientConnection) : Prop :=
  ∀ tracker ∈ conn.ackTracker, ∀ entry ∈ tracker.pending,
    dropDue tracker now entry = true ->
      ∃ other ∈ tracker.pending, other.packet = entry.packet ∧
        dropDue tracker now other = false

instance (now : UInt64) (conn : ClientConnection) :
    Decidable (KeepsPackets now conn) :=
  inferInstanceAs (Decidable (∀ tracker ∈ conn.ackTracker, _))

theorem afterCheck_packet
    {tracker : AckTracker}
    {now : UInt64}
    {entry kept : AckEntry}
    (left : afterCheck tracker now entry = some kept) :
    kept.packet = entry.packet := by
  unfold afterCheck at left
  split_ifs at left <;> cases left <;> rfl

theorem packetsOf_afterCheck
    {tracker : AckTracker}
    {now : UInt64}
    (keeps : ∀ entry ∈ tracker.pending, dropDue tracker now entry = true ->
      ∃ other ∈ tracker.pending, other.packet = entry.packet ∧
        dropDue tracker now other = false) :
    packetsOf (tracker.pending.filterMap (afterCheck tracker now)) =
      packetsOf tracker.pending := by
  have stays : ∀ entry ∈ tracker.pending,
      dropDue tracker now entry = false ->
      entry.packet ∈
        packetsOf (tracker.pending.filterMap (afterCheck tracker now)) := by
    intro entry present undropped
    have left : ∃ kept, afterCheck tracker now entry = some kept := by
      rw [afterCheck, undropped]
      simp only [Bool.false_eq_true, if_false]
      split <;> exact ⟨_, rfl⟩
    obtain ⟨kept, left⟩ := left
    exact mem_packetsOf.mpr ⟨kept,
      List.mem_filterMap.mpr ⟨entry, present, left⟩, afterCheck_packet left⟩
  ext packet
  constructor
  · intro member
    obtain ⟨kept, inFilter, rfl⟩ := mem_packetsOf.mp member
    obtain ⟨entry, present, left⟩ := List.mem_filterMap.mp inFilter
    exact mem_packetsOf.mpr ⟨entry, present, (afterCheck_packet left).symm⟩
  · intro member
    obtain ⟨entry, present, rfl⟩ := mem_packetsOf.mp member
    cases dropped : dropDue tracker now entry with
    | false => exact stays entry present dropped
    | true =>
        obtain ⟨other, otherPresent, same, undropped⟩ :=
          keeps entry present dropped
        rw [← same]
        exact stays other otherPresent undropped

theorem WindowOpen.reactToLoss
    {cc : CongestionController}
    (windowOpen : WindowOpen cc)
    (queue : RetryQueue) :
    WindowOpen (reactToLoss queue cc) ∧
      (reactToLoss queue cc).inFlight = cc.inFlight := by
  unfold Kronos.reactToLoss
  split_ifs
  · exact ⟨WindowOpen.onTimeoutLoss cc, rfl⟩
  · exact ⟨WindowOpen.onFastRetransmitLoss cc, rfl⟩
  · exact ⟨windowOpen, rfl⟩

theorem Balanced.checked
    {ref : ConnectionRef}
    {now : UInt64}
    {old new : ClientConnection}
    (balanced : Balanced old)
    (keeps : KeepsPackets now old)
    (checked : CheckedConnection now ref old new) :
    Balanced new := by
  obtain ⟨callback, descriptor, buffers, rfl⟩ := checked
  unfold collectConnection
  rcases balanced.cases with ⟨tracker, -⟩ |
    ⟨tracker, cc, trackerRead, congestionRead, windowOpen, counted⟩
  · rw [tracker]
    exact balanced
  · rw [trackerRead]
    simp only [Balanced, congestionRead, Option.map_some]
    obtain ⟨stillOpen, sameFlight⟩ := windowOpen.reactToLoss
      (queueRetries (krsAckTrackerCheckTimeouts tracker now checkCapacity
        checkCapacity).2 descriptor ref old.remoteAddress
        (krsAckTrackerCheckTimeouts tracker now checkCapacity
          checkCapacity).1.retries { pending := buffers.pending })
    refine ⟨stillOpen, ?_⟩
    rw [sameFlight, krsAckTrackerCheckTimeouts_snd,
      packetsOf_afterCheck (keeps tracker trackerRead)]
    exact counted

/-! ## Whole runs -/

/-- The next packet id of the channel is still pending on the connection: the
64-bit counter of the channel has come round. -/
def NextIdPending
    (spm : ServerPortManager)
    (connectionId : UInt32)
    (channel : Channel) : Prop :=
  ∃ entry ∈ krsConnectionMapGet spm.connectionMap connectionId,
    ∃ desc ∈ spm.descriptorList[entry.descriptor]?,
      ∃ target ∈ spm.connections[entry.connection]?,
        (channel,
            (nextPacketId channel true (desc.channelStates channel)).1) ∈
          pendingPackets target

instance
    (spm : ServerPortManager)
    (connectionId : UInt32)
    (channel : Channel) :
    Decidable (NextIdPending spm connectionId channel) :=
  inferInstanceAs (Decidable (∃ entry ∈ _, _))

/-- The events under which the window keeps counting: a reliable send has its
memory and a packet id that is not pending, and a tick drops no packet
altogether. -/
def InFlightAllowed (current : ServerRun) : ServerEvent -> Prop
  | .datagram .. => True
  | .send connectionId channel _ _ requireAck _ allocations =>
      requireAck = true ->
        allocations.Succeed ∧
          ¬ NextIdPending current.spm connectionId channel
  | .tick clock =>
      ∀ ref ∈ visitedRefs current.spm,
        ∀ conn ∈ current.spm.connections[ref]?,
          KeepsPackets (clock.check ref) conn

instance (current : ServerRun) :
    ∀ event, Decidable (InFlightAllowed current event)
  | .datagram .. => isTrue trivial
  | .send _ _ _ _ requireAck _ _ =>
      inferInstanceAs (Decidable (requireAck = true -> _))
  | .tick _ =>
      inferInstanceAs (Decidable (∀ ref ∈ visitedRefs current.spm, _))

theorem balanced_connectionInvariant :
    ConnectionInvariant InFlightAllowed fun _ _ conn => Balanced conn where
  quiet := fun _ _ _ _ _ balanced => balanced
  released := by
    intro log ref old new released balanced
    rcases released with same | gone
    · exact balanced.congr same.ackTracker same.congestion
    · exact Balanced.of_none gone.ackTracker gone.congestion
  acknowledged := fun _ _ _ packetId channel now balanced =>
    balanced.acknowledge packetId channel now
  created := fun _ _ _ new _ => Balanced.of_none new.ackTracker new.congestion
  sent := by
    intro current connectionId channel data length requireAck clock
      allocations allowed entry desc target found descRead targetRead _
      balanced
    have acquired : Balanced
        { target with refcount := target.refcount + 1 } :=
      balanced.congr rfl rfl
    refine acquired.sendOn data length clock fun reliable => ?_
    obtain ⟨succeed, unused⟩ := allowed reliable
    refine ⟨succeed, fun pending => unused ?_⟩
    rw [succeed] at pending
    exact ⟨entry, found, desc, descRead, target, targetRead, pending⟩
  ticked := by
    intro current clock refs allowed holds ref old new oldRead newRead
    have balanced := holds ref old oldRead
    obtain ⟨visited, unvisited⟩ := (collectAll_heap refs clock.check).2 ref
      old new oldRead newRead
    by_cases member : ref ∈ visitedRefs current.spm
    · exact balanced.checked (allowed ref member old oldRead)
        (visited member)
    · rw [unvisited member]
      exact balanced

/-- In every run whose sends have their memory and whose ticks drop no packet
altogether, `in_flight` is the number of pending packets of each connection,
and a connection with nothing pending can send. -/
theorem in_flight_eq_pending_packets
    {descriptorList : List UDPSocketDescriptor}
    {events : List ServerEvent}
    {final : ServerRun}
    (allowed : RunAllowed serverStep InFlightAllowed
      (runStart descriptorList) events)
    (reached : run serverStep (runStart descriptorList) events = some final)
    {ref : ConnectionRef}
    {conn : ClientConnection}
    (read : final.spm.connections[ref]? = some conn) :
    inFlightOf conn = (pendingPackets conn).card ∧
      ∀ cc, conn.congestion = some cc -> pendingPackets conn = ∅ ->
        krsCongestionCanSend cc = true := by
  have balanced := (balanced_connectionInvariant.holds_of_run allowed
    reached).connections ref conn read
  have counted := balanced.inFlightOf_eq
  refine ⟨counted, ?_⟩
  intro cc congestionRead nothing
  rcases balanced.cases with ⟨-, missing⟩ |
    ⟨tracker, stored, -, storedRead, windowOpen, -⟩
  · rw [missing] at congestionRead
    cases congestionRead
  · rw [congestionRead] at storedRead
    cases storedRead
    refine windowOpen.canSend ?_
    rw [nothing, Finset.card_empty, inFlightOf, congestionRead] at counted
    exact counted

/-- Two packets are sent, one is acknowledged, and a tick resends the
other. -/
theorem in_flight_of_short_run :
    ∃ final conn,
      run serverStep (runStart [{ port := 5000 }])
          [connectFrom 4000 0, sendByte 10 0, sendByte 10 0,
            ackFrom 4000 10 1 40, tickAt 1000] = some final ∧
        final.spm.connections[0]? = some conn ∧
        inFlightOf conn = (pendingPackets conn).card := by
  have ran : ((run serverStep (runStart [{ port := 5000 }])
      [connectFrom 4000 0, sendByte 10 0, sendByte 10 0, ackFrom 4000 10 1 40,
        tickAt 1000]).bind fun final => final.spm.connections[0]?).isSome =
      true := by
    decide +kernel
  obtain ⟨conn, found⟩ := Option.isSome_iff_exists.mp ran
  obtain ⟨final, reached, read⟩ := Option.bind_eq_some_iff.mp found
  exact ⟨final, conn, reached, read,
    (in_flight_eq_pending_packets (by decide +kernel) reached read).1⟩

/-- The first packet is acknowledged at once, which shortens the timeout, and the
second never: after its fifth retry it is dropped, nothing is pending, and the
window of one packet stays full. -/
theorem in_flight_after_drop :
    ((run serverStep (runStart [{ port := 5000 }])
        [connectFrom 4000 0, sendByte 10 0, ackFrom 4000 10 1 40,
          sendByte 10 50, tickAt 300, tickAt 800, tickAt 1700, tickAt 3400,
          tickAt 6700, tickAt 13200]).bind fun final =>
      final.spm.connections[0]?).map (fun conn =>
        (inFlightOf conn, (pendingPackets conn).card,
          conn.congestion.map krsCongestionCanSend)) =
      some (1, 0, some false) := by
  decide +kernel

end Kronos
