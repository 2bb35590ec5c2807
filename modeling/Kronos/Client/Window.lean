import Kronos.Client.Outgoing
import Kronos.Server.InFlight

/-!
# The client's congestion window and its pending data

What the window of the client counts, and what happens to it and to the data
messages that are pending: a reliable send takes a slot of the window, and an
acknowledgement gives one back.  A subscribe registers its frame in the same
tracker but takes no slot.
-/

namespace Kronos

open Library

/-! ## Pending data messages -/

/-- The datagram that an entry stores. -/
def AckEntry.datagram (entry : AckEntry) : List UInt8 :=
  match entry.storedFrame with
  | none => []
  | some (data, size) => data.take size

/-- The entry waits for the acknowledgement of a data message: the frame it
stores is a `BASIC_MESSAGE`. -/
def AckEntry.isData (entry : AckEntry) : Bool :=
  (krsFrameCreate entry.datagram kronosBufferSize).frameType ==
    FrameType.basicMessage.code

/-- The data messages among pending entries, by channel and packet id. -/
def dataOf (pending : List AckEntry) : Finset (Channel × UInt64) :=
  packetsOf (pending.filter AckEntry.isData)

namespace ServerConnection

/-- The entries pending in the client's tracker. -/
def pending (conn : ServerConnection) : List AckEntry :=
  match conn.ackTracker with
  | none => []
  | some tracker => tracker.pending

/-- `in_flight` of the client's controller, zero before there is one. -/
def inFlight (conn : ServerConnection) : Nat :=
  match conn.congestion with
  | none => 0
  | some cc => cc.inFlight

/-- The window counts at least the data messages that are pending. -/
def Covers (conn : ServerConnection) : Prop :=
  (dataOf conn.pending).card ≤ conn.inFlight

instance (conn : ServerConnection) : Decidable conn.Covers :=
  inferInstanceAs (Decidable (_ ≤ _))

end ServerConnection

theorem mem_dataOf
    {pending : List AckEntry}
    {packet : Channel × UInt64} :
    packet ∈ dataOf pending ↔
      ∃ entry ∈ pending, entry.isData = true ∧ entry.packet = packet := by
  simp only [dataOf, mem_packetsOf, List.mem_filter, and_assoc]

theorem isData_of_storedFrame
    {entry other : AckEntry}
    (same : other.storedFrame = entry.storedFrame) :
    other.isData = entry.isData := by
  unfold AckEntry.isData AckEntry.datagram
  rw [same]

/-! ## The system -/

/-- What happens at a client with a running receive thread.  `service` is the
part of a round of the receive thread before it reads the socket, and `receive`
the rest of the round with any datagram; `poll` and `timeout` end the wait of a
subscribe. -/
inductive ClientEvent
  | send (channel : Channel) (data : List UInt8) (length : UInt16)
      (requireAck : Bool) (clock : Nat -> UInt64)
      (allocations : SendAllocations)
  | subscribe (channel : Channel) (now : UInt64)
      (allocations : SendAllocations)
  | poll (channel : Channel)
  | timeout
  | unsubscribe (channel : Channel) (built : Bool)
  | service (now : UInt64) (built : Bool)
  | receive (datagram : List UInt8) (now : UInt64)
      (allocations : ReceiveAllocations)

/-- One step of the client, in which a call takes place as a whole. -/
def clientStep (conn : ServerConnection) :
    ClientEvent -> Option ServerConnection
  | .send channel data length requireAck clock allocations =>
      some (krsClientSend conn channel data length requireAck clock
        allocations).1
  | .subscribe channel now allocations =>
      some (krsClientSubscribe conn channel now allocations).1
  | .poll channel =>
      some (if subscribePoll conn then subscribeSucceeded conn channel
        else conn)
  | .timeout => some (subscribeTimeout conn).1
  | .unsubscribe channel built =>
      some (krsClientUnsubscribe conn channel built).1
  | .service now built =>
      some (clientRetransmit (clientHeartbeat conn now built).1 now).1
  | .receive datagram now allocations =>
      (clientReceive conn datagram now allocations).map Prod.fst

/-! ## What the steps do -/

section Steps

variable {conn : ServerConnection}

/-- Entries are dropped or changed in what is neither packet nor frame. -/
theorem dataOf_filterMap_subset
    (pending : List AckEntry)
    {rewrite : AckEntry -> Option AckEntry}
    (kept : ∀ entry after, rewrite entry = some after ->
      after.packet = entry.packet ∧
        after.storedFrame = entry.storedFrame) :
    dataOf (pending.filterMap rewrite) ⊆ dataOf pending := by
  intro packet member
  obtain ⟨after, present, data, rfl⟩ := mem_dataOf.mp member
  obtain ⟨entry, before, rewritten⟩ := List.mem_filterMap.mp present
  obtain ⟨samePacket, sameFrame⟩ := kept entry after rewritten
  rw [isData_of_storedFrame sameFrame] at data
  exact mem_dataOf.mpr ⟨entry, before, data, samePacket.symm⟩

/-- Registering the frames of one packet adds at most that packet. -/
theorem dataOf_append_subset
    (pending : List AckEntry)
    {new : List AckEntry}
    {packet : Channel × UInt64}
    (own : ∀ entry ∈ new, entry.packet = packet) :
    dataOf (pending ++ new) ⊆ insert packet (dataOf pending) := by
  intro other member
  obtain ⟨entry, present, data, rfl⟩ := mem_dataOf.mp member
  rcases List.mem_append.mp present with earlier | later
  · exact Finset.mem_insert_of_mem (mem_dataOf.mpr
      ⟨entry, earlier, data, rfl⟩)
  · rw [own entry later]
    exact Finset.mem_insert_self _ _

theorem ensureTracker_pending (conn : ServerConnection) (created : Bool) :
    (conn.ensureTracker created).pending = conn.pending := by
  unfold ServerConnection.ensureTracker ServerConnection.pending
  cases conn.ackTracker with
  | some tracker => rfl
  | none => cases created <;> rfl

theorem ensureCongestion_inFlight (conn : ServerConnection) (created : Bool) :
    (conn.ensureCongestion created).inFlight = conn.inFlight := by
  unfold ServerConnection.ensureCongestion ServerConnection.inFlight
  cases conn.congestion with
  | some cc => rfl
  | none => cases created <;> rfl

/-- Registering frames appends entries of their packet, each with one of the
frames. -/
theorem expect_pending
    (conn : ServerConnection)
    (packetId : UInt64)
    (channel : Channel)
    (clock : Nat -> UInt64)
    (allocated : Nat -> Bool)
    (frames : List (List UInt8 × Nat)) :
    ∃ new, (conn.expect packetId channel clock allocated frames).pending =
        conn.pending ++ new ∧
      ∀ entry ∈ new, entry.packet = (channel, packetId) ∧
        ∃ frame ∈ frames,
          entry.storedFrame = registeredFrame (some frame.1) frame.2 := by
  unfold ServerConnection.expect ServerConnection.pending
  cases conn.ackTracker with
  | none => exact ⟨[], by simp⟩
  | some tracker =>
      simp only [Option.map_some, expectFrames_eq]
      refine ⟨_, rfl, ?_⟩
      intro entry member
      obtain ⟨handle, frame, now, present, -, rfl⟩ :=
        mem_registeredEntries member
      exact ⟨rfl, frame, present, newEntry_storedFrame _ _ _ _ _ _⟩

theorem takeSlot_cases
    {cc : CongestionController}
    (controlled : conn.congestion = some cc) :
    krsCongestionCanSend cc = false ∧ conn.takeSlot = none ∨
      krsCongestionCanSend cc = true ∧
        conn.takeSlot =
          some { conn with congestion := some (krsCongestionOnSend cc) } := by
  unfold ServerConnection.takeSlot
  rw [controlled]
  dsimp only
  split
  case isTrue room => exact Or.inr ⟨room, rfl⟩
  case isFalse full => exact Or.inl ⟨Bool.not_eq_true _ ▸ full, rfl⟩

theorem ensureCongestion_isSome
    (conn : ServerConnection)
    {created : Bool}
    (controlled : conn.congestion.isSome = true ∨ created = true) :
    ∃ cc, (conn.ensureCongestion created).congestion = some cc ∧
      cc.inFlight = conn.inFlight := by
  unfold ServerConnection.ensureCongestion ServerConnection.inFlight
  cases known : conn.congestion with
  | some cc => exact ⟨cc, rfl, rfl⟩
  | none =>
      rw [known] at controlled
      rcases controlled with present | rfl
      · cases present
      · exact ⟨krsCongestionCreate, rfl, rfl⟩

/-- The entries of a `SUBSCRIBE` are no data messages. -/
theorem isData_of_subscribeFrame
    {entry : AckEntry}
    {channel : Channel}
    {packetId : UInt64}
    (stored : entry.storedFrame =
      registeredFrame (some (subscribeFrame channel packetId))
        (subscribeFrame channel packetId).length) :
    entry.isData = false := by
  have datagram : entry.datagram = subscribeFrame channel packetId ∨
      entry.datagram = [] := by
    unfold AckEntry.datagram
    rw [stored, registeredFrame]
    split_ifs
    · left
      simp
    · right
      rfl
  unfold AckEntry.isData
  rcases datagram with same | empty
  · rw [same, (krsFrameCreate_subscribeFrame channel packetId).2.2]
    rfl
  · rw [empty]
    rfl

theorem dataOf_append_of_not_data
    (pending : List AckEntry)
    {new : List AckEntry}
    (other : ∀ entry ∈ new, entry.isData = false) :
    dataOf (pending ++ new) = dataOf pending := by
  have none : new.filter AckEntry.isData = [] := by
    rw [List.filter_eq_nil_iff]
    intro entry member
    rw [other entry member]
    exact Bool.false_ne_true
  unfold dataOf
  rw [List.filter_append, none, List.append_nil]

theorem reactToLoss_inFlight
    (queue : RetryQueue)
    (cc : CongestionController) :
    (reactToLoss queue cc).inFlight = cc.inFlight := by
  unfold reactToLoss
  split_ifs <;> rfl

theorem afterAck_packet
    {tracker : AckTracker}
    {packetId : UInt64}
    {channel : Channel}
    {entry kept : AckEntry}
    (left : afterAck tracker packetId channel entry = some kept) :
    kept.packet = entry.packet ∧ entry.awaits packetId channel = false := by
  unfold afterAck at left
  split at left
  case isTrue => cases left
  case isFalse other =>
    cases left
    exact ⟨observed_packet tracker packetId channel entry,
      Bool.not_eq_true _ ▸ other⟩

/-- The retransmissions drop messages at most, and free no slot. -/
theorem clientRetransmit_window
    (conn : ServerConnection)
    (now : UInt64) :
    let resent := (clientRetransmit conn now).1
    dataOf resent.pending ⊆ dataOf conn.pending ∧
      resent.inFlight = conn.inFlight := by
  unfold clientRetransmit
  split
  case h_1 => exact ⟨Finset.Subset.refl _, rfl⟩
  case h_2 tracker read =>
    dsimp only
    constructor
    · rw [ServerConnection.pending, ServerConnection.pending, read,
        krsAckTrackerCheckTimeouts_snd]
      exact dataOf_filterMap_subset tracker.pending fun entry after left =>
        ⟨afterCheck_packet left, (afterCheck_handle left).2.2⟩
    · unfold ServerConnection.inFlight
      cases conn.congestion with
      | none => rfl
      | some cc => exact reactToLoss_inFlight _ cc

/-- An acknowledgement takes the data message of its packet off the pending
ones. -/
theorem dataOf_afterAck
    (tracker : AckTracker)
    (packetId : UInt64)
    (channel : Channel) :
    dataOf (tracker.pending.filterMap (afterAck tracker packetId channel)) ⊆
      (dataOf tracker.pending).erase (channel, packetId) := by
  intro packet member
  have subset := dataOf_filterMap_subset tracker.pending
    (fun entry after left =>
      ⟨(afterAck_packet left).1, (afterAck_handle left).2⟩) member
  refine Finset.mem_erase.mpr ⟨?_, subset⟩
  obtain ⟨after, present, -, rfl⟩ := mem_dataOf.mp member
  obtain ⟨entry, -, left⟩ := List.mem_filterMap.mp present
  obtain ⟨samePacket, other⟩ := afterAck_packet left
  rw [samePacket]
  intro same
  rw [awaits_iff.mpr same] at other
  cases other

/-- What a `MESSAGE_ACK` does to the window: where it matches no pending entry
it frees no slot, and otherwise at most one. -/
theorem clientAcknowledge_window
    (conn : ServerConnection)
    (frame : Frame)
    (now : UInt64) :
    let next := clientAcknowledge conn frame now
    dataOf next.pending ⊆
        (dataOf conn.pending).erase (frame.channel, frame.packetId) ∧
      (next.inFlight = conn.inFlight ∨
        next.inFlight = conn.inFlight - 1 ∧
          conn.pending.any (fun entry =>
            entry.awaits frame.packetId frame.channel) = true) := by
  have flagged (ready : ServerConnection) :
      let next :=
        if ready.pendingSubscribePid ≠ 0 ∧
            frame.packetId = ready.pendingSubscribePid then
          { ready with subscribeAckReceived := true }
        else ready
      next.pending = ready.pending ∧ next.inFlight = ready.inFlight := by
    dsimp only
    split_ifs <;> exact ⟨rfl, rfl⟩
  unfold clientAcknowledge
  dsimp only
  rw [(flagged _).1, (flagged _).2]
  cases read : conn.ackTracker with
  | none =>
      have nothing : conn.pending = [] := by
        rw [ServerConnection.pending, read]
      rw [nothing]
      exact ⟨Finset.empty_subset _, Or.inl rfl⟩
  | some tracker =>
      have pending : conn.pending = tracker.pending := by
        rw [ServerConnection.pending, read]
      have removed := dataOf_afterAck tracker frame.packetId frame.channel
      have after := krsAckTrackerReceiveRtt_snd tracker frame.packetId
        frame.channel now
      have sampled := krsAckTrackerReceiveRtt_fst_isSome tracker
        frame.packetId frame.channel now
      rw [pending]
      dsimp only
      generalize krsAckTrackerReceiveRtt tracker frame.packetId frame.channel
        now = received at *
      split
      case h_1 rttMs cc sample controlled =>
        rw [sample, Option.isSome_some] at sampled
        refine ⟨?_, Or.inr ⟨?_, sampled.symm⟩⟩
        · change dataOf received.2.pending ⊆ _
          rw [after]
          exact removed
        · change (if cc.inFlight > 0 then cc.inFlight - 1
            else cc.inFlight) = _
          rw [ServerConnection.inFlight, controlled]
          dsimp only
          split_ifs <;> omega
      case h_2 =>
        refine ⟨?_, Or.inl rfl⟩
        change dataOf received.2.pending ⊆ _
        rw [after]
        exact removed

/-- A round of the receive thread leaves tracker and controller alone or is the
acknowledgement of a packet. -/
theorem clientReceive_window
    {datagram : List UInt8}
    {now : UInt64}
    {allocations : ReceiveAllocations}
    {next : ServerConnection}
    {effects : List ClientEffect}
    (received : clientReceive conn datagram now allocations =
      some (next, effects)) :
    next.ackTracker = conn.ackTracker ∧ next.congestion = conn.congestion ∨
      let frame := krsFrameCreate datagram kronosBufferSize
      frame.frameType = FrameType.messageAck.code ∧
        next = clientAcknowledge conn frame now := by
  cases clientReceive_cases received with
  | idle outcome =>
      cases outcome
      exact Or.inl ⟨rfl, rfl⟩
  | acknowledged frame parsed accepted type outcome =>
      cases outcome
      rw [parsed]
      exact Or.inr ⟨type, rfl⟩
  | whole frame outcome =>
      cases outcome
      exact Or.inl ⟨rfl, rfl⟩
  | fed frame parsed arrived accepted type application subscribed flagged
      fedTo reassembled outcome =>
      cases outcome
      exact Or.inl ⟨rfl, rfl⟩

end Steps

end Kronos
