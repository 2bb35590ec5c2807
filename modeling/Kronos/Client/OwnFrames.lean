import Kronos.Client.Subscription

/-!
# What a client acknowledges

The calls of a client, its heartbeat and its retransmissions put no
acknowledgement on the wire: its tracker never stores one.  Acknowledgements
come from the receive thread only, which sends one in a round that hands a
message to the callback.
-/

namespace Kronos

open Library

/-- The server does not take the datagram for an acknowledgement. -/
def AcknowledgesNothing (datagram : List UInt8) : Prop :=
  (krsFrameCreate datagram kronosBufferSize).protocolChar = 0x4B ->
    (krsFrameCreate datagram kronosBufferSize).frameType ≠
      FrameType.messageAck.code

theorem Heads.acknowledgesNothing
    {datagram : List UInt8}
    {channel : Channel}
    {type : FrameType}
    {packetId : UInt64}
    {flags : UInt16}
    (heads : Heads datagram channel type packetId flags)
    (other : type ≠ .messageAck) :
    AcknowledgesNothing datagram := by
  intro accepted acknowledges
  rw [(krsFrameCreate_of_heads heads accepted).2.1] at acknowledges
  exact other (FrameType.code_injective acknowledges)

theorem subscribeFrame_acknowledgesNothing
    (channel : Channel)
    (packetId : UInt64) :
    AcknowledgesNothing (subscribeFrame channel packetId) := by
  intro _
  rw [(krsFrameCreate_subscribeFrame channel packetId).2.2]
  decide

theorem unsubscribeFrame_acknowledgesNothing
    (channel : Channel)
    (packetId : UInt64) :
    AcknowledgesNothing (unsubscribeFrame channel packetId) := by
  intro _
  rw [(krsFrameCreate_unsubscribeFrame channel packetId).2]
  decide

/-! ## The calls -/

/-- The tracker of the client stores no acknowledgement. -/
def StoresNoAck (conn : ServerConnection) : Prop :=
  ∀ tracker, conn.ackTracker = some tracker ->
    StoresOnly AcknowledgesNothing tracker

/-- After a call the tracker stores no acknowledgement, and none of the
datagrams is one. -/
structure SendsNoAck
    (after : ServerConnection)
    (datagrams : List (List UInt8)) : Prop where
  stores : StoresNoAck after
  frames : ∀ datagram ∈ datagrams, AcknowledgesNothing datagram

section Calls

variable {conn : ServerConnection}

theorem StoresNoAck.congr
    {next : ServerConnection}
    (stores : StoresNoAck conn)
    (same : next.ackTracker = conn.ackTracker) :
    StoresNoAck next := by
  intro tracker read
  rw [same] at read
  exact stores tracker read

/-- A call that sends nothing and leaves the tracker alone. -/
theorem StoresNoAck.silent
    {next : ServerConnection}
    (stores : StoresNoAck conn)
    (same : next.ackTracker = conn.ackTracker) :
    SendsNoAck next [] :=
  ⟨stores.congr same, List.forall_mem_nil _⟩

theorem StoresNoAck.ensureTracker
    (stores : StoresNoAck conn)
    (created : Bool) :
    StoresNoAck (conn.ensureTracker created) := by
  intro tracker read
  unfold ServerConnection.ensureTracker at read
  cases stored : conn.ackTracker with
  | some own =>
      simp only [stored] at read
      cases read
      exact stores _ stored
  | none =>
      simp only [stored] at read
      split at read
      case isTrue =>
        cases read
        exact StoresOnly.create _ _
      case isFalse => cases read

theorem StoresNoAck.expect
    (stores : StoresNoAck conn)
    (packetId : UInt64)
    (channel : Channel)
    (clock : Nat -> UInt64)
    (allocated : Nat -> Bool)
    {frames : List (List UInt8 × Nat)}
    (registered : ∀ frame ∈ frames,
      AcknowledgesNothing (frame.1.take frame.2)) :
    StoresNoAck (conn.expect packetId channel clock allocated frames) := by
  intro tracker read
  obtain ⟨own, stored, rfl⟩ := Option.map_eq_some_iff.mp read
  exact (stores own stored).expectFrames packetId channel clock allocated 0
    registered

theorem sendNumbered_noAck
    (stores : StoresNoAck conn)
    (packetId : UInt64)
    (channel : Channel)
    (data : List UInt8)
    (length : UInt16)
    (requireAck : Bool)
    (clock : Nat -> UInt64)
    (allocations : SendAllocations) :
    let sent := sendNumbered conn packetId channel data length requireAck
      clock allocations
    SendsNoAck sent.1 sent.2.2 := by
  have tracked : StoresNoAck
      (if requireAck then conn.ensureTracker allocations.tracker
        else conn) := by
    split
    case isTrue => exact stores.ensureTracker _
    case isFalse => exact stores
  unfold sendNumbered
  generalize (if requireAck then conn.ensureTracker allocations.tracker
    else conn) = ready at tracked ⊢
  dsimp only
  split
  case h_1 =>
    dsimp only
    split
    case isTrue => exact stores.silent rfl
    case isFalse => exact tracked.silent rfl
  case h_2 frames built =>
    have messages : ∀ frame ∈ frames,
        AcknowledgesNothing (frame.1.take frame.2) := fun frame member =>
      (messageFrames_isMessage built member).not_messageAck
    dsimp only
    refine ⟨?_, ?_⟩
    · split
      case isTrue => exact tracked.expect _ _ _ _ messages
      case isFalse => exact tracked
    · intro datagram member
      obtain ⟨inFrames, -⟩ := List.mem_filter.mp member
      obtain ⟨frame, frameIn, rfl⟩ := List.mem_map.mp inFrames
      exact messages frame frameIn

/-- A call of `krs_client_send`. -/
theorem krsClientSend_noAck
    (stores : StoresNoAck conn)
    (channel : Channel)
    (data : List UInt8)
    (length : UInt16)
    (requireAck : Bool)
    (clock : Nat -> UInt64)
    (allocations : SendAllocations) :
    let sent := krsClientSend conn channel data length requireAck clock
      allocations
    SendsNoAck sent.1 sent.2.2 := by
  have continued : ∀ ready : ServerConnection,
      ready.ackTracker = conn.ackTracker ->
      let sent := sendNumbered ready (conn.nextPacketId channel) channel data
        length requireAck clock allocations
      SendsNoAck sent.1 sent.2.2 := by
    intro ready tracker
    exact sendNumbered_noAck (stores.congr tracker)
      (conn.nextPacketId channel) channel data length requireAck clock
      allocations
  unfold krsClientSend
  split
  case isTrue => exact stores.silent rfl
  case isFalse =>
    dsimp only
    cases requireAck with
    | false => exact continued _ rfl
    | true =>
        simp only [if_true]
        split
        case h_1 => exact stores.silent rfl
        case h_2 taken granted =>
          exact continued taken (takeSlot_same granted).1

/-- A call of `krs_client_subscribe`, up to its wait. -/
theorem krsClientSubscribe_noAck
    (stores : StoresNoAck conn)
    (channel : Channel)
    (now : UInt64)
    (allocations : SendAllocations) :
    let called := krsClientSubscribe conn channel now allocations
    StoresNoAck called.1 ∧
      ∀ packetId frame, called.2 = .ok (packetId, frame) ->
        AcknowledgesNothing frame := by
  have own := subscribeFrame_acknowledgesNothing channel (conn.nextPacketId 0)
  unfold krsClientSubscribe
  dsimp only
  split_ifs
  · exact ⟨stores, fun _ _ called => by cases called⟩
  · exact ⟨stores, fun _ _ called => by cases called⟩
  · exact ⟨stores, fun _ _ called => by cases called⟩
  · exact ⟨stores.congr rfl, fun _ _ called => by cases called⟩
  · refine ⟨?_, ?_⟩
    · have ready : StoresNoAck (conn.advanceCounter 0) := stores.congr rfl
      refine StoresNoAck.congr ((ready.ensureTracker
        allocations.tracker).expect (conn.nextPacketId 0) 0 (fun _ => now)
          allocations.entry ?_) rfl
      intro frame member
      rw [List.mem_singleton.mp member, List.take_length]
      exact own
    · intro packetId frame called
      cases called
      exact own
  · refine ⟨stores.congr rfl, ?_⟩
    intro packetId frame called
    cases called
    exact own

/-- A call of `krs_client_unsubscribe`. -/
theorem krsClientUnsubscribe_noAck
    (stores : StoresNoAck conn)
    (channel : Channel)
    (built : Bool) :
    let called := krsClientUnsubscribe conn channel built
    SendsNoAck called.1 (clientDatagrams called.2.2) := by
  unfold krsClientUnsubscribe
  dsimp only
  split_ifs
  · exact stores.silent rfl
  · exact stores.silent rfl
  · exact stores.silent rfl
  · refine ⟨stores.congr rfl, ?_⟩
    intro datagram member
    rw [mem_clientDatagrams_sendFrame member]
    exact unsubscribeFrame_acknowledgesNothing channel _

/-! ## The receive thread -/

/-- The heartbeat of the receive thread. -/
theorem clientHeartbeat_noAck
    (stores : StoresNoAck conn)
    (now : UInt64)
    (built : Bool) :
    let beat := clientHeartbeat conn now built
    SendsNoAck beat.1 (clientDatagrams beat.2) := by
  unfold clientHeartbeat
  split
  case isTrue =>
    refine ⟨stores.congr rfl, ?_⟩
    intro datagram member
    dsimp only at member
    split at member
    case isTrue =>
      rw [mem_clientDatagrams_sendFrame member]
      have heads : Heads (serializeToBuffer
          (krsFrameBuilderCreate 1 .heartbeat) 32) 1 .heartbeat 0 0 :=
        serializeToBuffer_heads (krsFrameBuilderCreate 1 .heartbeat) rfl
          (by decide) (by decide)
      exact heads.acknowledgesNothing (by decide)
    case isFalse => cases member
  case isFalse => exact stores.silent rfl

/-- The retransmissions of the receive thread. -/
theorem clientRetransmit_noAck
    (stores : StoresNoAck conn)
    (now : UInt64) :
    let resent := clientRetransmit conn now
    SendsNoAck resent.1 (clientDatagrams resent.2) := by
  unfold clientRetransmit
  split
  case h_1 => exact stores.silent rfl
  case h_2 tracker read =>
    have checked := (stores tracker read).check now clientCheckCapacity
      clientCheckCapacity
    dsimp only
    refine ⟨?_, ?_⟩
    · intro after afterRead
      cases afterRead
      exact checked
    · intro datagram member
      obtain ⟨effect, inEffects, sent⟩ := List.mem_filterMap.mp member
      rcases List.mem_append.mp inEffects with retried | failed
      · obtain ⟨frame, inFrames, inEffect⟩ := List.mem_flatMap.mp retried
        obtain ⟨retry, -, found⟩ := List.mem_filterMap.mp inFrames
        have same : datagram = frame := mem_clientDatagrams_sendFrame
          (List.mem_filterMap.mpr ⟨effect, inEffect, sent⟩)
        rw [same]
        unfold clientRetryFrame at found
        split at found
        case h_1 => cases found
        case h_2 stored =>
          split at found
          case isTrue =>
            cases found
            exact checked.getRetryFrame stored
          case isFalse => cases found
      · split at failed
        case h_1 => cases failed
        case h_2 =>
          obtain ⟨packet, -, rfl⟩ := List.mem_map.mp failed
          cases sent

theorem clientAcknowledge_storesNoAck
    (stores : StoresNoAck conn)
    (frame : Frame)
    (now : UInt64) :
    StoresNoAck (clientAcknowledge conn frame now) := by
  have flagged : ∀ ready : ServerConnection, StoresNoAck ready ->
      StoresNoAck
        (if ready.pendingSubscribePid ≠ 0 ∧
            frame.packetId = ready.pendingSubscribePid then
          { ready with subscribeAckReceived := true }
        else ready) := by
    intro ready readyStores
    split
    case isTrue => exact readyStores.congr rfl
    case isFalse => exact readyStores
  unfold clientAcknowledge
  refine flagged _ ?_
  split
  case h_1 => exact stores
  case h_2 tracker read =>
    have received := (stores tracker read).receiveRtt frame.packetId
      frame.channel now
    dsimp only
    split
    case h_1 =>
      intro after afterRead
      cases afterRead
      exact received.setTimeout _
    case h_2 =>
      intro after afterRead
      cases afterRead
      exact received

/-- What a round of the receive thread that sends an acknowledgement does: it
takes a frame on an application channel, hands a message to the callback, and
acknowledges the frame's packet id. -/
structure HandsOver
    (conn : ServerConnection)
    (frame : Frame)
    (effects : List ClientEffect) : Prop where
  accepted : frame.protocolChar = 0x4B
  notAck : frame.frameType ≠ FrameType.messageAck.code
  application : ¬ frame.channel < 10
  handed : ∀ callback, conn.callback = some callback ->
    ∃ data dataLength,
      .message callback frame.channel conn.connectionId data dataLength ∈
          effects ∧
        (hasFlag frame.presenceFlags .fragmentInfo = false ->
          data = frame.body ∧ dataLength = frame.body.length)

/-- A datagram that a delivery sends acknowledges the delivered frame. -/
theorem clientDeliver_acknowledges
    {frame : Frame}
    {delivery : Delivery}
    {ackBuilt : Bool}
    {datagram : List UInt8}
    (sent : datagram ∈ clientDatagrams
      (clientDeliver conn frame delivery ackBuilt)) :
    datagram = ackResponse frame.channel frame.packetId := by
  obtain ⟨effect, inEffects, framed⟩ := List.mem_filterMap.mp sent
  rcases List.mem_append.mp inEffects with acknowledged | delivered
  · split at acknowledged
    case isTrue =>
      exact mem_clientDatagrams_sendFrame
        (List.mem_filterMap.mpr ⟨effect, acknowledged, framed⟩)
    case isFalse => cases acknowledged
  · split at delivered
    case h_1 => cases delivered
    case h_2 =>
      rw [List.mem_singleton.mp delivered] at framed
      cases framed

/-- A delivery calls back. -/
theorem clientDeliver_message
    {callback : Callback}
    (receives : conn.callback = some callback)
    (frame : Frame)
    (delivery : Delivery)
    (ackBuilt : Bool) :
    .message callback frame.channel conn.connectionId delivery.data
        delivery.dataLength ∈
      clientDeliver conn frame delivery ackBuilt := by
  refine List.mem_append_right _ ?_
  rw [receives]
  exact List.mem_singleton_self _

/-- A datagram that a round of the receive thread sends acknowledges the frame
that the round has taken and handed over. -/
theorem clientReceive_acknowledges
    {datagram : List UInt8}
    {now : UInt64}
    {allocations : ReceiveAllocations}
    {next : ServerConnection}
    {effects : List ClientEffect}
    (received : clientReceive conn datagram now allocations =
      some (next, effects))
    {sent : List UInt8}
    (member : sent ∈ clientDatagrams effects) :
    let frame := krsFrameCreate datagram kronosBufferSize
    HandsOver conn frame effects ∧
      sent = ackResponse frame.channel frame.packetId := by
  unfold clientReceive at received
  split at received
  case h_1 =>
    cases received
    cases member
  case h_2 raw arrived =>
    obtain rfl : raw = datagram := by
      unfold recvFrom at arrived
      split at arrived
      case isTrue => cases arrived
      case isFalse => exact (Option.some.inj arrived).symm
    dsimp only at received ⊢
    generalize krsFrameCreate raw kronosBufferSize = frame at received ⊢
    split at received
    case isTrue =>
      cases received
      cases member
    case isFalse accepted =>
      split at received
      case isTrue =>
        cases received
        cases member
      case isFalse notAck =>
        split at received
        case isTrue =>
          cases received
          cases member
        case isFalse application =>
          split at received
          case isTrue =>
            cases received
            cases member
          case isFalse =>
            unfold clientAppFrame at received
            split at received
            case isTrue whole =>
              cases received
              refine ⟨⟨not_not.mp accepted, notAck, application, ?_⟩,
                clientDeliver_acknowledges member⟩
              intro callback receives
              exact ⟨_, _, clientDeliver_message receives _ _ _,
                fun _ => ⟨rfl, rfl⟩⟩
            case isFalse flagged =>
              split at received
              case h_1 =>
                cases received
                cases member
              case h_2 =>
                obtain ⟨fed, -, outcome⟩ :=
                  Option.map_eq_some_iff.mp received
                cases outcome
                split at member
                case isFalse => cases member
                case isTrue complete =>
                  refine ⟨⟨not_not.mp accepted, notAck, application, ?_⟩,
                    clientDeliver_acknowledges member⟩
                  intro callback receives
                  rw [if_pos complete]
                  refine ⟨_, _, clientDeliver_message receives _ _ _, ?_⟩
                  intro unflagged
                  exact absurd (by simp [unflagged]) flagged

/-- A round of the receive thread leaves no acknowledgement in the tracker. -/
theorem clientReceive_storesNoAck
    (stores : StoresNoAck conn)
    {datagram : List UInt8}
    {now : UInt64}
    {allocations : ReceiveAllocations}
    {next : ServerConnection}
    {effects : List ClientEffect}
    (received : clientReceive conn datagram now allocations =
      some (next, effects)) :
    StoresNoAck next := by
  cases clientReceive_cases received with
  | idle outcome =>
      cases outcome
      exact stores
  | acknowledged frame parsed accepted type outcome =>
      cases outcome
      exact clientAcknowledge_storesNoAck stores frame now
  | whole frame outcome =>
      cases outcome
      exact stores
  | fed frame parsed arrived accepted type application subscribed flagged
      fedTo reassembled outcome =>
      cases outcome
      exact stores.congr rfl

end Calls

end Kronos
