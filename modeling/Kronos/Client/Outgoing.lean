import Kronos.Client.Receive
import Kronos.Server.Replies

/-!
# What a client puts on the wire

Every datagram of a client is a `SUBSCRIBE` of one of its calls, an
`UNSUBSCRIBE`, or a frame of another type.  The tracker stores nothing else, so
that this holds of retransmissions too.  Nothing but the calls for
subscriptions and the acknowledgement of the awaited packet changes what a
waiting subscribe looks at.
-/

namespace Kronos

open Library

/-! ## Datagrams -/

/-- A datagram of a client whose subscribe calls so far had these channels and
packet ids. -/
inductive ClientFrame
    (subscribes : List (Channel × UInt64))
    (datagram : List UInt8) : Prop
  | subscribe
      (channel : Channel)
      (packetId : UInt64)
      (called : (channel, packetId) ∈ subscribes)
      (frame : datagram = subscribeFrame channel packetId)
  | unsubscribe
      (channel : Channel)
      (packetId : UInt64)
      (frame : datagram = unsubscribeFrame channel packetId)
  | other
      (channel : Channel)
      (type : FrameType)
      (packetId : UInt64)
      (flags : UInt16)
      (heads : Heads datagram channel type packetId flags)
      (noSubscribe : type ≠ .subscribe)
      (noUnsubscribe : type ≠ .unsubscribe)

theorem ClientFrame.mono
    {subscribes more : List (Channel × UInt64)}
    {datagram : List UInt8}
    (frame : ClientFrame subscribes datagram)
    (grows : ∀ call ∈ subscribes, call ∈ more) :
    ClientFrame more datagram := by
  cases frame with
  | subscribe channel packetId called frame =>
      exact .subscribe channel packetId (grows _ called) frame
  | unsubscribe channel packetId frame =>
      exact .unsubscribe channel packetId frame
  | other channel type packetId flags heads noSubscribe noUnsubscribe =>
      exact .other channel type packetId flags heads noSubscribe noUnsubscribe

theorem IsMessage.clientFrame
    {datagram : List UInt8}
    (message : IsMessage datagram)
    (subscribes : List (Channel × UInt64)) :
    ClientFrame subscribes datagram := by
  obtain ⟨channel, packetId, flags, heads⟩ := message
  exact .other channel _ packetId flags heads (by decide) (by decide)

theorem FrameType.code_injective
    {first second : FrameType}
    (same : first.code = second.code) :
    first = second := by
  revert same
  cases first <;> cases second <;> decide

/-- The frame of a builder on channel 0 with a one-byte body, read back. -/
theorem krsFrameCreate_oneByte
    (builder : FrameBuilder)
    {body : UInt8}
    (payload : builder.data = some [body])
    (sized : builder.dataLength = 1)
    (plain : krsFrameMetadataBlockLength builder.presenceFlags = 0) :
    krsFrameCreate (serializeToBuffer builder 64) kronosBufferSize =
      builder.frame [body] := by
  have one : [body].length = builder.dataLength.toNat := by
    rw [sized]
    rfl
  have length := builder.length_serializedBytes payload one
  rw [plain] at length
  simp only [kronosFrameHeaderLength, List.length_singleton] at length
  rw [serializeToBuffer_eq builder payload one (by omega) (by omega)]
  exact createFrame_serializedBytes builder payload one
    (by rw [List.length_singleton]; decide)

theorem krsFrameCreate_subscribeFrame
    (channel : Channel)
    (packetId : UInt64) :
    let frame := krsFrameCreate (subscribeFrame channel packetId)
      kronosBufferSize
    frame.packetId = packetId ∧ frame.body = [channel] ∧
      frame.frameType = FrameType.subscribe.code := by
  intro frame
  have parsed : frame = _ := krsFrameCreate_oneByte
    ((((krsFrameBuilderCreate 0 .subscribe).setData (some [channel])
      1).setFlag .ackRequired).setPacketId packetId) rfl rfl
    (by
      change krsFrameMetadataBlockLength
        ((krsFrameBuilderCreate 0 .subscribe).setFlag
          .ackRequired).presenceFlags = 0
      decide)
  rw [parsed]
  exact ⟨rfl, rfl, rfl⟩

theorem krsFrameCreate_unsubscribeFrame
    (channel : Channel)
    (packetId : UInt64) :
    let frame := krsFrameCreate (unsubscribeFrame channel packetId)
      kronosBufferSize
    ackRequested frame = false ∧
      frame.frameType = FrameType.unsubscribe.code := by
  intro frame
  have parsed : frame = _ := krsFrameCreate_oneByte
    (((krsFrameBuilderCreate 0 .unsubscribe).setData (some [channel])
      1).setPacketId packetId) rfl rfl
    (by change krsFrameMetadataBlockLength 0 = 0; decide)
  rw [parsed]
  refine ⟨?_, rfl⟩
  change hasFlag 0 .ackRequired = false
  decide

/-- An accepted `SUBSCRIBE` of the client names the channel and the packet id
of one of its calls. -/
theorem ClientFrame.subscribed
    {subscribes : List (Channel × UInt64)}
    {datagram : List UInt8}
    (sent : ClientFrame subscribes datagram)
    {target : Channel}
    (accepted : (krsFrameCreate datagram kronosBufferSize).protocolChar =
      0x4B)
    (type : (krsFrameCreate datagram kronosBufferSize).frameType =
      FrameType.subscribe.code)
    (named : targetChannel (krsFrameCreate datagram kronosBufferSize) =
      some target) :
    (target, (krsFrameCreate datagram kronosBufferSize).packetId) ∈
      subscribes := by
  cases sent with
  | subscribe channel packetId called frame =>
      subst frame
      obtain ⟨numbered, body, -⟩ :=
        krsFrameCreate_subscribeFrame channel packetId
      rw [targetChannel, body] at named
      dsimp only at named
      split at named
      case isTrue => cases named
      case isFalse =>
        cases named
        rw [numbered]
        exact called
  | unsubscribe channel packetId frame =>
      subst frame
      rw [(krsFrameCreate_unsubscribeFrame channel packetId).2] at type
      exact absurd type (by decide)
  | other channel otherType packetId flags heads noSubscribe _ =>
      rw [(krsFrameCreate_of_heads heads accepted).2.1] at type
      exact absurd (FrameType.code_injective type) noSubscribe

/-- An accepted `UNSUBSCRIBE` of the client does not ask for an
acknowledgement. -/
theorem ClientFrame.unsubscribed
    {subscribes : List (Channel × UInt64)}
    {datagram : List UInt8}
    (sent : ClientFrame subscribes datagram)
    (accepted : (krsFrameCreate datagram kronosBufferSize).protocolChar =
      0x4B)
    (type : (krsFrameCreate datagram kronosBufferSize).frameType =
      FrameType.unsubscribe.code) :
    ackRequested (krsFrameCreate datagram kronosBufferSize) = false := by
  cases sent with
  | subscribe channel packetId _ frame =>
      subst frame
      rw [(krsFrameCreate_subscribeFrame channel packetId).2.2] at type
      exact absurd type (by decide)
  | unsubscribe channel packetId frame =>
      subst frame
      exact (krsFrameCreate_unsubscribeFrame channel packetId).1
  | other channel otherType packetId flags heads _ noUnsubscribe =>
      rw [(krsFrameCreate_of_heads heads accepted).2.1] at type
      exact absurd (FrameType.code_injective type) noUnsubscribe

/-! ## The calls and the receive thread -/

/-- The tracker of the client stores its own datagrams only. -/
def StoresClientFrames
    (subscribes : List (Channel × UInt64))
    (conn : ServerConnection) : Prop :=
  ∀ tracker, conn.ackTracker = some tracker ->
    StoresOnly (ClientFrame subscribes) tracker

/-- What a waiting subscribe looks at is the same. -/
structure SameWait (before after : ServerConnection) : Prop where
  recvThread : after.recvThread = before.recvThread
  pending : after.pendingSubscribePid = before.pendingSubscribePid
  received : after.subscribeAckReceived = before.subscribeAckReceived
  subscribed : after.subscribed = before.subscribed

theorem SameWait.refl (conn : ServerConnection) : SameWait conn conn :=
  ⟨rfl, rfl, rfl, rfl⟩

theorem SameWait.trans
    {first second third : ServerConnection}
    (earlier : SameWait first second)
    (later : SameWait second third) :
    SameWait first third where
  recvThread := later.recvThread.trans earlier.recvThread
  pending := later.pending.trans earlier.pending
  received := later.received.trans earlier.received
  subscribed := later.subscribed.trans earlier.subscribed

section

variable
  {subscribes : List (Channel × UInt64)}
  {conn : ServerConnection}

theorem StoresClientFrames.mono
    {more : List (Channel × UInt64)}
    (stores : StoresClientFrames subscribes conn)
    (grows : ∀ call ∈ subscribes, call ∈ more) :
    StoresClientFrames more conn :=
  fun tracker read => (stores tracker read).mono
    fun _ frame => frame.mono grows

theorem StoresClientFrames.congr
    {next : ServerConnection}
    (stores : StoresClientFrames subscribes conn)
    (same : next.ackTracker = conn.ackTracker) :
    StoresClientFrames subscribes next := by
  intro tracker read
  rw [same] at read
  exact stores tracker read

theorem StoresClientFrames.ensureTracker
    (stores : StoresClientFrames subscribes conn)
    (created : Bool) :
    StoresClientFrames subscribes (conn.ensureTracker created) := by
  intro tracker read
  unfold ServerConnection.ensureTracker at read
  cases stored : conn.ackTracker with
  | some own =>
      simp only [stored] at read
      cases read
      exact stores _ stored
  | none =>
      simp only [stored] at read
      split at read
      case isTrue =>
        cases read
        exact StoresOnly.create _ _
      case isFalse => cases read

theorem StoresClientFrames.expect
    (stores : StoresClientFrames subscribes conn)
    (packetId : UInt64)
    (channel : Channel)
    (clock : Nat -> UInt64)
    (allocated : Nat -> Bool)
    {frames : List (List UInt8 × Nat)}
    (registered : ∀ frame ∈ frames,
      ClientFrame subscribes (frame.1.take frame.2)) :
    StoresClientFrames subscribes
      (conn.expect packetId channel clock allocated frames) := by
  intro tracker read
  obtain ⟨own, stored, rfl⟩ := Option.map_eq_some_iff.mp read
  exact (stores own stored).expectFrames packetId channel clock allocated 0
    registered

/-- What a call does: the tracker keeps storing datagrams of the client, a
waiting subscribe sees no difference, and the frames are datagrams of the
client. -/
structure Outgoing
    (subscribes : List (Channel × UInt64))
    (before after : ServerConnection)
    (datagrams : List (List UInt8)) : Prop where
  stores : StoresClientFrames subscribes after
  wait : SameWait before after
  frames : ∀ datagram ∈ datagrams, ClientFrame subscribes datagram

/-- A call that sends nothing and leaves the tracker alone. -/
theorem Outgoing.silent
    {next : ServerConnection}
    (stores : StoresClientFrames subscribes conn)
    (tracker : next.ackTracker = conn.ackTracker)
    (wait : SameWait conn next) :
    Outgoing subscribes conn next [] :=
  ⟨stores.congr tracker, wait, by simp⟩

theorem sendNumbered_outgoing
    (stores : StoresClientFrames subscribes conn)
    (packetId : UInt64)
    (channel : Channel)
    (data : List UInt8)
    (length : UInt16)
    (requireAck : Bool)
    (clock : Nat -> UInt64)
    (allocations : SendAllocations) :
    let sent := sendNumbered conn packetId channel data length requireAck
      clock allocations
    Outgoing subscribes conn sent.1 sent.2.2 := by
  have tracked : StoresClientFrames subscribes
      (if requireAck then conn.ensureTracker allocations.tracker
        else conn) := by
    split
    case isTrue => exact stores.ensureTracker _
    case isFalse => exact stores
  have wait : SameWait conn
      (if requireAck then conn.ensureTracker allocations.tracker
        else conn) := by
    split
    case isTrue => exact ⟨rfl, rfl, rfl, rfl⟩
    case isFalse => exact SameWait.refl conn
  unfold sendNumbered
  generalize (if requireAck then conn.ensureTracker allocations.tracker
    else conn) = ready at tracked wait ⊢
  dsimp only
  split
  case h_1 =>
    dsimp only
    split
    case isTrue => exact .silent stores rfl (SameWait.refl conn)
    case isFalse => exact ⟨tracked, wait, by simp⟩
  case h_2 frames built =>
    have messages : ∀ frame ∈ frames,
        ClientFrame subscribes (frame.1.take frame.2) := fun frame member =>
      (messageFrames_isMessage built member).clientFrame subscribes
    dsimp only
    refine ⟨?_, ?_, ?_⟩
    · split
      case isTrue => exact tracked.expect _ _ _ _ messages
      case isFalse => exact tracked
    · split
      case isTrue => exact wait.trans ⟨rfl, rfl, rfl, rfl⟩
      case isFalse => exact wait
    · intro datagram member
      obtain ⟨inFrames, -⟩ := List.mem_filter.mp member
      obtain ⟨frame, frameIn, rfl⟩ := List.mem_map.mp inFrames
      exact messages frame frameIn

theorem takeSlot_same
    {taken : ServerConnection}
    (granted : conn.takeSlot = some taken) :
    taken.ackTracker = conn.ackTracker ∧ SameWait conn taken := by
  unfold ServerConnection.takeSlot at granted
  split at granted
  case h_1 =>
    cases granted
    exact ⟨rfl, SameWait.refl conn⟩
  case h_2 =>
    split at granted
    case isTrue =>
      cases granted
      exact ⟨rfl, rfl, rfl, rfl, rfl⟩
    case isFalse => cases granted

/-- A call of `krs_client_send`. -/
theorem krsClientSend_outgoing
    (stores : StoresClientFrames subscribes conn)
    (channel : Channel)
    (data : List UInt8)
    (length : UInt16)
    (requireAck : Bool)
    (clock : Nat -> UInt64)
    (allocations : SendAllocations) :
    let sent := krsClientSend conn channel data length requireAck clock
      allocations
    Outgoing subscribes conn sent.1 sent.2.2 := by
  have continued : ∀ ready : ServerConnection,
      ready.ackTracker = conn.ackTracker -> SameWait conn ready ->
      let sent := sendNumbered ready (conn.nextPacketId channel) channel data
        length requireAck clock allocations
      Outgoing subscribes conn sent.1 sent.2.2 := by
    intro ready tracker wait
    have sent := sendNumbered_outgoing (stores.congr tracker)
      (conn.nextPacketId channel) channel data length requireAck clock
      allocations
    exact ⟨sent.stores, wait.trans sent.wait, sent.frames⟩
  unfold krsClientSend
  split
  case isTrue => exact .silent stores rfl (SameWait.refl conn)
  case isFalse =>
    dsimp only
    cases requireAck with
    | false => exact continued _ rfl ⟨rfl, rfl, rfl, rfl⟩
    | true =>
        simp only [if_true]
        split
        case h_1 => exact .silent stores rfl ⟨rfl, rfl, rfl, rfl⟩
        case h_2 taken granted =>
          obtain ⟨tracker, wait⟩ := takeSlot_same granted
          have ready : SameWait conn ((conn.advanceCounter
              channel).ensureCongestion allocations.congestion) :=
            ⟨rfl, rfl, rfl, rfl⟩
          exact continued taken tracker (ready.trans wait)

/-! ## The receive thread -/

/-- The datagrams among the effects of the client. -/
def ClientEffect.datagram : ClientEffect -> Option (List UInt8)
  | .netSend frame => some frame
  | _ => none

/-- The datagrams that the effects put on the wire. -/
def clientDatagrams (effects : List ClientEffect) : List (List UInt8) :=
  effects.filterMap ClientEffect.datagram

theorem mem_clientDatagrams_sendFrame
    {datagram frame : List UInt8}
    (member : datagram ∈ clientDatagrams (clientSendFrame frame)) :
    datagram = frame := by
  unfold clientSendFrame at member
  split at member
  case isTrue => cases member
  case isFalse =>
    obtain ⟨effect, inEffects, sent⟩ := List.mem_filterMap.mp member
    rw [List.mem_singleton.mp inEffects] at sent
    exact (Option.some.inj sent).symm

/-- The heartbeat of the receive thread. -/
theorem clientHeartbeat_outgoing
    (stores : StoresClientFrames subscribes conn)
    (now : UInt64)
    (built : Bool) :
    let beat := clientHeartbeat conn now built
    Outgoing subscribes conn beat.1 (clientDatagrams beat.2) := by
  unfold clientHeartbeat
  split
  case isTrue =>
    refine ⟨stores.congr rfl, ⟨rfl, rfl, rfl, rfl⟩, ?_⟩
    intro datagram member
    dsimp only at member
    split at member
    case isTrue =>
      rw [mem_clientDatagrams_sendFrame member]
      exact .other 1 .heartbeat 0 0
        (serializeToBuffer_heads (krsFrameBuilderCreate 1 .heartbeat) rfl
          (by decide) (by decide)) (by decide) (by decide)
    case isFalse => cases member
  case isFalse => exact .silent stores rfl (SameWait.refl conn)

/-- The retransmissions of the receive thread. -/
theorem clientRetransmit_outgoing
    (stores : StoresClientFrames subscribes conn)
    (now : UInt64) :
    let resent := clientRetransmit conn now
    Outgoing subscribes conn resent.1 (clientDatagrams resent.2) := by
  unfold clientRetransmit
  split
  case h_1 => exact .silent stores rfl (SameWait.refl conn)
  case h_2 tracker read =>
    have checked := (stores tracker read).check now clientCheckCapacity
      clientCheckCapacity
    dsimp only
    refine ⟨?_, ⟨rfl, rfl, rfl, rfl⟩, ?_⟩
    · intro after afterRead
      cases afterRead
      exact checked
    · intro datagram member
      obtain ⟨effect, inEffects, sent⟩ := List.mem_filterMap.mp member
      rcases List.mem_append.mp inEffects with retried | failed
      · obtain ⟨frame, inFrames, inEffect⟩ := List.mem_flatMap.mp retried
        obtain ⟨retry, -, found⟩ := List.mem_filterMap.mp inFrames
        have same : datagram = frame := mem_clientDatagrams_sendFrame
          (List.mem_filterMap.mpr ⟨effect, inEffect, sent⟩)
        rw [same]
        unfold clientRetryFrame at found
        split at found
        case h_1 => cases found
        case h_2 stored =>
          split at found
          case isTrue =>
            cases found
            exact checked.getRetryFrame stored
          case isFalse => cases found
      · split at failed
        case h_1 => cases failed
        case h_2 =>
          obtain ⟨packet, -, rfl⟩ := List.mem_map.mp failed
          cases sent

/-- The acknowledgement of the packet that a subscribe waits for. -/
structure AcknowledgesWait
    (frame : Frame)
    (before after : ServerConnection) : Prop where
  accepted : frame.protocolChar = 0x4B
  type : frame.frameType = FrameType.messageAck.code
  awaited : before.pendingSubscribePid ≠ 0
  numbered : frame.packetId = before.pendingSubscribePid
  flagged : after = { after with subscribeAckReceived := true }
  wait : SameWait before
    { after with subscribeAckReceived := before.subscribeAckReceived }

theorem clientAcknowledge_cases
    (stores : StoresClientFrames subscribes conn)
    {frame : Frame}
    (accepted : frame.protocolChar = 0x4B)
    (type : frame.frameType = FrameType.messageAck.code)
    (now : UInt64) :
    let next := clientAcknowledge conn frame now
    StoresClientFrames subscribes next ∧
      (SameWait conn next ∨ AcknowledgesWait frame conn next) := by
  have tracked : ∀ ready : ServerConnection,
      StoresClientFrames subscribes ready -> SameWait conn ready ->
      let next :=
        if ready.pendingSubscribePid ≠ 0 ∧
            frame.packetId = ready.pendingSubscribePid then
          { ready with subscribeAckReceived := true }
        else ready
      StoresClientFrames subscribes next ∧
        (SameWait conn next ∨ AcknowledgesWait frame conn next) := by
    intro ready readyStores wait
    dsimp only
    split
    case isTrue awaited =>
      rw [wait.pending] at awaited
      refine ⟨readyStores.congr rfl, Or.inr ⟨accepted, type, awaited.1,
        awaited.2, rfl, wait.recvThread, wait.pending, rfl,
        wait.subscribed⟩⟩
    case isFalse => exact ⟨readyStores, Or.inl wait⟩
  unfold clientAcknowledge
  dsimp only
  split
  case h_1 => exact tracked conn stores (SameWait.refl conn)
  case h_2 tracker read =>
    have received := (stores tracker read).receiveRtt frame.packetId
      frame.channel now
    split
    case h_1 =>
      refine tracked _ ?_ ⟨rfl, rfl, rfl, rfl⟩
      intro after afterRead
      cases afterRead
      exact received.setTimeout _
    case h_2 =>
      refine tracked _ ?_ ⟨rfl, rfl, rfl, rfl⟩
      intro after afterRead
      cases afterRead
      exact received

theorem clientDeliver_datagrams
    {frame : Frame}
    {delivery : Delivery}
    {ackBuilt : Bool}
    (subscribes : List (Channel × UInt64)) :
    ∀ datagram ∈ clientDatagrams
      (clientDeliver conn frame delivery ackBuilt),
      ClientFrame subscribes datagram := by
  intro datagram member
  obtain ⟨effect, inEffects, sent⟩ := List.mem_filterMap.mp member
  rcases List.mem_append.mp inEffects with acknowledged | delivered
  · split at acknowledged
    case isTrue =>
      rw [mem_clientDatagrams_sendFrame
        (List.mem_filterMap.mpr ⟨effect, acknowledged, sent⟩)]
      exact .other _ _ _ _ (ackResponse_heads _ _) (by decide) (by decide)
    case isFalse => cases acknowledged
  · split at delivered
    case h_1 => cases delivered
    case h_2 =>
      rw [List.mem_singleton.mp delivered] at sent
      cases sent

/-- A round of the receive thread: what it does, and when it answers a waiting
subscribe. -/
theorem clientReceive_outgoing
    (stores : StoresClientFrames subscribes conn)
    {datagram : List UInt8}
    {now : UInt64}
    {allocations : ReceiveAllocations}
    {next : ServerConnection}
    {effects : List ClientEffect}
    (received : clientReceive conn datagram now allocations =
      some (next, effects)) :
    StoresClientFrames subscribes next ∧
      (∀ sent ∈ clientDatagrams effects, ClientFrame subscribes sent) ∧
      (SameWait conn next ∨
        AcknowledgesWait (krsFrameCreate datagram kronosBufferSize) conn
          next) := by
  cases clientReceive_cases received with
  | idle outcome =>
      cases outcome
      exact ⟨stores, nofun, Or.inl (SameWait.refl conn)⟩
  | acknowledged frame parsed accepted type outcome =>
      cases outcome
      rw [parsed]
      obtain ⟨kept, wait⟩ := clientAcknowledge_cases stores accepted type now
      exact ⟨kept, nofun, wait⟩
  | whole frame outcome =>
      cases outcome
      exact ⟨stores, clientDeliver_datagrams subscribes,
        Or.inl (SameWait.refl conn)⟩
  | fed frame parsed arrived accepted type application subscribed flagged
      fedTo reassembled outcome =>
      cases outcome
      refine ⟨stores.congr rfl, ?_, Or.inl ⟨rfl, rfl, rfl, rfl⟩⟩
      intro sent member
      split at member
      case isTrue => exact clientDeliver_datagrams subscribes sent member
      case isFalse => cases member

end

end Kronos
