import Kronos.Client.Connect
import Kronos.Server.Ledger
import Kronos.Server.Recipients

/-!
# The datagrams of a server

Whatever arrives at a server, it sends well-formed frames of at most 1400 bytes
and only to addresses that it has heard from.  Each of them is a frame of a
message that the application sent to a connection of that address, or a
`SOCKET_ACK` or acknowledgement of at most 18 bytes; and to no address does the
server send more of these than it has received datagrams from there.
-/

namespace Kronos

open Library

/-! ## Answers -/

/-- The frame is a `SOCKET_ACK` or an acknowledgement. -/
inductive IsAnswer : List UInt8 -> Prop
  | socketAck (connectionId : UInt32) : IsAnswer (socketAckFrame connectionId)
  | acknowledgement (channel : Channel) (packetId : UInt64) :
      IsAnswer (ackResponse channel packetId)

/-- The frame is not a `BASIC_MESSAGE`. -/
def isAnswerFrame (frame : List UInt8) : Bool :=
  (krsFrameCreate frame kronosBufferSize).frameType !=
    FrameType.basicMessage.code

/-- The parser accepts the frame, which fits into one datagram. -/
structure WellFormed (frame : List UInt8) : Prop where
  accepted : (krsFrameCreate frame kronosBufferSize).protocolChar = 0x4B
  fits : frame.length ≤ krsDefaultMtu

theorem ackResponse_eq (channel : Channel) (packetId : UInt64) :
    ackResponse channel packetId =
      buildPlainFrame channel .messageAck packetId [] (ackFlags false) := by
  have built : ackResponse channel packetId =
      serializeToBuffer (plainBuilder channel .messageAck packetId []
        (ackFlags false)) 64 := rfl
  have sized := length_buildPlainFrame channel .messageAck packetId []
    (ackFlags false)
  rw [buildPlainFrame_eq_serializedBytes channel .messageAck packetId false
    (by decide)] at sized ⊢
  rw [built, serializeToBuffer_eq _ rfl rfl (by rw [sized]; decide)
    (by rw [sized]; decide)]

theorem socketAckFrame_eq (connectionId : UInt32) :
    socketAckFrame connectionId =
      buildPlainFrame 0 .socketAck 0 (socketAckBody connectionId)
        (ackFlags false) := by
  have built : socketAckBuilder connectionId =
      plainBuilder 0 .socketAck 0 (socketAckBody connectionId)
        (ackFlags false) := rfl
  have sized := length_buildPlainFrame 0 .socketAck 0
    (socketAckBody connectionId) (ackFlags false)
  have four : (socketAckBody connectionId).length = 4 := rfl
  rw [four] at sized
  rw [buildPlainFrame_eq_serializedBytes 0 .socketAck 0 false
    (by rw [four]; decide)] at sized ⊢
  rw [socketAckFrame, built, serializeToBuffer_eq _ rfl rfl
    (by rw [sized]; decide) (by rw [sized]; decide)]

theorem IsAnswer.parsed
    {frame : List UInt8}
    (answer : IsAnswer frame) :
    WellFormed frame ∧ frame.length ≤ 18 ∧ isAnswerFrame frame = true := by
  have plain : ∀ (channel : Channel) (type : FrameType) (packetId : UInt64)
      (data : List UInt8), data.length ≤ 4 -> type ≠ .basicMessage ->
      let built := buildPlainFrame channel type packetId data (ackFlags false)
      WellFormed built ∧ built.length ≤ 18 ∧ isAnswerFrame built = true := by
    intro channel type packetId data small other
    have parsed := @krsFrameCreate_buildPlainFrame channel type packetId
      false data kronosBufferSize (by omega) (by rw [kronosBufferSize]; omega)
    have sized := length_buildPlainFrame channel type packetId data
      (ackFlags false)
    rw [kronosFrameHeaderLength] at sized
    refine ⟨⟨by rw [parsed]; rfl, by rw [krsDefaultMtu]; omega⟩, by omega, ?_⟩
    rw [isAnswerFrame, parsed]
    exact bne_iff_ne.mpr fun same => other (FrameType.code_injective same)
  cases answer with
  | socketAck connectionId =>
      rw [socketAckFrame_eq]
      exact plain 0 .socketAck 0 _ (Nat.le_refl 4) (by decide)
  | acknowledgement channel packetId =>
      rw [ackResponse_eq]
      exact plain channel .messageAck packetId [] (by decide) (by decide)

theorem wireFrames_wellFormed
    {channel : Channel}
    {packetId : UInt64}
    {payload : List UInt8}
    {requireAck : Bool}
    (short : payload.length < 2 ^ 16)
    {frame : List UInt8}
    (sent : frame ∈ wireFrames channel packetId payload requireAck) :
    WellFormed frame ∧ isAnswerFrame frame = false := by
  have type : (krsFrameCreate frame kronosBufferSize).protocolChar = 0x4B ∧
      (krsFrameCreate frame kronosBufferSize).frameType =
        FrameType.basicMessage.code := by
    have parsed := krsFrameCreate_wireFrame short sent
    generalize krsFrameCreate frame kronosBufferSize = received at parsed
    cases parsed with
    | whole => exact ⟨rfl, rfl⟩
    | fragment => exact ⟨rfl, rfl⟩
  refine ⟨⟨type.1, ?_⟩, by rw [isAnswerFrame, type.2]; rfl⟩
  unfold wireFrames at sent
  split at sent
  case isTrue whole =>
    rw [List.mem_singleton.mp sent, length_buildPlainFrame]
    simp only [krsDefaultMtu, kronosFrameHeaderLength] at whole ⊢
    omega
  case isFalse =>
    obtain ⟨index, inside, rfl⟩ := List.mem_mapIdx.mp sent
    have sized := (messageChunks_limits short).sizes _
      (List.getElem_mem inside)
    rw [length_fragmentFrame]
    simp only [krsDefaultMtu, kronosFrameHeaderLength,
      krsMaxPayloadPerFragment] at sized ⊢
    omega

/-! ## One answer at most -/

/-- Nothing is sent. -/
def Unsent (effects : List ServerEffect) : Prop :=
  ∀ address, sentTo address effects = []

/-- Nothing is sent, or one answer to the sender of a datagram. -/
def AnswersOnce
    (remoteAddr : PortAddress)
    (effects : List ServerEffect) : Prop :=
  Unsent effects ∨ ∃ frame, IsAnswer frame ∧ ∀ address,
    sentTo address effects = if remoteAddr = address then [frame] else []

theorem Unsent.nil : Unsent [] := fun _ => rfl

theorem Unsent.of_silent
    {effects : List ServerEffect}
    (silent : ∀ port address frame, .netSend port address frame ∉ effects)
    (quiet : Quiet effects) :
    Unsent effects := by
  intro address
  refine List.filterMap_eq_nil_iff.mpr fun effect member => ?_
  cases framed : effect.frameTo address with
  | none => rfl
  | some frame =>
      rcases ServerEffect.frameTo_eq_some framed with ⟨port, rfl⟩ |
        ⟨port, ref, entry, rfl⟩
      · exact absurd member (silent port address frame)
      · cases quiet _ member

section Handlers

variable {remoteAddr : PortAddress}

theorem AnswersOnce.nil : AnswersOnce remoteAddr [] := .inl .nil

/-- Effects that send nothing may follow. -/
theorem AnswersOnce.append
    {effects more : List ServerEffect}
    (answers : AnswersOnce remoteAddr effects)
    (unsent : Unsent more) :
    AnswersOnce remoteAddr (effects ++ more) := by
  have same : ∀ address,
      sentTo address (effects ++ more) = sentTo address effects := by
    intro address
    rw [sentTo_append, unsent address, List.append_nil]
  rcases answers with silent | ⟨frame, answer, sent⟩
  · exact .inl fun address => (same address).trans (silent address)
  · exact .inr ⟨frame, answer, fun address =>
      (same address).trans (sent address)⟩

theorem krsNetSendFrame_answersOnce
    {frame : List UInt8}
    (answer : IsAnswer frame)
    (descriptor : Nat) :
    AnswersOnce remoteAddr
      (krsNetSendFrame descriptor remoteAddr frame) := by
  unfold krsNetSendFrame
  split
  case isTrue => exact .nil
  case isFalse =>
    refine .inr ⟨frame, answer, fun address => ?_⟩
    by_cases same : remoteAddr = address
    · simp [sentTo, ServerEffect.frameTo, same]
    · simp [sentTo, ServerEffect.frameTo, same]

theorem sendAckResponse_answersOnce
    (descriptor : Nat)
    (channel : Channel)
    (packetId : UInt64)
    (ackBuilt : Bool) :
    AnswersOnce remoteAddr
      (sendAckResponse descriptor remoteAddr channel packetId ackBuilt) := by
  unfold sendAckResponse
  split
  case isTrue =>
    exact krsNetSendFrame_answersOnce (.acknowledgement channel packetId)
      descriptor
  case isFalse => exact .nil

theorem sendSocketAck_answersOnce
    (descriptor : Nat)
    (connectionId : UInt32)
    (built : Bool) :
    AnswersOnce remoteAddr
      (sendSocketAck descriptor remoteAddr connectionId built) := by
  unfold sendSocketAck
  split
  case isTrue =>
    exact krsNetSendFrame_answersOnce (.socketAck connectionId) descriptor
  case isFalse => exact .nil

theorem dispatchConnection_answersOnce
    (spm : ServerPortManager)
    (descriptor : Nat)
    (now : UInt64)
    (allocations : ConnectAllocations) :
    AnswersOnce remoteAddr
      (dispatchConnection spm descriptor remoteAddr now allocations).2 := by
  unfold dispatchConnection krsServerHandleConnectionFrame
  dsimp only
  split
  case h_1 => exact .nil
  case h_2 =>
    split
    case h_1 =>
      dsimp only
      exact sendSocketAck_answersOnce descriptor _ _
    case h_2 =>
      unfold acceptConnection
      split
      case isTrue => exact .nil
      case isFalse =>
        dsimp only
        split
        case isTrue => exact .nil
        case isFalse =>
          refine (sendSocketAck_answersOnce descriptor _ _).append ?_
          split
          case h_1 => exact .nil
          case h_2 => exact fun _ => rfl

theorem dispatchDisconnect_unsent
    (spm : ServerPortManager)
    (descriptor : Nat) :
    Unsent (dispatchDisconnect spm descriptor remoteAddr).2 := by
  unfold dispatchDisconnect
  split
  case h_1 => exact .nil
  case h_2 =>
    exact .of_silent (finalize_silent _ _ _)
      (krsServerFinalizeOrphanEvictions_quiet _ _ _)

theorem dispatchSubscribe_answersOnce
    (spm : ServerPortManager)
    (descriptor : Nat)
    (frame : Frame)
    (created pushed ackBuilt : Bool) :
    AnswersOnce remoteAddr (dispatchSubscribe spm descriptor frame remoteAddr
      created pushed ackBuilt).2 := by
  unfold dispatchSubscribe
  split
  case h_1 =>
    split
    case h_1 => exact .nil
    case h_2 =>
      dsimp only
      split
      case h_1 => exact .nil
      case h_2 =>
        dsimp only
        split
        case isTrue => exact sendAckResponse_answersOnce _ _ _ _
        case isFalse => exact .nil
  case h_2 => exact .nil

theorem dispatchUnsubscribe_answersOnce
    (spm : ServerPortManager)
    (descriptor : Nat)
    (frame : Frame)
    (ackBuilt : Bool) :
    AnswersOnce remoteAddr
      (dispatchUnsubscribe spm descriptor frame remoteAddr ackBuilt).2 := by
  unfold dispatchUnsubscribe
  split
  case h_1 =>
    dsimp only
    split
    case isTrue => exact sendAckResponse_answersOnce _ _ _ _
    case isFalse => exact .nil
  case h_2 => exact .nil

theorem deliver_answersOnce
    (spm : ServerPortManager)
    (descriptor : Nat)
    (desc : UDPSocketDescriptor)
    (frame : Frame)
    (delivery : Delivery)
    (ackBuilt : Bool) :
    AnswersOnce remoteAddr
      (deliver spm descriptor desc frame remoteAddr delivery ackBuilt).2 := by
  have acked : AnswersOnce remoteAddr
      (if delivery.ackRequired then
        ({ spm with
            stats := { spm.stats with ackSent := spm.stats.ackSent + 1 } },
          sendAckResponse descriptor remoteAddr frame.channel frame.packetId
            ackBuilt)
      else (spm, [])).2 := by
    split
    case isTrue => exact sendAckResponse_answersOnce _ _ _ _
    case isFalse => exact .nil
  unfold deliver
  dsimp only
  split
  case h_1 => exact acked
  case h_2 =>
    refine acked.append ?_
    split
    case h_1 => exact .nil
    case h_2 => exact fun _ => rfl

theorem dispatchAppFrame_answersOnce
    {spm next : ServerPortManager}
    {descriptor : Nat}
    {frame : Frame}
    {now : UInt64}
    {created allocated ackBuilt : Bool}
    {effects : List ServerEffect}
    (dispatched : dispatchAppFrame spm descriptor frame remoteAddr now created
      allocated ackBuilt = some (next, effects)) :
    AnswersOnce remoteAddr effects := by
  cases dispatchAppFrame_cases dispatched with
  | unregistered missing outcome =>
      cases outcome
      exact .nil
  | whole desc read outcome =>
      have answers := @deliver_answersOnce remoteAddr spm descriptor desc
        frame
        { data := frame.body
          dataLength := frame.body.length
          ackRequired := ackRequested frame } ackBuilt
      rw [outcome] at answers
      exact answers
  | stored desc state read reassembled outcome =>
      cases outcome
      exact .nil
  | completed desc state delivery read reassembled outcome =>
      generalize spm.storeFragment _ _ _ _ = storing at outcome
      have answers := @deliver_answersOnce remoteAddr storing descriptor desc
        frame delivery ackBuilt
      rw [outcome] at answers
      exact answers

/-- A datagram is answered once at most, and to its sender. -/
theorem handleDatagram_answersOnce
    {spm next : ServerPortManager}
    {descriptor : Nat}
    {bytes : List UInt8}
    {input : HandlerInput}
    {effects : List ServerEffect}
    (handled : handleDatagram spm descriptor bytes remoteAddr input =
      some (next, effects)) :
    AnswersOnce remoteAddr effects := by
  have of_routed : ∀ frame current result,
      Routed current descriptor frame remoteAddr input result ->
        AnswersOnce remoteAddr result.2 := by
    intro frame current result routed
    cases routed with
    | connection => exact dispatchConnection_answersOnce _ _ _ _
    | heartbeat => exact .nil
    | disconnect => exact .inl (dispatchDisconnect_unsent _ _)
    | subscribe => exact dispatchSubscribe_answersOnce _ _ _ _ _ _
    | unsubscribe => exact dispatchUnsubscribe_answersOnce _ _ _ _
    | acknowledgement => exact .nil
    | ignored => exact .nil
    | application _ _ dispatched =>
        exact dispatchAppFrame_answersOnce dispatched
  unfold handleDatagram at handled
  dsimp only at handled
  split at handled
  case isTrue =>
    cases handled
    exact .nil
  case isFalse => exact of_routed _ _ _ (routeFrame_routed handled)

end Handlers

/-! ## The addresses of connections -/

/-- A `CONNECTION` creates a connection for its sender at most. -/
theorem dispatchConnection_addresses
    (spm : ServerPortManager)
    (descriptor : Nat)
    (remoteAddr : PortAddress)
    (now : UInt64)
    (allocations : ConnectAllocations) :
    let after := (dispatchConnection spm descriptor remoteAddr now
      allocations).1.connections
    IndexRelated (fun _ => SameIdentity) spm.connections after ∨
      ∃ conn : ClientConnection, after = spm.connections ++ [conn] ∧
        conn.remoteAddress = remoteAddr := by
  have same : IndexRelated (fun _ => SameIdentity) spm.connections
      spm.connections := IndexRelated.refl (fun _ => SameIdentity.refl) _
  unfold dispatchConnection krsServerHandleConnectionFrame
  dsimp only
  split
  case h_1 => exact .inl same
  case h_2 =>
    split
    case h_1 existing _ =>
      exact .inl (IndexRelated.modify (fun _ => SameIdentity.refl) _ existing
        fun conn _ => ⟨rfl, rfl⟩)
    case h_2 =>
      unfold acceptConnection
      split
      case isTrue => exact .inl same
      case isFalse =>
        dsimp only
        split
        case isTrue => exact .inl same
        case isFalse => exact .inr ⟨_, rfl, rfl⟩

/-- The connections after a datagram have addresses from before, or that of its
sender. -/
theorem handleDatagram_addresses
    {spm next : ServerPortManager}
    {descriptor : Nat}
    {bytes : List UInt8}
    {remoteAddr : PortAddress}
    {input : HandlerInput}
    {effects : List ServerEffect}
    (handled : handleDatagram spm descriptor bytes remoteAddr input =
      some (next, effects)) :
    IndexRelated (fun _ => SameIdentity) spm.connections next.connections ∨
      ∃ conn : ClientConnection,
        next.connections = spm.connections ++ [conn] ∧
          conn.remoteAddress = remoteAddr := by
  unfold handleDatagram at handled
  dsimp only at handled
  split at handled
  case isTrue =>
    cases handled
    exact .inl (IndexRelated.refl (fun _ => SameIdentity.refl) _)
  case isFalse =>
    cases routeFrame_outcome handled with
    | connection connected =>
        have addresses := dispatchConnection_addresses
          { spm with
            stats :=
              { spm.stats with
                messagesReceived := spm.stats.messagesReceived + 1 } }
          descriptor remoteAddr input.now input.connect
        rw [connected] at addresses
        exact addresses
    | acknowledgement type acked silent =>
        have heap := (dispatchAck_calm
          { spm with
            stats :=
              { spm.stats with
                messagesReceived := spm.stats.messagesReceived + 1 } }
          (krsFrameCreate bytes kronosBufferSize) remoteAddr input.now).heap
        rw [acked] at heap
        exact .inl heap
    | plain handled =>
        exact .inl (handled.heap.mono fun _ _ _ released => released.identity)

/-- Addresses that all connections had are those that they have. -/
theorem addresses_of_identity
    {before after : List ClientConnection}
    {known : List PortAddress}
    (identity : IndexRelated (fun _ => SameIdentity) before after)
    (heard : ∀ conn ∈ before, conn.remoteAddress ∈ known) :
    ∀ conn ∈ after, conn.remoteAddress ∈ known := by
  intro conn member
  obtain ⟨index, read⟩ := List.getElem?_of_mem member
  obtain ⟨old, oldRead, same⟩ := identity.exists_old read
  rw [same.remoteAddress]
  exact heard old (List.mem_of_getElem? oldRead)

/-! ## Broadcasts -/

/-- The messages of `s_broadcast_on_descriptor`. -/
def broadcastMessages
    (spm : ServerPortManager)
    (descriptor : Nat)
    (channel : Channel)
    (data : List UInt8)
    (excludeId : UInt32)
    (outcomes : BroadcastOutcomes) : List SentMessage :=
  (spm.descriptorList[descriptor]?.bind fun desc =>
    (desc.channelStates channel).connections.bind fun conns =>
      (broadcastSnapshot spm excludeId [] conns).map fun snapshot =>
        (snapshot.zip (broadcastPacketIds channel snapshot.length
          (ensureCounter outcomes.counter
            (desc.channelStates channel))).1).filterMap fun target =>
              (spm.addressOf target.1).map fun address =>
                { address := address
                  channel := channel
                  packetId := target.2
                  payload := data
                  requireAck := false }).getD []

/-- What a broadcast on one port does: it releases what it acquires, and sends
its messages. -/
structure BroadcastEffect
    (before after : ServerPortManager)
    (messages : List SentMessage)
    (effects : List ServerEffect) : Prop where
  heap : IndexRelated (fun _ => Released) before.connections after.connections
  map : after.connectionMap = before.connectionMap
  quiet : Quiet effects
  sent : ∀ address, ∀ frame ∈ sentTo address effects,
    SentInLedger messages address frame

theorem foldl_modify_released
    {change : ClientConnection -> ClientConnection}
    (releases : ∀ conn, Released conn (change conn))
    (refs : List ConnectionRef)
    (connections : List ClientConnection) :
    IndexRelated (fun _ => Released) connections
      (refs.foldl (fun current ref => current.modify ref change)
        connections) := by
  have reflexive : ∀ conn, Released conn conn :=
    fun conn => (SameDelivery.refl conn).released
  induction refs generalizing connections with
  | nil => exact IndexRelated.refl (fun _ => reflexive) _
  | cons ref refs inductionHypothesis =>
      refine IndexRelated.trans (fun _ _ _ _ => Released.trans)
        (IndexRelated.modify (fun _ => reflexive) connections ref
          fun conn _ => releases conn) ?_
      exact inductionHypothesis (connections.modify ref change)

theorem broadcastEffects_quiet
    (spm : ServerPortManager)
    (descriptor : Nat)
    (channel : Channel)
    (data : List UInt8)
    (length : UInt16)
    (outcomes : BroadcastOutcomes)
    (targets : List (ConnectionRef × UInt64)) :
    Quiet (broadcastEffects spm descriptor channel data length outcomes
      targets) := by
  intro effect member
  obtain ⟨part, inParts, inPart⟩ := List.mem_flatten.mp member
  obtain ⟨index, inside, rfl⟩ := List.mem_mapIdx.mp inParts
  split at inPart
  case h_1 => cases inPart
  case h_2 =>
    obtain ⟨frame, -, sent⟩ := List.mem_flatMap.mp inPart
    exact krsNetSendFrame_quiet _ _ _ effect sent

theorem broadcastOnDescriptor_effect
    {spm next : ServerPortManager}
    {descriptor : Nat}
    {channel : Channel}
    {data : List UInt8}
    {length : UInt16}
    {excludeId : UInt32}
    {outcomes : BroadcastOutcomes}
    {effects : List ServerEffect}
    (whole : data.length = length.toNat)
    (sent : broadcastOnDescriptor spm descriptor channel data length excludeId
      outcomes = some (next, effects)) :
    BroadcastEffect spm next (broadcastMessages spm descriptor channel data
      excludeId outcomes) effects := by
  have reflexive : ∀ conn, Released conn conn :=
    fun conn => (SameDelivery.refl conn).released
  have nothing : ∀ messages, BroadcastEffect spm spm messages [] := fun _ =>
    ⟨IndexRelated.refl (fun _ => reflexive) _, rfl, .nil,
      fun _ _ member => by cases member⟩
  unfold broadcastOnDescriptor at sent
  split at sent
  case h_1 =>
    cases sent
    exact nothing _
  case h_2 desc read =>
    split at sent
    case h_1 =>
      cases sent
      exact nothing _
    case h_2 conns stored =>
      obtain ⟨snapshot, taken, same⟩ := Option.map_eq_some_iff.mp sent
      dsimp only at same
      rw [foldl_modifyConnection, foldl_krsConnectionMapRelease] at same
      cases same
      refine ⟨?_, rfl, broadcastEffects_quiet _ _ _ _ _ _ _, ?_⟩
      · refine IndexRelated.trans (fun _ _ _ _ => Released.trans)
          (foldl_modify_released (fun conn => ?_) snapshot spm.connections)
          (foldl_modify_released releaseConnection_released snapshot _)
        exact .inl ⟨⟨rfl, rfl⟩, rfl, rfl, rfl⟩
      · intro address frame member
        obtain ⟨effect, present, framed⟩ := List.mem_filterMap.mp member
        rcases ServerEffect.frameTo_eq_some framed with ⟨port, rfl⟩ |
          ⟨port, ref, entry, rfl⟩
        · obtain ⟨-, index, connection, packetId, listed, drawn, located,
            inFrames⟩ := mem_broadcastEffects whole present
          refine ⟨{ address := address
                    channel := channel
                    packetId := packetId
                    payload := data
                    requireAck := false }, ?_, rfl, inFrames⟩
          rw [broadcastMessages, read, Option.bind_some, stored,
            Option.bind_some, taken, Option.map_some, Option.getD_some]
          refine List.mem_filterMap.mpr ⟨(connection, packetId), ?_, ?_⟩
          · exact List.mem_of_getElem?
              (List.getElem?_zip_eq_some.mpr ⟨listed, drawn⟩)
          · rw [located]
            rfl
        · cases broadcastEffects_quiet _ _ _ _ _ _ _ _ present

/-- A broadcast is to connections, and carries the payload. -/
theorem broadcastMessages_addressed
    {spm : ServerPortManager}
    {descriptor : Nat}
    {channel : Channel}
    {data : List UInt8}
    {excludeId : UInt32}
    {outcomes : BroadcastOutcomes}
    {message : SentMessage}
    (member : message ∈ broadcastMessages spm descriptor channel data
      excludeId outcomes) :
    message.payload = data ∧
      ∃ conn ∈ spm.connections, conn.remoteAddress = message.address := by
  unfold broadcastMessages at member
  cases found : (spm.descriptorList[descriptor]?.bind fun desc =>
    (desc.channelStates channel).connections.bind fun conns =>
      (broadcastSnapshot spm excludeId [] conns).map fun snapshot =>
        (snapshot.zip (broadcastPacketIds channel snapshot.length
          (ensureCounter outcomes.counter
            (desc.channelStates channel))).1).filterMap fun target =>
              (spm.addressOf target.1).map fun address =>
                ({ address := address
                   channel := channel
                   packetId := target.2
                   payload := data
                   requireAck := false } : SentMessage)) with
  | none =>
      rw [found] at member
      cases member
  | some messages =>
      rw [found] at member
      obtain ⟨desc, -, opened⟩ := Option.bind_eq_some_iff.mp found
      obtain ⟨conns, -, counted⟩ := Option.bind_eq_some_iff.mp opened
      obtain ⟨snapshot, -, rfl⟩ := Option.map_eq_some_iff.mp counted
      obtain ⟨target, -, made⟩ := List.mem_filterMap.mp member
      obtain ⟨address, located, rfl⟩ := Option.map_eq_some_iff.mp made
      obtain ⟨conn, read, owner⟩ := Option.map_eq_some_iff.mp located
      exact ⟨rfl, conn, List.mem_of_getElem? read, owner⟩

/-! ## Runs -/

/-- What happens to a server: one of the events of its system, or one port's
part of a broadcast. -/
inductive NetworkEvent
  | server (event : ServerEvent)
  | broadcast (descriptor : Nat) (channel : Channel) (data : List UInt8)
      (length : UInt16) (excludeId : UInt32) (outcomes : BroadcastOutcomes)

/-- The sender of the datagram that arrives. -/
def ServerEvent.source : ServerEvent -> List PortAddress
  | .datagram _ _ remoteAddr _ => [remoteAddr]
  | _ => []

/-- The sender of the datagram that arrives. -/
def NetworkEvent.source : NetworkEvent -> List PortAddress
  | .server event => event.source
  | .broadcast _ _ _ _ _ _ => []

/-- The messages that an event sends. -/
def NetworkEvent.messages (spm : ServerPortManager) :
    NetworkEvent -> List SentMessage
  | .server event => (sentMessage spm event).toList
  | .broadcast descriptor channel data _ excludeId outcomes =>
      broadcastMessages spm descriptor channel data excludeId outcomes

/-- The application passes the length of its data. -/
def NetworkEvent.Sized : NetworkEvent -> Prop
  | .server event => event.Sized
  | .broadcast _ _ data length _ _ => data.length = length.toNat

instance : (event : NetworkEvent) -> Decidable event.Sized
  | .server event => inferInstanceAs (Decidable event.Sized)
  | .broadcast _ _ _ _ _ _ => inferInstanceAs (Decidable (_ = _))

/-- The state after an event, and its effects. -/
def networkEffect (spm : ServerPortManager) :
    NetworkEvent -> Option (ServerPortManager × List ServerEffect)
  | .server event => serverEffect spm event
  | .broadcast descriptor channel data length excludeId outcomes =>
      broadcastOnDescriptor spm descriptor channel data length excludeId
        outcomes

/-- A server, the senders of the datagrams that it has received, and the
messages that it has sent. -/
structure NetworkRun where
  run : ServerRun
  heard : List PortAddress := []
  ledger : List SentMessage := []

/-- One step. -/
def networkStep (current : NetworkRun) (event : NetworkEvent) :
    Option NetworkRun :=
  (networkEffect current.run.spm event).map fun next =>
    { run := { spm := next.1, log := current.run.log ++ next.2 }
      heard := current.heard ++ event.source
      ledger := current.ledger ++ event.messages current.run.spm }

/-- The beginning. -/
def networkStart (descriptorList : List UDPSocketDescriptor) : NetworkRun :=
  { run := runStart descriptorList }

/-- The invariant of all runs. -/
structure NetworkInvariant (current : NetworkRun) : Prop where
  registers : RunHolds
    (fun _ _ conn => RegistersKnown current.ledger conn) current.run
  connections : ∀ conn ∈ current.run.spm.connections,
    conn.remoteAddress ∈ current.heard
  messages : ∀ message ∈ current.ledger,
    message.address ∈ current.heard ∧ message.payload.length < 2 ^ 16
  sent : ∀ address, ∀ frame ∈ sentTo address current.run.log,
    SentInLedger current.ledger address frame ∨
      IsAnswer frame ∧ address ∈ current.heard
  answers : ∀ address,
    (sentTo address current.run.log).countP isAnswerFrame ≤
      current.heard.count address

section Steps

variable {current : NetworkRun}

theorem SentInLedger.mono
    {ledger more : List SentMessage}
    {address : PortAddress}
    {frame : List UInt8}
    (sent : SentInLedger ledger address frame)
    (grows : ∀ message ∈ ledger, message ∈ more) :
    SentInLedger more address frame := by
  obtain ⟨message, member, rest⟩ := sent
  exact ⟨message, grows message member, rest⟩

theorem RunHolds.registersMore
    {ledger : List SentMessage}
    {run : ServerRun}
    (registers : RunHolds (fun _ _ conn => RegistersKnown ledger conn) run)
    (more : List SentMessage) :
    RunHolds (fun _ _ conn => RegistersKnown (ledger ++ more) conn) run where
  refs := registers.refs
  unborn := registers.unborn
  connections := fun ref conn read =>
    (registers.connections ref conn read).mono
      fun _ member => List.mem_append_left _ member

/-- An event that sends messages. -/
theorem NetworkInvariant.sends
    (invariant : NetworkInvariant current)
    {next : ServerPortManager}
    {effects : List ServerEffect}
    {more : List SentMessage}
    (registers : RunHolds
      (fun _ _ conn => RegistersKnown (current.ledger ++ more) conn)
      { spm := next, log := current.run.log ++ effects })
    (identity : IndexRelated (fun _ => SameIdentity)
      current.run.spm.connections next.connections)
    (addressed : ∀ message ∈ more, message.payload.length < 2 ^ 16 ∧
      ∃ conn ∈ current.run.spm.connections,
        conn.remoteAddress = message.address)
    (sent : ∀ address, ∀ frame ∈ sentTo address effects,
      SentInLedger (current.ledger ++ more) address frame) :
    NetworkInvariant
      { run := { spm := next, log := current.run.log ++ effects }
        heard := current.heard
        ledger := current.ledger ++ more } where
  registers := registers
  connections := addresses_of_identity identity invariant.connections
  messages := by
    intro message member
    rcases List.mem_append.mp member with old | new
    · exact invariant.messages message old
    · obtain ⟨short, conn, present, owner⟩ := addressed message new
      exact ⟨owner ▸ invariant.connections conn present, short⟩
  sent := by
    intro address frame member
    rw [sentTo_append] at member
    rcases List.mem_append.mp member with old | new
    · exact (invariant.sent address frame old).imp_left
        (·.mono fun _ present => List.mem_append_left _ present)
    · exact .inl (sent address frame new)
  answers := by
    intro address
    have none : (sentTo address effects).countP isAnswerFrame = 0 := by
      refine List.countP_eq_zero.mpr fun frame member => ?_
      obtain ⟨message, present, -, inFrames⟩ := sent address frame member
      have short : message.payload.length < 2 ^ 16 := by
        rcases List.mem_append.mp present with old | new
        · exact (invariant.messages message old).2
        · exact (addressed message new).1
      rw [(wireFrames_wellFormed short inFrames).2]
      exact Bool.false_ne_true
    rw [sentTo_append, List.countP_append, none, Nat.add_zero]
    exact invariant.answers address

/-- A datagram is handled. -/
theorem NetworkInvariant.datagram
    (invariant : NetworkInvariant current)
    {descriptor : Nat}
    {bytes : List UInt8}
    {remoteAddr : PortAddress}
    {input : HandlerInput}
    {next : ServerPortManager}
    {effects : List ServerEffect}
    (handled : handleDatagram current.run.spm descriptor bytes remoteAddr
      input = some (next, effects)) :
    NetworkInvariant
      { run := { spm := next, log := current.run.log ++ effects }
        heard := current.heard ++ [remoteAddr]
        ledger := current.ledger } where
  registers := invariant.registers.datagram
    (registersKnown_connectionInvariant current.ledger)
    (handleDatagram_effect handled)
  connections := by
    have heard : ∀ conn ∈ current.run.spm.connections,
        conn.remoteAddress ∈ current.heard ++ [remoteAddr] :=
      fun conn member =>
        List.mem_append_left _ (invariant.connections conn member)
    rcases handleDatagram_addresses handled with same | ⟨conn, grown, owner⟩
    · exact addresses_of_identity same heard
    · intro other member
      dsimp only at member
      rw [grown] at member
      rcases List.mem_append.mp member with old | new
      · exact heard other old
      · rw [List.mem_singleton.mp new, owner]
        exact List.mem_append_right _ List.mem_cons_self
  messages := fun message member =>
    ⟨List.mem_append_left _ (invariant.messages message member).1,
      (invariant.messages message member).2⟩
  sent := by
    intro address frame member
    rw [sentTo_append] at member
    rcases List.mem_append.mp member with old | new
    · exact (invariant.sent address frame old).imp_right fun answer =>
        ⟨answer.1, List.mem_append_left _ answer.2⟩
    · rcases handleDatagram_answersOnce handled with silent |
        ⟨answered, answer, sent⟩
      · rw [silent address] at new
        cases new
      · rw [sent address] at new
        split at new
        case isTrue same =>
          rw [List.mem_singleton.mp new]
          exact .inr ⟨answer, List.mem_append_right _ (by simp [same])⟩
        case isFalse => cases new
  answers := by
    intro address
    have once : (sentTo address effects).countP isAnswerFrame ≤
        [remoteAddr].count address := by
      rcases handleDatagram_answersOnce handled with silent |
        ⟨answered, answer, sent⟩
      · rw [silent address]
        exact Nat.zero_le _
      · rw [sent address, List.count_singleton]
        split
        case isTrue same =>
          rw [same, if_pos (beq_self_eq_true address)]
          exact List.countP_le_length
        case isFalse => exact Nat.zero_le _
    rw [sentTo_append, List.countP_append, List.count_append]
    exact Nat.add_le_add (invariant.answers address) once

/-- The application sends, or the retransmit thread ticks. -/
theorem NetworkInvariant.server
    (invariant : NetworkInvariant current)
    {event : ServerEvent}
    (sized : event.Sized)
    {next : ServerPortManager}
    {effects : List ServerEffect}
    (taken : serverEffect current.run.spm event = some (next, effects))
    (unheard : event.source = [])
    (identity : IndexRelated (fun _ => SameIdentity)
      current.run.spm.connections next.connections) :
    NetworkInvariant
      { run := { spm := next, log := current.run.log ++ effects }
        heard := current.heard
        ledger := current.ledger ++
          (sentMessage current.run.spm event).toList } := by
  have recorded : RecordedIn (current.ledger ++
      (sentMessage current.run.spm event).toList) current.run event :=
    ⟨sized, fun message sent => List.mem_append_right _ (by simp [sent])⟩
  have registers := invariant.registers.registersMore
    (sentMessage current.run.spm event).toList
  refine invariant.sends ?_ identity ?_ ?_
  · exact registers.step (registersKnown_connectionInvariant _) recorded
      (by rw [serverStep, taken]; rfl)
  · intro message member
    have sent := Option.mem_toList.mp member
    cases event with
    | datagram => cases sent
    | tick => cases sent
    | send connectionId channel data length requireAck clock allocations =>
        obtain ⟨entry, -, found⟩ := Option.bind_eq_some_iff.mp sent
        obtain ⟨target, read, opened⟩ := Option.bind_eq_some_iff.mp found
        obtain ⟨desc, -, rfl⟩ := Option.map_eq_some_iff.mp opened
        refine ⟨?_, target, List.mem_of_getElem? read, rfl⟩
        have whole : data.length = length.toNat := sized
        dsimp only
        rw [whole]
        exact length.toNat_lt
  · intro address frame sent
    rcases serverEffect_sentInLedger (fun conn member => by
        obtain ⟨ref, read⟩ := List.getElem?_of_mem member
        exact registers.connections ref conn read) recorded taken sent with
      known | ⟨descriptor, bytes, input, rfl, -⟩
    · exact known
    · cases unheard

/-- One port's part of a broadcast. -/
theorem NetworkInvariant.broadcast
    (invariant : NetworkInvariant current)
    {next : ServerPortManager}
    {effects : List ServerEffect}
    {messages : List SentMessage}
    (effect : BroadcastEffect current.run.spm next messages effects)
    (addressed : ∀ message ∈ messages, message.payload.length < 2 ^ 16 ∧
      ∃ conn ∈ current.run.spm.connections,
        conn.remoteAddress = message.address) :
    NetworkInvariant
      { run := { spm := next, log := current.run.log ++ effects }
        heard := current.heard
        ledger := current.ledger ++ messages } := by
  have registers := invariant.registers.registersMore messages
  refine invariant.sends ?_
    (effect.heap.mono fun _ _ _ released => released.identity) addressed
    fun address frame sent => (effect.sent address frame sent).mono
      fun _ member => List.mem_append_right _ member
  refine registers.datagram (registersKnown_connectionInvariant _)
    ⟨.inl (effect.heap.mono fun _ _ _ released => .inl released), ?_,
      effect.quiet⟩
  intro refs
  rw [effect.map]
  exact refs.of_length effect.heap.1

theorem NetworkInvariant.step
    (invariant : NetworkInvariant current)
    {event : NetworkEvent}
    (sized : event.Sized)
    {next : NetworkRun}
    (taken : networkStep current event = some next) :
    NetworkInvariant next := by
  obtain ⟨⟨spm, effects⟩, effect, rfl⟩ := Option.map_eq_some_iff.mp taken
  have heardNothing : ∀ ledger : List SentMessage,
      NetworkInvariant
        { run := { spm := spm, log := current.run.log ++ effects }
          heard := current.heard
          ledger := ledger } ->
      NetworkInvariant
        { run := { spm := spm, log := current.run.log ++ effects }
          heard := current.heard ++ []
          ledger := ledger } := by
    intro ledger invariant
    rw [List.append_nil]
    exact invariant
  cases event with
  | server event =>
      cases event with
      | datagram descriptor bytes remoteAddr input =>
          change NetworkInvariant
            { run := { spm := spm, log := current.run.log ++ effects }
              heard := current.heard ++ [remoteAddr]
              ledger := current.ledger ++ [] }
          rw [List.append_nil]
          exact invariant.datagram effect
      | send connectionId channel data length requireAck clock allocations =>
          refine heardNothing _ (@server _ invariant
            (.send connectionId channel data length requireAck clock
              allocations) sized _ _ effect rfl ?_)
          obtain ⟨returned, sends, same⟩ := Option.map_eq_some_iff.mp effect
          cases same
          exact (krsServerSend_calm sends).heap
      | tick clock =>
          refine heardNothing _
            (@server _ invariant (.tick clock) trivial _ _ effect rfl ?_)
          cases effect
          exact retransmitTick_identity _ clock
  | broadcast descriptor channel data length excludeId outcomes =>
      have whole : data.length = length.toNat := sized
      refine heardNothing _ (invariant.broadcast
        (broadcastOnDescriptor_effect whole effect) fun message member => ?_)
      obtain ⟨same, owner⟩ := broadcastMessages_addressed member
      refine ⟨?_, owner⟩
      rw [same, whole]
      exact length.toNat_lt

end Steps

theorem NetworkInvariant.start (descriptorList : List UDPSocketDescriptor) :
    NetworkInvariant (networkStart descriptorList) where
  registers := RunHolds.start _ descriptorList
  connections := List.forall_mem_nil _
  messages := List.forall_mem_nil _
  sent := fun _ => List.forall_mem_nil _
  answers := fun _ => Nat.zero_le _

/-- In every run of a server, whatever it receives, every frame that it sends to
an address is accepted by the parser and fits into a datagram; it belongs to a
message that was sent to a connection of this address, or is an answer of at
most 18 bytes; and the address is one that the server has heard from.  There are
no more answers to an address than datagrams from it.  A run ends where a
fragment would leave the arrays of its reassembler. -/
theorem server_traffic_accounted
    (descriptorList : List UDPSocketDescriptor)
    {events : List NetworkEvent}
    (sized : ∀ event ∈ events, event.Sized)
    {final : NetworkRun}
    (reached : run networkStep (networkStart descriptorList) events =
      some final)
    (address : PortAddress) :
    (∀ frame ∈ sentTo address final.run.log,
      WellFormed frame ∧ address ∈ final.heard ∧
        (SentInLedger final.ledger address frame ∧
            isAnswerFrame frame = false ∨
          IsAnswer frame ∧ frame.length ≤ 18 ∧
            isAnswerFrame frame = true)) ∧
      (sentTo address final.run.log).countP isAnswerFrame ≤
        final.heard.count address := by
  have invariant : NetworkInvariant final := run_induction
    (fun _ _ _ invariant fits taken => invariant.step fits taken)
    (NetworkInvariant.start descriptorList) (runAllowed_of_forall sized _)
    reached
  refine ⟨fun frame sent => ?_, invariant.answers address⟩
  rcases invariant.sent address frame sent with
    ⟨message, member, owner, inFrames⟩ | ⟨answer, heard⟩
  · obtain ⟨heard, short⟩ := invariant.messages message member
    obtain ⟨formed, type⟩ := wireFrames_wellFormed short inFrames
    exact ⟨formed, owner ▸ heard,
      .inl ⟨⟨message, member, owner, inFrames⟩, type⟩⟩
  · obtain ⟨formed, small, type⟩ := answer.parsed
    exact ⟨formed, heard, .inr ⟨answer, small, type⟩⟩

/-- A client connects twice and subscribes, the server sends it a byte reliably
and broadcasts another one, and the first byte is sent again. -/
def trafficEvents : List NetworkEvent :=
  [.server (connectFrom 7 0), .server (connectFrom 7 1),
    .server (.datagram 0
      (serializeToBuffer ((krsFrameBuilderCreate 0 .subscribe).setData
        (some [10]) 1) 64) (clientAddress 7) { now := 2 }),
    .server (sendByte 10 3), .broadcast 0 10 [7] 1 0 {},
    .server (tickAt 2000)]

/-- Two answers to three datagrams, and three frames of two messages. -/
theorem sample_traffic_accounted :
    ∃ final, run networkStep (networkStart [listeningPort]) trafficEvents =
        some final ∧
      (sentTo (clientAddress 7) final.run.log).map isAnswerFrame =
        [true, true, false, false, false] ∧
      (∀ frame ∈ sentTo (clientAddress 7) final.run.log,
        WellFormed frame) ∧
      (sentTo (clientAddress 7) final.run.log).countP isAnswerFrame ≤
        final.heard.count (clientAddress 7) := by
  have outcome : (run networkStep (networkStart [listeningPort])
      trafficEvents).map (fun final =>
        (sentTo (clientAddress 7) final.run.log).map isAnswerFrame) =
      some [true, true, false, false, false] := by
    decide +kernel
  obtain ⟨final, reached, answers⟩ := Option.map_eq_some_iff.mp outcome
  obtain ⟨frames, few⟩ := server_traffic_accounted [listeningPort]
    (by decide) reached (clientAddress 7)
  exact ⟨final, reached, answers, fun frame sent => (frames frame sent).1,
    few⟩

end Kronos
