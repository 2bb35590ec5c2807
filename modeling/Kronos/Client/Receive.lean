import Kronos.Client.Connection
import Kronos.Server.Retransmit

/-!
# The client's receive thread and its subscription calls

`s_client_recv_thread`, `krs_client_start_receive`, `krs_client_unsubscribe`
and `krs_client_subscribe` of `client_connection.c`.  A subscribe waits in one
of two loops: with a receive thread it polls a flag that the thread sets, and
without one it reads the socket itself.  Each round of a loop is one function
here.
-/

namespace Kronos

open Library

/-- What the client does outside its own state. -/
inductive ClientEffect
  | netSend (frame : List UInt8)
  | message (callback : Callback) (channel : Channel) (connectionId : UInt32)
      (data : List UInt8) (dataLength : Nat)
  | deliveryFailure (callback : Callback) (connectionId : UInt32)
      (channel : Channel) (packetId : UInt64)
  deriving DecidableEq, Repr

/-- `krs_net_send_frame` of one frame. -/
def clientSendFrame (frame : List UInt8) : List ClientEffect :=
  if frame.length = 0 then [] else [.netSend frame]

/-! ## The receive thread -/

/-- `KRS_CLIENT_HEARTBEAT_INTERVAL_MS`. -/
def krsClientHeartbeatIntervalMs : Nat := 5000

/-- Capacity of the buffers that the receive thread passes to
`krs_ack_tracker_check_timeouts`. -/
def clientCheckCapacity : Nat := 16

/-- The heartbeat of the receive thread, when it is due. -/
def clientHeartbeat (conn : ServerConnection) (now : UInt64) (built : Bool) :
    ServerConnection × List ClientEffect :=
  if (now - conn.lastHeartbeatSentMs).toNat ≥
      krsClientHeartbeatIntervalMs then
    ({ conn with lastHeartbeatSentMs := now },
      if built then
        clientSendFrame
          (serializeToBuffer (krsFrameBuilderCreate 1 .heartbeat) 32)
      else [])
  else (conn, [])

/-- The frame resent for a reported retry, looked up by packet id. -/
def clientRetryFrame (tracker : AckTracker) (retry : Retry) :
    Option (List UInt8) :=
  match krsAckTrackerGetRetryFrame tracker retry.packetId with
  | none => none
  | some (data, size) =>
      if size > 0 ∧ size ≤ kronosBufferSize then some (data.take size)
      else none

/-- The retransmissions of the receive thread and its failure reports. -/
def clientRetransmit (conn : ServerConnection) (now : UInt64) :
    ServerConnection × List ClientEffect :=
  match conn.ackTracker with
  | none => (conn, [])
  | some tracker =>
      let checked := krsAckTrackerCheckTimeouts tracker now
        clientCheckCapacity clientCheckCapacity
      let losses : RetryQueue :=
        { pending := []
          anyFastRetry := checked.1.retries.any Retry.wasFast
          anyTimeoutRetry := checked.1.retries.any fun retry =>
            !retry.wasFast }
      ({ conn with
          ackTracker := some checked.2
          congestion := conn.congestion.map (reactToLoss losses) },
        (checked.1.retries.filterMap (clientRetryFrame checked.2)).flatMap
            clientSendFrame ++
          match conn.deliveryFailureCallback with
          | none => []
          | some callback =>
              checked.1.dropped.map fun packet =>
                .deliveryFailure callback conn.connectionId packet.2 packet.1)

/-- The `MESSAGE_ACK` branch of the receive thread: the tracker and the
controller, and then the flag of a waiting subscribe. -/
def clientAcknowledge
    (conn : ServerConnection)
    (frame : Frame)
    (now : UInt64) : ServerConnection :=
  let tracked : ServerConnection :=
    match conn.ackTracker with
    | none => conn
    | some tracker =>
        let received := krsAckTrackerReceiveRtt tracker frame.packetId
          frame.channel now
        match received.1, conn.congestion with
        | some rttMs, some cc =>
            let acked := krsCongestionOnAck cc (rttMs : ℚ)
            { conn with
              congestion := some acked
              ackTracker := some (krsAckTrackerSetTimeout received.2
                ⌊krsCongestionGetRto acked⌋₊) }
        | _, _ => { conn with ackTracker := some received.2 }
  if tracked.pendingSubscribePid ≠ 0 ∧
      frame.packetId = tracked.pendingSubscribePid then
    { tracked with subscribeAckReceived := true }
  else tracked

/-- Outcomes of the allocations for one received frame: the reassembler, its
session, and the builder of the acknowledgement. -/
structure ReceiveAllocations where
  reassembler : Bool := true
  session : Bool := true
  ack : Bool := true
  deriving DecidableEq, Repr

/-- Acknowledge a message if that is asked for, and call back. -/
def clientDeliver
    (conn : ServerConnection)
    (frame : Frame)
    (delivery : Delivery)
    (ackBuilt : Bool) : List ClientEffect :=
  (if delivery.ackRequired ∧ ackBuilt = true then
      clientSendFrame (ackResponse frame.channel frame.packetId)
    else []) ++
    match conn.callback with
    | none => []
    | some callback =>
        [.message callback frame.channel conn.connectionId delivery.data
          delivery.dataLength]

/-- A frame on a subscribed channel; `none` stands for an access of the
reassembler outside its arrays. -/
def clientAppFrame
    (conn : ServerConnection)
    (frame : Frame)
    (now : UInt64)
    (allocations : ReceiveAllocations) :
    Option (ServerConnection × List ClientEffect) :=
  if !hasFlag frame.presenceFlags .fragmentInfo then
    some (conn, clientDeliver conn frame
      { data := frame.body
        dataLength := frame.body.length
        ackRequired := ackRequested frame } allocations.ack)
  else
    match conn.reassembler, allocations.reassembler with
    | none, false => some (conn, [])
    | stored, _ =>
        (krsReassemblerFeed (stored.getD krsReassemblerCreate) frame now
            allocations.session).map fun fed =>
          let next := { conn with reassembler := some fed.1 }
          (next,
            if fed.2.complete then
              clientDeliver next frame
                { data := fed.2.data
                  dataLength := fed.2.dataLength % 2 ^ 16
                  ackRequired := fed.2.ackRequired } allocations.ack
            else [])

/-- What `recvfrom` into a buffer of the given size hands over: nothing for an
empty datagram or one that does not fit. -/
def recvFrom (datagram : List UInt8) (size : Nat) : Option (List UInt8) :=
  if datagram.length = 0 ∨ datagram.length > size then none
  else some datagram

/-- The rest of a round of the receive thread, from `recvfrom` on. -/
def clientReceive
    (conn : ServerConnection)
    (datagram : List UInt8)
    (now : UInt64)
    (allocations : ReceiveAllocations) :
    Option (ServerConnection × List ClientEffect) :=
  match recvFrom datagram kronosBufferSize with
  | none => some (conn, [])
  | some raw =>
      let frame := krsFrameCreate raw kronosBufferSize
      if frame.protocolChar ≠ 0x4B then some (conn, [])
      else if frame.frameType = FrameType.messageAck.code then
        some (clientAcknowledge conn frame now, [])
      else if frame.channel < 10 then some (conn, [])
      else if !conn.subscribed frame.channel then some (conn, [])
      else clientAppFrame conn frame now allocations

/-- What becomes of a datagram: it does nothing; it is an acknowledgement; it
is a whole message; or a fragment that is fed to the reassembler. -/
inductive ClientReceived
    (conn : ServerConnection)
    (datagram : List UInt8)
    (now : UInt64)
    (allocations : ReceiveAllocations)
    (result : ServerConnection × List ClientEffect) : Prop
  | idle
      (outcome : (conn, []) = result)
  | acknowledged
      (frame : Frame)
      (parsed : krsFrameCreate datagram kronosBufferSize = frame)
      (accepted : frame.protocolChar = 0x4B)
      (type : frame.frameType = FrameType.messageAck.code)
      (outcome : (clientAcknowledge conn frame now, []) = result)
  | whole
      (frame : Frame)
      (outcome : (conn, clientDeliver conn frame
        { data := frame.body
          dataLength := frame.body.length
          ackRequired := ackRequested frame } allocations.ack) = result)
  | fed
      (frame : Frame)
      (parsed : krsFrameCreate datagram kronosBufferSize = frame)
      (arrived : recvFrom datagram kronosBufferSize = some datagram)
      (accepted : frame.protocolChar = 0x4B)
      (type : frame.frameType ≠ FrameType.messageAck.code)
      (application : ¬ frame.channel < 10)
      (subscribed : conn.subscribed frame.channel = true)
      (flagged : hasFlag frame.presenceFlags .fragmentInfo = true)
      (fedTo : Reassembler)
      (reassembled : ReassembleResult)
      (outcome : ({ conn with reassembler := some fedTo },
        if reassembled.complete then
          clientDeliver { conn with reassembler := some fedTo } frame
            { data := reassembled.data
              dataLength := reassembled.dataLength % 2 ^ 16
              ackRequired := reassembled.ackRequired } allocations.ack
        else []) = result)

theorem clientReceive_cases
    {conn : ServerConnection}
    {datagram : List UInt8}
    {now : UInt64}
    {allocations : ReceiveAllocations}
    {result : ServerConnection × List ClientEffect}
    (received : clientReceive conn datagram now allocations = some result) :
    ClientReceived conn datagram now allocations result := by
  unfold clientReceive at received
  split at received
  case h_1 => exact .idle (Option.some.inj received)
  case h_2 raw arrived =>
    obtain rfl : raw = datagram := by
      unfold recvFrom at arrived
      split at arrived
      case isTrue => cases arrived
      case isFalse => exact (Option.some.inj arrived).symm
    dsimp only at received
    split at received
    case isTrue => exact .idle (Option.some.inj received)
    case isFalse accepted =>
      split at received
      case isTrue type =>
        exact .acknowledged _ rfl (not_not.mp accepted) type
          (Option.some.inj received)
      case isFalse type =>
        split at received
        case isTrue => exact .idle (Option.some.inj received)
        case isFalse application =>
          split at received
          case isTrue => exact .idle (Option.some.inj received)
          case isFalse subscribed =>
            unfold clientAppFrame at received
            split at received
            case isTrue => exact .whole _ (Option.some.inj received)
            case isFalse flagged =>
              split at received
              case h_1 => exact .idle (Option.some.inj received)
              case h_2 =>
                obtain ⟨fed, -, outcome⟩ := Option.map_eq_some_iff.mp received
                exact .fed _ rfl arrived (not_not.mp accepted) type
                  application (by simpa using subscribed)
                  (by simpa using flagged) fed.1 fed.2 outcome

/-- `krs_client_start_receive`. -/
def krsClientStartReceive (conn : ServerConnection) (created : Bool) :
    ServerConnection × KronosResult :=
  if !conn.connected then
    (conn, .wMsg .clientNotConnected "not connected")
  else if conn.recvThread then
    (conn, .wMsg .alreadyInitialized "already receiving")
  else if !created then
    (conn, .wMsg .platformWindowsSocket "CreateThread failed")
  else ({ conn with recvThread := true }, .suc)

/-! ## Subscriptions -/

/-- `krs_client_unsubscribe`. -/
def krsClientUnsubscribe
    (conn : ServerConnection)
    (channel : Channel)
    (built : Bool) :
    ServerConnection × KronosResult × List ClientEffect :=
  if !conn.connected then
    (conn, .wMsg .clientNotConnected "not connected", [])
  else if !built then
    (conn, .wMsg .memoryAllocation "builder alloc failed", [])
  else
    let frame := unsubscribeFrame channel (conn.nextPacketId 0)
    let numbered := conn.advanceCounter 0
    if frame.length = 0 then
      (numbered, .wMsg .bufferTooSmall "serialize failed", [])
    else
      ({ numbered with
          subscribed := Function.update numbered.subscribed channel false },
        .suc, clientSendFrame frame)

/-- `krs_client_subscribe` up to its wait loop: an error, or the packet id it
waits for and the frame it has sent. -/
def krsClientSubscribe
    (conn : ServerConnection)
    (channel : Channel)
    (now : UInt64)
    (allocations : SendAllocations) :
    ServerConnection × Except KronosResult (UInt64 × List UInt8) :=
  if !conn.connected then
    (conn, .error (.wMsg .clientNotConnected "not connected"))
  else if channel < 10 then
    (conn, .error (.wMsg .invalidParameter "channel must be >= 10"))
  else if !allocations.builder then
    (conn, .error (.wMsg .memoryAllocation "builder alloc failed"))
  else
    let packetId := conn.nextPacketId 0
    let frame := subscribeFrame channel packetId
    let numbered := conn.advanceCounter 0
    if frame.length = 0 then
      (numbered, .error (.wMsg .bufferTooSmall "serialize failed"))
    else if numbered.recvThread then
      let tracked := (numbered.ensureTracker allocations.tracker).expect
        packetId 0 (fun _ => now) allocations.entry [(frame, frame.length)]
      ({ tracked with
          pendingSubscribePid := packetId
          subscribeAckReceived := false },
        .ok (packetId, frame))
    else (numbered, .ok (packetId, frame))

/-- The end of a successful subscribe. -/
def subscribeSucceeded (conn : ServerConnection) (channel : Channel) :
    ServerConnection :=
  let settled :=
    if conn.recvThread then
      { conn with pendingSubscribePid := 0, subscribeAckReceived := false }
    else conn
  { settled with
    subscribed := Function.update settled.subscribed channel true }

/-- One round of the wait loop with a receive thread: whether the subscribe
succeeds now. -/
def subscribePoll (conn : ServerConnection) : Bool :=
  conn.subscribeAckReceived

/-- One round of the wait loop without a receive thread. -/
def subscribeReceive (packetId : UInt64) (datagram : List UInt8) : Bool :=
  match recvFrom datagram 128 with
  | none => false
  | some raw =>
      let reply := krsFrameCreate raw 64
      reply.protocolChar == 0x4B &&
        (reply.frameType == FrameType.messageAck.code &&
          reply.packetId == packetId)

/-- The deadline has passed: the subscribe ends with `clientTimeout`. -/
def subscribeTimeout (conn : ServerConnection) :
    ServerConnection × KronosResult :=
  (if conn.recvThread then
      { conn with pendingSubscribePid := 0, subscribeAckReceived := false }
    else conn,
    .wMsg .clientTimeout "subscribe ACK timeout")

end Kronos
