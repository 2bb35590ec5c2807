import Kronos.Server.Send

/-!
# The client's connection

`ServerConnection` of `client_connection.c` and the sending half of its
functions.  A call returns the connection after it, its result, and the
datagrams it hands to `krs_net_send_frame`, in order.  Clock readings and
allocation outcomes are arguments.
-/

namespace Kronos

open Library

/-- `ServerConnection_t`. -/
structure ServerConnection where
  connectionId : UInt32
  connected : Bool := true
  packetCounter : Option PacketCounter := some krsPacketCounterCreate
  recvThread : Bool := false
  callback : Option Callback := none
  reassembler : Option Reassembler := none
  ackTracker : Option AckTracker := none
  congestion : Option CongestionController := none
  lastHeartbeatSentMs : UInt64 := 0
  deliveryFailureCallback : Option Callback := none
  pendingSubscribePid : UInt64 := 0
  subscribeAckReceived : Bool := false
  subscribed : Channel -> Bool := fun _ => false

namespace ServerConnection

/-- The packet id of the next frame on a channel; zero without a counter. -/
def nextPacketId (conn : ServerConnection) (channel : Channel) : UInt64 :=
  match conn.packetCounter with
  | none => 0
  | some counter => (krsPacketCounterNext counter channel).1

/-- Issue the next packet id of a channel. -/
def advanceCounter (conn : ServerConnection) (channel : Channel) :
    ServerConnection :=
  { conn with
    packetCounter := conn.packetCounter.map fun counter =>
      (krsPacketCounterNext counter channel).2 }

/-- The controller of a connection, created by its first reliable send. -/
def ensureCongestion (conn : ServerConnection) (created : Bool) :
    ServerConnection :=
  { conn with
    congestion :=
      match conn.congestion with
      | some cc => some cc
      | none => if created then some krsCongestionCreate else none }

/-- The tracker of a connection, created on demand. -/
def ensureTracker (conn : ServerConnection) (created : Bool) :
    ServerConnection :=
  { conn with
    ackTracker :=
      match conn.ackTracker with
      | some tracker => some tracker
      | none => if created then some (krsAckTrackerCreate 1000 5) else none }

/-- Take a slot of the congestion window: `none` when it is full. -/
def takeSlot (conn : ServerConnection) : Option ServerConnection :=
  match conn.congestion with
  | none => some conn
  | some cc =>
      if krsCongestionCanSend cc then
        some { conn with congestion := some (krsCongestionOnSend cc) }
      else none

/-- Register the frames of a message, if there is a tracker. -/
def expect
    (conn : ServerConnection)
    (packetId : UInt64)
    (channel : Channel)
    (clock : Nat -> UInt64)
    (allocated : Nat -> Bool)
    (frames : List (List UInt8 × Nat)) : ServerConnection :=
  { conn with
    ackTracker := conn.ackTracker.map fun tracker =>
      expectFrames tracker packetId channel clock allocated 0 frames }

end ServerConnection

/-- `krs_net_send_frame` on the client's socket: an empty frame is not
sent. -/
def clientNetSend (frames : List (List UInt8)) : List (List UInt8) :=
  frames.filter fun frame => decide (frame.length ≠ 0)

/-- The part of `krs_client_send` behind the window check. -/
def sendNumbered
    (conn : ServerConnection)
    (packetId : UInt64)
    (channel : Channel)
    (data : List UInt8)
    (length : UInt16)
    (requireAck : Bool)
    (clock : Nat -> UInt64)
    (allocations : SendAllocations) :
    ServerConnection × KronosResult × List (List UInt8) :=
  let tracked :=
    if requireAck then conn.ensureTracker allocations.tracker else conn
  match messageFrames channel packetId data length requireAck allocations
      .bufferTooSmall with
  | .error result =>
      (if length.toNat ≤ krsMaxPayloadPerFragment then conn else tracked,
        result, [])
  | .ok frames =>
      (if requireAck then
          tracked.expect packetId channel clock allocations.entry frames
        else tracked,
        .suc, clientNetSend (frames.map fun frame => frame.1.take frame.2))

/-- `krs_client_send`. -/
def krsClientSend
    (conn : ServerConnection)
    (channel : Channel)
    (data : List UInt8)
    (length : UInt16)
    (requireAck : Bool)
    (clock : Nat -> UInt64)
    (allocations : SendAllocations) :
    ServerConnection × KronosResult × List (List UInt8) :=
  if !conn.connected then
    (conn, .wMsg .clientNotConnected "not connected", [])
  else
    let packetId := conn.nextPacketId channel
    let numbered := conn.advanceCounter channel
    let ready :=
      if requireAck then numbered.ensureCongestion allocations.congestion
      else numbered
    let admitted := if requireAck then ready.takeSlot else some ready
    match admitted with
    | none =>
        (ready,
          .wMsg .serverCongestionWindowFull "congestion window full", [])
    | some taken =>
        sendNumbered taken packetId channel data length requireAck clock
          allocations

/-- The frame that `krs_client_subscribe` sends. -/
def subscribeFrame (channel : Channel) (packetId : UInt64) : List UInt8 :=
  serializeToBuffer
    ((((krsFrameBuilderCreate 0 .subscribe).setData (some [channel])
      1).setFlag .ackRequired).setPacketId packetId) 64

/-- The frame that `krs_client_unsubscribe` sends. -/
def unsubscribeFrame (channel : Channel) (packetId : UInt64) : List UInt8 :=
  serializeToBuffer
    (((krsFrameBuilderCreate 0 .unsubscribe).setData (some [channel])
      1).setPacketId packetId) 64

end Kronos
