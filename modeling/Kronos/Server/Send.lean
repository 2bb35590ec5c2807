import Kronos.Fragment.Split
import Kronos.Server.Handlers

/-!
# Sending from the server

`krsServerSend` of `server_broadcast.c`.  A reliable send takes one slot of the
connection's congestion window and registers every frame of the message with
the connection's ack tracker.
-/

namespace Kronos

open Library

/-- Outcomes of the allocations of a send: packet counter, tracker,
controller, frame builder, the splitter's, and the registrations that fail. -/
structure SendAllocations where
  counter : Bool := true
  tracker : Bool := true
  congestion : Bool := true
  builder : Bool := true
  split : SplitAllocations := {}
  failedEntries : List Nat := []
  deriving DecidableEq, Repr

/-- The registration with this number has its memory. -/
def SendAllocations.entry (allocations : SendAllocations) (index : Nat) :
    Bool := !allocations.failedEntries.contains index

/-- `KRS_DEFAULT_MTU` frames of a message, or the error that ends the send.
Each frame is the memory handed to the tracker, with its recorded size. -/
def messageFrames
    (channel : Channel)
    (packetId : UInt64)
    (data : List UInt8)
    (length : UInt16)
    (requireAck : Bool)
    (allocations : SendAllocations)
    (serializeError : KronosError) :
    Except KronosResult (List (List UInt8 × Nat)) :=
  if length.toNat ≤ krsMaxPayloadPerFragment then
    if !allocations.builder then
      .error (.wMsg .memoryAllocation "builder alloc failed")
    else
      let builder :=
        ((krsFrameBuilderCreate channel .basicMessage).setPacketId
          packetId).setData (some data) length
      let flagged :=
        if requireAck then builder.setFlag .ackRequired else builder
      let serialized := krsFrameBuilderSerialize flagged
        (List.replicate kronosBufferSize 0)
      if serialized.1 = 0 then
        .error (.wMsg serializeError "serialize failed")
      else .ok [(serialized.2, serialized.1)]
  else
    let frag := krsFragmentSplit channel .basicMessage packetId data
      length.toNat krsDefaultMtu (ackFlags requireAck) allocations.split
    if frag.base.errorCode ≠ .success then .error frag.base
    else .ok (frag.fragments.zip frag.fragmentSizes)

/-- Register the frames of a message, in order, from registration number
`index` of the send on. -/
def expectFrames
    (tracker : AckTracker)
    (packetId : UInt64)
    (channel : Channel)
    (clock : Nat -> UInt64)
    (allocated : Nat -> Bool) :
    Nat -> List (List UInt8 × Nat) -> AckTracker
  | _, [] => tracker
  | index, frame :: frames =>
      expectFrames
        (krsAckTrackerExpect tracker packetId channel (some frame.1) frame.2
          (clock index) (allocated index))
        packetId channel clock allocated (index + 1) frames

/-- The tracker and the controller of a connection, created on demand by its
first reliable send. -/
def ensureReliable
    (conn : ClientConnection)
    (allocations : SendAllocations) : ClientConnection :=
  { conn with
    ackTracker :=
      match conn.ackTracker with
      | some tracker => some tracker
      | none =>
          if allocations.tracker then some (krsAckTrackerCreate 1000 5)
          else none
    congestion :=
      match conn.congestion with
      | some cc => some cc
      | none =>
          if allocations.congestion then some krsCongestionCreate else none }

/-- Take a slot of the congestion window: `none` when it is full. -/
def takeWindowSlot (conn : ClientConnection) : Option ClientConnection :=
  match conn.congestion with
  | none => some conn
  | some cc =>
      if krsCongestionCanSend cc then
        some { conn with congestion := some (krsCongestionOnSend cc) }
      else none

/-- Register the frames of a reliable message with the connection. -/
def expectOn
    (conn : ClientConnection)
    (packetId : UInt64)
    (channel : Channel)
    (clock : Nat -> UInt64)
    (allocated : Nat -> Bool)
    (frames : List (List UInt8 × Nat)) : ClientConnection :=
  { conn with
    ackTracker := conn.ackTracker.map fun tracker =>
      expectFrames tracker packetId channel clock allocated 0 frames }

/-- What a send does to its connection: the result, and the frames it hands to
`krs_net_send_frame`. -/
def sendOn
    (conn : ClientConnection)
    (channel : Channel)
    (packetId : UInt64)
    (data : List UInt8)
    (length : UInt16)
    (requireAck : Bool)
    (clock : Nat -> UInt64)
    (allocations : SendAllocations) :
    ClientConnection × KronosResult × List (List UInt8) :=
  let admitted : Except ClientConnection ClientConnection :=
    if requireAck then
      let ready := ensureReliable conn allocations
      match takeWindowSlot ready with
      | none => .error ready
      | some taken => .ok taken
    else .ok conn
  match admitted with
  | .error refused =>
      (refused, .wMsg .serverCongestionWindowFull "congestion window full",
        [])
  | .ok conn =>
      match messageFrames channel packetId data length requireAck allocations
          .networkSocketError with
      | .error result => (conn, result, [])
      | .ok frames =>
          (if requireAck then
              expectOn conn packetId channel clock allocations.entry frames
            else conn,
            .suc, frames.map fun frame => frame.1.take frame.2)

/-- The next packet id of a channel of a descriptor, and the channel state
after it; zero when the counter cannot be created. -/
def nextPacketId
    (channel : Channel)
    (created : Bool)
    (state : ChannelState) : UInt64 × ChannelState :=
  let counter :=
    match state.packetCounter with
    | some counter => some counter
    | none => if created then some krsPacketCounterCreate else none
  match counter with
  | none => (0, state)
  | some counter =>
      let next := krsPacketCounterNext counter channel
      (next.1, { state with packetCounter := some next.2 })

/-- `krs_server_send`.  The reference taken on the connection is given back on
every path, and the count of sent messages grows with each frame; `none` stands
for the use of a freed connection. -/
def krsServerSend
    (spm : ServerPortManager)
    (connectionId : UInt32)
    (channel : Channel)
    (data : List UInt8)
    (length : UInt16)
    (requireAck : Bool)
    (clock : Nat -> UInt64)
    (allocations : SendAllocations) :
    Option (ServerPortManager × KronosResult × List ServerEffect) :=
  let notFound : KronosResult :=
    .wMsg .invalidParameter "connection_id not found"
  match krsConnectionMapGet spm.connectionMap connectionId with
  | none => some (spm, notFound, [])
  | some entry =>
      match spm.connections[entry.connection]?,
          spm.descriptorList[entry.descriptor]? with
      | some target, some desc =>
          if target.freed then none
          else
            let acquired := { target with refcount := target.refcount + 1 }
            let numbered := nextPacketId channel allocations.counter
              (desc.channelStates channel)
            let sent := sendOn acquired channel numbered.1 data length
              requireAck clock allocations
            some ({ spm with
                descriptorList := spm.descriptorList.modify entry.descriptor
                  (·.modifyChannel channel fun _ => numbered.2)
                connections := spm.connections.set entry.connection
                  (releaseConnection sent.1)
                stats :=
                  { spm.stats with
                    messagesSent := spm.stats.messagesSent +
                      UInt64.ofNat sent.2.2.length } },
              sent.2.1,
              sent.2.2.flatMap
                (krsNetSendFrame entry.descriptor target.remoteAddress))
      | _, _ => none

end Kronos
