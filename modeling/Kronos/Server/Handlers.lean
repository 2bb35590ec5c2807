import Kronos.Server.State

/-!
# Frame handlers

`message_handler.c` and `server_connection_handler.c`: what the server does
with one received datagram.  A handler returns the state after it and its
effects, in order.  Clock readings and allocation outcomes are arguments.
-/

namespace Kronos

open Library

/-- `MAX_EVICTIONS_PER_CYCLE`. -/
def maxEvictionsPerCycle : Nat := 64

/-! ## Replies -/

/-- `krs_net_send_frame`: an empty frame is not sent. -/
def krsNetSendFrame
    (descriptor : Nat)
    (address : PortAddress)
    (frame : List UInt8) : List ServerEffect :=
  if frame.length = 0 then [] else [.netSend descriptor address frame]

/-- The frame that `s_send_ack_response` sends. -/
def ackResponse (channel : Channel) (packetId : UInt64) : List UInt8 :=
  serializeToBuffer
    ((krsFrameBuilderCreate channel .messageAck).setPacketId packetId) 64

/-- `s_send_ack_response`.  `built` is the outcome of
`krs_frame_builder_create`. -/
def sendAckResponse
    (descriptor : Nat)
    (remoteAddr : PortAddress)
    (channel : Channel)
    (packetId : UInt64)
    (built : Bool) : List ServerEffect :=
  if built then
    krsNetSendFrame descriptor remoteAddr (ackResponse channel packetId)
  else []

/-- The body of a `SOCKET_ACK`: the connection id, big-endian. -/
def socketAckBody (connectionId : UInt32) : List UInt8 :=
  [UInt8.ofNat (connectionId.toNat >>> 24 &&& 0xFF),
   UInt8.ofNat (connectionId.toNat >>> 16 &&& 0xFF),
   UInt8.ofNat (connectionId.toNat >>> 8 &&& 0xFF),
   UInt8.ofNat (connectionId.toNat &&& 0xFF)]

/-- The `SOCKET_ACK` that `s_send_frame` sends for a connection.  `built` is
the outcome of `krs_frame_builder_create`. -/
def sendSocketAck
    (descriptor : Nat)
    (remoteAddr : PortAddress)
    (connectionId : UInt32)
    (built : Bool) : List ServerEffect :=
  if built then
    krsNetSendFrame descriptor remoteAddr
      (serializeToBuffer
        ((krsFrameBuilderCreate 0 .socketAck).setData
          (some (socketAckBody connectionId)) 4) kronosBufferSize)
  else []

/-! ## Removing connections from all channels -/

/-- One pass over the connection list of a channel, from its end.  The visits
thread the connections found so far. -/
def sweepChannel
    (visit : List ConnectionRef -> ConnectionRef ->
      List ConnectionRef × Option ConnectionRef)
    (current : List ConnectionRef × UDPSocketDescriptor)
    (channel : Channel) : List ConnectionRef × UDPSocketDescriptor :=
  match (current.2.channelStates channel).connections with
  | none => current
  | some conns =>
      let swept := sweep visit current.1 conns
      (swept.1, current.2.modifyChannel channel fun state =>
        { state with connections := some swept.2 })

/-- One pass over the connection lists of all channels. -/
def sweepChannels
    (visit : List ConnectionRef -> ConnectionRef ->
      List ConnectionRef × Option ConnectionRef)
    (desc : UDPSocketDescriptor) :
    List ConnectionRef × UDPSocketDescriptor :=
  allChannels.foldl (sweepChannel visit) ([], desc)

/-- Add a connection to the orphan buffer while it has room. -/
def trackOrphan
    (orphanCapacity : Nat)
    (orphans : List ConnectionRef)
    (connection : ConnectionRef) : List ConnectionRef :=
  if orphans.length < orphanCapacity then orphans ++ [connection]
  else orphans

/-- `krs_server_finalize_orphan_evictions`. -/
def krsServerFinalizeOrphanEvictions
    (spm : ServerPortManager)
    (descriptor : Nat)
    (uniqueOrphans : List ConnectionRef) :
    ServerPortManager × List ServerEffect :=
  if uniqueOrphans.length = 0 then (spm, [])
  else
    let evictedIds := uniqueOrphans.map spm.connectionIdOf
    let removed : ServerPortManager :=
      { spm with
        connectionMap := evictedIds.foldl (fun map connectionId =>
          krsConnectionMapRemove map spm.addressOf connectionId)
          spm.connectionMap }
    let released := uniqueOrphans.foldl krsConnectionMapRelease removed
    let counted : ServerPortManager :=
      { released with
        stats :=
          { released.stats with
            disconnections := released.stats.disconnections +
              UInt64.ofNat uniqueOrphans.length } }
    (counted,
      match spm.descriptorList[descriptor]? with
      | none => []
      | some desc =>
          match desc.disconnectCallback with
          | none => []
          | some callback =>
              List.zipWith (.disconnected callback) uniqueOrphans evictedIds)

/-- One visit of the loop of `s_dispatch_disconnect`. -/
def disconnectVisit
    (spm : ServerPortManager)
    (remoteAddr : PortAddress)
    (orphans : List ConnectionRef)
    (connection : ConnectionRef) :
    List ConnectionRef × Option ConnectionRef :=
  if !spm.hasAddress remoteAddr connection then (orphans, some connection)
  else if orphans.contains connection then (orphans, none)
  else (trackOrphan maxEvictionsPerCycle orphans connection, none)

/-- `s_dispatch_disconnect`. -/
def dispatchDisconnect
    (spm : ServerPortManager)
    (descriptor : Nat)
    (remoteAddr : PortAddress) : ServerPortManager × List ServerEffect :=
  match spm.descriptorList[descriptor]? with
  | none => (spm, [])
  | some desc =>
      let swept := sweepChannels (disconnectVisit spm remoteAddr) desc
      krsServerFinalizeOrphanEvictions
        (spm.modifyDescriptor descriptor fun _ => swept.2) descriptor swept.1

/-! ## Connections -/

/-- Outcomes of the allocations of `krs_server_handle_connection_frame`: the
channel-0 array, the connection, the growth of the array, and the frame builder
of the answer. -/
structure ConnectAllocations where
  array : Bool := true
  connection : Bool := true
  push : Bool := true
  ackBuilt : Bool := true
  deriving DecidableEq, Repr

/-- Create the connection list of a channel if it is missing. -/
def ensureConnections (created : Bool) (state : ChannelState) :
    ChannelState :=
  match state.connections with
  | some _ => state
  | none => if created then { state with connections := some [] } else state

/-- Append to the connection list of a channel. -/
def pushConnection (connection : ConnectionRef) (state : ChannelState) :
    ChannelState :=
  { state with connections := state.connections.map (· ++ [connection]) }

/-- `krs_server_handle_connection_frame` for an address that has no connection
yet.  The growth of the connection map succeeds; its capacity, which the source
keeps in 32 bits, is taken to be below 2^32. -/
def acceptConnection
    (spm : ServerPortManager)
    (descriptor : Nat)
    (desc : UDPSocketDescriptor)
    (remoteAddr : PortAddress)
    (now : UInt64)
    (allocations : ConnectAllocations) :
    ServerPortManager × List ServerEffect :=
  if !allocations.connection then (spm, [])
  else
    let connectionId := spm.nextConnectionId + 1
    let numbered := { spm with nextConnectionId := connectionId }
    if (desc.channelStates 0).connections.isNone || !allocations.push then
      (numbered, [])
    else
      let connection := spm.connections.length
      let conn : ClientConnection :=
        { connectionId := connectionId
          remoteAddress := remoteAddr
          lastHeartbeatMs := now }
      let registered : ServerPortManager :=
        { numbered with
          connections := spm.connections ++ [conn]
          descriptorList := spm.descriptorList.modify descriptor
            (·.modifyChannel 0 (pushConnection connection))
          connectionMap := krsConnectionMapPut spm.connectionMap connectionId
            { descriptor := descriptor, connection := connection } remoteAddr
            true true }
      (registered,
        sendSocketAck descriptor remoteAddr connectionId
            allocations.ackBuilt ++
          match desc.connectCallback with
          | none => []
          | some callback => [.connected callback connection connectionId])

/-- `krs_server_handle_connection_frame`. -/
def krsServerHandleConnectionFrame
    (spm : ServerPortManager)
    (descriptor : Nat)
    (remoteAddr : PortAddress)
    (now : UInt64)
    (allocations : ConnectAllocations) :
    ServerPortManager × List ServerEffect :=
  let spm := spm.modifyDescriptor descriptor
    (·.modifyChannel 0 (ensureConnections allocations.array))
  match spm.descriptorList[descriptor]? with
  | none => (spm, [])
  | some desc =>
      match (desc.connectionsOf 0).find? (spm.hasAddress remoteAddr) with
      | some existing =>
          (spm.modifyConnection existing fun conn =>
              { conn with lastHeartbeatMs := now },
            sendSocketAck descriptor remoteAddr
              (spm.connectionIdOf existing) allocations.ackBuilt)
      | none =>
          acceptConnection spm descriptor desc remoteAddr now allocations

/-- `s_dispatch_connection`. -/
def dispatchConnection
    (spm : ServerPortManager)
    (descriptor : Nat)
    (remoteAddr : PortAddress)
    (now : UInt64)
    (allocations : ConnectAllocations) :
    ServerPortManager × List ServerEffect :=
  let handled := krsServerHandleConnectionFrame spm descriptor remoteAddr now
    allocations
  ({ handled.1 with
      stats :=
        { handled.1.stats with
          connectionsTotal := handled.1.stats.connectionsTotal + 1 } },
    handled.2)

/-- `krs_server_handle_heartbeat_frame`. -/
def krsServerHandleHeartbeatFrame
    (spm : ServerPortManager)
    (descriptor : Nat)
    (remoteAddr : PortAddress)
    (now : UInt64) : ServerPortManager :=
  match spm.descriptorList[descriptor]? with
  | none => spm
  | some desc =>
      (allChannels.flatMap desc.connectionsOf).foldl (fun current connection =>
        if current.hasAddress remoteAddr connection then
          current.modifyConnection connection fun conn =>
            { conn with lastHeartbeatMs := now }
        else current) spm

/-! ## Acknowledgements -/

/-- The part of `s_dispatch_ack` that works on the connection. -/
def acknowledge
    (conn : ClientConnection)
    (packetId : UInt64)
    (channel : Channel)
    (now : UInt64) : ClientConnection :=
  match conn.ackTracker with
  | none => conn
  | some tracker =>
      let received := krsAckTrackerReceiveRtt tracker packetId channel now
      match received.1, conn.congestion with
      | some rttMs, some cc =>
          let acked := krsCongestionOnAck cc (rttMs : ℚ)
          { conn with
            congestion := some acked
            ackTracker := some (krsAckTrackerSetTimeout received.2
              ⌊krsCongestionGetRto acked⌋₊) }
      | _, _ => { conn with ackTracker := some received.2 }

/-- `s_dispatch_ack`. -/
def dispatchAck
    (spm : ServerPortManager)
    (frame : Frame)
    (remoteAddr : PortAddress)
    (now : UInt64) : ServerPortManager :=
  let counted : ServerPortManager :=
    { spm with
      stats := { spm.stats with ackReceived := spm.stats.ackReceived + 1 } }
  let connId := krsConnectionMapGetByAddress spm.connectionMap remoteAddr
  if connId = 0 then counted
  else
    match krsConnectionMapGet spm.connectionMap connId with
    | none => counted
    | some entry =>
        counted.modifyConnection entry.connection fun conn =>
          acknowledge conn frame.packetId frame.channel now

/-! ## Subscriptions -/

/-- `s_find_conn_on_channel0_unlocked`. -/
def findConnOnChannel0Unlocked
    (spm : ServerPortManager)
    (desc : UDPSocketDescriptor)
    (remoteAddr : PortAddress) : Option ConnectionRef :=
  (desc.connectionsOf 0).find? (spm.hasAddress remoteAddr)

/-- The channel that a `SUBSCRIBE` or `UNSUBSCRIBE` names, if it is an
application channel. -/
def targetChannel (frame : Frame) : Option Channel :=
  match frame.body with
  | [] => none
  | target :: _ => if target < 10 then none else some target

/-- The frame asks for an acknowledgement. -/
def ackRequested (frame : Frame) : Bool :=
  hasFlag frame.presenceFlags .ackRequired

/-- The commit of `s_dispatch_subscribe` to the target channel: `none` when
the connection could not be added. -/
def commitSubscription
    (connection : ConnectionRef)
    (created pushed : Bool)
    (state : ChannelState) : Option ChannelState :=
  match (ensureConnections created state).connections with
  | none => none
  | some conns =>
      if conns.contains connection then
        some { state with connections := some conns }
      else if pushed then
        some { state with connections := some (conns ++ [connection]) }
      else none

/-- `s_dispatch_subscribe`.  `created`, `pushed` and `ackBuilt` are the
outcomes of the list allocation, of the push and of the answer's builder. -/
def dispatchSubscribe
    (spm : ServerPortManager)
    (descriptor : Nat)
    (frame : Frame)
    (remoteAddr : PortAddress)
    (created pushed ackBuilt : Bool) :
    ServerPortManager × List ServerEffect :=
  match targetChannel frame, spm.descriptorList[descriptor]? with
  | some target, some desc =>
      match findConnOnChannel0Unlocked spm desc remoteAddr with
      | none => (spm, [])
      | some connection =>
          let opened := spm.modifyDescriptor descriptor
            (·.modifyChannel target (ensureConnections created))
          match commitSubscription connection created pushed
              (desc.channelStates target) with
          | none => (opened, [])
          | some state =>
              (spm.modifyDescriptor descriptor
                  (·.modifyChannel target fun _ => state),
                if ackRequested frame then
                  sendAckResponse descriptor remoteAddr 0 frame.packetId
                    ackBuilt
                else [])
  | _, _ => (spm, [])

/-- `s_dispatch_unsubscribe`. -/
def dispatchUnsubscribe
    (spm : ServerPortManager)
    (descriptor : Nat)
    (frame : Frame)
    (remoteAddr : PortAddress)
    (ackBuilt : Bool) : ServerPortManager × List ServerEffect :=
  match targetChannel frame, spm.descriptorList[descriptor]? with
  | some target, some desc =>
      let left :=
        match findConnOnChannel0Unlocked spm desc remoteAddr with
        | none => spm
        | some connection =>
            spm.modifyDescriptor descriptor
              (·.modifyChannel target fun state =>
                { state with
                  connections := state.connections.map
                    (·.erase connection) })
      (left,
        if ackRequested frame then
          sendAckResponse descriptor remoteAddr 0 frame.packetId ackBuilt
        else [])
  | _, _ => (spm, [])

/-! ## Application frames -/

/-- What a received application frame carries on to the application. -/
structure Delivery where
  data : List UInt8
  dataLength : Nat
  ackRequired : Bool
  deriving DecidableEq, Repr

/-- The first half of `s_dispatch_app_frame`: the reassembler of the channel,
created on demand, and the payload if it is complete. -/
def reassemble
    (state : ChannelState)
    (frame : Frame)
    (now : UInt64)
    (created allocated : Bool) : Option (ChannelState × Option Delivery) :=
  match state.reassembler, created with
  | none, false => some (state, none)
  | stored, _ =>
      (krsReassemblerFeed (stored.getD krsReassemblerCreate) frame now
          allocated).map fun fed =>
        ({ state with reassembler := some fed.1 },
          if fed.2.complete then
            some
              { data := fed.2.data
                dataLength := fed.2.dataLength % 2 ^ 16
                ackRequired := fed.2.ackRequired }
          else none)

/-- The second half of `s_dispatch_app_frame`: acknowledge, look the sender up
among the subscribers, and call back.  An acknowledgement is counted also when
its builder cannot be allocated. -/
def deliver
    (spm : ServerPortManager)
    (descriptor : Nat)
    (desc : UDPSocketDescriptor)
    (frame : Frame)
    (remoteAddr : PortAddress)
    (delivery : Delivery)
    (ackBuilt : Bool) : ServerPortManager × List ServerEffect :=
  let acked : ServerPortManager × List ServerEffect :=
    if delivery.ackRequired then
      ({ spm with
          stats := { spm.stats with ackSent := spm.stats.ackSent + 1 } },
        sendAckResponse descriptor remoteAddr frame.channel frame.packetId
          ackBuilt)
    else (spm, [])
  match (desc.connectionsOf frame.channel).find?
      (spm.hasAddress remoteAddr) with
  | none => acked
  | some connection =>
      (acked.1,
        acked.2 ++
          match (desc.channelCallbacks frame.channel).or
              desc.portCallback with
          | none => []
          | some callback =>
              [.message callback frame.channel
                (spm.connectionIdOf connection) delivery.data
                delivery.dataLength])

/-- `s_dispatch_app_frame`; `none` stands for an access of the reassembler
outside its arrays. -/
def dispatchAppFrame
    (spm : ServerPortManager)
    (descriptor : Nat)
    (frame : Frame)
    (remoteAddr : PortAddress)
    (now : UInt64)
    (created allocated ackBuilt : Bool) :
    Option (ServerPortManager × List ServerEffect) :=
  match spm.descriptorList[descriptor]? with
  | none => some (spm, [])
  | some desc =>
      if !hasFlag frame.presenceFlags .fragmentInfo then
        some (deliver spm descriptor desc frame remoteAddr
          { data := frame.body
            dataLength := frame.body.length
            ackRequired := ackRequested frame } ackBuilt)
      else
        let counted : ServerPortManager :=
          { spm with
            stats :=
              { spm.stats with
                fragmentsReceived := spm.stats.fragmentsReceived + 1 } }
        (reassemble (desc.channelStates frame.channel) frame now created
            allocated).map fun reassembled =>
          let stored := counted.modifyDescriptor descriptor
            (·.modifyChannel frame.channel fun _ => reassembled.1)
          match reassembled.2 with
          | none => (stored, [])
          | some delivery =>
              deliver
                { stored with
                  stats :=
                    { stored.stats with
                      fragmentsReassembled :=
                        stored.stats.fragmentsReassembled + 1 } }
                descriptor desc frame remoteAddr delivery ackBuilt

/-! ## Routing -/

/-- Clock reading and allocation outcomes of one handled datagram. -/
structure HandlerInput where
  now : UInt64 := 0
  connect : ConnectAllocations := {}
  created : Bool := true
  allocated : Bool := true
  ackBuilt : Bool := true
  deriving DecidableEq, Repr

/-- `s_route_frame`. -/
def routeFrame
    (spm : ServerPortManager)
    (descriptor : Nat)
    (frame : Frame)
    (remoteAddr : PortAddress)
    (input : HandlerInput) :
    Option (ServerPortManager × List ServerEffect) :=
  if frame.channel = 0 ∧ frame.frameType = FrameType.connection.code then
    some (dispatchConnection spm descriptor remoteAddr input.now
      input.connect)
  else if frame.channel = 1 ∧
      frame.frameType = FrameType.heartbeat.code then
    some (krsServerHandleHeartbeatFrame spm descriptor remoteAddr input.now,
      [])
  else if frame.channel = 0 ∧
      frame.frameType = FrameType.disconnect.code then
    some (dispatchDisconnect spm descriptor remoteAddr)
  else if frame.channel = 0 ∧
      frame.frameType = FrameType.subscribe.code then
    some (dispatchSubscribe spm descriptor frame remoteAddr input.created
      input.allocated input.ackBuilt)
  else if frame.channel = 0 ∧
      frame.frameType = FrameType.unsubscribe.code then
    some (dispatchUnsubscribe spm descriptor frame remoteAddr input.ackBuilt)
  else if frame.frameType = FrameType.messageAck.code then
    some (dispatchAck spm frame remoteAddr input.now, [])
  else if frame.frameType ≠ FrameType.basicMessage.code then
    some (spm, [])
  else if frame.channel ≥ 10 then
    dispatchAppFrame spm descriptor frame remoteAddr input.now input.created
      input.allocated input.ackBuilt
  else some (spm, [])

/-- The body of `krs_server_message_handler_thread` for one datagram of a
registered port. -/
def handleDatagram
    (spm : ServerPortManager)
    (descriptor : Nat)
    (datagram : List UInt8)
    (remoteAddr : PortAddress)
    (input : HandlerInput) :
    Option (ServerPortManager × List ServerEffect) :=
  let frame := krsFrameCreate datagram kronosBufferSize
  if frame.protocolChar ≠ 0x4B then some (spm, [])
  else
    routeFrame
      { spm with
        stats :=
          { spm.stats with
            messagesReceived := spm.stats.messagesReceived + 1 } }
      descriptor frame remoteAddr input

end Kronos
