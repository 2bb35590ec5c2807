import Kronos.Ack.Tracker
import Kronos.Congestion.Controller
import Kronos.Fragment.Reassembler
import Kronos.Library.OpenAddressing

/-!
# The server's state

Connections are heap objects.  Channel lists and the connection map refer to
them by `ConnectionRef`, the number of their allocation, and the heap is the
list of all objects ever allocated; `freed` marks the ones given back.  A
descriptor is referred to by its position in the descriptor list.

Locks are not part of this state: each handler and each tick runs on its own
here.
-/

namespace Kronos

open Library

/-- A pointer to a `ClientConnection_t`. -/
abbrev ConnectionRef := Nat

/-- A registered callback with its user data. -/
abbrev Callback := Nat

/-- `ClientConnection_t`. -/
structure ClientConnection where
  connectionId : UInt32
  remoteAddress : PortAddress
  lastHeartbeatMs : UInt64
  congestion : Option CongestionController := none
  ackTracker : Option AckTracker := none
  refcount : Int := 1
  freed : Bool := false
  deriving DecidableEq, Repr

/-- `ChannelState_t`. -/
structure ChannelState where
  packetCounter : Option PacketCounter := none
  reassembler : Option Reassembler := none
  connections : Option (List ConnectionRef) := none

/-- `UDPSocketDescriptor_t`. -/
structure UDPSocketDescriptor where
  port : UInt16
  portCallback : Option Callback := none
  channelCallbacks : Channel -> Option Callback := fun _ => none
  channelStates : Channel -> ChannelState := fun _ => {}
  connectCallback : Option Callback := none
  disconnectCallback : Option Callback := none
  deliveryFailureCallback : Option Callback := none

/-- `ConnectionMapEntry_t`: what a connection id is bound to. -/
structure ConnectionMapEntry where
  descriptor : Nat
  connection : ConnectionRef
  deriving DecidableEq, Repr

/-- `ConnectionMap_t`: the table by connection id and the table by address. -/
structure ConnectionMap where
  entries : ProbeTable UInt32 ConnectionMapEntry
  addrEntries : ProbeTable PortAddress UInt32
  deriving DecidableEq, Repr

/-- The counters of `ServerPortManager_t`. -/
structure ServerStats where
  messagesReceived : UInt64 := 0
  messagesSent : UInt64 := 0
  ackSent : UInt64 := 0
  ackReceived : UInt64 := 0
  retransmissions : UInt64 := 0
  connectionsTotal : UInt64 := 0
  disconnections : UInt64 := 0
  fragmentsReceived : UInt64 := 0
  fragmentsReassembled : UInt64 := 0
  deriving DecidableEq, Repr

/-- `ServerPortManager_t`, with the heap of connections and the counter
`s_next_connection_id`. -/
structure ServerPortManager where
  descriptorList : List UDPSocketDescriptor
  connectionMap : ConnectionMap
  connections : List ClientConnection
  nextConnectionId : UInt32
  stats : ServerStats

/-- What the server does outside its own state.  A frame that the retransmit
tick resends is tagged with the pending entry it was copied from. -/
inductive ServerEffect
  | netSend (descriptor : Nat) (address : PortAddress) (frame : List UInt8)
  | retransmit (descriptor : Nat) (address : PortAddress)
      (frame : List UInt8) (connection : ConnectionRef) (entry : Nat)
  | message (callback : Callback) (channel : Channel) (connectionId : UInt32)
      (data : List UInt8) (dataLength : Nat)
  | connected (callback : Callback) (connection : ConnectionRef)
      (connectionId : UInt32)
  | disconnected (callback : Callback) (connection : ConnectionRef)
      (connectionId : UInt32)
  | deliveryFailure (callback : Callback) (connectionId : UInt32)
      (channel : Channel) (packetId : UInt64)
  deriving DecidableEq, Repr

/-- All channels, `0` to `MAX_CHANNEL_NUMBER`. -/
def allChannels : List Channel :=
  (List.range 256).map UInt8.ofNat

/-! ## The connection map -/

/-- `s_next_power_of_two`, in 32-bit arithmetic. -/
def nextPowerOfTwo (v : UInt32) : UInt32 :=
  let v := v - 1
  let v := v ||| v >>> 1
  let v := v ||| v >>> 2
  let v := v ||| v >>> 4
  let v := v ||| v >>> 8
  let v := v ||| v >>> 16
  let v := v + 1
  if v < 16 then 16 else v

/-- `s_hash_address`. -/
def hashAddress (addr : PortAddress) : UInt32 :=
  addr.sin6Addr.toList.foldl
    (fun hash byte => (hash ^^^ byte.toUInt32) * 16777619)
    ((2166136261 ^^^ addr.sin6Port.toUInt32) * 16777619)

/-- The hash of the address table, as a position. -/
def addrHash (addr : PortAddress) : Nat := (hashAddress addr).toNat

/-- The hash of the id table: the id itself. -/
def idHash (connectionId : UInt32) : Nat := connectionId.toNat

/-- `krs_connection_map_create`. -/
def krsConnectionMapCreate (initialCapacity : UInt32) : ConnectionMap :=
  let capacity := (nextPowerOfTwo initialCapacity).toNat
  { entries := ProbeTable.create capacity
    addrEntries := ProbeTable.create capacity }

/-- `krs_connection_map_put` of a connection with the given address.
`entriesGrown` and `addrGrown` are the outcomes of the growth allocations. -/
def krsConnectionMapPut
    (map : ConnectionMap)
    (connectionId : UInt32)
    (entry : ConnectionMapEntry)
    (address : PortAddress)
    (entriesGrown addrGrown : Bool) : ConnectionMap :=
  { entries := map.entries.put idHash connectionId entry entriesGrown
    addrEntries :=
      map.addrEntries.put addrHash address connectionId addrGrown }

/-- `krs_connection_map_get`. -/
def krsConnectionMapGet (map : ConnectionMap) (connectionId : UInt32) :
    Option ConnectionMapEntry :=
  map.entries.get idHash connectionId

/-- `krs_connection_map_remove`; `address` reads the address of the removed
connection. -/
def krsConnectionMapRemove
    (map : ConnectionMap)
    (address : ConnectionRef -> Option PortAddress)
    (connectionId : UInt32) : ConnectionMap :=
  match krsConnectionMapGet map connectionId with
  | none => map
  | some entry =>
      { entries := map.entries.remove idHash connectionId
        addrEntries :=
          match address entry.connection with
          | none => map.addrEntries
          | some addr => map.addrEntries.remove addrHash addr }

/-- `krs_connection_map_get_by_address`: zero for an unknown address. -/
def krsConnectionMapGetByAddress
    (map : ConnectionMap)
    (addr : PortAddress) : UInt32 :=
  (map.addrEntries.get addrHash addr).getD 0

/-! ## The heap -/

namespace ServerPortManager

/-- The remote address of a connection. -/
def addressOf (spm : ServerPortManager) (connection : ConnectionRef) :
    Option PortAddress :=
  spm.connections[connection]?.map ClientConnection.remoteAddress

/-- The id of a connection. -/
def connectionIdOf (spm : ServerPortManager) (connection : ConnectionRef) :
    UInt32 :=
  match spm.connections[connection]? with
  | none => 0
  | some conn => conn.connectionId

/-- `krs_network_port_address_equals(&c->remote_address, remote_addr)`. -/
def hasAddress
    (spm : ServerPortManager)
    (remoteAddr : PortAddress)
    (connection : ConnectionRef) : Bool :=
  match spm.connections[connection]? with
  | none => false
  | some conn => krsNetworkPortAddressEquals conn.remoteAddress remoteAddr

/-- Write one connection. -/
def modifyConnection
    (spm : ServerPortManager)
    (connection : ConnectionRef)
    (change : ClientConnection -> ClientConnection) : ServerPortManager :=
  { spm with connections := spm.connections.modify connection change }

/-- Write one descriptor. -/
def modifyDescriptor
    (spm : ServerPortManager)
    (descriptor : Nat)
    (change : UDPSocketDescriptor -> UDPSocketDescriptor) :
    ServerPortManager :=
  { spm with descriptorList := spm.descriptorList.modify descriptor change }

end ServerPortManager

/-- What the last `krs_connection_map_release` of a connection does: the
tracker and the controller are destroyed and the memory is given back. -/
def releaseConnection (conn : ClientConnection) : ClientConnection :=
  let refcount := conn.refcount - 1
  if refcount ≠ 0 then { conn with refcount := refcount }
  else
    { conn with
      refcount := refcount
      ackTracker := none
      congestion := none
      freed := true }

/-- `krs_connection_map_release`. -/
def krsConnectionMapRelease
    (spm : ServerPortManager)
    (connection : ConnectionRef) : ServerPortManager :=
  spm.modifyConnection connection releaseConnection

namespace UDPSocketDescriptor

/-- The connections of a channel; none when the list does not exist. -/
def connectionsOf (desc : UDPSocketDescriptor) (channel : Channel) :
    List ConnectionRef :=
  (desc.channelStates channel).connections.getD []

/-- Write one channel state. -/
def modifyChannel
    (desc : UDPSocketDescriptor)
    (channel : Channel)
    (change : ChannelState -> ChannelState) : UDPSocketDescriptor :=
  { desc with
    channelStates := Function.update desc.channelStates channel
      (change (desc.channelStates channel)) }

end UDPSocketDescriptor

end Kronos
