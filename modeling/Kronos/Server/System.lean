import Kronos.Library.Transition
import Kronos.Server.Retransmit
import Kronos.Server.Send

/-!
# The server as a system

The server receives datagrams, sends on behalf of the application and runs
retransmit ticks, one at a time and in any order.  A run keeps the log of all
effects so far.
-/

namespace Kronos

open Library

/-- What can happen to a server. -/
inductive ServerEvent
  | datagram (descriptor : Nat) (bytes : List UInt8)
      (remoteAddr : PortAddress) (input : HandlerInput)
  | send (connectionId : UInt32) (channel : Channel) (data : List UInt8)
      (length : UInt16) (requireAck : Bool) (clock : Nat -> UInt64)
      (allocations : SendAllocations)
  | tick (clock : TickClock)

/-- A server and everything it has done so far. -/
structure ServerRun where
  spm : ServerPortManager
  log : List ServerEffect

/-- One event: the state after it and its effects; `none` stands for undefined
behaviour of the code. -/
def serverEffect (spm : ServerPortManager) :
    ServerEvent -> Option (ServerPortManager × List ServerEffect)
  | .datagram descriptor bytes remoteAddr input =>
      handleDatagram spm descriptor bytes remoteAddr input
  | .send connectionId channel data length requireAck clock allocations =>
      (krsServerSend spm connectionId channel data length requireAck clock
        allocations).map fun sent => (sent.1, sent.2.2)
  | .tick clock => some (retransmitTick spm clock)

/-- One step of a run. -/
def serverStep (current : ServerRun) (event : ServerEvent) :
    Option ServerRun :=
  (serverEffect current.spm event).map fun next =>
    { spm := next.1, log := current.log ++ next.2 }

/-- A started server: the given ports, and a connection map created with
`krs_connection_map_create(64)`. -/
def serverStart (descriptorList : List UDPSocketDescriptor) :
    ServerPortManager :=
  { descriptorList := descriptorList
    connectionMap := krsConnectionMapCreate 64
    connections := []
    nextConnectionId := 0
    stats := {} }

/-- The beginning of a run. -/
def runStart (descriptorList : List UDPSocketDescriptor) : ServerRun :=
  { spm := serverStart descriptorList, log := [] }

/-! ## Small runs -/

/-- A port whose messages go to one callback. -/
def listeningPort : UDPSocketDescriptor :=
  { port := 5000, portCallback := some 3 }

/-- A frame without body, as clients send to connect, disconnect and keep
their connection alive. -/
def controlFrame (channel : Channel) (type : FrameType) : List UInt8 :=
  serializeToBuffer (krsFrameBuilderCreate channel type) 64

/-- A tick all of whose clock readings are the same. -/
def tickAt (now : UInt64) : ServerEvent :=
  .tick { check := fun _ => now, evict := fun _ => now }

/-- A client connects to the first port. -/
def connectFrom (port : UInt16) (now : UInt64) : ServerEvent :=
  .datagram 0 (controlFrame 0 .connection) (clientAddress port)
    { now := now }

/-- A client's heartbeat. -/
def heartbeatFrom (port : UInt16) (now : UInt64) : ServerEvent :=
  .datagram 0 (controlFrame 1 .heartbeat) (clientAddress port)
    { now := now }

/-- The application sends a byte reliably to connection 1. -/
def sendByte (channel : Channel) (now : UInt64) : ServerEvent :=
  .send 1 channel [0] 1 true (fun _ => now) {}

/-- A client acknowledges a packet. -/
def ackFrom
    (port : UInt16)
    (channel : Channel)
    (packetId : UInt64)
    (now : UInt64) : ServerEvent :=
  .datagram 0 (ackResponse channel packetId) (clientAddress port)
    { now := now }

end Kronos
