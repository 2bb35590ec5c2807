import Kronos.Server.Handlers

/-!
# The retransmit tick

`retransmit_thread.c`: every tick checks the timeouts of all connections,
resends what is due, reports what was given up, and evicts connections whose
heartbeat is stale.  Retries and failures pass through buffers of fixed size.
-/

namespace Kronos

open Library

/-- `KRS_HEARTBEAT_TIMEOUT_MS`. -/
def krsHeartbeatTimeoutMs : Nat := 30000

/-- `MAX_PENDING_RETRANSMITS`. -/
def maxPendingRetransmits : Nat := 64

/-- `MAX_PENDING_FAILURES`. -/
def maxPendingFailures : Nat := 32

/-- Capacity of the buffers passed to `krs_ack_tracker_check_timeouts`. -/
def checkCapacity : Nat := 32

/-- `PendingRetransmit_t`, with the entry the frame was copied from. -/
structure PendingRetransmit where
  data : List UInt8
  addr : PortAddress
  descriptor : Nat
  connection : ConnectionRef
  entry : Nat
  deriving DecidableEq, Repr

/-- `PendingDeliveryFailure_t`. -/
structure PendingDeliveryFailure where
  connectionId : UInt32
  channel : Channel
  packetId : UInt64
  callback : Callback
  deriving DecidableEq, Repr

/-- The buffers that one tick fills. -/
structure TickBuffers where
  pending : List PendingRetransmit := []
  failures : List PendingDeliveryFailure := []
  deriving DecidableEq, Repr

/-- The clock readings of one tick: one for each timeout check and one for
each eviction. -/
structure TickClock where
  check : ConnectionRef -> UInt64
  evict : Nat -> UInt64

/-- The retries of one connection as they are queued for resending, and whether
one of them was fast or timed out. -/
structure RetryQueue where
  pending : List PendingRetransmit
  anyFastRetry : Bool := false
  anyTimeoutRetry : Bool := false
  deriving DecidableEq, Repr

/-- The loop of `s_collect_retransmits` over the reported retries. -/
def queueRetries
    (tracker : AckTracker)
    (descriptor : Nat)
    (connection : ConnectionRef)
    (addr : PortAddress) :
    List Retry -> RetryQueue -> RetryQueue
  | [], queue => queue
  | retry :: retries, queue =>
      if queue.pending.length < maxPendingRetransmits then
        match krsAckTrackerGetRetryFrameForEntry tracker retry.entry with
        | none =>
            queueRetries tracker descriptor connection addr retries queue
        | some (data, size) =>
            if size > kronosBufferSize then
              queueRetries tracker descriptor connection addr retries queue
            else
              queueRetries tracker descriptor connection addr retries
                { pending := queue.pending ++
                    [{ data := data.take size
                       addr := addr
                       descriptor := descriptor
                       connection := connection
                       entry := retry.entry }]
                  anyFastRetry := queue.anyFastRetry || retry.wasFast
                  anyTimeoutRetry := queue.anyTimeoutRetry ||
                    !retry.wasFast }
      else queue

/-- The reaction of the congestion controller to queued retries. -/
def reactToLoss
    (queue : RetryQueue)
    (cc : CongestionController) : CongestionController :=
  if queue.anyTimeoutRetry then krsCongestionOnTimeoutLoss cc
  else if queue.anyFastRetry then krsCongestionOnFastRetransmitLoss cc
  else cc

/-- The failures of one connection, as far as the buffer reaches. -/
def reportFailures
    (callback : Option Callback)
    (connectionId : UInt32)
    (dropped : List (UInt64 × Channel))
    (failures : List PendingDeliveryFailure) :
    List PendingDeliveryFailure :=
  match callback with
  | none => failures
  | some callback =>
      failures ++ (dropped.map fun packet =>
        { connectionId := connectionId
          channel := packet.2
          packetId := packet.1
          callback := callback }).take
        (maxPendingFailures - failures.length)

/-- The body of the loop of `s_collect_retransmits` for one connection. -/
def collectConnection
    (callback : Option Callback)
    (descriptor : Nat)
    (connection : ConnectionRef)
    (now : UInt64)
    (buffers : TickBuffers)
    (conn : ClientConnection) : TickBuffers × ClientConnection :=
  match conn.ackTracker with
  | none => (buffers, conn)
  | some tracker =>
      let checked := krsAckTrackerCheckTimeouts tracker now checkCapacity
        checkCapacity
      let queue := queueRetries checked.2 descriptor connection
        conn.remoteAddress checked.1.retries { pending := buffers.pending }
      ({ pending := queue.pending
         failures := reportFailures callback conn.connectionId
           checked.1.dropped buffers.failures },
        { conn with
          ackTracker := some checked.2
          congestion := conn.congestion.map (reactToLoss queue) })

/-- One slot of the connection map in `s_collect_retransmits`. -/
def collectSlot
    (callback : Option Callback)
    (descriptor : Nat)
    (clock : ConnectionRef -> UInt64)
    (current : TickBuffers × List ClientConnection)
    (slot : Slot UInt32 ConnectionMapEntry) :
    TickBuffers × List ClientConnection :=
  match slot with
  | .live _ entry =>
      if entry.descriptor ≠ descriptor then current
      else
        match current.2[entry.connection]? with
        | none => current
        | some conn =>
            let collected := collectConnection callback descriptor
              entry.connection (clock entry.connection) current.1 conn
            (collected.1, current.2.set entry.connection collected.2)
  | _ => current

/-- `s_collect_retransmits`. -/
def collectRetransmits
    (spm : ServerPortManager)
    (descriptor : Nat)
    (clock : ConnectionRef -> UInt64)
    (buffers : TickBuffers) : TickBuffers × ServerPortManager :=
  match spm.descriptorList[descriptor]? with
  | none => (buffers, spm)
  | some desc =>
      let collected := spm.connectionMap.entries.slots.foldl
        (collectSlot desc.deliveryFailureCallback descriptor clock)
        (buffers, spm.connections)
      (collected.1, { spm with connections := collected.2 })

/-- The loop of `s_retransmit_tick` over the descriptors. -/
def collectAll
    (spm : ServerPortManager)
    (clock : ConnectionRef -> UInt64) : TickBuffers × ServerPortManager :=
  (List.range spm.descriptorList.length).foldl (fun current descriptor =>
    collectRetransmits current.2 descriptor clock current.1) ({}, spm)

/-- `s_flush_retransmits`: every pending frame is handed to
`krs_net_send_frame`. -/
def flushRetransmits (pending : List PendingRetransmit) :
    List ServerEffect :=
  pending.map fun retransmit =>
    .retransmit retransmit.descriptor retransmit.addr retransmit.data
      retransmit.connection retransmit.entry

/-- The delivery-failure callbacks of a tick. -/
def failureCallbacks (failures : List PendingDeliveryFailure) :
    List ServerEffect :=
  failures.map fun failure =>
    .deliveryFailure failure.callback failure.connectionId failure.channel
      failure.packetId

/-! ## Eviction -/

/-- The heartbeat of a connection is stale. -/
def isStale
    (spm : ServerPortManager)
    (now : UInt64)
    (connection : ConnectionRef) : Bool :=
  match spm.connections[connection]? with
  | none => false
  | some conn =>
      decide ((now - conn.lastHeartbeatMs).toNat ≥ krsHeartbeatTimeoutMs)

/-- One visit of the loop of `s_evict_stale_connections`. -/
def evictVisit
    (spm : ServerPortManager)
    (now : UInt64)
    (orphanCapacity : Nat)
    (orphans : List ConnectionRef)
    (connection : ConnectionRef) :
    List ConnectionRef × Option ConnectionRef :=
  if orphans.contains connection then (orphans, none)
  else if isStale spm now connection then
    (trackOrphan orphanCapacity orphans connection, none)
  else (orphans, some connection)

/-- The reassemblers of all channels without their stale sessions. -/
def sweepReassemblers (now : UInt64) (desc : UDPSocketDescriptor) :
    UDPSocketDescriptor :=
  { desc with
    channelStates := fun channel =>
      { desc.channelStates channel with
        reassembler := (desc.channelStates channel).reassembler.map
          fun reassembler =>
            (krsReassemblerSweepStale reassembler now 10000).2 } }

/-- `s_evict_stale_connections`: the orphans, and the descriptor after. -/
def evictStaleConnections
    (spm : ServerPortManager)
    (now : UInt64)
    (orphanCapacity : Nat)
    (desc : UDPSocketDescriptor) :
    List ConnectionRef × UDPSocketDescriptor :=
  let swept := sweepChannels (evictVisit spm now orphanCapacity) desc
  (swept.1, sweepReassemblers now swept.2)

/-- The eviction part of a tick for one descriptor. -/
def evictDescriptor
    (spm : ServerPortManager)
    (now : UInt64)
    (descriptor : Nat) : ServerPortManager × List ServerEffect :=
  match spm.descriptorList[descriptor]? with
  | none => (spm, [])
  | some desc =>
      let evicted := evictStaleConnections spm now maxEvictionsPerCycle desc
      krsServerFinalizeOrphanEvictions
        (spm.modifyDescriptor descriptor fun _ => evicted.2) descriptor
        evicted.1

/-- The eviction loop of a tick over the descriptors. -/
def evictAll (spm : ServerPortManager) (clock : Nat -> UInt64) :
    ServerPortManager × List ServerEffect :=
  (List.range spm.descriptorList.length).foldl (fun current descriptor =>
    let evicted := evictDescriptor current.1 (clock descriptor) descriptor
    (evicted.1, current.2 ++ evicted.2)) (spm, [])

/-- `s_retransmit_tick`. -/
def retransmitTick (spm : ServerPortManager) (clock : TickClock) :
    ServerPortManager × List ServerEffect :=
  let collected := collectAll spm clock.check
  let counted : ServerPortManager :=
    { collected.2 with
      stats :=
        { collected.2.stats with
          retransmissions := collected.2.stats.retransmissions +
            UInt64.ofNat collected.1.pending.length } }
  let evicted := evictAll counted clock.evict
  (evicted.1,
    flushRetransmits collected.1.pending ++
      failureCallbacks collected.1.failures ++ evicted.2)

end Kronos
