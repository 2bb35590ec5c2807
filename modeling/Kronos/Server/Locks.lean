import Kronos.Library.LockOrder

/-!
# The locks of the server

The paths of the server as sequences of lock operations.  A path is a function
of what its branches find; loops run over any list of what their turns find.
Interlocked operations take no lock, and callbacks are taken not to block.

`server_internal.h` documents the order in which locks are acquired.  Every
path keeps to it, so no threads ever wait for each other in a circle.
-/

namespace Kronos

open Library

/-- The locks: that of the connection map; of a descriptor; of a channel of a
descriptor; of the acknowledgement tracker and the congestion controller of a
connection; of the message queue and the message pool; and the locks of the
logger and of the socket library, which the hierarchy does not name. -/
inductive ServerLock
  | map
  | state (descriptor : Nat)
  | channel (descriptor channel : Nat)
  | ack (connection : Nat)
  | congestion (connection : Nat)
  | queue
  | pool
  | log
  | wsa
  deriving DecidableEq, Repr

/-- The documented order: `connection_map->lock > state_lock > channel_lock >
ack_lock`, with `cc_lock` a peer of `ack_lock`; the lock of the queue is above
that of the pool.  The lock of the logger is below all others, and that of the
socket library is unrelated. -/
def ServerLock.Above : ServerLock -> ServerLock -> Prop
  | .map, .state _ => True
  | .map, .channel _ _ => True
  | .map, .ack _ => True
  | .map, .congestion _ => True
  | .state _, .channel _ _ => True
  | .state _, .ack _ => True
  | .state _, .congestion _ => True
  | .channel _ _, .ack _ => True
  | .channel _ _, .congestion _ => True
  | .queue, .pool => True
  | .log, .log => False
  | _, .log => True
  | _, _ => False

/-- The height of a lock in the order. -/
def ServerLock.height : ServerLock -> Nat
  | .map => 4
  | .state _ => 3
  | .channel _ _ => 2
  | .ack _ => 1
  | .congestion _ => 1
  | .queue => 2
  | .pool => 1
  | .log => 0
  | .wsa => 1

theorem ServerLock.Above.height
    {upper lower : ServerLock}
    (above : upper.Above lower) :
    lower.height < upper.height := by
  cases upper <;> cases lower <;>
    first
      | exact above.elim
      | simp [ServerLock.height]

theorem serverLock_wellFounded :
    WellFounded fun lower upper : ServerLock => upper.Above lower :=
  Subrelation.wf ServerLock.Above.height
    (InvImage.wf ServerLock.height Nat.lt_wfRel.wf)

namespace Locks

/-! ## Logging and sending -/

/-- `krs_log`. -/
def krsLog : List (LockOp ServerLock) := critical .log .shared

/-- What becomes of a frame that is sent: it cannot be built; it is sent; or
`WSASendTo` fails. -/
inductive SendResult
  | notBuilt
  | sent
  | failed
  deriving DecidableEq, Repr

/-- `krs_net_send_frame`. -/
def krsNetSendFrame : SendResult -> List (LockOp ServerLock)
  | .failed => krsLog
  | _ => []

/-- `s_send_frame`. -/
def sSendFrame : SendResult -> List (LockOp ServerLock) := krsNetSendFrame

/-- `s_send_ack_response`. -/
def sSendAckResponse : SendResult -> List (LockOp ServerLock) :=
  krsNetSendFrame

/-- An acknowledgement for a frame that asks for one. -/
def replyIfRequired (reply : Option SendResult) : List (LockOp ServerLock) :=
  reply.elim [] sSendAckResponse

/-- `krs_lib_port_table_lookup`. -/
def krsLibPortTableLookup (found : Bool) : List (LockOp ServerLock) :=
  if found then [] else krsLog

/-! ## Frame handlers -/

/-- What `krs_server_handle_connection_frame` finds and does. -/
inductive ConnectionResult
  | existing (reply : SendResult)
  | noMemory
  | notRegistered
  | created (mapped : Bool) (reply : SendResult)
  deriving DecidableEq, Repr

/-- `krs_server_handle_connection_frame`, called by `s_dispatch_connection`. -/
def krsServerHandleConnectionFrame (descriptor : Nat) :
    ConnectionResult -> List (LockOp ServerLock)
  | .existing reply =>
      critical (.state descriptor) .exclusive ++ sSendFrame reply
  | .noMemory => critical (.state descriptor) .exclusive ++ krsLog
  | .notRegistered => critical (.state descriptor) .exclusive ++ krsLog
  | .created mapped reply =>
      critical (.state descriptor) .exclusive ++
        (if mapped then critical .map .exclusive else []) ++
        sSendFrame reply

/-- `krs_server_handle_heartbeat_frame`. -/
def krsServerHandleHeartbeatFrame (descriptor : Nat) :
    List (LockOp ServerLock) :=
  critical (.state descriptor) .shared

/-- `krs_server_finalize_orphan_evictions`. -/
def krsServerFinalizeOrphanEvictions (orphans : Nat) (mapped : Bool) :
    List (LockOp ServerLock) :=
  if orphans = 0 then []
  else if mapped then critical .map .exclusive
  else []

/-- `s_dispatch_disconnect`. -/
def sDispatchDisconnect (descriptor orphans : Nat) (mapped : Bool) :
    List (LockOp ServerLock) :=
  critical (.state descriptor) .exclusive ++
    krsServerFinalizeOrphanEvictions orphans mapped

/-- What `s_dispatch_ack` finds: no map; no connection for the address; or a
connection whose timeout is adjusted or not. -/
inductive AckResult
  | noMap
  | unknownAddress
  | known (connection : Nat) (adjusts : Bool)
  deriving DecidableEq, Repr

/-- `s_dispatch_ack`. -/
def sDispatchAck : AckResult -> List (LockOp ServerLock)
  | .noMap => []
  | .unknownAddress => critical .map .shared
  | .known connection adjusts =>
      [.acquire .map .shared] ++
        (critical (.ack connection) .exclusive ++
          if adjusts then
            critical (.congestion connection) .exclusive ++
              critical (.ack connection) .exclusive
          else []) ++
        [.release .map .shared]

/-- What `s_dispatch_subscribe` finds. -/
inductive SubscribeResult
  | noBody
  | outOfRange
  | refused
  | committed (reply : Option SendResult)
  deriving DecidableEq, Repr

/-- `s_dispatch_subscribe`. -/
def sDispatchSubscribe (descriptor : Nat) :
    SubscribeResult -> List (LockOp ServerLock)
  | .noBody => []
  | .outOfRange => krsLog
  | .refused => critical (.state descriptor) .exclusive ++ krsLog
  | .committed reply =>
      critical (.state descriptor) .exclusive ++ replyIfRequired reply

/-- `s_dispatch_unsubscribe`, with no reply for a frame that it rejects. -/
def sDispatchUnsubscribe (descriptor : Nat) :
    Option (Option SendResult) -> List (LockOp ServerLock)
  | none => []
  | some reply =>
      critical (.state descriptor) .exclusive ++ replyIfRequired reply

/-- What the reassembler makes of an application frame: the frame is no
fragment; there is no reassembler; the message is incomplete, or complete. -/
inductive FeedResult
  | whole
  | noReassembler
  | incomplete
  | complete
  deriving DecidableEq, Repr

/-- The end of `s_dispatch_app_frame`: the acknowledgement, and the search for
the subscriber. -/
def deliverAppFrame
    (descriptor : Nat)
    (reply : Option SendResult)
    (subscribed : Bool) : List (LockOp ServerLock) :=
  replyIfRequired reply ++ critical (.state descriptor) .shared ++
    if subscribed then [] else krsLog

/-- `s_dispatch_app_frame`. -/
def sDispatchAppFrame
    (descriptor channel : Nat)
    (reply : Option SendResult)
    (subscribed : Bool) : FeedResult -> List (LockOp ServerLock)
  | .whole => deliverAppFrame descriptor reply subscribed
  | .noReassembler =>
      critical (.channel descriptor channel) .exclusive ++ krsLog
  | .incomplete => critical (.channel descriptor channel) .exclusive
  | .complete =>
      critical (.channel descriptor channel) .exclusive ++
        deliverAppFrame descriptor reply subscribed

/-- A frame with what its handler finds. -/
inductive RoutedFrame
  | connection (result : ConnectionResult)
  | heartbeat
  | disconnect (orphans : Nat) (mapped : Bool)
  | subscribe (result : SubscribeResult)
  | unsubscribe (reply : Option (Option SendResult))
  | ack (result : AckResult)
  | unknownType
  | reservedChannel
  | app
      (channel : Nat)
      (reply : Option SendResult)
      (subscribed : Bool)
      (feed : FeedResult)
  deriving DecidableEq, Repr

/-- `s_route_frame`. -/
def sRouteFrame (descriptor : Nat) :
    RoutedFrame -> List (LockOp ServerLock)
  | .connection result => krsServerHandleConnectionFrame descriptor result
  | .heartbeat => krsServerHandleHeartbeatFrame descriptor
  | .disconnect orphans mapped =>
      sDispatchDisconnect descriptor orphans mapped
  | .subscribe result => sDispatchSubscribe descriptor result
  | .unsubscribe reply => sDispatchUnsubscribe descriptor reply
  | .ack result => sDispatchAck result
  | .unknownType => krsLog
  | .reservedChannel => []
  | .app channel reply subscribed feed =>
      sDispatchAppFrame descriptor channel reply subscribed feed

/-! ## The message pool and the message queue -/

/-- `krs_message_pool_acquire`. -/
def krsMessagePoolAcquire : List (LockOp ServerLock) :=
  critical .pool .exclusive

/-- `krs_message_pool_release` of a pooled or a heap message. -/
def krsMessagePoolRelease (pooled : Bool) : List (LockOp ServerLock) :=
  if pooled then critical .pool .exclusive else []

/-- What `krs_message_queue_push` does: it stores the message; it cannot grow
and releases the message; or it releases the oldest message first. -/
inductive PushResult
  | stored
  | notGrown (pooled : Bool)
  | replaced (pooled : Bool)
  deriving DecidableEq, Repr

/-- `krs_message_queue_push`. -/
def krsMessageQueuePush : PushResult -> List (LockOp ServerLock)
  | .stored => critical .queue .exclusive
  | .notGrown pooled =>
      critical .queue .exclusive ++ krsLog ++ krsMessagePoolRelease pooled
  | .replaced pooled =>
      [.acquire .queue .exclusive] ++
        (krsMessagePoolRelease pooled ++ krsLog) ++
        [.release .queue .exclusive]

/-- `krs_message_queue_pop`.  Each wait on the condition variable gives the lock
back and takes it again. -/
def krsMessageQueuePop (waits : Nat) : List (LockOp ServerLock) :=
  (List.replicate (waits + 1) .queue).flatMap fun lock =>
    critical lock .exclusive

/-- `krs_message_queue_stop`. -/
def krsMessageQueueStop : List (LockOp ServerLock) :=
  critical .queue .exclusive

/-- `krs_message_queue_drain` of pooled and heap messages. -/
def krsMessageQueueDrain (messages : List Bool) : List (LockOp ServerLock) :=
  [.acquire .queue .exclusive] ++
    messages.flatMap krsMessagePoolRelease ++
    [.release .queue .exclusive]

/-- `krs_message_queue_destroy`, which has no lock any more. -/
def krsMessageQueueDestroy (messages : List Bool) :
    List (LockOp ServerLock) :=
  messages.flatMap krsMessagePoolRelease

/-! ## The threads of the server -/

/-- What becomes of a datagram: nothing arrived; no buffer was left; or it was
pushed. -/
inductive ReceiveResult
  | nothing
  | noBuffer
  | pushed (result : PushResult)
  deriving DecidableEq, Repr

/-- One turn of `krs_server_iocp_io_thread`, with the failures to receive
again. -/
def krsServerIocpIoThread (failures : Nat) :
    ReceiveResult -> List (LockOp ServerLock)
  | .nothing => (List.replicate failures ()).flatMap fun _ => krsLog
  | .noBuffer =>
      krsMessagePoolAcquire ++ krsLog ++
        (List.replicate failures ()).flatMap fun _ => krsLog
  | .pushed result =>
      krsMessagePoolAcquire ++ krsMessageQueuePush result ++
        (List.replicate failures ()).flatMap fun _ => krsLog

/-- What a handler does with a message. -/
inductive HandlerResult
  | unknownPort
  | invalidProtocol
  | missingBody
  | routed (descriptor : Nat) (frame : RoutedFrame)
  deriving DecidableEq, Repr

/-- The locks of a handler between the pop and the release. -/
def handleMessage : HandlerResult -> List (LockOp ServerLock)
  | .unknownPort => krsLibPortTableLookup false
  | .invalidProtocol => krsLibPortTableLookup true ++ krsLog
  | .missingBody => krsLibPortTableLookup true ++ krsLog
  | .routed descriptor frame =>
      krsLibPortTableLookup true ++ sRouteFrame descriptor frame

/-- One turn of `krs_server_message_handler_thread`, with the message that it
pops, if any. -/
def krsServerMessageHandlerThread (waits : Nat) :
    Option (Bool × HandlerResult) -> List (LockOp ServerLock)
  | none => krsMessageQueuePop waits
  | some (pooled, result) =>
      krsMessageQueuePop waits ++ handleMessage result ++
        krsMessagePoolRelease pooled

/-! ## Sends and broadcasts -/

/-- `krs_connection_map_acquire`. -/
def krsConnectionMapAcquire : List (LockOp ServerLock) :=
  critical .map .shared

/-- What a send does with its data: it cannot build or split it; or it sends
its frames, which it has the tracker expect or not. -/
inductive SendBody
  | notBuilt
  | frames (tracked : Bool) (results : List SendResult)
  deriving DecidableEq, Repr

/-- The locks for a reliable send before its frames are built: the tracker, and
the congestion controller if there is one. -/
def reserveWindow (connection : Nat) (congested : Bool) :
    List (LockOp ServerLock) :=
  critical (.ack connection) .exclusive ++
    if congested then critical (.congestion connection) .exclusive else []

/-- The last part of `krs_server_send`. -/
def sendFrames (connection : Nat) : SendBody -> List (LockOp ServerLock)
  | .notBuilt => []
  | .frames tracked results =>
      (if tracked then critical (.ack connection) .exclusive else []) ++
        results.flatMap krsNetSendFrame

/-- What `krs_server_send` finds: there is no map; the connection is unknown;
an unreliable send; a reliable one with a full window, or with room in it. -/
inductive ServerSend
  | noMap
  | notFound
  | plain (descriptor channel connection : Nat) (body : SendBody)
  | windowFull (descriptor channel connection : Nat)
  | reliable
      (descriptor channel connection : Nat)
      (congested : Bool)
      (body : SendBody)
  deriving DecidableEq, Repr

/-- `krs_server_send`. -/
def krsServerSend : ServerSend -> List (LockOp ServerLock)
  | .noMap => []
  | .notFound => krsConnectionMapAcquire
  | .plain descriptor channel connection body =>
      krsConnectionMapAcquire ++
        critical (.channel descriptor channel) .exclusive ++
        sendFrames connection body
  | .windowFull descriptor channel connection =>
      krsConnectionMapAcquire ++
        critical (.channel descriptor channel) .exclusive ++
        reserveWindow connection true
  | .reliable descriptor channel connection congested body =>
      krsConnectionMapAcquire ++
        critical (.channel descriptor channel) .exclusive ++
        reserveWindow connection congested ++
        sendFrames connection body

/-- `krs_server_send_blocking`: it sends again while the window is full. -/
def krsServerSendBlocking (sends : List ServerSend) :
    List (LockOp ServerLock) :=
  sends.flatMap krsServerSend

/-- `s_broadcast_on_descriptor`: without subscribers, or with the frames sent
to them. -/
def sBroadcastOnDescriptor (descriptor channel : Nat) :
    Option (List SendResult) -> List (LockOp ServerLock)
  | none => critical (.state descriptor) .shared
  | some results =>
      critical (.state descriptor) .shared ++
        critical (.channel descriptor channel) .exclusive ++
        results.flatMap krsNetSendFrame

/-- `krs_server_broadcast` and `krs_server_broadcast_except`. -/
def krsServerBroadcast
    (channel : Nat)
    (descriptors : List (Nat × Option (List SendResult))) :
    List (LockOp ServerLock) :=
  descriptors.flatMap fun entry =>
    sBroadcastOnDescriptor entry.1 channel entry.2

/-- `krs_server_broadcast_reliable`. -/
def krsServerBroadcastReliable
    (descriptors : List (Nat × List ServerSend)) :
    List (LockOp ServerLock) :=
  descriptors.flatMap fun entry =>
    critical (.state entry.1) .shared ++ entry.2.flatMap krsServerSend

/-! ## The retransmit thread -/

/-- What `s_collect_retransmits` finds in a slot of the map. -/
inductive RetransmitSlot
  | skipped
  | noTracker (connection : Nat)
  | checked (connection : Nat) (loss : Bool)
  deriving DecidableEq, Repr

/-- One slot in `s_collect_retransmits`. -/
def collectFromSlot : RetransmitSlot -> List (LockOp ServerLock)
  | .skipped => []
  | .noTracker connection => critical (.ack connection) .exclusive
  | .checked connection loss =>
      critical (.ack connection) .exclusive ++
        if loss then critical (.congestion connection) .exclusive else []

/-- `s_collect_retransmits`, without a map or with its slots. -/
def sCollectRetransmits :
    Option (List RetransmitSlot) -> List (LockOp ServerLock)
  | none => []
  | some slots =>
      [.acquire .map .shared] ++ slots.flatMap collectFromSlot ++
        [.release .map .shared]

/-- `s_flush_retransmits`. -/
def sFlushRetransmits (results : List SendResult) :
    List (LockOp ServerLock) :=
  results.flatMap krsNetSendFrame

/-- `s_evict_stale_connections`. -/
def sEvictStaleConnections (descriptor : Nat) : List (LockOp ServerLock) :=
  [.acquire (.state descriptor) .exclusive] ++
    (List.range 256).flatMap (fun channel =>
      critical (.channel descriptor channel) .exclusive) ++
    [.release (.state descriptor) .exclusive]

/-- `s_retransmit_tick`: what is collected for each descriptor, what is sent,
and how many connections of each descriptor are evicted. -/
def sRetransmitTick
    (collected : List (Option (List RetransmitSlot)))
    (sent : List SendResult)
    (evicted : List (Nat × Nat × Bool)) : List (LockOp ServerLock) :=
  collected.flatMap sCollectRetransmits ++ sFlushRetransmits sent ++
    evicted.flatMap fun entry =>
      sEvictStaleConnections entry.1 ++
        krsServerFinalizeOrphanEvictions entry.2.1 entry.2.2

/-! ## Stopping, and setting callbacks -/

/-- `s_sweep_active_connections_on_stop`: the rounds of each descriptor, with
the connections that they find. -/
def sSweepActiveConnectionsOnStop (rounds : List (Nat × Nat)) :
    List (LockOp ServerLock) :=
  rounds.flatMap fun round =>
    critical (.state round.1) .exclusive ++
      krsServerFinalizeOrphanEvictions round.2 true

/-- `krs_wsa_cleanup`. -/
def krsWsaCleanup : List (LockOp ServerLock) := critical .wsa .exclusive

/-- `krs_server_stop`, with the messages left in the queue. -/
def krsServerStop (rounds : List (Nat × Nat)) (messages : List Bool) :
    List (LockOp ServerLock) :=
  krsMessageQueueStop ++ sSweepActiveConnectionsOnStop rounds ++
    krsMessageQueueDrain messages ++ krsMessageQueueDestroy [] ++
    krsWsaCleanup

/-- `krs_server_set_port_callback` and `krs_server_set_channel_callback`. -/
def setCallback (descriptor : Option Nat) : List (LockOp ServerLock) :=
  krsLibPortTableLookup descriptor.isSome ++
    descriptor.elim [] fun descriptor =>
      critical (.state descriptor) .exclusive

end Locks

open Locks in
/-- A path of the server, with what its branches find. -/
inductive ServerCall
  | ioTurn (failures : Nat) (result : ReceiveResult)
  | handlerTurn (waits : Nat) (message : Option (Bool × HandlerResult))
  | routeFrame (descriptor : Nat) (frame : RoutedFrame)
  | retransmitTick
      (collected : List (Option (List RetransmitSlot)))
      (sent : List SendResult)
      (evicted : List (Nat × Nat × Bool))
  | send (request : ServerSend)
  | sendBlocking (requests : List ServerSend)
  | broadcast
      (channel : Nat)
      (descriptors : List (Nat × Option (List SendResult)))
  | broadcastReliable (descriptors : List (Nat × List ServerSend))
  | setCallback (descriptor : Option Nat)
  | poolAcquire
  | poolRelease (pooled : Bool)
  | queuePush (result : PushResult)
  | queuePop (waits : Nat)
  | queueStop
  | queueDrain (messages : List Bool)
  | queueDestroy (messages : List Bool)
  | stop (rounds : List (Nat × Nat)) (messages : List Bool)
  deriving DecidableEq, Repr

/-- The lock operations of a path. -/
def ServerCall.locks : ServerCall -> List (LockOp ServerLock)
  | .ioTurn failures result => Locks.krsServerIocpIoThread failures result
  | .handlerTurn waits message =>
      Locks.krsServerMessageHandlerThread waits message
  | .routeFrame descriptor frame => Locks.sRouteFrame descriptor frame
  | .retransmitTick collected sent evicted =>
      Locks.sRetransmitTick collected sent evicted
  | .send request => Locks.krsServerSend request
  | .sendBlocking requests => Locks.krsServerSendBlocking requests
  | .broadcast channel descriptors =>
      Locks.krsServerBroadcast channel descriptors
  | .broadcastReliable descriptors =>
      Locks.krsServerBroadcastReliable descriptors
  | .setCallback descriptor => Locks.setCallback descriptor
  | .poolAcquire => Locks.krsMessagePoolAcquire
  | .poolRelease pooled => Locks.krsMessagePoolRelease pooled
  | .queuePush result => Locks.krsMessageQueuePush result
  | .queuePop waits => Locks.krsMessageQueuePop waits
  | .queueStop => Locks.krsMessageQueueStop
  | .queueDrain messages => Locks.krsMessageQueueDrain messages
  | .queueDestroy messages => Locks.krsMessageQueueDestroy messages
  | .stop rounds messages => Locks.krsServerStop rounds messages

/-! ## Every path keeps to the order -/

namespace Locks

variable {held : List (ServerLock × LockMode)}

/-- A section of its own, while no lock is held. -/
theorem balanced_critical (lock : ServerLock) (mode : LockMode) :
    Balanced ServerLock.Above [] (critical lock mode) :=
  Balanced.critical (by simp) mode

/-- Sections under one lock that is above theirs. -/
theorem balanced_critical_below
    {upper lock : ServerLock}
    {mode : LockMode}
    (above : upper.Above lock)
    (inner : LockMode) :
    Balanced ServerLock.Above [(upper, mode)] (critical lock inner) :=
  Balanced.critical (by simpa using above) inner

theorem balanced_krsNetSendFrame (result : SendResult) :
    Balanced ServerLock.Above [] (krsNetSendFrame result) := by
  cases result with
  | notBuilt => exact Balanced.nil
  | sent => exact Balanced.nil
  | failed => exact balanced_critical _ _

theorem balanced_replyIfRequired (reply : Option SendResult) :
    Balanced ServerLock.Above [] (replyIfRequired reply) := by
  cases reply with
  | none => exact Balanced.nil
  | some result => exact balanced_krsNetSendFrame result

theorem balanced_krsLibPortTableLookup (found : Bool) :
    Balanced ServerLock.Above [] (krsLibPortTableLookup found) := by
  cases found with
  | false => exact balanced_critical _ _
  | true => exact Balanced.nil

theorem balanced_krsServerHandleConnectionFrame
    (descriptor : Nat)
    (result : ConnectionResult) :
    Balanced ServerLock.Above []
      (krsServerHandleConnectionFrame descriptor result) := by
  have state := balanced_critical (.state descriptor) .exclusive
  cases result with
  | existing reply => exact state.append (balanced_krsNetSendFrame reply)
  | noMemory => exact state.append (balanced_critical _ _)
  | notRegistered => exact state.append (balanced_critical _ _)
  | created mapped reply =>
      refine (state.append ?_).append (balanced_krsNetSendFrame reply)
      cases mapped with
      | false => exact Balanced.nil
      | true => exact balanced_critical _ _

theorem balanced_krsServerFinalizeOrphanEvictions
    (orphans : Nat)
    (mapped : Bool) :
    Balanced ServerLock.Above []
      (krsServerFinalizeOrphanEvictions orphans mapped) := by
  unfold krsServerFinalizeOrphanEvictions
  split
  case isTrue => exact Balanced.nil
  case isFalse =>
      cases mapped with
      | false => exact Balanced.nil
      | true => exact balanced_critical _ _

theorem balanced_sDispatchAck (result : AckResult) :
    Balanced ServerLock.Above [] (sDispatchAck result) := by
  cases result with
  | noMap => exact Balanced.nil
  | unknownAddress => exact balanced_critical _ _
  | known connection adjusts =>
      apply Balanced.within (by simp)
      have ack : Balanced ServerLock.Above [(.map, .shared)]
          (critical (.ack connection) .exclusive) :=
        balanced_critical_below (by trivial) .exclusive
      apply ack.append
      cases adjusts with
      | false => exact Balanced.nil
      | true => exact (balanced_critical_below (by trivial) _).append ack

theorem balanced_sDispatchSubscribe
    (descriptor : Nat)
    (result : SubscribeResult) :
    Balanced ServerLock.Above [] (sDispatchSubscribe descriptor result) := by
  have state := balanced_critical (.state descriptor) .exclusive
  cases result with
  | noBody => exact Balanced.nil
  | outOfRange => exact balanced_critical _ _
  | refused => exact state.append (balanced_critical _ _)
  | committed reply => exact state.append (balanced_replyIfRequired reply)

theorem balanced_deliverAppFrame
    (descriptor : Nat)
    (reply : Option SendResult)
    (subscribed : Bool) :
    Balanced ServerLock.Above []
      (deliverAppFrame descriptor reply subscribed) := by
  refine ((balanced_replyIfRequired reply).append
    (balanced_critical _ _)).append ?_
  cases subscribed with
  | false => exact balanced_critical _ _
  | true => exact Balanced.nil

theorem balanced_sDispatchAppFrame
    (descriptor channel : Nat)
    (reply : Option SendResult)
    (subscribed : Bool)
    (feed : FeedResult) :
    Balanced ServerLock.Above []
      (sDispatchAppFrame descriptor channel reply subscribed feed) := by
  have fed := balanced_critical (.channel descriptor channel) .exclusive
  have delivered := balanced_deliverAppFrame descriptor reply subscribed
  cases feed with
  | whole => exact delivered
  | noReassembler => exact fed.append (balanced_critical _ _)
  | incomplete => exact fed
  | complete => exact fed.append delivered

theorem balanced_sRouteFrame
    (descriptor : Nat)
    (frame : RoutedFrame) :
    Balanced ServerLock.Above [] (sRouteFrame descriptor frame) := by
  cases frame with
  | connection result =>
      exact balanced_krsServerHandleConnectionFrame descriptor result
  | heartbeat => exact balanced_critical _ _
  | disconnect orphans mapped =>
      exact (balanced_critical _ _).append
        (balanced_krsServerFinalizeOrphanEvictions orphans mapped)
  | subscribe result => exact balanced_sDispatchSubscribe descriptor result
  | unsubscribe reply =>
      cases reply with
      | none => exact Balanced.nil
      | some reply =>
          exact (balanced_critical _ _).append
            (balanced_replyIfRequired reply)
  | ack result => exact balanced_sDispatchAck result
  | unknownType => exact balanced_critical _ _
  | reservedChannel => exact Balanced.nil
  | app channel reply subscribed feed =>
      exact balanced_sDispatchAppFrame descriptor channel reply subscribed
        feed

/-- A message is released under no lock, or under that of the queue. -/
theorem balanced_krsMessagePoolRelease
    (above : ∀ other ∈ held, ServerLock.Above other.1 .pool)
    (pooled : Bool) :
    Balanced ServerLock.Above held (krsMessagePoolRelease pooled) := by
  cases pooled with
  | false => exact Balanced.nil
  | true => exact Balanced.critical above _

theorem balanced_krsMessageQueuePush (result : PushResult) :
    Balanced ServerLock.Above [] (krsMessageQueuePush result) := by
  cases result with
  | stored => exact balanced_critical _ _
  | notGrown pooled =>
      exact ((balanced_critical _ _).append (balanced_critical _ _)).append
        (balanced_krsMessagePoolRelease (by simp) pooled)
  | replaced pooled =>
      apply Balanced.within (by simp)
      exact (balanced_krsMessagePoolRelease (by simp [ServerLock.Above])
        pooled).append (balanced_critical_below (by trivial) _)

theorem balanced_krsMessageQueuePop (waits : Nat) :
    Balanced ServerLock.Above [] (krsMessageQueuePop waits) :=
  Balanced.flatMap (fun lock => balanced_critical lock .exclusive) _

theorem balanced_krsMessageQueueDrain (messages : List Bool) :
    Balanced ServerLock.Above [] (krsMessageQueueDrain messages) :=
  Balanced.within (by simp)
    (Balanced.flatMap
      (balanced_krsMessagePoolRelease (by simp [ServerLock.Above])) messages)

theorem balanced_krsServerIocpIoThread
    (failures : Nat)
    (result : ReceiveResult) :
    Balanced ServerLock.Above [] (krsServerIocpIoThread failures result) := by
  have logged : Balanced ServerLock.Above []
      ((List.replicate failures ()).flatMap fun _ => krsLog) :=
    Balanced.flatMap (fun _ => balanced_critical _ _) _
  have acquired := balanced_critical .pool .exclusive
  cases result with
  | nothing => exact logged
  | noBuffer => exact (acquired.append (balanced_critical _ _)).append logged
  | pushed result =>
      exact (acquired.append (balanced_krsMessageQueuePush result)).append
        logged

theorem balanced_handleMessage (result : HandlerResult) :
    Balanced ServerLock.Above [] (handleMessage result) := by
  have found := balanced_krsLibPortTableLookup true
  cases result with
  | unknownPort => exact balanced_krsLibPortTableLookup false
  | invalidProtocol => exact found.append (balanced_critical _ _)
  | missingBody => exact found.append (balanced_critical _ _)
  | routed descriptor frame =>
      exact found.append (balanced_sRouteFrame descriptor frame)

theorem balanced_krsServerMessageHandlerThread
    (waits : Nat)
    (message : Option (Bool × HandlerResult)) :
    Balanced ServerLock.Above []
      (krsServerMessageHandlerThread waits message) := by
  have popped := balanced_krsMessageQueuePop waits
  cases message with
  | none => exact popped
  | some message =>
      exact (popped.append (balanced_handleMessage message.2)).append
        (balanced_krsMessagePoolRelease (by simp) message.1)

theorem balanced_reserveWindow (connection : Nat) (congested : Bool) :
    Balanced ServerLock.Above [] (reserveWindow connection congested) := by
  apply (balanced_critical _ _).append
  cases congested with
  | false => exact Balanced.nil
  | true => exact balanced_critical _ _

theorem balanced_sendFrames (connection : Nat) (body : SendBody) :
    Balanced ServerLock.Above [] (sendFrames connection body) := by
  cases body with
  | notBuilt => exact Balanced.nil
  | frames tracked results =>
      have sent := Balanced.flatMap balanced_krsNetSendFrame results
      cases tracked with
      | false => exact Balanced.nil.append sent
      | true => exact (balanced_critical _ _).append sent

theorem balanced_krsServerSend (request : ServerSend) :
    Balanced ServerLock.Above [] (krsServerSend request) := by
  have found := balanced_critical .map .shared
  have numbered := fun descriptor channel =>
    found.append (balanced_critical (.channel descriptor channel) .exclusive)
  cases request with
  | noMap => exact Balanced.nil
  | notFound => exact found
  | plain descriptor channel connection body =>
      exact (numbered descriptor channel).append
        (balanced_sendFrames connection body)
  | windowFull descriptor channel connection =>
      exact (numbered descriptor channel).append
        (balanced_reserveWindow connection true)
  | reliable descriptor channel connection congested body =>
      exact ((numbered descriptor channel).append
        (balanced_reserveWindow connection congested)).append
        (balanced_sendFrames connection body)

theorem balanced_sBroadcastOnDescriptor
    (descriptor channel : Nat)
    (results : Option (List SendResult)) :
    Balanced ServerLock.Above []
      (sBroadcastOnDescriptor descriptor channel results) := by
  have state := balanced_critical (.state descriptor) .shared
  cases results with
  | none => exact state
  | some results =>
      exact (state.append (balanced_critical _ _)).append
        (Balanced.flatMap balanced_krsNetSendFrame results)

theorem balanced_sCollectRetransmits
    (slots : Option (List RetransmitSlot)) :
    Balanced ServerLock.Above [] (sCollectRetransmits slots) := by
  cases slots with
  | none => exact Balanced.nil
  | some slots =>
      apply Balanced.within (by simp)
      apply Balanced.flatMap
      intro slot
      cases slot with
      | skipped => exact Balanced.nil
      | noTracker connection => exact balanced_critical_below (by trivial) _
      | checked connection loss =>
          apply (balanced_critical_below (by trivial) _).append
          cases loss with
          | false => exact Balanced.nil
          | true => exact balanced_critical_below (by trivial) _

theorem balanced_sEvictStaleConnections (descriptor : Nat) :
    Balanced ServerLock.Above [] (sEvictStaleConnections descriptor) := by
  apply Balanced.within (by simp)
  apply Balanced.flatMap
  intro channel
  exact balanced_critical_below (by trivial) _

theorem balanced_sRetransmitTick
    (collected : List (Option (List RetransmitSlot)))
    (sent : List SendResult)
    (evicted : List (Nat × Nat × Bool)) :
    Balanced ServerLock.Above [] (sRetransmitTick collected sent evicted) := by
  refine ((Balanced.flatMap balanced_sCollectRetransmits collected).append
    (Balanced.flatMap balanced_krsNetSendFrame sent)).append ?_
  apply Balanced.flatMap
  intro entry
  exact (balanced_sEvictStaleConnections entry.1).append
    (balanced_krsServerFinalizeOrphanEvictions entry.2.1 entry.2.2)

theorem balanced_krsServerStop
    (rounds : List (Nat × Nat))
    (messages : List Bool) :
    Balanced ServerLock.Above [] (krsServerStop rounds messages) := by
  have swept : Balanced ServerLock.Above []
      (sSweepActiveConnectionsOnStop rounds) := by
    apply Balanced.flatMap
    intro round
    exact (balanced_critical _ _).append
      (balanced_krsServerFinalizeOrphanEvictions round.2 true)
  have stopped := (balanced_critical .queue .exclusive).append swept
  have drained := stopped.append (balanced_krsMessageQueueDrain messages)
  exact (drained.append Balanced.nil).append (balanced_critical _ _)

theorem balanced_setCallback (descriptor : Option Nat) :
    Balanced ServerLock.Above [] (setCallback descriptor) := by
  apply (balanced_krsLibPortTableLookup _).append
  cases descriptor with
  | none => exact Balanced.nil
  | some descriptor => exact balanced_critical _ _

end Locks

open Locks in
theorem ServerCall.balanced (call : ServerCall) :
    Balanced ServerLock.Above [] call.locks := by
  cases call with
  | ioTurn failures result =>
      exact balanced_krsServerIocpIoThread failures result
  | handlerTurn waits message =>
      exact balanced_krsServerMessageHandlerThread waits message
  | routeFrame descriptor frame => exact balanced_sRouteFrame descriptor frame
  | retransmitTick collected sent evicted =>
      exact balanced_sRetransmitTick collected sent evicted
  | send request => exact balanced_krsServerSend request
  | sendBlocking requests =>
      exact Balanced.flatMap balanced_krsServerSend requests
  | broadcast channel descriptors =>
      exact Balanced.flatMap (fun entry =>
        balanced_sBroadcastOnDescriptor entry.1 channel entry.2) descriptors
  | broadcastReliable descriptors =>
      exact Balanced.flatMap (fun entry => (balanced_critical _ _).append
        (Balanced.flatMap balanced_krsServerSend entry.2)) descriptors
  | setCallback descriptor => exact balanced_setCallback descriptor
  | poolAcquire => exact balanced_critical _ _
  | poolRelease pooled =>
      exact balanced_krsMessagePoolRelease (by simp) pooled
  | queuePush result => exact balanced_krsMessageQueuePush result
  | queuePop waits => exact balanced_krsMessageQueuePop waits
  | queueStop => exact balanced_critical _ _
  | queueDrain messages => exact balanced_krsMessageQueueDrain messages
  | queueDestroy messages =>
      exact Balanced.flatMap (balanced_krsMessagePoolRelease (by simp))
        messages
  | stop rounds messages => exact balanced_krsServerStop rounds messages

/-- Threads that run any paths of the server, one after the other. -/
def serverThreads (calls : List (List ServerCall)) :
    List (LockThread ServerLock) :=
  calls.map fun calls => { program := calls.flatMap ServerCall.locks }

/-- Every path of the server acquires a lock only while all locks that it holds
are above it in the documented order, releases only what it holds, and returns
without a lock.  So do any number of threads that run any paths in any
interleaving, and no threads are ever in a deadlock. -/
theorem server_locks_descend
    (calls : List (List ServerCall))
    {schedule : List Nat}
    {threads : List (LockThread ServerLock)}
    (reached : run lockStep (serverThreads calls) schedule = some threads) :
    (∀ call : ServerCall, Balanced ServerLock.Above [] call.locks) ∧
    (∀ thread ∈ threads, ∀ lock, thread.WaitsFor lock ->
      ∀ other ∈ thread.held, ServerLock.Above other.1 lock) ∧
    (∀ thread ∈ threads, ∀ lock mode program,
      thread.program = .release lock mode :: program ->
        (lock, mode) ∈ thread.held) ∧
    (∀ thread ∈ threads, thread.program = [] -> thread.held = []) ∧
    ∀ stuck : Set Nat, ¬ Deadlocked threads stuck := by
  have initially : ∀ thread ∈ serverThreads calls,
      thread.KeepsOrder ServerLock.Above := by
    intro thread member
    obtain ⟨path, -, rfl⟩ := List.mem_map.mp member
    exact Balanced.flatMap ServerCall.balanced path
  have keep := run_keepsOrder initially reached
  refine ⟨ServerCall.balanced, ?_, ?_, ?_, ?_⟩
  · intro thread member lock waits
    exact (keep thread member).above waits
  · intro thread member lock mode program next
    have keeps := keep thread member
    rw [LockThread.KeepsOrder, next] at keeps
    exact keeps.1
  · intro thread member done
    have keeps := keep thread member
    rw [LockThread.KeepsOrder, done] at keeps
    exact keeps
  · exact not_deadlocked serverLock_wellFounded keep

/-- An acknowledgement is dispatched while the retransmit thread collects. -/
def contendingCalls : List (List ServerCall) :=
  [[.routeFrame 0 (.ack (.known 7 true))],
    [.retransmitTick [some [.checked 7 true]] [.sent] [(0, 1, true)]]]

/-- Both threads share the lock of the map, and the first holds the lock of the
tracker for which the second waits. -/
def contendingThreads : List (LockThread ServerLock) :=
  (run lockStep (serverThreads contendingCalls) [0, 1, 0]).getD []

theorem contending_threads_not_deadlocked :
    run lockStep (serverThreads contendingCalls) [0, 1, 0] =
      some contendingThreads ∧
    contendingThreads.map (fun thread => thread.program.head?) =
      [some (.release (.ack 7) .exclusive),
        some (.acquire (.ack 7) .exclusive)] ∧
    ∀ stuck : Set Nat, ¬ Deadlocked contendingThreads stuck := by
  have reached : run lockStep (serverThreads contendingCalls) [0, 1, 0] =
      some contendingThreads := by
    decide +kernel
  refine ⟨reached, by decide +kernel, ?_⟩
  exact (server_locks_descend contendingCalls reached).2.2.2.2

/-! ## Every call returns -/

theorem serverThreads_keepOrder (calls : List (List ServerCall)) :
    ∀ thread ∈ serverThreads calls, thread.KeepsOrder ServerLock.Above := by
  intro thread member
  obtain ⟨path, -, rfl⟩ := List.mem_map.mp member
  exact Balanced.flatMap ServerCall.balanced path

/-- Whatever the threads of the server have done so far, they are done or one
of them can go on.  No schedule is longer than the operations of all calls, and
every schedule can be continued until all calls have returned and every lock is
released. -/
theorem server_calls_return
    (calls : List (List ServerCall))
    {schedule : List Nat}
    {threads : List (LockThread ServerLock)}
    (reached : run lockStep (serverThreads calls) schedule = some threads) :
    ((∀ thread ∈ threads, thread.program = []) ∨
      ∃ position after, lockStep threads position = some after) ∧
    (∀ rest final, run lockStep threads rest = some final ->
      schedule.length + rest.length ≤ remaining (serverThreads calls)) ∧
    ∃ rest final, run lockStep threads rest = some final ∧
      ∀ thread ∈ final, thread.program = [] ∧ thread.held = [] := by
  have keep := run_keepsOrder (serverThreads_keepOrder calls) reached
  refine ⟨?_, ?_, ?_⟩
  · by_cases unfinished : ∃ thread ∈ threads, thread.program ≠ []
    · exact Or.inr (lockStep_of_unfinished serverLock_wellFounded keep
        unfinished)
    · refine Or.inl fun thread member => ?_
      by_contra works
      exact unfinished ⟨thread, member, works⟩
  · intro rest final continued
    rw [run_remaining reached, run_remaining continued]
    omega
  · obtain ⟨rest, final, continued, finished⟩ :=
      run_finishes serverLock_wellFounded keep
    refine ⟨rest, final, continued, ?_⟩
    intro thread member
    have keeps := run_keepsOrder keep continued thread member
    rw [LockThread.KeepsOrder, finished thread member] at keeps
    exact ⟨finished thread member, keeps⟩

/-- While the first of the contending threads holds the tracker's lock, they
can still all return. -/
theorem contending_calls_return :
    run lockStep (serverThreads contendingCalls) [0, 1, 0] =
      some contendingThreads ∧
    ∃ rest final, run lockStep contendingThreads rest = some final ∧
      ∀ thread ∈ final, thread.program = [] ∧ thread.held = [] := by
  have reached : run lockStep (serverThreads contendingCalls) [0, 1, 0] =
      some contendingThreads := by
    decide +kernel
  exact ⟨reached, (server_calls_return contendingCalls reached).2.2⟩

end Kronos
