import Kronos.Library.ThreadPool
import Kronos.Server.Broadcast
import Kronos.Server.Lists

/-!
# The server as a pool of threads

Handlers, eviction ticks, sends and broadcasts on any number of threads, with
each section under a lock and each change of a reference count as one step.
Between its steps a thread keeps the connections it still has to enter into the
map, to release or to use.  A new connection is on the list of channel 0 before
its handler enters it into the map.

Frames and callbacks are those of the sequential handlers, and a thread that
sends them only reads the connection.  The lemmas at the end put the steps of
one thread together to the handlers of the sequential server.
-/

namespace Kronos

open Library

/-! ## Threads -/

/-- The arguments of a `krs_server_send`, with what its clock and its
allocations answer. -/
structure SendRequest where
  channel : Channel
  data : List UInt8
  length : UInt16
  requireAck : Bool
  clock : Nat -> UInt64 := fun _ => 0
  allocations : SendAllocations := {}

/-- What a thread goes on with after its last step:
`register` before the map entry of a new connection, `welcome` before the
`SOCKET_ACK` and the callback, which read the connection once more, `remove`
and `finalize` in `krs_server_finalize_orphan_evictions`, before the section of
the map and while the connections are released, `send` and `broadcast` before
the use of acquired connections, and `release` while they are given back. -/
inductive ServerThread
  | register (descriptor : Nat) (connection : ConnectionRef)
  | welcome (connection : ConnectionRef)
  | remove (orphans : List ConnectionRef)
  | finalize (orphanCount : Nat) (orphans : List ConnectionRef)
  | send (entry : ConnectionMapEntry) (request : SendRequest)
  | broadcast (descriptor : Nat) (channel : Channel)
      (snapshot : List ConnectionRef)
  | release (held : List ConnectionRef)

namespace ServerThread

/-- Connections that the thread has acquired. -/
def acquired : ServerThread -> List ConnectionRef
  | send entry _ => [entry.connection]
  | broadcast _ _ snapshot => snapshot
  | release held => held
  | _ => []

/-- Orphans that are still in the map. -/
def removing : ServerThread -> List ConnectionRef
  | remove orphans => orphans
  | _ => []

/-- Orphans that are still to be released. -/
def releasing : ServerThread -> List ConnectionRef
  | finalize _ orphans => orphans
  | _ => []

/-- The connection that the thread is about to enter into the map. -/
def registering : ServerThread -> List ConnectionRef
  | register _ connection => [connection]
  | _ => []

/-- The connection whose handler is about to return. -/
def welcoming : ServerThread -> List ConnectionRef
  | welcome connection => [connection]
  | _ => []

/-- The connections that the thread still follows a pointer to. -/
def pointers (thread : ServerThread) : List ConnectionRef :=
  thread.acquired ++ thread.removing ++ thread.releasing ++
    thread.registering ++ thread.welcoming

end ServerThread

/-- What a freed connection was at that moment: on a list, in the map, or in
the hands of another thread. -/
structure FreeRecord where
  connection : ConnectionRef
  listed : Bool
  mapped : Bool
  held : Bool
  deriving DecidableEq, Repr

/-- The server with its threads.  The run records each `free`. -/
structure ThreadedServer where
  spm : ServerPortManager
  threads : List ServerThread := []
  frees : List FreeRecord := []

/-- The connection is on a list. -/
def isListed (spm : ServerPortManager) (connection : ConnectionRef) : Bool :=
  spm.descriptorList.any fun desc =>
    allChannels.any fun channel =>
      (desc.connectionsOf channel).contains connection

/-- The map has an entry with the connection. -/
def isMapped (map : ConnectionMap) (connection : ConnectionRef) : Bool :=
  map.entries.slots.any fun slot =>
    slot.value?.any fun entry => entry.connection == connection

/-- The next release of the connection frees it. -/
def isLastReference
    (spm : ServerPortManager)
    (connection : ConnectionRef) : Bool :=
  match spm.connections[connection]? with
  | none => false
  | some conn => conn.refcount - 1 == 0

/-! ## Steps -/

/-- `InterlockedIncrement(&conn->refcount)`. -/
def acquireConnection
    (spm : ServerPortManager)
    (connection : ConnectionRef) : ServerPortManager :=
  spm.modifyConnection connection fun conn =>
    { conn with refcount := conn.refcount + 1 }

/-- The map entry of a new connection. -/
def registerConnection
    (spm : ServerPortManager)
    (descriptor : Nat)
    (connection : ConnectionRef)
    (entriesGrown addrGrown : Bool) : ServerPortManager :=
  match spm.connections[connection]? with
  | none => spm
  | some conn =>
      { spm with
        connectionMap := krsConnectionMapPut spm.connectionMap
          conn.connectionId
          { descriptor := descriptor, connection := connection }
          conn.remoteAddress entriesGrown addrGrown }

/-- The section of `krs_server_finalize_orphan_evictions` under the lock of the
map. -/
def removeOrphans
    (spm : ServerPortManager)
    (orphans : List ConnectionRef) : ServerPortManager :=
  { spm with
    connectionMap := (orphans.map spm.connectionIdOf).foldl
      (fun map connectionId =>
        krsConnectionMapRemove map spm.addressOf connectionId)
      spm.connectionMap }

/-- The count of disconnections after orphans were released. -/
def countDisconnections
    (spm : ServerPortManager)
    (orphanCount : Nat) : ServerPortManager :=
  { spm with
    stats :=
      { spm.stats with
        disconnections := spm.stats.disconnections +
          UInt64.ofNat orphanCount } }

/-- What `krs_server_send` does between acquiring and releasing. -/
def useForSend
    (spm : ServerPortManager)
    (entry : ConnectionMapEntry)
    (request : SendRequest) : ServerPortManager :=
  match spm.connections[entry.connection]?,
      spm.descriptorList[entry.descriptor]? with
  | some target, some desc =>
      let numbered := nextPacketId request.channel request.allocations.counter
        (desc.channelStates request.channel)
      let sent := sendOn target request.channel numbered.1 request.data
        request.length request.requireAck request.clock request.allocations
      { spm with
        descriptorList := spm.descriptorList.modify entry.descriptor
          (·.modifyChannel request.channel fun _ => numbered.2)
        connections := spm.connections.set entry.connection sent.1
        stats :=
          { spm.stats with
            messagesSent := spm.stats.messagesSent +
              UInt64.ofNat sent.2.2.length } }
  | _, _ => spm

/-- The section of a broadcast under the lock of the channel. -/
def numberBroadcast
    (spm : ServerPortManager)
    (descriptor : Nat)
    (channel : Channel)
    (count : Nat)
    (counter : Bool) : ServerPortManager :=
  spm.modifyDescriptor descriptor
    (·.modifyChannel channel fun state =>
      (broadcastPacketIds channel count (ensureCounter counter state)).2)

namespace ThreadedServer

/-- A thread releases a connection and goes on. -/
def releaseBy
    (current : ThreadedServer)
    (position : Nat)
    (connection : ConnectionRef)
    (next : List ServerThread) : ThreadedServer :=
  { spm := krsConnectionMapRelease current.spm connection
    threads := splice current.threads position next
    frees :=
      if isLastReference current.spm connection then
        current.frees ++
          [{ connection := connection
             listed := isListed current.spm connection
             mapped := isMapped current.spm.connectionMap connection
             held := (current.threads.eraseIdx position).any fun other =>
               other.pointers.contains connection }]
      else current.frees }

/-- A thread that goes on after a change of the server's state. -/
def goOn
    (current : ThreadedServer)
    (position : Nat)
    (spm : ServerPortManager)
    (next : List ServerThread) : ThreadedServer :=
  { current with
    spm := spm
    threads := splice current.threads position next }

/-- A handler that has left its section, with what it goes on with. -/
def spawn
    (current : ThreadedServer)
    (spm : ServerPortManager)
    (next : List ServerThread) : ThreadedServer :=
  { current with spm := spm, threads := current.threads ++ next }

end ThreadedServer

/-- What the allocations of a step answer. -/
structure StepOutcomes where
  entriesGrown : Bool := true
  addrGrown : Bool := true
  counter : Bool := true

/-- The step that a thread takes next. -/
def advance
    (current : ThreadedServer)
    (position : Nat)
    (outcomes : StepOutcomes) : ServerThread -> ThreadedServer
  | .register descriptor connection =>
      current.goOn position
        (registerConnection current.spm descriptor connection
          outcomes.entriesGrown outcomes.addrGrown)
        [.welcome connection]
  | .welcome _ => current.goOn position current.spm []
  | .remove orphans =>
      current.goOn position (removeOrphans current.spm orphans)
        [.finalize orphans.length orphans]
  | .finalize orphanCount [] =>
      current.goOn position (countDisconnections current.spm orphanCount) []
  | .finalize orphanCount (connection :: orphans) =>
      current.releaseBy position connection [.finalize orphanCount orphans]
  | .send entry request =>
      current.goOn position (useForSend current.spm entry request)
        [.release [entry.connection]]
  | .broadcast descriptor channel snapshot =>
      current.goOn position
        (numberBroadcast current.spm descriptor channel snapshot.length
          outcomes.counter)
        [.release snapshot]
  | .release [] => current.goOn position current.spm []
  | .release (connection :: held) =>
      current.releaseBy position connection [.release held]

/-- What can happen: a handler or a call takes its first section, or a thread
takes its next step. -/
inductive ThreadEvent
  | connection (descriptor : Nat) (remoteAddr : PortAddress) (now : UInt64)
      (allocations : ConnectAllocations)
  | disconnect (descriptor : Nat) (remoteAddr : PortAddress)
  | evict (descriptor : Nat) (now : UInt64)
  | heartbeat (descriptor : Nat) (remoteAddr : PortAddress) (now : UInt64)
  | subscribe (descriptor : Nat) (frame : Frame) (remoteAddr : PortAddress)
      (created pushed : Bool)
  | unsubscribe (descriptor : Nat) (frame : Frame)
      (remoteAddr : PortAddress)
  | send (connectionId : UInt32) (request : SendRequest)
  | broadcast (descriptor : Nat) (channel : Channel) (excludeId : UInt32)
  | advance (position : Nat) (outcomes : StepOutcomes)

/-- The thread that finalizes orphans, if there are any. -/
def finalizing (orphans : List ConnectionRef) : List ServerThread :=
  if orphans.length = 0 then [] else [.remove orphans]

/-- One step of the server. -/
def threadStep (current : ThreadedServer) :
    ThreadEvent -> Option ThreadedServer
  | .connection descriptor remoteAddr now allocations =>
      let next := connectionSection current.spm descriptor remoteAddr now
        allocations
      some (current.spawn next
        (if current.spm.connections.length < next.connections.length then
          [.register descriptor current.spm.connections.length]
        else []))
  | .disconnect descriptor remoteAddr =>
      let left := disconnectSection current.spm descriptor remoteAddr
      some (current.spawn left.2 (finalizing left.1))
  | .evict descriptor now =>
      let left := evictSection current.spm descriptor now
      some (current.spawn left.2 (finalizing left.1))
  | .heartbeat descriptor remoteAddr now =>
      some (current.spawn
        (krsServerHandleHeartbeatFrame current.spm descriptor remoteAddr now)
        [])
  | .subscribe descriptor frame remoteAddr created pushed =>
      some (current.spawn
        (dispatchSubscribe current.spm descriptor frame remoteAddr created
          pushed true).1 [])
  | .unsubscribe descriptor frame remoteAddr =>
      some (current.spawn
        (dispatchUnsubscribe current.spm descriptor frame remoteAddr true).1
        [])
  | .send connectionId request =>
      match krsConnectionMapGet current.spm.connectionMap connectionId with
      | none => some current
      | some entry =>
          some (current.spawn
            (acquireConnection current.spm entry.connection)
            [.send entry request])
  | .broadcast descriptor channel excludeId =>
      match current.spm.descriptorList[descriptor]? with
      | none => some current
      | some desc =>
          match (desc.channelStates channel).connections with
          | none => some current
          | some conns =>
              (broadcastSnapshot current.spm excludeId [] conns).map
                fun snapshot =>
                  current.spawn
                    (snapshot.foldl acquireConnection current.spm)
                    [.broadcast descriptor channel snapshot]
  | .advance position outcomes =>
      (current.threads[position]?).map (advance current position outcomes)

/-! ## The sequential handlers -/

/-- A `CONNECTION` is its section and, for a new connection, the map entry. -/
theorem krsServerHandleConnectionFrame_steps
    (spm : ServerPortManager)
    (descriptor : Nat)
    (remoteAddr : PortAddress)
    (now : UInt64)
    (allocations : ConnectAllocations) :
    let next := connectionSection spm descriptor remoteAddr now allocations
    (krsServerHandleConnectionFrame spm descriptor remoteAddr now
        allocations).1 =
      if spm.connections.length < next.connections.length then
        registerConnection next descriptor spm.connections.length true true
      else next := by
  have heap : spm.connections = (spm.modifyDescriptor descriptor
      (·.modifyChannel 0 (ensureConnections
        allocations.array))).connections := rfl
  unfold krsServerHandleConnectionFrame connectionSection acceptConnection
  dsimp only
  rw [heap]
  generalize spm.modifyDescriptor descriptor _ = opened
  obtain missing | ⟨desc, read⟩ :=
    (opened.descriptorList[descriptor]?).eq_none_or_eq_some
  · simp [missing]
  · simp only [read]
    obtain unknown | ⟨existing, found⟩ :=
      ((desc.connectionsOf 0).find?
        (opened.hasAddress remoteAddr)).eq_none_or_eq_some
    · simp only [unknown]
      cases allocations.connection with
      | false => simp
      | true =>
          simp only [Bool.not_true, Bool.false_eq_true, if_false]
          split
          case isTrue => simp
          case isFalse => simp [registerConnection]
    · simp [found, ServerPortManager.modifyConnection]

/-- A finalization is the section of the map and one release after another. -/
theorem krsServerFinalizeOrphanEvictions_steps
    (spm : ServerPortManager)
    (descriptor : Nat)
    {orphans : List ConnectionRef}
    (nonempty : orphans.length ≠ 0) :
    (krsServerFinalizeOrphanEvictions spm descriptor orphans).1 =
      countDisconnections
        (orphans.foldl krsConnectionMapRelease (removeOrphans spm orphans))
        orphans.length := by
  unfold krsServerFinalizeOrphanEvictions
  rw [if_neg nonempty]
  rfl

/-- A `krs_server_send` to a known connection acquires, uses and releases
it. -/
theorem krsServerSend_steps
    {spm next : ServerPortManager}
    {connectionId : UInt32}
    {request : SendRequest}
    {result : KronosResult}
    {effects : List ServerEffect}
    {entry : ConnectionMapEntry}
    (found : krsConnectionMapGet spm.connectionMap connectionId = some entry)
    (sent : krsServerSend spm connectionId request.channel request.data
      request.length request.requireAck request.clock request.allocations =
        some (next, result, effects)) :
    next = krsConnectionMapRelease
      (useForSend (acquireConnection spm entry.connection) entry request)
      entry.connection := by
  unfold krsServerSend at sent
  simp only [found] at sent
  split at sent
  case h_2 => cases sent
  case h_1 target desc targetRead descRead =>
    split at sent
    case isTrue => cases sent
    case isFalse =>
      cases sent
      have acquired : (acquireConnection spm
          entry.connection).connections[entry.connection]? =
            some { target with refcount := target.refcount + 1 } := by
        simp [acquireConnection, ServerPortManager.modifyConnection,
          List.getElem?_modify_eq, targetRead]
      have described : (acquireConnection spm
          entry.connection).descriptorList[entry.descriptor]? =
            some desc := descRead
      unfold useForSend krsConnectionMapRelease
      rw [acquired, described]
      obtain ⟨inside, -⟩ := List.getElem?_eq_some_iff.mp targetRead
      simp only [ServerPortManager.modifyConnection, acquireConnection]
      congr 1
      apply List.ext_getElem?
      intro ref
      by_cases own : entry.connection = ref
      · subst own
        simp [inside]
      · simp [List.getElem?_modify_ne, List.getElem?_set_ne, own]

/-- A broadcast acquires its snapshot, takes packet ids and releases what it
has acquired. -/
theorem broadcastOnDescriptor_steps
    {spm next : ServerPortManager}
    {descriptor : Nat}
    {channel : Channel}
    {data : List UInt8}
    {length : UInt16}
    {excludeId : UInt32}
    {outcomes : BroadcastOutcomes}
    {effects : List ServerEffect}
    {desc : UDPSocketDescriptor}
    (read : spm.descriptorList[descriptor]? = some desc)
    {conns snapshot : List ConnectionRef}
    (stored : (desc.channelStates channel).connections = some conns)
    (taken : broadcastSnapshot spm excludeId [] conns = some snapshot)
    (sent : broadcastOnDescriptor spm descriptor channel data length excludeId
      outcomes = some (next, effects)) :
    next = snapshot.foldl krsConnectionMapRelease
      (numberBroadcast (snapshot.foldl acquireConnection spm) descriptor
        channel snapshot.length outcomes.counter) := by
  have kept : ∀ (held : List ConnectionRef) (current : ServerPortManager),
      (held.foldl acquireConnection current).descriptorList =
        current.descriptorList := by
    intro held
    induction held with
    | nil => exact fun current => rfl
    | cons connection held inductionHypothesis =>
        intro current
        rw [List.foldl_cons, inductionHypothesis]
        rfl
  unfold broadcastOnDescriptor at sent
  rw [read] at sent
  simp only [stored, taken, Option.map_some] at sent
  cases sent
  congr 1
  unfold numberBroadcast ServerPortManager.modifyDescriptor
  congr 1
  apply List.ext_getElem?
  intro other
  change ((snapshot.foldl acquireConnection spm).descriptorList.modify _
    _)[other]? = _
  rw [kept]
  by_cases own : descriptor = other
  · subst own
    rw [List.getElem?_modify_eq, List.getElem?_modify_eq, read]
    rfl
  · rw [List.getElem?_modify_ne _ _ own, List.getElem?_modify_ne _ _ own]

end Kronos
