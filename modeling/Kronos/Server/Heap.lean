import Kronos.Server.AppFrame
import Kronos.Server.System
import Kronos.Library.IndexRelated
import Kronos.Library.ProbeValues

/-!
# What an event does to the connections

Every invariant of single connections is derived from one description of the
events: a datagram leaves a connection's delivery state alone, frees it or
acknowledges a packet on it; a send works on one connection; a tick is treated
in the next module.
-/

namespace Kronos

open Library

/-! ## Changes of one connection -/

/-- Same identity: id and address. -/
structure SameIdentity (before after : ClientConnection) : Prop where
  connectionId : after.connectionId = before.connectionId
  remoteAddress : after.remoteAddress = before.remoteAddress

/-- Same delivery state, and same lifetime. -/
structure SameDelivery (before after : ClientConnection) : Prop
    extends SameIdentity before after where
  ackTracker : after.ackTracker = before.ackTracker
  congestion : after.congestion = before.congestion
  freed : after.freed = before.freed

/-- The connection was given back. -/
structure GivenBack (before after : ClientConnection) : Prop
    extends SameIdentity before after where
  ackTracker : after.ackTracker = none
  congestion : after.congestion = none
  freed : after.freed = true

theorem SameDelivery.refl (conn : ClientConnection) :
    SameDelivery conn conn := ⟨⟨rfl, rfl⟩, rfl, rfl, rfl⟩

/-- Releasing a reference keeps the delivery state or gives the connection
back. -/
def Released (before after : ClientConnection) : Prop :=
  SameDelivery before after ∨ GivenBack before after

theorem SameDelivery.released
    {before after : ClientConnection}
    (same : SameDelivery before after) :
    Released before after := Or.inl same

theorem SameIdentity.trans
    {first second third : ClientConnection}
    (earlier : SameIdentity first second)
    (later : SameIdentity second third) :
    SameIdentity first third where
  connectionId := later.connectionId.trans earlier.connectionId
  remoteAddress := later.remoteAddress.trans earlier.remoteAddress

theorem SameDelivery.trans
    {first second third : ClientConnection}
    (earlier : SameDelivery first second)
    (later : SameDelivery second third) :
    SameDelivery first third where
  toSameIdentity := earlier.toSameIdentity.trans later.toSameIdentity
  ackTracker := later.ackTracker.trans earlier.ackTracker
  congestion := later.congestion.trans earlier.congestion
  freed := later.freed.trans earlier.freed

theorem Released.identity
    {before after : ClientConnection}
    (released : Released before after) :
    SameIdentity before after := by
  rcases released with same | gone
  · exact same.toSameIdentity
  · exact gone.toSameIdentity

theorem Released.trans
    {first second third : ClientConnection}
    (earlier : Released first second)
    (later : Released second third) :
    Released first third := by
  have identity := earlier.identity.trans later.identity
  rcases later with same | gone
  · rcases earlier with sameBefore | goneBefore
    · exact Or.inl (sameBefore.trans same)
    · exact Or.inr ⟨identity, same.ackTracker.trans goneBefore.ackTracker,
        same.congestion.trans goneBefore.congestion,
        same.freed.trans goneBefore.freed⟩
  · exact Or.inr ⟨identity, gone.ackTracker, gone.congestion, gone.freed⟩

theorem releaseConnection_released (conn : ClientConnection) :
    Released conn (releaseConnection conn) := by
  unfold releaseConnection
  simp only
  split
  case isTrue => exact Or.inl ⟨⟨rfl, rfl⟩, rfl, rfl, rfl⟩
  case isFalse => exact Or.inr ⟨⟨rfl, rfl⟩, rfl, rfl, rfl⟩

/-- What a datagram does to a connection. -/
def DatagramChange (before after : ClientConnection) : Prop :=
  Released before after ∨
    ∃ packetId channel now, after = acknowledge before packetId channel now

/-- A connection as `krs_server_handle_connection_frame` creates it. -/
structure NewConnection (conn : ClientConnection) : Prop where
  ackTracker : conn.ackTracker = none
  congestion : conn.congestion = none
  freed : conn.freed = false

/-! ## The references of the connection map -/

/-- The map holds each connection once, and only allocated ones. -/
structure MapRefs
    (map : ConnectionMap)
    (heap : List ClientConnection) : Prop where
  distinct : ProbeTable.DistinctValues ConnectionMapEntry.connection
    map.entries.slots
  allocated : ∀ slot ∈ map.entries.slots, ∀ entry,
    slot.value? = some entry -> entry.connection < heap.length

theorem MapRefs.remove
    {map : ConnectionMap}
    {heap : List ClientConnection}
    (refs : MapRefs map heap)
    (address : ConnectionRef -> Option PortAddress)
    (connectionId : UInt32) :
    MapRefs (krsConnectionMapRemove map address connectionId) heap := by
  unfold krsConnectionMapRemove
  cases krsConnectionMapGet map connectionId with
  | none => exact refs
  | some entry =>
      obtain ⟨distinct, kept⟩ :=
        refs.distinct.remove idHash connectionId
      refine ⟨distinct, ?_⟩
      intro slot member stored value
      by_contra outside
      have absent : ProbeTable.Fresh ConnectionMapEntry.connection
          map.entries.slots stored.connection := by
        intro old oldMember oldEntry oldValue same
        have inside := refs.allocated old oldMember oldEntry oldValue
        rw [same] at inside
        exact outside inside
      exact kept _ absent slot member stored value rfl

theorem MapRefs.removeAll
    {map : ConnectionMap}
    {heap : List ClientConnection}
    (refs : MapRefs map heap)
    (address : ConnectionRef -> Option PortAddress)
    (connectionIds : List UInt32) :
    MapRefs (connectionIds.foldl (fun map connectionId =>
      krsConnectionMapRemove map address connectionId) map) heap := by
  induction connectionIds generalizing map with
  | nil => exact refs
  | cons connectionId connectionIds inductionHypothesis =>
      exact inductionHypothesis (refs.remove address connectionId)

theorem MapRefs.put
    {map : ConnectionMap}
    {heap : List ClientConnection}
    (refs : MapRefs map heap)
    (connectionId : UInt32)
    (descriptor : Nat)
    (address : PortAddress)
    (entriesGrown addrGrown : Bool)
    (conn : ClientConnection) :
    MapRefs
      (krsConnectionMapPut map connectionId
        { descriptor := descriptor, connection := heap.length } address
        entriesGrown addrGrown) (heap ++ [conn]) := by
  have fresh : ProbeTable.Fresh ConnectionMapEntry.connection
      map.entries.slots heap.length := by
    intro slot member entry value same
    have inside := refs.allocated slot member entry value
    rw [same] at inside
    exact Nat.lt_irrefl _ inside
  obtain ⟨distinct, origin⟩ := refs.distinct.put idHash connectionId
    { descriptor := descriptor, connection := heap.length } fresh entriesGrown
  refine ⟨distinct, ?_⟩
  intro slot member entry value
  rw [List.length_append, List.length_singleton]
  rcases origin slot member entry value with rfl | old
  · exact Nat.lt_succ_self _
  · by_contra outside
    refine old ?_
    intro other otherMember otherEntry otherValue same
    have inside := refs.allocated other otherMember otherEntry otherValue
    rw [same] at inside
    exact outside (Nat.lt_succ_of_lt inside)

theorem MapRefs.of_length
    {map : ConnectionMap}
    {before after : List ClientConnection}
    (refs : MapRefs map before)
    (length : after.length = before.length) :
    MapRefs map after := by
  refine ⟨refs.distinct, ?_⟩
  rw [length]
  exact refs.allocated

/-! ## Datagrams -/

/-- Neither a retransmission nor a failure report. -/
def ServerEffect.isQuiet : ServerEffect -> Bool
  | .retransmit .. => false
  | .deliveryFailure .. => false
  | _ => true

/-- No effect of the list is a retransmission or a failure report. -/
def Quiet (effects : List ServerEffect) : Prop :=
  ∀ effect ∈ effects, effect.isQuiet = true

theorem Quiet.nil : Quiet [] := by simp [Quiet]

theorem Quiet.append
    {first second : List ServerEffect}
    (firstQuiet : Quiet first)
    (secondQuiet : Quiet second) :
    Quiet (first ++ second) := by
  intro effect member
  rcases List.mem_append.mp member with left | right
  · exact firstQuiet effect left
  · exact secondQuiet effect right

theorem krsNetSendFrame_quiet
    (descriptor : Nat)
    (address : PortAddress)
    (frame : List UInt8) :
    Quiet (krsNetSendFrame descriptor address frame) := by
  unfold krsNetSendFrame
  split
  case isTrue => exact Quiet.nil
  case isFalse => simp [Quiet, ServerEffect.isQuiet]

theorem sendAckResponse_quiet
    (descriptor : Nat)
    (remoteAddr : PortAddress)
    (channel : Channel)
    (packetId : UInt64)
    (ackBuilt : Bool) :
    Quiet (sendAckResponse descriptor remoteAddr channel packetId
      ackBuilt) := by
  unfold sendAckResponse
  split
  case isTrue => exact krsNetSendFrame_quiet _ _ _
  case isFalse => exact Quiet.nil

theorem sendSocketAck_quiet
    (descriptor : Nat)
    (remoteAddr : PortAddress)
    (connectionId : UInt32)
    (built : Bool) :
    Quiet (sendSocketAck descriptor remoteAddr connectionId built) := by
  unfold sendSocketAck
  split
  case isTrue => exact krsNetSendFrame_quiet _ _ _
  case isFalse => exact Quiet.nil

/-- What a datagram does to heap, map and log. -/
structure DatagramEffect
    (before after : ServerPortManager)
    (effects : List ServerEffect) : Prop where
  heap :
    IndexRelated (fun _ => DatagramChange) before.connections
        after.connections ∨
      ∃ conn, NewConnection conn ∧
        after.connections = before.connections ++ [conn]
  refs : MapRefs before.connectionMap before.connections ->
    MapRefs after.connectionMap after.connections
  quiet : Quiet effects

/-- The effect of a handler that returns its result as it is. -/
theorem DatagramEffect.of_some
    {before next : ServerPortManager}
    {effects : List ServerEffect}
    {result : ServerPortManager × List ServerEffect}
    (returned : some result = some (next, effects))
    (effect : DatagramEffect before result.1 result.2) :
    DatagramEffect before next effects := by
  rw [Option.some.inj returned] at effect
  exact effect

theorem DatagramChange.refl (conn : ClientConnection) :
    DatagramChange conn conn := Or.inl (SameDelivery.refl conn).released

/-- Handlers that touch neither heap nor map. -/
theorem DatagramEffect.untouched
    {before after : ServerPortManager}
    {effects : List ServerEffect}
    (heap : after.connections = before.connections)
    (map : after.connectionMap = before.connectionMap)
    (quiet : Quiet effects) :
    DatagramEffect before after effects where
  heap := by
    rw [heap]
    exact Or.inl (IndexRelated.refl (fun _ => DatagramChange.refl) _)
  refs := by
    rw [heap, map]
    exact id
  quiet := quiet

/-- Handlers that leave the map alone and change connections one by one. -/
theorem DatagramEffect.sameMap
    {before after : ServerPortManager}
    {effects : List ServerEffect}
    (heap : IndexRelated (fun _ => DatagramChange) before.connections
      after.connections)
    (map : after.connectionMap = before.connectionMap)
    (quiet : Quiet effects) :
    DatagramEffect before after effects where
  heap := Or.inl heap
  refs := by
    intro refs
    rw [map]
    exact refs.of_length heap.1
  quiet := quiet

/-- Finalizing evictions changes connections by releases only. -/
theorem krsServerFinalizeOrphanEvictions_related
    {related : ClientConnection -> ClientConnection -> Prop}
    (reflexive : ∀ conn, related conn conn)
    (transitive : ∀ a b c, related a b -> related b c -> related a c)
    (release : ∀ conn, related conn (releaseConnection conn))
    (spm : ServerPortManager)
    (descriptor : Nat)
    (orphans : List ConnectionRef) :
    IndexRelated (fun _ => related) spm.connections
      (krsServerFinalizeOrphanEvictions spm descriptor
        orphans).1.connections := by
  have released : ∀ current : ServerPortManager,
      IndexRelated (fun _ => related) current.connections
        (orphans.foldl krsConnectionMapRelease current).connections := by
    induction orphans with
    | nil => exact fun current => IndexRelated.refl (fun _ => reflexive) _
    | cons orphan orphans inductionHypothesis =>
        intro current
        refine IndexRelated.trans (fun _ => transitive)
          (IndexRelated.modify (fun _ => reflexive) current.connections
            orphan fun conn _ => release conn) ?_
        exact inductionHypothesis (krsConnectionMapRelease current orphan)
  unfold krsServerFinalizeOrphanEvictions
  split
  case isTrue => exact IndexRelated.refl (fun _ => reflexive) _
  case isFalse => exact released _

theorem krsServerFinalizeOrphanEvictions_heap
    (spm : ServerPortManager)
    (descriptor : Nat)
    (orphans : List ConnectionRef) :
    IndexRelated (fun _ => Released) spm.connections
      (krsServerFinalizeOrphanEvictions spm descriptor
        orphans).1.connections :=
  krsServerFinalizeOrphanEvictions_related
    (fun conn => (SameDelivery.refl conn).released)
    (fun _ _ _ => Released.trans) releaseConnection_released spm descriptor
    orphans

/-- Changes of connections, one after the other, touch the heap alone. -/
theorem foldl_modifyConnection
    (change : ClientConnection -> ClientConnection)
    (refs : List ConnectionRef)
    (spm : ServerPortManager) :
    refs.foldl (fun current ref => current.modifyConnection ref change) spm =
      { spm with
        connections := refs.foldl (fun current ref =>
          current.modify ref change) spm.connections } := by
  induction refs generalizing spm with
  | nil => rfl
  | cons ref refs inductionHypothesis =>
      rw [List.foldl_cons, inductionHypothesis]
      rfl

theorem foldl_krsConnectionMapRelease
    (refs : List ConnectionRef)
    (spm : ServerPortManager) :
    refs.foldl krsConnectionMapRelease spm =
      { spm with
        connections := refs.foldl (fun connections ref =>
          connections.modify ref releaseConnection) spm.connections } :=
  foldl_modifyConnection releaseConnection refs spm

theorem krsServerFinalizeOrphanEvictions_refs
    (spm : ServerPortManager)
    (descriptor : Nat)
    (orphans : List ConnectionRef)
    (refs : MapRefs spm.connectionMap spm.connections) :
    MapRefs
      (krsServerFinalizeOrphanEvictions spm descriptor
        orphans).1.connectionMap
      (krsServerFinalizeOrphanEvictions spm descriptor
        orphans).1.connections := by
  refine MapRefs.of_length ?_
    (krsServerFinalizeOrphanEvictions_heap spm descriptor orphans).1
  unfold krsServerFinalizeOrphanEvictions
  split
  case isTrue => exact refs
  case isFalse =>
    change MapRefs (orphans.foldl krsConnectionMapRelease _).connectionMap _
    rw [foldl_krsConnectionMapRelease]
    exact refs.removeAll spm.addressOf (orphans.map spm.connectionIdOf)

theorem krsServerFinalizeOrphanEvictions_quiet
    (spm : ServerPortManager)
    (descriptor : Nat)
    (orphans : List ConnectionRef) :
    Quiet (krsServerFinalizeOrphanEvictions spm descriptor orphans).2 := by
  unfold krsServerFinalizeOrphanEvictions
  split
  case isTrue => exact Quiet.nil
  case isFalse =>
    simp only
    split
    case h_1 => exact Quiet.nil
    case h_2 =>
      split
      case h_1 => exact Quiet.nil
      case h_2 =>
        intro effect member
        obtain ⟨position, inside, rfl⟩ := List.getElem_of_mem member
        rw [List.getElem_zipWith]
        rfl

theorem dispatchDisconnect_effect
    (spm : ServerPortManager)
    (descriptor : Nat)
    (remoteAddr : PortAddress) :
    DatagramEffect spm (dispatchDisconnect spm descriptor remoteAddr).1
      (dispatchDisconnect spm descriptor remoteAddr).2 := by
  unfold dispatchDisconnect
  split
  case h_1 => exact .untouched rfl rfl Quiet.nil
  case h_2 desc _ =>
    simp only
    generalize sweepChannels (disconnectVisit spm remoteAddr) desc = swept
    have heap := krsServerFinalizeOrphanEvictions_heap
      (spm.modifyDescriptor descriptor fun _ => swept.2) descriptor swept.1
    exact
      { heap := Or.inl (heap.mono fun _ _ _ => Or.inl)
        refs := krsServerFinalizeOrphanEvictions_refs
          (spm.modifyDescriptor descriptor fun _ => swept.2) descriptor swept.1
        quiet := krsServerFinalizeOrphanEvictions_quiet _ _ _ }

theorem dispatchConnection_effect
    (spm : ServerPortManager)
    (descriptor : Nat)
    (remoteAddr : PortAddress)
    (now : UInt64)
    (allocations : ConnectAllocations) :
    DatagramEffect spm
      (dispatchConnection spm descriptor remoteAddr now allocations).1
      (dispatchConnection spm descriptor remoteAddr now allocations).2 := by
  unfold dispatchConnection krsServerHandleConnectionFrame
  simp only
  split
  case h_1 => exact .untouched rfl rfl Quiet.nil
  case h_2 desc _ =>
    split
    case h_1 existing _ =>
      dsimp only
      refine .sameMap ?_ rfl (sendSocketAck_quiet _ _ _ _)
      refine IndexRelated.modify (fun _ => DatagramChange.refl) _ existing ?_
      intro conn _
      exact Or.inl (Or.inl ⟨⟨rfl, rfl⟩, rfl, rfl, rfl⟩)
    case h_2 =>
      unfold acceptConnection
      split
      case isTrue => exact .untouched rfl rfl Quiet.nil
      case isFalse =>
        simp only
        split
        case isTrue => exact .untouched rfl rfl Quiet.nil
        case isFalse =>
          refine
            { heap := Or.inr ⟨_, ⟨rfl, rfl, rfl⟩, rfl⟩
              refs := fun refs => refs.put _ descriptor _ true true _
              quiet := ?_ }
          refine (sendSocketAck_quiet _ _ _ _).append ?_
          split
          case h_1 => exact Quiet.nil
          case h_2 => simp [Quiet, ServerEffect.isQuiet]

/-- At most the time of the last heartbeat is another one. -/
def Refreshed (before after : ClientConnection) : Prop :=
  ∃ now, after = { before with lastHeartbeatMs := now }

theorem Refreshed.refl (conn : ClientConnection) : Refreshed conn conn :=
  ⟨conn.lastHeartbeatMs, rfl⟩

theorem Refreshed.trans
    {first second third : ClientConnection}
    (earlier : Refreshed first second)
    (later : Refreshed second third) :
    Refreshed first third := by
  obtain ⟨_, rfl⟩ := earlier
  obtain ⟨now, rfl⟩ := later
  exact ⟨now, rfl⟩

theorem Refreshed.sameDelivery
    {before after : ClientConnection}
    (refreshed : Refreshed before after) :
    SameDelivery before after := by
  obtain ⟨_, rfl⟩ := refreshed
  exact ⟨⟨rfl, rfl⟩, rfl, rfl, rfl⟩

/-- The heartbeats of a list of connections. -/
theorem foldl_heartbeat
    (remoteAddr : PortAddress)
    (now : UInt64)
    (refs : List ConnectionRef)
    (current : ServerPortManager) :
    let next := refs.foldl (fun current connection =>
      if current.hasAddress remoteAddr connection then
        current.modifyConnection connection fun conn =>
          { conn with lastHeartbeatMs := now }
      else current) current
    IndexRelated (fun _ => Refreshed) current.connections
        next.connections ∧
      next.connectionMap = current.connectionMap ∧
      next.descriptorList = current.descriptorList := by
  induction refs generalizing current with
  | nil => exact ⟨IndexRelated.refl (fun _ => Refreshed.refl) _, rfl, rfl⟩
  | cons ref refs inductionHypothesis =>
      simp only [List.foldl_cons]
      split
      case isTrue =>
        obtain ⟨heap, map, descriptors⟩ := inductionHypothesis
          (current.modifyConnection ref fun conn =>
            { conn with lastHeartbeatMs := now })
        refine ⟨IndexRelated.trans (fun _ _ _ _ => Refreshed.trans) ?_ heap,
          map, descriptors⟩
        refine IndexRelated.modify (fun _ => Refreshed.refl) _ ref ?_
        intro conn _
        exact ⟨now, rfl⟩
      case isFalse => exact inductionHypothesis current

theorem krsServerHandleHeartbeatFrame_effect
    (spm : ServerPortManager)
    (descriptor : Nat)
    (remoteAddr : PortAddress)
    (now : UInt64) :
    DatagramEffect spm
      (krsServerHandleHeartbeatFrame spm descriptor remoteAddr now) [] := by
  unfold krsServerHandleHeartbeatFrame
  split
  case h_1 => exact .untouched rfl rfl Quiet.nil
  case h_2 desc _ =>
    obtain ⟨heap, map, -⟩ := foldl_heartbeat remoteAddr now
      (allChannels.flatMap desc.connectionsOf) spm
    exact .sameMap
      (heap.mono fun _ _ _ same => Or.inl same.sameDelivery.released) map
      Quiet.nil

theorem dispatchAck_effect
    (spm : ServerPortManager)
    (frame : Frame)
    (remoteAddr : PortAddress)
    (now : UInt64) :
    DatagramEffect spm (dispatchAck spm frame remoteAddr now) [] := by
  unfold dispatchAck
  simp only
  split
  case isTrue => exact .untouched rfl rfl Quiet.nil
  case isFalse =>
    split
    case h_1 => exact .untouched rfl rfl Quiet.nil
    case h_2 entry _ =>
      refine .sameMap ?_ rfl Quiet.nil
      refine IndexRelated.modify (fun _ => DatagramChange.refl) _
        entry.connection ?_
      intro conn _
      exact Or.inr ⟨_, _, _, rfl⟩

theorem dispatchSubscribe_effect
    (spm : ServerPortManager)
    (descriptor : Nat)
    (frame : Frame)
    (remoteAddr : PortAddress)
    (created pushed ackBuilt : Bool) :
    DatagramEffect spm
      (dispatchSubscribe spm descriptor frame remoteAddr created pushed
        ackBuilt).1
      (dispatchSubscribe spm descriptor frame remoteAddr created pushed
        ackBuilt).2 := by
  unfold dispatchSubscribe
  split
  case h_1 =>
    split
    case h_1 => exact .untouched rfl rfl Quiet.nil
    case h_2 =>
      simp only
      split
      case h_1 => exact .untouched rfl rfl Quiet.nil
      case h_2 =>
        refine .untouched rfl rfl ?_
        split
        case isTrue => exact sendAckResponse_quiet _ _ _ _ _
        case isFalse => exact Quiet.nil
  case h_2 => exact .untouched rfl rfl Quiet.nil

theorem dispatchUnsubscribe_effect
    (spm : ServerPortManager)
    (descriptor : Nat)
    (frame : Frame)
    (remoteAddr : PortAddress)
    (ackBuilt : Bool) :
    DatagramEffect spm
      (dispatchUnsubscribe spm descriptor frame remoteAddr ackBuilt).1
      (dispatchUnsubscribe spm descriptor frame remoteAddr ackBuilt).2 := by
  unfold dispatchUnsubscribe
  split
  case h_1 =>
    simp only
    have quiet : Quiet (if ackRequested frame then
        sendAckResponse descriptor remoteAddr 0 frame.packetId ackBuilt
        else []) := by
      split
      case isTrue => exact sendAckResponse_quiet _ _ _ _ _
      case isFalse => exact Quiet.nil
    split
    case h_1 => exact .untouched rfl rfl quiet
    case h_2 => exact .untouched rfl rfl quiet
  case h_2 => exact .untouched rfl rfl Quiet.nil

theorem deliver_effect
    (spm : ServerPortManager)
    (descriptor : Nat)
    (desc : UDPSocketDescriptor)
    (frame : Frame)
    (remoteAddr : PortAddress)
    (delivery : Delivery)
    (ackBuilt : Bool) :
    (deliver spm descriptor desc frame remoteAddr delivery
        ackBuilt).1.connections = spm.connections ∧
      (deliver spm descriptor desc frame remoteAddr
        delivery ackBuilt).1.connectionMap = spm.connectionMap ∧
      (deliver spm descriptor desc frame remoteAddr
        delivery ackBuilt).1.descriptorList = spm.descriptorList ∧
      Quiet (deliver spm descriptor desc frame remoteAddr delivery
        ackBuilt).2 := by
  have acked : Quiet (if delivery.ackRequired then
      sendAckResponse descriptor remoteAddr frame.channel frame.packetId
        ackBuilt else []) := by
    split
    case isTrue => exact sendAckResponse_quiet _ _ _ _ _
    case isFalse => exact Quiet.nil
  unfold deliver
  cases delivery.ackRequired with
  | true =>
      simp only [if_true]
      split
      case h_1 => exact ⟨rfl, rfl, rfl, sendAckResponse_quiet _ _ _ _ _⟩
      case h_2 =>
        refine ⟨rfl, rfl, rfl, (sendAckResponse_quiet _ _ _ _ _).append ?_⟩
        split
        case h_1 => exact Quiet.nil
        case h_2 => simp [Quiet, ServerEffect.isQuiet]
  | false =>
      simp only [Bool.false_eq_true, if_false]
      split
      case h_1 => exact ⟨rfl, rfl, rfl, Quiet.nil⟩
      case h_2 =>
        refine ⟨rfl, rfl, rfl, Quiet.nil.append ?_⟩
        split
        case h_1 => exact Quiet.nil
        case h_2 => simp [Quiet, ServerEffect.isQuiet]

theorem dispatchAppFrame_effect
    {spm next : ServerPortManager}
    {descriptor : Nat}
    {frame : Frame}
    {remoteAddr : PortAddress}
    {now : UInt64}
    {created allocated ackBuilt : Bool}
    {effects : List ServerEffect}
    (dispatched : dispatchAppFrame spm descriptor frame remoteAddr now created
      allocated ackBuilt = some (next, effects)) :
    DatagramEffect spm next effects := by
  cases dispatchAppFrame_cases dispatched with
  | unregistered missing outcome =>
      cases outcome
      exact .untouched rfl rfl Quiet.nil
  | whole desc read outcome =>
      obtain ⟨heap, map, -, quiet⟩ := deliver_effect spm descriptor desc frame
        remoteAddr _ _
      rw [outcome] at heap map quiet
      exact .untouched heap map quiet
  | stored desc state read reassembled outcome =>
      cases outcome
      exact .untouched rfl rfl Quiet.nil
  | completed desc state delivery read reassembled outcome =>
      obtain ⟨heap, map, -, quiet⟩ := deliver_effect _ descriptor desc frame
        remoteAddr delivery _
      rw [outcome] at heap map quiet
      exact .untouched heap map quiet

/-- The handler a frame is routed to. -/
inductive Routed
    (spm : ServerPortManager)
    (descriptor : Nat)
    (frame : Frame)
    (remoteAddr : PortAddress)
    (input : HandlerInput) :
    ServerPortManager × List ServerEffect -> Prop
  | connection
      (channel : frame.channel = 0)
      (type : frame.frameType = FrameType.connection.code) :
      Routed spm descriptor frame remoteAddr input
        (dispatchConnection spm descriptor remoteAddr input.now
          input.connect)
  | heartbeat : Routed spm descriptor frame remoteAddr input
      (krsServerHandleHeartbeatFrame spm descriptor remoteAddr input.now, [])
  | disconnect : Routed spm descriptor frame remoteAddr input
      (dispatchDisconnect spm descriptor remoteAddr)
  | subscribe
      (channel : frame.channel = 0)
      (type : frame.frameType = FrameType.subscribe.code) :
      Routed spm descriptor frame remoteAddr input
        (dispatchSubscribe spm descriptor frame remoteAddr input.created
          input.allocated input.ackBuilt)
  | unsubscribe
      (channel : frame.channel = 0)
      (type : frame.frameType = FrameType.unsubscribe.code) :
      Routed spm descriptor frame remoteAddr input
        (dispatchUnsubscribe spm descriptor frame remoteAddr ackBuilt)
  | acknowledgement : Routed spm descriptor frame remoteAddr input
      (dispatchAck spm frame remoteAddr input.now, [])
  | ignored : Routed spm descriptor frame remoteAddr input (spm, [])
  | application
      {result : ServerPortManager × List ServerEffect}
      (channel : frame.channel ≥ 10)
      (type : frame.frameType = FrameType.basicMessage.code)
      (dispatched : dispatchAppFrame spm descriptor frame remoteAddr
        input.now input.created input.allocated input.ackBuilt = some result) :
      Routed spm descriptor frame remoteAddr input result

theorem routeFrame_routed
    {spm : ServerPortManager}
    {descriptor : Nat}
    {frame : Frame}
    {remoteAddr : PortAddress}
    {input : HandlerInput}
    {result : ServerPortManager × List ServerEffect}
    (routed : routeFrame spm descriptor frame remoteAddr input =
      some result) :
    Routed spm descriptor frame remoteAddr input result := by
  unfold routeFrame at routed
  by_cases connection : frame.channel = 0 ∧
      frame.frameType = FrameType.connection.code
  · rw [if_pos connection, Option.some_inj] at routed
    exact routed ▸ .connection connection.1 connection.2
  rw [if_neg connection] at routed
  by_cases heartbeat : frame.channel = 1 ∧
      frame.frameType = FrameType.heartbeat.code
  · rw [if_pos heartbeat, Option.some_inj] at routed
    exact routed ▸ .heartbeat
  rw [if_neg heartbeat] at routed
  by_cases disconnect : frame.channel = 0 ∧
      frame.frameType = FrameType.disconnect.code
  · rw [if_pos disconnect, Option.some_inj] at routed
    exact routed ▸ .disconnect
  rw [if_neg disconnect] at routed
  by_cases subscribe : frame.channel = 0 ∧
      frame.frameType = FrameType.subscribe.code
  · rw [if_pos subscribe, Option.some_inj] at routed
    exact routed ▸ .subscribe subscribe.1 subscribe.2
  rw [if_neg subscribe] at routed
  by_cases unsubscribe : frame.channel = 0 ∧
      frame.frameType = FrameType.unsubscribe.code
  · rw [if_pos unsubscribe, Option.some_inj] at routed
    exact routed ▸ .unsubscribe unsubscribe.1 unsubscribe.2
  rw [if_neg unsubscribe] at routed
  by_cases acknowledgement : frame.frameType = FrameType.messageAck.code
  · rw [if_pos acknowledgement, Option.some_inj] at routed
    exact routed ▸ .acknowledgement
  rw [if_neg acknowledgement] at routed
  by_cases other : frame.frameType ≠ FrameType.basicMessage.code
  · rw [if_pos other, Option.some_inj] at routed
    exact routed ▸ .ignored
  rw [if_neg other] at routed
  by_cases application : frame.channel ≥ 10
  · rw [if_pos application] at routed
    exact .application application (not_not.mp other) routed
  · rw [if_neg application, Option.some_inj] at routed
    exact routed ▸ .ignored

/-- What a datagram does to heap, map and log. -/
theorem handleDatagram_effect
    {spm next : ServerPortManager}
    {descriptor : Nat}
    {bytes : List UInt8}
    {remoteAddr : PortAddress}
    {input : HandlerInput}
    {effects : List ServerEffect}
    (handled : handleDatagram spm descriptor bytes remoteAddr input =
      some (next, effects)) :
    DatagramEffect spm next effects := by
  have of_routed : ∀ frame current result,
      Routed current descriptor frame remoteAddr input result ->
        DatagramEffect current result.1 result.2 := by
    intro frame current result routed
    cases routed with
    | connection => exact dispatchConnection_effect _ _ _ _ _
    | heartbeat => exact krsServerHandleHeartbeatFrame_effect _ _ _ _
    | disconnect => exact dispatchDisconnect_effect _ _ _
    | subscribe => exact dispatchSubscribe_effect _ _ _ _ _ _ _
    | unsubscribe => exact dispatchUnsubscribe_effect _ _ _ _ _
    | acknowledgement => exact dispatchAck_effect _ _ _ _
    | ignored => exact .untouched rfl rfl Quiet.nil
    | application _ _ dispatched => exact dispatchAppFrame_effect dispatched
  unfold handleDatagram at handled
  simp only at handled
  split at handled
  case isTrue =>
    cases handled
    exact .untouched rfl rfl Quiet.nil
  case isFalse =>
    have effect := of_routed _ _ _ (routeFrame_routed handled)
    exact ⟨effect.heap, effect.refs, effect.quiet⟩

end Kronos
