import Kronos.Server.DatagramHeap
import Kronos.Server.Eviction
import Kronos.Server.History
import Kronos.Server.Staleness

/-!
# The last heartbeat of a connection

Every frame and every eviction tick leaves the last heartbeat of a connection
as it is, or sets it to the clock of the event.  A `HEARTBEAT` sets it for every
connection of its port that has its address.
-/

namespace Kronos

open Library

/-- The last heartbeat stays, or is set to this time. -/
def BeatsAt (now : UInt64) (old new : ClientConnection) : Prop :=
  SameHeartbeat old new ∨ new.lastHeartbeatMs = now

theorem BeatsAt.refl (now : UInt64) (conn : ClientConnection) :
    BeatsAt now conn conn := Or.inl (SameHeartbeat.refl conn)

theorem BeatsAt.trans
    {now : UInt64}
    {first second third : ClientConnection}
    (earlier : BeatsAt now first second)
    (later : BeatsAt now second third) :
    BeatsAt now first third := by
  rcases later with same | set
  · rcases earlier with before | set
    · exact Or.inl (before.trans same)
    · exact Or.inr (Eq.trans same set)
  · exact Or.inr set

/-- What an event at this time does to the last heartbeats. -/
def HeartbeatsAt
    (now : UInt64)
    (before after : ServerPortManager) : Prop :=
  ∀ (ref : ConnectionRef) (conn : ClientConnection),
    before.connections[ref]? = some conn ->
      ∃ next, after.connections[ref]? = some next ∧ BeatsAt now conn next

variable {now : UInt64} {before after : ServerPortManager}

theorem HeartbeatsAt.of_related
    (heap : IndexRelated (fun _ => BeatsAt now) before.connections
      after.connections) :
    HeartbeatsAt now before after :=
  fun _ _ read => heap.exists_new read

theorem HeartbeatsAt.of_same
    (same : after.connections = before.connections) :
    HeartbeatsAt now before after := by
  intro ref conn read
  exact ⟨conn, by rw [same, read], BeatsAt.refl now conn⟩

/-- The handler of a `HEARTBEAT` sets the last heartbeat of some
connections. -/
theorem foldl_heartbeat_beatsAt
    (remoteAddr : PortAddress)
    (now : UInt64)
    (refs : List ConnectionRef)
    (current : ServerPortManager) :
    IndexRelated (fun _ => BeatsAt now) current.connections
      (refs.foldl (fun current connection =>
        if current.hasAddress remoteAddr connection then
          current.modifyConnection connection fun conn =>
            { conn with lastHeartbeatMs := now }
        else current) current).connections := by
  induction refs generalizing current with
  | nil => exact IndexRelated.refl (fun _ => BeatsAt.refl now) _
  | cons ref refs inductionHypothesis =>
      rw [List.foldl_cons]
      split
      case isTrue =>
        refine IndexRelated.trans (fun _ _ _ _ => BeatsAt.trans) ?_
          (inductionHypothesis _)
        exact IndexRelated.modify (fun _ => BeatsAt.refl now) _ ref
          fun conn _ => Or.inr rfl
      case isFalse => exact inductionHypothesis current

theorem krsServerHandleHeartbeatFrame_beatsAt
    (spm : ServerPortManager)
    (descriptor : Nat)
    (remoteAddr : PortAddress)
    (now : UInt64) :
    HeartbeatsAt now spm
      (krsServerHandleHeartbeatFrame spm descriptor remoteAddr now) := by
  unfold krsServerHandleHeartbeatFrame
  split
  case h_1 => exact .of_same rfl
  case h_2 => exact .of_related (foldl_heartbeat_beatsAt _ _ _ spm)

theorem dispatchConnection_beatsAt
    (spm : ServerPortManager)
    (descriptor : Nat)
    (remoteAddr : PortAddress)
    (now : UInt64)
    (allocations : ConnectAllocations) :
    HeartbeatsAt now spm
      (dispatchConnection spm descriptor remoteAddr now allocations).1 := by
  unfold dispatchConnection krsServerHandleConnectionFrame
  simp only
  split
  case h_1 => exact .of_same rfl
  case h_2 desc _ =>
    split
    case h_1 existing _ =>
      exact .of_related (IndexRelated.modify (fun _ => BeatsAt.refl now) _
        existing fun conn _ => Or.inr rfl)
    case h_2 =>
      unfold acceptConnection
      split
      case isTrue => exact .of_same rfl
      case isFalse =>
        simp only
        split
        case isTrue => exact .of_same rfl
        case isFalse =>
          intro ref conn read
          refine ⟨conn, ?_, BeatsAt.refl now conn⟩
          exact (List.getElem?_append_left
            (List.getElem?_eq_some_iff.mp read).1).trans read

/-- All last heartbeats stay. -/
def HeartbeatsKept (before after : ServerPortManager) : Prop :=
  IndexRelated (fun _ => SameHeartbeat) before.connections after.connections

theorem HeartbeatsKept.heartbeatsAt
    (kept : HeartbeatsKept before after) :
    HeartbeatsAt now before after :=
  .of_related (IndexRelated.mono (fun _ _ _ => Or.inl) kept)

/-- Removed connections are released, with their last heartbeat. -/
theorem finalize_heartbeats
    (spm : ServerPortManager)
    (descriptor : Nat)
    (orphans : List ConnectionRef)
    (same : spm.connections = before.connections) :
    HeartbeatsKept before
      (krsServerFinalizeOrphanEvictions spm descriptor orphans).1 := by
  unfold HeartbeatsKept
  rw [← same]
  exact krsServerFinalizeOrphanEvictions_related SameHeartbeat.refl
    (fun _ _ _ => SameHeartbeat.trans) releaseConnection_heartbeat spm
    descriptor orphans

theorem dispatchDisconnect_beatsAt
    (spm : ServerPortManager)
    (descriptor : Nat)
    (remoteAddr : PortAddress) :
    HeartbeatsAt now spm
      (dispatchDisconnect spm descriptor remoteAddr).1 := by
  unfold dispatchDisconnect
  split
  case h_1 => exact .of_same rfl
  case h_2 =>
    exact HeartbeatsKept.heartbeatsAt (finalize_heartbeats _ descriptor _ rfl)

/-- A tick leaves the last heartbeats as they are. -/
theorem evictDescriptor_heartbeats
    (spm : ServerPortManager)
    (now : UInt64)
    (descriptor : Nat) :
    HeartbeatsKept spm (evictDescriptor spm now descriptor).1 := by
  unfold evictDescriptor
  split
  case h_1 => exact IndexRelated.refl (fun _ => SameHeartbeat.refl) _
  case h_2 => exact finalize_heartbeats _ descriptor _ rfl

theorem dispatchAck_beatsAt
    (spm : ServerPortManager)
    (frame : Frame)
    (remoteAddr : PortAddress)
    (now : UInt64) :
    HeartbeatsAt now spm (dispatchAck spm frame remoteAddr now) := by
  unfold dispatchAck
  simp only
  split
  case isTrue => exact .of_same rfl
  case isFalse =>
    split
    case h_1 => exact .of_same rfl
    case h_2 entry _ =>
      refine .of_related (IndexRelated.modify (fun _ => BeatsAt.refl now) _
        entry.connection fun conn _ => Or.inl ?_)
      unfold acknowledge
      split
      case h_1 => rfl
      case h_2 =>
        dsimp only
        split <;> rfl

theorem dispatchSubscribe_connections
    (spm : ServerPortManager)
    (descriptor : Nat)
    (frame : Frame)
    (remoteAddr : PortAddress)
    (created pushed ackBuilt : Bool) :
    (dispatchSubscribe spm descriptor frame remoteAddr created
      pushed ackBuilt).1.connections = spm.connections := by
  unfold dispatchSubscribe
  split
  case h_1 =>
    split
    case h_1 => rfl
    case h_2 =>
      simp only
      split
      case h_1 => rfl
      case h_2 => rfl
  case h_2 => rfl

theorem dispatchUnsubscribe_connections
    (spm : ServerPortManager)
    (descriptor : Nat)
    (frame : Frame)
    (remoteAddr : PortAddress)
    (ackBuilt : Bool) :
    (dispatchUnsubscribe spm descriptor frame remoteAddr
        ackBuilt).1.connections =
      spm.connections := by
  unfold dispatchUnsubscribe
  split
  case h_1 =>
    split
    case h_1 => rfl
    case h_2 => rfl
  case h_2 => rfl

theorem dispatchAppFrame_connections
    {spm next : ServerPortManager}
    {descriptor : Nat}
    {frame : Frame}
    {remoteAddr : PortAddress}
    {created allocated ackBuilt : Bool}
    {effects : List ServerEffect}
    (dispatched : dispatchAppFrame spm descriptor frame remoteAddr now created
      allocated ackBuilt = some (next, effects)) :
    next.connections = spm.connections := by
  cases dispatchAppFrame_cases dispatched with
  | unregistered missing outcome =>
      cases outcome
      rfl
  | whole desc read outcome =>
      obtain ⟨heap, -⟩ := deliver_effect spm descriptor desc frame remoteAddr
        _ ackBuilt
      rw [outcome] at heap
      exact heap
  | stored desc state read reassembled outcome =>
      cases outcome
      rfl
  | completed desc state delivery read reassembled outcome =>
      obtain ⟨heap, -⟩ := deliver_effect _ descriptor desc frame remoteAddr
        delivery ackBuilt
      rw [outcome] at heap
      exact heap

/-- What a frame does to the last heartbeats. -/
theorem routeFrame_beatsAt
    {spm : ServerPortManager}
    {descriptor : Nat}
    {frame : Frame}
    {remoteAddr : PortAddress}
    {input : HandlerInput}
    {result : ServerPortManager × List ServerEffect}
    (routed : routeFrame spm descriptor frame remoteAddr input =
      some result) :
    HeartbeatsAt input.now spm result.1 := by
  cases routeFrame_routed routed with
  | connection => exact dispatchConnection_beatsAt _ _ _ _ _
  | heartbeat => exact krsServerHandleHeartbeatFrame_beatsAt _ _ _ _
  | disconnect => exact dispatchDisconnect_beatsAt _ _ _
  | subscribe => exact .of_same (dispatchSubscribe_connections _ _ _ _ _ _ _)
  | unsubscribe => exact .of_same (dispatchUnsubscribe_connections _ _ _ _ _)
  | acknowledgement => exact dispatchAck_beatsAt _ _ _ _
  | ignored => exact .of_same rfl
  | application channel type dispatched =>
      exact .of_same (dispatchAppFrame_connections dispatched)

/-- The clock of an event. -/
def HandlerEvent.clock : HandlerEvent -> UInt64
  | .frame _ _ _ now => now
  | .evict _ now => now

/-- What an event does to the last heartbeats. -/
theorem handlerEffect_beatsAt
    {event : HandlerEvent}
    {effects : List ServerEffect}
    (effect : handlerEffect before event = some (after, effects)) :
    HeartbeatsAt event.clock before after := by
  cases event with
  | frame descriptor frame remoteAddr now => exact routeFrame_beatsAt effect
  | evict descriptor now =>
      have evicted := evictDescriptor_heartbeats before now descriptor
      rw [Option.some.inj effect] at evicted
      exact evicted.heartbeatsAt

/-- A `HEARTBEAT` sets the last heartbeat of the connections with its
address. -/
theorem foldl_heartbeat_sets
    (remoteAddr : PortAddress)
    (now : UInt64)
    {refs : List ConnectionRef}
    {ref : ConnectionRef}
    (member : ref ∈ refs)
    {current : ServerPortManager}
    (owned : current.addressOf ref = some remoteAddr) :
    ∃ conn : ClientConnection,
      (refs.foldl (fun current connection =>
        if current.hasAddress remoteAddr connection then
          current.modifyConnection connection fun conn =>
            { conn with lastHeartbeatMs := now }
        else current) current).connections[ref]? = some conn ∧
      conn.lastHeartbeatMs = now := by
  induction refs generalizing current with
  | nil => cases member
  | cons head refs inductionHypothesis =>
      rw [List.foldl_cons]
      by_cases same : head = ref
      · subst same
        obtain ⟨conn, read, -⟩ := Option.map_eq_some_iff.mp owned
        rw [if_pos ((hasAddress_iff _ _ _).mpr owned)]
        have set : (current.modifyConnection head fun conn =>
            { conn with lastHeartbeatMs := now }).connections[head]? =
              some { conn with lastHeartbeatMs := now } := by
          change (current.connections.modify head _)[head]? = _
          rw [List.getElem?_modify_eq, read]
          rfl
        obtain ⟨next, nextRead, beats⟩ := (foldl_heartbeat_beatsAt remoteAddr
          now refs _).exists_new set
        refine ⟨next, nextRead, ?_⟩
        rcases beats with kept | renewed
        · exact kept
        · exact renewed
      · refine inductionHypothesis
          ((List.mem_cons.mp member).resolve_left (Ne.symm same)) ?_
        split
        case isFalse => exact owned
        case isTrue =>
          unfold ServerPortManager.addressOf at owned ⊢
          change Option.map _ (current.connections.modify head _)[ref]? = _
          rw [List.getElem?_modify_ne _ _ same]
          exact owned

/-- A `HEARTBEAT` renews a listed connection. -/
theorem krsServerHandleHeartbeatFrame_renews
    {spm : ServerPortManager}
    {descriptor : Nat}
    {channel : Channel}
    {ref : ConnectionRef}
    {address : PortAddress}
    (listedAs : ListedAs spm descriptor channel ref address)
    (now : UInt64) :
    lastHeartbeatOf
      (krsServerHandleHeartbeatFrame spm descriptor address now) ref =
        now := by
  obtain ⟨member, owned⟩ := listedAs
  unfold krsServerHandleHeartbeatFrame
  split
  case h_1 missing =>
    rw [listed, missing] at member
    cases member
  case h_2 desc read =>
    rw [listed_of_read read] at member
    obtain ⟨conn, found, set⟩ := foldl_heartbeat_sets address now
      (List.mem_flatMap.mpr ⟨channel, mem_allChannels channel, member⟩) owned
    rw [lastHeartbeatOf, found]
    exact set

end Kronos
