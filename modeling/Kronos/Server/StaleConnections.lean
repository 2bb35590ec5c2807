import Kronos.Library.BoundedBuffer
import Kronos.Server.Orphans
import Kronos.Server.Staleness

/-!
# The result of an eviction

One call of `s_evict_stale_connections`, for any lists and any capacity of the
orphan buffer.  The lists keep the connections that are not stale, and the
buffer gets the stale ones, each once, as far as it has room.
-/

namespace Kronos

open Library

/-- The age of the last heartbeat of a connection. -/
def heartbeatAge
    (spm : ServerPortManager)
    (now : UInt64)
    (connection : ConnectionRef) : Option Nat :=
  spm.connections[connection]?.map fun conn =>
    now.toNat - conn.lastHeartbeatMs.toNat

/-- The last heartbeat of a connection is younger than the timeout. -/
def beatsInTime
    (spm : ServerPortManager)
    (now : UInt64)
    (connection : ConnectionRef) : Bool :=
  (heartbeatAge spm now connection).all (· < 30000)

/-- The connections on the lists of a port whose last heartbeat is not younger
than the timeout. -/
def staleConnections
    (spm : ServerPortManager)
    (now : UInt64)
    (desc : UDPSocketDescriptor) : Finset ConnectionRef :=
  ((allChannels.flatMap desc.connectionsOf).filter fun connection =>
    !beatsInTime spm now connection).toFinset

/-- No connection on the lists of a port has a heartbeat after the clock. -/
def ClockNotBefore
    (spm : ServerPortManager)
    (now : UInt64)
    (desc : UDPSocketDescriptor) : Prop :=
  ∀ channel, ∀ connection ∈ desc.connectionsOf channel,
    ∀ conn : ClientConnection, spm.connections[connection]? = some conn ->
      conn.lastHeartbeatMs ≤ now

section

variable
  {spm : ServerPortManager}
  {now : UInt64}
  {desc : UDPSocketDescriptor}

/-- With such a clock, the unsigned age of a heartbeat is its age. -/
theorem isStale_eq
    (clock : ClockNotBefore spm now desc)
    {channel : Channel}
    {connection : ConnectionRef}
    (member : connection ∈ desc.connectionsOf channel) :
    isStale spm now connection = !beatsInTime spm now connection := by
  unfold isStale beatsInTime heartbeatAge
  cases read : spm.connections[connection]? with
  | none => rfl
  | some conn =>
      have past := clock channel connection member conn read
      have age := toNat_age now conn.lastHeartbeatMs
      rw [if_pos past] at age
      simp only [age, krsHeartbeatTimeoutMs, Option.map_some, Option.all_some]
      rw [Bool.eq_iff_iff]
      simp

/-- A stale connection is noted in the buffer. -/
theorem evictVisit_of_stale
    {connection : ConnectionRef}
    (capacity : Nat)
    (orphans : List ConnectionRef)
    (stale : isStale spm now connection = true) :
    (evictVisit spm now capacity orphans connection).1 =
      noteItem capacity orphans connection := by
  unfold evictVisit noteItem trackOrphan
  simp only [stale, if_true, List.contains_iff_mem]
  split <;> rfl

theorem evictVisit_of_fresh
    {connection : ConnectionRef}
    (capacity : Nat)
    (orphans : List ConnectionRef)
    (fresh : isStale spm now connection = false) :
    (evictVisit spm now capacity orphans connection).1 = orphans := by
  unfold evictVisit
  simp only [fresh, Bool.false_eq_true, if_false]
  split <;> rfl

/-- The stale connections that a sweep visits are those on the lists. -/
theorem staleConnections_eq
    (clock : ClockNotBefore spm now desc) :
    ((visitOrder desc allChannels).filter (isStale spm now)).toFinset =
      staleConnections spm now desc := by
  ext connection
  simp only [staleConnections, visitOrder, List.mem_toFinset, List.mem_filter,
    List.mem_flatMap, List.mem_reverse]
  constructor
  · rintro ⟨⟨channel, visited, member⟩, stale⟩
    rw [isStale_eq clock member] at stale
    exact ⟨⟨channel, visited, member⟩, stale⟩
  · rintro ⟨⟨channel, visited, member⟩, stale⟩
    rw [← isStale_eq clock member] at stale
    exact ⟨⟨channel, visited, member⟩, stale⟩

end

/-- With a clock that is not before any heartbeat, an eviction keeps in every
list the connections whose heartbeat is younger than 30000 ms, in their order.
It returns stale connections, none twice, and as many as there are different
ones on all lists together, up to the capacity. -/
theorem evictStaleConnections_exact
    {spm : ServerPortManager}
    {now : UInt64}
    {desc : UDPSocketDescriptor}
    (clock : ClockNotBefore spm now desc)
    (orphanCapacity : Nat) :
    let evicted := evictStaleConnections spm now orphanCapacity desc
    (∀ channel, evicted.2.connectionsOf channel =
        (desc.connectionsOf channel).filter (beatsInTime spm now)) ∧
      evicted.1.Nodup ∧
      (∀ orphan ∈ evicted.1, orphan ∈ staleConnections spm now desc) ∧
      evicted.1.length =
        min orphanCapacity (staleConnections spm now desc).card := by
  have orphans : HoldsMet orphanCapacity
      (∅ ∪ ((visitOrder desc allChannels).filter (isStale spm now)).toFinset)
      (sweepChannels (evictVisit spm now orphanCapacity) desc).1 := by
    rw [sweepChannels_orphans]
    generalize visitOrder desc allChannels = visited
    exact HoldsMet.foldl
      (fun buffer _ => evictVisit_of_stale orphanCapacity buffer)
      (fun buffer _ => evictVisit_of_fresh orphanCapacity buffer)
      (HoldsMet.empty orphanCapacity) _
  rw [Finset.empty_union, staleConnections_eq clock] at orphans
  have lists := (evictVisit_removesLeaving spm now
    orphanCapacity).sweepChannels desc
  dsimp only [evictStaleConnections]
  generalize sweepChannels (evictVisit spm now orphanCapacity) desc = swept
    at orphans lists ⊢
  refine ⟨?_, orphans.once, orphans.wereMet, orphans.length⟩
  intro channel
  rw [connectionsOf_sweepReassemblers, lists]
  apply List.filter_congr
  intro connection member
  rw [isStale_eq clock member, Bool.not_not]

/-- Three connections without a heartbeat for a timeout, and one with a recent
one. -/
def silentServer : ServerPortManager :=
  { serverStart [] with
    connections := [100, 200, 300, 39000].map fun beat =>
      { connectionId := 1
        remoteAddress := clientAddress 4000
        lastHeartbeatMs := beat } }

/-- All of them are on channel 0, and some are on two more channels. -/
def subscribedPort : UDPSocketDescriptor :=
  { port := 5000
    channelStates := fun channel =>
      { connections :=
          if channel = 0 then some [0, 1, 2, 3]
          else if channel = 10 then some [2, 3, 0]
          else if channel = 11 then some [1, 2]
          else none } }

theorem silent_connections_evicted :
    let evicted := evictStaleConnections silentServer 40000 2 subscribedPort
    evicted.2.connectionsOf 10 = [3] ∧ evicted.1.Nodup ∧
      evicted.1.length = 2 := by
  have clock : ClockNotBefore silentServer 40000 subscribedPort := by
    intro channel connection member conn read
    have beat := List.mem_of_getElem? read
    simp only [silentServer, List.map_cons, List.map_nil, List.mem_cons,
      List.not_mem_nil, or_false] at beat
    rcases beat with rfl | rfl | rfl | rfl <;> decide
  obtain ⟨lists, once, -, length⟩ := evictStaleConnections_exact clock 2
  exact ⟨(lists 10).trans (by decide), once,
    length.trans (by decide +kernel)⟩

end Kronos
