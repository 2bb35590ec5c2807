import Kronos.Server.Collect
import Kronos.Server.SendSpec

/-!
# Invariants of single connections

A property of one connection and the log so far is an invariant of whole runs
of the server if the few things that can happen to a connection keep it:
`ConnectionInvariant` lists them, and `ConnectionInvariant.holds_of_run` is the
rule.  The references of the connection map and those in the log are in order
in every run.
-/

namespace Kronos

open Library

/-! ## References in the log -/

/-- The effect is a retransmission for this connection. -/
def ServerEffect.resends (ref : ConnectionRef) : ServerEffect -> Bool
  | .retransmit _ _ _ connection _ => connection == ref
  | _ => false

/-- Nothing was retransmitted for this connection yet. -/
def NeverResent (log : List ServerEffect) (ref : ConnectionRef) : Prop :=
  ∀ effect ∈ log, effect.resends ref = false

theorem Quiet.neverResent
    {effects : List ServerEffect}
    (quiet : Quiet effects)
    (ref : ConnectionRef) :
    NeverResent effects ref := by
  intro effect member
  have isQuiet := quiet effect member
  cases effect <;> first | rfl | cases isQuiet

theorem NeverResent.append
    {log effects : List ServerEffect}
    {ref : ConnectionRef}
    (never : NeverResent log ref)
    (silent : NeverResent effects ref) :
    NeverResent (log ++ effects) ref := by
  intro effect member
  rcases List.mem_append.mp member with earlier | later
  · exact never effect earlier
  · exact silent effect later

theorem NeverResent.append_quiet
    {log effects : List ServerEffect}
    {ref : ConnectionRef}
    (never : NeverResent log ref)
    (quiet : Quiet effects) :
    NeverResent (log ++ effects) ref := never.append (quiet.neverResent ref)

theorem queueRetries_connection
    (tracker : AckTracker)
    (descriptor : Nat)
    (connection : ConnectionRef)
    (addr : PortAddress)
    (retries : List Retry)
    (queue : RetryQueue)
    {retransmit : PendingRetransmit}
    (member : retransmit ∈
      (queueRetries tracker descriptor connection addr retries
        queue).pending) :
    retransmit ∈ queue.pending ∨ retransmit.connection = connection := by
  induction retries generalizing queue with
  | nil => exact Or.inl member
  | cons retry retries inductionHypothesis =>
      rw [queueRetries] at member
      split at member
      case isFalse => exact Or.inl member
      case isTrue =>
        split at member
        case h_1 => exact inductionHypothesis queue member
        case h_2 data size _ =>
          split at member
          case isTrue => exact inductionHypothesis queue member
          case isFalse =>
            rcases inductionHypothesis _ member with queued | own
            · rcases List.mem_append.mp queued with earlier | last
              · exact Or.inl earlier
              · rw [List.mem_singleton] at last
                rw [last]
                exact Or.inr rfl
            · exact Or.inr own

/-- A tick retransmits for allocated connections only. -/
theorem foldl_visitEntry_allocated
    (callback : Nat -> Option Callback)
    (clock : ConnectionRef -> UInt64)
    (entries : List ConnectionMapEntry)
    (current : TickBuffers × List ClientConnection)
    (allocated : ∀ retransmit ∈ current.1.pending,
      retransmit.connection < current.2.length) :
    ∀ retransmit ∈
        (entries.foldl (visitEntry callback clock) current).1.pending,
      retransmit.connection < current.2.length := by
  induction entries generalizing current with
  | nil => exact allocated
  | cons entry entries inductionHypothesis =>
      have length := visitEntry_length callback clock current entry
      rw [List.foldl_cons, ← length]
      refine inductionHypothesis _ ?_
      rw [length]
      intro retransmit member
      unfold visitEntry at member
      split at member
      case h_1 => exact allocated retransmit member
      case h_2 conn read =>
        obtain ⟨inside, -⟩ := List.getElem?_eq_some_iff.mp read
        unfold collectConnection at member
        split at member
        case h_1 => exact allocated retransmit member
        case h_2 =>
          rcases queueRetries_connection _ _ _ _ _ _ member with earlier | own
          · exact allocated retransmit earlier
          · rw [own]
            exact inside

/-! ## The invariant rule -/

/-- What the collecting part of a tick writes to the log. -/
def collectedEffects (buffers : TickBuffers) : List ServerEffect :=
  flushRetransmits buffers.pending ++ failureCallbacks buffers.failures

/-- A property of a connection and the log that every allowed event keeps. -/
structure ConnectionInvariant
    (Allowed : ServerRun -> ServerEvent -> Prop)
    (Holds : List ServerEffect -> ConnectionRef -> ClientConnection -> Prop) :
    Prop where
  quiet : ∀ log effects ref conn, Quiet effects -> Holds log ref conn ->
    Holds (log ++ effects) ref conn
  released : ∀ log ref old new, Released old new -> Holds log ref old ->
    Holds log ref new
  acknowledged : ∀ log ref conn packetId channel now, Holds log ref conn ->
    Holds log ref (acknowledge conn packetId channel now)
  created : ∀ log ref conn, NewConnection conn -> NeverResent log ref ->
    Holds log ref conn
  sent : ∀ current connectionId channel data length requireAck clock
    allocations,
    Allowed current (.send connectionId channel data length requireAck clock
      allocations) ->
    ∀ entry desc target,
    krsConnectionMapGet current.spm.connectionMap connectionId =
      some entry ->
    current.spm.descriptorList[entry.descriptor]? = some desc ->
    current.spm.connections[entry.connection]? = some target ->
    target.freed = false ->
    Holds current.log entry.connection target ->
    Holds current.log entry.connection
      (sendOn { target with refcount := target.refcount + 1 } channel
        (nextPacketId channel allocations.counter
          (desc.channelStates channel)).1
        data length requireAck clock allocations).1
  ticked : ∀ current clock,
    MapRefs current.spm.connectionMap current.spm.connections ->
    Allowed current (.tick clock) ->
    (∀ ref conn, current.spm.connections[ref]? = some conn ->
      Holds current.log ref conn) ->
    ∀ ref old new, current.spm.connections[ref]? = some old ->
    (collectAll current.spm clock.check).2.connections[ref]? = some new ->
    Holds
      (current.log ++ collectedEffects (collectAll current.spm
        clock.check).1) ref new

/-- The state of a run in which all connections satisfy a property. -/
structure RunHolds
    (Holds : List ServerEffect -> ConnectionRef -> ClientConnection -> Prop)
    (current : ServerRun) : Prop where
  refs : MapRefs current.spm.connectionMap current.spm.connections
  unborn : ∀ ref, current.spm.connections.length ≤ ref ->
    NeverResent current.log ref
  connections : ∀ ref conn, current.spm.connections[ref]? = some conn ->
    Holds current.log ref conn

variable
  {Allowed : ServerRun -> ServerEvent -> Prop}
  {Holds : List ServerEffect -> ConnectionRef -> ClientConnection -> Prop}

theorem ConnectionInvariant.datagramChange
    (invariant : ConnectionInvariant Allowed Holds)
    {log : List ServerEffect}
    {ref : ConnectionRef}
    {old new : ClientConnection}
    (changed : DatagramChange old new)
    (holds : Holds log ref old) :
    Holds log ref new := by
  rcases changed with released | ⟨packetId, channel, now, rfl⟩
  · exact invariant.released log ref old new released holds
  · exact invariant.acknowledged log ref old packetId channel now holds

theorem RunHolds.datagram
    (invariant : ConnectionInvariant Allowed Holds)
    {current : ServerRun}
    (before : RunHolds Holds current)
    {next : ServerPortManager}
    {effects : List ServerEffect}
    (effect : DatagramEffect current.spm next effects) :
    RunHolds Holds { spm := next, log := current.log ++ effects } := by
  have refs := effect.refs before.refs
  rcases effect.heap with related | ⟨conn, new, grown⟩
  · refine ⟨refs, ?_, ?_⟩
    · intro ref outside
      rw [related.1] at outside
      exact (before.unborn ref outside).append_quiet effect.quiet
    · intro ref conn read
      refine invariant.quiet _ _ _ _ effect.quiet ?_
      refine related.forall_of_forall ?_ before.connections read
      exact fun ref old new _ changed => invariant.datagramChange changed
  · refine ⟨refs, ?_, ?_⟩
    · intro ref outside
      rw [grown, List.length_append, List.length_singleton] at outside
      exact (before.unborn ref (Nat.le_of_succ_le outside)).append_quiet
        effect.quiet
    · intro ref other read
      refine invariant.quiet _ _ _ _ effect.quiet ?_
      rw [grown] at read
      rcases Nat.lt_or_ge ref current.spm.connections.length with
        inside | outside
      · rw [List.getElem?_append_left inside] at read
        exact before.connections ref other read
      · rw [List.getElem?_append_right outside] at read
        rw [List.mem_singleton.mp (List.mem_of_getElem? read)]
        exact invariant.created _ ref conn new (before.unborn ref outside)

theorem RunHolds.send
    (invariant : ConnectionInvariant Allowed Holds)
    {current : ServerRun}
    (before : RunHolds Holds current)
    {connectionId : UInt32}
    {channel : Channel}
    {data : List UInt8}
    {length : UInt16}
    {requireAck : Bool}
    {clock : Nat -> UInt64}
    {allocations : SendAllocations}
    (allowed : Allowed current (.send connectionId channel data length
      requireAck clock allocations))
    {next : ServerPortManager}
    {effects : List ServerEffect}
    (effect : SendEffect current.spm next connectionId channel data length
      requireAck clock allocations)
    (quiet : Quiet effects) :
    RunHolds Holds { spm := next, log := current.log ++ effects } := by
  rcases effect.heap with same | ⟨entry, desc, target, found, descRead,
      targetRead, alive, heap⟩
  · refine ⟨?_, ?_, ?_⟩
    · change MapRefs next.connectionMap next.connections
      rw [effect.map, same]
      exact before.refs
    · intro ref outside
      rw [same] at outside
      exact (before.unborn ref outside).append_quiet quiet
    · intro ref conn read
      rw [same] at read
      exact invariant.quiet _ _ _ _ quiet (before.connections ref conn read)
  · have sameLength : next.connections.length =
        current.spm.connections.length := by
      rw [heap, List.length_set]
    refine ⟨?_, ?_, ?_⟩
    · change MapRefs next.connectionMap next.connections
      rw [effect.map]
      exact before.refs.of_length sameLength
    · intro ref outside
      rw [sameLength] at outside
      exact (before.unborn ref outside).append_quiet quiet
    · intro ref conn read
      refine invariant.quiet _ _ _ _ quiet ?_
      rw [heap] at read
      by_cases own : entry.connection = ref
      · subst own
        obtain ⟨inside, -⟩ := List.getElem?_eq_some_iff.mp targetRead
        rw [List.getElem?_set_self inside] at read
        cases read
        refine invariant.released _ _ _ _ (releaseConnection_released _) ?_
        exact invariant.sent current connectionId channel data length
          requireAck clock allocations allowed entry desc target found
          descRead targetRead alive
          (before.connections entry.connection target targetRead)
      · rw [List.getElem?_set_ne own] at read
        exact before.connections ref conn read

/-- The log after the collecting part of a tick names allocated connections
only. -/
theorem RunHolds.collected_unborn
    {current : ServerRun}
    (before : RunHolds Holds current)
    (clock : ConnectionRef -> UInt64)
    (ref : ConnectionRef)
    (outside : current.spm.connections.length ≤ ref) :
    NeverResent
      (current.log ++ collectedEffects (collectAll current.spm clock).1)
      ref := by
  intro effect member
  rcases List.mem_append.mp member with earlier | later
  · exact before.unborn ref outside effect earlier
  · rcases List.mem_append.mp later with flushed | failed
    · obtain ⟨retransmit, pending, rfl⟩ := List.mem_map.mp flushed
      rw [collectAll_eq] at pending
      have inside := foldl_visitEntry_allocated (failureCallback current.spm)
        clock (visitedEntries current.spm) ({}, current.spm.connections)
        (by simp) retransmit pending
      simp only [ServerEffect.resends, beq_eq_false_iff_ne, ne_eq]
      intro same
      rw [same] at inside
      exact absurd inside (Nat.not_lt.mpr outside)
    · obtain ⟨failure, -, rfl⟩ := List.mem_map.mp failed
      rfl

theorem RunHolds.tick
    (invariant : ConnectionInvariant Allowed Holds)
    {current : ServerRun}
    (before : RunHolds Holds current)
    {clock : TickClock}
    (allowed : Allowed current (.tick clock)) :
    RunHolds Holds
      { spm := (retransmitTick current.spm clock).1
        log := current.log ++ (retransmitTick current.spm clock).2 } := by
  have heap := collectAll_heap before.refs clock.check
  have map : (collectAll current.spm clock.check).2.connectionMap =
      current.spm.connectionMap := by
    rw [collectAll_eq]
  have ticked := invariant.ticked current clock before.refs allowed
    before.connections
  have unborn := before.collected_unborn clock.check
  unfold retransmitTick
  simp only
  generalize collectAll current.spm clock.check = collected at *
  obtain ⟨released, refs, quiet⟩ := evictAll_effect
    { collected.2 with
      stats :=
        { collected.2.stats with
          retransmissions := collected.2.stats.retransmissions +
            UInt64.ofNat collected.1.pending.length } } clock.evict
  generalize evictAll _ clock.evict = evicted at *
  have collectedRefs : MapRefs collected.2.connectionMap
      collected.2.connections := by
    rw [map]
    exact before.refs.of_length heap.1
  have sameLength : evicted.1.connections.length =
      current.spm.connections.length := released.1.trans heap.1
  rw [← List.append_assoc]
  refine ⟨refs collectedRefs, ?_, ?_⟩
  · intro ref outside
    rw [sameLength] at outside
    exact (unborn ref outside).append_quiet quiet
  · intro ref conn read
    refine invariant.quiet _ _ _ _ quiet ?_
    refine released.forall_of_forall
      (fun ref old new _ => invariant.released _ ref old new) ?_ read
    intro ref conn read
    obtain ⟨inside, -⟩ := List.getElem?_eq_some_iff.mp read
    have oldInside : ref < current.spm.connections.length := by
      rw [← heap.1]
      exact inside
    exact ticked ref _ conn (List.getElem?_eq_getElem oldInside) read

theorem MapRefs.start (descriptorList : List UDPSocketDescriptor) :
    MapRefs (serverStart descriptorList).connectionMap
      (serverStart descriptorList).connections := by
  refine ⟨ProbeTable.create_distinctValues _ _, ?_⟩
  intro slot member entry value
  have empty : slot = .empty := List.eq_of_mem_replicate member
  rw [empty] at value
  cases value

/-- One allowed step. -/
theorem RunHolds.step
    (invariant : ConnectionInvariant Allowed Holds)
    {current next : ServerRun}
    (before : RunHolds Holds current)
    {event : ServerEvent}
    (allowed : Allowed current event)
    (taken : serverStep current event = some next) :
    RunHolds Holds next := by
  obtain ⟨⟨spm, effects⟩, effect, rfl⟩ := Option.map_eq_some_iff.mp taken
  cases event with
  | datagram descriptor bytes remoteAddr input =>
      exact before.datagram invariant (handleDatagram_effect effect)
  | send connectionId channel data length requireAck clock allocations =>
      obtain ⟨⟨sent, result, sends⟩, returned, same⟩ :=
        Option.map_eq_some_iff.mp effect
      cases same
      obtain ⟨changed, quiet⟩ := krsServerSend_effect returned
      exact before.send invariant allowed changed quiet
  | tick clock =>
      cases effect
      exact before.tick invariant allowed

theorem RunHolds.start
    (Holds : List ServerEffect -> ConnectionRef -> ClientConnection -> Prop)
    (descriptorList : List UDPSocketDescriptor) :
    RunHolds Holds (runStart descriptorList) := by
  refine ⟨MapRefs.start descriptorList, ?_, ?_⟩
  · intro ref _ effect member
    cases member
  · intro ref conn read
    cases read

/-- The rule: in every allowed run, the property holds of every connection. -/
theorem ConnectionInvariant.holds_of_run
    (invariant : ConnectionInvariant Allowed Holds)
    {descriptorList : List UDPSocketDescriptor}
    {events : List ServerEvent}
    {final : ServerRun}
    (allowed : RunAllowed serverStep Allowed (runStart descriptorList)
      events)
    (reached : run serverStep (runStart descriptorList) events =
      some final) :
    RunHolds Holds final :=
  run_induction (fun _ _ _ before => before.step invariant)
    (RunHolds.start Holds descriptorList) allowed reached

/-- Nothing but the references of map and log. -/
theorem trivial_connectionInvariant :
    ConnectionInvariant (fun _ _ => True) fun _ _ _ => True where
  quiet := fun _ _ _ _ _ _ => trivial
  released := fun _ _ _ _ _ _ => trivial
  acknowledged := fun _ _ _ _ _ _ _ => trivial
  created := fun _ _ _ _ _ => trivial
  sent := fun _ _ _ _ _ _ _ _ _ _ _ _ _ _ _ _ _ => trivial
  ticked := fun _ _ _ _ _ _ _ _ _ _ => trivial

/-- Every step keeps the references of the map in order. -/
theorem RunHolds.refs_step
    {current next : ServerRun}
    (before : RunHolds (fun _ _ _ => True) current)
    {event : ServerEvent}
    (taken : serverStep current event = some next) :
    RunHolds (fun _ _ _ => True) next :=
  before.step trivial_connectionInvariant trivial taken

end Kronos
