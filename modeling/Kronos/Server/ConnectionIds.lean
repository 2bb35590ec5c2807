import Kronos.Library.ProbeValues
import Kronos.Server.Lifetime
import Kronos.Server.Stats

/-!
# Connection ids

`s_generate_connection_id` counts up a 32-bit counter that all servers of the
process share.  Nothing compares the number with the ids in use, and nothing
keeps it from passing through zero.  Ids are as good as unique until the
counter has gone around once; from then on a connection may get the id of one
that is still there, or the id that lookups take for no connection at all.
-/

namespace Kronos

open Library

/-! ## Runs of connects and disconnects -/

/-- What changes the connections of a server, or the counter of ids. -/
inductive ConnectionEvent
  /-- A `CONNECTION` frame whose allocations succeed. -/
  | connect (descriptor : Nat) (remoteAddr : PortAddress) (now : UInt64)
  /-- A `DISCONNECT` frame. -/
  | disconnect (descriptor : Nat) (remoteAddr : PortAddress)
  /-- Another server of the process takes an id. -/
  | elsewhere

/-- One event. -/
def connectionStep (spm : ServerPortManager) :
    ConnectionEvent -> Option ServerPortManager
  | .connect descriptor remoteAddr now =>
      some (dispatchConnection spm descriptor remoteAddr now {}).1
  | .disconnect descriptor remoteAddr =>
      some (dispatchDisconnect spm descriptor remoteAddr).1
  | .elsewhere =>
      some { spm with nextConnectionId := spm.nextConnectionId + 1 }

/-- The connections in the channel-0 lists of all ports. -/
def aliveConnections (spm : ServerPortManager) : List ConnectionRef :=
  (List.range spm.descriptorList.length).flatMap fun descriptor =>
    listed spm descriptor 0

theorem mem_aliveConnections
    (spm : ServerPortManager)
    (ref : ConnectionRef) :
    ref ∈ aliveConnections spm ↔
      ∃ descriptor, ref ∈ listed spm descriptor 0 := by
  rw [aliveConnections, List.mem_flatMap]
  constructor
  · rintro ⟨descriptor, -, member⟩
    exact ⟨descriptor, member⟩
  · rintro ⟨descriptor, member⟩
    refine ⟨descriptor, ?_, member⟩
    rw [List.mem_range]
    by_contra outside
    rw [listed_of_missing (by simpa using outside)] at member
    cases member

/-- The connections alive have nonzero ids that are pairwise different. -/
structure AliveIds (spm : ServerPortManager) : Prop where
  nonzero : ∀ ref ∈ aliveConnections spm, spm.connectionIdOf ref ≠ 0
  different : ∀ ref ∈ aliveConnections spm, ∀ other ∈ aliveConnections spm,
    spm.connectionIdOf ref = spm.connectionIdOf other -> ref = other

/-- The port exists and has no connection with this address, so that a
`CONNECTION` frame from it is accepted. -/
def isNewAddress
    (spm : ServerPortManager)
    (descriptor : Nat)
    (remoteAddr : PortAddress) : Bool :=
  decide (descriptor < spm.descriptorList.length) &&
    !(listed spm descriptor 0).any (spm.hasAddress remoteAddr)

/-- When a frame is accepted, the counter moves on to a number that is not
zero and not the id of a connection alive. -/
def NextIdFree (spm : ServerPortManager) : ConnectionEvent -> Prop
  | .connect descriptor remoteAddr _ =>
      isNewAddress spm descriptor remoteAddr = true ->
        spm.nextConnectionId + 1 ≠ 0 ∧
          ∀ ref ∈ aliveConnections spm,
            spm.connectionIdOf ref ≠ spm.nextConnectionId + 1
  | _ => True

instance nextIdFreeDecidable (spm : ServerPortManager) :
    ∀ event, Decidable (NextIdFree spm event)
  | .connect _ _ _ => inferInstanceAs (Decidable (_ -> _))
  | .disconnect _ _ => isTrue trivial
  | .elsewhere => isTrue trivial

/-- When a frame is accepted, the id that `krs_connection_map_put` is called
with is not bound to a connection alive. -/
def ReplacesNobody (spm : ServerPortManager) : ConnectionEvent -> Prop
  | .connect descriptor remoteAddr _ =>
      isNewAddress spm descriptor remoteAddr = true ->
        ∀ entry, krsConnectionMapGet spm.connectionMap
            (spm.nextConnectionId + 1) = some entry ->
          entry.connection ∉ aliveConnections spm
  | _ => True

/-! ## What one event does -/

section Events

variable
  {spm : ServerPortManager}
  {descriptor : Nat}
  {remoteAddr : PortAddress}

theorem isNewAddress_eq_true_iff :
    isNewAddress spm descriptor remoteAddr = true ↔
      descriptor < spm.descriptorList.length ∧
        (listed spm descriptor 0).any (spm.hasAddress remoteAddr) =
          false := by
  simp [isNewAddress]

/-- A frame from a new address is accepted. -/
theorem dispatchConnection_of_new
    (new : isNewAddress spm descriptor remoteAddr = true)
    (now : UInt64) :
    let handled := dispatchConnection spm descriptor remoteAddr now {}
    ∃ opened desc conn, CalmEvent spm opened [] ∧
      opened.nextConnectionId = spm.nextConnectionId ∧
      Accepted opened handled.1 handled.2 descriptor desc conn := by
  obtain ⟨registered, unknown⟩ := isNewAddress_eq_true_iff.mp new
  rcases dispatchConnection_cases spm descriptor remoteAddr now {} with
    calm | accepted
  · have longer := (dispatchConnection_created spm descriptor remoteAddr now
      (List.getElem?_eq_getElem registered) unknown).1
    have same := calm.heap.1
    omega
  · exact accepted

/-- Any other frame changes no list, no id and not the map. -/
theorem dispatchConnection_of_known
    (known : isNewAddress spm descriptor remoteAddr = false)
    (now : UInt64) :
    let handled := dispatchConnection spm descriptor remoteAddr now {}
    CalmEvent spm handled.1 handled.2 := by
  rcases dispatchConnection_cases spm descriptor remoteAddr now {} with
    calm | ⟨opened, desc, conn, calm, -, accepted⟩
  · exact calm
  · exfalso
    rcases dispatchConnection_lists spm descriptor remoteAddr now {} with
      joined | kept
    · have registered : descriptor < spm.descriptorList.length := by
        rw [← calm.descriptors.1]
        exact (List.getElem?_eq_some_iff.mp accepted.read).1
      have new : isNewAddress spm descriptor remoteAddr = true := by
        refine isNewAddress_eq_true_iff.mpr ⟨registered, ?_⟩
        rw [List.any_eq_false]
        intro ref member
        rw [joined.unknown ref member]
        exact Bool.false_ne_true
      rw [known] at new
      cases new
    · have longer := congrArg List.length accepted.heap
      have opened := calm.heap.1
      have same := kept.2.1
      rw [List.length_append, List.length_singleton] at longer
      omega

end Events

/-! ## The invariant -/

/-- Connections alive are allocated, and every id in the map is bound to a
connection that was created with it. -/
structure IdsRecorded (spm : ServerPortManager) : Prop where
  allocated : ∀ ref ∈ aliveConnections spm, ref < spm.connections.length
  recorded : ProbeTable.AllStored
    (fun connectionId entry => entry.connection < spm.connections.length ∧
      spm.connectionIdOf entry.connection = connectionId)
    spm.connectionMap.entries.slots

/-- The step created no connection and entered nothing in the map. -/
structure Shrinks (before after : ServerPortManager) : Prop where
  alive : ∀ ref ∈ aliveConnections after, ref ∈ aliveConnections before
  ids : after.connectionIdOf = before.connectionIdOf
  length : after.connections.length = before.connections.length
  map : ∀ holds, ProbeTable.AllStored holds
      before.connectionMap.entries.slots ->
    ProbeTable.AllStored holds after.connectionMap.entries.slots

section Steps

variable {before after : ServerPortManager}

theorem IdsRecorded.shrink
    (recorded : IdsRecorded before)
    (shrinks : Shrinks before after) :
    IdsRecorded after := by
  constructor
  · intro ref alive
    rw [shrinks.length]
    exact recorded.allocated ref (shrinks.alive ref alive)
  · rw [shrinks.length, shrinks.ids]
    exact shrinks.map _ recorded.recorded

theorem AliveIds.shrink
    (ids : AliveIds before)
    (shrinks : Shrinks before after) :
    AliveIds after := by
  constructor
  · intro ref alive
    rw [shrinks.ids]
    exact ids.nonzero ref (shrinks.alive ref alive)
  · intro ref alive other otherAlive
    rw [shrinks.ids]
    exact ids.different ref (shrinks.alive ref alive) other
      (shrinks.alive other otherAlive)

theorem CalmEvent.alive_iff
    {effects : List ServerEffect}
    (calm : CalmEvent before after effects)
    (ref : ConnectionRef) :
    ref ∈ aliveConnections after ↔ ref ∈ aliveConnections before := by
  simp only [mem_aliveConnections, calm.listed_zero]

theorem CalmEvent.connectionIdOf
    {effects : List ServerEffect}
    (calm : CalmEvent before after effects) :
    after.connectionIdOf = before.connectionIdOf :=
  connectionIdOf_of_related calm.heap fun _ _ _ same => same.connectionId

theorem CalmEvent.shrinks
    {effects : List ServerEffect}
    (calm : CalmEvent before after effects) :
    Shrinks before after where
  alive ref := (calm.alive_iff ref).mp
  ids := calm.connectionIdOf
  length := calm.heap.1
  map holds stored := by
    rw [calm.map]
    exact stored

theorem allStored_removeAll
    {holds : UInt32 -> ConnectionMapEntry -> Prop}
    (address : ConnectionRef -> Option PortAddress)
    (connectionIds : List UInt32)
    {map : ConnectionMap}
    (stored : ProbeTable.AllStored holds map.entries.slots) :
    ProbeTable.AllStored holds
      (connectionIds.foldl (fun map connectionId =>
        krsConnectionMapRemove map address connectionId) map).entries.slots
      := by
  induction connectionIds generalizing map with
  | nil => exact stored
  | cons connectionId connectionIds inductionHypothesis =>
      refine inductionHypothesis ?_
      rw [krsConnectionMapRemove_entries]
      exact stored.remove idHash connectionId

/-- Finalizing orphans enters nothing in the map. -/
theorem krsServerFinalizeOrphanEvictions_allStored
    {holds : UInt32 -> ConnectionMapEntry -> Prop}
    (spm : ServerPortManager)
    (descriptor : Nat)
    (orphans : List ConnectionRef)
    (stored : ProbeTable.AllStored holds spm.connectionMap.entries.slots) :
    ProbeTable.AllStored holds
      (krsServerFinalizeOrphanEvictions spm descriptor
        orphans).1.connectionMap.entries.slots := by
  unfold krsServerFinalizeOrphanEvictions
  split
  case isTrue => exact stored
  case isFalse =>
    dsimp only
    rw [foldl_krsConnectionMapRelease]
    exact allStored_removeAll spm.addressOf _ stored

theorem dispatchDisconnect_shrinks
    (spm : ServerPortManager)
    (descriptor : Nat)
    (remoteAddr : PortAddress) :
    Shrinks spm (dispatchDisconnect spm descriptor remoteAddr).1 := by
  obtain ⟨lists, heap⟩ := dispatchDisconnect_rearranges spm descriptor
    remoteAddr
  refine ⟨?_, connectionIdOf_of_related heap
    fun _ _ _ same => same.connectionId, heap.1, ?_⟩
  · intro ref alive
    rw [mem_aliveConnections] at alive ⊢
    obtain ⟨other, member⟩ := alive
    refine ⟨other, ?_⟩
    rw [lists other] at member
    split at member
    case isTrue =>
      exact ((RosterOp.mem_apply_leave _ _ _ _ _).mp member).1
    case isFalse => exact member
  · intro holds stored
    rw [dispatchDisconnect_eq]
    apply krsServerFinalizeOrphanEvictions_allStored
    unfold disconnectSection
    split <;> exact stored

/-! ## Accepting a connection -/

section Accepting

variable
  {effects : List ServerEffect}
  {descriptor : Nat}
  {desc : UDPSocketDescriptor}
  {conn : ClientConnection}

theorem Accepted.alive_iff
    (accepted : Accepted before after effects descriptor desc conn)
    (ref : ConnectionRef) :
    ref ∈ aliveConnections after ↔
      ref ∈ aliveConnections before ∨ ref = before.connections.length := by
  rw [mem_aliveConnections, mem_aliveConnections]
  constructor
  · rintro ⟨other, member⟩
    rw [accepted.listed] at member
    split at member
    case isTrue =>
      rcases List.mem_append.mp member with old | last
      · exact Or.inl ⟨other, old⟩
      · exact Or.inr (List.mem_singleton.mp last)
    case isFalse => exact Or.inl ⟨other, member⟩
  · rintro (⟨other, member⟩ | rfl)
    · refine ⟨other, ?_⟩
      rw [accepted.listed]
      split
      case isTrue => exact List.mem_append_left _ member
      case isFalse => exact member
    · refine ⟨descriptor, ?_⟩
      rw [accepted.listed, if_pos ⟨rfl, rfl⟩]
      exact List.mem_append_right _ List.mem_cons_self

theorem Accepted.newId
    (accepted : Accepted before after effects descriptor desc conn) :
    after.connectionIdOf before.connections.length =
      before.nextConnectionId + 1 := by
  rw [ServerPortManager.connectionIdOf, accepted.heap,
    List.getElem?_concat_length]
  exact accepted.connectionId

theorem Accepted.oldId
    (accepted : Accepted before after effects descriptor desc conn)
    {ref : ConnectionRef}
    (allocated : ref < before.connections.length) :
    after.connectionIdOf ref = before.connectionIdOf ref := by
  rw [ServerPortManager.connectionIdOf, ServerPortManager.connectionIdOf,
    accepted.heap, List.getElem?_append_left allocated]

theorem Accepted.length
    (accepted : Accepted before after effects descriptor desc conn) :
    after.connections.length = before.connections.length + 1 := by
  rw [accepted.heap, List.length_append, List.length_singleton]

theorem IdsRecorded.accept
    (recorded : IdsRecorded before)
    (accepted : Accepted before after effects descriptor desc conn) :
    IdsRecorded after := by
  constructor
  · intro ref alive
    rw [accepted.length]
    rcases (accepted.alive_iff ref).mp alive with old | rfl
    · exact Nat.lt_succ_of_lt (recorded.allocated ref old)
    · exact Nat.lt_succ_self _
  · rw [accepted.map, accepted.length]
    refine ProbeTable.AllStored.put ?_ idHash ?_ true
    · intro connectionId entry member
      obtain ⟨allocated, own⟩ := recorded.recorded connectionId entry member
      exact ⟨Nat.lt_succ_of_lt allocated,
        (accepted.oldId allocated).trans own⟩
    · refine ⟨Nat.lt_succ_self _, ?_⟩
      rw [accepted.newId, accepted.connectionId]

/-- The ids alive stay in order exactly if the new one is not among them. -/
theorem AliveIds.accept_iff
    (recorded : IdsRecorded before)
    (ids : AliveIds before)
    (accepted : Accepted before after effects descriptor desc conn) :
    AliveIds after ↔
      before.nextConnectionId + 1 ≠ 0 ∧
        ∀ ref ∈ aliveConnections before,
          before.connectionIdOf ref ≠ before.nextConnectionId + 1 := by
  have newAlive : before.connections.length ∈ aliveConnections after :=
    (accepted.alive_iff _).mpr (Or.inr rfl)
  have oldAlive : ∀ ref ∈ aliveConnections before,
      ref ∈ aliveConnections after :=
    fun ref alive => (accepted.alive_iff ref).mpr (Or.inl alive)
  have oldId : ∀ ref ∈ aliveConnections before,
      after.connectionIdOf ref = before.connectionIdOf ref :=
    fun ref alive => accepted.oldId (recorded.allocated ref alive)
  constructor
  · intro after
    constructor
    · rw [← accepted.newId]
      exact after.nonzero _ newAlive
    · intro ref alive same
      rw [← accepted.newId, ← oldId ref alive] at same
      have equal := after.different ref (oldAlive ref alive) _ newAlive same
      exact Nat.ne_of_lt (recorded.allocated ref alive) equal
  · rintro ⟨nonzero, unused⟩
    constructor
    · intro ref alive
      rcases (accepted.alive_iff ref).mp alive with old | rfl
      · rw [oldId ref old]
        exact ids.nonzero ref old
      · rw [accepted.newId]
        exact nonzero
    · intro ref alive other otherAlive same
      rcases (accepted.alive_iff ref).mp alive with old | rfl
      · rcases (accepted.alive_iff other).mp otherAlive with otherOld | rfl
        · rw [oldId ref old, oldId other otherOld] at same
          exact ids.different ref old other otherOld same
        · rw [oldId ref old, accepted.newId] at same
          exact absurd same (unused ref old)
      · rcases (accepted.alive_iff other).mp otherAlive with otherOld | rfl
        · rw [oldId other otherOld, accepted.newId] at same
          exact absurd same.symm (unused other otherOld)
        · rfl

end Accepting

/-! ## Whole runs -/

/-- One event keeps the records, and keeps the ids in order exactly if the
next id is free. -/
theorem connectionStep_aliveIds
    {spm : ServerPortManager}
    (event : ConnectionEvent)
    (recorded : IdsRecorded spm)
    (ids : AliveIds spm) :
    ∃ next, connectionStep spm event = some next ∧
      (AliveIds next ↔ NextIdFree spm event) ∧ IdsRecorded next := by
  have shrunk : ∀ {next : ServerPortManager}, Shrinks spm next ->
      (AliveIds next ↔ True) ∧ IdsRecorded next := fun shrinks =>
    ⟨iff_true_intro (ids.shrink shrinks), recorded.shrink shrinks⟩
  cases event with
  | connect descriptor remoteAddr now =>
      refine ⟨_, rfl, ?_⟩
      cases new : isNewAddress spm descriptor remoteAddr with
      | false =>
          simp only [NextIdFree, new, Bool.false_eq_true, false_implies]
          exact shrunk (dispatchConnection_of_known new now).shrinks
      | true =>
          obtain ⟨opened, desc, conn, calm, sameNext, accepted⟩ :=
            dispatchConnection_of_new new now
          have openedRecorded := recorded.shrink calm.shrinks
          have exactly := (ids.shrink calm.shrinks).accept_iff openedRecorded
            accepted
          simp only [calm.alive_iff, calm.connectionIdOf, sameNext]
            at exactly
          refine ⟨?_, openedRecorded.accept accepted⟩
          simpa only [NextIdFree, new, true_implies] using exactly
  | disconnect descriptor remoteAddr =>
      exact ⟨_, rfl, shrunk
        (dispatchDisconnect_shrinks spm descriptor remoteAddr)⟩
  | elsewhere =>
      exact ⟨_, rfl, shrunk ⟨fun _ alive => alive, rfl, rfl,
        fun _ stored => stored⟩⟩

/-- A free id is not bound to a connection alive. -/
theorem NextIdFree.replacesNobody
    {spm : ServerPortManager}
    {event : ConnectionEvent}
    (recorded : IdsRecorded spm)
    (free : NextIdFree spm event) :
    ReplacesNobody spm event := by
  cases event with
  | connect descriptor remoteAddr now =>
      intro new entry found alive
      have own := (ProbeTable.AllStored.get recorded.recorded found).2
      exact (free new).2 entry.connection alive own
  | disconnect descriptor remoteAddr => trivial
  | elsewhere => trivial

theorem IdsRecorded.start
    {descriptorList : List UDPSocketDescriptor}
    (fresh : ∀ desc ∈ descriptorList, desc.connectionsOf 0 = []) :
    (∀ ref, ref ∉ aliveConnections (serverStart descriptorList)) ∧
      IdsRecorded (serverStart descriptorList) := by
  have nobody : ∀ ref, ref ∉ aliveConnections (serverStart descriptorList) := by
    intro ref alive
    obtain ⟨descriptor, member⟩ := (mem_aliveConnections _ ref).mp alive
    rw [listed_serverStart fresh] at member
    cases member
  refine ⟨nobody, fun ref alive => absurd alive (nobody ref), ?_⟩
  exact ProbeTable.create_allStored _ _

theorem AliveIds.start
    {descriptorList : List UDPSocketDescriptor}
    (fresh : ∀ desc ∈ descriptorList, desc.connectionsOf 0 = []) :
    AliveIds (serverStart descriptorList) := by
  obtain ⟨nobody, -⟩ := IdsRecorded.start fresh
  exact ⟨fun ref alive => absurd alive (nobody ref),
    fun ref alive => absurd alive (nobody ref)⟩

theorem aliveIds_along_iff
    {descriptorList : List UDPSocketDescriptor}
    (fresh : ∀ desc ∈ descriptorList, desc.connectionsOf 0 = [])
    (events : List ConnectionEvent) :
    RunStates connectionStep AliveIds (serverStart descriptorList) events ↔
      RunAllowed connectionStep NextIdFree (serverStart descriptorList)
        events :=
  runStates_iff_runAllowed (fun _ event recordedHere idsHere => by
    obtain ⟨next, taken, exactly, recordedNext⟩ :=
      connectionStep_aliveIds event recordedHere idsHere
    exact ⟨next, taken, exactly, fun _ => recordedNext⟩)
    (IdsRecorded.start fresh).2 (AliveIds.start fresh)

/-- Where the next id is always free, no entry of a connection alive is
replaced. -/
theorem replacesNobody_along
    {descriptorList : List UDPSocketDescriptor}
    (fresh : ∀ desc ∈ descriptorList, desc.connectionsOf 0 = [])
    {events : List ConnectionEvent}
    (free : RunAllowed connectionStep NextIdFree (serverStart descriptorList)
      events) :
    RunAllowed connectionStep ReplacesNobody (serverStart descriptorList)
      events := by
  have kept : ∀ spm event next, IdsRecorded spm ∧ AliveIds spm ->
      NextIdFree spm event -> connectionStep spm event = some next ->
        IdsRecorded next ∧ AliveIds next := by
    rintro spm event next ⟨recordedHere, idsHere⟩ freeHere taken
    obtain ⟨reached, stepped, idsNext, recordedNext⟩ :=
      connectionStep_aliveIds event recordedHere idsHere
    cases stepped.symm.trans taken
    exact ⟨recordedNext, idsNext.mpr freeHere⟩
  exact free.mono kept
    (fun _ _ invariant => NextIdFree.replacesNobody invariant.1)
    ⟨(IdsRecorded.start fresh).2, AliveIds.start fresh⟩

/-- In every run of connects and disconnects, with a connection map that can
always grow, the connections alive have different ids that are not zero, and no
entry of one is replaced, exactly if the id is free at every frame that is
accepted. -/
theorem connection_ids_unique_iff
    {descriptorList : List UDPSocketDescriptor}
    (fresh : ∀ desc ∈ descriptorList, desc.connectionsOf 0 = [])
    (events : List ConnectionEvent) :
    RunStates connectionStep AliveIds (serverStart descriptorList) events ∧
        RunAllowed connectionStep ReplacesNobody (serverStart descriptorList)
          events ↔
      RunAllowed connectionStep NextIdFree (serverStart descriptorList)
        events := by
  have exactly := aliveIds_along_iff fresh events
  exact ⟨fun both => exactly.mp both.1, fun free =>
    ⟨exactly.mpr free, replacesNobody_along fresh free⟩⟩

end Steps

/-- Two clients connect, the first one leaves and a third one comes, while
another server takes an id. -/
def mixedEvents : List ConnectionEvent :=
  [.connect 0 (clientAddress 4000) 0, .connect 0 (clientAddress 4001) 0,
    .disconnect 0 (clientAddress 4000), .elsewhere,
    .connect 0 (clientAddress 4002) 0]

theorem mixed_events_ids_unique :
    RunAllowed connectionStep NextIdFree (serverStart [listeningPort])
        mixedEvents ∧
      RunStates connectionStep AliveIds (serverStart [listeningPort])
        mixedEvents := by
  have free : RunAllowed connectionStep NextIdFree
      (serverStart [listeningPort]) mixedEvents := by
    decide +kernel
  refine ⟨free, ((connection_ids_unique_iff ?_ mixedEvents).mpr free).1⟩
  intro desc member
  rw [List.mem_singleton.mp member]
  rfl

/-! ## Fewer ids than the counter has -/

/-- The event may take an id. -/
def ConnectionEvent.drawsId : ConnectionEvent -> Bool
  | .connect _ _ _ => true
  | .disconnect _ _ => false
  | .elsewhere => true

/-- The counter is not behind any id in use, and has some numbers left. -/
structure CounterAhead (left : Nat) (spm : ServerPortManager) : Prop where
  ids : ∀ ref ∈ aliveConnections spm,
    (spm.connectionIdOf ref).toNat ≤ spm.nextConnectionId.toNat
  room : spm.nextConnectionId.toNat + left < 2 ^ 32

theorem CounterAhead.toNat_next
    {left : Nat}
    {spm : ServerPortManager}
    (ahead : CounterAhead (left + 1) spm) :
    (spm.nextConnectionId + 1).toNat = spm.nextConnectionId.toNat + 1 := by
  have room := ahead.room
  rw [UInt32.toNat_add, UInt32.toNat_one, Nat.mod_eq_of_lt (by omega)]

theorem CounterAhead.nextIdFree
    {left : Nat}
    {spm : ServerPortManager}
    {event : ConnectionEvent}
    (ahead : CounterAhead (left + if event.drawsId then 1 else 0) spm) :
    NextIdFree spm event := by
  cases event with
  | connect descriptor remoteAddr now =>
      have next := CounterAhead.toNat_next ahead
      intro _
      constructor
      · intro zero
        rw [zero] at next
        cases next
      · intro ref alive same
        have behind := ahead.ids ref alive
        rw [same, next] at behind
        exact absurd behind (Nat.not_succ_le_self _)
  | disconnect descriptor remoteAddr => trivial
  | elsewhere => trivial

/-- Nothing but the counter moves on, by one at most. -/
theorem CounterAhead.shrink
    {left drawn : Nat}
    {before after : ServerPortManager}
    (ahead : CounterAhead (left + drawn) before)
    (shrinks : Shrinks before after)
    (grown : before.nextConnectionId.toNat ≤ after.nextConnectionId.toNat)
    (counted : after.nextConnectionId.toNat ≤
      before.nextConnectionId.toNat + drawn) :
    CounterAhead left after := by
  have room := ahead.room
  constructor
  · intro ref alive
    rw [shrinks.ids]
    exact (ahead.ids ref (shrinks.alive ref alive)).trans grown
  · omega

theorem dispatchDisconnect_nextConnectionId
    (spm : ServerPortManager)
    (descriptor : Nat)
    (remoteAddr : PortAddress) :
    (dispatchDisconnect spm descriptor remoteAddr).1.nextConnectionId =
      spm.nextConnectionId := by
  have kept : (disconnectSection spm descriptor
      remoteAddr).2.nextConnectionId = spm.nextConnectionId := by
    unfold disconnectSection
    split <;> rfl
  rw [dispatchDisconnect_eq, ← kept]
  generalize disconnectSection spm descriptor remoteAddr = left
  unfold krsServerFinalizeOrphanEvictions
  split
  case isTrue => rfl
  case isFalse =>
      dsimp only
      rw [foldl_krsConnectionMapRelease]

theorem dispatchConnection_nextConnectionId
    (spm : ServerPortManager)
    (descriptor : Nat)
    (remoteAddr : PortAddress)
    (now : UInt64) :
    let after := (dispatchConnection spm descriptor remoteAddr now {}).1
    after.nextConnectionId = spm.nextConnectionId ∨
      after.nextConnectionId = spm.nextConnectionId + 1 := by
  unfold dispatchConnection krsServerHandleConnectionFrame acceptConnection
  dsimp only
  split
  case h_1 => exact .inl rfl
  case h_2 =>
    split
    case h_1 => exact .inl rfl
    case h_2 =>
      split
      case isTrue => exact .inl rfl
      case isFalse => split <;> exact .inr rfl

/-- One event uses up one of the numbers that are left, if it takes an id. -/
theorem CounterAhead.step
    {left : Nat}
    {spm next : ServerPortManager}
    {event : ConnectionEvent}
    (recorded : IdsRecorded spm)
    (ahead : CounterAhead (left + if event.drawsId then 1 else 0) spm)
    (taken : connectionStep spm event = some next) :
    CounterAhead left next := by
  cases event with
  | connect descriptor remoteAddr now =>
      cases taken
      have counted := CounterAhead.toNat_next ahead
      cases new : isNewAddress spm descriptor remoteAddr with
      | false =>
          have shrinks := (dispatchConnection_of_known new now).shrinks
          rcases dispatchConnection_nextConnectionId spm descriptor remoteAddr
            now with same | drawn
          · exact ahead.shrink shrinks (by rw [same])
              (by rw [same]; exact Nat.le_succ _)
          · rw [← drawn] at counted
            exact ahead.shrink shrinks (by omega) (le_of_eq counted)
      | true =>
          obtain ⟨registered, unknown⟩ := isNewAddress_eq_true_iff.mp new
          obtain ⟨-, drawn⟩ := dispatchConnection_created spm descriptor
            remoteAddr now (List.getElem?_eq_getElem registered) unknown
          obtain ⟨opened, desc, conn, calm, sameNext, accepted⟩ :=
            dispatchConnection_of_new new now
          have openedRecorded := recorded.shrink calm.shrinks
          have room : spm.nextConnectionId.toNat + (left + 1) < 2 ^ 32 :=
            ahead.room
          constructor
          · intro ref alive
            rw [drawn, counted]
            rcases (accepted.alive_iff ref).mp alive with old | rfl
            · have stays := calm.shrinks.alive ref old
              have behind := ahead.ids ref stays
              rw [accepted.oldId (openedRecorded.allocated ref old),
                calm.shrinks.ids]
              omega
            · rw [accepted.newId, sameNext, counted]
          · rw [drawn, counted]
            omega
  | disconnect descriptor remoteAddr =>
      cases taken
      have same := dispatchDisconnect_nextConnectionId spm descriptor
        remoteAddr
      exact ahead.shrink (dispatchDisconnect_shrinks spm descriptor
        remoteAddr) (by rw [same]) (by rw [same]; rfl)
  | elsewhere =>
      cases taken
      have counted := CounterAhead.toNat_next ahead
      refine ahead.shrink ⟨fun _ alive => alive, rfl, rfl,
        fun _ stored => stored⟩ ?_ (le_of_eq counted)
      dsimp only
      omega

theorem CounterAhead.nextIdFree_along
    {spm : ServerPortManager}
    {events : List ConnectionEvent}
    (recorded : IdsRecorded spm)
    (ids : AliveIds spm)
    (ahead : CounterAhead (events.countP ConnectionEvent.drawsId) spm) :
    RunAllowed connectionStep NextIdFree spm events := by
  induction events generalizing spm with
  | nil => trivial
  | cons event events inductionHypothesis =>
      rw [List.countP_cons] at ahead
      have free := ahead.nextIdFree
      refine ⟨free, ?_⟩
      obtain ⟨next, taken, exactly, recordedNext⟩ :=
        connectionStep_aliveIds event recorded ids
      rw [taken]
      exact inductionHypothesis recordedNext (exactly.mpr free)
        (ahead.step recorded taken)

/-- As long as fewer than 2^32 ids are taken, the connections alive have
different ids that are not zero, and no entry of one is replaced. -/
theorem ids_unique_of_few_draws
    {descriptorList : List UDPSocketDescriptor}
    (fresh : ∀ desc ∈ descriptorList, desc.connectionsOf 0 = [])
    {events : List ConnectionEvent}
    (few : events.countP ConnectionEvent.drawsId < 2 ^ 32) :
    RunStates connectionStep AliveIds (serverStart descriptorList) events ∧
      RunAllowed connectionStep ReplacesNobody (serverStart descriptorList)
        events := by
  obtain ⟨nobody, recorded⟩ := IdsRecorded.start fresh
  have ahead : CounterAhead (events.countP ConnectionEvent.drawsId)
      (serverStart descriptorList) := by
    refine ⟨fun ref alive => absurd alive (nobody ref), ?_⟩
    change 0 + _ < 2 ^ 32
    rw [Nat.zero_add]
    exact few
  have free := ahead.nextIdFree_along recorded (AliveIds.start fresh)
  exact ⟨(aliveIds_along_iff fresh events).mpr free,
    replacesNobody_along fresh free⟩

/-! ## Once around -/

/-- A client connects and leaves again, as often as given. -/
def visits (remoteAddr : PortAddress) : Nat -> List ConnectionEvent
  | 0 => []
  | count + 1 =>
      .connect 0 remoteAddr 0 :: .disconnect 0 remoteAddr ::
        visits remoteAddr count

/-- The first port exists and has no connections. -/
structure Deserted (spm : ServerPortManager) : Prop where
  registered : 0 < spm.descriptorList.length
  nobody : listed spm 0 0 = []

theorem Deserted.isNewAddress
    {spm : ServerPortManager}
    (deserted : Deserted spm)
    (remoteAddr : PortAddress) :
    isNewAddress spm 0 remoteAddr = true := by
  rw [isNewAddress_eq_true_iff, deserted.nobody]
  exact ⟨deserted.registered, rfl⟩

/-- A visit leaves the port as deserted as before, and the counter one
further. -/
theorem Deserted.visit
    {spm : ServerPortManager}
    (deserted : Deserted spm)
    (remoteAddr : PortAddress) :
    ∃ between after,
      connectionStep spm (.connect 0 remoteAddr 0) = some between ∧
      connectionStep between (.disconnect 0 remoteAddr) = some after ∧
      Deserted after ∧
      after.nextConnectionId = spm.nextConnectionId + 1 := by
  refine ⟨_, _, rfl, rfl, ?_⟩
  obtain ⟨registered, unknown⟩ := isNewAddress_eq_true_iff.mp
    (deserted.isNewAddress remoteAddr)
  obtain ⟨longer, counted⟩ := dispatchConnection_created spm 0 remoteAddr 0
    (List.getElem?_eq_getElem registered) unknown
  have outcome := dispatchConnection_lists spm 0 remoteAddr 0 {}
  have descriptors := (dispatchConnection_callbacks spm 0 remoteAddr 0 {}).1
  generalize (dispatchConnection spm 0 remoteAddr 0 {}).1 = between at *
  have joined : Joined spm between 0 remoteAddr := by
    rcases outcome with joined | kept
    · exact joined
    · have same := kept.2.1
      omega
  have here : listed between 0 0 = [spm.connections.length] := by
    rw [joined.lists 0, if_pos rfl, RosterOp.apply, Function.update_self,
      deserted.nobody]
    rfl
  obtain ⟨lists, -⟩ := dispatchDisconnect_rearranges between 0 remoteAddr
  refine ⟨⟨?_, ?_⟩, ?_⟩
  · rw [(dispatchDisconnect_callbacks between 0 remoteAddr).1, descriptors]
    exact registered
  · rw [lists 0, if_pos rfl, List.eq_nil_iff_forall_not_mem]
    intro ref left
    obtain ⟨member, stays⟩ := (RosterOp.mem_apply_leave _ _ _ _ _).mp left
    rw [here] at member
    rw [List.mem_singleton.mp member,
      (hasAddress_iff between remoteAddr _).mpr joined.addressOf.1] at stays
    cases stays
  · rw [dispatchDisconnect_nextConnectionId, counted]

theorem Deserted.visits
    {spm : ServerPortManager}
    (deserted : Deserted spm)
    (remoteAddr : PortAddress)
    (count : Nat) :
    ∃ after, run connectionStep spm (visits remoteAddr count) = some after ∧
      Deserted after ∧
      after.nextConnectionId =
        spm.nextConnectionId + UInt32.ofNat count := by
  induction count generalizing spm with
  | zero => exact ⟨spm, rfl, deserted, (UInt32.add_zero _).symm⟩
  | succ count inductionHypothesis =>
      obtain ⟨between, left, connected, disconnected, again, counted⟩ :=
        deserted.visit remoteAddr
      obtain ⟨after, ran, final, reached⟩ := inductionHypothesis again
      refine ⟨after, ?_, final, ?_⟩
      · rw [Kronos.visits, run_cons, connected, Option.bind_some, run_cons,
          disconnected, Option.bind_some]
        exact ran
      · rw [reached, counted, UInt32.add_assoc, UInt32.ofNat_add,
          UInt32.add_comm 1]
        rfl

/-- Other servers of the process take any number of ids. -/
theorem run_elsewhere
    (spm : ServerPortManager)
    (count : Nat) :
    run connectionStep spm (List.replicate count .elsewhere) =
      some { spm with
        nextConnectionId := spm.nextConnectionId + UInt32.ofNat count } := by
  induction count generalizing spm with
  | zero =>
      change some spm = some { spm with
        nextConnectionId := spm.nextConnectionId + 0 }
      rw [UInt32.add_zero]
  | succ count inductionHypothesis =>
      rw [List.replicate_succ, run_cons]
      change run connectionStep
        { spm with nextConnectionId := spm.nextConnectionId + 1 } _ = _
      rw [inductionHypothesis, UInt32.add_assoc, UInt32.ofNat_add,
        UInt32.add_comm 1]
      rfl

/-- The first client of the port gets the number after the counter. -/
theorem Deserted.not_aliveIds
    {spm : ServerPortManager}
    (deserted : Deserted spm)
    (last : spm.nextConnectionId + 1 = 0)
    (remoteAddr : PortAddress) :
    ¬ AliveIds (dispatchConnection spm 0 remoteAddr 0 {}).1 := by
  intro ids
  obtain ⟨opened, desc, conn, -, sameNext, accepted⟩ :=
    dispatchConnection_of_new (deserted.isNewAddress remoteAddr) 0
  refine ids.nonzero opened.connections.length
    ((accepted.alive_iff _).mpr (Or.inr rfl)) ?_
  rw [accepted.newId, sameNext, last]

/-- When the counter has gone around once, the next client gets the id that
stands for no connection: after as many visits of one client, with a map that
can always grow, or after other servers of the process have taken the ids. -/
theorem wrapped_id_is_zero :
    (∃ after, run connectionStep (serverStart [listeningPort])
        (visits (clientAddress 4000) (2 ^ 32 - 1) ++
          [.connect 0 (clientAddress 4000) 0]) = some after ∧
      ¬ AliveIds after) ∧
    ∃ after, run connectionStep (serverStart [listeningPort])
        (List.replicate (2 ^ 32 - 1) .elsewhere ++
          [.connect 0 (clientAddress 4000) 0]) = some after ∧
      ¬ AliveIds after := by
  have start : Deserted (serverStart [listeningPort]) :=
    ⟨Nat.one_pos, rfl⟩
  constructor
  · obtain ⟨before, ran, deserted, counted⟩ :=
      start.visits (clientAddress 4000) (2 ^ 32 - 1)
    have last : before.nextConnectionId + 1 = 0 := by
      rw [counted]
      decide
    exact ⟨_, by rw [run_append, ran]; rfl, deserted.not_aliveIds last _⟩
  · let before : ServerPortManager :=
      { serverStart [listeningPort] with
        nextConnectionId := 0 + UInt32.ofNat (2 ^ 32 - 1) }
    have ran : run connectionStep (serverStart [listeningPort])
        (List.replicate (2 ^ 32 - 1) .elsewhere) = some before :=
      run_elsewhere _ _
    have deserted : Deserted before := ⟨start.registered, start.nobody⟩
    have last : before.nextConnectionId + 1 = 0 := by decide
    exact ⟨_, by rw [run_append, ran]; rfl, deserted.not_aliveIds last _⟩

end Kronos
