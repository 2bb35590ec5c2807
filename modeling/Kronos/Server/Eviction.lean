import Kronos.Server.Presence

/-!
# Connections are announced in pairs

Disconnect frames and ticks as removals, and the invariant over whole runs: as
long as no tick finds more stale connections on a port than the orphan buffer
holds, every announced connection is either still connected everywhere or
removed everywhere with one disconnect callback.
-/

namespace Kronos

open Library

/-! ## Disconnect frames -/

theorem length_le_one_of_all_equal
    {items : List ConnectionRef}
    (once : items.Nodup)
    (equal : ∀ left ∈ items, ∀ right ∈ items, left = right) :
    items.length ≤ 1 := by
  match items with
  | [] => exact Nat.zero_le _
  | [_] => exact Nat.le_refl _
  | first :: second :: rest =>
      have same := equal first (by simp) second (by simp)
      rw [same] at once
      simp at once

theorem identityOf_of_hasAddress
    {spm : ServerPortManager}
    {remoteAddr : PortAddress}
    {ref : ConnectionRef}
    (owned : spm.hasAddress remoteAddr ref = true) :
    ∃ connectionId, identityOf spm ref = some (connectionId, remoteAddr) := by
  unfold ServerPortManager.hasAddress at owned
  unfold identityOf
  split at owned
  case h_1 => cases owned
  case h_2 conn read =>
    rw [krsNetworkPortAddressEquals_iff] at owned
    rw [read, ← owned]
    exact ⟨conn.connectionId, rfl⟩

section

variable
  {spm : ServerPortManager}
  {log : List ServerEffect}

/-- A sweep whose buffer has room, followed by its finalization. -/
theorem Presence.sweep
    (presence : Presence spm log)
    {descriptor : Nat}
    {desc : UDPSocketDescriptor}
    (read : spm.descriptorList[descriptor]? = some desc)
    {visit : List ConnectionRef -> ConnectionRef ->
      List ConnectionRef × Option ConnectionRef}
    {leaves : ConnectionRef -> Bool}
    (removes : RemovesGone ((listed spm descriptor 0).filter leaves) visit
      leaves)
    {cleared : UDPSocketDescriptor}
    (callbacks : SameCallbacks (sweepChannels visit desc).2 cleared)
    (lists : ∀ channel, cleared.connectionsOf channel =
      (sweepChannels visit desc).2.connectionsOf channel) :
    let finalized := krsServerFinalizeOrphanEvictions
      (spm.modifyDescriptor descriptor fun _ => cleared) descriptor
      (sweepChannels visit desc).1
    Removed spm finalized.1 finalized.2 descriptor leaves
      (sweepChannels visit desc).1 := by
  have listedHere : ∀ channel, listed spm descriptor channel =
      desc.connectionsOf channel := by
    intro channel
    rw [listed, read]
  obtain ⟨tracked, found, sweptTo⟩ := removes.sweepChannels desc (by
    intro channel ref member leavesHere
    rw [← listedHere] at member
    exact List.mem_filter.mpr
      ⟨presence.subscribers descriptor channel ref member, leavesHere⟩)
  rw [sweptTo] at callbacks lists
  generalize (sweepChannels visit desc).1 = orphans at *
  refine krsServerFinalizeOrphanEvictions_removed read ?_
    (presence.callbacks desc (List.mem_of_getElem? read)) ?_ tracked.1 ?_
  · exact ⟨callbacks.connect, callbacks.disconnect, callbacks.failure⟩
  · intro channel
    rw [lists, connectionsOf_clearedOn, if_pos (mem_allChannels channel)]
  · intro ref
    constructor
    · intro orphan
      have gone := tracked.2 ref orphan
      rw [listedHere] at gone
      exact List.mem_filter.mp gone
    · rintro ⟨member, leavesHere⟩
      exact found 0 ref member leavesHere

theorem Presence.dispatchDisconnect
    (presence : Presence spm log)
    (descriptor : Nat)
    (remoteAddr : PortAddress) :
    Presence (dispatchDisconnect spm descriptor remoteAddr).1
      (log ++ (dispatchDisconnect spm descriptor remoteAddr).2) := by
  unfold Kronos.dispatchDisconnect
  split
  case h_1 =>
    rw [List.append_nil]
    exact presence
  case h_2 desc read =>
    have single : ((listed spm descriptor 0).filter
        (spm.hasAddress remoteAddr)).length ≤ 1 := by
      refine length_le_one_of_all_equal
        ((presence.distinct descriptor).filter _) ?_
      intro left leftMember right rightMember
      obtain ⟨leftListed, leftOwned⟩ := List.mem_filter.mp leftMember
      obtain ⟨rightListed, rightOwned⟩ := List.mem_filter.mp rightMember
      obtain ⟨leftId, leftIdentity⟩ := identityOf_of_hasAddress leftOwned
      obtain ⟨rightId, rightIdentity⟩ := identityOf_of_hasAddress rightOwned
      exact presence.addresses descriptor left leftListed right rightListed
        leftId rightId remoteAddr leftIdentity rightIdentity
    exact presence.remove (presence.sweep read
      (disconnectVisit_removesGone spm remoteAddr
        (le_trans single (by decide))) (SameCallbacks.refl _) fun _ => rfl)

/-! ## Eviction -/

theorem connectionsOf_sweepReassemblers
    (now : UInt64)
    (desc : UDPSocketDescriptor)
    (channel : Channel) :
    (sweepReassemblers now desc).connectionsOf channel =
      desc.connectionsOf channel := rfl

/-- The last heartbeat stays. -/
def SameHeartbeat (old new : ClientConnection) : Prop :=
  new.lastHeartbeatMs = old.lastHeartbeatMs

theorem SameHeartbeat.refl (conn : ClientConnection) :
    SameHeartbeat conn conn := Eq.refl conn.lastHeartbeatMs

theorem SameHeartbeat.trans
    {first second third : ClientConnection}
    (earlier : SameHeartbeat first second)
    (later : SameHeartbeat second third) :
    SameHeartbeat first third := Eq.trans later earlier

theorem releaseConnection_heartbeat (conn : ClientConnection) :
    SameHeartbeat conn (releaseConnection conn) := by
  unfold releaseConnection
  simp only
  split <;> rfl

/-- Staleness depends on the last heartbeat only. -/
theorem isStale_of_related
    {before after : ServerPortManager}
    (heap : IndexRelated (fun _ => SameHeartbeat) before.connections
      after.connections) :
    isStale after = isStale before := by
  funext now ref
  unfold isStale
  rcases heap.read_cases ref with ⟨noneBefore, noneAfter⟩ |
    ⟨old, new, oldRead, newRead, same⟩
  · rw [noneBefore, noneAfter]
  · rw [oldRead, newRead]
    dsimp only
    rw [same]

theorem Presence.evictDescriptor
    (presence : Presence spm log)
    (now : UInt64)
    (descriptor : Nat)
    (room : ((listed spm descriptor 0).filter (isStale spm now)).length ≤
      maxEvictionsPerCycle) :
    let evicted := evictDescriptor spm now descriptor
    Presence evicted.1 (log ++ evicted.2) ∧
      (∀ other, other ≠ descriptor ->
        listed evicted.1 other 0 = listed spm other 0) ∧
      isStale evicted.1 = isStale spm := by
  unfold Kronos.evictDescriptor
  split
  case h_1 =>
    refine ⟨?_, fun _ _ => rfl, rfl⟩
    rw [List.append_nil]
    exact presence
  case h_2 desc read =>
    have removed := presence.sweep read
      (evictVisit_removesGone spm now room fun ref gone =>
        (List.mem_filter.mp gone).2)
      (sweepReassemblers_callbacks now _)
      (connectionsOf_sweepReassemblers now _)
    have stale := krsServerFinalizeOrphanEvictions_related
      SameHeartbeat.refl (fun _ _ _ => SameHeartbeat.trans)
      releaseConnection_heartbeat
      (spm.modifyDescriptor descriptor fun _ =>
        sweepReassemblers now (sweepChannels
          (evictVisit spm now maxEvictionsPerCycle) desc).2) descriptor
      (sweepChannels (evictVisit spm now maxEvictionsPerCycle) desc).1
    unfold evictStaleConnections
    dsimp only at removed ⊢
    generalize sweepChannels (evictVisit spm now maxEvictionsPerCycle) desc =
      swept at *
    refine ⟨presence.remove removed, ?_, isStale_of_related stale⟩
    intro other different
    have lists := removed.lists other 0
    rw [if_neg different] at lists
    exact lists

/-- The eviction loop, when the buffer has room on each port. -/
theorem Presence.evictAll
    (presence : Presence spm log)
    (clock : Nat -> UInt64)
    (room : ∀ descriptor < spm.descriptorList.length,
      ((listed spm descriptor 0).filter
        (isStale spm (clock descriptor))).length ≤ maxEvictionsPerCycle) :
    Presence (evictAll spm clock).1 (log ++ (evictAll spm clock).2) := by
  have loop : ∀ (descriptors : List Nat)
      (current : ServerPortManager × List ServerEffect),
      descriptors.Nodup -> Presence current.1 (log ++ current.2) ->
      (∀ descriptor ∈ descriptors,
        ((listed current.1 descriptor 0).filter
          (isStale current.1 (clock descriptor))).length ≤
            maxEvictionsPerCycle) ->
      let next := descriptors.foldl (fun current descriptor =>
        let evicted := Kronos.evictDescriptor current.1 (clock descriptor)
          descriptor
        (evicted.1, current.2 ++ evicted.2)) current
      Presence next.1 (log ++ next.2) := by
    intro descriptors
    induction descriptors with
    | nil => exact fun _ _ here _ => here
    | cons descriptor descriptors inductionHypothesis =>
        intro current once here fits
        obtain ⟨apart, later⟩ := List.nodup_cons.mp once
        obtain ⟨next, lists, stale⟩ := here.evictDescriptor (clock descriptor)
          descriptor (fits descriptor (by simp))
        refine inductionHypothesis _ later ?_ ?_
        · dsimp only
          rw [← List.append_assoc]
          exact next
        · intro other member
          dsimp only
          rw [stale, lists other]
          · exact fits other (by simp [member])
          · rintro rfl
            exact apart member
  refine loop (List.range spm.descriptorList.length) (spm, [])
    List.nodup_range ?_ ?_
  · rw [List.append_nil]
    exact presence
  · exact fun descriptor member => room descriptor (List.mem_range.mp member)

/-! ## Ticks and datagrams -/

/-- Collecting retransmissions changes connections by checks only. -/
theorem collectAll_related
    {related : ClientConnection -> ClientConnection -> Prop}
    (reflexive : ∀ conn, related conn conn)
    (transitive : ∀ a b c, related a b -> related b c -> related a c)
    (checked : ∀ callback descriptor ref now buffers conn,
      related conn
        (collectConnection callback descriptor ref now buffers conn).2)
    (spm : ServerPortManager)
    (clock : ConnectionRef -> UInt64) :
    IndexRelated (fun _ => related) spm.connections
      (collectAll spm clock).2.connections := by
  rw [collectAll_eq]
  generalize visitedEntries spm = entries
  have loop : ∀ current : TickBuffers × List ClientConnection,
      IndexRelated (fun _ => related) current.2
        (entries.foldl (visitEntry (failureCallback spm) clock)
          current).2 := by
    induction entries with
    | nil => exact fun current => IndexRelated.refl (fun _ => reflexive) _
    | cons entry entries inductionHypothesis =>
        intro current
        refine IndexRelated.trans (fun _ => transitive) ?_
          (inductionHypothesis (visitEntry _ clock current entry))
        refine ⟨visitEntry_length _ clock current entry, ?_⟩
        intro ref old new oldRead newRead
        rw [visitEntry_read, oldRead] at newRead
        split at newRead
        case isTrue =>
          cases newRead
          exact checked _ _ _ _ _ _
        case isFalse =>
          cases newRead
          exact reflexive old
  exact loop ({}, spm.connections)

theorem collectConnection_identity
    (callback : Option Callback)
    (descriptor : Nat)
    (ref : ConnectionRef)
    (now : UInt64)
    (buffers : TickBuffers)
    (conn : ClientConnection) :
    let checked := collectConnection callback descriptor ref now buffers conn
    SameIdentity conn checked.2 ∧ SameHeartbeat conn checked.2 := by
  unfold collectConnection
  split
  case h_1 => exact ⟨SameIdentity.refl conn, SameHeartbeat.refl conn⟩
  case h_2 => exact ⟨⟨rfl, rfl⟩, rfl⟩

theorem collectedEffects_unannounced (buffers : TickBuffers) :
    Unannounced (collectedEffects buffers) := by
  refine Unannounced.append ?_ ?_
  · intro effect member
    obtain ⟨retransmit, -, rfl⟩ := List.mem_map.mp member
    rfl
  · intro effect member
    obtain ⟨failure, -, rfl⟩ := List.mem_map.mp member
    rfl

theorem Presence.retransmitTick
    (presence : Presence spm log)
    (clock : TickClock)
    (room : ∀ descriptor < spm.descriptorList.length,
      ((listed spm descriptor 0).filter
        (isStale spm (clock.evict descriptor))).length ≤
          maxEvictionsPerCycle) :
    Presence (retransmitTick spm clock).1
      (log ++ (retransmitTick spm clock).2) := by
  have heap := collectAll_related SameIdentity.refl
    (fun _ _ _ => SameIdentity.trans)
    (fun callback descriptor ref now buffers conn =>
      (collectConnection_identity callback descriptor ref now buffers
        conn).1) spm clock.check
  have beats := collectAll_related SameHeartbeat.refl
    (fun _ _ _ => SameHeartbeat.trans)
    (fun callback descriptor ref now buffers conn =>
      (collectConnection_identity callback descriptor ref now buffers
        conn).2) spm clock.check
  have same : (collectAll spm clock.check).2.descriptorList =
        spm.descriptorList ∧
      (collectAll spm clock.check).2.connectionMap = spm.connectionMap := by
    rw [collectAll_eq]
    exact ⟨rfl, rfl⟩
  unfold Kronos.retransmitTick
  dsimp only
  generalize collectAll spm clock.check = collected at *
  have calm : CalmEvent spm
      { collected.2 with
        stats :=
          { collected.2.stats with
            retransmissions := collected.2.stats.retransmissions +
              UInt64.ofNat collected.1.pending.length } }
      (collectedEffects collected.1) :=
    .of_heap same.1 same.2 heap (collectedEffects_unannounced collected.1)
  have stale : isStale
      { collected.2 with
        stats :=
          { collected.2.stats with
            retransmissions := collected.2.stats.retransmissions +
              UInt64.ofNat collected.1.pending.length } } = isStale spm :=
    isStale_of_related beats
  have evicted := (presence.calm calm).evictAll clock.evict (by
    intro descriptor inside
    rw [stale, calm.listed_zero]
    rw [calm.descriptors.1] at inside
    exact room descriptor inside)
  rw [List.append_assoc] at evicted
  exact evicted

theorem Presence.withStats
    (presence : Presence spm log)
    (stats : ServerStats) :
    Presence { spm with stats := stats } log :=
  ⟨presence.sound, presence.bound, presence.backed, presence.subscribers,
    presence.distinct, presence.addresses, presence.callbacks,
    presence.present, presence.left, presence.unborn, presence.announced⟩

/-- The event under which callbacks stay paired: the id of a new connection is
free, and no tick finds more stale connections on a port than the orphan buffer
holds. -/
def PresenceAllowed (current : ServerRun) : ServerEvent -> Prop
  | .datagram _ bytes _ _ =>
      (krsFrameCreate bytes kronosBufferSize).channel = 0 ->
        (krsFrameCreate bytes kronosBufferSize).frameType =
            FrameType.connection.code ->
          ConnectionIdFree current.spm
  | .send .. => True
  | .tick clock =>
      ∀ descriptor < current.spm.descriptorList.length,
        ((listed current.spm descriptor 0).filter
          (isStale current.spm (clock.evict descriptor))).length ≤
            maxEvictionsPerCycle

instance (current : ServerRun) :
    ∀ event, Decidable (PresenceAllowed current event)
  | .datagram .. => inferInstanceAs (Decidable (_ -> _))
  | .send .. => isTrue trivial
  | .tick _ => inferInstanceAs (Decidable (∀ descriptor < _, _))

theorem Presence.dispatchConnection
    (presence : Presence spm log)
    (free : ConnectionIdFree spm)
    (descriptor : Nat)
    (remoteAddr : PortAddress)
    (now : UInt64)
    (allocations : ConnectAllocations) :
    let handled := dispatchConnection spm descriptor remoteAddr now
      allocations
    Presence handled.1 (log ++ handled.2) := by
  rcases dispatchConnection_cases spm descriptor remoteAddr now
    allocations with calm | ⟨opened, desc, conn, calm, sameId, accepted⟩
  · exact presence.calm calm
  · have before := presence.calm calm
    rw [List.append_nil] at before
    refine before.accept ?_ accepted
    unfold ConnectionIdFree
    rw [calm.map, sameId]
    exact free

theorem Presence.routed
    (presence : Presence spm log)
    {descriptor : Nat}
    {frame : Frame}
    {remoteAddr : PortAddress}
    {input : HandlerInput}
    (free : frame.channel = 0 ->
      frame.frameType = FrameType.connection.code -> ConnectionIdFree spm)
    {result : ServerPortManager × List ServerEffect}
    (routed : Routed spm descriptor frame remoteAddr input result) :
    Presence result.1 (log ++ result.2) := by
  cases routed with
  | connection channel type =>
      exact presence.dispatchConnection (free channel type) _ _ _ _
  | heartbeat => exact presence.calm (krsServerHandleHeartbeatFrame_calm _ _ _ _)
  | disconnect => exact presence.dispatchDisconnect _ _
  | subscribe => exact presence.calm (dispatchSubscribe_calm _ _ _ _ _ _ _)
  | unsubscribe => exact presence.calm (dispatchUnsubscribe_calm _ _ _ _ _)
  | acknowledgement => exact presence.calm (dispatchAck_calm _ _ _ _)
  | ignored => exact presence.calm (.refl _ Unannounced.nil)
  | application _ _ dispatched =>
      exact presence.calm (dispatchAppFrame_calm dispatched)

theorem Presence.handleDatagram
    (presence : Presence spm log)
    {descriptor : Nat}
    {bytes : List UInt8}
    {remoteAddr : PortAddress}
    {input : HandlerInput}
    (free : (krsFrameCreate bytes kronosBufferSize).channel = 0 ->
      (krsFrameCreate bytes kronosBufferSize).frameType =
        FrameType.connection.code -> ConnectionIdFree spm)
    {next : ServerPortManager}
    {effects : List ServerEffect}
    (handled : handleDatagram spm descriptor bytes remoteAddr input =
      some (next, effects)) :
    Presence next (log ++ effects) := by
  unfold Kronos.handleDatagram at handled
  simp only at handled
  split at handled
  case isTrue =>
    cases handled
    exact presence.calm (.refl _ Unannounced.nil)
  case isFalse =>
    have counted := presence.withStats
      { spm.stats with
        messagesReceived := spm.stats.messagesReceived + 1 }
    exact counted.routed free (routeFrame_routed handled)

/-! ## Whole runs -/

/-- The invariant of a run. -/
def RunPresence (current : ServerRun) : Prop :=
  Presence current.spm current.log

theorem RunPresence.step
    {current next : ServerRun}
    (presence : RunPresence current)
    {event : ServerEvent}
    (allowed : PresenceAllowed current event)
    (taken : serverStep current event = some next) :
    RunPresence next := by
  obtain ⟨⟨after, effects⟩, effect, rfl⟩ := Option.map_eq_some_iff.mp taken
  cases event with
  | datagram descriptor bytes remoteAddr input =>
      exact Presence.handleDatagram presence allowed effect
  | send connectionId channel data length requireAck clock allocations =>
      obtain ⟨⟨sent, result, sends⟩, returned, same⟩ :=
        Option.map_eq_some_iff.mp effect
      cases same
      exact Presence.calm presence (krsServerSend_calm returned)
  | tick clock =>
      cases effect
      exact Presence.retransmitTick presence clock allowed

/-- A new server, all of whose ports are without connections and have a
disconnect callback. -/
theorem Presence.start
    {descriptorList : List UDPSocketDescriptor}
    (fresh : ∀ desc ∈ descriptorList, ∀ channel,
      desc.connectionsOf channel = [])
    (registered : ∀ desc ∈ descriptorList,
      desc.disconnectCallback.isSome = true) :
    Presence (serverStart descriptorList) [] := by
  have empty : ∀ descriptor channel,
      listed (serverStart descriptorList) descriptor channel = [] :=
    fun descriptor channel => listed_serverStart
      (fun desc member => fresh desc member channel) descriptor
  have sixtyFour : nextPowerOfTwo 64 = 64 := by decide
  refine ⟨?_, ?_, ?_, ?_, ?_, ?_, registered, ?_, ?_, fun _ _ => rfl, ?_⟩
  · have sound : ProbeTable.Sound idHash
        (ProbeTable.create (2 ^ 6) :
          ProbeTable UInt32 ConnectionMapEntry) :=
      ProbeTable.create_sound idHash (by decide)
    unfold serverStart krsConnectionMapCreate
    rw [sixtyFour]
    exact sound
  · intro descriptor ref member
    rw [empty] at member
    cases member
  · intro connectionId entry bound
    have vacant := List.eq_of_mem_replicate bound
    cases vacant
  · intro descriptor channel ref member
    rw [empty] at member
    cases member
  · intro descriptor
    rw [empty]
    exact List.nodup_nil
  · intro descriptor left member
    rw [empty] at member
    cases member
  · intro descriptor ref member
    rw [empty] at member
    cases member
  · intro ref inside
    cases inside
  · intro callback ref connectionId member
    cases member

/-- The connection is a member of channel 0 of its port and bound in the
connection map, with no disconnect callback so far, or it is in neither of
them, with exactly one. -/
def PresentOrDisconnectedOnce
    (current : ServerRun)
    (ref : ConnectionRef)
    (connectionId : UInt32) : Prop :=
  (∃ descriptor desc,
      current.spm.descriptorList[descriptor]? = some desc ∧
        ref ∈ desc.connectionsOf 0 ∧
        krsConnectionMapGet current.spm.connectionMap connectionId =
          some { descriptor := descriptor, connection := ref } ∧
        disconnectCount current.log ref = 0) ∨
    ((∀ desc ∈ current.spm.descriptorList, ref ∉ desc.connectionsOf 0) ∧
      (∀ otherId entry,
        krsConnectionMapGet current.spm.connectionMap otherId = some entry ->
          entry.connection ≠ ref) ∧
      disconnectCount current.log ref = 1)

/-- In every run in which new connection ids are free and no tick finds more
stale connections on a port than the orphan buffer holds, every announced
connection is still connected everywhere or was removed everywhere and
announced once more. -/
theorem announced_connection_present_or_disconnected_once
    {descriptorList : List UDPSocketDescriptor}
    (fresh : ∀ desc ∈ descriptorList, ∀ channel,
      desc.connectionsOf channel = [])
    (registered : ∀ desc ∈ descriptorList,
      desc.disconnectCallback.isSome = true)
    {events : List ServerEvent}
    {final : ServerRun}
    (allowed : RunAllowed serverStep PresenceAllowed
      (runStart descriptorList) events)
    (reached : run serverStep (runStart descriptorList) events = some final)
    {callback : Callback}
    {ref : ConnectionRef}
    {connectionId : UInt32}
    (announced : .connected callback ref connectionId ∈ final.log) :
    PresentOrDisconnectedOnce final ref connectionId := by
  have start : RunPresence (runStart descriptorList) :=
    Presence.start fresh registered
  have presence : Presence final.spm final.log :=
    run_induction (fun _ _ _ here => RunPresence.step here) start allowed
      reached
  obtain ⟨address, identity⟩ :=
    presence.announced callback ref connectionId announced
  by_cases member : ∃ descriptor, ref ∈ listed final.spm descriptor 0
  · obtain ⟨descriptor, here⟩ := member
    obtain ⟨ownId, ownAddress, known, bound⟩ :=
      presence.bound descriptor ref here
    have silent := presence.present descriptor ref here
    rw [identity] at known
    cases known
    unfold listed at here
    split at here
    case h_1 => cases here
    case h_2 desc read =>
      exact Or.inl ⟨descriptor, desc, read, here,
        (krsConnectionMapGet_eq_some_iff
          presence.sound.placed).mpr bound, silent⟩
  · have absent : ∀ descriptor, ref ∉ listed final.spm descriptor 0 :=
      fun descriptor here => member ⟨descriptor, here⟩
    refine Or.inr ⟨?_, ?_, presence.left ref
      (allocated_of_identity identity) absent⟩
    · intro desc present here
      obtain ⟨descriptor, read⟩ := List.mem_iff_getElem?.mp present
      refine absent descriptor ?_
      rw [listed, read]
      exact here
    · rintro otherId entry read rfl
      have bound := (krsConnectionMapGet_eq_some_iff
          presence.sound.placed).mp read
      exact absent entry.descriptor (presence.backed otherId entry bound).1

end

/-- A port with both presence callbacks. -/
def announcingPort : UDPSocketDescriptor :=
  { port := 5000
    connectCallback := some 1
    disconnectCallback := some 2 }

/-- Two clients connect, one of them keeps its connection alive and the other
one is evicted. -/
theorem presence_of_short_run :
    ∃ final,
      run serverStep (runStart [announcingPort])
          [connectFrom 4000 0, connectFrom 4001 0, heartbeatFrom 4001 20000,
            tickAt 30000] = some final ∧
        .connected 1 0 1 ∈ final.log ∧
        PresentOrDisconnectedOnce final 0 1 := by
  have ran : (run serverStep (runStart [announcingPort])
      [connectFrom 4000 0, connectFrom 4001 0, heartbeatFrom 4001 20000,
        tickAt 30000]).map (fun final =>
          decide (.connected 1 0 1 ∈ final.log)) = some true := by
    decide +kernel
  obtain ⟨final, reached, logged⟩ := Option.map_eq_some_iff.mp ran
  have announced := of_decide_eq_true logged
  refine ⟨final, reached, announced,
    announced_connection_present_or_disconnected_once ?_ (by decide)
      (by decide +kernel) reached announced⟩
  intro desc member channel
  rw [List.mem_singleton.mp member]
  rfl

/-- Sixty-five clients fall silent together: the tick removes all of them from
channel 0 and tracks 64, so that the first one stays bound in the map and is
never announced as disconnected. -/
theorem presence_lost_beyond_orphan_buffer :
    ∃ final,
      run serverStep (runStart [announcingPort])
          ((List.range 65).map (fun client =>
            connectFrom (UInt16.ofNat (4000 + client)) 0) ++
            [tickAt 30000]) = some final ∧
        .connected 1 0 1 ∈ final.log ∧
        ¬ PresentOrDisconnectedOnce final 0 1 := by
  have ran : (run serverStep (runStart [announcingPort])
      ((List.range 65).map (fun client =>
        connectFrom (UInt16.ofNat (4000 + client)) 0) ++
        [tickAt 30000])).map (fun final =>
          (decide (.connected 1 0 1 ∈ final.log),
            final.spm.descriptorList.map (·.connectionsOf 0),
            krsConnectionMapGet final.spm.connectionMap 1)) =
      some (true, [[]], some { descriptor := 0, connection := 0 }) := by
    decide +kernel
  obtain ⟨final, reached, facts⟩ := Option.map_eq_some_iff.mp ran
  simp only [Prod.mk.injEq] at facts
  obtain ⟨logged, empty, stillBound⟩ := facts
  refine ⟨final, reached, of_decide_eq_true logged, ?_⟩
  rintro (⟨descriptor, desc, read, member, -⟩ | ⟨-, unbound, -⟩)
  · have listedEmpty : desc.connectionsOf 0 ∈ [([] : List ConnectionRef)] := by
      rw [← empty]
      exact List.mem_map_of_mem (List.mem_of_getElem? read)
    rw [List.mem_singleton.mp listedEmpty] at member
    cases member
  · exact unbound 1 _ stillBound rfl

end Kronos
