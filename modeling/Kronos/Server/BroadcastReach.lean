import Kronos.Server.Recipients

/-!
# Broadcasts that reach everybody

A broadcast does what it is for exactly if every port can serve its
recipients.  If one is left out or gets no frames, the number of datagrams
tells; if two messages have the same number, the datagrams carry it.
-/

namespace Kronos

open Library

/-! ## Reaching everybody -/

section Reaching

variable
  {call : BroadcastCall}
  {spm : ServerPortManager}
  {channel : Channel}
  {payload : List UInt8}
  {outcomes : BroadcastOutcomes}
  {descriptor : Nat}

/-- With room for all, and nobody without a name, the snapshot has
everybody. -/
theorem snapshotOf_eq_recipients
    (room : (call.recipients spm channel descriptor).length ≤
      broadcastCapacity)
    (named : call = .toAll ->
      ∀ ref ∈ call.recipients spm channel descriptor,
        spm.connectionIdOf ref ≠ 0) :
    snapshotOf spm channel call.excludeId descriptor =
      call.recipients spm channel descriptor := by
  have all : ((listed spm descriptor channel).filter fun ref =>
      spm.connectionIdOf ref ≠ call.excludeId) =
        call.recipients spm channel descriptor := by
    cases call with
    | except excludeConnectionId => rfl
    | toAll =>
        refine List.filter_eq_self.mpr fun ref member => ?_
        exact decide_eq_true (named rfl ref member)
  rw [snapshotOf, all, List.take_of_length_le room]

/-- Only then does the snapshot have as many as the call is for. -/
theorem room_of_length_snapshotOf
    (full : (call.recipients spm channel descriptor).length ≤
      (snapshotOf spm channel call.excludeId descriptor).length) :
    (call.recipients spm channel descriptor).length ≤ broadcastCapacity ∧
      (call = .toAll -> ∀ ref ∈ call.recipients spm channel descriptor,
        spm.connectionIdOf ref ≠ 0) := by
  rw [snapshotOf, List.length_take] at full
  refine ⟨full.trans (Nat.min_le_left _ _), ?_⟩
  rintro rfl ref member
  have everybody : ((listed spm descriptor channel).filter fun ref =>
      decide (spm.connectionIdOf ref ≠ 0)).length =
        (listed spm descriptor channel).length :=
    Nat.le_antisymm (List.length_filter_le _ _)
      (full.trans (Nat.min_le_right _ _))
  exact of_decide_eq_true
    (List.length_filter_eq_length_iff.mp everybody ref member)

theorem SubscribersHeld.allocated
    (held : SubscribersHeld spm channel descriptor)
    {ref : ConnectionRef}
    (member : ref ∈ call.recipients spm channel descriptor) :
    ref < spm.connections.length := by
  have onList : ref ∈ listed spm descriptor channel := by
    cases call with
    | toAll => exact member
    | except excludeConnectionId => exact List.mem_of_mem_filter member
  obtain ⟨conn, read, -⟩ := held.held ref onList
  exact (List.getElem?_eq_some_iff.mp read).1

/-- A port that can serve its recipients sends each of them the message. -/
theorem BroadcastCall.Serves.keptBlocks_eq
    (serves : call.Serves spm channel payload outcomes descriptor)
    (registered : descriptor < spm.descriptorList.length) :
    keptBlocks (outcomes.built payload)
        (wholeMessage spm channel payload descriptor)
        (portTargets spm channel call.excludeId outcomes descriptor) =
      ((call.recipients spm channel descriptor).zip
        (drawnIds spm channel descriptor outcomes.counter
          (call.recipients spm channel descriptor).length)).flatMap
        (wholeMessage spm channel payload descriptor) := by
  rw [portTargets, snapshotOf_eq_recipients serves.room serves.named]
  refine keptBlocks_of_all fun index inside => serves.frames index ?_
  rw [List.length_zip, length_drawnIds registered, Nat.min_self] at inside
  exact inside

theorem BroadcastCall.Serves.nodup_drawnIds
    (serves : call.Serves spm channel payload outcomes descriptor)
    (registered : descriptor < spm.descriptorList.length) :
    (drawnIds spm channel descriptor outcomes.counter
      (call.recipients spm channel descriptor).length).Nodup := by
  rcases Nat.lt_or_ge (call.recipients spm channel descriptor).length 2 with
    few | several
  · have length : (drawnIds spm channel descriptor outcomes.counter
        (call.recipients spm channel descriptor).length).length < 2 := by
      rw [length_drawnIds registered]
      exact few
    rw [List.nodup_iff_pairwise_ne, List.pairwise_iff_getElem]
    intro left right _ inside below
    omega
  · exact Kronos.nodup_drawnIds (serves.counter several) serves.room

/-- A port that sends each recipient the message under an id of its own can
serve them. -/
theorem BroadcastCall.serves_of_reached
    (held : SubscribersHeld spm channel descriptor)
    (registered : descriptor < spm.descriptorList.length)
    (short : payload.length < 2 ^ 16)
    {packetIds : List UInt64}
    (length : packetIds.length =
      (call.recipients spm channel descriptor).length)
    (different : packetIds.Nodup)
    (reached : keptBlocks (outcomes.built payload)
        (wholeMessage spm channel payload descriptor)
        (portTargets spm channel call.excludeId outcomes descriptor) =
      ((call.recipients spm channel descriptor).zip packetIds).flatMap
        (wholeMessage spm channel payload descriptor)) :
    call.Serves spm channel payload outcomes descriptor := by
  have positive := frameCount_pos (UInt16.ofNat payload.length)
  have targets : (portTargets spm channel call.excludeId outcomes
      descriptor).length =
        (snapshotOf spm channel call.excludeId descriptor).length := by
    rw [portTargets, List.length_zip, length_drawnIds registered,
      Nat.min_self]
  have each : ∀ target ∈ portTargets spm channel call.excludeId outcomes
      descriptor, (wholeMessage spm channel payload descriptor
        target).length = frameCount (UInt16.ofNat payload.length) := by
    intro target member
    obtain ⟨conn, read, -⟩ := held.held target.1
      (mem_listed_of_snapshotOf (List.of_mem_zip member).1)
    exact length_wholeMessage short (List.getElem?_eq_some_iff.mp read).1
  have sent : (keptBlocks (outcomes.built payload)
      (wholeMessage spm channel payload descriptor)
      (portTargets spm channel call.excludeId outcomes descriptor)).length =
        (call.recipients spm channel descriptor).length *
          frameCount (UInt16.ofNat payload.length) := by
    rw [reached, length_flatMap_blocks (fun target member =>
      length_wholeMessage short
        (held.allocated (List.of_mem_zip member).1)), List.length_zip,
      length, Nat.min_self]
  have most : (keptBlocks (outcomes.built payload)
      (wholeMessage spm channel payload descriptor)
      (portTargets spm channel call.excludeId outcomes descriptor)).length ≤
        _ := length_keptBlocks_le each
  rw [sent, targets] at most
  have full := Nat.le_of_mul_le_mul_right most positive
  obtain ⟨room, named⟩ := room_of_length_snapshotOf full
  have everybody := snapshotOf_eq_recipients room named
  have frames : ∀ index < (call.recipients spm channel descriptor).length,
      outcomes.built payload index = true := by
    have kept := kept_of_length positive each (sent.trans
      (by rw [targets, everybody]))
    rwa [targets, everybody] at kept
  refine ⟨room, fun several => ?_, frames, named⟩
  by_contra missing
  rw [portTargets, everybody, keptBlocks_of_all] at reached
  · have drawn := eq_of_flatMap_zip_eq (length_drawnIds registered) length
      (fun ref member _ _ => (length_wholeMessage short
        (held.allocated member)).trans (length_wholeMessage short
          (held.allocated member)).symm)
      (fun ref member _ _ => wholeMessage_injective short
        (held.allocated member)) reached
    rw [← drawn, drawnIds_of_no_counter registered missing,
      List.nodup_replicate] at different
    omega
  · intro index inside
    rw [List.length_zip, length_drawnIds registered, Nat.min_self] at inside
    exact frames index inside

end Reaching

/-! ## Every reachable state -/

section Reachable

variable {current : ThreadedServer}

/-- A step that changes no list and no identity. -/
theorem RosterInvariant.keep
    {before after : ServerPortManager}
    (invariant : RosterInvariant before)
    {descriptor : Nat}
    (lists : ChangesLists before after descriptor .keep)
    (heap : IndexRelated (fun _ => SameIdentity) before.connections
      after.connections) :
    RosterInvariant after :=
  invariant.change_of_related lists heap trivial nofun

theorem RosterInvariant.modifyConnection
    {spm : ServerPortManager}
    (invariant : RosterInvariant spm)
    (connection : ConnectionRef)
    {change : ClientConnection -> ClientConnection}
    (same : ∀ conn, SameIdentity conn (change conn)) :
    RosterInvariant (spm.modifyConnection connection change) :=
  invariant.keep (.of_descriptorList rfl 0)
    (IndexRelated.modify (fun _ => SameIdentity.refl) _ connection
      fun conn _ => same conn)

theorem RosterInvariant.acquireAll
    {spm : ServerPortManager}
    (invariant : RosterInvariant spm)
    (snapshot : List ConnectionRef) :
    RosterInvariant (snapshot.foldl acquireConnection spm) := by
  induction snapshot generalizing spm with
  | nil => exact invariant
  | cons connection snapshot inductionHypothesis =>
      exact inductionHypothesis
        (invariant.modifyConnection connection fun _ => ⟨rfl, rfl⟩)

theorem RosterInvariant.useForSend
    {spm : ServerPortManager}
    (invariant : RosterInvariant spm)
    (entry : ConnectionMapEntry)
    (request : SendRequest) :
    RosterInvariant (useForSend spm entry request) := by
  refine invariant.keep (useForSend_lists spm entry request) ?_
  unfold Kronos.useForSend
  split
  case h_2 => exact IndexRelated.refl (fun _ => SameIdentity.refl) _
  case h_1 target desc targetRead _ =>
    refine ⟨List.length_set, ?_⟩
    intro ref old new oldRead newRead
    by_cases own : ref = entry.connection
    · subst own
      rw [targetRead] at oldRead
      cases oldRead
      rw [List.getElem?_set_self
        (List.getElem?_eq_some_iff.mp targetRead).1] at newRead
      cases newRead
      exact sendOn_identity _ _ _ _ _ _ _ _
    · rw [List.getElem?_set_ne (Ne.symm own), oldRead] at newRead
      cases newRead
      exact SameIdentity.refl old

/-- A thread takes its next step. -/
theorem RosterInvariant.advance
    (invariant : RosterInvariant current.spm)
    (position : Nat)
    (outcomes : StepOutcomes)
    (thread : ServerThread) :
    RosterInvariant (advance current position outcomes thread).spm := by
  have released : ∀ connection, RosterInvariant
      (krsConnectionMapRelease current.spm connection) := fun connection =>
    invariant.modifyConnection connection fun conn =>
      (releaseConnection_released conn).identity
  have sameHeap : IndexRelated (fun _ => SameIdentity)
      current.spm.connections current.spm.connections :=
    IndexRelated.refl (fun _ => SameIdentity.refl) _
  cases thread with
  | register descriptor connection =>
      change RosterInvariant (registerConnection _ _ _ _ _)
      unfold registerConnection
      split
      case h_1 => exact invariant
      case h_2 => exact invariant.keep (.of_descriptorList rfl 0) sameHeap
  | welcome connection => exact invariant
  | remove orphans =>
      exact invariant.keep (.of_descriptorList rfl 0) sameHeap
  | finalize orphanCount orphans =>
      cases orphans with
      | nil => exact invariant.keep (.of_descriptorList rfl 0) sameHeap
      | cons connection orphans => exact released connection
  | send entry request => exact invariant.useForSend entry request
  | broadcast descriptor channel snapshot =>
      exact invariant.keep (numberBroadcast_lists current.spm descriptor
        channel snapshot.length outcomes.counter) sameHeap
  | release held =>
      cases held with
      | nil => exact invariant
      | cons connection held => exact released connection

theorem RosterInvariant.threadStep
    (invariant : RosterInvariant current.spm)
    {event : ThreadEvent}
    {next : ThreadedServer}
    (taken : threadStep current event = some next) :
    RosterInvariant next.spm := by
  cases event with
  | connection descriptor remoteAddr now allocations =>
      cases taken
      exact invariant.lockSection
        (.connection descriptor remoteAddr now allocations)
  | disconnect descriptor remoteAddr =>
      cases taken
      exact invariant.lockSection (.disconnect descriptor remoteAddr)
  | evict descriptor now =>
      cases taken
      exact invariant.lockSection (.evict descriptor now)
  | heartbeat descriptor remoteAddr now =>
      cases taken
      exact invariant.lockSection (.heartbeat descriptor remoteAddr now)
  | subscribe descriptor frame remoteAddr created pushed =>
      cases taken
      exact invariant.lockSection
        (.subscribe descriptor frame remoteAddr created pushed)
  | unsubscribe descriptor frame remoteAddr =>
      cases taken
      exact invariant.lockSection (.unsubscribe descriptor frame remoteAddr)
  | send connectionId request =>
      simp only [Kronos.threadStep] at taken
      split at taken
      case h_1 =>
        cases taken
        exact invariant
      case h_2 entry _ =>
        cases taken
        exact invariant.modifyConnection entry.connection
          fun _ => ⟨rfl, rfl⟩
  | broadcast descriptor channel excludeId =>
      simp only [Kronos.threadStep] at taken
      split at taken
      case h_1 =>
        cases taken
        exact invariant
      case h_2 =>
        split at taken
        case h_1 =>
          cases taken
          exact invariant
        case h_2 =>
          obtain ⟨snapshot, -, rfl⟩ := Option.map_eq_some_iff.mp taken
          exact invariant.acquireAll snapshot
  | advance position outcomes =>
      obtain ⟨thread, -, rfl⟩ := Option.map_eq_some_iff.mp taken
      exact invariant.advance position outcomes thread

/-- Broadcasts may rely on the lists of every state that threads get to, as
long as no connection is freed too early. -/
theorem subscribersHeld_of_run
    {descriptorList : List UDPSocketDescriptor}
    (fresh : ∀ desc ∈ descriptorList, ∀ channel,
      desc.connectionsOf channel = [])
    {events : List ThreadEvent}
    {final : ThreadedServer}
    (allowed : RunAllowed threadStep LifetimeAllowed
      { spm := serverStart descriptorList } events)
    (reached : run threadStep { spm := serverStart descriptorList } events =
      some final)
    (channel : Channel)
    (descriptor : Nat) :
    SubscribersHeld final.spm channel descriptor := by
  obtain ⟨lifetime, roster⟩ := run_induction
    (fun state event next (invariant : LifetimeInvariant state ∧
        RosterInvariant state.spm) allowedHere taken =>
      ⟨invariant.1.threadStep allowedHere taken,
        invariant.2.threadStep taken⟩)
    ⟨LifetimeInvariant.start fresh, RosterInvariant.start fresh⟩
    allowed reached
  refine ⟨(roster.listsInOrder descriptor).once channel, ?_⟩
  intro ref member
  have owned := lifetime.lifetimes.members descriptor channel ref member
  have read := List.getElem?_eq_getElem owned.lt
  exact ⟨_, read, lifetime.lifetimes.alive read (Or.inl owned)⟩

end Reachable

/-! ## The calls -/

/-- A broadcast reaches its recipients only if every port can serve them. -/
theorem BroadcastCall.serves_of_reaches
    {call : BroadcastCall}
    {spm : ServerPortManager}
    {channel : Channel}
    (held : ∀ descriptor, SubscribersHeld spm channel descriptor)
    {payload : List UInt8}
    (short : payload.length < 2 ^ 16)
    {outcomes : Nat -> BroadcastOutcomes}
    (reaches : call.Reaches spm channel payload
      (call.perform spm channel payload outcomes))
    {descriptor : Nat}
    (registered : descriptor < spm.descriptorList.length) :
    call.Serves spm channel payload (outcomes descriptor) descriptor := by
  obtain ⟨after, performed, -⟩ := call.perform_of_held held short outcomes
  rw [performed] at reaches
  obtain ⟨final, packetIds, same, ids, -⟩ := reaches
  have effects := (Prod.mk.inj (Option.some.inj same)).2
  have sent : ∀ port, ∀ effect ∈ keptBlocks ((outcomes port).built payload)
      (wholeMessage spm channel payload port) (portTargets spm channel
        call.excludeId (outcomes port) port),
      effect.sendingPort = port := by
    intro port effect member
    obtain ⟨target, -, inMessage⟩ := mem_keptBlocks member
    exact sendingPort_of_mem_wholeMessage inMessage
  have expected : ∀ port, ∀ effect ∈ ((call.recipients spm channel
      port).zip (packetIds port)).flatMap
        (wholeMessage spm channel payload port),
      effect.sendingPort = port := by
    intro port effect member
    obtain ⟨target, -, inMessage⟩ := List.mem_flatMap.mp member
    exact sendingPort_of_mem_wholeMessage inMessage
  have reached := eq_of_flatMap_tagged_eq List.nodup_range
    (fun port _ => sent port) (fun port _ => expected port) effects
    (List.mem_range.mpr registered)
  exact call.serves_of_reached (held descriptor) registered short
    (ids descriptor registered).1 (ids descriptor registered).2 reached

/-- In every state whose listed connections are held, a broadcast sends the
whole message once to every subscriber it is for, on every port under
different packet ids, and to nobody else, with the reference counts as before,
exactly if every port can serve its recipients. -/
theorem broadcast_reaches_recipients_iff
    (call : BroadcastCall)
    {spm : ServerPortManager}
    {channel : Channel}
    (held : ∀ descriptor, SubscribersHeld spm channel descriptor)
    {payload : List UInt8}
    (short : payload.length < 2 ^ 16)
    (outcomes : Nat -> BroadcastOutcomes) :
    call.Reaches spm channel payload
        (call.perform spm channel payload outcomes) ↔
      ∀ descriptor < spm.descriptorList.length,
        call.Serves spm channel payload (outcomes descriptor)
          descriptor := by
  constructor
  · intro reaches descriptor registered
    exact BroadcastCall.serves_of_reaches held short reaches registered
  · intro serves
    obtain ⟨after, performed, heap⟩ := call.perform_of_held held short
      outcomes
    refine ⟨after, fun descriptor => drawnIds spm channel descriptor
      (outcomes descriptor).counter
      (call.recipients spm channel descriptor).length, ?_, ?_, ?_⟩
    · rw [performed]
      congr 2
      refine List.flatMap_congr fun descriptor member => ?_
      exact (serves descriptor (List.mem_range.mp member)).keptBlocks_eq
        (List.mem_range.mp member)
    · intro descriptor registered
      exact ⟨length_drawnIds registered,
        (serves descriptor registered).nodup_drawnIds registered⟩
    · rw [heap]

/-- The first clients have connected and subscribed to channel 10. -/
def crowdedServer (count : Nat) : ServerPortManager :=
  { descriptorList :=
      [{ port := 5000
         channelStates := fun channel =>
          if channel = 0 ∨ channel = 10 then
            { connections := some (List.range count) }
          else {} }]
    connectionMap := (List.range count).foldl (fun map connection =>
      krsConnectionMapPut map (connection.toUInt32 + 1)
        { descriptor := 0, connection := connection }
        (clientAddress connection.toUInt16) true true)
      (krsConnectionMapCreate 64)
    connections := (List.range count).map fun connection =>
      { connectionId := connection.toUInt32 + 1
        remoteAddress := clientAddress connection.toUInt16
        lastHeartbeatMs := 0 }
    nextConnectionId := count.toUInt32
    stats := {} }

theorem crowdedServer_held (count : Nat) (descriptor : Nat) :
    SubscribersHeld (crowdedServer count) 10 descriptor := by
  cases descriptor with
  | succ descriptor => exact ⟨List.nodup_nil, fun _ member => by cases member⟩
  | zero =>
      refine ⟨List.nodup_range, ?_⟩
      intro ref member
      have inside : ref < count := List.mem_range.mp member
      refine ⟨{ connectionId := ref.toUInt32 + 1
                remoteAddress := clientAddress ref.toUInt16
                lastHeartbeatMs := 0 }, ?_, rfl, le_refl _⟩
      rw [crowdedServer, List.getElem?_map, List.getElem?_range inside]
      rfl

theorem crowdedServer_recipients (count : Nat) :
    (BroadcastCall.toAll.recipients (crowdedServer count) 10 0).length =
      count :=
  List.length_range

theorem small_broadcast_reaches_recipients :
    BroadcastCall.toAll.Reaches (crowdedServer 2) 10 [1, 2, 3]
      (BroadcastCall.toAll.perform (crowdedServer 2) 10 [1, 2, 3]
        fun _ => {}) := by
  refine (broadcast_reaches_recipients_iff .toAll (crowdedServer_held 2)
    (by decide) fun _ => {}).mpr ?_
  intro descriptor registered
  obtain rfl : descriptor = 0 := Nat.lt_one_iff.mp registered
  refine ⟨by decide, fun _ => Or.inr rfl,
    fun _ _ => framesBuilt_of_succeed _, fun _ => ?_⟩
  decide

/-- A subscriber more than the snapshot has places. -/
theorem crowded_broadcast_incomplete :
    ¬ BroadcastCall.toAll.Reaches (crowdedServer 257) 10 [1, 2, 3]
      (BroadcastCall.toAll.perform (crowdedServer 257) 10 [1, 2, 3]
        fun _ => {}) := by
  intro reaches
  have serves := BroadcastCall.serves_of_reaches (crowdedServer_held 257)
    (by decide) reaches Nat.one_pos
  have room := serves.room
  rw [crowdedServer_recipients] at room
  exact absurd room (by decide)

end Kronos
