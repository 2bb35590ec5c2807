import Kronos.Server.Membership
import Kronos.Server.Step

/-!
# Delivery failures

A tick reports every entry that it drops, one callback an entry, through two
buffers of 32 places.  As long as a tick drops no more than that, the reports
of a run are its drops, in order; the callback of a packet is then called
exactly once if and only if no two dropped entries belong to the same packet.
-/

namespace Kronos

open Library

/-! ## Reports and drops -/

/-- Connection id, channel and packet id: what a failure callback is told. -/
abbrev FailedPacket := UInt32 × Channel × UInt64

/-- The packet that an effect reports as failed. -/
def ServerEffect.failedPacket? : ServerEffect -> Option FailedPacket
  | .deliveryFailure _ connectionId channel packetId =>
      some (connectionId, channel, packetId)
  | _ => none

/-- The packets reported as failed so far, in order. -/
def reportedFailures (log : List ServerEffect) : List FailedPacket :=
  log.filterMap ServerEffect.failedPacket?

theorem reportedFailures_append (log effects : List ServerEffect) :
    reportedFailures (log ++ effects) =
      reportedFailures log ++ reportedFailures effects :=
  List.filterMap_append

theorem Quiet.reportedFailures_eq
    {effects : List ServerEffect}
    (quiet : Quiet effects) :
    reportedFailures effects = [] := by
  rw [reportedFailures, List.filterMap_eq_nil_iff]
  intro effect member
  have isQuiet := quiet effect member
  cases effect <;> first | rfl | cases isQuiet

/-- The packets of the entries of a connection that a tick drops. -/
def droppedOf (now : UInt64) (conn : ClientConnection) : List FailedPacket :=
  (droppedEntries now conn).map fun entry =>
    (conn.connectionId, entry.channel, entry.packetId)

/-- The packets of all entries that a tick drops. -/
def droppedPackets
    (spm : ServerPortManager)
    (clock : ConnectionRef -> UInt64) : List FailedPacket :=
  (visitedEntries spm).flatMap fun slot =>
    (spm.connections[slot.connection]?.map
      (droppedOf (clock slot.connection))).getD []

/-- The packets of the entries that an event drops for having reached
`max_retries`. -/
def droppedBy (current : ServerRun) : ServerEvent -> List FailedPacket
  | .tick clock => droppedPackets current.spm clock.check
  | _ => []

/-- The packets of the entries that a run drops, in order. -/
def droppedInRun : ServerRun -> List ServerEvent -> List FailedPacket
  | _, [] => []
  | current, event :: events =>
      droppedBy current event ++
        match serverStep current event with
        | none => []
        | some next => droppedInRun next events

/-- A tick drops no more entries than one check and one tick can report. -/
def FailuresAllowed (current : ServerRun) (event : ServerEvent) : Prop :=
  (droppedBy current event).length ≤ maxPendingFailures

instance (current : ServerRun) (event : ServerEvent) :
    Decidable (FailuresAllowed current event) :=
  inferInstanceAs (Decidable (_ ≤ _))

/-! ## One tick -/

/-- The failure callback of every port is registered. -/
def FailuresRegistered (spm : ServerPortManager) : Prop :=
  ∀ desc ∈ spm.descriptorList, desc.deliveryFailureCallback.isSome = true

theorem FailuresRegistered.callback
    {spm : ServerPortManager}
    (registered : FailuresRegistered spm)
    {slot : ConnectionMapEntry}
    (visited : slot ∈ visitedEntries spm) :
    ∃ callback, failureCallback spm slot.descriptor = some callback := by
  obtain ⟨descriptor, inside, own⟩ := List.mem_flatMap.mp visited
  rw [List.mem_range] at inside
  rw [(mem_entriesOf.mp own).1, failureCallback,
    List.getElem?_eq_getElem inside]
  exact Option.isSome_iff_exists.mp
    (registered _ (List.getElem_mem inside))

/-- The failures that a visited connection contributes to a tick. -/
def contributedFailures
    (spm : ServerPortManager)
    (clock : ConnectionRef -> UInt64)
    (slot : ConnectionMapEntry)
    (conn : ClientConnection) : List PendingDeliveryFailure :=
  match failureCallback spm slot.descriptor with
  | none => []
  | some callback =>
      (droppedEntries (clock slot.connection) conn).map
        (failureOf callback conn)

/-- The packet of a pending failure. -/
def PendingDeliveryFailure.packet (failure : PendingDeliveryFailure) :
    FailedPacket :=
  (failure.connectionId, failure.channel, failure.packetId)

theorem reportedFailures_collectedEffects (buffers : TickBuffers) :
    reportedFailures (collectedEffects buffers) =
      buffers.failures.map PendingDeliveryFailure.packet := by
  have silent : reportedFailures (flushRetransmits buffers.pending) = [] := by
    rw [reportedFailures, List.filterMap_eq_nil_iff]
    intro effect member
    obtain ⟨retransmit, -, rfl⟩ := List.mem_map.mp member
    rfl
  rw [collectedEffects, reportedFailures_append, silent, List.nil_append,
    reportedFailures, failureCallbacks, List.filterMap_map]
  change buffers.failures.filterMap
    (some ∘ PendingDeliveryFailure.packet) = _
  rw [List.filterMap_eq_map]

/-- A tick with room for its drops reports exactly these. -/
theorem reportedFailures_collectAll
    {spm : ServerPortManager}
    (refs : MapRefs spm.connectionMap spm.connections)
    (registered : FailuresRegistered spm)
    {clock : ConnectionRef -> UInt64}
    (few : (droppedPackets spm clock).length ≤ maxPendingFailures) :
    reportedFailures (collectedEffects (collectAll spm clock).1) =
      droppedPackets spm clock := by
  have packets : ∀ slot ∈ visitedEntries spm, ∀ conn,
      (contributedFailures spm clock slot conn).map
          PendingDeliveryFailure.packet =
        droppedOf (clock slot.connection) conn := by
    intro slot visited conn
    obtain ⟨callback, found⟩ := registered.callback visited
    rw [contributedFailures, found, List.map_map]
    rfl
  have contributions : ((visitedEntries spm).flatMap fun slot =>
      (spm.connections[slot.connection]?.map
        (contributedFailures spm clock slot)).getD []).map
          PendingDeliveryFailure.packet = droppedPackets spm clock := by
    rw [droppedPackets, List.map_flatMap]
    refine List.flatMap_congr fun slot visited => ?_
    cases spm.connections[slot.connection]? with
    | none => rfl
    | some conn => exact packets slot visited conn
  have total := few
  rw [← contributions, List.length_map] at total
  have collected := foldl_visitEntry_buffer (failureCallback spm) clock
    TickBuffers.failures (contributedFailures spm clock) maxPendingFailures
    (visitedEntries_nodup refs) (by
      intro slot visited conn _ buffers fits
      obtain ⟨callback, found⟩ := registered.callback visited
      rw [contributedFailures, found] at fits
      rw [contributedFailures, found]
      exact collectConnection_failures callback slot
        (clock slot.connection) conn buffers fits)
    ({}, spm.connections) (fun _ _ => rfl) ((Nat.zero_add _).trans_le total)
  rw [reportedFailures_collectedEffects, collectAll_eq]
  dsimp only
  rw [collected, List.map_append, contributions]
  rfl

/-! ## Whole runs -/

/-- What a run needs to keep reporting. -/
structure ReportsReady (current : ServerRun) : Prop where
  refs : RunHolds (fun _ _ _ => True) current
  registered : FailuresRegistered current.spm

theorem FailuresRegistered.of_related
    {before after : ServerPortManager}
    (registered : FailuresRegistered before)
    (callbacks : IndexRelated (fun _ => SameCallbacks) before.descriptorList
      after.descriptorList) :
    FailuresRegistered after := by
  intro new member
  obtain ⟨position, newRead⟩ := List.mem_iff_getElem?.mp member
  obtain ⟨old, oldRead, same⟩ := callbacks.exists_old newRead
  rw [same.failure]
  exact registered old (List.mem_of_getElem? oldRead)

theorem ReportsReady.step
    {current next : ServerRun}
    (ready : ReportsReady current)
    {event : ServerEvent}
    (taken : serverStep current event = some next) :
    ReportsReady next := by
  refine ⟨ready.refs.refs_step taken, ?_⟩
  obtain ⟨⟨spm, effects⟩, effect, rfl⟩ := Option.map_eq_some_iff.mp taken
  exact ready.registered.of_related (serverEffect_callbacks effect)

/-- One allowed step reports exactly what it drops. -/
theorem reportedFailures_step
    {current next : ServerRun}
    (ready : ReportsReady current)
    {event : ServerEvent}
    (allowed : FailuresAllowed current event)
    (taken : serverStep current event = some next) :
    reportedFailures next.log =
      reportedFailures current.log ++ droppedBy current event := by
  obtain ⟨⟨spm, effects⟩, effect, rfl⟩ := Option.map_eq_some_iff.mp taken
  rw [reportedFailures_append]
  congr 1
  cases event with
  | datagram descriptor bytes remoteAddr input =>
      exact (handleDatagram_effect effect).quiet.reportedFailures_eq
  | send connectionId channel data length requireAck clock allocations =>
      obtain ⟨⟨sent, result, sends⟩, returned, same⟩ :=
        Option.map_eq_some_iff.mp effect
      cases same
      exact (krsServerSend_effect returned).2.reportedFailures_eq
  | tick clock =>
      have collected := reportedFailures_collectAll ready.refs.refs
        ready.registered allowed
      cases effect
      dsimp only
      change reportedFailures (collectedEffects _ ++ _) = _
      rw [reportedFailures_append, collected,
        (evictAll_effect _ _).2.2.reportedFailures_eq, List.append_nil]
      rfl

/-- The reports of an allowed run are its drops, in order. -/
theorem reportedFailures_run
    {current final : ServerRun}
    {events : List ServerEvent}
    (ready : ReportsReady current)
    (allowed : RunAllowed serverStep FailuresAllowed current events)
    (reached : run serverStep current events = some final) :
    reportedFailures final.log =
      reportedFailures current.log ++ droppedInRun current events := by
  induction events generalizing current with
  | nil =>
      cases reached
      exact (List.append_nil _).symm
  | cons event events inductionHypothesis =>
      rw [run_cons] at reached
      obtain ⟨next, taken, rest⟩ := Option.bind_eq_some_iff.mp reached
      obtain ⟨allowedHere, allowedAfter⟩ := allowed
      rw [taken] at allowedAfter
      rw [inductionHypothesis (ready.step taken) allowedAfter rest,
        reportedFailures_step ready allowedHere taken, List.append_assoc,
        droppedInRun, taken]

/-- In every run in which no tick drops more than 32 entries, the failure
callback is called exactly once for each packet with a dropped entry, and for
no other packet, if and only if no two dropped entries belong to the same
packet. -/
theorem delivery_failure_reported_once_iff
    {descriptorList : List UDPSocketDescriptor}
    (registered : ∀ desc ∈ descriptorList,
      desc.deliveryFailureCallback.isSome = true)
    {events : List ServerEvent}
    {final : ServerRun}
    (allowed : RunAllowed serverStep FailuresAllowed
      (runStart descriptorList) events)
    (reached : run serverStep (runStart descriptorList) events =
      some final) :
    (∀ packet, (reportedFailures final.log).count packet =
        if packet ∈ droppedInRun (runStart descriptorList) events then 1
        else 0) ↔
      (droppedInRun (runStart descriptorList) events).Nodup := by
  have reports := reportedFailures_run
    ⟨RunHolds.start _ descriptorList, registered⟩ allowed reached
  rw [reports]
  change (∀ packet, (droppedInRun _ events).count packet = _) ↔ _
  constructor
  · intro once
    rw [List.nodup_iff_count_eq_one]
    intro packet dropped
    rw [once packet, if_pos dropped]
  · intro distinct packet
    exact List.Nodup.count distinct

/-- A port with a failure callback. -/
def reportingPort : UDPSocketDescriptor :=
  { port := 5000, deliveryFailureCallback := some 1 }

/-- The time a connection needs to give an entry up, with the heartbeats that
keep it alive. -/
def untilDropped : List ServerEvent :=
  [tickAt 1000, tickAt 3000, tickAt 7000, tickAt 15000,
    heartbeatFrom 4000 20000, tickAt 31000, heartbeatFrom 4000 50000,
    tickAt 63000]

/-- Two packets on different channels are given up by the same tick. -/
theorem delivery_failures_of_short_run :
    ∃ final,
      run serverStep (runStart [reportingPort])
          ([connectFrom 4000 0, sendByte 10 0, sendByte 11 0] ++
            untilDropped) = some final ∧
        ∀ packet, (reportedFailures final.log).count packet =
          if packet ∈ droppedInRun (runStart [reportingPort])
              ([connectFrom 4000 0, sendByte 10 0, sendByte 11 0] ++
                untilDropped) then 1
          else 0 := by
  have ran : (run serverStep (runStart [reportingPort])
      ([connectFrom 4000 0, sendByte 10 0, sendByte 11 0] ++
        untilDropped)).isSome = true := by
    decide +kernel
  obtain ⟨final, reached⟩ := Option.isSome_iff_exists.mp ran
  exact ⟨final, reached,
    (delivery_failure_reported_once_iff (by decide) (by decide +kernel)
      reached).mpr (by decide +kernel)⟩

/-- A message of two fragments is given up: the callback is called for both of
them, with the same packet. -/
theorem delivery_failure_reported_twice :
    (run serverStep (runStart [reportingPort])
        ([connectFrom 4000 0,
            .send 1 10 (List.replicate 1387 0) 1387 true (fun _ => 0) {}] ++
          untilDropped)).map (fun final => reportedFailures final.log) =
      some [(1, 10, 1), (1, 10, 1)] := by
  decide +kernel

end Kronos
