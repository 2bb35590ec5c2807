import Kronos.Ack.Spec
import Kronos.Server.Heap

/-!
# What a tick collects

The loops of `s_retransmit_tick` over descriptors and map slots visit each
connection of the map at most once.  They are read here as one fold over the
visited entries: the connections it leaves behind, and the retransmissions and
failures it collects as long as the buffers of the tick have room for all of
them.
-/

namespace Kronos

open Library

/-! ## One fold -/

/-- The entries of the map that belong to a descriptor, in slot order. -/
def entriesOf
    (slots : List (Slot UInt32 ConnectionMapEntry))
    (descriptor : Nat) : List ConnectionMapEntry :=
  slots.filterMap fun slot =>
    slot.value?.filter fun entry => entry.descriptor = descriptor

/-- The entries a tick visits, in order. -/
def visitedEntries (spm : ServerPortManager) : List ConnectionMapEntry :=
  (List.range spm.descriptorList.length).flatMap
    (entriesOf spm.connectionMap.entries.slots)

/-- The failure callback of a descriptor. -/
def failureCallback (spm : ServerPortManager) (descriptor : Nat) :
    Option Callback :=
  spm.descriptorList[descriptor]?.bind
    UDPSocketDescriptor.deliveryFailureCallback

/-- One visit of a tick. -/
def visitEntry
    (callback : Nat -> Option Callback)
    (clock : ConnectionRef -> UInt64)
    (current : TickBuffers × List ClientConnection)
    (entry : ConnectionMapEntry) : TickBuffers × List ClientConnection :=
  match current.2[entry.connection]? with
  | none => current
  | some conn =>
      let collected := collectConnection (callback entry.descriptor)
        entry.descriptor entry.connection (clock entry.connection) current.1
        conn
      (collected.1, current.2.set entry.connection collected.2)

theorem foldl_collectSlot
    (callback : Nat -> Option Callback)
    (descriptor : Nat)
    (clock : ConnectionRef -> UInt64)
    (slots : List (Slot UInt32 ConnectionMapEntry))
    (current : TickBuffers × List ClientConnection) :
    slots.foldl (collectSlot (callback descriptor) descriptor clock)
        current =
      (entriesOf slots descriptor).foldl (visitEntry callback clock)
        current := by
  unfold entriesOf
  rw [List.foldl_filterMap]
  congr 1
  funext current slot
  cases slot with
  | empty => rfl
  | tombstone => rfl
  | live key entry =>
      by_cases own : entry.descriptor = descriptor
      · subst own
        cases read : current.2[entry.connection]? with
        | none =>
            simp [collectSlot, Slot.value?, Option.filter, visitEntry, read]
        | some conn =>
            simp [collectSlot, Slot.value?, Option.filter, visitEntry, read]
      · simp [collectSlot, Slot.value?, Option.filter, own]

/-- A tick collects in one fold over the entries it visits. -/
theorem collectAll_eq
    (spm : ServerPortManager)
    (clock : ConnectionRef -> UInt64) :
    collectAll spm clock =
      let visited := (visitedEntries spm).foldl
        (visitEntry (failureCallback spm) clock) ({}, spm.connections)
      (visited.1, { spm with connections := visited.2 }) := by
  have loop : ∀ (descriptors : List Nat)
      (current : TickBuffers × ServerPortManager),
      (∀ descriptor ∈ descriptors,
        descriptor < spm.descriptorList.length) ->
      current.2.descriptorList = spm.descriptorList ->
      current.2.connectionMap = spm.connectionMap ->
      descriptors.foldl (fun current descriptor =>
          collectRetransmits current.2 descriptor clock current.1) current =
        let visited := (descriptors.flatMap
          (entriesOf spm.connectionMap.entries.slots)).foldl
            (visitEntry (failureCallback spm) clock)
            (current.1, current.2.connections)
        (visited.1, { current.2 with connections := visited.2 }) := by
    intro descriptors
    induction descriptors with
    | nil => intros; rfl
    | cons descriptor descriptors inductionHypothesis =>
        intro current inside sameList sameMap
        have descriptorInside := inside descriptor (by simp)
        have read : current.2.descriptorList[descriptor]? =
            some spm.descriptorList[descriptor] := by
          rw [sameList, List.getElem?_eq_getElem descriptorInside]
        have callback : failureCallback spm descriptor =
            spm.descriptorList[descriptor].deliveryFailureCallback := by
          rw [failureCallback, List.getElem?_eq_getElem descriptorInside]
          rfl
        have first : collectRetransmits current.2 descriptor clock
            current.1 =
            let visited := (entriesOf spm.connectionMap.entries.slots
              descriptor).foldl (visitEntry (failureCallback spm) clock)
                (current.1, current.2.connections)
            (visited.1, { current.2 with connections := visited.2 }) := by
          rw [collectRetransmits, read]
          simp only
          rw [← callback, foldl_collectSlot, sameMap]
        rw [List.foldl_cons, first, List.flatMap_cons, List.foldl_append]
        exact inductionHypothesis _
          (fun other member => inside other (by simp [member])) sameList
          sameMap
  have whole := loop (List.range spm.descriptorList.length) ({}, spm)
    (fun descriptor member => List.mem_range.mp member) rfl rfl
  rw [collectAll, whole]
  rfl

theorem mem_entriesOf
    {slots : List (Slot UInt32 ConnectionMapEntry)}
    {descriptor : Nat}
    {entry : ConnectionMapEntry} :
    entry ∈ entriesOf slots descriptor ↔
      entry.descriptor = descriptor ∧
        ∃ slot ∈ slots, slot.value? = some entry := by
  unfold entriesOf
  rw [List.mem_filterMap]
  constructor
  · rintro ⟨slot, member, kept⟩
    rw [Option.filter_eq_some_iff] at kept
    exact ⟨by simpa using kept.2, slot, member, kept.1⟩
  · rintro ⟨own, slot, member, stored⟩
    refine ⟨slot, member, ?_⟩
    rw [Option.filter_eq_some_iff]
    exact ⟨stored, by simpa using own⟩

/-- A tick visits each connection at most once. -/
theorem visitedEntries_nodup
    {spm : ServerPortManager}
    (refs : MapRefs spm.connectionMap spm.connections) :
    ((visitedEntries spm).map ConnectionMapEntry.connection).Nodup := by
  unfold visitedEntries
  rw [List.map_flatMap, List.nodup_flatMap]
  refine ⟨?_, ?_⟩
  · intro descriptor _
    unfold entriesOf List.Nodup
    rw [List.pairwise_map, List.pairwise_filterMap]
    refine refs.distinct.pairwise.imp ?_
    intro left right apart leftEntry leftKept rightEntry rightKept
    rw [Option.filter_eq_some_iff] at leftKept rightKept
    exact apart leftEntry rightEntry leftKept.1 rightKept.1
  · refine List.pairwise_lt_range.imp ?_
    intro left right below ref leftMember rightMember
    obtain ⟨leftEntry, leftOf, rfl⟩ := List.mem_map.mp leftMember
    obtain ⟨rightEntry, rightOf, same⟩ := List.mem_map.mp rightMember
    obtain ⟨leftOwn, leftSlot, leftIn, leftStored⟩ := mem_entriesOf.mp leftOf
    obtain ⟨rightOwn, rightSlot, rightIn, rightStored⟩ :=
      mem_entriesOf.mp rightOf
    obtain ⟨leftAt, leftRead⟩ := List.mem_iff_getElem?.mp leftIn
    obtain ⟨rightAt, rightRead⟩ := List.mem_iff_getElem?.mp rightIn
    have position := refs.distinct leftAt rightAt leftSlot rightSlot leftEntry
      rightEntry leftRead rightRead leftStored rightStored same.symm
    rw [position, rightRead] at leftRead
    cases leftRead
    rw [rightStored] at leftStored
    cases leftStored
    omega

/-! ## The connections after a tick -/

/-- The connection after its timeouts were checked, for some filling of the
buffers. -/
def CheckedConnection
    (now : UInt64)
    (ref : ConnectionRef)
    (before after : ClientConnection) : Prop :=
  ∃ callback descriptor buffers,
    after = (collectConnection callback descriptor ref now buffers before).2

/-- A visited connection is checked, every other one stays. -/
def CollectedConnection
    (clock : ConnectionRef -> UInt64)
    (visited : List ConnectionRef)
    (ref : ConnectionRef)
    (before after : ClientConnection) : Prop :=
  (ref ∈ visited -> CheckedConnection (clock ref) ref before after) ∧
    (ref ∉ visited -> after = before)

/-- Reading behind a visit. -/
theorem visitEntry_read
    (callback : Nat -> Option Callback)
    (clock : ConnectionRef -> UInt64)
    (current : TickBuffers × List ClientConnection)
    (entry : ConnectionMapEntry)
    (ref : ConnectionRef) :
    (visitEntry callback clock current entry).2[ref]? =
      if ref = entry.connection then
        current.2[ref]?.map fun conn =>
          (collectConnection (callback entry.descriptor) entry.descriptor
            entry.connection (clock entry.connection) current.1 conn).2
      else current.2[ref]? := by
  unfold visitEntry
  cases read : current.2[entry.connection]? with
  | none =>
      by_cases same : ref = entry.connection
      · rw [if_pos same, same, read]
        rfl
      · rw [if_neg same]
  | some conn =>
      obtain ⟨inside, -⟩ := List.getElem?_eq_some_iff.mp read
      by_cases same : ref = entry.connection
      · rw [if_pos same, same, List.getElem?_set_self inside, read]
        rfl
      · rw [if_neg same, List.getElem?_set_ne (Ne.symm same)]

theorem visitEntry_length
    (callback : Nat -> Option Callback)
    (clock : ConnectionRef -> UInt64)
    (current : TickBuffers × List ClientConnection)
    (entry : ConnectionMapEntry) :
    (visitEntry callback clock current entry).2.length =
      current.2.length := by
  unfold visitEntry
  split <;> simp

theorem foldl_visitEntry_heap
    (callback : Nat -> Option Callback)
    (clock : ConnectionRef -> UInt64)
    (entries : List ConnectionMapEntry)
    (distinct : (entries.map ConnectionMapEntry.connection).Nodup)
    (current : TickBuffers × List ClientConnection) :
    IndexRelated
      (CollectedConnection clock
        (entries.map ConnectionMapEntry.connection)) current.2
      (entries.foldl (visitEntry callback clock) current).2 := by
  induction entries generalizing current with
  | nil =>
      refine ⟨rfl, ?_⟩
      intro ref old new oldRead newRead
      rw [List.foldl_nil, oldRead] at newRead
      cases newRead
      exact ⟨fun impossible => absurd impossible (List.not_mem_nil),
        fun _ => rfl⟩
  | cons entry entries inductionHypothesis =>
      rw [List.map_cons] at distinct
      obtain ⟨absent, tailDistinct⟩ := List.nodup_cons.mp distinct
      have rest := inductionHypothesis tailDistinct
        (visitEntry callback clock current entry)
      refine ⟨rest.1.trans (visitEntry_length callback clock current entry),
        ?_⟩
      intro ref old new oldRead newRead
      rw [List.foldl_cons] at newRead
      have middle := visitEntry_read callback clock current entry ref
      rw [oldRead] at middle
      rw [List.map_cons]
      split at middle
      case isTrue same =>
        obtain ⟨-, later⟩ := rest.2 ref _ new middle newRead
        refine ⟨?_, fun outside => absurd (by simp [same]) outside⟩
        intro _
        rw [later (by rw [same]; exact absent), same]
        exact ⟨_, _, _, rfl⟩
      case isFalse different =>
        obtain ⟨visited, unvisited⟩ := rest.2 ref old new middle newRead
        refine ⟨?_, ?_⟩
        · intro member
          rcases List.mem_cons.mp member with same | later
          · exact absurd same different
          · exact visited later
        · intro outside
          exact unvisited fun later => outside (List.mem_cons_of_mem _ later)

/-- The connections that a tick checks. -/
def visitedRefs (spm : ServerPortManager) : List ConnectionRef :=
  (visitedEntries spm).map ConnectionMapEntry.connection

theorem collectAll_heap
    {spm : ServerPortManager}
    (refs : MapRefs spm.connectionMap spm.connections)
    (clock : ConnectionRef -> UInt64) :
    IndexRelated (CollectedConnection clock (visitedRefs spm))
      spm.connections (collectAll spm clock).2.connections := by
  rw [collectAll_eq]
  exact foldl_visitEntry_heap (failureCallback spm) clock
    (visitedEntries spm) (visitedEntries_nodup refs) ({}, spm.connections)

/-! ## The buffers of a tick -/

/-- A buffer of the tick takes the contributions of all visited connections as
long as it has room for all of them. -/
theorem foldl_visitEntry_buffer
    (callback : Nat -> Option Callback)
    (clock : ConnectionRef -> UInt64)
    (buffer : TickBuffers -> List β)
    (contribution : ConnectionMapEntry -> ClientConnection -> List β)
    (capacity : Nat)
    {heap : List ClientConnection}
    {entries : List ConnectionMapEntry}
    (distinct : (entries.map ConnectionMapEntry.connection).Nodup)
    (collects : ∀ entry ∈ entries, ∀ conn,
      heap[entry.connection]? = some conn -> ∀ buffers,
        (buffer buffers).length + (contribution entry conn).length ≤
          capacity ->
        buffer (collectConnection (callback entry.descriptor)
            entry.descriptor entry.connection (clock entry.connection)
            buffers conn).1 =
          buffer buffers ++ contribution entry conn)
    (current : TickBuffers × List ClientConnection)
    (unvisited : ∀ entry ∈ entries,
      current.2[entry.connection]? = heap[entry.connection]?) :
    let contributions := entries.flatMap fun entry =>
      (heap[entry.connection]?.map (contribution entry)).getD []
    (buffer current.1).length + contributions.length ≤ capacity ->
      buffer (entries.foldl (visitEntry callback clock) current).1 =
        buffer current.1 ++ contributions := by
  induction entries generalizing current with
  | nil => simp
  | cons entry entries inductionHypothesis =>
      intro contributions room
      rw [List.map_cons] at distinct
      obtain ⟨absent, tailDistinct⟩ := List.nodup_cons.mp distinct
      have later := inductionHypothesis tailDistinct
        (fun other member => collects other (by simp [member]))
        (visitEntry callback clock current entry) (by
          intro other member
          rw [visitEntry_read, if_neg]
          · exact unvisited other (by simp [member])
          · intro same
            exact absent (List.mem_map.mpr ⟨other, member, same⟩))
      have read := unvisited entry (by simp)
      simp only [contributions, List.flatMap_cons, List.length_append] at room
      have first : buffer (visitEntry callback clock current entry).1 =
          buffer current.1 ++
            (heap[entry.connection]?.map (contribution entry)).getD [] := by
        unfold visitEntry
        rw [read]
        cases stored : heap[entry.connection]? with
        | none => simp
        | some conn =>
            refine collects entry (by simp) conn stored current.1 ?_
            rw [stored, Option.map_some, Option.getD_some] at room
            omega
      rw [List.foldl_cons, later, first]
      · simp only [contributions, List.flatMap_cons, List.append_assoc]
      · rw [first, List.length_append]
        omega

/-- The entries of a connection that a tick retries, in the order in which it
meets them. -/
def retriedEntries (now : UInt64) (conn : ClientConnection) :
    List AckEntry :=
  match conn.ackTracker with
  | none => []
  | some tracker =>
      tracker.pending.reverse.filter (retryDue tracker now)

/-- The entries of a connection that a tick gives up. -/
def droppedEntries (now : UInt64) (conn : ClientConnection) :
    List AckEntry :=
  match conn.ackTracker with
  | none => []
  | some tracker =>
      tracker.pending.reverse.filter (dropDue tracker now)

/-- The bytes that a retry of an entry resends. -/
def AckEntry.resentFrame (entry : AckEntry) : List UInt8 :=
  match entry.storedFrame with
  | none => []
  | some (data, size) => data.take size

/-- What a tick queues for an entry that it retries. -/
def retransmitOf
    (slot : ConnectionMapEntry)
    (conn : ClientConnection)
    (entry : AckEntry) : PendingRetransmit :=
  { data := entry.resentFrame
    addr := conn.remoteAddress
    descriptor := slot.descriptor
    connection := slot.connection
    entry := entry.handle }

/-- The entry stores a frame that fits the buffer of a retransmission. -/
def AckEntry.Resendable (entry : AckEntry) : Prop :=
  ∃ data size, entry.storedFrame = some (data, size) ∧
    size ≤ kronosBufferSize

theorem queueRetries_pending
    (tracker : AckTracker)
    (slot : ConnectionMapEntry)
    (conn : ClientConnection)
    (report : AckEntry -> Retry)
    (handle : ∀ entry, (report entry).entry = entry.handle)
    (entries : List AckEntry)
    (stored : ∀ entry ∈ entries,
      krsAckTrackerGetRetryFrameForEntry tracker entry.handle =
        entry.storedFrame ∧ entry.Resendable)
    (queue : RetryQueue)
    (room : queue.pending.length + entries.length ≤ maxPendingRetransmits) :
    (queueRetries tracker slot.descriptor slot.connection conn.remoteAddress
        (entries.map report) queue).pending =
      queue.pending ++ entries.map (retransmitOf slot conn) := by
  induction entries generalizing queue with
  | nil => simp [queueRetries]
  | cons entry entries inductionHypothesis =>
      obtain ⟨found, data, size, frame, fits⟩ := stored entry (by simp)
      rw [List.length_cons] at room
      rw [List.map_cons, queueRetries, if_pos (by omega), handle, found,
        frame]
      simp only
      rw [if_neg (Nat.not_lt.mpr fits), inductionHypothesis]
      · simp [retransmitOf, AckEntry.resentFrame, frame]
      · exact fun other member => stored other (by simp [member])
      · rw [List.length_append, List.length_singleton]
        omega

/-- The retransmissions of one connection, when both buffers have room. -/
theorem collectConnection_pending
    (callback : Option Callback)
    (slot : ConnectionMapEntry)
    (now : UInt64)
    (conn : ClientConnection)
    (distinct : ∀ tracker ∈ conn.ackTracker,
      DistinctKeys AckEntry.handle tracker.pending)
    (resendable : ∀ tracker ∈ conn.ackTracker, ∀ entry ∈ tracker.pending,
      entry.Resendable)
    (few : (retriedEntries now conn).length ≤ checkCapacity)
    (buffers : TickBuffers)
    (room : buffers.pending.length +
      ((retriedEntries now conn).map (retransmitOf slot conn)).length ≤
        maxPendingRetransmits) :
    (collectConnection callback slot.descriptor slot.connection now buffers
        conn).1.pending =
      buffers.pending ++
        (retriedEntries now conn).map (retransmitOf slot conn) := by
  unfold collectConnection
  unfold retriedEntries at few room ⊢
  cases read : conn.ackTracker with
  | none => simp
  | some tracker =>
      rw [read] at few room
      simp only at few room ⊢
      rw [krsAckTrackerCheckTimeouts_fst, krsAckTrackerCheckTimeouts_snd]
      simp only
      rw [List.take_of_length_le (by simpa using few)]
      refine queueRetries_pending _ slot conn (retryReport tracker)
        (fun _ => rfl) _ ?_ { pending := buffers.pending }
        (by simpa using room)
      intro entry member
      obtain ⟨present, retried⟩ := List.mem_filter.mp member
      rw [List.mem_reverse] at present
      exact ⟨getRetryFrameForEntry_afterCheck (distinct tracker read) present
        retried, resendable tracker read entry present⟩

/-- The failure of a dropped entry. -/
def failureOf
    (callback : Callback)
    (conn : ClientConnection)
    (entry : AckEntry) : PendingDeliveryFailure :=
  { connectionId := conn.connectionId
    channel := entry.channel
    packetId := entry.packetId
    callback := callback }

/-- The failures of one connection, when both buffers have room. -/
theorem collectConnection_failures
    (callback : Callback)
    (slot : ConnectionMapEntry)
    (now : UInt64)
    (conn : ClientConnection)
    (buffers : TickBuffers)
    (room : buffers.failures.length +
      ((droppedEntries now conn).map (failureOf callback conn)).length ≤
        maxPendingFailures) :
    (collectConnection (some callback) slot.descriptor slot.connection now
        buffers conn).1.failures =
      buffers.failures ++
        (droppedEntries now conn).map (failureOf callback conn) := by
  unfold collectConnection
  unfold droppedEntries at room ⊢
  cases read : conn.ackTracker with
  | none => simp
  | some tracker =>
      rw [read, List.length_map] at room
      simp only [maxPendingFailures] at room
      simp only [reportFailures]
      rw [krsAckTrackerCheckTimeouts_fst]
      simp only
      generalize tracker.pending.reverse.filter (dropDue tracker now) =
        dropped at room
      have reported : (dropped.map fun entry =>
          (entry.packetId, entry.channel)).take checkCapacity =
          dropped.map fun entry => (entry.packetId, entry.channel) := by
        refine List.take_of_length_le ?_
        rw [List.length_map, checkCapacity]
        omega
      rw [reported, List.map_map, List.take_of_length_le]
      · rfl
      · rw [List.length_map, maxPendingFailures]
        omega

/-! ## Eviction -/

/-- Eviction only releases connections, and reports no retries or failures. -/
theorem evictAll_effect
    (spm : ServerPortManager)
    (clock : Nat -> UInt64) :
    IndexRelated (fun _ => Released) spm.connections
        (evictAll spm clock).1.connections ∧
      (MapRefs spm.connectionMap spm.connections ->
        MapRefs (evictAll spm clock).1.connectionMap
          (evictAll spm clock).1.connections) ∧
      Quiet (evictAll spm clock).2 := by
  have reflexive : ∀ ref : ConnectionRef, ∀ conn, Released conn conn :=
    fun _ conn => (SameDelivery.refl conn).released
  have one : ∀ (current : ServerPortManager) (now : UInt64)
      (descriptor : Nat),
      IndexRelated (fun _ => Released) current.connections
          (evictDescriptor current now descriptor).1.connections ∧
        (MapRefs current.connectionMap current.connections ->
          MapRefs (evictDescriptor current now descriptor).1.connectionMap
            (evictDescriptor current now descriptor).1.connections) ∧
        Quiet (evictDescriptor current now descriptor).2 := by
    intro current now descriptor
    unfold evictDescriptor
    split
    case h_1 => exact ⟨IndexRelated.refl reflexive _, id, Quiet.nil⟩
    case h_2 desc _ =>
      simp only
      generalize evictStaleConnections current now maxEvictionsPerCycle
        desc = evicted
      exact ⟨krsServerFinalizeOrphanEvictions_heap
          (current.modifyDescriptor descriptor fun _ => evicted.2) descriptor
          evicted.1,
        krsServerFinalizeOrphanEvictions_refs
          (current.modifyDescriptor descriptor fun _ => evicted.2) descriptor
          evicted.1,
        krsServerFinalizeOrphanEvictions_quiet _ _ _⟩
  unfold evictAll
  generalize List.range spm.descriptorList.length = descriptors
  suffices loop : ∀ current : ServerPortManager × List ServerEffect,
      Quiet current.2 ->
      let next := descriptors.foldl (fun current descriptor =>
        let evicted := evictDescriptor current.1 (clock descriptor) descriptor
        (evicted.1, current.2 ++ evicted.2)) current
      IndexRelated (fun _ => Released) current.1.connections
          next.1.connections ∧
        (MapRefs current.1.connectionMap current.1.connections ->
          MapRefs next.1.connectionMap next.1.connections) ∧
        Quiet next.2 from loop (spm, []) Quiet.nil
  induction descriptors with
  | nil =>
      intro current quiet
      exact ⟨IndexRelated.refl reflexive _, id, quiet⟩
  | cons descriptor descriptors inductionHypothesis =>
      intro current quiet
      obtain ⟨heap, refs, silent⟩ :=
        one current.1 (clock descriptor) descriptor
      obtain ⟨laterHeap, laterRefs, laterQuiet⟩ := inductionHypothesis
        ((evictDescriptor current.1 (clock descriptor) descriptor).1,
          current.2 ++
            (evictDescriptor current.1 (clock descriptor) descriptor).2)
        (quiet.append silent)
      exact ⟨IndexRelated.trans (fun _ _ _ _ => Released.trans) heap laterHeap,
        fun before => laterRefs (refs before), laterQuiet⟩

end Kronos
