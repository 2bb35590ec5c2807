import Kronos.Server.Lifetime

/-!
# Sections and the lifetime of connections

What the sections of the handlers do to the references of the connections.  A
removal takes its orphans off all lists, each once; the other sections list
nobody new, apart from a `CONNECTION`, which adds one connection with one
reference.
-/

namespace Kronos

open Library

/-! ## The visits of a sweep -/

/-- The connections of a port in the order in which a sweep visits them. -/
def visitOrder (desc : UDPSocketDescriptor) (channels : List Channel) :
    List ConnectionRef :=
  channels.flatMap fun channel => (desc.connectionsOf channel).reverse

/-- A sweep over all channels threads the orphans through all visits. -/
theorem sweepChannels_orphans
    (visit : List ConnectionRef -> ConnectionRef ->
      List ConnectionRef × Option ConnectionRef)
    (desc : UDPSocketDescriptor) :
    (sweepChannels visit desc).1 = (visitOrder desc allChannels).foldl
      (fun orphans connection => (visit orphans connection).1) [] := by
  suffices ∀ (channels : List Channel)
      (current : List ConnectionRef × UDPSocketDescriptor),
      channels.Nodup ->
      (∀ channel ∈ channels,
        current.2.connectionsOf channel = desc.connectionsOf channel) ->
      (channels.foldl (sweepChannel visit) current).1 =
        (visitOrder desc channels).foldl
          (fun orphans connection => (visit orphans connection).1)
            current.1 from
    this allChannels ([], desc) allChannels_nodup fun _ _ => rfl
  intro channels
  induction channels with
  | nil => exact fun _ _ _ => rfl
  | cons channel channels inductionHypothesis =>
      intro current distinct unvisited
      obtain ⟨fresh, distinctRest⟩ := List.nodup_cons.mp distinct
      have first : (sweepChannel visit current channel).1 =
          (desc.connectionsOf channel).reverse.foldl
            (fun orphans connection => (visit orphans connection).1)
              current.1 := by
        rw [← unvisited channel List.mem_cons_self, sweepChannel,
          UDPSocketDescriptor.connectionsOf]
        cases (current.2.channelStates channel).connections with
        | none => rfl
        | some conns =>
            dsimp only
            rw [sweep_eq_sweepRight, sweepRight_fst_eq_foldl]
            rfl
      have rest : ∀ other ∈ channels,
          (sweepChannel visit current channel).2.connectionsOf other =
            desc.connectionsOf other := by
        intro other member
        rw [← unvisited other (List.mem_cons_of_mem _ member), sweepChannel]
        split
        case h_1 => rfl
        case h_2 =>
          have different : other ≠ channel := by
            rintro rfl
            exact fresh member
          rw [connectionsOf_modifyChannel, if_neg different]
      rw [List.foldl_cons, inductionHypothesis _ distinctRest rest, first,
        visitOrder, visitOrder, List.flatMap_cons, List.foldl_append]

/-! ## Orphans -/

/-- A visit that adds at most the visited connection to the orphans, once. -/
def TracksOnce
    (visit : List ConnectionRef -> ConnectionRef ->
      List ConnectionRef × Option ConnectionRef) : Prop :=
  ∀ orphans connection,
    (visit orphans connection).1 = orphans ∨
      connection ∉ orphans ∧
        (visit orphans connection).1 = orphans ++ [connection]

theorem trackOrphan_cases
    (capacity : Nat)
    (orphans : List ConnectionRef)
    (connection : ConnectionRef) :
    trackOrphan capacity orphans connection = orphans ∨
      trackOrphan capacity orphans connection = orphans ++ [connection] := by
  unfold trackOrphan
  split
  case isTrue => exact Or.inr rfl
  case isFalse => exact Or.inl rfl

theorem disconnectVisit_tracksOnce
    (spm : ServerPortManager)
    (remoteAddr : PortAddress) :
    TracksOnce (disconnectVisit spm remoteAddr) := by
  intro orphans connection
  unfold disconnectVisit
  split_ifs with stays known
  · exact Or.inl rfl
  · exact Or.inl rfl
  · rcases trackOrphan_cases maxEvictionsPerCycle orphans connection with
      full | tracked
    · exact Or.inl full
    · exact Or.inr ⟨by simpa using known, tracked⟩

theorem evictVisit_tracksOnce
    (spm : ServerPortManager)
    (now : UInt64)
    (capacity : Nat) :
    TracksOnce (evictVisit spm now capacity) := by
  intro orphans connection
  unfold evictVisit
  split_ifs with known stale
  · exact Or.inl rfl
  · rcases trackOrphan_cases capacity orphans connection with full | tracked
    · exact Or.inl full
    · exact Or.inr ⟨by simpa using known, tracked⟩
  · exact Or.inl rfl

section

variable
  {visit : List ConnectionRef -> ConnectionRef ->
    List ConnectionRef × Option ConnectionRef}
  {leaves : ConnectionRef -> Bool}

/-- Orphans that are leaving connections of a port, each once. -/
structure OrphansOf
    (leaves : ConnectionRef -> Bool)
    (desc : UDPSocketDescriptor)
    (orphans : List ConnectionRef) : Prop where
  once : orphans.Nodup
  leaving : ∀ orphan ∈ orphans, leaves orphan = true
  wereListed : ∀ orphan ∈ orphans, ∃ channel,
    orphan ∈ desc.connectionsOf channel

theorem OrphansOf.visited
    {desc : UDPSocketDescriptor}
    {orphans : List ConnectionRef}
    (removes : RemovesLeaving visit leaves)
    (tracks : TracksOnce visit)
    (found : OrphansOf leaves desc orphans)
    {connection : ConnectionRef}
    {channel : Channel}
    (member : connection ∈ desc.connectionsOf channel) :
    OrphansOf leaves desc (visit orphans connection).1 := by
  have leaving := removes.tracked orphans connection found.leaving
  rcases tracks orphans connection with same | ⟨unknown, tracked⟩
  · rw [same]
    exact found
  · rw [tracked] at leaving ⊢
    refine ⟨?_, leaving, ?_⟩
    · refine List.nodup_append.mpr
        ⟨found.once, List.nodup_singleton _, ?_⟩
      rintro first firstIn second secondIn rfl
      rw [List.mem_singleton.mp secondIn] at firstIn
      exact unknown firstIn
    · intro orphan orphanIn
      rcases List.mem_append.mp orphanIn with earlier | last
      · exact found.wereListed orphan earlier
      · rw [List.mem_singleton.mp last]
        exact ⟨channel, member⟩

/-- The orphans of a sweep over all channels. -/
theorem OrphansOf.sweepChannels
    (removes : RemovesLeaving visit leaves)
    (tracks : TracksOnce visit)
    (desc : UDPSocketDescriptor) :
    OrphansOf leaves desc (sweepChannels visit desc).1 := by
  rw [sweepChannels_orphans]
  refine List.foldlRecOn (motive := OrphansOf leaves desc) _ _
    ⟨List.nodup_nil, nofun, nofun⟩ ?_
  intro orphans found connection visited
  obtain ⟨channel, -, member⟩ := List.mem_flatMap.mp visited
  exact found.visited removes tracks (List.mem_reverse.mp member)

end

theorem Leaves.of_orphans
    {before after : ServerPortManager}
    {descriptor : Nat}
    {leaves : ConnectionRef -> Bool}
    (lists : ChangesLists before after descriptor (.leave leaves))
    (heap : after.connections = before.connections)
    (map : after.connectionMap = before.connectionMap)
    {desc : UDPSocketDescriptor}
    (read : before.descriptorList[descriptor]? = some desc)
    {orphans : List ConnectionRef}
    (found : OrphansOf leaves desc orphans) :
    Leaves before after descriptor orphans where
  once := found.once
  wereListed := by
    intro orphan member
    rw [listed_of_read read]
    exact found.wereListed orphan member
  unlisted := by
    intro orphan member channel
    rw [lists descriptor, if_pos rfl, RosterOp.mem_apply_leave]
    rw [found.leaving orphan member]
    simp
  lists := by
    intro other channel ref member
    rw [lists other] at member
    split at member
    case isTrue => exact (RosterOp.mem_apply_leave ..).mp member |>.1
    case isFalse => exact member
  heap := heap
  map := map

/-- Nobody leaves. -/
theorem Leaves.nobody
    (spm : ServerPortManager)
    (descriptor : Nat) :
    Leaves spm spm descriptor [] :=
  ⟨List.nodup_nil, nofun, nofun, fun _ _ _ member => member, rfl, rfl⟩

theorem disconnectSection_leaves
    (spm : ServerPortManager)
    (descriptor : Nat)
    (remoteAddr : PortAddress) :
    let left := disconnectSection spm descriptor remoteAddr
    Leaves spm left.2 descriptor left.1 := by
  have lists := disconnectSection_lists spm descriptor remoteAddr
  unfold disconnectSection at lists ⊢
  split
  case h_1 => exact Leaves.nobody spm descriptor
  case h_2 desc read =>
    rw [read] at lists
    have orphans := OrphansOf.sweepChannels
      (disconnectVisit_removesLeaving spm remoteAddr)
      (disconnectVisit_tracksOnce spm remoteAddr) desc
    dsimp only at lists ⊢
    generalize sweepChannels (disconnectVisit spm remoteAddr) desc = swept
      at lists orphans ⊢
    exact .of_orphans lists rfl rfl read orphans

theorem evictSection_leaves
    (spm : ServerPortManager)
    (descriptor : Nat)
    (now : UInt64) :
    let left := evictSection spm descriptor now
    Leaves spm left.2 descriptor left.1 := by
  have lists := evictSection_lists spm descriptor now
  unfold evictSection at lists ⊢
  split
  case h_1 => exact Leaves.nobody spm descriptor
  case h_2 desc read =>
    rw [read] at lists
    have orphans := OrphansOf.sweepChannels
      (evictVisit_removesLeaving spm now maxEvictionsPerCycle)
      (evictVisit_tracksOnce spm now maxEvictionsPerCycle) desc
    simp only [evictStaleConnections] at lists ⊢
    generalize sweepChannels (evictVisit spm now maxEvictionsPerCycle) desc =
      swept at lists orphans ⊢
    exact .of_orphans lists rfl rfl read orphans

/-! ## The other sections -/

theorem Refreshed.sameLifetime
    {before after : ClientConnection}
    (refreshed : Refreshed before after) :
    SameLifetime before after := by
  obtain ⟨_, rfl⟩ := refreshed
  exact ⟨rfl, rfl, rfl⟩

/-- A section of a `CONNECTION` handler keeps all reference counts, or adds a
connection with one reference. -/
theorem connectionSection_heap
    (spm : ServerPortManager)
    (descriptor : Nat)
    (remoteAddr : PortAddress)
    (now : UInt64)
    (allocations : ConnectAllocations) :
    let next := connectionSection spm descriptor remoteAddr now allocations
    next.connectionMap = spm.connectionMap ∧
      (IndexRelated (fun _ => SameLifetime) spm.connections
          next.connections ∨
        ∃ conn : ClientConnection, conn.refcount = 1 ∧ conn.freed = false ∧
          next.connections = spm.connections ++ [conn]) := by
  have same : IndexRelated (fun _ => SameLifetime) spm.connections
      spm.connections := IndexRelated.refl (fun _ => SameLifetime.refl) _
  have heap : (spm.modifyDescriptor descriptor
      (·.modifyChannel 0 (ensureConnections
        allocations.array))).connections = spm.connections := rfl
  have map : (spm.modifyDescriptor descriptor
      (·.modifyChannel 0 (ensureConnections
        allocations.array))).connectionMap = spm.connectionMap := rfl
  unfold connectionSection
  dsimp only
  generalize spm.modifyDescriptor descriptor _ = between at *
  rw [← heap] at same ⊢
  split
  case h_1 => exact ⟨map, Or.inl same⟩
  case h_2 desc read =>
    split
    case h_1 existing _ =>
      refine ⟨map, Or.inl (IndexRelated.modify (fun _ => SameLifetime.refl) _
        existing fun conn _ => ⟨rfl, rfl, rfl⟩)⟩
    case h_2 =>
      split
      case isTrue => exact ⟨map, Or.inl same⟩
      case isFalse =>
        split
        case isTrue => exact ⟨map, Or.inl same⟩
        case isFalse => exact ⟨map, Or.inr ⟨_, rfl, rfl, rfl⟩⟩

theorem dispatchSubscribe_heap
    (spm : ServerPortManager)
    (descriptor : Nat)
    (frame : Frame)
    (remoteAddr : PortAddress)
    (created pushed ackBuilt : Bool) :
    let next := (dispatchSubscribe spm descriptor frame remoteAddr created
      pushed ackBuilt).1
    next.connections = spm.connections ∧
      next.connectionMap = spm.connectionMap := by
  unfold dispatchSubscribe
  split
  case h_2 => exact ⟨rfl, rfl⟩
  case h_1 =>
    split
    case h_1 => exact ⟨rfl, rfl⟩
    case h_2 =>
      dsimp only
      split <;> exact ⟨rfl, rfl⟩

theorem dispatchUnsubscribe_heap
    (spm : ServerPortManager)
    (descriptor : Nat)
    (frame : Frame)
    (remoteAddr : PortAddress)
    (ackBuilt : Bool) :
    let next := (dispatchUnsubscribe spm descriptor frame remoteAddr ackBuilt).1
    next.connections = spm.connections ∧
      next.connectionMap = spm.connectionMap := by
  unfold dispatchUnsubscribe
  split
  case h_2 => exact ⟨rfl, rfl⟩
  case h_1 =>
    dsimp only
    split <;> exact ⟨rfl, rfl⟩

theorem mem_broadcastSnapshot
    {spm : ServerPortManager}
    {excludeId : UInt32}
    {conns taken snapshot : List ConnectionRef}
    (found : broadcastSnapshot spm excludeId taken conns = some snapshot)
    {ref : ConnectionRef}
    (member : ref ∈ snapshot) :
    ref ∈ taken ∨ ref ∈ conns := by
  induction conns generalizing taken with
  | nil =>
      cases found
      exact Or.inl member
  | cons connection conns inductionHypothesis =>
      rw [broadcastSnapshot] at found
      split at found
      case isFalse =>
        cases found
        exact Or.inl member
      case isTrue =>
        split at found
        case h_1 => cases found
        case h_2 =>
          split at found
          case isTrue => cases found
          case isFalse =>
            split at found
            case isTrue =>
              rcases inductionHypothesis found with earlier | later
              · exact Or.inl earlier
              · exact Or.inr (List.mem_cons_of_mem _ later)
            case isFalse =>
              rcases inductionHypothesis found with earlier | later
              · rcases List.mem_append.mp earlier with old | last
                · exact Or.inl old
                · rw [List.mem_singleton.mp last]
                  exact Or.inr List.mem_cons_self
              · exact Or.inr (List.mem_cons_of_mem _ later)

theorem broadcastPacketIds_connections
    (channel : Channel)
    (count : Nat)
    (state : ChannelState) :
    (broadcastPacketIds channel count state).2.connections =
      state.connections := by
  induction count generalizing state with
  | zero => rfl
  | succ count inductionHypothesis =>
      rw [broadcastPacketIds]
      exact (inductionHypothesis _).trans
        (nextPacketId_connections channel false state)

theorem ensureCounter_connections
    (created : Bool)
    (state : ChannelState) :
    (ensureCounter created state).connections = state.connections := by
  unfold ensureCounter
  split
  case h_1 => rfl
  case h_2 => split <;> rfl

/-- Lists that a change of packet counters keeps. -/
theorem mem_listed_of_keep
    {before after : ServerPortManager}
    {descriptor : Nat}
    (kept : ChangesLists before after descriptor .keep)
    (other : Nat)
    (channel : Channel)
    (ref : ConnectionRef)
    (member : ref ∈ listed after other channel) :
    ∃ origin, ref ∈ listed before other origin := by
  rw [kept other] at member
  refine ⟨channel, ?_⟩
  split at member
  case isTrue => exact member
  case isFalse => exact member

end Kronos
