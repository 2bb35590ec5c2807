import Kronos.Server.Collect

/-!
# The connection lists of the channels

`s_dispatch_disconnect` and `s_evict_stale_connections` sweep the lists of all
channels and collect the connections they remove in a buffer of fixed size.
As long as the buffer has room, it ends with exactly the removed connections of
channel 0, each once, and every list has lost exactly these.
-/

namespace Kronos

open Library

/-! ## One list -/

/-- The buffer holds connections that are to be removed, each once. -/
def Tracked (gone : List ConnectionRef) (orphans : List ConnectionRef) :
    Prop :=
  orphans.Nodup ∧ ∀ orphan ∈ orphans, orphan ∈ gone

/-- A visit that removes the connections of `gone` and keeps track of them. -/
def RemovesGone
    (gone : List ConnectionRef)
    (visit : List ConnectionRef -> ConnectionRef ->
      List ConnectionRef × Option ConnectionRef)
    (leaves : ConnectionRef -> Bool) : Prop :=
  ∀ orphans connection, Tracked gone orphans ->
    (leaves connection = true -> connection ∈ gone) ->
    let visited := visit orphans connection
    Tracked gone visited.1 ∧
      (∀ orphan ∈ orphans, orphan ∈ visited.1) ∧
      (leaves connection = true -> connection ∈ visited.1) ∧
      visited.2 = if leaves connection then none else some connection

/-- A buffer with room for all of `gone` takes each of them. -/
theorem trackOrphan_tracked
    {gone orphans : List ConnectionRef}
    {capacity : Nat}
    (room : gone.length ≤ capacity)
    (tracked : Tracked gone orphans)
    {connection : ConnectionRef}
    (leaving : connection ∈ gone)
    (untracked : connection ∉ orphans) :
    trackOrphan capacity orphans connection = orphans ++ [connection] ∧
      Tracked gone (orphans ++ [connection]) := by
  have next : Tracked gone (orphans ++ [connection]) := by
    refine ⟨List.nodup_append.mpr ⟨tracked.1, List.nodup_singleton _, ?_⟩,
      ?_⟩
    · rintro left leftIn right rightIn rfl
      rw [List.mem_singleton] at rightIn
      rw [rightIn] at leftIn
      exact untracked leftIn
    · intro orphan member
      rcases List.mem_append.mp member with earlier | last
      · exact tracked.2 orphan earlier
      · rw [List.mem_singleton.mp last]
        exact leaving
  have length := (next.1.subperm next.2).length_le
  rw [List.length_append, List.length_singleton] at length
  refine ⟨?_, next⟩
  rw [trackOrphan, if_pos (by omega)]

theorem disconnectVisit_removesGone
    (spm : ServerPortManager)
    (remoteAddr : PortAddress)
    {gone : List ConnectionRef}
    (room : gone.length ≤ maxEvictionsPerCycle) :
    RemovesGone gone (disconnectVisit spm remoteAddr)
      (spm.hasAddress remoteAddr) := by
  intro orphans connection tracked leaving
  unfold disconnectVisit
  cases owned : spm.hasAddress remoteAddr connection with
  | false => simp [tracked]
  | true =>
      by_cases known : connection ∈ orphans
      · simp [known, tracked]
      · obtain ⟨pushed, next⟩ := trackOrphan_tracked room tracked
          (leaving owned) known
        simp only [Bool.not_true, Bool.false_eq_true, if_false,
          List.contains_eq_mem, known, decide_false, pushed, if_true]
        refine ⟨next, ?_, fun _ => by simp, trivial⟩
        exact fun orphan member => List.mem_append_left _ member

theorem evictVisit_removesGone
    (spm : ServerPortManager)
    (now : UInt64)
    {gone : List ConnectionRef}
    (room : gone.length ≤ maxEvictionsPerCycle)
    (stale : ∀ connection ∈ gone, isStale spm now connection = true) :
    RemovesGone gone (evictVisit spm now maxEvictionsPerCycle)
      (isStale spm now) := by
  intro orphans connection tracked leaving
  unfold evictVisit
  by_cases known : connection ∈ orphans
  · have old := stale connection (tracked.2 connection known)
    simp [known, tracked, old]
  · cases old : isStale spm now connection with
    | false => simp [known, tracked]
    | true =>
        obtain ⟨pushed, next⟩ := trackOrphan_tracked room tracked
          (leaving old) known
        simp only [List.contains_eq_mem, known, decide_false,
          Bool.false_eq_true, if_false, pushed, if_true]
        refine ⟨next, ?_, fun _ => by simp, trivial⟩
        exact fun orphan member => List.mem_append_left _ member

section

variable
  {gone : List ConnectionRef}
  {visit : List ConnectionRef -> ConnectionRef ->
    List ConnectionRef × Option ConnectionRef}
  {leaves : ConnectionRef -> Bool}

theorem RemovesGone.sweep
    (removes : RemovesGone gone visit leaves)
    {orphans : List ConnectionRef}
    (tracked : Tracked gone orphans)
    (conns : List ConnectionRef)
    (leaving : ∀ connection ∈ conns, leaves connection = true ->
      connection ∈ gone) :
    let swept := sweep visit orphans conns
    Tracked gone swept.1 ∧ (∀ orphan ∈ orphans, orphan ∈ swept.1) ∧
      (∀ connection ∈ conns, leaves connection = true ->
        connection ∈ swept.1) ∧
      swept.2 = conns.filter fun connection => !leaves connection := by
  rw [sweep_eq_sweepRight]
  induction conns with
  | nil => exact ⟨tracked, fun _ member => member, by simp, rfl⟩
  | cons connection conns inductionHypothesis =>
      obtain ⟨later, grown, found, kept⟩ := inductionHypothesis
        fun other member => leaving other (by simp [member])
      rw [sweepRight_cons]
      generalize sweepRight visit orphans conns = swept at *
      obtain ⟨next, nextGrown, nextFound, outcome⟩ := removes swept.1
        connection later (leaving connection (by simp))
      simp only
      refine ⟨next, fun orphan member => nextGrown orphan
        (grown orphan member), ?_, ?_⟩
      · intro other member leavesOther
        rcases List.mem_cons.mp member with rfl | inTail
        · exact nextFound leavesOther
        · exact nextGrown other (found other inTail leavesOther)
      · rw [outcome, kept, List.filter_cons]
        cases leaves connection with
        | false => rfl
        | true => rfl

/-! ## All lists -/

/-- A channel without the leaving connections. -/
def withoutLeaving
    (leaves : ConnectionRef -> Bool)
    (state : ChannelState) : ChannelState :=
  { state with
    connections := state.connections.map fun conns =>
      conns.filter fun connection => !leaves connection }

theorem withoutLeaving_idem
    (leaves : ConnectionRef -> Bool)
    (state : ChannelState) :
    withoutLeaving leaves (withoutLeaving leaves state) =
      withoutLeaving leaves state := by
  cases state with
  | mk packetCounter reassembler connections =>
      cases connections with
      | none => rfl
      | some conns => simp [withoutLeaving]

/-- A descriptor some of whose channels lost the leaving connections. -/
def clearedOn
    (leaves : ConnectionRef -> Bool)
    (channels : List Channel)
    (desc : UDPSocketDescriptor) : UDPSocketDescriptor :=
  { desc with
    channelStates := fun channel =>
      if channel ∈ channels then
        withoutLeaving leaves (desc.channelStates channel)
      else desc.channelStates channel }

theorem clearedOn_cons
    (leaves : ConnectionRef -> Bool)
    (channel : Channel)
    (channels : List Channel)
    (desc : UDPSocketDescriptor) :
    clearedOn leaves channels (clearedOn leaves [channel] desc) =
      clearedOn leaves (channel :: channels) desc := by
  unfold clearedOn
  congr 1
  funext other
  by_cases later : other ∈ channels
  · by_cases first : other = channel
    · subst first
      simp [later, withoutLeaving_idem]
    · simp [later, first]
  · by_cases first : other = channel
    · subst first
      simp [later]
    · simp [later, first]

theorem mem_allChannels (channel : Channel) : channel ∈ allChannels := by
  refine List.mem_map.mpr ⟨channel.toNat, ?_, UInt8.ofNat_toNat⟩
  rw [List.mem_range]
  exact channel.toNat_lt

theorem allChannels_nodup : allChannels.Nodup := by
  refine List.Nodup.map_on ?_ List.nodup_range
  intro first firstIn second secondIn same
  rw [List.mem_range] at firstIn secondIn
  have numbers := congrArg UInt8.toNat same
  rwa [UInt8.toNat_ofNat_of_lt' firstIn, UInt8.toNat_ofNat_of_lt' secondIn]
    at numbers

/-- The step of a sweep over all channels, for one of them. -/
theorem clearedOn_single
    (leaves : ConnectionRef -> Bool)
    (channel : Channel)
    (desc : UDPSocketDescriptor) :
    clearedOn leaves [channel] desc =
      match (desc.channelStates channel).connections with
      | none => desc
      | some conns =>
          desc.modifyChannel channel fun state =>
            { state with
              connections := some (conns.filter fun connection =>
                !leaves connection) } := by
  cases desc with
  | mk port portCallback channelCallbacks channelStates connectCallback
      disconnectCallback deliveryFailureCallback =>
    unfold clearedOn
    cases stored : (channelStates channel).connections with
    | none =>
        congr 1
        funext other
        by_cases same : other = channel
        · subst same
          simp only [List.mem_singleton, if_true, withoutLeaving]
          cases state : channelStates other with
          | mk packetCounter reassembler connections =>
              rw [state] at stored
              simp only at stored
              rw [stored]
              rfl
        · rw [if_neg (by simpa using same)]
    | some conns =>
        simp only [UDPSocketDescriptor.modifyChannel]
        congr 1
        funext other
        by_cases same : other = channel
        · subst same
          simp [withoutLeaving, stored]
        · rw [if_neg (by simpa using same), Function.update_of_ne same]

/-- The list of a cleared channel. -/
theorem connectionsOf_clearedOn
    (leaves : ConnectionRef -> Bool)
    (channels : List Channel)
    (desc : UDPSocketDescriptor)
    (channel : Channel) :
    (clearedOn leaves channels desc).connectionsOf channel =
      if channel ∈ channels then
        (desc.connectionsOf channel).filter fun connection =>
          !leaves connection
      else desc.connectionsOf channel := by
  unfold UDPSocketDescriptor.connectionsOf clearedOn
  simp only
  split
  case isTrue =>
    cases stored : (desc.channelStates channel).connections with
    | none => simp [withoutLeaving, stored]
    | some conns => simp [withoutLeaving, stored]
  case isFalse => rfl

theorem RemovesGone.sweepChannel
    (removes : RemovesGone gone visit leaves)
    {orphans : List ConnectionRef}
    (tracked : Tracked gone orphans)
    (desc : UDPSocketDescriptor)
    (channel : Channel)
    (leaving : ∀ connection ∈ desc.connectionsOf channel,
      leaves connection = true -> connection ∈ gone) :
    let swept := sweepChannel visit (orphans, desc) channel
    Tracked gone swept.1 ∧ (∀ orphan ∈ orphans, orphan ∈ swept.1) ∧
      (∀ connection ∈ desc.connectionsOf channel,
        leaves connection = true -> connection ∈ swept.1) ∧
      swept.2 = clearedOn leaves [channel] desc := by
  rw [clearedOn_single, Kronos.sweepChannel]
  unfold UDPSocketDescriptor.connectionsOf at leaving ⊢
  cases stored : (desc.channelStates channel).connections with
  | none => exact ⟨tracked, fun _ member => member, by simp, rfl⟩
  | some conns =>
      rw [stored] at leaving
      obtain ⟨next, grown, found, kept⟩ := removes.sweep tracked conns leaving
      refine ⟨next, grown, found, ?_⟩
      simp only
      rw [kept]

/-- A sweep over all channels: the orphans are the leaving connections of the
lists, each once, and every list has lost them. -/
theorem RemovesGone.sweepChannels
    (removes : RemovesGone gone visit leaves)
    (desc : UDPSocketDescriptor)
    (leaving : ∀ channel, ∀ connection ∈ desc.connectionsOf channel,
      leaves connection = true -> connection ∈ gone) :
    let swept := sweepChannels visit desc
    Tracked gone swept.1 ∧
      (∀ channel, ∀ connection ∈ desc.connectionsOf channel,
        leaves connection = true -> connection ∈ swept.1) ∧
      swept.2 = clearedOn leaves allChannels desc := by
  have loop : ∀ (channels : List Channel) (orphans : List ConnectionRef)
      (desc : UDPSocketDescriptor), Tracked gone orphans ->
      (∀ channel, ∀ connection ∈ desc.connectionsOf channel,
        leaves connection = true -> connection ∈ gone) ->
      let swept := channels.foldl (Kronos.sweepChannel visit) (orphans, desc)
      Tracked gone swept.1 ∧ (∀ orphan ∈ orphans, orphan ∈ swept.1) ∧
        (∀ channel ∈ channels,
          ∀ connection ∈ desc.connectionsOf channel,
            leaves connection = true -> connection ∈ swept.1) ∧
        swept.2 = clearedOn leaves channels desc := by
    intro channels
    induction channels with
    | nil =>
        intro orphans desc tracked _
        exact ⟨tracked, fun _ member => member, by simp, by simp [clearedOn]⟩
    | cons channel channels inductionHypothesis =>
        intro orphans desc tracked leaving
        obtain ⟨first, firstGrown, firstFound, firstCleared⟩ :=
          removes.sweepChannel tracked desc channel (leaving channel)
        rw [List.foldl_cons]
        generalize Kronos.sweepChannel visit (orphans, desc) channel =
          swept at *
        obtain ⟨foundHere, descHere⟩ := swept
        simp only at first firstGrown firstFound firstCleared
        subst firstCleared
        have lists := connectionsOf_clearedOn leaves [channel] desc
        obtain ⟨next, grown, found, cleared⟩ := inductionHypothesis foundHere
          (clearedOn leaves [channel] desc) first (by
            intro other connection member
            rw [lists] at member
            split at member
            case isTrue =>
              exact leaving other connection (List.mem_filter.mp member).1
            case isFalse => exact leaving other connection member)
        refine ⟨next, fun orphan member => grown orphan
          (firstGrown orphan member), ?_, ?_⟩
        · intro other member connection listed leavesHere
          by_cases same : other = channel
          · subst same
            exact grown connection (firstFound connection listed leavesHere)
          · rcases List.mem_cons.mp member with impossible | inTail
            · exact absurd impossible same
            · refine found other inTail connection ?_ leavesHere
              rw [lists, if_neg (by simpa using same)]
              exact listed
        · rw [cleared, clearedOn_cons]
  obtain ⟨tracked, -, found, cleared⟩ := loop allChannels [] desc
    ⟨List.nodup_nil, by simp⟩ leaving
  exact ⟨tracked, fun channel => found channel (mem_allChannels channel),
    cleared⟩

end

end Kronos
