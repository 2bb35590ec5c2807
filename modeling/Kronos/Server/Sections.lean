import Kronos.Library.Roster
import Kronos.Server.Eviction

/-!
# The sections under the state lock

A handler that works on the channel lists of a port does so in one section
under the port's `state_lock`.  What comes after it, entries of the connection
map and releases, runs outside of that lock.  This module separates the two
and says what each section does to the lists, as an operation on the roster of
the port: channel 0 is its base, the application channels are its groups.
-/

namespace Kronos

open Library

/-! ## The sections -/

/-- The `state_lock` section of `krs_server_handle_connection_frame`. -/
def connectionSection
    (spm : ServerPortManager)
    (descriptor : Nat)
    (remoteAddr : PortAddress)
    (now : UInt64)
    (allocations : ConnectAllocations) : ServerPortManager :=
  let spm := spm.modifyDescriptor descriptor
    (·.modifyChannel 0 (ensureConnections allocations.array))
  match spm.descriptorList[descriptor]? with
  | none => spm
  | some desc =>
      match (desc.connectionsOf 0).find? (spm.hasAddress remoteAddr) with
      | some existing =>
          spm.modifyConnection existing fun conn =>
            { conn with lastHeartbeatMs := now }
      | none =>
          if !allocations.connection then spm
          else if (desc.channelStates 0).connections.isNone ||
              !allocations.push then
            { spm with nextConnectionId := spm.nextConnectionId + 1 }
          else
            { spm with
              nextConnectionId := spm.nextConnectionId + 1
              connections := spm.connections ++
                [{ connectionId := spm.nextConnectionId + 1
                   remoteAddress := remoteAddr
                   lastHeartbeatMs := now }]
              descriptorList := spm.descriptorList.modify descriptor
                (·.modifyChannel 0
                  (pushConnection spm.connections.length)) }

/-- The `state_lock` section of `s_dispatch_disconnect`: the orphans, and the
state after it. -/
def disconnectSection
    (spm : ServerPortManager)
    (descriptor : Nat)
    (remoteAddr : PortAddress) : List ConnectionRef × ServerPortManager :=
  match spm.descriptorList[descriptor]? with
  | none => ([], spm)
  | some desc =>
      let swept := sweepChannels (disconnectVisit spm remoteAddr) desc
      (swept.1, spm.modifyDescriptor descriptor fun _ => swept.2)

/-- The `state_lock` section of `s_evict_stale_connections`. -/
def evictSection
    (spm : ServerPortManager)
    (descriptor : Nat)
    (now : UInt64) : List ConnectionRef × ServerPortManager :=
  match spm.descriptorList[descriptor]? with
  | none => ([], spm)
  | some desc =>
      let evicted := evictStaleConnections spm now maxEvictionsPerCycle desc
      (evicted.1, spm.modifyDescriptor descriptor fun _ => evicted.2)

/-- A `DISCONNECT` is its section followed by the finalization. -/
theorem dispatchDisconnect_eq
    (spm : ServerPortManager)
    (descriptor : Nat)
    (remoteAddr : PortAddress) :
    dispatchDisconnect spm descriptor remoteAddr =
      krsServerFinalizeOrphanEvictions
        (disconnectSection spm descriptor remoteAddr).2 descriptor
        (disconnectSection spm descriptor remoteAddr).1 := by
  unfold dispatchDisconnect disconnectSection
  cases spm.descriptorList[descriptor]? with
  | none => rfl
  | some desc => dsimp only

/-- An eviction is its section followed by the finalization. -/
theorem evictDescriptor_eq
    (spm : ServerPortManager)
    (now : UInt64)
    (descriptor : Nat) :
    evictDescriptor spm now descriptor =
      krsServerFinalizeOrphanEvictions
        (evictSection spm descriptor now).2 descriptor
        (evictSection spm descriptor now).1 := by
  unfold evictDescriptor evictSection
  cases spm.descriptorList[descriptor]? with
  | none => rfl
  | some desc => dsimp only

/-- A `CONNECTION` is its section followed by an entry in the connection map,
if any. -/
theorem krsServerHandleConnectionFrame_section
    (spm : ServerPortManager)
    (descriptor : Nat)
    (remoteAddr : PortAddress)
    (now : UInt64)
    (allocations : ConnectAllocations) :
    ∃ map, (krsServerHandleConnectionFrame spm descriptor remoteAddr now
        allocations).1 =
      { connectionSection spm descriptor remoteAddr now allocations with
        connectionMap := map } := by
  unfold krsServerHandleConnectionFrame connectionSection acceptConnection
  generalize spm.modifyDescriptor descriptor _ = opened
  dsimp only
  cases opened.descriptorList[descriptor]? with
  | none => exact ⟨_, rfl⟩
  | some desc =>
      dsimp only
      cases (desc.connectionsOf 0).find? (opened.hasAddress remoteAddr) with
      | some existing => exact ⟨_, rfl⟩
      | none =>
          dsimp only
          cases allocations.connection with
          | false => exact ⟨_, rfl⟩
          | true =>
              simp only [Bool.not_true, Bool.false_eq_true, if_false]
              split
              case isTrue => exact ⟨_, rfl⟩
              case isFalse => exact ⟨_, rfl⟩

/-! ## Roster operations -/

theorem listed_of_read
    {spm : ServerPortManager}
    {descriptor : Nat}
    {desc : UDPSocketDescriptor}
    (read : spm.descriptorList[descriptor]? = some desc) :
    listed spm descriptor = desc.connectionsOf := by
  funext channel
  rw [listed, read]

theorem listed_of_missing
    {spm : ServerPortManager}
    {descriptor : Nat}
    (missing : spm.descriptorList[descriptor]? = none)
    (channel : Channel) :
    listed spm descriptor channel = [] := by
  rw [listed, missing]

/-- The lists of one port change by a roster operation and those of the other
ports stay. -/
def ChangesLists
    (before after : ServerPortManager)
    (descriptor : Nat)
    (op : RosterOp Channel ConnectionRef) : Prop :=
  ∀ other, listed after other =
    if other = descriptor then op.apply 0 (listed before other)
    else listed before other

theorem ChangesLists.of_same
    {before after : ServerPortManager}
    (same : ∀ other, listed after other = listed before other)
    (descriptor : Nat) :
    ChangesLists before after descriptor .keep := by
  intro other
  rw [same]
  split <;> rfl

theorem ChangesLists.of_descriptorList
    {before after : ServerPortManager}
    (same : after.descriptorList = before.descriptorList)
    (descriptor : Nat) :
    ChangesLists before after descriptor .keep := by
  refine .of_same (fun other => ?_) descriptor
  funext channel
  rw [listed, listed, same]

/-- Nobody leaves a port that does not exist. -/
theorem ChangesLists.of_missing
    {spm : ServerPortManager}
    {descriptor : Nat}
    (missing : spm.descriptorList[descriptor]? = none)
    (leaves : ConnectionRef -> Bool) :
    ChangesLists spm spm descriptor (.leave leaves) := by
  intro other
  split
  case isTrue same =>
    subst same
    have empty := listed_of_missing missing
    funext channel
    simp [RosterOp.apply, empty]
  case isFalse => rfl

/-- What follows without touching the descriptors changes nothing. -/
theorem ChangesLists.congr
    {before between after : ServerPortManager}
    {descriptor : Nat}
    {op : RosterOp Channel ConnectionRef}
    (changes : ChangesLists before between descriptor op)
    (same : after.descriptorList = between.descriptorList) :
    ChangesLists before after descriptor op := by
  intro other
  rw [← changes other]
  funext channel
  rw [listed, listed, same]

/-- Writing a descriptor by an operation on its lists. -/
theorem ChangesLists.of_modify
    {before after : ServerPortManager}
    {descriptor : Nat}
    {change : UDPSocketDescriptor -> UDPSocketDescriptor}
    (written : after.descriptorList =
      before.descriptorList.modify descriptor change)
    {op : RosterOp Channel ConnectionRef}
    {desc : UDPSocketDescriptor}
    (read : before.descriptorList[descriptor]? = some desc)
    (changed : (change desc).connectionsOf =
      op.apply 0 desc.connectionsOf) :
    ChangesLists before after descriptor op := by
  intro other
  split
  case isTrue same =>
    subst same
    rw [listed_of_read read, ← changed]
    refine listed_of_read ?_
    rw [written, List.getElem?_modify_eq, read]
    rfl
  case isFalse different =>
    funext channel
    rw [listed, listed, written,
      List.getElem?_modify_ne _ _ (Ne.symm different)]

/-- Two operations in a row, the first of which keeps the lists. -/
theorem ChangesLists.after_keep
    {before between after : ServerPortManager}
    {descriptor : Nat}
    {op : RosterOp Channel ConnectionRef}
    (kept : ChangesLists before between descriptor .keep)
    (changes : ChangesLists between after descriptor op) :
    ChangesLists before after descriptor op := by
  have same : ∀ other, listed between other = listed before other := by
    intro other
    rw [kept other]
    split <;> rfl
  intro other
  rw [changes other, same]

/-- The lists of a descriptor after one channel was written. -/
theorem connectionsOf_modifyChannel_update
    (desc : UDPSocketDescriptor)
    (channel : Channel)
    (change : ChannelState -> ChannelState) :
    (desc.modifyChannel channel change).connectionsOf =
      Function.update desc.connectionsOf channel
        ((change (desc.channelStates channel)).connections.getD []) := by
  funext other
  rw [connectionsOf_modifyChannel]
  by_cases same : other = channel
  · subst same
    simp
  · simp [same]

/-- Writing a channel without touching its list. -/
theorem ChangesLists.of_sameList
    {before after : ServerPortManager}
    {descriptor : Nat}
    {channel : Channel}
    {change : ChannelState -> ChannelState}
    (written : after.descriptorList = before.descriptorList.modify descriptor
      (·.modifyChannel channel change))
    (sameList : ∀ state : ChannelState,
      (change state).connections.getD [] = state.connections.getD []) :
    ChangesLists before after descriptor .keep := by
  cases read : before.descriptorList[descriptor]? with
  | none =>
      refine .of_descriptorList ?_ descriptor
      rw [written]
      exact List.modify_eq_self (List.getElem?_eq_none_iff.mp read)
  | some desc =>
      refine .of_modify written read ?_
      rw [connectionsOf_modifyChannel_update, sameList, RosterOp.apply]
      exact Function.update_eq_self channel desc.connectionsOf

/-! ## Removals -/

/-- A visit that removes exactly the leaving connections, as long as only
leaving ones are tracked. -/
structure RemovesLeaving
    (visit : List ConnectionRef -> ConnectionRef ->
      List ConnectionRef × Option ConnectionRef)
    (leaves : ConnectionRef -> Bool) : Prop where
  tracked : ∀ orphans connection,
    (∀ orphan ∈ orphans, leaves orphan = true) ->
      ∀ orphan ∈ (visit orphans connection).1, leaves orphan = true
  outcome : ∀ orphans connection,
    (∀ orphan ∈ orphans, leaves orphan = true) ->
      (visit orphans connection).2 =
        if leaves connection then none else some connection

theorem mem_trackOrphan
    {capacity : Nat}
    {orphans : List ConnectionRef}
    {connection orphan : ConnectionRef}
    (member : orphan ∈ trackOrphan capacity orphans connection) :
    orphan ∈ orphans ∨ orphan = connection := by
  unfold trackOrphan at member
  split at member
  case isTrue =>
    rcases List.mem_append.mp member with earlier | last
    · exact Or.inl earlier
    · exact Or.inr (List.mem_singleton.mp last)
  case isFalse => exact Or.inl member

theorem disconnectVisit_removesLeaving
    (spm : ServerPortManager)
    (remoteAddr : PortAddress) :
    RemovesLeaving (disconnectVisit spm remoteAddr)
      (spm.hasAddress remoteAddr) := by
  constructor
  · intro orphans connection leaving orphan member
    unfold disconnectVisit at member
    split_ifs at member with stays known
    · exact leaving orphan member
    · exact leaving orphan member
    · rcases mem_trackOrphan member with earlier | rfl
      · exact leaving orphan earlier
      · simpa using stays
  · intro orphans connection _
    unfold disconnectVisit
    cases spm.hasAddress remoteAddr connection with
    | false => rfl
    | true =>
        simp only [Bool.not_true, Bool.false_eq_true, if_false, if_true]
        split <;> rfl

theorem evictVisit_removesLeaving
    (spm : ServerPortManager)
    (now : UInt64)
    (capacity : Nat) :
    RemovesLeaving (evictVisit spm now capacity) (isStale spm now) := by
  constructor
  · intro orphans connection leaving orphan member
    unfold evictVisit at member
    split_ifs at member with known stale
    · exact leaving orphan member
    · rcases mem_trackOrphan member with earlier | rfl
      · exact leaving orphan earlier
      · exact stale
    · exact leaving orphan member
  · intro orphans connection leaving
    unfold evictVisit
    by_cases known : orphans.contains connection = true
    · rw [if_pos known,
        if_pos (leaving connection (List.contains_iff_mem.mp known))]
    · rw [if_neg known]
      split <;> rfl

section

variable
  {visit : List ConnectionRef -> ConnectionRef ->
    List ConnectionRef × Option ConnectionRef}
  {leaves : ConnectionRef -> Bool}

theorem RemovesLeaving.sweep
    (removes : RemovesLeaving visit leaves)
    {orphans : List ConnectionRef}
    (leaving : ∀ orphan ∈ orphans, leaves orphan = true)
    (conns : List ConnectionRef) :
    let swept := sweep visit orphans conns
    (∀ orphan ∈ swept.1, leaves orphan = true) ∧
      swept.2 = conns.filter fun connection => !leaves connection := by
  rw [sweep_eq_sweepRight]
  induction conns with
  | nil => exact ⟨leaving, rfl⟩
  | cons connection conns inductionHypothesis =>
      obtain ⟨later, kept⟩ := inductionHypothesis
      rw [sweepRight_cons]
      generalize sweepRight visit orphans conns = swept at *
      dsimp only
      refine ⟨removes.tracked swept.1 connection later, ?_⟩
      rw [removes.outcome swept.1 connection later, kept, List.filter_cons]
      cases leaves connection with
      | false => rfl
      | true => rfl

/-- A sweep over all channels removes the leaving connections from every list,
however many there are. -/
theorem RemovesLeaving.sweepChannels
    (removes : RemovesLeaving visit leaves)
    (desc : UDPSocketDescriptor) :
    (sweepChannels visit desc).2.connectionsOf =
      (RosterOp.leave leaves).apply 0 desc.connectionsOf := by
  have loop : ∀ (channels : List Channel)
      (current : List ConnectionRef × UDPSocketDescriptor),
      (∀ orphan ∈ current.1, leaves orphan = true) ->
      (channels.foldl (sweepChannel visit) current).2 =
        clearedOn leaves channels current.2 := by
    intro channels
    induction channels with
    | nil =>
        intro current _
        simp [clearedOn]
    | cons channel channels inductionHypothesis =>
        intro current leaving
        have swept : (∀ orphan ∈ (sweepChannel visit current channel).1,
              leaves orphan = true) ∧
            (sweepChannel visit current channel).2 =
              clearedOn leaves [channel] current.2 := by
          rw [clearedOn_single, sweepChannel]
          cases (current.2.channelStates channel).connections with
          | none => exact ⟨leaving, rfl⟩
          | some conns =>
              obtain ⟨later, kept⟩ := removes.sweep leaving conns
              refine ⟨later, ?_⟩
              dsimp only
              rw [kept]
        rw [List.foldl_cons, inductionHypothesis _ swept.1, swept.2,
          clearedOn_cons]
  funext channel
  rw [Kronos.sweepChannels, loop allChannels ([], desc) (by simp),
    connectionsOf_clearedOn, if_pos (mem_allChannels channel)]
  rfl

end

theorem disconnectSection_lists
    (spm : ServerPortManager)
    (descriptor : Nat)
    (remoteAddr : PortAddress) :
    ChangesLists spm (disconnectSection spm descriptor remoteAddr).2
      descriptor (.leave (spm.hasAddress remoteAddr)) := by
  unfold disconnectSection
  split
  case h_1 missing => exact .of_missing missing _
  case h_2 desc read =>
    refine .of_modify rfl read ?_
    exact (disconnectVisit_removesLeaving spm remoteAddr).sweepChannels desc

theorem evictSection_lists
    (spm : ServerPortManager)
    (descriptor : Nat)
    (now : UInt64) :
    ChangesLists spm (evictSection spm descriptor now).2 descriptor
      (.leave (isStale spm now)) := by
  unfold evictSection
  split
  case h_1 missing => exact .of_missing missing _
  case h_2 desc read =>
    refine .of_modify rfl read ?_
    rw [← (evictVisit_removesLeaving spm now
      maxEvictionsPerCycle).sweepChannels desc]
    funext channel
    exact connectionsOf_sweepReassemblers now _ channel

/-! ## Subscriptions -/

/-- The member of channel 0 with the given address. -/
def memberAt
    (spm : ServerPortManager)
    (descriptor : Nat)
    (remoteAddr : PortAddress) : Option ConnectionRef :=
  (listed spm descriptor 0).find? (spm.hasAddress remoteAddr)

theorem memberAt_eq
    {spm : ServerPortManager}
    {descriptor : Nat}
    {desc : UDPSocketDescriptor}
    (read : spm.descriptorList[descriptor]? = some desc)
    (remoteAddr : PortAddress) :
    findConnOnChannel0Unlocked spm desc remoteAddr =
      memberAt spm descriptor remoteAddr := by
  rw [memberAt, listed, read]
  rfl

theorem memberAt_eq_some
    {spm : ServerPortManager}
    {descriptor : Nat}
    {remoteAddr : PortAddress}
    {ref : ConnectionRef}
    (found : memberAt spm descriptor remoteAddr = some ref) :
    ref ∈ listed spm descriptor 0 ∧ spm.hasAddress remoteAddr ref = true :=
  ⟨List.mem_of_find?_eq_some found, List.find?_some found⟩

theorem memberAt_of_missing
    {spm : ServerPortManager}
    {descriptor : Nat}
    (missing : spm.descriptorList[descriptor]? = none)
    (remoteAddr : PortAddress) :
    memberAt spm descriptor remoteAddr = none := by
  rw [memberAt, listed_of_missing missing]
  rfl

/-- What a `SUBSCRIBE` does to the lists of its port, if its allocations
succeed. -/
def subscribeOp
    (spm : ServerPortManager)
    (descriptor : Nat)
    (frame : Frame)
    (remoteAddr : PortAddress) : RosterOp Channel ConnectionRef :=
  match targetChannel frame, memberAt spm descriptor remoteAddr with
  | some target, some connection => .enroll target connection
  | _, _ => .keep

/-- What an `UNSUBSCRIBE` does to the lists of its port. -/
def unsubscribeOp
    (spm : ServerPortManager)
    (descriptor : Nat)
    (frame : Frame)
    (remoteAddr : PortAddress) : RosterOp Channel ConnectionRef :=
  match targetChannel frame, memberAt spm descriptor remoteAddr with
  | some target, some connection => .withdraw target connection
  | _, _ => .keep

/-- The list of the target channel after a commit. -/
theorem commitSubscription_list
    {connection : ConnectionRef}
    {created pushed : Bool}
    {old new : ChannelState}
    (committed : commitSubscription connection created pushed old =
      some new) :
    new.connections.getD [] =
      if connection ∈ old.connections.getD [] then old.connections.getD []
      else old.connections.getD [] ++ [connection] := by
  have sameList := ensureConnections_getD created old
  unfold commitSubscription at committed
  generalize (ensureConnections created old).connections = opened at *
  rw [← sameList]
  cases opened with
  | none => cases committed
  | some conns =>
      simp only [List.contains_eq_mem, decide_eq_true_eq] at committed
      rw [Option.getD_some]
      split_ifs at committed with known
      · cases committed
        rw [if_pos known]
        rfl
      · cases committed
        rw [if_neg known]
        rfl

/-- With its allocations a commit succeeds. -/
theorem commitSubscription_isSome
    (connection : ConnectionRef)
    (state : ChannelState) :
    (commitSubscription connection true true state).isSome = true := by
  unfold commitSubscription ensureConnections
  cases stored : state.connections with
  | none => rfl
  | some conns =>
      simp only [stored]
      split <;> rfl

theorem dispatchSubscribe_lists
    (spm : ServerPortManager)
    (descriptor : Nat)
    (frame : Frame)
    (remoteAddr : PortAddress)
    (created pushed ackBuilt : Bool) :
    let next := (dispatchSubscribe spm descriptor frame remoteAddr created
      pushed ackBuilt).1
    ChangesLists spm next descriptor
        (subscribeOp spm descriptor frame remoteAddr) ∨
      ChangesLists spm next descriptor .keep ∧
        (created && pushed) = false := by
  dsimp only
  unfold dispatchSubscribe subscribeOp
  cases targetChannel frame with
  | none => exact Or.inl (.of_descriptorList rfl _)
  | some target =>
      cases read : spm.descriptorList[descriptor]? with
      | none =>
          rw [memberAt_of_missing read]
          exact Or.inl (.of_descriptorList rfl _)
      | some desc =>
          dsimp only
          rw [memberAt_eq read]
          cases memberAt spm descriptor remoteAddr with
          | none => exact Or.inl (.of_descriptorList rfl _)
          | some connection =>
              dsimp only
              cases committed : commitSubscription connection created pushed
                  (desc.channelStates target) with
              | none =>
                  refine Or.inr ⟨.of_sameList rfl
                    (ensureConnections_getD created), ?_⟩
                  cases created <;> cases pushed <;> first | rfl | skip
                  have succeeds := commitSubscription_isSome connection
                    (desc.channelStates target)
                  rw [committed] at succeeds
                  cases succeeds
              | some state =>
                  refine Or.inl (.of_modify rfl read ?_)
                  rw [connectionsOf_modifyChannel_update,
                    commitSubscription_list committed]
                  change Function.update _ _
                    (if connection ∈ desc.connectionsOf target then _
                      else _) = _
                  rw [RosterOp.apply]
                  split
                  case isTrue =>
                    exact Function.update_eq_self target desc.connectionsOf
                  case isFalse => rfl

theorem dispatchUnsubscribe_lists
    (spm : ServerPortManager)
    (descriptor : Nat)
    (frame : Frame)
    (remoteAddr : PortAddress)
    (ackBuilt : Bool) :
    ChangesLists spm
      (dispatchUnsubscribe spm descriptor frame remoteAddr ackBuilt).1 descriptor
      (unsubscribeOp spm descriptor frame remoteAddr) := by
  unfold dispatchUnsubscribe unsubscribeOp
  cases targetChannel frame with
  | none => exact .of_descriptorList rfl _
  | some target =>
      cases read : spm.descriptorList[descriptor]? with
      | none =>
          rw [memberAt_of_missing read]
          exact .of_descriptorList rfl _
      | some desc =>
          dsimp only
          rw [memberAt_eq read]
          cases memberAt spm descriptor remoteAddr with
          | none => exact .of_descriptorList rfl _
          | some connection =>
              refine .of_modify rfl read ?_
              rw [connectionsOf_modifyChannel_update, RosterOp.apply]
              unfold UDPSocketDescriptor.connectionsOf
              dsimp only
              cases (desc.channelStates target).connections with
              | none => rfl
              | some conns => rfl

/-! ## Connections -/

theorem krsServerHandleHeartbeatFrame_lists
    (spm : ServerPortManager)
    (descriptor : Nat)
    (remoteAddr : PortAddress)
    (now : UInt64) :
    ChangesLists spm
      (krsServerHandleHeartbeatFrame spm descriptor remoteAddr now)
      descriptor .keep := by
  unfold krsServerHandleHeartbeatFrame
  split
  case h_1 => exact .of_descriptorList rfl descriptor
  case h_2 desc _ =>
    obtain ⟨-, -, descriptors⟩ := foldl_heartbeat remoteAddr now
      (allChannels.flatMap desc.connectionsOf) spm
    exact .of_descriptorList descriptors descriptor

/-- A connection joined a port. -/
structure Joined
    (before after : ServerPortManager)
    (descriptor : Nat)
    (remoteAddr : PortAddress) : Prop where
  heap : ∃ conn : ClientConnection, conn.remoteAddress = remoteAddr ∧
    after.connections = before.connections ++ [conn]
  unknown : ∀ ref ∈ listed before descriptor 0,
    before.hasAddress remoteAddr ref = false
  lists : ChangesLists before after descriptor
    (.join before.connections.length)

theorem connectionSection_cases
    (spm : ServerPortManager)
    (descriptor : Nat)
    (remoteAddr : PortAddress)
    (now : UInt64)
    (allocations : ConnectAllocations) :
    let next := connectionSection spm descriptor remoteAddr now allocations
    (ChangesLists spm next descriptor .keep ∧
        IndexRelated (fun _ => SameIdentity) spm.connections
          next.connections) ∨
      Joined spm next descriptor remoteAddr := by
  have opened : ChangesLists spm (spm.modifyDescriptor descriptor
      (·.modifyChannel 0 (ensureConnections allocations.array))) descriptor
        .keep :=
    .of_sameList rfl (ensureConnections_getD allocations.array)
  have heap : (spm.modifyDescriptor descriptor
      (·.modifyChannel 0 (ensureConnections
        allocations.array))).connections = spm.connections := rfl
  have same : IndexRelated (fun _ => SameIdentity) spm.connections
      spm.connections := IndexRelated.refl (fun _ => SameIdentity.refl) _
  unfold connectionSection
  dsimp only
  generalize spm.modifyDescriptor descriptor _ = between at *
  split
  case h_1 => exact Or.inl ⟨opened, heap ▸ same⟩
  case h_2 desc read =>
    split
    case h_1 existing _ =>
      refine Or.inl ⟨opened.congr rfl, ?_⟩
      rw [← heap]
      exact IndexRelated.modify (fun _ => SameIdentity.refl) _ existing
        fun conn _ => ⟨rfl, rfl⟩
    case h_2 missing =>
      split
      case isTrue => exact Or.inl ⟨opened, heap ▸ same⟩
      case isFalse =>
        split
        case isTrue => exact Or.inl ⟨opened.congr rfl, heap ▸ same⟩
        case isFalse ready =>
          have before : listed between descriptor = listed spm descriptor :=
            (opened descriptor).trans (if_pos rfl)
          simp only [Bool.or_eq_true, not_or, Bool.not_eq_true,
            Option.isNone_eq_false_iff] at ready
          obtain ⟨conns, stored⟩ := Option.isSome_iff_exists.mp ready.1
          refine Or.inr ⟨⟨_, rfl, by rw [heap]⟩, ?_, ?_⟩
          · intro ref member
            rw [← before, listed_of_read read] at member
            have absent := List.find?_eq_none.mp missing ref member
            unfold ServerPortManager.hasAddress at absent ⊢
            rw [← heap]
            exact Bool.eq_false_of_not_eq_true absent
          · rw [← heap]
            refine opened.after_keep (.of_modify rfl read ?_)
            rw [connectionsOf_modifyChannel_update, RosterOp.apply]
            simp [pushConnection, UDPSocketDescriptor.connectionsOf, stored]

end Kronos
