import Mathlib.Algebra.BigOperators.Group.Finset.Basic
import Kronos.Server.Eviction
import Kronos.Server.History

/-!
# Active connections in the statistics

`krs_server_get_stats` does not count connections.  It subtracts two counters:
`s_dispatch_connection` adds one to the first for every CONNECTION frame,
`krs_server_finalize_orphan_evictions` adds to the second for every connection
that is removed.  The difference is the number of connections in the channel-0
lists as long as every CONNECTION frame makes a connection; a repeated
handshake makes none and is counted all the same.
-/

namespace Kronos

open Library

/-- `ServerStats_t`. -/
structure ServerStatsReport where
  counters : ServerStats
  connectionsActive : UInt64
  poolFallbackMallocs : UInt64
  poolAcquires : UInt64
  deriving DecidableEq, Repr

/-- `krs_server_get_stats`.  `fallbackCount` is the fallback count of the
message pool, if there is a pool. -/
def krsServerGetStats
    (spm : ServerPortManager)
    (fallbackCount : Option UInt64) : ServerStatsReport :=
  { counters := spm.stats
    connectionsActive :=
      spm.stats.connectionsTotal - spm.stats.disconnections
    poolFallbackMallocs := fallbackCount.getD 0
    poolAcquires :=
      if fallbackCount.isSome then spm.stats.messagesReceived else 0 }

/-- The number of connections in the channel-0 lists of all ports. -/
def activeConnections (spm : ServerPortManager) : Nat :=
  (spm.descriptorList.map fun desc => (desc.connectionsOf 0).length).sum

/-- There are at most 64 connections. -/
def FewConnections (current : ServerRun) : Prop :=
  activeConnections current.spm ≤ 64

instance fewConnectionsDecidable (current : ServerRun) :
    Decidable (FewConnections current) :=
  inferInstanceAs (Decidable (_ ≤ _))

/-- A datagram comes to a registered port, and its allocations succeed. -/
def HandledNormally (current : ServerRun) : ServerEvent -> Prop
  | .datagram descriptor _ _ input =>
      descriptor < current.spm.descriptorList.length ∧
        input = { now := input.now }
  | _ => True

instance handledNormallyDecidable (current : ServerRun)
    (event : ServerEvent) : Decidable (HandledNormally current event) :=
  match event with
  | .datagram _ _ _ _ => inferInstanceAs (Decidable (_ ∧ _))
  | .send _ _ _ _ _ _ _ => isTrue trivial
  | .tick _ => isTrue trivial

/-- The frame is a CONNECTION frame that reaches `s_dispatch_connection`. -/
def isHandshake (bytes : List UInt8) : Bool :=
  let frame := krsFrameCreate bytes kronosBufferSize
  frame.protocolChar == 0x4B && frame.channel == 0 &&
    frame.frameType == FrameType.connection.code

/-- The event is a CONNECTION frame from an address that has a connection on
the port already. -/
def repeatsHandshake (spm : ServerPortManager) : ServerEvent -> Bool
  | .datagram descriptor bytes remoteAddr _ =>
      isHandshake bytes &&
        (listed spm descriptor 0).any (spm.hasAddress remoteAddr)
  | _ => false

/-- What the two counters are apart from the number of connections. -/
def statSurplus (spm : ServerPortManager) : UInt64 :=
  spm.stats.connectionsTotal - spm.stats.disconnections -
    UInt64.ofNat (activeConnections spm)

/-! ## Counting connections -/

theorem activeConnections_eq_sum (spm : ServerPortManager) :
    activeConnections spm =
      ∑ descriptor ∈ Finset.range spm.descriptorList.length,
        (listed spm descriptor 0).length := by
  unfold activeConnections listed
  induction spm.descriptorList with
  | nil => rfl
  | cons desc descriptors inductionHypothesis =>
      rw [List.map_cons, List.sum_cons, List.length_cons,
        Finset.sum_range_succ', inductionHypothesis, Nat.add_comm]
      rfl

section Counting

variable {before after : ServerPortManager} {descriptor : Nat}

/-- The number of connections changes by those of one port. -/
theorem activeConnections_change
    (length : after.descriptorList.length = before.descriptorList.length)
    (others : ∀ other ≠ descriptor,
      listed after other 0 = listed before other 0) :
    activeConnections after + (listed before descriptor 0).length =
      activeConnections before + (listed after descriptor 0).length := by
  rw [activeConnections_eq_sum, activeConnections_eq_sum, length]
  by_cases registered :
      descriptor ∈ Finset.range before.descriptorList.length
  · rw [← Finset.add_sum_erase _ _ registered,
      ← Finset.add_sum_erase _ _ registered]
    have rest : ∀ other ∈
        (Finset.range before.descriptorList.length).erase descriptor,
        (listed after other 0).length = (listed before other 0).length := by
      intro other member
      rw [others other (Finset.ne_of_mem_erase member)]
    rw [Finset.sum_congr rfl rest]
    omega
  · rw [Finset.mem_range, not_lt] at registered
    have missing : listed before descriptor 0 = [] :=
      listed_of_missing (List.getElem?_eq_none registered) 0
    have stillMissing : listed after descriptor 0 = [] := by
      apply listed_of_missing
      apply List.getElem?_eq_none
      rw [length]
      exact registered
    have rest : ∀ other ∈ Finset.range before.descriptorList.length,
        (listed after other 0).length = (listed before other 0).length := by
      intro other member
      rw [others other]
      rintro rfl
      exact absurd (Finset.mem_range.mp member) (Nat.not_lt.mpr registered)
    rw [Finset.sum_congr rfl rest, missing, stillMissing]

theorem surplus_join
    (total : after.stats.connectionsTotal =
      before.stats.connectionsTotal + 1)
    (left : after.stats.disconnections = before.stats.disconnections)
    (active : activeConnections after = activeConnections before + 1) :
    statSurplus after = statSurplus before := by
  unfold statSurplus
  rw [total, left, active, UInt64.ofNat_add]
  grind

theorem surplus_leave
    {orphans : Nat}
    (total : after.stats.connectionsTotal = before.stats.connectionsTotal)
    (left : after.stats.disconnections =
      before.stats.disconnections + UInt64.ofNat orphans)
    (active : activeConnections after + orphans = activeConnections before) :
    statSurplus after = statSurplus before := by
  unfold statSurplus
  rw [total, left, ← active, UInt64.ofNat_add]
  grind

theorem surplus_repeated
    (total : after.stats.connectionsTotal =
      before.stats.connectionsTotal + 1)
    (left : after.stats.disconnections = before.stats.disconnections)
    (active : activeConnections after = activeConnections before) :
    statSurplus after = statSurplus before + 1 := by
  unfold statSurplus
  rw [total, left, active]
  grind

end Counting

theorem listed_length_le
    (spm : ServerPortManager)
    (descriptor : Nat) :
    (listed spm descriptor 0).length ≤ activeConnections spm := by
  rw [activeConnections_eq_sum]
  by_cases registered : descriptor ∈ Finset.range spm.descriptorList.length
  · exact Finset.single_le_sum
      (f := fun other => (listed spm other 0).length)
      (fun _ _ => Nat.zero_le _) registered
  · rw [Finset.mem_range, not_lt] at registered
    rw [listed_of_missing (List.getElem?_eq_none registered)]
    exact Nat.zero_le _

/-! ## Removals -/

/-- The finalization counts the orphans that it is given. -/
theorem krsServerFinalizeOrphanEvictions_counters
    (spm : ServerPortManager)
    (descriptor : Nat)
    (orphans : List ConnectionRef) :
    let next :=
      (krsServerFinalizeOrphanEvictions spm descriptor orphans).1
    next.stats.connectionsTotal = spm.stats.connectionsTotal ∧
      next.stats.disconnections =
        spm.stats.disconnections + UInt64.ofNat orphans.length := by
  unfold krsServerFinalizeOrphanEvictions
  dsimp only
  split
  case isTrue none =>
      rw [none]
      exact ⟨rfl, (UInt64.add_zero _).symm⟩
  case isFalse =>
      dsimp only
      rw [foldl_krsConnectionMapRelease]
      exact ⟨rfl, rfl⟩

/-- A sweep whose buffer has room finds the leaving connections of channel 0,
each once. -/
theorem RosterInvariant.orphans_length
    {spm : ServerPortManager}
    (invariant : RosterInvariant spm)
    {descriptor : Nat}
    {desc : UDPSocketDescriptor}
    (read : spm.descriptorList[descriptor]? = some desc)
    {visit : List ConnectionRef -> ConnectionRef ->
      List ConnectionRef × Option ConnectionRef}
    {leaves : ConnectionRef -> Bool}
    (removes : RemovesGone ((listed spm descriptor 0).filter leaves) visit
      leaves) :
    (sweepChannels visit desc).1.length =
      ((listed spm descriptor 0).filter leaves).length := by
  have inOrder := invariant.inOrder descriptor
  have here := listed_of_read read
  obtain ⟨tracked, found, -⟩ := removes.sweepChannels desc (by
    intro channel ref member leaving
    rw [← here] at member
    exact List.mem_filter.mpr ⟨inOrder.mem_base member, leaving⟩)
  apply List.Perm.length_eq
  apply (List.perm_ext_iff_of_nodup tracked.1
    ((inOrder.once 0).filter leaves)).mpr
  intro ref
  constructor
  · exact tracked.2 ref
  · intro member
    obtain ⟨listedHere, leaving⟩ := List.mem_filter.mp member
    rw [here] at listedHere
    exact found 0 ref listedHere leaving

section Removal

variable {spm next : ServerPortManager} {descriptor : Nat}

/-- A removal is counted by its orphans. -/
theorem surplus_removed
    {leaves : ConnectionRef -> Bool}
    {orphans : List ConnectionRef}
    (changes : ChangesLists spm next descriptor (.leave leaves))
    (length : next.descriptorList.length = spm.descriptorList.length)
    (total : next.stats.connectionsTotal = spm.stats.connectionsTotal)
    (left : next.stats.disconnections =
      spm.stats.disconnections + UInt64.ofNat orphans.length)
    (all : orphans.length =
      ((listed spm descriptor 0).filter leaves).length) :
    statSurplus next = statSurplus spm ∧
      activeConnections next ≤ activeConnections spm := by
  have others : ∀ other ≠ descriptor,
      listed next other 0 = listed spm other 0 := by
    intro other different
    rw [changes other, if_neg different]
  have kept : listed next descriptor 0 =
      (listed spm descriptor 0).filter fun ref => !leaves ref := by
    rw [changes descriptor, if_pos rfl]
    rfl
  have split := (listed spm descriptor 0).length_eq_length_filter_add leaves
  have change := activeConnections_change length others
  rw [kept] at change
  have active : activeConnections next + orphans.length =
      activeConnections spm := by
    omega
  exact ⟨surplus_leave total left active, by omega⟩

/-- A DISCONNECT frame. -/
theorem RosterInvariant.dispatchDisconnect_surplus
    (invariant : RosterInvariant spm)
    (few : activeConnections spm ≤ maxEvictionsPerCycle)
    (remoteAddr : PortAddress) :
    statSurplus (dispatchDisconnect spm descriptor remoteAddr).1 =
      statSurplus spm := by
  have rearranges := dispatchDisconnect_rearranges spm descriptor remoteAddr
  have length := (dispatchDisconnect_callbacks spm descriptor remoteAddr).1
  unfold dispatchDisconnect at rearranges length ⊢
  split at rearranges
  case h_1 => rfl
  case h_2 desc read =>
      have room : ((listed spm descriptor 0).filter
          (spm.hasAddress remoteAddr)).length ≤ maxEvictionsPerCycle :=
        (List.length_filter_le _ _).trans
          ((listed_length_le spm descriptor).trans few)
      have found := invariant.orphans_length read
        (disconnectVisit_removesGone spm remoteAddr room)
      rw [read] at length
      dsimp only at rearranges length ⊢
      generalize sweepChannels (disconnectVisit spm remoteAddr) desc = swept
        at *
      obtain ⟨total, left⟩ := krsServerFinalizeOrphanEvictions_counters
        (spm.modifyDescriptor descriptor fun _ => swept.2) descriptor swept.1
      exact (surplus_removed rearranges.1 length total left found).1

/-- The eviction part of a tick for one port. -/
theorem RosterInvariant.evictDescriptor_surplus
    (invariant : RosterInvariant spm)
    (few : activeConnections spm ≤ maxEvictionsPerCycle)
    (now : UInt64)
    (descriptor : Nat) :
    RosterInvariant (evictDescriptor spm now descriptor).1 ∧
      statSurplus (evictDescriptor spm now descriptor).1 = statSurplus spm ∧
      activeConnections (evictDescriptor spm now descriptor).1 ≤
        activeConnections spm := by
  have rearranges := evictDescriptor_rearranges spm now descriptor
  refine ⟨invariant.rearranges rearranges trivial nofun, ?_⟩
  have length := (evictDescriptor_callbacks spm now descriptor).1
  unfold evictDescriptor at rearranges length ⊢
  split at rearranges
  case h_1 => exact ⟨rfl, le_refl _⟩
  case h_2 desc read =>
      have room : ((listed spm descriptor 0).filter
          (isStale spm now)).length ≤ maxEvictionsPerCycle :=
        (List.length_filter_le _ _).trans
          ((listed_length_le spm descriptor).trans few)
      have found := invariant.orphans_length read (evictVisit_removesGone spm
        now room fun ref gone => (List.mem_filter.mp gone).2)
      rw [read] at length
      unfold evictStaleConnections at rearranges length ⊢
      dsimp only at rearranges length ⊢
      generalize sweepChannels (evictVisit spm now maxEvictionsPerCycle)
        desc = swept at *
      obtain ⟨total, left⟩ := krsServerFinalizeOrphanEvictions_counters
        (spm.modifyDescriptor descriptor fun _ =>
          sweepReassemblers now swept.2) descriptor swept.1
      exact surplus_removed rearranges.1 length total left found

end Removal

/-! ## Frames that remove nobody -/

/-- The two counters are untouched. -/
def KeepsCounters (before after : ServerPortManager) : Prop :=
  after.stats.connectionsTotal = before.stats.connectionsTotal ∧
    after.stats.disconnections = before.stats.disconnections

theorem krsServerHandleHeartbeatFrame_counters
    (spm : ServerPortManager)
    (descriptor : Nat)
    (remoteAddr : PortAddress)
    (now : UInt64) :
    KeepsCounters spm
      (krsServerHandleHeartbeatFrame spm descriptor remoteAddr now) := by
  unfold krsServerHandleHeartbeatFrame
  split
  case h_1 => exact ⟨rfl, rfl⟩
  case h_2 desc read =>
      clear read
      generalize allChannels.flatMap desc.connectionsOf = refs
      induction refs generalizing spm with
      | nil => exact ⟨rfl, rfl⟩
      | cons ref refs inductionHypothesis =>
          rw [List.foldl_cons]
          split
          case isTrue => exact inductionHypothesis _
          case isFalse => exact inductionHypothesis _

theorem dispatchSubscribe_counters
    (spm : ServerPortManager)
    (descriptor : Nat)
    (frame : Frame)
    (remoteAddr : PortAddress)
    (created pushed ackBuilt : Bool) :
    KeepsCounters spm
      (dispatchSubscribe spm descriptor frame remoteAddr created
        pushed ackBuilt).1 := by
  unfold dispatchSubscribe
  split
  case h_1 =>
      split
      case h_1 => exact ⟨rfl, rfl⟩
      case h_2 =>
          dsimp only
          split <;> exact ⟨rfl, rfl⟩
  case h_2 => exact ⟨rfl, rfl⟩

theorem dispatchUnsubscribe_counters
    (spm : ServerPortManager)
    (descriptor : Nat)
    (frame : Frame)
    (remoteAddr : PortAddress)
    (ackBuilt : Bool) :
    KeepsCounters spm
      (dispatchUnsubscribe spm descriptor frame remoteAddr ackBuilt).1 := by
  unfold dispatchUnsubscribe
  split
  case h_1 =>
      dsimp only
      split <;> exact ⟨rfl, rfl⟩
  case h_2 => exact ⟨rfl, rfl⟩

theorem dispatchAck_counters
    (spm : ServerPortManager)
    (frame : Frame)
    (remoteAddr : PortAddress)
    (now : UInt64) :
    KeepsCounters spm (dispatchAck spm frame remoteAddr now) := by
  unfold dispatchAck
  dsimp only
  split
  case isTrue => exact ⟨rfl, rfl⟩
  case isFalse => split <;> exact ⟨rfl, rfl⟩

theorem deliver_counters
    (spm : ServerPortManager)
    (descriptor : Nat)
    (desc : UDPSocketDescriptor)
    (frame : Frame)
    (remoteAddr : PortAddress)
    (delivery : Delivery)
    (ackBuilt : Bool) :
    KeepsCounters spm
      (deliver spm descriptor desc frame remoteAddr delivery ackBuilt).1 := by
  unfold deliver
  dsimp only
  split <;> split_ifs <;> exact ⟨rfl, rfl⟩

theorem dispatchAppFrame_counters
    {spm : ServerPortManager}
    {descriptor : Nat}
    {frame : Frame}
    {remoteAddr : PortAddress}
    {now : UInt64}
    {created allocated ackBuilt : Bool}
    {result : ServerPortManager × List ServerEffect}
    (dispatched : dispatchAppFrame spm descriptor frame remoteAddr now
      created allocated ackBuilt = some result) :
    KeepsCounters spm result.1 := by
  cases dispatchAppFrame_cases dispatched with
  | unregistered missing outcome =>
      cases outcome
      exact ⟨rfl, rfl⟩
  | whole desc read outcome =>
      cases outcome
      exact deliver_counters _ _ _ _ _ _ _
  | stored desc state read reassembled outcome =>
      cases outcome
      exact ⟨rfl, rfl⟩
  | completed desc state delivery read reassembled outcome =>
      cases outcome
      exact deliver_counters _ _ _ _ _ _ _

/-- An event that keeps the counters and the channel-0 lists. -/
theorem surplus_kept
    {spm next : ServerPortManager}
    (length : next.descriptorList.length = spm.descriptorList.length)
    (lists : ∀ descriptor,
      listed next descriptor 0 = listed spm descriptor 0)
    (counters : KeepsCounters spm next) :
    statSurplus next = statSurplus spm ∧
      activeConnections next = activeConnections spm := by
  have active : activeConnections next = activeConnections spm := by
    rw [activeConnections_eq_sum, activeConnections_eq_sum, length]
    simp only [lists]
  refine ⟨?_, active⟩
  unfold statSurplus
  rw [counters.1, counters.2, active]

/-! ## CONNECTION frames -/

section Handshakes

variable
  (spm : ServerPortManager)
  (descriptor : Nat)
  (remoteAddr : PortAddress)
  (now : UInt64)

theorem krsServerHandleConnectionFrame_stats
    (allocations : ConnectAllocations) :
    (krsServerHandleConnectionFrame spm descriptor remoteAddr now
      allocations).1.stats = spm.stats := by
  unfold krsServerHandleConnectionFrame
  dsimp only
  split
  case h_1 => rfl
  case h_2 =>
      split
      case h_1 => rfl
      case h_2 =>
          unfold acceptConnection
          split
          case isTrue => rfl
          case isFalse =>
              dsimp only
              split <;> rfl

/-- A CONNECTION frame from a new address makes a connection and takes an
id. -/
theorem dispatchConnection_created
    {desc : UDPSocketDescriptor}
    (read : spm.descriptorList[descriptor]? = some desc)
    (unknown : (listed spm descriptor 0).any (spm.hasAddress remoteAddr) =
      false) :
    let next := (dispatchConnection spm descriptor remoteAddr now {}).1
    next.connections.length = spm.connections.length + 1 ∧
      next.nextConnectionId = spm.nextConnectionId + 1 := by
  have opened : (spm.modifyDescriptor descriptor
      (·.modifyChannel 0 (ensureConnections true))).descriptorList[
        descriptor]? =
      some (desc.modifyChannel 0 (ensureConnections true)) :=
    modifyDescriptor_read read _
  have same : (desc.modifyChannel 0 (ensureConnections true)).connectionsOf
      0 = desc.connectionsOf 0 := by
    rw [connectionsOf_modifyChannel_update, Function.update_self,
      ensureConnections_getD]
    rfl
  have absent : (desc.connectionsOf 0).find? (spm.hasAddress remoteAddr) =
      none := by
    rw [listed_of_read read] at unknown
    rw [List.find?_eq_none]
    intro ref member
    exact List.any_eq_false.mp unknown ref member
  have ready : ((desc.modifyChannel 0 (ensureConnections
      true)).channelStates 0).connections.isNone = false := by
    simp only [UDPSocketDescriptor.modifyChannel, Function.update_self,
      ensureConnections]
    split
    case h_1 stored => rw [stored, Option.isNone_some]
    case h_2 => rfl
  have others : (spm.modifyDescriptor descriptor
      (·.modifyChannel 0 (ensureConnections true))).hasAddress remoteAddr =
        spm.hasAddress remoteAddr := rfl
  unfold dispatchConnection krsServerHandleConnectionFrame
  dsimp only
  rw [opened]
  dsimp only
  rw [same, others, absent]
  unfold acceptConnection
  dsimp only
  rw [ready]
  exact ⟨List.length_append, rfl⟩

/-- A CONNECTION frame is counted, and makes a connection unless its address
has one. -/
theorem dispatchConnection_surplus
    (registered : descriptor < spm.descriptorList.length) :
    statSurplus (dispatchConnection spm descriptor remoteAddr now {}).1 =
      statSurplus spm +
        if (listed spm descriptor 0).any (spm.hasAddress remoteAddr) then 1
        else 0 := by
  have outcome := dispatchConnection_lists spm descriptor remoteAddr now {}
  have created := dispatchConnection_created spm descriptor remoteAddr now
    (List.getElem?_eq_getElem registered)
  have length := (dispatchConnection_callbacks spm descriptor remoteAddr now
    {}).1
  have total : (dispatchConnection spm descriptor remoteAddr now
      {}).1.stats.connectionsTotal = spm.stats.connectionsTotal + 1 := by
    rw [dispatchConnection, krsServerHandleConnectionFrame_stats]
  have left : (dispatchConnection spm descriptor remoteAddr now
      {}).1.stats.disconnections = spm.stats.disconnections := by
    rw [dispatchConnection, krsServerHandleConnectionFrame_stats]
  generalize (dispatchConnection spm descriptor remoteAddr now {}).1 = next
    at *
  rcases outcome with joined | kept
  · have unknown : (listed spm descriptor 0).any (spm.hasAddress remoteAddr) =
        false := by
      rw [List.any_eq_false]
      intro ref member
      rw [joined.unknown ref member]
      exact Bool.false_ne_true
    have others : ∀ other ≠ descriptor,
        listed next other 0 = listed spm other 0 := by
      intro other different
      rw [joined.lists other, if_neg different]
    have here : listed next descriptor 0 =
        listed spm descriptor 0 ++ [spm.connections.length] := by
      rw [joined.lists descriptor, if_pos rfl, RosterOp.apply,
        Function.update_self]
    have change := activeConnections_change length others
    rw [here, List.length_append, List.length_singleton] at change
    rw [unknown, surplus_join total left (by omega)]
    exact (UInt64.add_zero _).symm
  · have lists : ∀ other, listed next other 0 = listed spm other 0 := by
      intro other
      rw [kept.1 other]
      split <;> rfl
    have active : activeConnections next = activeConnections spm := by
      rw [activeConnections_eq_sum, activeConnections_eq_sum, length]
      simp only [lists]
    cases known : (listed spm descriptor 0).any
        (spm.hasAddress remoteAddr) with
    | true => exact surplus_repeated total left active
    | false =>
        have longer := (created known).1
        have sameHeap := kept.2.1
        omega

end Handshakes

/-! ## Whole runs -/

/-- What one event does to the lists and to the counters. -/
structure StepCounted
    (before after : ServerPortManager)
    (repeated : Bool) : Prop where
  roster : RosterInvariant after
  counted : statSurplus after = statSurplus before + if repeated then 1 else 0

theorem RosterInvariant.withStats
    {spm : ServerPortManager}
    (invariant : RosterInvariant spm)
    (stats : ServerStats) :
    RosterInvariant { spm with stats := stats } :=
  ⟨invariant.allocated, invariant.inOrder⟩

section Steps

variable {spm next : ServerPortManager} {effects : List ServerEffect}

/-- Operations that neither add nor remove members keep the base. -/
theorem apply_base
    {name : ConnectionRef -> Option PortAddress}
    {lists : Channel -> List ConnectionRef}
    {op : RosterOp Channel ConnectionRef}
    (admissible : op.Admissible 0 IsApplication name lists)
    (notJoin : ∀ member, op ≠ .join member)
    (notLeave : ∀ leaves, op ≠ .leave leaves) :
    op.apply 0 lists 0 = lists 0 := by
  cases op with
  | keep => rfl
  | join member => exact absurd rfl (notJoin member)
  | leave leaves => exact absurd rfl (notLeave leaves)
  | enroll group member =>
      rw [RosterOp.apply]
      split
      case isTrue => rfl
      case isFalse =>
          apply Function.update_of_ne
          rintro rfl
          exact zero_not_application admissible.1
  | withdraw group member =>
      apply Function.update_of_ne
      rintro rfl
      exact zero_not_application admissible

theorem subscribeOp_base
    (descriptor : Nat)
    (frame : Frame)
    (remoteAddr : PortAddress) :
    (subscribeOp spm descriptor frame remoteAddr).apply 0
        (listed spm descriptor) 0 = listed spm descriptor 0 := by
  apply apply_base (subscribeOp_admissible spm descriptor frame remoteAddr)
  · exact fun member =>
      (subscribeOp_ne_join spm descriptor frame remoteAddr member).1
  · unfold subscribeOp
    split <;> exact nofun

theorem unsubscribeOp_base
    (descriptor : Nat)
    (frame : Frame)
    (remoteAddr : PortAddress) :
    (unsubscribeOp spm descriptor frame remoteAddr).apply 0
        (listed spm descriptor) 0 = listed spm descriptor 0 := by
  apply apply_base (unsubscribeOp_admissible spm descriptor frame remoteAddr)
  · exact fun member =>
      (subscribeOp_ne_join spm descriptor frame remoteAddr member).2
  · unfold unsubscribeOp
    split <;> exact nofun

/-- Only a DISCONNECT frame takes members out of the channel-0 list. -/
theorem frameOp_base
    {descriptor : Nat}
    {frame : Frame}
    (remoteAddr : PortAddress)
    (stays : ¬ (frame.channel = 0 ∧
      frame.frameType = FrameType.disconnect.code)) :
    (frameOp spm descriptor frame remoteAddr).apply 0
      (listed spm descriptor) 0 = listed spm descriptor 0 := by
  rw [frameOp, if_neg stays]
  split
  case isTrue => exact subscribeOp_base descriptor frame remoteAddr
  case isFalse =>
      split
      case isTrue => exact unsubscribeOp_base descriptor frame remoteAddr
      case isFalse => rfl

/-- Only CONNECTION and DISCONNECT frames touch the two counters. -/
theorem routeFrame_counters
    {descriptor : Nat}
    {frame : Frame}
    {remoteAddr : PortAddress}
    {input : HandlerInput}
    (routed : routeFrame spm descriptor frame remoteAddr input =
      some (next, effects))
    (notConnection : ¬ (frame.channel = 0 ∧
      frame.frameType = FrameType.connection.code))
    (stays : ¬ (frame.channel = 0 ∧
      frame.frameType = FrameType.disconnect.code)) :
    KeepsCounters spm next := by
  unfold routeFrame at routed
  rw [if_neg notConnection] at routed
  by_cases heartbeat : frame.channel = 1 ∧
      frame.frameType = FrameType.heartbeat.code
  · rw [if_pos heartbeat] at routed
    cases routed
    exact krsServerHandleHeartbeatFrame_counters _ _ _ _
  rw [if_neg heartbeat, if_neg stays] at routed
  by_cases subscribe : frame.channel = 0 ∧
      frame.frameType = FrameType.subscribe.code
  · have kept := dispatchSubscribe_counters spm descriptor frame remoteAddr
      input.created input.allocated input.ackBuilt
    rw [if_pos subscribe, Option.some_inj] at routed
    rw [routed] at kept
    exact kept
  rw [if_neg subscribe] at routed
  by_cases unsubscribe : frame.channel = 0 ∧
      frame.frameType = FrameType.unsubscribe.code
  · have kept := dispatchUnsubscribe_counters spm descriptor frame remoteAddr
      input.ackBuilt
    rw [if_pos unsubscribe, Option.some_inj] at routed
    rw [routed] at kept
    exact kept
  rw [if_neg unsubscribe] at routed
  by_cases acknowledgement : frame.frameType = FrameType.messageAck.code
  · rw [if_pos acknowledgement] at routed
    cases routed
    exact dispatchAck_counters _ _ _ _
  rw [if_neg acknowledgement] at routed
  by_cases other : frame.frameType ≠ FrameType.basicMessage.code
  · rw [if_pos other] at routed
    cases routed
    exact ⟨rfl, rfl⟩
  rw [if_neg other] at routed
  by_cases application : frame.channel ≥ 10
  · rw [if_pos application] at routed
    exact dispatchAppFrame_counters routed
  · rw [if_neg application] at routed
    cases routed
    exact ⟨rfl, rfl⟩

/-- A frame that reaches the handlers. -/
theorem RosterInvariant.routeFrame
    (invariant : RosterInvariant spm)
    {descriptor : Nat}
    (registered : descriptor < spm.descriptorList.length)
    (few : activeConnections spm ≤ maxEvictionsPerCycle)
    {frame : Frame}
    {remoteAddr : PortAddress}
    {now : UInt64}
    (routed : routeFrame spm descriptor frame remoteAddr { now := now } =
      some (next, effects)) :
    StepCounted spm next
      (frame.channel == 0 &&
        frame.frameType == FrameType.connection.code &&
        (listed spm descriptor 0).any (spm.hasAddress remoteAddr)) := by
  have effect : Kronos.handlerEffect spm (.frame descriptor frame remoteAddr
      now) = some (next, effects) := routed
  refine ⟨invariant.handlerEffect effect, ?_⟩
  by_cases connection : frame.channel = 0 ∧
      frame.frameType = FrameType.connection.code
  · have counted := dispatchConnection_surplus spm descriptor remoteAddr now
      registered
    rw [Kronos.routeFrame, if_pos connection, Option.some_inj] at routed
    rw [routed] at counted
    rw [counted, connection.1, connection.2]
    rfl
  · have calm : (frame.channel == 0 &&
        frame.frameType == FrameType.connection.code) = false := by
      simpa using connection
    rw [calm, Bool.false_and]
    refine Eq.trans ?_ (UInt64.add_zero _).symm
    by_cases disconnect : frame.channel = 0 ∧
        frame.frameType = FrameType.disconnect.code
    · have counted : statSurplus (dispatchDisconnect spm descriptor
          remoteAddr).1 = statSurplus spm :=
        invariant.dispatchDisconnect_surplus few remoteAddr
      have heartbeat : ¬ (frame.channel = 1 ∧
          frame.frameType = FrameType.heartbeat.code) := by
        rw [disconnect.1]
        simp
      rw [Kronos.routeFrame, if_neg connection, if_neg heartbeat,
        if_pos disconnect, Option.some_inj] at routed
      rw [routed] at counted
      exact counted
    · have length := (routeFrame_routed routed).callbacks.1
      have counters := routeFrame_counters routed connection disconnect
      rcases routeFrame_lists routed with ⟨channel, type, -⟩ | rearranges
      · exact absurd ⟨channel, type⟩ connection
      · refine (surplus_kept length ?_ counters).1
        intro other
        rw [rearranges.1 other]
        split
        case isTrue same =>
            subst same
            exact frameOp_base remoteAddr disconnect
        case isFalse => rfl

/-- A send keeps the lists and the two counters. -/
theorem krsServerSend_keeps
    {connectionId : UInt32}
    {channel : Channel}
    {data : List UInt8}
    {length : UInt16}
    {requireAck : Bool}
    {clock : Nat -> UInt64}
    {allocations : SendAllocations}
    {result : KronosResult}
    (sent : krsServerSend spm connectionId channel data length requireAck
      clock allocations = some (next, result, effects)) :
    (∃ descriptor, ChangesLists spm next descriptor .keep) ∧
      KeepsCounters spm next := by
  unfold krsServerSend at sent
  dsimp only at sent
  split at sent
  case h_1 =>
      cases sent
      exact ⟨⟨0, .of_descriptorList rfl 0⟩, rfl, rfl⟩
  case h_2 entry _ =>
      split at sent
      case h_1 target desc _ read =>
          split at sent
          case isTrue => cases sent
          case isFalse =>
              cases sent
              refine ⟨⟨entry.descriptor, .of_modify rfl read ?_⟩, rfl, rfl⟩
              rw [connectionsOf_modifyChannel_update,
                nextPacketId_connections, RosterOp.apply]
              exact Function.update_eq_self channel desc.connectionsOf
      case h_2 => cases sent

/-- Collecting retransmissions keeps the lists and the two counters. -/
theorem RosterInvariant.collected
    (invariant : RosterInvariant spm)
    (clock : ConnectionRef -> UInt64)
    (stats : ServerStats)
    (total : stats.connectionsTotal = spm.stats.connectionsTotal)
    (left : stats.disconnections = spm.stats.disconnections) :
    let counted : ServerPortManager :=
      { (collectAll spm clock).2 with stats := stats }
    RosterInvariant counted ∧ statSurplus counted = statSurplus spm ∧
      activeConnections counted = activeConnections spm := by
  have descriptors : (collectAll spm clock).2.descriptorList =
      spm.descriptorList := by
    rw [collectAll_eq]
  have heap := collectAll_related SameIdentity.refl
    (fun _ _ _ => SameIdentity.trans)
    (fun callback descriptor ref now buffers conn =>
      (collectConnection_identity callback descriptor ref now buffers
        conn).1) spm clock
  generalize (collectAll spm clock).2 = collected at *
  dsimp only
  constructor
  · refine invariant.change_of_related (.of_descriptorList descriptors 0)
      heap trivial nofun
  · apply surplus_kept
    · exact congrArg List.length descriptors
    · intro descriptor
      rw [listed, listed]
      simp only [descriptors]
    · exact ⟨total, left⟩

/-- The eviction loop of a tick. -/
theorem RosterInvariant.evictAll
    (invariant : RosterInvariant spm)
    (few : activeConnections spm ≤ maxEvictionsPerCycle)
    (clock : Nat -> UInt64) :
    StepCounted spm (evictAll spm clock).1 false := by
  unfold Kronos.evictAll
  generalize List.range spm.descriptorList.length = descriptors
  have loop : ∀ current : ServerPortManager × List ServerEffect,
      RosterInvariant current.1 ->
      activeConnections current.1 ≤ maxEvictionsPerCycle ->
      StepCounted current.1 (descriptors.foldl (fun current descriptor =>
        let evicted := evictDescriptor current.1 (clock descriptor)
          descriptor
        (evicted.1, current.2 ++ evicted.2)) current).1 false := by
    induction descriptors with
    | nil => exact fun current roster _ =>
        ⟨roster, (UInt64.add_zero _).symm⟩
    | cons descriptor descriptors inductionHypothesis =>
        intro current roster fewer
        obtain ⟨kept, same, less⟩ := roster.evictDescriptor_surplus fewer
          (clock descriptor) descriptor
        obtain ⟨final, counted⟩ := inductionHypothesis
          ((evictDescriptor current.1 (clock descriptor) descriptor).1,
            current.2 ++
              (evictDescriptor current.1 (clock descriptor) descriptor).2)
          kept (less.trans fewer)
        dsimp only at counted
        rw [same] at counted
        exact ⟨final, counted⟩
  exact loop (spm, []) invariant few

/-- One event: the counters drift from the lists exactly by a repeated
handshake. -/
theorem RosterInvariant.serverEffect
    {log : List ServerEffect}
    {event : ServerEvent}
    (invariant : RosterInvariant spm)
    (few : activeConnections spm ≤ maxEvictionsPerCycle)
    (normally : HandledNormally { spm := spm, log := log } event)
    (effect : serverEffect spm event = some (next, effects)) :
    StepCounted spm next (repeatsHandshake spm event) := by
  cases event with
  | datagram descriptor bytes remoteAddr input =>
      obtain ⟨registered, allocated⟩ := normally
      change handleDatagram spm descriptor bytes remoteAddr input =
        some (next, effects) at effect
      unfold handleDatagram at effect
      dsimp only at effect
      rw [repeatsHandshake, isHandshake]
      generalize krsFrameCreate bytes kronosBufferSize = frame at *
      by_cases foreign : frame.protocolChar ≠ 0x4B
      · rw [if_pos foreign] at effect
        cases effect
        rw [beq_eq_false_iff_ne.mpr foreign]
        exact ⟨invariant, (UInt64.add_zero _).symm⟩
      · rw [if_neg foreign, allocated] at effect
        obtain ⟨roster, counted⟩ := RosterInvariant.routeFrame
          (invariant.withStats { spm.stats with
            messagesReceived := spm.stats.messagesReceived + 1 })
          registered few effect
        refine ⟨roster, counted.trans ?_⟩
        rw [beq_iff_eq.mpr (not_not.mp foreign), Bool.true_and]
        rfl
  | send connectionId channel data length requireAck clock allocations =>
      obtain ⟨⟨sent, result, sends⟩, returned, same⟩ :=
        Option.map_eq_some_iff.mp effect
      cases same
      have calm := krsServerSend_calm returned
      obtain ⟨⟨descriptor, lists⟩, counters⟩ := krsServerSend_keeps returned
      refine ⟨invariant.change_of_related lists calm.heap trivial nofun, ?_⟩
      have kept := surplus_kept calm.descriptors.1 (by
        intro other
        rw [lists other]
        split <;> rfl) counters
      exact kept.1.trans (UInt64.add_zero _).symm
  | tick clock =>
      cases effect
      obtain ⟨roster, same, active⟩ := invariant.collected clock.check
        { (collectAll spm clock.check).2.stats with
          retransmissions :=
            (collectAll spm clock.check).2.stats.retransmissions +
              UInt64.ofNat (collectAll spm clock.check).1.pending.length }
        (by rw [collectAll_eq]) (by rw [collectAll_eq])
      rw [← active] at few
      obtain ⟨final, counted⟩ := roster.evictAll few clock.evict
      rw [same] at counted
      exact ⟨final, counted⟩

end Steps

/-- The report agrees with the lists: the difference of the counters did not
wrap and is the number of connections. -/
def ReportsActive (current : ServerRun) : Prop :=
  ∀ fallbackCount,
    (krsServerGetStats current.spm
        fallbackCount).connectionsActive.toNat =
      activeConnections current.spm

theorem reportsActive_iff
    {current : ServerRun}
    (few : FewConnections current) :
    ReportsActive current ↔ statSurplus current.spm = 0 := by
  have fits : activeConnections current.spm < 2 ^ 64 :=
    lt_of_le_of_lt few (by decide)
  have same : ReportsActive current ↔
      current.spm.stats.connectionsTotal -
          current.spm.stats.disconnections =
        UInt64.ofNat (activeConnections current.spm) := by
    unfold ReportsActive krsServerGetStats
    dsimp only
    rw [forall_const, ← UInt64.toNat_inj, UInt64.toNat_ofNat_of_lt' fits]
  rw [same, statSurplus]
  constructor
  · intro equal
    rw [equal]
    exact UInt64.sub_self _
  · intro zero
    grind

/-- A repeated handshake is handled. -/
theorem repeatsHandshake_handled
    {current : ServerRun}
    {event : ServerEvent}
    (repeated : repeatsHandshake current.spm event = true) :
    serverStep current event ≠ none := by
  cases event with
  | datagram descriptor bytes remoteAddr input =>
      rw [repeatsHandshake, Bool.and_eq_true, isHandshake] at repeated
      obtain ⟨handshake, -⟩ := repeated
      simp only [Bool.and_eq_true, beq_iff_eq] at handshake
      obtain ⟨⟨protocol, channel⟩, type⟩ := handshake
      rw [serverStep, serverEffect, handleDatagram,
        if_neg (not_not.mpr protocol), Kronos.routeFrame,
        if_pos ⟨channel, type⟩]
      simp
  | send connectionId channel data length requireAck clock allocations =>
      cases repeated
  | tick clock => cases repeated

/-- From a state whose report is right, the reports stay right exactly if no
handshake is repeated. -/
theorem runStates_reportsActive_iff
    {current : ServerRun}
    {events : List ServerEvent}
    (invariant : RosterInvariant current.spm)
    (reports : statSurplus current.spm = 0)
    (normally : RunAllowed serverStep HandledNormally current events)
    (few : RunStates serverStep FewConnections current events) :
    RunStates serverStep ReportsActive current events ↔
      RunAllowed serverStep
        (fun current event => repeatsHandshake current.spm event = false)
        current events := by
  induction events generalizing current with
  | nil => exact iff_of_true ((reportsActive_iff few).mpr reports) trivial
  | cons event events inductionHypothesis =>
      obtain ⟨fewNow, fewLater⟩ := few
      obtain ⟨normal, normalLater⟩ := normally
      have here := (reportsActive_iff fewNow).mpr reports
      rw [RunStates, RunAllowed]
      cases taken : serverStep current event with
      | none =>
          have calm : repeatsHandshake current.spm event = false := by
            apply Bool.eq_false_of_not_eq_true
            intro repeated
            exact repeatsHandshake_handled repeated taken
          exact iff_of_true ⟨here, trivial⟩ ⟨calm, trivial⟩
      | some next =>
          rw [taken] at fewLater normalLater
          obtain ⟨⟨after, effects⟩, effect, same⟩ :=
            Option.map_eq_some_iff.mp taken
          obtain ⟨roster, counted⟩ : StepCounted current.spm next.spm
              (repeatsHandshake current.spm event) := by
            rw [← same]
            exact invariant.serverEffect fewNow normal effect
          rw [reports] at counted
          cases repeated : repeatsHandshake current.spm event with
          | false =>
              rw [repeated] at counted
              have rest := inductionHypothesis roster counted normalLater
                fewLater
              exact ⟨fun all => ⟨rfl, rest.mp all.2⟩,
                fun all => ⟨here, rest.mpr all.2⟩⟩
          | true =>
              rw [repeated] at counted
              constructor
              · rintro ⟨-, later⟩
                have zero := (reportsActive_iff fewLater.first).mp later.first
                rw [counted] at zero
                exact absurd zero (by decide)
              · rintro ⟨calm, -⟩
                cases calm

/-- In every run of datagrams, sends and ticks, handled one at a time with
allocations succeeding and at most 64 connections, from ports without
connections: the reported number of active connections is the number of
connections in the channel-0 lists in every state, exactly if no CONNECTION
frame comes from an address that has a connection on the port already. -/
theorem connections_active_reported_iff
    {descriptorList : List UDPSocketDescriptor}
    (fresh : ∀ desc ∈ descriptorList, ∀ channel,
      desc.connectionsOf channel = [])
    {events : List ServerEvent}
    (normally : RunAllowed serverStep HandledNormally
      (runStart descriptorList) events)
    (few : RunStates serverStep FewConnections (runStart descriptorList)
      events) :
    RunStates serverStep ReportsActive (runStart descriptorList) events ↔
      RunAllowed serverStep
        (fun current event => repeatsHandshake current.spm event = false)
        (runStart descriptorList) events := by
  refine runStates_reportsActive_iff (RosterInvariant.start fresh) ?_
    normally few
  have nobody : activeConnections (serverStart descriptorList) = 0 := by
    apply List.sum_eq_zero
    intro length member
    obtain ⟨desc, known, rfl⟩ := List.mem_map.mp member
    rw [fresh desc known 0]
    rfl
  change statSurplus (serverStart descriptorList) = 0
  rw [statSurplus, nobody]
  simp [serverStart]

/-- Two clients connect, and one of them falls silent and is evicted. -/
theorem active_of_short_run :
    RunStates serverStep ReportsActive (runStart [listeningPort])
      [connectFrom 4000 0, connectFrom 4001 0, heartbeatFrom 4001 20000,
        tickAt 30000] := by
  refine (connections_active_reported_iff ?_ (by decide +kernel)
    (by decide +kernel)).mpr (by decide +kernel)
  intro desc member channel
  rw [List.mem_singleton.mp member]
  rfl

/-- A client repeats its CONNECTION frame: one connection, reported as two. -/
theorem repeated_handshake_counted_twice :
    RunAllowed serverStep HandledNormally (runStart [listeningPort])
        [connectFrom 4000 0, connectFrom 4000 1] ∧
      RunStates serverStep FewConnections (runStart [listeningPort])
        [connectFrom 4000 0, connectFrom 4000 1] ∧
      ∃ final,
        run serverStep (runStart [listeningPort])
            [connectFrom 4000 0, connectFrom 4000 1] = some final ∧
          activeConnections final.spm = 1 ∧
          (krsServerGetStats final.spm none).connectionsActive = 2 := by
  have ran : (run serverStep (runStart [listeningPort])
      [connectFrom 4000 0, connectFrom 4000 1]).map (fun final =>
        (activeConnections final.spm,
          (krsServerGetStats final.spm none).connectionsActive)) =
      some (1, 2) := by
    decide +kernel
  obtain ⟨final, reached, facts⟩ := Option.map_eq_some_iff.mp ran
  obtain ⟨active, reported⟩ := Prod.mk.inj facts
  exact ⟨by decide +kernel, by decide +kernel, final, reached, active,
    reported⟩

end Kronos
