import Kronos.Server.AppFrame
import Kronos.Server.Sections

/-!
# The channel lists stay in order

Handlers and eviction ticks of any number of threads interleave in units of
their sections under the state lock; entries into the connection map and the
finalization of removed connections come in between at any time.  In every
state they reach, the lists of each port are in order.
-/

namespace Kronos

open Library

/-- What a handler or a tick does in one piece: the section of a handler under
the state lock, or a step it takes outside of that lock. -/
inductive LockSection
  | connection (descriptor : Nat) (remoteAddr : PortAddress) (now : UInt64)
      (allocations : ConnectAllocations)
  | heartbeat (descriptor : Nat) (remoteAddr : PortAddress) (now : UInt64)
  | subscribe (descriptor : Nat) (frame : Frame) (remoteAddr : PortAddress)
      (created pushed : Bool)
  | unsubscribe (descriptor : Nat) (frame : Frame)
      (remoteAddr : PortAddress)
  | disconnect (descriptor : Nat) (remoteAddr : PortAddress)
  | evict (descriptor : Nat) (now : UInt64)
  | register (connectionId : UInt32) (entry : ConnectionMapEntry)
      (address : PortAddress) (entriesGrown addrGrown : Bool)
  | finalize (descriptor : Nat) (orphans : List ConnectionRef)

/-- The state after a section.  The answers are sent outside of it. -/
def lockSection (spm : ServerPortManager) : LockSection -> ServerPortManager
  | .connection descriptor remoteAddr now allocations =>
      connectionSection spm descriptor remoteAddr now allocations
  | .heartbeat descriptor remoteAddr now =>
      krsServerHandleHeartbeatFrame spm descriptor remoteAddr now
  | .subscribe descriptor frame remoteAddr created pushed =>
      (dispatchSubscribe spm descriptor frame remoteAddr created pushed
        true).1
  | .unsubscribe descriptor frame remoteAddr =>
      (dispatchUnsubscribe spm descriptor frame remoteAddr true).1
  | .disconnect descriptor remoteAddr =>
      (disconnectSection spm descriptor remoteAddr).2
  | .evict descriptor now => (evictSection spm descriptor now).2
  | .register connectionId entry address entriesGrown addrGrown =>
      { spm with
        connectionMap := krsConnectionMapPut spm.connectionMap connectionId
          entry address entriesGrown addrGrown }
  | .finalize descriptor orphans =>
      (krsServerFinalizeOrphanEvictions spm descriptor orphans).1

/-! ## The invariant -/

/-- The channel can be subscribed to. -/
def IsApplication (channel : Channel) : Prop := 10 ≤ channel

theorem zero_not_application : ¬ IsApplication 0 := by
  unfold IsApplication
  decide

/-- Members are allocated, and the lists of every port are a roster in
order. -/
structure RosterInvariant (spm : ServerPortManager) : Prop where
  allocated : ∀ descriptor, ∀ ref ∈ listed spm descriptor 0,
    ref < spm.connections.length
  inOrder : ∀ descriptor,
    InOrder 0 IsApplication spm.addressOf (listed spm descriptor)

theorem addressOf_eq (spm : ServerPortManager) (ref : ConnectionRef) :
    spm.addressOf ref = (identityOf spm ref).map Prod.snd := by
  unfold ServerPortManager.addressOf identityOf
  rw [Option.map_map]
  rfl

section

variable
  {before after : ServerPortManager}
  {descriptor : Nat}
  {op : RosterOp Channel ConnectionRef}

/-- What an admissible operation keeps. -/
theorem RosterInvariant.change
    (invariant : RosterInvariant before)
    (changes : ChangesLists before after descriptor op)
    (grown : before.connections.length ≤ after.connections.length)
    (kept : ∀ ref < before.connections.length,
      after.addressOf ref = before.addressOf ref)
    (admissible : op.Admissible 0 IsApplication after.addressOf
      (listed before descriptor))
    (newcomer : ∀ member, op = .join member ->
      member < after.connections.length) :
    RosterInvariant after := by
  have renamed : ∀ other, InOrder 0 IsApplication after.addressOf
      (listed before other) := fun other =>
    (invariant.inOrder other).congr fun ref member =>
      kept ref (invariant.allocated other ref member)
  constructor
  · intro other ref member
    rw [changes other] at member
    split at member
    case isTrue same =>
      subst same
      rcases RosterOp.mem_base_of_apply zero_not_application admissible
        member with old | joined
      · exact Nat.lt_of_lt_of_le (invariant.allocated other ref old) grown
      · exact newcomer ref joined
    case isFalse =>
      exact Nat.lt_of_lt_of_le (invariant.allocated other ref member) grown
  · intro other
    rw [changes other]
    split
    case isTrue same =>
      subst same
      exact (renamed other).apply zero_not_application admissible
    case isFalse => exact renamed other

/-- What an admissible operation keeps, when connections keep their
identity. -/
theorem RosterInvariant.change_of_related
    (invariant : RosterInvariant before)
    (changes : ChangesLists before after descriptor op)
    (heap : IndexRelated (fun _ => SameIdentity) before.connections
      after.connections)
    (admissible : op.Admissible 0 IsApplication before.addressOf
      (listed before descriptor))
    (nobody : ∀ member, op ≠ .join member) :
    RosterInvariant after := by
  have names : after.addressOf = before.addressOf := by
    funext ref
    rw [addressOf_eq, addressOf_eq, identityOf_of_related heap]
  refine invariant.change changes (Nat.le_of_eq heap.1.symm) ?_ ?_ ?_
  · intro ref _
    rw [names]
  · rw [names]
    exact admissible
  · intro member joins
    exact absurd joins (nobody member)

theorem Joined.addressOf
    {remoteAddr : PortAddress}
    (joined : Joined before after descriptor remoteAddr) :
    after.addressOf before.connections.length = some remoteAddr ∧
      ∀ ref < before.connections.length,
        after.addressOf ref = before.addressOf ref := by
  obtain ⟨conn, address, heap⟩ := joined.heap
  unfold ServerPortManager.addressOf
  rw [heap]
  constructor
  · rw [List.getElem?_concat_length, Option.map_some, address]
  · intro ref inside
    rw [List.getElem?_append_left inside]

theorem RosterInvariant.joined
    (invariant : RosterInvariant before)
    {remoteAddr : PortAddress}
    (joined : Joined before after descriptor remoteAddr) :
    RosterInvariant after := by
  obtain ⟨newAddress, kept⟩ := joined.addressOf
  have longer : after.connections.length =
      before.connections.length + 1 := by
    obtain ⟨conn, -, heap⟩ := joined.heap
    rw [heap, List.length_append, List.length_singleton]
  refine invariant.change joined.lists (by omega) kept ?_ ?_
  · intro other member
    rw [newAddress, kept other (invariant.allocated descriptor other member)]
    intro known
    have foreign := joined.unknown other member
    rw [(hasAddress_iff before remoteAddr other).mpr known] at foreign
    cases foreign
  · intro member joins
    cases joins
    rw [longer]
    exact Nat.lt_succ_self _

end

/-! ## Sections keep it -/

section

variable
  {spm : ServerPortManager}

theorem targetChannel_isApplication
    {frame : Frame}
    {target : Channel}
    (named : targetChannel frame = some target) :
    IsApplication target := by
  unfold targetChannel at named
  split at named
  case h_1 => cases named
  case h_2 =>
    split at named
    case isTrue => cases named
    case isFalse application =>
      cases named
      exact UInt8.not_lt.mp application

theorem subscribeOp_admissible
    (spm : ServerPortManager)
    (descriptor : Nat)
    (frame : Frame)
    (remoteAddr : PortAddress) :
    (subscribeOp spm descriptor frame remoteAddr).Admissible 0 IsApplication
      spm.addressOf (listed spm descriptor) := by
  unfold subscribeOp
  split
  case h_1 target connection named found =>
    exact ⟨targetChannel_isApplication named, (memberAt_eq_some found).1⟩
  case h_2 => trivial

theorem unsubscribeOp_admissible
    (spm : ServerPortManager)
    (descriptor : Nat)
    (frame : Frame)
    (remoteAddr : PortAddress) :
    (unsubscribeOp spm descriptor frame remoteAddr).Admissible 0
      IsApplication spm.addressOf (listed spm descriptor) := by
  unfold unsubscribeOp
  split
  case h_1 target connection named _ =>
    exact targetChannel_isApplication named
  case h_2 => trivial

theorem subscribeOp_ne_join
    (spm : ServerPortManager)
    (descriptor : Nat)
    (frame : Frame)
    (remoteAddr : PortAddress)
    (member : ConnectionRef) :
    subscribeOp spm descriptor frame remoteAddr ≠ .join member ∧
      unsubscribeOp spm descriptor frame remoteAddr ≠ .join member := by
  unfold subscribeOp unsubscribeOp
  split <;> exact ⟨nofun, nofun⟩

theorem disconnectSection_heap
    (spm : ServerPortManager)
    (descriptor : Nat)
    (remoteAddr : PortAddress) :
    (disconnectSection spm descriptor remoteAddr).2.connections =
      spm.connections := by
  unfold disconnectSection
  split <;> rfl

theorem evictSection_heap
    (spm : ServerPortManager)
    (descriptor : Nat)
    (now : UInt64) :
    (evictSection spm descriptor now).2.connections = spm.connections := by
  unfold evictSection
  split <;> rfl

theorem RosterInvariant.lockSection
    (invariant : RosterInvariant spm)
    (taken : LockSection) :
    RosterInvariant (lockSection spm taken) := by
  have same : IndexRelated (fun _ => SameIdentity) spm.connections
      spm.connections := IndexRelated.refl (fun _ => SameIdentity.refl) _
  cases taken with
  | connection descriptor remoteAddr now allocations =>
      rcases connectionSection_cases spm descriptor remoteAddr now
        allocations with ⟨kept, heap⟩ | joined
      · exact invariant.change_of_related kept heap trivial nofun
      · exact invariant.joined joined
  | heartbeat descriptor remoteAddr now =>
      have calm := krsServerHandleHeartbeatFrame_calm spm descriptor
        remoteAddr now
      exact invariant.change_of_related
        (krsServerHandleHeartbeatFrame_lists spm descriptor remoteAddr now)
        calm.heap trivial nofun
  | subscribe descriptor frame remoteAddr created pushed =>
      have heap := (dispatchSubscribe_calm spm descriptor frame remoteAddr
        created pushed true).heap
      rcases dispatchSubscribe_lists spm descriptor frame remoteAddr created
        pushed true with enrolled | ⟨kept, -⟩
      · exact invariant.change_of_related enrolled heap
          (subscribeOp_admissible spm descriptor frame remoteAddr)
          fun member => (subscribeOp_ne_join _ _ _ _ member).1
      · exact invariant.change_of_related kept heap trivial nofun
  | unsubscribe descriptor frame remoteAddr =>
      exact invariant.change_of_related
        (dispatchUnsubscribe_lists spm descriptor frame remoteAddr true)
        (dispatchUnsubscribe_calm spm descriptor frame remoteAddr true).heap
        (unsubscribeOp_admissible spm descriptor frame remoteAddr)
        fun member => (subscribeOp_ne_join _ _ _ _ member).2
  | disconnect descriptor remoteAddr =>
      refine invariant.change_of_related
        (disconnectSection_lists spm descriptor remoteAddr) ?_ trivial nofun
      rw [Kronos.lockSection, disconnectSection_heap]
      exact same
  | evict descriptor now =>
      refine invariant.change_of_related
        (evictSection_lists spm descriptor now) ?_ trivial nofun
      rw [Kronos.lockSection, evictSection_heap]
      exact same
  | register connectionId entry address entriesGrown addrGrown =>
      exact invariant.change_of_related (.of_descriptorList rfl 0) same
        trivial nofun
  | finalize descriptor orphans =>
      refine invariant.change_of_related (.of_descriptorList
        (krsServerFinalizeOrphanEvictions_descriptorList spm descriptor
          orphans) 0) ?_ trivial nofun
      exact (krsServerFinalizeOrphanEvictions_heap spm descriptor
        orphans).mono fun _ _ _ released => released.identity

theorem RosterInvariant.foldl_lockSection
    (invariant : RosterInvariant spm)
    (sections : List LockSection) :
    RosterInvariant (sections.foldl Kronos.lockSection spm) := by
  induction sections generalizing spm with
  | nil => exact invariant
  | cons taken sections inductionHypothesis =>
      exact inductionHypothesis (invariant.lockSection taken)

end

theorem RosterInvariant.start
    {descriptorList : List UDPSocketDescriptor}
    (fresh : ∀ desc ∈ descriptorList, ∀ channel,
      desc.connectionsOf channel = []) :
    RosterInvariant (serverStart descriptorList) := by
  have empty : ∀ descriptor channel,
      listed (serverStart descriptorList) descriptor channel = [] :=
    fun descriptor channel => listed_serverStart
      (fun desc member => fresh desc member channel) descriptor
  constructor
  · intro descriptor ref member
    rw [empty] at member
    cases member
  · exact fun descriptor => .empty (empty descriptor)

/-! ## Every reachable state -/

/-- The lists of a port: different addresses on channel 0, subscribers among
the members of channel 0, nobody twice, and nobody on the channels 1 to 9. -/
structure ListsInOrder (spm : ServerPortManager) (descriptor : Nat) :
    Prop where
  addresses : (listed spm descriptor 0).Pairwise fun left right =>
    spm.addressOf left ≠ spm.addressOf right
  subscribers : ∀ channel, 10 ≤ channel ->
    ∀ ref ∈ listed spm descriptor channel, ref ∈ listed spm descriptor 0
  once : ∀ channel, (listed spm descriptor channel).Nodup
  reserved : ∀ channel, 1 ≤ channel -> channel ≤ 9 ->
    listed spm descriptor channel = []

theorem RosterInvariant.listsInOrder
    {spm : ServerPortManager}
    (invariant : RosterInvariant spm)
    (descriptor : Nat) :
    ListsInOrder spm descriptor := by
  have inOrder := invariant.inOrder descriptor
  refine ⟨inOrder.named, inOrder.enrolled, inOrder.once, ?_⟩
  intro channel least most
  refine inOrder.closed channel ?_ ?_
  · rintro rfl
    exact absurd least (by decide)
  · intro application
    have between : (10 : Channel) ≤ 9 := UInt8.le_trans application most
    exact absurd between (by decide)

/-- In every interleaving of the sections of handlers and ticks, with pushes
and allocations failing at will, the lists of every port are in order. -/
theorem channel_lists_in_order
    {descriptorList : List UDPSocketDescriptor}
    (fresh : ∀ desc ∈ descriptorList, ∀ channel,
      desc.connectionsOf channel = [])
    (sections : List LockSection)
    (descriptor : Nat) :
    ListsInOrder (sections.foldl lockSection (serverStart descriptorList))
      descriptor :=
  ((RosterInvariant.start fresh).foldl_lockSection sections).listsInOrder
    descriptor

/-- Two clients connect and subscribe to channel 10, the first one is evicted,
and a third `CONNECTION` comes from the address of the second one. -/
def joiningSections : List LockSection :=
  let subscription : Frame :=
    krsFrameCreate (serializeToBuffer
      ((krsFrameBuilderCreate 0 .subscribe).setData (some [10]) 1) 64) 64
  [.connection 0 (clientAddress 4000) 0 {},
    .subscribe 0 subscription (clientAddress 4000) true true,
    .connection 0 (clientAddress 4001) 20000 {},
    .subscribe 0 subscription (clientAddress 4001) true true,
    .evict 0 30000,
    .finalize 0 [0],
    .connection 0 (clientAddress 4001) 30000 {}]

theorem joining_sections_lists_in_order :
    listed (joiningSections.foldl lockSection
        (serverStart [announcingPort])) 0 10 = [1] ∧
      ListsInOrder (joiningSections.foldl lockSection
        (serverStart [announcingPort])) 0 := by
  refine ⟨by decide +kernel, channel_lists_in_order ?_ _ 0⟩
  intro desc member channel
  rw [List.mem_singleton.mp member]
  rfl

end Kronos
