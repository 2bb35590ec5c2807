import Kronos.Library.Since
import Kronos.Library.Transition
import Kronos.Server.Lists

/-!
# Subscriptions and the history of control frames

A run of frames and eviction ticks keeps its history.  A connection is in the
list of an application channel exactly when, since it was created, a
`SUBSCRIBE` for the channel came from its address and nothing has undone it
since; and the application is called back for such connections only.
-/

namespace Kronos

open Library

/-! ## Runs with a history -/

/-- A frame that reaches `s_route_frame`, all of whose allocations succeed, or
the eviction tick of a port. -/
inductive HandlerEvent
  | frame (descriptor : Nat) (frame : Frame) (remoteAddr : PortAddress)
      (now : UInt64)
  | evict (descriptor : Nat) (now : UInt64)

/-- The state after an event and its effects. -/
def handlerEffect (spm : ServerPortManager) :
    HandlerEvent -> Option (ServerPortManager × List ServerEffect)
  | .frame descriptor frame remoteAddr now =>
      routeFrame spm descriptor frame remoteAddr { now := now }
  | .evict descriptor now => some (evictDescriptor spm now descriptor)

/-- One entry of a history. -/
structure HandlerEntry where
  before : ServerPortManager
  event : HandlerEvent
  effects : List ServerEffect
  after : ServerPortManager

/-- A server and its history. -/
structure HandlerRun where
  spm : ServerPortManager
  history : List HandlerEntry

/-- One step of a run. -/
def handlerStep (current : HandlerRun) (event : HandlerEvent) :
    Option HandlerRun :=
  (handlerEffect current.spm event).map fun next =>
    { spm := next.1
      history := current.history ++
        [{ before := current.spm
           event := event
           effects := next.2
           after := next.1 }] }

/-! ## Conditions on the history -/

/-- A frame of this type on channel 0 that came to this port from this
address. -/
def ControlFrame
    (type : FrameType)
    (descriptor : Nat)
    (address : PortAddress) : HandlerEvent -> Prop
  | .frame own frame remoteAddr _ =>
      own = descriptor ∧ remoteAddr = address ∧ frame.channel = 0 ∧
        frame.frameType = type.code
  | .evict .. => False

/-- The channel that the frame names. -/
def HandlerEvent.target : HandlerEvent -> Option Channel
  | .frame _ received _ _ => targetChannel received
  | .evict .. => none

/-- The event is an eviction tick that finds this connection stale. -/
def Evicts
    (descriptor : Nat)
    (ref : ConnectionRef)
    (entry : HandlerEntry) : Prop :=
  match entry.event with
  | .frame .. => False
  | .evict own now => own = descriptor ∧ isStale entry.before now ref = true

/-- The entry created this connection. -/
def Creates
    (descriptor : Nat)
    (ref : ConnectionRef)
    (address : PortAddress)
    (entry : HandlerEntry) : Prop :=
  ControlFrame .connection descriptor address entry.event ∧
    entry.before.connections.length = ref ∧
    entry.after.connections.length = ref + 1

/-- The entry is a `DISCONNECT` from this address or an eviction of this
connection. -/
def Removes
    (descriptor : Nat)
    (ref : ConnectionRef)
    (address : PortAddress)
    (entry : HandlerEntry) : Prop :=
  ControlFrame .disconnect descriptor address entry.event ∨
    Evicts descriptor ref entry

/-- The connection was created and has not been removed since. -/
def ConnectedSince
    (descriptor : Nat)
    (ref : ConnectionRef)
    (address : PortAddress) (history : List HandlerEntry) : Prop :=
  Since (fun _ => Creates descriptor ref address)
    (Removes descriptor ref address) history

/-- Since the connection was created, a `SUBSCRIBE` for the channel came from
its address, and after that neither an `UNSUBSCRIBE` for the channel nor a
`DISCONNECT` nor an eviction of the connection. -/
def SubscribedSince
    (descriptor : Nat)
    (ref : ConnectionRef)
    (address : PortAddress)
    (channel : Channel) (history : List HandlerEntry) : Prop :=
  Since
    (fun earlier entry =>
      ControlFrame .subscribe descriptor address entry.event ∧
        entry.event.target = some channel ∧
        ConnectedSince descriptor ref address earlier)
    (fun entry =>
      (ControlFrame .unsubscribe descriptor address entry.event ∧
          entry.event.target = some channel) ∨
        Removes descriptor ref address entry) history

/-! ## What an event does to the lists -/

/-- What a frame does to the lists of its port, unless it creates a
connection. -/
def frameOp
    (spm : ServerPortManager)
    (descriptor : Nat)
    (frame : Frame)
    (remoteAddr : PortAddress) : RosterOp Channel ConnectionRef :=
  if frame.channel = 0 ∧ frame.frameType = FrameType.disconnect.code then
    .leave (spm.hasAddress remoteAddr)
  else if frame.channel = 0 ∧
      frame.frameType = FrameType.subscribe.code then
    subscribeOp spm descriptor frame remoteAddr
  else if frame.channel = 0 ∧
      frame.frameType = FrameType.unsubscribe.code then
    unsubscribeOp spm descriptor frame remoteAddr
  else .keep

theorem frameOp_eq_keep
    (spm : ServerPortManager)
    (descriptor : Nat)
    {frame : Frame}
    (remoteAddr : PortAddress)
    (notDisconnect : ¬ (frame.channel = 0 ∧
      frame.frameType = FrameType.disconnect.code))
    (notSubscribe : ¬ (frame.channel = 0 ∧
      frame.frameType = FrameType.subscribe.code))
    (notUnsubscribe : ¬ (frame.channel = 0 ∧
      frame.frameType = FrameType.unsubscribe.code)) :
    frameOp spm descriptor frame remoteAddr = .keep := by
  rw [frameOp, if_neg notDisconnect, if_neg notSubscribe,
    if_neg notUnsubscribe]

/-- Neither map nor counters are part of joining. -/
theorem Joined.congr
    {before between after : ServerPortManager}
    {descriptor : Nat}
    {remoteAddr : PortAddress}
    (joined : Joined before between descriptor remoteAddr)
    (descriptors : after.descriptorList = between.descriptorList)
    (heap : after.connections = between.connections) :
    Joined before after descriptor remoteAddr where
  heap := by
    rw [heap]
    exact joined.heap
  unknown := joined.unknown
  lists := joined.lists.congr descriptors

/-- A change of the lists that keeps the identity of all connections. -/
def Rearranges
    (before after : ServerPortManager)
    (descriptor : Nat)
    (op : RosterOp Channel ConnectionRef) : Prop :=
  ChangesLists before after descriptor op ∧
    IndexRelated (fun _ => SameIdentity) before.connections
      after.connections

theorem dispatchConnection_lists
    (spm : ServerPortManager)
    (descriptor : Nat)
    (remoteAddr : PortAddress)
    (now : UInt64)
    (allocations : ConnectAllocations) :
    let next := (dispatchConnection spm descriptor remoteAddr now
      allocations).1
    Joined spm next descriptor remoteAddr ∨
      Rearranges spm next descriptor .keep := by
  obtain ⟨map, handled⟩ := krsServerHandleConnectionFrame_section spm
    descriptor remoteAddr now allocations
  dsimp only
  unfold dispatchConnection
  dsimp only
  rw [handled]
  rcases connectionSection_cases spm descriptor remoteAddr now allocations
    with ⟨kept, heap⟩ | joined
  · exact Or.inr ⟨kept.congr rfl, heap⟩
  · exact Or.inl (joined.congr rfl rfl)

theorem finalize_rearranges
    {before between : ServerPortManager}
    {descriptor : Nat}
    {op : RosterOp Channel ConnectionRef}
    (changes : ChangesLists before between descriptor op)
    (heap : between.connections = before.connections)
    (orphans : List ConnectionRef) :
    Rearranges before
      (krsServerFinalizeOrphanEvictions between descriptor orphans).1
      descriptor op := by
  refine ⟨changes.congr (krsServerFinalizeOrphanEvictions_descriptorList
    between descriptor orphans), ?_⟩
  rw [← heap]
  exact (krsServerFinalizeOrphanEvictions_heap between descriptor
    orphans).mono fun _ _ _ released => released.identity

theorem dispatchDisconnect_rearranges
    (spm : ServerPortManager)
    (descriptor : Nat)
    (remoteAddr : PortAddress) :
    Rearranges spm (dispatchDisconnect spm descriptor remoteAddr).1
      descriptor (.leave (spm.hasAddress remoteAddr)) := by
  rw [dispatchDisconnect_eq]
  exact finalize_rearranges
    (disconnectSection_lists spm descriptor remoteAddr)
    (disconnectSection_heap spm descriptor remoteAddr) _

theorem evictDescriptor_rearranges
    (spm : ServerPortManager)
    (now : UInt64)
    (descriptor : Nat) :
    Rearranges spm (evictDescriptor spm now descriptor).1 descriptor
      (.leave (isStale spm now)) := by
  rw [evictDescriptor_eq]
  exact finalize_rearranges (evictSection_lists spm descriptor now)
    (evictSection_heap spm descriptor now) _

theorem dispatchAck_descriptorList
    (spm : ServerPortManager)
    (frame : Frame)
    (remoteAddr : PortAddress)
    (now : UInt64) :
    (dispatchAck spm frame remoteAddr now).descriptorList =
      spm.descriptorList := by
  unfold dispatchAck
  dsimp only
  split
  case isTrue => rfl
  case isFalse => split <;> rfl

theorem dispatchAppFrame_lists
    {spm next : ServerPortManager}
    {descriptor : Nat}
    {frame : Frame}
    {remoteAddr : PortAddress}
    {now : UInt64}
    {created allocated ackBuilt : Bool}
    {effects : List ServerEffect}
    (dispatched : dispatchAppFrame spm descriptor frame remoteAddr now
      created allocated ackBuilt = some (next, effects)) :
    ChangesLists spm next descriptor .keep := by
  have stored : ∀ {desc state delivery},
      spm.descriptorList[descriptor]? = some desc ->
      reassemble (desc.channelStates frame.channel) frame now created
        allocated = some (state, delivery) ->
      ∀ after : ServerPortManager,
        after.descriptorList = spm.descriptorList.modify descriptor
          (·.modifyChannel frame.channel fun _ => state) ->
        ChangesLists spm after descriptor .keep := by
    intro desc state delivery read reassembled after written
    refine .of_modify written read ?_
    rw [connectionsOf_modifyChannel_update,
      reassemble_connections reassembled, RosterOp.apply]
    exact Function.update_eq_self frame.channel desc.connectionsOf
  cases dispatchAppFrame_cases dispatched with
  | unregistered missing outcome =>
      cases outcome
      exact .of_descriptorList rfl descriptor
  | whole desc read outcome =>
      obtain ⟨-, -, descriptors, -⟩ := deliver_effect spm descriptor desc
        frame remoteAddr
        { data := frame.body
          dataLength := frame.body.length
          ackRequired := ackRequested frame } ackBuilt
      rw [outcome] at descriptors
      exact .of_descriptorList descriptors descriptor
  | stored desc state read reassembled outcome =>
      cases outcome
      exact stored read reassembled _ rfl
  | completed desc state delivery read reassembled outcome =>
      obtain ⟨-, -, descriptors, -⟩ := deliver_effect _ descriptor desc
        frame remoteAddr delivery ackBuilt
      rw [outcome] at descriptors
      exact stored read reassembled next descriptors

theorem routeFrame_lists
    {spm next : ServerPortManager}
    {descriptor : Nat}
    {frame : Frame}
    {remoteAddr : PortAddress}
    {now : UInt64}
    {effects : List ServerEffect}
    (routed : routeFrame spm descriptor frame remoteAddr { now := now } =
      some (next, effects)) :
    (frame.channel = 0 ∧ frame.frameType = FrameType.connection.code ∧
        Joined spm next descriptor remoteAddr) ∨
      Rearranges spm next descriptor
        (frameOp spm descriptor frame remoteAddr) := by
  have same : IndexRelated (fun _ => SameIdentity) spm.connections
      spm.connections := IndexRelated.refl (fun _ => SameIdentity.refl) _
  unfold routeFrame at routed
  by_cases connection : frame.channel = 0 ∧
      frame.frameType = FrameType.connection.code
  · rw [if_pos connection, Option.some_inj] at routed
    have outcome := dispatchConnection_lists spm descriptor remoteAddr now {}
    rw [routed] at outcome
    rcases outcome with joined | kept
    · exact Or.inl ⟨connection.1, connection.2, joined⟩
    · refine Or.inr ?_
      rw [frameOp_eq_keep] <;>
        first | exact kept | simp [connection.2, FrameType.code]
  rw [if_neg connection] at routed
  refine Or.inr ?_
  by_cases heartbeat : frame.channel = 1 ∧
      frame.frameType = FrameType.heartbeat.code
  · rw [if_pos heartbeat] at routed
    cases routed
    rw [frameOp_eq_keep]
    · exact ⟨krsServerHandleHeartbeatFrame_lists _ _ _ _,
        (krsServerHandleHeartbeatFrame_calm _ _ _ _).heap⟩
    all_goals simp [heartbeat.1]
  rw [if_neg heartbeat] at routed
  by_cases disconnect : frame.channel = 0 ∧
      frame.frameType = FrameType.disconnect.code
  · rw [if_pos disconnect, Option.some_inj] at routed
    rw [frameOp, if_pos disconnect]
    have rearranges := dispatchDisconnect_rearranges spm descriptor
      remoteAddr
    rw [routed] at rearranges
    exact rearranges
  rw [if_neg disconnect] at routed
  by_cases subscribe : frame.channel = 0 ∧
      frame.frameType = FrameType.subscribe.code
  · rw [if_pos subscribe, Option.some_inj] at routed
    rw [frameOp, if_neg disconnect, if_pos subscribe]
    have heap := (dispatchSubscribe_calm spm descriptor frame remoteAddr true
      true true).heap
    have lists := dispatchSubscribe_lists spm descriptor frame remoteAddr
      true true true
    rw [routed] at heap lists
    rcases lists with enrolled | ⟨-, failed⟩
    · exact ⟨enrolled, heap⟩
    · cases failed
  rw [if_neg subscribe] at routed
  by_cases unsubscribe : frame.channel = 0 ∧
      frame.frameType = FrameType.unsubscribe.code
  · rw [if_pos unsubscribe, Option.some_inj] at routed
    rw [frameOp, if_neg disconnect, if_neg subscribe, if_pos unsubscribe]
    have heap := (dispatchUnsubscribe_calm spm descriptor frame
      remoteAddr true).heap
    have lists := dispatchUnsubscribe_lists spm descriptor frame remoteAddr
      true
    rw [routed] at heap lists
    exact ⟨lists, heap⟩
  rw [if_neg unsubscribe] at routed
  rw [frameOp_eq_keep spm descriptor remoteAddr disconnect subscribe
    unsubscribe]
  by_cases acknowledgement : frame.frameType = FrameType.messageAck.code
  · rw [if_pos acknowledgement] at routed
    cases routed
    exact ⟨.of_descriptorList (dispatchAck_descriptorList _ _ _ _) _,
      (dispatchAck_calm _ _ _ _).heap⟩
  rw [if_neg acknowledgement] at routed
  by_cases other : frame.frameType ≠ FrameType.basicMessage.code
  · rw [if_pos other] at routed
    cases routed
    exact ⟨.of_descriptorList rfl _, same⟩
  rw [if_neg other] at routed
  by_cases application : frame.channel ≥ 10
  · rw [if_pos application] at routed
    exact ⟨dispatchAppFrame_lists routed,
      (dispatchAppFrame_calm routed).heap⟩
  · rw [if_neg application] at routed
    cases routed
    exact ⟨.of_descriptorList rfl _, same⟩

/-! ## Who is in a list after an event -/

/-- The member of a port with the given address. -/
theorem memberAt_eq_some_iff
    {spm : ServerPortManager}
    (invariant : RosterInvariant spm)
    (descriptor : Nat)
    (address : PortAddress)
    (ref : ConnectionRef) :
    memberAt spm descriptor address = some ref ↔
      ref ∈ listed spm descriptor 0 ∧ spm.addressOf ref = some address := by
  constructor
  · intro found
    obtain ⟨member, owned⟩ := memberAt_eq_some found
    exact ⟨member, (hasAddress_iff spm address ref).mp owned⟩
  · rintro ⟨member, stored⟩
    have owned := (hasAddress_iff spm address ref).mpr stored
    cases found : memberAt spm descriptor address with
    | none => exact absurd owned (List.find?_eq_none.mp found ref member)
    | some other =>
        obtain ⟨otherMember, otherOwned⟩ := memberAt_eq_some found
        have otherStored := (hasAddress_iff spm address other).mp otherOwned
        rw [(invariant.inOrder descriptor).eq_of_name otherMember member
          (otherStored.trans stored.symm)]

theorem mem_subscribeOp
    (spm : ServerPortManager)
    (descriptor : Nat)
    (frame : Frame)
    (remoteAddr : PortAddress)
    (lists : Channel -> List ConnectionRef)
    (channel : Channel)
    (ref : ConnectionRef) :
    ref ∈ (subscribeOp spm descriptor frame remoteAddr).apply 0 lists
        channel ↔
      ref ∈ lists channel ∨ targetChannel frame = some channel ∧
        memberAt spm descriptor remoteAddr = some ref := by
  unfold subscribeOp
  cases targetChannel frame with
  | none => simp [RosterOp.apply]
  | some target =>
      cases memberAt spm descriptor remoteAddr with
      | none => simp [RosterOp.apply]
      | some connection =>
          rw [RosterOp.mem_apply_enroll]
          simp [eq_comm]

theorem mem_unsubscribeOp
    (spm : ServerPortManager)
    (descriptor : Nat)
    (frame : Frame)
    (remoteAddr : PortAddress)
    {lists : Channel -> List ConnectionRef}
    (once : ∀ channel, (lists channel).Nodup)
    (channel : Channel)
    (ref : ConnectionRef) :
    ref ∈ (unsubscribeOp spm descriptor frame remoteAddr).apply 0 lists
        channel ↔
      ref ∈ lists channel ∧ ¬ (targetChannel frame = some channel ∧
        memberAt spm descriptor remoteAddr = some ref) := by
  unfold unsubscribeOp
  cases targetChannel frame with
  | none => simp [RosterOp.apply]
  | some target =>
      cases memberAt spm descriptor remoteAddr with
      | none => simp [RosterOp.apply]
      | some connection =>
          rw [RosterOp.mem_apply_withdraw _ _ _ _ _ _ (once target)]
          simp [eq_comm]

/-- The connection is on the list of the channel, under this address. -/
def ListedAs
    (spm : ServerPortManager)
    (descriptor : Nat)
    (channel : Channel)
    (ref : ConnectionRef)
    (address : PortAddress) : Prop :=
  ref ∈ listed spm descriptor channel ∧ spm.addressOf ref = some address

theorem Rearranges.addressOf
    {before after : ServerPortManager}
    {descriptor : Nat}
    {op : RosterOp Channel ConnectionRef}
    (rearranges : Rearranges before after descriptor op) :
    after.addressOf = before.addressOf := by
  funext ref
  rw [addressOf_eq, addressOf_eq, identityOf_of_related rearranges.2]

/-- Somebody who joins is new on channel 0 and changes nothing else. -/
theorem Joined.listedAs_iff
    {before after : ServerPortManager}
    (invariant : RosterInvariant before)
    {own : Nat}
    {remoteAddr : PortAddress}
    (joined : Joined before after own remoteAddr)
    (descriptor : Nat)
    (channel : Channel)
    (ref : ConnectionRef)
    (address : PortAddress) :
    ListedAs after descriptor channel ref address ↔
      ListedAs before descriptor channel ref address ∨
        own = descriptor ∧ channel = 0 ∧ ref = before.connections.length ∧
          remoteAddr = address := by
  obtain ⟨newAddress, kept⟩ := joined.addressOf
  have old : ref ∈ listed before descriptor channel ->
      after.addressOf ref = before.addressOf ref := fun member =>
    kept ref (invariant.allocated descriptor ref
      ((invariant.inOrder descriptor).mem_base member))
  unfold ListedAs
  rw [joined.lists descriptor]
  by_cases same : descriptor = own
  · subst same
    rw [if_pos rfl, RosterOp.mem_apply_join]
    constructor
    · rintro ⟨member | ⟨rfl, rfl⟩, stored⟩
      · rw [old member] at stored
        exact Or.inl ⟨member, stored⟩
      · rw [newAddress, Option.some_inj] at stored
        exact Or.inr ⟨rfl, rfl, rfl, stored⟩
    · rintro (⟨member, stored⟩ | ⟨-, rfl, rfl, rfl⟩)
      · rw [old member]
        exact ⟨Or.inl member, stored⟩
      · exact ⟨Or.inr ⟨rfl, rfl⟩, newAddress⟩
  · rw [if_neg same]
    constructor
    · rintro ⟨member, stored⟩
      rw [old member] at stored
      exact Or.inl ⟨member, stored⟩
    · rintro (⟨member, stored⟩ | ⟨rfl, -⟩)
      · rw [old member]
        exact ⟨member, stored⟩
      · exact absurd rfl same

section

variable
  {before after : ServerPortManager}
  {event : HandlerEvent}
  {effects : List ServerEffect}

/-- Leaving by a `DISCONNECT` is having its address. -/
theorem listedAs_leave_iff
    (spm : ServerPortManager)
    (descriptor : Nat)
    (channel : Channel)
    (ref : ConnectionRef)
    (address remoteAddr : PortAddress) :
    ref ∈ (RosterOp.leave (spm.hasAddress remoteAddr)).apply 0
          (listed spm descriptor) channel ∧
        spm.addressOf ref = some address ↔
      ListedAs spm descriptor channel ref address ∧
        ¬ remoteAddr = address := by
  rw [RosterOp.mem_apply_leave, ListedAs]
  constructor
  · rintro ⟨⟨member, foreign⟩, stored⟩
    refine ⟨⟨member, stored⟩, ?_⟩
    rintro rfl
    rw [(hasAddress_iff spm remoteAddr ref).mpr stored] at foreign
    cases foreign
  · rintro ⟨⟨member, stored⟩, different⟩
    refine ⟨⟨member, ?_⟩, stored⟩
    refine Bool.eq_false_of_not_eq_true fun owned => different ?_
    rw [(hasAddress_iff spm remoteAddr ref).mp owned,
      Option.some_inj] at stored
    exact stored

/-- What the frames that create no connection do to a list. -/
theorem listedAs_of_rearranges
    (invariant : RosterInvariant before)
    {own : Nat}
    {frame : Frame}
    {remoteAddr : PortAddress}
    (now : UInt64)
    (rearranges : Rearranges before after own
      (frameOp before own frame remoteAddr))
    (descriptor : Nat)
    (channel : Channel)
    (ref : ConnectionRef)
    (address : PortAddress) :
    ListedAs after descriptor channel ref address ↔
      (ControlFrame .subscribe descriptor address
            (.frame own frame remoteAddr now) ∧
          targetChannel frame = some channel ∧
          ListedAs before descriptor 0 ref address) ∨
        ListedAs before descriptor channel ref address ∧
          ¬ ((ControlFrame .unsubscribe descriptor address
                (.frame own frame remoteAddr now) ∧
              targetChannel frame = some channel) ∨
            ControlFrame .disconnect descriptor address
              (.frame own frame remoteAddr now)) := by
  have listedAfter : ListedAs after descriptor channel ref address ↔
      ref ∈ (if descriptor = own then
          (frameOp before own frame remoteAddr).apply 0
            (listed before descriptor)
        else listed before descriptor) channel ∧
        before.addressOf ref = some address := by
    rw [ListedAs, rearranges.addressOf, rearranges.1 descriptor]
  rw [listedAfter]
  unfold ControlFrame
  by_cases same : descriptor = own
  · subst same
    rw [if_pos rfl, frameOp]
    split_ifs with disconnect subscribe unsubscribe
    · rw [listedAs_leave_iff]
      simp [disconnect.1, disconnect.2, FrameType.code]
    · rw [mem_subscribeOp, memberAt_eq_some_iff invariant]
      simp only [subscribe.1, subscribe.2, true_and, ListedAs,
        and_true, FrameType.code]
      constructor
      · rintro ⟨member | ⟨named, base, stored⟩, known⟩
        · exact Or.inr ⟨⟨member, known⟩, by simp⟩
        · rw [stored, Option.some_inj] at known
          exact Or.inl ⟨known, named, base, known ▸ stored⟩
      · rintro (⟨rfl, named, base, stored⟩ | ⟨⟨member, known⟩, -⟩)
        · exact ⟨Or.inr ⟨named, base, stored⟩, stored⟩
        · exact ⟨Or.inl member, known⟩
    · rw [mem_unsubscribeOp _ _ _ _ (invariant.inOrder descriptor).once,
        memberAt_eq_some_iff invariant]
      simp only [unsubscribe.1, unsubscribe.2, true_and, ListedAs,
        and_true, FrameType.code]
      constructor
      · rintro ⟨⟨member, stays⟩, known⟩
        refine Or.inr ⟨⟨member, known⟩, ?_⟩
        rintro (⟨rfl, named⟩ | ⟨-, impossible⟩)
        · exact stays ⟨named,
            (invariant.inOrder descriptor).mem_base member, known⟩
        · exact absurd impossible (by decide)
      · rintro (⟨⟨-, impossible⟩, -⟩ | ⟨⟨member, known⟩, stays⟩)
        · exact absurd impossible (by decide)
        · refine ⟨⟨member, ?_⟩, known⟩
          rintro ⟨named, -, stored⟩
          rw [stored, Option.some_inj] at known
          exact stays (Or.inl ⟨known, named⟩)
    · have notDisconnect : ¬ (remoteAddr = address ∧ frame.channel = 0 ∧
          frame.frameType = FrameType.disconnect.code) :=
        fun control => disconnect control.2
      have notSubscribe : ¬ (remoteAddr = address ∧ frame.channel = 0 ∧
          frame.frameType = FrameType.subscribe.code) :=
        fun control => subscribe control.2
      have notUnsubscribe : ¬ (remoteAddr = address ∧ frame.channel = 0 ∧
          frame.frameType = FrameType.unsubscribe.code) :=
        fun control => unsubscribe control.2
      simp [notDisconnect, notSubscribe, notUnsubscribe, RosterOp.apply,
        ListedAs]
  · rw [if_neg same]
    simp [Ne.symm same, ListedAs]

/-- What an eviction tick does to a list. -/
theorem listedAs_of_evict
    (before : ServerPortManager)
    (own : Nat)
    (now : UInt64)
    (descriptor : Nat)
    (channel : Channel)
    (ref : ConnectionRef)
    (address : PortAddress) :
    ListedAs (evictDescriptor before now own).1 descriptor channel ref
        address ↔
      ListedAs before descriptor channel ref address ∧
        ¬ (own = descriptor ∧ isStale before now ref = true) := by
  have rearranges := evictDescriptor_rearranges before now own
  rw [ListedAs, rearranges.addressOf, rearranges.1 descriptor, ListedAs]
  by_cases same : descriptor = own
  · subst same
    rw [if_pos rfl, RosterOp.mem_apply_leave]
    simp only [true_and, Bool.not_eq_true]
    tauto
  · rw [if_neg same]
    simp [Ne.symm same]

/-- Who is on channel 0 after an event. -/
theorem listedAs_zero_iff
    (invariant : RosterInvariant before)
    (effect : handlerEffect before event = some (after, effects))
    (descriptor : Nat)
    (ref : ConnectionRef)
    (address : PortAddress) :
    let entry : HandlerEntry :=
      { before := before, event := event, effects := effects, after := after }
    ListedAs after descriptor 0 ref address ↔
      Creates descriptor ref address entry ∨
        ListedAs before descriptor 0 ref address ∧
          ¬ Removes descriptor ref address entry := by
  dsimp only
  unfold Creates Removes Evicts
  dsimp only
  cases event with
  | evict own now =>
      have evicted := listedAs_of_evict before own now descriptor 0 ref
        address
      rw [Option.some.inj effect] at evicted
      rw [evicted]
      simp [ControlFrame]
  | frame own frame remoteAddr now =>
      rcases routeFrame_lists effect with
        ⟨onControl, isConnection, joined⟩ | rearranges
      · obtain ⟨conn, -, heap⟩ := joined.heap
        rw [joined.listedAs_iff invariant, heap]
        simp only [ControlFrame, onControl, isConnection, true_and,
          List.length_append, List.length_singleton, or_false, and_true,
          FrameType.code]
        constructor
        · rintro (old | ⟨rfl, rfl, rfl⟩)
          · exact Or.inr ⟨old, by simp⟩
          · exact Or.inl ⟨⟨rfl, rfl⟩, rfl, rfl⟩
        · rintro (⟨⟨rfl, rfl⟩, rfl, -⟩ | ⟨old, -⟩)
          · exact Or.inr ⟨rfl, rfl, rfl⟩
          · exact Or.inl old
      · have sameLength := rearranges.2.1
        rw [listedAs_of_rearranges invariant now rearranges, sameLength]
        have notZero : targetChannel frame ≠ some 0 :=
          fun named => targetChannel_ne_zero named rfl
        have notGrown : ¬ (before.connections.length = ref ∧
            before.connections.length = ref + 1) := by omega
        simp [notZero, notGrown]

/-- Who is on an application channel after an event. -/
theorem listedAs_application_iff
    (invariant : RosterInvariant before)
    (effect : handlerEffect before event = some (after, effects))
    (descriptor : Nat)
    {channel : Channel}
    (application : IsApplication channel)
    (ref : ConnectionRef)
    (address : PortAddress) :
    let entry : HandlerEntry :=
      { before := before, event := event, effects := effects, after := after }
    ListedAs after descriptor channel ref address ↔
      (ControlFrame .subscribe descriptor address event ∧
          event.target = some channel ∧
          ListedAs before descriptor 0 ref address) ∨
        ListedAs before descriptor channel ref address ∧
          ¬ ((ControlFrame .unsubscribe descriptor address event ∧
              event.target = some channel) ∨
            Removes descriptor ref address entry) := by
  dsimp only
  unfold Removes Evicts
  dsimp only
  cases event with
  | evict own now =>
      have evicted := listedAs_of_evict before own now descriptor channel
        ref address
      rw [Option.some.inj effect] at evicted
      rw [evicted]
      simp [ControlFrame]
  | frame own frame remoteAddr now =>
      rcases routeFrame_lists effect with
        ⟨onControl, isConnection, joined⟩ | rearranges
      · have notZero : channel ≠ 0 := by
          rintro rfl
          exact zero_not_application application
        rw [joined.listedAs_iff invariant]
        simp [ControlFrame, isConnection, notZero, FrameType.code]
      · rw [listedAs_of_rearranges invariant now rearranges]
        simp [HandlerEvent.target]

end

/-! ## Callbacks -/

/-- Only application frames lead to a message callback. -/
theorem message_of_routed
    {spm : ServerPortManager}
    {descriptor : Nat}
    {frame : Frame}
    {remoteAddr : PortAddress}
    {input : HandlerInput}
    {result : ServerPortManager × List ServerEffect}
    (routed : Routed spm descriptor frame remoteAddr input result)
    {callback : Callback}
    {channel : Channel}
    {connectionId : UInt32}
    {data : List UInt8}
    {dataLength : Nat}
    (handed : .message callback channel connectionId data dataLength ∈
      result.2) :
    10 ≤ frame.channel ∧
      frame.frameType = FrameType.basicMessage.code ∧
      dispatchAppFrame spm descriptor frame remoteAddr input.now
        input.created input.allocated input.ackBuilt = some result := by
  have silent : ∀ effects, NoMessage effects ->
      .message callback channel connectionId data dataLength ∉ effects := by
    intro effects none member
    cases none _ member
  cases routed with
  | connection =>
      exact absurd handed
        (silent _ (dispatchConnection_noMessage _ _ _ _ _))
  | heartbeat => cases handed
  | disconnect =>
      exact absurd handed (silent _ (dispatchDisconnect_noMessage _ _ _))
  | subscribe =>
      exact absurd handed
        (silent _ (dispatchSubscribe_noMessage _ _ _ _ _ _ _))
  | unsubscribe =>
      exact absurd handed (silent _ (dispatchUnsubscribe_noMessage _ _ _ _ _))
  | acknowledgement => cases handed
  | ignored => cases handed
  | application large typed dispatched => exact ⟨large, typed, dispatched⟩

/-- Every message callback of the entry is for an application channel, caused
by a frame on that channel from the address of a connection with the reported
id, which is subscribed according to the history before. -/
def CallbacksDue
    (earlier : List HandlerEntry)
    (entry : HandlerEntry) : Prop :=
  ∀ callback channel connectionId data dataLength,
    .message callback channel connectionId data dataLength ∈
        entry.effects ->
      10 ≤ channel ∧
        ∃ descriptor frame remoteAddr now ref,
          entry.event = .frame descriptor frame remoteAddr now ∧
            frame.channel = channel ∧
            identityOf entry.before ref = some (connectionId, remoteAddr) ∧
            SubscribedSince descriptor ref remoteAddr channel earlier

theorem identityOf_eq
    {spm : ServerPortManager}
    {ref : ConnectionRef}
    {address : PortAddress}
    (stored : spm.addressOf ref = some address) :
    identityOf spm ref = some (spm.connectionIdOf ref, address) := by
  unfold ServerPortManager.addressOf at stored
  obtain ⟨conn, read, same⟩ := Option.map_eq_some_iff.mp stored
  rw [identityOf, ServerPortManager.connectionIdOf, read, Option.map_some,
    same]

/-! ## Whole runs -/

/-- Lists and history agree. -/
structure HistoryInvariant (current : HandlerRun) : Prop where
  roster : RosterInvariant current.spm
  connected : ∀ descriptor ref address,
    ListedAs current.spm descriptor 0 ref address ↔
      ConnectedSince descriptor ref address current.history
  subscribed : ∀ descriptor channel ref address, IsApplication channel ->
    (ListedAs current.spm descriptor channel ref address ↔
      SubscribedSince descriptor ref address channel current.history)
  callbacks : Justified CallbacksDue current.history

theorem RosterInvariant.rearranges
    {before after : ServerPortManager}
    {descriptor : Nat}
    {op : RosterOp Channel ConnectionRef}
    (invariant : RosterInvariant before)
    (rearranges : Rearranges before after descriptor op)
    (admissible : op.Admissible 0 IsApplication before.addressOf
      (listed before descriptor))
    (nobody : ∀ member, op ≠ .join member) :
    RosterInvariant after :=
  invariant.change_of_related rearranges.1 rearranges.2 admissible nobody

theorem RosterInvariant.handlerEffect
    {before after : ServerPortManager}
    {event : HandlerEvent}
    {effects : List ServerEffect}
    (invariant : RosterInvariant before)
    (effect : handlerEffect before event = some (after, effects)) :
    RosterInvariant after := by
  cases event with
  | evict own now =>
      have rearranges := evictDescriptor_rearranges before now own
      rw [Option.some.inj effect] at rearranges
      exact invariant.rearranges rearranges trivial nofun
  | frame own frame remoteAddr now =>
      rcases routeFrame_lists effect with ⟨-, -, joined⟩ | rearranges
      · exact invariant.joined joined
      · refine invariant.rearranges rearranges ?_ ?_
        · unfold frameOp
          split_ifs
          · trivial
          · exact subscribeOp_admissible _ _ _ _
          · exact unsubscribeOp_admissible _ _ _ _
          · trivial
        · intro member
          have neither := subscribeOp_ne_join before own frame remoteAddr
            member
          unfold frameOp
          split_ifs
          · exact nofun
          · exact neither.1
          · exact neither.2
          · exact nofun

theorem HistoryInvariant.callbacksDue
    {current : HandlerRun}
    (invariant : HistoryInvariant current)
    {event : HandlerEvent}
    {after : ServerPortManager}
    {effects : List ServerEffect}
    (effect : handlerEffect current.spm event = some (after, effects)) :
    CallbacksDue current.history
      { before := current.spm
        event := event
        effects := effects
        after := after } := by
  intro callback channel connectionId data dataLength handed
  cases event with
  | evict own now =>
      have silent : NoMessage effects := by
        have sent : _ = effects := congrArg Prod.snd (Option.some.inj effect)
        rw [← sent, evictDescriptor_eq]
        exact krsServerFinalizeOrphanEvictions_noMessage _ _ _
      cases silent _ handed
  | frame own frame remoteAddr now =>
      obtain ⟨large, -, dispatched⟩ := message_of_routed
        (routeFrame_routed effect) handed
      obtain ⟨rfl, desc, read, ref, member, stored, rfl⟩ :=
        message_of_dispatchAppFrame dispatched handed
      refine ⟨large, own, frame, remoteAddr, now, ref, rfl, rfl,
        identityOf_eq stored, ?_⟩
      refine (invariant.subscribed own frame.channel ref remoteAddr
        large).mp ⟨?_, stored⟩
      rw [listed_of_read read]
      exact member

theorem HistoryInvariant.step
    {current next : HandlerRun}
    (invariant : HistoryInvariant current)
    {event : HandlerEvent}
    (taken : handlerStep current event = some next) :
    HistoryInvariant next := by
  obtain ⟨⟨after, effects⟩, effect, rfl⟩ := Option.map_eq_some_iff.mp taken
  refine ⟨invariant.roster.handlerEffect effect, ?_, ?_,
    invariant.callbacks.concat (invariant.callbacksDue effect)⟩
  · intro descriptor ref address
    rw [ConnectedSince, since_concat, ← ConnectedSince,
      ← invariant.connected descriptor ref address]
    exact listedAs_zero_iff invariant.roster effect descriptor ref address
  · intro descriptor channel ref address application
    rw [SubscribedSince, since_concat, ← SubscribedSince,
      ← invariant.subscribed descriptor channel ref address application,
      ← invariant.connected descriptor ref address]
    exact listedAs_application_iff invariant.roster effect descriptor
      application ref address

/-- The beginning of a run with a history. -/
def handlerStart (descriptorList : List UDPSocketDescriptor) : HandlerRun :=
  { spm := serverStart descriptorList, history := [] }

theorem HistoryInvariant.start
    {descriptorList : List UDPSocketDescriptor}
    (fresh : ∀ desc ∈ descriptorList, ∀ channel,
      desc.connectionsOf channel = []) :
    HistoryInvariant (handlerStart descriptorList) := by
  have unallocated : ∀ ref address,
      (serverStart descriptorList).addressOf ref ≠ some address := by
    intro ref address stored
    cases stored
  refine ⟨RosterInvariant.start fresh, ?_, ?_, justified_nil _⟩
  · intro descriptor ref address
    exact ⟨fun listedAs => absurd listedAs.2 (unallocated ref address),
      fun since => absurd since (not_since_nil _ _)⟩
  · intro descriptor channel ref address _
    exact ⟨fun listedAs => absurd listedAs.2 (unallocated ref address),
      fun since => absurd since (not_since_nil _ _)⟩

/-- In every run of frames and eviction ticks, the application is called back
only for connections that are subscribed according to the history, for a frame
from their own address; and the lists of the application channels hold exactly
these connections.  A run ends where a fragment would leave the arrays of its
reassembler. -/
theorem callbacks_and_lists_follow_subscriptions
    {descriptorList : List UDPSocketDescriptor}
    (fresh : ∀ desc ∈ descriptorList, ∀ channel,
      desc.connectionsOf channel = [])
    {events : List HandlerEvent}
    {final : HandlerRun}
    (reached : run handlerStep (handlerStart descriptorList) events =
      some final) :
    (∀ earlier entry later, final.history = earlier ++ entry :: later ->
      CallbacksDue earlier entry) ∧
    ∀ descriptor channel ref, 10 ≤ channel ->
      (ref ∈ listed final.spm descriptor channel ↔
        ∃ address, final.spm.addressOf ref = some address ∧
          SubscribedSince descriptor ref address channel
            final.history) := by
  have invariant : HistoryInvariant final :=
    run_invariant (fun _ _ _ here => here.step)
      (HistoryInvariant.start fresh) reached
  refine ⟨invariant.callbacks, ?_⟩
  intro descriptor channel ref large
  constructor
  · intro member
    have inside := invariant.roster.allocated descriptor ref
      ((invariant.roster.inOrder descriptor).mem_base member)
    have stored : final.spm.addressOf ref =
        some final.spm.connections[ref].remoteAddress := by
      rw [ServerPortManager.addressOf, List.getElem?_eq_getElem inside]
      rfl
    exact ⟨_, stored, (invariant.subscribed descriptor channel ref _
      large).mp ⟨member, stored⟩⟩
  · rintro ⟨address, -, since⟩
    exact ((invariant.subscribed descriptor channel ref address large).mpr
      since).1

/-- A client connects, subscribes to channel 10 and sends a message on it. -/
def subscriberEvents : List HandlerEvent :=
  let received : FrameBuilder -> HandlerEvent := fun builder =>
    .frame 0 (krsFrameCreate (serializeToBuffer builder 64) 64)
      (clientAddress 4000) 0
  [received (krsFrameBuilderCreate 0 .connection),
    received ((krsFrameBuilderCreate 0 .subscribe).setData (some [10]) 1),
    received ((krsFrameBuilderCreate 10 .basicMessage).setData (some [7]) 1)]

theorem subscriber_is_called_back :
    ∃ final,
      run handlerStep (handlerStart [listeningPort]) subscriberEvents =
          some final ∧
        final.history.map (fun entry =>
          entry.effects.countP ServerEffect.isMessage) = [0, 0, 1] ∧
        (∀ earlier entry later,
          final.history = earlier ++ entry :: later ->
            CallbacksDue earlier entry) ∧
        ∃ address, SubscribedSince 0 0 address 10 final.history := by
  have ran : (run handlerStep (handlerStart [listeningPort])
      subscriberEvents).map (fun final =>
        (final.history.map (fun entry =>
          entry.effects.countP ServerEffect.isMessage),
          listed final.spm 0 10)) = some ([0, 0, 1], [0]) := by
    decide +kernel
  obtain ⟨final, reached, facts⟩ := Option.map_eq_some_iff.mp ran
  obtain ⟨counts, members⟩ := Prod.mk.inj facts
  obtain ⟨callbacks, lists⟩ := callbacks_and_lists_follow_subscriptions (by
    intro desc member channel
    rw [List.mem_singleton.mp member]
    rfl) reached
  have member : 0 ∈ listed final.spm 0 10 := by
    rw [members]
    exact List.mem_singleton.mpr rfl
  obtain ⟨address, -, since⟩ := (lists 0 10 0 (by decide)).mp member
  exact ⟨final, reached, counts, callbacks, address, since⟩

end Kronos
