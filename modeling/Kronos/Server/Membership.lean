import Kronos.Server.Channels
import Kronos.Server.SendSpec

/-!
# What an event does to the members of the channels

Most events are calm: channel 0 keeps its connections, the other channels only
gain connections of channel 0, connections keep their identity, and no connect
or disconnect callback is called.  The two exceptions are an accepted
`CONNECTION` frame and the removal of connections, which have descriptions of
their own.
-/

namespace Kronos

open Library

/-! ## Calm events -/

/-- The callbacks of a descriptor stay registered. -/
structure SameCallbacks (old new : UDPSocketDescriptor) : Prop where
  connect : new.connectCallback = old.connectCallback
  disconnect : new.disconnectCallback = old.disconnectCallback
  failure : new.deliveryFailureCallback = old.deliveryFailureCallback

theorem SameCallbacks.refl (desc : UDPSocketDescriptor) :
    SameCallbacks desc desc := ⟨rfl, rfl, rfl⟩

theorem SameCallbacks.trans
    {first second third : UDPSocketDescriptor}
    (earlier : SameCallbacks first second)
    (later : SameCallbacks second third) :
    SameCallbacks first third where
  connect := later.connect.trans earlier.connect
  disconnect := later.disconnect.trans earlier.disconnect
  failure := later.failure.trans earlier.failure

/-- What a calm event does to a descriptor. -/
structure CalmDescriptor (old new : UDPSocketDescriptor) : Prop
    extends SameCallbacks old new where
  members : new.connectionsOf 0 = old.connectionsOf 0
  subscribers : ∀ channel, ∀ ref ∈ new.connectionsOf channel,
    ref ∈ old.connectionsOf channel ∨ ref ∈ old.connectionsOf 0

theorem CalmDescriptor.refl (desc : UDPSocketDescriptor) :
    CalmDescriptor desc desc :=
  ⟨SameCallbacks.refl desc, rfl, fun _ _ member => Or.inl member⟩

theorem CalmDescriptor.trans
    {first second third : UDPSocketDescriptor}
    (earlier : CalmDescriptor first second)
    (later : CalmDescriptor second third) :
    CalmDescriptor first third where
  toSameCallbacks := earlier.toSameCallbacks.trans later.toSameCallbacks
  members := later.members.trans earlier.members
  subscribers := by
    intro channel ref member
    rcases later.subscribers channel ref member with own | base
    · exact earlier.subscribers channel ref own
    · rw [earlier.members] at base
      exact Or.inr base

/-- The list of a channel after a channel was written. -/
theorem connectionsOf_modifyChannel
    (desc : UDPSocketDescriptor)
    (channel other : Channel)
    (change : ChannelState -> ChannelState) :
    (desc.modifyChannel channel change).connectionsOf other =
      if other = channel then
        (change (desc.channelStates channel)).connections.getD []
      else desc.connectionsOf other := by
  unfold UDPSocketDescriptor.connectionsOf UDPSocketDescriptor.modifyChannel
  by_cases same : other = channel
  · subst same
    simp
  · simp [same]

/-- Writing a channel without touching its list. -/
theorem CalmDescriptor.of_sameList
    (desc : UDPSocketDescriptor)
    (channel : Channel)
    {change : ChannelState -> ChannelState}
    (sameList : (change (desc.channelStates channel)).connections.getD [] =
      desc.connectionsOf channel) :
    CalmDescriptor desc (desc.modifyChannel channel change) := by
  have lists : ∀ other, (desc.modifyChannel channel change).connectionsOf
      other = desc.connectionsOf other := by
    intro other
    rw [connectionsOf_modifyChannel]
    split
    case isTrue same =>
      subst same
      exact sameList
    case isFalse => rfl
  refine ⟨⟨rfl, rfl, rfl⟩, lists 0, ?_⟩
  intro other ref member
  rw [lists] at member
  exact Or.inl member

/-- Writing the list of a channel other than 0. -/
theorem CalmDescriptor.of_otherChannel
    (desc : UDPSocketDescriptor)
    {channel : Channel}
    (other : channel ≠ 0)
    {change : ChannelState -> ChannelState}
    (subscribers :
      ∀ ref ∈ (change (desc.channelStates channel)).connections.getD [],
        ref ∈ desc.connectionsOf channel ∨ ref ∈ desc.connectionsOf 0) :
    CalmDescriptor desc (desc.modifyChannel channel change) := by
  refine ⟨⟨rfl, rfl, rfl⟩, ?_, ?_⟩
  · rw [connectionsOf_modifyChannel, if_neg (Ne.symm other)]
  · intro current ref member
    rw [connectionsOf_modifyChannel] at member
    split at member
    case isTrue same =>
      subst same
      exact subscribers ref member
    case isFalse => exact Or.inl member

/-- The effect is a connect or disconnect callback. -/
def ServerEffect.isPresence : ServerEffect -> Bool
  | .connected .. => true
  | .disconnected .. => true
  | _ => false

/-- No effect of the list is a connect or disconnect callback. -/
def Unannounced (effects : List ServerEffect) : Prop :=
  ∀ effect ∈ effects, effect.isPresence = false

theorem Unannounced.nil : Unannounced [] := by simp [Unannounced]

theorem Unannounced.append
    {first second : List ServerEffect}
    (firstUnannounced : Unannounced first)
    (secondUnannounced : Unannounced second) :
    Unannounced (first ++ second) := by
  intro effect member
  rcases List.mem_append.mp member with left | right
  · exact firstUnannounced effect left
  · exact secondUnannounced effect right

theorem krsNetSendFrame_unannounced
    (descriptor : Nat)
    (address : PortAddress)
    (frame : List UInt8) :
    Unannounced (krsNetSendFrame descriptor address frame) := by
  unfold krsNetSendFrame
  split
  case isTrue => exact Unannounced.nil
  case isFalse => simp [Unannounced, ServerEffect.isPresence]

theorem sendAckResponse_unannounced
    (descriptor : Nat)
    (remoteAddr : PortAddress)
    (channel : Channel)
    (packetId : UInt64)
    (ackBuilt : Bool) :
    Unannounced (sendAckResponse descriptor remoteAddr channel packetId
      ackBuilt) := by
  unfold sendAckResponse
  split
  case isTrue => exact krsNetSendFrame_unannounced _ _ _
  case isFalse => exact Unannounced.nil

theorem sendSocketAck_unannounced
    (descriptor : Nat)
    (remoteAddr : PortAddress)
    (connectionId : UInt32)
    (built : Bool) :
    Unannounced (sendSocketAck descriptor remoteAddr connectionId built) := by
  unfold sendSocketAck
  split
  case isTrue => exact krsNetSendFrame_unannounced _ _ _
  case isFalse => exact Unannounced.nil

/-- A calm event. -/
structure CalmEvent
    (before after : ServerPortManager)
    (effects : List ServerEffect) : Prop where
  descriptors : IndexRelated (fun _ => CalmDescriptor) before.descriptorList
    after.descriptorList
  map : after.connectionMap = before.connectionMap
  heap : IndexRelated (fun _ => SameIdentity) before.connections
    after.connections
  unannounced : Unannounced effects

theorem SameIdentity.refl (conn : ClientConnection) :
    SameIdentity conn conn := ⟨rfl, rfl⟩

/-- Events that write one descriptor only. -/
theorem CalmEvent.of_descriptor
    {before after : ServerPortManager}
    {effects : List ServerEffect}
    (descriptors : IndexRelated (fun _ => CalmDescriptor)
      before.descriptorList after.descriptorList)
    (map : after.connectionMap = before.connectionMap)
    (heap : after.connections = before.connections)
    (unannounced : Unannounced effects) :
    CalmEvent before after effects where
  descriptors := descriptors
  map := map
  heap := by
    rw [heap]
    exact IndexRelated.refl (fun _ => SameIdentity.refl) _
  unannounced := unannounced

/-- Events that write connections only. -/
theorem CalmEvent.of_heap
    {before after : ServerPortManager}
    {effects : List ServerEffect}
    (descriptors : after.descriptorList = before.descriptorList)
    (map : after.connectionMap = before.connectionMap)
    (heap : IndexRelated (fun _ => SameIdentity) before.connections
      after.connections)
    (unannounced : Unannounced effects) :
    CalmEvent before after effects where
  descriptors := by
    rw [descriptors]
    exact IndexRelated.refl (fun _ => CalmDescriptor.refl) _
  map := map
  heap := heap
  unannounced := unannounced

theorem CalmEvent.refl
    (spm : ServerPortManager)
    {effects : List ServerEffect}
    (unannounced : Unannounced effects) :
    CalmEvent spm spm effects :=
  .of_heap rfl rfl (IndexRelated.refl (fun _ => SameIdentity.refl) _)
    unannounced

theorem CalmEvent.trans
    {first second third : ServerPortManager}
    {earlierEffects laterEffects : List ServerEffect}
    (earlier : CalmEvent first second earlierEffects)
    (later : CalmEvent second third laterEffects) :
    CalmEvent first third (earlierEffects ++ laterEffects) where
  descriptors := IndexRelated.trans (fun _ _ _ _ => CalmDescriptor.trans)
    earlier.descriptors later.descriptors
  map := later.map.trans earlier.map
  heap := IndexRelated.trans (fun _ _ _ _ => SameIdentity.trans) earlier.heap
    later.heap
  unannounced := earlier.unannounced.append later.unannounced

/-- Writing one descriptor calmly. -/
theorem modifyDescriptor_calm
    (spm : ServerPortManager)
    (descriptor : Nat)
    {change : UDPSocketDescriptor -> UDPSocketDescriptor}
    (calm : ∀ desc, spm.descriptorList[descriptor]? = some desc ->
      CalmDescriptor desc (change desc)) :
    IndexRelated (fun _ => CalmDescriptor) spm.descriptorList
      (spm.descriptorList.modify descriptor change) :=
  IndexRelated.modify (fun _ => CalmDescriptor.refl) _ descriptor calm

/-! ## The calm handlers -/

theorem krsServerHandleHeartbeatFrame_calm
    (spm : ServerPortManager)
    (descriptor : Nat)
    (remoteAddr : PortAddress)
    (now : UInt64) :
    CalmEvent spm
      (krsServerHandleHeartbeatFrame spm descriptor remoteAddr now) [] := by
  unfold krsServerHandleHeartbeatFrame
  split
  case h_1 => exact .refl spm Unannounced.nil
  case h_2 desc _ =>
    obtain ⟨heap, map, descriptors⟩ := foldl_heartbeat remoteAddr now
      (allChannels.flatMap desc.connectionsOf) spm
    exact .of_heap descriptors map
      (heap.mono fun _ _ _ same => same.sameDelivery.toSameIdentity)
      Unannounced.nil

theorem acknowledge_identity
    (conn : ClientConnection)
    (packetId : UInt64)
    (channel : Channel)
    (now : UInt64) :
    SameIdentity conn (acknowledge conn packetId channel now) := by
  unfold acknowledge
  split
  case h_1 => exact SameIdentity.refl conn
  case h_2 =>
    simp only
    split <;> exact ⟨rfl, rfl⟩

theorem dispatchAck_calm
    (spm : ServerPortManager)
    (frame : Frame)
    (remoteAddr : PortAddress)
    (now : UInt64) :
    CalmEvent spm (dispatchAck spm frame remoteAddr now) [] := by
  have reflexive : ∀ ref : Nat, ∀ conn, SameIdentity conn conn :=
    fun _ => SameIdentity.refl
  unfold dispatchAck
  simp only
  split
  case isTrue =>
    exact .of_heap rfl rfl (IndexRelated.refl reflexive _) Unannounced.nil
  case isFalse =>
    split
    case h_1 =>
      exact .of_heap rfl rfl (IndexRelated.refl reflexive _) Unannounced.nil
    case h_2 entry _ =>
      exact .of_heap rfl rfl
        (IndexRelated.modify reflexive spm.connections entry.connection
          fun conn _ => acknowledge_identity conn _ _ now) Unannounced.nil

theorem targetChannel_ne_zero
    {frame : Frame}
    {target : Channel}
    (named : targetChannel frame = some target) :
    target ≠ 0 := by
  unfold targetChannel at named
  split at named
  case h_1 => cases named
  case h_2 =>
    split at named
    case isTrue => cases named
    case isFalse application =>
      cases named
      rintro rfl
      exact application (by decide)

theorem ensureConnections_getD
    (created : Bool)
    (state : ChannelState) :
    (ensureConnections created state).connections.getD [] =
      state.connections.getD [] := by
  unfold ensureConnections
  cases stored : state.connections with
  | some conns => simp [stored]
  | none =>
      cases created with
      | false => simp [stored]
      | true => rfl

/-- Committing a subscription adds at most the connection itself. -/
theorem mem_commitSubscription
    {connection ref : ConnectionRef}
    {created pushed : Bool}
    {old new : ChannelState}
    (committed : commitSubscription connection created pushed old = some new)
    (member : ref ∈ new.connections.getD []) :
    ref ∈ old.connections.getD [] ∨ ref = connection := by
  have sameList := ensureConnections_getD created old
  unfold commitSubscription at committed
  generalize (ensureConnections created old).connections = opened at *
  split at committed
  case h_1 => cases committed
  case h_2 conns =>
    split_ifs at committed
    · cases committed
      rw [← sameList]
      exact Or.inl member
    · cases committed
      rw [← sameList]
      rcases List.mem_append.mp member with earlier | last
      · exact Or.inl earlier
      · exact Or.inr (List.mem_singleton.mp last)

theorem findConnOnChannel0Unlocked_mem
    {spm : ServerPortManager}
    {desc : UDPSocketDescriptor}
    {remoteAddr : PortAddress}
    {connection : ConnectionRef}
    (found : findConnOnChannel0Unlocked spm desc remoteAddr =
      some connection) :
    connection ∈ desc.connectionsOf 0 :=
  List.mem_of_find?_eq_some found

theorem dispatchSubscribe_calm
    (spm : ServerPortManager)
    (descriptor : Nat)
    (frame : Frame)
    (remoteAddr : PortAddress)
    (created pushed ackBuilt : Bool) :
    CalmEvent spm
      (dispatchSubscribe spm descriptor frame remoteAddr created pushed
        ackBuilt).1
      (dispatchSubscribe spm descriptor frame remoteAddr created pushed
        ackBuilt).2 := by
  unfold dispatchSubscribe
  split
  case h_2 => exact .refl spm Unannounced.nil
  case h_1 target desc named descRead =>
    split
    case h_1 => exact .refl spm Unannounced.nil
    case h_2 connection found =>
      simp only
      split
      case h_1 =>
        refine .of_descriptor (modifyDescriptor_calm spm descriptor ?_) rfl
          rfl Unannounced.nil
        exact fun desc _ => .of_sameList desc target
          (ensureConnections_getD created _)
      case h_2 state committed =>
        refine .of_descriptor (modifyDescriptor_calm spm descriptor ?_) rfl
          rfl ?_
        · intro current currentRead
          rw [descRead] at currentRead
          cases currentRead
          refine .of_otherChannel desc (targetChannel_ne_zero named) ?_
          intro ref member
          rcases mem_commitSubscription committed member with old | rfl
          · exact Or.inl old
          · exact Or.inr (findConnOnChannel0Unlocked_mem found)
        · split
          case isTrue => exact sendAckResponse_unannounced _ _ _ _ _
          case isFalse => exact Unannounced.nil

theorem dispatchUnsubscribe_calm
    (spm : ServerPortManager)
    (descriptor : Nat)
    (frame : Frame)
    (remoteAddr : PortAddress)
    (ackBuilt : Bool) :
    CalmEvent spm
      (dispatchUnsubscribe spm descriptor frame remoteAddr ackBuilt).1
      (dispatchUnsubscribe spm descriptor frame remoteAddr ackBuilt).2 := by
  unfold dispatchUnsubscribe
  split
  case h_2 => exact .refl spm Unannounced.nil
  case h_1 target desc named descRead =>
    simp only
    have answered : Unannounced
        (if ackRequested frame = true then
          sendAckResponse descriptor remoteAddr 0 frame.packetId ackBuilt
        else []) := by
      split
      case isTrue => exact sendAckResponse_unannounced _ _ _ _ _
      case isFalse => exact Unannounced.nil
    split
    case h_1 => exact .refl spm answered
    case h_2 connection _ =>
      refine .of_descriptor (modifyDescriptor_calm spm descriptor ?_) rfl rfl
        answered
      intro current _
      refine .of_otherChannel current (targetChannel_ne_zero named) ?_
      intro ref member
      left
      unfold UDPSocketDescriptor.connectionsOf
      cases stored : (current.channelStates target).connections with
      | none =>
          rw [stored] at member
          cases member
      | some conns =>
          rw [stored] at member
          exact List.mem_of_mem_erase member

/-! ## Application frames -/

theorem reassemble_connections
    {state next : ChannelState}
    {frame : Frame}
    {now : UInt64}
    {created allocated : Bool}
    {delivery : Option Delivery}
    (reassembled : reassemble state frame now created allocated =
      some (next, delivery)) :
    next.connections = state.connections := by
  unfold reassemble at reassembled
  split at reassembled
  case h_1 =>
    cases reassembled
    rfl
  case h_2 =>
    obtain ⟨fed, -, same⟩ := Option.map_eq_some_iff.mp reassembled
    cases same
    rfl

theorem deliver_unannounced
    (spm : ServerPortManager)
    (descriptor : Nat)
    (desc : UDPSocketDescriptor)
    (frame : Frame)
    (remoteAddr : PortAddress)
    (delivery : Delivery)
    (ackBuilt : Bool) :
    Unannounced
      (deliver spm descriptor desc frame remoteAddr delivery ackBuilt).2 := by
  have message : ∀ callback channel connectionId data dataLength,
      Unannounced [.message callback channel connectionId data
        dataLength] := by
    simp [Unannounced, ServerEffect.isPresence]
  unfold deliver
  simp only
  split
  case h_1 =>
    split
    case isTrue => exact sendAckResponse_unannounced _ _ _ _ _
    case isFalse => exact Unannounced.nil
  case h_2 =>
    refine Unannounced.append ?_ ?_
    · split
      case isTrue => exact sendAckResponse_unannounced _ _ _ _ _
      case isFalse => exact Unannounced.nil
    · split
      case h_1 => exact Unannounced.nil
      case h_2 => exact message _ _ _ _ _

theorem deliver_calm
    (spm : ServerPortManager)
    (descriptor : Nat)
    (desc : UDPSocketDescriptor)
    (frame : Frame)
    (remoteAddr : PortAddress)
    (delivery : Delivery)
    (ackBuilt : Bool) :
    CalmEvent spm
      (deliver spm descriptor desc frame remoteAddr delivery ackBuilt).1
      (deliver spm descriptor desc frame remoteAddr delivery ackBuilt).2 := by
  obtain ⟨heap, map, descriptors, -⟩ := deliver_effect spm descriptor desc
    frame remoteAddr delivery ackBuilt
  refine .of_heap descriptors map ?_ (deliver_unannounced _ _ _ _ _ _ _)
  rw [heap]
  exact IndexRelated.refl (fun _ => SameIdentity.refl) _

theorem dispatchAppFrame_calm
    {spm next : ServerPortManager}
    {descriptor : Nat}
    {frame : Frame}
    {remoteAddr : PortAddress}
    {now : UInt64}
    {created allocated ackBuilt : Bool}
    {effects : List ServerEffect}
    (dispatched : dispatchAppFrame spm descriptor frame remoteAddr now
      created allocated ackBuilt = some (next, effects)) :
    CalmEvent spm next effects := by
  have stored : ∀ {desc state delivery} (stats : ServerStats),
      spm.descriptorList[descriptor]? = some desc ->
      reassemble (desc.channelStates frame.channel) frame now created
        allocated = some (state, delivery) ->
      CalmEvent spm
        (spm.storeFragment descriptor frame.channel state stats) [] := by
    intro desc state delivery stats read reassembled
    refine .of_descriptor (modifyDescriptor_calm spm descriptor ?_) rfl
      rfl Unannounced.nil
    intro current currentRead
    rw [read] at currentRead
    cases currentRead
    refine .of_sameList desc frame.channel ?_
    rw [reassemble_connections reassembled]
    rfl
  cases dispatchAppFrame_cases dispatched with
  | unregistered missing outcome =>
      cases outcome
      exact .refl spm Unannounced.nil
  | whole desc read outcome =>
      have calm := deliver_calm spm descriptor desc frame remoteAddr
        { data := frame.body
          dataLength := frame.body.length
          ackRequired := ackRequested frame } ackBuilt
      rw [outcome] at calm
      exact calm
  | stored desc state read reassembled outcome =>
      cases outcome
      exact stored _ read reassembled
  | completed desc state delivery read reassembled outcome =>
      have calm := (stored
        { spm.stats with
          fragmentsReceived := spm.stats.fragmentsReceived + 1
          fragmentsReassembled := spm.stats.fragmentsReassembled + 1 }
        read reassembled).trans
          (deliver_calm _ descriptor desc frame remoteAddr delivery ackBuilt)
      rw [List.nil_append, outcome] at calm
      exact calm

/-! ## Sends -/

theorem sendOn_identity
    (conn : ClientConnection)
    (channel : Channel)
    (packetId : UInt64)
    (data : List UInt8)
    (length : UInt16)
    (requireAck : Bool)
    (clock : Nat -> UInt64)
    (allocations : SendAllocations) :
    SameIdentity conn (sendOn conn channel packetId data length requireAck
      clock allocations).1 := by
  obtain ⟨_, _, sent⟩ := sendOn_eq conn channel packetId data length
    requireAck clock allocations
  rw [sent]
  exact ⟨rfl, rfl⟩

theorem nextPacketId_connections
    (channel : Channel)
    (created : Bool)
    (state : ChannelState) :
    (nextPacketId channel created state).2.connections =
      state.connections := by
  unfold nextPacketId
  simp only
  split <;> rfl

theorem krsServerSend_calm
    {spm next : ServerPortManager}
    {connectionId : UInt32}
    {channel : Channel}
    {data : List UInt8}
    {length : UInt16}
    {requireAck : Bool}
    {clock : Nat -> UInt64}
    {allocations : SendAllocations}
    {result : KronosResult}
    {effects : List ServerEffect}
    (sent : krsServerSend spm connectionId channel data length requireAck
      clock allocations = some (next, result, effects)) :
    CalmEvent spm next effects := by
  unfold krsServerSend at sent
  simp only at sent
  split at sent
  case h_1 =>
    cases sent
    exact .refl spm Unannounced.nil
  case h_2 entry found =>
    split at sent
    case h_2 => cases sent
    case h_1 target desc targetRead descRead =>
      split at sent
      case isTrue => cases sent
      case isFalse alive =>
        cases sent
        refine ⟨?_, rfl, ?_, ?_⟩
        · refine modifyDescriptor_calm spm entry.descriptor ?_
          intro current currentRead
          rw [descRead] at currentRead
          cases currentRead
          refine .of_sameList desc channel ?_
          rw [nextPacketId_connections]
          rfl
        · refine ⟨List.length_set, ?_⟩
          intro ref old new oldRead newRead
          by_cases own : entry.connection = ref
          · subst own
            rw [targetRead] at oldRead
            cases oldRead
            obtain ⟨inside, -⟩ := List.getElem?_eq_some_iff.mp targetRead
            rw [List.getElem?_set_self inside] at newRead
            cases newRead
            have acquired : SameIdentity target
                { target with refcount := target.refcount + 1 } := ⟨rfl, rfl⟩
            exact (acquired.trans (sendOn_identity _ _ _ _ _ _ _ _)).trans
              (releaseConnection_released _).identity
          · rw [List.getElem?_set_ne own, oldRead] at newRead
            cases newRead
            exact SameIdentity.refl old
        · intro effect member
          obtain ⟨frame, -, inFrame⟩ := List.mem_flatMap.mp member
          exact krsNetSendFrame_unannounced _ _ _ effect inFrame

/-! ## Accepted connections -/

/-- A new connection `conn` was accepted on a port. -/
structure Accepted
    (before after : ServerPortManager)
    (effects : List ServerEffect)
    (descriptor : Nat)
    (desc : UDPSocketDescriptor)
    (conn : ClientConnection) : Prop where
  read : before.descriptorList[descriptor]? = some desc
  unknown : ∀ ref ∈ desc.connectionsOf 0,
    before.hasAddress conn.remoteAddress ref = false
  created : (desc.channelStates 0).connections.isSome = true
  connectionId : conn.connectionId = before.nextConnectionId + 1
  heap : after.connections = before.connections ++ [conn]
  descriptors : after.descriptorList = before.descriptorList.modify descriptor
    (·.modifyChannel 0 (pushConnection before.connections.length))
  map : after.connectionMap = krsConnectionMapPut before.connectionMap
    conn.connectionId
    { descriptor := descriptor, connection := before.connections.length }
    conn.remoteAddress true true
  announced : ∀ effect ∈ effects, effect.isPresence = true ->
    ∃ callback, effect = .connected callback before.connections.length
      conn.connectionId

theorem acceptConnection_cases
    (spm : ServerPortManager)
    (descriptor : Nat)
    (desc : UDPSocketDescriptor)
    (remoteAddr : PortAddress)
    (now : UInt64)
    (allocations : ConnectAllocations)
    (read : spm.descriptorList[descriptor]? = some desc)
    (unknown : ∀ ref ∈ desc.connectionsOf 0,
      spm.hasAddress remoteAddr ref = false) :
    let accepted := acceptConnection spm descriptor desc remoteAddr now
      allocations
    CalmEvent spm accepted.1 accepted.2 ∨
      ∃ conn, Accepted spm accepted.1 accepted.2 descriptor desc conn := by
  unfold acceptConnection
  split
  case isTrue => exact Or.inl (.refl spm Unannounced.nil)
  case isFalse =>
    simp only
    split
    case isTrue =>
      exact Or.inl (.of_heap rfl rfl
        (IndexRelated.refl (fun _ => SameIdentity.refl) _) Unannounced.nil)
    case isFalse ready =>
      refine Or.inr ⟨_, read, unknown, ?_, rfl, rfl, rfl, rfl, ?_⟩
      · simp only [Bool.or_eq_true, not_or, Bool.not_eq_true,
          Option.isNone_eq_false_iff] at ready
        exact ready.1
      · intro effect member presence
        rcases List.mem_append.mp member with answer | callback
        · rw [sendSocketAck_unannounced _ _ _ _ effect answer] at presence
          cases presence
        · split at callback
          case h_1 => cases callback
          case h_2 registered _ =>
            exact ⟨registered, List.mem_singleton.mp callback⟩

theorem dispatchConnection_cases
    (spm : ServerPortManager)
    (descriptor : Nat)
    (remoteAddr : PortAddress)
    (now : UInt64)
    (allocations : ConnectAllocations) :
    let handled := dispatchConnection spm descriptor remoteAddr now
      allocations
    CalmEvent spm handled.1 handled.2 ∨
      ∃ opened desc conn, CalmEvent spm opened [] ∧
        opened.nextConnectionId = spm.nextConnectionId ∧
        Accepted opened handled.1 handled.2 descriptor desc conn := by
  have opened : CalmEvent spm (spm.modifyDescriptor descriptor
      (·.modifyChannel 0 (ensureConnections allocations.array))) [] :=
    .of_descriptor
      (modifyDescriptor_calm spm descriptor fun desc _ =>
        .of_sameList desc 0 (ensureConnections_getD _ _))
      rfl rfl Unannounced.nil
  unfold dispatchConnection krsServerHandleConnectionFrame
  simp only
  split
  case h_1 =>
    exact Or.inl ⟨opened.descriptors, opened.map, opened.heap,
      Unannounced.nil⟩
  case h_2 desc descRead =>
    split
    case h_1 existing _ =>
      dsimp only
      refine Or.inl ⟨opened.descriptors, opened.map, ?_,
        sendSocketAck_unannounced _ _ _ _⟩
      exact IndexRelated.modify (fun _ => SameIdentity.refl) _ existing
        fun conn _ => ⟨rfl, rfl⟩
    case h_2 missing =>
      have unknown : ∀ ref ∈ desc.connectionsOf 0,
          (spm.modifyDescriptor descriptor
            (·.modifyChannel 0
              (ensureConnections allocations.array))).hasAddress remoteAddr
                ref = false := by
        intro ref member
        exact Bool.eq_false_of_not_eq_true
          (List.find?_eq_none.mp missing ref member)
      rcases acceptConnection_cases _ descriptor desc remoteAddr now
        allocations descRead unknown with calm | ⟨conn, accepted⟩
      · refine Or.inl ?_
        have whole := opened.trans calm
        rw [List.nil_append] at whole
        exact ⟨whole.descriptors, whole.map, whole.heap, whole.unannounced⟩
      · refine Or.inr ⟨_, desc, conn, opened, rfl, ?_⟩
        exact ⟨accepted.read, accepted.unknown, accepted.created,
          accepted.connectionId, accepted.heap, accepted.descriptors,
          accepted.map, accepted.announced⟩

/-! ## Removed connections -/

/-- The callbacks for removed connections. -/
def disconnectCallbacks
    (callback : Option Callback)
    (spm : ServerPortManager)
    (orphans : List ConnectionRef) : List ServerEffect :=
  match callback with
  | none => []
  | some callback =>
      orphans.map fun orphan =>
        .disconnected callback orphan (spm.connectionIdOf orphan)

/-- The finalization does not touch the descriptors. -/
theorem krsServerFinalizeOrphanEvictions_descriptorList
    (spm : ServerPortManager)
    (descriptor : Nat)
    (orphans : List ConnectionRef) :
    (krsServerFinalizeOrphanEvictions spm descriptor
      orphans).1.descriptorList = spm.descriptorList := by
  unfold krsServerFinalizeOrphanEvictions
  split
  case isTrue => rfl
  case isFalse =>
    dsimp only
    rw [foldl_krsConnectionMapRelease]

/-- What finalizing the removal of connections does. -/
theorem krsServerFinalizeOrphanEvictions_spec
    (spm : ServerPortManager)
    (descriptor : Nat)
    (orphans : List ConnectionRef)
    {desc : UDPSocketDescriptor}
    (read : spm.descriptorList[descriptor]? = some desc) :
    let finalized := krsServerFinalizeOrphanEvictions spm descriptor orphans
    finalized.1.descriptorList = spm.descriptorList ∧
      finalized.1.connectionMap =
        (orphans.map spm.connectionIdOf).foldl (fun map connectionId =>
          krsConnectionMapRemove map spm.addressOf connectionId)
          spm.connectionMap ∧
      finalized.2 = disconnectCallbacks desc.disconnectCallback spm
        orphans := by
  refine ⟨krsServerFinalizeOrphanEvictions_descriptorList spm descriptor
    orphans, ?_⟩
  unfold krsServerFinalizeOrphanEvictions
  split
  case isTrue empty =>
    rw [List.length_eq_zero_iff] at empty
    subst empty
    refine ⟨rfl, ?_⟩
    unfold disconnectCallbacks
    cases desc.disconnectCallback <;> rfl
  case isFalse =>
    dsimp only
    refine ⟨by rw [foldl_krsConnectionMapRelease], ?_⟩
    simp only [read, disconnectCallbacks]
    cases desc.disconnectCallback with
    | none => rfl
    | some callback =>
        simp only
        rw [List.zipWith_map_right, List.zipWith_self]

/-! ## Callbacks stay registered -/

theorem sweepChannels_callbacks
    (visit : List ConnectionRef -> ConnectionRef ->
      List ConnectionRef × Option ConnectionRef)
    (desc : UDPSocketDescriptor) :
    SameCallbacks desc (sweepChannels visit desc).2 := by
  unfold sweepChannels
  generalize allChannels = channels
  generalize ([] : List ConnectionRef) = orphans
  induction channels generalizing orphans desc with
  | nil => exact SameCallbacks.refl desc
  | cons channel channels inductionHypothesis =>
      have first : SameCallbacks desc
          (sweepChannel visit (orphans, desc) channel).2 := by
        unfold sweepChannel
        split
        case h_1 => exact SameCallbacks.refl desc
        case h_2 => exact ⟨rfl, rfl, rfl⟩
      rw [List.foldl_cons]
      generalize sweepChannel visit (orphans, desc) channel = swept at *
      exact first.trans (inductionHypothesis swept.2 swept.1)

theorem sweepReassemblers_callbacks
    (now : UInt64)
    (desc : UDPSocketDescriptor) :
    SameCallbacks desc (sweepReassemblers now desc) := ⟨rfl, rfl, rfl⟩

theorem modifyDescriptor_read
    {spm : ServerPortManager}
    {descriptor : Nat}
    {desc : UDPSocketDescriptor}
    (read : spm.descriptorList[descriptor]? = some desc)
    (change : UDPSocketDescriptor -> UDPSocketDescriptor) :
    (spm.modifyDescriptor descriptor change).descriptorList[descriptor]? =
      some (change desc) := by
  rw [ServerPortManager.modifyDescriptor, List.getElem?_modify_eq, read]
  rfl

/-- Finalizing evictions after one descriptor was written. -/
theorem krsServerFinalizeOrphanEvictions_callbacks
    {spm : ServerPortManager}
    {descriptor : Nat}
    {desc cleared : UDPSocketDescriptor}
    (read : spm.descriptorList[descriptor]? = some desc)
    (callbacks : SameCallbacks desc cleared)
    (orphans : List ConnectionRef) :
    IndexRelated (fun _ => SameCallbacks) spm.descriptorList
      (krsServerFinalizeOrphanEvictions
        (spm.modifyDescriptor descriptor fun _ => cleared) descriptor
        orphans).1.descriptorList := by
  obtain ⟨descriptors, -, -⟩ := krsServerFinalizeOrphanEvictions_spec
    (spm.modifyDescriptor descriptor fun _ => cleared) descriptor orphans
    (modifyDescriptor_read read _)
  rw [descriptors]
  refine IndexRelated.modify (fun _ => SameCallbacks.refl) _ descriptor ?_
  intro old oldRead
  rw [read] at oldRead
  cases oldRead
  exact callbacks

theorem CalmEvent.callbacks
    {before after : ServerPortManager}
    {effects : List ServerEffect}
    (calm : CalmEvent before after effects) :
    IndexRelated (fun _ => SameCallbacks) before.descriptorList
      after.descriptorList :=
  calm.descriptors.mono fun _ _ _ same => same.toSameCallbacks

theorem dispatchConnection_callbacks
    (spm : ServerPortManager)
    (descriptor : Nat)
    (remoteAddr : PortAddress)
    (now : UInt64)
    (allocations : ConnectAllocations) :
    IndexRelated (fun _ => SameCallbacks) spm.descriptorList
      (dispatchConnection spm descriptor remoteAddr now
        allocations).1.descriptorList := by
  rcases dispatchConnection_cases spm descriptor remoteAddr now
    allocations with calm | ⟨opened, desc, conn, calm, -, accepted⟩
  · exact calm.callbacks
  · refine IndexRelated.trans (fun _ _ _ _ => SameCallbacks.trans)
      calm.callbacks ?_
    rw [accepted.descriptors]
    exact IndexRelated.modify (fun _ => SameCallbacks.refl) _ descriptor
      fun _ _ => ⟨rfl, rfl, rfl⟩

theorem dispatchDisconnect_callbacks
    (spm : ServerPortManager)
    (descriptor : Nat)
    (remoteAddr : PortAddress) :
    IndexRelated (fun _ => SameCallbacks) spm.descriptorList
      (dispatchDisconnect spm descriptor remoteAddr).1.descriptorList := by
  unfold dispatchDisconnect
  split
  case h_1 => exact IndexRelated.refl (fun _ => SameCallbacks.refl) _
  case h_2 desc read =>
    have swept := sweepChannels_callbacks (disconnectVisit spm remoteAddr)
      desc
    dsimp only
    generalize sweepChannels (disconnectVisit spm remoteAddr) desc = result
      at *
    exact krsServerFinalizeOrphanEvictions_callbacks read swept _

theorem evictDescriptor_callbacks
    (spm : ServerPortManager)
    (now : UInt64)
    (descriptor : Nat) :
    IndexRelated (fun _ => SameCallbacks) spm.descriptorList
      (evictDescriptor spm now descriptor).1.descriptorList := by
  unfold evictDescriptor
  split
  case h_1 => exact IndexRelated.refl (fun _ => SameCallbacks.refl) _
  case h_2 desc read =>
    have swept := sweepChannels_callbacks
      (evictVisit spm now maxEvictionsPerCycle) desc
    unfold evictStaleConnections
    dsimp only
    generalize sweepChannels (evictVisit spm now maxEvictionsPerCycle)
      desc = result at *
    exact krsServerFinalizeOrphanEvictions_callbacks read
      (swept.trans (sweepReassemblers_callbacks now result.2)) _

theorem evictAll_callbacks
    (spm : ServerPortManager)
    (clock : Nat -> UInt64) :
    IndexRelated (fun _ => SameCallbacks) spm.descriptorList
      (evictAll spm clock).1.descriptorList := by
  unfold evictAll
  generalize List.range spm.descriptorList.length = descriptors
  suffices loop : ∀ current : ServerPortManager × List ServerEffect,
      IndexRelated (fun _ => SameCallbacks) current.1.descriptorList
        (descriptors.foldl (fun current descriptor =>
          let evicted := evictDescriptor current.1 (clock descriptor)
            descriptor
          (evicted.1, current.2 ++ evicted.2)) current).1.descriptorList from
    loop (spm, [])
  induction descriptors with
  | nil =>
      exact fun current => IndexRelated.refl (fun _ => SameCallbacks.refl) _
  | cons descriptor descriptors inductionHypothesis =>
      intro current
      exact IndexRelated.trans (fun _ _ _ _ => SameCallbacks.trans)
        (evictDescriptor_callbacks current.1 (clock descriptor) descriptor)
        (inductionHypothesis _)

theorem Routed.callbacks
    {spm : ServerPortManager}
    {descriptor : Nat}
    {frame : Frame}
    {remoteAddr : PortAddress}
    {input : HandlerInput}
    {result : ServerPortManager × List ServerEffect}
    (routed : Routed spm descriptor frame remoteAddr input result) :
    IndexRelated (fun _ => SameCallbacks) spm.descriptorList
      result.1.descriptorList := by
  cases routed with
  | connection => exact dispatchConnection_callbacks _ _ _ _ _
  | heartbeat => exact (krsServerHandleHeartbeatFrame_calm _ _ _ _).callbacks
  | disconnect => exact dispatchDisconnect_callbacks _ _ _
  | subscribe => exact (dispatchSubscribe_calm _ _ _ _ _ _ _).callbacks
  | unsubscribe => exact (dispatchUnsubscribe_calm _ _ _ _ _).callbacks
  | acknowledgement => exact (dispatchAck_calm _ _ _ _).callbacks
  | ignored => exact IndexRelated.refl (fun _ => SameCallbacks.refl) _
  | application _ _ dispatched =>
      exact (dispatchAppFrame_calm dispatched).callbacks

/-- No event changes the callbacks of a port. -/
theorem serverEffect_callbacks
    {spm next : ServerPortManager}
    {event : ServerEvent}
    {effects : List ServerEffect}
    (taken : serverEffect spm event = some (next, effects)) :
    IndexRelated (fun _ => SameCallbacks) spm.descriptorList
      next.descriptorList := by
  cases event with
  | datagram descriptor bytes remoteAddr input =>
      change handleDatagram spm descriptor bytes remoteAddr input =
        some (next, effects) at taken
      unfold handleDatagram at taken
      simp only at taken
      split at taken
      case isTrue =>
        cases taken
        exact IndexRelated.refl (fun _ => SameCallbacks.refl) _
      case isFalse => exact (routeFrame_routed taken).callbacks
  | send connectionId channel data length requireAck clock allocations =>
      obtain ⟨⟨sent, result, sends⟩, returned, same⟩ :=
        Option.map_eq_some_iff.mp taken
      cases same
      exact (krsServerSend_calm returned).callbacks
  | tick clock =>
      cases taken
      have same : (collectAll spm clock.check).2.descriptorList =
          spm.descriptorList := by
        rw [collectAll_eq]
      dsimp only
      generalize collectAll spm clock.check = collected at *
      rw [← same]
      exact evictAll_callbacks
        { collected.2 with
          stats :=
            { collected.2.stats with
              retransmissions := collected.2.stats.retransmissions +
                UInt64.ofNat collected.1.pending.length } } clock.evict

end Kronos
