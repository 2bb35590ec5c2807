import Kronos.Server.Handlers

/-!
# Application frames

What `s_dispatch_app_frame` sends and what it hands to the application.  It
acknowledges a complete packet first and looks the sender up among the
subscribers afterwards.
-/

namespace Kronos

open Library

/-- Having an address is being stored with it. -/
theorem hasAddress_iff
    (spm : ServerPortManager)
    (remoteAddr : PortAddress)
    (connection : ConnectionRef) :
    spm.hasAddress remoteAddr connection = true ↔
      spm.addressOf connection = some remoteAddr := by
  unfold ServerPortManager.hasAddress ServerPortManager.addressOf
  cases spm.connections[connection]? with
  | none => simp
  | some conn => simp

/-! ## The ways of an application frame -/

/-- The server after a fragment, with the state of its channel. -/
def ServerPortManager.storeFragment
    (spm : ServerPortManager)
    (descriptor : Nat)
    (channel : Channel)
    (state : ChannelState)
    (stats : ServerStats) : ServerPortManager :=
  { spm with stats := stats }.modifyDescriptor descriptor
    (·.modifyChannel channel fun _ => state)

/-- What becomes of an application frame: its port is not registered; it is a
whole message; it is a fragment that is stored; or a fragment that completes a
message. -/
inductive AppFrameDispatched
    (spm : ServerPortManager)
    (descriptor : Nat)
    (frame : Frame)
    (remoteAddr : PortAddress)
    (now : UInt64)
    (created allocated ackBuilt : Bool)
    (result : ServerPortManager × List ServerEffect) : Prop
  | unregistered
      (missing : spm.descriptorList[descriptor]? = none)
      (outcome : (spm, []) = result)
  | whole
      (desc : UDPSocketDescriptor)
      (read : spm.descriptorList[descriptor]? = some desc)
      (outcome : deliver spm descriptor desc frame remoteAddr
        { data := frame.body
          dataLength := frame.body.length
          ackRequired := ackRequested frame } ackBuilt = result)
  | stored
      (desc : UDPSocketDescriptor)
      (state : ChannelState)
      (read : spm.descriptorList[descriptor]? = some desc)
      (reassembled : reassemble (desc.channelStates frame.channel) frame now
        created allocated = some (state, none))
      (outcome : (spm.storeFragment descriptor frame.channel state
        { spm.stats with
          fragmentsReceived := spm.stats.fragmentsReceived + 1 }, []) =
            result)
  | completed
      (desc : UDPSocketDescriptor)
      (state : ChannelState)
      (delivery : Delivery)
      (read : spm.descriptorList[descriptor]? = some desc)
      (reassembled : reassemble (desc.channelStates frame.channel) frame now
        created allocated = some (state, some delivery))
      (outcome : deliver
        (spm.storeFragment descriptor frame.channel state
          { spm.stats with
            fragmentsReceived := spm.stats.fragmentsReceived + 1
            fragmentsReassembled := spm.stats.fragmentsReassembled + 1 })
        descriptor desc frame remoteAddr delivery ackBuilt = result)

theorem dispatchAppFrame_cases
    {spm : ServerPortManager}
    {descriptor : Nat}
    {frame : Frame}
    {remoteAddr : PortAddress}
    {now : UInt64}
    {created allocated ackBuilt : Bool}
    {result : ServerPortManager × List ServerEffect}
    (dispatched : dispatchAppFrame spm descriptor frame remoteAddr now created
      allocated ackBuilt = some result) :
    AppFrameDispatched spm descriptor frame remoteAddr now created allocated
      ackBuilt result := by
  unfold dispatchAppFrame at dispatched
  split at dispatched
  case h_1 missing => exact .unregistered missing (Option.some.inj dispatched)
  case h_2 desc read =>
    split at dispatched
    case isTrue => exact .whole desc read (Option.some.inj dispatched)
    case isFalse =>
      obtain ⟨⟨state, delivery⟩, reassembled, outcome⟩ :=
        Option.map_eq_some_iff.mp dispatched
      cases delivery with
      | none => exact .stored desc state read reassembled outcome
      | some delivery =>
          exact .completed desc state delivery read reassembled outcome

/-! ## Messages -/

/-- The second half calls back exactly when a subscriber has the sender's
address and a callback is registered, with what was passed on. -/
theorem deliver_message_iff
    {spm : ServerPortManager}
    {descriptor : Nat}
    {desc : UDPSocketDescriptor}
    {frame : Frame}
    {remoteAddr : PortAddress}
    {delivery : Delivery}
    {ackBuilt : Bool}
    {callback : Callback}
    {onChannel : Channel}
    {connectionId : UInt32}
    {data : List UInt8}
    {dataLength : Nat} :
    .message callback onChannel connectionId data dataLength ∈
        (deliver spm descriptor desc frame remoteAddr delivery ackBuilt).2 ↔
      ∃ connection,
        (desc.connectionsOf frame.channel).find?
            (spm.hasAddress remoteAddr) = some connection ∧
          (desc.channelCallbacks frame.channel).or desc.portCallback =
            some callback ∧
          onChannel = frame.channel ∧
          connectionId = spm.connectionIdOf connection ∧
          data = delivery.data ∧ dataLength = delivery.dataLength := by
  have notAck : .message callback onChannel connectionId data dataLength ∉
      sendAckResponse descriptor remoteAddr frame.channel frame.packetId
        ackBuilt := by
    unfold sendAckResponse krsNetSendFrame
    split_ifs <;> simp
  obtain ⟨payload, size, ackRequired⟩ := delivery
  have acked : .message callback onChannel connectionId data dataLength ∉
      (if ackRequired then
        ({ spm with
            stats := { spm.stats with ackSent := spm.stats.ackSent + 1 } },
          sendAckResponse descriptor remoteAddr frame.channel frame.packetId
            ackBuilt)
      else (spm, [])).2 := by
    cases ackRequired with
    | true => exact notAck
    | false => exact List.not_mem_nil
  unfold deliver
  dsimp only
  cases found : (desc.connectionsOf frame.channel).find?
      (spm.hasAddress remoteAddr) with
  | none => simp [acked]
  | some connection =>
      dsimp only
      rw [List.mem_append, or_iff_right acked]
      cases registered : (desc.channelCallbacks frame.channel).or
          desc.portCallback with
      | none => simp
      | some known =>
          simp only [List.mem_singleton, ServerEffect.message.injEq,
            Option.some.injEq, existsAndEq, true_and]
          constructor
          · rintro ⟨rfl, rest⟩
            exact ⟨rfl, rest⟩
          · rintro ⟨rfl, rest⟩
            exact ⟨rfl, rest⟩

/-- A message effect of the second half carries what was passed on, under the
id of a subscriber with the sender's address. -/
theorem message_of_deliver
    {spm : ServerPortManager}
    {descriptor : Nat}
    {desc : UDPSocketDescriptor}
    {frame : Frame}
    {remoteAddr : PortAddress}
    {delivery : Delivery}
    {ackBuilt : Bool}
    {callback : Callback}
    {onChannel : Channel}
    {connectionId : UInt32}
    {data : List UInt8}
    {dataLength : Nat}
    (handed : .message callback onChannel connectionId data dataLength ∈
      (deliver spm descriptor desc frame remoteAddr delivery ackBuilt).2) :
    onChannel = frame.channel ∧ data = delivery.data ∧
      dataLength = delivery.dataLength ∧
      ∃ connection ∈ desc.connectionsOf frame.channel,
        spm.addressOf connection = some remoteAddr ∧
          connectionId = spm.connectionIdOf connection := by
  obtain ⟨connection, found, -, sameChannel, sameId, sameData, sameLength⟩ :=
    deliver_message_iff.mp handed
  refine ⟨sameChannel, sameData, sameLength, connection,
    List.mem_of_find?_eq_some found, ?_, sameId⟩
  exact (hasAddress_iff spm remoteAddr connection).mp (List.find?_some found)

/-- A callback for a message of an application frame goes out under the id of
a subscriber with the sender's address. -/
theorem message_of_dispatchAppFrame
    {spm next : ServerPortManager}
    {descriptor : Nat}
    {frame : Frame}
    {remoteAddr : PortAddress}
    {now : UInt64}
    {created allocated ackBuilt : Bool}
    {effects : List ServerEffect}
    (dispatched : dispatchAppFrame spm descriptor frame remoteAddr now
      created allocated ackBuilt = some (next, effects))
    {callback : Callback}
    {onChannel : Channel}
    {connectionId : UInt32}
    {data : List UInt8}
    {dataLength : Nat}
    (handed : .message callback onChannel connectionId data dataLength ∈
      effects) :
    onChannel = frame.channel ∧
      ∃ desc, spm.descriptorList[descriptor]? = some desc ∧
        ∃ connection ∈ desc.connectionsOf frame.channel,
          spm.addressOf connection = some remoteAddr ∧
            connectionId = spm.connectionIdOf connection := by
  cases dispatchAppFrame_cases dispatched with
  | unregistered missing outcome =>
      cases outcome
      cases handed
  | whole desc read outcome =>
      have sent : _ = effects := congrArg Prod.snd outcome
      rw [← sent] at handed
      obtain ⟨sameChannel, -, -, subscriber⟩ := message_of_deliver handed
      exact ⟨sameChannel, desc, read, subscriber⟩
  | stored desc state read reassembled outcome =>
      cases outcome
      cases handed
  | completed desc state delivery read reassembled outcome =>
      have sent : _ = effects := congrArg Prod.snd outcome
      rw [← sent] at handed
      obtain ⟨sameChannel, -, -, subscriber⟩ := message_of_deliver handed
      exact ⟨sameChannel, desc, read, subscriber⟩

/-- The effect is a message callback. -/
def ServerEffect.isMessage : ServerEffect -> Bool
  | .message .. => true
  | _ => false

/-- No effect of the list is a message callback. -/
def NoMessage (effects : List ServerEffect) : Prop :=
  ∀ effect ∈ effects, effect.isMessage = false

theorem krsNetSendFrame_noMessage
    (descriptor : Nat)
    (address : PortAddress)
    (frame : List UInt8) :
    NoMessage (krsNetSendFrame descriptor address frame) := by
  unfold krsNetSendFrame
  split
  case isTrue => simp [NoMessage]
  case isFalse => simp [NoMessage, ServerEffect.isMessage]

theorem sendSocketAck_noMessage
    (descriptor : Nat)
    (remoteAddr : PortAddress)
    (connectionId : UInt32)
    (built : Bool) :
    NoMessage (sendSocketAck descriptor remoteAddr connectionId built) := by
  unfold sendSocketAck
  split
  case isTrue => exact krsNetSendFrame_noMessage _ _ _
  case isFalse => simp [NoMessage]

theorem krsServerFinalizeOrphanEvictions_noMessage
    (spm : ServerPortManager)
    (descriptor : Nat)
    (orphans : List ConnectionRef) :
    NoMessage (krsServerFinalizeOrphanEvictions spm descriptor
      orphans).2 := by
  unfold krsServerFinalizeOrphanEvictions
  split
  case isTrue => simp [NoMessage]
  case isFalse =>
    dsimp only
    split
    case h_1 => simp [NoMessage]
    case h_2 desc _ =>
      split
      case h_1 => simp [NoMessage]
      case h_2 callback _ =>
        intro effect member
        rw [List.mem_iff_getElem?] at member
        obtain ⟨position, read⟩ := member
        obtain ⟨ref, connectionId, -, -, rfl⟩ :=
          List.getElem?_zipWith_eq_some.mp read
        rfl

theorem dispatchDisconnect_noMessage
    (spm : ServerPortManager)
    (descriptor : Nat)
    (remoteAddr : PortAddress) :
    NoMessage (dispatchDisconnect spm descriptor remoteAddr).2 := by
  unfold dispatchDisconnect
  split
  case h_1 => simp [NoMessage]
  case h_2 => exact krsServerFinalizeOrphanEvictions_noMessage _ _ _

theorem acceptConnection_noMessage
    (spm : ServerPortManager)
    (descriptor : Nat)
    (desc : UDPSocketDescriptor)
    (remoteAddr : PortAddress)
    (now : UInt64)
    (allocations : ConnectAllocations) :
    NoMessage (acceptConnection spm descriptor desc remoteAddr now
      allocations).2 := by
  unfold acceptConnection
  split
  case isTrue => simp [NoMessage]
  case isFalse =>
    dsimp only
    split
    case isTrue => simp [NoMessage]
    case isFalse =>
      intro effect member
      rcases List.mem_append.mp member with answer | announced
      · exact sendSocketAck_noMessage _ _ _ _ effect answer
      · split at announced
        case h_1 => cases announced
        case h_2 =>
          rw [List.mem_singleton.mp announced]
          rfl

theorem dispatchConnection_noMessage
    (spm : ServerPortManager)
    (descriptor : Nat)
    (remoteAddr : PortAddress)
    (now : UInt64)
    (allocations : ConnectAllocations) :
    NoMessage (dispatchConnection spm descriptor remoteAddr now
      allocations).2 := by
  unfold dispatchConnection krsServerHandleConnectionFrame
  dsimp only
  split
  case h_1 => simp [NoMessage]
  case h_2 =>
    split
    case h_1 => exact sendSocketAck_noMessage _ _ _ _
    case h_2 => exact acceptConnection_noMessage _ _ _ _ _ _

/-- The answer to a control frame. -/
theorem answer_noMessage
    (descriptor : Nat)
    (frame : Frame)
    (remoteAddr : PortAddress)
    (ackBuilt : Bool) :
    NoMessage (if ackRequested frame then
      sendAckResponse descriptor remoteAddr 0 frame.packetId ackBuilt
      else []) := by
  split
  case isTrue =>
    unfold sendAckResponse
    split
    case isTrue => exact krsNetSendFrame_noMessage _ _ _
    case isFalse => simp [NoMessage]
  case isFalse => simp [NoMessage]

theorem dispatchSubscribe_noMessage
    (spm : ServerPortManager)
    (descriptor : Nat)
    (frame : Frame)
    (remoteAddr : PortAddress)
    (created pushed ackBuilt : Bool) :
    NoMessage (dispatchSubscribe spm descriptor frame remoteAddr created
      pushed ackBuilt).2 := by
  unfold dispatchSubscribe
  split
  case h_2 => simp [NoMessage]
  case h_1 =>
    split
    case h_1 => simp [NoMessage]
    case h_2 =>
      dsimp only
      split
      case h_1 => simp [NoMessage]
      case h_2 => exact answer_noMessage descriptor frame remoteAddr ackBuilt

theorem dispatchUnsubscribe_noMessage
    (spm : ServerPortManager)
    (descriptor : Nat)
    (frame : Frame)
    (remoteAddr : PortAddress)
    (ackBuilt : Bool) :
    NoMessage (dispatchUnsubscribe spm descriptor frame remoteAddr
      ackBuilt).2 := by
  unfold dispatchUnsubscribe
  split
  case h_2 => simp [NoMessage]
  case h_1 => exact answer_noMessage descriptor frame remoteAddr ackBuilt

end Kronos
