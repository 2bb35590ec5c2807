import Kronos.Fragment.Run
import Kronos.Server.AppFrame
import Kronos.Server.Replies
import Kronos.Server.Sections

/-!
# Acknowledged packets and the application

`s_dispatch_app_frame` acknowledges a complete packet before it looks the
sender up among the subscribers.  Whether an acknowledged packet also reaches
the application is decided by the state before the call: the sender has to be
on the list of the channel, and the payload of a fragmented packet has to fit
the 16-bit length of the callback.
-/

namespace Kronos

open Library

/-! ## What a fragment completes -/

/-- The pieces of a packet, once the fragment is stored in its session. -/
def packetPieces (session : FragmentSession) (fragment : Frame) :
    List (List UInt8) :=
  (List.range session.total).map fun index =>
    if index = fragment.index then fragment.body
    else (session.piece index).getD []

/-- The fragment is the last one that its session is missing. -/
structure CompletesSession
    (reassembler : Reassembler)
    (fragment : Frame)
    (now : UInt64)
    (allocated : Bool) : Prop where
  admitted : Admitted reassembler fragment allocated
  missing : (reassembler.sessionFor fragment
    now).pieceReceived[fragment.index]? = some false
  last : (reassembler.sessionFor fragment now).received + 1 =
    (reassembler.sessionFor fragment now).total

/-- A completed session hands out its pieces together with the new one. -/
theorem completeSession_of_storedPiece
    {reassembler : Reassembler}
    {fragment : Frame}
    {now : UInt64}
    {stored : FragmentSession}
    (piece : StoredPiece (reassembler.flaggedSession fragment now)
      fragment.index fragment.body stored)
    (full : stored.received = stored.total) :
    let payload :=
      (packetPieces (reassembler.sessionFor fragment now) fragment).flatten
    ∃ buffer, completeSession stored =
        some { base := .suc
               complete := true
               data := buffer
               dataLength := payload.length
               ackRequired :=
                 (reassembler.flaggedSession fragment now).ackRequired } ∧
      buffer.take payload.length = payload := by
  have total : stored.total =
      (reassembler.sessionFor fragment now).total := piece.total
  have pieces : ∀ index, stored.piece index =
      (packetPieces (reassembler.sessionFor fragment now)
        fragment)[index]? := by
    intro index
    unfold packetPieces
    rw [List.getElem?_map]
    rcases Nat.lt_or_ge index stored.total with inside | outside
    · have held : (stored.piece index).isSome = true := by
        rw [FragmentSession.piece,
          if_pos (piece_isSome_of_full piece.shape full inside)]
        rfl
      rw [total] at inside
      rw [List.getElem?_range inside, Option.map_some]
      by_cases own : index = fragment.index
      · rw [if_pos own, own]
        exact piece.pieceSelf
      · rw [piece.pieceOther index own] at held ⊢
        rw [if_neg own]
        obtain ⟨payload, known⟩ := Option.isSome_iff_exists.mp held
        have same : (reassembler.sessionFor fragment now).piece index =
            some payload := known
        rw [known, same]
        rfl
    · have absent : stored.piece index = none := by
        apply FragmentSession.piece_of_missing
        rw [List.getElem?_eq_none_iff.mpr
          (by rw [piece.shape.flagsLength]; exact outside)]
        simp
      rw [total] at outside
      rw [absent, List.getElem?_eq_none_iff.mpr (by simpa using outside)]
      rfl
  have count : (packetPieces (reassembler.sessionFor fragment now)
      fragment).length = stored.total := by
    rw [packetPieces, List.length_map, List.length_range, total]
  rw [← piece.ackRequired]
  exact completeSession_spec piece.shape pieces count

/-- What a call of the reassembler returns, by the session before it. -/
theorem feed_result
    {reassembler next : Reassembler}
    {fragment : Frame}
    {now : UInt64}
    {allocated : Bool}
    {result : ReassembleResult}
    (invariant : ReassemblerInvariant reassembler)
    (flagged : hasFlag fragment.presenceFlags .fragmentInfo = true)
    (fed : krsReassemblerFeed reassembler fragment now allocated =
      some (next, result)) :
    let payload :=
      (packetPieces (reassembler.sessionFor fragment now) fragment).flatten
    (result.complete = true ↔
        CompletesSession reassembler fragment now allocated) ∧
      (result.complete = true ->
        result.dataLength = payload.length ∧
          result.data.take payload.length = payload ∧
          result.ackRequired =
            (reassembler.flaggedSession fragment now).ackRequired) := by
  dsimp only
  by_cases admitted : Admitted reassembler fragment allocated
  · rcases Nat.lt_or_ge fragment.index
        (reassembler.sessionFor fragment now).total with inside | outside
    · obtain ⟨next', result', fed', effect⟩ :=
        feed_of_admitted invariant admitted now inside
      rw [fed'] at fed
      cases fed
      cases effect.step with
      | duplicate received =>
          have known : (reassembler.sessionFor fragment
              now).pieceReceived[fragment.index]? = some true := received
          refine ⟨⟨nofun, fun completes => ?_⟩, nofun⟩
          rw [completes.missing] at known
          cases known
      | stored stored missing piece incomplete =>
          refine ⟨⟨nofun, fun completes => ?_⟩, nofun⟩
          rw [piece.received, piece.total] at incomplete
          exact absurd completes.last (Nat.ne_of_lt incomplete)
      | completed stored _ missing piece full outcome =>
          obtain ⟨buffer, completed, taken⟩ :=
            completeSession_of_storedPiece piece full
          rw [completed] at outcome
          cases outcome
          refine ⟨⟨fun _ => ?_, fun _ => rfl⟩, fun _ => ⟨rfl, taken, rfl⟩⟩
          rw [piece.received, piece.total] at full
          exact ⟨admitted, missing, full⟩
    · rw [feed_eq_none invariant admitted now outside] at fed
      cases fed
  · obtain ⟨result', fed', incomplete⟩ := feed_of_rejected flagged admitted
      now
    rw [fed'] at fed
    cases fed
    rw [incomplete]
    exact ⟨⟨nofun, fun completes => absurd completes.admitted admitted⟩,
      nofun⟩

/-! ## The reassemblers of a server -/

/-- The reassemblers of a port are in order. -/
def UDPSocketDescriptor.ReassemblersSound (desc : UDPSocketDescriptor) :
    Prop :=
  ∀ channel reassembler,
    (desc.channelStates channel).reassembler = some reassembler ->
      ReassemblerInvariant reassembler

/-- The reassemblers of all ports are in order. -/
def ReassemblersSound (descriptorList : List UDPSocketDescriptor) : Prop :=
  ∀ desc ∈ descriptorList, desc.ReassemblersSound

theorem UDPSocketDescriptor.ReassemblersSound.modifyChannel
    {desc : UDPSocketDescriptor}
    (sound : desc.ReassemblersSound)
    {channel : Channel}
    {change : ChannelState -> ChannelState}
    (kept : ∀ reassembler,
      (change (desc.channelStates channel)).reassembler = some reassembler ->
        ReassemblerInvariant reassembler) :
    (desc.modifyChannel channel change).ReassemblersSound := by
  intro other reassembler stored
  unfold UDPSocketDescriptor.modifyChannel at stored
  dsimp only at stored
  by_cases same : other = channel
  · subst same
    rw [Function.update_self] at stored
    exact kept reassembler stored
  · rw [Function.update_of_ne same] at stored
    exact sound other reassembler stored

/-- Writing a channel without touching its reassembler. -/
theorem UDPSocketDescriptor.ReassemblersSound.modifyChannel_same
    {desc : UDPSocketDescriptor}
    (sound : desc.ReassemblersSound)
    {channel : Channel}
    {change : ChannelState -> ChannelState}
    (same : ∀ state, (change state).reassembler = state.reassembler) :
    (desc.modifyChannel channel change).ReassemblersSound := by
  refine sound.modifyChannel fun reassembler stored => ?_
  rw [same] at stored
  exact sound channel reassembler stored

theorem ReassemblersSound.modify
    {descriptorList : List UDPSocketDescriptor}
    (sound : ReassemblersSound descriptorList)
    {descriptor : Nat}
    {change : UDPSocketDescriptor -> UDPSocketDescriptor}
    (kept : ∀ desc, descriptorList[descriptor]? = some desc ->
      desc.ReassemblersSound -> (change desc).ReassemblersSound) :
    ReassemblersSound (descriptorList.modify descriptor change) := by
  intro desc member
  obtain ⟨position, read⟩ := List.mem_iff_getElem?.mp member
  by_cases here : descriptor = position
  · subst here
    rw [List.getElem?_modify_eq] at read
    obtain ⟨old, oldRead, rfl⟩ := Option.map_eq_some_iff.mp read
    exact kept old oldRead (sound old (List.mem_of_getElem? oldRead))
  · rw [List.getElem?_modify_ne _ _ here] at read
    exact sound desc (List.mem_of_getElem? read)

theorem sweepChannels_reassemblers
    (visit : List ConnectionRef -> ConnectionRef ->
      List ConnectionRef × Option ConnectionRef)
    {desc : UDPSocketDescriptor}
    (sound : desc.ReassemblersSound) :
    (sweepChannels visit desc).2.ReassemblersSound := by
  have loop : ∀ (channels : List Channel)
      (current : List ConnectionRef × UDPSocketDescriptor),
      current.2.ReassemblersSound ->
      (channels.foldl (sweepChannel visit) current).2.ReassemblersSound := by
    intro channels
    induction channels with
    | nil => exact fun _ here => here
    | cons channel channels inductionHypothesis =>
        intro current here
        refine inductionHypothesis _ ?_
        unfold sweepChannel
        split
        case h_1 => exact here
        case h_2 =>
          dsimp only
          exact here.modifyChannel_same fun _ => rfl
  exact loop allChannels ([], desc) sound

theorem sweepReassemblers_sound
    (now : UInt64)
    {desc : UDPSocketDescriptor}
    (sound : desc.ReassemblersSound) :
    (sweepReassemblers now desc).ReassemblersSound := by
  intro channel reassembler stored
  obtain ⟨old, oldStored, rfl⟩ := Option.map_eq_some_iff.mp stored
  exact (sound channel old oldStored).sweepStale now 10000

theorem ensureConnections_reassembler
    (created : Bool)
    (state : ChannelState) :
    (ensureConnections created state).reassembler = state.reassembler := by
  unfold ensureConnections
  split
  case h_1 => rfl
  case h_2 => split <;> rfl

theorem commitSubscription_reassembler
    {connection : ConnectionRef}
    {created pushed : Bool}
    {old new : ChannelState}
    (committed : commitSubscription connection created pushed old =
      some new) :
    new.reassembler = old.reassembler := by
  unfold commitSubscription at committed
  split at committed
  case h_1 => cases committed
  case h_2 =>
    split_ifs at committed
    · cases committed
      rfl
    · cases committed
      rfl

theorem nextPacketId_reassembler
    (channel : Channel)
    (created : Bool)
    (state : ChannelState) :
    (nextPacketId channel created state).2.reassembler =
      state.reassembler := by
  unfold nextPacketId
  dsimp only
  split <;> rfl

/-- The reassembler that a fragment is fed to. -/
def ChannelState.reassemblerOr (state : ChannelState) : Reassembler :=
  state.reassembler.getD krsReassemblerCreate

theorem UDPSocketDescriptor.ReassemblersSound.reassemblerOr
    {desc : UDPSocketDescriptor}
    (sound : desc.ReassemblersSound)
    (channel : Channel) :
    ReassemblerInvariant (desc.channelStates channel).reassemblerOr := by
  unfold ChannelState.reassemblerOr
  cases stored : (desc.channelStates channel).reassembler with
  | none => exact krsReassemblerCreate_invariant
  | some reassembler => exact sound channel reassembler stored

/-- The first half of a call, by its branches. -/
theorem reassemble_cases
    {state next : ChannelState}
    {frame : Frame}
    {now : UInt64}
    {created allocated : Bool}
    {delivery : Option Delivery}
    (reassembled : reassemble state frame now created allocated =
      some (next, delivery)) :
    (state.reassembler = none ∧ created = false ∧ next = state ∧
        delivery = none) ∨
      ((state.reassembler.isSome = true ∨ created = true) ∧
        ∃ fed result,
          krsReassemblerFeed state.reassemblerOr frame now allocated =
              some (fed, result) ∧
            next = { state with reassembler := some fed } ∧
            delivery =
              if result.complete then
                some
                  { data := result.data
                    dataLength := result.dataLength % 2 ^ 16
                    ackRequired := result.ackRequired }
              else none) := by
  unfold reassemble at reassembled
  split at reassembled
  case h_1 stored =>
    cases reassembled
    exact Or.inl ⟨stored, rfl, rfl, rfl⟩
  case h_2 present =>
    obtain ⟨⟨fed, result⟩, called, same⟩ :=
      Option.map_eq_some_iff.mp reassembled
    cases same
    refine Or.inr ⟨?_, fed, result, called, rfl, rfl⟩
    cases stored : state.reassembler with
    | some reassembler => exact Or.inl rfl
    | none =>
        right
        exact Bool.eq_true_of_not_eq_false fun failed =>
          present stored failed

theorem reassemble_sound
    {desc : UDPSocketDescriptor}
    (sound : desc.ReassemblersSound)
    {next : ChannelState}
    {frame : Frame}
    {now : UInt64}
    {created allocated : Bool}
    {delivery : Option Delivery}
    (reassembled : reassemble (desc.channelStates frame.channel) frame now
      created allocated = some (next, delivery))
    {reassembler : Reassembler}
    (stored : next.reassembler = some reassembler) :
    ReassemblerInvariant reassembler := by
  rcases reassemble_cases reassembled with
    ⟨-, -, rfl, -⟩ | ⟨-, fed, result, called, rfl, -⟩
  · exact sound frame.channel reassembler stored
  · cases stored
    exact (sound.reassemblerOr frame.channel).feed called

section

variable
  {spm next : ServerPortManager}
  (sound : ReassemblersSound spm.descriptorList)

include sound

theorem ReassemblersSound.connectionSection
    (descriptor : Nat)
    (remoteAddr : PortAddress)
    (now : UInt64)
    (allocations : ConnectAllocations) :
    ReassemblersSound (connectionSection spm descriptor remoteAddr now
      allocations).descriptorList := by
  have opened : ReassemblersSound (spm.modifyDescriptor descriptor
      (·.modifyChannel 0
        (ensureConnections allocations.array))).descriptorList :=
    sound.modify fun desc _ here =>
      here.modifyChannel_same (ensureConnections_reassembler _)
  unfold Kronos.connectionSection
  dsimp only
  generalize spm.modifyDescriptor descriptor _ = between at *
  split
  case h_1 => exact opened
  case h_2 =>
    split
    case h_1 => exact opened
    case h_2 =>
      split
      case isTrue => exact opened
      case isFalse =>
        split
        case isTrue => exact opened
        case isFalse =>
          exact opened.modify fun desc _ here =>
            here.modifyChannel_same fun _ => rfl

theorem ReassemblersSound.disconnectSection
    (descriptor : Nat)
    (remoteAddr : PortAddress) :
    ReassemblersSound (disconnectSection spm descriptor
      remoteAddr).2.descriptorList := by
  unfold Kronos.disconnectSection
  split
  case h_1 => exact sound
  case h_2 desc read =>
    refine sound.modify fun old oldRead here => ?_
    rw [read] at oldRead
    cases oldRead
    exact sweepChannels_reassemblers _ here

theorem ReassemblersSound.evictSection
    (descriptor : Nat)
    (now : UInt64) :
    ReassemblersSound (evictSection spm descriptor now).2.descriptorList := by
  unfold Kronos.evictSection
  split
  case h_1 => exact sound
  case h_2 desc read =>
    refine sound.modify fun old oldRead here => ?_
    rw [read] at oldRead
    cases oldRead
    exact sweepReassemblers_sound now (sweepChannels_reassemblers _ here)

theorem ReassemblersSound.evictDescriptor
    (now : UInt64)
    (descriptor : Nat) :
    ReassemblersSound (evictDescriptor spm now
      descriptor).1.descriptorList := by
  rw [evictDescriptor_eq, krsServerFinalizeOrphanEvictions_descriptorList]
  exact sound.evictSection descriptor now

theorem ReassemblersSound.dispatchAppFrame
    {descriptor : Nat}
    {frame : Frame}
    {remoteAddr : PortAddress}
    {now : UInt64}
    {created allocated ackBuilt : Bool}
    {effects : List ServerEffect}
    (dispatched : dispatchAppFrame spm descriptor frame remoteAddr now
      created allocated ackBuilt = some (next, effects)) :
    ReassemblersSound next.descriptorList := by
  have stored : ∀ {desc state delivery},
      spm.descriptorList[descriptor]? = some desc ->
      reassemble (desc.channelStates frame.channel) frame now created
        allocated = some (state, delivery) ->
      ReassemblersSound (spm.descriptorList.modify descriptor
        (·.modifyChannel frame.channel fun _ => state)) := by
    intro desc state delivery read reassembled
    refine sound.modify fun old oldRead here => ?_
    rw [read] at oldRead
    cases oldRead
    exact here.modifyChannel fun reassembler held =>
      reassemble_sound here reassembled held
  cases dispatchAppFrame_cases dispatched with
  | unregistered missing outcome =>
      cases outcome
      exact sound
  | whole desc read outcome =>
      obtain ⟨-, -, descriptors, -⟩ := deliver_effect spm descriptor desc
        frame remoteAddr
        { data := frame.body
          dataLength := frame.body.length
          ackRequired := ackRequested frame } ackBuilt
      rw [outcome] at descriptors
      rw [descriptors]
      exact sound
  | stored desc state read reassembled outcome =>
      cases outcome
      exact stored read reassembled
  | completed desc state delivery read reassembled outcome =>
      obtain ⟨-, -, descriptors, -⟩ := deliver_effect _ descriptor desc
        frame remoteAddr delivery ackBuilt
      rw [outcome] at descriptors
      rw [descriptors]
      exact stored read reassembled

theorem ReassemblersSound.routed
    {descriptor : Nat}
    {frame : Frame}
    {remoteAddr : PortAddress}
    {input : HandlerInput}
    {result : ServerPortManager × List ServerEffect}
    (routed : Routed spm descriptor frame remoteAddr input result) :
    ReassemblersSound result.1.descriptorList := by
  cases routed with
  | connection =>
      obtain ⟨map, handled⟩ := krsServerHandleConnectionFrame_section spm
        descriptor remoteAddr input.now input.connect
      unfold dispatchConnection
      dsimp only
      rw [handled]
      exact sound.connectionSection _ _ _ _
  | heartbeat =>
      unfold krsServerHandleHeartbeatFrame
      split
      case h_1 => exact sound
      case h_2 desc _ =>
        obtain ⟨-, -, descriptors⟩ := foldl_heartbeat remoteAddr input.now
          (allChannels.flatMap desc.connectionsOf) spm
        dsimp only
        rw [descriptors]
        exact sound
  | disconnect =>
      rw [dispatchDisconnect_eq,
        krsServerFinalizeOrphanEvictions_descriptorList]
      exact sound.disconnectSection _ _
  | subscribe =>
      unfold dispatchSubscribe
      split
      case h_2 => exact sound
      case h_1 target desc _ read =>
        split
        case h_1 => exact sound
        case h_2 =>
          dsimp only
          split
          case h_1 =>
            refine sound.modify fun old _ here =>
              here.modifyChannel_same (ensureConnections_reassembler _)
          case h_2 state committed =>
            refine sound.modify fun old oldRead here => ?_
            rw [read] at oldRead
            cases oldRead
            refine here.modifyChannel fun reassembler held => ?_
            rw [commitSubscription_reassembler committed] at held
            exact here target reassembler held
  | unsubscribe =>
      unfold dispatchUnsubscribe
      split
      case h_2 => exact sound
      case h_1 =>
        dsimp only
        split
        case h_1 => exact sound
        case h_2 =>
          exact sound.modify fun desc _ here =>
            here.modifyChannel_same fun _ => rfl
  | acknowledgement =>
      unfold dispatchAck
      dsimp only
      split
      case isTrue => exact sound
      case isFalse => split <;> exact sound
  | ignored => exact sound
  | application _ _ dispatched => exact sound.dispatchAppFrame dispatched

theorem ReassemblersSound.evictAll
    (clock : Nat -> UInt64) :
    ReassemblersSound (evictAll spm clock).1.descriptorList := by
  have loop : ∀ (descriptors : List Nat)
      (current : ServerPortManager × List ServerEffect),
      ReassemblersSound current.1.descriptorList ->
      ReassemblersSound (descriptors.foldl (fun current descriptor =>
        let evicted := Kronos.evictDescriptor current.1 (clock descriptor)
          descriptor
        (evicted.1, current.2 ++ evicted.2)) current).1.descriptorList := by
    intro descriptors
    induction descriptors with
    | nil => exact fun _ here => here
    | cons descriptor descriptors inductionHypothesis =>
        intro current here
        exact inductionHypothesis _
          (here.evictDescriptor (clock descriptor) descriptor)
  exact loop _ (spm, []) sound

theorem ReassemblersSound.serverEffect
    {event : ServerEvent}
    {effects : List ServerEffect}
    (effect : serverEffect spm event = some (next, effects)) :
    ReassemblersSound next.descriptorList := by
  cases event with
  | datagram descriptor bytes remoteAddr input =>
      change handleDatagram spm descriptor bytes remoteAddr input = _
        at effect
      unfold handleDatagram at effect
      dsimp only at effect
      split at effect
      case isTrue =>
        cases effect
        exact sound
      case isFalse =>
        have counted : ReassemblersSound
            { spm with
              stats :=
                { spm.stats with
                  messagesReceived :=
                    spm.stats.messagesReceived + 1 } }.descriptorList :=
          sound
        exact counted.routed (routeFrame_routed effect)
  | send connectionId channel data length requireAck clock allocations =>
      obtain ⟨⟨sent, result, sends⟩, returned, same⟩ :=
        Option.map_eq_some_iff.mp effect
      cases same
      unfold krsServerSend at returned
      dsimp only at returned
      split at returned
      case h_1 =>
        cases returned
        exact sound
      case h_2 entry _ =>
        split at returned
        case h_2 => cases returned
        case h_1 target desc _ descRead =>
          split at returned
          case isTrue => cases returned
          case isFalse =>
            cases returned
            refine sound.modify fun old oldRead here => ?_
            rw [descRead] at oldRead
            cases oldRead
            refine here.modifyChannel fun reassembler held => ?_
            rw [nextPacketId_reassembler] at held
            exact here channel reassembler held
  | tick clock =>
      cases effect
      have collected : ReassemblersSound
          (collectAll spm clock.check).2.descriptorList := by
        rw [collectAll_eq]
        exact sound
      dsimp only
      generalize collectAll spm clock.check = buffers at *
      have counted : ReassemblersSound
          { buffers.2 with
            stats :=
              { buffers.2.stats with
                retransmissions := buffers.2.stats.retransmissions +
                  UInt64.ofNat buffers.1.pending.length } }.descriptorList :=
        collected
      exact counted.evictAll clock.evict

end

/-- In every state of a run, the reassemblers of all ports are in order. -/
theorem reassemblersSound_of_run
    {descriptorList : List UDPSocketDescriptor}
    (initially : ReassemblersSound descriptorList)
    {events : List ServerEvent}
    {current : ServerRun}
    (reached : run serverStep (runStart descriptorList) events =
      some current) :
    ReassemblersSound current.spm.descriptorList := by
  have preserved : ∀ (state : ServerRun) event next,
      ReassemblersSound state.spm.descriptorList ->
      serverStep state event = some next ->
      ReassemblersSound next.spm.descriptorList := by
    intro state event next here taken
    obtain ⟨⟨after, effects⟩, effect, rfl⟩ :=
      Option.map_eq_some_iff.mp taken
    exact here.serverEffect effect
  have start : ReassemblersSound
      (runStart descriptorList).spm.descriptorList := initially
  exact run_invariant preserved start reached

/-! ## Acknowledged and delivered -/

/-- The frame completes its packet. -/
def CompletesPacket
    (state : ChannelState)
    (frame : Frame)
    (now : UInt64)
    (created allocated : Bool) : Prop :=
  hasFlag frame.presenceFlags .fragmentInfo = true ->
    (state.reassembler.isSome = true ∨ created = true) ∧
      CompletesSession state.reassemblerOr frame now allocated

/-- One of the packet's frames has asked for an acknowledgement. -/
def packetAckRequired
    (state : ChannelState)
    (frame : Frame)
    (now : UInt64) : Bool :=
  ackRequested frame ||
    hasFlag frame.presenceFlags .fragmentInfo &&
      (state.reassemblerOr.sessionFor frame now).ackRequired

/-- The data of the packet that the frame completes. -/
def packetPayload
    (state : ChannelState)
    (frame : Frame)
    (now : UInt64) : List UInt8 :=
  if hasFlag frame.presenceFlags .fragmentInfo then
    (packetPieces (state.reassemblerOr.sessionFor frame now) frame).flatten
  else frame.body

/-- If the packet of the frame is acknowledged, then its data is handed to the
application too. -/
def AcknowledgedOnlyDelivered
    (descriptor : Nat)
    (frame : Frame)
    (remoteAddr : PortAddress)
    (payload : List UInt8)
    (effects : List ServerEffect) : Prop :=
  .netSend descriptor remoteAddr
      (ackResponse frame.channel frame.packetId) ∈ effects ->
    ∃ callback connectionId data dataLength,
      .message callback frame.channel connectionId data dataLength ∈
          effects ∧
        data.take dataLength = payload

theorem sendAckResponse_eq
    (descriptor : Nat)
    (remoteAddr : PortAddress)
    (channel : Channel)
    (packetId : UInt64) :
    sendAckResponse descriptor remoteAddr channel packetId true =
      [.netSend descriptor remoteAddr (ackResponse channel packetId)] := by
  have long := (ackResponse_heads channel packetId).length_le
  rw [length_splitHeader, kronosFrameHeaderLength] at long
  rw [sendAckResponse, if_pos rfl, krsNetSendFrame, if_neg (by omega)]

/-- The second half of a call, with a callback registered. -/
theorem deliver_acknowledgedOnlyDelivered_iff
    {spm : ServerPortManager}
    (descriptor : Nat)
    {desc : UDPSocketDescriptor}
    {frame : Frame}
    (remoteAddr : PortAddress)
    (delivery : Delivery)
    (ackBuilt : Bool)
    (payload : List UInt8)
    (registered : ((desc.channelCallbacks frame.channel).or
      desc.portCallback).isSome = true) :
    AcknowledgedOnlyDelivered descriptor frame remoteAddr payload
        (deliver spm descriptor desc frame remoteAddr delivery ackBuilt).2 ↔
      (ackBuilt = true -> delivery.ackRequired = true ->
        (∃ connection ∈ desc.connectionsOf frame.channel,
          spm.hasAddress remoteAddr connection = true) ∧
        delivery.data.take delivery.dataLength = payload) := by
  obtain ⟨callback, isRegistered⟩ := Option.isSome_iff_exists.mp registered
  obtain ⟨data, dataLength, ackRequired⟩ := delivery
  unfold AcknowledgedOnlyDelivered deliver
  dsimp only
  rw [isRegistered]
  cases ackBuilt with
  | false =>
      cases ackRequired <;>
        cases (desc.connectionsOf frame.channel).find?
          (spm.hasAddress remoteAddr) <;> simp [sendAckResponse]
  | true =>
  rw [sendAckResponse_eq]
  simp only [forall_const]
  cases found : (desc.connectionsOf frame.channel).find?
      (spm.hasAddress remoteAddr) with
  | none =>
      have nobody := List.find?_eq_none.mp found
      cases ackRequired with
      | false => simp
      | true =>
          constructor
          · intro delivered _
            obtain ⟨_, _, _, _, impossible, -⟩ := delivered (by simp)
            simp at impossible
          · intro holds
            obtain ⟨⟨connection, member, owned⟩, -⟩ := holds rfl
            exact absurd owned (nobody connection member)
  | some connection =>
      have member := List.mem_of_find?_eq_some found
      have owned := List.find?_some found
      cases ackRequired with
      | false => simp
      | true =>
          constructor
          · intro delivered _
            obtain ⟨_, _, _, _, handed, whole⟩ := delivered (by simp)
            simp only [if_true, List.cons_append, List.nil_append,
              List.mem_cons, List.not_mem_nil, or_false, reduceCtorEq,
              false_or, ServerEffect.message.injEq] at handed
            obtain ⟨-, -, -, rfl, rfl⟩ := handed
            exact ⟨⟨connection, member, owned⟩, whole⟩
          · intro holds _
            exact ⟨callback, spm.connectionIdOf connection, data, dataLength,
              by simp, (holds rfl).2⟩

/-- A payload fits the callback's length argument or is cut off by it. -/
theorem take_mod_eq_iff
    {data payload : List UInt8}
    (whole : data.take payload.length = payload) :
    data.take (payload.length % 2 ^ 16) = payload ↔
      payload.length < 2 ^ 16 := by
  constructor
  · intro taken
    have short := congrArg List.length taken
    rw [List.length_take] at short
    have bound := Nat.mod_lt payload.length (by decide : 0 < 2 ^ 16)
    omega
  · intro fits
    rw [Nat.mod_eq_of_lt fits]
    exact whole

/-- A fragment that passes the checks of the reassembler and meets an open
session of its packet id has an index inside that session. -/
def FragmentInside (state : ChannelState) (frame : Frame) : Prop :=
  hasFlag frame.presenceFlags .fragmentInfo = true ->
    validFragment frame = true ->
    frame.body.length ≤ krsMaxPayloadPerFragment ->
    ∀ session, state.reassemblerOr.session frame.packetId = some session ->
      frame.index < session.total

/-- The first half stays inside the arrays of the reassembler. -/
theorem reassemble_isSome_iff
    {state : ChannelState}
    (sound : ReassemblerInvariant state.reassemblerOr)
    (frame : Frame)
    (now : UInt64)
    (created allocated : Bool) :
    (reassemble state frame now created allocated).isSome ↔
      FragmentInside state frame := by
  have fed := feed_isSome_iff sound frame now allocated
  unfold FragmentInside
  unfold reassemble
  split
  case h_1 absent =>
    have fresh : state.reassemblerOr = krsReassemblerCreate := by
      rw [ChannelState.reassemblerOr, absent]
      rfl
    rw [fresh]
    refine iff_of_true rfl ?_
    intro _ _ _ session opened
    cases opened
  case h_2 =>
    rw [Option.isSome_map]
    exact fed

theorem dispatchAppFrame_isSome_iff
    {spm : ServerPortManager}
    {descriptor : Nat}
    {desc : UDPSocketDescriptor}
    {frame : Frame}
    (sound : desc.ReassemblersSound)
    (read : spm.descriptorList[descriptor]? = some desc)
    (remoteAddr : PortAddress)
    (now : UInt64)
    (created allocated ackBuilt : Bool) :
    (dispatchAppFrame spm descriptor frame remoteAddr now created allocated
        ackBuilt).isSome ↔
      FragmentInside (desc.channelStates frame.channel) frame := by
  unfold dispatchAppFrame
  rw [read]
  dsimp only
  cases flagged : hasFlag frame.presenceFlags .fragmentInfo with
  | false => simp [FragmentInside, flagged]
  | true =>
      rw [if_neg (by decide), Option.isSome_map]
      exact reassemble_isSome_iff (sound.reassemblerOr frame.channel) frame
        now created allocated

/-- A packet that `s_dispatch_app_frame` acknowledges is handed to the
application if and only if it is not both due for an acknowledgement and either
from somebody who is not subscribed or too long for the callback. -/
theorem dispatchAppFrame_acknowledgedOnlyDelivered_iff
    {spm next : ServerPortManager}
    {descriptor : Nat}
    {desc : UDPSocketDescriptor}
    {frame : Frame}
    {remoteAddr : PortAddress}
    {now : UInt64}
    {created allocated ackBuilt : Bool}
    {effects : List ServerEffect}
    (sound : desc.ReassemblersSound)
    (read : spm.descriptorList[descriptor]? = some desc)
    (registered : ((desc.channelCallbacks frame.channel).or
      desc.portCallback).isSome = true)
    (dispatched : dispatchAppFrame spm descriptor frame remoteAddr now
      created allocated ackBuilt = some (next, effects)) :
    let state := desc.channelStates frame.channel
    AcknowledgedOnlyDelivered descriptor frame remoteAddr
        (packetPayload state frame now) effects ↔
      (ackBuilt = true -> CompletesPacket state frame now created allocated ->
        packetAckRequired state frame now = true ->
          (∃ connection ∈ desc.connectionsOf frame.channel,
            spm.hasAddress remoteAddr connection = true) ∧
          (hasFlag frame.presenceFlags .fragmentInfo = true ->
            (packetPayload state frame now).length < 2 ^ 16)) := by
  dsimp only
  unfold dispatchAppFrame at dispatched
  rw [read] at dispatched
  dsimp only at dispatched
  cases flagged : hasFlag frame.presenceFlags .fragmentInfo with
  | false =>
      rw [flagged] at dispatched
      have sent : _ = effects :=
        congrArg Prod.snd (Option.some.inj dispatched)
      rw [← sent, deliver_acknowledgedOnlyDelivered_iff descriptor remoteAddr
        _ _ _ registered]
      simp [CompletesPacket, packetAckRequired, packetPayload, flagged]
  | true =>
      rw [flagged] at dispatched
      obtain ⟨⟨state, delivery⟩, reassembled, outcome⟩ :=
        Option.map_eq_some_iff.mp dispatched
      have completes : CompletesPacket (desc.channelStates frame.channel)
            frame now created allocated ↔
          ((desc.channelStates frame.channel).reassembler.isSome = true ∨
              created = true) ∧
            CompletesSession
              (desc.channelStates frame.channel).reassemblerOr frame now
              allocated := by
        simp [CompletesPacket, flagged]
      have payload : packetPayload (desc.channelStates frame.channel) frame
          now = (packetPieces ((desc.channelStates
            frame.channel).reassemblerOr.sessionFor frame now)
            frame).flatten := by
        simp [packetPayload, flagged]
      rw [completes]
      dsimp only at outcome
      rcases reassemble_cases reassembled with
        ⟨absent, failed, -, rfl⟩ |
          ⟨present, fed, result, called, -, rfl⟩
      · cases outcome
        rw [absent, failed]
        simp [AcknowledgedOnlyDelivered]
      · obtain ⟨complete_iff, handed⟩ := feed_result
          (sound.reassemblerOr frame.channel) flagged called
        rw [← complete_iff]
        cases complete : result.complete with
        | false =>
            rw [complete] at outcome
            cases outcome
            simp [AcknowledgedOnlyDelivered]
        | true =>
            obtain ⟨size, whole, ackRequired⟩ := handed complete
            rw [complete] at outcome
            have sent : _ = effects := congrArg Prod.snd outcome
            rw [← payload] at size whole
            rw [← sent]
            simp only [if_true]
            rw [deliver_acknowledgedOnlyDelivered_iff descriptor remoteAddr
              _ _ _ registered]
            dsimp only
            rw [size, take_mod_eq_iff whole, ackRequired]
            simp only [present, true_and, forall_const,
              packetAckRequired, flagged, Bool.true_and,
              Reassembler.flaggedSession]
            rw [Bool.or_comm]
            rfl

/-- In every state of a run, the call returns and hands an acknowledged packet
to the application if and only if a fragment that meets an open session has an
index inside it, and a packet that is complete and due for an acknowledgement,
whose frame can be built, comes from a subscriber of the channel and, when it is
fragmented, is shorter than 64 KiB. -/
theorem acknowledged_packet_delivered_iff
    {descriptorList : List UDPSocketDescriptor}
    (fresh : ∀ desc ∈ descriptorList, ∀ channel,
      (desc.channelStates channel).reassembler = none)
    {events : List ServerEvent}
    {current : ServerRun}
    (reached : run serverStep (runStart descriptorList) events =
      some current)
    {descriptor : Nat}
    {desc : UDPSocketDescriptor}
    (read : current.spm.descriptorList[descriptor]? = some desc)
    {frame : Frame}
    (registered : ((desc.channelCallbacks frame.channel).or
      desc.portCallback).isSome = true)
    (remoteAddr : PortAddress)
    (now : UInt64)
    (created allocated ackBuilt : Bool) :
    let state := desc.channelStates frame.channel
    (∃ next effects,
        dispatchAppFrame current.spm descriptor frame remoteAddr now created
            allocated ackBuilt = some (next, effects) ∧
          AcknowledgedOnlyDelivered descriptor frame remoteAddr
            (packetPayload state frame now) effects) ↔
      FragmentInside state frame ∧
        (ackBuilt = true ->
          CompletesPacket state frame now created allocated ->
          packetAckRequired state frame now = true ->
            (∃ connection ∈ desc.connectionsOf frame.channel,
              current.spm.hasAddress remoteAddr connection = true) ∧
            (hasFlag frame.presenceFlags .fragmentInfo = true ->
              (packetPayload state frame now).length < 2 ^ 16)) := by
  have sound : ReassemblersSound current.spm.descriptorList := by
    refine reassemblersSound_of_run ?_ reached
    intro old member channel reassembler stored
    rw [fresh old member channel] at stored
    cases stored
  have ofPort := sound desc (List.mem_of_getElem? read)
  have inside := @dispatchAppFrame_isSome_iff current.spm descriptor desc
    frame ofPort read remoteAddr now created allocated ackBuilt
  constructor
  · rintro ⟨next, effects, dispatched, delivered⟩
    exact ⟨inside.mp (Option.isSome_of_eq_some dispatched),
      (dispatchAppFrame_acknowledgedOnlyDelivered_iff ofPort read registered
        dispatched).mp delivered⟩
  · rintro ⟨fits, holds⟩
    obtain ⟨⟨next, effects⟩, dispatched⟩ :=
      Option.isSome_iff_exists.mp (inside.mpr fits)
    exact ⟨next, effects, dispatched,
      (dispatchAppFrame_acknowledgedOnlyDelivered_iff ofPort read registered
        dispatched).mpr holds⟩

/-- A reliable message of one byte on channel 10, as the server parses it. -/
def reliableFrame : Frame :=
  krsFrameCreate (serializeToBuffer
    ((((krsFrameBuilderCreate 10 .basicMessage).setPacketId 1).setFlag
      .ackRequired).setData (some [7]) 1) 64) 64

/-- A client connects and subscribes to channel 10. -/
def subscriberDatagrams : List ServerEvent :=
  [connectFrom 4000 0,
    .datagram 0 (serializeToBuffer
      ((krsFrameBuilderCreate 0 .subscribe).setData (some [10]) 1) 64)
      (clientAddress 4000) {}]

theorem subscriber_packet_delivered :
    ∃ current desc next effects,
      run serverStep (runStart [listeningPort]) subscriberDatagrams =
          some current ∧
        current.spm.descriptorList[0]? = some desc ∧
        dispatchAppFrame current.spm 0 reliableFrame (clientAddress 4000) 0
          true true true = some (next, effects) ∧
        .netSend 0 (clientAddress 4000) (ackResponse 10 1) ∈ effects ∧
        AcknowledgedOnlyDelivered 0 reliableFrame (clientAddress 4000)
          (packetPayload (desc.channelStates reliableFrame.channel)
            reliableFrame 0) effects := by
  have ran : (run serverStep (runStart [listeningPort])
      subscriberDatagrams).map (fun current =>
        (current.spm.descriptorList[0]?.map (fun desc =>
            (desc.connectionsOf reliableFrame.channel,
              ((desc.channelCallbacks reliableFrame.channel).or
                desc.portCallback).isSome)),
          current.spm.hasAddress (clientAddress 4000) 0,
          (dispatchAppFrame current.spm 0 reliableFrame (clientAddress 4000)
            0 true true true).map (fun dispatched =>
              decide (.netSend 0 (clientAddress 4000) (ackResponse 10 1) ∈
                dispatched.2)))) =
      some (some ([0], true), true, some true) := by
    decide +kernel
  obtain ⟨current, reached, facts⟩ := Option.map_eq_some_iff.mp ran
  simp only [Prod.mk.injEq] at facts
  obtain ⟨port, owned, acknowledged⟩ := facts
  obtain ⟨desc, read, lists⟩ := Option.map_eq_some_iff.mp port
  obtain ⟨members, registered⟩ := Prod.mk.inj lists
  obtain ⟨⟨next, effects⟩, dispatched, sent⟩ :=
    Option.map_eq_some_iff.mp acknowledged
  have fresh : ∀ port ∈ [listeningPort], ∀ channel,
      (port.channelStates channel).reassembler = none := by
    intro port member channel
    rw [List.mem_singleton.mp member]
    rfl
  have plain : ¬ hasFlag reliableFrame.presenceFlags .fragmentInfo = true := by
    decide +kernel
  have subscribed : 0 ∈ desc.connectionsOf reliableFrame.channel := by
    rw [members]
    exact List.mem_singleton.mpr rfl
  obtain ⟨_, _, again, delivered⟩ := (acknowledged_packet_delivered_iff fresh
    reached read registered (clientAddress 4000) 0 true true true).mpr
      ⟨fun fragment => absurd fragment plain, fun _ _ _ =>
        ⟨⟨0, subscribed, owned⟩, fun fragment => absurd fragment plain⟩⟩
  rw [dispatched] at again
  cases again
  exact ⟨current, desc, next, effects, reached, read, dispatched,
    of_decide_eq_true sent, delivered⟩

/-- A reliable message from somebody who has never connected is acknowledged
and dropped. -/
theorem unsubscribed_packet_acknowledged_and_dropped :
    ∃ next effects,
      dispatchAppFrame (serverStart [listeningPort]) 0 reliableFrame
          (clientAddress 4000) 0 true true true = some (next, effects) ∧
        ¬ AcknowledgedOnlyDelivered 0 reliableFrame (clientAddress 4000) [7]
          effects := by
  have ran : (dispatchAppFrame (serverStart [listeningPort]) 0 reliableFrame
      (clientAddress 4000) 0 true true true).map (fun dispatched =>
        dispatched.2) =
      some [.netSend 0 (clientAddress 4000) (ackResponse 10 1)] := by
    decide +kernel
  obtain ⟨⟨next, effects⟩, dispatched, sent⟩ :=
    Option.map_eq_some_iff.mp ran
  refine ⟨next, effects, dispatched, ?_⟩
  dsimp only at sent
  rw [sent]
  intro delivered
  have sameFrame : ackResponse reliableFrame.channel reliableFrame.packetId =
      ackResponse 10 1 := by
    decide +kernel
  obtain ⟨callback, connectionId, data, dataLength, handed, -⟩ := delivered
    (by rw [sameFrame]; exact List.mem_singleton.mpr rfl)
  cases List.mem_singleton.mp handed

end Kronos
