import Kronos.Client.Wire
import Kronos.Server.System

/-!
# Messages to all subscribers

`krs_server_broadcast`, `krs_server_broadcast_except` and
`krs_server_broadcast_reliable` of `server_broadcast.c`, beside
`krs_server_send`.  Whatever call puts them there, the datagrams of a message
are those of its channel, its payload and a packet id that the channel's
counter has given out.
-/

namespace Kronos

open Library

/-- Capacity of the snapshots that the broadcasts take of a channel. -/
def broadcastCapacity : Nat := 256

/-! ## Unreliable broadcasts -/

/-- The frames that `s_send_to_connection` hands to `krs_net_send_frame`. -/
def sendToConnection
    (channel : Channel)
    (packetId : UInt64)
    (data : List UInt8)
    (length : UInt16)
    (allocations : SendAllocations) : List (List UInt8) :=
  match messageFrames channel packetId data length false allocations
      .networkSocketError with
  | .error _ => []
  | .ok frames => frames.map fun frame => frame.1.take frame.2

/-- The connections that a broadcast takes a reference on; `none` stands for
the use of a freed connection. -/
def broadcastSnapshot
    (spm : ServerPortManager)
    (excludeId : UInt32) :
    List ConnectionRef -> List ConnectionRef -> Option (List ConnectionRef)
  | snapshot, [] => some snapshot
  | snapshot, connection :: conns =>
      if snapshot.length < broadcastCapacity then
        match spm.connections[connection]? with
        | none => none
        | some conn =>
            if conn.freed then none
            else if conn.connectionId = excludeId then
              broadcastSnapshot spm excludeId snapshot conns
            else
              broadcastSnapshot spm excludeId (snapshot ++ [connection]) conns
      else some snapshot

/-- Create the packet counter of a channel if it is missing. -/
def ensureCounter (created : Bool) (state : ChannelState) : ChannelState :=
  match state.packetCounter with
  | some _ => state
  | none =>
      if created then
        { state with packetCounter := some krsPacketCounterCreate }
      else state

/-- The packet ids of a broadcast, one for each connection of the snapshot. -/
def broadcastPacketIds (channel : Channel) :
    Nat -> ChannelState -> List UInt64 × ChannelState
  | 0, state => ([], state)
  | count + 1, state =>
      let numbered := nextPacketId channel false state
      let rest := broadcastPacketIds channel count numbered.2
      (numbered.1 :: rest.1, rest.2)

/-- What the clock and the allocator answer in a broadcast: whether packet
counters can be created, and, for each message, the clock and the allocations of
its send. -/
structure BroadcastOutcomes where
  counter : Bool := true
  clock : Nat -> Nat -> UInt64 := fun _ _ => 0
  allocations : Nat -> SendAllocations := fun _ => {}

/-- The datagrams of a broadcast to a snapshot, in order. -/
def broadcastEffects
    (spm : ServerPortManager)
    (descriptor : Nat)
    (channel : Channel)
    (data : List UInt8)
    (length : UInt16)
    (outcomes : BroadcastOutcomes)
    (targets : List (ConnectionRef × UInt64)) : List ServerEffect :=
  (targets.mapIdx fun index target =>
    match spm.addressOf target.1 with
    | none => []
    | some address =>
        (sendToConnection channel target.2 data length
          (outcomes.allocations index)).flatMap
            (krsNetSendFrame descriptor address)).flatten

/-- `s_broadcast_on_descriptor`. -/
def broadcastOnDescriptor
    (spm : ServerPortManager)
    (descriptor : Nat)
    (channel : Channel)
    (data : List UInt8)
    (length : UInt16)
    (excludeId : UInt32)
    (outcomes : BroadcastOutcomes) :
    Option (ServerPortManager × List ServerEffect) :=
  match spm.descriptorList[descriptor]? with
  | none => some (spm, [])
  | some desc =>
      match (desc.channelStates channel).connections with
      | none => some (spm, [])
      | some conns =>
          (broadcastSnapshot spm excludeId [] conns).map fun snapshot =>
            let acquired := snapshot.foldl (fun current connection =>
              current.modifyConnection connection fun conn =>
                { conn with refcount := conn.refcount + 1 }) spm
            let numbered := broadcastPacketIds channel snapshot.length
              (ensureCounter outcomes.counter (desc.channelStates channel))
            let counted := acquired.modifyDescriptor descriptor
              (·.modifyChannel channel fun _ => numbered.2)
            (snapshot.foldl krsConnectionMapRelease counted,
              broadcastEffects spm descriptor channel data length outcomes
                (snapshot.zip numbered.1))

/-- Run one call after another, with the effects of all of them. -/
def serverCalls
    (step : ServerPortManager -> α ->
      Option (ServerPortManager × List ServerEffect)) :
    List α -> ServerPortManager ->
      Option (ServerPortManager × List ServerEffect)
  | [], spm => some (spm, [])
  | call :: calls, spm =>
      (step spm call).bind fun first =>
        (serverCalls step calls first.1).map fun rest =>
          (rest.1, first.2 ++ rest.2)

/-- `krs_server_broadcast_except`. -/
def krsServerBroadcastExcept
    (spm : ServerPortManager)
    (channel : Channel)
    (excludeConnectionId : UInt32)
    (data : List UInt8)
    (length : UInt16)
    (outcomes : Nat -> BroadcastOutcomes) :
    Option (ServerPortManager × List ServerEffect) :=
  serverCalls
    (fun current descriptor => broadcastOnDescriptor current descriptor
      channel data length excludeConnectionId (outcomes descriptor))
    (List.range spm.descriptorList.length) spm

/-- `krs_server_broadcast`. -/
def krsServerBroadcast
    (spm : ServerPortManager)
    (channel : Channel)
    (data : List UInt8)
    (length : UInt16)
    (outcomes : Nat -> BroadcastOutcomes) :
    Option (ServerPortManager × List ServerEffect) :=
  krsServerBroadcastExcept spm channel 0 data length outcomes

/-! ## Reliable broadcasts -/

/-- The ids that `krs_server_broadcast_reliable` copies from a channel; `none`
stands for the use of a freed connection. -/
def snapshotIds (spm : ServerPortManager) (conns : List ConnectionRef) :
    Option (List UInt32) :=
  (conns.take broadcastCapacity).mapM fun connection =>
    match spm.connections[connection]? with
    | none => none
    | some conn => if conn.freed then none else some conn.connectionId

/-- The sends of `krs_server_broadcast_reliable` on one port. -/
def broadcastReliableOnDescriptor
    (spm : ServerPortManager)
    (descriptor : Nat)
    (channel : Channel)
    (data : List UInt8)
    (length : UInt16)
    (outcomes : BroadcastOutcomes) :
    Option (ServerPortManager × List ServerEffect) :=
  match spm.descriptorList[descriptor]? with
  | none => some (spm, [])
  | some desc =>
      (snapshotIds spm (desc.connectionsOf channel)).bind fun ids =>
        serverCalls
          (fun current target =>
            (krsServerSend current target.1 channel data length true
              (outcomes.clock target.2)
              (outcomes.allocations target.2)).map fun sent =>
                (sent.1, sent.2.2))
          ids.zipIdx spm

/-- `krs_server_broadcast_reliable`. -/
def krsServerBroadcastReliable
    (spm : ServerPortManager)
    (channel : Channel)
    (data : List UInt8)
    (length : UInt16)
    (outcomes : Nat -> BroadcastOutcomes) :
    Option (ServerPortManager × List ServerEffect) :=
  serverCalls
    (fun current descriptor => broadcastReliableOnDescriptor current descriptor
      channel data length (outcomes descriptor))
    (List.range spm.descriptorList.length) spm

/-! ## The datagrams of a message -/

/-- How a message is sent. -/
inductive SendCall
  | send (connectionId : UInt32) (requireAck : Bool) (clock : Nat -> UInt64)
      (allocations : SendAllocations)
  | broadcast (outcomes : Nat -> BroadcastOutcomes)
  | broadcastExcept (excludeConnectionId : UInt32)
      (outcomes : Nat -> BroadcastOutcomes)
  | broadcastReliable (outcomes : Nat -> BroadcastOutcomes)

/-- The message asks for acknowledgements. -/
def SendCall.requireAck : SendCall -> Bool
  | .send _ requireAck _ _ => requireAck
  | .broadcast _ => false
  | .broadcastExcept _ _ => false
  | .broadcastReliable _ => true

/-- A message of the application: its channel, its payload and the call that
sends it. -/
structure ServerMessage where
  channel : Channel
  payload : List UInt8
  short : payload.length < 2 ^ 16
  call : SendCall

/-- The call. -/
def ServerMessage.perform
    (message : ServerMessage)
    (spm : ServerPortManager) :
    Option (ServerPortManager × List ServerEffect) :=
  let length := UInt16.ofNat message.payload.length
  match message.call with
  | .send connectionId requireAck clock allocations =>
      (krsServerSend spm connectionId message.channel message.payload length
        requireAck clock allocations).map fun sent => (sent.1, sent.2.2)
  | .broadcast outcomes =>
      krsServerBroadcast spm message.channel message.payload length outcomes
  | .broadcastExcept excludeConnectionId outcomes =>
      krsServerBroadcastExcept spm message.channel excludeConnectionId
        message.payload length outcomes
  | .broadcastReliable outcomes =>
      krsServerBroadcastReliable spm message.channel message.payload length
        outcomes

/-- All effects are datagrams of one message, under some packet id. -/
def SendsOnly
    (channel : Channel)
    (payload : List UInt8)
    (requireAck : Bool)
    (effects : List ServerEffect) : Prop :=
  ∀ effect ∈ effects, ∃ descriptor address packetId frame,
    effect = .netSend descriptor address frame ∧
      frame ∈ wireFrames channel packetId payload requireAck

section

variable
  {channel : Channel}
  {payload : List UInt8}
  {length : UInt16}
  {requireAck : Bool}

theorem SendsOnly.nil : SendsOnly channel payload requireAck [] := by
  intro effect member
  cases member

theorem SendsOnly.append
    {first second : List ServerEffect}
    (before : SendsOnly channel payload requireAck first)
    (after : SendsOnly channel payload requireAck second) :
    SendsOnly channel payload requireAck (first ++ second) := by
  intro effect member
  rcases List.mem_append.mp member with earlier | later
  · exact before effect earlier
  · exact after effect later

/-- The frames of a message, handed to `krs_net_send_frame`. -/
theorem sendsOnly_of_wireFrames
    {packetId : UInt64}
    {frames : List (List UInt8)}
    (built : ∀ frame ∈ frames,
      frame ∈ wireFrames channel packetId payload requireAck)
    (descriptor : Nat)
    (address : PortAddress) :
    SendsOnly channel payload requireAck
      (frames.flatMap (krsNetSendFrame descriptor address)) := by
  intro effect member
  obtain ⟨frame, inFrames, sent⟩ := List.mem_flatMap.mp member
  unfold krsNetSendFrame at sent
  split at sent
  case isTrue => cases sent
  case isFalse =>
    rw [List.mem_singleton] at sent
    exact ⟨descriptor, address, packetId, frame, sent, built frame inFrames⟩

theorem mem_sendToConnection
    (whole : payload.length = length.toNat)
    {packetId : UInt64}
    {allocations : SendAllocations}
    {frame : List UInt8}
    (member : frame ∈ sendToConnection channel packetId payload length
      allocations) :
    frame ∈ wireFrames channel packetId payload false := by
  unfold sendToConnection at member
  split at member
  case h_1 => cases member
  case h_2 frames built =>
    rwa [messageFrames_eq_wireFrames whole built] at member

theorem mem_sendOn
    (whole : payload.length = length.toNat)
    {conn : ClientConnection}
    {packetId : UInt64}
    {clock : Nat -> UInt64}
    {allocations : SendAllocations}
    {frame : List UInt8}
    (member : frame ∈ (sendOn conn channel packetId payload length requireAck
      clock allocations).2.2) :
    frame ∈ wireFrames channel packetId payload requireAck := by
  unfold sendOn at member
  dsimp only at member
  split at member
  case h_1 => cases member
  case h_2 =>
    split at member
    case h_1 => cases member
    case h_2 frames built =>
      rwa [messageFrames_eq_wireFrames whole built] at member

theorem krsServerSend_sendsOnly
    (whole : payload.length = length.toNat)
    {spm after : ServerPortManager}
    {connectionId : UInt32}
    {clock : Nat -> UInt64}
    {allocations : SendAllocations}
    {result : KronosResult}
    {effects : List ServerEffect}
    (sent : krsServerSend spm connectionId channel payload length requireAck
      clock allocations = some (after, result, effects)) :
    SendsOnly channel payload requireAck effects := by
  unfold krsServerSend at sent
  dsimp only at sent
  split at sent
  case h_1 =>
    cases sent
    exact SendsOnly.nil
  case h_2 =>
    split at sent
    case h_1 =>
      split at sent
      case isTrue => cases sent
      case isFalse =>
        cases sent
        exact sendsOnly_of_wireFrames
          (fun frame member => mem_sendOn whole member) _ _
    case h_2 => cases sent

theorem broadcastOnDescriptor_sendsOnly
    (whole : payload.length = length.toNat)
    {spm after : ServerPortManager}
    {descriptor : Nat}
    {excludeId : UInt32}
    {outcomes : BroadcastOutcomes}
    {effects : List ServerEffect}
    (sent : broadcastOnDescriptor spm descriptor channel payload length
      excludeId outcomes = some (after, effects)) :
    SendsOnly channel payload false effects := by
  unfold broadcastOnDescriptor at sent
  split at sent
  case h_1 =>
    cases sent
    exact SendsOnly.nil
  case h_2 =>
    split at sent
    case h_1 =>
      cases sent
      exact SendsOnly.nil
    case h_2 =>
      obtain ⟨snapshot, -, same⟩ := Option.map_eq_some_iff.mp sent
      rw [← (Prod.mk.inj same).2]
      intro effect member
      obtain ⟨part, inParts, inPart⟩ := List.mem_flatten.mp member
      obtain ⟨index, inside, rfl⟩ := List.mem_mapIdx.mp inParts
      split at inPart
      case h_1 => cases inPart
      case h_2 =>
        exact sendsOnly_of_wireFrames
          (fun frame inFrames => mem_sendToConnection whole inFrames) _ _
          effect inPart

/-- Calls that each send one message send only that message. -/
theorem serverCalls_sendsOnly
    {step : ServerPortManager -> α ->
      Option (ServerPortManager × List ServerEffect)}
    (each : ∀ spm call after effects,
      step spm call = some (after, effects) ->
        SendsOnly channel payload requireAck effects)
    {calls : List α}
    {spm after : ServerPortManager}
    {effects : List ServerEffect}
    (ran : serverCalls step calls spm = some (after, effects)) :
    SendsOnly channel payload requireAck effects := by
  induction calls generalizing spm effects with
  | nil =>
      cases ran
      exact SendsOnly.nil
  | cons call calls inductionHypothesis =>
      obtain ⟨first, stepped, rest⟩ := Option.bind_eq_some_iff.mp ran
      obtain ⟨last, ranRest, same⟩ := Option.map_eq_some_iff.mp rest
      cases same
      exact (each _ _ _ _ stepped).append (inductionHypothesis ranRest)

theorem broadcastReliableOnDescriptor_sendsOnly
    (whole : payload.length = length.toNat)
    {spm after : ServerPortManager}
    {descriptor : Nat}
    {outcomes : BroadcastOutcomes}
    {effects : List ServerEffect}
    (sent : broadcastReliableOnDescriptor spm descriptor channel payload
      length outcomes = some (after, effects)) :
    SendsOnly channel payload true effects := by
  unfold broadcastReliableOnDescriptor at sent
  split at sent
  case h_1 =>
    cases sent
    exact SendsOnly.nil
  case h_2 =>
    obtain ⟨ids, -, ran⟩ := Option.bind_eq_some_iff.mp sent
    refine serverCalls_sendsOnly ?_ ran
    intro current target next handed stepped
    obtain ⟨⟨next, result, effects⟩, performed, same⟩ :=
      Option.map_eq_some_iff.mp stepped
    cases same
    exact krsServerSend_sendsOnly whole performed

end

/-- Every call puts only datagrams of its own message on the wire. -/
theorem ServerMessage.perform_sendsOnly
    {message : ServerMessage}
    {spm after : ServerPortManager}
    {effects : List ServerEffect}
    (performed : message.perform spm = some (after, effects)) :
    SendsOnly message.channel message.payload message.call.requireAck
      effects := by
  have whole := ofNat_length_toNat message.short
  unfold ServerMessage.perform at performed
  dsimp only at performed
  split at performed
  case h_1 connectionId requireAck clock allocations how =>
    rw [how]
    obtain ⟨⟨next, result, sent⟩, called, same⟩ :=
      Option.map_eq_some_iff.mp performed
    cases same
    exact krsServerSend_sendsOnly whole called
  case h_2 outcomes how =>
    rw [how]
    exact serverCalls_sendsOnly
      (fun _ _ _ _ => broadcastOnDescriptor_sendsOnly whole) performed
  case h_3 excludeConnectionId outcomes how =>
    rw [how]
    exact serverCalls_sendsOnly
      (fun _ _ _ _ => broadcastOnDescriptor_sendsOnly whole) performed
  case h_4 outcomes how =>
    rw [how]
    exact serverCalls_sendsOnly
      (fun _ _ _ _ => broadcastReliableOnDescriptor_sendsOnly whole) performed

end Kronos
