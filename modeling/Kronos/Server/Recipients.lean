import Kronos.Library.Blocks
import Kronos.Client.Delivery
import Kronos.Server.Broadcast
import Kronos.Server.Freeing

/-!
# Who receives a broadcast

A broadcast goes from port to port.  On each it copies the subscribers into an
array, takes a reference on each of them, draws as many packet ids, sends, and
gives the references back.  The array has 256 places: on a port with more
subscribers the rest gets nothing.  Two more things can go wrong without a word
to the caller.  A message whose frames cannot be allocated is not sent, and
without a packet counter all messages get the number zero.
-/

namespace Kronos

open Library

/-! ## What a broadcast is for -/

/-- The calls that broadcast without acknowledgements. -/
inductive BroadcastCall
  /-- `krs_server_broadcast`. -/
  | toAll
  /-- `krs_server_broadcast_except`. -/
  | except (excludeConnectionId : UInt32)
  deriving DecidableEq, Repr

/-- The call, with a payload of at most `UINT16_MAX` bytes. -/
def BroadcastCall.perform
    (call : BroadcastCall)
    (spm : ServerPortManager)
    (channel : Channel)
    (payload : List UInt8)
    (outcomes : Nat -> BroadcastOutcomes) :
    Option (ServerPortManager × List ServerEffect) :=
  let length := UInt16.ofNat payload.length
  match call with
  | .toAll => krsServerBroadcast spm channel payload length outcomes
  | .except excludeConnectionId =>
      krsServerBroadcastExcept spm channel excludeConnectionId payload length
        outcomes

/-- The connections of a port that a broadcast is for. -/
def BroadcastCall.recipients
    (call : BroadcastCall)
    (spm : ServerPortManager)
    (channel : Channel)
    (descriptor : Nat) : List ConnectionRef :=
  match call with
  | .toAll => listed spm descriptor channel
  | .except excludeConnectionId =>
      (listed spm descriptor channel).filter fun ref =>
        spm.connectionIdOf ref ≠ excludeConnectionId

/-- The datagrams of the whole message to one connection, under a packet
id. -/
def wholeMessage
    (spm : ServerPortManager)
    (channel : Channel)
    (payload : List UInt8)
    (descriptor : Nat)
    (target : ConnectionRef × UInt64) : List ServerEffect :=
  match spm.addressOf target.1 with
  | none => []
  | some address =>
      (wireFrames channel target.2 payload false).map
        (.netSend descriptor address)

/-- The outcome of a broadcast is what it is for: from each port the whole
message once to each of its recipients, under packet ids that differ, no other
datagram, and all reference counts as before. -/
def BroadcastCall.Reaches
    (call : BroadcastCall)
    (spm : ServerPortManager)
    (channel : Channel)
    (payload : List UInt8)
    (outcome : Option (ServerPortManager × List ServerEffect)) : Prop :=
  ∃ after, ∃ packetIds : Nat -> List UInt64,
    outcome = some (after, (List.range spm.descriptorList.length).flatMap
      fun descriptor =>
        ((call.recipients spm channel descriptor).zip
          (packetIds descriptor)).flatMap
            (wholeMessage spm channel payload descriptor)) ∧
    (∀ descriptor < spm.descriptorList.length,
      (packetIds descriptor).length =
          (call.recipients spm channel descriptor).length ∧
        (packetIds descriptor).Nodup) ∧
    after.connections.map ClientConnection.refcount =
      spm.connections.map ClientConnection.refcount

/-- The channel of a port has a packet counter. -/
def hasCounter
    (spm : ServerPortManager)
    (channel : Channel)
    (descriptor : Nat) : Bool :=
  match spm.descriptorList[descriptor]? with
  | none => false
  | some desc => (desc.channelStates channel).packetCounter.isSome

/-- The frames of the message with this number have their memory. -/
def BroadcastOutcomes.built
    (outcomes : BroadcastOutcomes)
    (payload : List UInt8)
    (index : Nat) : Bool :=
  (outcomes.allocations index).framesBuilt (UInt16.ofNat payload.length)

/-- A port can serve the recipients of a broadcast: the snapshot has room for
them, there is a packet counter if there is more than one, all frames get their
memory, and nobody has the id that stands for nobody. -/
structure BroadcastCall.Serves
    (call : BroadcastCall)
    (spm : ServerPortManager)
    (channel : Channel)
    (payload : List UInt8)
    (outcomes : BroadcastOutcomes)
    (descriptor : Nat) : Prop where
  room : (call.recipients spm channel descriptor).length ≤ broadcastCapacity
  counter : 2 ≤ (call.recipients spm channel descriptor).length ->
    hasCounter spm channel descriptor = true ∨ outcomes.counter = true
  frames : ∀ index < (call.recipients spm channel descriptor).length,
    outcomes.built payload index = true
  named : call = .toAll ->
    ∀ ref ∈ call.recipients spm channel descriptor,
      spm.connectionIdOf ref ≠ 0

/-- What a broadcast relies on in a channel of a port: nobody is on the list
twice, and every connection on it is allocated, not freed, and has a
reference. -/
structure SubscribersHeld
    (spm : ServerPortManager)
    (channel : Channel)
    (descriptor : Nat) : Prop where
  once : (listed spm descriptor channel).Nodup
  held : ∀ ref ∈ listed spm descriptor channel,
    ∃ conn : ClientConnection, spm.connections[ref]? = some conn ∧
      conn.freed = false ∧ 1 ≤ conn.refcount

/-! ## References -/

/-- A reference taken and given back leaves a connection that had one. -/
theorem releaseConnection_acquired
    {conn : ClientConnection}
    (referenced : 1 ≤ conn.refcount) :
    releaseConnection { conn with refcount := conn.refcount + 1 } = conn := by
  have remaining : conn.refcount + 1 - 1 = conn.refcount := by omega
  unfold releaseConnection
  dsimp only
  rw [remaining, if_pos (by omega)]

/-- References taken on different connections and given back leave the heap as
it was. -/
theorem foldl_release_acquired
    {connections : List ClientConnection}
    {refs : List ConnectionRef}
    (once : refs.Nodup)
    (referenced : ∀ ref ∈ refs, ∀ conn : ClientConnection,
      connections[ref]? = some conn -> 1 ≤ conn.refcount) :
    refs.foldl (fun current ref => current.modify ref releaseConnection)
        (refs.foldl (fun current ref => current.modify ref fun conn =>
          { conn with refcount := conn.refcount + 1 }) connections) =
      connections := by
  apply List.ext_getElem?
  intro index
  rw [getElem?_foldl_modify once, getElem?_foldl_modify once]
  split
  case isFalse => rfl
  case isTrue member =>
    cases read : connections[index]? with
    | none => rfl
    | some conn =>
        rw [Option.map_some, Option.map_some,
          releaseConnection_acquired (referenced index member conn read)]

/-- A broadcast gives back the references it has taken. -/
theorem foldl_release_numbered
    {spm : ServerPortManager}
    {refs : List ConnectionRef}
    (once : refs.Nodup)
    (referenced : ∀ ref ∈ refs, ∀ conn : ClientConnection,
      spm.connections[ref]? = some conn -> 1 ≤ conn.refcount)
    (descriptor : Nat)
    (change : UDPSocketDescriptor -> UDPSocketDescriptor) :
    refs.foldl krsConnectionMapRelease
        ((refs.foldl (fun current ref => current.modifyConnection ref
          fun conn => { conn with refcount := conn.refcount + 1 })
            spm).modifyDescriptor descriptor change) =
      spm.modifyDescriptor descriptor change := by
  rw [foldl_krsConnectionMapRelease, foldl_modifyConnection]
  simp only [ServerPortManager.modifyDescriptor]
  rw [foldl_release_acquired once referenced]

/-! ## One port -/

/-- The connections that fit into the snapshot of a port. -/
def snapshotOf
    (spm : ServerPortManager)
    (channel : Channel)
    (excludeId : UInt32)
    (descriptor : Nat) : List ConnectionRef :=
  ((listed spm descriptor channel).filter fun ref =>
    spm.connectionIdOf ref ≠ excludeId).take broadcastCapacity

/-- The packet ids that a port draws. -/
def drawnIds
    (spm : ServerPortManager)
    (channel : Channel)
    (descriptor : Nat)
    (created : Bool)
    (count : Nat) : List UInt64 :=
  match spm.descriptorList[descriptor]? with
  | none => []
  | some desc =>
      (broadcastPacketIds channel count
        (ensureCounter created (desc.channelStates channel))).1

/-- The messages of a port: to whom, and under which packet id. -/
def portTargets
    (spm : ServerPortManager)
    (channel : Channel)
    (excludeId : UInt32)
    (outcomes : BroadcastOutcomes)
    (descriptor : Nat) : List (ConnectionRef × UInt64) :=
  (snapshotOf spm channel excludeId descriptor).zip
    (drawnIds spm channel descriptor outcomes.counter
      (snapshotOf spm channel excludeId descriptor).length)

/-- The snapshot of a list whose connections are all held. -/
theorem broadcastSnapshot_of_held
    {spm : ServerPortManager}
    {conns : List ConnectionRef}
    (held : ∀ ref ∈ conns, ∃ conn : ClientConnection,
      spm.connections[ref]? = some conn ∧ conn.freed = false)
    (excludeId : UInt32)
    {snapshot : List ConnectionRef}
    (room : snapshot.length ≤ broadcastCapacity) :
    broadcastSnapshot spm excludeId snapshot conns =
      some ((snapshot ++ conns.filter fun ref =>
        spm.connectionIdOf ref ≠ excludeId).take broadcastCapacity) := by
  induction conns generalizing snapshot with
  | nil =>
      rw [broadcastSnapshot, List.filter_nil, List.append_nil,
        List.take_of_length_le room]
  | cons ref conns inductionHypothesis =>
      rw [List.forall_mem_cons] at held
      obtain ⟨⟨conn, read, alive⟩, others⟩ := held
      have ownId : spm.connectionIdOf ref = conn.connectionId := by
        rw [ServerPortManager.connectionIdOf, read]
      rw [broadcastSnapshot, List.filter_cons]
      split
      case isFalse full =>
        have exactly : snapshot.length = broadcastCapacity := by omega
        rw [List.take_append_of_le_length exactly.ge,
          List.take_of_length_le exactly.le]
      case isTrue free =>
        rw [read]
        simp only [alive, Bool.false_eq_true, if_false, ownId,
          decide_not, Bool.not_eq_true', decide_eq_false_iff_not]
        by_cases excluded : conn.connectionId = excludeId
        · rw [if_pos excluded, if_neg (not_not.mpr excluded)]
          simpa only [decide_not] using inductionHypothesis others room
        · rw [if_neg excluded, if_pos excluded]
          have longer : (snapshot ++ [ref]).length ≤ broadcastCapacity := by
            rw [List.length_append, List.length_singleton]
            omega
          rw [inductionHypothesis others longer, List.append_assoc]
          simp only [decide_not, List.singleton_append]

theorem SubscribersHeld.nodup_snapshotOf
    {spm : ServerPortManager}
    {channel : Channel}
    {descriptor : Nat}
    (held : SubscribersHeld spm channel descriptor)
    (excludeId : UInt32) :
    (snapshotOf spm channel excludeId descriptor).Nodup :=
  (held.once.filter _).take

theorem mem_listed_of_snapshotOf
    {spm : ServerPortManager}
    {channel : Channel}
    {excludeId : UInt32}
    {descriptor : Nat}
    {ref : ConnectionRef}
    (member : ref ∈ snapshotOf spm channel excludeId descriptor) :
    ref ∈ listed spm descriptor channel :=
  List.mem_of_mem_filter (List.mem_of_mem_take member)

/-- One port: the heap and the other ports stay as they are, and the targets of
the port get their datagrams. -/
theorem broadcastOnDescriptor_of_held
    {spm : ServerPortManager}
    {channel : Channel}
    {descriptor : Nat}
    (held : SubscribersHeld spm channel descriptor)
    (data : List UInt8)
    (length : UInt16)
    (excludeId : UInt32)
    (outcomes : BroadcastOutcomes) :
    ∃ after, broadcastOnDescriptor spm descriptor channel data length
        excludeId outcomes =
      some (after, broadcastEffects spm descriptor channel data length
        outcomes (portTargets spm channel excludeId outcomes descriptor)) ∧
      after.connections = spm.connections ∧
      ∀ other, other ≠ descriptor ->
        after.descriptorList[other]? = spm.descriptorList[other]? := by
  have nobody : listed spm descriptor channel = [] ->
      broadcastEffects spm descriptor channel data length outcomes
        (portTargets spm channel excludeId outcomes descriptor) = [] := by
    intro empty
    rw [portTargets, snapshotOf, empty]
    rfl
  unfold broadcastOnDescriptor
  cases read : spm.descriptorList[descriptor]? with
  | none =>
      refine ⟨spm, ?_, rfl, fun _ _ => rfl⟩
      rw [nobody (listed_of_missing read channel)]
  | some desc =>
      dsimp only
      cases stored : (desc.channelStates channel).connections with
      | none =>
          refine ⟨spm, ?_, rfl, fun _ _ => rfl⟩
          rw [nobody]
          rw [listed_of_read read, UDPSocketDescriptor.connectionsOf, stored]
          rfl
      | some conns =>
          have list : listed spm descriptor channel = conns := by
            rw [listed_of_read read, UDPSocketDescriptor.connectionsOf,
              stored]
            rfl
          have taken : broadcastSnapshot spm excludeId [] conns =
              some (snapshotOf spm channel excludeId descriptor) := by
            rw [broadcastSnapshot_of_held _ excludeId (Nat.zero_le _),
              snapshotOf, list]
            · rfl
            · intro ref member
              rw [← list] at member
              obtain ⟨conn, found, alive, -⟩ := held.held ref member
              exact ⟨conn, found, alive⟩
          have ids : ∀ count, (broadcastPacketIds channel count
              (ensureCounter outcomes.counter
                (desc.channelStates channel))).1 =
              drawnIds spm channel descriptor outcomes.counter count := by
            intro count
            rw [drawnIds, read]
          have referenced : ∀ ref ∈ snapshotOf spm channel excludeId
              descriptor, ∀ conn : ClientConnection,
                spm.connections[ref]? = some conn -> 1 ≤ conn.refcount := by
            intro ref member conn found
            obtain ⟨same, foundSame, -, positive⟩ := held.held ref
              (mem_listed_of_snapshotOf member)
            rw [found] at foundSame
            cases foundSame
            exact positive
          dsimp only
          rw [taken, Option.map_some, ids, foldl_release_numbered
            (held.nodup_snapshotOf excludeId) referenced]
          refine ⟨_, rfl, rfl, ?_⟩
          intro other different
          exact List.getElem?_modify_ne _ _ (Ne.symm different)

/-! ## Packet ids -/

theorem length_broadcastPacketIds
    (channel : Channel)
    (count : Nat)
    (state : ChannelState) :
    (broadcastPacketIds channel count state).1.length = count := by
  induction count generalizing state with
  | zero => rfl
  | succ count inductionHypothesis =>
      rw [broadcastPacketIds, List.length_cons, inductionHypothesis]

/-- A counter counts on. -/
theorem broadcastPacketIds_of_counter
    (channel : Channel)
    (count : Nat)
    {state : ChannelState}
    {counter : PacketCounter}
    (stored : state.packetCounter = some counter) :
    (broadcastPacketIds channel count state).1 =
      (List.range count).map fun index =>
        counter channel + 1 + UInt64.ofNat index := by
  induction count generalizing state counter with
  | zero => rfl
  | succ count inductionHypothesis =>
      have numbered : nextPacketId channel false state =
          (counter channel + 1,
            { state with packetCounter := some (Function.update counter
                channel (counter channel + 1)) }) := by
        rw [nextPacketId, stored]
        rfl
      rw [broadcastPacketIds, numbered]
      dsimp only
      rw [inductionHypothesis rfl, Function.update_self,
        List.range_succ_eq_map, List.map_cons, List.map_map]
      congr 1
      · exact (UInt64.add_zero _).symm
      · apply List.map_congr_left
        intro index _
        dsimp only [Function.comp]
        rw [Nat.succ_eq_add_one, UInt64.ofNat_add, UInt64.add_assoc,
          UInt64.add_comm 1 (UInt64.ofNat index)]
        rfl

/-- Without a counter every message gets the number zero. -/
theorem broadcastPacketIds_of_none
    (channel : Channel)
    (count : Nat)
    {state : ChannelState}
    (missing : state.packetCounter = none) :
    (broadcastPacketIds channel count state).1 = List.replicate count 0 := by
  induction count with
  | zero => rfl
  | succ count inductionHypothesis =>
      have numbered : nextPacketId channel false state = (0, state) := by
        rw [nextPacketId, missing]
        rfl
      rw [broadcastPacketIds, numbered, List.replicate_succ]
      dsimp only
      rw [inductionHypothesis]

theorem ensureCounter_isSome
    (created : Bool)
    (state : ChannelState) :
    (ensureCounter created state).packetCounter.isSome =
      (state.packetCounter.isSome || created) := by
  unfold ensureCounter
  cases stored : state.packetCounter with
  | some counter => simp [stored]
  | none => cases created <;> simp [stored]

section Ids

variable
  {spm : ServerPortManager}
  {channel : Channel}
  {descriptor : Nat}
  {created : Bool}
  {count : Nat}

theorem length_drawnIds
    (registered : descriptor < spm.descriptorList.length) :
    (drawnIds spm channel descriptor created count).length = count := by
  rw [drawnIds, List.getElem?_eq_getElem registered]
  exact length_broadcastPacketIds channel count _

/-- Packet ids of one counter differ. -/
theorem nodup_drawnIds
    (counter : hasCounter spm channel descriptor = true ∨ created = true)
    (few : count ≤ broadcastCapacity) :
    (drawnIds spm channel descriptor created count).Nodup := by
  unfold drawnIds
  unfold hasCounter at counter
  cases read : spm.descriptorList[descriptor]? with
  | none => exact List.nodup_nil
  | some desc =>
      rw [read] at counter
      have available : (ensureCounter created
          (desc.channelStates channel)).packetCounter.isSome = true := by
        rw [ensureCounter_isSome, Bool.or_eq_true]
        exact counter
      obtain ⟨stored, found⟩ := Option.isSome_iff_exists.mp available
      dsimp only
      rw [broadcastPacketIds_of_counter channel count found]
      refine List.Nodup.map_on ?_ List.nodup_range
      intro left leftInside right rightInside same
      rw [List.mem_range] at leftInside rightInside
      rw [broadcastCapacity] at few
      have equal := congrArg UInt64.toNat
        ((UInt64.add_right_inj _).mp same)
      simp only [UInt64.toNat_ofNat'] at equal
      omega

theorem drawnIds_of_no_counter
    (registered : descriptor < spm.descriptorList.length)
    (missing : ¬ (hasCounter spm channel descriptor = true ∨
      created = true)) :
    drawnIds spm channel descriptor created count =
      List.replicate count 0 := by
  have read := List.getElem?_eq_getElem registered
  rw [hasCounter, read] at missing
  rw [drawnIds, read]
  refine broadcastPacketIds_of_none channel count ?_
  rw [← Option.not_isSome_iff_eq_none, ensureCounter_isSome,
    Bool.or_eq_true]
  exact missing

end Ids

/-! ## Datagrams -/

/-- The number of datagrams of a message does not depend on its packet id. -/
theorem length_wireFrames
    (channel : Channel)
    (packetId : UInt64)
    {payload : List UInt8}
    (short : payload.length < 2 ^ 16)
    (requireAck : Bool) :
    (wireFrames channel packetId payload requireAck).length =
      frameCount (UInt16.ofNat payload.length) := by
  obtain ⟨frames, succeeded, count⟩ := messageFrames_built
    (framesBuilt_of_succeed _) channel packetId payload requireAck
    .networkSocketError
  rw [← messageFrames_eq_wireFrames (ofNat_length_toNat short) succeeded,
    List.length_map, count]

/-- The datagrams of a message carry its packet id. -/
theorem wireFrames_injective
    {channel : Channel}
    {payload : List UInt8}
    (short : payload.length < 2 ^ 16)
    {requireAck : Bool}
    {first second : UInt64}
    (same : wireFrames channel first payload requireAck =
      wireFrames channel second payload requireAck) :
    first = second := by
  have parsed : ∀ packetId : UInt64, ∀ frame,
      WireFrame channel packetId payload requireAck frame ->
        frame.packetId = packetId := by
    intro packetId frame wire
    cases wire with
    | whole fits => rfl
    | fragment long index chunk present => rfl
  have positive : 0 < (wireFrames channel first payload
      requireAck).length := by
    rw [length_wireFrames channel first short requireAck]
    exact frameCount_pos _
  obtain ⟨datagram, sent⟩ := List.exists_mem_of_length_pos positive
  have own := parsed first _ (krsFrameCreate_wireFrame short sent)
  rw [same] at sent
  have other := parsed second _ (krsFrameCreate_wireFrame short sent)
  exact own.symm.trans other

section Messages

variable
  {spm : ServerPortManager}
  {channel : Channel}
  {payload : List UInt8}
  {descriptor : Nat}

theorem length_wholeMessage
    (short : payload.length < 2 ^ 16)
    {target : ConnectionRef × UInt64}
    (allocated : target.1 < spm.connections.length) :
    (wholeMessage spm channel payload descriptor target).length =
      frameCount (UInt16.ofNat payload.length) := by
  rw [wholeMessage, ServerPortManager.addressOf,
    List.getElem?_eq_getElem allocated]
  exact List.length_map _ |>.trans (length_wireFrames _ _ short _)

theorem wholeMessage_injective
    (short : payload.length < 2 ^ 16)
    {ref : ConnectionRef}
    (allocated : ref < spm.connections.length)
    {first second : UInt64}
    (same : wholeMessage spm channel payload descriptor (ref, first) =
      wholeMessage spm channel payload descriptor (ref, second)) :
    first = second := by
  simp only [wholeMessage, ServerPortManager.addressOf,
    List.getElem?_eq_getElem allocated, Option.map_some] at same
  refine wireFrames_injective short (List.map_injective_iff.mpr ?_ same)
  intro left right equal
  cases equal
  rfl

/-- The port that a datagram leaves from. -/
def ServerEffect.sendingPort : ServerEffect -> Nat
  | .netSend descriptor _ _ => descriptor
  | _ => 0

theorem sendingPort_of_mem_wholeMessage
    {target : ConnectionRef × UInt64}
    {effect : ServerEffect}
    (member : effect ∈ wholeMessage spm channel payload descriptor target) :
    effect.sendingPort = descriptor := by
  unfold wholeMessage at member
  split at member
  case h_1 => cases member
  case h_2 =>
    obtain ⟨frame, -, rfl⟩ := List.mem_map.mp member
    rfl

/-- The datagrams handed to `krs_net_send_frame` are all sent. -/
theorem flatMap_krsNetSendFrame
    (channel : Channel)
    (packetId : UInt64)
    (payload : List UInt8)
    (descriptor : Nat)
    (address : PortAddress) :
    (wireFrames channel packetId payload false).flatMap
        (krsNetSendFrame descriptor address) =
      (wireFrames channel packetId payload false).map
        (.netSend descriptor address) := by
  rw [← List.flatMap_pure_eq_map]
  apply List.flatMap_congr
  intro datagram sent
  exact if_neg (wireFrames_nonempty sent)

theorem sendToConnection_eq
    (short : payload.length < 2 ^ 16)
    (channel : Channel)
    (packetId : UInt64)
    (allocations : SendAllocations) :
    sendToConnection channel packetId payload
        (UInt16.ofNat payload.length) allocations =
      if allocations.framesBuilt (UInt16.ofNat payload.length) then
        wireFrames channel packetId payload false
      else [] := by
  unfold sendToConnection
  split
  case h_1 result failed =>
    cases built : allocations.framesBuilt
        (UInt16.ofNat payload.length) with
    | false => rfl
    | true =>
        obtain ⟨frames, succeeded, -⟩ := messageFrames_built built channel
          packetId payload false .networkSocketError
        rw [failed] at succeeded
        cases succeeded
  case h_2 frames succeeded =>
    cases built : allocations.framesBuilt
        (UInt16.ofNat payload.length) with
    | true =>
        exact messageFrames_eq_wireFrames (ofNat_length_toNat short)
          succeeded
    | false =>
        obtain ⟨result, failed, -⟩ := messageFrames_not_built built channel
          packetId payload false .networkSocketError
        rw [failed] at succeeded
        cases succeeded

/-- A port sends whole messages, except those whose frames have no memory. -/
theorem broadcastEffects_eq
    (short : payload.length < 2 ^ 16)
    (outcomes : BroadcastOutcomes)
    (targets : List (ConnectionRef × UInt64)) :
    broadcastEffects spm descriptor channel payload
        (UInt16.ofNat payload.length) outcomes targets =
      keptBlocks (outcomes.built payload)
        (wholeMessage spm channel payload descriptor) targets := by
  unfold broadcastEffects keptBlocks
  congr 2
  funext index target
  rw [wholeMessage]
  cases spm.addressOf target.1 with
  | none =>
      dsimp only
      split <;> rfl
  | some address =>
      dsimp only
      rw [sendToConnection_eq short, BroadcastOutcomes.built]
      split
      case isTrue => exact flatMap_krsNetSendFrame _ _ _ _ _
      case isFalse => rfl

end Messages

/-! ## All ports -/

/-- The connection id that a call leaves out; zero stands for nobody. -/
def BroadcastCall.excludeId : BroadcastCall -> UInt32
  | .toAll => 0
  | .except excludeConnectionId => excludeConnectionId

theorem BroadcastCall.perform_eq
    (call : BroadcastCall)
    (spm : ServerPortManager)
    (channel : Channel)
    (payload : List UInt8)
    (outcomes : Nat -> BroadcastOutcomes) :
    call.perform spm channel payload outcomes =
      krsServerBroadcastExcept spm channel call.excludeId payload
        (UInt16.ofNat payload.length) outcomes := by
  cases call <;> rfl

section Calls

variable {spm current : ServerPortManager} {channel : Channel}

theorem SubscribersHeld.congr
    {descriptor : Nat}
    (held : SubscribersHeld spm channel descriptor)
    (connections : current.connections = spm.connections)
    (read : current.descriptorList[descriptor]? =
      spm.descriptorList[descriptor]?) :
    SubscribersHeld current channel descriptor := by
  have list : listed current descriptor channel =
      listed spm descriptor channel := by
    rw [listed, listed, read]
  constructor
  · rw [list]
    exact held.once
  · rw [list, connections]
    exact held.held

/-- What a port sends depends on the heap and on the port. -/
theorem broadcastEffects_congr
    (connections : current.connections = spm.connections)
    {descriptor : Nat}
    (read : current.descriptorList[descriptor]? =
      spm.descriptorList[descriptor]?)
    (channel : Channel)
    (data : List UInt8)
    (length : UInt16)
    (excludeId : UInt32)
    (outcomes : BroadcastOutcomes) :
    broadcastEffects current descriptor channel data length outcomes
        (portTargets current channel excludeId outcomes descriptor) =
      broadcastEffects spm descriptor channel data length outcomes
        (portTargets spm channel excludeId outcomes descriptor) := by
  have addresses : current.addressOf = spm.addressOf := by
    funext ref
    rw [ServerPortManager.addressOf, ServerPortManager.addressOf,
      connections]
  have ids : current.connectionIdOf = spm.connectionIdOf := by
    funext ref
    rw [ServerPortManager.connectionIdOf, ServerPortManager.connectionIdOf,
      connections]
  unfold broadcastEffects portTargets snapshotOf drawnIds
  rw [addresses, ids, read, listed, listed, read]

/-- All ports, one after the other. -/
theorem serverCalls_broadcast
    (data : List UInt8)
    (length : UInt16)
    (excludeId : UInt32)
    (outcomes : Nat -> BroadcastOutcomes)
    {descriptors : List Nat}
    (once : descriptors.Nodup)
    (held : ∀ descriptor ∈ descriptors,
      SubscribersHeld spm channel descriptor)
    (connections : current.connections = spm.connections)
    (read : ∀ descriptor ∈ descriptors,
      current.descriptorList[descriptor]? =
        spm.descriptorList[descriptor]?) :
    ∃ after, serverCalls (fun current descriptor =>
        broadcastOnDescriptor current descriptor channel data length
          excludeId (outcomes descriptor)) descriptors current =
      some (after, descriptors.flatMap fun descriptor =>
        broadcastEffects spm descriptor channel data length
          (outcomes descriptor)
          (portTargets spm channel excludeId (outcomes descriptor)
            descriptor)) ∧
      after.connections = spm.connections := by
  induction descriptors generalizing current with
  | nil => exact ⟨current, rfl, connections⟩
  | cons descriptor descriptors inductionHypothesis =>
      obtain ⟨absent, once⟩ := List.nodup_cons.mp once
      rw [List.forall_mem_cons] at held read
      obtain ⟨next, sent, sameHeap, otherPorts⟩ :=
        broadcastOnDescriptor_of_held
          (held.1.congr connections read.1) data length excludeId
          (outcomes descriptor)
      have later : ∀ other ∈ descriptors,
          next.descriptorList[other]? = spm.descriptorList[other]? := by
        intro other member
        rw [otherPorts other (ne_of_mem_of_not_mem member absent)]
        exact read.2 other member
      obtain ⟨after, rest, heap⟩ := inductionHypothesis once held.2
        (sameHeap.trans connections) later
      refine ⟨after, ?_, heap⟩
      rw [serverCalls, sent, Option.bind_some]
      dsimp only
      rw [rest, Option.map_some, List.flatMap_cons,
        broadcastEffects_congr connections read.1]

end Calls

/-- A broadcast leaves the heap as it was; each port sends to its targets. -/
theorem BroadcastCall.perform_of_held
    (call : BroadcastCall)
    {spm : ServerPortManager}
    {channel : Channel}
    (held : ∀ descriptor, SubscribersHeld spm channel descriptor)
    {payload : List UInt8}
    (short : payload.length < 2 ^ 16)
    (outcomes : Nat -> BroadcastOutcomes) :
    ∃ after, call.perform spm channel payload outcomes =
      some (after, (List.range spm.descriptorList.length).flatMap
        fun descriptor =>
          keptBlocks ((outcomes descriptor).built payload)
            (wholeMessage spm channel payload descriptor)
            (portTargets spm channel call.excludeId (outcomes descriptor)
              descriptor)) ∧
      after.connections = spm.connections := by
  obtain ⟨after, ran, heap⟩ := serverCalls_broadcast payload
    (UInt16.ofNat payload.length) call.excludeId outcomes
    (List.nodup_range (n := spm.descriptorList.length))
    (fun descriptor _ => held descriptor) rfl (fun _ _ => rfl)
  refine ⟨after, ?_, heap⟩
  rw [call.perform_eq, krsServerBroadcastExcept, ran]
  simp only [broadcastEffects_eq short]

end Kronos
