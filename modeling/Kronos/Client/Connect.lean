import Kronos.Client.Subscription
import Kronos.Server.DatagramHeap
import Kronos.Server.Eviction

/-!
# Connecting

`krs_client_server_connect` sends a `CONNECTION` and takes the first datagram
that arrives for the answer.  The connection id that it reads from a
`SOCKET_ACK` is the one of a connection that the server has created for the
client's address, and of no other connection, until the 32-bit counter of ids
has gone around.
-/

namespace Kronos

open Library

/-! ## The call -/

/-- Outcomes of what the call asks for: the socket, the builder, `WSASendTo`,
and the allocations of the connection and of its packet counter. -/
structure ConnectOutcomes where
  socket : Bool := true
  builder : Bool := true
  sent : Bool := true
  connection : Bool := true
  counter : Bool := true
  deriving DecidableEq, Repr

/-- The connection id in the body of a `SOCKET_ACK`. -/
def connectionIdOfBody (body : List UInt8) : UInt32 :=
  UInt32.ofNat ((byteAt body 0).toNat <<< 24 |||
    ((byteAt body 1).toNat <<< 16 |||
      ((byteAt body 2).toNat <<< 8 ||| (byteAt body 3).toNat)))

/-- What `krs_client_server_connect` reads from the datagram that `recvfrom`
delivers into its 128 bytes; nothing if that is not a well-formed
`SOCKET_ACK`. -/
def connectReply (datagram : List UInt8) : Option UInt32 :=
  if datagram.length > 128 then none
  else
    let frame := krsFrameCreate datagram 32
    if frame.protocolChar ≠ 0x4B ∨
        frame.frameType ≠ FrameType.socketAck.code ∨
        frame.body.length < 4 then none
    else some (connectionIdOfBody frame.body)

/-- `krs_client_server_connect`: the connection, and the datagrams sent.  The
argument `received` is the datagram that arrives in time, if any. -/
def krsClientServerConnect
    (outcomes : ConnectOutcomes)
    (received : Option (List UInt8))
    (now : UInt64) : Option ServerConnection × List (List UInt8) :=
  let request := controlFrame 0 .connection
  if !outcomes.socket || !outcomes.builder || request.length = 0 ||
      !outcomes.sent then
    (none, [])
  else
    ((received.bind connectReply).bind fun connectionId =>
        if outcomes.connection then
          some
            { connectionId := connectionId
              packetCounter :=
                if outcomes.counter then some krsPacketCounterCreate else none
              lastHeartbeatSentMs := now }
        else none,
      [request])

theorem connectReply_of_heads
    {datagram : List UInt8}
    {channel : Channel}
    {type : FrameType}
    {packetId : UInt64}
    {flags : UInt16}
    (heads : Heads datagram channel type packetId flags)
    (other : type ≠ .socketAck) :
    connectReply datagram = none := by
  unfold connectReply
  split
  case isTrue => rfl
  case isFalse =>
    dsimp only
    by_cases accepted : (krsFrameCreate datagram 32).protocolChar = 0x4B
    · rw [if_pos]
      refine Or.inr (Or.inl ?_)
      rw [(krsFrameCreate_of_heads heads accepted).2.1]
      exact fun same => other (FrameType.code_injective same)
    · rw [if_pos (Or.inl accepted)]

/-- The builder of the `SOCKET_ACK` for a connection. -/
def socketAckBuilder (connectionId : UInt32) : FrameBuilder :=
  (krsFrameBuilderCreate 0 .socketAck).setData
    (some (socketAckBody connectionId)) 4

/-- The `SOCKET_ACK` for a connection. -/
def socketAckFrame (connectionId : UInt32) : List UInt8 :=
  serializeToBuffer (socketAckBuilder connectionId) kronosBufferSize

theorem connectionIdOfBody_socketAckBody (connectionId : UInt32) :
    connectionIdOfBody (socketAckBody connectionId) = connectionId := by
  have bytes : socketAckBody connectionId =
      bigEndian 4 connectionId.toNat := by
    have low : ∀ value : Nat,
        UInt8.ofNat (value &&& 0xFF) = UInt8.ofNat value := by
      intro value
      apply UInt8.toNat_inj.mp
      simp [Nat.and_two_pow_sub_one_eq_mod value 8]
    simp only [socketAckBody, low, bigEndian, Nat.shiftRight_eq_div_pow]
    norm_num
  have digits : connectionIdOfBody (bigEndian 4 connectionId.toNat) =
      UInt32.ofNat (shiftedOr (bigEndian 4 connectionId.toNat)) :=
    congrArg UInt32.ofNat (by simp [bigEndian, shiftedOr, byteAt])
  rw [bytes, digits, shiftedOr_eq_fromBigEndian,
    fromBigEndian_bigEndian_of_lt (by simpa using connectionId.toNat_lt),
    UInt32.ofNat_toNat]

/-- The client reads the connection id from the `SOCKET_ACK`. -/
theorem connectReply_socketAckFrame (connectionId : UInt32) :
    connectReply (socketAckFrame connectionId) = some connectionId := by
  have payload : (socketAckBuilder connectionId).data =
      some (socketAckBody connectionId) := rfl
  have sized : (socketAckBody connectionId).length =
      (socketAckBuilder connectionId).dataLength.toNat := rfl
  have length := (socketAckBuilder connectionId).length_serializedBytes
    payload sized
  have plain : krsFrameMetadataBlockLength
      (socketAckBuilder connectionId).presenceFlags = 0 := by
    change krsFrameMetadataBlockLength 0 = 0
    decide
  have four : (socketAckBody connectionId).length = 4 := rfl
  rw [plain, four] at length
  simp only [kronosFrameHeaderLength] at length
  have written : socketAckFrame connectionId =
      (socketAckBuilder connectionId).serializedBytes :=
    serializeToBuffer_eq (socketAckBuilder connectionId) payload sized
      (by rw [kronosBufferSize]; omega) (by omega)
  have parsed := @createFrame_serializedBytes
    (socketAckBuilder connectionId) _ 32 payload sized (by rw [four]; decide)
  rw [connectReply, if_neg (by rw [written]; omega), written]
  dsimp only
  rw [parsed, if_neg]
  · exact congrArg some (connectionIdOfBody_socketAckBody connectionId)
  · rintro (protocol | type | short)
    · exact protocol rfl
    · exact type rfl
    · exact Nat.lt_irrefl 4 short

/-! ## The ids of the server -/

/-- What an event does to the connections and to the counter of ids: every
connection keeps its id and its address, the counter moves on by one at most,
and a new connection gets the new number. -/
def IssuesIds (before after : ServerPortManager) : Prop :=
  (IndexRelated (fun _ => SameIdentity) before.connections
      after.connections ∧
    (after.nextConnectionId = before.nextConnectionId ∨
      after.nextConnectionId = before.nextConnectionId + 1)) ∨
  ∃ conn : ClientConnection,
    after.connections = before.connections ++ [conn] ∧
      conn.connectionId = before.nextConnectionId + 1 ∧
      after.nextConnectionId = before.nextConnectionId + 1

/-- If the client connects with the datagram, it does so with the id of a
connection for its address. -/
def ConnectsTruly
    (heap : List ClientConnection)
    (address : PortAddress)
    (datagram : List UInt8) : Prop :=
  ∀ connectionId, connectReply datagram = some connectionId ->
    ∃ (ref : ConnectionRef) (conn : ClientConnection),
      heap[ref]? = some conn ∧ conn.remoteAddress = address ∧
        conn.connectionId = connectionId

section Server

variable {before after : ServerPortManager}

theorem IssuesIds.of_heap
    (heap : IndexRelated (fun _ => SameIdentity) before.connections
      after.connections)
    (counter : after.nextConnectionId = before.nextConnectionId) :
    IssuesIds before after := Or.inl ⟨heap, Or.inl counter⟩

/-- Connections stay what they are. -/
theorem IssuesIds.connectsTruly
    (issues : IssuesIds before after)
    {address : PortAddress}
    {datagram : List UInt8}
    (truly : ConnectsTruly before.connections address datagram) :
    ConnectsTruly after.connections address datagram := by
  intro connectionId replied
  obtain ⟨ref, conn, read, owner, named⟩ := truly connectionId replied
  obtain ⟨inside, -⟩ := List.getElem?_eq_some_iff.mp read
  rcases issues with ⟨heap, -⟩ | ⟨new, grown, -, -⟩
  · have present := List.getElem?_eq_getElem (heap.1.symm ▸ inside)
    have same := heap.2 ref conn _ read present
    exact ⟨ref, _, present, same.remoteAddress.trans owner,
      same.connectionId.trans named⟩
  · refine ⟨ref, conn, ?_, owner, named⟩
    rw [grown, List.getElem?_append_left inside]
    exact read

theorem sendSocketAck_connectsTruly
    {descriptor : Nat}
    {remoteAddr : PortAddress}
    {ref : ConnectionRef}
    {conn : ClientConnection}
    {heap : List ClientConnection}
    (read : heap[ref]? = some conn)
    (owner : conn.remoteAddress = remoteAddr)
    {built : Bool}
    {port : Nat}
    {address : PortAddress}
    {frame : List UInt8}
    (member : .netSend port address frame ∈
      sendSocketAck descriptor remoteAddr conn.connectionId built) :
    ConnectsTruly heap address frame := by
  unfold sendSocketAck krsNetSendFrame at member
  split_ifs at member
  · cases member
  · cases List.mem_singleton.mp member
    intro connectionId replied
    have own := connectReply_socketAckFrame conn.connectionId
    rw [socketAckFrame, socketAckBuilder, replied] at own
    exact ⟨ref, conn, read, owner, (Option.some.inj own).symm⟩
  · cases member

/-- A `CONNECTION` is answered with the id of a connection for its address. -/
theorem dispatchConnection_issuesIds
    (spm : ServerPortManager)
    (descriptor : Nat)
    (remoteAddr : PortAddress)
    (now : UInt64)
    (allocations : ConnectAllocations) :
    let handled := dispatchConnection spm descriptor remoteAddr now
      allocations
    IssuesIds spm handled.1 ∧
      ∀ port address frame, .netSend port address frame ∈ handled.2 ->
        ConnectsTruly handled.1.connections address frame := by
  have same : IndexRelated (fun _ => SameIdentity) spm.connections
      spm.connections := IndexRelated.refl (fun _ => SameIdentity.refl) _
  unfold dispatchConnection krsServerHandleConnectionFrame
  simp only
  split
  case h_1 =>
    exact ⟨.of_heap same rfl, fun _ _ _ member => by cases member⟩
  case h_2 desc _ =>
    split
    case h_1 existing found =>
      have owned := List.find?_some found
      obtain ⟨conn, read, owner⟩ := Option.map_eq_some_iff.mp
        ((hasAddress_iff _ remoteAddr existing).mp owned)
      refine ⟨.of_heap ?_ rfl, ?_⟩
      · exact IndexRelated.modify (fun _ => SameIdentity.refl) _ existing
          fun conn _ => ⟨rfl, rfl⟩
      · intro port address frame member
        have named : (spm.modifyDescriptor descriptor
            (·.modifyChannel 0
              (ensureConnections allocations.array))).connectionIdOf
                existing = conn.connectionId := by
          rw [ServerPortManager.connectionIdOf, read]
        dsimp only at member
        rw [named] at member
        have refreshed : (spm.connections.modify existing fun conn =>
            { conn with lastHeartbeatMs := now })[existing]? =
              some { conn with lastHeartbeatMs := now } := by
          rw [List.getElem?_modify_eq]
          change Option.map _ spm.connections[existing]? = _
          change spm.connections[existing]? = _ at read
          rw [read]
          rfl
        exact @sendSocketAck_connectsTruly descriptor remoteAddr existing
          { conn with lastHeartbeatMs := now } _ refreshed owner
          allocations.ackBuilt port address frame member
    case h_2 =>
      unfold acceptConnection
      split
      case isTrue =>
        exact ⟨.of_heap same rfl, fun _ _ _ member => by cases member⟩
      case isFalse =>
        simp only
        split
        case isTrue =>
          exact ⟨Or.inl ⟨same, Or.inr rfl⟩,
            fun _ _ _ member => by cases member⟩
        case isFalse =>
          refine ⟨Or.inr ⟨_, rfl, rfl, rfl⟩, ?_⟩
          intro port address frame member
          rcases List.mem_append.mp member with answer | callback
          · have created : (spm.connections ++
                [{ connectionId := spm.nextConnectionId + 1
                   remoteAddress := remoteAddr
                   lastHeartbeatMs := now }])[spm.connections.length]? =
                some
                  { connectionId := spm.nextConnectionId + 1
                    remoteAddress := remoteAddr
                    lastHeartbeatMs := now } := List.getElem?_concat_length
            exact sendSocketAck_connectsTruly created rfl answer
          · split at callback
            case h_1 => cases callback
            case h_2 => cases List.mem_singleton.mp callback

theorem acknowledged_issuesIds
    (spm : ServerPortManager)
    (frame : Frame)
    (remoteAddr : PortAddress)
    (now : UInt64) :
    IssuesIds spm (dispatchAck spm frame remoteAddr now) := by
  refine .of_heap (dispatchAck_calm spm frame remoteAddr now).heap ?_
  unfold dispatchAck
  dsimp only
  split
  case isTrue => rfl
  case isFalse => split <;> rfl

theorem handleDatagram_issuesIds
    {descriptor : Nat}
    {bytes : List UInt8}
    {remoteAddr : PortAddress}
    {input : HandlerInput}
    {effects : List ServerEffect}
    (handled : handleDatagram before descriptor bytes remoteAddr input =
      some (after, effects)) :
    IssuesIds before after ∧
      ∀ port address frame, .netSend port address frame ∈ effects ->
        ConnectsTruly after.connections address frame := by
  have same : IndexRelated (fun _ => SameIdentity) before.connections
      before.connections := IndexRelated.refl (fun _ => SameIdentity.refl) _
  unfold handleDatagram at handled
  dsimp only at handled
  split at handled
  case isTrue =>
    cases handled
    exact ⟨.of_heap same rfl, fun _ _ _ member => by cases member⟩
  case isFalse =>
    cases routeFrame_outcome handled with
    | connection connected =>
        have issues := dispatchConnection_issuesIds
          { before with
            stats :=
              { before.stats with
                messagesReceived := before.stats.messagesReceived + 1 } }
          descriptor remoteAddr input.now input.connect
        rw [connected] at issues
        exact issues
    | acknowledgement type acknowledged silent =>
        rw [← acknowledged, silent]
        exact ⟨acknowledged_issuesIds _ _ _ _,
          fun _ _ _ member => by cases member⟩
    | plain plainly =>
        refine ⟨.of_heap (plainly.heap.mono
          fun _ _ _ released => released.identity) plainly.counter, ?_⟩
        intro port address frame member connectionId replied
        obtain ⟨channel, packetId, rfl⟩ :=
          plainly.acks port address frame member
        rw [connectReply_of_heads (ackResponse_heads channel packetId)
          (by decide)] at replied
        cases replied

theorem krsServerFinalizeOrphanEvictions_nextConnectionId
    (spm : ServerPortManager)
    (descriptor : Nat)
    (orphans : List ConnectionRef) :
    (krsServerFinalizeOrphanEvictions spm descriptor
      orphans).1.nextConnectionId = spm.nextConnectionId := by
  unfold krsServerFinalizeOrphanEvictions
  split
  case isTrue => rfl
  case isFalse =>
    dsimp only
    rw [foldl_krsConnectionMapRelease]

theorem evictAll_nextConnectionId
    (spm : ServerPortManager)
    (clock : Nat -> UInt64) :
    (evictAll spm clock).1.nextConnectionId = spm.nextConnectionId := by
  have loop : ∀ (descriptors : List Nat)
      (current : ServerPortManager × List ServerEffect),
      (descriptors.foldl (fun current descriptor =>
        let evicted := evictDescriptor current.1 (clock descriptor) descriptor
        (evicted.1, current.2 ++ evicted.2)) current).1.nextConnectionId =
          current.1.nextConnectionId := by
    intro descriptors
    induction descriptors with
    | nil => exact fun _ => rfl
    | cons descriptor descriptors inductionHypothesis =>
        intro current
        rw [List.foldl_cons, inductionHypothesis]
        dsimp only
        unfold evictDescriptor
        split
        case h_1 => rfl
        case h_2 =>
          dsimp only
          rw [krsServerFinalizeOrphanEvictions_nextConnectionId]
          rfl
  exact loop _ (spm, [])

/-- A tick leaves the connections their ids and their addresses. -/
theorem retransmitTick_identity
    (spm : ServerPortManager)
    (clock : TickClock) :
    IndexRelated (fun _ => SameIdentity) spm.connections
      (retransmitTick spm clock).1.connections := by
  have heap := collectAll_related SameIdentity.refl
    (fun _ _ _ => SameIdentity.trans)
    (fun callback descriptor ref now buffers conn =>
      (collectConnection_identity callback descriptor ref now buffers
        conn).1) spm clock.check
  unfold retransmitTick
  dsimp only
  generalize collectAll spm clock.check = collected at *
  refine heap.trans (fun _ _ _ _ => SameIdentity.trans) ?_
  exact (evictAll_effect _ clock.evict).1.mono
    fun _ _ _ released => released.identity

theorem retransmitTick_issuesIds
    (spm : ServerPortManager)
    (clock : TickClock) :
    IssuesIds spm (retransmitTick spm clock).1 := by
  refine .of_heap (retransmitTick_identity spm clock) ?_
  have counter : (collectAll spm clock.check).2.nextConnectionId =
      spm.nextConnectionId := by
    rw [collectAll_eq]
  exact (evictAll_nextConnectionId _ _).trans counter

/-- One event. -/
theorem serverEffect_issuesIds
    {event : ServerEvent}
    {effects : List ServerEffect}
    (taken : serverEffect before event = some (after, effects)) :
    IssuesIds before after := by
  cases event with
  | datagram descriptor bytes remoteAddr input =>
      exact (handleDatagram_issuesIds taken).1
  | tick clock =>
      cases taken
      exact retransmitTick_issuesIds before clock
  | send connectionId channel data length requireAck clock allocations =>
      obtain ⟨⟨next, result, sends⟩, returned, same⟩ :=
        Option.map_eq_some_iff.mp taken
      cases same
      refine .of_heap (krsServerSend_calm returned).heap ?_
      unfold krsServerSend at returned
      dsimp only at returned
      split at returned
      case h_1 =>
        cases returned
        rfl
      case h_2 =>
        split at returned
        case h_2 => cases returned
        case h_1 =>
          split at returned
          case isTrue => cases returned
          case isFalse =>
            cases returned
            rfl

/-- A client connects with a frame of an event only as the server has it. -/
theorem serverEffect_connectsTruly
    {event : ServerEvent}
    {effects : List ServerEffect}
    (stores : ∀ conn ∈ before.connections, StoresMessages conn)
    (taken : serverEffect before event = some (after, effects))
    {address : PortAddress}
    {frame : List UInt8}
    (sent : frame ∈ sentTo address effects) :
    ConnectsTruly after.connections address frame := by
  rcases serverEffect_sentTo stores taken sent with
    ⟨channel, packetId, flags, heads⟩ | ⟨descriptor, bytes, input, rfl, -⟩
  · intro connectionId replied
    rw [connectReply_of_heads heads (by decide)] at replied
    cases replied
  · obtain ⟨effect, member, framed⟩ := List.mem_filterMap.mp sent
    have quiet := (handleDatagram_effect taken).quiet effect member
    rcases ServerEffect.frameTo_eq_some framed with ⟨port, rfl⟩ |
      ⟨port, ref, entry, rfl⟩
    · exact (handleDatagram_issuesIds taken).2 port address frame member
    · cases quiet

end Server

/-! ## Runs -/

/-- Connections have the ids that the counter went through, in order, and
everything sent to an address lets a client there connect only as the server
has it. -/
structure ConnectInvariant (budget : Nat) (current : ServerRun) : Prop where
  stores : RunHolds (fun _ _ conn => StoresMessages conn) current
  counter : current.spm.nextConnectionId.toNat ≤ budget
  issued : ∀ (ref : ConnectionRef) (conn : ClientConnection),
    current.spm.connections[ref]? = some conn ->
      0 < conn.connectionId.toNat ∧
        conn.connectionId.toNat ≤ current.spm.nextConnectionId.toNat
  ordered : ∀ (ref other : ConnectionRef) (conn later : ClientConnection),
    current.spm.connections[ref]? = some conn ->
      current.spm.connections[other]? = some later -> ref < other ->
        conn.connectionId.toNat < later.connectionId.toNat
  answers : ∀ address, ∀ datagram ∈ sentTo address current.log,
    ConnectsTruly current.spm.connections address datagram

theorem toNat_succ_of_lt
    {number : UInt32}
    {budget : Nat}
    (bounded : number.toNat ≤ budget)
    (few : budget + 1 < 2 ^ 32) :
    (number + 1).toNat = number.toNat + 1 := by
  rw [UInt32.toNat_add]
  exact Nat.mod_eq_of_lt (by
    rw [show (1 : UInt32).toNat = 1 from rfl]
    omega)

theorem ConnectInvariant.step
    {budget : Nat}
    (few : budget + 1 < 2 ^ 32)
    {current next : ServerRun}
    (invariant : ConnectInvariant budget current)
    {event : ServerEvent}
    (taken : serverStep current event = some next) :
    ConnectInvariant (budget + 1) next := by
  have stores := invariant.stores.step storesMessages_connectionInvariant
    trivial taken
  obtain ⟨⟨spm, effects⟩, effect, rfl⟩ := Option.map_eq_some_iff.mp taken
  have issues := serverEffect_issuesIds effect
  have succ := toNat_succ_of_lt invariant.counter few
  have bound := invariant.counter
  refine ⟨stores, ?_, ?_, ?_, ?_⟩
  · rcases issues with ⟨-, same | moved⟩ | ⟨-, -, -, moved⟩
    · rw [same]
      omega
    · rw [moved, succ]
      omega
    · rw [moved, succ]
      omega
  · intro ref conn read
    rcases issues with ⟨heap, counter⟩ | ⟨new, grown, named, moved⟩
    · have inside := (List.getElem?_eq_some_iff.mp read).1
      have present := List.getElem?_eq_getElem (heap.1 ▸ inside)
      have old := invariant.issued ref _ present
      rw [(heap.2 ref _ conn present read).connectionId]
      refine ⟨old.1, old.2.trans ?_⟩
      rcases counter with same | moved
      · rw [same]
      · rw [moved, succ]
        omega
    · rw [grown] at read
      rw [moved, succ]
      rcases Nat.lt_or_ge ref current.spm.connections.length with
        inside | outside
      · rw [List.getElem?_append_left inside] at read
        have old := invariant.issued ref conn read
        omega
      · rw [List.getElem?_append_right outside] at read
        rw [List.mem_singleton.mp (List.mem_of_getElem? read), named, succ]
        omega
  · intro ref other conn later read laterRead before
    rcases issues with ⟨heap, -⟩ | ⟨new, grown, named, -⟩
    · have inside := (List.getElem?_eq_some_iff.mp read).1
      have laterInside := (List.getElem?_eq_some_iff.mp laterRead).1
      have present := List.getElem?_eq_getElem (heap.1 ▸ inside)
      have laterPresent := List.getElem?_eq_getElem (heap.1 ▸ laterInside)
      rw [(heap.2 ref _ conn present read).connectionId,
        (heap.2 other _ later laterPresent laterRead).connectionId]
      exact invariant.ordered ref other _ _ present laterPresent before
    · rw [grown] at read laterRead
      rcases Nat.lt_or_ge other current.spm.connections.length with
        inside | outside
      · rw [List.getElem?_append_left inside] at laterRead
        rw [List.getElem?_append_left (before.trans inside)] at read
        exact invariant.ordered ref other conn later read laterRead before
      · have last : other < (current.spm.connections ++ [new]).length :=
          (List.getElem?_eq_some_iff.mp laterRead).1
        rw [List.length_append, List.length_singleton] at last
        rw [List.getElem?_append_right outside] at laterRead
        have smaller : ref < current.spm.connections.length :=
          Nat.lt_of_lt_of_le before (Nat.le_of_lt_succ last)
        rw [List.getElem?_append_left smaller] at read
        have old := invariant.issued ref conn read
        rw [List.mem_singleton.mp (List.mem_of_getElem? laterRead), named,
          succ]
        omega
  · intro address datagram sent
    rw [sentTo_append] at sent
    rcases List.mem_append.mp sent with earlier | now
    · exact issues.connectsTruly (invariant.answers address datagram earlier)
    · refine serverEffect_connectsTruly ?_ effect now
      intro conn member
      obtain ⟨ref, read⟩ := List.getElem?_of_mem member
      exact invariant.stores.connections ref conn read

theorem ConnectInvariant.run
    {budget : Nat}
    {current final : ServerRun}
    (invariant : ConnectInvariant budget current)
    {events : List ServerEvent}
    (few : budget + events.length < 2 ^ 32)
    (reached : Library.run serverStep current events = some final) :
    ConnectInvariant (budget + events.length) final := by
  induction events generalizing budget current with
  | nil =>
      cases reached
      exact invariant
  | cons event events inductionHypothesis =>
      rw [run_cons] at reached
      obtain ⟨next, taken, rest⟩ := Option.bind_eq_some_iff.mp reached
      rw [List.length_cons] at few ⊢
      have stepped := invariant.step (by omega) taken
      have ran := inductionHypothesis stepped (by omega) rest
      rw [show budget + (events.length + 1) = budget + 1 + events.length by
        omega]
      exact ran

theorem ConnectInvariant.start (descriptorList : List UDPSocketDescriptor) :
    ConnectInvariant 0 (runStart descriptorList) where
  stores := RunHolds.start _ descriptorList
  counter := Nat.le_refl 0
  issued := fun ref conn read => by cases read
  ordered := fun ref other conn later read => by cases read
  answers := fun address => List.forall_mem_nil _

/-- The client's connection and one connection of the server agree: it was
created for the client's address, it has the client's id, which is not zero, and
no other connection has it. -/
def AgreesWith
    (spm : ServerPortManager)
    (address : PortAddress)
    (client : ServerConnection) : Prop :=
  client.connectionId ≠ 0 ∧
    ∃ (ref : ConnectionRef) (conn : ClientConnection),
      spm.connections[ref]? = some conn ∧ conn.remoteAddress = address ∧
        conn.connectionId = client.connectionId ∧
        ∀ (other : ConnectionRef) (same : ClientConnection),
          spm.connections[other]? = some same ->
            same.connectionId = client.connectionId -> other = ref

/-- The client that a datagram of the server makes. -/
theorem ConnectInvariant.client_agrees
    {budget : Nat}
    {final : ServerRun}
    (invariant : ConnectInvariant budget final)
    {address : PortAddress}
    {datagram : List UInt8}
    (arrived : datagram ∈ sentTo address final.log)
    {outcomes : ConnectOutcomes}
    {now : UInt64}
    {client : ServerConnection}
    (connected : (krsClientServerConnect outcomes (some datagram) now).1 =
      some client) :
    FreshClient client ∧ AgreesWith final.spm address client := by
  unfold krsClientServerConnect at connected
  dsimp only at connected
  split at connected
  case isTrue => cases connected
  case isFalse =>
    obtain ⟨connectionId, replied, created⟩ :=
      Option.bind_eq_some_iff.mp connected
    split at created
    case isFalse => cases created
    case isTrue =>
      cases created
      obtain ⟨ref, conn, read, owner, named⟩ :=
        invariant.answers address datagram arrived connectionId replied
      have issued := invariant.issued ref conn read
      rw [named] at issued
      refine ⟨⟨rfl, rfl, rfl, rfl, fun _ => rfl⟩, ?_, ref, conn, read, owner,
        named, ?_⟩
      · rintro rfl
        exact absurd issued.1 (Nat.lt_irrefl 0)
      · intro other same sameRead sameNamed
        rcases Nat.lt_trichotomy other ref with before | equal | after
        · have ordered := invariant.ordered other ref same conn sameRead read
            before
          rw [sameNamed, named] at ordered
          exact absurd ordered (Nat.lt_irrefl _)
        · exact equal
        · have ordered := invariant.ordered ref other conn same read sameRead
            after
          rw [sameNamed, named] at ordered
          exact absurd ordered (Nat.lt_irrefl _)

/-- In every run of a server with fewer than 2^32 events whose connection map can
always grow, whatever its clients send and however datagrams to them are lost,
repeated and delayed: a client that `krs_client_server_connect` returns for a
datagram ever sent to its address has no subscriptions, is not receiving, and
agrees with one connection of the server. -/
theorem connected_clients_agree
    {descriptorList : List UDPSocketDescriptor}
    {events : List ServerEvent}
    (few : events.length < 2 ^ 32)
    {final : ServerRun}
    (reached : run serverStep (runStart descriptorList) events = some final)
    {address : PortAddress}
    {datagram : List UInt8}
    (arrived : datagram ∈ sentTo address final.log)
    {outcomes : ConnectOutcomes}
    {now : UInt64}
    {client : ServerConnection}
    (connected : (krsClientServerConnect outcomes (some datagram) now).1 =
      some client) :
    FreshClient client ∧ AgreesWith final.spm address client :=
  ((ConnectInvariant.start descriptorList).run (by omega)
    reached).client_agrees arrived connected

/-- Clients with the same id have the same address. -/
theorem address_of_same_id
    {descriptorList : List UDPSocketDescriptor}
    {events : List ServerEvent}
    (few : events.length < 2 ^ 32)
    {final : ServerRun}
    (reached : run serverStep (runStart descriptorList) events = some final)
    {address other : PortAddress}
    {datagram reply : List UInt8}
    (arrived : datagram ∈ sentTo address final.log)
    (replied : reply ∈ sentTo other final.log)
    {outcomes otherOutcomes : ConnectOutcomes}
    {now later : UInt64}
    {client second : ServerConnection}
    (connected : (krsClientServerConnect outcomes (some datagram) now).1 =
      some client)
    (joined : (krsClientServerConnect otherOutcomes (some reply) later).1 =
      some second)
    (sameId : second.connectionId = client.connectionId) :
    other = address := by
  have invariant := (ConnectInvariant.start descriptorList).run
    (by omega) reached
  obtain ⟨-, -, ref, conn, read, owner, -, only⟩ :=
    invariant.client_agrees arrived connected
  obtain ⟨-, -, otherRef, otherConn, otherRead, otherOwner, named, -⟩ :=
    invariant.client_agrees replied joined
  have same : otherRef = ref :=
    only otherRef otherConn otherRead (named.trans sameId)
  rw [same, read] at otherRead
  cases otherRead
  exact otherOwner.symm.trans owner

/-- Two clients connect, and the first one repeats its `CONNECTION`. -/
def twoConnections : List ServerEvent :=
  [.datagram 0 (controlFrame 0 .connection) (clientAddress 7) { now := 1 },
    .datagram 0 (controlFrame 0 .connection) (clientAddress 8) { now := 2 },
    .datagram 0 (controlFrame 0 .connection) (clientAddress 7) { now := 3 }]

theorem second_client_agrees :
    ∃ final client,
      run serverStep (runStart [listeningPort]) twoConnections = some final ∧
        client.connectionId = 2 ∧ FreshClient client ∧
        AgreesWith final.spm (clientAddress 8) client := by
  have outcome : (run serverStep (runStart [listeningPort])
      twoConnections).map (fun final =>
        sentTo (clientAddress 8) final.log) = some [socketAckFrame 2] := by
    decide +kernel
  obtain ⟨final, reached, sent⟩ := Option.map_eq_some_iff.mp outcome
  have connected : (krsClientServerConnect {} (some (socketAckFrame 2)) 4).1 =
      some { connectionId := 2, lastHeartbeatSentMs := 4 } := by
    unfold krsClientServerConnect
    rw [if_neg (by decide), Option.bind_some, connectReply_socketAckFrame]
    rfl
  refine ⟨final, _, reached, rfl,
    connected_clients_agree (by decide) reached ?_ connected⟩
  rw [sent]
  exact List.mem_singleton_self _

end Kronos
