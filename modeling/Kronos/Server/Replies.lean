import Kronos.Ack.Stored
import Kronos.Frame.Header
import Kronos.Server.Step

/-!
# What the server puts on the wire

A datagram is answered with a `SOCKET_ACK`, or with a `MESSAGE_ACK` that
repeats its packet id.  On channel 0 a `MESSAGE_ACK` only answers a `SUBSCRIBE`
that was committed or an `UNSUBSCRIBE` that asked for it.  Everything else the
server sends, retransmissions included, is a `BASIC_MESSAGE`.
-/

namespace Kronos

open Library

/-! ## Replies to a datagram -/

/-- A connection with this address is on the channel's list. -/
def isSubscribed
    (spm : ServerPortManager)
    (descriptor : Nat)
    (channel : Channel)
    (address : PortAddress) : Bool :=
  match spm.descriptorList[descriptor]? with
  | none => false
  | some desc => (desc.connectionsOf channel).any (spm.hasAddress address)

theorem ackResponse_heads (channel : Channel) (packetId : UInt64) :
    Heads (ackResponse channel packetId) channel .messageAck packetId 0 := by
  have size : ((krsFrameBuilderCreate channel .messageAck).setPacketId
      packetId).serializedSize = 14 := by
    change (14 + krsFrameMetadataBlockLength 0 + 0) % 2 ^ 16 = 14
    decide
  exact serializeToBuffer_heads
    ((krsFrameBuilderCreate channel .messageAck).setPacketId packetId) rfl
    (by rw [size]; decide) (by rw [size]; decide)

/-- How a frame that the server sends answers a request. -/
inductive Reply
    (next : ServerPortManager)
    (descriptor : Nat)
    (request : Frame)
    (remoteAddr : PortAddress)
    (frame : List UInt8) : Prop
  | socketAck
      (heads : Heads frame 0 .socketAck 0 0)
  | message
      (application : request.channel ≥ 10)
      (heads : Heads frame request.channel .messageAck request.packetId 0)
  | subscribed
      (target : Channel)
      (channel : request.channel = 0)
      (type : request.frameType = FrameType.subscribe.code)
      (named : targetChannel request = some target)
      (committed : isSubscribed next descriptor target remoteAddr = true)
      (heads : Heads frame 0 .messageAck request.packetId 0)
  | unsubscribed
      (channel : request.channel = 0)
      (type : request.frameType = FrameType.unsubscribe.code)
      (requested : ackRequested request = true)
      (heads : Heads frame 0 .messageAck request.packetId 0)

/-- Only the address of the request is answered. -/
def AnsweredBy
    (next : ServerPortManager)
    (descriptor : Nat)
    (request : Frame)
    (remoteAddr : PortAddress)
    (effects : List ServerEffect) : Prop :=
  ∀ port address frame, .netSend port address frame ∈ effects ->
    address = remoteAddr ∧ Reply next descriptor request remoteAddr frame

section Requests

variable
  {next : ServerPortManager}
  {descriptor : Nat}
  {request : Frame}
  {remoteAddr : PortAddress}

theorem AnsweredBy.nil : AnsweredBy next descriptor request remoteAddr [] := by
  intro port address frame member
  cases member

theorem AnsweredBy.append
    {first second : List ServerEffect}
    (before : AnsweredBy next descriptor request remoteAddr first)
    (after : AnsweredBy next descriptor request remoteAddr second) :
    AnsweredBy next descriptor request remoteAddr (first ++ second) := by
  intro port address frame member
  rcases List.mem_append.mp member with earlier | later
  · exact before port address frame earlier
  · exact after port address frame later

/-- Effects that send nothing. -/
theorem AnsweredBy.silent
    {effects : List ServerEffect}
    (silent : ∀ port address frame,
      .netSend port address frame ∉ effects) :
    AnsweredBy next descriptor request remoteAddr effects := by
  intro port address frame member
  exact absurd member (silent port address frame)

theorem krsNetSendFrame_answeredBy
    {frame : List UInt8}
    (port : Nat)
    (reply : Reply next descriptor request remoteAddr frame) :
    AnsweredBy next descriptor request remoteAddr
      (krsNetSendFrame port remoteAddr frame) := by
  intro otherPort address sent member
  unfold krsNetSendFrame at member
  split at member
  case isTrue => cases member
  case isFalse =>
    rw [List.mem_singleton] at member
    cases member
    exact ⟨rfl, reply⟩

theorem sendAckResponse_answeredBy
    {channel : Channel}
    {packetId : UInt64}
    (reply : Reply next descriptor request remoteAddr
      (ackResponse channel packetId))
    (port : Nat)
    (ackBuilt : Bool) :
    AnsweredBy next descriptor request remoteAddr
      (sendAckResponse port remoteAddr channel packetId ackBuilt) := by
  unfold sendAckResponse
  split
  case isTrue => exact krsNetSendFrame_answeredBy port reply
  case isFalse => exact AnsweredBy.nil

theorem sendSocketAck_answeredBy
    (port : Nat)
    (connectionId : UInt32)
    (built : Bool) :
    AnsweredBy next descriptor request remoteAddr
      (sendSocketAck port remoteAddr connectionId built) := by
  have size : ((krsFrameBuilderCreate 0 .socketAck).setData
      (some (socketAckBody connectionId)) 4).serializedSize = 18 := by
    change (14 + krsFrameMetadataBlockLength 0 + 4) % 2 ^ 16 = 18
    decide
  unfold sendSocketAck
  split
  case isFalse => exact AnsweredBy.nil
  case isTrue =>
  refine krsNetSendFrame_answeredBy port (.socketAck ?_)
  exact serializeToBuffer_heads
    ((krsFrameBuilderCreate 0 .socketAck).setData
      (some (socketAckBody connectionId)) 4) rfl
    (by rw [size]; decide) (by rw [size]; decide)

end Requests

/-- The connection is on the list that a successful commit leaves. -/
theorem commitSubscription_mem
    {connection : ConnectionRef}
    {created pushed : Bool}
    {state next : ChannelState}
    (committed : commitSubscription connection created pushed state =
      some next) :
    connection ∈ next.connections.getD [] := by
  unfold commitSubscription at committed
  split at committed
  case h_1 => cases committed
  case h_2 conns _ =>
    split at committed
    case isTrue known =>
      cases committed
      simpa using known
    case isFalse =>
      split at committed
      case isTrue =>
        cases committed
        simp
      case isFalse => cases committed

theorem dispatchSubscribe_answeredBy
    (spm : ServerPortManager)
    (descriptor : Nat)
    {request : Frame}
    (remoteAddr : PortAddress)
    (created pushed ackBuilt : Bool)
    (channel : request.channel = 0)
    (type : request.frameType = FrameType.subscribe.code) :
    AnsweredBy
      (dispatchSubscribe spm descriptor request remoteAddr created pushed
        ackBuilt).1 descriptor request remoteAddr
      (dispatchSubscribe spm descriptor request remoteAddr created pushed
        ackBuilt).2 := by
  unfold dispatchSubscribe
  split
  case h_2 => exact AnsweredBy.nil
  case h_1 target desc named read =>
    split
    case h_1 => exact AnsweredBy.nil
    case h_2 connection found =>
      dsimp only
      split
      case h_1 => exact AnsweredBy.nil
      case h_2 state committed =>
        dsimp only
        split
        case isFalse => exact AnsweredBy.nil
        case isTrue =>
          refine sendAckResponse_answeredBy
            (.subscribed target channel type named ?_
              (ackResponse_heads 0 request.packetId)) descriptor ackBuilt
          have listed := commitSubscription_mem committed
          have modified : (spm.descriptorList.modify descriptor
              (·.modifyChannel target fun _ => state))[descriptor]? =
              some (desc.modifyChannel target fun _ => state) := by
            rw [List.getElem?_modify_eq, read]
            rfl
          unfold isSubscribed ServerPortManager.modifyDescriptor
          rw [modified]
          apply List.any_eq_true.mpr
          refine ⟨connection, ?_, List.find?_some found⟩
          simpa [UDPSocketDescriptor.connectionsOf,
            UDPSocketDescriptor.modifyChannel] using listed

theorem dispatchUnsubscribe_answeredBy
    (spm : ServerPortManager)
    (descriptor : Nat)
    {request : Frame}
    (remoteAddr : PortAddress)
    (ackBuilt : Bool)
    (channel : request.channel = 0)
    (type : request.frameType = FrameType.unsubscribe.code) :
    AnsweredBy
      (dispatchUnsubscribe spm descriptor request remoteAddr ackBuilt).1
      descriptor request remoteAddr
      (dispatchUnsubscribe spm descriptor request remoteAddr ackBuilt).2 := by
  have answered : ∀ next, AnsweredBy next descriptor request remoteAddr
      (if ackRequested request then
          sendAckResponse descriptor remoteAddr 0 request.packetId ackBuilt
        else []) := by
    intro next
    split
    case isFalse => exact AnsweredBy.nil
    case isTrue requested =>
      exact sendAckResponse_answeredBy
        (.unsubscribed channel type requested
          (ackResponse_heads 0 request.packetId)) descriptor ackBuilt
  unfold dispatchUnsubscribe
  split
  case h_2 => exact AnsweredBy.nil
  case h_1 => exact answered _

theorem deliver_answeredBy
    (spm next : ServerPortManager)
    (descriptor : Nat)
    (desc : UDPSocketDescriptor)
    {request : Frame}
    (remoteAddr : PortAddress)
    (delivery : Delivery)
    (ackBuilt : Bool)
    (application : request.channel ≥ 10) :
    AnsweredBy next descriptor request remoteAddr
      (deliver spm descriptor desc request remoteAddr delivery ackBuilt).2 := by
  have response : AnsweredBy next descriptor request remoteAddr
      (sendAckResponse descriptor remoteAddr request.channel
        request.packetId ackBuilt) :=
    sendAckResponse_answeredBy
      (.message application (ackResponse_heads _ request.packetId))
      descriptor ackBuilt
  unfold deliver
  dsimp only
  generalize sent : (if delivery.ackRequired = true then _ else _ :
    ServerPortManager × List ServerEffect) = acked
  have answered : AnsweredBy next descriptor request remoteAddr acked.2 := by
    rw [← sent]
    split
    case isTrue => exact response
    case isFalse => exact AnsweredBy.nil
  split
  case h_1 => exact answered
  case h_2 =>
    refine answered.append ?_
    split
    case h_1 => exact AnsweredBy.nil
    case h_2 => exact AnsweredBy.silent (by simp)

theorem dispatchAppFrame_answeredBy
    {spm next : ServerPortManager}
    {descriptor : Nat}
    {request : Frame}
    {remoteAddr : PortAddress}
    {now : UInt64}
    {created allocated ackBuilt : Bool}
    {effects : List ServerEffect}
    (application : request.channel ≥ 10)
    (dispatched : dispatchAppFrame spm descriptor request remoteAddr now
      created allocated ackBuilt = some (next, effects)) :
    AnsweredBy next descriptor request remoteAddr effects := by
  cases dispatchAppFrame_cases dispatched with
  | unregistered missing outcome =>
      cases outcome
      exact AnsweredBy.nil
  | whole desc read outcome =>
      have answered := deliver_answeredBy spm next descriptor desc remoteAddr
        { data := request.body
          dataLength := request.body.length
          ackRequired := ackRequested request } ackBuilt application
      rw [outcome] at answered
      exact answered
  | stored desc state read reassembled outcome =>
      cases outcome
      exact AnsweredBy.nil
  | completed desc state delivery read reassembled outcome =>
      generalize spm.storeFragment _ _ _ _ = storing at outcome
      have answered := deliver_answeredBy storing next descriptor desc
        remoteAddr delivery ackBuilt application
      rw [outcome] at answered
      exact answered

theorem krsServerHandleConnectionFrame_answeredBy
    (spm next : ServerPortManager)
    (descriptor : Nat)
    (request : Frame)
    (remoteAddr : PortAddress)
    (now : UInt64)
    (allocations : ConnectAllocations) :
    AnsweredBy next descriptor request remoteAddr
      (krsServerHandleConnectionFrame spm descriptor remoteAddr now
        allocations).2 := by
  unfold krsServerHandleConnectionFrame
  dsimp only
  split
  case h_1 => exact AnsweredBy.nil
  case h_2 desc _ =>
    split
    case h_1 =>
      dsimp only
      exact sendSocketAck_answeredBy descriptor _ _
    case h_2 =>
      unfold acceptConnection
      split
      case isTrue => exact AnsweredBy.nil
      case isFalse =>
        dsimp only
        split
        case isTrue => exact AnsweredBy.nil
        case isFalse =>
          refine (sendSocketAck_answeredBy descriptor _ _).append ?_
          split
          case h_1 => exact AnsweredBy.nil
          case h_2 => exact AnsweredBy.silent (by simp)

/-- Evictions send nothing. -/
theorem finalize_silent
    (spm : ServerPortManager)
    (descriptor : Nat)
    (orphans : List ConnectionRef)
    (port : Nat)
    (address : PortAddress)
    (frame : List UInt8) :
    .netSend port address frame ∉
      (krsServerFinalizeOrphanEvictions spm descriptor orphans).2 := by
  unfold krsServerFinalizeOrphanEvictions
  split
  case isTrue => exact List.not_mem_nil
  case isFalse =>
    dsimp only
    split
    case h_1 => exact List.not_mem_nil
    case h_2 =>
      split
      case h_1 => exact List.not_mem_nil
      case h_2 =>
        rw [List.zipWith_map_right, List.zipWith_self]
        simp

theorem dispatchDisconnect_answeredBy
    (spm next : ServerPortManager)
    (descriptor : Nat)
    (request : Frame)
    (remoteAddr : PortAddress) :
    AnsweredBy next descriptor request remoteAddr
      (dispatchDisconnect spm descriptor remoteAddr).2 := by
  unfold dispatchDisconnect
  split
  case h_1 => exact AnsweredBy.nil
  case h_2 =>
    dsimp only
    exact AnsweredBy.silent (finalize_silent _ _ _)

/-- Every frame sent while a datagram is handled answers it. -/
theorem handleDatagram_answeredBy
    {spm next : ServerPortManager}
    {descriptor : Nat}
    {bytes : List UInt8}
    {remoteAddr : PortAddress}
    {input : HandlerInput}
    {effects : List ServerEffect}
    (handled : handleDatagram spm descriptor bytes remoteAddr input =
      some (next, effects)) :
    AnsweredBy next descriptor (krsFrameCreate bytes kronosBufferSize)
      remoteAddr effects := by
  have of_routed : ∀ frame current result,
      Routed current descriptor frame remoteAddr input result ->
        AnsweredBy result.1 descriptor frame remoteAddr result.2 := by
    intro frame current result routed
    cases routed with
    | connection =>
        exact krsServerHandleConnectionFrame_answeredBy _ _ _ _ _ _ _
    | heartbeat => exact AnsweredBy.nil
    | disconnect => exact dispatchDisconnect_answeredBy _ _ _ _ _
    | subscribe channel type =>
        exact dispatchSubscribe_answeredBy _ _ _ _ _ _ channel type
    | unsubscribe channel type =>
        exact dispatchUnsubscribe_answeredBy _ _ _ _ channel type
    | acknowledgement => exact AnsweredBy.nil
    | ignored => exact AnsweredBy.nil
    | application channel _ dispatched =>
        exact dispatchAppFrame_answeredBy channel dispatched
  unfold handleDatagram at handled
  simp only at handled
  split at handled
  case isTrue =>
    cases handled
    exact AnsweredBy.nil
  case isFalse => exact of_routed _ _ _ (routeFrame_routed handled)

/-! ## Messages -/

/-- The frame is a `BASIC_MESSAGE`. -/
def IsMessage (frame : List UInt8) : Prop :=
  ∃ channel packetId flags, Heads frame channel .basicMessage packetId flags

/-- Every frame of a split starts with a header of the split's type. -/
theorem krsFragmentSplit_heads
    {channel : Channel}
    {type : FrameType}
    {packetId : UInt64}
    {data : List UInt8}
    {dataLength mtu : Nat}
    {flags : UInt16}
    {allocations : SplitAllocations}
    {frame : List UInt8}
    (member : frame ∈ (krsFragmentSplit channel type packetId data dataLength
      mtu flags allocations).fragments) :
    ∃ frameFlags, Heads frame channel type packetId frameFlags := by
  have outcome := krsFragmentSplit_outcome channel type packetId data
    dataLength mtu flags allocations
  generalize krsFragmentSplit channel type packetId data dataLength mtu flags
    allocations = result at outcome member
  cases outcome with
  | failed => cases member
  | plain =>
      rw [List.mem_singleton.mp member]
      exact ⟨flags, buildPlainFrame_heads _ _ _ _ _⟩
  | cut =>
      obtain ⟨index, inside, rfl⟩ := List.mem_mapIdx.mp member
      exact ⟨fragmentFlags flags, fragmentFrame_heads _ _ _ _ _ _ _⟩

theorem messageFrames_isMessage
    {channel : Channel}
    {packetId : UInt64}
    {data : List UInt8}
    {length : UInt16}
    {requireAck : Bool}
    {allocations : SendAllocations}
    {serializeError : KronosError}
    {frames : List (List UInt8 × Nat)}
    (built : messageFrames channel packetId data length requireAck allocations
      serializeError = .ok frames)
    {frame : List UInt8 × Nat}
    (member : frame ∈ frames) :
    IsMessage (frame.1.take frame.2) := by
  unfold messageFrames at built
  split at built
  case isTrue small =>
    have size := serializedSize_wholeFrame channel packetId data length
      requireAck small
    have typed : (if requireAck then
        (((krsFrameBuilderCreate channel .basicMessage).setPacketId
          packetId).setData (some data) length).setFlag .ackRequired
      else ((krsFrameBuilderCreate channel .basicMessage).setPacketId
        packetId).setData (some data) length).type =
          FrameType.basicMessage.code := by
      cases requireAck <;> rfl
    dsimp only at built size
    generalize (if requireAck = true then _ else _ : FrameBuilder) =
      builder at built size typed
    simp only [krsMaxPayloadPerFragment, krsDefaultMtu,
      kronosFrameHeaderLength] at small size
    have heads : Heads (serializeToBuffer builder kronosBufferSize) _ _ _ _ :=
      serializeToBuffer_heads builder typed
        (by rw [size, kronosFrameHeaderLength]; omega)
        (by rw [size, kronosBufferSize]; omega)
    rw [serializeToBuffer] at heads
    generalize krsFrameBuilderSerialize _ _ = serialized at built heads
    split at built
    case isTrue => cases built
    case isFalse =>
      split at built
      case isTrue => cases built
      case isFalse =>
        cases built
        rw [List.mem_singleton.mp member]
        exact ⟨_, _, _, heads⟩
  case isFalse =>
    dsimp only at built
    split at built
    case isTrue => cases built
    case isFalse =>
      cases built
      obtain ⟨inFrames, inSizes⟩ := List.of_mem_zip member
      obtain ⟨flags, heads⟩ := krsFragmentSplit_heads inFrames
      exact ⟨_, _, _, heads.take
        (krsFragmentSplit_sizes (by decide) inSizes).1⟩

theorem sendOn_isMessage
    (conn : ClientConnection)
    (channel : Channel)
    (packetId : UInt64)
    (data : List UInt8)
    (length : UInt16)
    (requireAck : Bool)
    (clock : Nat -> UInt64)
    (allocations : SendAllocations)
    {frame : List UInt8}
    (sent : frame ∈ (sendOn conn channel packetId data length requireAck clock
      allocations).2.2) :
    IsMessage frame := by
  unfold sendOn at sent
  dsimp only at sent
  split at sent
  case h_1 => cases sent
  case h_2 =>
    split at sent
    case h_1 => cases sent
    case h_2 frames built =>
      obtain ⟨memory, member, rfl⟩ := List.mem_map.mp sent
      exact messageFrames_isMessage built member

/-- The application's sends are messages. -/
theorem krsServerSend_isMessage
    {spm next : ServerPortManager}
    {connectionId : UInt32}
    {channel : Channel}
    {data : List UInt8}
    {length : UInt16}
    {requireAck : Bool}
    {clock : Nat -> UInt64}
    {allocations : SendAllocations}
    {result : KronosResult}
    {effects : List ServerEffect}
    (sent : krsServerSend spm connectionId channel data length requireAck
      clock allocations = some (next, result, effects))
    {port : Nat}
    {address : PortAddress}
    {frame : List UInt8}
    (member : .netSend port address frame ∈ effects) :
    IsMessage frame := by
  unfold krsServerSend at sent
  dsimp only at sent
  split at sent
  case h_1 =>
    cases sent
    cases member
  case h_2 =>
    split at sent
    case h_1 =>
      split at sent
      case isTrue => cases sent
      case isFalse =>
        cases sent
        obtain ⟨other, inFrames, inFrame⟩ := List.mem_flatMap.mp member
        unfold krsNetSendFrame at inFrame
        split at inFrame
        case isTrue => cases inFrame
        case isFalse =>
          rw [List.mem_singleton] at inFrame
          cases inFrame
          exact sendOn_isMessage _ _ _ _ _ _ _ _ inFrames
    case h_2 => cases sent

/-! ## Stored messages -/

theorem StoresOnly.expectFrames
    {Stored : List UInt8 -> Prop}
    {tracker : AckTracker}
    (stores : StoresOnly Stored tracker)
    (packetId : UInt64)
    (channel : Channel)
    (clock : Nat -> UInt64)
    (allocated : Nat -> Bool)
    (index : Nat)
    {frames : List (List UInt8 × Nat)}
    (registered : ∀ frame ∈ frames, Stored (frame.1.take frame.2)) :
    StoresOnly Stored (expectFrames tracker packetId channel clock allocated
      index frames) := by
  induction frames generalizing tracker index with
  | nil => exact stores
  | cons frame frames inductionHypothesis =>
      obtain ⟨here, later⟩ := List.forall_mem_cons.mp registered
      exact inductionHypothesis
        (stores.expect packetId channel here (clock index) (allocated index))
        (index + 1) later

/-- The connection stores messages only. -/
def StoresMessages (conn : ClientConnection) : Prop :=
  ∀ tracker, conn.ackTracker = some tracker -> StoresOnly IsMessage tracker

theorem StoresMessages.of_none
    {conn : ClientConnection}
    (absent : conn.ackTracker = none) :
    StoresMessages conn := by
  intro tracker read
  rw [absent] at read
  cases read

theorem StoresMessages.acknowledge
    {conn : ClientConnection}
    (stores : StoresMessages conn)
    (packetId : UInt64)
    (channel : Channel)
    (now : UInt64) :
    StoresMessages (acknowledge conn packetId channel now) := by
  unfold Kronos.acknowledge
  split
  case h_1 => exact stores
  case h_2 tracker read =>
    have received := (stores tracker read).receiveRtt packetId channel now
    dsimp only
    split
    case h_1 =>
      intro after afterRead
      cases afterRead
      exact received.setTimeout _
    case h_2 =>
      intro after afterRead
      cases afterRead
      exact received

theorem StoresMessages.sendOn
    {conn : ClientConnection}
    (stores : StoresMessages conn)
    (channel : Channel)
    (packetId : UInt64)
    (data : List UInt8)
    (length : UInt16)
    (requireAck : Bool)
    (clock : Nat -> UInt64)
    (allocations : SendAllocations) :
    StoresMessages (sendOn conn channel packetId data length requireAck clock
      allocations).1 := by
  obtain ⟨-, change⟩ := sendOn_ackTracker conn channel packetId data length
    requireAck clock allocations
  generalize (Kronos.sendOn conn channel packetId data length requireAck
    clock allocations).1 = after at *
  have ready : ∀ tracker, ReadyTracker conn tracker ->
      StoresOnly IsMessage tracker := by
    rintro tracker (read | ⟨-, rfl⟩)
    · exact stores tracker read
    · exact StoresOnly.create 1000 5
  intro tracker read
  rcases change with same | ⟨used, usable, created | ⟨frames, built,
      expected⟩⟩
  · rw [same] at read
    exact stores tracker read
  · rw [created, Option.some.injEq] at read
    rw [← read]
    exact ready used usable
  · rw [expected] at read
    cases read
    exact (ready used usable).expectFrames packetId channel clock
      allocations.entry 0 fun _ member => messageFrames_isMessage built member

theorem StoresMessages.collect
    {conn : ClientConnection}
    (stores : StoresMessages conn)
    (callback : Option Callback)
    (descriptor : Nat)
    (connection : ConnectionRef)
    (now : UInt64)
    (buffers : TickBuffers) :
    StoresMessages (collectConnection callback descriptor connection now
      buffers conn).2 := by
  unfold collectConnection
  split
  case h_1 => exact stores
  case h_2 tracker read =>
    intro after afterRead
    cases afterRead
    exact (stores tracker read).check now checkCapacity checkCapacity

theorem storesMessages_connectionInvariant :
    ConnectionInvariant (fun _ _ => True)
      fun _ _ conn => StoresMessages conn where
  quiet := fun _ _ _ _ _ stores => stores
  released := by
    intro log ref old new released stores
    rcases released with same | gone
    · intro tracker read
      rw [same.ackTracker] at read
      exact stores tracker read
    · exact .of_none gone.ackTracker
  acknowledged := fun _ _ _ packetId channel now stores =>
    stores.acknowledge packetId channel now
  created := fun _ _ _ new _ => .of_none new.ackTracker
  sent := by
    intro current connectionId channel data length requireAck clock
      allocations _ entry desc target _ _ _ _ stores
    have acquired : StoresMessages
        { target with refcount := target.refcount + 1 } := stores
    exact acquired.sendOn channel _ data length requireAck clock allocations
  ticked := by
    intro current clock refs _ stores ref old new oldRead newRead
    obtain ⟨checked, unvisited⟩ :=
      (collectAll_heap refs clock.check).2 ref old new oldRead newRead
    by_cases visited : ref ∈ visitedRefs current.spm
    · obtain ⟨callback, descriptor, buffers, rfl⟩ := checked visited
      exact (stores ref old oldRead).collect callback descriptor ref _ buffers
    · rw [unvisited visited]
      exact stores ref old oldRead

/-! ## Retransmissions -/

theorem queueRetries_isMessage
    {tracker : AckTracker}
    (stores : StoresOnly IsMessage tracker)
    (descriptor : Nat)
    (connection : ConnectionRef)
    (addr : PortAddress)
    (retries : List Retry)
    {queue : RetryQueue}
    (queued : ∀ retransmit ∈ queue.pending, IsMessage retransmit.data) :
    ∀ retransmit ∈ (queueRetries tracker descriptor connection addr retries
      queue).pending, IsMessage retransmit.data := by
  induction retries generalizing queue with
  | nil => exact queued
  | cons retry retries inductionHypothesis =>
      rw [queueRetries]
      split
      case isFalse => exact queued
      case isTrue =>
        split
        case h_1 => exact inductionHypothesis queued
        case h_2 data size found =>
          split
          case isTrue => exact inductionHypothesis queued
          case isFalse =>
            refine inductionHypothesis ?_
            intro retransmit member
            rcases List.mem_append.mp member with earlier | last
            · exact queued retransmit earlier
            · rw [List.mem_singleton.mp last]
              exact stores.getRetryFrameForEntry found

/-- A tick retransmits messages only. -/
theorem foldl_visitEntry_isMessage
    (callback : Nat -> Option Callback)
    (clock : ConnectionRef -> UInt64)
    (entries : List ConnectionMapEntry)
    (current : TickBuffers × List ClientConnection)
    (queued : ∀ retransmit ∈ current.1.pending, IsMessage retransmit.data)
    (stores : ∀ conn ∈ current.2, StoresMessages conn) :
    ∀ retransmit ∈
        (entries.foldl (visitEntry callback clock) current).1.pending,
      IsMessage retransmit.data := by
  induction entries generalizing current with
  | nil => exact queued
  | cons entry entries inductionHypothesis =>
      rw [List.foldl_cons]
      refine inductionHypothesis _ ?_ ?_
      · unfold visitEntry
        split
        case h_1 => exact queued
        case h_2 conn read =>
          unfold collectConnection
          split
          case h_1 => exact queued
          case h_2 tracker trackerRead =>
            exact queueRetries_isMessage
              ((stores conn (List.mem_of_getElem? read) tracker
                trackerRead).check _ _ _) _ _ _ _ queued
      · unfold visitEntry
        split
        case h_1 => exact stores
        case h_2 conn read =>
          intro other member
          rcases List.mem_or_eq_of_mem_set member with old | rfl
          · exact stores other old
          · exact (stores conn (List.mem_of_getElem? read)).collect _ _ _ _ _

/-! ## Every event -/

/-- The frame that an effect puts on the wire to an address. -/
def ServerEffect.frameTo (address : PortAddress) :
    ServerEffect -> Option (List UInt8)
  | .netSend _ remoteAddr frame =>
      if remoteAddr = address then some frame else none
  | .retransmit _ remoteAddr frame _ _ =>
      if remoteAddr = address then some frame else none
  | _ => none

/-- Everything the server has sent to an address. -/
def sentTo (address : PortAddress) (effects : List ServerEffect) :
    List (List UInt8) :=
  effects.filterMap (ServerEffect.frameTo address)

theorem ServerEffect.frameTo_eq_some
    {address : PortAddress}
    {effect : ServerEffect}
    {frame : List UInt8}
    (framed : effect.frameTo address = some frame) :
    (∃ port, effect = .netSend port address frame) ∨
      ∃ port ref entry, effect = .retransmit port address frame ref entry := by
  cases effect with
  | netSend port remoteAddr other =>
      simp only [frameTo] at framed
      split at framed
      case isTrue same =>
        cases framed
        exact Or.inl ⟨port, by rw [same]⟩
      case isFalse => cases framed
  | retransmit port remoteAddr other ref entry =>
      simp only [frameTo] at framed
      split at framed
      case isTrue same =>
        cases framed
        exact Or.inr ⟨port, ref, entry, by rw [same]⟩
      case isFalse => cases framed
  | message => cases framed
  | connected => cases framed
  | disconnected => cases framed
  | deliveryFailure => cases framed

theorem evictAll_silent
    (spm : ServerPortManager)
    (clock : Nat -> UInt64)
    (port : Nat)
    (address : PortAddress)
    (frame : List UInt8) :
    .netSend port address frame ∉ (evictAll spm clock).2 := by
  suffices ∀ (descriptors : List Nat)
      (current : ServerPortManager × List ServerEffect),
      .netSend port address frame ∉ current.2 ->
        .netSend port address frame ∉
          (descriptors.foldl (fun current descriptor =>
            let evicted := evictDescriptor current.1 (clock descriptor)
              descriptor
            (evicted.1, current.2 ++ evicted.2)) current).2 from
    this _ (spm, []) List.not_mem_nil
  intro descriptors
  induction descriptors with
  | nil =>
      intro current silent
      exact silent
  | cons descriptor descriptors inductionHypothesis =>
      intro current silent
      refine inductionHypothesis _ fun member => ?_
      rcases List.mem_append.mp member with earlier | later
      · exact silent earlier
      · unfold evictDescriptor at later
        split at later
        case h_1 => cases later
        case h_2 => exact finalize_silent _ _ _ port address frame later

/-- The frames of a tick are retransmitted messages. -/
theorem retransmitTick_isMessage
    {spm : ServerPortManager}
    (stores : ∀ conn ∈ spm.connections, StoresMessages conn)
    (clock : TickClock)
    {address : PortAddress}
    {frame : List UInt8}
    (sent : frame ∈ sentTo address (retransmitTick spm clock).2) :
    IsMessage frame := by
  obtain ⟨effect, member, framed⟩ := List.mem_filterMap.mp sent
  have pending := foldl_visitEntry_isMessage (failureCallback spm)
    clock.check (visitedEntries spm) ({}, spm.connections) (by simp) stores
  have collected := collectAll_eq spm clock.check
  unfold retransmitTick at member
  dsimp only at collected member
  rw [collected] at member
  rcases List.mem_append.mp member with checked | evicted
  · rcases List.mem_append.mp checked with flushed | failed
    · obtain ⟨retransmit, queued, rfl⟩ := List.mem_map.mp flushed
      rcases ServerEffect.frameTo_eq_some framed with ⟨_, impossible⟩ |
        ⟨_, _, _, same⟩
      · cases impossible
      · cases same
        exact pending retransmit queued
    · obtain ⟨failure, -, rfl⟩ := List.mem_map.mp failed
      cases framed
  · rcases ServerEffect.frameTo_eq_some framed with ⟨port, rfl⟩ |
      ⟨port, ref, entry, rfl⟩
    · exact absurd evicted (evictAll_silent _ _ _ _ _)
    · have quiet := (evictAll_effect _ clock.evict).2.2 _ evicted
      cases quiet

/-- A frame sent to an address is a message, or answers a datagram from that
address. -/
theorem serverEffect_sentTo
    {spm next : ServerPortManager}
    {event : ServerEvent}
    {effects : List ServerEffect}
    (stores : ∀ conn ∈ spm.connections, StoresMessages conn)
    (taken : serverEffect spm event = some (next, effects))
    {address : PortAddress}
    {frame : List UInt8}
    (sent : frame ∈ sentTo address effects) :
    IsMessage frame ∨
      ∃ descriptor bytes input,
        event = .datagram descriptor bytes address input ∧
          Reply next descriptor (krsFrameCreate bytes kronosBufferSize)
            address frame := by
  cases event with
  | datagram descriptor bytes remoteAddr input =>
      obtain ⟨effect, member, framed⟩ := List.mem_filterMap.mp sent
      have quiet := (handleDatagram_effect taken).quiet effect member
      rcases ServerEffect.frameTo_eq_some framed with ⟨port, rfl⟩ |
        ⟨port, ref, entry, rfl⟩
      · obtain ⟨rfl, reply⟩ := handleDatagram_answeredBy taken port address
          frame member
        exact Or.inr ⟨descriptor, bytes, input, rfl, reply⟩
      · cases quiet
  | send connectionId channel data length requireAck clock allocations =>
      obtain ⟨effect, member, framed⟩ := List.mem_filterMap.mp sent
      obtain ⟨⟨after, result, sends⟩, returned, same⟩ :=
        Option.map_eq_some_iff.mp taken
      cases same
      have quiet := (krsServerSend_effect returned).2 effect member
      rcases ServerEffect.frameTo_eq_some framed with ⟨port, rfl⟩ |
        ⟨port, ref, entry, rfl⟩
      · exact Or.inl (krsServerSend_isMessage returned member)
      · cases quiet
  | tick clock =>
      cases taken
      exact Or.inl (retransmitTick_isMessage stores clock sent)

end Kronos
