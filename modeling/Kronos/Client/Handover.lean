import Kronos.Client.Backlog
import Kronos.Client.OwnFrames
import Kronos.Server.DatagramHeap
import Kronos.Server.Ledger

/-!
# Acknowledged messages were handed over

A client and a server with one port, with a network between them that loses,
repeats and reorders datagrams.  The ledger records what the server has sent, and
the rounds of the client's receive thread record which datagram led to which
effects.  The thread sends its acknowledgement before it calls back, and the
server may settle the entry in between.

When the server settles a pending entry because of an acknowledgement of the
client, the client has taken a datagram of that very message and has handed
something to its callback in the same round, or does so in the next step of its
receive thread; a message that fits into one frame is handed over with exactly
its payload.
-/

namespace Kronos

open Library

/-! ## The tracker during a datagram -/

/-- What a frame does to a tracker: an acknowledgement settles the entries with
its packet id and its channel, and nothing else settles any. -/
def Settles
    (frame : Frame)
    (now : UInt64)
    (old new : ClientConnection) : Prop :=
  new.ackTracker = old.ackTracker ∨ new.ackTracker = none ∨
    frame.frameType = FrameType.messageAck.code ∧
      new = acknowledge old frame.packetId frame.channel now

theorem dispatchAck_settles
    {spm : ServerPortManager}
    {frame : Frame}
    (type : frame.frameType = FrameType.messageAck.code)
    {remoteAddr : PortAddress}
    {now : UInt64}
    {ref : ConnectionRef}
    {old new : ClientConnection}
    (oldRead : spm.connections[ref]? = some old)
    (newRead : (dispatchAck spm frame remoteAddr now).connections[ref]? =
      some new) :
    Settles frame now old new := by
  have settled : ∀ current : ServerPortManager,
      current.connections = spm.connections ->
        current.connections[ref]? = some new -> Settles frame now old new := by
    intro current same read
    rw [same, oldRead] at read
    cases read
    exact Or.inl rfl
  unfold dispatchAck at newRead
  dsimp only at newRead
  split at newRead
  case isTrue => exact settled _ rfl newRead
  case isFalse =>
    split at newRead
    case h_1 => exact settled _ rfl newRead
    case h_2 entry _ =>
      dsimp only [ServerPortManager.modifyConnection] at newRead
      by_cases same : entry.connection = ref
      · subst same
        rw [List.getElem?_modify_eq, oldRead] at newRead
        cases newRead
        exact Or.inr (Or.inr ⟨type, rfl⟩)
      · rw [List.getElem?_modify_ne _ _ same, oldRead] at newRead
        cases newRead
        exact Or.inl rfl

theorem dispatchConnection_trackers
    {spm next : ServerPortManager}
    {descriptor : Nat}
    {remoteAddr : PortAddress}
    {now : UInt64}
    {allocations : ConnectAllocations}
    {effects : List ServerEffect}
    (handled : dispatchConnection spm descriptor remoteAddr now allocations =
      (next, effects))
    {ref : ConnectionRef}
    {old new : ClientConnection}
    (oldRead : spm.connections[ref]? = some old)
    (newRead : next.connections[ref]? = some new) :
    new.ackTracker = old.ackTracker := by
  have kept : ∀ heap : List ClientConnection, heap = spm.connections ->
      heap[ref]? = some new -> new.ackTracker = old.ackTracker := by
    intro heap same read
    rw [same, oldRead] at read
    cases read
    rfl
  unfold dispatchConnection krsServerHandleConnectionFrame at handled
  simp only at handled
  split at handled
  case h_1 =>
    cases handled
    exact kept _ rfl newRead
  case h_2 desc _ =>
    split at handled
    case h_1 existing _ =>
      cases handled
      dsimp only [ServerPortManager.modifyConnection] at newRead
      by_cases same : existing = ref
      · subst same
        rw [List.getElem?_modify_eq] at newRead
        change Option.map _ spm.connections[existing]? = _ at newRead
        rw [oldRead] at newRead
        cases newRead
        rfl
      · rw [List.getElem?_modify_ne _ _ same] at newRead
        exact kept _ rfl newRead
    case h_2 =>
      unfold acceptConnection at handled
      split at handled
      case isTrue =>
        cases handled
        exact kept _ rfl newRead
      case isFalse =>
        simp only at handled
        split at handled
        case isTrue =>
          cases handled
          exact kept _ rfl newRead
        case isFalse =>
          cases handled
          obtain ⟨inside, -⟩ := List.getElem?_eq_some_iff.mp oldRead
          change (spm.connections ++ [_])[ref]? = some new at newRead
          rw [List.getElem?_append_left inside] at newRead
          exact kept _ rfl newRead

theorem routeFrame_settles
    {before after : ServerPortManager}
    {frame : Frame}
    {descriptor : Nat}
    {remoteAddr : PortAddress}
    {input : HandlerInput}
    {effects : List ServerEffect}
    (routed : routeFrame before descriptor frame remoteAddr input =
      some (after, effects))
    {ref : ConnectionRef}
    {old new : ClientConnection}
    (oldRead : before.connections[ref]? = some old)
    (newRead : after.connections[ref]? = some new) :
    Settles frame input.now old new := by
  cases routeFrame_outcome routed with
  | connection handled =>
      exact Or.inl (dispatchConnection_trackers handled oldRead newRead)
  | acknowledgement type handled silent =>
      rw [← handled] at newRead
      exact dispatchAck_settles type oldRead newRead
  | plain handled =>
      rcases handled.heap.2 ref old new oldRead newRead with same | gone
      · exact Or.inl same.ackTracker
      · exact Or.inr (Or.inl gone.ackTracker)

/-- A datagram that settles a pending entry is an acknowledgement of its packet
id on its channel. -/
theorem handleDatagram_settled
    {before after : ServerPortManager}
    {bytes : List UInt8}
    {descriptor : Nat}
    {remoteAddr : PortAddress}
    {input : HandlerInput}
    {effects : List ServerEffect}
    (handled : handleDatagram before descriptor bytes remoteAddr input =
      some (after, effects))
    {ref : ConnectionRef}
    {old new : ClientConnection}
    (oldRead : before.connections[ref]? = some old)
    (newRead : after.connections[ref]? = some new)
    {tracker left : AckTracker}
    (tracked : old.ackTracker = some tracker)
    (leftOver : new.ackTracker = some left)
    {entry : AckEntry}
    (pending : entry ∈ tracker.pending)
    (settled : ∀ kept ∈ left.pending, kept.handle ≠ entry.handle) :
    let frame := krsFrameCreate bytes kronosBufferSize
    frame.protocolChar = 0x4B ∧
      frame.frameType = FrameType.messageAck.code ∧
      entry.packetId = frame.packetId ∧ entry.channel = frame.channel := by
  have unsettled : new.ackTracker ≠ old.ackTracker := by
    intro same
    rw [leftOver, tracked] at same
    cases same
    exact settled entry pending rfl
  unfold handleDatagram at handled
  dsimp only at handled ⊢
  split at handled
  case isTrue =>
    cases handled
    rw [oldRead] at newRead
    cases newRead
    exact absurd rfl unsettled
  case isFalse accepted =>
    rcases routeFrame_settles handled oldRead newRead with same | gone |
      ⟨type, rfl⟩
    · exact absurd same unsettled
    · rw [leftOver] at gone
      cases gone
    · refine ⟨not_not.mp accepted, type, ?_⟩
      by_contra other
      obtain ⟨kept, member, handle⟩ := mem_receiveRtt_of_ne pending other
        input.now
      refine settled kept ?_ handle
      unfold acknowledge at leftOver
      rw [tracked] at leftOver
      dsimp only at leftOver
      split at leftOver
      case h_1 =>
        cases leftOver
        exact member
      case h_2 =>
        cases leftOver
        exact member

theorem sentMessage_short
    {spm : ServerPortManager}
    {event : ServerEvent}
    (sized : event.Sized)
    {message : SentMessage}
    (sent : sentMessage spm event = some message) :
    message.payload.length < 2 ^ 16 := by
  cases event with
  | datagram => cases sent
  | tick => cases sent
  | send connectionId channel data length requireAck clock allocations =>
      have small : data.length < 2 ^ 16 := by
        rw [show data.length = length.toNat from sized]
        exact length.toNat_lt
      rw [sentMessage] at sent
      obtain ⟨entry, -, held⟩ := Option.bind_eq_some_iff.mp sent
      obtain ⟨target, -, registered⟩ := Option.bind_eq_some_iff.mp held
      obtain ⟨desc, -, built⟩ := Option.map_eq_some_iff.mp registered
      cases built
      exact small

/-! ## The system -/

/-- A datagram that the receive thread took, with the effects of its round. -/
abbrev ReceiveRound : Type := List UInt8 × List ClientEffect

/-- The client and the server, the rounds of the client's receive thread that
have ended, the round whose acknowledgement is sent and whose callback is to
come, and the ledger of the server. -/
structure DeliveryRun where
  system : SubscribeRun
  handed : List ReceiveRound := []
  inHand : Option ReceiveRound := none
  ledger : List SentMessage := []

/-- The rounds that have begun. -/
def DeliveryRun.rounds (current : DeliveryRun) : List ReceiveRound :=
  current.handed ++ current.inHand.toList

/-- What can happen.  A `.receive` of the system takes the datagram and sends
the acknowledgement, and `.callBack` ends the round. -/
inductive DeliveryEvent
  | step (event : SubscribeEvent)
  | callBack

/-- The event is one of the receive thread. -/
def SubscribeEvent.byReceiveThread : SubscribeEvent -> Bool
  | .service _ _ => true
  | .receive _ _ _ => true
  | _ => false

/-- The round of the receive thread that begins in an event. -/
def receiveRound (address : PortAddress) (current : SubscribeRun) :
    SubscribeEvent -> Option ReceiveRound
  | .receive position now allocations =>
      (current.toClient address)[position]?.bind fun datagram =>
        (clientReceive current.client datagram now allocations).map
          fun received => (datagram, received.2)
  | _ => none

/-- The message that the server sends in an event. -/
def recordedMessage (current : SubscribeRun) :
    SubscribeEvent -> List SentMessage
  | .other event => (sentMessage current.server.spm event).toList
  | _ => []

/-- One step on the server's only port.  In the middle of a round the receive
thread does nothing but call back. -/
def deliveryStep (address : PortAddress) (current : DeliveryRun) :
    DeliveryEvent -> Option DeliveryRun
  | .step event =>
      if current.inHand.isSome && event.byReceiveThread then none
      else
        (subscribeStep address 0 current.system event).map fun next =>
          { current with
            system := next
            inHand := current.inHand.or
              (receiveRound address current.system event)
            ledger := current.ledger ++
              recordedMessage current.system event }
  | .callBack =>
      current.inHand.map fun round =>
        { current with
          handed := current.handed ++ [round]
          inHand := none }

/-- What a step of the system does. -/
theorem deliveryStep_step
    {address : PortAddress}
    {current next : DeliveryRun}
    {event : SubscribeEvent}
    (taken : deliveryStep address current (.step event) = some next) :
    (current.inHand.isSome && event.byReceiveThread) = false ∧
      ∃ system,
        subscribeStep address 0 current.system event = some system ∧
          next =
            { current with
              system := system
              inHand := current.inHand.or
                (receiveRound address current.system event)
              ledger := current.ledger ++
                recordedMessage current.system event } := by
  simp only [deliveryStep] at taken
  split at taken
  case isTrue => cases taken
  case isFalse free =>
    obtain ⟨system, stepped, same⟩ := Option.map_eq_some_iff.mp taken
    exact ⟨Bool.not_eq_true _ ▸ free, system, stepped, same.symm⟩

/-- The application passes the length of its data, and the message gets a packet
id. -/
def DeliveryAllowed (current : DeliveryRun) : DeliveryEvent -> Prop
  | .step (.other event) =>
      event.Sized ∧ Numbered current.system.server.spm event
  | _ => True

instance (current : DeliveryRun) :
    (event : DeliveryEvent) -> Decidable (DeliveryAllowed current event)
  | .step (.other _) => inferInstanceAs (Decidable (_ ∧ _))
  | .step (.send _ _ _ _ _ _) => isTrue trivial
  | .step (.startReceive _) => isTrue trivial
  | .step (.subscribe _ _ _) => isTrue trivial
  | .step (.unsubscribe _ _) => isTrue trivial
  | .step (.service _ _) => isTrue trivial
  | .step (.receive _ _ _) => isTrue trivial
  | .step .poll => isTrue trivial
  | .step (.waitReceive _) => isTrue trivial
  | .step .timeout => isTrue trivial
  | .step (.deliver _ _) => isTrue trivial
  | .callBack => isTrue trivial

/-- A round took a datagram of the message and called back on its channel.  A
message that fits into one frame was handed over as it was sent. -/
def HandedOver
    (rounds : List ReceiveRound)
    (message : SentMessage) : Prop :=
  ∃ round ∈ rounds, round.1 ∈ message.frames ∧
    ∃ callback connectionId data dataLength,
      .message callback message.channel connectionId data dataLength ∈
          round.2 ∧
        (message.payload.length ≤ krsDefaultMtu - kronosFrameHeaderLength ->
          data = message.payload ∧ dataLength = message.payload.length)

theorem HandedOver.append
    {rounds : List ReceiveRound}
    {message : SentMessage}
    (handed : HandedOver rounds message)
    (more : List ReceiveRound) :
    HandedOver (rounds ++ more) message := by
  obtain ⟨round, member, rest⟩ := handed
  exact ⟨round, List.mem_append_left _ member, rest⟩

/-- The receive thread has acknowledged the message, and its next step, which
nothing prevents, hands the message over. -/
def BeingHandedOver
    (address : PortAddress)
    (current : DeliveryRun)
    (message : SentMessage) : Prop :=
  (∃ later, deliveryStep address current .callBack = some later ∧
      HandedOver later.handed message) ∧
    ∀ event, event.byReceiveThread = true ->
      deliveryStep address current (.step event) = none

theorem handedOver_rounds
    {address : PortAddress}
    {current : DeliveryRun}
    {message : SentMessage}
    (handed : HandedOver current.rounds message) :
    HandedOver current.handed message ∨
      BeingHandedOver address current message := by
  obtain ⟨round, member, rest⟩ := handed
  rcases List.mem_append.mp member with earlier | now
  · exact .inl ⟨round, earlier, rest⟩
  · have inHand : current.inHand = some round := Option.mem_toList.mp now
    refine .inr ⟨⟨_, by rw [deliveryStep, inHand]; rfl, round,
      List.mem_append_right _ (List.mem_singleton_self round), rest⟩, ?_⟩
    intro event thread
    rw [deliveryStep, inHand, thread]
    rfl

/-! ## The invariant -/

/-- The frame answers a request of the client. -/
def IsReply (datagram : List UInt8) : Prop :=
  ∃ channel type packetId, Heads datagram channel type packetId 0 ∧
    (type = .messageAck ∨ channel = 0)

theorem Reply.isReply
    {next : ServerPortManager}
    {descriptor : Nat}
    {request : Frame}
    {remoteAddr : PortAddress}
    {frame : List UInt8}
    (reply : Reply next descriptor request remoteAddr frame) :
    IsReply frame := by
  cases reply with
  | socketAck heads => exact ⟨_, _, _, heads, Or.inr rfl⟩
  | message application heads => exact ⟨_, _, _, heads, Or.inl rfl⟩
  | subscribed _ _ _ _ _ heads => exact ⟨_, _, _, heads, Or.inl rfl⟩
  | unsubscribed _ _ _ heads => exact ⟨_, _, _, heads, Or.inl rfl⟩

/-- The datagram acknowledges nothing, or a message of the ledger that was sent
to this address and handed over. -/
def AcknowledgesHandedOver
    (address : PortAddress)
    (current : DeliveryRun)
    (datagram : List UInt8) : Prop :=
  AcknowledgesNothing datagram ∨
    ∃ message ∈ current.ledger, message.address = address ∧
      datagram = ackResponse message.channel message.packetId ∧
      HandedOver current.rounds message

/-- The invariant of all runs. -/
structure DeliveryInvariant
    (address : PortAddress)
    (current : DeliveryRun) : Prop where
  server : RunHolds (fun _ _ conn => RegistersKnown current.ledger conn)
    current.system.server
  onePort : current.system.server.spm.descriptorList.length = 1
  numbered : LedgerNumbered current.ledger
    current.system.server.spm.descriptorList
  short : ∀ message ∈ current.ledger, message.payload.length < 2 ^ 16
  toClient : ∀ datagram ∈ current.system.toClient address,
    SentInLedger current.ledger address datagram ∨ IsReply datagram
  stores : StoresNoAck current.system.client
  callback : current.system.client.callback.isSome = true
  wire : ∀ datagram ∈ current.system.wire,
    AcknowledgesHandedOver address current datagram

section Steps

variable {address : PortAddress} {current : DeliveryRun}

/-- The client has done something, and the server has not. -/
theorem DeliveryInvariant.withClient
    (invariant : DeliveryInvariant address current)
    {system : SubscribeRun}
    {inHand : Option ReceiveRound}
    {more : List ReceiveRound}
    {datagrams : List (List UInt8)}
    (rounds : current.handed ++ inHand.toList = current.rounds ++ more)
    (server : system.server = current.system.server)
    (wire : system.wire = current.system.wire ++ datagrams)
    (stores : StoresNoAck system.client)
    (callback : system.client.callback = current.system.client.callback)
    (frames : ∀ datagram ∈ datagrams, AcknowledgesHandedOver address
      { current with system := system, inHand := inHand } datagram) :
    DeliveryInvariant address
      { current with system := system, inHand := inHand } where
  server := by
    dsimp only
    rw [server]
    exact invariant.server
  onePort := by
    dsimp only
    rw [server]
    exact invariant.onePort
  numbered := by
    dsimp only
    rw [server]
    exact invariant.numbered
  short := invariant.short
  toClient := by
    dsimp only [SubscribeRun.toClient]
    rw [server]
    exact invariant.toClient
  stores := stores
  callback := by
    dsimp only
    rw [callback]
    exact invariant.callback
  wire := by
    dsimp only
    rw [wire]
    intro datagram member
    rcases List.mem_append.mp member with earlier | later
    · rcases invariant.wire datagram earlier with nothing | ⟨message,
        recorded, sentTo, acknowledges, handed⟩
      · exact Or.inl nothing
      · refine Or.inr ⟨message, recorded, sentTo, acknowledges, ?_⟩
        rw [DeliveryRun.rounds, rounds]
        exact handed.append more
    · exact frames datagram later

/-- The server has done something, and the client has not. -/
theorem DeliveryInvariant.withServer
    (invariant : DeliveryInvariant address current)
    {event : ServerEvent}
    (sized : event.Sized)
    (positive : Numbered current.system.server.spm event)
    {next : ServerRun}
    (taken : serverStep current.system.server event = some next)
    {system : SubscribeRun}
    (server : system.server = next)
    (wire : system.wire = current.system.wire)
    (client : system.client = current.system.client) :
    DeliveryInvariant address
      { current with
        system := system
        ledger := current.ledger ++
          (sentMessage current.system.server.spm event).toList } := by
  generalize grown : current.ledger ++
    (sentMessage current.system.server.spm event).toList = ledger
  have grows : ∀ message ∈ current.ledger, message ∈ ledger := by
    intro message member
    rw [← grown]
    exact List.mem_append_left _ member
  have recorded : RecordedIn ledger current.system.server event := by
    refine ⟨sized, ?_⟩
    intro message sent
    rw [← grown, sent]
    exact List.mem_append_right _ (List.mem_singleton_self message)
  have registers : RunHolds (fun _ _ conn => RegistersKnown ledger conn)
      current.system.server :=
    ⟨invariant.server.refs, invariant.server.unborn, fun ref conn read =>
      (invariant.server.connections ref conn read).mono grows⟩
  have stepped := registers.step (registersKnown_connectionInvariant ledger)
    recorded taken
  obtain ⟨⟨spm, effects⟩, effect, rfl⟩ := Option.map_eq_some_iff.mp taken
  obtain ⟨numbered, onePort⟩ := invariant.numbered.step invariant.onePort
    positive effect
  rw [grown] at numbered
  refine
    { server := ?_
      onePort := ?_
      numbered := ?_
      short := ?_
      toClient := ?_
      stores := ?_
      callback := ?_
      wire := ?_ }
  · dsimp only
    rw [server]
    exact stepped
  · dsimp only
    rw [server]
    exact onePort
  · dsimp only
    rw [server]
    exact numbered
  · intro message member
    dsimp only at member
    rw [← grown] at member
    rcases List.mem_append.mp member with earlier | later
    · exact invariant.short message earlier
    · exact sentMessage_short sized (Option.mem_toList.mp later)
  · intro datagram member
    dsimp only [SubscribeRun.toClient] at member
    rw [server, sentTo_append] at member
    rcases List.mem_append.mp member with earlier | later
    · rcases invariant.toClient datagram earlier with ⟨message, known,
        rest⟩ | reply
      · exact Or.inl ⟨message, grows message known, rest⟩
      · exact Or.inr reply
    · have connections : ∀ conn ∈ current.system.server.spm.connections,
          RegistersKnown ledger conn := by
        intro conn present
        obtain ⟨ref, read⟩ := List.getElem?_of_mem present
        exact registers.connections ref conn read
      rcases serverEffect_sentInLedger connections recorded effect later with
        known | ⟨_, _, _, -, reply⟩
      · exact Or.inl known
      · exact Or.inr reply.isReply
  · dsimp only
    rw [client]
    exact invariant.stores
  · dsimp only
    rw [client]
    exact invariant.callback
  · dsimp only
    rw [wire]
    intro datagram member
    rcases invariant.wire datagram member with nothing | ⟨message, known,
      rest⟩
    · exact Or.inl nothing
    · exact Or.inr ⟨message, grows message known, rest⟩

/-- A call of the client. -/
theorem DeliveryInvariant.call
    (invariant : DeliveryInvariant address current)
    {system : SubscribeRun}
    {datagrams : List (List UInt8)}
    (server : system.server = current.system.server)
    (wire : system.wire = current.system.wire ++ datagrams)
    (sends : SendsNoAck system.client datagrams)
    (receiver : system.client.receiver = current.system.client.receiver) :
    DeliveryInvariant address { current with system := system } :=
  invariant.withClient (List.append_nil _).symm server wire sends.stores
    (congrArg (fun receiver => receiver.2.1) receiver)
    fun datagram member => Or.inl (sends.frames datagram member)

/-- The client changes its state and sends nothing. -/
theorem DeliveryInvariant.quiet
    (invariant : DeliveryInvariant address current)
    {system : SubscribeRun}
    (server : system.server = current.system.server)
    (wire : system.wire = current.system.wire)
    (tracker : system.client.ackTracker = current.system.client.ackTracker)
    (receiver : system.client.receiver = current.system.client.receiver) :
    DeliveryInvariant address { current with system := system } := by
  refine invariant.call server ?_ (invariant.stores.silent tracker) receiver
  rw [wire, List.append_nil]

theorem clientReceive_callback
    {conn next : ServerConnection}
    {datagram : List UInt8}
    {now : UInt64}
    {allocations : ReceiveAllocations}
    {effects : List ClientEffect}
    (received : clientReceive conn datagram now allocations =
      some (next, effects)) :
    next.callback = conn.callback := by
  cases clientReceive_cases received with
  | idle outcome =>
      cases outcome
      rfl
  | acknowledged frame parsed accepted type outcome =>
      cases outcome
      exact congrArg (fun receiver => receiver.2.1)
        (clientAcknowledge_receiver frame now)
  | whole frame outcome =>
      cases outcome
      rfl
  | fed frame parsed arrived accepted type application subscribed flagged
      fedTo reassembled outcome =>
      cases outcome
      rfl

/-- What the client acknowledges in a round, it hands over in the same
round. -/
theorem DeliveryInvariant.handedOver
    (invariant : DeliveryInvariant address current)
    {datagram : List UInt8}
    (arrived : datagram ∈ current.system.toClient address)
    {effects : List ClientEffect}
    (hands : HandsOver current.system.client
      (krsFrameCreate datagram kronosBufferSize) effects) :
    ∃ message ∈ current.ledger, message.address = address ∧
      (krsFrameCreate datagram kronosBufferSize).channel =
        message.channel ∧
      (krsFrameCreate datagram kronosBufferSize).packetId =
        message.packetId ∧
      HandedOver [(datagram, effects)] message := by
  rcases invariant.toClient datagram arrived with ⟨message, recorded, sentTo,
    framed⟩ | ⟨channel, type, packetId, heads, reply⟩
  · have short := invariant.short message recorded
    have parsed := krsFrameCreate_wireFrame short framed
    obtain ⟨onChannel, numbered⟩ := krsFrameCreate_of_wireFrames short framed
    refine ⟨message, recorded, sentTo, onChannel, numbered, _,
      List.mem_singleton_self _, framed, ?_⟩
    obtain ⟨callback, receives⟩ := Option.isSome_iff_exists.mp
      invariant.callback
    obtain ⟨data, dataLength, handed, whole⟩ := hands.handed callback receives
    rw [onChannel] at handed
    refine ⟨callback, _, data, dataLength, handed, ?_⟩
    intro fits
    generalize krsFrameCreate datagram kronosBufferSize = frame at *
    cases parsed with
    | whole => exact whole (by simp [plainFrame, hasFlag_ackFlags])
    | fragment long => exact absurd fits long
  · obtain ⟨onChannel, typed, -, -⟩ := krsFrameCreate_of_heads heads
      hands.accepted
    rcases reply with rfl | rfl
    · exact absurd typed hands.notAck
    · refine absurd ?_ hands.application
      rw [onChannel]
      decide

/-- A subscribe returns. -/
theorem DeliveryInvariant.succeed
    (invariant : DeliveryInvariant address current)
    (channel : Channel)
    (packetId : UInt64) :
    DeliveryInvariant address
      { current with
        system := current.system.succeed channel packetId } := by
  refine invariant.quiet rfl rfl ?_ ?_ <;>
    · unfold SubscribeRun.succeed subscribeSucceeded
      dsimp only
      split <;> rfl

theorem DeliveryInvariant.receive
    (invariant : DeliveryInvariant address current)
    {datagram : List UInt8}
    (arrived : datagram ∈ current.system.toClient address)
    {now : UInt64}
    {allocations : ReceiveAllocations}
    {client : ServerConnection}
    {effects : List ClientEffect}
    (received : clientReceive current.system.client datagram now
      allocations = some (client, effects))
    (free : current.inHand = none) :
    DeliveryInvariant address
      { current with
        system :=
          { current.system with
            client := client
            wire := current.system.wire ++ clientDatagrams effects }
        inHand := some (datagram, effects) } := by
  have rounds : current.handed ++ [(datagram, effects)] =
      current.rounds ++ [(datagram, effects)] := by
    rw [DeliveryRun.rounds, free, Option.toList_none, List.append_nil]
  refine invariant.withClient rounds rfl rfl
    (clientReceive_storesNoAck invariant.stores received)
    (clientReceive_callback received) ?_
  intro sent member
  obtain ⟨hands, acknowledges⟩ := clientReceive_acknowledges received member
  obtain ⟨message, recorded, sentTo, onChannel, numbered, round, inRounds,
    rest⟩ := invariant.handedOver arrived hands
  refine Or.inr ⟨message, recorded, sentTo, ?_, round,
    List.mem_append_right _ inRounds, rest⟩
  rw [acknowledges, onChannel, numbered]

/-- The receive thread calls back. -/
theorem DeliveryInvariant.callBack
    (invariant : DeliveryInvariant address current)
    {round : ReceiveRound}
    (inHand : current.inHand = some round) :
    DeliveryInvariant address
      { current with
        handed := current.handed ++ [round]
        inHand := none } := by
  have rounds : current.handed ++ [round] ++ [] = current.rounds := by
    rw [List.append_nil, DeliveryRun.rounds, inHand, Option.toList_some]
  exact
    { server := invariant.server
      onePort := invariant.onePort
      numbered := invariant.numbered
      short := invariant.short
      toClient := invariant.toClient
      stores := invariant.stores
      callback := invariant.callback
      wire := by
        intro datagram member
        rcases invariant.wire datagram member with nothing | ⟨message,
          recorded, sentTo, acknowledges, handed⟩
        · exact Or.inl nothing
        · refine Or.inr ⟨message, recorded, sentTo, acknowledges, ?_⟩
          rw [← rounds] at handed
          exact handed }

/-! ## Runs -/

/-- One allowed step of the client, the network or the server. -/
theorem DeliveryInvariant.systemStep
    {event : SubscribeEvent}
    {next : DeliveryRun}
    (invariant : DeliveryInvariant address current)
    (allowed : DeliveryAllowed current (.step event))
    (taken : deliveryStep address current (.step event) = some next) :
    DeliveryInvariant address next := by
  obtain ⟨free, system, stepped, rfl⟩ := deliveryStep_step taken
  cases event with
  | send channel data length requireAck clock allocations =>
      simp only [subscribeStep] at stepped
      simp only [receiveRound, recordedMessage, Option.or_none,
        List.append_nil]
      split at stepped
      case isTrue => cases stepped
      case isFalse =>
        cases stepped
        exact invariant.call rfl rfl
          (krsClientSend_noAck invariant.stores channel data length
            requireAck clock allocations)
          (krsClientSend_receiver channel data length requireAck clock
            allocations)
  | startReceive created =>
      simp only [subscribeStep] at stepped
      simp only [receiveRound, recordedMessage, Option.or_none,
        List.append_nil]
      split at stepped
      case isTrue => cases stepped
      case isFalse =>
        cases stepped
        refine invariant.quiet rfl rfl ?_ ?_ <;>
          · unfold krsClientStartReceive
            split_ifs <;> rfl
  | subscribe channel now allocations =>
      simp only [subscribeStep] at stepped
      simp only [receiveRound, recordedMessage, Option.or_none,
        List.append_nil]
      obtain ⟨stores, frames⟩ := krsClientSubscribe_noAck invariant.stores
        channel now allocations
      have receiver := @krsClientSubscribe_receiver current.system.client
        channel now allocations
      split at stepped
      case isTrue => cases stepped
      case isFalse =>
        split at stepped
        case h_1 =>
          cases stepped
          exact invariant.call rfl (List.append_nil _).symm
            ⟨stores, List.forall_mem_nil _⟩ receiver
        case h_2 packetId frame called =>
          cases stepped
          refine invariant.call rfl rfl ⟨stores, ?_⟩ receiver
          intro datagram member
          rw [List.mem_singleton.mp member]
          exact frames packetId frame called
  | unsubscribe channel built =>
      simp only [subscribeStep] at stepped
      simp only [receiveRound, recordedMessage, Option.or_none,
        List.append_nil]
      split at stepped
      case isTrue => cases stepped
      case isFalse =>
        cases stepped
        exact invariant.call rfl rfl
          (krsClientUnsubscribe_noAck invariant.stores channel built)
          (krsClientUnsubscribe_receiver channel built)
  | service now built =>
      simp only [subscribeStep] at stepped
      simp only [receiveRound, recordedMessage, Option.or_none,
        List.append_nil]
      split at stepped
      case isTrue => cases stepped
      case isFalse =>
        cases stepped
        have beat := clientHeartbeat_noAck invariant.stores now built
        have resent := clientRetransmit_noAck beat.stores now
        refine invariant.call rfl (List.append_assoc _ _ _)
          ⟨resent.stores, ?_⟩ (clientService_receiver now built)
        intro datagram member
        rcases List.mem_append.mp member with first | second
        · exact beat.frames datagram first
        · exact resent.frames datagram second
  | receive position now allocations =>
      simp only [subscribeStep] at stepped
      simp only [receiveRound, recordedMessage, List.append_nil]
      split at stepped
      case h_1 => cases stepped
      case h_2 datagram found =>
        split at stepped
        case isTrue => cases stepped
        case isFalse =>
          obtain ⟨⟨client, effects⟩, received, rfl⟩ :=
            Option.map_eq_some_iff.mp stepped
          have idle : current.inHand = none := by
            simpa [SubscribeEvent.byReceiveThread] using free
          rw [found, Option.bind_some, received, Option.map_some, idle,
            Option.none_or]
          exact invariant.receive (List.mem_of_getElem? found) received idle
  | poll =>
      simp only [subscribeStep] at stepped
      simp only [receiveRound, recordedMessage, Option.or_none,
        List.append_nil]
      split at stepped
      case h_1 => cases stepped
      case h_2 channel packetId waits =>
        split at stepped
        case isTrue => cases stepped
        case isFalse =>
          split at stepped
          case isTrue =>
            cases stepped
            exact invariant.succeed channel packetId
          case isFalse =>
            cases stepped
            exact invariant
  | waitReceive position =>
      simp only [subscribeStep] at stepped
      simp only [receiveRound, recordedMessage, Option.or_none,
        List.append_nil]
      split at stepped
      case h_2 => cases stepped
      case h_1 channel packetId datagram waits found =>
        split at stepped
        case isTrue => cases stepped
        case isFalse =>
          split at stepped
          case isTrue =>
            cases stepped
            exact invariant.succeed channel packetId
          case isFalse =>
            cases stepped
            exact invariant
  | timeout =>
      simp only [subscribeStep] at stepped
      simp only [receiveRound, recordedMessage, Option.or_none,
        List.append_nil]
      split at stepped
      case isTrue => cases stepped
      case isFalse =>
        cases stepped
        refine invariant.quiet rfl rfl ?_ ?_ <;>
          · unfold subscribeTimeout
            dsimp only
            split <;> rfl
  | deliver position input =>
      simp only [subscribeStep] at stepped
      simp only [receiveRound, recordedMessage, Option.or_none,
        List.append_nil]
      split at stepped
      case h_1 => cases stepped
      case h_2 datagram found =>
        obtain ⟨server, handled, rfl⟩ := Option.map_eq_some_iff.mp stepped
        have nothing : sentMessage current.system.server.spm
            (.datagram 0 datagram address input) = none := rfl
        have kept := @DeliveryInvariant.withServer address current invariant
          (.datagram 0 datagram address input) trivial
          (fun _ sent => by cases sent) server handled
          { current.system with
            server := server
            commits := current.system.commits ++ committedBy server.spm 0
              (krsFrameCreate datagram kronosBufferSize) address }
          rfl rfl rfl
        rw [nothing, Option.toList_none, List.append_nil] at kept
        exact kept
  | other event =>
      simp only [subscribeStep] at stepped
      simp only [receiveRound, recordedMessage, Option.or_none]
      split at stepped
      case isTrue => cases stepped
      case isFalse =>
        obtain ⟨server, handled, rfl⟩ := Option.map_eq_some_iff.mp stepped
        exact invariant.withServer allowed.1 allowed.2 handled rfl rfl rfl

/-- One allowed step. -/
theorem DeliveryInvariant.step
    {event : DeliveryEvent}
    {next : DeliveryRun}
    (invariant : DeliveryInvariant address current)
    (allowed : DeliveryAllowed current event)
    (taken : deliveryStep address current event = some next) :
    DeliveryInvariant address next := by
  cases event with
  | step event => exact invariant.systemStep allowed taken
  | callBack =>
      obtain ⟨round, inHand, rfl⟩ := Option.map_eq_some_iff.mp taken
      exact invariant.callBack inHand

end Steps

/-- The beginning, with a server that has one port. -/
def DeliveryRun.start
    (client : ServerConnection)
    (port : UDPSocketDescriptor) : DeliveryRun :=
  { system := .start client [port] }

theorem DeliveryInvariant.start
    {client : ServerConnection}
    (fresh : FreshClient client)
    (receives : client.callback.isSome = true)
    (address : PortAddress)
    (port : UDPSocketDescriptor) :
    DeliveryInvariant address (.start client port) where
  server := RunHolds.start _ [port]
  onePort := rfl
  numbered := ⟨List.forall_mem_nil _, List.forall_mem_nil _⟩
  short := List.forall_mem_nil _
  toClient := List.forall_mem_nil _
  stores := by
    intro tracker read
    rw [DeliveryRun.start, SubscribeRun.start, fresh.ackTracker] at read
    cases read
  callback := receives
  wire := by
    intro datagram member
    rw [List.mem_singleton.mp member]
    have heads : Heads (controlFrame 0 .connection) 0 .connection 0 0 :=
      serializeToBuffer_heads (krsFrameBuilderCreate 0 .connection) rfl
        (by decide) (by decide)
    exact Or.inl (heads.acknowledgesNothing (by decide))

/-- The address of a connection and the entries it has pending. -/
def pendingAt (spm : ServerPortManager) (ref : ConnectionRef) :
    Option (PortAddress × List AckEntry) :=
  spm.connections[ref]?.bind fun conn =>
    conn.ackTracker.map fun tracker => (conn.remoteAddress, tracker.pending)

theorem pendingAt_eq_some
    {spm : ServerPortManager}
    {ref : ConnectionRef}
    {owner : PortAddress}
    {pending : List AckEntry}
    (found : pendingAt spm ref = some (owner, pending)) :
    ∃ conn tracker, spm.connections[ref]? = some conn ∧
      conn.ackTracker = some tracker ∧ conn.remoteAddress = owner ∧
      tracker.pending = pending := by
  obtain ⟨conn, read, mapped⟩ := Option.bind_eq_some_iff.mp found
  obtain ⟨tracker, tracked, same⟩ := Option.map_eq_some_iff.mp mapped
  cases same
  exact ⟨conn, tracker, read, tracked, rfl, rfl⟩

/-- A connection of this address had the entry pending, still keeps a tracker,
and the entry is no longer there. -/
def SettledBy
    (before after : ServerPortManager)
    (ref : ConnectionRef)
    (owner : PortAddress)
    (entry : AckEntry) : Prop :=
  ∃ pending other left, pendingAt before ref = some (owner, pending) ∧
    pendingAt after ref = some (other, left) ∧ entry ∈ pending ∧
      ∀ kept ∈ left, kept.handle ≠ entry.handle

/-- In every run of a client with a callback and a server with one port over a
network that loses, repeats and reorders datagrams, with other clients and any
sends, ticks and retransmissions in between, where every message gets a packet
id: whenever a datagram of the client settles an entry that a connection has
pending, the entry belongs to a message that the server has sent to this client,
with its channel and packet id.  The client's receive thread has taken a
datagram of that message, and in the same round it has called back, or calls
back in its next step, on the channel of the message; if the message fits into
one frame, the callback gets exactly its payload. -/
theorem acknowledged_message_handed_over
    {client : ServerConnection}
    (fresh : FreshClient client)
    (receives : client.callback.isSome = true)
    {address : PortAddress}
    {port : UDPSocketDescriptor}
    {events : List DeliveryEvent}
    {current : DeliveryRun}
    (allowed : RunAllowed (deliveryStep address) DeliveryAllowed
      (.start client port) events)
    (reached : run (deliveryStep address) (.start client port) events =
      some current)
    {position : Nat}
    {input : HandlerInput}
    {next : DeliveryRun}
    (taken : deliveryStep address current
      (.step (.deliver position input)) = some next)
    {ref : ConnectionRef}
    {owner : PortAddress}
    {entry : AckEntry}
    (settled : SettledBy current.system.server.spm next.system.server.spm ref
      owner entry) :
    owner = address ∧
      ∃ message ∈ current.ledger, message.address = address ∧
        message.channel = entry.channel ∧
        message.packetId = entry.packetId ∧
        (HandedOver current.handed message ∨
          BeingHandedOver address current message) := by
  have invariant := run_induction
    (fun _ _ _ before allowedHere takenHere =>
      DeliveryInvariant.step before allowedHere takenHere)
    (DeliveryInvariant.start fresh receives address port) allowed reached
  obtain ⟨pending, other, left, foundBefore, foundAfter, member, gone⟩ :=
    settled
  obtain ⟨old, tracker, oldRead, tracked, rfl, rfl⟩ :=
    pendingAt_eq_some foundBefore
  obtain ⟨new, leftOver, newRead, kept, -, rfl⟩ :=
    pendingAt_eq_some foundAfter
  obtain ⟨-, system, stepped, rfl⟩ := deliveryStep_step taken
  simp only [subscribeStep] at stepped
  split at stepped
  case h_1 => cases stepped
  case h_2 datagram found =>
    obtain ⟨server, handled, rfl⟩ := Option.map_eq_some_iff.mp stepped
    obtain ⟨⟨spm, effects⟩, effect, rfl⟩ := Option.map_eq_some_iff.mp handled
    obtain ⟨accepted, type, numbered, onChannel⟩ := handleDatagram_settled
      effect oldRead newRead tracked kept member gone
    obtain ⟨known, inLedger, toOwner, sameId, sameChannel, -⟩ :=
      invariant.server.connections ref old oldRead tracker tracked entry
        member
    rcases invariant.wire datagram (List.mem_of_getElem? found) with
      nothing | ⟨message, recorded, sentTo, acknowledges, handed⟩
    · exact absurd type (nothing accepted)
    · obtain ⟨ackChannel, -, ackNumber, -⟩ := krsFrameCreate_of_heads
        (ackResponse_heads message.channel message.packetId)
        (acknowledges ▸ accepted)
      rw [← acknowledges] at ackChannel ackNumber
      have same : known = message := by
        refine invariant.numbered.unique known inLedger message recorded ?_ ?_
        · rw [sameChannel, onChannel, ackChannel]
        · rw [sameId, numbered, ackNumber]
      subst same
      refine ⟨toOwner.symm.trans sentTo, known, recorded, sentTo,
        sameChannel, sameId, handedOver_rounds handed⟩

/-- The client of the small run, with a callback. -/
def callbackClient : ServerConnection :=
  { connectionId := 1, callback := some 5 }

/-- The client subscribes to channel 10, and the server sends it a message of two
bytes, which the client receives and acknowledges.  Its callback is to come. -/
def acknowledgedEvents : List DeliveryEvent :=
  [.step (.deliver 0 { now := 1 }), .step (.startReceive true),
    .step (.subscribe 10 2 {}), .step (.deliver 1 { now := 3 }),
    .step (.receive 1 4 {}), .callBack, .step .poll,
    .step (.other (.send 1 10 [7, 8] 2 true (fun _ => 5) {})),
    .step (.receive 2 6 {})]

/-- The run of these events and the delivery of the acknowledgement. -/
def acknowledgedRun : Option (DeliveryRun × DeliveryRun) :=
  (run (deliveryStep (clientAddress 7)) (.start callbackClient listeningPort)
    acknowledgedEvents).bind fun current =>
      (deliveryStep (clientAddress 7) current
        (.step (.deliver 2 { now := 7 }))).map fun next => (current, next)

/-- The entry that the server's send registers. -/
def acknowledgedEntry : AckEntry :=
  { handle := 0
    packetId := 1
    frameData := some (buildPlainFrame 10 .basicMessage 1 [7, 8]
      (ackFlags true))
    frameSize := 16
    timestampMs := 5
    retryCount := 0
    ackedAfterCount := 0
    channel := 10 }

theorem acknowledged_bytes_handed_over :
    ∃ current next, acknowledgedRun = some (current, next) ∧
      SettledBy current.system.server.spm next.system.server.spm 0
        (clientAddress 7) acknowledgedEntry ∧
      ∃ message ∈ current.ledger, message.address = clientAddress 7 ∧
        message.channel = 10 ∧ message.packetId = 1 ∧
        (HandedOver current.handed message ∨
          BeingHandedOver (clientAddress 7) current message) := by
  have outcome : acknowledgedRun.map (fun both =>
      (pendingAt both.1.system.server.spm 0,
        pendingAt both.2.system.server.spm 0)) =
      some (some (clientAddress 7, [acknowledgedEntry]),
        some (clientAddress 7, [])) := by
    decide +kernel
  have allowed : RunAllowed (deliveryStep (clientAddress 7)) DeliveryAllowed
      (.start callbackClient listeningPort) acknowledgedEvents := by
    decide +kernel
  obtain ⟨⟨current, next⟩, ran, shown⟩ := Option.map_eq_some_iff.mp outcome
  obtain ⟨before, after⟩ := Prod.mk.inj shown
  obtain ⟨state, reached, mapped⟩ := Option.bind_eq_some_iff.mp ran
  obtain ⟨last, taken, same⟩ := Option.map_eq_some_iff.mp mapped
  cases same
  have settled : SettledBy current.system.server.spm next.system.server.spm
      0 (clientAddress 7) acknowledgedEntry :=
    ⟨_, _, _, before, after, List.mem_singleton_self _, List.forall_mem_nil _⟩
  have fresh : FreshClient callbackClient :=
    ⟨rfl, rfl, rfl, rfl, fun _ => rfl⟩
  exact ⟨current, next, ran, settled,
    (acknowledged_message_handed_over fresh rfl allowed reached taken
      settled).2⟩

end Kronos
