import Kronos.Client.Delivery
import Kronos.Client.Receive
import Kronos.Server.Broadcast

/-!
# Several channels at one client

The server numbers the packets of each channel separately, and the client has
one reassembler for the frames of all channels.  A server sends messages by any
of its calls; the datagrams to one client then arrive in any order, with losses
and repetitions.  Beside the client's state the run records, for each packet
id, the message whose frame opened the session.  As long as a fragment only
meets sessions that its own message has opened, every payload handed to the
application is a message of its channel.
-/

namespace Kronos

open Library

/-! ## The sender -/

/-- A server, the messages it has sent, and the datagrams to one client, each
with the number of its message. -/
structure Sender where
  spm : ServerPortManager
  messages : List ServerMessage := []
  wire : List (Nat × List UInt8) := []

/-- What the server does: it sends a message, or anything else. -/
inductive SenderEvent
  | message (message : ServerMessage)
  | other (event : ServerEvent)

/-- The datagram that an effect sends to an address. -/
def ServerEffect.datagramTo (address : PortAddress) :
    ServerEffect -> Option (List UInt8)
  | .netSend _ target frame => if target = address then some frame else none
  | _ => none

/-- One step of the server; replies, retransmissions and other datagrams that
are not the first transmission of a message are left out of the wire. -/
def senderStep (address : PortAddress) (current : Sender) :
    SenderEvent -> Option Sender
  | .message message =>
      (message.perform current.spm).map fun performed =>
        { spm := performed.1
          messages := current.messages ++ [message]
          wire := current.wire ++
            (performed.2.filterMap (ServerEffect.datagramTo address)).map
              (current.messages.length, ·) }
  | .other event =>
      (serverEffect current.spm event).map fun handled =>
        { current with spm := handled.1 }

/-- Every datagram on the wire belongs to its message. -/
def WireSound
    (messages : List ServerMessage)
    (wire : List (Nat × List UInt8)) : Prop :=
  ∀ entry ∈ wire, ∃ message packetId,
    messages[entry.1]? = some message ∧
      entry.2 ∈ wireFrames message.channel packetId message.payload
        message.call.requireAck

theorem wireSound_step
    {address : PortAddress}
    {current next : Sender}
    {event : SenderEvent}
    (sound : WireSound current.messages current.wire)
    (taken : senderStep address current event = some next) :
    WireSound next.messages next.wire := by
  cases event with
  | other event =>
      obtain ⟨handled, -, same⟩ := Option.map_eq_some_iff.mp taken
      cases same
      exact sound
  | message message =>
      obtain ⟨performed, called, same⟩ := Option.map_eq_some_iff.mp taken
      cases same
      intro entry member
      rcases List.mem_append.mp member with earlier | later
      · obtain ⟨known, packetId, read, frame⟩ := sound entry earlier
        have inside := (List.getElem?_eq_some_iff.mp read).1
        exact ⟨known, packetId,
          (List.getElem?_append_left inside).trans read, frame⟩
      · obtain ⟨datagram, inEffects, rfl⟩ := List.mem_map.mp later
        obtain ⟨effect, effectIn, sent⟩ := List.mem_filterMap.mp inEffects
        obtain ⟨descriptor, target, packetId, frame, rfl, built⟩ :=
          ServerMessage.perform_sendsOnly called effect effectIn
        rw [ServerEffect.datagramTo] at sent
        split at sent
        case isTrue =>
          cases sent
          exact ⟨message, packetId, by simp, built⟩
        case isFalse => cases sent

/-! ## The client -/

/-- The client's reassembler, empty before its first use. -/
def clientReassembler (conn : ServerConnection) : Reassembler :=
  conn.reassembler.getD krsReassemblerCreate

/-- The client, the message that opened the session of each packet id, and the
effects so far. -/
structure ChannelsRun where
  client : ServerConnection
  openers : UInt64 -> Option Nat := fun _ => none
  effects : List ClientEffect := []

/-- What happens at the client: a datagram of the wire arrives, or a channel is
subscribed to or left. -/
inductive ChannelsEvent
  | arrive (position : Nat) (now : UInt64) (allocations : ReceiveAllocations)
  | subscription (channel : Channel) (subscribed : Bool)

/-- One step of the client. -/
def channelsStep
    (wire : List (Nat × List UInt8))
    (current : ChannelsRun) : ChannelsEvent -> Option ChannelsRun
  | .subscription channel subscribed =>
      some
        { current with
          client :=
            { current.client with
              subscribed := Function.update current.client.subscribed channel
                subscribed } }
  | .arrive position now allocations =>
      match wire[position]? with
      | none => some current
      | some (index, datagram) =>
          let frame := krsFrameCreate datagram kronosBufferSize
          (clientReceive current.client datagram now allocations).map
            fun received =>
              { client := received.1
                openers :=
                  match (clientReassembler current.client).session
                      frame.packetId with
                  | none => Function.update current.openers frame.packetId
                      (some index)
                  | some _ => current.openers
                effects := current.effects ++ received.2 }

/-- The frame is a fragment on a subscribed channel: it is fed to the
reassembler. -/
def ReachesReassembler (conn : ServerConnection) (frame : Frame) : Prop :=
  ¬ frame.channel < 10 ∧ conn.subscribed frame.channel = true ∧
    hasFlag frame.presenceFlags .fragmentInfo = true

instance (conn : ServerConnection) (frame : Frame) :
    Decidable (ReachesReassembler conn frame) :=
  inferInstanceAs (Decidable (_ ∧ _))

/-- A fragment that meets an open session of its packet id belongs to the
message that opened it. -/
def FeedsOwnSession
    (wire : List (Nat × List UInt8))
    (current : ChannelsRun) : ChannelsEvent -> Prop
  | .subscription _ _ => True
  | .arrive position _ _ =>
      ∀ index datagram, wire[position]? = some (index, datagram) ->
        let frame := krsFrameCreate datagram kronosBufferSize
        ReachesReassembler current.client frame ->
        ((clientReassembler current.client).session
          frame.packetId).isSome = true ->
        current.openers frame.packetId = some index

/-- Every payload handed to the application with a channel is a message that
the server has sent on that channel. -/
def PayloadsSentOnChannel
    (messages : List ServerMessage)
    (effects : List ClientEffect) : Prop :=
  ∀ callback channel connectionId data dataLength,
    .message callback channel connectionId data dataLength ∈ effects ->
    ∃ message ∈ messages, message.channel = channel ∧
      dataLength = message.payload.length ∧
      data.take dataLength = message.payload

/-! ## One arrival -/

/-- What the arrival of a frame of a message does to the client. -/
structure ReceivesFrame
    (conn next : ServerConnection)
    (frame : Frame)
    (message : ServerMessage)
    (effects : List ClientEffect) : Prop where
  invariant : ReassemblerInvariant (clientReassembler next)
  others : ∀ packetId, packetId ≠ frame.packetId ->
    (clientReassembler next).session packetId =
      (clientReassembler conn).session packetId
  own : clientReassembler next = clientReassembler conn ∨
    ReachesReassembler conn frame ∧
      ∀ session, (clientReassembler next).session frame.packetId =
        some session ->
        ∃ arrived, Collects session (messageChunks message.payload)
          message.call.requireAck arrived
  payloads : PayloadsSentOnChannel [message] effects

theorem ReceivesFrame.unchanged
    {conn : ServerConnection}
    (invariant : ReassemblerInvariant (clientReassembler conn))
    (frame : Frame)
    (message : ServerMessage) :
    ReceivesFrame conn conn frame message [] where
  invariant := invariant
  others := fun _ _ => rfl
  own := Or.inl rfl
  payloads := by
    intro callback channel connectionId data dataLength handed
    cases handed

/-- What is handed to the application is the delivery. -/
theorem payloads_of_clientDeliver
    {conn : ServerConnection}
    {frame : Frame}
    {delivery : Delivery}
    {ackBuilt : Bool}
    {message : ServerMessage}
    (onChannel : frame.channel = message.channel)
    (length : delivery.dataLength = message.payload.length)
    (payload : delivery.data.take delivery.dataLength = message.payload) :
    PayloadsSentOnChannel [message]
      (clientDeliver conn frame delivery ackBuilt) := by
  intro callback channel connectionId data dataLength handed
  unfold clientDeliver at handed
  rcases List.mem_append.mp handed with acknowledged | delivered
  · split at acknowledged
    case isTrue =>
      unfold clientSendFrame at acknowledged
      split at acknowledged
      case isTrue => cases acknowledged
      case isFalse => cases List.mem_singleton.mp acknowledged
    case isFalse => cases acknowledged
  · cases registered : conn.callback with
    | none =>
        rw [registered] at delivered
        cases delivered
    | some callback =>
        rw [registered] at delivered
        cases List.mem_singleton.mp delivered
        exact ⟨message, List.mem_singleton.mpr rfl, onChannel.symm, length,
          payload⟩

/-- A frame of a message on a subscribed channel. -/
theorem clientAppFrame_receives
    {conn : ServerConnection}
    {frame : Frame}
    {message : ServerMessage}
    {packetId : UInt64}
    (invariant : ReassemblerInvariant (clientReassembler conn))
    (parsed : WireFrame message.channel packetId message.payload
      message.call.requireAck frame)
    (application : ¬ frame.channel < 10)
    (subscribed : conn.subscribed frame.channel = true)
    (own : ReachesReassembler conn frame -> ∀ session,
      (clientReassembler conn).session frame.packetId = some session ->
        ∃ arrived, Collects session (messageChunks message.payload)
          message.call.requireAck arrived)
    (now : UInt64)
    (allocations : ReceiveAllocations) :
    ∃ next effects,
      clientAppFrame conn frame now allocations = some (next, effects) ∧
        ReceivesFrame conn next frame message effects := by
  unfold clientAppFrame
  cases parsed with
  | whole fits =>
      have plain : hasFlag (plainFrame message.channel .basicMessage packetId
          message.call.requireAck message.payload).presenceFlags
            .fragmentInfo = false := by
        simp [plainFrame, hasFlag_ackFlags]
      rw [plain]
      refine ⟨conn, _, rfl, invariant, fun _ _ => rfl, Or.inl rfl, ?_⟩
      exact payloads_of_clientDeliver rfl rfl List.take_length
  | fragment long index chunk present =>
      obtain ⟨fragment, -⟩ := fragmentParsed_fragmentOf message.channel
        packetId message.call.requireAck message.short present
      generalize sameFrame : fragmentParsed message.channel .basicMessage
        packetId message.call.requireAck index
        (messageChunks message.payload).length chunk = frame at *
      have onChannel : frame.channel = message.channel := by
        rw [← sameFrame]
        rfl
      have reaches : ReachesReassembler conn frame :=
        ⟨application, subscribed, fragment.flagged⟩
      rw [fragment.flagged]
      simp only [Bool.not_true, Bool.false_eq_true, if_false]
      obtain ⟨next, result, fed, feeds⟩ :
          ∃ next result,
            krsReassemblerFeed (clientReassembler conn) frame now
              allocations.session = some (next, result) ∧
            FeedsMessage (clientReassembler conn) next frame message.payload
              message.call.requireAck (passedOn result) :=
        feedsMessage_of_fragment invariant message.short fragment
          (own reaches) now
      have received : ReceivesFrame conn
          { conn with reassembler := some next } frame message
          (if result.complete then
            clientDeliver { conn with reassembler := some next } frame
              { data := result.data
                dataLength := result.dataLength % 2 ^ 16
                ackRequired := result.ackRequired } allocations.ack
            else []) := by
        refine ⟨feeds.invariant, feeds.others, Or.inr ⟨reaches, feeds.own⟩,
          ?_⟩
        cases complete : result.complete with
        | false =>
            rw [if_neg Bool.false_ne_true]
            intro callback channel connectionId data dataLength handed
            cases handed
        | true =>
            obtain ⟨length, payload⟩ := feeds.whole _
              (by rw [passedOn, if_pos complete])
            rw [if_pos rfl]
            exact payloads_of_clientDeliver onChannel length payload
      unfold clientReassembler at fed
      cases stored : conn.reassembler with
      | some reassembler =>
          rw [stored] at fed
          simp only [fed, Option.map_some]
          exact ⟨_, _, rfl, received⟩
      | none =>
          rw [stored] at fed
          cases created : allocations.reassembler with
          | true =>
              simp only [fed, Option.map_some]
              exact ⟨_, _, rfl, received⟩
          | false => exact ⟨conn, [], rfl, .unchanged invariant _ _⟩

/-- A round of the receive thread with a datagram of a message. -/
theorem clientReceive_receives
    {conn : ServerConnection}
    {datagram : List UInt8}
    {message : ServerMessage}
    {packetId : UInt64}
    (invariant : ReassemblerInvariant (clientReassembler conn))
    (sent : datagram ∈ wireFrames message.channel packetId message.payload
      message.call.requireAck)
    (own : let frame := krsFrameCreate datagram kronosBufferSize
      ReachesReassembler conn frame -> ∀ session,
        (clientReassembler conn).session frame.packetId = some session ->
          ∃ arrived, Collects session (messageChunks message.payload)
            message.call.requireAck arrived)
    (now : UInt64)
    (allocations : ReceiveAllocations) :
    ∃ next effects,
      clientReceive conn datagram now allocations = some (next, effects) ∧
        ReceivesFrame conn next (krsFrameCreate datagram kronosBufferSize)
          message effects := by
  have parsed := krsFrameCreate_wireFrame message.short sent
  have unchanged : ReceivesFrame conn conn
      (krsFrameCreate datagram kronosBufferSize) message [] :=
    .unchanged invariant _ _
  unfold clientReceive recvFrom
  dsimp only at own
  split_ifs
  · exact ⟨conn, [], rfl, unchanged⟩
  · dsimp only
    generalize krsFrameCreate datagram kronosBufferSize = frame at *
    have protocol : frame.protocolChar = 0x4B := by cases parsed <;> rfl
    have type : frame.frameType = FrameType.basicMessage.code := by
      cases parsed <;> rfl
    have notAck : frame.frameType ≠ FrameType.messageAck.code := by
      rw [type]
      decide
    rw [if_neg (not_not.mpr protocol), if_neg notAck]
    split
    case isTrue => exact ⟨conn, [], rfl, unchanged⟩
    case isFalse application =>
      split
      case isTrue => exact ⟨conn, [], rfl, unchanged⟩
      case isFalse subscribed =>
        exact clientAppFrame_receives invariant parsed application
          (by simpa using subscribed) own now allocations

/-! ## Runs -/

/-- The invariant of allowed runs: an open session collects the message that
opened it. -/
structure ChannelsInvariant
    (messages : List ServerMessage)
    (current : ChannelsRun) : Prop where
  reassembler : ReassemblerInvariant (clientReassembler current.client)
  sessions : ∀ packetId session,
    (clientReassembler current.client).session packetId = some session ->
    ∃ index message arrived,
      current.openers packetId = some index ∧
        messages[index]? = some message ∧
        Collects session (messageChunks message.payload)
          message.call.requireAck arrived
  delivered : PayloadsSentOnChannel messages current.effects

section

variable
  {messages : List ServerMessage}
  {wire : List (Nat × List UInt8)}
  {current : ChannelsRun}

theorem PayloadsSentOnChannel.append
    {first second : List ClientEffect}
    (before : PayloadsSentOnChannel messages first)
    (after : PayloadsSentOnChannel messages second) :
    PayloadsSentOnChannel messages (first ++ second) := by
  intro callback channel connectionId data dataLength handed
  rcases List.mem_append.mp handed with earlier | later
  · exact before _ _ _ _ _ earlier
  · exact after _ _ _ _ _ later

/-- The session that an allowed fragment meets collects its own message. -/
theorem ChannelsInvariant.ownSession
    (invariant : ChannelsInvariant messages current)
    {packetId : UInt64}
    {index : Nat}
    {message : ServerMessage}
    (read : messages[index]? = some message)
    (opened : ((clientReassembler current.client).session packetId).isSome =
      true -> current.openers packetId = some index)
    (session : FragmentSession)
    (found : (clientReassembler current.client).session packetId =
      some session) :
    ∃ arrived, Collects session (messageChunks message.payload)
      message.call.requireAck arrived := by
  obtain ⟨opener, known, arrived, openedBy, knownRead, collects⟩ :=
    invariant.sessions packetId session found
  rw [opened (by rw [found]; rfl)] at openedBy
  cases openedBy
  rw [read] at knownRead
  cases knownRead
  exact ⟨arrived, collects⟩

/-- Recording the opener of a session that an allowed arrival touches keeps
every open session with the message it collects. -/
theorem ChannelsInvariant.receive
    (invariant : ChannelsInvariant messages current)
    {next : ServerConnection}
    {frame : Frame}
    {index : Nat}
    {message : ServerMessage}
    {effects : List ClientEffect}
    (read : messages[index]? = some message)
    (opened : ReachesReassembler current.client frame ->
      ((clientReassembler current.client).session
        frame.packetId).isSome = true ->
      current.openers frame.packetId = some index)
    (received : ReceivesFrame current.client next frame message effects) :
    ChannelsInvariant messages
      { client := next
        openers :=
          match (clientReassembler current.client).session
              frame.packetId with
          | none => Function.update current.openers frame.packetId
              (some index)
          | some _ => current.openers
        effects := current.effects ++ effects } where
  reassembler := received.invariant
  sessions := by
    intro packetId session present
    dsimp only at present ⊢
    by_cases here : packetId = frame.packetId
    · subst here
      rcases received.own with same | ⟨reaches, collecting⟩
      · rw [same] at present
        rw [present]
        exact invariant.sessions _ session present
      · obtain ⟨arrived, collects⟩ := collecting session present
        refine ⟨index, message, arrived, ?_, read, collects⟩
        cases found : (clientReassembler current.client).session
            frame.packetId with
        | none => exact Function.update_self _ _ _
        | some _ => exact opened reaches (by rw [found]; rfl)
    · rw [received.others packetId here] at present
      obtain ⟨opener, known, arrived, openedBy, knownRead, collects⟩ :=
        invariant.sessions packetId session present
      refine ⟨opener, known, arrived, ?_, knownRead, collects⟩
      cases (clientReassembler current.client).session frame.packetId with
      | none => exact (Function.update_of_ne here _ _).trans openedBy
      | some _ => exact openedBy
  delivered := by
    refine invariant.delivered.append ?_
    intro callback channel connectionId data dataLength handed
    obtain ⟨sent, member, onChannel, payload⟩ :=
      received.payloads callback channel connectionId data dataLength handed
    rw [List.mem_singleton.mp member] at onChannel payload
    exact ⟨message, List.mem_of_getElem? read, onChannel, payload⟩

/-- An allowed event keeps the invariant and stays inside the arrays. -/
theorem ChannelsInvariant.step
    (sound : WireSound messages wire)
    (invariant : ChannelsInvariant messages current)
    {event : ChannelsEvent}
    (allowed : FeedsOwnSession wire current event) :
    ∃ next, channelsStep wire current event = some next ∧
      ChannelsInvariant messages next := by
  cases event with
  | subscription channel subscribed =>
      exact ⟨_, rfl, invariant.reassembler, invariant.sessions,
        invariant.delivered⟩
  | arrive position now allocations =>
      unfold channelsStep
      dsimp only
      cases arrived : wire[position]? with
      | none => exact ⟨current, rfl, invariant⟩
      | some entry =>
          obtain ⟨index, datagram⟩ := entry
          have opened := allowed index datagram arrived
          obtain ⟨message, packetId, read, frame⟩ :=
            sound _ (List.mem_of_getElem? arrived)
          obtain ⟨next, effects, stepped, received⟩ :=
            clientReceive_receives invariant.reassembler frame
              (fun reaches => invariant.ownSession read (opened reaches))
              now allocations
          dsimp only
          rw [stepped]
          exact ⟨_, rfl, invariant.receive read opened received⟩

end

/-- A server sends messages on any channels, and the datagrams to one client
arrive there in any order, with losses and repetitions.  If every fragment that
meets an open session of its packet id belongs to the message that opened it,
every payload handed to the application with a channel is, byte for byte, a
message that the server has sent on that channel. -/
theorem client_payloads_sent_on_channel
    (address : PortAddress)
    {start : ServerPortManager}
    {sending : List SenderEvent}
    {sender : Sender}
    (sent : run (senderStep address) { spm := start } sending = some sender)
    {client : ServerConnection}
    (fresh : (clientReassembler client).sessions = [])
    {events : List ChannelsEvent}
    (allowed : RunAllowed (channelsStep sender.wire)
      (FeedsOwnSession sender.wire) { client := client } events) :
    ∃ final,
      run (channelsStep sender.wire) { client := client } events =
          some final ∧
        PayloadsSentOnChannel sender.messages final.effects := by
  have sound : WireSound sender.messages sender.wire := by
    refine run_invariant (fun _ _ _ sound taken => wireSound_step sound taken)
      ?_ sent
    intro entry member
    cases member
  have initially : ChannelsInvariant sender.messages { client := client } :=
    { reassembler :=
        ⟨by rw [fresh]; simp, by rw [fresh]; exact List.nodup_nil⟩
      sessions := by
        intro packetId session present
        rw [Reassembler.session, fresh] at present
        cases present
      delivered := nofun }
  obtain ⟨final, reached, invariant⟩ := run_progress
    (fun _ _ invariant allowed => invariant.step sound allowed) initially
    allowed
  exact ⟨final, reached, invariant.delivered⟩

/-! ## Two channels -/

/-- Whether a step is allowed, as a computation. -/
instance
    (wire : List (Nat × List UInt8))
    (current : ChannelsRun) :
    ∀ event, Decidable (FeedsOwnSession wire current event)
  | .subscription _ _ => isTrue trivial
  | .arrive position _ _ =>
      match arrived : wire[position]? with
      | none => isTrue fun _ _ read => by rw [arrived] at read; cases read
      | some (index, datagram) =>
          decidable_of_iff
            (ReachesReassembler current.client
                (krsFrameCreate datagram kronosBufferSize) ->
              ((clientReassembler current.client).session
                (krsFrameCreate datagram
                  kronosBufferSize).packetId).isSome = true ->
              current.openers (krsFrameCreate datagram
                kronosBufferSize).packetId = some index)
            (by
              constructor
              · intro opened _ _ read
                rw [arrived] at read
                cases read
                exact opened
              · exact fun allowed => allowed index datagram arrived)

/-- The effect is not a message, or a message of its channel. -/
def ClientEffect.sentOnChannel (messages : List ServerMessage) :
    ClientEffect -> Bool
  | .message _ channel _ data dataLength =>
      messages.any fun message => decide (message.channel = channel ∧
        dataLength = message.payload.length ∧
        data.take dataLength = message.payload)
  | _ => true

instance (messages : List ServerMessage) (effects : List ClientEffect) :
    Decidable (PayloadsSentOnChannel messages effects) :=
  decidable_of_iff
    (effects.all (ClientEffect.sentOnChannel messages) = true) (by
      rw [List.all_eq_true]
      constructor
      · intro all callback channel connectionId data dataLength handed
        obtain ⟨message, member, sent⟩ := List.any_eq_true.mp (all _ handed)
        exact ⟨message, member, of_decide_eq_true sent⟩
      · intro payloads effect member
        cases effect with
        | message callback channel connectionId data dataLength =>
            obtain ⟨message, known, sent⟩ := payloads _ _ _ _ _ member
            exact List.any_eq_true.mpr ⟨message, known, decide_eq_true sent⟩
        | _ => rfl)

theorem length_replicate_byte_lt (byte : UInt8) :
    (List.replicate 1387 byte).length < 2 ^ 16 := by
  rw [List.length_replicate]
  decide

/-- A reliable message of 1387 equal bytes to the first client. -/
def longMessage (channel : Channel) (byte : UInt8) : ServerMessage :=
  { channel := channel
    payload := List.replicate 1387 byte
    short := length_replicate_byte_lt byte
    call := .send 1 true (fun _ => 0) {} }

/-- The calls of a server: its first message on each of two channels. -/
def twoChannelCalls : List SenderEvent :=
  [.message (longMessage 10 1), .message (longMessage 20 2)]

/-- A server with one client. -/
def oneClientServer : ServerPortManager :=
  ((run serverStep (runStart [listeningPort]) [connectFrom 4000 0]).map
    ServerRun.spm).getD (serverStart [])

/-- The server after its calls. -/
def twoChannelSender : Option Sender :=
  run (senderStep (clientAddress 4000)) { spm := oneClientServer }
    twoChannelCalls

/-- A client that is subscribed to both channels. -/
def twoChannelClient : ServerConnection :=
  { connectionId := 1
    callback := some 7
    subscribed := fun channel => channel == 10 || channel == 20 }

/-- The arrivals of datagrams, by their position on the wire. -/
def arrivalsAt (positions : List Nat) : List ChannelsEvent :=
  positions.map fun position => .arrive position 0 {}

/-- The two messages one after the other, the second one with its fragments
swapped. -/
theorem separate_payloads_sent_on_channel :
    ∃ sender final,
      twoChannelSender = some sender ∧
        run (channelsStep sender.wire) { client := twoChannelClient }
          (arrivalsAt [0, 1, 3, 2]) = some final ∧
        final.effects.length = 4 ∧
        PayloadsSentOnChannel sender.messages final.effects := by
  have ran : twoChannelSender.any (fun sender =>
      decide (RunAllowed (channelsStep sender.wire)
        (FeedsOwnSession sender.wire) { client := twoChannelClient }
        (arrivalsAt [0, 1, 3, 2])) &&
      (run (channelsStep sender.wire) { client := twoChannelClient }
        (arrivalsAt [0, 1, 3, 2])).any fun final =>
          decide (final.effects.length = 4)) = true := by
    decide +kernel
  obtain ⟨sender, sent, facts⟩ := (Option.any_eq_true _ _).mp ran
  rw [Bool.and_eq_true] at facts
  obtain ⟨allowed, counted⟩ := facts
  obtain ⟨final, reached, payloads⟩ := client_payloads_sent_on_channel
    (clientAddress 4000) sent (rfl : (clientReassembler
      twoChannelClient).sessions = []) (of_decide_eq_true allowed)
  rw [reached] at counted
  exact ⟨sender, final, sent, reached, of_decide_eq_true counted, payloads⟩

/-- Both channels number their first message 1.  A fragment of each completes
one session of the client, and the application is handed a payload that the
server has not sent. -/
theorem payload_mixes_two_channels :
    ∃ sender final,
      twoChannelSender = some sender ∧
        (clientReassembler twoChannelClient).sessions = [] ∧
        run (channelsStep sender.wire) { client := twoChannelClient }
          (arrivalsAt [0, 3]) = some final ∧
        ¬ PayloadsSentOnChannel sender.messages final.effects := by
  have ran : twoChannelSender.any (fun sender =>
      (run (channelsStep sender.wire) { client := twoChannelClient }
        (arrivalsAt [0, 3])).any fun final =>
          decide (¬ PayloadsSentOnChannel sender.messages
            final.effects)) = true := by
    decide +kernel
  obtain ⟨sender, sent, mixed⟩ := (Option.any_eq_true _ _).mp ran
  obtain ⟨final, reached, foreign⟩ := (Option.any_eq_true _ _).mp mixed
  exact ⟨sender, final, sent, rfl, reached, of_decide_eq_true foreign⟩

end Kronos
