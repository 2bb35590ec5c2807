import Kronos.Client.Backlog
import Kronos.Server.Acknowledged
import Kronos.Server.History

/-!
# The length of a reassembled message

A session takes up to 64 pieces of 1382 bytes, and the callbacks of the
application take a length of 16 bits.  Both receivers cast the length that the
reassembler reports.  A message that is handed to the application is announced
with its whole length if and only if its pieces have fewer than 65536 bytes
together.
-/

namespace Kronos

open Library

/-! ## Which fragments complete a packet -/

instance (reassembler : Reassembler) (fragment : Frame) (allocated : Bool) :
    Decidable (Admitted reassembler fragment allocated) :=
  decidable_of_iff
    (hasFlag fragment.presenceFlags .fragmentInfo = true ∧
      validFragment fragment = true ∧
      fragment.body.length ≤ krsMaxPayloadPerFragment ∧
      (reassembler.session fragment.packetId = none ->
        reassembler.sessions.length < krsMaxReassemblySessions ∧
          allocated = true))
    ⟨fun ⟨flagged, valid, fits, room⟩ => ⟨flagged, valid, fits, room⟩,
      fun admitted => ⟨admitted.flagged, admitted.valid, admitted.fits,
        admitted.room⟩⟩

instance (reassembler : Reassembler) (fragment : Frame) (now : UInt64)
    (allocated : Bool) :
    Decidable (CompletesSession reassembler fragment now allocated) :=
  decidable_of_iff
    (Admitted reassembler fragment allocated ∧
      (reassembler.sessionFor fragment
        now).pieceReceived[fragment.index]? = some false ∧
      (reassembler.sessionFor fragment now).received + 1 =
        (reassembler.sessionFor fragment now).total)
    ⟨fun ⟨admitted, missing, last⟩ => ⟨admitted, missing, last⟩,
      fun completes => ⟨completes.admitted, completes.missing,
        completes.last⟩⟩

/-- The fragment that completes a session makes the reassembler hand out all
its bytes. -/
theorem feed_of_completes
    {reassembler : Reassembler}
    {fragment : Frame}
    {now : UInt64}
    {allocated : Bool}
    (invariant : ReassemblerInvariant reassembler)
    (completes : CompletesSession reassembler fragment now allocated) :
    ∃ next result,
      krsReassemblerFeed reassembler fragment now allocated =
          some (next, result) ∧
        result.complete = true ∧
        result.dataLength = (packetPieces
          (reassembler.sessionFor fragment now) fragment).flatten.length := by
  obtain ⟨opened, slot, -, located⟩ :=
    openSession_of_admitted invariant completes.admitted now
  have inside : fragment.index <
      (reassembler.sessionFor fragment now).total := by
    rw [← located.shape.flagsLength]
    exact (List.getElem?_eq_some_iff.mp completes.missing).1
  obtain ⟨next, result, fed, -⟩ :=
    feed_of_admitted invariant completes.admitted now inside
  obtain ⟨complete_iff, whole⟩ :=
    feed_result invariant completes.admitted.flagged fed
  have complete := complete_iff.mpr completes
  exact ⟨next, result, fed, complete, (whole complete).1⟩

/-! ## The server -/

/-- A fragment completes a packet that `s_dispatch_app_frame` hands to the
application: the sender is subscribed, and a callback is registered. -/
structure HandedOn
    (spm : ServerPortManager)
    (desc : UDPSocketDescriptor)
    (frame : Frame)
    (remoteAddr : PortAddress)
    (input : HandlerInput) : Prop where
  accepted : frame.protocolChar = 0x4B
  application : 10 ≤ frame.channel
  message : frame.frameType = FrameType.basicMessage.code
  created : (desc.channelStates frame.channel).reassembler.isSome = true ∨
    input.created = true
  completes : CompletesSession
    (desc.channelStates frame.channel).reassemblerOr frame input.now
    input.allocated
  subscribed : (desc.connectionsOf frame.channel).any
    (spm.hasAddress remoteAddr) = true
  registered : ((desc.channelCallbacks frame.channel).or
    desc.portCallback).isSome = true

instance (spm : ServerPortManager) (desc : UDPSocketDescriptor)
    (frame : Frame) (remoteAddr : PortAddress) (input : HandlerInput) :
    Decidable (HandedOn spm desc frame remoteAddr input) :=
  decidable_of_iff
    (frame.protocolChar = 0x4B ∧ 10 ≤ frame.channel ∧
      frame.frameType = FrameType.basicMessage.code ∧
      ((desc.channelStates frame.channel).reassembler.isSome = true ∨
        input.created = true) ∧
      CompletesSession (desc.channelStates frame.channel).reassemblerOr
        frame input.now input.allocated ∧
      (desc.connectionsOf frame.channel).any
        (spm.hasAddress remoteAddr) = true ∧
      ((desc.channelCallbacks frame.channel).or
        desc.portCallback).isSome = true)
    ⟨fun ⟨accepted, application, message, created, completes, subscribed,
        registered⟩ =>
        ⟨accepted, application, message, created, completes, subscribed,
          registered⟩,
      fun handed => ⟨handed.accepted, handed.application, handed.message,
        handed.created, handed.completes, handed.subscribed,
        handed.registered⟩⟩

/-- The bytes of the packet that a fragment belongs to. -/
def reassembledBytes
    (reassembler : Reassembler)
    (frame : Frame)
    (now : UInt64) : Nat :=
  (packetPieces (reassembler.sessionFor frame now) frame).flatten.length

/-- The messages that the server reassembles in a step are announced with
their whole length. -/
def ServerLengthWhole (current : ServerRun) : ServerEvent -> Prop
  | .datagram descriptor bytes remoteAddr input =>
      let frame := krsFrameCreate bytes kronosBufferSize
      ∀ desc next effects callback channel connectionId data dataLength,
        hasFlag frame.presenceFlags .fragmentInfo = true ->
        current.spm.descriptorList[descriptor]? = some desc ->
        handleDatagram current.spm descriptor bytes remoteAddr input =
          some (next, effects) ->
        .message callback channel connectionId data dataLength ∈ effects ->
        dataLength = reassembledBytes
          (desc.channelStates frame.channel).reassemblerOr frame input.now
  | .send _ _ _ _ _ _ _ => True
  | .tick _ => True

/-- The pieces of a packet that the server hands to the application have fewer
than 65536 bytes together. -/
def ServerPayloadFits (current : ServerRun) : ServerEvent -> Prop
  | .datagram descriptor bytes remoteAddr input =>
      let frame := krsFrameCreate bytes kronosBufferSize
      ∀ desc ∈ current.spm.descriptorList[descriptor]?,
        HandedOn current.spm desc frame remoteAddr input ->
        reassembledBytes (desc.channelStates frame.channel).reassemblerOr
          frame input.now < 2 ^ 16
  | .send _ _ _ _ _ _ _ => True
  | .tick _ => True

instance (current : ServerRun) (event : ServerEvent) :
    Decidable (ServerPayloadFits current event) :=
  match event with
  | .datagram _ _ _ _ => inferInstanceAs (Decidable (∀ _ ∈ _, _ -> _))
  | .send _ _ _ _ _ _ _ => isTrue trivial
  | .tick _ => isTrue trivial

theorem reassemble_of_fed
    {state : ChannelState}
    {frame : Frame}
    {now : UInt64}
    {created allocated : Bool}
    {fed : Reassembler}
    {result : ReassembleResult}
    (present : state.reassembler.isSome = true ∨ created = true)
    (called : krsReassemblerFeed state.reassemblerOr frame now allocated =
      some (fed, result)) :
    reassemble state frame now created allocated =
      some ({ state with reassembler := some fed },
        if result.complete then
          some
            { data := result.data
              dataLength := result.dataLength % 2 ^ 16
              ackRequired := result.ackRequired }
        else none) := by
  unfold reassemble
  split
  case h_1 absent =>
    rw [absent] at present
    simp at present
  case h_2 =>
    unfold ChannelState.reassemblerOr at called
    rw [called]
    rfl

section Server

variable
  {spm next : ServerPortManager}
  {descriptor : Nat}
  {desc : UDPSocketDescriptor}
  {frame : Frame}
  {remoteAddr : PortAddress}
  {input : HandlerInput}
  {effects : List ServerEffect}
  (sound : desc.ReassemblersSound)
  (read : spm.descriptorList[descriptor]? = some desc)

include sound read

/-- A reassembled message is handed to the application with its length cast to
16 bits. -/
theorem message_of_fragment
    (flagged : hasFlag frame.presenceFlags .fragmentInfo = true)
    (dispatched : dispatchAppFrame spm descriptor frame remoteAddr input.now
      input.created input.allocated input.ackBuilt = some (next, effects))
    {callback : Callback}
    {channel : Channel}
    {connectionId : UInt32}
    {data : List UInt8}
    {dataLength : Nat}
    (handed : .message callback channel connectionId data dataLength ∈
      effects)
    (accepted : frame.protocolChar = 0x4B)
    (application : 10 ≤ frame.channel)
    (message : frame.frameType = FrameType.basicMessage.code) :
    HandedOn spm desc frame remoteAddr input ∧
      dataLength = reassembledBytes
        (desc.channelStates frame.channel).reassemblerOr frame input.now %
          2 ^ 16 := by
  unfold dispatchAppFrame at dispatched
  rw [read, flagged] at dispatched
  obtain ⟨⟨state, delivery⟩, reassembled, outcome⟩ :=
    Option.map_eq_some_iff.mp dispatched
  dsimp only at outcome
  rcases reassemble_cases reassembled with
    ⟨-, -, -, rfl⟩ | ⟨present, fed, result, called, -, rfl⟩
  · cases outcome
    cases handed
  · obtain ⟨complete_iff, whole⟩ :=
      feed_result (sound.reassemblerOr frame.channel) flagged called
    cases complete : result.complete with
    | false =>
        rw [complete] at outcome
        cases outcome
        cases handed
    | true =>
        rw [complete] at outcome
        have sent : _ = effects := congrArg Prod.snd outcome
        rw [← sent] at handed
        obtain ⟨connection, found, registered, -, -, -, size⟩ :=
          deliver_message_iff.mp handed
        refine ⟨⟨accepted, application, message, present,
          complete_iff.mp complete, ?_, ?_⟩, ?_⟩
        · rw [List.any_eq_true]
          exact ⟨connection, List.mem_of_find?_eq_some found,
            List.find?_some found⟩
        · rw [registered]
          rfl
        · rw [size, (whole complete).1, reassembledBytes]

theorem dispatchAppFrame_of_handedOn
    (handed : HandedOn spm desc frame remoteAddr input) :
    ∃ next effects callback connectionId data,
      dispatchAppFrame spm descriptor frame remoteAddr input.now
          input.created input.allocated input.ackBuilt =
            some (next, effects) ∧
        .message callback frame.channel connectionId data
            (reassembledBytes
              (desc.channelStates frame.channel).reassemblerOr frame
              input.now % 2 ^ 16) ∈ effects := by
  obtain ⟨fed, result, called, complete, size⟩ :=
    feed_of_completes (sound.reassemblerOr frame.channel) handed.completes
  obtain ⟨callback, registered⟩ :=
    Option.isSome_iff_exists.mp handed.registered
  obtain ⟨connection, found⟩ : ∃ connection,
      (desc.connectionsOf frame.channel).find?
        (spm.hasAddress remoteAddr) = some connection := by
    rw [← Option.isSome_iff_exists, List.find?_isSome]
    exact List.any_eq_true.mp handed.subscribed
  have reassembled := reassemble_of_fed handed.created called
  rw [complete] at reassembled
  unfold dispatchAppFrame
  rw [read, handed.completes.admitted.flagged]
  simp only [Bool.not_true, Bool.false_eq_true, if_false]
  rw [reassembled]
  refine ⟨_, _, callback, spm.connectionIdOf connection, result.data, rfl, ?_⟩
  refine deliver_message_iff.mpr ⟨connection, found, registered, rfl, rfl,
    rfl, ?_⟩
  rw [reassembledBytes, size]

end Server

/-- An application frame is routed to `s_dispatch_app_frame`. -/
theorem handleDatagram_of_application
    {spm : ServerPortManager}
    {descriptor : Nat}
    {bytes : List UInt8}
    {remoteAddr : PortAddress}
    {input : HandlerInput}
    (accepted :
      (krsFrameCreate bytes kronosBufferSize).protocolChar = 0x4B)
    (application : 10 ≤ (krsFrameCreate bytes kronosBufferSize).channel)
    (message : (krsFrameCreate bytes kronosBufferSize).frameType =
      FrameType.basicMessage.code) :
    handleDatagram spm descriptor bytes remoteAddr input =
      dispatchAppFrame
        { spm with
          stats :=
            { spm.stats with
              messagesReceived := spm.stats.messagesReceived + 1 } }
        descriptor (krsFrameCreate bytes kronosBufferSize) remoteAddr
        input.now input.created input.allocated input.ackBuilt := by
  unfold handleDatagram
  dsimp only
  rw [if_neg (not_not.mpr accepted)]
  generalize krsFrameCreate bytes kronosBufferSize = frame at *
  have typed : ∀ type : FrameType, type ≠ .basicMessage ->
      frame.frameType ≠ type.code := by
    intro type different
    rw [message]
    cases type <;> first | exact absurd rfl different | decide
  unfold routeFrame
  rw [if_neg (fun routed => typed .connection (by decide) routed.2),
    if_neg (fun routed => typed .heartbeat (by decide) routed.2),
    if_neg (fun routed => typed .disconnect (by decide) routed.2),
    if_neg (fun routed => typed .subscribe (by decide) routed.2),
    if_neg (fun routed => typed .unsubscribe (by decide) routed.2),
    if_neg (typed .messageAck (by decide)), if_neg (not_not.mpr message),
    if_pos application]

/-- The length is whole exactly when it fits 16 bits. -/
theorem mod_eq_self_iff (length : Nat) :
    length % 2 ^ 16 = length ↔ length < 2 ^ 16 := by
  rw [Nat.mod_eq_iff_lt (by decide)]

theorem serverLengthWhole_iff
    (current : ServerRun)
    (event : ServerEvent)
    (sound : ReassemblersSound current.spm.descriptorList) :
    ServerLengthWhole current event ↔ ServerPayloadFits current event := by
  cases event with
  | send => exact Iff.rfl
  | tick => exact Iff.rfl
  | datagram descriptor bytes remoteAddr input =>
      unfold ServerLengthWhole ServerPayloadFits
      dsimp only
      constructor
      · intro whole desc read handed
        have counted : HandedOn
            { current.spm with
              stats :=
                { current.spm.stats with
                  messagesReceived :=
                    current.spm.stats.messagesReceived + 1 } }
            desc (krsFrameCreate bytes kronosBufferSize) remoteAddr input :=
          { handed with subscribed := handed.subscribed }
        obtain ⟨next, effects, callback, connectionId, data, dispatched,
            message⟩ :=
          dispatchAppFrame_of_handedOn (sound desc (List.mem_of_getElem? read))
            (by exact read) counted
        have handled := (handleDatagram_of_application handed.accepted
          handed.application handed.message).trans dispatched
        have equal := whole desc next effects callback _ connectionId data _
          handed.completes.admitted.flagged read handled message
        exact (mod_eq_self_iff _).mp equal
      · intro fits desc next effects callback channel connectionId data
          dataLength flagged read handled message
        have accepted :
            (krsFrameCreate bytes kronosBufferSize).protocolChar = 0x4B := by
          by_contra refused
          unfold handleDatagram at handled
          dsimp only at handled
          rw [if_pos refused] at handled
          cases handled
          cases message
        unfold handleDatagram at handled
        dsimp only at handled
        rw [if_neg (not_not.mpr accepted)] at handled
        obtain ⟨application, typed, dispatched⟩ :=
          message_of_routed (routeFrame_routed handled) message
        obtain ⟨handed, size⟩ := message_of_fragment
          (sound desc (List.mem_of_getElem? read)) (by exact read) flagged
          dispatched message accepted application typed
        rw [size]
        exact (mod_eq_self_iff _).mpr
          (fits desc read { handed with subscribed := handed.subscribed })

/-! ## The client -/

/-- The messages that the client reassembles in a step are announced with
their whole length. -/
def ClientLengthWhole (conn : ServerConnection) (event : ClientEvent) :
    Prop :=
  match event with
  | .receive datagram now allocations =>
      ∀ frame next effects callback channel connectionId data dataLength,
        fedFrame conn event = some frame ->
        clientReceive conn datagram now allocations = some (next, effects) ->
        .message callback channel connectionId data dataLength ∈ effects ->
        dataLength = reassembledBytes (clientReassembler conn) frame now
  | _ => True

/-- The pieces of a packet that the client hands to the application have fewer
than 65536 bytes together. -/
def ClientPayloadFits (conn : ServerConnection) (event : ClientEvent) :
    Prop :=
  match event with
  | .receive _ now allocations =>
      ∀ frame ∈ fedFrame conn event,
        (conn.reassembler.isSome = true ∨ allocations.reassembler = true) ->
        CompletesSession (clientReassembler conn) frame now
          allocations.session ->
        conn.callback.isSome = true ->
        reassembledBytes (clientReassembler conn) frame now < 2 ^ 16
  | _ => True

instance (conn : ServerConnection) (event : ClientEvent) :
    Decidable (ClientPayloadFits conn event) :=
  match event with
  | .receive _ _ _ =>
      inferInstanceAs (Decidable (∀ _ ∈ _, _ -> _ -> _ -> _))
  | .send _ _ _ _ _ _ => isTrue trivial
  | .subscribe _ _ _ => isTrue trivial
  | .poll _ => isTrue trivial
  | .timeout => isTrue trivial
  | .unsubscribe _ _ => isTrue trivial
  | .service _ _ => isTrue trivial

theorem clientDeliver_message_iff
    {conn : ServerConnection}
    {frame : Frame}
    {delivery : Delivery}
    {ackBuilt : Bool}
    {callback : Callback}
    {channel : Channel}
    {connectionId : UInt32}
    {data : List UInt8}
    {dataLength : Nat} :
    .message callback channel connectionId data dataLength ∈
        clientDeliver conn frame delivery ackBuilt ↔
      conn.callback = some callback ∧ channel = frame.channel ∧
        connectionId = conn.connectionId ∧ data = delivery.data ∧
        dataLength = delivery.dataLength := by
  have notAck : .message callback channel connectionId data dataLength ∉
      (if delivery.ackRequired = true ∧ ackBuilt = true then
        clientSendFrame (ackResponse frame.channel frame.packetId)
      else []) := by
    unfold clientSendFrame
    split_ifs <;> simp
  rw [clientDeliver, List.mem_append, or_iff_right notAck]
  cases conn.callback with
  | none => simp
  | some known =>
      simp only [List.mem_singleton, ClientEffect.message.injEq,
        Option.some.injEq]
      constructor
      · rintro ⟨rfl, rest⟩
        exact ⟨rfl, rest⟩
      · rintro ⟨rfl, rest⟩
        exact ⟨rfl, rest⟩

/-- A fragment on a subscribed channel, by whether there is a reassembler. -/
theorem clientAppFrame_of_flagged
    {conn : ServerConnection}
    {frame : Frame}
    (flagged : hasFlag frame.presenceFlags .fragmentInfo = true)
    (now : UInt64)
    (allocations : ReceiveAllocations) :
    (¬ (conn.reassembler.isSome = true ∨ allocations.reassembler = true) ∧
        clientAppFrame conn frame now allocations = some (conn, [])) ∨
      (conn.reassembler.isSome = true ∨ allocations.reassembler = true) ∧
        clientAppFrame conn frame now allocations =
          (krsReassemblerFeed (clientReassembler conn) frame now
            allocations.session).map fun fed =>
              let next := { conn with reassembler := some fed.1 }
              (next,
                if fed.2.complete then
                  clientDeliver next frame
                    { data := fed.2.data
                      dataLength := fed.2.dataLength % 2 ^ 16
                      ackRequired := fed.2.ackRequired } allocations.ack
                else []) := by
  unfold clientAppFrame
  rw [flagged]
  simp only [Bool.not_true, Bool.false_eq_true, if_false]
  split
  case h_1 absent failed =>
    left
    rw [absent, failed]
    exact ⟨by simp, rfl⟩
  case h_2 other =>
    right
    refine ⟨?_, rfl⟩
    cases stored : conn.reassembler with
    | some reassembler => exact Or.inl rfl
    | none =>
        right
        exact Bool.eq_true_of_not_eq_false fun failed => other stored failed

theorem clientLengthWhole_iff
    (conn : ServerConnection)
    (event : ClientEvent)
    (invariant : ReassemblerInvariant (clientReassembler conn)) :
    ClientLengthWhole conn event ↔ ClientPayloadFits conn event := by
  cases event with
  | send => exact Iff.rfl
  | subscribe => exact Iff.rfl
  | poll => exact Iff.rfl
  | timeout => exact Iff.rfl
  | unsubscribe => exact Iff.rfl
  | service => exact Iff.rfl
  | receive datagram now allocations =>
      unfold ClientLengthWhole ClientPayloadFits
      dsimp only
      constructor
      · intro whole frame fed present completes registered
        obtain ⟨received, flagged⟩ := clientReceive_of_fed fed
        obtain ⟨callback, known⟩ := Option.isSome_iff_exists.mp registered
        obtain ⟨fedTo, result, called, complete, size⟩ :=
          feed_of_completes invariant completes
        rcases clientAppFrame_of_flagged flagged now allocations with
          ⟨absent, -⟩ | ⟨-, taken⟩
        · exact absurd present absent
        · rw [called, Option.map_some, complete, ← received] at taken
          have equal := whole frame _ _ callback frame.channel
            conn.connectionId result.data _ fed taken
            (clientDeliver_message_iff.mpr ⟨known, rfl, rfl, rfl, rfl⟩)
          rw [size] at equal
          exact (mod_eq_self_iff _).mp equal
      · intro fits frame next effects callback channel connectionId data
          dataLength fed handled message
        obtain ⟨received, flagged⟩ := clientReceive_of_fed fed
        rw [received] at handled
        rcases clientAppFrame_of_flagged flagged now allocations with
          ⟨-, unchanged⟩ | ⟨present, taken⟩
        · rw [unchanged] at handled
          cases handled
          cases message
        · rw [taken] at handled
          obtain ⟨⟨fedTo, result⟩, called, outcome⟩ :=
            Option.map_eq_some_iff.mp handled
          obtain ⟨complete_iff, whole⟩ :=
            feed_result invariant flagged called
          cases outcome
          dsimp only at message
          cases complete : result.complete with
          | false =>
              rw [complete] at message
              cases message
          | true =>
              rw [complete] at message
              obtain ⟨registered, -, -, -, size⟩ :=
                clientDeliver_message_iff.mp message
              have short := fits frame fed present
                (complete_iff.mp complete)
                (Option.isSome_iff_exists.mpr ⟨callback, registered⟩)
              rw [size, (whole complete).1]
              exact (mod_eq_self_iff _).mpr short

/-! ## Whole runs -/

theorem serverStep_reassemblersSound
    (current : ServerRun)
    (event : ServerEvent)
    (next : ServerRun)
    (sound : ReassemblersSound current.spm.descriptorList)
    (taken : serverStep current event = some next) :
    ReassemblersSound next.spm.descriptorList := by
  obtain ⟨⟨after, effects⟩, effect, rfl⟩ := Option.map_eq_some_iff.mp taken
  exact sound.serverEffect effect

/-- In every run of a server and in every run of a client, each reassembled
message is handed to the application with its whole length if and only if the
pieces of each of these messages have fewer than 65536 bytes together. -/
theorem reassembled_length_whole_iff
    {descriptorList : List UDPSocketDescriptor}
    (fresh : ∀ desc ∈ descriptorList, ∀ channel,
      (desc.channelStates channel).reassembler = none)
    (serverEvents : List ServerEvent)
    {conn : ServerConnection}
    (unused : conn.reassembler = none)
    (clientEvents : List ClientEvent) :
    (RunAllowed serverStep ServerLengthWhole (runStart descriptorList)
        serverEvents ↔
      RunAllowed serverStep ServerPayloadFits (runStart descriptorList)
        serverEvents) ∧
      (RunAllowed clientStep ClientLengthWhole conn clientEvents ↔
        RunAllowed clientStep ClientPayloadFits conn clientEvents) := by
  have serverStarts : ReassemblersSound
      (runStart descriptorList).spm.descriptorList := by
    intro desc member channel reassembler stored
    rw [fresh desc member channel] at stored
    cases stored
  have clientStarts : ReassemblerInvariant (clientReassembler conn) := by
    rw [clientReassembler, unused]
    exact krsReassemblerCreate_invariant
  exact ⟨runAllowed_congr serverStep_reassemblersSound serverLengthWhole_iff
      serverStarts,
    runAllowed_congr
      (fun _ _ _ invariant taken => (clientStep_keeps invariant taken).1)
      clientLengthWhole_iff clientStarts⟩

/-- A client connects to the server, subscribes to channel 10 and sends a
message of two fragments. -/
def shortMessageDatagrams : List ServerEvent :=
  subscriberDatagrams ++
    [.datagram 0 (fragmentFrame 10 .basicMessage 1 0 1 2 [8])
        (clientAddress 4000) {},
      .datagram 0 (fragmentFrame 10 .basicMessage 1 0 0 2 [7])
        (clientAddress 4000) {}]

theorem short_messages_length_whole :
    RunAllowed serverStep ServerLengthWhole (runStart [listeningPort])
        shortMessageDatagrams ∧
      RunAllowed clientStep ClientLengthWhole listening latestArrivals := by
  have fresh : ∀ desc ∈ [listeningPort], ∀ channel,
      (desc.channelStates channel).reassembler = none := by
    intro desc member channel
    rw [List.mem_singleton.mp member]
    rfl
  have unused : listening.reassembler = none := rfl
  obtain ⟨server, client⟩ := reassembled_length_whole_iff fresh
    shortMessageDatagrams unused latestArrivals
  exact ⟨server.mpr (by decide +kernel), client.mpr (by decide +kernel)⟩

/-- The pieces of a message as long as the reassembler takes them. -/
def longChunks : List (List UInt8) :=
  List.replicate 48 (List.replicate krsMaxPayloadPerFragment 0)

/-- The first fragments of the message arrive. -/
def longArrivals (count : Nat) : List ClientEvent :=
  (List.range count).map fun index =>
    fragmentArrives 1 index 48 (List.replicate krsMaxPayloadPerFragment 0)

theorem longChunks_limits : SessionLimits longChunks where
  count := by
    rw [longChunks, List.length_replicate]
    decide
  sizes := by
    intro chunk member
    rw [(List.mem_replicate.mp member).2, List.length_replicate]

/-- A fragment of the long message is fed as a fragment of its chunks. -/
theorem fedFrame_longArrival
    {conn : ServerConnection}
    (subscribed : conn.subscribed 10 = true)
    {index : Nat}
    (inside : index < 48) :
    ∃ frame,
      fedFrame conn (fragmentArrives 1 index 48
          (List.replicate krsMaxPayloadPerFragment 0)) = some frame ∧
        FragmentOf frame longChunks false ∧ frame.index = index ∧
        frame.packetId = 1 := by
  have present : longChunks[index]? =
      some (List.replicate krsMaxPayloadPerFragment 0) := by
    rw [longChunks, List.getElem?_replicate, if_pos inside]
  obtain ⟨fragment, sameIndex⟩ := fragmentParsed_of_chunks 10 1 false
    longChunks_limits present
  have total : longChunks.length = 48 := List.length_replicate
  rw [total] at fragment sameIndex
  refine ⟨_, fedFrame_fragmentArrives subscribed 1 (by omega) (by decide)
    (by rw [List.length_replicate]), fragment, sameIndex, rfl⟩

/-- Before its last fragment the client collects the long message. -/
theorem run_longArrivals
    (count : Nat)
    (few : count < 48) :
    ∃ conn, run clientStep listening (longArrivals count) = some conn ∧
      conn.subscribed 10 = true ∧ conn.callback = some 0 ∧
      Collecting (clientReassembler conn) 1 longChunks false
        (List.range count).reverse := by
  induction count with
  | zero =>
      refine ⟨listening, rfl, rfl, rfl, krsReassemblerCreate_invariant, ?_,
        ?_⟩
      · intro _
        exact ⟨rfl, by decide⟩
      · intro session found
        cases found
  | succ count inductionHypothesis =>
      obtain ⟨conn, reached, subscribed, registered, collecting⟩ :=
        inductionHypothesis (by omega)
      obtain ⟨frame, fed, fragment, sameIndex, samePacket⟩ :=
        fedFrame_longArrival subscribed (by omega : count < 48)
      obtain ⟨received, flagged⟩ := clientReceive_of_fed fed
      rw [← samePacket] at collecting
      obtain ⟨next, called, after⟩ := collecting.feed_incomplete fragment
        longChunks_limits 0 (by rw [longChunks, List.length_replicate]; exact few)
        (by rw [sameIndex]; simp)
      rw [sameIndex, samePacket] at after
      rcases clientAppFrame_of_flagged flagged 0 {} with
        ⟨absent, -⟩ | ⟨-, taken⟩
      · exact absurd (Or.inr rfl) absent
      · rw [called, Option.map_some, ← received] at taken
        refine ⟨{ conn with reassembler := some next }, ?_, subscribed,
          registered, ?_⟩
        · rw [longArrivals, List.range_succ, List.map_append, run_append,
            ← longArrivals, reached, Option.bind_some, List.map_singleton,
            run_cons]
          rw [fragmentArrives, clientStep, taken]
          rfl
        · rw [List.range_succ, List.reverse_append]
          exact after

/-- A message of 66336 bytes in 48 fragments, each of which the parser and the
reassembler take, is announced as one of 800 bytes. -/
theorem long_message_length_cut :
    longChunks.flatten.length = 66336 ∧
      ¬ RunAllowed clientStep ClientLengthWhole listening
        (longArrivals 48) := by
  have size : longChunks.flatten.length = 66336 := by
    rw [longChunks, List.flatten_replicate_replicate, List.length_replicate]
    rfl
  refine ⟨size, fun whole => ?_⟩
  obtain ⟨conn, reached, subscribed, registered, collecting⟩ :=
    run_longArrivals 47 (by decide)
  have last : longArrivals 48 = longArrivals 47 ++
      [fragmentArrives 1 47 48
        (List.replicate krsMaxPayloadPerFragment 0)] := by
    rw [longArrivals, List.range_succ, List.map_append, ← longArrivals,
      List.map_singleton]
  rw [last] at whole
  have here := whole.after reached
  obtain ⟨frame, fed, fragment, sameIndex, samePacket⟩ :=
    fedFrame_longArrival subscribed (by decide : 47 < 48)
  obtain ⟨received, flagged⟩ := clientReceive_of_fed fed
  rw [← samePacket] at collecting
  have all : ∀ index < longChunks.length,
      index ∈ frame.index :: (List.range 47).reverse := by
    intro index inside
    rw [longChunks, List.length_replicate] at inside
    rw [sameIndex, List.mem_cons, List.mem_reverse, List.mem_range]
    omega
  obtain ⟨next, buffer, called, -⟩ := collecting.feed_complete fragment
    longChunks_limits 0 all
  have bytes := ((feed_result collecting.invariant flagged called).2 rfl).1
  rcases clientAppFrame_of_flagged flagged 0 {} with
    ⟨absent, -⟩ | ⟨-, taken⟩
  · exact absurd (Or.inr rfl) absent
  · rw [called, Option.map_some, ← received] at taken
    have equal := here frame _ _ 0 frame.channel conn.connectionId buffer _
      fed taken
      (clientDeliver_message_iff.mpr ⟨registered, rfl, rfl, rfl, rfl⟩)
    rw [reassembledBytes, ← bytes] at equal
    dsimp only at equal
    rw [size] at equal
    exact absurd equal (by decide)

end Kronos
