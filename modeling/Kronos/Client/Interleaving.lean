import Kronos.Client.Delivery
import Kronos.Server.AppFrame
import Kronos.Server.System

/-!
# Several clients on one channel

All clients of a channel share its reassembler, and each client numbers its
own packets.  A run is any sequence of arrivals of frames that the clients
have sent.  Beside the server's state the run records, for each packet id, the
message whose frame opened the session.  As long as a frame only meets
sessions that its own message has opened, every payload handed to the
application is a message of the client it is attributed to.
-/

namespace Kronos

open Library

/-- One call of `krs_client_send` on a channel, with the caller's connection
at that time. -/
structure ClientSend where
  conn : ServerConnection
  payload : List UInt8
  short : payload.length < 2 ^ 16
  requireAck : Bool
  clock : Nat -> UInt64
  allocations : SendAllocations

/-- The datagrams that the call puts on the wire. -/
def ClientSend.frames (send : ClientSend) (channel : Channel) :
    List (List UInt8) :=
  (krsClientSend send.conn channel send.payload
    (UInt16.ofNat send.payload.length) send.requireAck send.clock
    send.allocations).2.2

/-- A connected client and its calls on one channel, which its own counter
numbers from one. -/
structure ChannelClient (channel : Channel) where
  connectionId : UInt32
  address : PortAddress
  sends : List ClientSend
  numbered : ∀ index send, sends[index]? = some send ->
    send.conn.nextPacketId channel = UInt64.ofNat (index + 1)

/-- The arrival of a frame that one of the clients has sent. -/
structure ClientArrival
    {channel : Channel}
    (clients : List (ChannelClient channel)) where
  client : ChannelClient channel
  member : client ∈ clients
  index : Nat
  send : ClientSend
  called : client.sends[index]? = some send
  datagram : List UInt8
  sent : datagram ∈ send.frames channel
  now : UInt64
  created : Bool
  allocated : Bool
  ackBuilt : Bool := true

/-- The frame of an arrival. -/
def ClientArrival.frame
    {channel : Channel}
    {clients : List (ChannelClient channel)}
    (arrival : ClientArrival clients) : Frame :=
  krsFrameCreate arrival.datagram kronosBufferSize

/-- The server, the message that opened the session of each packet id, and the
effects so far.  A message is named by its client's address and its number. -/
structure ChannelRun where
  server : ServerPortManager
  openers : UInt64 -> Option (PortAddress × Nat) := fun _ => none
  effects : List ServerEffect := []

/-- The reassembler of a channel, empty before its first use. -/
def channelReassembler
    (spm : ServerPortManager)
    (descriptor : Nat)
    (channel : Channel) : Reassembler :=
  match spm.descriptorList[descriptor]? with
  | none => krsReassemblerCreate
  | some desc =>
      (desc.channelStates channel).reassembler.getD krsReassemblerCreate

section Channel

variable {channel : Channel} {clients : List (ChannelClient channel)}

/-- One arrival at `s_dispatch_app_frame`. -/
def channelStep
    (descriptor : Nat)
    (run : ChannelRun)
    (arrival : ClientArrival clients) : Option ChannelRun :=
  (dispatchAppFrame run.server descriptor arrival.frame
      arrival.client.address arrival.now arrival.created
      arrival.allocated arrival.ackBuilt).map fun handled =>
    { server := handled.1
      openers :=
        match (channelReassembler run.server descriptor channel).session
            arrival.frame.packetId with
        | none => Function.update run.openers arrival.frame.packetId
            (some (arrival.client.address, arrival.index))
        | some _ => run.openers
      effects := run.effects ++ handled.2 }

/-- A fragment that meets an open session of its packet id belongs to the
message that opened it. -/
def MeetsOwnSession
    (descriptor : Nat)
    (run : ChannelRun)
    (arrival : ClientArrival clients) : Prop :=
  hasFlag arrival.frame.presenceFlags .fragmentInfo = true ->
    ((channelReassembler run.server descriptor channel).session
      arrival.frame.packetId).isSome = true ->
    run.openers arrival.frame.packetId =
      some (arrival.client.address, arrival.index)

instance
    (descriptor : Nat)
    (run : ChannelRun)
    (arrival : ClientArrival clients) :
    Decidable (MeetsOwnSession descriptor run arrival) :=
  inferInstanceAs (Decidable (_ -> _ -> _))

/-- The subscribers of the channel are the clients, whose addresses are
distinct. -/
structure Subscribed
    (clients : List (ChannelClient channel))
    (spm : ServerPortManager)
    (descriptor : Nat) : Prop where
  distinct : (clients.map ChannelClient.address).Nodup
  subscribers : ∀ desc, spm.descriptorList[descriptor]? = some desc ->
    ∀ connection ∈ desc.connectionsOf channel, ∃ client ∈ clients,
      spm.connectionIdOf connection = client.connectionId ∧
        spm.addressOf connection = some client.address

/-- The payload is a message that a client with this connection id has
sent. -/
def SentByClient
    (clients : List (ChannelClient channel))
    (connectionId : UInt32)
    (data : List UInt8)
    (dataLength : Nat) : Prop :=
  ∃ client ∈ clients, client.connectionId = connectionId ∧
    ∃ send ∈ client.sends, dataLength = send.payload.length ∧
      data.take dataLength = send.payload

/-- Every payload handed to the application is a message of the client it is
attributed to. -/
def PayloadsSentByClient
    (clients : List (ChannelClient channel))
    (effects : List ServerEffect) : Prop :=
  ∀ callback onChannel connectionId data dataLength,
    .message callback onChannel connectionId data dataLength ∈ effects ->
    onChannel = channel ∧
      SentByClient clients connectionId data dataLength

/-- The invariant of allowed runs: an open session collects the message that
opened it. -/
structure ChannelInvariant
    (clients : List (ChannelClient channel))
    (descriptor : Nat)
    (run : ChannelRun) : Prop where
  reassembler :
    ReassemblerInvariant (channelReassembler run.server descriptor channel)
  subscribed : Subscribed clients run.server descriptor
  sessions : ∀ packetId session,
    (channelReassembler run.server descriptor channel).session packetId =
      some session ->
    ∃ client ∈ clients, ∃ index send arrived,
      run.openers packetId = some (client.address, index) ∧
        client.sends[index]? = some send ∧
        Collects session (messageChunks send.payload) send.requireAck arrived
  delivered : PayloadsSentByClient clients run.effects

/-! ## What a call hands to the application -/

/-- What is passed on to the subscribers reaches the client that sent it. -/
theorem payloadsSentByClient_of_deliver
    {spm : ServerPortManager}
    {descriptor : Nat}
    {desc : UDPSocketDescriptor}
    {frame : Frame}
    {delivery : Delivery}
    {ackBuilt : Bool}
    {client : ChannelClient channel}
    {send : ClientSend}
    (subscribed : Subscribed clients spm descriptor)
    (found : spm.descriptorList[descriptor]? = some desc)
    (member : client ∈ clients)
    (called : send ∈ client.sends)
    (onChannel : frame.channel = channel)
    (length : delivery.dataLength = send.payload.length)
    (payload : delivery.data.take delivery.dataLength = send.payload) :
    PayloadsSentByClient clients
      (deliver spm descriptor desc frame client.address delivery
        ackBuilt).2 := by
  intro callback handedOn connectionId data dataLength handed
  obtain ⟨rfl, rfl, rfl, connection, subscriber, address, rfl⟩ :=
    message_of_deliver handed
  rw [onChannel] at subscriber ⊢
  obtain ⟨other, otherMember, sameId, otherAddress⟩ :=
    subscribed.subscribers desc found connection subscriber
  rw [address] at otherAddress
  have same : other = client := List.inj_on_of_nodup_map subscribed.distinct
    otherMember member (Option.some.inj otherAddress).symm
  subst same
  exact ⟨rfl, other, member, sameId.symm, send, called, length, payload⟩

/-! ## One arrival -/

/-- What an arrival does to the reassembler of the channel and what it passes
on. -/
structure ReceiveStep
    (before after : Reassembler)
    (frame : Frame)
    (send : ClientSend)
    (passed : Option Delivery) : Prop where
  invariant : ReassemblerInvariant after
  others : ∀ packetId, packetId ≠ frame.packetId ->
    after.session packetId = before.session packetId
  own : after = before ∨
    hasFlag frame.presenceFlags .fragmentInfo = true ∧
      ∀ session, after.session frame.packetId = some session ->
        ∃ arrived, Collects session (messageChunks send.payload)
          send.requireAck arrived
  payload : ∀ delivery, passed = some delivery ->
    delivery.dataLength = send.payload.length ∧
      delivery.data.take delivery.dataLength = send.payload

/-- An arrival that leaves the reassembler alone and passes nothing on. -/
theorem ReceiveStep.unchanged
    {reassembler : Reassembler}
    (invariant : ReassemblerInvariant reassembler)
    (frame : Frame)
    (send : ClientSend) :
    ReceiveStep reassembler reassembler frame send none where
  invariant := invariant
  others := fun _ _ => rfl
  own := Or.inl rfl
  payload := by
    intro delivery passed
    cases passed

/-- A fragment at a session that collects its own message, or at none. -/
theorem receiveStep_of_fragment
    {reassembler : Reassembler}
    {frame : Frame}
    {send : ClientSend}
    {allocated : Bool}
    (invariant : ReassemblerInvariant reassembler)
    (fragment : FragmentOf frame (messageChunks send.payload)
      send.requireAck)
    (own : ∀ session, reassembler.session frame.packetId = some session ->
      ∃ arrived, Collects session (messageChunks send.payload)
        send.requireAck arrived)
    (now : UInt64) :
    ∃ next result,
      krsReassemblerFeed reassembler frame now allocated =
        some (next, result) ∧
      ReceiveStep reassembler next frame send (passedOn result) := by
  obtain ⟨next, result, fed, feeds⟩ := feedsMessage_of_fragment invariant
    send.short fragment own now
  exact ⟨next, result, fed, feeds.invariant, feeds.others,
    Or.inr ⟨fragment.flagged, feeds.own⟩, feeds.whole⟩

/-- The frame of an arrival is the whole message of its call, or a fragment of
it. -/
theorem ClientArrival.wireFrame (arrival : ClientArrival clients) :
    WireFrame channel (arrival.send.conn.nextPacketId channel)
      arrival.send.payload arrival.send.requireAck arrival.frame := by
  have sent := arrival.sent
  rcases krsClientSend_frames arrival.send.conn channel
      arrival.send.requireAck arrival.send.clock arrival.send.allocations
      (ofNat_length_toNat arrival.send.short) with ⟨-, onWire⟩ | silent
  · rw [ClientSend.frames, onWire] at sent
    exact krsFrameCreate_wireFrame arrival.send.short sent
  · rw [ClientSend.frames, silent] at sent
    cases sent

/-- The session that an allowed fragment meets collects its own message. -/
theorem ChannelInvariant.ownSession
    {descriptor : Nat}
    {run : ChannelRun}
    (invariant : ChannelInvariant clients descriptor run)
    {arrival : ClientArrival clients}
    (meets : MeetsOwnSession descriptor run arrival)
    (flagged : hasFlag arrival.frame.presenceFlags .fragmentInfo = true)
    (session : FragmentSession)
    (found : (channelReassembler run.server descriptor channel).session
      arrival.frame.packetId = some session) :
    ∃ arrived, Collects session (messageChunks arrival.send.payload)
      arrival.send.requireAck arrived := by
  obtain ⟨client, member, index, send, arrived, opener, called, collects⟩ :=
    invariant.sessions _ session found
  have mine := meets flagged (by rw [found]; rfl)
  rw [opener, Option.some.injEq, Prod.mk.injEq] at mine
  obtain ⟨sameAddress, rfl⟩ := mine
  have sameClient : client = arrival.client := List.inj_on_of_nodup_map
    invariant.subscribed.distinct member arrival.member sameAddress
  subst sameClient
  rw [arrival.called] at called
  cases called
  exact ⟨arrived, collects⟩

/-- The first half of `s_dispatch_app_frame` for an allowed arrival. -/
theorem ChannelInvariant.receive
    {descriptor : Nat}
    {run : ChannelRun}
    {desc : UDPSocketDescriptor}
    (invariant : ChannelInvariant clients descriptor run)
    {arrival : ClientArrival clients}
    (meets : MeetsOwnSession descriptor run arrival)
    (found : run.server.descriptorList[descriptor]? = some desc) :
    ∃ after passed,
      receiveAppFrame (desc.channelStates channel) arrival.frame arrival.now
          arrival.created arrival.allocated = some (after, passed) ∧
      after.connections = (desc.channelStates channel).connections ∧
      ReceiveStep (channelReassembler run.server descriptor channel)
        (after.reassembler.getD krsReassemblerCreate) arrival.frame
        arrival.send passed := by
  have stored : channelReassembler run.server descriptor channel =
      (desc.channelStates channel).reassembler.getD krsReassemblerCreate := by
    rw [channelReassembler, found]
  have kept := invariant.reassembler
  have own := invariant.ownSession meets
  have parsed := arrival.wireFrame
  generalize arrival.frame = frame at own parsed ⊢
  rw [stored] at kept own ⊢
  unfold receiveAppFrame
  cases parsed with
  | whole fits =>
      have plain : hasFlag (plainFrame channel .basicMessage
          (arrival.send.conn.nextPacketId channel) arrival.send.requireAck
          arrival.send.payload).presenceFlags .fragmentInfo = false := by
        simp [plainFrame, hasFlag_ackFlags]
      rw [plain]
      refine ⟨_, _, rfl, rfl, kept, fun _ _ => rfl, Or.inl rfl, ?_⟩
      intro delivery passed
      cases passed
      exact ⟨rfl, List.take_length⟩
  | fragment long index chunk present =>
      obtain ⟨fragment, -⟩ := fragmentParsed_fragmentOf channel
        (arrival.send.conn.nextPacketId channel) arrival.send.requireAck
        arrival.send.short present
      rw [fragment.flagged]
      simp only [Bool.not_true, Bool.false_eq_true, if_false]
      by_cases ready : (desc.channelStates channel).reassembler.isSome =
          true ∨ arrival.created = true
      · obtain ⟨next, result, fed, step⟩ := receiveStep_of_fragment kept
          fragment (own fragment.flagged) arrival.now
        exact ⟨_, _, reassemble_of_feed ready fed, rfl, step⟩
      · have absent : (desc.channelStates channel).reassembler = none := by
          simpa using (not_or.mp ready).1
        have denied : arrival.created = false := by
          simpa using (not_or.mp ready).2
        refine ⟨desc.channelStates channel, none, ?_, rfl, ?_⟩
        · unfold reassemble
          simp only [absent, denied]
        · exact ReceiveStep.unchanged kept _ _

/-! ## Runs -/

theorem PayloadsSentByClient.append
    {first second : List ServerEffect}
    (before : PayloadsSentByClient clients first)
    (after : PayloadsSentByClient clients second) :
    PayloadsSentByClient clients (first ++ second) := by
  intro callback onChannel connectionId data dataLength handed
  rcases List.mem_append.mp handed with earlier | later
  · exact before _ _ _ _ _ earlier
  · exact after _ _ _ _ _ later

theorem PayloadsSentByClient.nil : PayloadsSentByClient clients [] := by
  intro callback onChannel connectionId data dataLength handed
  cases handed

/-- A server with the same connections and the same list on the channel has
the same subscribers. -/
theorem Subscribed.of_same
    {before after : ServerPortManager}
    {descriptor : Nat}
    {desc next : UDPSocketDescriptor}
    (subscribed : Subscribed clients before descriptor)
    (found : before.descriptorList[descriptor]? = some desc)
    (heap : after.connections = before.connections)
    (modified : after.descriptorList[descriptor]? = some next)
    (sameList : next.connectionsOf channel = desc.connectionsOf channel) :
    Subscribed clients after descriptor where
  distinct := subscribed.distinct
  subscribers := by
    intro current read connection member
    rw [modified] at read
    cases read
    rw [sameList] at member
    have client := subscribed.subscribers desc found connection member
    unfold ServerPortManager.connectionIdOf ServerPortManager.addressOf at *
    rw [heap]
    exact client

/-- Recording the opener of a session that an allowed arrival touches keeps
every open session with the message it collects. -/
theorem ChannelInvariant.sessions_step
    {descriptor : Nat}
    {run : ChannelRun}
    (invariant : ChannelInvariant clients descriptor run)
    {arrival : ClientArrival clients}
    (meets : MeetsOwnSession descriptor run arrival)
    {after : Reassembler}
    {passed : Option Delivery}
    (step : ReceiveStep (channelReassembler run.server descriptor channel)
      after arrival.frame arrival.send passed)
    (packetId : UInt64)
    (session : FragmentSession)
    (present : after.session packetId = some session) :
    ∃ client ∈ clients, ∃ index send arrived,
      (match (channelReassembler run.server descriptor channel).session
          arrival.frame.packetId with
        | none => Function.update run.openers arrival.frame.packetId
            (some (arrival.client.address, arrival.index))
        | some _ => run.openers) packetId = some (client.address, index) ∧
        client.sends[index]? = some send ∧
        Collects session (messageChunks send.payload) send.requireAck
          arrived := by
  by_cases here : packetId = arrival.frame.packetId
  · subst here
    rcases step.own with same | ⟨flagged, collecting⟩
    · rw [same] at present
      rw [present]
      exact invariant.sessions _ session present
    · obtain ⟨arrived, collects⟩ := collecting session present
      refine ⟨arrival.client, arrival.member, arrival.index, arrival.send,
        arrived, ?_, arrival.called, collects⟩
      cases found : (channelReassembler run.server descriptor
          channel).session arrival.frame.packetId with
      | none => exact Function.update_self _ _ _
      | some _ => exact meets flagged (by rw [found]; rfl)
  · rw [step.others packetId here] at present
    obtain ⟨client, member, index, send, arrived, opener, called, collects⟩ :=
      invariant.sessions packetId session present
    refine ⟨client, member, index, send, arrived, ?_, called, collects⟩
    cases (channelReassembler run.server descriptor channel).session
        arrival.frame.packetId with
    | none => exact (Function.update_of_ne here _ _).trans opener
    | some _ => exact opener

/-- An allowed arrival keeps the invariant and stays inside the arrays. -/
theorem ChannelInvariant.step
    {descriptor : Nat}
    {run : ChannelRun}
    (invariant : ChannelInvariant clients descriptor run)
    {arrival : ClientArrival clients}
    (meets : MeetsOwnSession descriptor run arrival) :
    ∃ next, channelStep descriptor run arrival = some next ∧
      ChannelInvariant clients descriptor next := by
  have onChannel : arrival.frame.channel = channel := by
    have parsed := arrival.wireFrame
    generalize arrival.frame = frame at parsed ⊢
    cases parsed <;> rfl
  cases found : run.server.descriptorList[descriptor]? with
  | none =>
      have dispatched : dispatchAppFrame run.server descriptor arrival.frame
          arrival.client.address arrival.now arrival.created
          arrival.allocated arrival.ackBuilt = some (run.server, []) := by
        rw [dispatchAppFrame, found]
      have idle := ReceiveStep.unchanged invariant.reassembler arrival.frame
        arrival.send
      refine ⟨_, by rw [channelStep, dispatched, Option.map_some], ?_⟩
      exact
        { reassembler := invariant.reassembler
          subscribed := invariant.subscribed
          sessions := invariant.sessions_step meets idle
          delivered := invariant.delivered.append PayloadsSentByClient.nil }
  | some desc =>
      obtain ⟨after, passed, received, sameList, step⟩ :=
        invariant.receive meets found
      obtain ⟨server, dispatched, heap, descriptors⟩ :=
        dispatchAppFrame_of_receive found onChannel received
          arrival.client.address
      refine ⟨_, by rw [channelStep, dispatched, Option.map_some], ?_⟩
      have reassembler : channelReassembler server descriptor channel =
          after.reassembler.getD krsReassemblerCreate := by
        rw [channelReassembler, descriptors]
        simp [UDPSocketDescriptor.modifyChannel]
      refine
        { reassembler := ?_
          subscribed := ?_
          sessions := ?_
          delivered := ?_ }
      · simp only [reassembler]
        exact step.invariant
      · refine invariant.subscribed.of_same found heap descriptors ?_
        simp [UDPSocketDescriptor.connectionsOf,
          UDPSocketDescriptor.modifyChannel, sameList]
      · simp only [reassembler]
        exact invariant.sessions_step meets step
      · refine invariant.delivered.append ?_
        cases passed with
        | none => exact PayloadsSentByClient.nil
        | some delivery =>
            obtain ⟨length, payload⟩ := step.payload delivery rfl
            exact payloadsSentByClient_of_deliver invariant.subscribed found
              arrival.member (List.mem_of_getElem? arrival.called) onChannel
              length payload

/-- Clients with distinct addresses send on one channel, and their frames
arrive in any order, with losses and repetitions.  If every fragment that meets
an open session of its packet id belongs to the message that opened it, every
payload handed to the application under a connection id is a message that the
client with that id has sent. -/
theorem payloads_sent_by_attributed_client
    (clients : List (ChannelClient channel))
    (spm : ServerPortManager)
    (descriptor : Nat)
    (arrivals : List (ClientArrival clients))
    (subscribed : Subscribed clients spm descriptor)
    (fresh : (channelReassembler spm descriptor channel).sessions = [])
    (allowed : RunAllowed (channelStep descriptor) (MeetsOwnSession descriptor)
      { server := spm } arrivals) :
    ∃ final,
      run (channelStep descriptor) { server := spm } arrivals = some final ∧
        PayloadsSentByClient clients final.effects := by
  have unopened : ∀ packetId, (channelReassembler spm descriptor
      channel).session packetId = none := by
    intro packetId
    rw [Reassembler.session, fresh]
    rfl
  have initially : ChannelInvariant clients descriptor { server := spm } :=
    { reassembler :=
        ⟨by rw [fresh]; simp, by rw [fresh]; exact List.nodup_nil⟩
      subscribed := subscribed
      sessions := by
        intro packetId session present
        rw [unopened packetId] at present
        cases present
      delivered := PayloadsSentByClient.nil }
  obtain ⟨final, reached, invariant⟩ := run_progress
    (fun _ _ invariant meets => invariant.step meets) initially allowed
  exact ⟨final, reached, invariant.delivered⟩

/-! ## Two clients -/

instance
    (clients : List (ChannelClient channel))
    (connectionId : UInt32)
    (data : List UInt8)
    (dataLength : Nat) :
    Decidable (SentByClient clients connectionId data dataLength) :=
  inferInstanceAs (Decidable (∃ client ∈ clients,
    client.connectionId = connectionId ∧
      ∃ send ∈ client.sends, dataLength = send.payload.length ∧
        data.take dataLength = send.payload))

/-- The effect is not a message, or a message of the client it is attributed
to. -/
def ServerEffect.sentByClient
    (clients : List (ChannelClient channel)) : ServerEffect -> Bool
  | .message _ onChannel connectionId data dataLength =>
      decide (onChannel = channel ∧
        SentByClient clients connectionId data dataLength)
  | _ => true

instance
    (clients : List (ChannelClient channel))
    (effects : List ServerEffect) :
    Decidable (PayloadsSentByClient clients effects) :=
  decidable_of_iff
    (effects.all (ServerEffect.sentByClient clients) = true) (by
      rw [List.all_eq_true]
      constructor
      · intro all callback onChannel connectionId data dataLength handed
        exact of_decide_eq_true (all _ handed)
      · intro payloads effect member
        cases effect with
        | message callback onChannel connectionId data dataLength =>
            exact decide_eq_true (payloads _ _ _ _ _ member)
        | _ => rfl)

end Channel

/-- A reliable call with a payload of 1387 equal bytes, the first of its
client. -/
def firstSend (connectionId : UInt32) (byte : UInt8) : ClientSend :=
  { conn := { connectionId := connectionId }
    payload := List.replicate 1387 byte
    short := by rw [List.length_replicate]; decide
    requireAck := true
    clock := fun _ => 0
    allocations := {} }

/-- A client that has sent one message. -/
def oneMessageClient (connectionId : UInt32) (port : UInt16) (byte : UInt8) :
    ChannelClient 10 :=
  { connectionId := connectionId
    address := clientAddress port
    sends := [firstSend connectionId byte]
    numbered := by
      intro index send called
      cases index with
      | zero =>
          cases called
          rfl
      | succ index => cases called }

/-- Two clients, each of which has sent one message of two fragments. -/
def twoClients : List (ChannelClient 10) :=
  [oneMessageClient 1 1 1, oneMessageClient 2 2 2]

/-- A server that the two clients have connected and subscribed to. -/
def twoSubscribers : ServerPortManager :=
  ((run serverStep (runStart [{ port := 1, portCallback := some 0 }])
    [connectFrom 1 0, connectFrom 2 0,
      .datagram 0 (subscribeFrame 10 1) (clientAddress 1) {},
      .datagram 0 (subscribeFrame 10 1) (clientAddress 2) {}]).map
        ServerRun.spm).getD (serverStart [])

theorem twoSubscribers_subscribed : Subscribed twoClients twoSubscribers 0 := by
  have list : twoSubscribers.descriptorList[0]?.map
      (·.connectionsOf 10) = some [0, 1] := by decide +kernel
  have known : ∀ connection ∈ [0, 1], ∃ client ∈ twoClients,
      twoSubscribers.connectionIdOf connection = client.connectionId ∧
        twoSubscribers.addressOf connection = some client.address := by
    decide +kernel
  refine ⟨by decide, ?_⟩
  intro desc read connection member
  rw [read] at list
  rw [Option.map_some, Option.some.injEq] at list
  rw [list] at member
  exact known connection member

/-- The arrival of a fragment that one of the two clients has sent. -/
def fragmentArrival
    {connectionId : UInt32}
    {port : UInt16}
    {byte : UInt8}
    (member : oneMessageClient connectionId port byte ∈ twoClients)
    (fragment : Fin ((firstSend connectionId byte).frames 10).length) :
    ClientArrival twoClients :=
  { client := oneMessageClient connectionId port byte
    member := member
    index := 0
    send := firstSend connectionId byte
    called := rfl
    datagram := ((firstSend connectionId byte).frames 10).get fragment
    sent := List.get_mem _ _
    now := 0
    created := true
    allocated := true }

/-- A fragment of the first client. -/
def ofFirst (fragment : Fin ((firstSend 1 1).frames 10).length) :
    ClientArrival twoClients :=
  fragmentArrival List.mem_cons_self fragment

/-- A fragment of the second client. -/
def ofSecond (fragment : Fin ((firstSend 2 2).frames 10).length) :
    ClientArrival twoClients :=
  fragmentArrival (List.mem_cons_of_mem _ List.mem_cons_self) fragment

/-- The two messages one after the other. -/
def separateArrivals : List (ClientArrival twoClients) :=
  [ofFirst ⟨0, by decide +kernel⟩, ofFirst ⟨1, by decide +kernel⟩,
    ofSecond ⟨1, by decide +kernel⟩, ofSecond ⟨0, by decide +kernel⟩]

/-- The first fragment of one client and the second of the other. -/
def mixedArrivals : List (ClientArrival twoClients) :=
  [ofFirst ⟨0, by decide +kernel⟩, ofSecond ⟨1, by decide +kernel⟩]

/-- Both messages arrive separately and are handed over. -/
theorem separate_payloads_sent_by_attributed_client :
    RunAllowed (channelStep 0) (MeetsOwnSession 0)
        { server := twoSubscribers } separateArrivals ∧
      ∃ final,
        run (channelStep 0) { server := twoSubscribers } separateArrivals =
            some final ∧
          PayloadsSentByClient twoClients final.effects := by
  have allowed : RunAllowed (channelStep 0) (MeetsOwnSession 0)
      { server := twoSubscribers } separateArrivals := by decide +kernel
  exact ⟨allowed, payloads_sent_by_attributed_client twoClients
    twoSubscribers 0 separateArrivals twoSubscribers_subscribed
    (by decide +kernel) allowed⟩

/-- Both clients number their first message 1.  A fragment of each completes
one session, and the application is handed a payload that neither has sent. -/
theorem payload_mixes_two_clients :
    Subscribed twoClients twoSubscribers 0 ∧
      (channelReassembler twoSubscribers 0 10).sessions = [] ∧
      ∃ final,
        run (channelStep 0) { server := twoSubscribers } mixedArrivals =
            some final ∧
          ¬ PayloadsSentByClient twoClients final.effects := by
  have mixed : (run (channelStep 0) { server := twoSubscribers }
      mixedArrivals).any (fun final =>
        decide (¬ PayloadsSentByClient twoClients final.effects)) = true := by
    decide +kernel
  obtain ⟨final, reached, foreign⟩ := (Option.any_eq_true _ _).mp mixed
  exact ⟨twoSubscribers_subscribed, by decide +kernel, final, reached,
    of_decide_eq_true foreign⟩

end Kronos
