import Kronos.Client.Wire

/-!
# A message from the client to the server's application

The datagrams of one `krsClientSend` arrive at a channel of the server in any
order and with repetitions.  The frame that completes the message passes on
exactly the payload.
-/

namespace Kronos

open Library

/-! ## Collecting one message -/

/-- A reassembler has collected some chunks of a message: none, and it can
open a session for the message, or those that the open session holds. -/
structure Collecting
    (reassembler : Reassembler)
    (packetId : UInt64)
    (chunks : List (List UInt8))
    (requireAck : Bool)
    (arrived : List Nat) : Prop where
  invariant : ReassemblerInvariant reassembler
  closed : reassembler.session packetId = none ->
    arrived = [] ∧ reassembler.sessions.length < krsMaxReassemblySessions
  opened : ∀ session, reassembler.session packetId = some session ->
    Collects session chunks requireAck arrived

theorem Collecting.sessionFor
    {reassembler : Reassembler}
    {frame : Frame}
    {chunks : List (List UInt8)}
    {requireAck : Bool}
    {arrived : List Nat}
    (collecting : Collecting reassembler frame.packetId chunks requireAck
      arrived)
    (fragment : FragmentOf frame chunks requireAck)
    (now : UInt64) :
    Collects (reassembler.sessionFor frame now) chunks requireAck arrived := by
  rw [Reassembler.sessionFor, fragment.total]
  cases found : reassembler.session frame.packetId with
  | none =>
      rw [(collecting.closed found).1]
      exact newSession_collects frame.packetId chunks requireAck now
  | some session => exact collecting.opened session found

theorem Collecting.feed
    {reassembler : Reassembler}
    {frame : Frame}
    {chunks : List (List UInt8)}
    {requireAck : Bool}
    {arrived : List Nat}
    (collecting : Collecting reassembler frame.packetId chunks requireAck
      arrived)
    (fragment : FragmentOf frame chunks requireAck)
    (limits : SessionLimits chunks)
    (now : UInt64) :
    ∃ next result,
      krsReassemblerFeed reassembler frame now true = some (next, result) ∧
      ReassemblerInvariant next ∧
      FragmentStep next frame.packetId chunks requireAck
        (frame.index :: arrived) result := by
  have admitted := fragment.admitted limits
    (fun absent => ⟨(collecting.closed absent).2, rfl⟩)
  obtain ⟨next, result, fed, invariant, -, step⟩ := feed_fragment
    collecting.invariant fragment admitted (collecting.sessionFor fragment now)
  exact ⟨next, result, fed, invariant, step⟩

/-- A fragment that leaves a chunk missing passes nothing on. -/
theorem Collecting.feed_incomplete
    {reassembler : Reassembler}
    {frame : Frame}
    {chunks : List (List UInt8)}
    {requireAck : Bool}
    {arrived : List Nat}
    (collecting : Collecting reassembler frame.packetId chunks requireAck
      arrived)
    (fragment : FragmentOf frame chunks requireAck)
    (limits : SessionLimits chunks)
    (now : UInt64)
    {missing : Nat}
    (inside : missing < chunks.length)
    (absent : missing ∉ frame.index :: arrived) :
    ∃ next,
      krsReassemblerFeed reassembler frame now true =
        some (next, { base := .suc }) ∧
      Collecting next frame.packetId chunks requireAck
        (frame.index :: arrived) := by
  obtain ⟨next, result, fed, invariant, step⟩ := collecting.feed fragment
    limits now
  cases step with
  | collected session present collects missing =>
      refine ⟨next, fed, invariant, ?_, ?_⟩
      · intro none
        rw [none] at present
        cases present
      · intro other found
        rw [found] at present
        cases present
        exact collects
  | completed buffer closed all payload =>
      exact absurd (all missing inside) absent

/-- The fragment that brings the last missing chunk passes the payload on. -/
theorem Collecting.feed_complete
    {reassembler : Reassembler}
    {frame : Frame}
    {chunks : List (List UInt8)}
    {requireAck : Bool}
    {arrived : List Nat}
    (collecting : Collecting reassembler frame.packetId chunks requireAck
      arrived)
    (fragment : FragmentOf frame chunks requireAck)
    (limits : SessionLimits chunks)
    (now : UInt64)
    (all : ∀ index < chunks.length, index ∈ frame.index :: arrived) :
    ∃ next buffer,
      krsReassemblerFeed reassembler frame now true =
        some (next,
          { base := .suc
            complete := true
            data := buffer
            dataLength := chunks.flatten.length
            ackRequired := requireAck }) ∧
      buffer.take chunks.flatten.length = chunks.flatten := by
  obtain ⟨next, result, fed, -, step⟩ := collecting.feed fragment limits now
  cases step with
  | collected session present collects missing =>
      obtain ⟨index, inside, absent⟩ := missing
      exact absurd (all index inside) absent
  | completed buffer closed _ payload => exact ⟨next, buffer, fed, payload⟩

/-! ## Arrivals -/

/-- A datagram and the time at which it arrives. -/
abbrev Arrival := List UInt8 × UInt64

/-- The frame of an arrival, parsed as the handler thread does. -/
def Arrival.frame (arrival : Arrival) : Frame :=
  krsFrameCreate arrival.1 kronosBufferSize

/-- Feed an arrival to a reassembler whose allocations succeed. -/
def feedArrival (reassembler : Reassembler) (arrival : Arrival) :
    Option (Reassembler × ReassembleResult) :=
  krsReassemblerFeed reassembler arrival.frame arrival.2 true

/-- The first half of `s_dispatch_app_frame`: what is passed on to the
application, if anything. -/
def receiveAppFrame
    (state : ChannelState)
    (frame : Frame)
    (now : UInt64)
    (created allocated : Bool) : Option (ChannelState × Option Delivery) :=
  if !hasFlag frame.presenceFlags .fragmentInfo then
    some (state,
      some
        { data := frame.body
          dataLength := frame.body.length
          ackRequired := ackRequested frame })
  else reassemble state frame now created allocated

/-- The second half changes counters only, and its effects depend on nothing
but the connections. -/
theorem deliver_of_sameConnections
    {spm other : ServerPortManager}
    (same : other.connections = spm.connections)
    (descriptor : Nat)
    (desc : UDPSocketDescriptor)
    (frame : Frame)
    (remoteAddr : PortAddress)
    (delivery : Delivery)
    (ackBuilt : Bool) :
    ∃ next,
      deliver other descriptor desc frame remoteAddr delivery ackBuilt =
        (next,
          (deliver spm descriptor desc frame remoteAddr delivery
            ackBuilt).2) ∧
      next.connections = spm.connections ∧
      next.descriptorList = other.descriptorList := by
  have addresses : other.hasAddress = spm.hasAddress := by
    funext address connection
    rw [ServerPortManager.hasAddress, ServerPortManager.hasAddress, same]
  have ids : other.connectionIdOf = spm.connectionIdOf := by
    funext connection
    rw [ServerPortManager.connectionIdOf, ServerPortManager.connectionIdOf,
      same]
  have effects : (deliver other descriptor desc frame remoteAddr delivery
        ackBuilt).2 =
      (deliver spm descriptor desc frame remoteAddr delivery
        ackBuilt).2 := by
    unfold deliver
    rw [addresses, ids]
    cases delivery.ackRequired <;>
      cases (desc.connectionsOf frame.channel).find?
        (spm.hasAddress remoteAddr) <;> rfl
  obtain ⟨heap, -, descriptors, -⟩ := deliver_effect other descriptor desc
    frame remoteAddr delivery ackBuilt
  exact ⟨_, Prod.ext rfl effects, heap.trans same, descriptors⟩

/-- The second half of `s_dispatch_app_frame` works on what the first half
passes on; connections stay as they are. -/
theorem dispatchAppFrame_of_receive
    {spm : ServerPortManager}
    {descriptor : Nat}
    {desc : UDPSocketDescriptor}
    {frame : Frame}
    {channel : Channel}
    {now : UInt64}
    {created allocated ackBuilt : Bool}
    {after : ChannelState}
    {passed : Option Delivery}
    (found : spm.descriptorList[descriptor]? = some desc)
    (onChannel : frame.channel = channel)
    (received : receiveAppFrame (desc.channelStates channel) frame now created
      allocated = some (after, passed))
    (remoteAddr : PortAddress) :
    ∃ next,
      dispatchAppFrame spm descriptor frame remoteAddr now created allocated
          ackBuilt =
        some (next, (passed.map fun delivery =>
          (deliver spm descriptor desc frame remoteAddr
            delivery ackBuilt).2).getD []) ∧
      next.connections = spm.connections ∧
      next.descriptorList[descriptor]? =
        some (desc.modifyChannel channel fun _ => after) := by
  subst onChannel
  unfold receiveAppFrame at received
  rw [dispatchAppFrame, found]
  simp only
  by_cases plain : (!hasFlag frame.presenceFlags .fragmentInfo) = true
  · rw [if_pos plain] at received ⊢
    cases received
    obtain ⟨next, delivered, heap, descriptors⟩ :=
      deliver_of_sameConnections (Eq.refl spm.connections) descriptor desc
        frame remoteAddr
        { data := frame.body
          dataLength := frame.body.length
          ackRequired := ackRequested frame } ackBuilt
    refine ⟨next, congrArg some delivered, heap, ?_⟩
    rw [descriptors, found, UDPSocketDescriptor.modifyChannel,
      Function.update_eq_self]
  · rw [if_neg plain] at received ⊢
    rw [received, Option.map_some]
    have modified : (spm.descriptorList.modify descriptor
        (·.modifyChannel frame.channel fun _ => after))[descriptor]? =
        some (desc.modifyChannel frame.channel fun _ => after) := by
      rw [List.getElem?_modify_eq, found]
      rfl
    cases passed with
    | none => exact ⟨_, rfl, rfl, modified⟩
    | some delivery =>
        simp only
        generalize counted : ({ (_ : ServerPortManager) with
          stats := _ } : ServerPortManager) = other
        have same : other.connections = spm.connections := by
          rw [← counted]
          rfl
        obtain ⟨next, delivered, heap, descriptors⟩ :=
          deliver_of_sameConnections same descriptor desc frame remoteAddr
            delivery ackBuilt
        refine ⟨next, congrArg some delivered, heap, ?_⟩
        rw [descriptors, ← counted]
        exact modified

/-- The first half of `s_dispatch_app_frame` for an arrival whose allocations
succeed. -/
def receiveArrival (state : ChannelState) (arrival : Arrival) :
    Option (ChannelState × Option Delivery) :=
  receiveAppFrame state arrival.frame arrival.2 true true

/-- What `s_dispatch_app_frame` passes on of a reassembler's result. -/
def passedOn (result : ReassembleResult) : Option Delivery :=
  if result.complete then
    some
      { data := result.data
        dataLength := result.dataLength % 2 ^ 16
        ackRequired := result.ackRequired }
  else none

/-- What a fragment of a message does to a reassembler whose session of its
packet id, if there is one, collects the message, and what it passes on. -/
structure FeedsMessage
    (before after : Reassembler)
    (frame : Frame)
    (payload : List UInt8)
    (requireAck : Bool)
    (passed : Option Delivery) : Prop where
  invariant : ReassemblerInvariant after
  others : ∀ packetId, packetId ≠ frame.packetId ->
    after.session packetId = before.session packetId
  own : ∀ session, after.session frame.packetId = some session ->
    ∃ arrived, Collects session (messageChunks payload) requireAck arrived
  whole : ∀ delivery, passed = some delivery ->
    delivery.dataLength = payload.length ∧
      delivery.data.take delivery.dataLength = payload

/-- A fragment at a session that collects its own message, or at none. -/
theorem feedsMessage_of_fragment
    {reassembler : Reassembler}
    {frame : Frame}
    {payload : List UInt8}
    {requireAck allocated : Bool}
    (invariant : ReassemblerInvariant reassembler)
    (short : payload.length < 2 ^ 16)
    (fragment : FragmentOf frame (messageChunks payload) requireAck)
    (own : ∀ session, reassembler.session frame.packetId = some session ->
      ∃ arrived, Collects session (messageChunks payload) requireAck arrived)
    (now : UInt64) :
    ∃ next result,
      krsReassemblerFeed reassembler frame now allocated =
        some (next, result) ∧
      FeedsMessage reassembler next frame payload requireAck
        (passedOn result) := by
  by_cases admitted : Admitted reassembler frame allocated
  · have collects : ∃ arrived, Collects (reassembler.sessionFor frame now)
        (messageChunks payload) requireAck arrived := by
      rw [Reassembler.sessionFor, fragment.total]
      cases found : reassembler.session frame.packetId with
      | none => exact ⟨[], newSession_collects _ _ _ _⟩
      | some session => exact own session found
    obtain ⟨arrived, collects⟩ := collects
    obtain ⟨next, result, fed, kept, others, step⟩ := feed_fragment invariant
      fragment admitted collects
    refine ⟨next, result, fed, kept, others, ?_, ?_⟩
    · intro session present
      cases step with
      | collected stored found more _ =>
          rw [found] at present
          cases present
          exact ⟨_, more⟩
      | completed buffer closed _ _ =>
          rw [closed] at present
          cases present
    · intro delivery passed
      cases step with
      | collected stored found more _ => cases passed
      | completed buffer closed _ payload =>
          rw [messageChunks_flatten short] at passed payload
          cases passed
          rw [Nat.mod_eq_of_lt short]
          exact ⟨rfl, payload⟩
  · obtain ⟨result, fed, incomplete⟩ := feed_of_rejected fragment.flagged
      admitted now
    refine ⟨reassembler, result, fed, invariant, fun _ _ => rfl, own, ?_⟩
    intro delivery passed
    rw [passedOn, incomplete] at passed
    cases passed

/-- A channel whose reassembler exists or can be created passes on what the
reassembler completes. -/
theorem reassemble_of_feed
    {state : ChannelState}
    {frame : Frame}
    {now : UInt64}
    {created allocated : Bool}
    {next : Reassembler}
    {result : ReassembleResult}
    (ready : state.reassembler.isSome = true ∨ created = true)
    (fed : krsReassemblerFeed
      (state.reassembler.getD krsReassemblerCreate) frame now allocated =
        some (next, result)) :
    reassemble state frame now created allocated =
      some ({ state with reassembler := some next }, passedOn result) := by
  unfold reassemble
  cases stored : state.reassembler with
  | none =>
      rw [stored] at fed ready
      have granted : created = true := by simpa using ready
      subst granted
      simp only [fed]
      rfl
  | some reassembler =>
      rw [stored] at fed
      simp only [fed]
      rfl

/-- The channel follows its reassembler. -/
theorem receiveArrival_of_feed
    {reassembler next : Reassembler}
    {state : ChannelState}
    {arrival : Arrival}
    {result : ReassembleResult}
    (same : state.reassembler.getD krsReassemblerCreate = reassembler)
    (short : arrival.frame.body.length < 2 ^ 16)
    (fed : feedArrival reassembler arrival = some (next, result)) :
    ∃ after, receiveArrival state arrival = some (after, passedOn result) ∧
      after.reassembler.getD krsReassemblerCreate = next := by
  unfold feedArrival at fed
  unfold receiveArrival receiveAppFrame
  by_cases flagged : hasFlag arrival.frame.presenceFlags .fragmentInfo = true
  · rw [← same] at fed
    rw [flagged]
    exact ⟨_, reassemble_of_feed (Or.inr rfl) fed, rfl⟩
  · rw [Bool.not_eq_true] at flagged
    rw [krsReassemblerFeed, flagged] at fed
    cases fed
    rw [flagged]
    refine ⟨state, ?_, same⟩
    simp only [passedOn, Nat.mod_eq_of_lt short]
    rfl

theorem receiveArrivals_of_feed
    {state : ChannelState}
    {next : Reassembler}
    {arrivals : List Arrival}
    {results : List ReassembleResult}
    (short : ∀ arrival ∈ arrivals, arrival.frame.body.length < 2 ^ 16)
    (fed : runOutputs feedArrival
      (state.reassembler.getD krsReassemblerCreate) arrivals =
        some (next, results)) :
    ∃ after, runOutputs receiveArrival state arrivals =
      some (after, results.map passedOn) := by
  let Follows := fun (reassembler : Reassembler) (current : ChannelState) =>
    current.reassembler.getD krsReassemblerCreate = reassembler
  let Covered := fun (arrival : Arrival) =>
    arrival.frame.body.length < 2 ^ 16
  have follows : ∀ reassembler current arrival next result,
      Follows reassembler current -> Covered arrival ->
      feedArrival reassembler arrival = some (next, result) ->
      ∃ after, receiveArrival current arrival =
          some (after, passedOn result) ∧ Follows next after :=
    fun _ _ _ _ _ same covered taken =>
      receiveArrival_of_feed same covered taken
  have started : Follows (state.reassembler.getD krsReassemblerCreate)
      state := rfl
  obtain ⟨after, received, -⟩ :=
    runOutputs_simulation follows started short fed
  exact ⟨after, received⟩

/-! ## The datagrams of one send -/

/-- No datagram of a message is empty. -/
theorem wireFrames_nonempty
    {channel : Channel}
    {packetId : UInt64}
    {data : List UInt8}
    {requireAck : Bool}
    {datagram : List UInt8}
    (sent : datagram ∈ wireFrames channel packetId data requireAck) :
    datagram.length ≠ 0 := by
  unfold wireFrames at sent
  split at sent
  case isTrue =>
    rw [List.mem_singleton] at sent
    rw [sent, length_buildPlainFrame, kronosFrameHeaderLength]
    omega
  case isFalse =>
    obtain ⟨index, inside, rfl⟩ := List.mem_mapIdx.mp sent
    rw [length_fragmentFrame, kronosFrameHeaderLength]
    omega

theorem clientNetSend_wireFrames
    (channel : Channel)
    (packetId : UInt64)
    (data : List UInt8)
    (requireAck : Bool) :
    clientNetSend (wireFrames channel packetId data requireAck) =
      wireFrames channel packetId data requireAck := by
  rw [clientNetSend, List.filter_eq_self]
  intro datagram sent
  exact decide_eq_true (wireFrames_nonempty sent)

theorem sendNumbered_frames
    (conn : ServerConnection)
    (packetId : UInt64)
    (channel : Channel)
    {data : List UInt8}
    {length : UInt16}
    (requireAck : Bool)
    (clock : Nat -> UInt64)
    (allocations : SendAllocations)
    (whole : data.length = length.toNat) :
    let sent := sendNumbered conn packetId channel data length requireAck
      clock allocations
    (sent.2.1 = .suc ∧
        sent.2.2 = wireFrames channel packetId data requireAck) ∨
      sent.2.2 = [] := by
  intro sent
  cases built : messageFrames channel packetId data length requireAck
      allocations .bufferTooSmall with
  | error result =>
      right
      simp only [sent, sendNumbered, built]
  | ok frames =>
      left
      simp only [sent, sendNumbered, built]
      rw [messageFrames_eq_wireFrames whole built, clientNetSend_wireFrames]
      exact ⟨trivial, rfl⟩

/-- A send puts the whole message on the wire under its next packet id, or
nothing. -/
theorem krsClientSend_frames
    (conn : ServerConnection)
    (channel : Channel)
    {data : List UInt8}
    {length : UInt16}
    (requireAck : Bool)
    (clock : Nat -> UInt64)
    (allocations : SendAllocations)
    (whole : data.length = length.toNat) :
    let sent := krsClientSend conn channel data length requireAck clock
      allocations
    (sent.2.1 = .suc ∧
        sent.2.2 =
          wireFrames channel (conn.nextPacketId channel) data requireAck) ∨
      sent.2.2 = [] := by
  intro sent
  cases connected : conn.connected with
  | false =>
      right
      simp [sent, krsClientSend, connected]
  | true =>
      simp only [sent, krsClientSend, connected, Bool.not_true,
        Bool.false_eq_true, if_false]
      split
      case h_1 => exact Or.inr rfl
      case h_2 taken _ =>
        exact sendNumbered_frames taken _ channel requireAck clock
          allocations whole

/-- The position of a datagram of a long message. -/
def wireIndex (datagram : List UInt8) : Nat :=
  (krsFrameCreate datagram kronosBufferSize).index

/-- Datagrams of a long message and their positions determine each other. -/
theorem wireIndex_of_getElem?
    {channel : Channel}
    {packetId : UInt64}
    {data : List UInt8}
    {requireAck : Bool}
    (short : data.length < 2 ^ 16)
    (long : ¬ data.length ≤ krsDefaultMtu - kronosFrameHeaderLength)
    {index : Nat}
    {datagram : List UInt8}
    (sent : (wireFrames channel packetId data requireAck)[index]? =
      some datagram) :
    wireIndex datagram = index := by
  rw [wireFrames, if_neg long, List.getElem?_mapIdx,
    Option.map_eq_some_iff] at sent
  obtain ⟨chunk, present, rfl⟩ := sent
  rw [wireIndex, krsFrameCreate_wireFragment channel packetId requireAck short
    present]
  exact (fragmentParsed_fragmentOf channel packetId requireAck short present).2

/-- A datagram of a long message parses to the fragment at its position. -/
theorem wireFrames_fragment
    {channel : Channel}
    {packetId : UInt64}
    {data : List UInt8}
    {requireAck : Bool}
    (short : data.length < 2 ^ 16)
    (long : ¬ data.length ≤ krsDefaultMtu - kronosFrameHeaderLength)
    {datagram : List UInt8}
    (sent : datagram ∈ wireFrames channel packetId data requireAck) :
    let frame := krsFrameCreate datagram kronosBufferSize
    FragmentOf frame (messageChunks data) requireAck ∧
      frame.packetId = packetId := by
  intro frame
  have parsed : WireFrame channel packetId data requireAck frame :=
    krsFrameCreate_wireFrame short sent
  generalize frame = parsedFrame at parsed
  cases parsed with
  | whole fits => exact absurd fits long
  | fragment _ index chunk present =>
      exact ⟨(fragmentParsed_fragmentOf channel packetId requireAck short
        present).1, rfl⟩

/-- Fragments of a long message, in any order and with repetitions: as long as
one chunk stays missing, nothing is passed on. -/
theorem feedArrivals_incomplete
    {channel : Channel}
    {packetId : UInt64}
    {data : List UInt8}
    {requireAck : Bool}
    (short : data.length < 2 ^ 16)
    (long : ¬ data.length ≤ krsDefaultMtu - kronosFrameHeaderLength)
    {missing : Nat}
    (inside : missing < (messageChunks data).length)
    (arrivals : List Arrival)
    {reassembler : Reassembler}
    {arrived : List Nat}
    (collecting : Collecting reassembler packetId (messageChunks data)
      requireAck arrived)
    (sent : ∀ arrival ∈ arrivals,
      arrival.1 ∈ wireFrames channel packetId data requireAck)
    (notBefore : missing ∉ arrived)
    (notAmong : ∀ arrival ∈ arrivals, wireIndex arrival.1 ≠ missing) :
    ∃ next,
      runOutputs feedArrival reassembler arrivals =
        some (next, List.replicate arrivals.length { base := .suc }) ∧
      Collecting next packetId (messageChunks data) requireAck
        ((arrivals.map fun arrival => wireIndex arrival.1).reverse ++
          arrived) := by
  induction arrivals generalizing reassembler arrived with
  | nil => exact ⟨reassembler, rfl, collecting⟩
  | cons arrival arrivals inductionHypothesis =>
      obtain ⟨sentHere, sentLater⟩ := List.forall_mem_cons.mp sent
      obtain ⟨notHere, notLater⟩ := List.forall_mem_cons.mp notAmong
      obtain ⟨fragment, samePacket⟩ := wireFrames_fragment short long sentHere
      have stillMissing : missing ∉ wireIndex arrival.1 :: arrived := by
        rw [List.mem_cons, not_or]
        exact ⟨notHere.symm, notBefore⟩
      rw [← samePacket] at collecting
      obtain ⟨between, fed, collectingNext⟩ := collecting.feed_incomplete
        fragment (messageChunks_limits short) arrival.2 inside stillMissing
      rw [samePacket] at collectingNext
      obtain ⟨next, rest, collectingAfter⟩ := inductionHypothesis
        collectingNext sentLater stillMissing notLater
      refine ⟨next, runOutputs_cons fed rest, ?_⟩
      rw [List.map_cons, List.reverse_cons, List.append_assoc]
      exact collectingAfter

/-- Arrivals that bring every datagram of a message, the last of them for the
first time. -/
structure CompletingArrivals
    (frames : List (List UInt8))
    (before : List Arrival)
    (last : Arrival) : Prop where
  sent : ∀ arrival ∈ before ++ [last], arrival.1 ∈ frames
  missing : ∀ arrival ∈ before, arrival.1 ≠ last.1
  all : ∀ frame ∈ frames, ∃ arrival ∈ before ++ [last], arrival.1 = frame

instance
    (frames : List (List UInt8))
    (before : List Arrival)
    (last : Arrival) : Decidable (CompletingArrivals frames before last) :=
  decidable_of_iff
    ((∀ arrival ∈ before ++ [last], arrival.1 ∈ frames) ∧
      (∀ arrival ∈ before, arrival.1 ≠ last.1) ∧
      ∀ frame ∈ frames, ∃ arrival ∈ before ++ [last], arrival.1 = frame)
    ⟨fun ⟨sent, missing, all⟩ => ⟨sent, missing, all⟩,
      fun ⟨sent, missing, all⟩ => ⟨sent, missing, all⟩⟩

/-- The results of feeding a message: nothing before the last datagram, and
then the payload. -/
def DeliveredAtLast
    (reassembler : Reassembler)
    (data : List UInt8)
    (requireAck : Bool)
    (before : List Arrival)
    (last : Arrival) : Prop :=
  ∃ after buffer,
    runOutputs feedArrival reassembler (before ++ [last]) =
      some (after,
        List.replicate before.length { base := .suc } ++
          [{ base := .suc
             complete := true
             data := buffer
             dataLength := data.length
             ackRequired := requireAck }]) ∧
    buffer.take data.length = data

section Arrivals

variable
    {channel : Channel}
    {packetId : UInt64}
    {data : List UInt8}
    {requireAck : Bool}
    {reassembler : Reassembler}
    {before : List Arrival}
    {last : Arrival}

/-- A message of one frame is passed on at once. -/
theorem deliveredAtLast_of_plain
    (fits : data.length ≤ krsDefaultMtu - kronosFrameHeaderLength)
    (arrivals : CompletingArrivals
      (wireFrames channel packetId data requireAck) before last) :
    DeliveredAtLast reassembler data requireAck before last := by
  have small := fits
  simp only [krsDefaultMtu, kronosFrameHeaderLength] at small
  have only : ∀ arrival ∈ before ++ [last], arrival.1 =
      buildPlainFrame channel .basicMessage packetId data
        (ackFlags requireAck) := by
    intro arrival member
    have among := arrivals.sent arrival member
    rw [wireFrames, if_pos fits] at among
    exact List.mem_singleton.mp among
  have lastSent := only last (by simp)
  have none : before = [] := by
    rw [List.eq_nil_iff_forall_not_mem]
    intro arrival member
    exact arrivals.missing arrival member
      ((only arrival (List.mem_append_left _ member)).trans lastSent.symm)
  have frame : last.frame = plainFrame channel .basicMessage packetId
      requireAck data := by
    rw [Arrival.frame, lastSent]
    exact krsFrameCreate_buildPlainFrame channel .basicMessage packetId
      requireAck (by omega) (by rw [kronosBufferSize]; omega)
  have fed : feedArrival reassembler last = some (reassembler,
      { base := .suc
        complete := true
        data := data
        dataLength := data.length
        ackRequired := requireAck }) := by
    rw [feedArrival, krsReassemblerFeed, frame]
    simp [plainFrame, hasFlag_ackFlags]
  subst none
  exact ⟨reassembler, data, runOutputs_cons fed rfl, List.take_length⟩

/-- The last missing position is none of the earlier ones. -/
theorem CompletingArrivals.wireIndex_ne
    (short : data.length < 2 ^ 16)
    (long : ¬ data.length ≤ krsDefaultMtu - kronosFrameHeaderLength)
    (arrivals : CompletingArrivals
      (wireFrames channel packetId data requireAck) before last)
    {arrival : Arrival}
    (member : arrival ∈ before) :
    wireIndex arrival.1 ≠ wireIndex last.1 := by
  intro same
  obtain ⟨index, here⟩ := List.mem_iff_getElem?.mp
    (arrivals.sent arrival (List.mem_append_left _ member))
  obtain ⟨lastIndex, there⟩ := List.mem_iff_getElem?.mp
    (arrivals.sent last (by simp))
  rw [wireIndex_of_getElem? short long here,
    wireIndex_of_getElem? short long there] at same
  rw [same] at here
  exact arrivals.missing arrival member
    (Option.some.inj (here.symm.trans there))

/-- Every position arrives. -/
theorem CompletingArrivals.wireIndex_mem
    (short : data.length < 2 ^ 16)
    (long : ¬ data.length ≤ krsDefaultMtu - kronosFrameHeaderLength)
    (arrivals : CompletingArrivals
      (wireFrames channel packetId data requireAck) before last)
    {index : Nat}
    (inside : index < (messageChunks data).length) :
    index ∈ wireIndex last.1 ::
      ((before.map fun arrival => wireIndex arrival.1).reverse ++ []) := by
  have among : index < (wireFrames channel packetId data
      requireAck).length := by
    rw [wireFrames, if_neg long, List.length_mapIdx]
    exact inside
  obtain ⟨arrival, member, same⟩ := arrivals.all _ (List.getElem_mem among)
  have position : wireIndex arrival.1 = index := by
    rw [same]
    exact wireIndex_of_getElem? short long (List.getElem?_eq_getElem among)
  rw [← position, List.append_nil, List.mem_cons, List.mem_reverse]
  rcases List.mem_append.mp member with earlier | latest
  · exact Or.inr (List.mem_map_of_mem earlier)
  · rw [List.mem_singleton] at latest
    exact Or.inl (by rw [latest])

/-- A message of several fragments is passed on with the last missing one. -/
theorem deliveredAtLast_of_fragments
    (short : data.length < 2 ^ 16)
    (long : ¬ data.length ≤ krsDefaultMtu - kronosFrameHeaderLength)
    (invariant : ReassemblerInvariant reassembler)
    (closed : reassembler.session packetId = none)
    (room : reassembler.sessions.length < krsMaxReassemblySessions)
    (arrivals : CompletingArrivals
      (wireFrames channel packetId data requireAck) before last) :
    DeliveredAtLast reassembler data requireAck before last := by
  obtain ⟨sentBefore, sentLast⟩ := List.forall_mem_append.mp arrivals.sent
  obtain ⟨fragment, samePacket⟩ := wireFrames_fragment short long
    (sentLast last List.mem_cons_self)
  have started : Collecting reassembler packetId (messageChunks data)
      requireAck [] :=
    { invariant := invariant
      closed := fun _ => ⟨rfl, room⟩
      opened := fun session found => by rw [closed] at found; cases found }
  obtain ⟨between, silent, collecting⟩ := feedArrivals_incomplete short long
    fragment.inside before started sentBefore List.not_mem_nil
    (fun arrival member => arrivals.wireIndex_ne short long member)
  rw [← samePacket] at collecting
  obtain ⟨after, buffer, fed, payload⟩ := collecting.feed_complete fragment
    (messageChunks_limits short) last.2
    (fun index inside => arrivals.wireIndex_mem short long inside)
  rw [messageChunks_flatten short] at fed payload
  exact ⟨after, buffer, runOutputs_append silent (runOutputs_cons fed rfl),
    payload⟩

end Arrivals

/-- The body of a parsed datagram of a message is short. -/
theorem wireFrames_body
    {channel : Channel}
    {packetId : UInt64}
    {data : List UInt8}
    {requireAck : Bool}
    (short : data.length < 2 ^ 16)
    {datagram : List UInt8}
    (sent : datagram ∈ wireFrames channel packetId data requireAck) :
    let frame := krsFrameCreate datagram kronosBufferSize
    frame.protocolChar = 0x4B ∧ frame.channel = channel ∧
      frame.frameType = FrameType.basicMessage.code ∧
      frame.packetId = packetId ∧ frame.body.length < 2 ^ 16 := by
  intro frame
  have parsed : WireFrame channel packetId data requireAck frame :=
    krsFrameCreate_wireFrame short sent
  generalize frame = parsedFrame at parsed
  cases parsed with
  | whole fits => exact ⟨rfl, rfl, rfl, rfl, short⟩
  | fragment _ index chunk present =>
      have size := (messageChunks_limits short).sizes _
        (List.mem_of_getElem? present)
      simp only [krsMaxPayloadPerFragment, krsDefaultMtu,
        kronosFrameHeaderLength] at size
      refine ⟨rfl, rfl, rfl, rfl, ?_⟩
      simp only [fragmentParsed]
      omega

/-- The datagrams of one send, arriving at a channel in any order and with
repetitions until the last missing one: every datagram parses, nothing is
passed on before that one, and it passes on exactly the payload. -/
theorem client_message_passed_on_intact
    (conn : ServerConnection)
    (channel : Channel)
    (data : List UInt8)
    (length : UInt16)
    (requireAck : Bool)
    (clock : Nat -> UInt64)
    (allocations : SendAllocations)
    (state : ChannelState)
    (history : List ReassemblerEvent)
    (before : List Arrival)
    (last : Arrival)
    (whole : data.length = length.toNat)
    (reached : run reassemblerStep krsReassemblerCreate history =
      some (state.reassembler.getD krsReassemblerCreate))
    (closed : (state.reassembler.getD krsReassemblerCreate).session
      (conn.nextPacketId channel) = none)
    (room : (state.reassembler.getD krsReassemblerCreate).sessions.length <
      krsMaxReassemblySessions)
    (arrivals : CompletingArrivals
      (krsClientSend conn channel data length requireAck clock
        allocations).2.2 before last) :
    (∀ datagram ∈ (krsClientSend conn channel data length requireAck clock
        allocations).2.2,
      (krsFrameCreate datagram kronosBufferSize).protocolChar = 0x4B) ∧
    ∃ buffer, buffer.take length.toNat = data ∧
      (∃ after, runOutputs feedArrival
          (state.reassembler.getD krsReassemblerCreate) (before ++ [last]) =
        some (after,
          List.replicate before.length { base := .suc } ++
            [{ base := .suc
               complete := true
               data := buffer
               dataLength := length.toNat
               ackRequired := requireAck }])) ∧
      ∃ after, runOutputs receiveArrival state (before ++ [last]) =
        some (after,
          List.replicate before.length none ++
            [some
              { data := buffer
                dataLength := length.toNat
                ackRequired := requireAck }]) := by
  have short : data.length < 2 ^ 16 := by
    rw [whole]
    exact length.toNat_lt
  have invariant := run_invariant reassemblerStep_invariant
    krsReassemblerCreate_invariant reached
  rcases krsClientSend_frames conn channel requireAck clock allocations
      whole with ⟨-, onWire⟩ | silent
  · rw [onWire] at arrivals ⊢
    have delivered : DeliveredAtLast
        (state.reassembler.getD krsReassemblerCreate) data requireAck before
        last := by
      by_cases fits : data.length ≤ krsDefaultMtu - kronosFrameHeaderLength
      · exact deliveredAtLast_of_plain fits arrivals
      · exact deliveredAtLast_of_fragments short fits invariant closed room
          arrivals
    obtain ⟨after, buffer, fed, payload⟩ := delivered
    rw [whole] at fed payload
    have bodies : ∀ arrival ∈ before ++ [last],
        arrival.frame.body.length < 2 ^ 16 := by
      intro arrival member
      exact (wireFrames_body short (arrivals.sent arrival member)).2.2.2.2
    obtain ⟨channelAfter, received⟩ := receiveArrivals_of_feed bodies fed
    refine ⟨fun datagram sent => (wireFrames_body short sent).1, buffer,
      payload, ⟨after, fed⟩, channelAfter, ?_⟩
    rw [received, List.map_append, List.map_replicate]
    simp only [List.map_cons, List.map_nil, passedOn, if_true,
      Nat.mod_eq_of_lt length.toNat_lt]
    rfl
  · have among := arrivals.sent last (by simp)
    rw [silent] at among
    cases among

/-- A payload of 1387 bytes, sent in two fragments that arrive in the wrong
order and one of them twice. -/
theorem two_fragments_passed_on_intact :
    let conn : ServerConnection := { connectionId := 1 }
    let data := List.replicate 1387 (7 : UInt8)
    let frames := (krsClientSend conn 10 data 1387 true (fun _ => 0) {}).2.2
    frames.length = 2 ∧
    ∃ buffer, buffer.take 1387 = data ∧
      ∃ after, runOutputs receiveArrival {}
          [(frames.getD 1 [], 0), (frames.getD 1 [], 0),
            (frames.getD 0 [], 0)] =
        some (after,
          [none, none,
            some { data := buffer, dataLength := 1387, ackRequired := true }]) := by
  intro conn data frames
  obtain ⟨-, buffer, payload, -, received⟩ := client_message_passed_on_intact
    conn 10 data 1387 true (fun _ => 0) {} {} []
    [(frames.getD 1 [], 0), (frames.getD 1 [], 0)] (frames.getD 0 [], 0)
    (by decide +kernel) rfl rfl (by decide) (by decide +kernel)
  exact ⟨by decide +kernel, buffer, payload, received⟩

end Kronos
