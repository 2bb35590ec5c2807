import Kronos.Client.Channels
import Kronos.Client.Window

/-!
# The client's backlog of incomplete messages

The receive thread of the client feeds every fragment on a subscribed channel
to one reassembler and never sweeps it.  A message that loses a fragment keeps
its session for good, and there are 256 of them.

A message is passed on if there is room for its session when its first fragment
arrives, whatever else the client does and receives meanwhile; without room it
is lost.
-/

namespace Kronos

open Library

/-- What the receive thread hands messages to. -/
def ServerConnection.receiver (conn : ServerConnection) :
    Option Reassembler × Option Callback × UInt32 :=
  (conn.reassembler, conn.callback, conn.connectionId)

/-- The number of sessions that are open. -/
def openSessions (conn : ServerConnection) : Nat :=
  (clientReassembler conn).sessions.length

/-- The fragment that an event feeds to the reassembler, if any: a frame that
the receive thread takes, with fragment info, on a subscribed channel. -/
def fedFrame (conn : ServerConnection) : ClientEvent -> Option Frame
  | .receive datagram _ _ =>
      (recvFrom datagram kronosBufferSize).bind fun raw =>
        let frame := krsFrameCreate raw kronosBufferSize
        if frame.protocolChar = 0x4B ∧
            frame.frameType ≠ FrameType.messageAck.code ∧
            ReachesReassembler conn frame then some frame
        else none
  | _ => none

/-- The fragment with a packet id that an event feeds, if any. -/
def fedFragment
    (packetId : UInt64)
    (conn : ServerConnection)
    (event : ClientEvent) : Option Frame :=
  (fedFrame conn event).filter fun frame => frame.packetId == packetId

/-- What the receive thread does outside the client in an event. -/
def receiveEffects (conn : ServerConnection) :
    ClientEvent -> List ClientEffect
  | .receive datagram now allocations =>
      ((clientReceive conn datagram now allocations).map Prod.snd).getD []
  | _ => []

/-- The fragments with a packet id that a run feeds. -/
def fragmentsFed (packetId : UInt64) :
    ServerConnection -> List ClientEvent -> List Frame
  | _, [] => []
  | conn, event :: events =>
      (fedFragment packetId conn event).toList ++
        match clientStep conn event with
        | none => []
        | some next => fragmentsFed packetId next events

/-- What the receive thread does outside the client in the events of a run that
feed a fragment with a packet id. -/
def packetEffects (packetId : UInt64) :
    ServerConnection -> List ClientEvent -> List ClientEffect
  | _, [] => []
  | conn, event :: events =>
      (if (fedFragment packetId conn event).isSome then
          receiveEffects conn event
        else []) ++
        match clientStep conn event with
        | none => []
        | some next => packetEffects packetId next events

/-- A message: its channel, its packet id, its chunks, and whether it asks for
an acknowledgement. -/
structure FragmentedMessage where
  channel : Channel
  packetId : UInt64
  chunks : List (List UInt8)
  requireAck : Bool
  deriving DecidableEq, Repr

/-- The allocations for a received frame succeed. -/
def ClientEvent.allocated : ClientEvent -> Bool
  | .receive _ _ allocations => allocations.reassembler && allocations.session
  | _ => true

/-- A fragment with the packet id of the message is a fragment of the message,
on its channel, and there is memory for it. -/
def CarriesMessage
    (message : FragmentedMessage)
    (conn : ServerConnection)
    (event : ClientEvent) : Prop :=
  ∀ frame, fedFragment message.packetId conn event = some frame ->
    FragmentOf frame message.chunks message.requireAck ∧
      frame.channel = message.channel ∧ event.allocated = true

instance (message : FragmentedMessage) (conn : ServerConnection)
    (event : ClientEvent) : Decidable (CarriesMessage message conn event) :=
  match fed : fedFragment message.packetId conn event with
  | none => isTrue fun frame found => by
      rw [fed] at found
      cases found
  | some frame =>
      decidable_of_iff
        ((hasFlag frame.presenceFlags .fragmentInfo = true ∧
          hasFlag frame.presenceFlags .ackRequired = message.requireAck ∧
          frame.metadata.fragmentTotal.toNat = message.chunks.length ∧
          message.chunks[frame.index]? = some frame.body) ∧
          frame.channel = message.channel ∧ event.allocated = true)
        (by
          constructor
          · rintro ⟨⟨flagged, ackFlag, total, body⟩, rest⟩ other found
            rw [fed] at found
            cases found
            exact ⟨⟨flagged, ackFlag, total, body⟩, rest⟩
          · intro carries
            obtain ⟨⟨flagged, ackFlag, total, body⟩, rest⟩ :=
              carries frame fed
            exact ⟨⟨flagged, ackFlag, total, body⟩, rest⟩)

/-- The message is handed to the callback by an event that feeds one of its
fragments.  The length is passed in 16 bits. -/
def PassedOn
    (message : FragmentedMessage)
    (conn : ServerConnection)
    (events : List ClientEvent) : Prop :=
  ∃ callback data, conn.callback = some callback ∧
    data.take message.chunks.flatten.length = message.chunks.flatten ∧
    .message callback message.channel conn.connectionId data
        (message.chunks.flatten.length % 2 ^ 16) ∈
      packetEffects message.packetId conn events

/-! ## Events that feed no fragment -/

section Unfed

variable {conn : ServerConnection}

theorem sendNumbered_receiver
    (packetId : UInt64)
    (channel : Channel)
    (data : List UInt8)
    (length : UInt16)
    (requireAck : Bool)
    (clock : Nat -> UInt64)
    (allocations : SendAllocations) :
    (sendNumbered conn packetId channel data length requireAck clock
      allocations).1.receiver = conn.receiver := by
  unfold sendNumbered
  cases messageFrames channel packetId data length requireAck allocations
    .bufferTooSmall with
  | error result => cases requireAck <;> dsimp only <;> split_ifs <;> rfl
  | ok frames => cases requireAck <;> rfl

theorem takeSlot_receiver
    {taken : ServerConnection}
    (admitted : conn.takeSlot = some taken) :
    taken.receiver = conn.receiver := by
  unfold ServerConnection.takeSlot at admitted
  cases controller : conn.congestion with
  | none =>
      rw [controller] at admitted
      cases admitted
      rfl
  | some cc =>
      rw [controller] at admitted
      dsimp only at admitted
      split at admitted
      case isTrue =>
          cases admitted
          rfl
      case isFalse => cases admitted

theorem krsClientSend_receiver
    (channel : Channel)
    (data : List UInt8)
    (length : UInt16)
    (requireAck : Bool)
    (clock : Nat -> UInt64)
    (allocations : SendAllocations) :
    (krsClientSend conn channel data length requireAck clock
      allocations).1.receiver = conn.receiver := by
  unfold krsClientSend
  split
  case isTrue => rfl
  case isFalse =>
      cases requireAck with
      | false => exact sendNumbered_receiver _ _ _ _ _ _ _
      | true =>
          dsimp only
          rw [if_pos rfl, if_pos rfl]
          split
          case h_1 => rfl
          case h_2 taken admitted =>
              rw [sendNumbered_receiver, takeSlot_receiver admitted]
              rfl

theorem krsClientSubscribe_receiver
    (channel : Channel)
    (now : UInt64)
    (allocations : SendAllocations) :
    (krsClientSubscribe conn channel now allocations).1.receiver =
      conn.receiver := by
  unfold krsClientSubscribe
  dsimp only
  split_ifs <;> rfl

theorem krsClientUnsubscribe_receiver (channel : Channel) (built : Bool) :
    (krsClientUnsubscribe conn channel built).1.receiver = conn.receiver := by
  unfold krsClientUnsubscribe
  dsimp only
  split_ifs <;> rfl

theorem clientService_receiver (now : UInt64) (built : Bool) :
    (clientRetransmit (clientHeartbeat conn now built).1 now).1.receiver =
      conn.receiver := by
  have beaten : (clientHeartbeat conn now built).1.receiver =
      conn.receiver := by
    unfold clientHeartbeat
    split <;> rfl
  rw [← beaten]
  unfold clientRetransmit
  split <;> rfl

theorem clientAcknowledge_receiver (frame : Frame) (now : UInt64) :
    (clientAcknowledge conn frame now).receiver = conn.receiver := by
  unfold clientAcknowledge
  cases conn.ackTracker with
  | none =>
      dsimp only
      split <;> rfl
  | some tracker =>
      dsimp only
      cases (krsAckTrackerReceiveRtt tracker frame.packetId frame.channel
        now).1 with
      | none =>
          dsimp only
          split <;> rfl
      | some rttMs =>
          cases conn.congestion with
          | none =>
              dsimp only
              split <;> rfl
          | some cc =>
              dsimp only
              split <;> rfl

/-- A datagram that feeds nothing leaves the reassembler alone. -/
theorem clientReceive_receiver
    {datagram : List UInt8}
    {now : UInt64}
    {allocations : ReceiveAllocations}
    {next : ServerConnection}
    {effects : List ClientEffect}
    (unfed : fedFrame conn (.receive datagram now allocations) = none)
    (received : clientReceive conn datagram now allocations =
      some (next, effects)) :
    next.receiver = conn.receiver := by
  cases clientReceive_cases received with
  | idle outcome =>
      cases outcome
      rfl
  | acknowledged frame parsed accepted type outcome =>
      cases outcome
      exact clientAcknowledge_receiver frame now
  | whole frame outcome =>
      cases outcome
      rfl
  | fed frame parsed arrived accepted type application subscribed flagged
      fedTo reassembled outcome =>
      rw [fedFrame, arrived, Option.bind_some, parsed] at unfed
      dsimp only at unfed
      rw [if_pos ⟨accepted, type, application, subscribed, flagged⟩] at unfed
      cases unfed

/-- An event that feeds nothing leaves the reassembler alone. -/
theorem clientStep_receiver
    {event : ClientEvent}
    {next : ServerConnection}
    (unfed : fedFrame conn event = none)
    (taken : clientStep conn event = some next) :
    next.receiver = conn.receiver := by
  cases event with
  | send channel data length requireAck clock allocations =>
      cases taken
      exact krsClientSend_receiver channel data length requireAck clock
        allocations
  | subscribe channel now allocations =>
      cases taken
      exact krsClientSubscribe_receiver channel now allocations
  | poll channel =>
      cases taken
      split
      case isTrue =>
          unfold subscribeSucceeded
          dsimp only
          split <;> rfl
      case isFalse => rfl
  | timeout =>
      cases taken
      unfold subscribeTimeout
      dsimp only
      split <;> rfl
  | unsubscribe channel built =>
      cases taken
      exact krsClientUnsubscribe_receiver channel built
  | service now built =>
      cases taken
      exact clientService_receiver now built
  | receive datagram now allocations =>
      obtain ⟨⟨after, effects⟩, received, rfl⟩ :=
        Option.map_eq_some_iff.mp taken
      exact clientReceive_receiver unfed received

/-- A fragment that is fed. -/
theorem clientReceive_of_fed
    {datagram : List UInt8}
    {now : UInt64}
    {allocations : ReceiveAllocations}
    {frame : Frame}
    (fed : fedFrame conn (.receive datagram now allocations) = some frame) :
    clientReceive conn datagram now allocations =
        clientAppFrame conn frame now allocations ∧
      hasFlag frame.presenceFlags .fragmentInfo = true := by
  obtain ⟨raw, arrived, taken⟩ := Option.bind_eq_some_iff.mp fed
  dsimp only at taken
  split at taken
  case isTrue conditions =>
      cases taken
      obtain ⟨protocol, notAck, application, subscribed, flagged⟩ :=
        conditions
      unfold clientReceive
      rw [arrived]
      dsimp only
      rw [if_neg (not_not.mpr protocol), if_neg notAck, if_neg application,
        subscribed]
      exact ⟨rfl, flagged⟩
  case isFalse => cases taken

/-- A fragment that is fed goes to the reassembler, unless there is no memory
for one. -/
theorem clientStep_of_fed
    {event : ClientEvent}
    {frame : Frame}
    {next : ServerConnection}
    (fed : fedFrame conn event = some frame)
    (taken : clientStep conn event = some next) :
    (event.allocated = false ∧ next = conn) ∨
    ∃ now allocated ackBuilt fedTo result,
      krsReassemblerFeed (clientReassembler conn) frame now allocated =
        some (fedTo, result) ∧
      (event.allocated = true -> allocated = true) ∧
      next = { conn with reassembler := some fedTo } ∧
      receiveEffects conn event =
        if result.complete then
          clientDeliver next frame
            { data := result.data
              dataLength := result.dataLength % 2 ^ 16
              ackRequired := result.ackRequired } ackBuilt
        else [] := by
  cases event with
  | receive datagram now allocations =>
      obtain ⟨received, flagged⟩ := clientReceive_of_fed fed
      rw [clientStep, received] at taken
      rw [receiveEffects, received]
      unfold clientAppFrame at taken ⊢
      rw [flagged] at taken ⊢
      simp only [Bool.not_true, Bool.false_eq_true, if_false] at taken ⊢
      split at taken
      case h_1 stored created =>
          cases taken
          exact .inl ⟨by simp [ClientEvent.allocated, created], rfl⟩
      case h_2 =>
          obtain ⟨⟨after, effects⟩, mapped, rfl⟩ :=
            Option.map_eq_some_iff.mp taken
          obtain ⟨⟨fedTo, result⟩, feed, equal⟩ :=
            Option.map_eq_some_iff.mp mapped
          cases equal
          refine .inr ⟨now, allocations.session, allocations.ack, fedTo,
            result, feed, ?_, rfl, ?_⟩
          · intro allocated
            simp only [ClientEvent.allocated, Bool.and_eq_true] at allocated
            exact allocated.2
          · rw [feed]
            rfl
  | send => cases fed
  | subscribe => cases fed
  | poll => cases fed
  | timeout => cases fed
  | unsubscribe => cases fed
  | service => cases fed

end Unfed

/-! ## One packet among others -/

/-- Feeding a fragment of another packet leaves the session of a packet. -/
theorem feed_session_of_ne
    {reassembler next : Reassembler}
    {frame : Frame}
    {now : UInt64}
    {allocated : Bool}
    {result : ReassembleResult}
    {packetId : UInt64}
    (invariant : ReassemblerInvariant reassembler)
    (other : packetId ≠ frame.packetId)
    (fed : krsReassemblerFeed reassembler frame now allocated =
      some (next, result)) :
    next.session packetId = reassembler.session packetId := by
  by_cases flagged : hasFlag frame.presenceFlags .fragmentInfo = true
  · by_cases admitted : Admitted reassembler frame allocated
    · rcases Nat.lt_or_ge frame.index
          (reassembler.sessionFor frame now).total with inside | outside
      · obtain ⟨after, outcome, called, effect⟩ :=
          feed_of_admitted invariant admitted now inside
        rw [called] at fed
        cases fed
        exact effect.others packetId other
      · rw [feed_eq_none invariant admitted now outside] at fed
        cases fed
    · obtain ⟨outcome, called, -⟩ := feed_of_rejected flagged admitted now
      rw [called] at fed
      cases fed
      rfl
  · obtain ⟨outcome, called⟩ := feed_of_plain reassembler
      (Bool.eq_false_of_not_eq_true flagged) now allocated
    rw [called] at fed
    cases fed
    rfl

/-- What every event leaves: the reassembler keeps its invariant, and the
callback stays. -/
theorem clientStep_keeps
    {conn next : ServerConnection}
    {event : ClientEvent}
    (invariant : ReassemblerInvariant (clientReassembler conn))
    (taken : clientStep conn event = some next) :
    ReassemblerInvariant (clientReassembler next) ∧
      next.callback = conn.callback ∧
      next.connectionId = conn.connectionId := by
  cases fed : fedFrame conn event with
  | none =>
      have same := clientStep_receiver fed taken
      simp only [ServerConnection.receiver, Prod.mk.injEq] at same
      obtain ⟨reassembler, callback, connectionId⟩ := same
      refine ⟨?_, callback, connectionId⟩
      rw [clientReassembler, reassembler]
      exact invariant
  | some frame =>
      rcases clientStep_of_fed fed taken with ⟨-, rfl⟩ |
        ⟨now, allocated, ackBuilt, fedTo, result, feed, -, rfl, -⟩
      · exact ⟨invariant, rfl, rfl⟩
      · exact ⟨invariant.feed feed, rfl, rfl⟩

/-- An event that feeds no fragment of a packet leaves its session. -/
theorem clientStep_session_of_unfed
    {conn next : ServerConnection}
    {event : ClientEvent}
    {packetId : UInt64}
    (invariant : ReassemblerInvariant (clientReassembler conn))
    (unfed : fedFragment packetId conn event = none)
    (taken : clientStep conn event = some next) :
    (clientReassembler next).session packetId =
      (clientReassembler conn).session packetId := by
  cases fed : fedFrame conn event with
  | none =>
      have same := clientStep_receiver fed taken
      simp only [ServerConnection.receiver, Prod.mk.injEq] at same
      rw [clientReassembler, clientReassembler, same.1]
  | some frame =>
      have other : packetId ≠ frame.packetId := by
        intro equal
        rw [fedFragment, fed, equal] at unfed
        simp at unfed
      rcases clientStep_of_fed fed taken with ⟨-, rfl⟩ |
        ⟨now, allocated, ackBuilt, fedTo, result, feed, -, rfl, -⟩
      · rfl
      · exact feed_session_of_ne invariant other feed

theorem fedFrame_of_fragment
    {conn : ServerConnection}
    {event : ClientEvent}
    {packetId : UInt64}
    {frame : Frame}
    (fed : fedFragment packetId conn event = some frame) :
    fedFrame conn event = some frame ∧ frame.packetId = packetId := by
  obtain ⟨found, same⟩ := Option.filter_eq_some_iff.mp fed
  exact ⟨found, by simpa using same⟩

section Message

variable
  {message : FragmentedMessage}
  {conn next : ServerConnection}
  {event : ClientEvent}
  {frame : Frame}
  {arrived : List Nat}

/-- A fragment of the message that its session takes: the session keeps its
chunk, or it was the last one and the message is handed to the callback. -/
theorem clientStep_of_fragment
    (collecting : Collecting (clientReassembler conn) message.packetId
      message.chunks message.requireAck arrived)
    (limits : SessionLimits message.chunks)
    (carries : CarriesMessage message conn event)
    (fed : fedFragment message.packetId conn event = some frame)
    (taken : clientStep conn event = some next) :
    (∃ session, (clientReassembler next).session message.packetId =
        some session ∧
      Collects session message.chunks message.requireAck
        (frame.index :: arrived) ∧
      (∃ index < message.chunks.length, index ∉ frame.index :: arrived) ∧
      receiveEffects conn event = []) ∨
    (∀ index < message.chunks.length, index ∈ frame.index :: arrived) ∧
      ∃ data,
        data.take message.chunks.flatten.length = message.chunks.flatten ∧
        ∀ callback, conn.callback = some callback ->
          .message callback message.channel conn.connectionId data
              (message.chunks.flatten.length % 2 ^ 16) ∈
            receiveEffects conn event := by
  obtain ⟨fragment, onChannel, memory⟩ := carries frame fed
  obtain ⟨found, samePacket⟩ := fedFrame_of_fragment fed
  rw [← samePacket] at collecting ⊢
  rcases clientStep_of_fed found taken with ⟨failed, -⟩ |
    ⟨now, allocated, ackBuilt, fedTo, result, feed, succeeds, rfl, effects⟩
  · rw [memory] at failed
    cases failed
  · obtain rfl := succeeds memory
    obtain ⟨after, outcome, called, -, step⟩ := collecting.feed fragment
      limits now
    rw [called] at feed
    cases feed
    cases step with
    | collected session present collects missing =>
        exact .inl ⟨session, present, collects, missing, effects⟩
    | completed buffer closed all payload =>
        refine .inr ⟨all, buffer, payload, ?_⟩
        intro callback registered
        rw [effects, if_pos rfl, clientDeliver]
        simp only [registered, onChannel]
        exact List.mem_append_right _ List.mem_cons_self

/-- A fragment of the message for which there is no session and no room. -/
theorem clientStep_of_refused
    (closed : (clientReassembler conn).session message.packetId = none)
    (full : krsMaxReassemblySessions ≤ openSessions conn)
    (carries : CarriesMessage message conn event)
    (fed : fedFragment message.packetId conn event = some frame)
    (taken : clientStep conn event = some next) :
    (clientReassembler next).session message.packetId = none ∧
      receiveEffects conn event = [] := by
  obtain ⟨fragment, -, memory⟩ := carries frame fed
  obtain ⟨found, samePacket⟩ := fedFrame_of_fragment fed
  rw [← samePacket] at closed ⊢
  rcases clientStep_of_fed found taken with ⟨failed, -⟩ |
    ⟨now, allocated, ackBuilt, fedTo, result, feed, -, rfl, effects⟩
  · rw [memory] at failed
    cases failed
  · have refused : ¬ Admitted (clientReassembler conn) frame allocated := by
      intro admitted
      exact Nat.not_lt.mpr full (admitted.room closed).1
    obtain ⟨outcome, called, incomplete⟩ := feed_of_rejected fragment.flagged
      refused now
    rw [called] at feed
    cases feed
    rw [incomplete] at effects
    exact ⟨closed, effects⟩

end Message

/-! ## Runs -/

section Runs

variable {message : FragmentedMessage} {conn final : ServerConnection}

/-- What an event contributes and what the rest of the run does. -/
theorem packetEffects_cons
    {packetId : UInt64}
    {event : ClientEvent}
    {events : List ClientEvent}
    {next : ServerConnection}
    (taken : clientStep conn event = some next) :
    packetEffects packetId conn (event :: events) =
      (if (fedFragment packetId conn event).isSome then
          receiveEffects conn event
        else []) ++ packetEffects packetId next events := by
  rw [packetEffects, taken]

theorem fragmentsFed_cons
    {packetId : UInt64}
    {event : ClientEvent}
    {events : List ClientEvent}
    {next : ServerConnection}
    (taken : clientStep conn event = some next) :
    fragmentsFed packetId conn (event :: events) =
      (fedFragment packetId conn event).toList ++
        fragmentsFed packetId next events := by
  rw [fragmentsFed, taken]

/-- What is passed on later in the run is passed on in the run. -/
theorem PassedOn.later
    {event : ClientEvent}
    {events : List ClientEvent}
    {next : ServerConnection}
    (taken : clientStep conn event = some next)
    (callback : next.callback = conn.callback)
    (connectionId : next.connectionId = conn.connectionId)
    (passed : PassedOn message next events) :
    PassedOn message conn (event :: events) := by
  obtain ⟨registered, data, known, payload, handed⟩ := passed
  refine ⟨registered, data, callback.symm.trans known, payload, ?_⟩
  rw [packetEffects_cons taken, ← connectionId]
  exact List.mem_append_right _ handed

/-- Once its session is open, the message is passed on when its last fragment
arrives. -/
theorem passedOn_of_open
    {events : List ClientEvent}
    {session : FragmentSession}
    {arrived : List Nat}
    (invariant : ReassemblerInvariant (clientReassembler conn))
    (limits : SessionLimits message.chunks)
    (registered : conn.callback.isSome = true)
    (opened : (clientReassembler conn).session message.packetId =
      some session)
    (collects : Collects session message.chunks message.requireAck arrived)
    (missing : ∃ index < message.chunks.length, index ∉ arrived)
    (allowed : RunAllowed clientStep (CarriesMessage message) conn events)
    (through : run clientStep conn events = some final)
    (all : ∀ index < message.chunks.length, index ∈ arrived ∨
      index ∈ (fragmentsFed message.packetId conn events).map
        Frame.index) :
    PassedOn message conn events := by
  induction events generalizing conn session arrived with
  | nil =>
      obtain ⟨index, inside, absent⟩ := missing
      rcases all index inside with present | later
      · exact absurd present absent
      · cases later
  | cons event events inductionHypothesis =>
      rw [run_cons] at through
      obtain ⟨next, taken, rest⟩ := Option.bind_eq_some_iff.mp through
      obtain ⟨carries, allowedAfter⟩ := allowed
      rw [taken] at allowedAfter
      rw [fragmentsFed_cons taken] at all
      obtain ⟨kept, callback, connectionId⟩ := clientStep_keeps invariant
        taken
      have stillRegistered : next.callback.isSome = true := by
        rw [callback]
        exact registered
      cases fed : fedFragment message.packetId conn event with
      | none =>
          have same := clientStep_session_of_unfed invariant fed taken
          rw [fed] at all
          exact (inductionHypothesis kept stillRegistered
            (same.trans opened) collects missing allowedAfter rest
            all).later taken callback connectionId
      | some frame =>
          have collecting : Collecting (clientReassembler conn)
              message.packetId message.chunks message.requireAck arrived :=
            { invariant := invariant
              closed := by
                intro closed
                rw [opened] at closed
                cases closed
              opened := by
                intro other found
                rw [opened] at found
                cases found
                exact collects }
          rcases clientStep_of_fragment collecting limits carries fed
              taken with ⟨after, present, more, left, -⟩ |
            ⟨-, data, payload, handed⟩
          · rw [fed] at all
            have remaining : ∀ index < message.chunks.length,
                index ∈ frame.index :: arrived ∨
                  index ∈ (fragmentsFed message.packetId next events).map
                    Frame.index := by
              intro index inside
              rcases all index inside with earlier | later
              · exact .inl (List.mem_cons_of_mem _ earlier)
              · rw [Option.toList_some, List.singleton_append,
                  List.map_cons, List.mem_cons] at later
                rcases later with rfl | later
                · exact .inl List.mem_cons_self
                · exact .inr later
            exact (inductionHypothesis kept stillRegistered present more left
              allowedAfter rest remaining).later taken callback connectionId
          · obtain ⟨registeredCallback, known⟩ :=
              Option.isSome_iff_exists.mp registered
            refine ⟨registeredCallback, data, known, payload, ?_⟩
            rw [packetEffects_cons taken, fed]
            exact List.mem_append_left _ (handed registeredCallback known)

/-- A message of which a fragment was refused and does not come again is never
passed on. -/
theorem packetEffects_of_lost
    {events : List ClientEvent}
    {arrived : List Nat}
    {lost : Nat}
    (invariant : ReassemblerInvariant (clientReassembler conn))
    (limits : SessionLimits message.chunks)
    (gathers : ∀ session,
      (clientReassembler conn).session message.packetId = some session ->
        Collects session message.chunks message.requireAck arrived)
    (inside : lost < message.chunks.length)
    (absent : lost ∉ arrived)
    (allowed : RunAllowed clientStep (CarriesMessage message) conn events)
    (through : run clientStep conn events = some final)
    (gone : lost ∉ (fragmentsFed message.packetId conn events).map
      Frame.index) :
    packetEffects message.packetId conn events = [] := by
  induction events generalizing conn arrived with
  | nil => rfl
  | cons event events inductionHypothesis =>
      rw [run_cons] at through
      obtain ⟨next, taken, rest⟩ := Option.bind_eq_some_iff.mp through
      obtain ⟨carries, allowedAfter⟩ := allowed
      rw [taken] at allowedAfter
      rw [fragmentsFed_cons taken] at gone
      rw [packetEffects_cons taken]
      have kept := (clientStep_keeps invariant taken).1
      cases fed : fedFragment message.packetId conn event with
      | none =>
          have same := clientStep_session_of_unfed invariant fed taken
          rw [fed] at gone
          apply inductionHypothesis kept _ absent allowedAfter rest gone
          intro session found
          exact gathers session (same.symm.trans found)
      | some frame =>
          rw [fed, Option.toList_some, List.singleton_append, List.map_cons,
            List.mem_cons, not_or] at gone
          obtain ⟨different, gone⟩ := gone
          by_cases refused :
              (clientReassembler conn).session message.packetId = none ∧
                krsMaxReassemblySessions ≤ openSessions conn
          · obtain ⟨closed, silent⟩ := clientStep_of_refused refused.1
              refused.2 carries fed taken
            rw [Option.isSome_some, if_pos rfl, silent]
            apply inductionHypothesis kept _ absent allowedAfter rest gone
            intro session found
            rw [closed] at found
            cases found
          · have collecting : ∃ arrived, lost ∉ arrived ∧
                Collecting (clientReassembler conn) message.packetId
                  message.chunks message.requireAck arrived := by
              cases opened :
                  (clientReassembler conn).session message.packetId with
              | none =>
                  refine ⟨[], List.not_mem_nil, invariant, ?_, ?_⟩
                  · intro _
                    refine ⟨rfl, Nat.lt_of_not_le fun full => ?_⟩
                    exact refused ⟨opened, full⟩
                  · intro session found
                    rw [opened] at found
                    cases found
              | some session =>
                  refine ⟨arrived, absent, invariant, ?_, gathers⟩
                  intro closed
                  rw [opened] at closed
                  cases closed
            obtain ⟨earlier, without, collecting⟩ := collecting
            have still : lost ∉ frame.index :: earlier := by
              rw [List.mem_cons, not_or]
              exact ⟨different, without⟩
            rcases clientStep_of_fragment collecting limits carries fed
                taken with ⟨session, present, more, -, silent⟩ | ⟨full, -⟩
            · rw [Option.isSome_some, if_pos rfl, silent]
              apply inductionHypothesis kept _ still allowedAfter rest gone
              intro other found
              rw [present] at found
              cases found
              exact more
            · exact absurd (full lost inside) still

end Runs

theorem run_keeps
    {start conn : ServerConnection}
    {history : List ClientEvent}
    (unused : start.reassembler = none)
    (reached : run clientStep start history = some conn) :
    ReassemblerInvariant (clientReassembler conn) ∧
      conn.callback = start.callback := by
  have preserved : ∀ (state : ServerConnection) event next,
      ReassemblerInvariant (clientReassembler state) ∧
          state.callback = start.callback ->
        clientStep state event = some next ->
          ReassemblerInvariant (clientReassembler next) ∧
            next.callback = start.callback := by
    intro state event next holds taken
    obtain ⟨invariant, callback⟩ := holds
    obtain ⟨kept, same, -⟩ := clientStep_keeps invariant taken
    exact ⟨kept, same.trans callback⟩
  have initially : ReassemblerInvariant (clientReassembler start) := by
    rw [clientReassembler, unused]
    exact krsReassemblerCreate_invariant
  exact run_invariant preserved ⟨initially, rfl⟩ reached

/-- After any history of a client, let the fragments of a message whose packet
has no open session arrive on subscribed channels, in any order, with
duplicates, among any other events and fragments of other packets.  If fewer
than 256 sessions are open when the first of them arrives, the message is
passed to the callback.  If each fragment arrives once, this is also
necessary.  Histories in which a fragment leaves the arrays of the reassembler
are no runs. -/
theorem fragmented_message_passed_on
    {message : FragmentedMessage}
    {start conn final : ServerConnection}
    {history rest : List ClientEvent}
    {first : ClientEvent}
    (unused : start.reassembler = none)
    (registered : start.callback.isSome = true)
    (reached : run clientStep start history = some conn)
    (limits : SessionLimits message.chunks)
    (closed : (clientReassembler conn).session message.packetId = none)
    (begins : (fedFragment message.packetId conn first).isSome = true)
    (allowed : RunAllowed clientStep (CarriesMessage message) conn
      (first :: rest))
    (through : run clientStep conn (first :: rest) = some final)
    (all : ∀ index < message.chunks.length,
      index ∈ (fragmentsFed message.packetId conn (first :: rest)).map
        Frame.index) :
    (openSessions conn < krsMaxReassemblySessions ->
      PassedOn message conn (first :: rest)) ∧
    (((fragmentsFed message.packetId conn (first :: rest)).map
        Frame.index).Nodup ->
      PassedOn message conn (first :: rest) ->
      openSessions conn < krsMaxReassemblySessions) := by
  obtain ⟨invariant, callback⟩ := run_keeps unused reached
  rw [← callback] at registered
  rw [run_cons] at through
  obtain ⟨next, taken, after⟩ := Option.bind_eq_some_iff.mp through
  obtain ⟨carries, allowedAfter⟩ := allowed
  rw [taken] at allowedAfter
  rw [fragmentsFed_cons taken] at all ⊢
  obtain ⟨frame, fed⟩ := Option.isSome_iff_exists.mp begins
  obtain ⟨kept, sameCallback, sameId⟩ := clientStep_keeps invariant taken
  obtain ⟨fragment, -, -⟩ := carries frame fed
  rw [fed] at all ⊢
  constructor
  · intro room
    have collecting : Collecting (clientReassembler conn) message.packetId
        message.chunks message.requireAck [] :=
      { invariant := invariant
        closed := fun _ => ⟨rfl, room⟩
        opened := by
          intro session found
          rw [closed] at found
          cases found }
    rcases clientStep_of_fragment collecting limits carries fed taken with
      ⟨session, present, more, missing, -⟩ | ⟨-, data, payload, handed⟩
    · have stillRegistered : next.callback.isSome = true := by
        rw [sameCallback]
        exact registered
      refine (passedOn_of_open kept limits stillRegistered present more
        missing allowedAfter after ?_).later taken sameCallback sameId
      intro index inside
      have arrives := all index inside
      rw [Option.toList_some, List.singleton_append, List.map_cons,
        List.mem_cons] at arrives
      exact arrives.imp (fun same => List.mem_singleton.mpr same) id
    · obtain ⟨registeredCallback, known⟩ :=
        Option.isSome_iff_exists.mp registered
      refine ⟨registeredCallback, data, known, payload, ?_⟩
      rw [packetEffects_cons taken, fed]
      exact List.mem_append_left _ (handed registeredCallback known)
  · rintro once ⟨registeredCallback, data, -, -, handed⟩
    by_contra full
    rw [Option.toList_some, List.singleton_append, List.map_cons,
      List.nodup_cons] at once
    obtain ⟨stillClosed, silent⟩ := clientStep_of_refused closed
      (Nat.le_of_not_lt full) carries fed taken
    have lost : packetEffects message.packetId next rest = [] := by
      apply packetEffects_of_lost kept limits _ fragment.inside
        (List.not_mem_nil : _ ∉ []) allowedAfter after once.1
      intro session found
      rw [stillClosed] at found
      cases found
    rw [packetEffects_cons taken, silent, lost] at handed
    simp at handed

/-- A client that listens on channel 10. -/
def listening : ServerConnection :=
  { connectionId := 1
    recvThread := true
    callback := some 0
    subscribed := fun channel => channel == 10 }

/-- The arrival of a fragment on channel 10. -/
def fragmentArrives
    (packetId : UInt64)
    (index total : Nat)
    (payload : List UInt8) : ClientEvent :=
  .receive (fragmentFrame 10 .basicMessage packetId 0 index total payload) 0 {}

/-- A message of two fragments. -/
def latestMessage : FragmentedMessage :=
  { channel := 10
    packetId := 1000
    chunks := [[7], [8]]
    requireAck := false }

/-- Both fragments of the message. -/
def latestArrivals : List ClientEvent :=
  [fragmentArrives 1000 1 2 [8], fragmentArrives 1000 0 2 [7]]

/-- Messages of two fragments that each lose the second one. -/
def incompleteMessages (count : Nat) : List ClientEvent :=
  (List.range count).map fun message =>
    fragmentArrives (UInt64.ofNat (message + 1)) 0 2 []

/-- The client after incomplete messages. -/
def backlogged (count : Nat) : ServerConnection :=
  (run clientStep listening (incompleteMessages count)).getD listening

/-- The first of two fragments of a message, with no content. -/
def firstFragment (packetId : UInt64) : Frame :=
  fragmentParsed 10 .basicMessage packetId false 0 2 []

/-- The session that the first of two fragments leaves. -/
def staleSession (packetId : UInt64) : FragmentSession :=
  { newSession packetId 2 0 with
    received := 1
    pieceReceived := [true, false] }

theorem firstFragment_flags (packetId : UInt64) :
    hasFlag (firstFragment packetId).presenceFlags .fragmentInfo = true ∧
      hasFlag (firstFragment packetId).presenceFlags .ackRequired = false := by
  change hasFlag (fragmentFlags (ackFlags false)) .fragmentInfo = true ∧
    hasFlag (fragmentFlags (ackFlags false)) .ackRequired = false
  decide

/-- A first fragment opens a session. -/
theorem feed_firstFragment
    {sessions : List FragmentSession}
    {packetId : UInt64}
    (unknown : ∀ session ∈ sessions, session.packetId ≠ packetId)
    (room : sessions.length < krsMaxReassemblySessions) :
    krsReassemblerFeed { sessions := sessions } (firstFragment packetId) 0
        true =
      some ({ sessions := sessions ++ [staleSession packetId] },
        { base := .suc }) := by
  obtain ⟨flagged, plain⟩ := firstFragment_flags packetId
  have closed : findSession { sessions := sessions } packetId = none := by
    rw [findSession, List.findIdx?_eq_none_iff]
    intro session member
    exact beq_eq_false_iff_ne.mpr (unknown session member)
  have opened : openSession { sessions := sessions } packetId 2 0 true =
      .ok ({ sessions := sessions ++ [newSession packetId 2 0] },
        sessions.length) := by
    rw [openSession, closed]
    dsimp only
    rw [if_neg (Nat.not_le.mpr room)]
    rfl
  have fed : feedPiece { sessions := sessions ++ [newSession packetId 2 0] }
      sessions.length (newSession packetId 2 0) (firstFragment packetId) =
        some (⟨(sessions ++ [newSession packetId 2 0]).set sessions.length
          (staleSession packetId)⟩, { base := .suc }) := rfl
  have valid : validFragment (firstFragment packetId) = true := rfl
  have small : ¬ (firstFragment packetId).body.length >
      krsMaxPayloadPerFragment := Nat.not_lt.mpr (Nat.zero_le _)
  have samePacket : (firstFragment packetId).packetId = packetId := rfl
  have total : (firstFragment packetId).metadata.fragmentTotal.toNat = 2 := rfl
  unfold krsReassemblerFeed
  rw [flagged, valid]
  simp only [Bool.not_true, Bool.false_eq_true, if_false]
  rw [if_neg small, samePacket, total, opened]
  dsimp only
  rw [feedSession, List.getElem?_concat_length, Option.bind_some, plain]
  refine fed.trans ?_
  simp

/-- A fragment that arrives on channel 10 is fed. -/
theorem fedFrame_fragmentArrives
    {conn : ServerConnection}
    (subscribed : conn.subscribed 10 = true)
    (packetId : UInt64)
    {index total : Nat}
    {payload : List UInt8}
    (indexSmall : index < 2 ^ 16)
    (totalSmall : total < 2 ^ 16)
    (short : payload.length ≤ krsMaxPayloadPerFragment) :
    fedFrame conn (fragmentArrives packetId index total payload) =
      some (fragmentParsed 10 .basicMessage packetId false index total
        payload) := by
  have fits : payload.length ≤ 1382 := short
  have parsed : krsFrameCreate
      (fragmentFrame 10 .basicMessage packetId 0 index total payload)
        kronosBufferSize =
      fragmentParsed 10 .basicMessage packetId false index total payload :=
    krsFrameCreate_fragmentFrame 10 .basicMessage packetId false indexSmall
      totalSmall (by omega) (by rw [kronosBufferSize]; omega)
  have arrived :
      recvFrom (fragmentFrame 10 .basicMessage packetId 0 index total payload)
          kronosBufferSize =
        some (fragmentFrame 10 .basicMessage packetId 0 index total
          payload) := by
    rw [recvFrom, length_fragmentFrame, if_neg]
    rw [kronosFrameHeaderLength, kronosBufferSize]
    omega
  have notAck : FrameType.basicMessage.code ≠ FrameType.messageAck.code := by
    decide
  have application : ¬ (10 : Channel) < 10 := by
    decide
  have flagged : hasFlag (fragmentFlags (ackFlags false)) .fragmentInfo =
      true := by
    decide
  rw [fragmentArrives, fedFrame, arrived, Option.bind_some, parsed]
  exact if_pos ⟨rfl, notAck, application, subscribed, flagged⟩

theorem fedFrame_firstFragment
    {conn : ServerConnection}
    (subscribed : conn.subscribed 10 = true)
    (packetId : UInt64) :
    fedFrame conn (fragmentArrives packetId 0 2 []) =
      some (firstFragment packetId) :=
  fedFrame_fragmentArrives subscribed packetId (by decide) (by decide)
    (by decide)

/-- The first fragment of a message takes one more session. -/
theorem clientStep_firstFragment
    {conn : ServerConnection}
    {sessions : List FragmentSession}
    {packetId : UInt64}
    (subscribed : conn.subscribed 10 = true)
    (holds : clientReassembler conn = { sessions := sessions })
    (unknown : ∀ session ∈ sessions, session.packetId ≠ packetId)
    (room : sessions.length < krsMaxReassemblySessions) :
    clientStep conn (fragmentArrives packetId 0 2 []) =
      some { conn with
        reassembler := some ⟨sessions ++ [staleSession packetId]⟩ } := by
  obtain ⟨received, flagged⟩ := clientReceive_of_fed
    (fedFrame_firstFragment subscribed packetId)
  have fed := feed_firstFragment unknown room
  rw [← holds] at fed
  rw [fragmentArrives, clientStep, received]
  unfold clientAppFrame
  rw [flagged]
  simp only [Bool.not_true, Bool.false_eq_true, if_false]
  split
  case h_1 failed => cases failed
  case h_2 =>
      rw [← clientReassembler, fed]
      rfl

/-- The sessions of incomplete messages. -/
def staleSessions (count : Nat) : List FragmentSession :=
  (List.range count).map fun message =>
    staleSession (UInt64.ofNat (message + 1))

theorem staleSessions_unknown
    {count : Nat}
    {packetId : UInt64}
    (later : count < packetId.toNat) :
    ∀ session ∈ staleSessions count, session.packetId ≠ packetId := by
  intro session member
  obtain ⟨message, below, rfl⟩ := List.mem_map.mp member
  rw [List.mem_range] at below
  rintro rfl
  have wrapped := Nat.mod_le (message + 1) (2 ^ 64)
  simp only [staleSession, newSession, UInt64.toNat_ofNat'] at later
  omega

/-- The client with the sessions of incomplete messages. -/
def holding (count : Nat) : ServerConnection :=
  { listening with reassembler := some ⟨staleSessions count⟩ }

theorem clientStep_incompleteMessage
    {conn : ServerConnection}
    {count : Nat}
    (few : count < krsMaxReassemblySessions)
    (subscribed : conn.subscribed 10 = true)
    (holds : clientReassembler conn = ⟨staleSessions count⟩) :
    clientStep conn
        (fragmentArrives (UInt64.ofNat (count + 1)) 0 2 []) =
      some { conn with reassembler := some ⟨staleSessions (count + 1)⟩ } := by
  have number : count + 1 < 2 ^ 64 := by
    rw [krsMaxReassemblySessions] at few
    omega
  have next : staleSessions (count + 1) =
      staleSessions count ++ [staleSession (UInt64.ofNat (count + 1))] := by
    rw [staleSessions, List.range_succ, List.map_append]
    rfl
  rw [next]
  apply clientStep_firstFragment subscribed holds
  · apply staleSessions_unknown
    rw [UInt64.toNat_ofNat', Nat.mod_eq_of_lt number]
    exact Nat.lt_succ_self count
  · rw [staleSessions, List.length_map, List.length_range]
    exact few

/-- Every incomplete message keeps a session. -/
theorem run_incompleteMessages
    {count : Nat}
    (few : count < krsMaxReassemblySessions) :
    run clientStep listening (incompleteMessages (count + 1)) =
      some (holding (count + 1)) := by
  induction count with
  | zero =>
      rw [incompleteMessages, List.range_one, List.map_singleton, run_cons,
        clientStep_incompleteMessage few rfl rfl]
      rfl
  | succ count inductionHypothesis =>
      rw [incompleteMessages, List.range_succ, List.map_append, run_append,
        ← incompleteMessages, inductionHypothesis (Nat.lt_of_succ_lt few),
        Option.bind_some, List.map_singleton, run_cons,
        clientStep_incompleteMessage few rfl rfl]
      rfl

/-- After 256 messages that each lost a fragment, a message of which every
fragment arrives is not passed on. -/
theorem message_after_backlog_lost :
    run clientStep listening (incompleteMessages 256) =
        some (backlogged 256) ∧
      (clientReassembler (backlogged 256)).session latestMessage.packetId =
        none ∧
      RunAllowed clientStep (CarriesMessage latestMessage) (backlogged 256)
        latestArrivals ∧
      (run clientStep (backlogged 256) latestArrivals).isSome = true ∧
      (fragmentsFed latestMessage.packetId (backlogged 256)
        latestArrivals).map Frame.index = [1, 0] ∧
      ¬ PassedOn latestMessage (backlogged 256) latestArrivals := by
  have reached : run clientStep listening (incompleteMessages 256) =
      some (holding 256) :=
    run_incompleteMessages (by decide)
  have full : backlogged 256 = holding 256 := by
    rw [backlogged, reached, Option.getD_some]
  rw [full]
  have silent : packetEffects latestMessage.packetId (holding 256)
      latestArrivals = [] := by
    decide +kernel
  refine ⟨reached, by decide +kernel, by decide +kernel, by decide +kernel,
    by decide +kernel, ?_⟩
  rintro ⟨callback, data, -, -, handed⟩
  rw [silent] at handed
  cases handed

/-- After one incomplete message there is room, and the next message is passed
on. -/
theorem message_after_incomplete_passed_on :
    openSessions (backlogged 1) = 1 ∧
      PassedOn latestMessage (backlogged 1) latestArrivals := by
  have reached : run clientStep listening (incompleteMessages 1) =
      some (backlogged 1) := by
    rw [backlogged, run_incompleteMessages (by decide), Option.getD_some]
  have room : openSessions (backlogged 1) = 1 := by
    decide +kernel
  have through : (run clientStep (backlogged 1) latestArrivals).isSome =
      true := by
    decide +kernel
  obtain ⟨final, through⟩ := Option.isSome_iff_exists.mp through
  have limits : SessionLimits latestMessage.chunks := ⟨by decide, by decide⟩
  refine ⟨room, (fragmented_message_passed_on rfl rfl reached limits
    (by decide +kernel) (by decide +kernel) (by decide +kernel) through
    (by decide +kernel)).1 ?_⟩
  rw [room]
  decide

end Kronos
