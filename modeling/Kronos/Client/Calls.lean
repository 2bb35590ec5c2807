import Kronos.Client.Window
import Kronos.Library.ThreadPool

/-!
# Calls of the client in their sections

`krs_client_send` takes its slot of the congestion window and registers its
frames in critical sections of their own, and `krs_client_subscribe` draws its
packet id and registers its frame in two of them.  The receive thread and other
calls run in between.  The acknowledgement of a subscribe gives back a slot
that the subscribe has not taken.  The window bounds the data messages that are
pending or about to be as long as such an acknowledgement finds a slot to
spare.
-/

namespace Kronos

open Library

/-! ## The sections of a call -/

/-- The arguments of `krs_client_send`, with the packet id it has drawn. -/
structure MessageCall where
  channel : Channel
  packetId : UInt64
  data : List UInt8
  length : UInt16
  requireAck : Bool

/-- The frames of the message. -/
def MessageCall.frames (call : MessageCall) (allocations : SendAllocations) :
    Except KronosResult (List (List UInt8 × Nat)) :=
  messageFrames call.channel call.packetId call.data call.length
    call.requireAck allocations .bufferTooSmall

/-- Where a call is between two of its sections: a send has drawn its packet
id, has taken its slot, or has seen to the tracker before it splits the
message; a subscribe has drawn its packet id or has registered its frame. -/
inductive ClientCall
  | numbered (call : MessageCall)
  | admitted (call : MessageCall)
  | tracked (call : MessageCall)
  | subscribing (channel : Channel) (packetId : UInt64)
  | registered (packetId : UInt64)

/-- The send has a slot and has not registered its frames yet. -/
def ClientCall.holdsSlot : ClientCall -> Bool
  | .admitted _ | .tracked _ => true
  | _ => false

/-- The next section is to take a slot. -/
def ClientCall.takesSlot : ClientCall -> Bool
  | .numbered call => call.requireAck
  | _ => false

/-- The next section of a call, and what is left of the call behind it. -/
def callSection
    (conn : ServerConnection)
    (clock : Nat -> UInt64)
    (allocations : SendAllocations) :
    ClientCall -> ServerConnection × Option ClientCall
  | .numbered call =>
      if call.requireAck then
        let ready := conn.ensureCongestion allocations.congestion
        match ready.takeSlot with
        | none => (ready, none)
        | some taken => (taken, some (.admitted call))
      else (conn, none)
  | .admitted call =>
      if call.length.toNat ≤ krsMaxPayloadPerFragment then
        match call.frames allocations with
        | .error _ => (conn, none)
        | .ok frames =>
            ((conn.ensureTracker allocations.tracker).expect call.packetId
              call.channel clock allocations.entry frames, none)
      else (conn.ensureTracker allocations.tracker, some (.tracked call))
  | .tracked call =>
      match call.frames allocations with
      | .error _ => (conn, none)
      | .ok frames =>
          (conn.expect call.packetId call.channel clock allocations.entry
            frames, none)
  | .subscribing channel packetId =>
      let frame := subscribeFrame channel packetId
      if conn.recvThread then
        ((conn.ensureTracker allocations.tracker).expect packetId 0 clock
            allocations.entry [(frame, frame.length)],
          some (.registered packetId))
      else (conn, none)
  | .registered packetId =>
      ({ conn with
          pendingSubscribePid := packetId
          subscribeAckReceived := false }, none)

/-- The client and the calls that its application is in. -/
structure CallingClient where
  conn : ServerConnection
  calls : List ClientCall := []

/-- What happens: a call begins and draws its packet id, a call runs its next
section, or anything else happens at the client. -/
inductive CallEvent
  | send (channel : Channel) (data : List UInt8) (length : UInt16)
      (requireAck : Bool)
  | subscribe (channel : Channel) (built : Bool)
  | proceed (position : Nat) (clock : Nat -> UInt64)
      (allocations : SendAllocations)
  | other (event : ClientEvent)

/-- The event is a call as a whole. -/
def ClientEvent.isCall : ClientEvent -> Bool
  | .send .. | .subscribe .. => true
  | _ => false

/-- One step of the client with its calls. -/
def callStep (client : CallingClient) : CallEvent -> Option CallingClient
  | .send channel data length requireAck =>
      if client.conn.connected then
        let call : MessageCall :=
          { channel := channel
            packetId := client.conn.nextPacketId channel
            data := data
            length := length
            requireAck := requireAck }
        some
          { conn := client.conn.advanceCounter channel
            calls := client.calls ++ [.numbered call] }
      else some client
  | .subscribe channel built =>
      if client.conn.connected && decide (10 ≤ channel) && built then
        some
          { conn := client.conn.advanceCounter 0
            calls := client.calls ++
              [.subscribing channel (client.conn.nextPacketId 0)] }
      else some client
  | .proceed position clock allocations =>
      client.calls[position]?.map fun call =>
        let next := callSection client.conn clock allocations call
        { conn := next.1
          calls := splice client.calls position next.2.toList }
  | .other event =>
      if event.isCall then none
      else
        (clientStep client.conn event).map fun conn =>
          { client with conn := conn }

theorem run_proceed
    (conn : ServerConnection)
    (call : ClientCall)
    (clock : Nat -> UInt64)
    (allocations : SendAllocations)
    (sections : Nat) :
    let next := callSection conn clock allocations call
    run callStep { conn := conn, calls := [call] }
        (List.replicate (sections + 1) (.proceed 0 clock allocations)) =
      run callStep { conn := next.1, calls := next.2.toList }
        (List.replicate sections (.proceed 0 clock allocations)) := by
  rw [List.replicate_succ, run_cons, callStep]
  simp only [List.getElem?_cons_zero, Option.map_some, splice, List.take_zero,
    List.nil_append, List.drop_succ_cons, List.drop_nil, List.append_nil,
    Option.bind_some]

/-- The sections of a send behind its slot, one after another. -/
theorem admitted_uninterrupted
    (conn : ServerConnection)
    (call : MessageCall)
    (reliable : call.requireAck = true)
    (clock : Nat -> UInt64)
    (allocations : SendAllocations) :
    ∃ sections, run callStep { conn := conn, calls := [.admitted call] }
        (List.replicate sections (.proceed 0 clock allocations)) =
      some
        { conn := (sendNumbered conn call.packetId call.channel call.data
            call.length true clock allocations).1 } := by
  have same : call.frames allocations =
      messageFrames call.channel call.packetId call.data call.length true
        allocations .bufferTooSmall := by
    rw [MessageCall.frames, reliable]
  unfold sendNumbered
  rw [← same]
  by_cases single : call.length.toNat ≤ krsMaxPayloadPerFragment
  · refine ⟨1, (run_proceed conn _ clock allocations 0).trans ?_⟩
    simp only [callSection, if_pos single]
    cases call.frames allocations <;> rfl
  · refine ⟨2, (run_proceed conn _ clock allocations 1).trans ?_⟩
    simp only [callSection, if_neg single, Option.toList_some]
    refine (run_proceed _ _ clock allocations 0).trans ?_
    simp only [callSection]
    cases call.frames allocations <;> rfl

/-- A send with nothing in between its sections is `krs_client_send`. -/
theorem send_uninterrupted
    (conn : ServerConnection)
    (channel : Channel)
    (data : List UInt8)
    (length : UInt16)
    (requireAck : Bool)
    (clock : Nat -> UInt64)
    (allocations : SendAllocations) :
    ∃ sections, run callStep { conn := conn }
        (.send channel data length requireAck ::
          List.replicate sections (.proceed 0 clock allocations)) =
      some
        { conn := (krsClientSend conn channel data length requireAck clock
            allocations).1 } := by
  simp only [run_cons, callStep]
  unfold krsClientSend
  cases online : conn.connected with
  | false => exact ⟨0, rfl⟩
  | true =>
      simp only [if_true, Option.bind_some, Bool.not_true,
        Bool.false_eq_true, if_false, List.nil_append]
      cases requireAck with
      | false =>
          refine ⟨1, (run_proceed _ _ clock allocations 0).trans ?_⟩
          simp only [callSection, Bool.false_eq_true, if_false]
          unfold sendNumbered
          simp only [Bool.false_eq_true, if_false, ite_self]
          split <;> rfl
      | true =>
          simp only [if_true]
          cases slot : ((conn.advanceCounter channel).ensureCongestion
              allocations.congestion).takeSlot with
          | none =>
              refine ⟨1, (run_proceed _ _ clock allocations 0).trans ?_⟩
              simp only [callSection, if_true, slot]
              rfl
          | some taken =>
              obtain ⟨sections, ends⟩ := admitted_uninterrupted taken
                { channel := channel
                  packetId := conn.nextPacketId channel
                  data := data
                  length := length
                  requireAck := true } rfl clock allocations
              refine ⟨sections + 1,
                (run_proceed _ _ clock allocations sections).trans ?_⟩
              simp only [callSection, if_true, slot]
              exact ends

theorem length_subscribeFrame_ne
    (channel : Channel)
    (packetId : UInt64) :
    (subscribeFrame channel packetId).length ≠ 0 := by
  intro empty
  have body := (krsFrameCreate_subscribeFrame channel packetId).2.1
  rw [List.length_eq_zero_iff.mp empty] at body
  cases body

/-- A subscribe with nothing in between its sections is
`krs_client_subscribe` up to its wait. -/
theorem subscribe_uninterrupted
    (conn : ServerConnection)
    (channel : Channel)
    (now : UInt64)
    (allocations : SendAllocations) :
    ∃ sections, run callStep { conn := conn }
        (.subscribe channel allocations.builder ::
          List.replicate sections
            (.proceed 0 (fun _ => now) allocations)) =
      some { conn := (krsClientSubscribe conn channel now allocations).1 } := by
  simp only [run_cons, callStep]
  unfold krsClientSubscribe
  dsimp only
  rw [if_neg (length_subscribeFrame_ne channel (conn.nextPacketId 0))]
  by_cases begins : (conn.connected && decide (10 ≤ channel) &&
      allocations.builder) = true
  · rw [if_pos begins]
    simp only [Bool.and_eq_true, decide_eq_true_eq] at begins
    obtain ⟨⟨online, application⟩, builder⟩ := begins
    rw [online, builder, if_neg (by decide),
      if_neg (UInt8.not_lt.mpr application), if_neg (by decide)]
    simp only [Option.bind_some, List.nil_append]
    cases thread : (conn.advanceCounter 0).recvThread with
    | false =>
        refine ⟨1, (run_proceed _ _ _ allocations 0).trans ?_⟩
        simp only [callSection, thread, Bool.false_eq_true, if_false]
        rfl
    | true =>
        refine ⟨2, (run_proceed _ _ _ allocations 1).trans ?_⟩
        simp only [callSection, thread, if_true, Option.toList_some]
        exact run_proceed _ _ _ allocations 0
  · refine ⟨0, ?_⟩
    rw [if_neg begins]
    simp only [Bool.and_eq_true, decide_eq_true_eq, not_and,
      Bool.not_eq_true] at begins
    cases online : conn.connected with
    | false => rfl
    | true =>
        by_cases application : 10 ≤ channel
        · rw [begins ⟨online, application⟩, if_neg (by decide),
            if_neg (UInt8.not_lt.mpr application)]
          rfl
        · rw [if_neg (by decide), if_pos (UInt8.not_le.mp application)]
          rfl

/-! ## The window and the calls -/

/-- The acknowledgement takes back entries of a subscribe and of no data
message. -/
def acknowledgesSubscribeOnly
    (conn : ServerConnection)
    (frame : Frame) : Bool :=
  (conn.pending.any fun entry =>
      entry.awaits frame.packetId frame.channel) &&
    conn.pending.all fun entry =>
      !(entry.awaits frame.packetId frame.channel && entry.isData)

/-- The data messages that have been admitted and not acknowledged: those that
are pending and those that are about to be. -/
def CallingClient.unacknowledged (client : CallingClient) : Nat :=
  (dataOf client.conn.pending).card +
    client.calls.countP ClientCall.holdsSlot

/-- A reliable send has a controller, and an acknowledgement of a subscribe
alone finds no data message admitted or a slot that belongs to none. -/
def WindowAllowed (client : CallingClient) : CallEvent -> Prop
  | .proceed position _ allocations =>
      (client.calls[position]?).any ClientCall.takesSlot = true ->
        client.conn.congestion.isSome = true ∨ allocations.congestion = true
  | .other (.receive datagram _ _) =>
      let frame := krsFrameCreate datagram kronosBufferSize
      frame.frameType = FrameType.messageAck.code ->
        acknowledgesSubscribeOnly client.conn frame = true ->
        client.unacknowledged = 0 ∨
          client.unacknowledged < client.conn.inFlight
  | _ => True

instance (client : CallingClient) :
    (event : CallEvent) -> Decidable (WindowAllowed client event)
  | .send _ _ _ _ => isTrue trivial
  | .subscribe _ _ => isTrue trivial
  | .proceed _ _ _ => inferInstanceAs (Decidable (_ -> _ ∨ _))
  | .other (.receive _ _ _) => inferInstanceAs (Decidable (_ -> _ -> _ ∨ _))
  | .other (.send _ _ _ _ _ _) => isTrue trivial
  | .other (.subscribe _ _ _) => isTrue trivial
  | .other (.poll _) => isTrue trivial
  | .other .timeout => isTrue trivial
  | .other (.unsubscribe _ _) => isTrue trivial
  | .other (.service _ _) => isTrue trivial

/-- A step admits no data message, or no more of them are unacknowledged after
it than fit into the window that admitted it. -/
def AdmittedInWindow (before after : CallingClient) : Prop :=
  after.unacknowledged ≤ before.unacknowledged ∨
    ∃ cc, after.conn.congestion = some cc ∧
      after.unacknowledged ≤ ⌊cc.cwnd⌋₊

/-- The window counts every data message that has been admitted. -/
def CallingClient.Counted (client : CallingClient) : Prop :=
  client.unacknowledged ≤ client.conn.inFlight

theorem CallingClient.Counted.covers
    {client : CallingClient}
    (counted : client.Counted) :
    client.conn.Covers :=
  (Nat.le_add_right _ _).trans counted

/-! ## One section of a call -/

/-- The slots that a call or nothing holds. -/
def slotsHeld (call : Option ClientCall) : Nat :=
  call.toList.countP ClientCall.holdsSlot

/-- What is left of a call takes its place. -/
theorem countP_resume
    {calls : List ClientCall}
    {position : Nat}
    {call : ClientCall}
    (here : calls[position]? = some call)
    (next : Option ClientCall) :
    (splice calls position next.toList).countP ClientCall.holdsSlot +
        slotsHeld (some call) =
      calls.countP ClientCall.holdsSlot + slotsHeld next := by
  have before := (perm_of_getElem? here).countP_eq ClientCall.holdsSlot
  have after :=
    (splice_perm calls position next.toList).countP_eq ClientCall.holdsSlot
  rw [← List.singleton_append, List.countP_append] at before
  rw [List.countP_append] at after
  unfold slotsHeld
  rw [Option.toList_some]
  omega

/-- Registering the frames of a message adds at most that message. -/
theorem card_dataOf_expect
    (conn : ServerConnection)
    (packetId : UInt64)
    (channel : Channel)
    (clock : Nat -> UInt64)
    (allocated : Nat -> Bool)
    (frames : List (List UInt8 × Nat)) :
    (dataOf (conn.expect packetId channel clock allocated
        frames).pending).card ≤ (dataOf conn.pending).card + 1 := by
  obtain ⟨new, appended, own⟩ :=
    expect_pending conn packetId channel clock allocated frames
  rw [appended]
  exact (Finset.card_le_card (dataOf_append_subset conn.pending
    fun entry member => (own entry member).1)).trans (Finset.card_insert_le _ _)

/-- Registering a `SUBSCRIBE` adds no data message. -/
theorem dataOf_expect_subscribeFrame
    (conn : ServerConnection)
    (packetId : UInt64)
    (channel : Channel)
    (clock : Nat -> UInt64)
    (allocated : Nat -> Bool) :
    dataOf (conn.expect packetId 0 clock allocated
        [(subscribeFrame channel packetId,
          (subscribeFrame channel packetId).length)]).pending =
      dataOf conn.pending := by
  obtain ⟨new, appended, own⟩ := expect_pending conn packetId 0 clock allocated
    [(subscribeFrame channel packetId,
      (subscribeFrame channel packetId).length)]
  rw [appended]
  apply dataOf_append_of_not_data
  intro entry member
  obtain ⟨-, frame, present, stored⟩ := own entry member
  rw [List.mem_singleton.mp present] at stored
  exact isData_of_subscribeFrame stored

/-- A section admits no data message, or it takes a slot of the window that
admits one. -/
theorem callSection_window
    (conn : ServerConnection)
    (clock : Nat -> UInt64)
    (allocations : SendAllocations)
    (call : ClientCall)
    (controlled : call.takesSlot = true ->
      conn.congestion.isSome = true ∨ allocations.congestion = true) :
    let next := callSection conn clock allocations call
    ((dataOf next.1.pending).card + slotsHeld next.2 ≤
          (dataOf conn.pending).card + slotsHeld (some call) ∧
        next.1.inFlight = conn.inFlight) ∨
      ∃ cc, krsCongestionCanSend cc = true ∧
        cc.inFlight = conn.inFlight ∧
        next.1.congestion = some (krsCongestionOnSend cc) ∧
        (dataOf next.1.pending).card + slotsHeld next.2 ≤
          (dataOf conn.pending).card + slotsHeld (some call) + 1 := by
  cases call with
  | numbered call =>
      cases reliable : call.requireAck with
      | false =>
          left
          simp only [callSection, reliable, Bool.false_eq_true, if_false]
          exact ⟨Nat.le_refl _, trivial⟩
      | true =>
          simp only [callSection, reliable, if_true]
          obtain ⟨cc, read, sameFlight⟩ :=
            ensureCongestion_isSome conn (controlled reliable)
          rcases takeSlot_cases read with ⟨-, refused⟩ | ⟨room, granted⟩
          · left
            rw [refused]
            exact ⟨Nat.le_refl _, ensureCongestion_inFlight _ _⟩
          · right
            rw [granted]
            exact ⟨cc, room, sameFlight, rfl, Nat.le_refl _⟩
  | admitted call =>
      left
      simp only [callSection]
      split
      case isTrue =>
        cases call.frames allocations with
        | error failed => exact ⟨Nat.le_succ _, rfl⟩
        | ok frames =>
            have added := card_dataOf_expect
              (conn.ensureTracker allocations.tracker) call.packetId
              call.channel clock allocations.entry frames
            rw [ensureTracker_pending] at added
            exact ⟨added, rfl⟩
      case isFalse =>
        rw [ensureTracker_pending]
        exact ⟨Nat.le_refl _, rfl⟩
  | tracked call =>
      left
      simp only [callSection]
      cases call.frames allocations with
      | error failed => exact ⟨Nat.le_succ _, rfl⟩
      | ok frames => exact ⟨card_dataOf_expect _ _ _ _ _ _, rfl⟩
  | subscribing channel packetId =>
      left
      simp only [callSection]
      split
      case isTrue =>
        rw [dataOf_expect_subscribeFrame, ensureTracker_pending]
        exact ⟨Nat.le_refl _, rfl⟩
      case isFalse => exact ⟨Nat.le_refl _, rfl⟩
  | registered packetId => exact Or.inl ⟨Nat.le_refl _, rfl⟩

/-! ## Runs -/

/-- An acknowledgement that frees a slot takes back a data message, or it meets
a state without one or with a slot to spare. -/
theorem CallingClient.Counted.acknowledged
    {client : CallingClient}
    {conn : ServerConnection}
    {frame : Frame}
    (counted : client.Counted)
    (allowed : acknowledgesSubscribeOnly client.conn frame = true ->
      client.unacknowledged = 0 ∨
        client.unacknowledged < client.conn.inFlight)
    (erased : dataOf conn.pending ⊆
      (dataOf client.conn.pending).erase (frame.channel, frame.packetId))
    (freed : conn.inFlight = client.conn.inFlight - 1)
    (matched : client.conn.pending.any (fun entry =>
      entry.awaits frame.packetId frame.channel) = true) :
    CallingClient.Counted { client with conn := conn } := by
  have fewer := Finset.card_le_card erased
  unfold CallingClient.Counted at counted ⊢
  unfold CallingClient.unacknowledged at counted allowed ⊢
  by_cases data : (frame.channel, frame.packetId) ∈
      dataOf client.conn.pending
  · have present := Finset.card_pos.mpr ⟨_, data⟩
    rw [Finset.card_erase_of_mem data] at fewer
    dsimp only
    omega
  · have subscribeOnly :
        acknowledgesSubscribeOnly client.conn frame = true := by
      rw [acknowledgesSubscribeOnly, matched, Bool.true_and, List.all_eq_true]
      intro entry present
      rw [Bool.not_eq_true', Bool.and_eq_false_iff]
      by_contra both
      rw [not_or, Bool.not_eq_false, Bool.not_eq_false] at both
      exact data (mem_dataOf.mpr
        ⟨entry, present, both.2, awaits_iff.mp both.1⟩)
    rw [Finset.erase_eq_of_notMem data] at fewer
    have spare := allowed subscribeOnly
    dsimp only
    omega

/-- What happens beside the calls admits no data message, and only an
acknowledgement changes `in_flight`. -/
theorem clientStep_window
    {conn next : ServerConnection}
    {event : ClientEvent}
    (between : event.isCall = false)
    (taken : clientStep conn event = some next) :
    dataOf next.pending ⊆ dataOf conn.pending ∧
        next.inFlight = conn.inFlight ∨
      ∃ datagram now allocations,
        event = .receive datagram now allocations ∧
          let frame := krsFrameCreate datagram kronosBufferSize
          frame.frameType = FrameType.messageAck.code ∧
            next = clientAcknowledge conn frame now := by
  have alike
      (tracker : next.ackTracker = conn.ackTracker)
      (congestion : next.congestion = conn.congestion) :
      dataOf next.pending ⊆ dataOf conn.pending ∧
        next.inFlight = conn.inFlight := by
    unfold ServerConnection.pending ServerConnection.inFlight
    rw [tracker, congestion]
    exact ⟨Finset.Subset.refl _, rfl⟩
  cases event with
  | send | subscribe => cases between
  | poll channel =>
      cases taken
      left
      apply alike
      · unfold subscribeSucceeded
        split_ifs <;> rfl
      · unfold subscribeSucceeded
        split_ifs <;> rfl
  | timeout =>
      cases taken
      left
      apply alike
      · unfold subscribeTimeout
        dsimp only
        split_ifs <;> rfl
      · unfold subscribeTimeout
        dsimp only
        split_ifs <;> rfl
  | unsubscribe channel built =>
      cases taken
      left
      apply alike
      · unfold krsClientUnsubscribe
        dsimp only
        split_ifs <;> rfl
      · unfold krsClientUnsubscribe
        dsimp only
        split_ifs <;> rfl
  | service now built =>
      cases taken
      left
      obtain ⟨subset, flight⟩ := clientRetransmit_window
        (clientHeartbeat conn now built).1 now
      have beat : (clientHeartbeat conn now built).1.ackTracker =
            conn.ackTracker ∧
          (clientHeartbeat conn now built).1.congestion =
            conn.congestion := by
        unfold clientHeartbeat
        split_ifs <;> exact ⟨rfl, rfl⟩
      constructor
      · refine subset.trans (subset_of_eq ?_)
        unfold ServerConnection.pending
        rw [beat.1]
      · rw [flight]
        unfold ServerConnection.inFlight
        rw [beat.2]
  | receive datagram now allocations =>
      obtain ⟨⟨after, effects⟩, received, rfl⟩ :=
        Option.map_eq_some_iff.mp taken
      rcases clientReceive_window received with
        ⟨tracker, congestion⟩ | acknowledged
      · exact Or.inl (alike tracker congestion)
      · exact Or.inr ⟨datagram, now, allocations, rfl, acknowledged⟩

/-- One step from a state in which the window counts the data messages. -/
theorem CallingClient.Counted.step
    {client next : CallingClient}
    {event : CallEvent}
    (counted : client.Counted)
    (allowed : WindowAllowed client event)
    (taken : callStep client event = some next) :
    next.Counted ∧ AdmittedInWindow client next := by
  have fewer
      (data : next.unacknowledged ≤ client.unacknowledged)
      (flight : next.conn.inFlight = client.conn.inFlight) :
      next.Counted ∧ AdmittedInWindow client next := by
    refine ⟨?_, Or.inl data⟩
    unfold CallingClient.Counted
    rw [flight]
    exact data.trans counted
  cases event with
  | send channel data length requireAck =>
      rw [callStep] at taken
      split at taken
      case isTrue =>
        cases taken
        refine fewer (le_of_eq ?_) rfl
        unfold CallingClient.unacknowledged
        rw [List.countP_append]
        rfl
      case isFalse =>
        cases taken
        exact fewer (Nat.le_refl _) rfl
  | subscribe channel built =>
      rw [callStep] at taken
      split at taken
      case isTrue =>
        cases taken
        refine fewer (le_of_eq ?_) rfl
        unfold CallingClient.unacknowledged
        rw [List.countP_append]
        rfl
      case isFalse =>
        cases taken
        exact fewer (Nat.le_refl _) rfl
  | proceed position clock allocations =>
      obtain ⟨call, here, rfl⟩ := Option.map_eq_some_iff.mp taken
      have controlled (takes : call.takesSlot = true) :
          client.conn.congestion.isSome = true ∨
            allocations.congestion = true :=
        allowed (by rw [here]; exact takes)
      have resumed := countP_resume here
        (callSection client.conn clock allocations call).2
      rcases callSection_window client.conn clock allocations call
        controlled with ⟨data, flight⟩ |
          ⟨cc, room, sameFlight, congestion, data⟩
      · refine fewer ?_ flight
        unfold CallingClient.unacknowledged
        dsimp only
        omega
      · have within := counted
        unfold CallingClient.Counted CallingClient.unacknowledged at within
        rw [krsCongestionCanSend, decide_eq_true_eq] at room
        refine ⟨?_, Or.inr ⟨_, congestion, ?_⟩⟩
        · unfold CallingClient.Counted CallingClient.unacknowledged
            ServerConnection.inFlight
          rw [congestion]
          change _ ≤ cc.inFlight + 1
          dsimp only
          omega
        · unfold CallingClient.unacknowledged
          change _ ≤ ⌊cc.cwnd⌋₊
          dsimp only
          omega
  | other event =>
      rw [callStep] at taken
      split at taken
      case isTrue => cases taken
      case isFalse between =>
        obtain ⟨conn, stepped, rfl⟩ := Option.map_eq_some_iff.mp taken
        rcases clientStep_window (Bool.not_eq_true _ ▸ between) stepped with
          ⟨subset, flight⟩ | ⟨datagram, now, allocations, rfl, type, rfl⟩
        · exact fewer
            (Nat.add_le_add_right (Finset.card_le_card subset) _) flight
        · obtain ⟨erased, same | ⟨freed, matched⟩⟩ :=
            clientAcknowledge_window client.conn
              (krsFrameCreate datagram kronosBufferSize) now
          · exact fewer (Nat.add_le_add_right (Finset.card_le_card
              (erased.trans (Finset.erase_subset _ _))) _) same
          · exact ⟨counted.acknowledged (allowed type) erased freed matched,
              Or.inl (Nat.add_le_add_right (Finset.card_le_card
                (erased.trans (Finset.erase_subset _ _))) _)⟩

/-- In every run of a client, its calls and its receive thread in which each
reliable send has a controller and no acknowledgement of a subscribe alone
meets a window whose slots all belong to data messages: `in_flight` is at least
the number of pending data messages, and no send leaves more of them
unacknowledged than the window that admitted it. -/
theorem window_covers_pending_data
    {conn : ServerConnection}
    (untracked : conn.ackTracker = none)
    {events : List CallEvent}
    {final : CallingClient}
    (allowed : RunAllowed callStep WindowAllowed { conn := conn } events)
    (reached : run callStep { conn := conn } events = some final) :
    final.conn.Covers ∧
      ∀ event next, WindowAllowed final event ->
        callStep final event = some next -> AdmittedInWindow final next := by
  have start : CallingClient.Counted { conn := conn } := by
    unfold CallingClient.Counted CallingClient.unacknowledged
      ServerConnection.pending
    rw [untracked]
    exact Nat.zero_le _
  have counted : final.Counted := run_induction
    (fun _ _ _ counted allowedHere taken =>
      (counted.step allowedHere taken).1)
    start allowed reached
  exact ⟨counted.covers, fun _ _ allowedHere taken =>
    (counted.step allowedHere taken).2⟩

/-! ## Two small runs -/

/-- The client of the small runs. -/
def receivingClient : ServerConnection :=
  { connectionId := 1, recvThread := true }

/-- A reliable send of one byte on channel 10, section by section. -/
def byteSend (now : UInt64) : List CallEvent :=
  [.send 10 [7] 1 true, .proceed 0 (fun _ => now) {},
    .proceed 0 (fun _ => now) {}]

/-- A subscribe to channel 11. -/
def subscribeCall (now : UInt64) : List CallEvent :=
  [.subscribe 11 true, .proceed 0 (fun _ => now) {},
    .proceed 0 (fun _ => now) {}]

/-- An acknowledgement arrives. -/
def ackArrives
    (channel : Channel)
    (packetId : UInt64)
    (now : UInt64) : CallEvent :=
  .other (.receive (ackResponse channel packetId) now {})

/-- The message is acknowledged before the `SUBSCRIBE` is. -/
def orderlyAcks : List CallEvent :=
  byteSend 0 ++ [ackArrives 10 1 5] ++ subscribeCall 6 ++
    [ackArrives 0 1 7] ++ byteSend 8

/-- Four messages fill the window.  The acknowledgement of a `SUBSCRIBE` widens
it by one and frees one of their slots. -/
def subscribeAckOvertakes : List CallEvent :=
  byteSend 0 ++ byteSend 1 ++ byteSend 2 ++ byteSend 3 ++ subscribeCall 4 ++
    [ackArrives 0 1 5] ++ byteSend 6 ++ byteSend 7

theorem orderly_acks_covered :
    ∃ final, run callStep { conn := receivingClient } orderlyAcks =
        some final ∧
      final.conn.inFlight = 1 ∧ final.conn.Covers := by
  have allowed : RunAllowed callStep WindowAllowed
      { conn := receivingClient } orderlyAcks := by
    decide +kernel
  have shown : (run callStep { conn := receivingClient } orderlyAcks).map
      (fun final => final.conn.inFlight) = some 1 := by
    decide +kernel
  obtain ⟨final, reached, inFlight⟩ := Option.map_eq_some_iff.mp shown
  exact ⟨final, reached, inFlight,
    (window_covers_pending_data rfl allowed reached).1⟩

/-- Six data messages are pending, five are counted, and the window that
admitted the last of them has room for five. -/
theorem subscribe_ack_frees_data_slot :
    ∃ final cc, run callStep { conn := receivingClient }
        subscribeAckOvertakes = some final ∧
      final.conn.congestion = some cc ∧
      (dataOf final.conn.pending).card = 6 ∧ cc.inFlight = 5 ∧
      cc.cwnd = 5 ∧ ¬ final.conn.Covers := by
  have shown : ((run callStep { conn := receivingClient }
      subscribeAckOvertakes).bind fun final =>
        final.conn.congestion.map fun cc =>
          ((dataOf final.conn.pending).card, cc.inFlight, cc.cwnd)) =
      some (6, 5, 5) := by
    decide +kernel
  obtain ⟨final, reached, read⟩ := Option.bind_eq_some_iff.mp shown
  obtain ⟨cc, congestion, values⟩ := Option.map_eq_some_iff.mp read
  have pending : (dataOf final.conn.pending).card = 6 :=
    congrArg (·.1) values
  have inFlight : cc.inFlight = 5 := congrArg (·.2.1) values
  refine ⟨final, cc, reached, congestion, pending, inFlight,
    congrArg (·.2.2) values, ?_⟩
  rw [ServerConnection.Covers, pending, ServerConnection.inFlight, congestion]
  dsimp only
  rw [inFlight]
  decide

/-- A late acknowledgement of a subscribe comes between the two sections of a
send: the send has its slot, and its message is pending only afterwards. -/
def subscribeAckBetweenSections : List CallEvent :=
  subscribeCall 0 ++ [.other .timeout] ++ byteSend 1 ++
    [.send 10 [7] 1 true, .proceed 0 (fun _ => 2) {}, ackArrives 0 1 3,
      .proceed 0 (fun _ => 4) {}]

example :
    (run callStep { conn := receivingClient }
      subscribeAckBetweenSections).map (fun final =>
        ((dataOf final.conn.pending).card, final.conn.inFlight)) =
      some (2, 1) := by
  decide +kernel

end Kronos
