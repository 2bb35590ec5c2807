import Kronos.Client.Window

/-!
# Reliable sends that fail

`krs_client_send` and `krs_server_send` take the window slot of a reliable
message before they build its frames, and register the frames as far as memory
goes.  A message whose frames cannot be built keeps its slot; a message whose
controller, tracker or entries cannot be allocated is sent all the same.
-/

namespace Kronos

open Library

/-- What a connection knows of its reliable messages: `in_flight` and the
entries pending in its tracker. -/
structure SendBooks where
  inFlight : Nat
  pending : List AckEntry
  deriving DecidableEq, Repr

/-- The books of the client's connection. -/
def ServerConnection.books (conn : ServerConnection) : SendBooks :=
  { inFlight := conn.inFlight, pending := conn.pending }

/-- The books of a connection of the server. -/
def booksOf (conn : ClientConnection) : SendBooks :=
  { inFlight := inFlightOf conn, pending := pendingOf conn }

/-- The entry stores a frame of a packet. -/
def AckEntry.IsFor
    (entry : AckEntry)
    (packet : Channel × UInt64)
    (frame : List UInt8 × Nat) : Prop :=
  entry.packet = packet ∧ entry.datagram = frame.1.take frame.2

/-- An error leaves the books as they were; a success takes one slot and adds an
entry for each frame of the message. -/
def BooksKept
    (before after : SendBooks)
    (packet : Channel × UInt64)
    (frames : Except KronosResult (List (List UInt8 × Nat)))
    (valid : Bool) : Prop :=
  if valid then
    after.inFlight = before.inFlight + 1 ∧
      ∃ built entries, frames = .ok built ∧
        after.pending = before.pending ++ entries ∧
        List.Forall₂ (fun entry frame => entry.IsFor packet frame) entries
          built
  else after = before

/-- The window is full. -/
def windowFull : Option CongestionController -> Bool
  | none => false
  | some cc => !krsCongestionCanSend cc

/-- The window is full; or the frames are not built and there is no controller;
or the frames are built, there are a controller and a tracker, and every entry
is allocated. -/
def KeepsBooks
    (congestion : Option CongestionController)
    (tracker : Option AckTracker)
    (length : UInt16)
    (allocations : SendAllocations) : Prop :=
  windowFull congestion = true ∨
    (allocations.framesBuilt length = false ∧
      congestion.isSome = false ∧ allocations.congestion = false) ∨
    (allocations.framesBuilt length = true ∧
      (congestion.isSome = true ∨ allocations.congestion = true) ∧
      (tracker.isSome = true ∨ allocations.tracker = true) ∧
      ∀ index < frameCount length, allocations.entry index = true)

instance
    (congestion : Option CongestionController)
    (tracker : Option AckTracker)
    (length : UInt16)
    (allocations : SendAllocations) :
    Decidable (KeepsBooks congestion tracker length allocations) :=
  inferInstanceAs (Decidable (_ ∨ _ ∨ _))

/-! ## The books after a reliable send -/

/-- What is there, or is created. -/
def orCreated (existing : Option α) (fresh : α) (created : Bool) : Option α :=
  match existing with
  | some value => some value
  | none => if created then some fresh else none

/-- The books of a controller and a tracker. -/
def booksFrom
    (congestion : Option CongestionController)
    (tracker : Option AckTracker) : SendBooks :=
  { inFlight :=
      match congestion with
      | none => 0
      | some cc => cc.inFlight
    pending :=
      match tracker with
      | none => []
      | some tracker => tracker.pending }

/-- The books after a send of some frames that takes a slot. -/
def booksSent
    (congestion : Option CongestionController)
    (tracker : Option AckTracker)
    (packetId : UInt64)
    (channel : Channel)
    (clock : Nat -> UInt64)
    (allocations : SendAllocations)
    (frames : List (List UInt8 × Nat)) : SendBooks :=
  booksFrom
    ((orCreated congestion krsCongestionCreate allocations.congestion).map
      krsCongestionOnSend)
    ((orCreated tracker (krsAckTrackerCreate 1000 5) allocations.tracker).map
      fun tracker =>
        expectFrames tracker packetId channel clock allocations.entry 0 frames)

section Books

variable
  {congestion : Option CongestionController}
  {tracker : Option AckTracker}
  {packetId : UInt64}
  {channel : Channel}
  {clock : Nat -> UInt64}
  {allocations : SendAllocations}
  {frames : List (List UInt8 × Nat)}

theorem orCreated_isSome
    (existing : Option α)
    (fresh : α)
    (created : Bool) :
    (orCreated existing fresh created).isSome =
      (existing.isSome || created) := by
  cases existing with
  | some value => rfl
  | none => cases created <;> rfl

/-- A new controller has no packet in flight. -/
theorem booksFrom_controller
    (congestion : Option CongestionController)
    (tracker : Option AckTracker)
    (created : Bool) :
    booksFrom (orCreated congestion krsCongestionCreate created) tracker =
      booksFrom congestion tracker := by
  cases congestion with
  | some cc => rfl
  | none => cases created <;> rfl

/-- A new tracker has no pending entry. -/
theorem booksFrom_tracker
    (congestion : Option CongestionController)
    (tracker : Option AckTracker)
    (created : Bool) :
    booksFrom congestion
        (orCreated tracker (krsAckTrackerCreate 1000 5) created) =
      booksFrom congestion tracker := by
  cases tracker with
  | some tracker => rfl
  | none => cases created <;> rfl

theorem booksSent_nil :
    booksSent congestion tracker packetId channel clock allocations [] =
      booksFrom
        ((orCreated congestion krsCongestionCreate
          allocations.congestion).map krsCongestionOnSend) tracker := by
  rw [← booksFrom_tracker _ tracker allocations.tracker]
  unfold booksSent
  simp only [expectFrames, Option.map_id']

theorem windowFull_orCreated
    (congestion : Option CongestionController)
    (created : Bool) :
    windowFull (orCreated congestion krsCongestionCreate created) =
      windowFull congestion := by
  cases congestion with
  | some cc => rfl
  | none =>
      cases created with
      | false => rfl
      | true =>
          have room : krsCongestionCanSend krsCongestionCreate = true :=
            krsCongestionCreate_windowOpen.canSend rfl
          change (!krsCongestionCanSend krsCongestionCreate) = false
          rw [room]
          rfl

theorem booksSent_inFlight :
    (booksSent congestion tracker packetId channel clock allocations
      frames).inFlight =
      (booksFrom congestion tracker).inFlight +
        if congestion.isSome || allocations.congestion then 1 else 0 := by
  unfold booksSent booksFrom
  cases congestion with
  | some cc => rfl
  | none => cases allocations.congestion <;> rfl

/-- The entries that a send of some frames adds. -/
def entriesSent
    (tracker : Option AckTracker)
    (packetId : UInt64)
    (channel : Channel)
    (clock : Nat -> UInt64)
    (allocations : SendAllocations)
    (frames : List (List UInt8 × Nat)) : List AckEntry :=
  match orCreated tracker (krsAckTrackerCreate 1000 5) allocations.tracker with
  | none => []
  | some tracker =>
      registeredEntries tracker.registered packetId channel clock
        allocations.entry 0 frames

theorem booksSent_pending :
    (booksSent congestion tracker packetId channel clock allocations
      frames).pending =
      (booksFrom congestion tracker).pending ++
        entriesSent tracker packetId channel clock allocations frames := by
  unfold booksSent booksFrom entriesSent
  cases tracker with
  | some tracker =>
      simp only [orCreated, Option.map_some, expectFrames_eq]
  | none =>
      cases allocations.tracker with
      | true => simp only [orCreated, if_true, Option.map_some,
          expectFrames_eq, krsAckTrackerCreate]
      | false => rfl

/-- A frame that has a size is stored as it is. -/
theorem newEntry_isFor
    (handle : Nat)
    {frame : List UInt8 × Nat}
    (sized : 0 < frame.2)
    (now : UInt64) :
    (newEntry handle packetId channel (some frame.1) frame.2 now).IsFor
      (channel, packetId) frame := by
  refine ⟨rfl, ?_⟩
  rw [AckEntry.datagram, newEntry_storedFrame, registeredFrame, if_pos sized]
  simp only [Option.map_some, List.take_take, Nat.min_self]

theorem registeredEntries_isFor
    {allocated : Nat -> Bool}
    {index : Nat}
    (registered : Nat)
    (sized : ∀ frame ∈ frames, 0 < frame.2)
    (granted : ∀ offset < frames.length, allocated (index + offset) = true) :
    List.Forall₂ (fun entry frame => entry.IsFor (channel, packetId) frame)
      (registeredEntries registered packetId channel clock allocated index
        frames) frames := by
  induction frames generalizing registered index with
  | nil => exact List.Forall₂.nil
  | cons frame frames inductionHypothesis =>
      have first : allocated index = true := granted 0 (Nat.succ_pos _)
      rw [registeredEntries, if_pos first]
      refine List.Forall₂.cons (newEntry_isFor _ (sized frame (by simp)) _) ?_
      apply inductionHypothesis
      · intro other member
        exact sized other (List.mem_cons_of_mem _ member)
      · intro offset inside
        have next := granted (offset + 1) (Nat.succ_lt_succ inside)
        rw [Nat.add_assoc, Nat.add_comm 1]
        exact next

theorem length_registeredEntries_le
    (registered : Nat)
    (packetId : UInt64)
    (channel : Channel)
    (clock : Nat -> UInt64)
    (allocated : Nat -> Bool)
    (index : Nat)
    (frames : List (List UInt8 × Nat)) :
    (registeredEntries registered packetId channel clock allocated index
      frames).length ≤ frames.length := by
  induction frames generalizing registered index with
  | nil => exact Nat.le_refl _
  | cons frame frames inductionHypothesis =>
      rw [registeredEntries]
      split
      case isTrue =>
          exact Nat.succ_le_succ (inductionHypothesis _ _)
      case isFalse =>
          exact Nat.le_succ_of_le (inductionHypothesis _ _)

/-- As many entries as frames: every entry was allocated. -/
theorem granted_of_length
    {registered : Nat}
    {allocated : Nat -> Bool}
    {index : Nat}
    (same : (registeredEntries registered packetId channel clock allocated
      index frames).length = frames.length)
    (offset : Nat)
    (inside : offset < frames.length) :
    allocated (index + offset) = true := by
  induction frames generalizing registered index offset with
  | nil => cases inside
  | cons frame frames inductionHypothesis =>
      rw [registeredEntries] at same
      split at same
      case isTrue granted =>
          cases offset with
          | zero => exact granted
          | succ offset =>
              have later := inductionHypothesis (Nat.succ.inj same) offset
                (Nat.lt_of_succ_lt_succ inside)
              rw [Nat.add_assoc, Nat.add_comm 1] at later
              exact later
      case isFalse =>
          have bound := length_registeredEntries_le registered packetId
            channel clock allocated (index + 1) frames
          rw [same] at bound
          exact absurd bound (Nat.not_succ_le_self _)

/-- Each frame gets its entry exactly if there is a tracker and every entry is
allocated. -/
theorem entriesSent_isFor_iff
    (sized : ∀ frame ∈ frames, 0 < frame.2)
    (some_frame : 0 < frames.length) :
    List.Forall₂ (fun entry frame => entry.IsFor (channel, packetId) frame)
        (entriesSent tracker packetId channel clock allocations frames)
        frames ↔
      (tracker.isSome = true ∨ allocations.tracker = true) ∧
        ∀ index < frames.length, allocations.entry index = true := by
  rw [← Bool.or_eq_true, ← orCreated_isSome tracker
    (krsAckTrackerCreate 1000 5) allocations.tracker]
  unfold entriesSent
  cases orCreated tracker (krsAckTrackerCreate 1000 5)
    allocations.tracker with
  | none =>
      constructor
      · intro matched
        rw [← matched.length_eq] at some_frame
        cases some_frame
      · intro tracked
        cases tracked.1
  | some ready =>
      constructor
      · intro matched
        refine ⟨rfl, ?_⟩
        intro index inside
        have granted := granted_of_length matched.length_eq index inside
        rw [Nat.zero_add] at granted
        exact granted
      · intro granted
        apply registeredEntries_isFor _ sized
        intro offset inside
        rw [Nat.zero_add]
        exact granted.2 offset inside

/-- A slot taken for frames that are not built is missed exactly if there is a
controller. -/
theorem booksSent_nil_iff :
    booksSent congestion tracker packetId channel clock allocations [] =
        booksFrom congestion tracker ↔
      congestion.isSome = false ∧ allocations.congestion = false := by
  rw [← Bool.or_eq_false_iff]
  have inFlight : (booksSent congestion tracker packetId channel clock
      allocations []).inFlight = _ := booksSent_inFlight
  have pending : (booksSent congestion tracker packetId channel clock
      allocations []).pending = (booksFrom congestion tracker).pending := by
    rw [booksSent_pending, entriesSent]
    split <;> exact List.append_nil _
  cases controlled : congestion.isSome || allocations.congestion with
  | true =>
      rw [controlled, if_pos rfl] at inFlight
      constructor
      · intro same
        rw [same] at inFlight
        exact absurd inFlight (Nat.ne_of_lt (Nat.lt_succ_self _))
      · intro uncontrolled
        cases uncontrolled
  | false =>
      rw [controlled, if_neg Bool.false_ne_true, Nat.add_zero] at inFlight
      refine iff_of_true ?_ rfl
      rw [SendBooks.mk.injEq]
      exact ⟨inFlight, pending⟩

/-- A success keeps the books exactly if there are a controller and a tracker
and every entry is allocated. -/
theorem booksKept_sent_iff
    (sized : ∀ frame ∈ frames, 0 < frame.2)
    (some_frame : 0 < frames.length) :
    BooksKept (booksFrom congestion tracker)
        (booksSent congestion tracker packetId channel clock allocations
          frames) (channel, packetId) (.ok frames) true ↔
      (congestion.isSome = true ∨ allocations.congestion = true) ∧
        (tracker.isSome = true ∨ allocations.tracker = true) ∧
        ∀ index < frames.length, allocations.entry index = true := by
  have entries : (∃ built entries,
        (Except.ok frames : Except KronosResult _) = .ok built ∧
        (booksFrom congestion tracker).pending ++ entriesSent tracker packetId
            channel clock allocations frames =
          (booksFrom congestion tracker).pending ++ entries ∧
        List.Forall₂ (fun entry frame => entry.IsFor (channel, packetId) frame)
          entries built) ↔
      List.Forall₂ (fun entry frame => entry.IsFor (channel, packetId) frame)
        (entriesSent tracker packetId channel clock allocations frames)
        frames := by
    constructor
    · rintro ⟨built, entries, same, appended, matched⟩
      cases same
      rw [List.append_cancel_left appended]
      exact matched
    · intro matched
      exact ⟨frames, _, rfl, rfl, matched⟩
  unfold BooksKept
  rw [if_pos rfl, booksSent_inFlight, booksSent_pending, entries,
    entriesSent_isFor_iff sized some_frame]
  refine and_congr ?_ Iff.rfl
  rw [← Bool.or_eq_true]
  generalize (congestion.isSome || allocations.congestion) = controlled
  cases controlled <;> simp

/-- The books after a reliable send, and whether it succeeds. -/
def booksAfter
    (congestion : Option CongestionController)
    (tracker : Option AckTracker)
    (packetId : UInt64)
    (channel : Channel)
    (clock : Nat -> UInt64)
    (allocations : SendAllocations)
    (frames : Except KronosResult (List (List UInt8 × Nat))) :
    SendBooks × Bool :=
  if windowFull congestion then (booksFrom congestion tracker, false)
  else
    match frames with
    | .error _ =>
        (booksSent congestion tracker packetId channel clock allocations [],
          false)
    | .ok frames =>
        (booksSent congestion tracker packetId channel clock allocations
          frames, true)

theorem booksKept_after_iff
    (congestion : Option CongestionController)
    (tracker : Option AckTracker)
    (packetId : UInt64)
    (channel : Channel)
    (data : List UInt8)
    (length : UInt16)
    (clock : Nat -> UInt64)
    (allocations : SendAllocations)
    (serializeError : KronosError) :
    let frames := messageFrames channel packetId data length true allocations
      serializeError
    let after := booksAfter congestion tracker packetId channel clock
      allocations frames
    BooksKept (booksFrom congestion tracker) after.1 (channel, packetId)
        frames after.2 ↔
      KeepsBooks congestion tracker length allocations := by
  intro frames after
  unfold KeepsBooks
  cases full : windowFull congestion with
  | true =>
      refine iff_of_true ?_ (.inl rfl)
      simp only [after, booksAfter, full, if_true]
      exact rfl
  | false =>
      simp only [Bool.false_eq_true, false_or]
      cases built : allocations.framesBuilt length with
      | false =>
          obtain ⟨result, failed, -⟩ := messageFrames_not_built built channel
            packetId data true serializeError
          have outcome : after = (booksSent congestion tracker packetId
              channel clock allocations [], false) := by
            simp only [after, frames, booksAfter, full, failed]
            rfl
          rw [outcome]
          simp only [Bool.false_eq_true, false_and, or_false, true_and]
          exact booksSent_nil_iff
      | true =>
          obtain ⟨sent, succeeded, count⟩ := messageFrames_built built channel
            packetId data true serializeError
          have outcome : after = (booksSent congestion tracker packetId
              channel clock allocations sent, true) := by
            simp only [after, frames, booksAfter, full, succeeded]
            rfl
          have sized : ∀ frame ∈ sent, 0 < frame.2 := by
            intro frame member
            exact (messageFrames_sizes succeeded member).1
          have some_frame : 0 < sent.length := by
            rw [count]
            exact frameCount_pos length
          rw [outcome]
          simp only [frames, succeeded, Bool.true_eq_false, false_and,
            false_or, true_and]
          rw [booksKept_sent_iff sized some_frame, count]

end Books

/-! ## The two functions -/

theorem ServerConnection.books_eq (conn : ServerConnection) :
    conn.books = booksFrom conn.congestion conn.ackTracker := rfl

theorem booksOf_eq (conn : ClientConnection) :
    booksOf conn = booksFrom conn.congestion conn.ackTracker := rfl

theorem ensureReliable_eq
    (conn : ClientConnection)
    (allocations : SendAllocations) :
    ensureReliable conn allocations =
      { conn with
        ackTracker := orCreated conn.ackTracker (krsAckTrackerCreate 1000 5)
          allocations.tracker
        congestion := orCreated conn.congestion krsCongestionCreate
          allocations.congestion } := by
  unfold ensureReliable orCreated
  cases conn.ackTracker <;> cases conn.congestion <;> rfl

theorem takeWindowSlot_of_full
    {conn : ClientConnection}
    (full : windowFull conn.congestion = true) :
    takeWindowSlot conn = none := by
  unfold takeWindowSlot
  cases read : conn.congestion with
  | none =>
      rw [read] at full
      cases full
  | some cc =>
      rw [read, windowFull, Bool.not_eq_true'] at full
      simp only [full, Bool.false_eq_true, if_false]

theorem takeWindowSlot_of_room
    {conn : ClientConnection}
    (room : windowFull conn.congestion = false) :
    takeWindowSlot conn =
      some { conn with
        congestion := conn.congestion.map krsCongestionOnSend } := by
  unfold takeWindowSlot
  cases read : conn.congestion with
  | none =>
      change some conn = some { conn with congestion := none }
      rw [← read]
  | some cc =>
      rw [read, windowFull, Bool.not_eq_false'] at room
      simp only [room, if_true, Option.map_some]

/-- A reliable send of the server, read off its connection's books. -/
theorem sendOn_books
    (conn : ClientConnection)
    (channel : Channel)
    (packetId : UInt64)
    (data : List UInt8)
    (length : UInt16)
    (clock : Nat -> UInt64)
    (allocations : SendAllocations) :
    let sent := sendOn conn channel packetId data length true clock
      allocations
    let after := booksAfter conn.congestion conn.ackTracker packetId channel
      clock allocations (messageFrames channel packetId data length true
        allocations .networkSocketError)
    booksOf sent.1 = after.1 ∧ sent.2.1.valid = after.2 := by
  have ready := ensureReliable_eq conn allocations
  have same := windowFull_orCreated conn.congestion allocations.congestion
  unfold sendOn booksAfter
  simp only [if_true]
  cases full : windowFull conn.congestion with
  | true =>
      have refused : takeWindowSlot (ensureReliable conn allocations) =
          none := by
        apply takeWindowSlot_of_full
        rw [ready]
        exact same.trans full
      rw [refused]
      refine ⟨?_, rfl⟩
      rw [booksOf_eq, ready]
      exact (booksFrom_controller _ _ _).trans (booksFrom_tracker _ _ _)
  | false =>
      have room : windowFull (ensureReliable conn allocations).congestion =
          false := by
        rw [ready]
        exact same.trans full
      rw [takeWindowSlot_of_room room, ready]
      cases built : messageFrames channel packetId data length true
          allocations .networkSocketError with
      | error result =>
          simp only [Bool.false_eq_true, if_false, booksSent_nil]
          exact ⟨booksFrom_tracker _ _ _, messageFrames_error built⟩
      | ok frames => exact ⟨rfl, rfl⟩

theorem ensureCongestion_eq (conn : ServerConnection) (created : Bool) :
    conn.ensureCongestion created =
      { conn with
        congestion := orCreated conn.congestion krsCongestionCreate
          created } := by
  unfold ServerConnection.ensureCongestion orCreated
  cases conn.congestion <;> rfl

theorem ensureTracker_eq (conn : ServerConnection) (created : Bool) :
    conn.ensureTracker created =
      { conn with
        ackTracker := orCreated conn.ackTracker (krsAckTrackerCreate 1000 5)
          created } := by
  unfold ServerConnection.ensureTracker orCreated
  cases conn.ackTracker <;> rfl

theorem takeSlot_of_full
    {conn : ServerConnection}
    (full : windowFull conn.congestion = true) :
    conn.takeSlot = none := by
  unfold ServerConnection.takeSlot
  cases read : conn.congestion with
  | none =>
      rw [read] at full
      cases full
  | some cc =>
      rw [read, windowFull, Bool.not_eq_true'] at full
      simp only [full, Bool.false_eq_true, if_false]

theorem takeSlot_of_room
    {conn : ServerConnection}
    (room : windowFull conn.congestion = false) :
    conn.takeSlot =
      some { conn with
        congestion := conn.congestion.map krsCongestionOnSend } := by
  unfold ServerConnection.takeSlot
  cases read : conn.congestion with
  | none =>
      change some conn = some { conn with congestion := none }
      rw [← read]
  | some cc =>
      rw [read, windowFull, Bool.not_eq_false'] at room
      simp only [room, if_true, Option.map_some]

/-- A reliable send of a connected client, read off its books. -/
theorem krsClientSend_books
    {conn : ServerConnection}
    (connected : conn.connected = true)
    (channel : Channel)
    (data : List UInt8)
    (length : UInt16)
    (clock : Nat -> UInt64)
    (allocations : SendAllocations) :
    let sent := krsClientSend conn channel data length true clock allocations
    let packetId := conn.nextPacketId channel
    let after := booksAfter conn.congestion conn.ackTracker packetId channel
      clock allocations (messageFrames channel packetId data length true
        allocations .bufferTooSmall)
    sent.1.books = after.1 ∧ sent.2.1.valid = after.2 := by
  have ready := ensureCongestion_eq (conn.advanceCounter channel)
    allocations.congestion
  have same := windowFull_orCreated conn.congestion allocations.congestion
  unfold krsClientSend booksAfter
  rw [connected]
  simp only [Bool.not_true, Bool.false_eq_true, if_false, if_true]
  cases full : windowFull conn.congestion with
  | true =>
      have refused : ((conn.advanceCounter channel).ensureCongestion
          allocations.congestion).takeSlot = none := by
        apply takeSlot_of_full
        rw [ready]
        exact same.trans full
      rw [refused]
      refine ⟨?_, rfl⟩
      rw [ServerConnection.books_eq, ready]
      exact booksFrom_controller _ _ _
  | false =>
      have room : windowFull ((conn.advanceCounter channel).ensureCongestion
          allocations.congestion).congestion = false := by
        rw [ready]
        exact same.trans full
      rw [takeSlot_of_room room, ready]
      unfold sendNumbered
      simp only [if_true, ensureTracker_eq]
      cases built : messageFrames channel (conn.nextPacketId channel) data
          length true allocations .bufferTooSmall with
      | error result =>
          simp only [Bool.false_eq_true, if_false, booksSent_nil]
          refine ⟨?_, messageFrames_error built⟩
          split
          case isTrue => rfl
          case isFalse => exact booksFrom_tracker _ _ _
      | ok frames => exact ⟨rfl, rfl⟩

theorem sendOn_refcount
    (conn : ClientConnection)
    (channel : Channel)
    (packetId : UInt64)
    (data : List UInt8)
    (length : UInt16)
    (requireAck : Bool)
    (clock : Nat -> UInt64)
    (allocations : SendAllocations) :
    (sendOn conn channel packetId data length requireAck clock
      allocations).1.refcount = conn.refcount := by
  obtain ⟨_, _, sent⟩ := sendOn_eq conn channel packetId data length
    requireAck clock allocations
  rw [sent]

/-- A connection that keeps a reference keeps its books when one is given
back. -/
theorem booksOf_releaseConnection
    {conn : ClientConnection}
    (kept : conn.refcount - 1 ≠ 0) :
    booksOf (releaseConnection conn) = booksOf conn := by
  unfold releaseConnection
  rw [if_pos kept]
  rfl

/-- The map has a connection under an id, on a port, and the connection has its
reference. -/
structure FindsAlive
    (spm : ServerPortManager)
    (connectionId : UInt32)
    (entry : ConnectionMapEntry)
    (target : ClientConnection)
    (desc : UDPSocketDescriptor) : Prop where
  found : krsConnectionMapGet spm.connectionMap connectionId = some entry
  read : spm.connections[entry.connection]? = some target
  port : spm.descriptorList[entry.descriptor]? = some desc
  alive : target.freed = false
  referenced : 1 ≤ target.refcount

/-- A reliable send of the server, read off the books of its target. -/
theorem krsServerSend_books
    {spm : ServerPortManager}
    {connectionId : UInt32}
    {entry : ConnectionMapEntry}
    {target : ClientConnection}
    {desc : UDPSocketDescriptor}
    (finds : FindsAlive spm connectionId entry target desc)
    (channel : Channel)
    (data : List UInt8)
    (length : UInt16)
    (clock : Nat -> UInt64)
    (allocations : SendAllocations) :
    let packetId := (nextPacketId channel allocations.counter
      (desc.channelStates channel)).1
    let books := booksAfter target.congestion target.ackTracker packetId
      channel clock allocations (messageFrames channel packetId data length
        true allocations .networkSocketError)
    ∃ after result effects conn,
      krsServerSend spm connectionId channel data length true clock
        allocations = some (after, result, effects) ∧
      after.connections[entry.connection]? = some conn ∧
      booksOf conn = books.1 ∧ result.valid = books.2 := by
  intro packetId books
  let acquired := { target with refcount := target.refcount + 1 }
  obtain ⟨same, valid⟩ := sendOn_books acquired channel packetId data length
    clock allocations
  have inside := (List.getElem?_eq_some_iff.mp finds.read).1
  have kept : (sendOn acquired channel packetId data length true clock
      allocations).1.refcount - 1 ≠ 0 := by
    have referenced := finds.referenced
    rw [sendOn_refcount]
    change target.refcount + 1 - 1 ≠ 0
    omega
  have notFreed : ¬ target.freed = true := by
    rw [finds.alive]
    exact Bool.false_ne_true
  unfold krsServerSend
  rw [finds.found]
  simp only [finds.read, finds.port]
  rw [if_neg notFreed]
  refine ⟨_, _, _, _, rfl, List.getElem?_set_self inside, ?_, valid⟩
  exact (booksOf_releaseConnection kept).trans same

/-- For every state of the client, and for every connection that the server
finds and that has its reference: a reliable send leaves the books alone when
it fails, and enters its message in them when it succeeds, exactly if the
window is full, or no frame is built and there is no controller, or the frames
are built, there are a controller and a tracker, and every entry is allocated.
A send without a connection changes nothing. -/
theorem reliable_send_books_iff
    (channel : Channel)
    (data : List UInt8)
    (length : UInt16)
    (clock : Nat -> UInt64)
    (allocations : SendAllocations) :
    (∀ conn : ServerConnection,
      let packetId := conn.nextPacketId channel
      let sent := krsClientSend conn channel data length true clock
        allocations
      BooksKept conn.books sent.1.books (channel, packetId)
          (messageFrames channel packetId data length true allocations
            .bufferTooSmall) sent.2.1.valid ↔
        conn.connected = false ∨
          KeepsBooks conn.congestion conn.ackTracker length allocations) ∧
    (∀ spm connectionId,
      krsConnectionMapGet spm.connectionMap connectionId = none ->
        krsServerSend spm connectionId channel data length true clock
            allocations =
          some (spm, .wMsg .invalidParameter "connection_id not found",
            [])) ∧
    (∀ spm connectionId entry target desc,
      FindsAlive spm connectionId entry target desc ->
        let packetId := (nextPacketId channel allocations.counter
          (desc.channelStates channel)).1
        ∃ after result effects conn,
          krsServerSend spm connectionId channel data length true clock
            allocations = some (after, result, effects) ∧
          after.connections[entry.connection]? = some conn ∧
          (BooksKept (booksOf target) (booksOf conn) (channel, packetId)
              (messageFrames channel packetId data length true allocations
                .networkSocketError) result.valid ↔
            KeepsBooks target.congestion target.ackTracker length
              allocations)) := by
  refine ⟨?_, ?_, ?_⟩
  · intro conn packetId sent
    cases connected : conn.connected with
    | false =>
        refine iff_of_true ?_ (.inl rfl)
        simp only [sent, krsClientSend, connected]
        rfl
    | true =>
        obtain ⟨same, valid⟩ := krsClientSend_books connected channel data
          length clock allocations
        have kept := booksKept_after_iff conn.congestion conn.ackTracker
          packetId channel data length clock allocations .bufferTooSmall
        simp only [Bool.true_eq_false, false_or]
        rw [same, valid]
        exact kept
  · intro spm connectionId missing
    unfold krsServerSend
    rw [missing]
  · intro spm connectionId entry target desc finds packetId
    obtain ⟨after, result, effects, conn, performed, read, same, valid⟩ :=
      krsServerSend_books finds channel data length clock allocations
    refine ⟨after, result, effects, conn, performed, read, ?_⟩
    rw [same, valid]
    exact booksKept_after_iff _ _ _ _ _ _ _ _ _

/-- A server to which a client has connected. -/
def connectedServer : ServerPortManager :=
  ((run serverStep (runStart [listeningPort])
    [connectFrom 4000 0]).map ServerRun.spm).getD (serverStart [])

/-- The connection of this client. -/
def connectedClient : ClientConnection :=
  { connectionId := 1
    remoteAddress := clientAddress 4000
    lastHeartbeatMs := 0 }

theorem connectedServer_findsAlive :
    ∃ desc, FindsAlive connectedServer 1 { descriptor := 0, connection := 0 }
      connectedClient desc := by
  have found : krsConnectionMapGet connectedServer.connectionMap 1 =
      some { descriptor := 0, connection := 0 } := by
    decide +kernel
  have read : connectedServer.connections[0]? = some connectedClient := by
    decide +kernel
  have port : connectedServer.descriptorList[0]?.isSome = true := by
    decide +kernel
  obtain ⟨desc, port⟩ := Option.isSome_iff_exists.mp port
  exact ⟨desc, found, read, port, rfl, by decide⟩

/-- With its memory, a send to the client that has connected keeps the books, and
without a frame builder it does not. -/
theorem connected_server_books :
    ∃ desc,
      FindsAlive connectedServer 1 { descriptor := 0, connection := 0 }
        connectedClient desc ∧
      (∃ after result effects conn,
        krsServerSend connectedServer 1 10 [7] 1 true (fun _ => 0) {} =
            some (after, result, effects) ∧
          after.connections[0]? = some conn ∧
          BooksKept (booksOf connectedClient) (booksOf conn)
            (10, (nextPacketId 10 true (desc.channelStates 10)).1)
            (messageFrames 10
              (nextPacketId 10 true (desc.channelStates 10)).1 [7] 1 true {}
              .networkSocketError) result.valid) ∧
      ∃ after result effects conn,
        krsServerSend connectedServer 1 10 [7] 1 true (fun _ => 0)
            { builder := false } = some (after, result, effects) ∧
          after.connections[0]? = some conn ∧
          ¬ BooksKept (booksOf connectedClient) (booksOf conn)
            (10, (nextPacketId 10 true (desc.channelStates 10)).1)
            (messageFrames 10
              (nextPacketId 10 true (desc.channelStates 10)).1 [7] 1 true
              { builder := false } .networkSocketError) result.valid := by
  obtain ⟨desc, finds⟩ := connectedServer_findsAlive
  obtain ⟨after, result, effects, conn, sent, read, kept⟩ :=
    (reliable_send_books_iff 10 [7] 1 (fun _ => 0) {}).2.2 connectedServer 1
      { descriptor := 0, connection := 0 } connectedClient desc finds
  obtain ⟨failed, failure, nothing, left, refused, readLeft, lost⟩ :=
    (reliable_send_books_iff 10 [7] 1 (fun _ => 0)
      { builder := false }).2.2 connectedServer 1
        { descriptor := 0, connection := 0 } connectedClient desc finds
  exact ⟨desc, finds,
    ⟨after, result, effects, conn, sent, read, kept.mpr (by decide)⟩,
    failed, failure, nothing, left, refused, readLeft,
    fun books => absurd (lost.mp books) (by decide)⟩

/-- The frame builder of a short message cannot be allocated: the send fails and
the slot stays taken. -/
theorem failed_send_keeps_slot :
    let conn : ServerConnection := { connectionId := 1 }
    let allocations : SendAllocations := { builder := false }
    let sent := krsClientSend conn 10 [7] 1 true (fun _ => 0) allocations
    sent.2.1.valid = false ∧ conn.inFlight = 0 ∧ sent.1.inFlight = 1 ∧
      ¬ BooksKept conn.books sent.1.books (10, conn.nextPacketId 10)
        (messageFrames 10 (conn.nextPacketId 10) [7] 1 true allocations
          .bufferTooSmall) sent.2.1.valid := by
  intro conn allocations sent
  have failed : sent.2.1.valid = false := by decide +kernel
  have before : conn.inFlight = 0 := rfl
  have after : sent.1.inFlight = 1 := by decide +kernel
  refine ⟨failed, before, after, ?_⟩
  rw [failed]
  intro kept
  have same := congrArg SendBooks.inFlight kept
  change sent.1.inFlight = conn.inFlight at same
  rw [after, before] at same
  cases same

end Kronos
