import Kronos.Fragment.Message
import Kronos.Server.Heap

/-!
# What a send does

The frames of a message have sizes between one byte and a datagram buffer, and
a send whose allocations succeed always has at least one of them.  A send
changes one connection and one packet counter.
-/

namespace Kronos

open Library

/-! ## The frames of a message -/

/-- No recorded size of a split is below a frame header or above the MTU. -/
theorem krsFragmentSplit_sizes
    {channel : Channel}
    {type : FrameType}
    {packetId : UInt64}
    {data : List UInt8}
    {dataLength mtu : Nat}
    {flags : UInt16}
    {allocations : SplitAllocations}
    (mtuSmall : mtu < 2 ^ 16)
    {size : Nat}
    (member : size ∈ (krsFragmentSplit channel type packetId data dataLength
      mtu flags allocations).fragmentSizes) :
    kronosFrameHeaderLength ≤ size ∧ size ≤ mtu := by
  have outcome := krsFragmentSplit_outcome channel type packetId data
    dataLength mtu flags allocations
  generalize krsFragmentSplit channel type packetId data dataLength mtu flags
    allocations = result at outcome member
  cases outcome with
  | failed => cases member
  | plain mtuLarge fits =>
      rw [List.mem_singleton.mp member, Nat.mod_eq_of_lt (by omega)]
      omega
  | cut mtuLarge long =>
      obtain ⟨chunk, inSizes, rfl⟩ := List.mem_map.mp member
      have bound := splitSizes_le _ _ inSizes
      rw [Nat.mod_eq_of_lt (by omega)]
      omega

theorem krsFrameBuilderSerialize_size_le
    (builder : FrameBuilder)
    (out : List UInt8) :
    (krsFrameBuilderSerialize builder out).1 ≤ out.length := by
  unfold krsFrameBuilderSerialize
  split
  case isTrue => exact Nat.zero_le _
  case isFalse fits => exact Nat.not_lt.mp fits

/-- Every frame of a message has a size that fits a datagram buffer. -/
theorem messageFrames_sizes
    {channel : Channel}
    {packetId : UInt64}
    {data : List UInt8}
    {length : UInt16}
    {requireAck : Bool}
    {allocations : SendAllocations}
    {serializeError : KronosError}
    {frames : List (List UInt8 × Nat)}
    (built : messageFrames channel packetId data length requireAck allocations
      serializeError = .ok frames)
    {frame : List UInt8 × Nat}
    (member : frame ∈ frames) :
    0 < frame.2 ∧ frame.2 ≤ kronosBufferSize := by
  unfold messageFrames at built
  have bufferLength : (List.replicate kronosBufferSize (0 : UInt8)).length =
      kronosBufferSize := List.length_replicate
  generalize List.replicate kronosBufferSize (0 : UInt8) = buffer at *
  split at built
  case isTrue =>
    split at built
    case isTrue => cases built
    case isFalse =>
      dsimp only at built
      generalize (if requireAck = true then _ else _ : FrameBuilder) =
        builder at built
      split at built
      case isTrue => cases built
      case isFalse nonzero =>
        cases built
        rw [List.mem_singleton] at member
        subst member
        refine ⟨Nat.pos_of_ne_zero nonzero, ?_⟩
        rw [← bufferLength]
        exact krsFrameBuilderSerialize_size_le _ buffer
  case isFalse =>
    simp only at built
    split at built
    case isTrue => cases built
    case isFalse =>
      cases built
      have size := krsFragmentSplit_sizes (by decide)
        (List.of_mem_zip member).2
      simp only [krsDefaultMtu, kronosFrameHeaderLength,
        kronosBufferSize] at size ⊢
      omega

/-- All allocations of a send succeed. -/
def SendAllocations.Succeed (allocations : SendAllocations) : Prop :=
  allocations = {}

instance (allocations : SendAllocations) : Decidable allocations.Succeed :=
  inferInstanceAs (Decidable (allocations = {}))

/-- The size of a whole frame with at most `ACK_REQUIRED`. -/
theorem serializedSize_wholeFrame
    (channel : Channel)
    (packetId : UInt64)
    (data : List UInt8)
    (length : UInt16)
    (requireAck : Bool)
    (small : length.toNat ≤ krsMaxPayloadPerFragment) :
    let builder := ((krsFrameBuilderCreate channel .basicMessage).setPacketId
      packetId).setData (some data) length
    (if requireAck then builder.setFlag .ackRequired
      else builder).serializedSize =
      kronosFrameHeaderLength + length.toNat := by
  have plain : krsFrameMetadataBlockLength 0 = 0 := by decide
  have flagged : krsFrameMetadataBlockLength
      (0 ||| MetadataFlag.ackRequired.mask) = 0 := by decide
  have bound : (14 + 0 + length.toNat) % 2 ^ 16 = 14 + length.toNat := by
    simp only [krsMaxPayloadPerFragment, krsDefaultMtu,
      kronosFrameHeaderLength] at small
    omega
  intro builder
  cases requireAck with
  | true =>
      change (14 + krsFrameMetadataBlockLength
        (0 ||| MetadataFlag.ackRequired.mask) + length.toNat) % 2 ^ 16 = _
      rw [flagged]
      exact bound
  | false =>
      change (14 + krsFrameMetadataBlockLength 0 + length.toNat) % 2 ^ 16 = _
      rw [plain]
      exact bound

/-- The number of frames of a message. -/
def frameCount (length : UInt16) : Nat :=
  if length.toNat ≤ krsDefaultMtu - kronosFrameHeaderLength then 1
  else fragmentCount length.toNat krsDefaultMtu

/-- The frames of a message have their memory. -/
def SendAllocations.framesBuilt
    (allocations : SendAllocations)
    (length : UInt16) : Bool :=
  if length.toNat ≤ krsMaxPayloadPerFragment then allocations.builder
  else allocations.split.arrays && allocations.split.frames

theorem framesBuilt_of_succeed (length : UInt16) :
    SendAllocations.framesBuilt {} length = true := by
  unfold SendAllocations.framesBuilt
  split <;> rfl

theorem frameCount_pos (length : UInt16) : 0 < frameCount length := by
  have lengthBound := length.toNat_lt
  unfold frameCount
  split
  case isTrue => exact Nat.one_pos
  case isFalse long =>
      simp only [fragmentCount, krsDefaultMtu, kronosFrameHeaderLength]
        at long ⊢
      omega

theorem messageFrames_of_builder
    {allocations : SendAllocations}
    {length : UInt16}
    (small : length.toNat ≤ krsMaxPayloadPerFragment)
    (built : allocations.builder = true)
    (channel : Channel)
    (packetId : UInt64)
    (data : List UInt8)
    (requireAck : Bool)
    (serializeError : KronosError) :
    ∃ frame, messageFrames channel packetId data length requireAck
        allocations serializeError = .ok [frame] := by
  have size := serializedSize_wholeFrame channel packetId data length
    requireAck small
  unfold messageFrames
  have bufferLength : (List.replicate kronosBufferSize (0 : UInt8)).length =
      kronosBufferSize := List.length_replicate
  generalize List.replicate kronosBufferSize (0 : UInt8) = buffer at *
  rw [if_pos small, built]
  simp only [kronosFrameHeaderLength, krsMaxPayloadPerFragment,
    krsDefaultMtu, kronosBufferSize] at size small bufferLength
  have fits : ¬ 1500 < 14 + length.toNat := by omega
  have nonempty : ¬ 14 + length.toNat = 0 := by omega
  simp only [Bool.not_true, Bool.false_eq_true, if_false,
    krsFrameBuilderSerialize, bufferLength, size]
  rw [if_neg fits]
  exact ⟨_, if_neg nonempty⟩

/-- The frames that have their memory are built, all of them. -/
theorem messageFrames_built
    {allocations : SendAllocations}
    {length : UInt16}
    (built : allocations.framesBuilt length = true)
    (channel : Channel)
    (packetId : UInt64)
    (data : List UInt8)
    (requireAck : Bool)
    (serializeError : KronosError) :
    ∃ frames, messageFrames channel packetId data length requireAck
        allocations serializeError = .ok frames ∧
      frames.length = frameCount length := by
  have lengthBound := length.toNat_lt
  unfold SendAllocations.framesBuilt at built
  unfold frameCount
  by_cases small : length.toNat ≤ krsMaxPayloadPerFragment
  · rw [if_pos small] at built
    obtain ⟨frame, single⟩ := messageFrames_of_builder small built channel
      packetId data requireAck serializeError
    refine ⟨_, single, ?_⟩
    rw [if_pos (small.trans (by decide))]
    rfl
  · rw [if_neg small, Bool.and_eq_true] at built
    obtain ⟨arrays, frames⟩ := built
    unfold messageFrames
    rw [if_neg small]
    generalize splitResult : krsFragmentSplit channel .basicMessage packetId
      data length.toNat krsDefaultMtu (ackFlags requireAck)
      allocations.split = result
    by_cases plain : length.toNat ≤ krsDefaultMtu - kronosFrameHeaderLength
    · rw [krsFragmentSplit_plain _ _ _ _ _ (by decide) plain arrays frames]
        at splitResult
      subst splitResult
      rw [if_pos plain]
      exact ⟨_, rfl, rfl⟩
    · rw [krsFragmentSplit_fragments _ _ _ _ _ (by decide) plain (by
        simp only [fragmentCount, krsDefaultMtu, kronosFrameHeaderLength]
        omega) arrays frames] at splitResult
      subst splitResult
      rw [if_neg plain]
      refine ⟨_, rfl, ?_⟩
      simp only [List.length_zip, List.length_mapIdx, List.length_map,
        length_splitChunks, length_splitSizes, Nat.min_self]

/-- Without their memory, the frames are not built. -/
theorem messageFrames_not_built
    {allocations : SendAllocations}
    {length : UInt16}
    (failed : allocations.framesBuilt length = false)
    (channel : Channel)
    (packetId : UInt64)
    (data : List UInt8)
    (requireAck : Bool)
    (serializeError : KronosError) :
    ∃ result, messageFrames channel packetId data length requireAck
        allocations serializeError = .error result ∧
      result.valid = false := by
  have lengthBound := length.toNat_lt
  unfold SendAllocations.framesBuilt at failed
  unfold messageFrames
  by_cases small : length.toNat ≤ krsMaxPayloadPerFragment
  · rw [if_pos small] at failed ⊢
    rw [failed]
    exact ⟨_, rfl, rfl⟩
  · rw [if_neg small] at failed ⊢
    have outcome := krsFragmentSplit_outcome channel .basicMessage packetId
      data length.toNat krsDefaultMtu (ackFlags requireAck) allocations.split
    have valid := krsFragmentSplit_valid channel .basicMessage packetId
      data length.toNat krsDefaultMtu (ackFlags requireAck) allocations.split
    generalize krsFragmentSplit channel .basicMessage packetId data
      length.toNat krsDefaultMtu (ackFlags requireAck) allocations.split =
        result at outcome valid
    cases outcome with
    | failed base error =>
        rw [if_pos error]
        exact ⟨base, rfl, valid.trans (decide_eq_false error)⟩
    | plain mtuLarge fits arrays frames =>
        rw [arrays, frames] at failed
        cases failed
    | cut mtuLarge long arrays frames =>
        rw [arrays, frames] at failed
        cases failed

theorem messageFrames_error
    {channel : Channel}
    {packetId : UInt64}
    {data : List UInt8}
    {length : UInt16}
    {requireAck : Bool}
    {allocations : SendAllocations}
    {serializeError : KronosError}
    {result : KronosResult}
    (failed : messageFrames channel packetId data length requireAck
      allocations serializeError = .error result) :
    result.valid = false := by
  cases built : allocations.framesBuilt length with
  | true =>
      obtain ⟨frames, succeeded, -⟩ := messageFrames_built built channel
        packetId data requireAck serializeError
      rw [failed] at succeeded
      cases succeeded
  | false =>
      obtain ⟨other, same, invalid⟩ := messageFrames_not_built built channel
        packetId data requireAck serializeError
      rw [failed] at same
      cases same
      exact invalid

/-- A send whose allocations succeed has frames to send. -/
theorem messageFrames_of_succeed
    {allocations : SendAllocations}
    (succeed : allocations.Succeed)
    (channel : Channel)
    (packetId : UInt64)
    (data : List UInt8)
    (length : UInt16)
    (requireAck : Bool)
    (serializeError : KronosError) :
    ∃ frames, messageFrames channel packetId data length requireAck
        allocations serializeError = .ok frames ∧ frames ≠ [] := by
  subst succeed
  obtain ⟨frames, same, count⟩ := messageFrames_built
    (framesBuilt_of_succeed length) channel packetId data requireAck
    serializeError
  refine ⟨frames, same, List.ne_nil_of_length_pos ?_⟩
  rw [count]
  exact frameCount_pos length

/-! ## Registering frames -/

/-- The entries a send registers. -/
def registeredEntries
    (registered : Nat)
    (packetId : UInt64)
    (channel : Channel)
    (clock : Nat -> UInt64)
    (allocated : Nat -> Bool) :
    Nat -> List (List UInt8 × Nat) -> List AckEntry
  | _, [] => []
  | index, frame :: frames =>
      if allocated index then
        newEntry registered packetId channel (some frame.1) frame.2
            (clock index) ::
          registeredEntries (registered + 1) packetId channel clock allocated
            (index + 1) frames
      else
        registeredEntries registered packetId channel clock allocated
          (index + 1) frames

theorem expectFrames_eq
    (tracker : AckTracker)
    (packetId : UInt64)
    (channel : Channel)
    (clock : Nat -> UInt64)
    (allocated : Nat -> Bool)
    (index : Nat)
    (frames : List (List UInt8 × Nat)) :
    let new := registeredEntries tracker.registered packetId channel clock
      allocated index frames
    expectFrames tracker packetId channel clock allocated index frames =
      { tracker with
        pending := tracker.pending ++ new
        registered := tracker.registered + new.length } := by
  induction frames generalizing tracker index with
  | nil => simp [expectFrames, registeredEntries]
  | cons frame frames inductionHypothesis =>
      cases granted : allocated index with
      | true =>
          simp only [expectFrames, krsAckTrackerExpect, granted,
            Bool.not_true, Bool.false_eq_true, if_false,
            inductionHypothesis, registeredEntries, if_true,
            List.append_assoc, List.singleton_append, List.length_cons]
          congr 1
          omega
      | false =>
          simp only [expectFrames, krsAckTrackerExpect, granted,
            Bool.not_false, if_true, inductionHypothesis, registeredEntries,
            Bool.false_eq_true, if_false]

/-- The registered entries are new ones of the packet, under consecutive
handles. -/
theorem mem_registeredEntries
    {registered : Nat}
    {packetId : UInt64}
    {channel : Channel}
    {clock : Nat -> UInt64}
    {allocated : Nat -> Bool}
    {index : Nat}
    {frames : List (List UInt8 × Nat)}
    {entry : AckEntry}
    (member : entry ∈ registeredEntries registered packetId channel clock
      allocated index frames) :
    ∃ handle frame now, frame ∈ frames ∧ registered ≤ handle ∧
      entry = newEntry handle packetId channel (some frame.1) frame.2 now := by
  induction frames generalizing registered index with
  | nil => cases member
  | cons frame frames inductionHypothesis =>
      rw [registeredEntries] at member
      split at member
      case isTrue =>
        rcases List.mem_cons.mp member with rfl | later
        · exact ⟨registered, frame, clock index, by simp, Nat.le_refl _, rfl⟩
        · obtain ⟨handle, current, now, inFrames, above, rfl⟩ :=
            inductionHypothesis later
          exact ⟨handle, current, now, by simp [inFrames], by omega, rfl⟩
      case isFalse =>
        obtain ⟨handle, current, now, inFrames, above, rfl⟩ :=
          inductionHypothesis member
        exact ⟨handle, current, now, by simp [inFrames], above, rfl⟩

/-- Handles of registered entries count up from the tracker's own count. -/
theorem registeredEntries_handles
    (registered : Nat)
    (packetId : UInt64)
    (channel : Channel)
    (clock : Nat -> UInt64)
    (allocated : Nat -> Bool)
    (index : Nat)
    (frames : List (List UInt8 × Nat)) :
    let new := registeredEntries registered packetId channel clock allocated
      index frames
    new.map AckEntry.handle = List.range' registered new.length := by
  induction frames generalizing registered index with
  | nil => rfl
  | cons frame frames inductionHypothesis =>
      simp only [registeredEntries]
      split
      case isTrue =>
        rw [List.map_cons, List.length_cons, List.range'_succ]
        congr 1
        exact inductionHypothesis (registered + 1) (index + 1)
      case isFalse => exact inductionHypothesis registered (index + 1)

theorem length_registeredEntries
    {allocated : Nat -> Bool}
    (granted : ∀ index, allocated index = true)
    (registered : Nat)
    (packetId : UInt64)
    (channel : Channel)
    (clock : Nat -> UInt64)
    (index : Nat)
    (frames : List (List UInt8 × Nat)) :
    (registeredEntries registered packetId channel clock allocated index
      frames).length = frames.length := by
  induction frames generalizing registered index with
  | nil => rfl
  | cons frame frames inductionHypothesis =>
      rw [registeredEntries, granted index, if_pos rfl, List.length_cons,
        List.length_cons, inductionHypothesis]

/-- The tracker a send works with: the connection's own, or a new one. -/
def ReadyTracker (conn : ClientConnection) (tracker : AckTracker) : Prop :=
  conn.ackTracker = some tracker ∨
    conn.ackTracker = none ∧ tracker = krsAckTrackerCreate 1000 5

/-- A slot of the window is taken from the controller only. -/
theorem takeWindowSlot_eq
    {conn taken : ClientConnection}
    (granted : takeWindowSlot conn = some taken) :
    ∃ congestion, taken = { conn with congestion := congestion } := by
  unfold takeWindowSlot at granted
  split at granted
  case h_1 =>
    cases granted
    exact ⟨conn.congestion, rfl⟩
  case h_2 =>
    split at granted
    case isTrue =>
      cases granted
      exact ⟨_, rfl⟩
    case isFalse => cases granted

/-- A send changes nothing but the controller and the tracker of its
connection. -/
theorem sendOn_eq
    (conn : ClientConnection)
    (channel : Channel)
    (packetId : UInt64)
    (data : List UInt8)
    (length : UInt16)
    (requireAck : Bool)
    (clock : Nat -> UInt64)
    (allocations : SendAllocations) :
    ∃ congestion ackTracker,
      (sendOn conn channel packetId data length requireAck clock
        allocations).1 =
      { conn with congestion := congestion, ackTracker := ackTracker } := by
  cases requireAck with
  | false =>
      unfold sendOn
      simp only [Bool.false_eq_true, if_false]
      split <;> exact ⟨conn.congestion, conn.ackTracker, rfl⟩
  | true =>
      unfold sendOn
      simp only [if_true]
      cases slot : takeWindowSlot (ensureReliable conn allocations) with
      | none => exact ⟨_, _, rfl⟩
      | some taken =>
          obtain ⟨congestion, rfl⟩ := takeWindowSlot_eq slot
          simp only
          split <;> exact ⟨_, _, rfl⟩

/-- What a send does to the tracker of its connection: nothing, or it creates
one, or it registers the frames of the message. -/
theorem sendOn_ackTracker
    (conn : ClientConnection)
    (channel : Channel)
    (packetId : UInt64)
    (data : List UInt8)
    (length : UInt16)
    (requireAck : Bool)
    (clock : Nat -> UInt64)
    (allocations : SendAllocations) :
    let after := (sendOn conn channel packetId data length requireAck clock
      allocations).1
    after.freed = conn.freed ∧
      (after.ackTracker = conn.ackTracker ∨
        ∃ tracker, ReadyTracker conn tracker ∧
          (after.ackTracker = some tracker ∨
            ∃ frames, messageFrames channel packetId data length requireAck
                allocations .networkSocketError = .ok frames ∧
              after.ackTracker = some (expectFrames tracker packetId channel
                clock allocations.entry 0 frames))) := by
  cases requireAck with
  | false =>
      unfold sendOn
      simp only [Bool.false_eq_true, if_false]
      split <;> exact ⟨rfl, Or.inl rfl⟩
  | true =>
      have ready : (ensureReliable conn allocations).freed = conn.freed ∧
          ((ensureReliable conn allocations).ackTracker = conn.ackTracker ∨
            ∃ tracker, ReadyTracker conn tracker ∧
              (ensureReliable conn allocations).ackTracker =
                some tracker) := by
        refine ⟨rfl, ?_⟩
        unfold ensureReliable ReadyTracker
        cases read : conn.ackTracker with
        | some tracker => exact Or.inl rfl
        | none =>
            cases allocations.tracker with
            | false => exact Or.inl rfl
            | true => exact Or.inr ⟨_, Or.inr ⟨rfl, rfl⟩, rfl⟩
      unfold sendOn
      simp only [if_true]
      generalize ensureReliable conn allocations = admitted at *
      obtain ⟨alive, kept⟩ := ready
      have taken : ∀ next, takeWindowSlot admitted = some next ->
          next.freed = admitted.freed ∧
            next.ackTracker = admitted.ackTracker := by
        intro next slot
        obtain ⟨_, rfl⟩ := takeWindowSlot_eq slot
        exact ⟨rfl, rfl⟩
      have readyTracker : ∀ tracker, admitted.ackTracker = some tracker ->
          ReadyTracker conn tracker := by
        intro tracker read
        rcases kept with same | ⟨other, ready, otherRead⟩
        · exact Or.inl (same ▸ read)
        · rw [read] at otherRead
          cases otherRead
          exact ready
      cases slot : takeWindowSlot admitted with
      | none =>
          refine ⟨alive, ?_⟩
          rcases kept with same | ⟨tracker, ready, read⟩
          · exact Or.inl same
          · exact Or.inr ⟨tracker, ready, Or.inl read⟩
      | some next =>
          obtain ⟨sameFreed, sameTracker⟩ := taken next slot
          simp only
          split
          case h_1 =>
            refine ⟨sameFreed.trans alive, ?_⟩
            rcases kept with same | ⟨tracker, ready, read⟩
            · exact Or.inl (sameTracker.trans same)
            · exact Or.inr ⟨tracker, ready, Or.inl (sameTracker.trans read)⟩
          case h_2 frames built =>
            refine ⟨sameFreed.trans alive, ?_⟩
            simp only [expectOn]
            cases read : next.ackTracker with
            | none =>
                rw [sameTracker] at read
                rcases kept with same | ⟨tracker, -, otherRead⟩
                · exact Or.inl (by rw [← same, read]; rfl)
                · rw [read] at otherRead
                  cases otherRead
            | some tracker =>
                rw [sameTracker] at read
                exact Or.inr ⟨tracker, readyTracker tracker read, Or.inr
                  ⟨frames, built, rfl⟩⟩

/-! ## The effect of a send -/

/-- A send works on one connection, which was not freed, and on its packet
counter. -/
structure SendEffect
    (before after : ServerPortManager)
    (connectionId : UInt32)
    (channel : Channel)
    (data : List UInt8)
    (length : UInt16)
    (requireAck : Bool)
    (clock : Nat -> UInt64)
    (allocations : SendAllocations) : Prop where
  map : after.connectionMap = before.connectionMap
  heap : after.connections = before.connections ∨
    ∃ entry desc target,
      krsConnectionMapGet before.connectionMap connectionId = some entry ∧
      before.descriptorList[entry.descriptor]? = some desc ∧
      before.connections[entry.connection]? = some target ∧
      target.freed = false ∧
      after.connections = before.connections.set entry.connection
        (releaseConnection (sendOn
          { target with refcount := target.refcount + 1 } channel
          (nextPacketId channel allocations.counter
            (desc.channelStates channel)).1
          data length requireAck clock allocations).1)

theorem krsServerSend_effect
    {spm next : ServerPortManager}
    {connectionId : UInt32}
    {channel : Channel}
    {data : List UInt8}
    {length : UInt16}
    {requireAck : Bool}
    {clock : Nat -> UInt64}
    {allocations : SendAllocations}
    {result : KronosResult}
    {effects : List ServerEffect}
    (sent : krsServerSend spm connectionId channel data length requireAck
      clock allocations = some (next, result, effects)) :
    SendEffect spm next connectionId channel data length requireAck clock
        allocations ∧ Quiet effects := by
  unfold krsServerSend at sent
  simp only at sent
  split at sent
  case h_1 =>
    cases sent
    exact ⟨⟨rfl, Or.inl rfl⟩, Quiet.nil⟩
  case h_2 entry found =>
    split at sent
    case h_1 target desc targetRead descRead =>
      split at sent
      case isTrue => cases sent
      case isFalse alive =>
        cases sent
        refine ⟨⟨rfl, Or.inr ⟨entry, desc, target, found, descRead,
          targetRead, Bool.eq_false_of_not_eq_true alive, rfl⟩⟩, ?_⟩
        intro effect member
        obtain ⟨frame, -, inFrame⟩ := List.mem_flatMap.mp member
        exact krsNetSendFrame_quiet _ _ _ effect inFrame
    case h_2 => cases sent

end Kronos
