import Kronos.Fragment.Reassembler

/-!
# What a session stores

A session is read here as a partial table of pieces: `piece index` is the
payload stored for a fragment, if any.  `storePiece` adds one entry to the
table and `completeSession` concatenates a full table in index order.  The
arithmetic of slots, sizes and offsets stays in this module.
-/

namespace Kronos

open Library

/-- The array sizes of a session and its piece counter. -/
structure SessionShape (session : FragmentSession) : Prop where
  pieceSize : session.maxPieceSize = krsMaxPayloadPerFragment
  bufferLength :
    session.buffer.length = session.total * krsMaxPayloadPerFragment
  sizesLength : session.pieceSizes.length = session.total
  flagsLength : session.pieceReceived.length = session.total
  sizesBounded :
    ∀ size ∈ session.pieceSizes, size ≤ krsMaxPayloadPerFragment
  receivedCount : session.received = session.pieceReceived.count true

/-- A session in the reassembler: well-shaped, and still missing a piece. -/
structure OpenSession (session : FragmentSession) : Prop
    extends SessionShape session where
  incomplete : session.received < session.total

/-- The payload stored for a fragment index. -/
def FragmentSession.piece (session : FragmentSession) (index : Nat) :
    Option (List UInt8) :=
  if session.pieceReceived[index]? = some true then
    some ((session.buffer.drop (index * session.maxPieceSize)).take
      (session.pieceSizes.getD index 0))
  else none

theorem FragmentSession.piece_of_missing
    {session : FragmentSession}
    {index : Nat}
    (missing : session.pieceReceived[index]? ≠ some true) :
    session.piece index = none := by
  rw [piece, if_neg missing]

theorem newSession_shape (packetId : UInt64) (total : Nat) (now : UInt64) :
    SessionShape (newSession packetId total now) where
  pieceSize := rfl
  bufferLength := by simp [newSession]
  sizesLength := by simp [newSession]
  flagsLength := by simp [newSession]
  sizesBounded := by
    intro size present
    simp only [newSession, List.mem_replicate] at present
    omega
  receivedCount := by simp [newSession, List.count_replicate]

@[simp] theorem newSession_piece
    (packetId : UInt64)
    (total : Nat)
    (now : UInt64)
    (index : Nat) :
    (newSession packetId total now).piece index = none := by
  apply FragmentSession.piece_of_missing
  intro received
  have member := List.mem_of_getElem? received
  simp [newSession] at member

/-! ## Storing a piece -/

/-- The effect of storing `payload` as piece `index` of `session`. -/
structure StoredPiece
    (session : FragmentSession)
    (index : Nat)
    (payload : List UInt8)
    (stored : FragmentSession) : Prop where
  shape : SessionShape stored
  packetId : stored.packetId = session.packetId
  total : stored.total = session.total
  received : stored.received = session.received + 1
  ackRequired : stored.ackRequired = session.ackRequired
  createdMs : stored.createdMs = session.createdMs
  pieceReceived :
    stored.pieceReceived = session.pieceReceived.set index true
  pieceSelf : stored.piece index = some payload
  pieceOther : ∀ other, other ≠ index -> stored.piece other =
    session.piece other

/-- Distinct slots do not overlap when sizes respect the slot width. -/
theorem slots_disjoint
    {width left right size : Nat}
    (different : left ≠ right)
    (sizeBound : size ≤ width) :
    left * width + size ≤ right * width ∨
      (right + 1) * width ≤ left * width := by
  rcases Nat.lt_or_gt_of_ne different with below | above
  · left
    calc
      left * width + size ≤ left * width + width := by omega
      _ = (left + 1) * width := by rw [Nat.add_mul, Nat.one_mul]
      _ ≤ right * width := Nat.mul_le_mul_right _ below
  · right
    exact Nat.mul_le_mul_right _ above

theorem FragmentSession.size_le
    {session : FragmentSession}
    (shape : SessionShape session)
    (index : Nat) :
    session.pieceSizes.getD index 0 ≤ krsMaxPayloadPerFragment := by
  rw [List.getD_eq_getElem?_getD]
  cases found : session.pieceSizes[index]? with
  | none => simp
  | some size => exact shape.sizesBounded size (List.mem_of_getElem? found)

/-- Setting a cleared flag raises the number of set flags by one. -/
theorem count_set_true
    {flags : List Bool}
    {index : Nat}
    (cleared : flags[index]? = some false) :
    (flags.set index true).count true = flags.count true + 1 := by
  obtain ⟨inside, value⟩ := List.getElem?_eq_some_iff.mp cleared
  rw [List.count_set inside, value]
  simp

/-- A fragment that is inside its session and new to it is stored, and nothing
else of the session changes. -/
theorem storePiece_spec
    {session : FragmentSession}
    {index : Nat}
    {payload : List UInt8}
    (shape : SessionShape session)
    (fits : payload.length ≤ krsMaxPayloadPerFragment)
    (missing : session.pieceReceived[index]? = some false) :
    ∃ stored, storePiece session index payload = some stored ∧
      StoredPiece session index payload stored := by
  obtain ⟨flagInside, -⟩ := List.getElem?_eq_some_iff.mp missing
  have inside : index < session.total := by
    rw [← shape.flagsLength]
    exact flagInside
  have sizeInside : index < session.pieceSizes.length := by
    rw [shape.sizesLength]
    exact inside
  have slotInside : (index + 1) * krsMaxPayloadPerFragment ≤
      session.buffer.length := by
    rw [shape.bufferLength]
    exact Nat.mul_le_mul_right _ inside
  rw [Nat.add_mul, Nat.one_mul] at slotInside
  have copied : ∃ buffer,
      (if payload.length > 0 then
          writeAt session.buffer (index * session.maxPieceSize) payload
        else some session.buffer) = some buffer ∧
      writeAt session.buffer (index * session.maxPieceSize) payload =
        some buffer := by
    rw [shape.pieceSize]
    split
    case isTrue => exact ⟨_, writeAt_eq_some (by omega), writeAt_eq_some
        (by omega)⟩
    case isFalse empty =>
      have nil : payload = [] := List.eq_nil_of_length_eq_zero (by omega)
      refine ⟨session.buffer, rfl, ?_⟩
      rw [writeAt_eq_some (by omega), nil]
      simp
  obtain ⟨buffer, chosen, written⟩ := copied
  refine ⟨_, by
    rw [storePiece, chosen, Option.bind_some,
      writeAt_singleton sizeInside, Option.bind_some,
      writeAt_singleton flagInside]
    rfl, ?_⟩
  refine
    { shape :=
        { pieceSize := shape.pieceSize
          bufferLength := ?_
          sizesLength := ?_
          flagsLength := ?_
          sizesBounded := ?_
          receivedCount := ?_ }
      packetId := rfl
      total := rfl
      received := rfl
      ackRequired := rfl
      createdMs := rfl
      pieceReceived := rfl
      pieceSelf := ?_
      pieceOther := ?_ }
  · exact (length_of_writeAt written).trans shape.bufferLength
  · exact List.length_set.trans shape.sizesLength
  · exact List.length_set.trans shape.flagsLength
  · intro size present
    rcases List.mem_or_eq_of_mem_set present with old | new
    · exact shape.sizesBounded size old
    · omega
  · exact (congrArg (· + 1) shape.receivedCount).trans
      (count_set_true missing).symm
  · simp only [FragmentSession.piece, List.getElem?_set_self flagInside,
      if_true, List.getD_eq_getElem?_getD,
      List.getElem?_set_self sizeInside, Option.getD_some]
    rw [block_of_writeAt written]
  · intro other different
    have apart := slots_disjoint different
      (FragmentSession.size_le shape other)
    simp only [FragmentSession.piece, List.getElem?_set_ne different.symm,
      List.getD_eq_getElem?_getD] at apart ⊢
    split
    case isFalse => rfl
    case isTrue =>
      rw [shape.pieceSize] at written ⊢
      rw [block_of_writeAt_disjoint written]
      rcases apart with before | behind
      · exact Or.inl before
      · right
        rw [Nat.add_mul, Nat.one_mul] at behind
        omega

/-! ## Completing a session -/

/-- The blocks that consecutive slots hold, each cut to its size. -/
def slotPieces (width : Nat) :
    List Nat -> Nat -> List UInt8 -> List (List UInt8)
  | [], _, _ => []
  | size :: sizes, slot, buffer =>
      (buffer.drop (slot * width)).take size ::
        slotPieces width sizes (slot + 1) buffer

/-- Slots depend only on the memory from the first of them on. -/
theorem slotPieces_congr
    {width slot : Nat}
    {left right : List UInt8}
    (sizes : List Nat)
    (agree : left.drop (slot * width) = right.drop (slot * width)) :
    slotPieces width sizes slot left = slotPieces width sizes slot right := by
  induction sizes generalizing slot with
  | nil => rfl
  | cons size sizes inductionHypothesis =>
      have agreeNext : left.drop ((slot + 1) * width) =
          right.drop ((slot + 1) * width) := by
        rw [Nat.add_mul, Nat.one_mul, ← List.drop_drop, ← List.drop_drop,
          agree]
      rw [slotPieces, slotPieces, agree, inductionHypothesis agreeNext]

/-- One round of the compaction loop: the piece of `slot` now stands at
`offset`, and later slots are untouched. -/
theorem compact_move
    {width slot offset size : Nat}
    {buffer : List UInt8}
    (down : offset ≤ slot * width)
    (narrow : size ≤ width)
    (inside : (slot + 1) * width ≤ buffer.length) :
    ∃ moved,
      (if size > 0 ∧ offset ≠ slot * width then
          (readAt buffer (slot * width) size).bind fun piece =>
            writeAt buffer offset piece
        else some buffer) = some moved ∧
      moved.length = buffer.length ∧
      moved.take (offset + size) =
        buffer.take offset ++ (buffer.drop (slot * width)).take size ∧
      moved.drop ((slot + 1) * width) = buffer.drop ((slot + 1) * width) := by
  rw [Nat.add_mul, Nat.one_mul] at inside ⊢
  split
  case isTrue moves =>
    have pieceLength : ((buffer.drop (slot * width)).take size).length =
        size := by
      rw [List.length_take, List.length_drop]
      omega
    have fits : offset + ((buffer.drop (slot * width)).take size).length ≤
        buffer.length := by omega
    obtain ⟨moved, written⟩ : ∃ moved, writeAt buffer offset
        ((buffer.drop (slot * width)).take size) = some moved :=
      ⟨_, writeAt_eq_some fits⟩
    rw [readAt_eq_some (by omega), Option.bind_some]
    refine ⟨moved, written, length_of_writeAt written, ?_, ?_⟩
    · have taken := take_of_writeAt written
      rwa [pieceLength] at taken
    · exact drop_of_writeAt written (by omega)
  case isFalse stays =>
    refine ⟨buffer, rfl, rfl, ?_, rfl⟩
    rcases Nat.eq_zero_or_pos size with zero | positive
    · subst zero
      simp
    · have inPlace : offset = slot * width := by
        by_contra moved
        exact stays ⟨positive, moved⟩
      subst inPlace
      exact List.take_add

/-- The compaction loop stays inside the buffer and leaves the pieces of the
remaining slots one after the other, behind what was compacted before. -/
theorem compactPieces_spec
    {width : Nat}
    (sizes : List Nat)
    {slot offset : Nat}
    {buffer : List UInt8}
    (down : offset ≤ slot * width)
    (narrow : ∀ size ∈ sizes, size ≤ width)
    (inside : (slot + sizes.length) * width ≤ buffer.length) :
    ∃ compacted, compactPieces width sizes slot offset buffer =
        some compacted ∧
      compacted.take (offset + sizes.sum) =
        buffer.take offset ++ (slotPieces width sizes slot buffer).flatten := by
  induction sizes generalizing slot offset buffer with
  | nil => exact ⟨buffer, rfl, by simp [slotPieces]⟩
  | cons size sizes inductionHypothesis =>
      have headNarrow : size ≤ width := narrow size (by simp)
      have slotInside : (slot + 1) * width ≤ buffer.length := by
        refine le_trans (Nat.mul_le_mul_right _ ?_) inside
        simp
      obtain ⟨moved, step, movedLength, movedTake, movedDrop⟩ :=
        compact_move down headNarrow slotInside
      have downNext : offset + size ≤ (slot + 1) * width := by
        rw [Nat.add_mul, Nat.one_mul]
        omega
      have insideNext : (slot + 1 + sizes.length) * width ≤
          moved.length := by
        rw [movedLength, Nat.add_assoc, Nat.add_comm 1]
        exact inside
      obtain ⟨compacted, rest, taken⟩ := inductionHypothesis downNext
        (fun current present => narrow current (by simp [present]))
        insideNext
      refine ⟨compacted, ?_, ?_⟩
      · rw [compactPieces, step]
        exact rest
      · rw [List.sum_cons, ← Nat.add_assoc, taken, movedTake,
          slotPieces_congr sizes movedDrop, slotPieces, List.flatten_cons,
          List.append_assoc]

/-- Reading the slots by position. -/
theorem slotPieces_getElem?
    {width : Nat}
    (sizes : List Nat)
    (slot : Nat)
    (buffer : List UInt8)
    (position : Nat) :
    (slotPieces width sizes slot buffer)[position]? =
      sizes[position]?.map fun size =>
        (buffer.drop ((slot + position) * width)).take size := by
  induction sizes generalizing slot position with
  | nil => simp [slotPieces]
  | cons size sizes inductionHypothesis =>
      cases position with
      | zero => simp [slotPieces]
      | succ position =>
          rw [slotPieces, List.getElem?_cons_succ, inductionHypothesis,
            List.getElem?_cons_succ, Nat.add_assoc, Nat.add_comm 1]

/-- Slots inside the buffer hold as many bytes as their sizes say. -/
theorem length_flatten_slotPieces
    {width : Nat}
    (sizes : List Nat)
    {slot : Nat}
    {buffer : List UInt8}
    (narrow : ∀ size ∈ sizes, size ≤ width)
    (inside : (slot + sizes.length) * width ≤ buffer.length) :
    (slotPieces width sizes slot buffer).flatten.length = sizes.sum := by
  induction sizes generalizing slot with
  | nil => rfl
  | cons size sizes inductionHypothesis =>
      have headNarrow : size ≤ width := narrow size (by simp)
      have insideNext : (slot + 1 + sizes.length) * width ≤
          buffer.length := by
        rw [Nat.add_assoc, Nat.add_comm 1]
        exact inside
      have slotInside : (slot + 1) * width ≤ buffer.length := by
        refine le_trans (Nat.mul_le_mul_right _ ?_) insideNext
        simp
      rw [Nat.add_mul, Nat.one_mul] at slotInside
      rw [slotPieces, List.flatten_cons, List.length_append,
        inductionHypothesis
          (fun current present => narrow current (by simp [present]))
          insideNext,
        List.length_take, List.length_drop, List.sum_cons,
        Nat.min_eq_left (by omega)]

/-- A full table of pieces is handed out as their concatenation. -/
theorem completeSession_spec
    {session : FragmentSession}
    {chunks : List (List UInt8)}
    (shape : SessionShape session)
    (full : ∀ index, session.piece index = chunks[index]?)
    (count : chunks.length = session.total) :
    ∃ buffer, completeSession session =
        some { base := .suc
               complete := true
               data := buffer
               dataLength := chunks.flatten.length
               ackRequired := session.ackRequired } ∧
      buffer.take chunks.flatten.length = chunks.flatten := by
  have slots : slotPieces session.maxPieceSize session.pieceSizes 0
      session.buffer = chunks := by
    apply List.ext_getElem?
    intro index
    rw [slotPieces_getElem?, ← full index, FragmentSession.piece,
      Nat.zero_add]
    by_cases inside : index < session.total
    · have sizeInside : index < session.pieceSizes.length := by
        rw [shape.sizesLength]
        exact inside
      have received : session.pieceReceived[index]? = some true := by
        by_contra missing
        have absent := FragmentSession.piece_of_missing missing
        rw [full index, List.getElem?_eq_none_iff] at absent
        omega
      rw [if_pos received, List.getElem?_eq_getElem sizeInside,
        List.getD_eq_getElem?_getD, List.getElem?_eq_getElem sizeInside]
      rfl
    · have flagOutside : session.pieceReceived[index]? = none := by
        rw [List.getElem?_eq_none_iff, shape.flagsLength]
        omega
      have sizeOutside : session.pieceSizes[index]? = none := by
        rw [List.getElem?_eq_none_iff, shape.sizesLength]
        omega
      rw [flagOutside, sizeOutside]
      rfl
  have allSizes : readAt session.pieceSizes 0 session.total =
      some session.pieceSizes := by
    rw [readAt_eq_some (by rw [shape.sizesLength]; omega), List.drop_zero,
      ← shape.sizesLength, List.take_length]
  have narrow : ∀ size ∈ session.pieceSizes,
      size ≤ session.maxPieceSize := by
    rw [shape.pieceSize]
    exact shape.sizesBounded
  have inside : (0 + session.pieceSizes.length) * session.maxPieceSize ≤
      session.buffer.length := by
    rw [Nat.zero_add, shape.sizesLength, shape.pieceSize,
      shape.bufferLength]
  obtain ⟨buffer, compacted, taken⟩ := compactPieces_spec
    session.pieceSizes (Nat.zero_le _) narrow inside
  have total := length_flatten_slotPieces session.pieceSizes narrow inside
  rw [slots] at total
  rw [slots, Nat.zero_add, List.take_zero, List.nil_append, ← total] at taken
  refine ⟨buffer, ?_, taken⟩
  rw [completeSession, allSizes, Option.bind_some, compacted, total]
  rfl

end Kronos
