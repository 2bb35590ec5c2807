import Kronos.Fragment.Run

/-!
# A message and its fragments

The splitter cuts a payload into chunks whose concatenation is the payload.  A
session `Collects` a list of chunks when every piece it stores is the chunk of
its index.  Feeding the fragments of one message keeps that relation, and the
fragment that brings the last missing chunk hands out the concatenation.
-/

namespace Kronos

open Library

/-! ## The chunks of a payload -/

theorem chunkSize_le
    {payloadPerFrag : Nat}
    (dataLength dataOffset : Nat) :
    chunkSize dataLength payloadPerFrag dataOffset ≤ payloadPerFrag := by
  unfold chunkSize
  simp only
  split
  case isTrue => exact Nat.le_refl _
  case isFalse small =>
    exact le_trans (Nat.mod_le _ _) (Nat.not_lt.mp small)

/-- Inside a payload the chunk size is the smaller of the slot and what is
left. -/
theorem chunkSize_eq_min
    {dataLength payloadPerFrag dataOffset : Nat}
    (inside : dataOffset ≤ dataLength)
    (narrow : payloadPerFrag < 2 ^ 16)
    (bounded : dataLength < 2 ^ 32) :
    chunkSize dataLength payloadPerFrag dataOffset =
      min payloadPerFrag (dataLength - dataOffset) := by
  have remaining : (dataLength + 2 ^ 32 - dataOffset) % 2 ^ 32 =
      dataLength - dataOffset := by omega
  unfold chunkSize
  simp only [remaining]
  split
  case isTrue => omega
  case isFalse =>
    rw [Nat.mod_eq_of_lt (by omega)]
    omega

theorem splitSizes_le
    {dataLength payloadPerFrag : Nat}
    (left offset : Nat)
    {size : Nat}
    (member : size ∈ splitSizes dataLength payloadPerFrag left offset) :
    size ≤ payloadPerFrag := by
  induction left generalizing offset with
  | zero => cases member
  | succ left inductionHypothesis =>
      rcases List.mem_cons.mp member with rfl | later
      · exact chunkSize_le dataLength offset
      · exact inductionHypothesis _ later

theorem length_splitSizes
    (dataLength payloadPerFrag left offset : Nat) :
    (splitSizes dataLength payloadPerFrag left offset).length = left := by
  induction left generalizing offset with
  | zero => rfl
  | succ left inductionHypothesis =>
      rw [splitSizes, List.length_cons, inductionHypothesis]

theorem length_splitChunks
    (data : List UInt8)
    (dataLength payloadPerFrag left offset : Nat) :
    (splitChunks data dataLength payloadPerFrag left offset).length =
      left := by
  induction left generalizing offset with
  | zero => rfl
  | succ left inductionHypothesis =>
      rw [splitChunks, List.length_cons, inductionHypothesis]

theorem splitChunks_length_le
    {data : List UInt8}
    {dataLength payloadPerFrag : Nat}
    (left offset : Nat)
    {chunk : List UInt8}
    (member : chunk ∈ splitChunks data dataLength payloadPerFrag left offset) :
    chunk.length ≤ payloadPerFrag := by
  induction left generalizing offset with
  | zero => cases member
  | succ left inductionHypothesis =>
      rcases List.mem_cons.mp member with rfl | later
      · exact le_trans (List.length_take_le _ _) (chunkSize_le dataLength offset)
      · exact inductionHypothesis _ later

/-- The offset of the next chunk is inside the payload again. -/
theorem nextOffset_eq
    {dataLength payloadPerFrag offset : Nat}
    (inside : offset ≤ dataLength)
    (narrow : payloadPerFrag < 2 ^ 16)
    (bounded : dataLength < 2 ^ 32) :
    (offset + chunkSize dataLength payloadPerFrag offset) % 2 ^ 32 =
      offset + min payloadPerFrag (dataLength - offset) := by
  rw [chunkSize_eq_min inside narrow bounded]
  omega

/-- The recorded sizes are the lengths of the chunks. -/
theorem splitSizes_eq_map_length
    {data : List UInt8}
    {payloadPerFrag : Nat}
    (left : Nat)
    {offset : Nat}
    (inside : offset ≤ data.length)
    (narrow : payloadPerFrag < 2 ^ 16)
    (bounded : data.length < 2 ^ 32) :
    splitSizes data.length payloadPerFrag left offset =
      (splitChunks data data.length payloadPerFrag left offset).map
        List.length := by
  induction left generalizing offset with
  | zero => rfl
  | succ left inductionHypothesis =>
      rw [splitSizes, splitChunks, List.map_cons]
      simp only [nextOffset_eq inside narrow bounded]
      rw [inductionHypothesis (by omega), List.length_take, List.length_drop,
        chunkSize_eq_min inside narrow bounded, Nat.min_assoc,
        Nat.min_self]

/-- Enough chunks make up the whole payload. -/
theorem splitChunks_flatten
    {data : List UInt8}
    {payloadPerFrag : Nat}
    (left : Nat)
    {offset : Nat}
    (inside : offset ≤ data.length)
    (narrow : payloadPerFrag < 2 ^ 16)
    (bounded : data.length < 2 ^ 32)
    (enough : data.length ≤ offset + left * payloadPerFrag) :
    (splitChunks data data.length payloadPerFrag left offset).flatten =
      data.drop offset := by
  induction left generalizing offset with
  | zero =>
      rw [splitChunks, List.flatten_nil, List.drop_eq_nil_of_le (by omega)]
  | succ left inductionHypothesis =>
      rw [Nat.add_mul, Nat.one_mul] at enough
      rw [splitChunks, List.flatten_cons]
      simp only [nextOffset_eq inside narrow bounded]
      rw [inductionHypothesis (by omega) (by omega),
        chunkSize_eq_min inside narrow bounded, ← List.drop_drop]
      exact List.take_append_drop _ _

/-- The chunks that a payload too long for one frame is cut into. -/
def messageChunks (data : List UInt8) : List (List UInt8) :=
  splitChunks data data.length krsMaxPayloadPerFragment
    (fragmentCount data.length krsDefaultMtu) 0

/-- The chunks of a payload fit the limits of a session. -/
structure SessionLimits (chunks : List (List UInt8)) : Prop where
  count : chunks.length ≤ krsMaxFragmentsPerPacket
  sizes : ∀ chunk ∈ chunks, chunk.length ≤ krsMaxPayloadPerFragment

theorem messageChunks_count
    {data : List UInt8}
    (short : data.length < 2 ^ 16) :
    data.length ≤ (messageChunks data).length * krsMaxPayloadPerFragment ∧
      (messageChunks data).length ≤ krsMaxFragmentsPerPacket := by
  rw [messageChunks, length_splitChunks]
  simp only [fragmentCount, krsDefaultMtu, kronosFrameHeaderLength,
    krsMaxPayloadPerFragment, krsMaxFragmentsPerPacket]
  omega

/-- A payload of at most 65535 bytes is within the limits of a session. -/
theorem messageChunks_limits
    {data : List UInt8}
    (short : data.length < 2 ^ 16) :
    SessionLimits (messageChunks data) where
  count := (messageChunks_count short).2
  sizes := fun _ member => splitChunks_length_le _ _ member

theorem messageChunks_flatten
    {data : List UInt8}
    (short : data.length < 2 ^ 16) :
    (messageChunks data).flatten = data := by
  have enough := (messageChunks_count short).1
  rw [messageChunks, length_splitChunks] at enough
  rw [messageChunks, splitChunks_flatten _ (Nat.zero_le _) (by decide)
    (by omega) (by rw [Nat.zero_add]; exact enough), List.drop_zero]

/-! ## Sessions that collect a message -/

/-- A session holds the chunks of a message that have arrived, and no other
piece. -/
structure Collects
    (session : FragmentSession)
    (chunks : List (List UInt8))
    (requireAck : Bool)
    (arrived : List Nat) : Prop where
  total : session.total = chunks.length
  pieces : ∀ index, session.piece index =
    if index ∈ arrived then chunks[index]? else none
  ackRequired : session.ackRequired = true -> requireAck = true

/-- A new session collects nothing yet. -/
theorem newSession_collects
    (packetId : UInt64)
    (chunks : List (List UInt8))
    (requireAck : Bool)
    (now : UInt64) :
    Collects (newSession packetId chunks.length now) chunks requireAck []
    where
  total := rfl
  pieces := by simp
  ackRequired := by
    intro flagged
    cases flagged

/-- A received piece has arrived, and an arrived piece is received. -/
theorem Collects.received_iff
    {session : FragmentSession}
    {chunks : List (List UInt8)}
    {requireAck : Bool}
    {arrived : List Nat}
    (collects : Collects session chunks requireAck arrived)
    {index : Nat}
    (inside : index < chunks.length) :
    session.pieceReceived[index]? = some true ↔ index ∈ arrived := by
  have stored := collects.pieces index
  rw [FragmentSession.piece] at stored
  by_cases here : index ∈ arrived
  · rw [if_pos here, List.getElem?_eq_getElem inside] at stored
    refine ⟨fun _ => here, fun _ => ?_⟩
    by_contra missing
    rw [if_neg missing] at stored
    cases stored
  · rw [if_neg here] at stored
    refine ⟨fun received => ?_, fun present => absurd present here⟩
    rw [if_pos received] at stored
    cases stored

/-- The counter of a session is full once every chunk has arrived. -/
theorem Collects.full_iff
    {session : FragmentSession}
    {chunks : List (List UInt8)}
    {requireAck : Bool}
    {arrived : List Nat}
    (collects : Collects session chunks requireAck arrived)
    (shape : SessionShape session) :
    session.received = session.total ↔
      ∀ index < chunks.length, index ∈ arrived := by
  constructor
  · intro full index inside
    apply (collects.received_iff inside).mp
    apply piece_isSome_of_full shape full
    rw [collects.total]
    exact inside
  · intro all
    rw [shape.receivedCount, ← shape.flagsLength, List.count_eq_length]
    intro flag member
    obtain ⟨index, present⟩ := List.mem_iff_getElem?.mp member
    obtain ⟨inside, -⟩ := List.getElem?_eq_some_iff.mp present
    rw [shape.flagsLength, collects.total] at inside
    have received := (collects.received_iff inside).mpr (all index inside)
    rw [received] at present
    exact Option.some.inj present

/-- An open session misses a chunk. -/
theorem Collects.missing
    {session : FragmentSession}
    {chunks : List (List UInt8)}
    {requireAck : Bool}
    {arrived : List Nat}
    (collects : Collects session chunks requireAck arrived)
    (shape : SessionShape session)
    (incomplete : session.received < session.total) :
    ∃ index < chunks.length, index ∉ arrived := by
  by_contra none
  have all : ∀ index < chunks.length, index ∈ arrived := by
    intro index inside
    by_contra absent
    exact none ⟨index, inside, absent⟩
  have full := (collects.full_iff shape).mpr all
  omega

/-- Adding an index that has arrived before changes nothing. -/
theorem Collects.again
    {session : FragmentSession}
    {chunks : List (List UInt8)}
    {requireAck : Bool}
    {arrived : List Nat}
    {index : Nat}
    (collects : Collects session chunks requireAck arrived)
    (before : index ∈ arrived) :
    Collects session chunks requireAck (index :: arrived) where
  total := collects.total
  ackRequired := collects.ackRequired
  pieces := by
    intro other
    have same : other ∈ index :: arrived ↔ other ∈ arrived := by
      rw [List.mem_cons]
      constructor
      · rintro (rfl | present)
        · exact before
        · exact present
      · exact Or.inr
    rw [collects.pieces other]
    simp only [same]

/-- Storing the chunk of a new index adds that index. -/
theorem Collects.stored
    {session stored : FragmentSession}
    {chunks : List (List UInt8)}
    {requireAck : Bool}
    {arrived : List Nat}
    {index : Nat}
    {chunk : List UInt8}
    (collects : Collects session chunks requireAck arrived)
    (present : chunks[index]? = some chunk)
    (piece : StoredPiece session index chunk stored) :
    Collects stored chunks requireAck (index :: arrived) where
  total := piece.total.trans collects.total
  ackRequired := by
    rw [piece.ackRequired]
    exact collects.ackRequired
  pieces := by
    intro other
    by_cases here : other = index
    · subst here
      rw [piece.pieceSelf, if_pos List.mem_cons_self, present]
    · rw [piece.pieceOther other here, collects.pieces other]
      simp only [List.mem_cons, here, false_or]

/-- A full session hands out the concatenated chunks. -/
theorem Collects.complete
    {session : FragmentSession}
    {chunks : List (List UInt8)}
    {requireAck : Bool}
    {arrived : List Nat}
    (collects : Collects session chunks requireAck arrived)
    (shape : SessionShape session)
    (full : session.received = session.total) :
    ∃ buffer, completeSession session =
        some { base := .suc
               complete := true
               data := buffer
               dataLength := chunks.flatten.length
               ackRequired := session.ackRequired } ∧
      buffer.take chunks.flatten.length = chunks.flatten := by
  refine completeSession_spec shape ?_ collects.total.symm
  intro index
  rw [collects.pieces index]
  by_cases inside : index < chunks.length
  · rw [if_pos ((collects.full_iff shape).mp full index inside)]
  · rw [List.getElem?_eq_none_iff.mpr (Nat.not_lt.mp inside), ite_self]

/-! ## Feeding a fragment of a message -/

/-- The frame is a fragment of a message with these chunks. -/
structure FragmentOf
    (frame : Frame)
    (chunks : List (List UInt8))
    (requireAck : Bool) : Prop where
  flagged : hasFlag frame.presenceFlags .fragmentInfo = true
  ackFlag : hasFlag frame.presenceFlags .ackRequired = requireAck
  total : frame.metadata.fragmentTotal.toNat = chunks.length
  body : chunks[frame.index]? = some frame.body

theorem FragmentOf.inside
    {frame : Frame}
    {chunks : List (List UInt8)}
    {requireAck : Bool}
    (fragment : FragmentOf frame chunks requireAck) :
    frame.index < chunks.length :=
  (List.getElem?_eq_some_iff.mp fragment.body).1

/-- A fragment of a message within the limits is admitted when its session is
open or can be opened. -/
theorem FragmentOf.admitted
    {reassembler : Reassembler}
    {frame : Frame}
    {chunks : List (List UInt8)}
    {requireAck allocated : Bool}
    (fragment : FragmentOf frame chunks requireAck)
    (limits : SessionLimits chunks)
    (room : reassembler.session frame.packetId = none ->
      reassembler.sessions.length < krsMaxReassemblySessions ∧
        allocated = true) :
    Admitted reassembler frame allocated where
  flagged := fragment.flagged
  valid := by
    rw [validFragment_iff, fragment.total]
    exact ⟨fragment.inside, limits.count⟩
  fits := limits.sizes _ (List.mem_of_getElem? fragment.body)
  room := room

/-- What a fragment of a message does to the session that collects the
message: the session collects its chunk as well, or it was the last one. -/
inductive FragmentStep
    (next : Reassembler)
    (packetId : UInt64)
    (chunks : List (List UInt8))
    (requireAck : Bool)
    (arrived : List Nat) : ReassembleResult -> Prop
  | collected
      (session : FragmentSession)
      (present : next.session packetId = some session)
      (collects : Collects session chunks requireAck arrived)
      (missing : ∃ index < chunks.length, index ∉ arrived) :
      FragmentStep next packetId chunks requireAck arrived { base := .suc }
  | completed
      (buffer : List UInt8)
      (closed : next.session packetId = none)
      (all : ∀ index < chunks.length, index ∈ arrived)
      (payload : buffer.take chunks.flatten.length = chunks.flatten) :
      FragmentStep next packetId chunks requireAck arrived
        { base := .suc
          complete := true
          data := buffer
          dataLength := chunks.flatten.length
          ackRequired := requireAck }

/-- The session of a fragment keeps collecting with the fragment's own
`ACK_REQUIRED` flag added, and then agrees with the message on it. -/
theorem Collects.flagged
    {reassembler : Reassembler}
    {frame : Frame}
    {now : UInt64}
    {chunks : List (List UInt8)}
    {requireAck : Bool}
    {arrived : List Nat}
    (collects : Collects (reassembler.sessionFor frame now) chunks requireAck
      arrived)
    (ackFlag : hasFlag frame.presenceFlags .ackRequired = requireAck) :
    Collects (reassembler.flaggedSession frame now) chunks requireAck
        arrived ∧
      (reassembler.flaggedSession frame now).ackRequired = requireAck := by
  have agrees : (reassembler.flaggedSession frame now).ackRequired =
      requireAck := by
    simp only [Reassembler.flaggedSession, ackFlag]
    cases raised : (reassembler.sessionFor frame now).ackRequired with
    | false => rfl
    | true =>
        rw [collects.ackRequired raised]
        rfl
  exact ⟨⟨collects.total, collects.pieces, fun raised =>
    agrees.symm.trans raised⟩, agrees⟩

/-- Feeding a fragment to the session that collects its message. -/
theorem feed_fragment
    {reassembler : Reassembler}
    {frame : Frame}
    {now : UInt64}
    {chunks : List (List UInt8)}
    {requireAck allocated : Bool}
    {arrived : List Nat}
    (invariant : ReassemblerInvariant reassembler)
    (fragment : FragmentOf frame chunks requireAck)
    (admitted : Admitted reassembler frame allocated)
    (collects : Collects (reassembler.sessionFor frame now) chunks requireAck
      arrived) :
    ∃ next result,
      krsReassemblerFeed reassembler frame now allocated =
        some (next, result) ∧
      ReassemblerInvariant next ∧
      (∀ packetId, packetId ≠ frame.packetId ->
        next.session packetId = reassembler.session packetId) ∧
      FragmentStep next frame.packetId chunks requireAck
        (frame.index :: arrived) result := by
  obtain ⟨flagged, agrees⟩ := collects.flagged fragment.ackFlag
  obtain ⟨next, result, fed, effect⟩ := feed_of_admitted invariant admitted
    now (by rw [collects.total]; exact fragment.inside)
  refine ⟨next, result, fed, effect.invariant, effect.others, ?_⟩
  cases effect.step with
  | duplicate received session =>
      have again := flagged.again
        ((flagged.received_iff fragment.inside).mp received)
      have isOpen := effect.invariant.openSession_of_session session
      exact .collected _ session again
        (again.missing isOpen.toSessionShape isOpen.incomplete)
  | stored stored missing piece incomplete session =>
      have more := flagged.stored fragment.body piece
      exact .collected _ session more (more.missing piece.shape incomplete)
  | completed stored result missing piece full outcome session =>
      have more := flagged.stored fragment.body piece
      obtain ⟨buffer, completed, payload⟩ := more.complete piece.shape full
      rw [piece.ackRequired, agrees] at completed
      rw [completed] at outcome
      cases outcome
      exact .completed buffer session
        ((more.full_iff piece.shape).mp full) payload

end Kronos
