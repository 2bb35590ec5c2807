import Kronos.Frame.Rebuild
import Kronos.Fragment.SplitFrames

/-!
# The split as a second encoder

The split writes headers and fragment headers by hand.  With no additional
flags, or with `ACK_REQUIRED` alone, its frames are byte for byte those that
the frame builder serializes for the same fields.
-/

namespace Kronos

open Library

/-! ## Chunks -/

/-- The part of the payload in the fragment with the given index. -/
def splitChunk (data : List UInt8) (mtu index : Nat) : List UInt8 :=
  (data.drop (index * (mtu - kronosFrameHeaderLength - 4))).take
    (mtu - kronosFrameHeaderLength - 4)

/-- The loop cuts the payload at the multiples of the chunk size. -/
theorem splitChunks_eq_map_range
    {data : List UInt8}
    {payloadPerFrag : Nat}
    (left : Nat)
    {offset : Nat}
    (inside : offset ≤ data.length)
    (narrow : payloadPerFrag < 2 ^ 16)
    (bounded : data.length < 2 ^ 32) :
    splitChunks data data.length payloadPerFrag left offset =
      (List.range left).map fun index =>
        (data.drop (offset + index * payloadPerFrag)).take
          payloadPerFrag := by
  induction left generalizing offset with
  | zero => rfl
  | succ left inductionHypothesis =>
      have size := chunkSize_eq_min inside narrow bounded
      rw [splitChunks, nextOffset_eq inside narrow bounded, size,
        inductionHypothesis (by omega), List.range_succ_eq_map,
        List.map_cons, List.map_map]
      congr 1
      · rw [Nat.zero_mul, Nat.add_zero]
        by_cases whole : payloadPerFrag ≤ data.length - offset
        · rw [Nat.min_eq_left whole]
        · have rest : (data.drop offset).length ≤ data.length - offset := by
            rw [List.length_drop]
          rw [Nat.min_eq_right (by omega), List.take_of_length_le rest,
            List.take_of_length_le (by omega)]
      · apply List.map_congr_left
        intro index _
        have next : (index + 1) * payloadPerFrag =
            payloadPerFrag + index * payloadPerFrag := by
          rw [Nat.succ_mul, Nat.add_comm]
        rw [Function.comp_apply, next]
        by_cases whole : payloadPerFrag ≤ data.length - offset
        · rw [Nat.min_eq_left whole, Nat.add_assoc]
        · rw [List.drop_eq_nil_of_le (by omega),
            List.drop_eq_nil_of_le (by omega)]

/-- Datagrams whose sizes are recorded exactly are the fragments. -/
theorem datagrams_of_sizes
    {result : FragmentResult}
    (sizes : result.fragmentSizes = result.fragments.map List.length) :
    result.datagrams = result.fragments := by
  rw [FragmentResult.datagrams, sizes, List.zipWith_map_right,
    List.zipWith_self]
  exact (List.map_congr_left fun frame _ => List.take_length).trans
    (List.map_id _)

/-- A split that succeeds does not need more than 65535 fragments. -/
theorem fragmentCount_le_of_success
    {channel : Channel}
    {type : FrameType}
    {packetId : UInt64}
    {data : List UInt8}
    {dataLength mtu : Nat}
    {flags : UInt16}
    {allocations : SplitAllocations}
    (long : ¬ dataLength ≤ mtu - kronosFrameHeaderLength)
    (success : (krsFragmentSplit channel type packetId data dataLength mtu
      flags allocations).base.errorCode = .success) :
    fragmentCount dataLength mtu ≤ 2 ^ 16 - 1 := by
  by_contra many
  unfold krsFragmentSplit at success
  split at success
  case isTrue => cases success
  case isFalse =>
    split at success
    case isTrue => cases success
    case isFalse =>
      dsimp only at success
      split at success
      case isTrue => cases success
      case isFalse few => exact many (Nat.not_lt.mp few)

/-! ## Frames of a successful split -/

/-- A split that succeeds with frames made one plain frame, or at least two
fragments with the chunks of the payload. -/
theorem krsFragmentSplit_datagrams
    (channel : Channel)
    (type : FrameType)
    (packetId : UInt64)
    {data : List UInt8}
    {mtu : Nat}
    (flags : UInt16)
    (allocations : SplitAllocations)
    (bounded : data.length < 2 ^ 32)
    (narrow : mtu < 2 ^ 16) :
    let result := krsFragmentSplit channel type packetId data data.length mtu
      flags allocations
    result.base.errorCode = .success -> result.fragments ≠ [] ->
      (kronosFrameHeaderLength < mtu ∧
          data.length ≤ mtu - kronosFrameHeaderLength ∧
          result.fragments.length = 1 ∧
          result.datagrams =
            [buildPlainFrame channel type packetId data flags]) ∨
        (kronosFrameHeaderLength + 4 < mtu ∧
          mtu - kronosFrameHeaderLength < data.length ∧
          ¬ CountWraps data.length mtu ∧
          2 ≤ result.fragments.length ∧
          result.fragments.length < 2 ^ 16 ∧
          result.datagrams = (List.range result.fragments.length).map
            fun index => fragmentFrame channel type packetId flags index
              result.fragments.length (splitChunk data mtu index)) := by
  intro result success some
  have outcome := krsFragmentSplit_outcome channel type packetId data
    data.length mtu flags allocations
  have small (long : ¬ data.length ≤ mtu - kronosFrameHeaderLength) :=
    fragmentCount_le_of_success long success
  change SplitOutcome channel type packetId data data.length mtu flags
    allocations result at outcome
  generalize result = ended at outcome success some ⊢
  cases outcome with
  | failed base error => exact absurd success error
  | plain mtuLarge fits arrays frames =>
      refine Or.inl ⟨mtuLarge, fits, rfl, ?_⟩
      rw [datagrams_of_sizes, List.take_length]
      rw [List.map_singleton, List.take_length, length_buildPlainFrame,
        Nat.mod_eq_of_lt (by omega)]
  | cut mtuLarge long arrays frames pool =>
      have unwrapped : ¬ CountWraps data.length mtu := by
        intro wraps
        refine some ?_
        rw [fragmentCount_of_wraps bounded narrow wraps]
        rfl
      obtain ⟨enough, several⟩ := fragmentCount_enough mtuLarge
        (Nat.not_le.mp long) unwrapped
      have count := small long
      refine Or.inr ⟨mtuLarge, Nat.not_le.mp long, unwrapped, ?_⟩
      rw [datagrams_of_sizes (splitSizes_eq_length_fragments channel type
        packetId flags _ _ (by omega) bounded)]
      rw [List.length_mapIdx, length_splitChunks]
      refine ⟨several, by omega, ?_⟩
      rw [splitChunks_eq_map_range _ (Nat.zero_le _) (by omega) bounded]
      apply List.ext_getElem
      · rw [List.length_mapIdx, List.length_map, List.length_map]
      · intro index _ _
        rw [List.getElem_mapIdx, List.getElem_map, List.getElem_map,
          List.getElem_range, Nat.zero_add, splitChunk]

/-! ## Against the builder -/

/-- A builder that a sender fills in for a body: packet id, `ACK_REQUIRED` on
request, and the bytes of the body. -/
def senderBuilder
    (channel : Channel)
    (type : FrameType)
    (packetId : UInt64)
    (requireAck : Bool)
    (body : List UInt8) : FrameBuilder :=
  let numbered := (krsFrameBuilderCreate channel type).setPacketId packetId
  let flagged :=
    if requireAck then numbered.setFlag .ackRequired else numbered
  flagged.setData (some body) (UInt16.ofNat body.length)

theorem senderBuilder_eq
    (channel : Channel)
    (type : FrameType)
    (packetId : UInt64)
    (requireAck : Bool)
    (body : List UInt8) :
    senderBuilder channel type packetId requireAck body =
      plainBuilder channel type packetId body (ackFlags requireAck) := by
  cases requireAck with
  | false => rfl
  | true =>
      have flags : 0 ||| MetadataFlag.ackRequired.mask = ackFlags true := by
        decide
      rw [← flags]
      rfl

theorem senderBuilder_setFragmentInfo_eq
    (channel : Channel)
    (type : FrameType)
    (packetId : UInt64)
    (requireAck : Bool)
    (body : List UInt8)
    (index count : Nat) :
    (senderBuilder channel type packetId requireAck body).setFragmentInfo
        (UInt16.ofNat index) (UInt16.ofNat count) =
      fragmentBuilder channel type packetId (ackFlags requireAck) index count
        body := by
  rw [senderBuilder_eq, fragmentBuilder, fragmentFlags, UInt16.or_comm]
  rfl

/-- A plain frame is what the builder puts into any buffer that holds it. -/
theorem buildPlainFrame_eq_serialized
    (channel : Channel)
    (type : FrameType)
    (packetId : UInt64)
    (requireAck : Bool)
    {data out : List UInt8}
    (small : kronosFrameHeaderLength + data.length < 2 ^ 16)
    (room : kronosFrameHeaderLength + data.length ≤ out.length) :
    buildPlainFrame channel type packetId data (ackFlags requireAck) =
      serialized (senderBuilder channel type packetId requireAck data)
        out := by
  have short : data.length < 2 ^ 16 := by omega
  have bytes := buildPlainFrame_eq_serializedBytes channel type packetId
    requireAck short
  have length := length_buildPlainFrame channel type packetId data
    (ackFlags requireAck)
  rw [bytes] at length
  rw [senderBuilder_eq, bytes]
  refine (serialized_eq rfl ?_ (by omega) (by omega)).symm
  exact (ofNat_length_toNat short).ge

/-- A fragment is what the builder puts into any buffer that holds it. -/
theorem fragmentFrame_eq_serialized
    (channel : Channel)
    (type : FrameType)
    (packetId : UInt64)
    (requireAck : Bool)
    {index count : Nat}
    {chunk out : List UInt8}
    (indexSmall : index < 2 ^ 16)
    (countSmall : count < 2 ^ 16)
    (small : kronosFrameHeaderLength + 4 + chunk.length < 2 ^ 16)
    (room : kronosFrameHeaderLength + 4 + chunk.length ≤ out.length) :
    fragmentFrame channel type packetId (ackFlags requireAck) index count
        chunk =
      serialized ((senderBuilder channel type packetId requireAck
        chunk).setFragmentInfo (UInt16.ofNat index) (UInt16.ofNat count))
        out := by
  have short : chunk.length < 2 ^ 16 := by omega
  have bytes := fragmentFrame_eq_serializedBytes channel type packetId
    requireAck indexSmall countSmall short
  have length := length_fragmentFrame channel type packetId
    (ackFlags requireAck) index count chunk
  rw [bytes] at length
  rw [senderBuilder_setFragmentInfo_eq, bytes]
  refine (serialized_eq rfl ?_ (by omega) (by omega)).symm
  exact (ofNat_length_toNat short).ge

/-- Whenever a split with `ACK_REQUIRED` or no flag succeeds with a frame, its
frames are byte for byte what the builder serializes: the whole payload in one
frame, or the chunks with their fragment info. -/
theorem split_frames_eq_builder
    (channel : Channel)
    (type : FrameType)
    (packetId : UInt64)
    {data out : List UInt8}
    {mtu : Nat}
    (requireAck : Bool)
    (allocations : SplitAllocations)
    (bounded : data.length < 2 ^ 32)
    (narrow : mtu < 2 ^ 16)
    (room : mtu ≤ out.length) :
    let result := krsFragmentSplit channel type packetId data data.length mtu
      (ackFlags requireAck) allocations
    result.base.errorCode = .success -> result.fragments ≠ [] ->
      if result.fragments.length = 1 then
        result.datagrams =
          [serialized (senderBuilder channel type packetId requireAck data)
            out]
      else
        result.datagrams = (List.range result.fragments.length).map
          fun index => serialized
            ((senderBuilder channel type packetId requireAck
              (splitChunk data mtu index)).setFragmentInfo
                (UInt16.ofNat index)
                (UInt16.ofNat result.fragments.length)) out := by
  intro result success some
  obtain ⟨mtuLarge, fits, single, datagrams⟩ |
      ⟨mtuLarge, long, -, several, small, datagrams⟩ :=
    krsFragmentSplit_datagrams channel type packetId (ackFlags requireAck)
      allocations bounded narrow success some
  · have frame := buildPlainFrame_eq_serialized channel type packetId
      requireAck (show kronosFrameHeaderLength + data.length < 2 ^ 16 by omega)
      (show kronosFrameHeaderLength + data.length ≤ out.length by omega)
    rw [if_pos single, datagrams, frame]
  · rw [if_neg (Nat.ne_of_gt several), datagrams]
    apply List.map_congr_left
    intro index member
    have inside := List.mem_range.mp member
    have size : (splitChunk data mtu index).length ≤
        mtu - kronosFrameHeaderLength - 4 := List.length_take_le _ _
    exact fragmentFrame_eq_serialized channel type packetId requireAck
      (inside.trans small) small (by omega) (by omega)

/-- Eight bytes and an mtu of 21: three fragments, as the builder writes
them. -/
theorem eight_bytes_as_built :
    (krsFragmentSplit 10 .basicMessage 1 [1, 2, 3, 4, 5, 6, 7, 8] 8 21
        (ackFlags true) {}).datagrams =
      [serialized ((senderBuilder 10 .basicMessage 1 true
          [1, 2, 3]).setFragmentInfo 0 3) (List.replicate 21 0),
        serialized ((senderBuilder 10 .basicMessage 1 true
          [4, 5, 6]).setFragmentInfo 1 3) (List.replicate 21 0),
        serialized ((senderBuilder 10 .basicMessage 1 true
          [7, 8]).setFragmentInfo 2 3) (List.replicate 21 0)] := by
  have built := split_frames_eq_builder 10 .basicMessage 1 true {}
    (show [1, 2, 3, 4, 5, 6, 7, 8].length < 2 ^ 32 by decide)
    (show 21 < 2 ^ 16 by decide)
    (show 21 ≤ (List.replicate 21 (0 : UInt8)).length by decide) rfl
    (by decide)
  rw [if_neg (by decide)] at built
  exact built

end Kronos
