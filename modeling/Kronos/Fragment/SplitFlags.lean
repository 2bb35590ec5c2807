import Kronos.Frame.Header
import Kronos.Frame.Parsers
import Kronos.Fragment.SplitEncoding

/-!
# Additional flags of a split

A caller of `krs_fragment_split` may pass any presence flags to be set on every
frame.  The split writes the flags into the header, but only fragment info into
the body: a flag that announces other metadata makes the parser take bytes of
the payload for that metadata.
-/

namespace Kronos

open Library

/-! ## Flags -/

/-- The flags announce metadata other than fragment info. -/
def announcesMore (flags : UInt16) : Bool :=
  hasFlag flags .ackId || hasFlag flags .priority || hasFlag flags .timestamp

theorem hasFlag_or (first second : UInt16) (flag : MetadataFlag) :
    hasFlag (first ||| second) flag =
      (hasFlag first flag || hasFlag second flag) := by
  rw [hasFlag, hasFlag, hasFlag, UInt16.toNat_or, Nat.testBit_or]

theorem hasFlag_fragmentFlags_fragmentInfo (flags : UInt16) :
    hasFlag (fragmentFlags flags) .fragmentInfo = true := by
  rw [fragmentFlags, hasFlag_or]
  rfl

theorem announcesMore_fragmentFlags (flags : UInt16) :
    announcesMore (fragmentFlags flags) = announcesMore flags := by
  simp only [announcesMore, fragmentFlags, hasFlag_or]
  rfl

/-- Without other metadata only the fragment info counts. -/
theorem krsFrameMetadataBlockLength_of_announcesMore
    {flags : UInt16}
    (clear : announcesMore flags = false) :
    krsFrameMetadataBlockLength flags =
      if hasFlag flags .fragmentInfo then 4 else 0 := by
  simp only [announcesMore, Bool.or_eq_false_iff] at clear
  obtain ⟨⟨ackId, priority⟩, timestamp⟩ := clear
  rw [krsFrameMetadataBlockLength_eq, ackId, priority, timestamp]
  rfl

/-- Other metadata makes the block longer than the fragment info. -/
theorem krsFrameMetadataBlockLength_pos
    {flags : UInt16}
    (more : announcesMore flags = true) :
    (if hasFlag flags .fragmentInfo then 4 else 0) <
      krsFrameMetadataBlockLength flags := by
  rw [krsFrameMetadataBlockLength_eq]
  simp only [announcesMore, Bool.or_eq_true] at more
  rcases more with (ackId | priority) | timestamp
  · rw [ackId]
    simp only [if_true]
    omega
  · rw [priority]
    simp only [if_true]
    omega
  · rw [timestamp]
    simp only [if_true]
    omega

/-! ## Parsing behind a header -/

/-- The body is what lies behind the metadata block. -/
theorem parseFields_body
    (buffer : List UInt8)
    (receivedBytes : Nat)
    (presenceFlags : UInt16)
    (bodyLength : Nat) :
    (parseFields buffer receivedBytes presenceFlags bodyLength).body =
      (buffer.drop (kronosFrameHeaderLength +
        krsFrameMetadataBlockLength presenceFlags)).take bodyLength := by
  unfold parseFields
  dsimp only
  rw [readMetadataWord_cursor, readPriority_cursor, readMetadataWord_cursor,
    readFragmentInfo_cursor, krsFrameMetadataBlockLength_eq]
  congr 2
  omega

theorem datagramFlags_splitHeader
    (channel : Channel)
    (type : FrameType)
    (packetId : UInt64)
    (flags : UInt16)
    (rest : List UInt8) :
    datagramFlags (splitHeader channel type packetId flags ++ rest) = flags :=
  krsMathUint16FromUint8_writeU16Be flags

/-- A frame with a header of the split is accepted when the metadata that its
flags announce is there, and loses as many bytes to it. -/
theorem krsFrameCreate_splitHeader
    (channel : Channel)
    (type : FrameType)
    (packetId : UInt64)
    (flags : UInt16)
    {rest : List UInt8}
    {stackDataOutSize : Nat}
    (accepted : (krsFrameCreate (splitHeader channel type packetId flags ++
      rest) stackDataOutSize).protocolChar = 0x4B) :
    krsFrameMetadataBlockLength flags ≤ rest.length ∧
      (krsFrameCreate (splitHeader channel type packetId flags ++ rest)
        stackDataOutSize).body =
          rest.drop (krsFrameMetadataBlockLength flags) := by
  have header := length_splitHeader channel type packetId flags
  have whole : (splitHeader channel type packetId flags ++ rest).length =
      kronosFrameHeaderLength + rest.length := by
    rw [List.length_append, header]
  obtain ⟨-, long, parsed⟩ := krsFrameCreate_accepted (by
    rw [accepted]
    decide)
  have flagged := datagramFlags_splitHeader channel type packetId flags rest
  unfold datagramFlags at flagged
  rw [flagged, whole] at long
  refine ⟨by omega, ?_⟩
  rw [parsed, flagged, parseFields_body, List.take_of_length_le, ← header,
    List.drop_length_add_append]
  rw [List.length_drop]

/-! ## Reading a split back -/

/-- What a frame carries of the payload: all of it when it is the only one. -/
def carried
    (result : FragmentResult)
    (data : List UInt8)
    (mtu index : Nat) : List UInt8 :=
  if result.fragments.length = 1 then data else splitChunk data mtu index

/-- Every frame of a split is accepted, and read back with its part of the
payload, its place among several frames, and the additional flags. -/
def ReadsBack
    (result : FragmentResult)
    (data : List UInt8)
    (mtu : Nat)
    (additionalFlags : UInt16)
    (stackDataOutSize : Nat) : Prop :=
  ∀ index frame, result.datagrams[index]? = some frame ->
    let parsed := krsFrameCreate frame stackDataOutSize
    parsed.protocolChar = 0x4B ∧
      parsed.body = carried result data mtu index ∧
      (result.fragments.length ≠ 1 ->
        parsed.metadata.fragmentIndex.toNat = index ∧
          parsed.metadata.fragmentTotal.toNat = result.fragments.length) ∧
      ∀ bit, additionalFlags.toNat.testBit bit = true ->
        parsed.presenceFlags.toNat.testBit bit = true

/-- The flags announce only what the split writes: nothing for a payload that
fits one frame, fragment info otherwise.  A payload so long that the number of
fragments wraps around has no frame. -/
def AnnouncesWritten
    (dataLength mtu : Nat)
    (additionalFlags : UInt16) : Prop :=
  if dataLength ≤ mtu - kronosFrameHeaderLength then
    announcesMore additionalFlags = false ∧
      hasFlag additionalFlags .fragmentInfo = false
  else CountWraps dataLength mtu ∨ announcesMore additionalFlags = false

instance (dataLength mtu : Nat) (additionalFlags : UInt16) :
    Decidable (AnnouncesWritten dataLength mtu additionalFlags) :=
  inferInstanceAs (Decidable
    (if dataLength ≤ mtu - kronosFrameHeaderLength then
      announcesMore additionalFlags = false ∧
        hasFlag additionalFlags .fragmentInfo = false
    else CountWraps dataLength mtu ∨ announcesMore additionalFlags = false))

/-- Metadata that is not there takes bytes from the body. -/
theorem body_ne_of_unwritten
    (channel : Channel)
    (type : FrameType)
    (packetId : UInt64)
    {flags : UInt16}
    (written : List UInt8)
    {body : List UInt8}
    {stackDataOutSize : Nat}
    (unwritten : written.length < krsFrameMetadataBlockLength flags)
    (accepted : (krsFrameCreate (splitHeader channel type packetId flags ++
      (written ++ body)) stackDataOutSize).protocolChar = 0x4B) :
    (krsFrameCreate (splitHeader channel type packetId flags ++
      (written ++ body)) stackDataOutSize).body ≠ body := by
  obtain ⟨enough, cut⟩ := krsFrameCreate_splitHeader channel type packetId
    flags accepted
  rw [cut]
  intro same
  have length := congrArg List.length same
  rw [List.length_drop, List.length_append] at length
  rw [List.length_append] at enough
  omega

/-- A single frame is read back exactly when its flags announce nothing. -/
theorem plain_reads_back_iff
    (channel : Channel)
    (type : FrameType)
    (packetId : UInt64)
    (flags : UInt16)
    {data : List UInt8}
    {stackDataOutSize : Nat}
    (small : data.length < 2 ^ 16)
    (room : data.length ≤ stackDataOutSize) :
    let parsed := krsFrameCreate
      (buildPlainFrame channel type packetId data flags) stackDataOutSize
    (parsed.protocolChar = 0x4B ∧ parsed.body = data ∧
        ∀ bit, flags.toNat.testBit bit = true ->
          parsed.presenceFlags.toNat.testBit bit = true) ↔
      announcesMore flags = false ∧ hasFlag flags .fragmentInfo = false := by
  intro parsed
  constructor
  · rintro ⟨accepted, body, -⟩
    by_contra announced
    refine body_ne_of_unwritten channel type packetId [] ?_ accepted body
    rw [List.length_nil]
    cases more : announcesMore flags with
    | true => exact Nat.zero_lt_of_lt (krsFrameMetadataBlockLength_pos more)
    | false =>
        rw [krsFrameMetadataBlockLength_of_announcesMore more, if_pos]
        · decide
        · rw [more] at announced
          simpa using announced
  · rintro ⟨clear, info⟩
    have none : krsFrameMetadataBlockLength flags = 0 := by
      rw [krsFrameMetadataBlockLength_of_announcesMore clear, info]
      rfl
    have frame := createFrame_serializedBytes
      (plainBuilder channel type packetId data flags) rfl
      (ofNat_length_toNat small) room
    rw [← buildPlainFrame_eq_serializedBytes_of_clear channel type packetId
      none small] at frame
    dsimp only [parsed]
    rw [frame]
    exact ⟨rfl, rfl, fun _ held => held⟩

/-- A fragment is read back exactly when its flags announce fragment info
alone. -/
theorem fragment_reads_back_iff
    (channel : Channel)
    (type : FrameType)
    (packetId : UInt64)
    (flags : UInt16)
    {index count : Nat}
    {chunk : List UInt8}
    {stackDataOutSize : Nat}
    (indexSmall : index < 2 ^ 16)
    (countSmall : count < 2 ^ 16)
    (small : chunk.length < 2 ^ 16)
    (room : chunk.length ≤ stackDataOutSize) :
    let parsed := krsFrameCreate
      (fragmentFrame channel type packetId flags index count chunk)
      stackDataOutSize
    (parsed.protocolChar = 0x4B ∧ parsed.body = chunk ∧
        (parsed.metadata.fragmentIndex.toNat = index ∧
          parsed.metadata.fragmentTotal.toNat = count) ∧
        ∀ bit, flags.toNat.testBit bit = true ->
          parsed.presenceFlags.toNat.testBit bit = true) ↔
      announcesMore flags = false := by
  intro parsed
  have info := hasFlag_fragmentFlags_fragmentInfo flags
  have same := announcesMore_fragmentFlags flags
  constructor
  · rintro ⟨accepted, body, -⟩
    by_contra announced
    have more : announcesMore (fragmentFlags flags) = true := by
      rw [same]
      simpa using announced
    have longer := krsFrameMetadataBlockLength_pos more
    rw [if_pos info] at longer
    have layout : fragmentFrame channel type packetId flags index count
        chunk = splitHeader channel type packetId (fragmentFlags flags) ++
          ((writeU16Be index ++ writeU16Be count) ++ chunk) := by
      simp only [fragmentFrame, List.append_assoc]
    dsimp only [parsed] at accepted body
    rw [layout] at accepted body
    exact body_ne_of_unwritten channel type packetId
      (writeU16Be index ++ writeU16Be count) longer accepted body
  · intro clear
    have only : krsFrameMetadataBlockLength (fragmentFlags flags) = 4 := by
      rw [krsFrameMetadataBlockLength_of_announcesMore (same.trans clear),
        if_pos info]
    have frame := createFrame_serializedBytes
      (fragmentBuilder channel type packetId flags index count chunk) rfl
      (ofNat_length_toNat small) room
    rw [← fragmentFrame_eq_serializedBytes_of_clear channel type packetId info
      only indexSmall countSmall small] at frame
    dsimp only [parsed]
    rw [frame]
    refine ⟨rfl, rfl, ⟨?_, ?_⟩, ?_⟩
    · change (if hasFlag (fragmentFlags flags) .fragmentInfo then
        UInt16.ofNat index else 0).toNat = index
      rw [if_pos info, UInt16.toNat_ofNat', Nat.mod_eq_of_lt indexSmall]
    · change (if hasFlag (fragmentFlags flags) .fragmentInfo then
        UInt16.ofNat count else 0).toNat = count
      rw [if_pos info, UInt16.toNat_ofNat', Nat.mod_eq_of_lt countSmall]
    · intro bit held
      change (fragmentFlags flags).toNat.testBit bit = true
      rw [fragmentFlags, UInt16.toNat_or, Nat.testBit_or, held, Bool.or_true]

/-- A split that succeeds without a frame counted fragments that wrap
around. -/
theorem countWraps_of_empty
    {channel : Channel}
    {type : FrameType}
    {packetId : UInt64}
    {data : List UInt8}
    {mtu : Nat}
    {flags : UInt16}
    {allocations : SplitAllocations}
    (success : (krsFragmentSplit channel type packetId data data.length mtu
      flags allocations).base.errorCode = .success)
    (empty : (krsFragmentSplit channel type packetId data data.length mtu
      flags allocations).fragments = []) :
    CountWraps data.length mtu := by
  have outcome := krsFragmentSplit_outcome channel type packetId data
    data.length mtu flags allocations
  generalize krsFragmentSplit channel type packetId data data.length mtu
    flags allocations = result at outcome success empty
  cases outcome with
  | failed base error => exact absurd success error
  | plain mtuLarge fits arrays frames => cases empty
  | cut mtuLarge long arrays frames pool =>
      by_contra unwrapped
      obtain ⟨-, several⟩ := fragmentCount_enough mtuLarge
        (Nat.not_le.mp long) unwrapped
      have none := congrArg List.length empty
      rw [List.length_mapIdx, length_splitChunks, List.length_nil] at none
      omega

/-- For every set of additional flags, every payload and every mtu for which
the split succeeds, its frames are read back whole exactly when the flags
announce no metadata that the split does not write. -/
theorem split_reads_back_iff
    {channel : Channel}
    {type : FrameType}
    {packetId : UInt64}
    {data : List UInt8}
    {mtu stackDataOutSize : Nat}
    {additionalFlags : UInt16}
    {allocations : SplitAllocations}
    (bounded : data.length < 2 ^ 32)
    (narrow : mtu < 2 ^ 16)
    (room : mtu ≤ stackDataOutSize)
    (success : (krsFragmentSplit channel type packetId data data.length mtu
      additionalFlags allocations).base.errorCode = .success) :
    ReadsBack (krsFragmentSplit channel type packetId data data.length mtu
        additionalFlags allocations) data mtu additionalFlags
        stackDataOutSize ↔
      AnnouncesWritten data.length mtu additionalFlags := by
  by_cases empty : (krsFragmentSplit channel type packetId data data.length
      mtu additionalFlags allocations).fragments = []
  · have wraps := countWraps_of_empty success empty
    refine iff_of_true ?_ ?_
    · intro index frame found
      rw [FragmentResult.datagrams, empty, List.zipWith_nil_left] at found
      cases found
    · rw [AnnouncesWritten, if_neg (Nat.not_le.mpr wraps.2.1)]
      exact Or.inl wraps
  · obtain ⟨mtuLarge, fits, single, datagrams⟩ |
        ⟨mtuLarge, long, unwrapped, several, small, datagrams⟩ :=
      krsFragmentSplit_datagrams channel type packetId additionalFlags
        allocations bounded narrow success empty
    · have frame := plain_reads_back_iff channel type packetId
        additionalFlags (show data.length < 2 ^ 16 by omega)
        (show data.length ≤ stackDataOutSize by omega)
      rw [AnnouncesWritten, if_pos fits]
      constructor
      · intro reads
        obtain ⟨accepted, body, -, flagged⟩ := reads 0 _ (by
          rw [datagrams]
          rfl)
        rw [carried, if_pos single] at body
        exact frame.mp ⟨accepted, body, flagged⟩
      · intro announced index found emitted
        obtain ⟨accepted, body, flagged⟩ := frame.mpr announced
        rw [datagrams] at emitted
        cases index with
        | zero =>
            cases emitted
            refine ⟨accepted, ?_, fun many => absurd single many, flagged⟩
            rw [carried, if_pos single]
            exact body
        | succ index => cases emitted
    · have many : (krsFragmentSplit channel type packetId data data.length
          mtu additionalFlags allocations).fragments.length ≠ 1 := by omega
      have size (index : Nat) : (splitChunk data mtu index).length ≤
          mtu - kronosFrameHeaderLength - 4 := List.length_take_le _ _
      have frame {index : Nat} (inside : index < (krsFragmentSplit channel
          type packetId data data.length mtu additionalFlags
            allocations).fragments.length) :=
        fragment_reads_back_iff channel type packetId additionalFlags
          (inside.trans small) small
          (show (splitChunk data mtu index).length < 2 ^ 16 by
            have := size index
            omega)
          (show (splitChunk data mtu index).length ≤ stackDataOutSize by
            have := size index
            omega)
      rw [AnnouncesWritten, if_neg (Nat.not_le.mpr long)]
      constructor
      · intro reads
        have inside : 0 < (krsFragmentSplit channel type packetId data
            data.length mtu additionalFlags
              allocations).fragments.length := by omega
        obtain ⟨accepted, body, place, flagged⟩ := reads 0 _ (by
          rw [datagrams, List.getElem?_map, List.getElem?_range inside]
          rfl)
        rw [carried, if_neg many] at body
        exact Or.inr ((frame inside).mp
          ⟨accepted, body, place many, flagged⟩)
      · intro announced index found emitted
        rw [datagrams, List.getElem?_map] at emitted
        obtain ⟨position, ranged, rfl⟩ := Option.map_eq_some_iff.mp emitted
        obtain ⟨inside, rfl⟩ := List.getElem?_eq_some_iff.mp ranged
        rw [List.length_range] at inside
        rw [List.getElem_range]
        obtain ⟨accepted, body, place, flagged⟩ := (frame inside).mpr
          (announced.resolve_left unwrapped)
        refine ⟨accepted, ?_, fun _ => place, flagged⟩
        rw [carried, if_neg many]
        exact body

/-- Eight bytes with `ACK_REQUIRED` and an undefined flag are read back from
their three fragments. -/
theorem eight_bytes_read_back :
    ReadsBack (krsFragmentSplit 10 .basicMessage 1 [1, 2, 3, 4, 5, 6, 7, 8] 8
      21 0x8001 {}) [1, 2, 3, 4, 5, 6, 7, 8] 21 0x8001 1500 :=
  (split_reads_back_iff (by decide) (by decide) (by decide) rfl).mpr
    (by decide)

/-- With `TIMESTAMP` set, eight bytes of payload are read as a timestamp. -/
theorem payload_read_as_timestamp :
    ¬ ReadsBack (krsFragmentSplit 10 .basicMessage 1 [1, 2, 3, 4, 5, 6, 7, 8]
      8 1400 MetadataFlag.timestamp.mask {}) [1, 2, 3, 4, 5, 6, 7, 8] 1400
      MetadataFlag.timestamp.mask 1500 := by
  intro reads
  obtain ⟨-, body, -⟩ := reads 0 _ rfl
  exact absurd body (by decide)

end Kronos
