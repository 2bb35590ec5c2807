import Kronos.Basic
import Kronos.Frame.RoundTrip

/-!
# Splitting a payload into frames

`krsFragmentSplit` writes its frames by hand instead of using the frame
builder.  `fragmentFrame_eq_serializedBytes` shows that the hand-written bytes
are what the builder would produce, so that the parser's round trip carries
over.
-/

namespace Kronos

open Library

/-- Outcomes of the allocations of `krs_fragment_split`: the two index arrays,
and the frame buffer or pool. -/
structure SplitAllocations where
  arrays : Bool := true
  frames : Bool := true
  deriving DecidableEq, Repr

/-- `FragmentResult_t`.  `fragment_count` is the length of `fragments`;
`dataPool` is the size of the shared pool, when there is one. -/
structure FragmentResult where
  base : KronosResult
  fragments : List (List UInt8) := []
  fragmentSizes : List Nat := []
  dataPool : Option Nat := none
  deriving DecidableEq, Repr

/-- The fourteen header bytes, as `krs_fragment_split` writes them. -/
def splitHeader
    (channel : Channel)
    (type : FrameType)
    (packetId : UInt64)
    (flags : UInt16) : List UInt8 :=
  [0x4B, versionByte, channel, type.code] ++ writeU16Be flags.toNat ++
    writeU64Be packetId.toNat

/-- `s_build_plain_frame`: a frame without fragment info. -/
def buildPlainFrame
    (channel : Channel)
    (type : FrameType)
    (packetId : UInt64)
    (data : List UInt8)
    (flags : UInt16) : List UInt8 :=
  splitHeader channel type packetId flags ++ data

/-- The flags of a fragment: `FRAGMENT_INFO` and the additional ones. -/
def fragmentFlags (additionalFlags : UInt16) : UInt16 :=
  MetadataFlag.fragmentInfo.mask ||| additionalFlags

/-- One fragment, as the second loop of `krs_fragment_split` writes it. -/
def fragmentFrame
    (channel : Channel)
    (type : FrameType)
    (packetId : UInt64)
    (additionalFlags : UInt16)
    (index count : Nat)
    (chunk : List UInt8) : List UInt8 :=
  splitHeader channel type packetId (fragmentFlags additionalFlags) ++
    writeU16Be index ++ writeU16Be count ++ chunk

theorem length_buildPlainFrame
    (channel : Channel)
    (type : FrameType)
    (packetId : UInt64)
    (data : List UInt8)
    (flags : UInt16) :
    (buildPlainFrame channel type packetId data flags).length =
      kronosFrameHeaderLength + data.length := by
  simp only [buildPlainFrame, splitHeader, List.length_append,
    List.length_cons, List.length_nil, length_writeU16Be, length_writeU64Be,
    kronosFrameHeaderLength]

theorem length_fragmentFrame
    (channel : Channel)
    (type : FrameType)
    (packetId : UInt64)
    (flags : UInt16)
    (index count : Nat)
    (chunk : List UInt8) :
    (fragmentFrame channel type packetId flags index count chunk).length =
      kronosFrameHeaderLength + 4 + chunk.length := by
  simp only [fragmentFrame, splitHeader, List.length_append,
    List.length_cons, List.length_nil, length_writeU16Be, length_writeU64Be,
    kronosFrameHeaderLength]

/-- The chunk size both loops compute at a data offset, in 32-bit arithmetic
and then narrowed to 16 bits. -/
def chunkSize (dataLength payloadPerFrag dataOffset : Nat) : Nat :=
  let remaining := (dataLength + 2 ^ 32 - dataOffset) % 2 ^ 32
  if remaining > payloadPerFrag then payloadPerFrag else remaining % 2 ^ 16

/-- The first loop: the 32-bit size of the pool that holds all fragments. -/
def totalPoolSize (dataLength payloadPerFrag : Nat) : Nat -> Nat -> Nat -> Nat
  | 0, _, total => total
  | left + 1, offset, total =>
      let chunk := chunkSize dataLength payloadPerFrag offset
      totalPoolSize dataLength payloadPerFrag left
        ((offset + chunk) % 2 ^ 32)
        ((total + (kronosFrameHeaderLength + 4 + chunk)) % 2 ^ 32)

/-- The second loop: the chunks of data that the fragments carry, from a data
offset on. -/
def splitChunks
    (data : List UInt8)
    (dataLength payloadPerFrag : Nat) : Nat -> Nat -> List (List UInt8)
  | 0, _ => []
  | left + 1, offset =>
      let chunk := chunkSize dataLength payloadPerFrag offset
      (data.drop offset).take chunk ::
        splitChunks data dataLength payloadPerFrag left
          ((offset + chunk) % 2 ^ 32)

/-- The second loop: the chunk sizes of the fragments, from an offset on. -/
def splitSizes (dataLength payloadPerFrag : Nat) : Nat -> Nat -> List Nat
  | 0, _ => []
  | left + 1, offset =>
      let chunk := chunkSize dataLength payloadPerFrag offset
      chunk :: splitSizes dataLength payloadPerFrag left
        ((offset + chunk) % 2 ^ 32)

/-- `krs_fragment_split` on a payload of `dataLength` bytes. -/
def krsFragmentSplit
    (channel : Channel)
    (type : FrameType)
    (packetId : UInt64)
    (data : List UInt8)
    (dataLength mtu : Nat)
    (additionalFlags : UInt16)
    (allocations : SplitAllocations) : FragmentResult :=
  if mtu ≤ kronosFrameHeaderLength then
    { base := .wMsg .invalidParameter "mtu too small for frame header" }
  else if dataLength ≤ mtu - kronosFrameHeaderLength then
    if !allocations.arrays then
      { base := .wMsg .memoryAllocation "allocation failed" }
    else if !allocations.frames then
      { base := .wMsg .memoryAllocation "frame allocation failed" }
    else
      { base := .suc
        fragments := [buildPlainFrame channel type packetId
          (data.take dataLength) additionalFlags]
        fragmentSizes :=
          [(kronosFrameHeaderLength + dataLength) % 2 ^ 16] }
  else if mtu ≤ kronosFrameHeaderLength + 4 then
    { base := .wMsg .invalidParameter "mtu too small for fragment header" }
  else
    let payloadPerFrag := mtu - kronosFrameHeaderLength - 4
    let count := (dataLength + payloadPerFrag - 1) % 2 ^ 32 / payloadPerFrag
    if count > 2 ^ 16 - 1 then
      { base := .wMsg .invalidParameter "too many fragments needed" }
    else if !allocations.arrays then
      { base := .wMsg .memoryAllocation "allocation failed" }
    else if !allocations.frames then
      { base := .wMsg .memoryAllocation "pool allocation failed" }
    else
      let chunks := splitChunks data dataLength payloadPerFrag count 0
      { base := .suc
        fragments := chunks.mapIdx fun index chunk =>
          fragmentFrame channel type packetId additionalFlags index count
            chunk
        fragmentSizes :=
          (splitSizes dataLength payloadPerFrag count 0).map fun chunk =>
            (kronosFrameHeaderLength + 4 + chunk) % 2 ^ 16
        dataPool := some (totalPoolSize dataLength payloadPerFrag count 0 0) }

/-- A payload that fits one frame is not split. -/
theorem krsFragmentSplit_plain
    (channel : Channel)
    (type : FrameType)
    (packetId : UInt64)
    (data : List UInt8)
    (flags : UInt16)
    {dataLength mtu : Nat}
    {allocations : SplitAllocations}
    (mtuLarge : kronosFrameHeaderLength < mtu)
    (fits : dataLength ≤ mtu - kronosFrameHeaderLength)
    (arrays : allocations.arrays = true)
    (frames : allocations.frames = true) :
    krsFragmentSplit channel type packetId data dataLength mtu flags
        allocations =
      { base := .suc
        fragments := [buildPlainFrame channel type packetId
          (data.take dataLength) flags]
        fragmentSizes :=
          [(kronosFrameHeaderLength + dataLength) % 2 ^ 16] } := by
  unfold krsFragmentSplit
  rw [if_neg (Nat.not_le.mpr mtuLarge), if_pos fits, arrays, frames]
  rfl

/-- The number of fragments of a payload. -/
def fragmentCount (dataLength mtu : Nat) : Nat :=
  (dataLength + (mtu - kronosFrameHeaderLength - 4) - 1) % 2 ^ 32 /
    (mtu - kronosFrameHeaderLength - 4)

/-- A longer payload is cut into numbered fragments. -/
theorem krsFragmentSplit_fragments
    (channel : Channel)
    (type : FrameType)
    (packetId : UInt64)
    (data : List UInt8)
    (flags : UInt16)
    {dataLength mtu : Nat}
    {allocations : SplitAllocations}
    (mtuLarge : kronosFrameHeaderLength + 4 < mtu)
    (long : ¬ dataLength ≤ mtu - kronosFrameHeaderLength)
    (countSmall : fragmentCount dataLength mtu ≤ 2 ^ 16 - 1)
    (arrays : allocations.arrays = true)
    (frames : allocations.frames = true) :
    let payloadPerFrag := mtu - kronosFrameHeaderLength - 4
    let count := fragmentCount dataLength mtu
    krsFragmentSplit channel type packetId data dataLength mtu flags
        allocations =
      { base := .suc
        fragments :=
          (splitChunks data dataLength payloadPerFrag count 0).mapIdx
            fun index chunk =>
              fragmentFrame channel type packetId flags index count chunk
        fragmentSizes :=
          (splitSizes dataLength payloadPerFrag count 0).map fun chunk =>
            (kronosFrameHeaderLength + 4 + chunk) % 2 ^ 16
        dataPool :=
          some (totalPoolSize dataLength payloadPerFrag count 0 0) } := by
  have headerFits : ¬ mtu ≤ kronosFrameHeaderLength := by omega
  unfold fragmentCount at countSmall ⊢
  unfold krsFragmentSplit
  rw [if_neg headerFits, if_neg long, if_neg (Nat.not_le.mpr mtuLarge)]
  simp only
  rw [if_neg (Nat.not_lt.mpr countSmall), arrays, frames]
  rfl

/-- A split reports a valid result together with its success. -/
theorem krsFragmentSplit_valid
    (channel : Channel)
    (type : FrameType)
    (packetId : UInt64)
    (data : List UInt8)
    (dataLength mtu : Nat)
    (flags : UInt16)
    (allocations : SplitAllocations) :
    let result := krsFragmentSplit channel type packetId data dataLength mtu
      flags allocations
    result.base.valid = decide (result.base.errorCode = .success) := by
  unfold krsFragmentSplit
  dsimp only
  split_ifs <;> rfl

/-- How a split can end. -/
inductive SplitOutcome
    (channel : Channel)
    (type : FrameType)
    (packetId : UInt64)
    (data : List UInt8)
    (dataLength mtu : Nat)
    (flags : UInt16)
    (allocations : SplitAllocations) : FragmentResult -> Prop
  | failed
      (base : KronosResult)
      (error : base.errorCode ≠ .success) :
      SplitOutcome channel type packetId data dataLength mtu flags
        allocations { base := base }
  | plain
      (mtuLarge : kronosFrameHeaderLength < mtu)
      (fits : dataLength ≤ mtu - kronosFrameHeaderLength)
      (arrays : allocations.arrays = true)
      (frames : allocations.frames = true) :
      SplitOutcome channel type packetId data dataLength mtu flags allocations
        { base := .suc
          fragments := [buildPlainFrame channel type packetId
            (data.take dataLength) flags]
          fragmentSizes :=
            [(kronosFrameHeaderLength + dataLength) % 2 ^ 16] }
  | cut
      (mtuLarge : kronosFrameHeaderLength + 4 < mtu)
      (long : ¬ dataLength ≤ mtu - kronosFrameHeaderLength)
      (arrays : allocations.arrays = true)
      (frames : allocations.frames = true)
      (pool : Option Nat) :
      SplitOutcome channel type packetId data dataLength mtu flags allocations
        { base := .suc
          fragments :=
            (splitChunks data dataLength (mtu - kronosFrameHeaderLength - 4)
                (fragmentCount dataLength mtu) 0).mapIdx fun index chunk =>
              fragmentFrame channel type packetId flags index
                (fragmentCount dataLength mtu) chunk
          fragmentSizes :=
            (splitSizes dataLength (mtu - kronosFrameHeaderLength - 4)
                (fragmentCount dataLength mtu) 0).map fun chunk =>
              (kronosFrameHeaderLength + 4 + chunk) % 2 ^ 16
          dataPool := pool }

theorem krsFragmentSplit_outcome
    (channel : Channel)
    (type : FrameType)
    (packetId : UInt64)
    (data : List UInt8)
    (dataLength mtu : Nat)
    (flags : UInt16)
    (allocations : SplitAllocations) :
    SplitOutcome channel type packetId data dataLength mtu flags allocations
      (krsFragmentSplit channel type packetId data dataLength mtu flags
        allocations) := by
  unfold krsFragmentSplit
  by_cases small : mtu ≤ kronosFrameHeaderLength
  · rw [if_pos small]
    exact .failed _ (by simp [KronosResult.wMsg])
  rw [if_neg small]
  by_cases fits : dataLength ≤ mtu - kronosFrameHeaderLength
  · rw [if_pos fits]
    cases arrays : allocations.arrays with
    | false => exact .failed _ (by simp [KronosResult.wMsg])
    | true =>
        cases frames : allocations.frames with
        | false => exact .failed _ (by simp [KronosResult.wMsg])
        | true => exact .plain (Nat.not_le.mp small) fits arrays frames
  rw [if_neg fits]
  by_cases narrow : mtu ≤ kronosFrameHeaderLength + 4
  · rw [if_pos narrow]
    exact .failed _ (by simp [KronosResult.wMsg])
  rw [if_neg narrow]
  dsimp only
  split
  case isTrue => exact .failed _ (by simp [KronosResult.wMsg])
  case isFalse =>
    cases arrays : allocations.arrays with
    | false => exact .failed _ (by simp [KronosResult.wMsg])
    | true =>
        cases frames : allocations.frames with
        | false => exact .failed _ (by simp [KronosResult.wMsg])
        | true => exact .cut (Nat.not_le.mp narrow) fits arrays frames _

/-- The datagrams of a split: each fragment, cut to its recorded size. -/
def FragmentResult.datagrams (result : FragmentResult) : List (List UInt8) :=
  List.zipWith (fun fragment size => fragment.take size)
    result.fragments result.fragmentSizes

/-! ## The frames of a split, as the builder writes them -/

/-- The builder for a frame without fragment info. -/
def plainBuilder
    (channel : Channel)
    (type : FrameType)
    (packetId : UInt64)
    (data : List UInt8)
    (flags : UInt16) : FrameBuilder :=
  { channel := channel
    type := type.code
    packetId := packetId
    presenceFlags := flags
    data := some data
    dataLength := UInt16.ofNat data.length }

/-- The builder for one fragment. -/
def fragmentBuilder
    (channel : Channel)
    (type : FrameType)
    (packetId : UInt64)
    (additionalFlags : UInt16)
    (index count : Nat)
    (chunk : List UInt8) : FrameBuilder :=
  { channel := channel
    type := type.code
    packetId := packetId
    presenceFlags := fragmentFlags additionalFlags
    metadata :=
      { fragmentIndex := UInt16.ofNat index
        fragmentTotal := UInt16.ofNat count }
    data := some chunk
    dataLength := UInt16.ofNat chunk.length }

/-- The flags a sender passes to the splitter: `ACK_REQUIRED` or none. -/
def ackFlags (requireAck : Bool) : UInt16 :=
  if requireAck then MetadataFlag.ackRequired.mask else 0

/-- Of the flags of a plain frame only `ACK_REQUIRED` can be set. -/
theorem hasFlag_ackFlags (requireAck : Bool) (flag : MetadataFlag) :
    hasFlag (ackFlags requireAck) flag =
      (requireAck && decide (flag = .ackRequired)) := by
  cases requireAck <;> cases flag <;> decide

/-- A fragment carries `FRAGMENT_INFO` and, on request, `ACK_REQUIRED`. -/
theorem hasFlag_fragmentFlags (requireAck : Bool) (flag : MetadataFlag) :
    hasFlag (fragmentFlags (ackFlags requireAck)) flag =
      (decide (flag = .fragmentInfo) ||
        (requireAck && decide (flag = .ackRequired))) := by
  cases requireAck <;> cases flag <;> decide

theorem ofNat_length_toNat
    {data : List UInt8}
    (small : data.length < 2 ^ 16) :
    data.length = (UInt16.ofNat data.length).toNat := by
  rw [UInt16.toNat_ofNat', Nat.mod_eq_of_lt small]

/-- A builder without metadata serializes its header and its body. -/
theorem serializedBytes_of_no_metadata
    (builder : FrameBuilder)
    (clear : krsFrameMetadataBlockLength builder.presenceFlags = 0) :
    builder.serializedBytes = builder.headerBytes ++ builder.bodyBytes := by
  have metadata := builder.length_metadataBytes
  rw [clear, List.length_eq_zero_iff] at metadata
  simp only [List.append_eq_nil_iff] at metadata
  obtain ⟨⟨⟨fragmentInfo, ackId⟩, priority⟩, timestamp⟩ := metadata
  simp only [FrameBuilder.serializedBytes, fragmentInfo, ackId, priority,
    timestamp, List.append_nil]

/-- A builder with fragment info and no other metadata serializes it between
its header and its body. -/
theorem serializedBytes_of_fragmentInfo
    (builder : FrameBuilder)
    (flagged : hasFlag builder.presenceFlags .fragmentInfo = true)
    (clear : krsFrameMetadataBlockLength builder.presenceFlags = 4) :
    builder.serializedBytes = builder.headerBytes ++
      (writeU16Be builder.metadata.fragmentIndex.toNat ++
        writeU16Be builder.metadata.fragmentTotal.toNat) ++
      builder.bodyBytes := by
  have info : builder.fragmentInfoBytes =
      writeU16Be builder.metadata.fragmentIndex.toNat ++
        writeU16Be builder.metadata.fragmentTotal.toNat := by
    rw [FrameBuilder.fragmentInfoBytes, if_pos flagged]
  have metadata := builder.length_metadataBytes
  simp only [info, clear, List.length_append, length_writeU16Be] at metadata
  have ackId : builder.ackIdBytes = [] :=
    List.length_eq_zero_iff.mp (by omega)
  have priority : builder.priorityBytes = [] :=
    List.length_eq_zero_iff.mp (by omega)
  have timestamp : builder.timestampBytes = [] :=
    List.length_eq_zero_iff.mp (by omega)
  simp only [FrameBuilder.serializedBytes, info, ackId, priority, timestamp,
    List.append_nil]

/-- A plain frame whose flags announce no metadata is what the builder
serializes. -/
theorem buildPlainFrame_eq_serializedBytes_of_clear
    (channel : Channel)
    (type : FrameType)
    (packetId : UInt64)
    {flags : UInt16}
    {data : List UInt8}
    (clear : krsFrameMetadataBlockLength flags = 0)
    (small : data.length < 2 ^ 16) :
    buildPlainFrame channel type packetId data flags =
      (plainBuilder channel type packetId data flags).serializedBytes := by
  have body : (plainBuilder channel type packetId data flags).bodyBytes =
      data := by
    change data.take (UInt16.ofNat data.length).toNat = data
    rw [← ofNat_length_toNat small, List.take_length]
  rw [serializedBytes_of_no_metadata
    (plainBuilder channel type packetId data flags) clear, body]
  rfl

/-- A fragment whose flags announce fragment info alone is what the builder
serializes. -/
theorem fragmentFrame_eq_serializedBytes_of_clear
    (channel : Channel)
    (type : FrameType)
    (packetId : UInt64)
    {flags : UInt16}
    {index count : Nat}
    {chunk : List UInt8}
    (flagged : hasFlag (fragmentFlags flags) .fragmentInfo = true)
    (clear : krsFrameMetadataBlockLength (fragmentFlags flags) = 4)
    (indexSmall : index < 2 ^ 16)
    (countSmall : count < 2 ^ 16)
    (small : chunk.length < 2 ^ 16) :
    fragmentFrame channel type packetId flags index count chunk =
      (fragmentBuilder channel type packetId flags index count
        chunk).serializedBytes := by
  have body : (fragmentBuilder channel type packetId flags index count
      chunk).bodyBytes = chunk := by
    change chunk.take (UInt16.ofNat chunk.length).toNat = chunk
    rw [← ofNat_length_toNat small, List.take_length]
  have indexWord : (UInt16.ofNat index).toNat = index := by
    rw [UInt16.toNat_ofNat', Nat.mod_eq_of_lt indexSmall]
  have countWord : (UInt16.ofNat count).toNat = count := by
    rw [UInt16.toNat_ofNat', Nat.mod_eq_of_lt countSmall]
  rw [serializedBytes_of_fragmentInfo
    (fragmentBuilder channel type packetId flags index count chunk) flagged
    clear, body, fragmentFrame]
  simp only [fragmentBuilder, indexWord, countWord, List.append_assoc]
  rfl

/-- A plain frame is what the builder serializes. -/
theorem buildPlainFrame_eq_serializedBytes
    (channel : Channel)
    (type : FrameType)
    (packetId : UInt64)
    (requireAck : Bool)
    {data : List UInt8}
    (small : data.length < 2 ^ 16) :
    buildPlainFrame channel type packetId data (ackFlags requireAck) =
      (plainBuilder channel type packetId data
        (ackFlags requireAck)).serializedBytes := by
  refine buildPlainFrame_eq_serializedBytes_of_clear channel type packetId
    ?_ small
  cases requireAck <;> decide

/-- A fragment is what the builder serializes. -/
theorem fragmentFrame_eq_serializedBytes
    (channel : Channel)
    (type : FrameType)
    (packetId : UInt64)
    (requireAck : Bool)
    {index count : Nat}
    {chunk : List UInt8}
    (indexSmall : index < 2 ^ 16)
    (countSmall : count < 2 ^ 16)
    (small : chunk.length < 2 ^ 16) :
    fragmentFrame channel type packetId (ackFlags requireAck) index count
        chunk =
      (fragmentBuilder channel type packetId (ackFlags requireAck) index
        count chunk).serializedBytes := by
  refine fragmentFrame_eq_serializedBytes_of_clear channel type packetId ?_ ?_
    indexSmall countSmall small
  · cases requireAck <;> decide
  · cases requireAck <;> decide

/-- The frame recovered from a plain frame of the splitter. -/
def plainFrame
    (channel : Channel)
    (type : FrameType)
    (packetId : UInt64)
    (requireAck : Bool)
    (data : List UInt8) : Frame :=
  { protocolChar := 0x4B
    protocolVersion := versionByte
    channel := channel
    frameType := type.code
    presenceFlags := ackFlags requireAck
    packetId := packetId
    body := data }

/-- The frame recovered from one fragment of the splitter. -/
def fragmentParsed
    (channel : Channel)
    (type : FrameType)
    (packetId : UInt64)
    (requireAck : Bool)
    (index count : Nat)
    (chunk : List UInt8) : Frame :=
  { protocolChar := 0x4B
    protocolVersion := versionByte
    channel := channel
    frameType := type.code
    presenceFlags := fragmentFlags (ackFlags requireAck)
    packetId := packetId
    metadata :=
      { fragmentIndex := UInt16.ofNat index
        fragmentTotal := UInt16.ofNat count }
    body := chunk }

theorem krsFrameCreate_buildPlainFrame
    (channel : Channel)
    (type : FrameType)
    (packetId : UInt64)
    (requireAck : Bool)
    {data : List UInt8}
    {stackDataOutSize : Nat}
    (small : data.length < 2 ^ 16)
    (room : data.length ≤ stackDataOutSize) :
    krsFrameCreate
        (buildPlainFrame channel type packetId data (ackFlags requireAck))
        stackDataOutSize =
      plainFrame channel type packetId requireAck data := by
  rw [buildPlainFrame_eq_serializedBytes channel type packetId requireAck
      small,
    createFrame_serializedBytes _ rfl (ofNat_length_toNat small) room]
  simp [FrameBuilder.frame, FrameBuilder.flaggedMetadata, plainBuilder,
    plainFrame, hasFlag_ackFlags]

theorem krsFrameCreate_fragmentFrame
    (channel : Channel)
    (type : FrameType)
    (packetId : UInt64)
    (requireAck : Bool)
    {index count : Nat}
    {chunk : List UInt8}
    {stackDataOutSize : Nat}
    (indexSmall : index < 2 ^ 16)
    (countSmall : count < 2 ^ 16)
    (small : chunk.length < 2 ^ 16)
    (room : chunk.length ≤ stackDataOutSize) :
    krsFrameCreate
        (fragmentFrame channel type packetId (ackFlags requireAck) index
          count chunk) stackDataOutSize =
      fragmentParsed channel type packetId requireAck index count chunk := by
  rw [fragmentFrame_eq_serializedBytes channel type packetId requireAck
      indexSmall countSmall small,
    createFrame_serializedBytes _ rfl (ofNat_length_toNat small) room]
  simp [FrameBuilder.frame, FrameBuilder.flaggedMetadata, fragmentBuilder,
    fragmentParsed, hasFlag_fragmentFlags]

end Kronos
