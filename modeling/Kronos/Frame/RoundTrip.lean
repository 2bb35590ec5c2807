import Kronos.Frame.Format

/-!
# Parsing what the builder wrote

`createFrame_serializedBytes` says that parsing a serialized builder returns
the builder's own fields: the header fields, the metadata whose flag is set,
and the payload.  The proof follows the wire order.  Every metadata section is
written as a block, possibly empty, and is read back from a cursor that stands
at the end of the blocks before it.
-/

namespace Kronos

open Library

/-! ## Words -/

theorem writeU16Be_eq_bigEndian (value : Nat) :
    writeU16Be value = bigEndian 2 value := by
  simp [writeU16Be, bigEndian, Nat.shiftRight_eq_div_pow]

theorem writeU64Be_eq_bigEndian (value : Nat) :
    writeU64Be value = bigEndian 8 value := by
  simp [writeU64Be, bigEndian, List.range_succ, Nat.shiftRight_eq_div_pow]

@[simp] theorem length_writeU16Be (value : Nat) :
    (writeU16Be value).length = 2 := rfl

@[simp] theorem length_writeU64Be (value : Nat) :
    (writeU64Be value).length = 8 := by
  simp [writeU64Be]

/-- The bytes found at consecutive positions of a buffer. -/
def bytesAt (buffer : List UInt8) (cursor count : Nat) : List UInt8 :=
  (List.range count).map fun k => byteAt buffer (cursor + k)

/-- A block is found at the position at which it was written. -/
theorem bytesAt_block (before block after : List UInt8) :
    bytesAt (before ++ block ++ after) before.length block.length = block := by
  apply List.ext_getElem
  · simp [bytesAt]
  · intro position _ inBlock
    simp [bytesAt, byteAt, List.getElem?_append_right,
      List.getElem?_append_left, inBlock]

/-- A byte of a block is found at its place behind the bytes before. -/
theorem byteAt_block
    (before block after : List UInt8)
    {position : Nat}
    (inBlock : position < block.length) :
    byteAt (before ++ block ++ after) (before.length + position) =
      byteAt block position := by
  simp [byteAt, List.getElem?_append_right, List.getElem?_append_left,
    inBlock]

/-- Both bytes of a 16-bit word, read back. -/
theorem krsMathUint16FromUint8_writeU16Be (value : UInt16) :
    krsMathUint16FromUint8 (byteAt (writeU16Be value.toNat) 0)
      (byteAt (writeU16Be value.toNat) 1) = value := by
  have bound := value.toNat_lt
  have horner : (UInt8.ofNat (value.toNat >>> 8)).toNat * 256 +
      (UInt8.ofNat value.toNat).toNat = value.toNat := by
    simp only [UInt8.toNat_ofNat', Nat.shiftRight_eq_div_pow]
    omega
  rw [krsMathUint16FromUint8, shiftLeft_or_byte]
  change UInt16.ofNat ((UInt8.ofNat (value.toNat >>> 8)).toNat * 256 +
    (UInt8.ofNat value.toNat).toNat) = value
  rw [horner, UInt16.ofNat_toNat]

theorem readU64At_eq (buffer : List UInt8) (cursor : Nat) :
    readU64At buffer cursor =
      UInt64.ofNat (fromBigEndian (bytesAt buffer cursor 8)) := by
  rw [readU64At, fromBigEndian, ← foldl_shiftLeft_or_eq_hornerFrom, bytesAt,
    List.foldl_map]

/-- The disjunction the source accumulates over eight positions. -/
theorem foldl_or_shiftLeft_eq_shiftedOr (byte : Nat -> UInt8) :
    (List.range 8).foldl (fun result i =>
        result ||| (byte i).toNat <<< (8 * (7 - i))) 0 =
      shiftedOr ((List.range 8).map byte) := by
  have positions : List.range 8 = [0, 1, 2, 3, 4, 5, 6, 7] := rfl
  simp only [positions, List.foldl_cons, List.foldl_nil, List.map_cons,
    List.map_nil, shiftedOr, List.length_cons, List.length_nil,
    Nat.zero_or, Nat.or_zero, Nat.or_assoc]

theorem krsMathUint64FromUint8_eq
    (source : List UInt8)
    {offset sourceLength : Nat}
    (inside : offset + 8 ≤ sourceLength) :
    krsMathUint64FromUint8 source offset sourceLength =
      UInt64.ofNat (fromBigEndian (bytesAt source offset 8)) := by
  rw [krsMathUint64FromUint8, if_neg (by omega),
    ← shiftedOr_eq_fromBigEndian, bytesAt,
    ← foldl_or_shiftLeft_eq_shiftedOr fun i => byteAt source (offset + i)]

/-- A 64-bit word written as a block is read back from that block. -/
theorem ofNat_fromBigEndian_bytesAt_writeU64Be
    (before after : List UInt8)
    (value : UInt64) :
    UInt64.ofNat (fromBigEndian
      (bytesAt (before ++ writeU64Be value.toNat ++ after)
        before.length 8)) = value := by
  have block := bytesAt_block before (writeU64Be value.toNat) after
  rw [length_writeU64Be] at block
  rw [block, writeU64Be_eq_bigEndian,
    fromBigEndian_bigEndian_of_lt (by simpa using value.toNat_lt),
    UInt64.ofNat_toNat]

/-! ## Metadata sections -/

namespace FrameBuilder

/-- The metadata a parser recovers: fields without their flag read as zero. -/
def flaggedMetadata (builder : FrameBuilder) : FrameMetadata :=
  { fragmentIndex :=
      if hasFlag builder.presenceFlags .fragmentInfo then
        builder.metadata.fragmentIndex else 0
    fragmentTotal :=
      if hasFlag builder.presenceFlags .fragmentInfo then
        builder.metadata.fragmentTotal else 0
    ackId :=
      if hasFlag builder.presenceFlags .ackId then
        builder.metadata.ackId else 0
    priority :=
      if hasFlag builder.presenceFlags .priority then
        builder.metadata.priority else 0
    timestampMs :=
      if hasFlag builder.presenceFlags .timestamp then
        builder.metadata.timestampMs else 0 }

@[simp] theorem length_headerBytes (builder : FrameBuilder) :
    builder.headerBytes.length = kronosFrameHeaderLength := by
  simp [headerBytes, kronosFrameHeaderLength]

/-- The metadata blocks together have the announced length. -/
theorem length_metadataBytes (builder : FrameBuilder) :
    (builder.fragmentInfoBytes ++ builder.ackIdBytes ++
        builder.priorityBytes ++ builder.timestampBytes).length =
      krsFrameMetadataBlockLength builder.presenceFlags := by
  simp only [krsFrameMetadataBlockLength, MetadataFlag.all, List.foldl_cons,
    List.foldl_nil, fragmentInfoBytes, ackIdBytes, priorityBytes,
    timestampBytes, List.length_append, MetadataFlag.size]
  split_ifs <;> simp

theorem length_serializedBytes
    (builder : FrameBuilder)
    {data : List UInt8}
    (payload : builder.data = some data)
    (sized : data.length = builder.dataLength.toNat) :
    builder.serializedBytes.length =
      kronosFrameHeaderLength +
        krsFrameMetadataBlockLength builder.presenceFlags + data.length := by
  have metadata := length_metadataBytes builder
  simp only [List.length_append] at metadata
  simp only [serializedBytes, List.length_append, length_headerBytes,
    bodyBytes, payload, List.length_take, sized]
  omega

end FrameBuilder

theorem readFragmentInfo_block
    (builder : FrameBuilder)
    (before after : List UInt8) :
    readFragmentInfo builder.presenceFlags
        (before ++ builder.fragmentInfoBytes ++ after) before.length =
      ((builder.flaggedMetadata.fragmentIndex,
        builder.flaggedMetadata.fragmentTotal),
        (before ++ builder.fragmentInfoBytes).length) := by
  by_cases flagged : hasFlag builder.presenceFlags .fragmentInfo = true
  · have block : builder.fragmentInfoBytes =
        writeU16Be builder.metadata.fragmentIndex.toNat ++
          writeU16Be builder.metadata.fragmentTotal.toNat := by
      rw [FrameBuilder.fragmentInfoBytes, if_pos flagged]
    have bytes (position : Nat) (inside : position < 4) :
        byteAt (before ++ builder.fragmentInfoBytes ++ after)
            (before.length + position) =
          byteAt builder.fragmentInfoBytes position :=
      byteAt_block _ _ _ (by simpa [block] using inside)
    have index := krsMathUint16FromUint8_writeU16Be
      builder.metadata.fragmentIndex
    have total := krsMathUint16FromUint8_writeU16Be
      builder.metadata.fragmentTotal
    rw [readFragmentInfo, if_pos flagged]
    rw [show byteAt (before ++ builder.fragmentInfoBytes ++ after)
        before.length = _ from bytes 0 (by omega), bytes 1 (by omega),
      bytes 2 (by omega), bytes 3 (by omega), block]
    simp only [FrameBuilder.flaggedMetadata, flagged, if_true,
      Prod.mk.injEq]
    refine ⟨⟨index, total⟩, ?_⟩
    simp
  · simp [readFragmentInfo, FrameBuilder.flaggedMetadata,
      FrameBuilder.fragmentInfoBytes, flagged]

/-- An optional eight-byte section, read back from its block. -/
theorem readMetadataWord_block
    (present : Bool)
    (value : UInt64)
    (before after : List UInt8) :
    readMetadataWord present
        (before ++ (if present then writeU64Be value.toNat else []) ++ after)
        before.length =
      (if present then value else 0,
        (before ++ (if present then writeU64Be value.toNat else [])).length) := by
  cases present with
  | false => simp [readMetadataWord]
  | true =>
      simp only [readMetadataWord, if_true, readU64At_eq,
        ofNat_fromBigEndian_bytesAt_writeU64Be, List.length_append,
        length_writeU64Be]

theorem readPriority_block
    (builder : FrameBuilder)
    (before after : List UInt8) :
    readPriority builder.presenceFlags
        (before ++ builder.priorityBytes ++ after) before.length =
      (builder.flaggedMetadata.priority,
        (before ++ builder.priorityBytes).length) := by
  by_cases flagged : hasFlag builder.presenceFlags .priority = true
  · simp [readPriority, FrameBuilder.priorityBytes,
      FrameBuilder.flaggedMetadata, flagged, byteAt]
  · simp [readPriority, FrameBuilder.priorityBytes,
      FrameBuilder.flaggedMetadata, flagged]

/-! ## The whole frame -/

/-- The frame that a parser recovers from a serialized builder. -/
def FrameBuilder.frame
    (builder : FrameBuilder)
    (data : List UInt8) : Frame :=
  { protocolChar := 0x4B
    protocolVersion := versionByte
    channel := builder.channel
    frameType := builder.type
    presenceFlags := builder.presenceFlags
    packetId := builder.packetId
    metadata := builder.flaggedMetadata
    body := data }

/-- Header bytes are found at fixed positions whatever follows the header. -/
theorem byteAt_serializedBytes_header
    (builder : FrameBuilder)
    {position : Nat}
    (inHeader : position < kronosFrameHeaderLength) :
    byteAt builder.serializedBytes position =
      byteAt builder.headerBytes position := by
  have inBlock : position < builder.headerBytes.length := by
    simpa using inHeader
  have block := byteAt_block [] builder.headerBytes
    (builder.fragmentInfoBytes ++ builder.ackIdBytes ++
      builder.priorityBytes ++ builder.timestampBytes ++ builder.bodyBytes)
    inBlock
  simpa [FrameBuilder.serializedBytes, List.append_assoc] using block

theorem krsMathUint64FromUint8_serializedBytes
    (builder : FrameBuilder)
    {receivedBytes : Nat}
    (received : kronosFrameHeaderLength ≤ receivedBytes) :
    krsMathUint64FromUint8 builder.serializedBytes 6 receivedBytes =
      builder.packetId := by
  rw [krsMathUint64FromUint8_eq _ (by
    simp only [kronosFrameHeaderLength] at received
    omega)]
  have block := ofNat_fromBigEndian_bytesAt_writeU64Be
    ([0x4B, versionByte, builder.channel, builder.type] ++
      writeU16Be builder.presenceFlags.toNat)
    (builder.fragmentInfoBytes ++ builder.ackIdBytes ++
      builder.priorityBytes ++ builder.timestampBytes ++ builder.bodyBytes)
    builder.packetId
  simpa [FrameBuilder.serializedBytes, FrameBuilder.headerBytes,
    List.append_assoc] using block

/-- The metadata sections and the body are read back one after the other. -/
theorem parseFields_serializedBytes
    (builder : FrameBuilder)
    {data : List UInt8}
    {receivedBytes : Nat}
    (payload : builder.data = some data)
    (sized : data.length = builder.dataLength.toNat)
    (received : kronosFrameHeaderLength ≤ receivedBytes) :
    parseFields builder.serializedBytes receivedBytes builder.presenceFlags
        data.length = builder.frame data := by
  have body : builder.bodyBytes = data := by
    rw [FrameBuilder.bodyBytes, payload, ← sized]
    exact List.take_length
  have fragment := readFragmentInfo_block builder builder.headerBytes
    (builder.ackIdBytes ++ builder.priorityBytes ++ builder.timestampBytes ++
      builder.bodyBytes)
  have ackId := readMetadataWord_block
    (hasFlag builder.presenceFlags .ackId) builder.metadata.ackId
    (builder.headerBytes ++ builder.fragmentInfoBytes)
    (builder.priorityBytes ++ builder.timestampBytes ++ builder.bodyBytes)
  have priority := readPriority_block builder
    (builder.headerBytes ++ builder.fragmentInfoBytes ++ builder.ackIdBytes)
    (builder.timestampBytes ++ builder.bodyBytes)
  have timestamp := readMetadataWord_block
    (hasFlag builder.presenceFlags .timestamp) builder.metadata.timestampMs
    (builder.headerBytes ++ builder.fragmentInfoBytes ++ builder.ackIdBytes ++
      builder.priorityBytes) builder.bodyBytes
  rw [← FrameBuilder.ackIdBytes] at ackId
  rw [← FrameBuilder.timestampBytes] at timestamp
  rw [FrameBuilder.length_headerBytes] at fragment
  have layout : builder.serializedBytes =
      builder.headerBytes ++ builder.fragmentInfoBytes ++
        (builder.ackIdBytes ++ builder.priorityBytes ++
          builder.timestampBytes ++ builder.bodyBytes) := by
    simp [FrameBuilder.serializedBytes, List.append_assoc]
  have layoutAckId : builder.serializedBytes =
      builder.headerBytes ++ builder.fragmentInfoBytes ++ builder.ackIdBytes ++
        (builder.priorityBytes ++ builder.timestampBytes ++
          builder.bodyBytes) := by
    simp [FrameBuilder.serializedBytes, List.append_assoc]
  have layoutPriority : builder.serializedBytes =
      builder.headerBytes ++ builder.fragmentInfoBytes ++ builder.ackIdBytes ++
        builder.priorityBytes ++
        (builder.timestampBytes ++ builder.bodyBytes) := by
    simp [FrameBuilder.serializedBytes, List.append_assoc]
  rw [← layout] at fragment
  rw [← layoutAckId] at ackId
  rw [← layoutPriority] at priority
  rw [show builder.headerBytes ++ builder.fragmentInfoBytes ++
      builder.ackIdBytes ++ builder.priorityBytes ++ builder.timestampBytes ++
      builder.bodyBytes = builder.serializedBytes from rfl] at timestamp
  have bodyRead : (builder.serializedBytes.drop
      (builder.headerBytes ++ builder.fragmentInfoBytes ++
        builder.ackIdBytes ++ builder.priorityBytes ++
        builder.timestampBytes).length).take data.length = data := by
    rw [FrameBuilder.serializedBytes, List.drop_left, body, List.take_length]
  simp only [parseFields, fragment, ackId, priority, timestamp, bodyRead,
    krsMathUint64FromUint8_serializedBytes builder received,
    byteAt_serializedBytes_header builder
      (show 0 < kronosFrameHeaderLength by decide),
    byteAt_serializedBytes_header builder
      (show 1 < kronosFrameHeaderLength by decide),
    byteAt_serializedBytes_header builder
      (show 2 < kronosFrameHeaderLength by decide),
    byteAt_serializedBytes_header builder
      (show 3 < kronosFrameHeaderLength by decide)]
  rfl

/-- Parsing a serialized builder returns the builder's fields, provided the
datagram is parsed whole and the body fits the output buffer. -/
theorem createFrame_serializedBytes
    (builder : FrameBuilder)
    {data : List UInt8}
    {stackDataOutSize : Nat}
    (payload : builder.data = some data)
    (sized : data.length = builder.dataLength.toNat)
    (room : data.length ≤ stackDataOutSize) :
    krsFrameCreate builder.serializedBytes stackDataOutSize =
      builder.frame data := by
  have length := builder.length_serializedBytes payload sized
  have flags : krsMathUint16FromUint8 (byteAt builder.serializedBytes 4)
      (byteAt builder.serializedBytes 5) = builder.presenceFlags := by
    rw [byteAt_serializedBytes_header builder
        (show 4 < kronosFrameHeaderLength by decide),
      byteAt_serializedBytes_header builder
        (show 5 < kronosFrameHeaderLength by decide)]
    exact krsMathUint16FromUint8_writeU16Be builder.presenceFlags
  have magic : byteAt builder.serializedBytes 0 = 0x4B :=
    byteAt_serializedBytes_header builder
      (show 0 < kronosFrameHeaderLength by decide)
  have version : byteAt builder.serializedBytes 1 = versionByte :=
    byteAt_serializedBytes_header builder
      (show 1 < kronosFrameHeaderLength by decide)
  rw [krsFrameCreate, createFrame, if_neg (by omega), if_neg (by simp [magic]),
    if_neg (by rw [version]; decide)]
  simp only [flags, krsFrameCalculateBodyLength, length]
  rw [if_neg (by omega), if_neg (by omega),
    show kronosFrameHeaderLength +
      krsFrameMetadataBlockLength builder.presenceFlags + data.length -
        kronosFrameHeaderLength -
        krsFrameMetadataBlockLength builder.presenceFlags = data.length by
      omega]
  exact parseFields_serializedBytes builder payload sized (by omega)

/-- A builder whose frame fits 16 bits and the buffer is sent as written. -/
theorem serializeToBuffer_eq
    (builder : FrameBuilder)
    {data : List UInt8}
    {size : Nat}
    (payload : builder.data = some data)
    (sized : data.length = builder.dataLength.toNat)
    (fits : builder.serializedBytes.length ≤ size)
    (small : builder.serializedBytes.length < 2 ^ 16) :
    serializeToBuffer builder size = builder.serializedBytes := by
  have length := builder.length_serializedBytes payload sized
  have total : builder.serializedSize = builder.serializedBytes.length := by
    rw [FrameBuilder.serializedSize, ← sized, ← length, Nat.mod_eq_of_lt small]
  rw [serializeToBuffer, krsFrameBuilderSerialize, total,
    if_neg (by simpa using fits)]
  exact List.take_left

end Kronos
