import Kronos.Library.Bytes

/-!
# The wire format

Frames are built by `krsFrameBuilderSerialize` and parsed by `createFrame`.
A frame is a 14-byte header, a metadata block whose layout is given by the
presence flags, and the application body:

* bytes 0 to 3: `0x4B`, version, channel, frame type;
* bytes 4 and 5: presence flags, big-endian;
* bytes 6 to 13: packet id, big-endian;
* then fragment info (4), ack id (8), priority (1) and timestamp (8), each
  present when its flag is set;
* then the body.
-/

namespace Kronos

open Library

/-- Length of the fixed frame header, `KRONOS_FRAME_HEADER_LENGTH`. -/
def kronosFrameHeaderLength : Nat := 14

/-- Size of every datagram buffer, `KRONOS_BUFFER_SIZE`. -/
def kronosBufferSize : Nat := 1500

/-- Default maximum transmission unit, `KRS_DEFAULT_MTU`. -/
def krsDefaultMtu : Nat := 1400

/-- Payload bytes of one fragment, `KRS_MAX_PAYLOAD_PER_FRAGMENT`. -/
def krsMaxPayloadPerFragment : Nat :=
  krsDefaultMtu - kronosFrameHeaderLength - 4

/-- Major version of the build, from the project version `1.0.0`. -/
def kronosVersionMajor : Nat := 1

/-- Minor version of the build. -/
def kronosVersionMinor : Nat := 0

/-- Patch version of the build. -/
def kronosVersionPatch : Nat := 0

/-- Frame type codes carried in the frame header. -/
inductive FrameType
  | messageAck
  | basicMessage
  | connection
  | heartbeat
  | disconnect
  | subscribe
  | unsubscribe
  | socketAck
  deriving DecidableEq, Repr

/-- The value of an enumerator of `FrameType_e`. -/
def FrameType.code : FrameType -> UInt8
  | .messageAck => 0
  | .basicMessage => 1
  | .connection => 10
  | .heartbeat => 11
  | .disconnect => 13
  | .subscribe => 14
  | .unsubscribe => 15
  | .socketAck => 22

/-- Presence flags, named after `MetadataFlagPosition_e`. -/
inductive MetadataFlag
  | ackRequired
  | fragmentInfo
  | ackId
  | priority
  | timestamp
  deriving DecidableEq, Repr

namespace MetadataFlag

/-- Bit position of the flag in `presence_flags`. -/
def position : MetadataFlag -> Nat
  | ackRequired => 0
  | fragmentInfo => 1
  | ackId => 2
  | priority => 3
  | timestamp => 4

/-- Metadata bytes the flag announces, `KRS_METADATA_FLAG_POSITION_SIZE`. -/
def size : MetadataFlag -> Nat
  | ackRequired => 0
  | fragmentInfo => 4
  | ackId => 8
  | priority => 1
  | timestamp => 8

/-- All flags, in bit order. -/
def all : List MetadataFlag :=
  [ackRequired, fragmentInfo, ackId, priority, timestamp]

/-- The mask `1u << flag`. -/
def mask (flag : MetadataFlag) : UInt16 :=
  UInt16.ofNat (1 <<< flag.position)

end MetadataFlag

/-- The test `presence_flags & (1u << flag)`. -/
def hasFlag (presenceFlags : UInt16) (flag : MetadataFlag) : Bool :=
  presenceFlags.toNat.testBit flag.position

/-- Metadata carried between header and body. -/
structure FrameMetadata where
  fragmentIndex : UInt16 := 0
  fragmentTotal : UInt16 := 0
  ackId : UInt64 := 0
  priority : UInt8 := 0
  timestampMs : UInt64 := 0
  deriving DecidableEq, Repr

/-- A parsed frame.  `body_length` is the length of `body`. -/
structure Frame where
  protocolChar : UInt8 := 0
  protocolVersion : UInt8 := 0
  channel : UInt8 := 0
  frameType : UInt8 := 0
  presenceFlags : UInt16 := 0
  packetId : UInt64 := 0
  metadata : FrameMetadata := {}
  body : List UInt8 := []
  deriving DecidableEq, Repr

/-- The zero-initialised frame the parsers return on malformed input. -/
def Frame.invalid : Frame := {}

/-- `krs_version_encode`: major (3 bits), minor (3 bits), patch (2 bits). -/
def krsVersionEncode (major minor patch : Nat) : UInt8 :=
  UInt8.ofNat ((major &&& 7) <<< 5 ||| (minor &&& 7) <<< 2 ||| (patch &&& 3))

/-- The version byte of this build. -/
def versionByte : UInt8 :=
  krsVersionEncode kronosVersionMajor kronosVersionMinor kronosVersionPatch

/-- Length of the metadata block that a set of presence flags announces. -/
def krsFrameMetadataBlockLength (presenceFlags : UInt16) : Nat :=
  MetadataFlag.all.foldl (fun total flag =>
    if hasFlag presenceFlags flag then total + flag.size else total) 0

/-- Bytes after the header of a datagram of the given size. -/
def krsFrameCalculateBodyLength (receivedBytes : Nat) : Nat :=
  receivedBytes - kronosFrameHeaderLength

/-! ## Writing -/

/-- `s_write_u16_be`. -/
def writeU16Be (value : Nat) : List UInt8 :=
  [UInt8.ofNat (value >>> 8), UInt8.ofNat value]

/-- `s_write_u64_be`: byte `k` holds bits `8 * (7 - k)` and up. -/
def writeU64Be (value : Nat) : List UInt8 :=
  (List.range 8).map fun k => UInt8.ofNat (value >>> ((7 - k) * 8))

/-- A frame under construction.  `data` is the borrowed payload pointer. -/
structure FrameBuilder where
  channel : UInt8
  type : UInt8
  packetId : UInt64 := 0
  presenceFlags : UInt16 := 0
  metadata : FrameMetadata := {}
  data : Option (List UInt8) := none
  dataLength : UInt16 := 0
  deriving DecidableEq, Repr

/-- `krs_frame_builder_create`. -/
def krsFrameBuilderCreate (channel : UInt8) (type : FrameType) :
    FrameBuilder :=
  { channel := channel, type := type.code }

namespace FrameBuilder

/-- `krs_frame_builder_set_packet_id`. -/
def setPacketId (builder : FrameBuilder) (packetId : UInt64) : FrameBuilder :=
  { builder with packetId := packetId }

/-- `krs_frame_builder_set_flag`. -/
def setFlag (builder : FrameBuilder) (flag : MetadataFlag) : FrameBuilder :=
  { builder with presenceFlags := builder.presenceFlags ||| flag.mask }

/-- `krs_frame_builder_set_data`. -/
def setData
    (builder : FrameBuilder)
    (data : Option (List UInt8))
    (length : UInt16) : FrameBuilder :=
  { builder with data := data, dataLength := length }

/-- `krs_frame_builder_set_fragment_info`. -/
def setFragmentInfo
    (builder : FrameBuilder)
    (index total : UInt16) : FrameBuilder :=
  { builder with
    metadata :=
      { builder.metadata with fragmentIndex := index, fragmentTotal := total }
    presenceFlags :=
      builder.presenceFlags ||| MetadataFlag.fragmentInfo.mask }

/-- `krs_frame_builder_set_ack_id`. -/
def setAckId (builder : FrameBuilder) (ackId : UInt64) : FrameBuilder :=
  { builder with
    metadata := { builder.metadata with ackId := ackId }
    presenceFlags := builder.presenceFlags ||| MetadataFlag.ackId.mask }

/-- `krs_frame_builder_set_priority`. -/
def setPriority (builder : FrameBuilder) (priority : UInt8) : FrameBuilder :=
  { builder with
    metadata := { builder.metadata with priority := priority }
    presenceFlags := builder.presenceFlags ||| MetadataFlag.priority.mask }

/-- `krs_frame_builder_set_timestamp`. -/
def setTimestamp
    (builder : FrameBuilder)
    (timestampMs : UInt64) : FrameBuilder :=
  { builder with
    metadata := { builder.metadata with timestampMs := timestampMs }
    presenceFlags := builder.presenceFlags ||| MetadataFlag.timestamp.mask }

/-- The header fields, in wire order. -/
def headerBytes (builder : FrameBuilder) : List UInt8 :=
  [0x4B, versionByte, builder.channel, builder.type] ++
    writeU16Be builder.presenceFlags.toNat ++
    writeU64Be builder.packetId.toNat

/-- The fragment-info block, when its flag is set. -/
def fragmentInfoBytes (builder : FrameBuilder) : List UInt8 :=
  if hasFlag builder.presenceFlags .fragmentInfo then
    writeU16Be builder.metadata.fragmentIndex.toNat ++
      writeU16Be builder.metadata.fragmentTotal.toNat
  else []

/-- The ack-id block, when its flag is set. -/
def ackIdBytes (builder : FrameBuilder) : List UInt8 :=
  if hasFlag builder.presenceFlags .ackId then
    writeU64Be builder.metadata.ackId.toNat
  else []

/-- The priority byte, when its flag is set. -/
def priorityBytes (builder : FrameBuilder) : List UInt8 :=
  if hasFlag builder.presenceFlags .priority then
    [builder.metadata.priority]
  else []

/-- The timestamp block, when its flag is set. -/
def timestampBytes (builder : FrameBuilder) : List UInt8 :=
  if hasFlag builder.presenceFlags .timestamp then
    writeU64Be builder.metadata.timestampMs.toNat
  else []

/-- The body bytes copied behind the metadata; nothing without a payload. -/
def bodyBytes (builder : FrameBuilder) : List UInt8 :=
  match builder.data with
  | none => []
  | some data => data.take builder.dataLength.toNat

/-- Everything the serializer writes from the start of its buffer on. -/
def serializedBytes (builder : FrameBuilder) : List UInt8 :=
  builder.headerBytes ++ builder.fragmentInfoBytes ++ builder.ackIdBytes ++
    builder.priorityBytes ++ builder.timestampBytes ++ builder.bodyBytes

/-- The 16-bit frame size computed before anything is written. -/
def serializedSize (builder : FrameBuilder) : Nat :=
  (kronosFrameHeaderLength +
    krsFrameMetadataBlockLength builder.presenceFlags +
    builder.dataLength.toNat) % 2 ^ 16

end FrameBuilder

/-- `krs_frame_builder_serialize` into the buffer `out`: the returned size,
and the memory from the start of the buffer on.  The second component is
longer than `out` when the writes run past the buffer. -/
def krsFrameBuilderSerialize
    (builder : FrameBuilder)
    (out : List UInt8) : Nat × List UInt8 :=
  if out.length < builder.serializedSize then (0, out)
  else
    (builder.serializedSize,
      builder.serializedBytes ++ out.drop builder.serializedBytes.length)

/-- The bytes a caller puts on the wire after serializing into a fresh stack
buffer of the given size: the first `n` bytes of the buffer. -/
def serializeToBuffer (builder : FrameBuilder) (size : Nat) : List UInt8 :=
  let result := krsFrameBuilderSerialize builder (List.replicate size 0)
  result.2.take result.1

/-! ## Parsing -/

/-- The byte `buffer[position]`. -/
def byteAt (buffer : List UInt8) (position : Nat) : UInt8 :=
  buffer.getD position 0

/-- `krs_math_uint16_from_uint8`. -/
def krsMathUint16FromUint8 (msByte lsByte : UInt8) : UInt16 :=
  UInt16.ofNat (msByte.toNat <<< 8 ||| lsByte.toNat)

/-- `krs_math_uint64_from_uint8`: the disjunction of eight shifted bytes. -/
def krsMathUint64FromUint8
    (source : List UInt8)
    (offset sourceLength : Nat) : UInt64 :=
  if offset + 8 > sourceLength then 0
  else
    UInt64.ofNat ((List.range 8).foldl (fun result i =>
      result ||| (byteAt source (offset + i)).toNat <<< (8 * (7 - i))) 0)

/-- The loop `v = (v << 8) | buffer[cursor + k]` over eight bytes. -/
def readU64At (buffer : List UInt8) (cursor : Nat) : UInt64 :=
  UInt64.ofNat ((List.range 8).foldl (fun value k =>
    value <<< 8 ||| (byteAt buffer (cursor + k)).toNat) 0)

/-- Read the fragment index and total, and advance the cursor. -/
def readFragmentInfo
    (presenceFlags : UInt16)
    (buffer : List UInt8)
    (cursor : Nat) : (UInt16 × UInt16) × Nat :=
  if hasFlag presenceFlags .fragmentInfo then
    ((krsMathUint16FromUint8 (byteAt buffer cursor)
        (byteAt buffer (cursor + 1)),
      krsMathUint16FromUint8 (byteAt buffer (cursor + 2))
        (byteAt buffer (cursor + 3))), cursor + 4)
  else ((0, 0), cursor)

/-- Read an eight-byte metadata word, and advance the cursor. -/
def readMetadataWord
    (present : Bool)
    (buffer : List UInt8)
    (cursor : Nat) : UInt64 × Nat :=
  if present then (readU64At buffer cursor, cursor + 8) else (0, cursor)

/-- Read the priority byte, and advance the cursor. -/
def readPriority
    (presenceFlags : UInt16)
    (buffer : List UInt8)
    (cursor : Nat) : UInt8 × Nat :=
  if hasFlag presenceFlags .priority then
    (byteAt buffer cursor, cursor + 1)
  else (0, cursor)

/-- The fields of an accepted frame, read in wire order. -/
def parseFields
    (buffer : List UInt8)
    (receivedBytes : Nat)
    (presenceFlags : UInt16)
    (bodyLength : Nat) : Frame :=
  let fragment := readFragmentInfo presenceFlags buffer
    kronosFrameHeaderLength
  let ackId := readMetadataWord (hasFlag presenceFlags .ackId) buffer
    fragment.2
  let priority := readPriority presenceFlags buffer ackId.2
  let timestamp := readMetadataWord (hasFlag presenceFlags .timestamp) buffer
    priority.2
  { protocolChar := byteAt buffer 0
    protocolVersion := byteAt buffer 1
    channel := byteAt buffer 2
    frameType := byteAt buffer 3
    presenceFlags := presenceFlags
    packetId := krsMathUint64FromUint8 buffer 6 receivedBytes
    metadata :=
      { fragmentIndex := fragment.1.1
        fragmentTotal := fragment.1.2
        ackId := ackId.1
        priority := priority.1
        timestampMs := timestamp.1 }
    body := (buffer.drop timestamp.2).take bodyLength }

/-- `s_create_frame`: parse a datagram of `receivedBytes` bytes, with room
for `stackDataOutSize` body bytes. -/
def createFrame
    (buffer : List UInt8)
    (receivedBytes stackDataOutSize : Nat) : Frame :=
  if receivedBytes < kronosFrameHeaderLength then Frame.invalid
  else if byteAt buffer 0 ≠ 0x4B then Frame.invalid
  else if (byteAt buffer 1).toNat >>> 5 &&& 7 ≠ kronosVersionMajor then
    Frame.invalid
  else
    let presenceFlags :=
      krsMathUint16FromUint8 (byteAt buffer 4) (byteAt buffer 5)
    let metadataSize := krsFrameMetadataBlockLength presenceFlags
    let afterHeaderLength := krsFrameCalculateBodyLength receivedBytes
    if afterHeaderLength < metadataSize then Frame.invalid
    else if stackDataOutSize < afterHeaderLength - metadataSize then
      Frame.invalid
    else
      parseFields buffer receivedBytes presenceFlags
        (afterHeaderLength - metadataSize)

/-- `krs_frame_create` on exactly the bytes received. -/
def krsFrameCreate
    (datagram : List UInt8)
    (stackDataOutSize : Nat) : Frame :=
  createFrame datagram datagram.length stackDataOutSize

end Kronos
