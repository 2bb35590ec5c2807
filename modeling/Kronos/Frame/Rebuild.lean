import Kronos.Frame.RoundTrip

/-!
# Rebuilding what was parsed

The other direction of the round trip.  A builder that gets the fields of a
parsed frame through its setters writes back the bytes the frame was parsed
from, if the version byte is the one of this build and no undefined flag is
set.  Both directions together are `frame_round_trip`.
-/

namespace Kronos

open Library

/-! ## Builders -/

/-- `krs_frame_builder_create` with any value of its enumeration type.  The
type is kept as the byte that the serializer writes; nothing else reads it. -/
def createBuilder (channel : UInt8) (type : UInt32) : FrameBuilder :=
  { channel := channel, type := type.toUInt8 }

/-- The calls that fill a builder in. -/
inductive BuilderCall
  | packetId (packetId : UInt64)
  | flag (position : Nat)
  | data (data : Option (List UInt8)) (length : UInt16)
  | fragmentInfo (index total : UInt16)
  | ackId (ackId : UInt64)
  | priority (priority : UInt8)
  | timestamp (timestampMs : UInt64)

/-- One call of a setter.  `krs_frame_builder_set_flag` ignores positions that
are not flags. -/
def applyCall (builder : FrameBuilder) : BuilderCall -> FrameBuilder
  | .packetId packetId => builder.setPacketId packetId
  | .flag position =>
      match MetadataFlag.all[position]? with
      | none => builder
      | some flag => builder.setFlag flag
  | .data data length => builder.setData data length
  | .fragmentInfo index total => builder.setFragmentInfo index total
  | .ackId ackId => builder.setAckId ackId
  | .priority priority => builder.setPriority priority
  | .timestamp timestampMs => builder.setTimestamp timestampMs

/-- The setter call for each flag of a parsed frame. -/
def sectionCalls (frame : Frame) : List (MetadataFlag × BuilderCall) :=
  [(.ackRequired, .flag MetadataFlag.ackRequired.position),
   (.fragmentInfo, .fragmentInfo frame.metadata.fragmentIndex
     frame.metadata.fragmentTotal),
   (.ackId, .ackId frame.metadata.ackId),
   (.priority, .priority frame.metadata.priority),
   (.timestamp, .timestamp frame.metadata.timestampMs)]

/-- The setter calls that copy a parsed frame into a builder. -/
def rebuildCalls (frame : Frame) : List BuilderCall :=
  .packetId frame.packetId ::
    .data (some frame.body) (UInt16.ofNat frame.body.length) ::
    ((sectionCalls frame).filter fun call =>
      hasFlag frame.presenceFlags call.1).map Prod.snd

/-- A builder with the fields of a parsed frame. -/
def rebuild (frame : Frame) : FrameBuilder :=
  (rebuildCalls frame).foldl applyCall
    (createBuilder frame.channel frame.frameType.toUInt32)

/-- The bytes that a serialization into the buffer `out` announces. -/
def serialized (builder : FrameBuilder) (out : List UInt8) : List UInt8 :=
  let result := krsFrameBuilderSerialize builder out
  result.2.take result.1

/-- The flags that setting some of them one by one leads to. -/
def flagBits (present : MetadataFlag -> Bool) : UInt16 :=
  MetadataFlag.all.foldl (fun bits flag =>
    if present flag then bits ||| flag.mask else bits) 0

theorem small_of_clear
    {presenceFlags : UInt16}
    (clear : presenceFlags >>> 5 = 0) :
    presenceFlags.toNat < 32 := by
  have shifted := congrArg UInt16.toNat clear
  simp only [UInt16.toNat_shiftRight, Nat.shiftRight_eq_div_pow] at shifted
  change presenceFlags.toNat / 32 = 0 at shifted
  omega

/-- Flags whose undefined bits are clear are made of their defined ones. -/
theorem flagBits_hasFlag
    {presenceFlags : UInt16}
    (clear : presenceFlags >>> 5 = 0) :
    flagBits (hasFlag presenceFlags) = presenceFlags := by
  have every : ∀ bits : Fin 32,
      flagBits (hasFlag (UInt16.ofNat bits)) = UInt16.ofNat bits := by decide
  have here := every ⟨presenceFlags.toNat, small_of_clear clear⟩
  simpa using here

/-- A builder with the fields of a frame whose undefined flags are clear. -/
theorem rebuild_eq
    {frame : Frame}
    (clear : frame.presenceFlags >>> 5 = 0) :
    rebuild frame =
      { channel := frame.channel
        type := frame.frameType
        packetId := frame.packetId
        presenceFlags := frame.presenceFlags
        metadata :=
          { fragmentIndex :=
              if hasFlag frame.presenceFlags .fragmentInfo then
                frame.metadata.fragmentIndex else 0
            fragmentTotal :=
              if hasFlag frame.presenceFlags .fragmentInfo then
                frame.metadata.fragmentTotal else 0
            ackId :=
              if hasFlag frame.presenceFlags .ackId then
                frame.metadata.ackId else 0
            priority :=
              if hasFlag frame.presenceFlags .priority then
                frame.metadata.priority else 0
            timestampMs :=
              if hasFlag frame.presenceFlags .timestamp then
                frame.metadata.timestampMs else 0 }
        data := some frame.body
        dataLength := UInt16.ofNat frame.body.length } := by
  obtain ⟨protocolChar, protocolVersion, channel, frameType, presenceFlags,
    packetId, metadata, body⟩ := frame
  have flags := (flagBits_hasFlag clear).symm
  have type : frameType.toUInt32.toUInt8 = frameType := by simp
  simp only [rebuild, rebuildCalls, sectionCalls, createBuilder, type,
    flagBits, MetadataFlag.all, List.foldl_cons, List.foldl_nil,
    List.filter_cons, List.filter_nil] at flags ⊢
  generalize hasFlag presenceFlags .ackRequired = ackRequired at *
  generalize hasFlag presenceFlags .fragmentInfo = fragmentInfo at *
  generalize hasFlag presenceFlags .ackId = ackId at *
  generalize hasFlag presenceFlags .priority = priority at *
  generalize hasFlag presenceFlags .timestamp = timestamp at *
  rw [flags]
  cases ackRequired <;> cases fragmentInfo <;> cases ackId <;>
    cases priority <;> cases timestamp <;> rfl

/-! ## Sections of a parsed datagram -/

/-- Bytes that lie inside a buffer are a section of it. -/
theorem bytesAt_eq_take_drop
    {buffer : List UInt8}
    {cursor count : Nat}
    (inside : cursor + count ≤ buffer.length) :
    bytesAt buffer cursor count = (buffer.drop cursor).take count := by
  apply List.ext_getElem
  · simp [bytesAt]
    omega
  · intro position below _
    have near : cursor + position < buffer.length := by
      simp [bytesAt] at below
      omega
    simp [bytesAt, byteAt, List.getElem?_eq_getElem near]

/-- Consecutive bytes continue a prefix. -/
theorem take_append_bytesAt
    {buffer : List UInt8}
    {cursor count : Nat}
    (inside : cursor + count ≤ buffer.length) :
    buffer.take cursor ++ bytesAt buffer cursor count =
      buffer.take (cursor + count) := by
  rw [bytesAt_eq_take_drop inside, List.take_add]

theorem length_bytesAt (buffer : List UInt8) (cursor count : Nat) :
    (bytesAt buffer cursor count).length = count := by
  simp [bytesAt]

/-- A 16-bit word that was read is written back as its two bytes. -/
theorem writeU16Be_krsMathUint16FromUint8 (msByte lsByte : UInt8) :
    writeU16Be (krsMathUint16FromUint8 msByte lsByte).toNat =
      [msByte, lsByte] := by
  have horner : (krsMathUint16FromUint8 msByte lsByte).toNat =
      fromBigEndian [msByte, lsByte] := by
    have bound := fromBigEndian_lt [msByte, lsByte]
    rw [krsMathUint16FromUint8, shiftLeft_or_byte, UInt16.toNat_ofNat',
      fromBigEndian_cons, fromBigEndian_cons] at *
    simp [fromBigEndian] at *
    omega
  rw [writeU16Be_eq_bigEndian, horner]
  exact bigEndian_fromBigEndian [msByte, lsByte]

/-- A 64-bit word that was read is written back as its eight bytes. -/
theorem writeU64Be_ofNat_fromBigEndian
    {bytes : List UInt8}
    (eight : bytes.length = 8) :
    writeU64Be (UInt64.ofNat (fromBigEndian bytes)).toNat = bytes := by
  have bound := fromBigEndian_lt bytes
  rw [eight] at bound
  have whole : (UInt64.ofNat (fromBigEndian bytes)).toNat =
      fromBigEndian bytes := by
    rw [UInt64.toNat_ofNat']
    exact Nat.mod_eq_of_lt bound
  rw [writeU64Be_eq_bigEndian, whole, ← eight]
  exact bigEndian_fromBigEndian bytes

theorem take_append_fragmentInfo
    (presenceFlags : UInt16)
    (buffer : List UInt8)
    (cursor : Nat)
    (inside : (readFragmentInfo presenceFlags buffer cursor).2 ≤
      buffer.length) :
    buffer.take cursor ++
        (if hasFlag presenceFlags .fragmentInfo then
          writeU16Be
              (readFragmentInfo presenceFlags buffer cursor).1.1.toNat ++
            writeU16Be
              (readFragmentInfo presenceFlags buffer cursor).1.2.toNat
        else []) =
      buffer.take (readFragmentInfo presenceFlags buffer cursor).2 := by
  unfold readFragmentInfo at *
  generalize hasFlag presenceFlags .fragmentInfo = present at *
  cases present with
  | false => simp
  | true =>
      simp only [if_true] at inside ⊢
      rw [writeU16Be_krsMathUint16FromUint8,
        writeU16Be_krsMathUint16FromUint8, ← take_append_bytesAt inside]
      rfl

theorem take_append_metadataWord
    (present : Bool)
    (buffer : List UInt8)
    (cursor : Nat)
    (inside : (readMetadataWord present buffer cursor).2 ≤ buffer.length) :
    buffer.take cursor ++
        (if present then
          writeU64Be (readMetadataWord present buffer cursor).1.toNat
        else []) =
      buffer.take (readMetadataWord present buffer cursor).2 := by
  unfold readMetadataWord at *
  cases present with
  | false => simp
  | true =>
      simp only [if_true] at inside ⊢
      rw [readU64At_eq, writeU64Be_ofNat_fromBigEndian (length_bytesAt _ _ _),
        take_append_bytesAt inside]

theorem take_append_priority
    (presenceFlags : UInt16)
    (buffer : List UInt8)
    (cursor : Nat)
    (inside : (readPriority presenceFlags buffer cursor).2 ≤
      buffer.length) :
    buffer.take cursor ++
        (if hasFlag presenceFlags .priority then
          [(readPriority presenceFlags buffer cursor).1]
        else []) =
      buffer.take (readPriority presenceFlags buffer cursor).2 := by
  unfold readPriority at *
  generalize hasFlag presenceFlags .priority = present at *
  cases present with
  | false => simp
  | true =>
      simp only [if_true] at inside ⊢
      rw [← take_append_bytesAt inside]
      rfl

/-! ## The whole datagram -/

theorem readFragmentInfo_cursor
    (presenceFlags : UInt16)
    (buffer : List UInt8)
    (cursor : Nat) :
    (readFragmentInfo presenceFlags buffer cursor).2 =
      cursor + if hasFlag presenceFlags .fragmentInfo then 4 else 0 := by
  unfold readFragmentInfo
  split <;> rfl

theorem readMetadataWord_cursor
    (present : Bool)
    (buffer : List UInt8)
    (cursor : Nat) :
    (readMetadataWord present buffer cursor).2 =
      cursor + if present then 8 else 0 := by
  cases present <;> rfl

theorem readPriority_cursor
    (presenceFlags : UInt16)
    (buffer : List UInt8)
    (cursor : Nat) :
    (readPriority presenceFlags buffer cursor).2 =
      cursor + if hasFlag presenceFlags .priority then 1 else 0 := by
  unfold readPriority
  split <;> rfl

/-- The announced length is the sum of the section lengths. -/
theorem krsFrameMetadataBlockLength_eq (presenceFlags : UInt16) :
    krsFrameMetadataBlockLength presenceFlags =
      (if hasFlag presenceFlags .fragmentInfo then 4 else 0) +
        (if hasFlag presenceFlags .ackId then 8 else 0) +
        (if hasFlag presenceFlags .priority then 1 else 0) +
        (if hasFlag presenceFlags .timestamp then 8 else 0) := by
  simp only [krsFrameMetadataBlockLength, MetadataFlag.all, List.foldl_cons,
    List.foldl_nil, MetadataFlag.size]
  split_ifs <;> rfl

/-- All metadata blocks together have 21 bytes. -/
theorem krsFrameMetadataBlockLength_le (presenceFlags : UInt16) :
    krsFrameMetadataBlockLength presenceFlags ≤ 21 := by
  rw [krsFrameMetadataBlockLength_eq]
  split_ifs <;> omega

/-- What an accepted datagram looks like, and how it is read. -/
theorem krsFrameCreate_accepted
    {datagram : List UInt8}
    {stackDataOutSize : Nat}
    (accepted :
      (krsFrameCreate datagram stackDataOutSize).protocolChar ≠ 0) :
    let presenceFlags :=
      krsMathUint16FromUint8 (byteAt datagram 4) (byteAt datagram 5)
    byteAt datagram 0 = 0x4B ∧
      kronosFrameHeaderLength + krsFrameMetadataBlockLength presenceFlags ≤
        datagram.length ∧
      krsFrameCreate datagram stackDataOutSize =
        parseFields datagram datagram.length presenceFlags
          (datagram.length - (kronosFrameHeaderLength +
            krsFrameMetadataBlockLength presenceFlags)) := by
  have invalid : Frame.invalid.protocolChar = 0 := rfl
  unfold krsFrameCreate createFrame at *
  split at accepted
  case isTrue => exact absurd invalid accepted
  case isFalse long =>
    split at accepted
    case isTrue => exact absurd invalid accepted
    case isFalse magic =>
      split at accepted
      case isTrue => exact absurd invalid accepted
      case isFalse version =>
        dsimp only at accepted ⊢
        split at accepted
        case isTrue => exact absurd invalid accepted
        case isFalse metadata =>
          split at accepted
          case isTrue => exact absurd invalid accepted
          case isFalse room =>
            rw [if_neg long, if_neg magic, if_neg version, if_neg metadata,
              if_neg room]
            unfold krsFrameCalculateBodyLength at *
            refine ⟨not_not.mp magic, by omega, ?_⟩
            rw [Nat.sub_sub]

/-- The header of a datagram, written back. -/
theorem headerBytes_of_datagram
    {builder : FrameBuilder}
    {datagram : List UInt8}
    (magic : byteAt datagram 0 = 0x4B)
    (version : byteAt datagram 1 = versionByte)
    (channel : builder.channel = byteAt datagram 2)
    (type : builder.type = byteAt datagram 3)
    (flags : builder.presenceFlags =
      krsMathUint16FromUint8 (byteAt datagram 4) (byteAt datagram 5))
    (packetId : builder.packetId =
      krsMathUint64FromUint8 datagram 6 datagram.length)
    (long : kronosFrameHeaderLength ≤ datagram.length) :
    builder.headerBytes = datagram.take kronosFrameHeaderLength := by
  have word : writeU64Be builder.packetId.toNat = bytesAt datagram 6 8 := by
    rw [packetId, krsMathUint64FromUint8_eq datagram long]
    exact writeU64Be_ofNat_fromBigEndian (length_bytesAt _ _ _)
  have start : datagram.take 0 ++ bytesAt datagram 0 14 =
      datagram.take (0 + 14) := take_append_bytesAt long
  rw [FrameBuilder.headerBytes, word, flags,
    writeU16Be_krsMathUint16FromUint8, channel, type, ← magic, ← version]
  simpa [bytesAt, List.range_succ, kronosFrameHeaderLength] using start

/-- The metadata sections and the body of a datagram, written back behind its
header. -/
theorem sections_of_datagram
    {presenceFlags : UInt16}
    {datagram : List UInt8}
    (long : kronosFrameHeaderLength +
      krsFrameMetadataBlockLength presenceFlags ≤ datagram.length) :
    let frame := parseFields datagram datagram.length presenceFlags
      (datagram.length - (kronosFrameHeaderLength +
        krsFrameMetadataBlockLength presenceFlags))
    datagram.take kronosFrameHeaderLength ++
        (if hasFlag presenceFlags .fragmentInfo then
          writeU16Be frame.metadata.fragmentIndex.toNat ++
            writeU16Be frame.metadata.fragmentTotal.toNat
        else []) ++
        (if hasFlag presenceFlags .ackId then
          writeU64Be frame.metadata.ackId.toNat else []) ++
        (if hasFlag presenceFlags .priority then
          [frame.metadata.priority] else []) ++
        (if hasFlag presenceFlags .timestamp then
          writeU64Be frame.metadata.timestampMs.toNat else []) ++
        frame.body = datagram := by
  have total := krsFrameMetadataBlockLength_eq presenceFlags
  unfold parseFields
  dsimp only
  have fragmentEnd := readFragmentInfo_cursor presenceFlags datagram
    kronosFrameHeaderLength
  have fragment := take_append_fragmentInfo presenceFlags datagram
    kronosFrameHeaderLength
  generalize readFragmentInfo presenceFlags datagram
    kronosFrameHeaderLength = fragmentRead at *
  have ackIdEnd := readMetadataWord_cursor (hasFlag presenceFlags .ackId)
    datagram fragmentRead.2
  have ackId := take_append_metadataWord (hasFlag presenceFlags .ackId)
    datagram fragmentRead.2
  generalize readMetadataWord (hasFlag presenceFlags .ackId) datagram
    fragmentRead.2 = ackIdRead at *
  have priorityEnd := readPriority_cursor presenceFlags datagram ackIdRead.2
  have priority := take_append_priority presenceFlags datagram ackIdRead.2
  generalize readPriority presenceFlags datagram ackIdRead.2 =
    priorityRead at *
  have timestampEnd := readMetadataWord_cursor
    (hasFlag presenceFlags .timestamp) datagram priorityRead.2
  have timestamp := take_append_metadataWord
    (hasFlag presenceFlags .timestamp) datagram priorityRead.2
  generalize readMetadataWord (hasFlag presenceFlags .timestamp) datagram
    priorityRead.2 = timestampRead at *
  have behind : kronosFrameHeaderLength +
      krsFrameMetadataBlockLength presenceFlags = timestampRead.2 := by
    omega
  rw [fragment (by omega), ackId (by omega), priority (by omega),
    timestamp (by omega), behind, ← List.length_drop, List.take_length,
    List.take_append_drop]

/-- A builder with the fields of an accepted datagram writes the datagram. -/
theorem serializedBytes_rebuild
    {datagram : List UInt8}
    {stackDataOutSize : Nat}
    (short : datagram.length < 2 ^ 16)
    (accepted : (krsFrameCreate datagram stackDataOutSize).protocolChar ≠ 0)
    (version : byteAt datagram 1 = versionByte)
    (clear : (krsFrameCreate datagram stackDataOutSize).presenceFlags >>> 5 =
      0) :
    (rebuild (krsFrameCreate datagram stackDataOutSize)).serializedBytes =
      datagram := by
  obtain ⟨magic, long, parsed⟩ := krsFrameCreate_accepted accepted
  rw [rebuild_eq clear, parsed]
  generalize flagged : krsMathUint16FromUint8 (byteAt datagram 4)
    (byteAt datagram 5) = presenceFlags at *
  have sections := sections_of_datagram long
  generalize read : parseFields datagram datagram.length presenceFlags
    (datagram.length - (kronosFrameHeaderLength +
      krsFrameMetadataBlockLength presenceFlags)) = frame at *
  have flags : frame.presenceFlags = presenceFlags := by
    rw [← read]
    rfl
  have sized : (UInt16.ofNat frame.body.length).toNat =
      frame.body.length := by
    have body : frame.body.length ≤ datagram.length := by
      have total := congrArg List.length sections
      simp only [List.length_append] at total
      omega
    rw [UInt16.toNat_ofNat', Nat.mod_eq_of_lt (by omega)]
  have header : FrameBuilder.headerBytes
      { channel := frame.channel
        type := frame.frameType
        packetId := frame.packetId
        presenceFlags := frame.presenceFlags } =
      datagram.take kronosFrameHeaderLength :=
    headerBytes_of_datagram magic version (by rw [← read]; rfl)
      (by rw [← read]; rfl) (by rw [flags, flagged]) (by rw [← read]; rfl)
      (by omega)
  unfold FrameBuilder.headerBytes at header
  unfold FrameBuilder.serializedBytes FrameBuilder.headerBytes
    FrameBuilder.fragmentInfoBytes FrameBuilder.ackIdBytes
    FrameBuilder.priorityBytes FrameBuilder.timestampBytes
    FrameBuilder.bodyBytes
  dsimp only at header ⊢
  rw [header, sized, List.take_length, flags]
  generalize hasFlag presenceFlags .fragmentInfo = fragmentInfo at *
  generalize hasFlag presenceFlags .ackId = ackId at *
  generalize hasFlag presenceFlags .priority = priority at *
  generalize hasFlag presenceFlags .timestamp = timestamp at *
  cases fragmentInfo <;> cases ackId <;> cases priority <;>
    cases timestamp <;> exact sections

/-- A payload that holds the announced length gives a frame of the announced
size. -/
theorem length_serializedBytes_of_held
    {builder : FrameBuilder}
    {data : List UInt8}
    (payload : builder.data = some data)
    (held : builder.dataLength.toNat ≤ data.length) :
    builder.serializedBytes.length = kronosFrameHeaderLength +
      krsFrameMetadataBlockLength builder.presenceFlags +
        builder.dataLength.toNat := by
  have metadata := builder.length_metadataBytes
  simp only [List.length_append] at metadata
  simp only [FrameBuilder.serializedBytes, List.length_append,
    FrameBuilder.length_headerBytes, FrameBuilder.bodyBytes, payload,
    List.length_take]
  omega

/-- A frame of at most 65535 bytes is written whole to a buffer that holds
it. -/
theorem serialized_eq
    {builder : FrameBuilder}
    {data out : List UInt8}
    (payload : builder.data = some data)
    (held : builder.dataLength.toNat ≤ data.length)
    (small : builder.serializedBytes.length ≤ 65535)
    (fits : builder.serializedBytes.length ≤ out.length) :
    serialized builder out = builder.serializedBytes := by
  have length := length_serializedBytes_of_held payload held
  have size : builder.serializedSize = builder.serializedBytes.length := by
    rw [FrameBuilder.serializedSize, ← length, Nat.mod_eq_of_lt (by omega)]
  rw [serialized, krsFrameBuilderSerialize, size, if_neg (by omega)]
  exact List.take_left

/-- Parsing what a builder wrote returns the fields of the builder. -/
theorem krsFrameCreate_serializedBytes
    {builder : FrameBuilder}
    {data : List UInt8}
    {stackDataOutSize : Nat}
    (payload : builder.data = some data)
    (held : builder.dataLength.toNat ≤ data.length)
    (room : builder.dataLength.toNat ≤ stackDataOutSize) :
    krsFrameCreate builder.serializedBytes stackDataOutSize =
      builder.frame (data.take builder.dataLength.toNat) := by
  have taken : (data.take builder.dataLength.toNat).length =
      builder.dataLength.toNat := by
    rw [List.length_take]
    exact Nat.min_eq_left held
  have same : builder.serializedBytes =
      (builder.setData (some (data.take builder.dataLength.toNat))
        builder.dataLength).serializedBytes := by
    simp only [FrameBuilder.serializedBytes, FrameBuilder.bodyBytes, payload,
      FrameBuilder.setData, List.take_take, Nat.min_self]
    rfl
  rw [same]
  exact createFrame_serializedBytes _ rfl taken (taken.le.trans room)

/-- The setters leave channel and type alone. -/
theorem foldl_applyCall_channel_type
    (calls : List BuilderCall)
    (builder : FrameBuilder) :
    (calls.foldl applyCall builder).channel = builder.channel ∧
      (calls.foldl applyCall builder).type = builder.type := by
  induction calls generalizing builder with
  | nil => exact ⟨rfl, rfl⟩
  | cons call calls inductionHypothesis =>
      have kept : (applyCall builder call).channel = builder.channel ∧
          (applyCall builder call).type = builder.type := by
        cases call with
        | flag position =>
            simp only [applyCall]
            split <;> exact ⟨rfl, rfl⟩
        | packetId => exact ⟨rfl, rfl⟩
        | data => exact ⟨rfl, rfl⟩
        | fragmentInfo => exact ⟨rfl, rfl⟩
        | ackId => exact ⟨rfl, rfl⟩
        | priority => exact ⟨rfl, rfl⟩
        | timestamp => exact ⟨rfl, rfl⟩
      rw [List.foldl_cons, (inductionHypothesis _).1,
        (inductionHypothesis _).2]
      exact kept

/-- Parsing undoes serializing, for every builder that its setters lead to,
and serializing a rebuilt builder undoes parsing. -/
theorem frame_round_trip :
    (∀ (channel : UInt8) (type : UInt32) (calls : List BuilderCall)
        (data out : List UInt8) (stackDataOutSize : Nat),
      let builder := calls.foldl applyCall (createBuilder channel type)
      let total := kronosFrameHeaderLength +
        krsFrameMetadataBlockLength builder.presenceFlags +
          builder.dataLength.toNat
      builder.data = some data ->
        builder.dataLength.toNat ≤ data.length ->
          total ≤ 65535 -> total ≤ out.length ->
            builder.dataLength.toNat ≤ stackDataOutSize ->
      krsFrameCreate (serialized builder out) stackDataOutSize =
          builder.frame (data.take builder.dataLength.toNat) ∧
        builder.channel = channel ∧
        builder.type.toNat = type.toNat % 256) ∧
    (∀ (datagram out : List UInt8) (stackDataOutSize : Nat),
      let frame := krsFrameCreate datagram stackDataOutSize
      datagram.length ≤ 65535 -> frame.protocolChar ≠ 0 ->
        frame.protocolVersion = versionByte ->
          frame.presenceFlags >>> 5 = 0 -> datagram.length ≤ out.length ->
      serialized (rebuild frame) out = datagram) := by
  constructor
  · intro channel type calls data out stackDataOutSize builder total payload
      held small fits room
    have length := length_serializedBytes_of_held payload held
    obtain ⟨keptChannel, keptType⟩ := foldl_applyCall_channel_type calls
      (createBuilder channel type)
    refine ⟨?_, keptChannel, ?_⟩
    · rw [serialized_eq payload held (length.trans_le small)
        (length.trans_le fits)]
      exact krsFrameCreate_serializedBytes payload held room
    · rw [show builder.type = type.toUInt8 from keptType]
      exact UInt32.toNat_toUInt8 type
  · intro datagram out stackDataOutSize frame small accepted version clear
      fits
    have read : frame.protocolVersion = byteAt datagram 1 := by
      obtain ⟨-, -, parsed⟩ := krsFrameCreate_accepted accepted
      change (krsFrameCreate datagram stackDataOutSize).protocolVersion = _
      rw [parsed]
      rfl
    have written : (rebuild frame).serializedBytes = datagram :=
      serializedBytes_rebuild (by omega) accepted (read.symm.trans version)
        clear
    have payload : (rebuild frame).data = some frame.body := by
      rw [rebuild_eq clear]
    have held : (rebuild frame).dataLength.toNat ≤ frame.body.length := by
      rw [rebuild_eq clear, UInt16.toNat_ofNat']
      exact Nat.mod_le _ _
    rw [serialized_eq payload held (by rw [written]; exact small)
      (by rw [written]; exact fits)]
    exact written

/-- Setter calls with two metadata sections and a payload. -/
def sampleCalls : List BuilderCall :=
  [.packetId 7, .priority 9, .flag 0, .flag 5, .timestamp 1000,
   .data (some [1, 2, 3]) 3]

/-- The bytes that `sampleCalls` lead to. -/
def sampleDatagram : List UInt8 :=
  [0x4B, 32, 10, 1, 0, 25, 0, 0, 0, 0, 0, 0, 0, 7, 9, 0, 0, 0, 0, 0, 0, 3,
   232, 1, 2, 3]

/-- Both directions at a frame with priority and timestamp. -/
theorem sample_frame_round_trip :
    (krsFrameCreate
        (serialized (sampleCalls.foldl applyCall (createBuilder 10 257))
          (List.replicate 64 0)) 64).body = [1, 2, 3] ∧
      serialized (rebuild (krsFrameCreate sampleDatagram 64))
        (List.replicate 64 0) = sampleDatagram := by
  obtain ⟨parsed, -⟩ := frame_round_trip.1 10 257 sampleCalls [1, 2, 3]
    (List.replicate 64 0) 64 rfl (by decide) (by decide) (by decide)
    (by decide)
  refine ⟨?_, ?_⟩
  · rw [parsed]
    rfl
  · exact frame_round_trip.2 sampleDatagram (List.replicate 64 0) 64
      (by decide) (by decide) (by decide) (by decide) (by decide)

end Kronos
