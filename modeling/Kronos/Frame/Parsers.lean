import Kronos.Basic
import Kronos.Library.Access
import Kronos.Frame.Rebuild

/-!
# The three parsers

A datagram is parsed by `krs_frame_create` into a caller's buffer, by
`krs_frame_create_s` with an error for every check, and by
`krs_frame_create_heap` into memory of its own.  The checks are written out in
each of them.  Here the three are followed load by load, with the 16-bit
lengths of the source; they are shown to accept the same datagrams, to agree on
the frame, and to load nothing behind the bytes received.
-/

namespace Kronos

open Library

/-! ## The code -/

/-- `krs_math_uint16_from_uint8` on two loaded bytes. -/
def loadU16 (buffer : List UInt8) (position : Nat) : Reading UInt16 := do
  let msByte <- Reading.load (byteAt buffer) position
  let lsByte <- Reading.load (byteAt buffer) (position + 1)
  return krsMathUint16FromUint8 msByte lsByte

/-- `krs_math_uint64_from_uint8`. -/
def loadPacketId
    (source : List UInt8)
    (offset : Nat)
    (sourceLength : UInt16) : Reading UInt64 :=
  if offset + 8 > sourceLength.toNat then return 0
  else do
    let result <- (List.range 8).foldlM (fun result i => do
      let byte <- Reading.load (byteAt source) (offset + i)
      return result ||| byte.toNat <<< (8 * (7 - i))) 0
    return UInt64.ofNat result

/-- The loop `v = (v << 8) | buffer[cursor + k]`. -/
def loadU64 (buffer : List UInt8) (cursor : Nat) : Reading UInt64 := do
  let value <- (List.range 8).foldlM (fun value k => do
    let byte <- Reading.load (byteAt buffer) (cursor + k)
    return value <<< 8 ||| byte.toNat) 0
  return UInt64.ofNat value

/-- The block of `META_FLAG_FRAGMENT_INFO`, and the cursor behind it. -/
def loadFragmentInfo
    (presenceFlags : UInt16)
    (buffer : List UInt8)
    (cursor : UInt16) : Reading ((UInt16 × UInt16) × UInt16) :=
  if hasFlag presenceFlags .fragmentInfo then do
    let index <- loadU16 buffer cursor.toNat
    let total <- loadU16 buffer (cursor.toNat + 2)
    return ((index, total), cursor + 4)
  else return ((0, 0), cursor)

/-- An eight-byte metadata word, and the cursor behind it. -/
def loadMetadataWord
    (present : Bool)
    (buffer : List UInt8)
    (cursor : UInt16) : Reading (UInt64 × UInt16) :=
  if present then do
    let value <- loadU64 buffer cursor.toNat
    return (value, cursor + 8)
  else return (0, cursor)

/-- The byte of `META_FLAG_PRIORITY`, and the cursor behind it. -/
def loadPriority
    (presenceFlags : UInt16)
    (buffer : List UInt8)
    (cursor : UInt16) : Reading (UInt8 × UInt16) :=
  if hasFlag presenceFlags .priority then do
    let priority <- Reading.load (byteAt buffer) cursor.toNat
    return (priority, cursor + 1)
  else return (0, cursor)

/-- The part of `s_create_frame` behind its checks. -/
def loadFields
    (buffer : List UInt8)
    (receivedBytes presenceFlags appBodyLength : UInt16) : Reading Frame := do
  let protocolChar <- Reading.load (byteAt buffer) 0
  let protocolVersion <- Reading.load (byteAt buffer) 1
  let channel <- Reading.load (byteAt buffer) 2
  let frameType <- Reading.load (byteAt buffer) 3
  let packetId <- loadPacketId buffer 6 receivedBytes
  let fragment <- loadFragmentInfo presenceFlags buffer
    (UInt16.ofNat kronosFrameHeaderLength)
  let ackId <- loadMetadataWord (hasFlag presenceFlags .ackId) buffer
    fragment.2
  let priority <- loadPriority presenceFlags buffer ackId.2
  let timestamp <- loadMetadataWord (hasFlag presenceFlags .timestamp) buffer
    priority.2
  let body <- Reading.loadRange (byteAt buffer) timestamp.2.toNat
    appBodyLength.toNat
  return {
    protocolChar := protocolChar
    protocolVersion := protocolVersion
    channel := channel
    frameType := frameType
    presenceFlags := presenceFlags
    packetId := packetId
    metadata :=
      { fragmentIndex := fragment.1.1
        fragmentTotal := fragment.1.2
        ackId := ackId.1
        priority := priority.1
        timestampMs := timestamp.1 }
    body := body }

/-- `krs_frame_calculate_body_length`, in 16 bits. -/
def bodyLength16 (receivedBytes : UInt16) : UInt16 :=
  receivedBytes - UInt16.ofNat kronosFrameHeaderLength

/-- `krs_frame_metadata_block_length`, in 16 bits. -/
def metadataLength16 (presenceFlags : UInt16) : UInt16 :=
  UInt16.ofNat (krsFrameMetadataBlockLength presenceFlags)

/-- `s_create_frame`, and `krs_frame_create`, which only calls it.  A pointer is
`none` when it is `NULL`; of `frame_data_out` only the size is kept. -/
def createFrameReading
    (buffer : Option (List UInt8))
    (receivedBytes : UInt16)
    (frameDataOut : Option UInt16) : Reading Frame :=
  match buffer, frameDataOut with
  | some bytes, some stackDataOutSize =>
      if receivedBytes.toNat < kronosFrameHeaderLength then
        return Frame.invalid
      else do
        let magic <- Reading.load (byteAt bytes) 0
        if magic ≠ 0x4B then return Frame.invalid
        let version <- Reading.load (byteAt bytes) 1
        if version.toNat >>> 5 &&& 7 ≠ kronosVersionMajor then
          return Frame.invalid
        let presenceFlags <- loadU16 bytes 4
        let metadataSize := metadataLength16 presenceFlags
        let afterHeaderLength := bodyLength16 receivedBytes
        if afterHeaderLength < metadataSize then return Frame.invalid
        let appBodyLength := afterHeaderLength - metadataSize
        if stackDataOutSize < appBodyLength then return Frame.invalid
        loadFields bytes receivedBytes presenceFlags appBodyLength
  | _, _ => return Frame.invalid

/-- `FrameCreate_r`. -/
structure FrameCreateResult where
  base : KronosResult
  frame : Frame := Frame.invalid
  deriving DecidableEq, Repr

/-- A result with an error and no frame. -/
def FrameCreateResult.failed (error : KronosError) (message : String) :
    FrameCreateResult :=
  { base := .wMsg error message }

/-- `krs_frame_create_s`. -/
def krsFrameCreateS
    (buffer : Option (List UInt8))
    (receivedBytes : UInt16)
    (stackDataOut : Option UInt16) : Reading FrameCreateResult :=
  match buffer, stackDataOut with
  | some bytes, some stackDataOutSize =>
      if receivedBytes.toNat < kronosFrameHeaderLength then
        return .failed .frameInvalidHeader "received_bytes too small"
      else do
        let magic <- Reading.load (byteAt bytes) 0
        if magic ≠ 0x4B then
          return .failed .frameInvalidProtocol "first byte is not 0x4B"
        let version <- Reading.load (byteAt bytes) 1
        if version.toNat >>> 5 &&& 7 ≠ kronosVersionMajor then
          return .failed .frameUnsupportedVersion
            "frame major version does not match build"
        let presenceFlags <- loadU16 bytes 4
        let metadataSize := metadataLength16 presenceFlags
        let afterHeader := bodyLength16 receivedBytes
        if afterHeader < metadataSize then
          return .failed .frameInvalidHeader
            "frame too short for declared metadata block"
        let appBodyLength := afterHeader - metadataSize
        if stackDataOutSize < appBodyLength then
          return .failed .bufferTooSmall "stack_data_out_size too small"
        let frame <- createFrameReading buffer receivedBytes stackDataOut
        return { base := .suc, frame := frame }
  | _, _ =>
      return .failed .nullPointer "buffer or stack_data_out is NULL"

/-- `krs_frame_create_heap`, with the outcomes of its two allocations. -/
def krsFrameCreateHeap
    (frameAllocated bodyAllocated : Bool)
    (buffer : Option (List UInt8))
    (receivedBytes : UInt16) : Reading (Option Frame) :=
  match buffer with
  | none => return none
  | some bytes =>
      if receivedBytes.toNat < kronosFrameHeaderLength then return none
      else do
        let magic <- Reading.load (byteAt bytes) 0
        if magic ≠ 0x4B then return none
        let version <- Reading.load (byteAt bytes) 1
        if version.toNat >>> 5 &&& 7 ≠ kronosVersionMajor then return none
        let presenceFlags <- loadU16 bytes 4
        let metadataSize := metadataLength16 presenceFlags
        let afterHeader := bodyLength16 receivedBytes
        if afterHeader < metadataSize then return none
        let appBodyLength := afterHeader - metadataSize
        if frameAllocated = false then return none
        if bodyAllocated = false then return none
        let frame <- createFrameReading buffer receivedBytes
          (some appBodyLength)
        if frame.protocolChar = 0 then return none
        return some frame

/-! ## The values loaded -/

theorem loadPacketId_value
    (source : List UInt8)
    (offset : Nat)
    (sourceLength : UInt16) :
    (loadPacketId source offset sourceLength).value =
      krsMathUint64FromUint8 source offset sourceLength.toNat := by
  unfold loadPacketId krsMathUint64FromUint8
  split
  · rfl
  · rw [Reading.value_bind, Reading.value_foldlM]
    rfl

theorem loadU64_value (buffer : List UInt8) (cursor : Nat) :
    (loadU64 buffer cursor).value = readU64At buffer cursor := by
  rw [loadU64, Reading.value_bind, Reading.value_foldlM]
  rfl

/-- The `memcpy` of bytes inside the buffer. -/
theorem loadRange_value
    {buffer : List UInt8}
    {cursor count : Nat}
    (inside : cursor + count ≤ buffer.length) :
    (Reading.loadRange (byteAt buffer) cursor count).value =
      (buffer.drop cursor).take count :=
  bytesAt_eq_take_drop inside

theorem loadU16_within
    (buffer : List UInt8)
    {limit position : Nat}
    (below : position + 2 ≤ limit) :
    (loadU16 buffer position).Within limit :=
  (Reading.within_load _ (by omega)).bind
    ((Reading.within_load _ (by omega)).bind (Reading.within_pure _ _))

theorem loadPacketId_within
    (source : List UInt8)
    (offset : Nat)
    (sourceLength : UInt16) :
    (loadPacketId source offset sourceLength).Within sourceLength.toNat := by
  refine Reading.Within.ite (fun _ => Reading.within_pure _ _) fun inside => ?_
  refine Reading.Within.bind ?_ (Reading.within_pure _ _)
  refine Reading.within_foldlM ?_ 0
  intro result i member
  have small := List.mem_range.mp member
  exact (Reading.within_load _ (by omega)).bind (Reading.within_pure _ _)

theorem loadU64_within
    (buffer : List UInt8)
    {limit cursor : Nat}
    (below : cursor + 8 ≤ limit) :
    (loadU64 buffer cursor).Within limit := by
  refine Reading.Within.bind ?_ (Reading.within_pure _ _)
  refine Reading.within_foldlM ?_ 0
  intro value k member
  have small := List.mem_range.mp member
  exact (Reading.within_load _ (by omega)).bind (Reading.within_pure _ _)

/-! ## Sections -/

/-- A section loaded at a 16-bit cursor against the section read at the same
position: the same value, the same cursor behind it, and no load behind that
cursor. -/
structure SectionLoaded
    {α : Type}
    (loaded : Reading (α × UInt16))
    (read : α × Nat) : Prop where
  value : loaded.value.1 = read.1
  cursor : loaded.value.2.toNat = read.2
  within : loaded.Within read.2

section Sections

variable (buffer : List UInt8) {cursor : UInt16} {position : Nat}

/-- A 16-bit cursor that does not wrap. -/
theorem toNat_add_of_short
    {size : UInt16}
    (stands : cursor.toNat = position)
    (short : position + size.toNat < 2 ^ 16) :
    (cursor + size).toNat = position + size.toNat := by
  rw [UInt16.toNat_add, stands]
  exact Nat.mod_eq_of_lt short

theorem loadFragmentInfo_loaded
    (presenceFlags : UInt16)
    (stands : cursor.toNat = position)
    (short : position + 4 < 2 ^ 16) :
    SectionLoaded (loadFragmentInfo presenceFlags buffer cursor)
      (readFragmentInfo presenceFlags buffer position) := by
  unfold loadFragmentInfo readFragmentInfo
  split
  case isTrue =>
    refine ⟨?_, toNat_add_of_short stands short, ?_⟩
    · rw [← stands]
      rfl
    · refine (loadU16_within buffer ?_).bind
        ((loadU16_within buffer ?_).bind (Reading.within_pure _ _))
      · dsimp only
        omega
      · dsimp only
        omega
  case isFalse => exact ⟨rfl, stands, Reading.within_pure _ _⟩

theorem loadMetadataWord_loaded
    (present : Bool)
    (stands : cursor.toNat = position)
    (short : position + 8 < 2 ^ 16) :
    SectionLoaded (loadMetadataWord present buffer cursor)
      (readMetadataWord present buffer position) := by
  unfold loadMetadataWord readMetadataWord
  split
  case isTrue =>
    refine ⟨?_, toNat_add_of_short stands short, ?_⟩
    · rw [← stands]
      exact loadU64_value buffer cursor.toNat
    · refine (loadU64_within buffer ?_).bind (Reading.within_pure _ _)
      dsimp only
      omega
  case isFalse => exact ⟨rfl, stands, Reading.within_pure _ _⟩

theorem loadPriority_loaded
    (presenceFlags : UInt16)
    (stands : cursor.toNat = position)
    (short : position + 1 < 2 ^ 16) :
    SectionLoaded (loadPriority presenceFlags buffer cursor)
      (readPriority presenceFlags buffer position) := by
  unfold loadPriority readPriority
  split
  case isTrue =>
    refine ⟨?_, toNat_add_of_short stands short, ?_⟩
    · rw [← stands]
      rfl
    · refine (Reading.within_load _ ?_).bind (Reading.within_pure _ _)
      dsimp only
      omega
  case isFalse => exact ⟨rfl, stands, Reading.within_pure _ _⟩

end Sections

/-- With the metadata and the body inside the bytes received, and these inside
the buffer, the fields are those of `parseFields`, and no load is behind the
bytes received. -/
theorem loadFields_loaded
    {buffer : List UInt8}
    {receivedBytes presenceFlags appBodyLength : UInt16}
    (whole : kronosFrameHeaderLength +
      krsFrameMetadataBlockLength presenceFlags + appBodyLength.toNat =
        receivedBytes.toNat)
    (inside : receivedBytes.toNat ≤ buffer.length) :
    (loadFields buffer receivedBytes presenceFlags appBodyLength).value =
        parseFields buffer receivedBytes.toNat presenceFlags
          appBodyLength.toNat ∧
      (loadFields buffer receivedBytes presenceFlags appBodyLength).Within
        receivedBytes.toNat := by
  have header : kronosFrameHeaderLength = 14 := rfl
  have bounded := krsFrameMetadataBlockLength_le presenceFlags
  have length := krsFrameMetadataBlockLength_eq presenceFlags
  have fragment : SectionLoaded
      (loadFragmentInfo presenceFlags buffer
        (UInt16.ofNat kronosFrameHeaderLength))
      (readFragmentInfo presenceFlags buffer kronosFrameHeaderLength) :=
    loadFragmentInfo_loaded buffer presenceFlags rfl (by decide)
  have fragmentEnd := readFragmentInfo_cursor presenceFlags buffer
    kronosFrameHeaderLength
  have ackId := loadMetadataWord_loaded buffer (hasFlag presenceFlags .ackId)
    fragment.cursor (by omega)
  have ackIdEnd := readMetadataWord_cursor (hasFlag presenceFlags .ackId)
    buffer (readFragmentInfo presenceFlags buffer kronosFrameHeaderLength).2
  have priority := loadPriority_loaded buffer presenceFlags ackId.cursor
    (by omega)
  have priorityEnd := readPriority_cursor presenceFlags buffer
    (readMetadataWord (hasFlag presenceFlags .ackId) buffer
      (readFragmentInfo presenceFlags buffer kronosFrameHeaderLength).2).2
  have timestamp := loadMetadataWord_loaded buffer
    (hasFlag presenceFlags .timestamp) priority.cursor (by omega)
  have timestampEnd := readMetadataWord_cursor
    (hasFlag presenceFlags .timestamp) buffer (readPriority presenceFlags
      buffer (readMetadataWord (hasFlag presenceFlags .ackId) buffer
        (readFragmentInfo presenceFlags buffer kronosFrameHeaderLength).2).2).2
  constructor
  · unfold loadFields parseFields
    simp only [Reading.value_bind, Reading.value_pure, Reading.value_load,
      loadPacketId_value, fragment.value, ackId.value, priority.value,
      timestamp.value, timestamp.cursor]
    rw [loadRange_value (by omega)]
  · unfold loadFields
    refine (Reading.within_load _ (by omega)).bind ?_
    refine (Reading.within_load _ (by omega)).bind ?_
    refine (Reading.within_load _ (by omega)).bind ?_
    refine (Reading.within_load _ (by omega)).bind ?_
    refine (loadPacketId_within _ _ _).bind ?_
    refine (fragment.within.mono (by omega)).bind ?_
    refine (ackId.within.mono (by omega)).bind ?_
    refine (priority.within.mono (by omega)).bind ?_
    refine (timestamp.within.mono (by omega)).bind ?_
    refine (Reading.within_loadRange _ ?_).bind (Reading.within_pure _ _)
    have behind := timestamp.cursor
    omega

/-! ## The checks -/

/-- The presence flags of a datagram. -/
def datagramFlags (buffer : List UInt8) : UInt16 :=
  krsMathUint16FromUint8 (byteAt buffer 4) (byteAt buffer 5)

/-- A datagram with a header of this protocol and version, and room for the
metadata its flags announce. -/
structure AcceptedDatagram
    (buffer : List UInt8)
    (receivedBytes : Nat) : Prop where
  long : kronosFrameHeaderLength ≤ receivedBytes
  magic : byteAt buffer 0 = 0x4B
  version : (byteAt buffer 1).toNat >>> 5 &&& 7 = kronosVersionMajor
  metadata : kronosFrameHeaderLength +
    krsFrameMetadataBlockLength (datagramFlags buffer) ≤ receivedBytes

/-- The body fits into the given number of bytes. -/
def BodyFits
    (buffer : List UInt8)
    (receivedBytes capacity : Nat) : Prop :=
  receivedBytes ≤ kronosFrameHeaderLength +
    krsFrameMetadataBlockLength (datagramFlags buffer) + capacity

/-- The checks that every parser starts with, with what it returns when one of
them fails, and what it does with the flags and the length of the body. -/
def headerChecked
    {α : Type}
    (tooShort wrongMagic wrongVersion noMetadata : α)
    (bytes : List UInt8)
    (receivedBytes : UInt16)
    (rest : UInt16 -> UInt16 -> Reading α) : Reading α :=
  if receivedBytes.toNat < kronosFrameHeaderLength then return tooShort
  else do
    let magic <- Reading.load (byteAt bytes) 0
    if magic ≠ 0x4B then return wrongMagic
    let version <- Reading.load (byteAt bytes) 1
    if version.toNat >>> 5 &&& 7 ≠ kronosVersionMajor then
      return wrongVersion
    let presenceFlags <- loadU16 bytes 4
    let metadataSize := metadataLength16 presenceFlags
    let afterHeader := bodyLength16 receivedBytes
    if afterHeader < metadataSize then return noMetadata
    rest presenceFlags (afterHeader - metadataSize)

theorem createFrameReading_eq
    (bytes : List UInt8)
    (receivedBytes stackDataOutSize : UInt16) :
    createFrameReading (some bytes) receivedBytes (some stackDataOutSize) =
      headerChecked Frame.invalid Frame.invalid Frame.invalid Frame.invalid
        bytes receivedBytes fun presenceFlags appBodyLength =>
          if stackDataOutSize < appBodyLength then return Frame.invalid
          else loadFields bytes receivedBytes presenceFlags appBodyLength :=
  rfl

theorem krsFrameCreateS_eq
    (bytes : List UInt8)
    (receivedBytes stackDataOutSize : UInt16) :
    krsFrameCreateS (some bytes) receivedBytes (some stackDataOutSize) =
      headerChecked
        (.failed .frameInvalidHeader "received_bytes too small")
        (.failed .frameInvalidProtocol "first byte is not 0x4B")
        (.failed .frameUnsupportedVersion
          "frame major version does not match build")
        (.failed .frameInvalidHeader
          "frame too short for declared metadata block")
        bytes receivedBytes fun _ appBodyLength =>
          if stackDataOutSize < appBodyLength then
            return .failed .bufferTooSmall "stack_data_out_size too small"
          else do
            let frame <- createFrameReading (some bytes) receivedBytes
              (some stackDataOutSize)
            return { base := .suc, frame := frame } :=
  rfl

theorem krsFrameCreateHeap_eq
    (bytes : List UInt8)
    (receivedBytes : UInt16) :
    krsFrameCreateHeap true true (some bytes) receivedBytes =
      headerChecked none none none none bytes receivedBytes
        fun _ appBodyLength => do
          let frame <- createFrameReading (some bytes) receivedBytes
            (some appBodyLength)
          if frame.protocolChar = 0 then return none
          return some frame :=
  rfl

/-- The length of the body, in 16 bits. -/
def appBodyLength16 (buffer : List UInt8) (receivedBytes : UInt16) : UInt16 :=
  bodyLength16 receivedBytes - metadataLength16 (datagramFlags buffer)

theorem metadataLength16_toNat (presenceFlags : UInt16) :
    (metadataLength16 presenceFlags).toNat =
      krsFrameMetadataBlockLength presenceFlags := by
  have bounded := krsFrameMetadataBlockLength_le presenceFlags
  have small : krsFrameMetadataBlockLength presenceFlags < 2 ^ 16 := by omega
  exact UInt16.toNat_ofNat_of_lt' small

theorem bodyLength16_toNat
    {receivedBytes : UInt16}
    (long : kronosFrameHeaderLength ≤ receivedBytes.toNat) :
    (bodyLength16 receivedBytes).toNat =
      receivedBytes.toNat - kronosFrameHeaderLength :=
  UInt16.toNat_sub_of_le _ _ (UInt16.le_iff_toNat_le.mpr long)

/-- The 16-bit check leaves room for the metadata. -/
theorem metadata_of_not_lt
    {buffer : List UInt8}
    {receivedBytes : UInt16}
    (long : kronosFrameHeaderLength ≤ receivedBytes.toNat) :
    ¬ bodyLength16 receivedBytes < metadataLength16 (datagramFlags buffer) ↔
      kronosFrameHeaderLength +
        krsFrameMetadataBlockLength (datagramFlags buffer) ≤
          receivedBytes.toNat := by
  rw [UInt16.lt_iff_toNat_lt, bodyLength16_toNat long,
    metadataLength16_toNat]
  omega

/-- Header, metadata and body make up the bytes received. -/
theorem AcceptedDatagram.appBodyLength16_toNat
    {buffer : List UInt8}
    {receivedBytes : UInt16}
    (accepted : AcceptedDatagram buffer receivedBytes.toNat) :
    kronosFrameHeaderLength +
        krsFrameMetadataBlockLength (datagramFlags buffer) +
        (appBodyLength16 buffer receivedBytes).toNat =
      receivedBytes.toNat := by
  have room := accepted.metadata
  have enough := UInt16.not_lt.mp
    ((metadata_of_not_lt accepted.long).mpr accepted.metadata)
  rw [appBodyLength16, UInt16.toNat_sub_of_le _ _ enough,
    bodyLength16_toNat accepted.long, metadataLength16_toNat]
  omega

section Checks

variable {α : Type} {tooShort wrongMagic wrongVersion noMetadata : α}
variable {bytes : List UInt8} {receivedBytes : UInt16}
variable {rest : UInt16 -> UInt16 -> Reading α}

/-- A datagram that passes the checks goes to the rest of the parser. -/
theorem headerChecked_of_accepted
    (accepted : AcceptedDatagram bytes receivedBytes.toNat) :
    (headerChecked tooShort wrongMagic wrongVersion noMetadata bytes
        receivedBytes rest).value =
      (rest (datagramFlags bytes)
        (appBodyLength16 bytes receivedBytes)).value := by
  have enough := (metadata_of_not_lt accepted.long).mpr accepted.metadata
  rw [headerChecked, if_neg (Nat.not_lt.mpr accepted.long),
    Reading.value_bind, Reading.value_load,
    if_neg (not_not.mpr accepted.magic), Reading.value_bind,
    Reading.value_load, if_neg (not_not.mpr accepted.version),
    Reading.value_bind]
  change (if bodyLength16 receivedBytes <
    metadataLength16 (datagramFlags bytes) then _ else _ : Reading α).value = _
  rw [if_neg enough]
  rfl

/-- A datagram that fails a check gets what the parser returns there. -/
theorem headerChecked_of_rejected
    (rejected : ¬ AcceptedDatagram bytes receivedBytes.toNat)
    (property : α -> Prop)
    (short : property tooShort)
    (magic : property wrongMagic)
    (version : property wrongVersion)
    (metadata : property noMetadata) :
    property (headerChecked tooShort wrongMagic wrongVersion noMetadata bytes
      receivedBytes rest).value := by
  unfold headerChecked
  split
  case isTrue => exact short
  case isFalse long =>
    rw [Reading.value_bind]
    split
    case isTrue => exact magic
    case isFalse sameMagic =>
      rw [Reading.value_bind]
      split
      case isTrue => exact version
      case isFalse sameVersion =>
        rw [Reading.value_bind]
        dsimp only
        split
        case isTrue => exact metadata
        case isFalse room =>
          have header := Nat.le_of_not_lt long
          exact absurd
            { long := header
              magic := not_not.mp sameMagic
              version := not_not.mp sameVersion
              metadata := (metadata_of_not_lt header).mp room } rejected

/-- The checks load from the header alone, which they know to be there. -/
theorem headerChecked_within
    (further : AcceptedDatagram bytes receivedBytes.toNat ->
      (rest (datagramFlags bytes)
        (appBodyLength16 bytes receivedBytes)).Within receivedBytes.toNat) :
    (headerChecked tooShort wrongMagic wrongVersion noMetadata bytes
      receivedBytes rest).Within receivedBytes.toNat := by
  have header : kronosFrameHeaderLength = 14 := rfl
  refine Reading.Within.ite (fun _ => Reading.within_pure _ _) fun long => ?_
  refine (Reading.within_load _ (by omega)).bind ?_
  refine Reading.Within.ite (fun _ => Reading.within_pure _ _) fun magic => ?_
  refine (Reading.within_load _ (by omega)).bind ?_
  refine Reading.Within.ite (fun _ => Reading.within_pure _ _)
    fun version => ?_
  refine (loadU16_within _ (by omega)).bind ?_
  refine Reading.Within.ite (fun _ => Reading.within_pure _ _) fun room => ?_
  have whole := Nat.le_of_not_lt long
  exact further
    { long := whole
      magic := not_not.mp magic
      version := not_not.mp version
      metadata := (metadata_of_not_lt whole).mp room }

end Checks

/-! ## The parsers compared -/

section Parsers

variable {bytes : List UInt8} {receivedBytes : UInt16}

/-- The frame in an accepted datagram. -/
def parsedFrame (bytes : List UInt8) (receivedBytes : UInt16) : Frame :=
  parseFields bytes receivedBytes.toNat (datagramFlags bytes)
    (appBodyLength16 bytes receivedBytes).toNat

/-- The capacity check, in 16 bits, asks whether the body fits. -/
theorem AcceptedDatagram.bodyFits_iff
    (accepted : AcceptedDatagram bytes receivedBytes.toNat)
    (capacity : UInt16) :
    BodyFits bytes receivedBytes.toNat capacity.toNat ↔
      ¬ capacity < appBodyLength16 bytes receivedBytes := by
  have whole := accepted.appBodyLength16_toNat
  rw [UInt16.lt_iff_toNat_lt, BodyFits]
  omega

/-- The first byte of an accepted frame. -/
theorem AcceptedDatagram.parsedFrame_protocolChar
    (accepted : AcceptedDatagram bytes receivedBytes.toNat) :
    (parsedFrame bytes receivedBytes).protocolChar = 0x4B :=
  accepted.magic

theorem createFrame_of_accepted
    {receivedBytes : Nat}
    (accepted : AcceptedDatagram bytes receivedBytes)
    (capacity : Nat) :
    createFrame bytes receivedBytes capacity =
      if capacity < krsFrameCalculateBodyLength receivedBytes -
          krsFrameMetadataBlockLength (datagramFlags bytes) then
        Frame.invalid
      else
        parseFields bytes receivedBytes (datagramFlags bytes)
          (krsFrameCalculateBodyLength receivedBytes -
            krsFrameMetadataBlockLength (datagramFlags bytes)) := by
  have room : ¬ krsFrameCalculateBodyLength receivedBytes <
      krsFrameMetadataBlockLength (datagramFlags bytes) := by
    have := accepted.metadata
    rw [krsFrameCalculateBodyLength]
    omega
  rw [createFrame, if_neg (Nat.not_lt.mpr accepted.long),
    if_neg (not_not.mpr accepted.magic),
    if_neg (not_not.mpr accepted.version)]
  exact if_neg room

theorem createFrame_of_rejected
    {receivedBytes : Nat}
    (rejected : ¬ AcceptedDatagram bytes receivedBytes)
    (capacity : Nat) :
    createFrame bytes receivedBytes capacity = Frame.invalid := by
  unfold createFrame krsFrameCalculateBodyLength
  split
  case isTrue => rfl
  case isFalse long =>
    split
    case isTrue => rfl
    case isFalse magic =>
      split
      case isTrue => rfl
      case isFalse version =>
        have short : receivedBytes - kronosFrameHeaderLength <
            krsFrameMetadataBlockLength (datagramFlags bytes) := by
          by_contra room
          exact rejected
            { long := Nat.le_of_not_lt long
              magic := not_not.mp magic
              version := not_not.mp version
              metadata := by omega }
        exact if_pos short

theorem createFrameReading_of_accepted
    (inside : receivedBytes.toNat ≤ bytes.length)
    (accepted : AcceptedDatagram bytes receivedBytes.toNat)
    (capacity : UInt16) :
    (createFrameReading (some bytes) receivedBytes (some capacity)).value =
      if capacity < appBodyLength16 bytes receivedBytes then Frame.invalid
      else parsedFrame bytes receivedBytes := by
  rw [createFrameReading_eq, headerChecked_of_accepted accepted, apply_ite
    Reading.value]
  rw [(loadFields_loaded accepted.appBodyLength16_toNat inside).1]
  rfl

theorem createFrameReading_of_rejected
    (rejected : ¬ AcceptedDatagram bytes receivedBytes.toNat)
    (capacity : UInt16) :
    (createFrameReading (some bytes) receivedBytes (some capacity)).value =
      Frame.invalid := by
  rw [createFrameReading_eq]
  exact headerChecked_of_rejected rejected (· = Frame.invalid) rfl rfl rfl rfl

/-- Followed load by load, `s_create_frame` returns what `createFrame`
returns. -/
theorem createFrameReading_value
    (inside : receivedBytes.toNat ≤ bytes.length)
    (capacity : UInt16) :
    (createFrameReading (some bytes) receivedBytes (some capacity)).value =
      createFrame bytes receivedBytes.toNat capacity.toNat := by
  by_cases accepted : AcceptedDatagram bytes receivedBytes.toNat
  · have whole := accepted.appBodyLength16_toNat
    have length : krsFrameCalculateBodyLength receivedBytes.toNat -
        krsFrameMetadataBlockLength (datagramFlags bytes) =
          (appBodyLength16 bytes receivedBytes).toNat := by
      rw [krsFrameCalculateBodyLength]
      omega
    rw [createFrameReading_of_accepted inside accepted,
      createFrame_of_accepted accepted, length]
    simp only [UInt16.lt_iff_toNat_lt]
    rfl
  · rw [createFrameReading_of_rejected accepted]
    exact (createFrame_of_rejected accepted capacity.toNat).symm

theorem createFrameReading_within
    (inside : receivedBytes.toNat ≤ bytes.length)
    (capacity : UInt16) :
    (createFrameReading (some bytes) receivedBytes (some capacity)).Within
      receivedBytes.toNat := by
  rw [createFrameReading_eq]
  refine headerChecked_within fun accepted => ?_
  refine Reading.Within.ite (fun _ => Reading.within_pure _ _) fun _ => ?_
  exact (loadFields_loaded accepted.appBodyLength16_toNat inside).2

theorem krsFrameCreateS_within
    (inside : receivedBytes.toNat ≤ bytes.length)
    (capacity : UInt16) :
    (krsFrameCreateS (some bytes) receivedBytes (some capacity)).Within
      receivedBytes.toNat := by
  rw [krsFrameCreateS_eq]
  refine headerChecked_within fun accepted => ?_
  refine Reading.Within.ite (fun _ => Reading.within_pure _ _) fun _ => ?_
  exact (createFrameReading_within inside capacity).bind
    (Reading.within_pure _ _)

theorem krsFrameCreateHeap_within
    (inside : receivedBytes.toNat ≤ bytes.length) :
    (krsFrameCreateHeap true true (some bytes) receivedBytes).Within
      receivedBytes.toNat := by
  rw [krsFrameCreateHeap_eq]
  refine headerChecked_within fun accepted => ?_
  refine (createFrameReading_within inside _).bind ?_
  exact Reading.Within.ite (fun _ => Reading.within_pure _ _)
    fun _ => Reading.within_pure _ _

/-- The frame in the result is the one that `krs_frame_create` returns, and the
result is valid when that frame is. -/
theorem krsFrameCreateS_value
    (inside : receivedBytes.toNat ≤ bytes.length)
    (capacity : UInt16) :
    let created := createFrameReading (some bytes) receivedBytes
      (some capacity)
    let checked := krsFrameCreateS (some bytes) receivedBytes (some capacity)
    checked.value.frame = created.value ∧
      (checked.value.base.valid = true ↔
        created.value.protocolChar = 0x4B) := by
  have refused : ¬ Frame.invalid.protocolChar = 0x4B := by decide
  intro created checked
  dsimp only [created, checked]
  by_cases accepted : AcceptedDatagram bytes receivedBytes.toNat
  · have value := createFrameReading_of_accepted inside accepted capacity
    rw [krsFrameCreateS_eq, headerChecked_of_accepted accepted, value]
    split
    case isTrue =>
      exact ⟨rfl, iff_of_false Bool.false_ne_true refused⟩
    case isFalse full =>
      rw [if_neg full] at value
      exact ⟨value, iff_of_true rfl accepted.parsedFrame_protocolChar⟩
  · rw [createFrameReading_of_rejected accepted, krsFrameCreateS_eq]
    exact headerChecked_of_rejected accepted
      (fun result : FrameCreateResult => result.frame = Frame.invalid ∧
        (result.base.valid = true ↔ Frame.invalid.protocolChar = 0x4B))
      ⟨rfl, iff_of_false Bool.false_ne_true refused⟩
      ⟨rfl, iff_of_false Bool.false_ne_true refused⟩
      ⟨rfl, iff_of_false Bool.false_ne_true refused⟩
      ⟨rfl, iff_of_false Bool.false_ne_true refused⟩

theorem krsFrameCreateHeap_of_accepted
    (inside : receivedBytes.toNat ≤ bytes.length)
    (accepted : AcceptedDatagram bytes receivedBytes.toNat) :
    (krsFrameCreateHeap true true (some bytes) receivedBytes).value =
      some (parsedFrame bytes receivedBytes) := by
  have magic := accepted.parsedFrame_protocolChar
  have nonzero : ¬ (parsedFrame bytes receivedBytes).protocolChar = 0 := by
    rw [magic]
    decide
  have value := createFrameReading_of_accepted inside accepted
    (appBodyLength16 bytes receivedBytes)
  rw [if_neg (UInt16.lt_irrefl _)] at value
  rw [krsFrameCreateHeap_eq, headerChecked_of_accepted accepted,
    Reading.value_bind, value, if_neg nonzero]
  rfl

theorem krsFrameCreateHeap_of_rejected
    (rejected : ¬ AcceptedDatagram bytes receivedBytes.toNat) :
    (krsFrameCreateHeap true true (some bytes) receivedBytes).value =
      none := by
  rw [krsFrameCreateHeap_eq]
  exact headerChecked_of_rejected rejected (· = none) rfl rfl rfl rfl

/-- A frame is returned for the accepted datagrams whose body fits. -/
theorem createFrameReading_protocolChar_iff
    (inside : receivedBytes.toNat ≤ bytes.length)
    (capacity : UInt16) :
    (createFrameReading (some bytes) receivedBytes
        (some capacity)).value.protocolChar = 0x4B ↔
      AcceptedDatagram bytes receivedBytes.toNat ∧
        BodyFits bytes receivedBytes.toNat capacity.toNat := by
  have refused : ¬ Frame.invalid.protocolChar = 0x4B := by decide
  by_cases accepted : AcceptedDatagram bytes receivedBytes.toNat
  · rw [createFrameReading_of_accepted inside accepted,
      accepted.bodyFits_iff capacity]
    split
    case isTrue full =>
      exact iff_of_false refused fun both => both.2 full
    case isFalse room =>
      exact iff_of_true accepted.parsedFrame_protocolChar ⟨accepted, room⟩
  · rw [createFrameReading_of_rejected accepted]
    exact iff_of_false refused fun both => accepted both.1

end Parsers

/-- For every datagram and body capacity the three parsers agree, accept
exactly the well-formed datagrams whose body fits, and load nothing behind the
bytes received. -/
theorem parsers_agree
    {bytes : List UInt8}
    {receivedBytes : UInt16}
    (capacity : UInt16)
    (inside : receivedBytes.toNat ≤ bytes.length) :
    let created := createFrameReading (some bytes) receivedBytes
      (some capacity)
    let checked := krsFrameCreateS (some bytes) receivedBytes (some capacity)
    let allocated := krsFrameCreateHeap true true (some bytes) receivedBytes
    (checked.value.frame = created.value ∧
        (checked.value.base.valid = true ↔
          created.value.protocolChar = 0x4B)) ∧
      (BodyFits bytes receivedBytes.toNat capacity.toNat ->
        ∀ frame, allocated.value = some frame ↔
          created.value = frame ∧ frame.protocolChar = 0x4B) ∧
      (created.value.protocolChar = 0x4B ↔
        AcceptedDatagram bytes receivedBytes.toNat ∧
          BodyFits bytes receivedBytes.toNat capacity.toNat) ∧
      (allocated.value.isSome = true ↔
        AcceptedDatagram bytes receivedBytes.toNat) ∧
      created.Within receivedBytes.toNat ∧
      checked.Within receivedBytes.toNat ∧
      allocated.Within receivedBytes.toNat := by
  refine ⟨krsFrameCreateS_value inside capacity, ?_,
    createFrameReading_protocolChar_iff inside capacity, ?_,
    createFrameReading_within inside capacity,
    krsFrameCreateS_within inside capacity,
    krsFrameCreateHeap_within inside⟩
  · intro fits frame
    by_cases accepted : AcceptedDatagram bytes receivedBytes.toNat
    · have value := createFrameReading_of_accepted inside accepted capacity
      rw [if_neg ((accepted.bodyFits_iff capacity).mp fits)] at value
      rw [krsFrameCreateHeap_of_accepted inside accepted, value,
        Option.some_inj]
      constructor
      · rintro rfl
        exact ⟨rfl, accepted.parsedFrame_protocolChar⟩
      · exact fun both => both.1
    · rw [krsFrameCreateHeap_of_rejected accepted,
        createFrameReading_of_rejected accepted]
      refine iff_of_false nofun ?_
      rintro ⟨rfl, magic⟩
      exact absurd magic (by decide)
  · by_cases accepted : AcceptedDatagram bytes receivedBytes.toNat
    · rw [krsFrameCreateHeap_of_accepted inside accepted]
      exact iff_of_true rfl accepted
    · rw [krsFrameCreateHeap_of_rejected accepted]
      exact iff_of_false Bool.false_ne_true accepted

/-- A datagram with a priority byte and three body bytes is parsed by all. -/
theorem sample_datagram_parsed :
    (krsFrameCreateHeap true true
      (some [0x4B, 32, 10, 1, 0, 8, 0, 0, 0, 0, 0, 0, 0, 7, 9, 1, 2, 3])
        18).value.isSome = true :=
  (parsers_agree 3 (by decide)).2.2.2.1.mpr
    { long := by decide
      magic := by decide
      version := by decide
      metadata := by decide }

end Kronos
