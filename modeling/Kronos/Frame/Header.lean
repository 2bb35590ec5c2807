import Kronos.Fragment.Split
import Kronos.Frame.Rebuild

/-!
# Headers

Every sender writes the same fourteen header bytes.  A frame that starts with a
header is parsed to the fields of that header, whatever follows it and whatever
the size of the body buffer.
-/

namespace Kronos

open Library

/-- The frame starts with a header of this channel, type, packet id and
flags. -/
def Heads
    (frame : List UInt8)
    (channel : Channel)
    (type : FrameType)
    (packetId : UInt64)
    (flags : UInt16) : Prop :=
  splitHeader channel type packetId flags <+: frame

theorem length_splitHeader
    (channel : Channel)
    (type : FrameType)
    (packetId : UInt64)
    (flags : UInt16) :
    (splitHeader channel type packetId flags).length =
      kronosFrameHeaderLength := by
  simp [splitHeader, kronosFrameHeaderLength]

/-- Cutting a frame behind its header keeps the header. -/
theorem Heads.take
    {frame : List UInt8}
    {channel : Channel}
    {type : FrameType}
    {packetId : UInt64}
    {flags : UInt16}
    (heads : Heads frame channel type packetId flags)
    {size : Nat}
    (long : kronosFrameHeaderLength ≤ size) :
    Heads (frame.take size) channel type packetId flags := by
  refine List.prefix_take_iff.mpr ⟨heads, ?_⟩
  rw [length_splitHeader]
  exact long

theorem buildPlainFrame_heads
    (channel : Channel)
    (type : FrameType)
    (packetId : UInt64)
    (data : List UInt8)
    (flags : UInt16) :
    Heads (buildPlainFrame channel type packetId data flags) channel type
      packetId flags :=
  List.prefix_append _ _

theorem fragmentFrame_heads
    (channel : Channel)
    (type : FrameType)
    (packetId : UInt64)
    (flags : UInt16)
    (index count : Nat)
    (chunk : List UInt8) :
    Heads (fragmentFrame channel type packetId flags index count chunk)
      channel type packetId (fragmentFlags flags) := by
  unfold fragmentFrame Heads
  rw [List.append_assoc, List.append_assoc]
  exact List.prefix_append _ _

/-- A builder's frame starts with the builder's header, as far as it was
written. -/
theorem serializeToBuffer_heads
    (builder : FrameBuilder)
    {type : FrameType}
    {size : Nat}
    (typed : builder.type = type.code)
    (long : kronosFrameHeaderLength ≤ builder.serializedSize)
    (fits : builder.serializedSize ≤ size) :
    Heads (serializeToBuffer builder size) builder.channel type
      builder.packetId builder.presenceFlags := by
  have header : builder.headerBytes = splitHeader builder.channel type
      builder.packetId builder.presenceFlags := by
    rw [FrameBuilder.headerBytes, splitHeader, typed]
  have inBuffer : ¬ (List.replicate size (0 : UInt8)).length <
      builder.serializedSize := by
    rw [List.length_replicate]
    omega
  rw [serializeToBuffer, krsFrameBuilderSerialize, if_neg inBuffer]
  refine Heads.take ?_ long
  unfold Heads FrameBuilder.serializedBytes
  rw [← header]
  simp only [List.append_assoc]
  exact List.prefix_append _ _

/-- The header fields of an accepted frame are read at fixed positions. -/
theorem krsFrameCreate_of_accepted
    {datagram : List UInt8}
    {stackDataOutSize : Nat}
    (accepted :
      (krsFrameCreate datagram stackDataOutSize).protocolChar = 0x4B) :
    let frame := krsFrameCreate datagram stackDataOutSize
    kronosFrameHeaderLength ≤ datagram.length ∧
      frame.channel = byteAt datagram 2 ∧
      frame.frameType = byteAt datagram 3 ∧
      frame.presenceFlags = krsMathUint16FromUint8 (byteAt datagram 4)
        (byteAt datagram 5) ∧
      frame.packetId =
        krsMathUint64FromUint8 datagram 6 datagram.length := by
  obtain ⟨-, long, parsed⟩ := krsFrameCreate_accepted (by
    rw [accepted]
    decide)
  rw [parsed]
  exact ⟨by omega, rfl, rfl, rfl, rfl⟩

/-- The fields of an accepted frame are those of its header. -/
theorem krsFrameCreate_of_heads
    {datagram : List UInt8}
    {channel : Channel}
    {type : FrameType}
    {packetId : UInt64}
    {flags : UInt16}
    {stackDataOutSize : Nat}
    (heads : Heads datagram channel type packetId flags)
    (accepted :
      (krsFrameCreate datagram stackDataOutSize).protocolChar = 0x4B) :
    let frame := krsFrameCreate datagram stackDataOutSize
    frame.channel = channel ∧ frame.frameType = type.code ∧
      frame.packetId = packetId ∧ frame.presenceFlags = flags := by
  obtain ⟨long, onChannel, typed, flagged, numbered⟩ :=
    krsFrameCreate_of_accepted accepted
  obtain ⟨rest, rfl⟩ := heads
  simp only [kronosFrameHeaderLength] at long
  have word := ofNat_fromBigEndian_bytesAt_writeU64Be
    ([0x4B, versionByte, channel, type.code] ++ writeU16Be flags.toNat) rest
    packetId
  intro frame
  refine ⟨onChannel, typed, ?_, ?_⟩
  · rw [numbered, krsMathUint64FromUint8_eq _ (by omega)]
    simpa [splitHeader] using word
  · rw [flagged]
    exact krsMathUint16FromUint8_writeU16Be flags

end Kronos
