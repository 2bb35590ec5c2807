import Kronos.Client.Connection
import Kronos.Server.SendSpec

/-!
# What a send puts on the wire

The two encoders of `krs_client_send` agree on one description: a payload that
fits a frame of the default MTU is one plain frame, a longer one is cut into
numbered fragments.  Every datagram parses back to the frame it was made from.
-/

namespace Kronos

open Library

/-- The datagrams of a message. -/
def wireFrames
    (channel : Channel)
    (packetId : UInt64)
    (data : List UInt8)
    (requireAck : Bool) : List (List UInt8) :=
  if data.length ≤ krsDefaultMtu - kronosFrameHeaderLength then
    [buildPlainFrame channel .basicMessage packetId data (ackFlags requireAck)]
  else
    (messageChunks data).mapIdx fun index chunk =>
      fragmentFrame channel .basicMessage packetId (ackFlags requireAck) index
        (messageChunks data).length chunk

/-- The builder of the single-frame path is the plain builder. -/
theorem wholeFrame_eq_plainBuilder
    (channel : Channel)
    (packetId : UInt64)
    {data : List UInt8}
    {length : UInt16}
    (requireAck : Bool)
    (whole : data.length = length.toNat) :
    let builder := ((krsFrameBuilderCreate channel .basicMessage).setPacketId
      packetId).setData (some data) length
    (if requireAck then builder.setFlag .ackRequired else builder) =
      plainBuilder channel .basicMessage packetId data
        (ackFlags requireAck) := by
  have sized : UInt16.ofNat data.length = length := by
    rw [whole]
    exact UInt16.ofNat_toNat
  cases requireAck <;>
    simp [krsFrameBuilderCreate, FrameBuilder.setPacketId,
      FrameBuilder.setData, FrameBuilder.setFlag, plainBuilder, ackFlags,
      sized]

/-- The single-frame path writes the plain frame. -/
theorem serializeToBuffer_plainBuilder
    (channel : Channel)
    (packetId : UInt64)
    (data : List UInt8)
    (requireAck : Bool)
    (fits : data.length ≤ krsMaxPayloadPerFragment) :
    serializeToBuffer
        (plainBuilder channel .basicMessage packetId data
          (ackFlags requireAck)) kronosBufferSize =
      buildPlainFrame channel .basicMessage packetId data
        (ackFlags requireAck) := by
  simp only [krsMaxPayloadPerFragment, krsDefaultMtu,
    kronosFrameHeaderLength] at fits
  have small : data.length < 2 ^ 16 := by omega
  have same := buildPlainFrame_eq_serializedBytes channel .basicMessage
    packetId requireAck small
  have length := length_buildPlainFrame channel .basicMessage packetId data
    (ackFlags requireAck)
  rw [same] at length ⊢
  simp only [kronosFrameHeaderLength] at length
  exact serializeToBuffer_eq _ rfl (ofNat_length_toNat small)
    (by rw [length, kronosBufferSize]; omega) (by omega)

/-- The numbered fragments, each cut to its recorded size, are the fragments
themselves. -/
theorem zip_fragments_take
    (channel : Channel)
    (packetId : UInt64)
    (flags : UInt16)
    (count : Nat)
    {chunks : List (List UInt8)}
    (narrow : ∀ chunk ∈ chunks, chunk.length ≤ krsMaxPayloadPerFragment) :
    ((chunks.mapIdx fun index chunk =>
        fragmentFrame channel .basicMessage packetId flags index count
          chunk).zip
      ((chunks.map List.length).map fun size =>
        (kronosFrameHeaderLength + 4 + size) % 2 ^ 16)).map
        (fun frame => frame.1.take frame.2) =
      chunks.mapIdx fun index chunk =>
        fragmentFrame channel .basicMessage packetId flags index count
          chunk := by
  apply List.ext_getElem?
  intro index
  simp only [List.getElem?_map, List.zip, List.getElem?_zipWith,
    List.getElem?_mapIdx]
  cases present : chunks[index]? with
  | none => rfl
  | some chunk =>
      have bound := narrow chunk (List.mem_of_getElem? present)
      simp only [krsMaxPayloadPerFragment, krsDefaultMtu,
        kronosFrameHeaderLength] at bound
      simp only [Option.map_some]
      rw [Nat.mod_eq_of_lt (by simp only [kronosFrameHeaderLength]; omega),
        List.take_of_length_le (Nat.le_of_eq
          (length_fragmentFrame channel .basicMessage packetId flags index
            count chunk))]

/-- A split that succeeds had its memory. -/
theorem krsFragmentSplit_allocated
    {channel : Channel}
    {type : FrameType}
    {packetId : UInt64}
    {data : List UInt8}
    {dataLength mtu : Nat}
    {flags : UInt16}
    {allocations : SplitAllocations}
    (succeeded : (krsFragmentSplit channel type packetId data dataLength mtu
      flags allocations).base.errorCode = .success) :
    allocations.arrays = true ∧ allocations.frames = true := by
  have outcome := krsFragmentSplit_outcome channel type packetId data
    dataLength mtu flags allocations
  generalize krsFragmentSplit channel type packetId data dataLength mtu flags
    allocations = result at outcome succeeded
  cases outcome with
  | failed base error => exact absurd succeeded error
  | plain _ _ arrays frames => exact ⟨arrays, frames⟩
  | cut _ _ arrays frames => exact ⟨arrays, frames⟩

/-- The datagrams of a successful split. -/
theorem krsFragmentSplit_wireFrames
    (channel : Channel)
    (packetId : UInt64)
    {data : List UInt8}
    (requireAck : Bool)
    {allocations : SplitAllocations}
    (short : data.length < 2 ^ 16)
    (arrays : allocations.arrays = true)
    (frames : allocations.frames = true) :
    let frag := krsFragmentSplit channel .basicMessage packetId data
      data.length krsDefaultMtu (ackFlags requireAck) allocations
    ((frag.fragments.zip frag.fragmentSizes).map fun frame =>
        frame.1.take frame.2) =
      wireFrames channel packetId data requireAck := by
  intro frag
  unfold wireFrames
  by_cases fits : data.length ≤ krsDefaultMtu - kronosFrameHeaderLength
  · have plain : frag = _ := krsFragmentSplit_plain channel .basicMessage
      packetId data (ackFlags requireAck) (by decide) fits arrays frames
    have length := length_buildPlainFrame channel .basicMessage packetId data
      (ackFlags requireAck)
    have size : (kronosFrameHeaderLength + data.length) % 2 ^ 16 =
        kronosFrameHeaderLength + data.length := by
      simp only [krsDefaultMtu, kronosFrameHeaderLength] at fits ⊢
      omega
    rw [if_pos fits, plain]
    simp only [List.take_length, size, List.zip_cons_cons, List.zip_nil_right,
      List.map_cons, List.map_nil]
    rw [List.take_of_length_le (Nat.le_of_eq length)]
  · have countSmall : fragmentCount data.length krsDefaultMtu ≤
        2 ^ 16 - 1 := by
      simp only [fragmentCount, krsDefaultMtu, kronosFrameHeaderLength]
      omega
    have cut : frag = _ := krsFragmentSplit_fragments channel .basicMessage
      packetId data (ackFlags requireAck) (by decide) fits countSmall arrays
      frames
    rw [if_neg fits, cut]
    simp only [splitSizes_eq_map_length _ (Nat.zero_le _)
      (by decide : krsDefaultMtu - kronosFrameHeaderLength - 4 < 2 ^ 16)
      (by omega : data.length < 2 ^ 32)]
    rw [messageChunks, length_splitChunks]
    exact zip_fragments_take channel packetId _ _
      (messageChunks_limits short).sizes

/-- A message that could be built is on the wire as `wireFrames`. -/
theorem messageFrames_eq_wireFrames
    {channel : Channel}
    {packetId : UInt64}
    {data : List UInt8}
    {length : UInt16}
    {requireAck : Bool}
    {allocations : SendAllocations}
    {serializeError : KronosError}
    {frames : List (List UInt8 × Nat)}
    (whole : data.length = length.toNat)
    (built : messageFrames channel packetId data length requireAck allocations
      serializeError = .ok frames) :
    (frames.map fun frame => frame.1.take frame.2) =
      wireFrames channel packetId data requireAck := by
  have short : data.length < 2 ^ 16 := by
    rw [whole]
    exact length.toNat_lt
  unfold messageFrames at built
  split at built
  case isTrue fits =>
    rw [← whole] at fits
    have oneFrame : data.length ≤ krsDefaultMtu - kronosFrameHeaderLength := by
      simp only [krsMaxPayloadPerFragment, krsDefaultMtu,
        kronosFrameHeaderLength] at fits ⊢
      omega
    have written := serializeToBuffer_plainBuilder channel packetId data
      requireAck fits
    rw [serializeToBuffer] at written
    have builder := wholeFrame_eq_plainBuilder channel packetId requireAck
      whole
    dsimp only at builder built written
    rw [builder] at built
    generalize krsFrameBuilderSerialize _ _ = serialized at built written
    split at built
    case isTrue => cases built
    case isFalse =>
      split at built
      case isTrue => cases built
      case isFalse =>
        cases built
        rw [wireFrames, if_pos oneFrame, List.map_singleton, written]
  case isFalse long =>
    dsimp only at built
    split at built
    case isTrue => cases built
    case isFalse succeeded =>
      obtain ⟨arrays, frames⟩ :=
        krsFragmentSplit_allocated (not_not.mp succeeded)
      rw [← whole] at built
      cases built
      exact krsFragmentSplit_wireFrames channel packetId requireAck short
        arrays frames

/-! ## Parsing the datagrams -/

/-- The frame that a datagram of a message parses to is the whole message, or
a fragment of it. -/
inductive WireFrame
    (channel : Channel)
    (packetId : UInt64)
    (data : List UInt8)
    (requireAck : Bool) : Frame -> Prop
  | whole
      (fits : data.length ≤ krsDefaultMtu - kronosFrameHeaderLength) :
      WireFrame channel packetId data requireAck
        (plainFrame channel .basicMessage packetId requireAck data)
  | fragment
      (long : ¬ data.length ≤ krsDefaultMtu - kronosFrameHeaderLength)
      (index : Nat)
      (chunk : List UInt8)
      (present : (messageChunks data)[index]? = some chunk) :
      WireFrame channel packetId data requireAck
        (fragmentParsed channel .basicMessage packetId requireAck index
          (messageChunks data).length chunk)

theorem krsFrameCreate_wireFragment
    (channel : Channel)
    (packetId : UInt64)
    {data : List UInt8}
    (requireAck : Bool)
    (short : data.length < 2 ^ 16)
    {index : Nat}
    {chunk : List UInt8}
    (present : (messageChunks data)[index]? = some chunk) :
    krsFrameCreate
        (fragmentFrame channel .basicMessage packetId (ackFlags requireAck)
          index (messageChunks data).length chunk) kronosBufferSize =
      fragmentParsed channel .basicMessage packetId requireAck index
        (messageChunks data).length chunk := by
  have limits := messageChunks_limits short
  have count := limits.count
  have inside := (List.getElem?_eq_some_iff.mp present).1
  have size := limits.sizes _ (List.mem_of_getElem? present)
  simp only [krsMaxFragmentsPerPacket, krsMaxPayloadPerFragment,
    krsDefaultMtu, kronosFrameHeaderLength] at count size
  exact krsFrameCreate_fragmentFrame channel .basicMessage packetId requireAck
    (by omega) (by omega) (by omega) (by rw [kronosBufferSize]; omega)

/-- Every datagram of a message parses with a body buffer of
`KRONOS_BUFFER_SIZE` bytes. -/
theorem krsFrameCreate_wireFrame
    {channel : Channel}
    {packetId : UInt64}
    {data : List UInt8}
    {requireAck : Bool}
    (short : data.length < 2 ^ 16)
    {datagram : List UInt8}
    (sent : datagram ∈ wireFrames channel packetId data requireAck) :
    WireFrame channel packetId data requireAck
      (krsFrameCreate datagram kronosBufferSize) := by
  unfold wireFrames at sent
  split at sent
  case isTrue fits =>
    rw [List.mem_singleton] at sent
    subst sent
    rw [krsFrameCreate_buildPlainFrame channel .basicMessage packetId
      requireAck short (by
        simp only [krsDefaultMtu, kronosFrameHeaderLength,
          kronosBufferSize] at fits ⊢
        omega)]
    exact .whole fits
  case isFalse long =>
    obtain ⟨index, inside, rfl⟩ := List.mem_mapIdx.mp sent
    have present := List.getElem?_eq_getElem inside
    rw [krsFrameCreate_wireFragment channel packetId requireAck short present]
    exact .fragment long index _ present

/-- A parsed fragment is a fragment of its chunks. -/
theorem fragmentParsed_of_chunks
    (channel : Channel)
    (packetId : UInt64)
    {chunks : List (List UInt8)}
    (requireAck : Bool)
    (limits : SessionLimits chunks)
    {index : Nat}
    {chunk : List UInt8}
    (present : chunks[index]? = some chunk) :
    let frame := fragmentParsed channel .basicMessage packetId requireAck
      index chunks.length chunk
    FragmentOf frame chunks requireAck ∧ frame.index = index := by
  intro frame
  have count := limits.count
  have inside := (List.getElem?_eq_some_iff.mp present).1
  rw [krsMaxFragmentsPerPacket] at count
  have sameIndex : frame.index = index := by
    simp only [frame, fragmentParsed, Frame.index, UInt16.toNat_ofNat']
    omega
  refine ⟨⟨?_, ?_, ?_, ?_⟩, sameIndex⟩
  · simp [frame, fragmentParsed, hasFlag_fragmentFlags]
  · simp [frame, fragmentParsed, hasFlag_fragmentFlags]
  · simp only [frame, fragmentParsed, UInt16.toNat_ofNat']
    omega
  · rw [sameIndex]
    exact present

/-- A parsed fragment is a fragment of its message. -/
theorem fragmentParsed_fragmentOf
    (channel : Channel)
    (packetId : UInt64)
    {data : List UInt8}
    (requireAck : Bool)
    (short : data.length < 2 ^ 16)
    {index : Nat}
    {chunk : List UInt8}
    (present : (messageChunks data)[index]? = some chunk) :
    let frame := fragmentParsed channel .basicMessage packetId requireAck
      index (messageChunks data).length chunk
    FragmentOf frame (messageChunks data) requireAck ∧
      frame.index = index :=
  fragmentParsed_of_chunks channel packetId requireAck
    (messageChunks_limits short) present

end Kronos
