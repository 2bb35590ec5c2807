import Kronos.Library.Access
import Kronos.Frame.Rebuild

/-!
# The stores of the serializer

`krsFrameBuilderSerialize` gives the bytes that a serialized frame leaves in
memory.  Here the same function is followed store by store, with its 16-bit
cursor, so that it can be said which bytes of the output buffer are written and
which are not.  The size that is checked against the buffer is a 16-bit sum,
and the body is only copied when its pointer is set: both decide whether the
returned size is the number of bytes written.
-/

namespace Kronos

open Library

/-! ## The code -/

/-- The cursor of the serializer, and the stores made so far. -/
structure FrameWriter where
  cursor : UInt16
  stores : List (Nat × UInt8)

namespace FrameWriter

/-- The fourteen stores of the header. -/
def header (builder : FrameBuilder) : FrameWriter :=
  let flags := builder.presenceFlags.toNat
  let packetId := builder.packetId.toNat
  { cursor := UInt16.ofNat kronosFrameHeaderLength
    stores :=
      [(0, 0x4B),
        (1, versionByte),
        (2, builder.channel),
        (3, builder.type),
        (4, UInt8.ofNat (flags >>> 8)),
        (5, UInt8.ofNat flags),
        (6, UInt8.ofNat (packetId >>> 56)),
        (7, UInt8.ofNat (packetId >>> 48)),
        (8, UInt8.ofNat (packetId >>> 40)),
        (9, UInt8.ofNat (packetId >>> 32)),
        (10, UInt8.ofNat (packetId >>> 24)),
        (11, UInt8.ofNat (packetId >>> 16)),
        (12, UInt8.ofNat (packetId >>> 8)),
        (13, UInt8.ofNat packetId)] }

/-- The block of `META_FLAG_FRAGMENT_INFO`. -/
def fragmentInfo (writer : FrameWriter) (builder : FrameBuilder) :
    FrameWriter :=
  if hasFlag builder.presenceFlags .fragmentInfo then
    let cursor := writer.cursor.toNat
    let index := builder.metadata.fragmentIndex.toNat
    let total := builder.metadata.fragmentTotal.toNat
    { cursor := writer.cursor + 4
      stores := writer.stores ++
        [(cursor, UInt8.ofNat (index >>> 8)),
          (cursor + 1, UInt8.ofNat index),
          (cursor + 2, UInt8.ofNat (total >>> 8)),
          (cursor + 3, UInt8.ofNat total)] }
  else writer

/-- The loop over the eight bytes of a metadata word. -/
def word (writer : FrameWriter) (present : Bool) (value : UInt64) :
    FrameWriter :=
  if present then
    { cursor := writer.cursor + 8
      stores := writer.stores ++ (List.range 8).map fun k =>
        (writer.cursor.toNat + k,
          UInt8.ofNat (value.toNat >>> ((7 - k) * 8))) }
  else writer

/-- The byte of `META_FLAG_PRIORITY`. -/
def priority (writer : FrameWriter) (builder : FrameBuilder) : FrameWriter :=
  if hasFlag builder.presenceFlags .priority then
    { cursor := writer.cursor + 1
      stores := writer.stores ++
        [(writer.cursor.toNat, builder.metadata.priority)] }
  else writer

/-- The `memcpy` of the body; the cursor stays. -/
def body (writer : FrameWriter) (builder : FrameBuilder) : FrameWriter :=
  match builder.data with
  | none => writer
  | some data =>
      if 0 < builder.dataLength then
        { writer with
          stores := writer.stores ++ consecutive writer.cursor.toNat
            (data.take builder.dataLength.toNat) }
      else writer

end FrameWriter

/-- `krs_frame_builder_serialize`, followed by its stores: the returned size,
and the stores at their offsets from `out`. -/
def krsFrameBuilderSerializeStores
    (builder : FrameBuilder)
    (outSize : UInt16) : UInt16 × List (Nat × UInt8) :=
  let total := UInt16.ofNat (kronosFrameHeaderLength +
    krsFrameMetadataBlockLength builder.presenceFlags +
    builder.dataLength.toNat)
  if outSize < total then (0, [])
  else
    let header := FrameWriter.header builder
    let fragmentInfo := header.fragmentInfo builder
    let ackId := fragmentInfo.word (hasFlag builder.presenceFlags .ackId)
      builder.metadata.ackId
    let priority := ackId.priority builder
    let timestamp := priority.word (hasFlag builder.presenceFlags .timestamp)
      builder.metadata.timestampMs
    (total, (timestamp.body builder).stores)

/-! ## What is stored -/

/-- The stores so far are those of the given bytes, and the cursor stands
behind them. -/
structure FrameWriter.Wrote
    (writer : FrameWriter)
    (bytes : List UInt8) : Prop where
  stores : writer.stores = consecutive 0 bytes
  cursor : writer.cursor.toNat = bytes.length

namespace FrameWriter.Wrote

variable {writer : FrameWriter} {bytes : List UInt8}

/-- A block written at the cursor continues the bytes. -/
theorem block
    (wrote : writer.Wrote bytes)
    (added : List UInt8)
    (size : UInt16)
    (sized : size.toNat = added.length)
    (short : bytes.length + added.length < 2 ^ 16) :
    FrameWriter.Wrote
      { cursor := writer.cursor + size
        stores := writer.stores ++
          consecutive writer.cursor.toNat added } (bytes ++ added) := by
  constructor
  · rw [consecutive_append, Nat.zero_add, ← wrote.stores, ← wrote.cursor]
  · rw [List.length_append, UInt16.toNat_add, wrote.cursor, sized,
      Nat.mod_eq_of_lt short]

theorem header (builder : FrameBuilder) :
    (FrameWriter.header builder).Wrote builder.headerBytes :=
  ⟨rfl, rfl⟩

theorem fragmentInfo
    (wrote : writer.Wrote bytes)
    (builder : FrameBuilder)
    (short : bytes.length + 4 < 2 ^ 16) :
    (writer.fragmentInfo builder).Wrote
      (bytes ++ builder.fragmentInfoBytes) := by
  unfold FrameWriter.fragmentInfo FrameBuilder.fragmentInfoBytes
  split
  case isTrue =>
    exact wrote.block (writeU16Be builder.metadata.fragmentIndex.toNat ++
      writeU16Be builder.metadata.fragmentTotal.toNat) 4 rfl short
  case isFalse => rwa [List.append_nil]

theorem word
    (wrote : writer.Wrote bytes)
    (present : Bool)
    (value : UInt64)
    (short : bytes.length + 8 < 2 ^ 16) :
    (writer.word present value).Wrote
      (bytes ++ if present then writeU64Be value.toNat else []) := by
  cases present with
  | false =>
      rw [if_neg Bool.false_ne_true, List.append_nil]
      exact wrote
  | true =>
      have stores := consecutive_map_range writer.cursor.toNat 8 fun k =>
        UInt8.ofNat (value.toNat >>> ((7 - k) * 8))
      rw [if_pos rfl, FrameWriter.word, if_pos rfl, ← stores]
      exact wrote.block (writeU64Be value.toNat) 8 rfl short

theorem priority
    (wrote : writer.Wrote bytes)
    (builder : FrameBuilder)
    (short : bytes.length + 1 < 2 ^ 16) :
    (writer.priority builder).Wrote (bytes ++ builder.priorityBytes) := by
  unfold FrameWriter.priority FrameBuilder.priorityBytes
  split
  case isTrue => exact wrote.block [_] 1 rfl short
  case isFalse => rwa [List.append_nil]

/-- The body is written behind the bytes so far, whatever its length. -/
theorem body
    (wrote : writer.Wrote bytes)
    (builder : FrameBuilder) :
    (writer.body builder).stores =
      consecutive 0 (bytes ++ builder.bodyBytes) := by
  rw [consecutive_append, Nat.zero_add, ← wrote.stores, ← wrote.cursor,
    FrameWriter.body, FrameBuilder.bodyBytes]
  cases builder.data with
  | none => exact (List.append_nil _).symm
  | some data =>
      dsimp only
      split
      case isTrue => rfl
      case isFalse empty =>
        have zero : builder.dataLength.toNat = 0 := by
          rw [UInt16.lt_iff_toNat_lt, UInt16.toNat_zero] at empty
          omega
        rw [zero]
        exact (List.append_nil _).symm

end FrameWriter.Wrote

/-- A call that passes the size check stores the serialized bytes. -/
theorem krsFrameBuilderSerializeStores_eq
    (builder : FrameBuilder)
    (outSize : UInt16) :
    krsFrameBuilderSerializeStores builder outSize =
      if outSize.toNat < builder.serializedSize then (0, [])
      else (UInt16.ofNat builder.serializedSize,
        consecutive 0 builder.serializedBytes) := by
  have bounded := krsFrameMetadataBlockLength_le builder.presenceFlags
  rw [← builder.length_metadataBytes, List.length_append, List.length_append,
    List.length_append] at bounded
  have header := FrameWriter.Wrote.header builder
  have start : builder.headerBytes.length = 14 := builder.length_headerBytes
  have fragmentInfo := header.fragmentInfo builder (by omega)
  have ackId := fragmentInfo.word (hasFlag builder.presenceFlags .ackId)
    builder.metadata.ackId (by
      rw [List.length_append]
      omega)
  rw [← FrameBuilder.ackIdBytes] at ackId
  have priority := ackId.priority builder (by
    rw [List.length_append, List.length_append]
    omega)
  have timestamp := priority.word (hasFlag builder.presenceFlags .timestamp)
    builder.metadata.timestampMs (by
      rw [List.length_append, List.length_append, List.length_append]
      omega)
  rw [← FrameBuilder.timestampBytes] at timestamp
  have stores := timestamp.body builder
  have total : (UInt16.ofNat (kronosFrameHeaderLength +
      krsFrameMetadataBlockLength builder.presenceFlags +
      builder.dataLength.toNat)).toNat = builder.serializedSize :=
    UInt16.toNat_ofNat'
  have same : UInt16.ofNat (kronosFrameHeaderLength +
      krsFrameMetadataBlockLength builder.presenceFlags +
      builder.dataLength.toNat) = UInt16.ofNat builder.serializedSize := by
    rw [← total, UInt16.ofNat_toNat]
  unfold krsFrameBuilderSerializeStores
  dsimp only
  rw [stores]
  simp only [UInt16.lt_iff_toNat_lt, total]
  rw [same]
  rfl

/-- The stores leave in memory what `krsFrameBuilderSerialize` leaves there. -/
theorem applyStores_krsFrameBuilderSerialize
    (builder : FrameBuilder)
    {out : List UInt8}
    {outSize : UInt16}
    (sized : out.length = outSize.toNat) :
    (krsFrameBuilderSerialize builder out).1 =
        (krsFrameBuilderSerializeStores builder outSize).1.toNat ∧
      ∀ position < (krsFrameBuilderSerialize builder out).2.length,
        byteAt (krsFrameBuilderSerialize builder out).2 position =
          applyStores (byteAt out)
            (krsFrameBuilderSerializeStores builder outSize).2 position := by
  rw [krsFrameBuilderSerialize, krsFrameBuilderSerializeStores_eq, sized]
  split
  case isTrue => exact ⟨rfl, fun _ _ => rfl⟩
  case isFalse =>
    have narrow : builder.serializedSize < 2 ^ 16 :=
      Nat.mod_lt _ (by decide)
    refine ⟨(UInt16.toNat_ofNat_of_lt' narrow).symm, ?_⟩
    intro position _
    dsimp only
    by_cases written : position < builder.serializedBytes.length
    · have stored := applyStores_consecutive (byteAt out) 0 written
      rw [Nat.zero_add] at stored
      rw [stored, byteAt, List.getD_append _ _ _ _ written,
        List.getD_eq_getElem]
    · have untouched : position ∉
          (consecutive 0 builder.serializedBytes).map Prod.fst := by
        rw [mem_offsets_consecutive]
        omega
      rw [applyStores_of_not_mem _ untouched, byteAt,
        List.getD_append_right _ _ _ _ (Nat.le_of_not_lt written), byteAt,
        List.getD_eq_getElem?_getD, List.getD_eq_getElem?_getD,
        List.getElem?_drop, Nat.add_sub_cancel' (Nat.le_of_not_lt written)]

/-! ## Frames written whole -/

namespace FrameBuilder

/-- Size of the frame, without wrap-around. -/
def frameSize (builder : FrameBuilder) : Nat :=
  kronosFrameHeaderLength +
    krsFrameMetadataBlockLength builder.presenceFlags +
    builder.dataLength.toNat

/-- The frame is refused with nothing stored, or it fits the buffer and
exactly its bytes are stored, whatever the buffer held before. -/
def WrittenWhole (builder : FrameBuilder) (outSize : UInt16) : Prop :=
  let result := krsFrameBuilderSerializeStores builder outSize
  (result.1 = 0 ∧ result.2 = []) ∨
    (result.1.toNat = builder.frameSize ∧
      builder.frameSize ≤ outSize.toNat ∧
      (∀ offset, offset ∈ result.2.map Prod.fst ↔
        offset < builder.frameSize) ∧
      ∀ before other : Nat -> UInt8, ∀ offset < builder.frameSize,
        applyStores before result.2 offset =
          applyStores other result.2 offset)

/-- The frame size fits 16 bits, and the body has a pointer or is empty unless
the buffer is too small; or the buffer is smaller than what is left of the size
in 16 bits. -/
def WritableWhole (builder : FrameBuilder) (outSize : UInt16) : Prop :=
  (builder.frameSize < 2 ^ 16 ∧
      (outSize.toNat < builder.frameSize ∨ builder.data.isSome ∨
        builder.dataLength = 0)) ∨
    (2 ^ 16 ≤ builder.frameSize ∧
      outSize.toNat < builder.frameSize - 2 ^ 16)

instance (builder : FrameBuilder) (outSize : UInt16) :
    Decidable (builder.WritableWhole outSize) :=
  inferInstanceAs (Decidable ((_ ∧ _) ∨ (_ ∧ _)))

/-- The data pointer covers the data length. -/
def Covered (builder : FrameBuilder) : Prop :=
  ∀ bytes ∈ builder.data, builder.dataLength.toNat ≤ bytes.length

/-- Setters whose data pointers cover their length keep that so. -/
theorem covered_of_calls
    {calls : List BuilderCall}
    {builder : FrameBuilder}
    (pointed : ∀ data length, BuilderCall.data (some data) length ∈ calls ->
      length.toNat ≤ data.length)
    (covered : builder.Covered) :
    (calls.foldl applyCall builder).Covered := by
  induction calls generalizing builder with
  | nil => exact covered
  | cons call calls inductionHypothesis =>
      refine inductionHypothesis (fun data length member =>
        pointed data length (List.mem_cons_of_mem _ member)) ?_
      cases call with
      | data data length =>
          intro bytes found
          cases found
          exact pointed bytes length List.mem_cons_self
      | flag position =>
          unfold applyCall
          dsimp only
          split
          · exact covered
          · exact covered
      | packetId packetId => exact covered
      | fragmentInfo index total => exact covered
      | ackId ackId => exact covered
      | priority priority => exact covered
      | timestamp timestampMs => exact covered

theorem length_serializedBytes_eq
    {builder : FrameBuilder}
    (covered : builder.Covered) :
    builder.serializedBytes.length = kronosFrameHeaderLength +
      krsFrameMetadataBlockLength builder.presenceFlags +
      if builder.data.isSome then builder.dataLength.toNat else 0 := by
  cases found : builder.data with
  | some bytes =>
      exact length_serializedBytes_of_held found (covered bytes found)
  | none =>
      have metadata := builder.length_metadataBytes
      simp only [List.length_append] at metadata
      simp only [serializedBytes, List.length_append, length_headerBytes,
        bodyBytes, found]
      rw [← metadata]
      simp only [Nat.add_assoc]
      rfl

/-- A call that passes the size check writes the frame whole exactly when the
size did not wrap and all bytes counted are there. -/
theorem writtenWhole_iff_of_checked
    {builder : FrameBuilder}
    {outSize : UInt16}
    (covered : builder.Covered)
    (checked : ¬ outSize.toNat < builder.serializedSize) :
    builder.WrittenWhole outSize ↔
      builder.frameSize < 2 ^ 16 ∧
        builder.serializedBytes.length = builder.frameSize := by
  have narrow : builder.serializedSize < 2 ^ 16 := Nat.mod_lt _ (by decide)
  have size : builder.serializedSize = builder.frameSize % 2 ^ 16 := rfl
  have nonempty : builder.serializedBytes.length ≠ 0 := by
    rw [length_serializedBytes_eq covered, kronosFrameHeaderLength]
    omega
  unfold WrittenWhole
  rw [krsFrameBuilderSerializeStores_eq, if_neg checked]
  dsimp only
  rw [UInt16.toNat_ofNat_of_lt' narrow]
  constructor
  · intro whole
    rcases whole with ⟨_, nothing⟩ | ⟨returned, fits, written, _⟩
    · have first : 0 ∈ (consecutive 0 builder.serializedBytes).map
          Prod.fst := by
        rw [mem_offsets_consecutive]
        omega
      rw [nothing] at first
      cases first
    · have unwrapped : builder.frameSize < 2 ^ 16 := returned ▸ narrow
      refine ⟨unwrapped, ?_⟩
      have behind := written builder.serializedBytes.length
      have last := written builder.frameSize
      rw [mem_offsets_consecutive] at behind last
      omega
  · rintro ⟨unwrapped, complete⟩
    have returned : builder.serializedSize = builder.frameSize :=
      size.trans (Nat.mod_eq_of_lt unwrapped)
    have written (offset : Nat) :
        offset ∈ (consecutive 0 builder.serializedBytes).map Prod.fst ↔
          offset < builder.frameSize := by
      rw [mem_offsets_consecutive]
      omega
    refine Or.inr ⟨returned, by omega, written, ?_⟩
    intro before other offset inside
    exact applyStores_of_mem ((written offset).mpr inside) before other

end FrameBuilder

/-- For every builder made with the setters and every buffer size, the
serializer writes its frame whole or leaves the buffer alone exactly when the
size does not wrap and the body has its pointer, or the buffer is too small for
the size that is checked. -/
theorem serialize_written_whole_iff
    (channel : UInt8)
    (type : UInt32)
    {calls : List BuilderCall}
    (outSize : UInt16)
    (pointed : ∀ data length, BuilderCall.data (some data) length ∈ calls ->
      length.toNat ≤ data.length) :
    (calls.foldl applyCall (createBuilder channel type)).WrittenWhole
        outSize ↔
      (calls.foldl applyCall (createBuilder channel type)).WritableWhole
        outSize := by
  have covered : (calls.foldl applyCall
      (createBuilder channel type)).Covered :=
    FrameBuilder.covered_of_calls pointed nofun
  generalize calls.foldl applyCall (createBuilder channel type) =
    builder at covered ⊢
  have size : builder.serializedSize = builder.frameSize % 2 ^ 16 := rfl
  have bounded := krsFrameMetadataBlockLength_le builder.presenceFlags
  have dataBounded := builder.dataLength.toNat_lt
  have frame : builder.frameSize = kronosFrameHeaderLength +
    krsFrameMetadataBlockLength builder.presenceFlags +
    builder.dataLength.toNat := rfl
  have header : kronosFrameHeaderLength = 14 := rfl
  by_cases checked : outSize.toNat < builder.serializedSize
  · have refused : builder.WrittenWhole outSize := by
      unfold FrameBuilder.WrittenWhole
      rw [krsFrameBuilderSerializeStores_eq, if_pos checked]
      exact Or.inl ⟨rfl, rfl⟩
    refine iff_of_true refused ?_
    unfold FrameBuilder.WritableWhole
    omega
  · rw [FrameBuilder.writtenWhole_iff_of_checked covered checked,
      FrameBuilder.length_serializedBytes_eq covered, frame,
      FrameBuilder.WritableWhole]
    have empty : builder.dataLength = 0 ↔ builder.dataLength.toNat = 0 :=
      UInt16.toNat_inj.symm
    rw [empty]
    split
    case isTrue pointer =>
      simp only [pointer, true_or, or_true, and_true]
      omega
    case isFalse missing =>
      simp only [missing, Bool.false_eq_true, false_or]
      omega

/-- Three body bytes and a priority are written whole into 64 bytes. -/
theorem short_body_written_whole :
    ([.data (some [1, 2, 3]) 3, .priority 9].foldl applyCall
      (createBuilder 10 1)).WrittenWhole 64 :=
  (serialize_written_whole_iff 10 1 64 (by
    intro data length member
    rcases List.mem_cons.mp member with first | second
    · cases first
      exact Nat.le_refl 3
    · cases List.mem_singleton.mp second)).mpr (by decide)

/-- With 65535 body bytes and room for 1500, 13 is returned after 65549 bytes
were stored. -/
theorem long_body_stored_past_buffer :
    ¬ ([.data (some (List.replicate 65535 7)) 65535].foldl applyCall
      (createBuilder 10 1)).WrittenWhole 1500 := by
  have covered : ([.data (some (List.replicate 65535 7)) 65535].foldl applyCall
      (createBuilder 10 1)).Covered := by
    intro bytes member
    cases member
    exact List.length_replicate.ge
  rw [FrameBuilder.writtenWhole_iff_of_checked covered (by decide)]
  exact fun whole => absurd whole.1 (by decide)

end Kronos
