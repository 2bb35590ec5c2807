import Kronos.Fragment.Message

/-!
# What a split puts into its frames

A caller of `krs_fragment_split` gets an error and no frames, or frames of at
most `mtu` bytes whose payloads make up the data.  The number of fragments is
computed in 32 bits; where that sum wraps around, the split reports success
with no frame at all.
-/

namespace Kronos

open Library

/-- The length of the headers that the split writes: several frames carry a
fragment header each, a single frame does not. -/
def FragmentResult.headerLength (result : FragmentResult) : Nat :=
  if result.fragments.length = 1 then kronosFrameHeaderLength
  else kronosFrameHeaderLength + 4

/-- The payloads of the frames, one after the other. -/
def FragmentResult.payload (result : FragmentResult) : List UInt8 :=
  (result.fragments.map fun frame => frame.drop result.headerLength).flatten

/-- A split succeeds with frames of at most `mtu` bytes that carry exactly the
data, or fails without frames. -/
def SplitExact
    (data : List UInt8)
    (mtu : Nat)
    (result : FragmentResult) : Prop :=
  if result.base.errorCode = .success then
    result.fragments ≠ [] ∧
      result.fragmentSizes = result.fragments.map List.length ∧
      (∀ frame ∈ result.fragments, frame.length ≤ mtu) ∧
      result.payload = data
  else result.fragments = [] ∧ result.fragmentSizes = []

/-- The payload has to be cut, and the 32-bit sum for the number of its
fragments wraps around. -/
def CountWraps (dataLength mtu : Nat) : Prop :=
  kronosFrameHeaderLength + 4 < mtu ∧
    mtu - kronosFrameHeaderLength < dataLength ∧
    2 ^ 32 ≤ dataLength + (mtu - kronosFrameHeaderLength - 4) - 1

instance (dataLength mtu : Nat) : Decidable (CountWraps dataLength mtu) :=
  inferInstanceAs (Decidable (_ ∧ _))

/-- A sum that wraps around leaves no fragment. -/
theorem fragmentCount_of_wraps
    {dataLength mtu : Nat}
    (bounded : dataLength < 2 ^ 32)
    (narrow : mtu < 2 ^ 16)
    (wraps : CountWraps dataLength mtu) :
    fragmentCount dataLength mtu = 0 := by
  obtain ⟨mtuLarge, -, beyond⟩ := wraps
  rw [fragmentCount]
  apply Nat.div_eq_of_lt
  omega

/-- Without a wrap there are enough fragments for the payload, and more than
one. -/
theorem fragmentCount_enough
    {dataLength mtu : Nat}
    (mtuLarge : kronosFrameHeaderLength + 4 < mtu)
    (long : mtu - kronosFrameHeaderLength < dataLength)
    (exact : ¬ CountWraps dataLength mtu) :
    dataLength ≤
        fragmentCount dataLength mtu * (mtu - kronosFrameHeaderLength - 4) ∧
      2 ≤ fragmentCount dataLength mtu := by
  have below : dataLength + (mtu - kronosFrameHeaderLength - 4) - 1 <
      2 ^ 32 := by
    by_contra beyond
    exact exact ⟨mtuLarge, long, Nat.not_lt.mp beyond⟩
  rw [fragmentCount, Nat.mod_eq_of_lt below]
  generalize perFrag : mtu - kronosFrameHeaderLength - 4 = payloadPerFrag
  have positive : 0 < payloadPerFrag := by omega
  constructor
  · have rounded : dataLength + payloadPerFrag - 1 <
        (dataLength + payloadPerFrag - 1) / payloadPerFrag *
          payloadPerFrag + payloadPerFrag :=
      Nat.lt_div_mul_add positive
    omega
  · rw [Nat.le_div_iff_mul_le positive]
    omega

/-- Behind its header a plain frame carries the data. -/
theorem drop_buildPlainFrame
    (channel : Channel)
    (type : FrameType)
    (packetId : UInt64)
    (data : List UInt8)
    (flags : UInt16) :
    (buildPlainFrame channel type packetId data flags).drop
      kronosFrameHeaderLength = data := by
  have header : (splitHeader channel type packetId flags).length =
      kronosFrameHeaderLength := by
    simp [splitHeader, kronosFrameHeaderLength]
  rw [buildPlainFrame, ← header, List.drop_left]

/-- Behind its two headers a fragment carries its chunk. -/
theorem drop_fragmentFrame
    (channel : Channel)
    (type : FrameType)
    (packetId : UInt64)
    (flags : UInt16)
    (index count : Nat)
    (chunk : List UInt8) :
    (fragmentFrame channel type packetId flags index count chunk).drop
      (kronosFrameHeaderLength + 4) = chunk := by
  have header : (splitHeader channel type packetId (fragmentFlags flags) ++
      writeU16Be index ++ writeU16Be count).length =
        kronosFrameHeaderLength + 4 := by
    simp [splitHeader, kronosFrameHeaderLength]
  rw [fragmentFrame, ← header, List.drop_left]

/-- What is read off each fragment without its index is read off its chunk. -/
theorem map_fragments
    (channel : Channel)
    (type : FrameType)
    (packetId : UInt64)
    (flags : UInt16)
    (count : Nat)
    {chunks : List (List UInt8)}
    {read : List UInt8 -> α}
    {expected : List UInt8 -> α}
    (same : ∀ index, ∀ chunk ∈ chunks,
      read (fragmentFrame channel type packetId flags index count chunk) =
        expected chunk) :
    (chunks.mapIdx fun index chunk =>
        fragmentFrame channel type packetId flags index count chunk).map
        read = chunks.map expected := by
  apply List.ext_getElem?
  intro position
  rw [List.getElem?_map, List.getElem?_mapIdx, List.getElem?_map]
  cases present : chunks[position]? with
  | none => rfl
  | some chunk =>
      simp only [Option.map_some]
      rw [same position chunk (List.mem_of_getElem? present)]

/-- The recorded sizes are the sizes of the fragments. -/
theorem splitSizes_eq_length_fragments
    (channel : Channel)
    (type : FrameType)
    (packetId : UInt64)
    (flags : UInt16)
    {data : List UInt8}
    {payloadPerFrag : Nat}
    (count left : Nat)
    (narrow : kronosFrameHeaderLength + 4 + payloadPerFrag < 2 ^ 16)
    (bounded : data.length < 2 ^ 32) :
    ((splitSizes data.length payloadPerFrag left 0).map fun chunk =>
        (kronosFrameHeaderLength + 4 + chunk) % 2 ^ 16) =
      ((splitChunks data data.length payloadPerFrag left 0).mapIdx
        fun index chunk =>
          fragmentFrame channel type packetId flags index count
            chunk).map List.length := by
  rw [splitSizes_eq_map_length left (Nat.zero_le _) (by omega) bounded,
    List.map_map]
  refine (map_fragments channel type packetId flags count ?_).symm
  intro index chunk member
  have size := splitChunks_length_le _ _ member
  rw [length_fragmentFrame, Function.comp_apply, Nat.mod_eq_of_lt (by omega)]

/-- Where the sum wraps around, the split reports success without frames. -/
theorem krsFragmentSplit_of_wraps
    (channel : Channel)
    (type : FrameType)
    (packetId : UInt64)
    (data : List UInt8)
    (flags : UInt16)
    {dataLength mtu : Nat}
    {allocations : SplitAllocations}
    (bounded : dataLength < 2 ^ 32)
    (narrow : mtu < 2 ^ 16)
    (wraps : CountWraps dataLength mtu)
    (arrays : allocations.arrays = true)
    (frames : allocations.frames = true) :
    krsFragmentSplit channel type packetId data dataLength mtu flags
        allocations =
      { base := .suc, dataPool := some 0 } := by
  have none := fragmentCount_of_wraps bounded narrow wraps
  have split := krsFragmentSplit_fragments channel type packetId data flags
    wraps.1 (Nat.not_le.mpr wraps.2.1) (by rw [none]; exact Nat.zero_le _)
    arrays frames
  dsimp only at split
  rw [split, none]
  rfl

theorem splitExact_of_success
    {data : List UInt8}
    {mtu : Nat}
    {result : FragmentResult}
    (success : result.base.errorCode = .success)
    (some : result.fragments ≠ [])
    (sizes : result.fragmentSizes = result.fragments.map List.length)
    (short : ∀ frame ∈ result.fragments, frame.length ≤ mtu)
    (payload : result.payload = data) :
    SplitExact data mtu result := by
  rw [SplitExact, if_pos success]
  exact ⟨some, sizes, short, payload⟩

/-- For every payload of a 32-bit length and every 16-bit mtu, the split is
exact if and only if the sum for the number of fragments does not wrap around,
or an allocation fails. -/
theorem krsFragmentSplit_exact_iff
    (channel : Channel)
    (type : FrameType)
    (packetId : UInt64)
    {data : List UInt8}
    {mtu : Nat}
    (additionalFlags : UInt16)
    (allocations : SplitAllocations)
    (bounded : data.length < 2 ^ 32)
    (narrow : mtu < 2 ^ 16) :
    SplitExact data mtu (krsFragmentSplit channel type packetId data
        data.length mtu additionalFlags allocations) ↔
      ¬ (CountWraps data.length mtu ∧ allocations.arrays = true ∧
        allocations.frames = true) := by
  by_cases bad : CountWraps data.length mtu ∧ allocations.arrays = true ∧
      allocations.frames = true
  · obtain ⟨wraps, arrays, frames⟩ := bad
    rw [krsFragmentSplit_of_wraps channel type packetId data additionalFlags
      bounded narrow wraps arrays frames]
    simp [SplitExact, KronosResult.suc, wraps, arrays, frames]
  · refine iff_of_true ?_ bad
    have outcome := krsFragmentSplit_outcome channel type packetId data
      data.length mtu additionalFlags allocations
    generalize krsFragmentSplit channel type packetId data data.length mtu
      additionalFlags allocations = result at outcome
    cases outcome with
    | failed base error =>
        rw [SplitExact, if_neg error]
        exact ⟨rfl, rfl⟩
    | plain mtuLarge fits arrays frames =>
        have length := length_buildPlainFrame channel type packetId data
          additionalFlags
        rw [List.take_length]
        refine splitExact_of_success rfl (List.cons_ne_nil _ _) ?_ ?_ ?_
        · rw [List.map_singleton, length, Nat.mod_eq_of_lt (by omega)]
        · intro frame member
          rw [List.mem_singleton.mp member, length]
          omega
        · simp [FragmentResult.payload, FragmentResult.headerLength,
            drop_buildPlainFrame]
    | cut mtuLarge long arrays frames pool =>
        have exactly : ¬ CountWraps data.length mtu := by
          intro wraps
          exact bad ⟨wraps, arrays, frames⟩
        obtain ⟨enough, several⟩ := fragmentCount_enough mtuLarge
          (Nat.not_le.mp long) exactly
        refine splitExact_of_success rfl ?_ ?_ ?_ ?_
        · rw [← List.length_pos_iff, List.length_mapIdx, length_splitChunks]
          omega
        · exact splitSizes_eq_length_fragments channel type packetId
            additionalFlags _ _ (by omega) bounded
        · intro frame member
          obtain ⟨index, inside, rfl⟩ := List.mem_mapIdx.mp member
          have size := splitChunks_length_le _ _ (List.getElem_mem inside)
          rw [length_fragmentFrame]
          omega
        · have manyFrames : ¬ fragmentCount data.length mtu = 1 := by omega
          simp only [FragmentResult.payload, FragmentResult.headerLength,
            List.length_mapIdx, length_splitChunks, if_neg manyFrames]
          rw [map_fragments channel type packetId additionalFlags _
              fun _ _ _ => drop_fragmentFrame _ _ _ _ _ _ _,
            List.map_id', splitChunks_flatten _ (Nat.zero_le _) (by omega)
              bounded (by rw [Nat.zero_add]; exact enough), List.drop_zero]

/-- Ten bytes and an mtu of 20: five fragments of two bytes. -/
theorem ten_bytes_split_exactly :
    SplitExact [0, 1, 2, 3, 4, 5, 6, 7, 8, 9] 20
      (krsFragmentSplit 10 .basicMessage 1 [0, 1, 2, 3, 4, 5, 6, 7, 8, 9] 10
        20 0 {}) :=
  (krsFragmentSplit_exact_iff 10 .basicMessage 1 0 {} (by decide)
    (by decide)).mpr (by decide)

/-- A payload of the largest 32-bit length and an mtu of 1400: success, and no
frame. -/
theorem largest_payload_split_without_frames :
    let data : List UInt8 := List.replicate (2 ^ 32 - 1) 0
    let result := krsFragmentSplit 10 .basicMessage 1 data data.length 1400 0
      {}
    result.base.errorCode = .success ∧ result.fragments = [] ∧
      ¬ SplitExact data 1400 result := by
  intro data result
  have length : data.length = 2 ^ 32 - 1 := List.length_replicate
  have split : result = { base := .suc, dataPool := some 0 } := by
    simp only [result, length]
    exact krsFragmentSplit_of_wraps 10 .basicMessage 1 data 0 (by decide)
      (by decide) (by decide) rfl rfl
  rw [split]
  refine ⟨rfl, rfl, ?_⟩
  simp [SplitExact, KronosResult.suc]

end Kronos
