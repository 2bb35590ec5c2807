import Kronos.Fragment.SplitFrames
import Kronos.Library.CountedLoop
import Kronos.Library.Tiling

/-!
# The pool of a split

`krs_fragment_split` sizes the pool for its fragments in one loop and writes
them into it in a second one, which computes all sizes again.  Here both loops
run in the arithmetic of their variables, of 16 and of 32 bits.  They agree:
the frames of the second loop fill the pool of the first one.
-/

namespace Kronos

open Library

/-! ## The loops -/

/-- `payload_per_frag`. -/
def payloadPerFrag16 (mtu : UInt16) : UInt16 :=
  mtu - UInt16.ofNat kronosFrameHeaderLength - 4

/-- `count`. -/
def count32 (dataLength : UInt32) (mtu : UInt16) : UInt32 :=
  (dataLength + (payloadPerFrag16 mtu).toUInt32 - 1) /
    (payloadPerFrag16 mtu).toUInt32

/-- `frag_count`. -/
def fragCount16 (dataLength : UInt32) (mtu : UInt16) : UInt16 :=
  (count32 dataLength mtu).toUInt16

/-- No check before the loops of `krs_fragment_split` returns. -/
structure ReachesLoops (dataLength : UInt32) (mtu : UInt16) : Prop where
  header : ¬ mtu ≤ UInt16.ofNat kronosFrameHeaderLength
  long : ¬ dataLength ≤
    (mtu - UInt16.ofNat kronosFrameHeaderLength).toUInt32
  fragmentHeader : ¬ mtu ≤ UInt16.ofNat kronosFrameHeaderLength + 4
  few : ¬ count32 dataLength mtu > 65535

/-- `chunk_size`, from `remaining`. -/
def chunkSize16 (payloadPerFrag : UInt16) (remaining : UInt32) : UInt16 :=
  if remaining > payloadPerFrag.toUInt32 then payloadPerFrag
  else remaining.toUInt16

/-- The variables of the first loop. -/
structure SizingState where
  i : UInt16 := 0
  totalPoolSize : UInt32 := 0
  preOffset : UInt32 := 0
  deriving DecidableEq, Repr

/-- One turn of the first loop. -/
def sizingTurn
    (dataLength : UInt32)
    (payloadPerFrag fragCount : UInt16)
    (state : SizingState) : Option SizingState :=
  if state.i < fragCount then
    let remaining := dataLength - state.preOffset
    let chunkSize := chunkSize16 payloadPerFrag remaining
    some
      { i := state.i + 1
        totalPoolSize := state.totalPoolSize +
          (UInt32.ofNat kronosFrameHeaderLength + 4 + chunkSize.toUInt32)
        preOffset := state.preOffset + chunkSize.toUInt32 }
  else none

/-- A frame that the second loop writes: its number, its offset in the pool,
its entry in `fragment_sizes`, and the piece of the data that it copies. -/
structure PoolFrame where
  index : UInt16
  offset : UInt32
  size : UInt16
  dataOffset : UInt32
  chunkSize : UInt16
  deriving DecidableEq, Repr

/-- The variables of the second loop, and the frames written so far. -/
structure WritingState where
  i : UInt16 := 0
  poolOffset : UInt32 := 0
  dataOffset : UInt32 := 0
  frames : List PoolFrame := []
  deriving DecidableEq, Repr

/-- One turn of the second loop. -/
def writingTurn
    (dataLength : UInt32)
    (payloadPerFrag fragCount : UInt16)
    (state : WritingState) : Option WritingState :=
  if state.i < fragCount then
    let remaining := dataLength - state.dataOffset
    let chunkSize := chunkSize16 payloadPerFrag remaining
    let frameSize := UInt16.ofNat kronosFrameHeaderLength + 4 + chunkSize
    some
      { i := state.i + 1
        poolOffset := state.poolOffset + frameSize.toUInt32
        dataOffset := state.dataOffset + chunkSize.toUInt32
        frames := state.frames ++
          [{ index := state.i
             offset := state.poolOffset
             size := frameSize
             dataOffset := state.dataOffset
             chunkSize := chunkSize }] }
  else none

/-! ## What the variables hold -/

section Layout

variable (dataLength payloadPerFrag : Nat)

/-- The data before a fragment. -/
def dataBefore (index : Nat) : Nat :=
  min (index * payloadPerFrag) dataLength

/-- The data of a fragment. -/
def dataWithin (index : Nat) : Nat :=
  min payloadPerFrag (dataLength - dataBefore dataLength payloadPerFrag index)

/-- The frames before a fragment. -/
def poolBefore (index : Nat) : Nat :=
  index * (kronosFrameHeaderLength + 4) +
    dataBefore dataLength payloadPerFrag index

variable {dataLength payloadPerFrag}

theorem dataBefore_succ (index : Nat) :
    dataBefore dataLength payloadPerFrag (index + 1) =
      dataBefore dataLength payloadPerFrag index +
        dataWithin dataLength payloadPerFrag index := by
  unfold dataWithin dataBefore
  rw [Nat.succ_mul]
  omega

theorem poolBefore_succ (index : Nat) :
    poolBefore dataLength payloadPerFrag (index + 1) =
      poolBefore dataLength payloadPerFrag index +
        (kronosFrameHeaderLength + 4 +
          dataWithin dataLength payloadPerFrag index) := by
  unfold poolBefore
  rw [dataBefore_succ, Nat.succ_mul]
  omega

theorem dataBefore_le (dataLength payloadPerFrag index : Nat) :
    dataBefore dataLength payloadPerFrag index ≤ dataLength :=
  Nat.min_le_right _ _

theorem dataWithin_le (dataLength payloadPerFrag index : Nat) :
    dataWithin dataLength payloadPerFrag index ≤ payloadPerFrag :=
  Nat.min_le_left _ _

theorem poolBefore_mono
    {index later : Nat}
    (before : index ≤ later) :
    poolBefore dataLength payloadPerFrag index ≤
      poolBefore dataLength payloadPerFrag later := by
  induction before with
  | refl => exact Nat.le_refl _
  | step before inductionHypothesis =>
      rw [poolBefore_succ]
      exact Nat.le_add_right_of_le inductionHypothesis

/-- At most 65535 frames of at most 65535 bytes fit into 32 bits. -/
theorem poolBefore_lt
    {index : Nat}
    (narrow : kronosFrameHeaderLength + 4 + payloadPerFrag < 2 ^ 16)
    (few : index < 2 ^ 16) :
    poolBefore dataLength payloadPerFrag index < 2 ^ 32 := by
  have data : dataBefore dataLength payloadPerFrag index ≤
      index * payloadPerFrag := Nat.min_le_left _ _
  have frames : index * (kronosFrameHeaderLength + 4 + payloadPerFrag) ≤
      (2 ^ 16 - 1) * (2 ^ 16 - 1) :=
    Nat.mul_le_mul (by omega) (by omega)
  rw [Nat.mul_add] at frames
  unfold poolBefore
  omega

end Layout

/-- The piece of the data that the second loop copies, and where. -/
def frameAt (dataLength payloadPerFrag index : Nat) : PoolFrame :=
  { index := UInt16.ofNat index
    offset := UInt32.ofNat (poolBefore dataLength payloadPerFrag index)
    size := UInt16.ofNat (kronosFrameHeaderLength + 4 +
      dataWithin dataLength payloadPerFrag index)
    dataOffset := UInt32.ofNat (dataBefore dataLength payloadPerFrag index)
    chunkSize := UInt16.ofNat (dataWithin dataLength payloadPerFrag index) }

/-- The variables of the first loop before a turn. -/
def sizingAt (dataLength payloadPerFrag index : Nat) : SizingState :=
  { i := UInt16.ofNat index
    totalPoolSize := UInt32.ofNat (poolBefore dataLength payloadPerFrag index)
    preOffset := UInt32.ofNat (dataBefore dataLength payloadPerFrag index) }

/-- The variables of the second loop before a turn. -/
def writingAt (dataLength payloadPerFrag index : Nat) : WritingState :=
  { i := UInt16.ofNat index
    poolOffset := UInt32.ofNat (poolBefore dataLength payloadPerFrag index)
    dataOffset := UInt32.ofNat (dataBefore dataLength payloadPerFrag index)
    frames := (List.range index).map (frameAt dataLength payloadPerFrag) }

section Turns

variable {dataLength : UInt32} {payloadPerFrag fragCount : UInt16}

/-- The subtraction stays within the data, and the chunk is what is left or
fills its frame. -/
theorem chunkSize16_remaining
    (dataLength : UInt32)
    (payloadPerFrag : UInt16)
    (index : Nat) :
    chunkSize16 payloadPerFrag (dataLength -
        UInt32.ofNat (dataBefore dataLength.toNat payloadPerFrag.toNat
          index)) =
      UInt16.ofNat (dataWithin dataLength.toNat payloadPerFrag.toNat
        index) := by
  have inside := dataBefore_le dataLength.toNat payloadPerFrag.toNat index
  have bounded : dataLength.toNat < 2 ^ 32 := dataLength.toNat_lt
  generalize dataOffset : dataBefore dataLength.toNat payloadPerFrag.toNat
    index = offset at inside
  have offsetWord : (UInt32.ofNat offset).toNat = offset :=
    UInt32.toNat_ofNat_of_lt' (lt_of_le_of_lt inside bounded)
  have remaining : (dataLength - UInt32.ofNat offset).toNat =
      dataLength.toNat - offset := by
    rw [UInt32.toNat_sub_of_le _ _ (UInt32.le_iff_toNat_le.mpr (by omega)),
      offsetWord]
  have within : dataWithin dataLength.toNat payloadPerFrag.toNat index =
      min payloadPerFrag.toNat (dataLength.toNat - offset) := by
    rw [dataWithin, dataOffset]
  rw [within, chunkSize16]
  split
  case isTrue more =>
    rw [gt_iff_lt, UInt32.lt_iff_toNat_lt, UInt16.toNat_toUInt32,
      remaining] at more
    rw [Nat.min_eq_left (Nat.le_of_lt more), UInt16.ofNat_toNat]
  case isFalse rest =>
    rw [gt_iff_lt, UInt32.lt_iff_toNat_lt, UInt16.toNat_toUInt32,
      remaining] at rest
    rw [Nat.min_eq_right (Nat.not_lt.mp rest), ← remaining]
    rfl

/-- A turn is made for every fragment. -/
theorem index_lt_fragCount
    {index : Nat}
    (before : index < fragCount.toNat) :
    UInt16.ofNat index < fragCount :=
  (UInt16.ofNat_lt_iff (lt_trans before fragCount.toNat_lt)).mpr before

/-- The first loop takes the sizes in turn. -/
theorem sizingTurn_at
    (narrow : kronosFrameHeaderLength + 4 + payloadPerFrag.toNat < 2 ^ 16)
    {index : Nat}
    (before : index < fragCount.toNat) :
    sizingTurn dataLength payloadPerFrag fragCount
        (sizingAt dataLength.toNat payloadPerFrag.toNat index) =
      some (sizingAt dataLength.toNat payloadPerFrag.toNat (index + 1)) := by
  have chunk := chunkSize16_remaining dataLength payloadPerFrag index
  have fits := dataWithin_le dataLength.toNat payloadPerFrag.toNat index
  have size : dataWithin dataLength.toNat payloadPerFrag.toNat index <
      2 ^ 16 := by omega
  simp only [sizingTurn, sizingAt, chunk,
    if_pos (index_lt_fragCount before), UInt16.toUInt32_ofNat' size,
    dataBefore_succ, poolBefore_succ, UInt32.ofNat_add, UInt16.ofNat_add]
  rfl

/-- The second loop takes the same sizes. -/
theorem writingTurn_at
    (narrow : kronosFrameHeaderLength + 4 + payloadPerFrag.toNat < 2 ^ 16)
    {index : Nat}
    (before : index < fragCount.toNat) :
    writingTurn dataLength payloadPerFrag fragCount
        (writingAt dataLength.toNat payloadPerFrag.toNat index) =
      some (writingAt dataLength.toNat payloadPerFrag.toNat (index + 1)) := by
  have chunk := chunkSize16_remaining dataLength payloadPerFrag index
  have fits := dataWithin_le dataLength.toNat payloadPerFrag.toNat index
  have size : kronosFrameHeaderLength + 4 +
      dataWithin dataLength.toNat payloadPerFrag.toNat index < 2 ^ 16 := by
    omega
  have frameSize : UInt16.ofNat kronosFrameHeaderLength + 4 +
      UInt16.ofNat (dataWithin dataLength.toNat payloadPerFrag.toNat index) =
        UInt16.ofNat (kronosFrameHeaderLength + 4 +
          dataWithin dataLength.toNat payloadPerFrag.toNat index) := by
    rw [UInt16.ofNat_add]
    rfl
  have chunkSmall : dataWithin dataLength.toNat payloadPerFrag.toNat index <
      2 ^ 16 := by omega
  simp only [writingTurn, writingAt, chunk, frameSize,
    if_pos (index_lt_fragCount before), UInt16.toUInt32_ofNat' size,
    UInt16.toUInt32_ofNat' chunkSmall, dataBefore_succ, poolBefore_succ]
  rw [UInt32.ofNat_add (poolBefore _ _ index),
    UInt32.ofNat_add (dataBefore _ _ index), UInt16.ofNat_add index,
    List.range_succ, List.map_append]
  rfl

/-- After the last fragment neither loop makes a turn. -/
theorem fragCount_not_lt :
    ¬ UInt16.ofNat fragCount.toNat < fragCount := by
  rw [UInt16.ofNat_toNat]
  exact UInt16.lt_irrefl fragCount

end Turns

section Reached

variable {dataLength : UInt32} {mtu : UInt16}

theorem ReachesLoops.mtuLarge
    (reaches : ReachesLoops dataLength mtu) :
    kronosFrameHeaderLength + 4 < mtu.toNat :=
  UInt16.lt_iff_toNat_lt.mp (UInt16.not_le.mp reaches.fragmentHeader)

/-- What fits behind a plain header. -/
theorem ReachesLoops.plainMax
    (reaches : ReachesLoops dataLength mtu) :
    (mtu - UInt16.ofNat kronosFrameHeaderLength).toNat =
      mtu.toNat - kronosFrameHeaderLength := by
  have large := reaches.mtuLarge
  have header : (UInt16.ofNat kronosFrameHeaderLength).toNat =
      kronosFrameHeaderLength := rfl
  rw [UInt16.toNat_sub_of_le _ _ (UInt16.le_iff_toNat_le.mpr (by omega)),
    header]

/-- A frame with its headers is as long as the mtu. -/
theorem ReachesLoops.payloadPerFrag
    (reaches : ReachesLoops dataLength mtu) :
    kronosFrameHeaderLength + 4 + (payloadPerFrag16 mtu).toNat =
      mtu.toNat := by
  have large := reaches.mtuLarge
  have plain := reaches.plainMax
  have four : (4 : UInt16).toNat = 4 := rfl
  rw [payloadPerFrag16, UInt16.toNat_sub_of_le _ _
    (UInt16.le_iff_toNat_le.mpr (by omega)), plain, four]
  omega

theorem ReachesLoops.narrow
    (reaches : ReachesLoops dataLength mtu) :
    kronosFrameHeaderLength + 4 + (payloadPerFrag16 mtu).toNat < 2 ^ 16 := by
  rw [reaches.payloadPerFrag]
  exact mtu.toNat_lt

theorem ReachesLoops.long_toNat
    (reaches : ReachesLoops dataLength mtu) :
    ¬ dataLength.toNat ≤ mtu.toNat - kronosFrameHeaderLength := by
  have long := reaches.long
  rw [UInt32.le_iff_toNat_le, UInt16.toNat_toUInt32, reaches.plainMax] at long
  exact long

/-- The number of fragments, wrapped as its sum wraps. -/
theorem ReachesLoops.count_toNat
    (reaches : ReachesLoops dataLength mtu) :
    (count32 dataLength mtu).toNat =
      fragmentCount dataLength.toNat mtu.toNat := by
  have large := reaches.mtuLarge
  have payload := reaches.payloadPerFrag
  have perFrag : mtu.toNat - kronosFrameHeaderLength - 4 =
      (payloadPerFrag16 mtu).toNat := by omega
  have one : (1 : UInt32).toNat = 1 := rfl
  have rounded :
      (dataLength + (payloadPerFrag16 mtu).toUInt32 - 1).toNat =
        (dataLength.toNat + (payloadPerFrag16 mtu).toNat - 1) % 2 ^ 32 := by
    rw [UInt32.toNat_sub, UInt32.toNat_add, UInt16.toNat_toUInt32, one]
    omega
  rw [count32, fragmentCount, UInt32.toNat_div, rounded,
    UInt16.toNat_toUInt32, perFrag]

/-- The number of fragments fits its 16 bits. -/
theorem ReachesLoops.fragCount
    (reaches : ReachesLoops dataLength mtu) :
    (fragCount16 dataLength mtu).toNat = (count32 dataLength mtu).toNat := by
  have few := UInt32.le_iff_toNat_le.mp (UInt32.not_lt.mp reaches.few)
  have limit : (65535 : UInt32).toNat = 65535 := rfl
  rw [fragCount16, UInt32.toNat_toUInt16]
  exact Nat.mod_eq_of_lt (by omega)

/-- The first loop ends after a turn for every fragment. -/
theorem ReachesLoops.sizing
    (reaches : ReachesLoops dataLength mtu)
    {fuel : Nat}
    (enough : (fragCount16 dataLength mtu).toNat < fuel) :
    loop (sizingTurn dataLength (payloadPerFrag16 mtu)
        (fragCount16 dataLength mtu)) fuel {} =
      some ((List.range (fragCount16 dataLength mtu).toNat).map
          (sizingAt dataLength.toNat (payloadPerFrag16 mtu).toNat),
        sizingAt dataLength.toNat (payloadPerFrag16 mtu).toNat
          (fragCount16 dataLength mtu).toNat) := by
  have start : sizingAt dataLength.toNat (payloadPerFrag16 mtu).toNat 0 =
      {} := by
    simp [sizingAt, poolBefore, dataBefore]
  rw [← start]
  refine loop_of_states (fun index before =>
    sizingTurn_at reaches.narrow before) ?_ enough
  exact if_neg fragCount_not_lt

/-- The second loop ends after a turn for every fragment. -/
theorem ReachesLoops.writing
    (reaches : ReachesLoops dataLength mtu)
    {fuel : Nat}
    (enough : (fragCount16 dataLength mtu).toNat < fuel) :
    loop (writingTurn dataLength (payloadPerFrag16 mtu)
        (fragCount16 dataLength mtu)) fuel {} =
      some ((List.range (fragCount16 dataLength mtu).toNat).map
          (writingAt dataLength.toNat (payloadPerFrag16 mtu).toNat),
        writingAt dataLength.toNat (payloadPerFrag16 mtu).toNat
          (fragCount16 dataLength mtu).toNat) := by
  have start : writingAt dataLength.toNat (payloadPerFrag16 mtu).toNat 0 =
      {} := by
    simp [writingAt, poolBefore, dataBefore]
  rw [← start]
  refine loop_of_states (fun index before =>
    writingTurn_at reaches.narrow before) ?_ enough
  exact if_neg fragCount_not_lt

end Reached

/-! ## The frames in the pool -/

section Frames

variable {payloadPerFrag : Nat}

theorem frameAt_offset
    (dataLength : Nat)
    (narrow : kronosFrameHeaderLength + 4 + payloadPerFrag < 2 ^ 16)
    {index : Nat}
    (few : index < 2 ^ 16) :
    (frameAt dataLength payloadPerFrag index).offset.toNat =
      poolBefore dataLength payloadPerFrag index :=
  UInt32.toNat_ofNat_of_lt' (poolBefore_lt narrow few)

theorem frameAt_dataOffset
    {dataLength : Nat}
    (payloadPerFrag : Nat)
    (bounded : dataLength < 2 ^ 32)
    (index : Nat) :
    (frameAt dataLength payloadPerFrag index).dataOffset.toNat =
      dataBefore dataLength payloadPerFrag index :=
  UInt32.toNat_ofNat_of_lt' (lt_of_le_of_lt (dataBefore_le _ _ index) bounded)

theorem frameAt_size
    (dataLength : Nat)
    (narrow : kronosFrameHeaderLength + 4 + payloadPerFrag < 2 ^ 16)
    (index : Nat) :
    (frameAt dataLength payloadPerFrag index).size.toNat =
      kronosFrameHeaderLength + 4 +
        dataWithin dataLength payloadPerFrag index := by
  have fits := dataWithin_le dataLength payloadPerFrag index
  exact UInt16.toNat_ofNat_of_lt' (lt_of_le_of_lt (by omega) narrow)

theorem frameAt_chunkSize
    (dataLength : Nat)
    (narrow : kronosFrameHeaderLength + 4 + payloadPerFrag < 2 ^ 16)
    (index : Nat) :
    (frameAt dataLength payloadPerFrag index).chunkSize.toNat =
      dataWithin dataLength payloadPerFrag index := by
  have fits := dataWithin_le dataLength payloadPerFrag index
  have small : dataWithin dataLength payloadPerFrag index < 2 ^ 16 := by
    omega
  exact UInt16.toNat_ofNat_of_lt' small

/-- Every frame starts where the one before it ends. -/
theorem frames_tile
    (dataLength : Nat)
    (narrow : kronosFrameHeaderLength + 4 + payloadPerFrag < 2 ^ 16)
    {count : Nat}
    (few : count < 2 ^ 16) :
    Tiles (fun frame : PoolFrame => frame.offset.toNat)
      (fun frame : PoolFrame => frame.size.toNat) 0
      ((List.range count).map (frameAt dataLength payloadPerFrag))
      (poolBefore dataLength payloadPerFrag count) := by
  induction count with
  | zero => simp [Tiles, poolBefore, dataBefore]
  | succ count inductionHypothesis =>
      have before : count < 2 ^ 16 := by omega
      have next := frameAt_offset dataLength narrow before
      have more := (inductionHypothesis before).concat next
      rw [frameAt_size dataLength narrow, ← poolBefore_succ] at more
      rw [List.range_succ, List.map_append]
      exact more

end Frames

/-- What the two loops agree on: they make a turn for every fragment, no
computation leaves its variable, and the frames fill the pool. -/
structure PoolTiled
    (dataLength : UInt32)
    (mtu : UInt16)
    (sizing : List SizingState)
    (sized : SizingState)
    (writing : List WritingState)
    (written : WritingState) : Prop where
  fragCount : (fragCount16 dataLength mtu).toNat =
    (count32 dataLength mtu).toNat
  sizingTurns : sizing.length = (fragCount16 dataLength mtu).toNat
  writingTurns : writing.length = (fragCount16 dataLength mtu).toNat
  sizingRemaining : ∀ state ∈ sizing, state.preOffset ≤ dataLength
  writingRemaining : ∀ state ∈ writing, state.dataOffset ≤ dataLength
  unwrapped : ∀ state ∈ sizing,
    state.totalPoolSize.toNat + (kronosFrameHeaderLength + 4 +
        (chunkSize16 (payloadPerFrag16 mtu)
          (dataLength - state.preOffset)).toNat) ≤
      sized.totalPoolSize.toNat
  total : sized.totalPoolSize.toNat =
    (written.frames.map fun frame => frame.size.toNat).sum
  frames : written.frames.length = (fragCount16 dataLength mtu).toNat
  chunks : ∀ frame ∈ written.frames,
    frame.chunkSize.toNat = min (payloadPerFrag16 mtu).toNat
      (dataLength.toNat - frame.dataOffset.toNat)
  sizes : ∀ frame ∈ written.frames,
    frame.size.toNat =
        kronosFrameHeaderLength + 4 + frame.chunkSize.toNat ∧
      frame.size ≤ mtu
  inside : ∀ frame ∈ written.frames,
    frame.offset.toNat + frame.size.toNat ≤ sized.totalPoolSize.toNat
  apart : written.frames.Pairwise fun earlier later =>
    earlier.offset.toNat + earlier.size.toNat ≤ later.offset.toNat
  covered : ∀ cell < sized.totalPoolSize.toNat, ∃ frame ∈ written.frames,
    frame.offset.toNat ≤ cell ∧
      cell < frame.offset.toNat + frame.size.toNat

section Reached

variable {dataLength : UInt32} {mtu : UInt16}

/-- The closed forms of the variables agree. -/
theorem ReachesLoops.poolTiled
    (reaches : ReachesLoops dataLength mtu) :
    let count := (fragCount16 dataLength mtu).toNat
    let sizing := sizingAt dataLength.toNat (payloadPerFrag16 mtu).toNat
    let writing := writingAt dataLength.toNat (payloadPerFrag16 mtu).toNat
    PoolTiled dataLength mtu ((List.range count).map sizing) (sizing count)
      ((List.range count).map writing) (writing count) := by
  intro count sizing writing
  have narrow := reaches.narrow
  have few : count < 2 ^ 16 := (fragCount16 dataLength mtu).toNat_lt
  have bounded : dataLength.toNat < 2 ^ 32 := dataLength.toNat_lt
  have pool : (sizing count).totalPoolSize.toNat =
      poolBefore dataLength.toNat (payloadPerFrag16 mtu).toNat count :=
    UInt32.toNat_ofNat_of_lt' (poolBefore_lt narrow few)
  have tiles := frames_tile dataLength.toNat narrow few
  have offset : ∀ index,
      UInt32.ofNat (dataBefore dataLength.toNat (payloadPerFrag16 mtu).toNat
        index) ≤ dataLength := by
    intro index
    have inside := dataBefore_le dataLength.toNat
      (payloadPerFrag16 mtu).toNat index
    rw [← frameAt_dataOffset _ bounded] at inside
    exact UInt32.le_iff_toNat_le.mpr inside
  constructor
  case fragCount => exact reaches.fragCount
  case sizingTurns => simp [count]
  case writingTurns => simp [count]
  case sizingRemaining =>
    intro state member
    obtain ⟨index, -, rfl⟩ := List.mem_map.mp member
    exact offset index
  case writingRemaining =>
    intro state member
    obtain ⟨index, -, rfl⟩ := List.mem_map.mp member
    exact offset index
  case unwrapped =>
    intro state member
    obtain ⟨index, below, rfl⟩ := List.mem_map.mp member
    have before : index < count := List.mem_range.mp below
    have chunk : (chunkSize16 (payloadPerFrag16 mtu)
        (dataLength - (sizing index).preOffset)).toNat =
          dataWithin dataLength.toNat (payloadPerFrag16 mtu).toNat index := by
      rw [← frameAt_chunkSize _ narrow]
      exact congrArg UInt16.toNat (chunkSize16_remaining _ _ index)
    have here : (sizing index).totalPoolSize.toNat =
        poolBefore dataLength.toNat (payloadPerFrag16 mtu).toNat index :=
      frameAt_offset _ narrow (by omega)
    rw [chunk, here, pool, ← poolBefore_succ]
    exact poolBefore_mono before
  case total =>
    have sum := tiles.total
    rw [Nat.zero_add, ← pool] at sum
    exact sum.symm
  case frames => simp [writing, writingAt, count]
  case chunks =>
    intro frame member
    obtain ⟨index, -, rfl⟩ := List.mem_map.mp member
    rw [frameAt_chunkSize _ narrow, frameAt_dataOffset _ bounded]
    rfl
  case sizes =>
    intro frame member
    obtain ⟨index, -, rfl⟩ := List.mem_map.mp member
    have fits := dataWithin_le dataLength.toNat (payloadPerFrag16 mtu).toNat
      index
    rw [UInt16.le_iff_toNat_le, frameAt_size _ narrow,
      frameAt_chunkSize _ narrow, ← reaches.payloadPerFrag]
    exact ⟨rfl, Nat.add_le_add_left fits _⟩
  case inside =>
    intro frame member
    rw [pool]
    exact (tiles.inside member).2
  case apart => exact tiles.apart
  case covered =>
    intro cell below
    rw [pool] at below
    exact tiles.covers (Nat.zero_le _) below

/-- Whenever `krs_fragment_split` reaches its two loops, both end after a turn
for every fragment, and the frames that the second loop writes fill the pool
that the first one sizes. -/
theorem krsFragmentSplit_pool_tiled
    (reaches : ReachesLoops dataLength mtu)
    {fuel : Nat}
    (enough : (fragCount16 dataLength mtu).toNat < fuel) :
    ∃ sizing sized writing written,
      loop (sizingTurn dataLength (payloadPerFrag16 mtu)
          (fragCount16 dataLength mtu)) fuel {} = some (sizing, sized) ∧
        loop (writingTurn dataLength (payloadPerFrag16 mtu)
          (fragCount16 dataLength mtu)) fuel {} = some (writing, written) ∧
        PoolTiled dataLength mtu sizing sized writing written :=
  ⟨_, _, _, _, reaches.sizing enough, reaches.writing enough,
    reaches.poolTiled⟩

/-- Ten bytes and an mtu of 20: five frames of twenty bytes. -/
theorem ten_bytes_fill_their_pool :
    ∃ sizing sized writing written,
      loop (sizingTurn 10 (payloadPerFrag16 20) (fragCount16 10 20)) 6 {} =
          some (sizing, sized) ∧
        loop (writingTurn 10 (payloadPerFrag16 20) (fragCount16 10 20)) 6 {} =
          some (writing, written) ∧
        PoolTiled 10 20 sizing sized writing written :=
  krsFragmentSplit_pool_tiled
    { header := by decide
      long := by decide
      fragmentHeader := by decide
      few := by decide } (by decide)

end Reached

/-! ## The split -/

section Split

variable {dataLength payloadPerFrag : Nat}

/-- The data offset after a fragment is the one before the next. -/
theorem nextOffset_dataBefore
    (narrow : payloadPerFrag < 2 ^ 16)
    (bounded : dataLength < 2 ^ 32)
    (index : Nat) :
    chunkSize dataLength payloadPerFrag
          (dataBefore dataLength payloadPerFrag index) =
        dataWithin dataLength payloadPerFrag index ∧
      (dataBefore dataLength payloadPerFrag index +
          dataWithin dataLength payloadPerFrag index) % 2 ^ 32 =
        dataBefore dataLength payloadPerFrag (index + 1) := by
  have inside := dataBefore_le dataLength payloadPerFrag index
  have next := dataBefore_le dataLength payloadPerFrag (index + 1)
  refine ⟨chunkSize_eq_min inside narrow bounded, ?_⟩
  rw [← dataBefore_succ, Nat.mod_eq_of_lt (lt_of_le_of_lt next bounded)]

theorem splitSizes_dataBefore
    (narrow : payloadPerFrag < 2 ^ 16)
    (bounded : dataLength < 2 ^ 32)
    (left index : Nat) :
    splitSizes dataLength payloadPerFrag left
        (dataBefore dataLength payloadPerFrag index) =
      (List.range' index left).map
        (dataWithin dataLength payloadPerFrag) := by
  induction left generalizing index with
  | zero => rfl
  | succ left inductionHypothesis =>
      obtain ⟨chunk, next⟩ := nextOffset_dataBefore narrow bounded index
      rw [splitSizes, List.range'_succ, List.map_cons]
      simp only [chunk, next]
      rw [inductionHypothesis]

theorem splitChunks_dataBefore
    (data : List UInt8)
    (narrow : payloadPerFrag < 2 ^ 16)
    (bounded : dataLength < 2 ^ 32)
    (left index : Nat) :
    splitChunks data dataLength payloadPerFrag left
        (dataBefore dataLength payloadPerFrag index) =
      (List.range' index left).map fun index =>
        (data.drop (dataBefore dataLength payloadPerFrag index)).take
          (dataWithin dataLength payloadPerFrag index) := by
  induction left generalizing index with
  | zero => rfl
  | succ left inductionHypothesis =>
      obtain ⟨chunk, next⟩ := nextOffset_dataBefore narrow bounded index
      rw [splitChunks, List.range'_succ, List.map_cons]
      simp only [chunk, next]
      rw [inductionHypothesis]

theorem totalPoolSize_dataBefore
    (narrow : kronosFrameHeaderLength + 4 + payloadPerFrag < 2 ^ 16)
    (bounded : dataLength < 2 ^ 32)
    (left index : Nat)
    (few : index + left < 2 ^ 16) :
    totalPoolSize dataLength payloadPerFrag left
        (dataBefore dataLength payloadPerFrag index)
        (poolBefore dataLength payloadPerFrag index) =
      poolBefore dataLength payloadPerFrag (index + left) := by
  induction left generalizing index with
  | zero => rfl
  | succ left inductionHypothesis =>
      have small : payloadPerFrag < 2 ^ 16 := by omega
      obtain ⟨chunk, next⟩ := nextOffset_dataBefore small bounded index
      have pool : (poolBefore dataLength payloadPerFrag index +
          (kronosFrameHeaderLength + 4 +
            dataWithin dataLength payloadPerFrag index)) % 2 ^ 32 =
          poolBefore dataLength payloadPerFrag (index + 1) := by
        rw [← poolBefore_succ,
          Nat.mod_eq_of_lt (poolBefore_lt narrow (by omega))]
      rw [totalPoolSize.eq_def]
      simp only [chunk, next, pool]
      rw [inductionHypothesis (index + 1) (by omega), Nat.add_assoc,
        Nat.add_comm 1]

theorem dataBefore_zero : dataBefore dataLength payloadPerFrag 0 = 0 := by
  rw [dataBefore, Nat.zero_mul, Nat.zero_min]

/-- The chunks of a split are the pieces that its frames name. -/
theorem mapIdx_splitChunks
    {result : Type}
    (data : List UInt8)
    (build : Nat -> List UInt8 -> result)
    (narrow : kronosFrameHeaderLength + 4 + payloadPerFrag < 2 ^ 16)
    (bounded : dataLength < 2 ^ 32)
    {count : Nat}
    (few : count < 2 ^ 16) :
    (splitChunks data dataLength payloadPerFrag count 0).mapIdx build =
      ((List.range count).map (frameAt dataLength payloadPerFrag)).map
        fun frame => build frame.index.toNat
          ((data.drop frame.dataOffset.toNat).take
            frame.chunkSize.toNat) := by
  have small : payloadPerFrag < 2 ^ 16 := by omega
  have chunks := splitChunks_dataBefore data small bounded count 0
  rw [dataBefore_zero] at chunks
  rw [chunks, List.map_map]
  apply List.ext_getElem
  · simp
  · intro index inside _
    have below : index < count := by simpa using inside
    have number : (frameAt dataLength payloadPerFrag index).index.toNat =
        index := UInt16.toNat_ofNat_of_lt' (lt_trans below few)
    simp only [List.getElem_mapIdx, List.getElem_map, List.getElem_range',
      List.getElem_range, Function.comp_apply, Nat.zero_add, Nat.one_mul,
      number, frameAt_dataOffset _ bounded, frameAt_chunkSize _ narrow]

/-- The recorded sizes of a split are the sizes of its frames. -/
theorem map_splitSizes
    (narrow : kronosFrameHeaderLength + 4 + payloadPerFrag < 2 ^ 16)
    (bounded : dataLength < 2 ^ 32)
    (count : Nat) :
    (splitSizes dataLength payloadPerFrag count 0).map (fun chunk =>
        (kronosFrameHeaderLength + 4 + chunk) % 2 ^ 16) =
      ((List.range count).map (frameAt dataLength payloadPerFrag)).map
        fun frame => frame.size.toNat := by
  have small : payloadPerFrag < 2 ^ 16 := by omega
  have sizes := splitSizes_dataBefore small bounded count 0
  rw [dataBefore_zero] at sizes
  rw [sizes, List.range_eq_range', List.map_map, List.map_map]
  apply List.map_congr_left
  intro index _
  have fits := dataWithin_le dataLength payloadPerFrag index
  rw [Function.comp_apply, Function.comp_apply, frameAt_size _ narrow,
    Nat.mod_eq_of_lt (by omega)]

end Split

/-- Where its allocations succeed, the split returns the frames that the second
loop writes, in a pool of the size that the first loop computes. -/
theorem krsFragmentSplit_eq_frames
    (channel : Channel)
    (type : FrameType)
    (packetId : UInt64)
    (data : List UInt8)
    (flags : UInt16)
    {dataLength : UInt32}
    {mtu : UInt16}
    {allocations : SplitAllocations}
    (reaches : ReachesLoops dataLength mtu)
    (arrays : allocations.arrays = true)
    (frames : allocations.frames = true)
    {fuel : Nat}
    (enough : (fragCount16 dataLength mtu).toNat < fuel) :
    ∃ sizing sized writing written,
      loop (sizingTurn dataLength (payloadPerFrag16 mtu)
          (fragCount16 dataLength mtu)) fuel {} = some (sizing, sized) ∧
        loop (writingTurn dataLength (payloadPerFrag16 mtu)
          (fragCount16 dataLength mtu)) fuel {} = some (writing, written) ∧
        krsFragmentSplit channel type packetId data dataLength.toNat
            mtu.toNat flags allocations =
          { base := .suc
            fragments := written.frames.map fun frame =>
              fragmentFrame channel type packetId flags frame.index.toNat
                (fragCount16 dataLength mtu).toNat
                ((data.drop frame.dataOffset.toNat).take
                  frame.chunkSize.toNat)
            fragmentSizes := written.frames.map fun frame =>
              frame.size.toNat
            dataPool := some sized.totalPoolSize.toNat } := by
  refine ⟨_, _, _, _, reaches.sizing enough, reaches.writing enough, ?_⟩
  generalize counted : (fragCount16 dataLength mtu).toNat = count
  have narrow := reaches.narrow
  have payload := reaches.payloadPerFrag
  have bounded : dataLength.toNat < 2 ^ 32 := dataLength.toNat_lt
  have few : count < 2 ^ 16 := by
    rw [← counted]
    exact (fragCount16 dataLength mtu).toNat_lt
  have perFrag : mtu.toNat - kronosFrameHeaderLength - 4 =
      (payloadPerFrag16 mtu).toNat := by omega
  have total : fragmentCount dataLength.toNat mtu.toNat = count :=
    (reaches.fragCount.trans reaches.count_toNat).symm.trans counted
  have split := krsFragmentSplit_fragments channel type packetId data flags
    reaches.mtuLarge reaches.long_toNat (by omega) arrays frames
  have start : poolBefore dataLength.toNat (payloadPerFrag16 mtu).toNat 0 =
      0 := by
    rw [poolBefore, dataBefore_zero, Nat.zero_mul]
  have pool := totalPoolSize_dataBefore narrow bounded count 0 (by omega)
  rw [dataBefore_zero, start, Nat.zero_add] at pool
  have size : (sizingAt dataLength.toNat (payloadPerFrag16 mtu).toNat
      count).totalPoolSize.toNat =
        poolBefore dataLength.toNat (payloadPerFrag16 mtu).toNat count :=
    frameAt_offset _ narrow few
  dsimp only at split
  rw [split, total, perFrag, mapIdx_splitChunks data _ narrow bounded few,
    map_splitSizes narrow bounded, pool, size]
  rfl

end Kronos
