import Mathlib.Data.List.Basic
import Mathlib.Data.Nat.Bitwise
import Mathlib.Tactic.Ring

/-!
# Byte strings and big-endian words

Words are natural numbers, byte strings are lists of `UInt8`.  A word is
written most significant byte first.  Two ways of reading it back are related
to one another: the Horner fold, and the disjunction of shifted bytes.

Memory is a byte string as well.  `writeAt` is the checked block copy: it
fails exactly when the copied block leaves the destination.
-/

namespace Library

/-- The `width` low-order bytes of `value`, most significant first. -/
def bigEndian : Nat -> Nat -> List UInt8
  | 0, _ => []
  | width + 1, value =>
      UInt8.ofNat (value / 256 ^ width) :: bigEndian width value

@[simp] theorem length_bigEndian (width value : Nat) :
    (bigEndian width value).length = width := by
  induction width with
  | zero => rfl
  | succ width inductionHypothesis =>
      simp [bigEndian, inductionHypothesis]

/-- Horner evaluation of a byte string, starting from an accumulator. -/
def hornerFrom (accumulator : Nat) (bytes : List UInt8) : Nat :=
  bytes.foldl (fun value byte => value * 256 + byte.toNat) accumulator

/-- The word a byte string denotes, most significant byte first. -/
def fromBigEndian (bytes : List UInt8) : Nat :=
  hornerFrom 0 bytes

@[simp] theorem hornerFrom_nil (accumulator : Nat) :
    hornerFrom accumulator [] = accumulator := rfl

@[simp] theorem hornerFrom_cons
    (accumulator : Nat)
    (byte : UInt8)
    (bytes : List UInt8) :
    hornerFrom accumulator (byte :: bytes) =
      hornerFrom (accumulator * 256 + byte.toNat) bytes := rfl

/-- The accumulator contributes its own value, shifted past the bytes read. -/
theorem hornerFrom_eq
    (accumulator : Nat)
    (bytes : List UInt8) :
    hornerFrom accumulator bytes =
      accumulator * 256 ^ bytes.length + fromBigEndian bytes := by
  induction bytes generalizing accumulator with
  | nil => simp [fromBigEndian]
  | cons byte bytes inductionHypothesis =>
      have headValue : fromBigEndian (byte :: bytes) =
          byte.toNat * 256 ^ bytes.length + fromBigEndian bytes := by
        rw [fromBigEndian, hornerFrom_cons, inductionHypothesis]
        simp
      rw [hornerFrom_cons, inductionHypothesis, headValue,
        List.length_cons, pow_succ]
      ring

theorem fromBigEndian_cons
    (byte : UInt8)
    (bytes : List UInt8) :
    fromBigEndian (byte :: bytes) =
      byte.toNat * 256 ^ bytes.length + fromBigEndian bytes := by
  rw [fromBigEndian, hornerFrom_cons, hornerFrom_eq]
  simp

theorem fromBigEndian_lt (bytes : List UInt8) :
    fromBigEndian bytes < 256 ^ bytes.length := by
  induction bytes with
  | nil => simp [fromBigEndian]
  | cons byte bytes inductionHypothesis =>
      rw [fromBigEndian_cons, List.length_cons, pow_succ]
      have byteBound : byte.toNat ≤ 255 := Nat.le_of_lt_succ byte.toNat_lt
      have scaled : byte.toNat * 256 ^ bytes.length ≤
          255 * 256 ^ bytes.length := Nat.mul_le_mul_right _ byteBound
      omega

/-- Reading back a written word returns it, reduced to the width written. -/
theorem fromBigEndian_bigEndian (width value : Nat) :
    fromBigEndian (bigEndian width value) = value % 256 ^ width := by
  induction width with
  | zero => simp [bigEndian, fromBigEndian, Nat.mod_one]
  | succ width inductionHypothesis =>
      rw [bigEndian, fromBigEndian_cons, length_bigEndian,
        inductionHypothesis, pow_succ, Nat.mod_mul]
      simp
      ring

/-- A word that fits its width survives the round trip. -/
theorem fromBigEndian_bigEndian_of_lt
    {width value : Nat}
    (fits : value < 256 ^ width) :
    fromBigEndian (bigEndian width value) = value := by
  rw [fromBigEndian_bigEndian, Nat.mod_eq_of_lt fits]

/-- Higher-order digits are not written. -/
theorem bigEndian_add_mul (width value high : Nat) :
    bigEndian width (high * 256 ^ width + value) = bigEndian width value := by
  induction width generalizing high with
  | zero => rfl
  | succ width inductionHypothesis =>
      have shifted : high * 256 ^ (width + 1) + value =
          high * 256 * 256 ^ width + value := by
        rw [pow_succ]
        ring
      have digit : (high * 256 * 256 ^ width + value) / 256 ^ width =
          value / 256 ^ width + 256 * high := by
        rw [Nat.add_comm, Nat.add_mul_div_right _ _ (Nat.pow_pos (by decide)),
          Nat.mul_comm high]
      rw [bigEndian, bigEndian, shifted, inductionHypothesis, digit]
      congr 1
      apply UInt8.toNat_inj.mp
      simp

/-- Writing back a word that was read returns its bytes. -/
theorem bigEndian_fromBigEndian (bytes : List UInt8) :
    bigEndian bytes.length (fromBigEndian bytes) = bytes := by
  induction bytes with
  | nil => rfl
  | cons byte bytes inductionHypothesis =>
      have below := fromBigEndian_lt bytes
      rw [List.length_cons, bigEndian, fromBigEndian_cons, bigEndian_add_mul,
        inductionHypothesis, Nat.add_comm,
        Nat.add_mul_div_right _ _ (Nat.pow_pos (by decide)), Nat.div_eq_of_lt below,
        Nat.zero_add, UInt8.ofNat_toNat]

/-! ## Reading by shifts -/

/-- One step of shift-and-or reading is one Horner step. -/
theorem shiftLeft_or_byte (value : Nat) (byte : UInt8) :
    value <<< 8 ||| byte.toNat = value * 256 + byte.toNat := by
  rw [← Nat.shiftLeft_add_eq_or_of_lt (by simpa using byte.toNat_lt),
    Nat.shiftLeft_eq]

/-- A fold of shift-and-or steps is the Horner fold. -/
theorem foldl_shiftLeft_or_eq_hornerFrom
    (accumulator : Nat)
    (bytes : List UInt8) :
    bytes.foldl (fun value byte => value <<< 8 ||| byte.toNat) accumulator =
      hornerFrom accumulator bytes := by
  simp only [shiftLeft_or_byte, hornerFrom]

/-- The disjunction of the bytes of a string, each shifted to its place. -/
def shiftedOr : List UInt8 -> Nat
  | [] => 0
  | byte :: bytes => byte.toNat <<< (8 * bytes.length) ||| shiftedOr bytes

/-- Shifted bytes do not overlap, so their disjunction is the word denoted. -/
theorem shiftedOr_eq_fromBigEndian (bytes : List UInt8) :
    shiftedOr bytes = fromBigEndian bytes := by
  induction bytes with
  | nil => rfl
  | cons byte bytes inductionHypothesis =>
      have places : (2 : Nat) ^ (8 * bytes.length) = 256 ^ bytes.length := by
        rw [pow_mul]
        norm_num
      have below : fromBigEndian bytes < 2 ^ (8 * bytes.length) := by
        rw [places]
        exact fromBigEndian_lt bytes
      rw [shiftedOr, inductionHypothesis,
        ← Nat.shiftLeft_add_eq_or_of_lt below, Nat.shiftLeft_eq, places,
        fromBigEndian_cons]

/-! ## Checked block copies -/

/-- Copy `source` over `memory` from `offset` on.  The copy fails when a byte
of it would fall outside `memory`. -/
def writeAt
    (memory : List α)
    (offset : Nat)
    (source : List α) : Option (List α) :=
  if offset + source.length ≤ memory.length then
    some (memory.take offset ++ source ++
      memory.drop (offset + source.length))
  else none

/-- Read `count` cells of `memory` from `offset` on; fails outside it. -/
def readAt
    (memory : List α)
    (offset count : Nat) : Option (List α) :=
  if offset + count ≤ memory.length then
    some ((memory.drop offset).take count)
  else none

theorem writeAt_eq_some
    {memory source : List α}
    {offset : Nat}
    (inside : offset + source.length ≤ memory.length) :
    writeAt memory offset source =
      some (memory.take offset ++ source ++
        memory.drop (offset + source.length)) := by
  rw [writeAt, if_pos inside]

theorem readAt_eq_some
    {memory : List α}
    {offset count : Nat}
    (inside : offset + count ≤ memory.length) :
    readAt memory offset count =
      some ((memory.drop offset).take count) := by
  rw [readAt, if_pos inside]

/-- What a successful block copy leaves behind. -/
theorem writeAt_eq_some_iff
    {memory source result : List α}
    {offset : Nat} :
    writeAt memory offset source = some result ↔
      offset + source.length ≤ memory.length ∧
        result = memory.take offset ++ source ++
          memory.drop (offset + source.length) := by
  unfold writeAt
  split
  case isTrue inside => simp [inside, eq_comm]
  case isFalse outside => simp [outside]

/-- Copying a single cell is an array assignment. -/
theorem writeAt_singleton
    {memory : List α}
    {offset : Nat}
    (inside : offset < memory.length)
    (cell : α) :
    writeAt memory offset [cell] = some (memory.set offset cell) := by
  apply writeAt_eq_some_iff.mpr
  refine ⟨inside, ?_⟩
  rw [List.set_eq_take_append_cons_drop, if_pos inside]
  simp

/-- A block copy keeps the size of the destination. -/
theorem length_of_writeAt
    {memory source result : List α}
    {offset : Nat}
    (written : writeAt memory offset source = some result) :
    result.length = memory.length := by
  obtain ⟨inside, rfl⟩ := writeAt_eq_some_iff.mp written
  simp only [List.length_append, List.length_take, List.length_drop]
  omega

/-- Up to its end, the copied block follows the old contents before it. -/
theorem take_of_writeAt
    {memory source result : List α}
    {offset : Nat}
    (written : writeAt memory offset source = some result) :
    result.take (offset + source.length) = memory.take offset ++ source := by
  obtain ⟨inside, rfl⟩ := writeAt_eq_some_iff.mp written
  apply List.take_left'
  simp only [List.length_append, List.length_take]
  omega

/-- Behind the copied block nothing changes. -/
theorem drop_of_writeAt
    {memory source result : List α}
    {offset position : Nat}
    (written : writeAt memory offset source = some result)
    (behind : offset + source.length ≤ position) :
    result.drop position = memory.drop position := by
  obtain ⟨inside, rfl⟩ := writeAt_eq_some_iff.mp written
  have prefixLength : (memory.take offset ++ source).length =
      offset + source.length := by
    simp only [List.length_append, List.length_take]
    omega
  rw [List.drop_append, List.drop_eq_nil_of_le (by omega), prefixLength,
    List.drop_drop, List.nil_append]
  congr 1
  omega

/-- A block that lies in the first `bound` cells is determined by them. -/
theorem take_drop_take_of_le
    (memory : List α)
    {offset count bound : Nat}
    (inside : offset + count ≤ bound) :
    ((memory.take bound).drop offset).take count =
      (memory.drop offset).take count := by
  rw [List.drop_take, List.take_take, Nat.min_eq_left (by omega)]

/-- The copied block can be read back. -/
theorem block_of_writeAt
    {memory source result : List α}
    {offset : Nat}
    (written : writeAt memory offset source = some result) :
    (result.drop offset).take source.length = source := by
  have inside := (writeAt_eq_some_iff.mp written).1
  rw [← take_drop_take_of_le result (Nat.le_refl _), take_of_writeAt written]
  rw [List.drop_left' (by rw [List.length_take]; omega), List.take_length]

/-- A block disjoint from the copied one is left alone. -/
theorem block_of_writeAt_disjoint
    {memory source result : List α}
    {offset start count : Nat}
    (written : writeAt memory offset source = some result)
    (disjoint : start + count ≤ offset ∨ offset + source.length ≤ start) :
    (result.drop start).take count = (memory.drop start).take count := by
  rcases disjoint with before | behind
  · have inside := (writeAt_eq_some_iff.mp written).1
    rw [← take_drop_take_of_le result
        (show start + count ≤ offset + source.length by omega),
      take_of_writeAt written,
      ← take_drop_take_of_le memory before]
    rw [List.drop_append_of_le_length (by rw [List.length_take]; omega),
      List.take_append_of_le_length
        (by rw [List.length_drop, List.length_take]; omega)]
  · rw [drop_of_writeAt written behind]

end Library
