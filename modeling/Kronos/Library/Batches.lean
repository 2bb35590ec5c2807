import Mathlib.Data.List.DropRight
import Mathlib.Data.List.TakeDrop
import Mathlib.Data.List.TakeWhile
import Mathlib.Data.List.Nodup

/-!
# Taking a queue in batches

A queue is taken off in batches of a fixed size.  Other queues that hold some
of its items lose, with each batch, the items at their front that belong to it.
Such a queue never keeps an item of a batch that is gone exactly when its items
come in the order of their batches.
-/

namespace Library

variable {α : Type*} [DecidableEq α]

/-- The number of the batch an item is taken with. -/
def batchOf (size : Nat) (queue : List α) (item : α) : Nat :=
  queue.idxOf item / size

/-- The items come in the order of their batches. -/
def InBatches (size : Nat) (queue items : List α) : Prop :=
  items.Pairwise fun earlier later =>
    batchOf size queue earlier ≤ batchOf size queue later

instance (size : Nat) (queue items : List α) :
    Decidable (InBatches size queue items) :=
  inferInstanceAs (Decidable (List.Pairwise _ _))

/-- What stays of a queue when a batch is taken off its front. -/
def afterBatch (batch items : List α) : List α :=
  items.dropWhile (· ∈ batch)

theorem batchOf_eq_zero
    {size : Nat}
    (positive : 0 < size)
    {queue : List α}
    {item : α}
    (member : item ∈ queue) :
    batchOf size queue item = 0 ↔ item ∈ queue.take size := by
  rw [batchOf, Nat.div_eq_zero_iff_lt positive,
    List.mem_take_iff_idxOf_lt member]

/-- Once a batch is gone, the next one is the first. -/
theorem batchOf_drop
    {size : Nat}
    (positive : 0 < size)
    {queue : List α}
    {item : α}
    (member : item ∈ queue)
    (later : item ∉ queue.take size) :
    batchOf size queue item = batchOf size (queue.drop size) item + 1 := by
  have full : (queue.take size).length = size := by
    rw [List.length_take, Nat.min_eq_left]
    by_contra short
    rw [List.take_of_length_le (by omega)] at later
    exact later member
  have position : queue.idxOf item =
      (queue.drop size).idxOf item + size := by
    conv_lhs => rw [← List.take_append_drop size queue]
    rw [List.idxOf_append_of_notMem later, full, Nat.add_comm]
  rw [batchOf, batchOf, position, Nat.add_div_right _ positive]

theorem mem_of_mem_afterBatch
    {batch items : List α}
    {item : α}
    (member : item ∈ afterBatch batch items) :
    item ∈ items :=
  (List.dropWhile_sublist _).mem member

theorem afterBatch_idem (batch items : List α) :
    afterBatch batch (afterBatch batch items) = afterBatch batch items :=
  List.dropWhile_idempotent _ items

/-- A batch takes everything up to the first item of another batch. -/
theorem head_afterBatch
    {batch items : List α}
    {first : α}
    {others : List α}
    (remaining : afterBatch batch items = first :: others) :
    first ∉ batch := by
  unfold afterBatch at remaining
  have nonempty : items.dropWhile (· ∈ batch) ≠ [] := by
    rw [remaining]
    exact List.cons_ne_nil _ _
  have head := List.head_dropWhile_not (· ∈ batch) nonempty
  simpa only [remaining, List.head_cons, decide_eq_false_iff_not] using head

/-- A queue in the order of its batches that does not start with the first
batch has no item of it. -/
theorem not_mem_batch_of_inBatches
    {size : Nat}
    (positive : 0 < size)
    {queue items : List α}
    (contained : ∀ item ∈ items, item ∈ queue)
    (starts : ∀ first others, items = first :: others ->
      first ∉ queue.take size)
    (sorted : InBatches size queue items) :
    ∀ item ∈ items, item ∉ queue.take size := by
  intro item member early
  cases items with
  | nil => exact absurd member List.not_mem_nil
  | cons first others =>
      have later := starts first others rfl
      rcases List.mem_cons.mp member with rfl | inOthers
      · exact later early
      · have order := (List.pairwise_cons.mp sorted).1 item inOthers
        have zero := (batchOf_eq_zero positive
          (List.mem_of_mem_take early)).mpr early
        rw [zero, Nat.le_zero, batchOf_eq_zero positive
          (contained first List.mem_cons_self)] at order
        exact later order

/-- The queue itself loses its first batch. -/
theorem afterBatch_take
    (size : Nat)
    {queue : List α}
    (nodup : queue.Nodup) :
    afterBatch (queue.take size) queue = queue.drop size := by
  have first : ∀ item ∈ queue.take size,
      decide (item ∈ queue.take size) = true := by
    intro item member
    exact decide_eq_true member
  conv_lhs => rw [afterBatch]; arg 2; rw [← List.take_append_drop size queue]
  rw [List.dropWhile_append_of_pos first]
  cases rest : queue.drop size with
  | nil => rfl
  | cons item items =>
      rw [List.dropWhile_cons_of_neg]
      rw [decide_eq_true_iff]
      intro early
      rw [← List.take_append_drop size queue, rest] at nodup
      exact List.disjoint_of_nodup_append nodup early List.mem_cons_self

/-- A queue is in the order of its batches if and only if the first batch
leaves none of its items behind and what stays is in the order of the other
batches. -/
theorem inBatches_iff
    {size : Nat}
    (positive : 0 < size)
    {queue items : List α}
    (contained : ∀ item ∈ items, item ∈ queue) :
    InBatches size queue items ↔
      (∀ item ∈ afterBatch (queue.take size) items,
        item ∉ queue.take size) ∧
      InBatches size (queue.drop size)
        (afterBatch (queue.take size) items) := by
  have kept : ∀ item ∈ afterBatch (queue.take size) items, item ∈ queue :=
    fun item member => contained item (mem_of_mem_afterBatch member)
  have front : ∀ item ∈ items.takeWhile (· ∈ queue.take size),
      batchOf size queue item = 0 := by
    intro item member
    have early := List.mem_takeWhile_imp member
    rw [decide_eq_true_iff] at early
    rw [batchOf_eq_zero positive (List.mem_of_mem_take early)]
    exact early
  have rest : InBatches size queue items ↔
      InBatches size queue (afterBatch (queue.take size) items) := by
    unfold InBatches afterBatch
    conv_lhs =>
      rw [← List.takeWhile_append_dropWhile (p := (· ∈ queue.take size))
        (l := items)]
    rw [List.pairwise_append]
    constructor
    · exact fun sorted => sorted.2.1
    · intro sorted
      refine ⟨?_, sorted, ?_⟩
      · refine List.pairwise_of_forall_mem_list ?_
        intro first firstIn _ _
        rw [front first firstIn]
        exact Nat.zero_le _
      · intro first firstIn _ _
        rw [front first firstIn]
        exact Nat.zero_le _
  have shifted : (∀ item ∈ afterBatch (queue.take size) items,
        item ∉ queue.take size) ->
      (InBatches size queue (afterBatch (queue.take size) items) ↔
        InBatches size (queue.drop size)
          (afterBatch (queue.take size) items)) := by
    intro clean
    refine List.Pairwise.iff_of_mem ?_
    intro earlier later earlierIn laterIn
    rw [batchOf_drop positive (kept earlier earlierIn) (clean _ earlierIn),
      batchOf_drop positive (kept later laterIn) (clean _ laterIn)]
    omega
  rw [rest]
  constructor
  · intro sorted
    have clean := not_mem_batch_of_inBatches positive kept
      (fun _ _ => head_afterBatch) sorted
    exact ⟨clean, (shifted clean).mp sorted⟩
  · exact fun ⟨clean, sorted⟩ => (shifted clean).mpr sorted

end Library
