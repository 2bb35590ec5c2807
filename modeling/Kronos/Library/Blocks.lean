import Mathlib.Data.List.Basic

/-!
# Lists made of blocks

A sender that goes through a list and puts the same number of pieces out for
each item leaves a list of blocks.  If some items are skipped, the number of
pieces tells; if the pieces carry what their block was made from, the blocks
can be read back.
-/

namespace Library

section Kept

variable
  {α β : Type}
  {kept : Nat -> Bool}
  {block : α -> List β}
  {items : List α}
  {size : Nat}

/-- The blocks of the items whose index is kept, one after the other. -/
def keptBlocks
    (kept : Nat -> Bool)
    (block : α -> List β)
    (items : List α) : List β :=
  (items.mapIdx fun index item =>
    if kept index then block item else []).flatten

theorem keptBlocks_cons (item : α) (items : List α) :
    keptBlocks kept block (item :: items) =
      (if kept 0 then block item else []) ++
        keptBlocks (fun index => kept (index + 1)) block items := by
  rw [keptBlocks, List.mapIdx_cons, List.flatten_cons]
  rfl

theorem mem_keptBlocks
    {element : β}
    (member : element ∈ keptBlocks kept block items) :
    ∃ item ∈ items, element ∈ block item := by
  obtain ⟨part, inParts, inPart⟩ := List.mem_flatten.mp member
  obtain ⟨index, inside, rfl⟩ := List.mem_mapIdx.mp inParts
  split at inPart
  case isTrue => exact ⟨items[index], List.getElem_mem inside, inPart⟩
  case isFalse => cases inPart

theorem keptBlocks_of_all
    (all : ∀ index < items.length, kept index = true) :
    keptBlocks kept block items = items.flatMap block := by
  induction items generalizing kept with
  | nil => rfl
  | cons item items inductionHypothesis =>
      have first : kept 0 = true := all 0 (Nat.succ_pos _)
      rw [keptBlocks_cons, if_pos first, List.flatMap_cons,
        inductionHypothesis fun index inside =>
          all (index + 1) (Nat.succ_lt_succ inside)]

theorem length_flatMap_blocks
    (each : ∀ item ∈ items, (block item).length = size) :
    (items.flatMap block).length = items.length * size := by
  induction items with
  | nil => simp
  | cons item items inductionHypothesis =>
      rw [List.forall_mem_cons] at each
      rw [List.flatMap_cons, List.length_append, each.1,
        inductionHypothesis each.2, List.length_cons, Nat.succ_mul,
        Nat.add_comm]

theorem length_keptBlocks_le
    (each : ∀ item ∈ items, (block item).length = size) :
    (keptBlocks kept block items).length ≤ items.length * size := by
  induction items generalizing kept with
  | nil => simp [keptBlocks]
  | cons item items inductionHypothesis =>
      rw [List.forall_mem_cons] at each
      have later : (keptBlocks (fun index => kept (index + 1)) block
          items).length ≤ items.length * size := inductionHypothesis each.2
      have here : (if kept 0 then block item else []).length ≤ size := by
        split
        case isTrue => exact Nat.le_of_eq each.1
        case isFalse => exact Nat.zero_le _
      rw [keptBlocks_cons, List.length_append, List.length_cons,
        Nat.succ_mul]
      omega

/-- If no piece is missing, no item was skipped. -/
theorem kept_of_length
    (positive : 0 < size)
    (each : ∀ item ∈ items, (block item).length = size)
    (full : (keptBlocks kept block items).length = items.length * size) :
    ∀ index < items.length, kept index = true := by
  induction items generalizing kept with
  | nil =>
      intro index inside
      exact absurd inside (Nat.not_lt_zero _)
  | cons item items inductionHypothesis =>
      rw [List.forall_mem_cons] at each
      have later : (keptBlocks (fun index => kept (index + 1)) block
          items).length ≤ items.length * size := length_keptBlocks_le each.2
      rw [keptBlocks_cons, List.length_append, List.length_cons,
        Nat.succ_mul] at full
      have first : kept 0 = true := by
        by_contra skipped
        rw [if_neg skipped, List.length_nil] at full
        omega
      rw [if_pos first, each.1] at full
      intro index inside
      cases index with
      | zero => exact first
      | succ index =>
          have rest : (keptBlocks (fun index => kept (index + 1)) block
              items).length = items.length * size := by
            omega
          exact inductionHypothesis each.2 rest index
            (Nat.lt_of_succ_lt_succ inside)

end Kept

/-- Blocks of the same size that determine one part of what they were made from
determine the list of these parts. -/
theorem eq_of_flatMap_zip_eq
    {α β γ : Type}
    {block : α × γ -> List β}
    {keys : List α}
    {left right : List γ}
    (leftLength : left.length = keys.length)
    (rightLength : right.length = keys.length)
    (sizes : ∀ key ∈ keys, ∀ first second,
      (block (key, first)).length = (block (key, second)).length)
    (determined : ∀ key ∈ keys, ∀ first second,
      block (key, first) = block (key, second) -> first = second)
    (same : (keys.zip left).flatMap block = (keys.zip right).flatMap block) :
    left = right := by
  induction keys generalizing left right with
  | nil =>
      rw [List.length_nil, List.length_eq_zero_iff] at leftLength rightLength
      rw [leftLength, rightLength]
  | cons key keys inductionHypothesis =>
      cases left with
      | nil => cases leftLength
      | cons first left =>
          cases right with
          | nil => cases rightLength
          | cons second right =>
              rw [List.zip_cons_cons, List.zip_cons_cons, List.flatMap_cons,
                List.flatMap_cons] at same
              rw [List.forall_mem_cons] at sizes determined
              obtain ⟨here, later⟩ := List.append_inj same
                (sizes.1 first second)
              rw [determined.1 first second here,
                inductionHypothesis (Nat.succ.inj leftLength)
                  (Nat.succ.inj rightLength) sizes.2 determined.2 later]

/-- The elements with a tag are the block of that tag. -/
theorem filter_flatMap_tagged
    {α β : Type}
    [DecidableEq α]
    {tag : β -> α}
    {block : α -> List β}
    {keys : List α}
    (once : keys.Nodup)
    (tagged : ∀ key ∈ keys, ∀ element ∈ block key, tag element = key)
    (key : α) :
    ((keys.flatMap block).filter fun element => tag element = key) =
      if key ∈ keys then block key else [] := by
  induction keys with
  | nil => rfl
  | cons first keys inductionHypothesis =>
      obtain ⟨absent, once⟩ := List.nodup_cons.mp once
      rw [List.forall_mem_cons] at tagged
      rw [List.flatMap_cons, List.filter_append,
        inductionHypothesis once tagged.2]
      by_cases here : key = first
      · subst here
        rw [if_neg absent, if_pos List.mem_cons_self, List.append_nil,
          List.filter_eq_self]
        intro element member
        exact decide_eq_true (tagged.1 element member)
      · have none : (block first).filter (fun element => tag element = key) =
            [] := by
          rw [List.filter_eq_nil_iff]
          intro element member
          rw [tagged.1 element member]
          simpa using Ne.symm here
        rw [none, List.nil_append]
        simp only [List.mem_cons, here, false_or]

/-- Tagged blocks can be read back. -/
theorem eq_of_flatMap_tagged_eq
    {α β : Type}
    [DecidableEq α]
    {tag : β -> α}
    {left right : α -> List β}
    {keys : List α}
    (once : keys.Nodup)
    (leftTagged : ∀ key ∈ keys, ∀ element ∈ left key, tag element = key)
    (rightTagged : ∀ key ∈ keys, ∀ element ∈ right key, tag element = key)
    (same : keys.flatMap left = keys.flatMap right)
    {key : α}
    (member : key ∈ keys) :
    left key = right key := by
  have leftBlock := filter_flatMap_tagged once leftTagged key
  have rightBlock := filter_flatMap_tagged once rightTagged key
  rw [if_pos member] at leftBlock rightBlock
  rw [← leftBlock, ← rightBlock, same]

end Library
