import Mathlib.Data.List.Basic
import Mathlib.Data.List.Induction
import Mathlib.Data.List.Infix

/-!
# Lists in blocks of cells

Code that keeps a list in a block of memory keeps it in the first cells of the
block: the list is a prefix of the block.  The cells behind it may hold
anything, in particular what was in them before the list got shorter.  A store
outside of the block has no result.
-/

namespace Library

variable {α : Type}

/-- Store a value in a cell of a block. -/
def storeCell
    (cells : List α)
    (index : Nat)
    (value : α) : Option (List α) :=
  if index < cells.length then some (cells.set index value) else none

/-- Move the cells behind a cell down by one, each in one turn. -/
def closeGap : Nat -> Nat -> List α -> Option (List α)
  | 0, _, cells => some cells
  | turns + 1, index, cells =>
      cells[index + 1]?.bind fun value =>
        (storeCell cells index value).bind (closeGap turns (index + 1))

/-- A block of another size, with the old cells as far as they fit. -/
def resized
    (cells : List α)
    (fresh : Nat -> α)
    (size : Nat) : List α :=
  (List.range size).map fun index => cells.getD index (fresh index)

@[simp] theorem length_resized
    (cells : List α)
    (fresh : Nat -> α)
    (size : Nat) :
    (resized cells fresh size).length = size := by
  simp [resized]

theorem storeCell_outside
    {cells : List α}
    {index : Nat}
    (outside : cells.length ≤ index)
    (value : α) :
    storeCell cells index value = none :=
  if_neg (Nat.not_lt.mpr outside)

variable {cells items : List α}

/-- The list is read at the front of its block. -/
theorem getElem?_of_leading
    {index : Nat}
    (held : items <+: cells)
    (inside : index < items.length) :
    cells[index]? = items[index]? := by
  obtain ⟨rest, rfl⟩ := held
  exact List.getElem?_append_left inside

/-- Reading the whole list, cell by cell. -/
theorem mapM_getElem?_of_leading (held : items <+: cells) :
    (List.range items.length).mapM (fun index => cells[index]?) =
      some items := by
  induction items using List.reverseRecOn with
  | nil => rfl
  | append_singleton items item inductionHypothesis =>
      have read := @getElem?_of_leading _ _ _ items.length held (by simp)
      rw [List.getElem?_concat_length] at read
      rw [List.length_append, List.length_singleton, List.range_succ,
        List.mapM_append,
        inductionHypothesis ((List.prefix_append items [item]).trans held),
        List.mapM_cons, read]
      rfl

/-- A store behind the list makes it longer. -/
theorem storeCell_behind
    (held : items <+: cells)
    (room : items.length < cells.length)
    (value : α) :
    ∃ after, storeCell cells items.length value = some after ∧
      items ++ [value] <+: after ∧ after.length = cells.length := by
  refine ⟨_, if_pos room, ?_, List.length_set⟩
  obtain ⟨rest, rfl⟩ := held
  cases rest with
  | nil =>
      rw [List.append_nil] at room
      exact absurd room (Nat.lt_irrefl _)
  | cons next rest =>
      exact ⟨rest, by simp⟩

/-- A store in the list replaces an item. -/
theorem storeCell_inside
    {index : Nat}
    (held : items <+: cells)
    (inside : index < items.length)
    (value : α) :
    ∃ after, storeCell cells index value = some after ∧
      items.set index value <+: after ∧ after.length = cells.length := by
  refine ⟨_, if_pos (inside.trans_le held.length_le), ?_, List.length_set⟩
  obtain ⟨rest, rfl⟩ := held
  exact ⟨rest, (List.set_append_left index value inside).symm⟩

/-- The cells behind a gap are moved down one after the other; the last of them
is left where it was as well. -/
theorem closeGap_append
    (front later rest : List α)
    (gap : α) :
    closeGap later.length front.length (front ++ gap :: (later ++ rest)) =
      some (front ++ (later ++ later.getLastD gap :: rest)) := by
  induction later generalizing front gap with
  | nil => rfl
  | cons next later inductionHypothesis =>
      have read : (front ++ gap :: (next :: later ++ rest))[front.length +
          1]? = some next := by simp
      have store : storeCell (front ++ gap :: (next :: later ++ rest))
          front.length next =
            some (front ++ [next] ++ next :: (later ++ rest)) := by
        rw [storeCell, if_pos (by simp)]
        simp
      have turns := inductionHypothesis (front ++ [next]) next
      rw [List.length_append, List.length_singleton] at turns
      rw [List.length_cons, closeGap, read, Option.bind_some, store,
        Option.bind_some, turns, List.getLastD_cons]
      simp

/-- Closing the gap of an item erases it. -/
theorem closeGap_erases
    {index : Nat}
    (held : items <+: cells)
    (inside : index < items.length) :
    ∃ after, closeGap (items.length - 1 - index) index cells = some after ∧
      items.eraseIdx index <+: after ∧ after.length = cells.length := by
  obtain ⟨rest, rfl⟩ := held
  have parts : items =
      items.take index ++ items[index] :: items.drop (index + 1) := by
    rw [← List.drop_eq_getElem_cons inside, List.take_append_drop]
  have closed := closeGap_append (items.take index)
    (items.drop (index + 1)) rest items[index]
  rw [List.length_take_of_le inside.le, List.length_drop, Nat.add_comm index,
    Nat.sub_add_eq, ← List.cons_append, ← List.append_assoc,
    Nat.add_comm 1, ← parts] at closed
  refine ⟨_, closed, ?_, ?_⟩
  · rw [List.eraseIdx_eq_take_drop_succ]
    exact ⟨_, List.append_assoc _ _ _⟩
  · have sizes := congrArg List.length parts
    simp only [List.length_append, List.length_cons] at sizes ⊢
    omega

/-- A list survives a resize that has room for it. -/
theorem resized_holds
    {size : Nat}
    (held : items <+: cells)
    (fits : items.length ≤ size)
    (fresh : Nat -> α) :
    items <+: resized cells fresh size := by
  obtain ⟨rest, rfl⟩ := held
  rw [List.prefix_iff_getElem?]
  intro index inside
  rw [resized, List.getElem?_map,
    List.getElem?_range (inside.trans_le fits), Option.map_some,
    List.getD_eq_getElem?_getD, List.getElem?_append_left inside,
    List.getElem?_eq_getElem inside, Option.getD_some]

end Library
