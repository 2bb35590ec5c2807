import Mathlib.Algebra.GroupWithZero.Nat
import Mathlib.Data.List.Pairwise

/-!
# Intervals one behind the other

A list of intervals, each with a start and a size, tiles the space between two
positions if every interval starts where the one before it ends.  Then the
intervals do not overlap, and every position between is in one of them.
-/

namespace Library

variable {α : Type}

/-- The intervals lie one directly behind the other, from a position to a
stop. -/
def Tiles (start size : α -> Nat) : Nat -> List α -> Nat -> Prop
  | position, [], stop => position = stop
  | position, item :: items, stop =>
      start item = position ∧
        Tiles start size (position + size item) items stop

variable {start size : α -> Nat} {position stop : Nat} {items : List α}

/-- One more interval at the end. -/
theorem Tiles.concat
    (tiles : Tiles start size position items stop)
    {item : α}
    (next : start item = stop) :
    Tiles start size position (items ++ [item]) (stop + size item) := by
  induction items generalizing position with
  | nil =>
      cases tiles
      exact ⟨next, rfl⟩
  | cons first items inductionHypothesis =>
      exact ⟨tiles.1, inductionHypothesis tiles.2⟩

/-- The sizes make up the space. -/
theorem Tiles.total
    (tiles : Tiles start size position items stop) :
    position + (items.map size).sum = stop := by
  induction items generalizing position with
  | nil => exact tiles
  | cons item items inductionHypothesis =>
      have rest := inductionHypothesis tiles.2
      rw [List.map_cons, List.sum_cons]
      omega

/-- Every interval lies between the position and the stop. -/
theorem Tiles.inside
    (tiles : Tiles start size position items stop)
    {item : α}
    (member : item ∈ items) :
    position ≤ start item ∧ start item + size item ≤ stop := by
  induction items generalizing position with
  | nil => cases member
  | cons first items inductionHypothesis =>
      have total := tiles.2.total
      rcases List.mem_cons.mp member with rfl | later
      · have here := tiles.1
        omega
      · obtain ⟨behind, before⟩ := inductionHypothesis tiles.2 later
        omega

/-- The intervals do not overlap. -/
theorem Tiles.apart
    (tiles : Tiles start size position items stop) :
    items.Pairwise fun earlier later =>
      start earlier + size earlier ≤ start later := by
  induction items generalizing position with
  | nil => exact List.Pairwise.nil
  | cons item items inductionHypothesis =>
      refine List.pairwise_cons.mpr ⟨?_, inductionHypothesis tiles.2⟩
      intro later member
      rw [tiles.1]
      exact (tiles.2.inside member).1

/-- Every position is in an interval. -/
theorem Tiles.covers
    (tiles : Tiles start size position items stop)
    {cell : Nat}
    (behind : position ≤ cell)
    (before : cell < stop) :
    ∃ item ∈ items, start item ≤ cell ∧ cell < start item + size item := by
  induction items generalizing position with
  | nil =>
      cases tiles
      omega
  | cons item items inductionHypothesis =>
      by_cases here : cell < position + size item
      · have first := tiles.1
        exact ⟨item, List.mem_cons_self, by omega, by omega⟩
      · obtain ⟨found, member, within⟩ :=
          inductionHypothesis tiles.2 (Nat.not_lt.mp here)
        exact ⟨found, List.mem_cons_of_mem _ member, within⟩

end Library
