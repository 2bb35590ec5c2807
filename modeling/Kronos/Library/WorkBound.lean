import Kronos.Library.Transition
import Mathlib.Algebra.GroupWithZero.Nat
import Mathlib.Algebra.Order.Group.Nat

/-!
# Work that is bounded

A system whose own steps use up a measure takes a bounded number of them,
whatever happens between them: only what happens from outside can add to the
measure, and that much is counted.  The measure of a system of many parts is
often a total of weights; a part that moves changes the total by the difference
of its weights.
-/

namespace Library

/-- A run whose own steps use up the measure, to which other steps add one at
most: its own steps are bounded by the measure at its begin and the number of
the steps that add. -/
theorem run_spends
    {step : σ -> ε -> Option σ}
    {Invariant : σ -> Prop}
    (measure : σ -> Nat)
    (own adds : ε -> Bool)
    (pays : ∀ state event next, Invariant state ->
      step state event = some next -> Invariant next ∧
        measure next + (if own event then 1 else 0) ≤
          measure state + if adds event then 1 else 0)
    {state final : σ}
    {events : List ε}
    (initially : Invariant state)
    (reached : run step state events = some final) :
    measure final + events.countP own ≤
      measure state + events.countP adds := by
  induction events generalizing state with
  | nil =>
      cases reached
      exact Nat.le_refl _
  | cons event events inductionHypothesis =>
      rw [run_cons] at reached
      obtain ⟨next, taken, rest⟩ := Option.bind_eq_some_iff.mp reached
      obtain ⟨kept, paid⟩ := pays state event next initially taken
      have later := inductionHypothesis kept rest
      rw [List.countP_cons, List.countP_cons]
      omega

/-- The total of the weights. -/
def totalWeight (weight : α -> Nat) (items : List α) : Nat :=
  (items.map weight).sum

@[simp] theorem totalWeight_append
    (weight : α -> Nat)
    (first second : List α) :
    totalWeight weight (first ++ second) =
      totalWeight weight first + totalWeight weight second := by
  simp [totalWeight]

/-- One part changes. -/
theorem totalWeight_set
    (weight : α -> Nat)
    {items : List α}
    {position : Nat}
    {before : α}
    (found : items[position]? = some before)
    (after : α) :
    totalWeight weight (items.set position after) + weight before =
      totalWeight weight items + weight after := by
  induction items generalizing position with
  | nil => cases found
  | cons item items inductionHypothesis =>
      cases position with
      | zero =>
          cases found
          simp only [totalWeight, List.set_cons_zero, List.map_cons,
            List.sum_cons]
          omega
      | succ position =>
          have rest := inductionHypothesis found
          simp only [totalWeight, List.set_cons_succ, List.map_cons,
            List.sum_cons] at rest ⊢
          omega

/-- All parts change, none by more than one. -/
theorem totalWeight_map_le
    (weight : α -> Nat)
    {change : α -> α}
    (bounded : ∀ item, weight (change item) ≤ weight item + 1)
    (items : List α) :
    totalWeight weight (items.map change) ≤
      totalWeight weight items + items.length := by
  induction items with
  | nil => exact Nat.le_refl _
  | cons item items inductionHypothesis =>
      have here := bounded item
      simp only [totalWeight, List.map_cons, List.sum_cons,
        List.length_cons] at inductionHypothesis ⊢
      omega

end Library
