import Mathlib.Data.List.Basic
import Mathlib.Data.List.Induction

/-!
# Backward sweeps over a growable array

Imperative code that deletes from an array while scanning it usually runs the
index down from the length to zero, so that a deletion only moves cells that
were already visited.  `sweep` is that index loop.  `sweepRight` is its
recursive reading, which visits the last item first and needs no index;
`sweep_eq_sweepRight` identifies the two.
-/

namespace Library

/-- The index loop: the cells below `index` are still to be visited, from the
top down.  A visit threads a state and either replaces the cell or removes it
from the array. -/
def sweepFrom (visit : σ -> α -> σ × Option α) :
    Nat -> σ -> List α -> σ × List α
  | 0, state, items => (state, items)
  | index + 1, state, items =>
      match items[index]? with
      | none => sweepFrom visit index state items
      | some item =>
          match visit state item with
          | (state, some kept) =>
              sweepFrom visit index state (items.set index kept)
          | (state, none) =>
              sweepFrom visit index state (items.eraseIdx index)

/-- Sweep a whole array, from its last cell to its first. -/
def sweep
    (visit : σ -> α -> σ × Option α)
    (state : σ)
    (items : List α) : σ × List α :=
  sweepFrom visit items.length state items

/-- The same sweep by recursion on the array. -/
def sweepRight
    (visit : σ -> α -> σ × Option α)
    (state : σ) : List α -> σ × List α
  | [] => (state, [])
  | item :: items =>
      let swept := sweepRight visit state items
      let visited := visit swept.1 item
      (visited.1, visited.2.toList ++ swept.2)

variable {visit : σ -> α -> σ × Option α}

@[simp] theorem sweepRight_nil (state : σ) :
    sweepRight visit state [] = (state, []) := rfl

theorem sweepRight_cons
    (state : σ)
    (item : α)
    (items : List α) :
    sweepRight visit state (item :: items) =
      ((visit (sweepRight visit state items).1 item).1,
        (visit (sweepRight visit state items).1 item).2.toList ++
          (sweepRight visit state items).2) := rfl

/-- The later part of an array is swept before the earlier part. -/
theorem sweepRight_append
    (state : σ)
    (first second : List α) :
    sweepRight visit state (first ++ second) =
      ((sweepRight visit (sweepRight visit state second).1 first).1,
        (sweepRight visit (sweepRight visit state second).1 first).2 ++
          (sweepRight visit state second).2) := by
  induction first with
  | nil => simp
  | cons item first inductionHypothesis =>
      simp only [List.cons_append, sweepRight_cons, inductionHypothesis,
        List.append_assoc]

/-- The index loop over a prefix leaves the already visited suffix alone. -/
theorem sweepFrom_append
    (state : σ)
    (unvisited visited : List α) :
    sweepFrom visit unvisited.length state (unvisited ++ visited) =
      ((sweepRight visit state unvisited).1,
        (sweepRight visit state unvisited).2 ++ visited) := by
  induction unvisited using List.reverseRecOn generalizing state visited with
  | nil => simp [sweepFrom]
  | append_singleton unvisited item inductionHypothesis =>
      have lookup : (unvisited ++ [item] ++ visited)[unvisited.length]? =
          some item := by simp
      rw [List.length_append, List.length_singleton, sweepFrom, lookup,
        sweepRight_append, sweepRight_cons, sweepRight_nil]
      rcases outcome : visit state item with ⟨state', decision⟩
      cases decision with
      | none =>
          have erased : (unvisited ++ [item] ++ visited).eraseIdx
              unvisited.length = unvisited ++ visited := by
            rw [List.append_assoc, List.eraseIdx_append_of_length_le (Nat.le_refl _)]
            simp
          simp only [outcome, erased, inductionHypothesis,
            Option.toList_none, List.append_nil]
      | some kept =>
          have replaced : (unvisited ++ [item] ++ visited).set
              unvisited.length kept = unvisited ++ (kept :: visited) := by
            simp
          simp only [outcome, replaced, inductionHypothesis,
            Option.toList_some, List.append_nil]
          simp

/-- The index loop and the recursion agree. -/
theorem sweep_eq_sweepRight
    (visit : σ -> α -> σ × Option α)
    (state : σ)
    (items : List α) :
    sweep visit state items = sweepRight visit state items := by
  have whole : sweepFrom visit items.length state (items ++ []) =
      ((sweepRight visit state items).1,
        (sweepRight visit state items).2 ++ []) :=
    sweepFrom_append state items []
  simpa [sweep] using whole

/-- Where the decision about a cell does not look at the state, the array
left behind is a `filterMap`. -/
theorem sweepRight_snd_eq_filterMap
    (decision : α -> Option α)
    (stateless : ∀ state item, (visit state item).2 = decision item)
    (state : σ)
    (items : List α) :
    (sweepRight visit state items).2 = items.filterMap decision := by
  induction items with
  | nil => rfl
  | cons item items inductionHypothesis =>
      rw [sweepRight_cons, stateless, inductionHypothesis,
        List.filterMap_cons]
      cases decision item <;> rfl

/-- The state of a sweep is threaded from the last cell to the first. -/
theorem sweepRight_fst_eq_foldl
    (state : σ)
    (items : List α) :
    (sweepRight visit state items).1 =
      items.reverse.foldl (fun state item => (visit state item).1) state := by
  induction items with
  | nil => rfl
  | cons item items inductionHypothesis =>
      rw [sweepRight_cons, List.reverse_cons, List.foldl_append,
        ← inductionHypothesis]
      rfl

/-- Two sweeps whose visits keep their states related and make the same
decisions end in related states and leave the same array. -/
theorem sweepRight_related
    {follow : τ -> α -> τ × Option α}
    {Related : σ -> τ -> Prop}
    (follows : ∀ state other item, Related state other ->
      Related (visit state item).1 (follow other item).1 ∧
        (visit state item).2 = (follow other item).2)
    {state : σ}
    {other : τ}
    (related : Related state other)
    (items : List α) :
    Related (sweepRight visit state items).1
        (sweepRight follow other items).1 ∧
      (sweepRight visit state items).2 =
        (sweepRight follow other items).2 := by
  induction items with
  | nil => exact ⟨related, rfl⟩
  | cons item items inductionHypothesis =>
      obtain ⟨stillRelated, sameItems⟩ := inductionHypothesis
      obtain ⟨nextRelated, sameDecision⟩ := follows _ _ item stillRelated
      rw [sweepRight_cons, sweepRight_cons]
      exact ⟨nextRelated, by rw [sameDecision, sameItems]⟩

/-- A sweep leaves no more cells than there were. -/
theorem length_sweep_le
    (visit : σ -> α -> σ × Option α)
    (state : σ)
    (items : List α) :
    (sweep visit state items).2.length ≤ items.length := by
  rw [sweep_eq_sweepRight]
  induction items with
  | nil => exact Nat.le_refl _
  | cons item items inductionHypothesis =>
      rw [sweepRight_cons, List.length_append, List.length_cons]
      have visited : (visit (sweepRight visit state items).1
          item).2.toList.length ≤ 1 := Option.length_toList_le
      omega

/-! ## Reports into a buffer -/

/-- A buffer after items were written to its first cells. -/
def filled (buffer items : List α) : List α :=
  items ++ buffer.drop items.length

@[simp] theorem filled_nil (buffer : List α) : filled buffer [] = buffer :=
  rfl

/-- Writing one more item behind the others. -/
theorem filled_set
    {buffer items : List α}
    (item : α)
    (room : items.length < buffer.length) :
    (filled buffer items).set items.length item =
      filled buffer (items ++ [item]) := by
  have rest : buffer.drop items.length =
      buffer[items.length] :: buffer.drop (items.length + 1) :=
    List.drop_eq_getElem_cons room
  rw [filled, rest, List.set_append_right _ _ (Nat.le_refl _), Nat.sub_self,
    List.set_cons_zero, filled, List.length_append, List.length_singleton,
    List.append_assoc]
  rfl

/-! ## Sweeps that stop early -/

/-- The index loop of a sweep that removes every cell it passes until a visit
tells it to stop; the cell of that visit stays. -/
def drainFrom (visit : σ -> α -> σ × Bool) :
    Nat -> σ -> List α -> σ × List α
  | 0, state, items => (state, items)
  | index + 1, state, items =>
      match items[index]? with
      | none => drainFrom visit index state items
      | some item =>
          match visit state item with
          | (state, true) =>
              drainFrom visit index state (items.eraseIdx index)
          | (state, false) => (state, items)

/-- Drain an array, from its last cell. -/
def drain
    (visit : σ -> α -> σ × Bool)
    (state : σ)
    (items : List α) : σ × List α :=
  drainFrom visit items.length state items

@[simp] theorem drain_nil
    (visit : σ -> α -> σ × Bool)
    (state : σ) :
    drain visit state [] = (state, []) := rfl

/-- The last cell is visited first. -/
theorem drain_concat
    (visit : σ -> α -> σ × Bool)
    (state : σ)
    (items : List α)
    (item : α) :
    drain visit state (items ++ [item]) =
      if (visit state item).2 then drain visit (visit state item).1 items
      else ((visit state item).1, items ++ [item]) := by
  have lookup : (items ++ [item])[items.length]? = some item := by simp
  have erased : (items ++ [item]).eraseIdx items.length = items := by
    rw [List.eraseIdx_append_of_length_le (Nat.le_refl _)]
    simp
  rw [drain, List.length_append, List.length_singleton, drainFrom, lookup]
  rcases outcome : visit state item with ⟨next, goesOn⟩
  cases goesOn with
  | false => simp only [outcome, Bool.false_eq_true, if_false]
  | true => simp only [outcome, erased, drain, if_true]

end Library
