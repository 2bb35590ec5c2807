import Mathlib.Data.List.Basic

/-!
# Loops

A loop repeats its body as long as the body has a next state.  It is run with a
bound on its turns, and hands out the states at which a turn began.
-/

namespace Library

variable {σ : Type} {body : σ -> Option σ}

/-- Repeat a body until it has no next state: the states before each turn, and
the state in which the loop ends.  `none` when the fuel runs out. -/
def loop (body : σ -> Option σ) : Nat -> σ -> Option (List σ × σ)
  | 0, _ => none
  | fuel + 1, state =>
      match body state with
      | none => some ([], state)
      | some next =>
          (loop body fuel next).map fun rest => (state :: rest.1, rest.2)

/-- The rule of a loop whose states are known: it takes as many turns as there
are states before the one in which the body stops. -/
theorem loop_of_states
    {states : Nat -> σ}
    {turns fuel : Nat}
    (continues : ∀ done < turns, body (states done) = some (states (done + 1)))
    (stops : body (states turns) = none)
    (enough : turns < fuel) :
    loop body fuel (states 0) =
      some ((List.range turns).map states, states turns) := by
  induction turns generalizing states fuel with
  | zero =>
      obtain ⟨left, rfl⟩ : ∃ left, fuel = left + 1 := ⟨fuel - 1, by omega⟩
      rw [loop, stops]
      rfl
  | succ turns inductionHypothesis =>
      obtain ⟨left, rfl⟩ : ∃ left, fuel = left + 1 := ⟨fuel - 1, by omega⟩
      have rest : loop body left (states 1) =
          some ((List.range turns).map (fun done => states (done + 1)),
            states (turns + 1)) :=
        inductionHypothesis
          (fun done before => continues (done + 1) (by omega)) stops
          (by omega)
      rw [loop, continues 0 (Nat.succ_pos turns)]
      simp only [Nat.zero_add, rest, Option.map_some, List.range_succ_eq_map,
        List.map_cons, List.map_map]
      rfl

end Library
