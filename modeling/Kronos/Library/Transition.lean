import Mathlib.Data.List.Basic

/-!
# Runs of an event-driven system

A system is a step function on states and events.  A run is the fold of the
step function over a list of events.  Many invariants of real systems survive
only those steps that meet a side condition; `RunAllowed` says that every step
of a run meets it in the state in which the step is taken, and
`run_induction` is the invariant rule for such runs.

`RunAllowed` and `run` are stated for steps that may also get stuck, so that
an undefined operation of the modelled code is a step without a successor.
-/

namespace Library

/-- The state after a run, if no step of it gets stuck. -/
def run (step : σ -> ε -> Option σ) : σ -> List ε -> Option σ
  | state, [] => some state
  | state, event :: events =>
      match step state event with
      | none => none
      | some next => run step next events

/-- Every step of the run meets `Allowed` in the state it is taken from. -/
def RunAllowed
    (step : σ -> ε -> Option σ)
    (Allowed : σ -> ε -> Prop) : σ -> List ε -> Prop
  | _, [] => True
  | state, event :: events =>
      Allowed state event ∧
        match step state event with
        | none => True
        | some next => RunAllowed step Allowed next events

instance runAllowedDecidable
    (step : σ -> ε -> Option σ)
    (Allowed : σ -> ε -> Prop)
    [∀ state event, Decidable (Allowed state event)] :
    ∀ state events, Decidable (RunAllowed step Allowed state events)
  | _, [] => isTrue trivial
  | state, event :: events =>
      match taken : step state event with
      | none =>
          decidable_of_iff (Allowed state event)
            (by simp [RunAllowed, taken])
      | some next =>
          have := runAllowedDecidable step Allowed next events
          decidable_of_iff
            (Allowed state event ∧ RunAllowed step Allowed next events)
            (by simp [RunAllowed, taken])

/-- Every state of the run satisfies `Holds`. -/
def RunStates
    (step : σ -> ε -> Option σ)
    (Holds : σ -> Prop) : σ -> List ε -> Prop
  | state, [] => Holds state
  | state, event :: events =>
      Holds state ∧
        match step state event with
        | none => True
        | some next => RunStates step Holds next events

instance runStatesDecidable
    (step : σ -> ε -> Option σ)
    (Holds : σ -> Prop)
    [∀ state, Decidable (Holds state)] :
    ∀ state events, Decidable (RunStates step Holds state events)
  | state, [] => inferInstanceAs (Decidable (Holds state))
  | state, event :: events =>
      match taken : step state event with
      | none =>
          decidable_of_iff (Holds state) (by simp [RunStates, taken])
      | some next =>
          have := runStatesDecidable step Holds next events
          decidable_of_iff
            (Holds state ∧ RunStates step Holds next events)
            (by simp [RunStates, taken])

variable {step : σ -> ε -> Option σ} {Allowed : σ -> ε -> Prop}

theorem RunStates.first
    {Holds : σ -> Prop}
    {state : σ}
    {events : List ε}
    (holds : RunStates step Holds state events) :
    Holds state := by
  cases events with
  | nil => exact holds
  | cons event events => exact holds.1

@[simp] theorem run_nil (state : σ) : run step state [] = some state := rfl

theorem run_cons
    (state : σ)
    (event : ε)
    (events : List ε) :
    run step state (event :: events) =
      (step state event).bind fun next => run step next events := by
  rw [run]
  cases step state event <;> rfl

/-- A run of appended events is a run followed by a run. -/
theorem run_append
    (state : σ)
    (first second : List ε) :
    run step state (first ++ second) =
      (run step state first).bind fun next => run step next second := by
  induction first generalizing state with
  | nil => rfl
  | cons event first inductionHypothesis =>
      rw [List.cons_append, run_cons, run_cons, Option.bind_assoc]
      congr 1
      funext next
      exact inductionHypothesis next

/-- Events each of which is allowed in every state. -/
theorem runAllowed_of_forall
    {Fits : ε -> Prop}
    {events : List ε}
    (fits : ∀ event ∈ events, Fits event)
    (state : σ) :
    RunAllowed step (fun _ event => Fits event) state events := by
  induction events generalizing state with
  | nil => exact trivial
  | cons event events inductionHypothesis =>
      refine ⟨fits event List.mem_cons_self, ?_⟩
      cases step state event with
      | none => exact trivial
      | some next =>
          exact inductionHypothesis
            (fun later member => fits later (List.mem_cons_of_mem _ member))
            next

/-- The invariant rule: what allowed steps preserve holds after every allowed
run. -/
theorem run_induction
    {Invariant : σ -> Prop}
    (preserved : ∀ state event next, Invariant state ->
      Allowed state event -> step state event = some next -> Invariant next)
    {state final : σ}
    {events : List ε}
    (initially : Invariant state)
    (allowed : RunAllowed step Allowed state events)
    (reached : run step state events = some final) :
    Invariant final := by
  induction events generalizing state with
  | nil =>
      cases reached
      exact initially
  | cons event events inductionHypothesis =>
      rw [run_cons] at reached
      obtain ⟨next, taken, rest⟩ := Option.bind_eq_some_iff.mp reached
      obtain ⟨allowedHere, allowedAfter⟩ := allowed
      rw [taken] at allowedAfter
      exact inductionHypothesis
        (preserved state event next initially allowedHere taken)
        allowedAfter rest

/-- Where allowed steps do not get stuck either, every allowed run gets
through. -/
theorem run_progress
    {Invariant : σ -> Prop}
    (progress : ∀ state event, Invariant state -> Allowed state event ->
      ∃ next, step state event = some next ∧ Invariant next)
    {state : σ}
    {events : List ε}
    (initially : Invariant state)
    (allowed : RunAllowed step Allowed state events) :
    ∃ final, run step state events = some final ∧ Invariant final := by
  induction events generalizing state with
  | nil => exact ⟨state, rfl, initially⟩
  | cons event events inductionHypothesis =>
      obtain ⟨allowedHere, allowedAfter⟩ := allowed
      obtain ⟨next, taken, holds⟩ := progress state event initially
        allowedHere
      rw [taken] at allowedAfter
      rw [run_cons, taken, Option.bind_some]
      exact inductionHypothesis holds allowedAfter

/-- What every step preserves holds after every run. -/
theorem run_invariant
    {Invariant : σ -> Prop}
    (preserved : ∀ state event next, Invariant state ->
      step state event = some next -> Invariant next)
    {state final : σ}
    {events : List ε}
    (initially : Invariant state)
    (reached : run step state events = some final) :
    Invariant final := by
  induction events generalizing state with
  | nil =>
      cases reached
      exact initially
  | cons event events inductionHypothesis =>
      rw [run_cons] at reached
      obtain ⟨next, taken, rest⟩ := Option.bind_eq_some_iff.mp reached
      exact inductionHypothesis (preserved state event next initially taken)
        rest

/-- Where the side condition is exactly what keeps a step from getting stuck, a
run gets through if and only if every step of it is allowed. -/
theorem run_isSome_iff_runAllowed
    {Invariant : σ -> Prop}
    (preserved : ∀ state event next, Invariant state ->
      step state event = some next -> Invariant next)
    (progress : ∀ state event, Invariant state ->
      ((step state event).isSome ↔ Allowed state event))
    {state : σ}
    {events : List ε}
    (initially : Invariant state) :
    (run step state events).isSome ↔
      RunAllowed step Allowed state events := by
  induction events generalizing state with
  | nil => exact ⟨fun _ => trivial, fun _ => rfl⟩
  | cons event events inductionHypothesis =>
      rw [run_cons, RunAllowed, ← progress state event initially]
      cases taken : step state event with
      | none => simp
      | some next =>
          have rest := inductionHypothesis
            (preserved state event next initially taken)
          simpa using rest

/-- A step of an allowed run is allowed in the state it is taken from. -/
theorem RunAllowed.after
    {state current : σ}
    {earlier later : List ε}
    {event : ε}
    (allowed : RunAllowed step Allowed state (earlier ++ event :: later))
    (reached : run step state earlier = some current) :
    Allowed current event := by
  induction earlier generalizing state with
  | nil =>
      cases reached
      exact allowed.1
  | cons first earlier inductionHypothesis =>
      rw [run_cons] at reached
      obtain ⟨next, taken, rest⟩ := Option.bind_eq_some_iff.mp reached
      obtain ⟨-, allowedAfter⟩ := allowed
      rw [taken] at allowedAfter
      exact inductionHypothesis allowedAfter rest

/-- One more allowed step. -/
theorem RunAllowed.concat
    {state current : σ}
    {events : List ε}
    {event : ε}
    (allowed : RunAllowed step Allowed state events)
    (reached : run step state events = some current)
    (last : Allowed current event) :
    RunAllowed step Allowed state (events ++ [event]) := by
  induction events generalizing state with
  | nil =>
      cases reached
      refine ⟨last, ?_⟩
      split <;> trivial
  | cons first events inductionHypothesis =>
      rw [run_cons] at reached
      obtain ⟨next, taken, rest⟩ := Option.bind_eq_some_iff.mp reached
      obtain ⟨allowedHere, allowedAfter⟩ := allowed
      refine ⟨allowedHere, ?_⟩
      rw [taken] at allowedAfter ⊢
      exact inductionHypothesis allowedAfter rest

/-- Side conditions that agree wherever an invariant holds allow the same
runs. -/
theorem runAllowed_congr
    {Invariant : σ -> Prop}
    {Other : σ -> ε -> Prop}
    (preserved : ∀ state event next, Invariant state ->
      step state event = some next -> Invariant next)
    (same : ∀ state event, Invariant state ->
      (Allowed state event ↔ Other state event))
    {state : σ}
    {events : List ε}
    (initially : Invariant state) :
    RunAllowed step Allowed state events ↔
      RunAllowed step Other state events := by
  induction events generalizing state with
  | nil => exact Iff.rfl
  | cons event events inductionHypothesis =>
      rw [RunAllowed, RunAllowed, same state event initially]
      cases taken : step state event with
      | none => exact Iff.rfl
      | some next =>
          have rest := inductionHypothesis
            (preserved state event next initially taken)
          simp only [rest]

/-- Where allowed steps keep an invariant under which they also meet a second
condition, an allowed run meets the second condition throughout. -/
theorem RunAllowed.mono
    {Invariant : σ -> Prop}
    {Other : σ -> ε -> Prop}
    (preserved : ∀ state event next, Invariant state ->
      Allowed state event -> step state event = some next -> Invariant next)
    (implies : ∀ state event, Invariant state -> Allowed state event ->
      Other state event)
    {state : σ}
    {events : List ε}
    (initially : Invariant state)
    (allowed : RunAllowed step Allowed state events) :
    RunAllowed step Other state events := by
  induction events generalizing state with
  | nil => trivial
  | cons event events inductionHypothesis =>
      obtain ⟨allowedHere, allowedAfter⟩ := allowed
      refine ⟨implies state event initially allowedHere, ?_⟩
      cases taken : step state event with
      | none => trivial
      | some next =>
          rw [taken] at allowedAfter
          exact inductionHypothesis
            (preserved state event next initially allowedHere taken)
            allowedAfter

/-- Where a step leads on to a good state exactly if it is allowed, the states
of a run are good exactly if its steps are allowed. -/
theorem runStates_iff_runAllowed
    {Invariant Holds : σ -> Prop}
    (progress : ∀ state event, Invariant state -> Holds state ->
      ∃ next, step state event = some next ∧
        (Holds next ↔ Allowed state event) ∧
        (Allowed state event -> Invariant next))
    {state : σ}
    {events : List ε}
    (initially : Invariant state)
    (holds : Holds state) :
    RunStates step Holds state events ↔
      RunAllowed step Allowed state events := by
  induction events generalizing state with
  | nil => exact ⟨fun _ => trivial, fun _ => holds⟩
  | cons event events inductionHypothesis =>
      obtain ⟨next, taken, exactly, invariant⟩ := progress state event
        initially holds
      rw [RunStates, RunAllowed, taken]
      constructor
      · rintro ⟨-, states⟩
        have allowed := exactly.mp states.first
        exact ⟨allowed, (inductionHypothesis (invariant allowed)
          states.first).mp states⟩
      · rintro ⟨allowed, later⟩
        exact ⟨holds, (inductionHypothesis (invariant allowed)
          (exactly.mpr allowed)).mpr later⟩

/-! ## Runs with outputs -/

/-- The state and the outputs of a run whose steps give one output each. -/
def runOutputs (step : σ -> ε -> Option (σ × ω)) :
    σ -> List ε -> Option (σ × List ω)
  | state, [] => some (state, [])
  | state, event :: events =>
      (step state event).bind fun taken =>
        (runOutputs step taken.1 events).map fun rest =>
          (rest.1, taken.2 :: rest.2)

theorem runOutputs_cons
    {step : σ -> ε -> Option (σ × ω)}
    {state next final : σ}
    {event : ε}
    {output : ω}
    {events : List ε}
    {outputs : List ω}
    (taken : step state event = some (next, output))
    (rest : runOutputs step next events = some (final, outputs)) :
    runOutputs step state (event :: events) =
      some (final, output :: outputs) := by
  rw [runOutputs, taken, Option.bind_some, rest]
  rfl

theorem runOutputs_append
    {step : σ -> ε -> Option (σ × ω)}
    {state next final : σ}
    {first second : List ε}
    {outputs later : List ω}
    (reached : runOutputs step state first = some (next, outputs))
    (rest : runOutputs step next second = some (final, later)) :
    runOutputs step state (first ++ second) =
      some (final, outputs ++ later) := by
  induction first generalizing state outputs with
  | nil =>
      cases reached
      exact rest
  | cons event first inductionHypothesis =>
      rw [runOutputs] at reached
      obtain ⟨taken, step, tail⟩ := Option.bind_eq_some_iff.mp reached
      obtain ⟨after, run, equal⟩ := Option.map_eq_some_iff.mp tail
      cases equal
      exact runOutputs_cons step (inductionHypothesis run)

/-- A run that gets stuck at its last step. -/
theorem runOutputs_stuck
    {step : σ -> ε -> Option (σ × ω)}
    {state next : σ}
    {events : List ε}
    {outputs : List ω}
    {event : ε}
    (reached : runOutputs step state events = some (next, outputs))
    (stuck : step next event = none) :
    runOutputs step state (events ++ [event]) = none := by
  induction events generalizing state outputs with
  | nil =>
      cases reached
      rw [List.nil_append, runOutputs, stuck, Option.bind_none]
  | cons first events inductionHypothesis =>
      rw [runOutputs] at reached
      obtain ⟨taken, stepped, tail⟩ := Option.bind_eq_some_iff.mp reached
      obtain ⟨rest, run, equal⟩ := Option.map_eq_some_iff.mp tail
      cases equal
      rw [List.cons_append, runOutputs, stepped, Option.bind_some,
        inductionHypothesis run, Option.map_none]

/-- A second system that follows the first one step by step gives the
translated outputs. -/
theorem runOutputs_simulation
    {step : σ -> ε -> Option (σ × ω)}
    {follow : τ -> ε -> Option (τ × υ)}
    {Related : σ -> τ -> Prop}
    {translate : ω -> υ}
    {Covered : ε -> Prop}
    (follows : ∀ state other event next output, Related state other ->
      Covered event -> step state event = some (next, output) ->
      ∃ after, follow other event = some (after, translate output) ∧
        Related next after)
    {state final : σ}
    {other : τ}
    {events : List ε}
    {outputs : List ω}
    (related : Related state other)
    (covered : ∀ event ∈ events, Covered event)
    (reached : runOutputs step state events = some (final, outputs)) :
    ∃ after, runOutputs follow other events =
        some (after, outputs.map translate) ∧ Related final after := by
  induction events generalizing state other outputs with
  | nil =>
      cases reached
      exact ⟨other, rfl, related⟩
  | cons event events inductionHypothesis =>
      rw [runOutputs] at reached
      obtain ⟨taken, stepped, tail⟩ := Option.bind_eq_some_iff.mp reached
      obtain ⟨rest, run, equal⟩ := Option.map_eq_some_iff.mp tail
      cases equal
      obtain ⟨between, followed, relatedNext⟩ := follows state other event _ _
        related (covered event List.mem_cons_self) stepped
      obtain ⟨after, ran, relatedAfter⟩ := inductionHypothesis relatedNext
        (fun later member => covered later (List.mem_cons_of_mem _ member))
        run
      exact ⟨after, runOutputs_cons followed ran, relatedAfter⟩

/-- What every step preserves holds after every run. -/
theorem runOutputs_invariant
    {step : σ -> ε -> Option (σ × ω)}
    {Invariant : σ -> Prop}
    (preserved : ∀ state event next output, Invariant state ->
      step state event = some (next, output) -> Invariant next)
    {state final : σ}
    {events : List ε}
    {outputs : List ω}
    (initially : Invariant state)
    (reached : runOutputs step state events = some (final, outputs)) :
    Invariant final := by
  induction events generalizing state outputs with
  | nil =>
      cases reached
      exact initially
  | cons event events inductionHypothesis =>
      rw [runOutputs] at reached
      obtain ⟨taken, stepped, tail⟩ := Option.bind_eq_some_iff.mp reached
      obtain ⟨rest, run, equal⟩ := Option.map_eq_some_iff.mp tail
      cases equal
      exact inductionHypothesis
        (preserved state event _ _ initially stepped) run

/-! ## Total runs -/

/-- The state and the outputs of a run whose steps never get stuck. -/
def runTotal (step : σ -> ε -> σ × ω) : σ -> List ε -> σ × List ω
  | state, [] => (state, [])
  | state, event :: events =>
      let taken := step state event
      let rest := runTotal step taken.1 events
      (rest.1, taken.2 :: rest.2)

/-- Two systems whose steps keep a relation and give the same outputs. -/
theorem runTotal_simulation
    {step : σ -> ε -> σ × ω}
    {follow : τ -> ε -> τ × ω}
    (Related : σ -> τ -> Prop)
    (follows : ∀ state other event, Related state other ->
      Related (step state event).1 (follow other event).1 ∧
        (step state event).2 = (follow other event).2)
    {state : σ}
    {other : τ}
    (related : Related state other)
    (events : List ε) :
    Related (runTotal step state events).1
        (runTotal follow other events).1 ∧
      (runTotal step state events).2 = (runTotal follow other events).2 := by
  induction events generalizing state other with
  | nil => exact ⟨related, rfl⟩
  | cons event events inductionHypothesis =>
      obtain ⟨next, sameOutput⟩ := follows state other event related
      obtain ⟨final, sameOutputs⟩ := inductionHypothesis next
      refine ⟨final, ?_⟩
      rw [runTotal, runTotal, sameOutput, sameOutputs]

end Library
