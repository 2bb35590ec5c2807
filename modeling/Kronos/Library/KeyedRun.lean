import Kronos.Library.Transition

/-!
# Systems made of independent parts

The events of a system carry keys, and an event only touches the part of the
state that belongs to its key.  `ByKey` says so of one step, by a step of the
part alone; `runOutputs_byKey` says of a whole run that the outputs of a key
are those of its part fed with the events of that key.
-/

namespace Library

/-- The outputs of a part fed with events. -/
def partOutputs (part : τ -> ε -> τ × ω) : τ -> List ε -> List ω
  | _, [] => []
  | state, event :: events =>
      (part state event).2 :: partOutputs part (part state event).1 events

/-- The outputs given for the events of one key. -/
def outputsOf
    [DecidableEq κ]
    (key : ε -> κ)
    (one : κ)
    (events : List ε)
    (outputs : List ω) : List ω :=
  ((events.zip outputs).filter fun pair => key pair.1 = one).map Prod.snd

/-- An allowed step is a step of the part with the event's key, observed
through `observe`, and leaves the other parts alone. -/
def ByKey
    [DecidableEq κ]
    (step : σ -> ε -> Option (σ × ω))
    (Allowed : σ -> ε -> Prop)
    (key : ε -> κ)
    (part : τ -> ε -> τ × υ)
    (observe : ω -> υ)
    (Related : σ -> (κ -> τ) -> Prop) : Prop :=
  ∀ state parts event, Related state parts -> Allowed state event ->
    ∃ next output, step state event = some (next, output) ∧
      Related next (Function.update parts (key event)
        (part (parts (key event)) event).1) ∧
      observe output = (part (parts (key event)) event).2

/-- In an allowed run each part gives the outputs it gives when it is fed with
its own events alone. -/
theorem runOutputs_byKey
    [DecidableEq κ]
    {step : σ -> ε -> Option (σ × ω)}
    {Allowed : σ -> ε -> Prop}
    {key : ε -> κ}
    {part : τ -> ε -> τ × υ}
    {observe : ω -> υ}
    {Related : σ -> (κ -> τ) -> Prop}
    (byKey : ByKey step Allowed key part observe Related)
    {state : σ}
    {parts : κ -> τ}
    {events : List ε}
    (related : Related state parts)
    (allowed : RunAllowed (fun state event => (step state event).map Prod.fst)
      Allowed state events) :
    ∃ final outputs,
      runOutputs step state events = some (final, outputs) ∧
      ∀ one, (outputsOf key one events outputs).map observe =
        partOutputs part (parts one)
          (events.filter fun event => key event = one) := by
  induction events generalizing state parts with
  | nil => exact ⟨state, [], rfl, fun _ => rfl⟩
  | cons event events inductionHypothesis =>
      obtain ⟨here, later⟩ := allowed
      obtain ⟨next, output, taken, relatedNext, observed⟩ :=
        byKey state parts event related here
      simp only [taken, Option.map_some] at later
      obtain ⟨final, outputs, reached, rest⟩ :=
        inductionHypothesis relatedNext later
      refine ⟨final, output :: outputs, runOutputs_cons taken reached, ?_⟩
      intro one
      have tail := rest one
      by_cases mine : key event = one
      · subst mine
        rw [Function.update_self] at tail
        simp only [outputsOf, List.zip_cons_cons, List.filter_cons, decide_true,
          if_true, List.map_cons, partOutputs, observed] at tail ⊢
        rw [tail]
      · rw [Function.update_of_ne (Ne.symm mine)] at tail
        simp only [outputsOf, List.zip_cons_cons, List.filter_cons, mine,
          decide_false, Bool.false_eq_true, if_false] at tail ⊢
        exact tail

end Library
