import Mathlib.Data.Nat.Find
import Mathlib.Data.List.Basic

/-!
# Leases that are kept alive by beats

One party sends beats at a pace, another one lets a lease expire when it has
heard no beat for some time.  Beats may be lost, but not too many in a row, and
the others arrive after some delay at most.  Then the last beat heard is never
older than the delay and one pace for each beat that may be missing, and one
more.
-/

namespace Library

variable {times : List Nat} {period : Nat}

/-- From one beat to the next it takes a period at most. -/
def Paced (period : Nat) (times : List Nat) : Prop :=
  ∀ (position : Nat) (earlier later : Nat),
    times[position]? = some earlier ->
      times[position + 1]? = some later -> later ≤ earlier + period

theorem paced_singleton (period time : Nat) : Paced period [time] := by
  intro position earlier later _ absent
  cases absent

/-- One more beat. -/
theorem Paced.concat
    (paced : Paced period times)
    {next : Nat}
    (soon : ∀ last, times.getLast? = some last -> next ≤ last + period) :
    Paced period (times ++ [next]) := by
  intro position earlier later first second
  rcases Nat.lt_or_ge (position + 1) times.length with inside | outside
  · rw [List.getElem?_append_left inside] at second
    rw [List.getElem?_append_left (Nat.lt_of_succ_lt inside)] at first
    exact paced position earlier later first second
  · rw [List.getElem?_append_right outside] at second
    have last : position + 1 - times.length = 0 := by
      have bound := (List.getElem?_eq_some_iff.mp second).1
      rw [List.length_singleton] at bound
      omega
    rw [last] at second
    cases second
    rw [List.getElem?_append_left (by omega)] at first
    apply soon earlier
    rw [List.getLast?_eq_getElem?]
    rwa [show times.length - 1 = position by omega]

/-- From one beat to any later one. -/
theorem Paced.le
    (paced : Paced period times)
    {position distance earlier later : Nat}
    (first : times[position]? = some earlier)
    (second : times[position + distance]? = some later) :
    later ≤ earlier + distance * period := by
  induction distance generalizing later with
  | zero =>
      rw [Nat.add_zero, first] at second
      cases second
      omega
  | succ distance inductionHypothesis =>
      have bound := (List.getElem?_eq_some_iff.mp second).1
      obtain ⟨between, found⟩ : ∃ between,
          times[position + distance]? = some between :=
        ⟨_, List.getElem?_eq_getElem (by omega)⟩
      have step := paced _ _ _ found second
      have earlierSteps := inductionHypothesis found
      rw [Nat.succ_mul]
      omega

/-- At most this many beats in a row are lost. -/
def FewLost (losses : Nat) (lost : Nat -> Bool) : Prop :=
  ∀ first, ∃ beat, first ≤ beat ∧ beat ≤ first + losses ∧
    lost beat = false

/-- A beat that is not lost arrives within the delay. -/
def Punctual
    (delay now : Nat)
    (lost : Nat -> Bool)
    (times : List Nat)
    (arrived : Nat -> Prop) : Prop :=
  ∀ (beat time : Nat), times[beat]? = some time -> lost beat = false ->
    time + delay < now -> arrived beat

instance
    (delay now : Nat)
    (lost : Nat -> Bool)
    (times : List Nat)
    (arrived : Nat -> Prop)
    [DecidablePred arrived] :
    Decidable (Punctual delay now lost times arrived) :=
  decidable_of_iff
    (∀ beat < times.length, ∀ time ∈ times[beat]?,
      lost beat = false -> time + delay < now -> arrived beat)
    ⟨fun bounded beat time found =>
      bounded beat (List.getElem?_eq_some_iff.mp found).1 time found,
      fun punctual beat _ time found => punctual beat time found⟩

/-- One more beat is not overdue at once. -/
theorem Punctual.concat
    {delay now next : Nat}
    {lost : Nat -> Bool}
    {arrived : Nat -> Prop}
    (punctual : Punctual delay now lost times arrived)
    (young : now ≤ next + delay) :
    Punctual delay now lost (times ++ [next]) arrived := by
  intro beat time found kept overdue
  rcases Nat.lt_or_ge beat times.length with inside | outside
  · rw [List.getElem?_append_left inside] at found
    exact punctual beat time found kept overdue
  · rw [List.getElem?_append_right outside] at found
    have same := List.mem_singleton.mp (List.mem_of_getElem? found)
    omega

/-- Some beat has arrived that is not too old.  The first beat that may still
be under way is young, and of those right before it few are lost; where no beat
is under way, the last one is younger than a period.  The very first beat is
known to have arrived. -/
theorem exists_recent_beat
    (paced : Paced period times)
    {losses delay now first : Nat}
    {lost : Nat -> Bool}
    {arrived : Nat -> Prop}
    (few : FewLost losses lost)
    (punctual : Punctual delay now lost times arrived)
    (begins : times[0]? = some first)
    (began : arrived 0)
    (recent : ∀ last, times.getLast? = some last -> now < last + period) :
    ∃ beat time, times[beat]? = some time ∧ arrived beat ∧
      now ≤ time + delay + (losses + 1) * period := by
  have bounded : ∃ position, ∀ time, times[position]? = some time ->
      now ≤ time + delay :=
    ⟨times.length, fun time absent => by simp at absent⟩
  classical
  obtain ⟨young, old⟩ : (∀ time, times[Nat.find bounded]? = some time ->
      now ≤ time + delay) ∧ ∀ position < Nat.find bounded, ∃ time,
        times[position]? = some time ∧ time + delay < now := by
    refine ⟨Nat.find_spec bounded, fun position before => ?_⟩
    simpa using Nat.find_min bounded before
  generalize Nat.find bounded = border at young old
  obtain ⟨beat, time, found, came, close⟩ : ∃ beat time,
      times[beat]? = some time ∧ arrived beat ∧
        beat ≤ border ∧ border ≤ beat + (losses + 1) := by
    rcases Nat.lt_or_ge losses border with many | short
    · obtain ⟨beat, above, below, kept⟩ := few (border - 1 - losses)
      obtain ⟨time, found, due⟩ := old beat (by omega)
      exact ⟨beat, time, found, punctual beat time found kept due, by omega,
        by omega⟩
    · exact ⟨0, first, begins, began, Nat.zero_le _, by omega⟩
  refine ⟨beat, time, found, came, ?_⟩
  obtain ⟨distance, rfl⟩ := Nat.exists_eq_add_of_le close.1
  have within : distance * period ≤ (losses + 1) * period :=
    Nat.mul_le_mul_right period (by omega)
  cases next : times[beat + distance]? with
  | some later =>
      have pace := paced.le found next
      have soon := young later next
      omega
  | none =>
      have length : times.length ≤ beat + distance :=
        List.getElem?_eq_none_iff.mp next
      have inside := (List.getElem?_eq_some_iff.mp found).1
      obtain ⟨last, lastFound⟩ : ∃ last,
          times[times.length - 1]? = some last :=
        ⟨_, List.getElem?_eq_getElem (by omega)⟩
      have soon := recent last (by rwa [List.getLast?_eq_getElem?])
      obtain ⟨steps, same⟩ := Nat.exists_eq_add_of_le
        (show beat ≤ times.length - 1 by omega)
      rw [same] at lastFound
      have pace := paced.le found lastFound
      have fewer : (steps + 1) * period ≤ (losses + 1) * period :=
        Nat.mul_le_mul_right period (by omega)
      rw [Nat.succ_mul] at fewer
      omega

end Library
