import Mathlib.Data.List.Basic

/-!
# Waiting on a condition variable

Threads wait on one condition variable for work that is counted by a number.
Waking one thread for each piece of work and letting every thread that comes
back look for work again loses no wakeup: while a thread sleeps, at least as
many threads are on their way as there are pieces of work.
-/

namespace Library

/-- Where a thread is: outside of its wait, asleep in it, or woken and not yet
back. -/
inductive Sleeper
  | outside
  | asleep
  | woken
  deriving DecidableEq, Repr

/-- Wake one thread, the chosen one; no thread only if none sleeps. -/
def wakeOne (sleepers : List Sleeper) :
    Option Nat -> Option (List Sleeper)
  | none => if Sleeper.asleep ∈ sleepers then none else some sleepers
  | some chosen =>
      if sleepers[chosen]? = some .asleep then
        some (sleepers.set chosen .woken)
      else none

/-- A thread after all have been woken. -/
def Sleeper.wake : Sleeper -> Sleeper
  | .asleep => .woken
  | other => other

/-- Wake all threads. -/
def wakeAll (sleepers : List Sleeper) : List Sleeper :=
  sleepers.map Sleeper.wake

/-- While a thread sleeps, as many threads have been woken as there is work. -/
def Served (work : Nat) (sleepers : List Sleeper) : Prop :=
  .asleep ∈ sleepers -> work ≤ sleepers.count .woken

variable {work : Nat} {sleepers : List Sleeper} {position : Nat}

theorem count_woken_set
    {before : Sleeper}
    (found : sleepers[position]? = some before)
    (after : Sleeper) :
    (sleepers.set position after).count .woken =
      sleepers.count .woken - (if before == .woken then 1 else 0) +
        if after == .woken then 1 else 0 := by
  obtain ⟨inside, rfl⟩ := List.getElem?_eq_some_iff.mp found
  exact List.count_set inside

theorem asleep_mem_of_set
    {after : Sleeper}
    (member : .asleep ∈ sleepers.set position after)
    (awake : after ≠ .asleep) :
    .asleep ∈ sleepers := by
  rcases List.mem_or_eq_of_mem_set member with old | new
  · exact old
  · exact absurd new.symm awake

theorem Served.mono
    {less : Nat}
    (served : Served work sleepers)
    (fewer : less ≤ work) :
    Served less sleepers :=
  fun sleeps => Nat.le_trans fewer (served sleeps)

/-- A thread may fall asleep when there is no work. -/
theorem Served.none (sleepers : List Sleeper) : Served 0 sleepers :=
  fun _ => Nat.zero_le _

/-- One more piece of work, and one thread woken for it. -/
theorem Served.wakeOne
    (served : Served work sleepers)
    {chosen : Option Nat}
    {next : List Sleeper}
    (woken : wakeOne sleepers chosen = some next) :
    Served (work + 1) next := by
  cases chosen with
  | none =>
      simp only [Library.wakeOne] at woken
      split at woken
      case isTrue => cases woken
      case isFalse nobody =>
        cases woken
        exact fun sleeps => absurd sleeps nobody
  | some chosen =>
      simp only [Library.wakeOne] at woken
      split at woken
      case isFalse => cases woken
      case isTrue found =>
        cases woken
        intro _
        have enough := served (List.mem_of_getElem? found)
        rw [count_woken_set found]
        exact Nat.succ_le_succ enough

/-- A thread that is not asleep any more, and was not on its way. -/
theorem Served.rouse
    (served : Served work sleepers)
    {before after : Sleeper}
    (found : sleepers[position]? = some before)
    (rested : before ≠ .woken)
    (awake : after ≠ .asleep) :
    Served work (sleepers.set position after) := by
  intro sleeps
  have enough := served (asleep_mem_of_set sleeps awake)
  rw [count_woken_set found, if_neg (by simpa using rested)]
  exact Nat.le_trans enough (Nat.le_add_right _ _)

/-- A thread comes back and takes a piece of work. -/
theorem Served.take
    (served : Served work sleepers)
    {before : Sleeper}
    (found : sleepers[position]? = some before) :
    Served (work - 1) (sleepers.set position .outside) := by
  intro sleeps
  have enough := served (asleep_mem_of_set sleeps Sleeper.noConfusion)
  rw [count_woken_set found]
  split_ifs <;> omega

/-- Nobody sleeps once all have been woken. -/
theorem asleep_not_mem_wakeAll (sleepers : List Sleeper) :
    .asleep ∉ wakeAll sleepers := by
  intro member
  obtain ⟨sleeper, -, same⟩ := List.mem_map.mp member
  cases sleeper <;> cases same

end Library
