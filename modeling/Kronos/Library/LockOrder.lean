import Mathlib.Order.WellFounded
import Kronos.Library.Transition

/-!
# Locks taken in order

Threads acquire and release locks, each in a shared or an exclusive mode.  A
thread keeps to an order of the locks if it acquires a lock only while every
lock that it holds is above it.  Where all threads do so, no threads ever wait
for each other in a circle.
-/

namespace Library

/-- The mode in which a lock is held. -/
inductive LockMode
  | shared
  | exclusive
  deriving DecidableEq, Repr

/-- An operation on a lock. -/
inductive LockOp (κ : Type)
  | acquire (lock : κ) (mode : LockMode)
  | release (lock : κ) (mode : LockMode)
  deriving DecidableEq, Repr

/-- A section that takes no other lock. -/
def critical (lock : κ) (mode : LockMode) : List (LockOp κ) :=
  [.acquire lock mode, .release lock mode]

/-- A thread: the locks that it holds, and what it has left to do. -/
structure LockThread (κ : Type) where
  held : List (κ × LockMode) := []
  program : List (LockOp κ)
  deriving DecidableEq, Repr

variable {κ : Type} {Above : κ -> κ -> Prop}

/-- The thread is about to acquire the lock. -/
def LockThread.WaitsFor (thread : LockThread κ) (lock : κ) : Prop :=
  ∃ mode program, thread.program = .acquire lock mode :: program

/-- The thread holds the lock. -/
def LockThread.Holds (thread : LockThread κ) (lock : κ) : Prop :=
  ∃ mode, (lock, mode) ∈ thread.held

/-- The threads at some positions, at least one of them, each wait for a lock
that another of them holds. -/
def Deadlocked (threads : List (LockThread κ)) (stuck : Set Nat) : Prop :=
  stuck.Nonempty ∧
    ∀ position ∈ stuck, ∃ thread lock,
      threads[position]? = some thread ∧ thread.WaitsFor lock ∧
      ∃ other ∈ stuck, other ≠ position ∧
        ∃ holder, threads[other]? = some holder ∧ holder.Holds lock

/-- The number of operations that the threads have left. -/
def remaining (threads : List (LockThread κ)) : Nat :=
  (threads.flatMap LockThread.program).length

theorem remaining_set
    {threads : List (LockThread κ)}
    {position : Nat}
    {current next : LockThread κ}
    (found : threads[position]? = some current)
    (shorter : current.program.length = next.program.length + 1) :
    remaining threads = remaining (threads.set position next) + 1 := by
  induction threads generalizing position with
  | nil => cases found
  | cons thread threads inductionHypothesis =>
      cases position with
      | zero =>
          cases found
          simp only [remaining, List.set_cons_zero, List.flatMap_cons,
            List.length_append, shorter]
          omega
      | succ position =>
          have rest := inductionHypothesis found
          simp only [remaining] at rest
          simp only [remaining, List.set_cons_succ, List.flatMap_cons,
            List.length_append, rest]
          omega

variable [DecidableEq κ]

/-! ## Keeping to an order -/

/-- The operations keep to the order and lead from some held locks to others:
a lock is acquired below all locks that are held, and released in the mode in
which it is held. -/
def Descends (Above : κ -> κ -> Prop) :
    List (κ × LockMode) -> List (LockOp κ) -> List (κ × LockMode) -> Prop
  | held, [], final => held = final
  | held, .acquire lock mode :: program, final =>
      (∀ other ∈ held, Above other.1 lock) ∧
        Descends Above ((lock, mode) :: held) program final
  | held, .release lock mode :: program, final =>
      (lock, mode) ∈ held ∧
        Descends Above (held.erase (lock, mode)) program final

/-- The operations keep to the order and release what they acquire. -/
def Balanced
    (Above : κ -> κ -> Prop)
    (held : List (κ × LockMode))
    (program : List (LockOp κ)) : Prop :=
  Descends Above held program held

section Balanced

variable {held between final : List (κ × LockMode)}

theorem Descends.append
    {first second : List (LockOp κ)}
    (before : Descends Above held first between)
    (after : Descends Above between second final) :
    Descends Above held (first ++ second) final := by
  induction first generalizing held with
  | nil =>
      cases before
      exact after
  | cons op first inductionHypothesis =>
      cases op with
      | acquire lock mode =>
          obtain ⟨above, before⟩ := before
          exact ⟨above, inductionHypothesis before⟩
      | release lock mode =>
          obtain ⟨member, before⟩ := before
          exact ⟨member, inductionHypothesis before⟩

theorem Balanced.nil : Balanced Above held [] := rfl

theorem Balanced.append
    {first second : List (LockOp κ)}
    (before : Balanced Above held first)
    (after : Balanced Above held second) :
    Balanced Above held (first ++ second) :=
  Descends.append before after

/-- A loop is balanced if each turn of it is. -/
theorem Balanced.flatMap
    {α : Type}
    {turn : α -> List (LockOp κ)}
    (balanced : ∀ item, Balanced Above held (turn item))
    (items : List α) :
    Balanced Above held (items.flatMap turn) := by
  induction items with
  | nil => exact Balanced.nil
  | cons item items inductionHypothesis =>
      rw [List.flatMap_cons]
      exact (balanced item).append inductionHypothesis

/-- A section that acquires a lock below all held ones. -/
theorem Balanced.within
    {lock : κ}
    {mode : LockMode}
    {body : List (LockOp κ)}
    (above : ∀ other ∈ held, Above other.1 lock)
    (balanced : Balanced Above ((lock, mode) :: held) body) :
    Balanced Above held
      ([.acquire lock mode] ++ body ++ [.release lock mode]) := by
  refine ⟨above, Descends.append balanced ⟨List.mem_cons_self, ?_⟩⟩
  exact List.erase_cons_head _ _

theorem Balanced.critical
    {lock : κ}
    (above : ∀ other ∈ held, Above other.1 lock)
    (mode : LockMode) :
    Balanced Above held (critical lock mode) := by
  have empty : Balanced Above ((lock, mode) :: held) [] := Balanced.nil
  exact empty.within above

end Balanced

/-! ## Interleavings -/

/-- The lock can be acquired in a mode: no thread holds it, or all that hold it
share it. -/
def grantable (threads : List (LockThread κ)) (lock : κ) : LockMode -> Bool
  | .shared => threads.all fun thread =>
      !thread.held.contains (lock, .exclusive)
  | .exclusive => threads.all fun thread =>
      thread.held.all fun entry => entry.1 != lock

/-- The next operation of a thread among all threads. -/
def LockThread.advance
    (thread : LockThread κ)
    (threads : List (LockThread κ)) : Option (LockThread κ) :=
  match thread.program with
  | [] => none
  | .acquire lock mode :: program =>
      if grantable threads lock mode then
        some { held := (lock, mode) :: thread.held, program := program }
      else none
  | .release lock mode :: program =>
      some { held := thread.held.erase (lock, mode), program := program }

/-- One thread takes its next operation. -/
def lockStep (threads : List (LockThread κ)) (position : Nat) :
    Option (List (LockThread κ)) :=
  threads[position]?.bind fun thread =>
    (thread.advance threads).map fun next => threads.set position next

/-- What is left to do keeps to the order and ends without a lock. -/
def LockThread.KeepsOrder
    (Above : κ -> κ -> Prop)
    (thread : LockThread κ) : Prop :=
  Descends Above thread.held thread.program []

theorem LockThread.KeepsOrder.advance
    {thread next : LockThread κ}
    {threads : List (LockThread κ)}
    (keeps : thread.KeepsOrder Above)
    (advanced : thread.advance threads = some next) :
    next.KeepsOrder Above := by
  obtain ⟨held, program⟩ := thread
  cases program with
  | nil => cases advanced
  | cons op program =>
      cases op with
      | acquire lock mode =>
          simp only [LockThread.advance] at advanced
          split at advanced
          case isTrue granted =>
              cases advanced
              exact keeps.2
          case isFalse refused => cases advanced
      | release lock mode =>
          cases advanced
          exact keeps.2

theorem lockStep_keepsOrder
    {threads after : List (LockThread κ)}
    {position : Nat}
    (keep : ∀ thread ∈ threads, thread.KeepsOrder Above)
    (step : lockStep threads position = some after) :
    ∀ thread ∈ after, thread.KeepsOrder Above := by
  obtain ⟨current, found, taken⟩ := Option.bind_eq_some_iff.mp step
  obtain ⟨next, advanced, rfl⟩ := Option.map_eq_some_iff.mp taken
  intro thread member
  rcases List.mem_or_eq_of_mem_set member with member | rfl
  · exact keep thread member
  · exact (keep current (List.mem_of_getElem? found)).advance advanced

/-- Threads that keep to the order do so in every interleaving. -/
theorem run_keepsOrder
    {threads final : List (LockThread κ)}
    {schedule : List Nat}
    (keep : ∀ thread ∈ threads, thread.KeepsOrder Above)
    (reached : run lockStep threads schedule = some final) :
    ∀ thread ∈ final, thread.KeepsOrder Above := by
  have preserved : ∀ (state : List (LockThread κ)) position next,
      (∀ thread ∈ state, thread.KeepsOrder Above) ->
        lockStep state position = some next ->
          ∀ thread ∈ next, thread.KeepsOrder Above :=
    fun _ _ _ => lockStep_keepsOrder
  exact run_invariant preserved keep reached

/-- A thread that keeps to the order waits for a lock only while all locks that
it holds are above it. -/
theorem LockThread.KeepsOrder.above
    {thread : LockThread κ}
    {lock : κ}
    (keeps : thread.KeepsOrder Above)
    (waits : thread.WaitsFor lock) :
    ∀ other ∈ thread.held, Above other.1 lock := by
  obtain ⟨mode, program, equal⟩ := waits
  rw [LockThread.KeepsOrder, equal] at keeps
  exact keeps.1

/-- Threads that keep to a well-founded order are never in a deadlock. -/
theorem not_deadlocked
    (wellFounded : WellFounded fun lower upper => Above upper lower)
    {threads : List (LockThread κ)}
    (keep : ∀ thread ∈ threads, thread.KeepsOrder Above)
    (stuck : Set Nat) :
    ¬ Deadlocked threads stuck := by
  rintro ⟨⟨position, member⟩, waiting⟩
  let awaited : Set κ := { lock | ∃ position ∈ stuck, ∃ thread,
    threads[position]? = some thread ∧ thread.WaitsFor lock }
  have nonempty : awaited.Nonempty := by
    obtain ⟨thread, lock, found, waits, -⟩ := waiting position member
    exact ⟨lock, position, member, thread, found, waits⟩
  obtain ⟨lowest, ⟨position, member, thread, found, waits⟩, least⟩ :=
    wellFounded.has_min awaited nonempty
  obtain ⟨same, lock, foundSame, waitsSame, other, otherMember, -, holder,
    foundHolder, mode, held⟩ := waiting position member
  obtain rfl : thread = same := Option.some.inj (found.symm.trans foundSame)
  have equal : lock = lowest := by
    obtain ⟨first, program, ops⟩ := waits
    obtain ⟨second, rest, opsSame⟩ := waitsSame
    rw [ops] at opsSame
    cases opsSame
    rfl
  subst equal
  obtain ⟨again, lower, foundAgain, waitsLower, -⟩ := waiting other otherMember
  obtain rfl : holder = again :=
    Option.some.inj (foundHolder.symm.trans foundAgain)
  have above := (keep holder (List.mem_of_getElem? foundHolder)).above
    waitsLower (lock, mode) held
  exact least lower ⟨other, otherMember, holder, foundHolder, waitsLower⟩ above

/-! ## Going on -/

/-- A thread that goes on takes one of its operations. -/
theorem LockThread.advance_program
    {thread next : LockThread κ}
    {threads : List (LockThread κ)}
    (advanced : thread.advance threads = some next) :
    thread.program.length = next.program.length + 1 := by
  obtain ⟨held, program⟩ := thread
  cases program with
  | nil => cases advanced
  | cons op program =>
      cases op with
      | acquire lock mode =>
          simp only [LockThread.advance] at advanced
          split at advanced
          case isTrue granted =>
              cases advanced
              rfl
          case isFalse refused => cases advanced
      | release lock mode =>
          cases advanced
          rfl

/-- A run takes as many operations as it has steps. -/
theorem run_remaining
    {threads final : List (LockThread κ)}
    {schedule : List Nat}
    (reached : run lockStep threads schedule = some final) :
    remaining threads = remaining final + schedule.length := by
  induction schedule generalizing threads with
  | nil =>
      cases reached
      rfl
  | cons position schedule inductionHypothesis =>
      rw [run_cons] at reached
      obtain ⟨after, step, rest⟩ := Option.bind_eq_some_iff.mp reached
      obtain ⟨current, found, taken⟩ := Option.bind_eq_some_iff.mp step
      obtain ⟨next, advanced, rfl⟩ := Option.map_eq_some_iff.mp taken
      have shorter := remaining_set found (LockThread.advance_program advanced)
      rw [shorter, inductionHypothesis rest, List.length_cons]
      omega

/-- A thread that cannot go on waits for a lock that is held. -/
theorem LockThread.waits_of_stuck
    {thread : LockThread κ}
    {threads : List (LockThread κ)}
    (unfinished : thread.program ≠ [])
    (stuck : thread.advance threads = none) :
    ∃ lock, thread.WaitsFor lock ∧
      ∃ holder ∈ threads, holder.Holds lock := by
  obtain ⟨held, program⟩ := thread
  cases program with
  | nil => exact absurd rfl unfinished
  | cons op program =>
      cases op with
      | release lock mode => cases stuck
      | acquire lock mode =>
          refine ⟨lock, ⟨mode, program, rfl⟩, ?_⟩
          simp only [LockThread.advance] at stuck
          split at stuck
          case isTrue => cases stuck
          case isFalse refused =>
            cases mode with
            | shared =>
                obtain ⟨holder, member, holds⟩ : ∃ holder ∈ threads,
                    (lock, LockMode.exclusive) ∈ holder.held := by
                  simpa [grantable] using refused
                exact ⟨holder, member, .exclusive, holds⟩
            | exclusive =>
                obtain ⟨holder, member, held, holds⟩ : ∃ holder ∈ threads,
                    ∃ mode, (lock, mode) ∈ holder.held := by
                  simpa [grantable] using refused
                exact ⟨holder, member, held, holds⟩

/-- As long as a thread that keeps to a well-founded order has something left
to do, some thread can go on. -/
theorem lockStep_of_unfinished
    (wellFounded : WellFounded fun lower upper => Above upper lower)
    {threads : List (LockThread κ)}
    (keep : ∀ thread ∈ threads, thread.KeepsOrder Above)
    (unfinished : ∃ thread ∈ threads, thread.program ≠ []) :
    ∃ position after, lockStep threads position = some after := by
  by_contra stuck
  have blocked : ∀ (position : Nat) (thread : LockThread κ),
      threads[position]? = some thread -> thread.advance threads = none := by
    intro position thread found
    rw [Option.eq_none_iff_forall_ne_some]
    intro next advanced
    refine stuck ⟨position, threads.set position next, ?_⟩
    rw [lockStep, found, Option.bind_some, advanced, Option.map_some]
  refine not_deadlocked wellFounded keep
    { position | ∃ thread, threads[position]? = some thread ∧
      thread.program ≠ [] } ⟨?_, ?_⟩
  · obtain ⟨thread, member, works⟩ := unfinished
    obtain ⟨position, found⟩ := List.getElem?_of_mem member
    exact ⟨position, thread, found, works⟩
  · rintro position ⟨thread, found, works⟩
    obtain ⟨lock, waits, holder, member, holds⟩ :=
      LockThread.waits_of_stuck works (blocked position thread found)
    obtain ⟨other, otherFound⟩ := List.getElem?_of_mem member
    refine ⟨thread, lock, found, waits, other, ⟨holder, otherFound, ?_⟩, ?_,
      holder, otherFound, holds⟩
    · intro finished
      have keeps := keep holder member
      rw [LockThread.KeepsOrder, finished] at keeps
      obtain ⟨mode, held⟩ := holds
      rw [show holder.held = [] from keeps] at held
      cases held
    · rintro rfl
      obtain rfl : thread = holder :=
        Option.some.inj (found.symm.trans otherFound)
      obtain ⟨mode, held⟩ := holds
      have above := (keep thread member).above waits (lock, mode) held
      exact wellFounded.irrefl.irrefl lock above

/-- Threads that keep to a well-founded order can all finish. -/
theorem run_finishes
    (wellFounded : WellFounded fun lower upper => Above upper lower)
    {threads : List (LockThread κ)}
    (keep : ∀ thread ∈ threads, thread.KeepsOrder Above) :
    ∃ schedule final, run lockStep threads schedule = some final ∧
      ∀ thread ∈ final, thread.program = [] := by
  by_cases unfinished : ∃ thread ∈ threads, thread.program ≠ []
  · obtain ⟨position, after, step⟩ :=
      lockStep_of_unfinished wellFounded keep unfinished
    have fewer : run lockStep threads [position] = some after := by
      rw [run_cons, step]
      rfl
    have smaller : remaining after < remaining threads := by
      rw [run_remaining fewer]
      exact Nat.lt_succ_self _
    obtain ⟨schedule, final, reached, finished⟩ :=
      run_finishes wellFounded (lockStep_keepsOrder keep step)
    refine ⟨position :: schedule, final, ?_, finished⟩
    rw [run_cons, step]
    exact reached
  · refine ⟨[], threads, rfl, ?_⟩
    intro thread member
    by_contra works
    exact unfinished ⟨thread, member, works⟩
termination_by remaining threads

end Library
