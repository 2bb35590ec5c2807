import Mathlib.Data.Multiset.AddSub
import Mathlib.Data.Multiset.Count

/-!
# Pools of threads

The threads of a system are a list, and a step of one of them puts what it goes
on with, if anything, in its place.  What the threads hold together is a
multiset; a step exchanges the part of one thread and leaves the rest.
-/

namespace Library

variable {τ α : Type}

/-- The pool after the thread at a position has taken a step. -/
def splice (pool : List τ) (position : Nat) (next : List τ) : List τ :=
  pool.take position ++ next ++ pool.drop (position + 1)

/-- What the threads of a pool hold together. -/
def gathered (part : τ -> List α) (pool : List τ) : Multiset α :=
  ↑(pool.flatMap part)

variable {part : τ -> List α} {pool : List τ}

/-- A thread of the pool and the others. -/
theorem perm_of_getElem?
    {position : Nat}
    {thread : τ}
    (found : pool[position]? = some thread) :
    pool.Perm (thread :: pool.eraseIdx position) := by
  obtain ⟨inside, rfl⟩ := List.getElem?_eq_some_iff.mp found
  exact (List.getElem_cons_eraseIdx_perm inside).symm

theorem splice_perm
    (pool : List τ)
    (position : Nat)
    (next : List τ) :
    (splice pool position next).Perm (next ++ pool.eraseIdx position) := by
  rw [splice, List.eraseIdx_eq_take_drop_succ, ← List.append_assoc]
  exact List.perm_append_comm.append_right _

/-- A thread that goes on takes its place. -/
theorem splice_singleton
    {position : Nat}
    {thread : τ}
    (found : pool[position]? = some thread)
    (next : τ) :
    splice pool position [next] = pool.set position next := by
  obtain ⟨inside, -⟩ := List.getElem?_eq_some_iff.mp found
  rw [splice, List.set_eq_take_append_cons_drop, if_pos inside,
    List.append_assoc, List.singleton_append]

theorem map_splice
    {σ : Type}
    (view : τ -> σ)
    (pool : List τ)
    (position : Nat)
    (next : List τ) :
    (splice pool position next).map view =
      splice (pool.map view) position (next.map view) := by
  simp only [splice, List.map_append, List.map_take, List.map_drop]

theorem gathered_cons (thread : τ) (pool : List τ) :
    gathered part (thread :: pool) =
      ↑(part thread) + gathered part pool := by
  rw [gathered, List.flatMap_cons, ← Multiset.coe_add]
  rfl

theorem gathered_perm
    {other : List τ}
    (perm : pool.Perm other) :
    gathered part pool = gathered part other :=
  Multiset.coe_eq_coe.mpr (perm.flatMap_right part)

theorem gathered_append (first second : List τ) :
    gathered part (first ++ second) =
      gathered part first + gathered part second := by
  rw [gathered, List.flatMap_append, ← Multiset.coe_add]
  rfl

theorem mem_gathered
    {item : α} :
    item ∈ gathered part pool ↔ ∃ thread ∈ pool, item ∈ part thread := by
  rw [gathered, Multiset.mem_coe, List.mem_flatMap]

/-- The part of one thread and that of the others. -/
theorem gathered_of_getElem?
    {position : Nat}
    {thread : τ}
    (found : pool[position]? = some thread) :
    gathered part pool =
      ↑(part thread) + gathered part (pool.eraseIdx position) := by
  obtain ⟨inside, rfl⟩ := List.getElem?_eq_some_iff.mp found
  rw [gathered, gathered, Multiset.coe_add, ← List.flatMap_cons,
    Multiset.coe_eq_coe]
  exact (List.getElem_cons_eraseIdx_perm inside).symm.flatMap_right part

theorem gathered_splice
    (position : Nat)
    (next : List τ) :
    gathered part (splice pool position next) =
      gathered part next + gathered part (pool.eraseIdx position) := by
  rw [splice, List.eraseIdx_eq_take_drop_succ, gathered_append,
    gathered_append, gathered_append,
    Multiset.add_comm (gathered part (pool.take _)),
    Multiset.add_assoc]

end Library
