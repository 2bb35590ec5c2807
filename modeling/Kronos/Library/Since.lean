import Mathlib.Data.List.Basic
import Mathlib.Data.List.Induction

/-!
# Conditions on a history

A history is the list of what happened, oldest entry first.  `Since` is the
past-time operator: something started it and nothing has ended it since.
`Justified` says that every entry was in order given the history before it.
Both are determined entry by entry as the history grows.
-/

namespace Library

/-- Some entry of the history starts it and no later entry ends it.  Whether
an entry starts it may depend on the history before it. -/
def Since
    (Starts : List ε -> ε -> Prop)
    (Ends : ε -> Prop)
    (history : List ε) : Prop :=
  ∃ earlier entry later, history = earlier ++ entry :: later ∧
    Starts earlier entry ∧ ∀ other ∈ later, ¬ Ends other

/-- Every entry is in order given the history before it. -/
def Justified
    (Permits : List ε -> ε -> Prop)
    (history : List ε) : Prop :=
  ∀ earlier entry later, history = earlier ++ entry :: later ->
    Permits earlier entry

/-- Where an extended history can be split. -/
theorem concat_eq_append_cons_iff
    {history earlier later : List ε}
    {last entry : ε} :
    history ++ [last] = earlier ++ entry :: later ↔
      history = earlier ∧ last = entry ∧ later = [] ∨
        ∃ between, later = between ++ [last] ∧
          history = earlier ++ entry :: between := by
  constructor
  · intro same
    rcases List.eq_nil_or_concat later with rfl | ⟨between, final, rfl⟩
    · obtain ⟨rfl, final⟩ := List.append_inj' same rfl
      exact Or.inl ⟨rfl, (List.cons.inj final).1, rfl⟩
    · rw [List.concat_eq_append, ← List.cons_append,
        ← List.append_assoc] at same
      obtain ⟨before, final⟩ := List.append_inj' same rfl
      cases final
      exact Or.inr ⟨between, List.concat_eq_append, before⟩
  · rintro (⟨rfl, rfl, rfl⟩ | ⟨between, rfl, rfl⟩)
    · rfl
    · simp

theorem not_since_nil
    (Starts : List ε -> ε -> Prop)
    (Ends : ε -> Prop) :
    ¬ Since Starts Ends [] := by
  rintro ⟨earlier, entry, later, impossible, -⟩
  simp at impossible

/-- One more entry starts it, or it goes on unless the entry ends it. -/
theorem since_concat
    {Starts : List ε -> ε -> Prop}
    {Ends : ε -> Prop}
    {history : List ε}
    {last : ε} :
    Since Starts Ends (history ++ [last]) ↔
      Starts history last ∨ Since Starts Ends history ∧ ¬ Ends last := by
  constructor
  · rintro ⟨earlier, entry, later, split, starts, uninterrupted⟩
    rw [concat_eq_append_cons_iff] at split
    rcases split with ⟨rfl, rfl, -⟩ | ⟨between, rfl, rfl⟩
    · exact Or.inl starts
    · refine Or.inr ⟨⟨earlier, entry, between, rfl, starts, ?_⟩, ?_⟩
      · intro other member
        exact uninterrupted other (List.mem_append_left _ member)
      · exact uninterrupted last (by simp)
  · rintro (starts | ⟨⟨earlier, entry, later, rfl, starts, uninterrupted⟩, goesOn⟩)
    · exact ⟨history, last, [], rfl, starts, by simp⟩
    · refine ⟨earlier, entry, later ++ [last], by simp, starts, ?_⟩
      intro other member
      rcases List.mem_append.mp member with old | new
      · exact uninterrupted other old
      · rw [List.mem_singleton.mp new]
        exact goesOn

theorem justified_nil (Permits : List ε -> ε -> Prop) :
    Justified Permits [] := by
  intro earlier entry later impossible
  simp at impossible

/-- One more entry has to be in order too. -/
theorem Justified.concat
    {Permits : List ε -> ε -> Prop}
    {history : List ε}
    (justified : Justified Permits history)
    {last : ε}
    (permits : Permits history last) :
    Justified Permits (history ++ [last]) := by
  intro earlier entry later split
  rw [concat_eq_append_cons_iff] at split
  rcases split with ⟨rfl, rfl, -⟩ | ⟨between, -, before⟩
  · exact permits
  · exact justified earlier entry between before

end Library
