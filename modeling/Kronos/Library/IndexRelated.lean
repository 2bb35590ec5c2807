import Mathlib.Data.List.Basic

/-!
# Relating two arrays position by position

An operation on an array of objects often keeps the array's size and changes
each object in one of a few ways.  `IndexRelated` says this for a relation that
may depend on the position, and carries properties of all objects over.
-/

namespace Library

variable {α : Type}

/-- The array keeps its size and each item is related to its old self. -/
def IndexRelated
    (related : Nat -> α -> α -> Prop)
    (before after : List α) : Prop :=
  after.length = before.length ∧
    ∀ index old new, before[index]? = some old ->
      after[index]? = some new -> related index old new

namespace IndexRelated

variable {related : Nat -> α -> α -> Prop}

theorem refl
    (reflexive : ∀ index item, related index item item)
    (items : List α) :
    IndexRelated related items items := by
  refine ⟨rfl, ?_⟩
  intro index old new oldRead newRead
  rw [oldRead] at newRead
  cases newRead
  exact reflexive index old

/-- An item of the new array has an old self. -/
theorem exists_old
    {before after : List α}
    (arrays : IndexRelated related before after)
    {index : Nat}
    {new : α}
    (newRead : after[index]? = some new) :
    ∃ old, before[index]? = some old ∧ related index old new := by
  obtain ⟨inside, -⟩ := List.getElem?_eq_some_iff.mp newRead
  have oldInside : index < before.length := by
    rw [← arrays.1]
    exact inside
  have oldRead := List.getElem?_eq_getElem oldInside
  exact ⟨_, oldRead, arrays.2 index _ new oldRead newRead⟩

/-- An item of the old array has a new self. -/
theorem exists_new
    {before after : List α}
    (arrays : IndexRelated related before after)
    {index : Nat}
    {old : α}
    (oldRead : before[index]? = some old) :
    ∃ new, after[index]? = some new ∧ related index old new := by
  obtain ⟨inside, -⟩ := List.getElem?_eq_some_iff.mp oldRead
  have newInside : index < after.length := by
    rw [arrays.1]
    exact inside
  have newRead := List.getElem?_eq_getElem newInside
  exact ⟨_, newRead, arrays.2 index old _ oldRead newRead⟩

/-- A position holds nothing in both arrays, or related items. -/
theorem read_cases
    {before after : List α}
    (arrays : IndexRelated related before after)
    (index : Nat) :
    (before[index]? = none ∧ after[index]? = none) ∨
      ∃ old new, before[index]? = some old ∧ after[index]? = some new ∧
        related index old new := by
  cases oldRead : before[index]? with
  | none =>
      rw [List.getElem?_eq_none_iff, ← arrays.1] at oldRead
      exact Or.inl ⟨rfl, List.getElem?_eq_none_iff.mpr oldRead⟩
  | some old =>
      obtain ⟨new, newRead, same⟩ := arrays.exists_new oldRead
      exact Or.inr ⟨old, new, rfl, newRead, same⟩

theorem trans
    {first second third : List α}
    (transitive : ∀ index a b c, related index a b -> related index b c ->
      related index a c)
    (earlier : IndexRelated related first second)
    (later : IndexRelated related second third) :
    IndexRelated related first third := by
  refine ⟨later.1.trans earlier.1, ?_⟩
  intro index old new oldRead newRead
  obtain ⟨middle, middleRead, relatedMiddle⟩ := earlier.exists_new oldRead
  exact transitive index old middle new relatedMiddle
    (later.2 index middle new middleRead newRead)

theorem mono
    {other : Nat -> α -> α -> Prop}
    {before after : List α}
    (weaker : ∀ index old new, related index old new ->
      other index old new)
    (arrays : IndexRelated related before after) :
    IndexRelated other before after :=
  ⟨arrays.1, fun index old new oldRead newRead =>
    weaker index old new (arrays.2 index old new oldRead newRead)⟩

/-- Writing one position. -/
theorem modify
    (reflexive : ∀ index item, related index item item)
    (items : List α)
    (index : Nat)
    {change : α -> α}
    (changed : ∀ item, items[index]? = some item ->
      related index item (change item)) :
    IndexRelated related items (items.modify index change) := by
  refine ⟨List.length_modify _ _ _, ?_⟩
  intro current old new oldRead newRead
  rw [List.getElem?_modify, oldRead] at newRead
  simp only [Option.map_eq_map, Option.map_some] at newRead
  split at newRead
  case isTrue same =>
    subst same
    cases newRead
    exact changed old oldRead
  case isFalse =>
    cases newRead
    exact reflexive current old

/-- A property that related items share passes to the new array. -/
theorem forall_of_forall
    {property : Nat -> α -> Prop}
    {before after : List α}
    (arrays : IndexRelated related before after)
    (preserved : ∀ index old new, before[index]? = some old ->
      related index old new -> property index old -> property index new)
    (holds : ∀ index item, before[index]? = some item ->
      property index item)
    {index : Nat}
    {item : α}
    (read : after[index]? = some item) :
    property index item := by
  obtain ⟨old, oldRead, relation⟩ := arrays.exists_old read
  exact preserved index old item oldRead relation (holds index old oldRead)

end IndexRelated

/-- Writing different positions, one after the other. -/
theorem getElem?_foldl_modify
    {α : Type}
    {change : α -> α}
    {positions : List Nat}
    (once : positions.Nodup)
    (items : List α)
    (index : Nat) :
    (positions.foldl (fun current position =>
        current.modify position change) items)[index]? =
      if index ∈ positions then items[index]?.map change
      else items[index]? := by
  induction positions generalizing items with
  | nil => rfl
  | cons position positions inductionHypothesis =>
      obtain ⟨absent, once⟩ := List.nodup_cons.mp once
      rw [List.foldl_cons, inductionHypothesis once]
      by_cases here : index = position
      · subst here
        rw [if_neg absent, if_pos List.mem_cons_self,
          List.getElem?_modify_eq]
        rfl
      · rw [List.getElem?_modify_ne _ _ (Ne.symm here)]
        simp only [List.mem_cons, here, false_or]

end Library
