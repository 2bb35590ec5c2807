import Mathlib.Data.List.Nodup
import Mathlib.Data.List.Pairwise
import Mathlib.Logic.Function.Basic

/-!
# Rosters

A roster keeps a list of members for each of its groups.  One group is the
base: a member joins it under a name nobody else in it has, and may then be
enrolled in open groups.  Who leaves, leaves all groups at once.  `InOrder` is
what the operations keep: different names in the base, open groups inside the
base, nobody twice, and nobody at all in the remaining groups.
-/

namespace Library

/-- The operations on a roster. -/
inductive RosterOp (κ α : Type)
  | keep
  | join (member : α)
  | leave (leaves : α -> Bool)
  | enroll (group : κ) (member : α)
  | withdraw (group : κ) (member : α)

namespace RosterOp

variable {κ α β : Type} [DecidableEq κ] [DecidableEq α]

/-- The lists after an operation. -/
def apply (base : κ) (lists : κ -> List α) : RosterOp κ α -> κ -> List α
  | .keep => lists
  | .join member => Function.update lists base (lists base ++ [member])
  | .leave leaves => fun group =>
      (lists group).filter fun member => !leaves member
  | .enroll group member =>
      if member ∈ lists group then lists
      else Function.update lists group (lists group ++ [member])
  | .withdraw group member =>
      Function.update lists group ((lists group).erase member)

/-- When an operation may be applied. -/
def Admissible
    (base : κ)
    (IsOpen : κ -> Prop)
    (name : α -> β)
    (lists : κ -> List α) : RosterOp κ α -> Prop
  | .keep => True
  | .join member => ∀ other ∈ lists base, name other ≠ name member
  | .leave _ => True
  | .enroll group member => IsOpen group ∧ member ∈ lists base
  | .withdraw group _ => IsOpen group

/-- Who is in a list after an enrolment. -/
theorem mem_apply_enroll
    (base : κ)
    (lists : κ -> List α)
    (group other : κ)
    (member ref : α) :
    ref ∈ (RosterOp.enroll group member).apply base lists other ↔
      ref ∈ lists other ∨ other = group ∧ ref = member := by
  rw [apply]
  split
  case isTrue known =>
    constructor
    · exact Or.inl
    · rintro (old | ⟨rfl, rfl⟩)
      · exact old
      · exact known
  case isFalse =>
    by_cases same : other = group
    · subst same
      simp
    · simp [same]

/-- Who is in a list after a withdrawal. -/
theorem mem_apply_withdraw
    (base : κ)
    (lists : κ -> List α)
    (group other : κ)
    (member ref : α)
    (once : (lists group).Nodup) :
    ref ∈ (RosterOp.withdraw group member).apply base lists other ↔
      ref ∈ lists other ∧ ¬ (other = group ∧ ref = member) := by
  rw [apply]
  by_cases same : other = group
  · subst same
    rw [Function.update_self, once.mem_erase_iff]
    simp [and_comm]
  · simp [same]

/-- Who is in a list after somebody joined. -/
theorem mem_apply_join
    (base : κ)
    (lists : κ -> List α)
    (other : κ)
    (member ref : α) :
    ref ∈ (RosterOp.join member).apply base lists other ↔
      ref ∈ lists other ∨ other = base ∧ ref = member := by
  rw [apply]
  by_cases same : other = base
  · subst same
    simp
  · simp [same]

/-- Who is in a list after some have left. -/
theorem mem_apply_leave
    (base : κ)
    (lists : κ -> List α)
    (leaves : α -> Bool)
    (other : κ)
    (ref : α) :
    ref ∈ (RosterOp.leave leaves).apply base lists other ↔
      ref ∈ lists other ∧ leaves ref = false := by
  rw [apply, List.mem_filter, Bool.not_eq_true']

/-- Nobody but a joining member enters the base. -/
theorem mem_base_of_apply
    {base : κ}
    {IsOpen : κ -> Prop}
    {name : α -> β}
    {lists : κ -> List α}
    (baseClosed : ¬ IsOpen base)
    {op : RosterOp κ α}
    (admissible : op.Admissible base IsOpen name lists)
    {ref : α}
    (listed : ref ∈ op.apply base lists base) :
    ref ∈ lists base ∨ op = .join ref := by
  have notBase : ∀ group, IsOpen group -> base ≠ group := by
    rintro group isOpen rfl
    exact baseClosed isOpen
  cases op with
  | keep => exact Or.inl listed
  | join member =>
      rw [mem_apply_join] at listed
      rcases listed with old | ⟨-, rfl⟩
      · exact Or.inl old
      · exact Or.inr rfl
  | leave leaves =>
      rw [mem_apply_leave] at listed
      exact Or.inl listed.1
  | enroll group member =>
      rw [mem_apply_enroll] at listed
      rcases listed with old | ⟨same, -⟩
      · exact Or.inl old
      · exact absurd same (notBase group admissible.1)
  | withdraw group member =>
      rw [apply, Function.update_of_ne (notBase group admissible)] at listed
      exact Or.inl listed

end RosterOp

variable {κ α β : Type}

/-- What the operations keep. -/
structure InOrder
    (base : κ)
    (IsOpen : κ -> Prop)
    (name : α -> β)
    (lists : κ -> List α) : Prop where
  named : (lists base).Pairwise fun left right => name left ≠ name right
  enrolled : ∀ group, IsOpen group ->
    ∀ member ∈ lists group, member ∈ lists base
  once : ∀ group, (lists group).Nodup
  closed : ∀ group, group ≠ base -> ¬ IsOpen group -> lists group = []

namespace InOrder

variable
  {base : κ}
  {IsOpen : κ -> Prop}
  {name : α -> β}
  {lists : κ -> List α}

/-- A roster without members. -/
theorem empty (vacant : ∀ group, lists group = []) :
    InOrder base IsOpen name lists := by
  refine ⟨?_, ?_, ?_, fun group _ _ => vacant group⟩
  · rw [vacant]
    exact List.Pairwise.nil
  · intro group _ member listed
    rw [vacant] at listed
    cases listed
  · intro group
    rw [vacant]
    exact List.nodup_nil

/-- Only the names of members count. -/
theorem congr
    (inOrder : InOrder base IsOpen name lists)
    {other : α -> β}
    (same : ∀ member ∈ lists base, other member = name member) :
    InOrder base IsOpen other lists where
  named := inOrder.named.imp_of_mem fun left right differ => by
    rw [same _ left, same _ right]
    exact differ
  enrolled := inOrder.enrolled
  once := inOrder.once
  closed := inOrder.closed

/-- Members of the base with the same name are the same. -/
theorem eq_of_name
    (inOrder : InOrder base IsOpen name lists)
    {left right : α}
    (leftListed : left ∈ lists base)
    (rightListed : right ∈ lists base)
    (same : name left = name right) :
    left = right := by
  have symmetric : Std.Symm fun left right : α => name left ≠ name right :=
    ⟨fun _ _ => Ne.symm⟩
  by_contra different
  exact inOrder.named.forall leftListed rightListed different same

/-- Every member of any list is in the base. -/
theorem mem_base
    [DecidableEq κ]
    (inOrder : InOrder base IsOpen name lists)
    {group : κ}
    {member : α}
    (listed : member ∈ lists group) :
    member ∈ lists base := by
  by_cases same : group = base
  · rw [← same]
    exact listed
  · by_cases isOpen : IsOpen group
    · exact inOrder.enrolled group isOpen member listed
    · rw [inOrder.closed group same isOpen] at listed
      cases listed

variable [DecidableEq κ] [DecidableEq α]

theorem join
    (inOrder : InOrder base IsOpen name lists)
    (baseClosed : ¬ IsOpen base)
    {member : α}
    (newName : ∀ other ∈ lists base, name other ≠ name member) :
    InOrder base IsOpen name
      ((RosterOp.join member).apply base lists) where
  named := by
    rw [RosterOp.apply, Function.update_self, List.pairwise_append]
    refine ⟨inOrder.named, List.pairwise_singleton _ _, ?_⟩
    intro left leftIn right rightIn
    rw [List.mem_singleton.mp rightIn]
    exact newName left leftIn
  enrolled := by
    intro group isOpen ref listed
    rw [RosterOp.mem_apply_join] at listed ⊢
    rcases listed with old | ⟨rfl, -⟩
    · exact Or.inl (inOrder.enrolled group isOpen ref old)
    · exact absurd isOpen baseClosed
  once := by
    intro group
    rw [RosterOp.apply]
    by_cases same : group = base
    · subst same
      rw [Function.update_self]
      refine List.nodup_append.mpr
        ⟨inOrder.once _, List.nodup_singleton _, ?_⟩
      rintro left leftIn right rightIn rfl
      rw [List.mem_singleton] at rightIn
      exact newName left leftIn (congrArg name rightIn)
    · rw [Function.update_of_ne same]
      exact inOrder.once group
  closed := by
    intro group other notOpen
    rw [RosterOp.apply, Function.update_of_ne other]
    exact inOrder.closed group other notOpen

theorem leave
    (inOrder : InOrder base IsOpen name lists)
    (leaves : α -> Bool) :
    InOrder base IsOpen name
      ((RosterOp.leave leaves).apply base lists) where
  named := inOrder.named.filter _
  enrolled := by
    intro group isOpen ref listed
    rw [RosterOp.mem_apply_leave] at listed ⊢
    exact ⟨inOrder.enrolled group isOpen ref listed.1, listed.2⟩
  once := fun group => (inOrder.once group).filter _
  closed := by
    intro group other notOpen
    simp only [RosterOp.apply, inOrder.closed group other notOpen,
      List.filter_nil]

theorem enroll
    (inOrder : InOrder base IsOpen name lists)
    (baseClosed : ¬ IsOpen base)
    {group : κ}
    {member : α}
    (isOpen : IsOpen group)
    (listed : member ∈ lists base) :
    InOrder base IsOpen name
      ((RosterOp.enroll group member).apply base lists) := by
  have notBase : base ≠ group := by
    rintro rfl
    exact baseClosed isOpen
  have kept : (RosterOp.enroll group member).apply base lists base =
      lists base := by
    rw [RosterOp.apply]
    split
    case isTrue => rfl
    case isFalse => rw [Function.update_of_ne notBase]
  refine ⟨?_, ?_, ?_, ?_⟩
  · rw [kept]
    exact inOrder.named
  · intro other otherOpen ref member
    rw [kept]
    rw [RosterOp.mem_apply_enroll] at member
    rcases member with old | ⟨-, rfl⟩
    · exact inOrder.enrolled other otherOpen ref old
    · exact listed
  · intro other
    rw [RosterOp.apply]
    split
    case isTrue => exact inOrder.once other
    case isFalse unknown =>
      by_cases same : other = group
      · subst same
        rw [Function.update_self]
        refine List.nodup_append.mpr
          ⟨inOrder.once _, List.nodup_singleton _, ?_⟩
        rintro left leftIn right rightIn rfl
        rw [List.mem_singleton] at rightIn
        rw [rightIn] at leftIn
        exact unknown leftIn
      · rw [Function.update_of_ne same]
        exact inOrder.once other
  · intro other notBase notOpen
    have different : other ≠ group := by
      rintro rfl
      exact notOpen isOpen
    rw [RosterOp.apply]
    split
    case isTrue => exact inOrder.closed other notBase notOpen
    case isFalse =>
      rw [Function.update_of_ne different]
      exact inOrder.closed other notBase notOpen

theorem withdraw
    (inOrder : InOrder base IsOpen name lists)
    (baseClosed : ¬ IsOpen base)
    {group : κ}
    (isOpen : IsOpen group)
    (member : α) :
    InOrder base IsOpen name
      ((RosterOp.withdraw group member).apply base lists) := by
  have notBase : base ≠ group := by
    rintro rfl
    exact baseClosed isOpen
  have kept : (RosterOp.withdraw group member).apply base lists base =
      lists base := by
    rw [RosterOp.apply, Function.update_of_ne notBase]
  refine ⟨?_, ?_, ?_, ?_⟩
  · rw [kept]
    exact inOrder.named
  · intro other otherOpen ref listed
    rw [kept]
    rw [RosterOp.mem_apply_withdraw _ _ _ _ _ _ (inOrder.once group)]
      at listed
    exact inOrder.enrolled other otherOpen ref listed.1
  · intro other
    rw [RosterOp.apply]
    by_cases same : other = group
    · subst same
      rw [Function.update_self]
      exact (inOrder.once other).erase member
    · rw [Function.update_of_ne same]
      exact inOrder.once other
  · intro other otherBase notOpen
    have different : other ≠ group := by
      rintro rfl
      exact notOpen isOpen
    rw [RosterOp.apply, Function.update_of_ne different]
    exact inOrder.closed other otherBase notOpen

/-- Every admissible operation keeps a roster in order. -/
theorem apply
    (inOrder : InOrder base IsOpen name lists)
    (baseClosed : ¬ IsOpen base)
    {op : RosterOp κ α}
    (admissible : op.Admissible base IsOpen name lists) :
    InOrder base IsOpen name (op.apply base lists) := by
  cases op with
  | keep => exact inOrder
  | join member => exact inOrder.join baseClosed admissible
  | leave leaves => exact inOrder.leave leaves
  | enroll group member =>
      exact inOrder.enroll baseClosed admissible.1 admissible.2
  | withdraw group member => exact inOrder.withdraw baseClosed admissible _

end InOrder

end Library
