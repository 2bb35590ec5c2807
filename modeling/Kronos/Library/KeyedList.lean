import Mathlib.Data.List.Nodup
import Mathlib.Data.List.Basic

/-!
# Lists searched by key

A growable array whose items carry a key is searched for the first item with
a given key.  As long as the keys are distinct, the array is a finite map:
`lookup` determines membership, and assigning, appending and erasing act on
one key only.
-/

namespace Library

variable {α κ : Type} {key : α -> κ}

/-- No two items share a key. -/
def DistinctKeys (key : α -> κ) (items : List α) : Prop :=
  (items.map key).Nodup

/-- Items with distinct keys are equal as soon as their keys are. -/
theorem DistinctKeys.eq_of_key
    {items : List α}
    (distinct : DistinctKeys key items)
    {left right : α}
    (leftPresent : left ∈ items)
    (rightPresent : right ∈ items)
    (sameKey : key left = key right) :
    left = right :=
  List.inj_on_of_nodup_map distinct leftPresent rightPresent sameKey

/-- Assigning a position keeps the keys distinct when its key stays. -/
theorem DistinctKeys.set
    {items : List α}
    (distinct : DistinctKeys key items)
    {slot : Nat}
    {old new : α}
    (present : items[slot]? = some old)
    (sameKey : key new = key old) :
    DistinctKeys key (items.set slot new) := by
  obtain ⟨inside, value⟩ := List.getElem?_eq_some_iff.mp present
  have keys : (items.set slot new).map key = items.map key := by
    apply List.ext_getElem (by simp)
    intro position _ _
    rw [List.getElem_map, List.getElem_map, List.getElem_set]
    split
    case isTrue equal =>
      subst equal
      rw [value, sameKey]
    case isFalse => rfl
  unfold DistinctKeys
  rw [keys]
  exact distinct

/-- Rewriting and dropping items keeps the keys distinct when rewriting keeps
each key. -/
theorem DistinctKeys.filterMap
    {items : List α}
    (distinct : DistinctKeys key items)
    {rewrite : α -> Option α}
    (keyed : ∀ item kept, rewrite item = some kept -> key kept = key item) :
    DistinctKeys key (items.filterMap rewrite) := by
  refine List.Nodup.sublist ?_ distinct
  induction items with
  | nil => exact List.Sublist.slnil
  | cons item items inductionHypothesis =>
      have tail := inductionHypothesis (List.nodup_cons.mp distinct).2
      cases kept : rewrite item with
      | none =>
          rw [List.filterMap_cons_none kept, List.map_cons]
          exact tail.cons _
      | some new =>
          rw [List.filterMap_cons_some kept, List.map_cons, List.map_cons,
            keyed item new kept]
          exact tail.cons_cons _

/-- Counting what only one key contributes to. -/
theorem DistinctKeys.countP_flatMap
    {items : List α}
    (distinct : DistinctKeys key items)
    {contribution : α -> List β}
    {counts : β -> Bool}
    {item : α}
    (present : item ∈ items)
    (owned : ∀ other ∈ items, ∀ part ∈ contribution other,
      counts part = true -> key other = key item) :
    (items.flatMap contribution).countP counts =
      (contribution item).countP counts := by
  have none : ∀ others : List α, key item ∉ others.map key ->
      (∀ other ∈ others, other ∈ items) ->
      (others.flatMap contribution).countP counts = 0 := by
    intro others absent inside
    rw [List.countP_eq_zero]
    intro part member counted
    obtain ⟨other, otherPresent, inPart⟩ := List.mem_flatMap.mp member
    have same := owned other (inside other otherPresent) part inPart counted
    exact absent (List.mem_map.mpr ⟨other, otherPresent, same⟩)
  obtain ⟨before, after, rfl⟩ := List.append_of_mem present
  unfold DistinctKeys at distinct
  rw [List.map_append, List.map_cons, List.nodup_middle,
    List.nodup_cons, ← List.map_append] at distinct
  have apart := distinct.1
  rw [List.map_append, List.mem_append, not_or] at apart
  rw [List.flatMap_append, List.flatMap_cons, List.countP_append,
    List.countP_append, none before apart.1 (by simp +contextual),
    none after apart.2 (by simp +contextual), Nat.zero_add, Nat.add_zero]

variable [DecidableEq κ]

/-- The first item with the given key. -/
def lookup (key : α -> κ) (items : List α) (wanted : κ) : Option α :=
  items.find? fun item => key item == wanted

theorem lookup_mem
    {items : List α}
    {wanted : κ}
    {item : α}
    (found : lookup key items wanted = some item) :
    item ∈ items :=
  List.mem_of_find?_eq_some found

theorem lookup_key
    {items : List α}
    {wanted : κ}
    {item : α}
    (found : lookup key items wanted = some item) :
    key item = wanted := by
  have tested := List.find?_some found
  simpa using tested

theorem lookup_eq_none_iff
    {items : List α}
    {wanted : κ} :
    lookup key items wanted = none ↔
      ∀ item ∈ items, key item ≠ wanted := by
  simp [lookup]

/-- With distinct keys, searching finds exactly the items present. -/
theorem DistinctKeys.lookup_eq_some_iff
    {items : List α}
    (distinct : DistinctKeys key items)
    {wanted : κ}
    {item : α} :
    lookup key items wanted = some item ↔
      item ∈ items ∧ key item = wanted := by
  constructor
  · intro found
    exact ⟨lookup_mem found, lookup_key found⟩
  · rintro ⟨present, keyed⟩
    cases found : lookup key items wanted with
    | none => exact absurd keyed (lookup_eq_none_iff.mp found item present)
    | some other =>
        rw [distinct.eq_of_key (lookup_mem found) present
          ((lookup_key found).trans keyed.symm)]

/-- Among different items the keys are distinct exactly if each item is the one
that is found under its key. -/
theorem distinctKeys_iff_lookup_self
    {items : List α}
    (nodup : items.Nodup) :
    DistinctKeys key items ↔
      ∀ item ∈ items, lookup key items (key item) = some item := by
  constructor
  · intro distinct item present
    exact distinct.lookup_eq_some_iff.mpr ⟨present, rfl⟩
  · intro found
    apply nodup.map_on
    intro left leftPresent right rightPresent same
    have leftFound := found left leftPresent
    rw [same, found right rightPresent] at leftFound
    exact (Option.some.inj leftFound).symm

/-- Two searchable arrays with the same items under a key agree there. -/
theorem lookup_congr
    {left right : List α}
    {wanted : κ}
    (leftDistinct : DistinctKeys key left)
    (rightDistinct : DistinctKeys key right)
    (agree : ∀ item, key item = wanted -> (item ∈ left ↔ item ∈ right)) :
    lookup key left wanted = lookup key right wanted := by
  apply Option.ext
  intro item
  rw [leftDistinct.lookup_eq_some_iff, rightDistinct.lookup_eq_some_iff]
  constructor
  · rintro ⟨present, keyed⟩
    exact ⟨(agree item keyed).mp present, keyed⟩
  · rintro ⟨present, keyed⟩
    exact ⟨(agree item keyed).mpr present, keyed⟩

/-! ## Assignment under the same key -/

/-- Assigning one position replaces one item. -/
theorem DistinctKeys.mem_set_iff
    {items : List α}
    (distinct : DistinctKeys key items)
    {slot : Nat}
    {old new item : α}
    (present : items[slot]? = some old)
    (sameKey : key new = key old) :
    item ∈ items.set slot new ↔
      item = new ∨ (item ∈ items ∧ key item ≠ key old) := by
  obtain ⟨inside, value⟩ := List.getElem?_eq_some_iff.mp present
  have newPresent : new ∈ items.set slot new :=
    List.mem_set inside new
  constructor
  · intro member
    by_cases keyed : key item = key old
    · left
      exact (distinct.set present sameKey).eq_of_key member newPresent
        (keyed.trans sameKey.symm)
    · rcases List.mem_or_eq_of_mem_set member with before | equal
      · exact Or.inr ⟨before, keyed⟩
      · exact Or.inl equal
  · rintro (rfl | ⟨member, keyed⟩)
    · exact newPresent
    · obtain ⟨position, positionInside, rfl⟩ := List.getElem_of_mem member
      have elsewhere : position ≠ slot := by
        intro equal
        subst equal
        exact keyed (congrArg key value)
      apply List.mem_of_getElem?
      rw [List.getElem?_set_ne elsewhere.symm]
      exact List.getElem?_eq_getElem positionInside

theorem DistinctKeys.lookup_set_self
    {items : List α}
    (distinct : DistinctKeys key items)
    {slot : Nat}
    {old new : α}
    (present : items[slot]? = some old)
    (sameKey : key new = key old) :
    lookup key (items.set slot new) (key old) = some new := by
  rw [(distinct.set present sameKey).lookup_eq_some_iff,
    distinct.mem_set_iff present sameKey]
  exact ⟨Or.inl rfl, sameKey⟩

theorem DistinctKeys.lookup_set_other
    {items : List α}
    (distinct : DistinctKeys key items)
    {slot : Nat}
    {old new : α}
    {wanted : κ}
    (present : items[slot]? = some old)
    (sameKey : key new = key old)
    (different : wanted ≠ key old) :
    lookup key (items.set slot new) wanted = lookup key items wanted := by
  apply lookup_congr (distinct.set present sameKey) distinct
  intro item keyed
  rw [distinct.mem_set_iff present sameKey]
  constructor
  · rintro (rfl | ⟨member, -⟩)
    · exact absurd (keyed.symm.trans sameKey) different
    · exact member
  · intro member
    exact Or.inr ⟨member, fun same => different (keyed.symm.trans same)⟩

/-! ## Appending a new key -/

theorem DistinctKeys.append
    {items : List α}
    (distinct : DistinctKeys key items)
    {new : α}
    (fresh : lookup key items (key new) = none) :
    DistinctKeys key (items ++ [new]) := by
  unfold DistinctKeys
  rw [List.map_append, List.map_singleton, List.nodup_append]
  refine ⟨distinct, List.nodup_singleton _, ?_⟩
  intro left leftPresent right rightPresent equal
  obtain ⟨item, present, rfl⟩ := List.mem_map.mp leftPresent
  rw [List.mem_singleton] at rightPresent
  exact lookup_eq_none_iff.mp fresh item present
    (equal.trans rightPresent)

theorem lookup_append_other
    {items : List α}
    {new : α}
    {wanted : κ}
    (different : wanted ≠ key new) :
    lookup key (items ++ [new]) wanted = lookup key items wanted := by
  have unequal : (key new == wanted) = false := by
    simpa using fun equal => different (Eq.symm equal)
  simp [lookup, List.find?_append, unequal]

/-! ## Erasing a key -/

/-- Drop the first item with the given key. -/
def erase (key : α -> κ) (items : List α) (wanted : κ) : List α :=
  items.eraseP fun item => key item == wanted

theorem DistinctKeys.erase
    {items : List α}
    (distinct : DistinctKeys key items)
    (wanted : κ) :
    DistinctKeys key (erase key items wanted) :=
  List.Nodup.sublist (List.eraseP_sublist.map key) distinct

theorem DistinctKeys.mem_erase_iff
    {items : List α}
    (distinct : DistinctKeys key items)
    {wanted : κ}
    {item : α} :
    item ∈ Library.erase key items wanted ↔
      item ∈ items ∧ key item ≠ wanted := by
  induction items with
  | nil => simp [Library.erase]
  | cons head tail inductionHypothesis =>
      have tailDistinct : DistinctKeys key tail :=
        (List.nodup_cons.mp distinct).2
      have headAbsent : key head ∉ tail.map key :=
        (List.nodup_cons.mp distinct).1
      by_cases keyed : key head = wanted
      · subst keyed
        have erased : Library.erase key (head :: tail) (key head) = tail := by
          simp [Library.erase]
        rw [erased]
        constructor
        · intro member
          refine ⟨List.mem_cons_of_mem head member, ?_⟩
          intro same
          exact headAbsent (List.mem_map.mpr ⟨item, member, same⟩)
        · rintro ⟨member, unequal⟩
          rcases List.mem_cons.mp member with rfl | inTail
          · exact absurd rfl unequal
          · exact inTail
      · have kept : Library.erase key (head :: tail) wanted =
            head :: Library.erase key tail wanted := by
          simp [Library.erase, keyed]
        rw [kept, List.mem_cons, inductionHypothesis tailDistinct,
          List.mem_cons]
        constructor
        · rintro (rfl | ⟨member, unequal⟩)
          · exact ⟨Or.inl rfl, keyed⟩
          · exact ⟨Or.inr member, unequal⟩
        · rintro ⟨rfl | member, unequal⟩
          · exact Or.inl rfl
          · exact Or.inr ⟨member, unequal⟩

theorem DistinctKeys.lookup_erase_self
    {items : List α}
    (distinct : DistinctKeys key items)
    (wanted : κ) :
    lookup key (Library.erase key items wanted) wanted = none := by
  rw [lookup_eq_none_iff]
  intro item member
  exact (distinct.mem_erase_iff.mp member).2

theorem DistinctKeys.lookup_erase_other
    {items : List α}
    (distinct : DistinctKeys key items)
    {erased wanted : κ}
    (different : wanted ≠ erased) :
    lookup key (Library.erase key items erased) wanted =
      lookup key items wanted := by
  apply lookup_congr (distinct.erase erased) distinct
  intro item keyed
  rw [distinct.mem_erase_iff]
  constructor
  · rintro ⟨member, -⟩
    exact member
  · intro member
    exact ⟨member, fun same => different (keyed.symm.trans same)⟩

end Library
