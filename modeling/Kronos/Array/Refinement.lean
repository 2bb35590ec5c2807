import Kronos.Array.Operations
import Kronos.Library.Transition
import Kronos.Server.Retransmit

/-!
# Arrays refine lists

In every run of calls on an array, deleting loops included, no call touches a
cell outside of the block, and the calls return what they return on a list.  A
push whose growth is refused changes nothing.  This needs a bound on the pushes:
a full block of `2 ^ 31` cells cannot be doubled.
-/

namespace Kronos

open Library

/-- The array has the pointers of the list in the first cells of its block. -/
structure Stands
    (array : KrsArray α)
    (list : PointerArray (Option α)) : Prop where
  held : list.items <+: array.items
  counted : array.length.toNat = list.items.length
  sized : array.items.length = array.capacity.toNat
  capacity : array.capacity.toNat = list.capacity

/-- A call on an array did what it does on a list. -/
def FollowsList
    (taken : Option (Option (KrsArray α) × ω))
    (expected : Option (PointerArray (Option α)) × ω) : Prop :=
  ∃ after, taken = some (after, expected.2) ∧
    Option.Rel Stands after expected.1

variable {α σ : Type}

theorem FollowsList.map
    {taken : Option (Option (KrsArray α) × ω)}
    {expected : Option (PointerArray (Option α)) × ω}
    (follows : FollowsList taken expected)
    (reply : ω -> υ) :
    FollowsList (taken.map (Prod.map id reply))
      (Prod.map id reply expected) := by
  obtain ⟨after, rfl, stands⟩ := follows
  exact ⟨after, rfl, stands⟩

variable {array : KrsArray α} {list : PointerArray (Option α)}

section Calls

variable (stands : Stands array list)

include stands

theorem Stands.fits : list.items.length ≤ list.capacity := by
  rw [← stands.capacity, ← stands.sized]
  exact stands.held.length_le

/-- The array is full when the list is. -/
theorem Stands.full_iff :
    array.length ≥ array.capacity ↔
      list.items.length ≥ list.capacity := by
  rw [ge_iff_le, UInt32.le_iff_toNat_le, stands.counted, stands.capacity]

theorem Stands.outside_iff (index : UInt32) :
    index ≥ array.length ↔ ¬index.toNat < list.items.length := by
  rw [ge_iff_le, UInt32.le_iff_toNat_le, stands.counted, Nat.not_lt]

theorem Stands.empty_iff : array.length = 0 ↔ list.items = [] := by
  rw [← UInt32.toNat_inj, stands.counted]
  exact List.length_eq_zero_iff

/-- The length of an array that loses a pointer. -/
theorem Stands.pred (nonempty : 0 < list.items.length) :
    (array.length - 1).toNat = list.items.length - 1 := by
  rw [UInt32.toNat_sub_of_le _ _ (by
    rw [UInt32.le_iff_toNat_le, stands.counted]
    exact nonempty), stands.counted]
  rfl

/-- A pointer is written behind the last one. -/
theorem Stands.append
    (room : list.items.length < list.capacity)
    (item : Option α) :
    FollowsList (array.append item)
      (some { list with items := list.items ++ [item] }, .suc) := by
  obtain ⟨cells, stored, held, sameLength⟩ := storeCell_behind stands.held
    (by rw [stands.sized, stands.capacity]; exact room) item
  have bounded := array.capacity.toNat_lt
  rw [KrsArray.append, stands.counted, stored]
  refine ⟨_, rfl, .some ⟨held, ?_, sameLength.trans stands.sized,
    stands.capacity⟩⟩
  have short : list.items.length + 1 < 2 ^ 32 := by
    rw [stands.capacity] at bounded
    omega
  rw [UInt32.toNat_add, stands.counted, List.length_append]
  exact Nat.mod_eq_of_lt short

/-- A full block that is not too long is doubled. -/
theorem Stands.grow
    (full : list.items.length ≥ list.capacity)
    (short : list.items.length < 2 ^ 31)
    (fresh : Nat -> Option α) :
    Stands (array.grow fresh)
      { list with
        capacity := if list.capacity = 0 then 8 else list.capacity * 2 } := by
  have zero : array.capacity = 0 ↔ list.capacity = 0 := by
    rw [← UInt32.toNat_inj, stands.capacity]
    rfl
  have doubled : (array.grow fresh).capacity.toNat =
      if list.capacity = 0 then 8 else list.capacity * 2 := by
    change (if array.capacity = 0 then (8 : UInt32)
      else array.capacity * 2).toNat = _
    by_cases none : list.capacity = 0
    · rw [if_pos (zero.mpr none), if_pos none]
      rfl
    · rw [if_neg (mt zero.mp none), if_neg none, UInt32.toNat_mul,
        stands.capacity]
      exact Nat.mod_eq_of_lt (by change list.capacity * 2 < 2 ^ 32; omega)
  refine ⟨resized_holds stands.held ?_ fresh, stands.counted,
    length_resized _ _ _, doubled⟩
  have fits := stands.fits
  change list.items.length ≤ (array.grow fresh).capacity.toNat
  rw [doubled]
  split <;> omega

/-- A push does what it does on the list; where the growth is refused, the array
stays as it is. -/
theorem Stands.push
    (short : list.items.length < 2 ^ 31)
    (item : Option α)
    (granted : GrantedCells α) :
    FollowsList (krsArrayStep (σ := σ) (some array) (.push item granted))
      (listCall list (.push item granted)) := by
  rw [krsArrayStep, KrsArray.push.eq_def, listCall, krsArrayPush]
  dsimp only
  by_cases full : list.items.length ≥ list.capacity
  · rw [if_pos (stands.full_iff.mpr full), if_pos full]
    cases granted with
    | none => exact ⟨some array, rfl, .some stands⟩
    | some fresh =>
        have grown := stands.grow full short fresh
        refine FollowsList.map (grown.append ?_ item) ArrayReply.result
        have fits := stands.fits
        dsimp only
        split <;> omega
  · rw [if_neg (mt stands.full_iff.mp full), if_neg full]
    exact FollowsList.map (stands.append (Nat.lt_of_not_le full) item)
      ArrayReply.result

/-- Reading a pointer of the list, or `NULL` outside of it. -/
theorem Stands.get (index : UInt32) :
    KrsArray.get (some array) index =
      some list.items[index.toNat]?.join := by
  rw [KrsArray.get]
  by_cases inside : index.toNat < list.items.length
  · rw [if_neg (not_not.mpr inside ∘ (stands.outside_iff index).mp),
      getElem?_of_leading stands.held inside,
      List.getElem?_eq_getElem inside]
    rfl
  · rw [if_pos ((stands.outside_iff index).mpr inside),
      List.getElem?_eq_none (Nat.le_of_not_lt inside)]
    rfl

/-- The array behind the last pointer may hold anything. -/
theorem Stands.shorten
    {items : List (Option α)}
    {length : UInt32}
    (front : items <+: list.items)
    (counted : length.toNat = items.length) :
    Stands { array with length := length } { list with items := items } :=
  ⟨front.trans stands.held, counted, stands.sized, stands.capacity⟩

theorem Stands.pop :
    FollowsList (krsArrayStep (σ := σ) (some array) .pop)
      (listCall list .pop) := by
  rw [krsArrayStep, KrsArray.pop, listCall]
  by_cases empty : array.length = 0
  · rw [if_pos empty, (stands.empty_iff.mp empty)]
    refine ⟨some array, rfl, .some ?_⟩
    rw [List.dropLast_nil, ← stands.empty_iff.mp empty]
    exact stands
  · have nonempty : 0 < list.items.length :=
      List.length_pos_iff.mpr (mt stands.empty_iff.mpr empty)
    have last := stands.pred nonempty
    rw [if_neg empty, last,
      getElem?_of_leading stands.held (Nat.sub_one_lt nonempty.ne'),
      ← List.getLast?_eq_getElem?,
      List.getLast?_eq_some_getLast (List.length_pos_iff.mp nonempty)]
    exact ⟨_, rfl, .some (stands.shorten (List.dropLast_prefix _)
      (last.trans (List.length_dropLast).symm))⟩

theorem Stands.set
    (index : UInt32)
    (item : Option α) :
    FollowsList (krsArrayStep (σ := σ) (some array) (.set index item))
      (listCall list (.set index item)) := by
  rw [krsArrayStep, KrsArray.set, listCall, indexReply]
  by_cases inside : index.toNat < list.items.length
  · obtain ⟨cells, stored, held, sameLength⟩ :=
      storeCell_inside stands.held inside item
    rw [if_neg (not_not.mpr inside ∘ (stands.outside_iff index).mp), stored,
      if_pos inside]
    exact ⟨_, rfl, .some ⟨held, stands.counted.trans List.length_set.symm,
      sameLength.trans stands.sized, stands.capacity⟩⟩
  · rw [if_pos ((stands.outside_iff index).mpr inside), if_neg inside,
      List.set_eq_of_length_le (Nat.le_of_not_lt inside)]
    exact ⟨some array, rfl, .some stands⟩

/-- A removal closes the gap. -/
theorem Stands.remove (index : UInt32) :
    FollowsList (KrsArray.remove (some array) index)
      (some { list with items := list.items.eraseIdx index.toNat },
        indexReply list.items index) := by
  rw [KrsArray.remove, indexReply]
  by_cases inside : index.toNat < list.items.length
  · have last := stands.pred (Nat.zero_lt_of_lt inside)
    obtain ⟨cells, closed, held, sameLength⟩ :=
      closeGap_erases stands.held inside
    rw [if_neg (not_not.mpr inside ∘ (stands.outside_iff index).mp), last,
      closed, if_pos inside]
    exact ⟨_, rfl, .some ⟨held,
      last.trans (List.length_eraseIdx_of_lt inside).symm,
      sameLength.trans stands.sized, stands.capacity⟩⟩
  · rw [if_pos ((stands.outside_iff index).mpr inside), if_neg inside,
      List.eraseIdx_of_length_le (Nat.le_of_not_lt inside)]
    exact ⟨some array, rfl, .some stands⟩

/-- The pointers that a destructor is called on. -/
theorem Stands.destroyItems :
    KrsArray.destroyItems (some array) =
      some (list.items.filterMap id) := by
  rw [KrsArray.destroyItems, stands.counted,
    mapM_getElem?_of_leading stands.held]
  rfl

end Calls

/-! ## Deleting loops -/

/-- A deleting loop visits what it visits on the list. -/
theorem Stands.sweepBelow
    (visit : σ -> α -> σ × Bool)
    {index : Nat}
    (state : σ)
    (stands : Stands array list)
    (below : index ≤ list.items.length) :
    ∃ after, KrsArray.sweepBelow visit index state (some array) =
        some ((sweepFrom (visitPointer visit) index state list.items).1,
          some after) ∧
      Stands after { list with
        items := (sweepFrom (visitPointer visit) index state
          list.items).2 } := by
  induction index generalizing state array list with
  | zero => exact ⟨array, rfl, stands⟩
  | succ index inductionHypothesis =>
      have inside : index < list.items.length := below
      have named : (UInt32.ofNat index).toNat = index :=
        Nat.mod_eq_of_lt (inside.trans
          (stands.counted ▸ array.length.toNat_lt))
      have read := stands.get (UInt32.ofNat index)
      rw [named, List.getElem?_eq_getElem inside] at read
      rw [KrsArray.sweepBelow, read, Option.bind_some, sweepFrom,
        List.getElem?_eq_getElem inside]
      cases pointer : list.items[index] with
      | none =>
          have same : list.items.set index none = list.items := by
            rw [← pointer, List.set_getElem_self]
          simp only [Option.join_some, visitPointer, same]
          exact inductionHypothesis state stands inside.le
      | some item =>
          simp only [Option.join_some, visitPointer]
          by_cases leaves : (visit state item).2 = true
          · obtain ⟨-, removed, @⟨after, -, standsAfter⟩⟩ :=
              stands.remove (UInt32.ofNat index)
            rw [named] at standsAfter
            simp only [if_pos leaves, removed, Option.bind_some]
            exact inductionHypothesis _ standsAfter (by
              rw [List.length_eraseIdx_of_lt inside]
              exact Nat.le_sub_one_of_lt inside)
          · have same : list.items.set index (some item) = list.items := by
              rw [← pointer, List.set_getElem_self]
            simp only [if_neg leaves, same]
            exact inductionHypothesis _ stands inside.le

/-- A deleting loop over a whole array. -/
theorem Stands.sweep
    (stands : Stands array list)
    (visit : σ -> α -> σ × Bool)
    (state : σ) :
    FollowsList (krsArrayStep (some array) (.sweep visit state))
      (listCall list (.sweep visit state)) := by
  obtain ⟨after, swept, standsAfter⟩ :=
    stands.sweepBelow visit state (Nat.le_refl _)
  rw [krsArrayStep, KrsArray.sweep, KrsArray.lengthOf, stands.counted, swept]
  exact ⟨_, rfl, .some standsAfter⟩

/-- Over pointers that are not `NULL`, the loop is the sweep that threads its
state through the items and keeps some of them. -/
theorem sweep_visitPointer
    {visit : σ -> α -> σ × Option α}
    (keeps : ∀ state item, (visit state item).2 = none ∨
      (visit state item).2 = some item)
    (state : σ)
    (items : List α) :
    Library.sweep (visitPointer fun state item =>
        ((visit state item).1, (visit state item).2.isNone)) state
        (items.map some) =
      ((Library.sweep visit state items).1,
        (Library.sweep visit state items).2.map some) := by
  rw [sweep_eq_sweepRight, sweep_eq_sweepRight]
  induction items with
  | nil => rfl
  | cons item items inductionHypothesis =>
      rw [List.map_cons, sweepRight_cons, sweepRight_cons,
        inductionHypothesis, List.map_append, visitPointer]
      rcases keeps (sweepRight visit state items).1 item with leaves | stays
      · rw [leaves]
        rfl
      · rw [stays]
        rfl

/-- A deleting loop over an array without `NULL` is the sweep over its items. -/
theorem Stands.sweepItems
    (stands : Stands array list)
    {items : List α}
    (plain : list.items = items.map some)
    {visit : σ -> α -> σ × Option α}
    (keeps : ∀ state item, (visit state item).2 = none ∨
      (visit state item).2 = some item)
    (state : σ) :
    ∃ after, KrsArray.sweep (fun state item =>
        ((visit state item).1, (visit state item).2.isNone)) state
        (some array) =
          some ((Library.sweep visit state items).1, some after) ∧
      Stands after { list with
        items := (Library.sweep visit state items).2.map some } := by
  obtain ⟨after, swept, standsAfter⟩ := stands.sweepBelow
    (fun state item => ((visit state item).1, (visit state item).2.isNone))
    state (Nat.le_refl _)
  have same := sweep_visitPointer keeps state items
  rw [Library.sweep, List.length_map] at same
  rw [plain, List.length_map, same] at swept
  rw [plain, List.length_map, same] at standsAfter
  refine ⟨after, ?_, standsAfter⟩
  rw [KrsArray.sweep, KrsArray.lengthOf, stands.counted, plain,
    List.length_map, swept]

theorem disconnectVisit_keeps
    (spm : ServerPortManager)
    (remoteAddr : PortAddress)
    (orphans : List ConnectionRef)
    (connection : ConnectionRef) :
    (disconnectVisit spm remoteAddr orphans connection).2 = none ∨
      (disconnectVisit spm remoteAddr orphans connection).2 =
        some connection := by
  unfold disconnectVisit
  split_ifs
  · exact .inr rfl
  · exact .inl rfl
  · exact .inl rfl

theorem evictVisit_keeps
    (spm : ServerPortManager)
    (now : UInt64)
    (orphanCapacity : Nat)
    (orphans : List ConnectionRef)
    (connection : ConnectionRef) :
    (evictVisit spm now orphanCapacity orphans connection).2 = none ∨
      (evictVisit spm now orphanCapacity orphans connection).2 =
        some connection := by
  unfold evictVisit
  split_ifs
  · exact .inl rfl
  · exact .inl rfl
  · exact .inr rfl

/-- The deleting loops of `s_dispatch_disconnect` and of
`s_evict_stale_connections`, over the array of a channel: they find the orphans
of the sweep over its connections, and leave the others in order. -/
theorem channel_sweeps_in_memory
    {conns : List ConnectionRef}
    {array : KrsArray ConnectionRef}
    {list : PointerArray (Option ConnectionRef)}
    (stands : Stands array list)
    (plain : list.items = conns.map some)
    (spm : ServerPortManager)
    {visit : List ConnectionRef -> ConnectionRef ->
      List ConnectionRef × Option ConnectionRef}
    (removes : (∃ remoteAddr, visit = disconnectVisit spm remoteAddr) ∨
      ∃ now orphanCapacity, visit = evictVisit spm now orphanCapacity)
    (orphans : List ConnectionRef) :
    ∃ after, KrsArray.sweep (fun state item =>
        ((visit state item).1, (visit state item).2.isNone)) orphans
        (some array) =
          some ((sweep visit orphans conns).1, some after) ∧
      Stands after { list with
        items := (sweep visit orphans conns).2.map some } := by
  refine stands.sweepItems plain ?_ orphans
  rcases removes with ⟨remoteAddr, rfl⟩ | ⟨now, orphanCapacity, rfl⟩
  · exact disconnectVisit_keeps spm remoteAddr
  · exact evictVisit_keeps spm now orphanCapacity

/-! ## Runs -/

/-- A call on an array does what it does on a list. -/
theorem Stands.call
    (stands : Stands array list)
    (call : ArrayCall α σ)
    (short : call.isPush = true -> list.items.length < 2 ^ 31) :
    FollowsList (krsArrayStep (some array) call) (listCall list call) := by
  cases call with
  | push item granted => exact stands.push (short rfl) item granted
  | get index =>
      rw [krsArrayStep, stands.get]
      exact ⟨_, rfl, .some stands⟩
  | pop => exact stands.pop
  | set index item => exact stands.set index item
  | remove index => exact (stands.remove index).map ArrayReply.result
  | length => exact ⟨some array, congrArg (fun length =>
      some (some array, ArrayReply.length length)) stands.counted,
      .some stands⟩
  | isEmpty =>
      have same : (array.length == 0) = list.items.isEmpty := by
        rw [Bool.eq_iff_iff, beq_iff_eq, List.isEmpty_iff, stands.empty_iff]
      exact ⟨some array, congrArg (fun empty =>
        some (some array, ArrayReply.isEmpty empty)) same, .some stands⟩
  | clear =>
      exact ⟨_, rfl, .some (stands.shorten (List.nil_prefix) rfl)⟩
  | sweep visit state => exact stands.sweep visit state
  | destroyItems =>
      rw [krsArrayStep, stands.destroyItems]
      exact ⟨none, rfl, .none⟩

/-- The list that an array begins with. -/
def createdList
    (initialCapacity : UInt32)
    (allocated : Bool)
    (granted : GrantedCells α) : Option (PointerArray (Option α)) :=
  if allocated && granted.isSome then
    some (krsArrayCreate initialCapacity.toNat)
  else none

theorem create_stands
    (initialCapacity : UInt32)
    (allocated : Bool)
    (granted : GrantedCells α) :
    Option.Rel Stands (KrsArray.create initialCapacity allocated granted)
      (createdList initialCapacity allocated granted) := by
  cases allocated with
  | false => exact .none
  | true =>
      cases granted with
      | none => exact .none
      | some fresh =>
          refine .some ⟨List.nil_prefix, rfl, length_resized _ _ _, ?_⟩
          change (if initialCapacity = 0 then (8 : UInt32)
              else initialCapacity).toNat =
            if initialCapacity.toNat = 0 then 8 else initialCapacity.toNat
          simp only [← UInt32.toNat_inj, UInt32.toNat_zero]
          split <;> rfl

theorem items_of_krsArrayPush
    {list after : PointerArray α}
    {item : α}
    {allocations : Allocations}
    (pushed : krsArrayPush list item allocations = some after) :
    after.items = list.items ++ [item] := by
  unfold krsArrayPush at pushed
  split_ifs at pushed <;> cases pushed <;> rfl

/-- The number of pointers of an array that may be `NULL`. -/
def listLength (list : Option (PointerArray (Option α))) : Nat :=
  (list.map fun list => list.items.length).getD 0

/-- Only a push makes a list longer, by one pointer. -/
theorem listLength_listStep
    (list : Option (PointerArray (Option α)))
    (call : ArrayCall α σ) :
    listLength (listStep list call).1 ≤
      listLength list + if call.isPush then 1 else 0 := by
  cases list with
  | none => exact Nat.zero_le _
  | some list =>
      cases call with
      | push item granted =>
          rw [listStep, listCall]
          cases pushed : krsArrayPush list item [granted.isSome] with
          | none => exact Nat.le_succ _
          | some after =>
              change after.items.length ≤ list.items.length + 1
              rw [items_of_krsArrayPush pushed, List.length_append]
              exact Nat.le_refl _
      | pop => exact (List.length_dropLast ▸ Nat.sub_le _ _ :)
      | set index item => exact List.length_set.le
      | remove index => exact List.length_eraseIdx_le _ _
      | sweep visit state => exact length_sweep_le _ _ _
      | clear | destroyItems => exact Nat.zero_le _
      | get | length | isEmpty => exact Nat.le_refl _

theorem krsArrayStep_follows
    {array : Option (KrsArray α)}
    {list : Option (PointerArray (Option α))}
    (stands : Option.Rel Stands array list)
    (call : ArrayCall α σ)
    (short : call.isPush = true -> listLength list < 2 ^ 31) :
    FollowsList (krsArrayStep array call) (listStep list call) := by
  cases stands with
  | none =>
      cases call with
      | sweep visit state => exact ⟨none, rfl, .none⟩
      | _ => exact ⟨none, rfl, .none⟩
  | some stands => exact stands.call call short

/-- A run of calls, from an array with some pointers. -/
theorem runOutputs_follows
    {array : Option (KrsArray α)}
    {list : Option (PointerArray (Option α))}
    (stands : Option.Rel Stands array list)
    (calls : List (ArrayCall α σ))
    (short : listLength list + calls.countP ArrayCall.isPush ≤ 2 ^ 31) :
    ∃ after, runOutputs krsArrayStep array calls =
        some (after, (runTotal listStep list calls).2) ∧
      Option.Rel Stands after (runTotal listStep list calls).1 := by
  induction calls generalizing array list with
  | nil => exact ⟨array, rfl, stands⟩
  | cons call calls inductionHypothesis =>
      rw [List.countP_cons] at short
      obtain ⟨next, taken, standsNext⟩ := krsArrayStep_follows stands call
        (fun isPush => by rw [if_pos isPush] at short; omega)
      have grown := listLength_listStep list call
      obtain ⟨after, ran, standsAfter⟩ := inductionHypothesis standsNext
        (by omega)
      exact ⟨after, runOutputs_cons taken ran, standsAfter⟩

/-- In every run of calls on an array, with every outcome of the allocations and
whatever is in the cells they give, at most `2 ^ 31` calls being pushes, no call
touches a cell outside of the block, the replies are those of the list, and the
array stands for the list at the end. -/
theorem array_run_refines_list
    (initialCapacity : UInt32)
    (allocated : Bool)
    (granted : GrantedCells α)
    (calls : List (ArrayCall α σ))
    (short : calls.countP ArrayCall.isPush ≤ 2 ^ 31) :
    let listed := runTotal listStep
      (createdList initialCapacity allocated granted) calls
    ∃ array, runOutputs krsArrayStep
        (KrsArray.create initialCapacity allocated granted) calls =
          some (array, listed.2) ∧
      Option.Rel Stands array listed.1 := by
  refine runOutputs_follows
    (create_stands initialCapacity allocated granted) calls ?_
  have empty : listLength (createdList initialCapacity allocated granted) =
      0 := by
    rw [createdList]
    split <;> rfl
  rw [empty, Nat.zero_add]
  exact short

/-- Calls on a block of one cell: the second push finds no memory to grow, and
the loop removes the even pointers. -/
def sampleArrayCalls : List (ArrayCall Nat Nat) :=
  [.push (some 5) none, .push (some 6) none,
    .push (some 8) (some fun _ => none),
    .push none (some fun _ => some 9), .pop, .set 1 (some 7), .get 2,
    .remove 0, .push (some 4) none,
    .sweep (fun found item => (found + item, item % 2 = 0)) 0, .length]

/-- What these calls return, and what the array holds after them. -/
theorem sample_array_run :
    ∃ array, runOutputs krsArrayStep
        (KrsArray.create 1 true (some fun _ => some 0)) sampleArrayCalls =
          some (array,
            [.result .suc,
              .result (.wMsg .memoryAllocation "Failed to grow array"),
              .result .suc, .result .suc, .pointer none, .result .suc,
              .pointer none, .result .suc, .result .suc, .swept 11,
              .length 1]) ∧
      Option.Rel Stands array
        (some { items := [some 7], capacity := 4 }) :=
  array_run_refines_list 1 true (some fun _ => some 0) sampleArrayCalls
    (by decide)

/-- A full block of `2 ^ 31` cells: the doubled size is zero, and the pointer is
written outside of the block. -/
theorem push_past_limit
    {array : KrsArray α}
    (capacity : array.capacity = 2147483648)
    (full : array.length = 2147483648)
    (item : Option α)
    (fresh : Nat -> Option α) :
    KrsArray.push (some array) item (some fresh) = none := by
  have empty : (array.grow fresh).items = [] := by
    rw [KrsArray.grow, capacity]
    rfl
  rw [KrsArray.push, capacity, full, if_pos (UInt32.le_refl _),
    KrsArray.append, empty, storeCell_outside (Nat.zero_le _)]
  rfl

end Kronos
