import Kronos.Library.ArraySweep
import Kronos.Library.CellBlock
import Kronos.Server.Ports

/-!
# Arrays of pointers in memory

`array_lifecycle.c` and `array_operations.c`: a block of cells with the number
of those in use.  A push into a full block doubles it; a removal closes the gap
and leaves the cells behind the last pointer as they are.  An operation that
would touch a cell outside of the block has no result here.

`ListArray` is the array without its memory.
-/

namespace Kronos

open Library

/-- `struct KrsArray`: the block at `items`, the number of cells in use and the
number of cells that were asked for.  A cell holds a pointer, `none` for
`NULL`. -/
structure KrsArray (α : Type) where
  items : List (Option α)
  length : UInt32
  capacity : UInt32
  deriving DecidableEq, Repr

/-- What an allocation of cells gives: what is in the new cells, or nothing. -/
abbrev GrantedCells (α : Type) := Option (Nat -> Option α)

namespace KrsArray

variable {α σ : Type}

/-- `krs_array_create`; `allocated` says whether there is memory for the
header. -/
def create
    (initialCapacity : UInt32)
    (allocated : Bool)
    (granted : GrantedCells α) : Option (KrsArray α) :=
  let initialCapacity := if initialCapacity = 0 then 8 else initialCapacity
  if allocated then
    granted.map fun fresh =>
      { items := resized [] fresh initialCapacity.toNat
        length := 0
        capacity := initialCapacity }
  else none

/-- The block of `krs_array_push` after `realloc`. -/
def grow (array : KrsArray α) (fresh : Nat -> Option α) : KrsArray α :=
  let newCapacity := if array.capacity = 0 then 8 else array.capacity * 2
  { array with
    items := resized array.items fresh newCapacity.toNat
    capacity := newCapacity }

/-- `array->items[array->length++] = item`. -/
def append
    (array : KrsArray α)
    (item : Option α) : Option (Option (KrsArray α) × KronosResult) :=
  (storeCell array.items array.length.toNat item).map fun items =>
    (some { array with items := items, length := array.length + 1 }, .suc)

/-- `krs_array_push`. -/
def push
    (array : Option (KrsArray α))
    (item : Option α)
    (granted : GrantedCells α) :
    Option (Option (KrsArray α) × KronosResult) :=
  match array with
  | none => some (none, .wMsg .nullPointer "array is NULL")
  | some array =>
      if array.length ≥ array.capacity then
        match granted with
        | none =>
            some (some array, .wMsg .memoryAllocation "Failed to grow array")
        | some fresh => (array.grow fresh).append item
      else array.append item

/-- `krs_array_get`. -/
def get (array : Option (KrsArray α)) (index : UInt32) : Option (Option α) :=
  match array with
  | none => some none
  | some array =>
      if index ≥ array.length then some none
      else array.items[index.toNat]?

/-- `krs_array_pop`. -/
def pop (array : Option (KrsArray α)) :
    Option (Option (KrsArray α) × Option α) :=
  match array with
  | none => some (none, none)
  | some array =>
      if array.length = 0 then some (some array, none)
      else
        array.items[(array.length - 1).toNat]?.map fun item =>
          (some { array with length := array.length - 1 }, item)

/-- `krs_array_set`. -/
def set
    (array : Option (KrsArray α))
    (index : UInt32)
    (item : Option α) : Option (Option (KrsArray α) × KronosResult) :=
  match array with
  | none => some (none, .wMsg .nullPointer "array is NULL")
  | some array =>
      if index ≥ array.length then
        some (some array, .wMsg .invalidParameter "index out of bounds")
      else
        (storeCell array.items index.toNat item).map fun items =>
          (some { array with items := items }, .suc)

/-- `krs_array_remove`. -/
def remove (array : Option (KrsArray α)) (index : UInt32) :
    Option (Option (KrsArray α) × KronosResult) :=
  match array with
  | none => some (none, .wMsg .nullPointer "array is NULL")
  | some array =>
      if index ≥ array.length then
        some (some array, .wMsg .invalidParameter "index out of bounds")
      else
        (closeGap ((array.length - 1).toNat - index.toNat) index.toNat
            array.items).map fun items =>
          (some { array with items := items, length := array.length - 1 },
            .suc)

/-- `krs_array_length`. -/
def lengthOf (array : Option (KrsArray α)) : UInt32 :=
  match array with
  | none => 0
  | some array => array.length

/-- `krs_array_is_empty`. -/
def isEmpty (array : Option (KrsArray α)) : Bool :=
  match array with
  | none => true
  | some array => array.length == 0

/-- `krs_array_clear`. -/
def clear (array : Option (KrsArray α)) : Option (KrsArray α) :=
  array.map fun array => { array with length := 0 }

/-- `krs_array_destroy_items`: the items that the destructor is called on. -/
def destroyItems (array : Option (KrsArray α)) : Option (List α) :=
  match array with
  | none => some []
  | some array =>
      ((List.range array.length.toNat).mapM fun index =>
        array.items[index]?).map (List.filterMap id)

/-- The loop in which the library deletes from an array, `while (i > 0)`: it
looks at the pointers from the last one to the first, passes over those that are
`NULL`, and removes those of which the body says so. -/
def sweepBelow (visit : σ -> α -> σ × Bool) :
    Nat -> σ -> Option (KrsArray α) -> Option (σ × Option (KrsArray α))
  | 0, state, array => some (state, array)
  | index + 1, state, array =>
      (get array (UInt32.ofNat index)).bind fun pointer =>
        match pointer with
        | none => sweepBelow visit index state array
        | some item =>
            if (visit state item).2 then
              (remove array (UInt32.ofNat index)).bind fun removed =>
                sweepBelow visit index (visit state item).1 removed.1
            else sweepBelow visit index (visit state item).1 array

/-- The loop over a whole array. -/
def sweep
    (visit : σ -> α -> σ × Bool)
    (state : σ)
    (array : Option (KrsArray α)) : Option (σ × Option (KrsArray α)) :=
  sweepBelow visit (lengthOf array).toNat state array

end KrsArray

/-- A call on an array; `sweep` is a deleting loop. -/
inductive ArrayCall (α σ : Type)
  | push (item : Option α) (granted : GrantedCells α)
  | get (index : UInt32)
  | pop
  | set (index : UInt32) (item : Option α)
  | remove (index : UInt32)
  | length
  | isEmpty
  | clear
  | sweep (visit : σ -> α -> σ × Bool) (state : σ)
  | destroyItems

/-- The call is a push. -/
def ArrayCall.isPush : ArrayCall α σ -> Bool
  | .push _ _ => true
  | _ => false

/-- What a call returns, or what it did besides. -/
inductive ArrayReply (α σ : Type)
  | result (result : KronosResult)
  | pointer (item : Option α)
  | length (length : Nat)
  | isEmpty (empty : Bool)
  | nothing
  | swept (state : σ)
  | destroyed (items : List α)
  deriving DecidableEq, Repr

/-- A call on an array in memory. -/
def krsArrayStep (array : Option (KrsArray α)) :
    ArrayCall α σ -> Option (Option (KrsArray α) × ArrayReply α σ)
  | .push item granted =>
      (KrsArray.push array item granted).map (Prod.map id .result)
  | .get index =>
      (KrsArray.get array index).map fun item => (array, .pointer item)
  | .pop => (KrsArray.pop array).map (Prod.map id .pointer)
  | .set index item =>
      (KrsArray.set array index item).map (Prod.map id .result)
  | .remove index =>
      (KrsArray.remove array index).map (Prod.map id .result)
  | .length => some (array, .length (KrsArray.lengthOf array).toNat)
  | .isEmpty => some (array, .isEmpty (KrsArray.isEmpty array))
  | .clear => some (KrsArray.clear array, .nothing)
  | .sweep visit state =>
      (KrsArray.sweep visit state array).map fun swept =>
        (swept.2, .swept swept.1)
  | .destroyItems =>
      (KrsArray.destroyItems array).map fun items => (none, .destroyed items)

/-! ## The array as a list -/

/-- The visits of a deleting loop, on pointers that may be `NULL`. -/
def visitPointer
    (visit : σ -> α -> σ × Bool)
    (state : σ)
    (pointer : Option α) : σ × Option (Option α) :=
  match pointer with
  | none => (state, some none)
  | some item =>
      ((visit state item).1,
        if (visit state item).2 then none else some (some item))

/-- What a call finds when it needs an index inside of the list. -/
def indexReply (items : List α) (index : UInt32) : KronosResult :=
  if index.toNat < items.length then .suc
  else .wMsg .invalidParameter "index out of bounds"

/-- A call on the list of an array. -/
def listCall (list : PointerArray (Option α)) :
    ArrayCall α σ -> Option (PointerArray (Option α)) × ArrayReply α σ
  | .push item granted =>
      match krsArrayPush list item [granted.isSome] with
      | some pushed => (some pushed, .result .suc)
      | none =>
          (some list,
            .result (.wMsg .memoryAllocation "Failed to grow array"))
  | .get index => (some list, .pointer list.items[index.toNat]?.join)
  | .pop =>
      (some { list with items := list.items.dropLast },
        .pointer list.items.getLast?.join)
  | .set index item =>
      (some { list with items := list.items.set index.toNat item },
        .result (indexReply list.items index))
  | .remove index =>
      (some { list with items := list.items.eraseIdx index.toNat },
        .result (indexReply list.items index))
  | .length => (some list, .length list.items.length)
  | .isEmpty => (some list, .isEmpty list.items.isEmpty)
  | .clear => (some { list with items := [] }, .nothing)
  | .sweep visit state =>
      let swept := sweep (visitPointer visit) state list.items
      (some { list with items := swept.2 }, .swept swept.1)
  | .destroyItems => (none, .destroyed (list.items.filterMap id))

/-- A call on `NULL`. -/
def nullCall : ArrayCall α σ -> ArrayReply α σ
  | .push _ _ | .set _ _ | .remove _ =>
      .result (.wMsg .nullPointer "array is NULL")
  | .get _ | .pop => .pointer none
  | .length => .length 0
  | .isEmpty => .isEmpty true
  | .clear => .nothing
  | .sweep _ state => .swept state
  | .destroyItems => .destroyed []

/-- A call on an array without its memory. -/
def listStep
    (list : Option (PointerArray (Option α)))
    (call : ArrayCall α σ) :
    Option (PointerArray (Option α)) × ArrayReply α σ :=
  match list with
  | none => (none, nullCall call)
  | some list => listCall list call

end Kronos
