import Kronos.Library.Chaining

/-!
# The port table

`port_table_*.c`: a chained hash table from ports to socket handlers.  When the
table gets too full it is rebuilt with the next prime size, and every link is
allocated anew.

Each function takes the outcomes of its allocations, and hands on those that it
has not used; where there are none left, allocations succeed.
-/

namespace Kronos

open Library

variable {η : Type}

/-- The outcomes of the allocations to come. -/
abbrev Allocations := List Bool

/-- The outcome of the next allocation, and the others. -/
def nextAllocation : Allocations -> Bool × Allocations
  | [] => (true, [])
  | allocated :: allocations => (allocated, allocations)

/-- `PortLink_t`. -/
structure PortLink (η : Type) where
  port : UInt16
  socketHandler : η
  deriving DecidableEq, Repr

/-- `PortTable_t`: the chains, `table_size` of them, the index of that size
among the prime sizes, and the number of entries. -/
structure PortTable (η : Type) where
  table : List (List (PortLink η))
  primeSizeIndex : Nat
  totalEntries : Nat
  deriving DecidableEq, Repr

/-- `PRIME_SIZES`. -/
def primeSizes : List Nat :=
  [17, 31, 67, 131, 257, 521, 1031, 2053, 4099, 8209, 16411, 32771, 65537]

/-- `hash_port_index`, in 32-bit arithmetic. -/
def hashPortIndex (port : UInt16) (size : Nat) : Nat :=
  (port.toUInt32 * 2654435761).toNat % size

/-- `krs_lib_port_table_create` when its allocations succeed. -/
def krsLibPortTableCreate : PortTable η :=
  { table := List.replicate 17 []
    primeSizeIndex := 0
    totalEntries := 0 }

/-- `port_table_insert`, with the outcome of its allocation. -/
def portTableInsert
    (portTable : PortTable η)
    (link : PortLink η)
    (allocated : Bool) : PortTable η × Bool :=
  if !allocated then (portTable, false)
  else
    match chainInsert PortLink.port hashPortIndex portTable.table link with
    | none => (portTable, false)
    | some chains =>
        ({ portTable with
            table := chains
            totalEntries := portTable.totalEntries + 1 },
          true)

/-- The loop of `port_table_rebuild` over the links of the old table. -/
def portTableReinsert :
    PortTable η -> List (PortLink η) -> Allocations ->
      PortTable η × Allocations
  | portTable, [], allocations => (portTable, allocations)
  | portTable, link :: links, allocations =>
      let next := nextAllocation allocations
      portTableReinsert (portTableInsert portTable link next.1).1 links next.2

/-- `port_table_rebuild`. -/
def portTableRebuild (portTable : PortTable η) (allocations : Allocations) :
    PortTable η × Allocations :=
  match primeSizes[portTable.primeSizeIndex + 1]? with
  | none => (portTable, allocations)
  | some newTableSize =>
      let next := nextAllocation allocations
      if !next.1 then (portTable, next.2)
      else
        portTableReinsert
          { table := List.replicate newTableSize []
            primeSizeIndex := portTable.primeSizeIndex + 1
            totalEntries := 0 }
          portTable.table.flatten next.2

/-- The load factor is above `MAX_LOAD_FACTOR`, which is one and a half. -/
def PortTable.overloaded (portTable : PortTable η) : Bool :=
  2 * portTable.totalEntries > 3 * portTable.table.length

/-- `krs_lib_port_table_insert`. -/
def krsLibPortTableInsert
    (portTable : PortTable η)
    (port : UInt16)
    (socketHandler : η)
    (allocations : Allocations) : PortTable η × Allocations :=
  let link := { port := port, socketHandler := socketHandler }
  let ready :=
    if portTable.overloaded then portTableRebuild portTable allocations
    else (portTable, allocations)
  let next := nextAllocation ready.2
  ((portTableInsert ready.1 link next.1).1, next.2)

/-- `krs_lib_port_table_lookup`. -/
def krsLibPortTableLookup (portTable : PortTable η) (port : UInt16) :
    Option η :=
  (chainLookup PortLink.port hashPortIndex portTable.table port).map
    PortLink.socketHandler

/-- `krs_lib_port_table_destroy`: the handlers that it destroys. -/
def krsLibPortTableDestroy (portTable : PortTable η) : List η :=
  portTable.table.flatten.map PortLink.socketHandler

/-! ## What a call allocates -/

theorem nextAllocation_eq (allocations : Allocations) :
    nextAllocation allocations =
      (allocations.getD 0 true, allocations.drop 1) := by
  cases allocations with
  | nil => rfl
  | cons allocated allocations => rfl

/-- The links whose allocations succeed. -/
def allocatedLinks : List (PortLink η) -> Allocations -> List (PortLink η)
  | [], _ => []
  | link :: links, allocations =>
      if allocations.getD 0 true then
        link :: allocatedLinks links (allocations.drop 1)
      else allocatedLinks links (allocations.drop 1)

/-- The call rebuilds the table: the load is too high, there is a larger size,
and the new chains are allocated. -/
def PortTable.rebuilds
    (portTable : PortTable η)
    (allocations : Allocations) : Bool :=
  portTable.overloaded &&
    (primeSizes[portTable.primeSizeIndex + 1]?.isSome &&
      allocations.getD 0 true)

/-- The number of allocations that a call makes before that of its own link. -/
def PortTable.allocationsBefore
    (portTable : PortTable η)
    (allocations : Allocations) : Nat :=
  if portTable.rebuilds allocations then portTable.table.flatten.length + 1
  else if portTable.overloaded &&
      primeSizes[portTable.primeSizeIndex + 1]?.isSome then 1
  else 0

/-- The outcome of the allocation of the link that a call inserts. -/
def PortTable.linkAllocated
    (portTable : PortTable η)
    (allocations : Allocations) : Bool :=
  allocations.getD (portTable.allocationsBefore allocations) true

/-- The links that the table still has when a call comes to its own link. -/
def PortTable.linksKept
    (portTable : PortTable η)
    (allocations : Allocations) : List (PortLink η) :=
  if portTable.rebuilds allocations then
    allocatedLinks portTable.table.flatten (allocations.drop 1)
  else portTable.table.flatten

theorem allocatedLinks_sublist
    (links : List (PortLink η))
    (allocations : Allocations) :
    (allocatedLinks links allocations).Sublist links := by
  induction links generalizing allocations with
  | nil => exact List.Sublist.slnil
  | cons link links inductionHypothesis =>
      unfold allocatedLinks
      split
      case isTrue => exact (inductionHypothesis _).cons_cons link
      case isFalse => exact (inductionHypothesis _).cons link

theorem allocatedLinks_nil (links : List (PortLink η)) :
    allocatedLinks links [] = links := by
  induction links with
  | nil => rfl
  | cons link links inductionHypothesis =>
      exact congrArg (link :: ·) inductionHypothesis

/-- A link is kept exactly if one of its allocations succeeds. -/
theorem mem_allocatedLinks
    {links : List (PortLink η)}
    {allocations : Allocations}
    {link : PortLink η} :
    link ∈ allocatedLinks links allocations ↔
      ∃ index, links[index]? = some link ∧
        allocations.getD index true = true := by
  induction links generalizing allocations with
  | nil =>
      constructor
      · intro member
        cases member
      · rintro ⟨index, read, -⟩
        cases read
  | cons first links inductionHypothesis =>
      have later : link ∈ allocatedLinks links (allocations.drop 1) ↔
          ∃ index, (first :: links)[index + 1]? = some link ∧
            allocations.getD (index + 1) true = true := by
        rw [inductionHypothesis]
        simp only [List.getElem?_cons_succ, List.getD_eq_getElem?_getD,
          List.getElem?_drop, Nat.add_comm 1]
      have split : (∃ index, (first :: links)[index]? = some link ∧
            allocations.getD index true = true) ↔
          (link = first ∧ allocations.getD 0 true = true) ∨
            link ∈ allocatedLinks links (allocations.drop 1) := by
        rw [later]
        constructor
        · rintro ⟨index, read, allocated⟩
          cases index with
          | zero => exact .inl ⟨(Option.some.inj read).symm, allocated⟩
          | succ index => exact .inr ⟨index, read, allocated⟩
        · rintro (⟨rfl, allocated⟩ | ⟨index, read, allocated⟩)
          · exact ⟨0, rfl, allocated⟩
          · exact ⟨index + 1, read, allocated⟩
      rw [split]
      rw [allocatedLinks]
      cases allocations.getD 0 true with
      | false => simp only [Bool.false_eq_true, if_false, and_false, false_or]
      | true => simp only [if_true, List.mem_cons, and_true]

theorem portTableReinsert_allocations
    (portTable : PortTable η)
    (links : List (PortLink η))
    (allocations : Allocations) :
    (portTableReinsert portTable links allocations).2 =
      allocations.drop links.length := by
  induction links generalizing portTable allocations with
  | nil => rfl
  | cons link links inductionHypothesis =>
      rw [portTableReinsert]
      simp only [nextAllocation_eq]
      rw [inductionHypothesis, List.drop_drop, List.length_cons,
        Nat.add_comm]

/-- The allocations left when a call comes to its own link. -/
theorem readied_allocations
    (portTable : PortTable η)
    (allocations : Allocations) :
    (if portTable.overloaded then portTableRebuild portTable allocations
      else (portTable, allocations)).2 =
      allocations.drop (portTable.allocationsBefore allocations) := by
  unfold PortTable.allocationsBefore PortTable.rebuilds
  cases portTable.overloaded with
  | false => rfl
  | true =>
      unfold portTableRebuild
      cases primeSizes[portTable.primeSizeIndex + 1]? with
      | none => rfl
      | some newTableSize =>
          simp only [nextAllocation_eq]
          cases allocations.getD 0 true with
          | false => rfl
          | true =>
              simp only [Bool.not_true, Bool.false_eq_true, if_false,
                if_true, Option.isSome_some, Bool.and_self]
              rw [portTableReinsert_allocations, List.drop_drop,
                Nat.add_comm]

/-- A call uses one allocation more than those before its own link. -/
theorem krsLibPortTableInsert_allocations
    (portTable : PortTable η)
    (port : UInt16)
    (socketHandler : η)
    (allocations : Allocations) :
    (krsLibPortTableInsert portTable port socketHandler allocations).2 =
      allocations.drop (portTable.allocationsBefore allocations + 1) := by
  unfold krsLibPortTableInsert
  simp only [nextAllocation_eq]
  rw [readied_allocations, List.drop_drop]

/-! ## The table as a map -/

/-- The table stands for some links, one for each port. -/
def PortTable.Holds
    (portTable : PortTable η)
    (links : List (PortLink η)) : Prop :=
  Chained PortLink.port hashPortIndex portTable.table links

/-- Links to which one is added unless its port is there. -/
def insertNew (links : List (PortLink η)) (link : PortLink η) :
    List (PortLink η) :=
  if (lookup PortLink.port links link.port).isSome then links
  else links ++ [link]

theorem hashPortIndex_lt
    (port : UInt16)
    (size : Nat)
    (positive : 0 < size) :
    hashPortIndex port size < size :=
  Nat.mod_lt _ positive

theorem primeSizes_pos : ∀ size ∈ primeSizes, 0 < size := by
  decide

section Map

variable {portTable : PortTable η} {links : List (PortLink η)}

/-- A table without links. -/
theorem emptyTable_holds
    {size : Nat}
    (positive : 0 < size)
    (index : Nat) :
    PortTable.Holds
      { table := List.replicate size []
        primeSizeIndex := index
        totalEntries := 0 } ([] : List (PortLink η)) :=
  Chained.empty positive

theorem krsLibPortTableCreate_holds :
    (krsLibPortTableCreate : PortTable η).Holds [] :=
  emptyTable_holds (by decide) 0

/-- An insertion whose allocation succeeds adds its link unless the port is
there. -/
theorem PortTable.Holds.insert
    (holds : portTable.Holds links)
    (link : PortLink η) :
    (portTableInsert portTable link true).1.Holds (insertNew links link) := by
  unfold insertNew
  cases found : lookup PortLink.port links link.port with
  | some other =>
      have refused : chainInsert PortLink.port hashPortIndex portTable.table
          link = none := holds.insert_none (by rw [found]; rfl)
      simp only [portTableInsert, refused]
      exact holds
  | none =>
      obtain ⟨after, inserted, -, chained⟩ :=
        holds.insert_some hashPortIndex_lt found
      simp only [portTableInsert, inserted]
      exact chained

theorem PortTable.Holds.of_perm
    {others : List (PortLink η)}
    (holds : portTable.Holds links)
    (same : links.Perm others) :
    portTable.Holds others :=
  { holds with
    perm := holds.perm.trans same
    distinct := (same.map PortLink.port).nodup_iff.mp holds.distinct }

theorem insertNew_perm
    {others : List (PortLink η)}
    (same : links.Perm others)
    (link : PortLink η) :
    (insertNew links link).Perm (insertNew others link) := by
  have absent : lookup PortLink.port links link.port = none ↔
      lookup PortLink.port others link.port = none := by
    rw [lookup_eq_none_iff, lookup_eq_none_iff]
    simp only [same.mem_iff]
  unfold insertNew
  cases left : lookup PortLink.port links link.port with
  | none =>
      rw [absent.mp left]
      exact same.append_right [link]
  | some found =>
      cases right : lookup PortLink.port others link.port with
      | none =>
          rw [absent.mpr right] at left
          cases left
      | some other => exact same

theorem lookup_insertNew
    (links : List (PortLink η))
    (link : PortLink η)
    (port : UInt16) :
    lookup PortLink.port (insertNew links link) port =
      lookup PortLink.port (links ++ [link]) port := by
  unfold insertNew
  split
  case isTrue present =>
      by_cases same : port = link.port
      · subst same
        obtain ⟨other, found⟩ := Option.isSome_iff_exists.mp present
        rw [found]
        unfold lookup at found ⊢
        rw [List.find?_append, found]
        rfl
      · exact (lookup_append_other same).symm
  case isFalse => rfl

/-- The table stands for the links in its chains. -/
theorem PortTable.Holds.chains (holds : portTable.Holds links) :
    portTable.Holds portTable.table.flatten :=
  holds.of_perm holds.perm.symm

/-- Of links whose ports are all different, those are reinserted whose
allocations succeed. -/
theorem PortTable.Holds.reinsert
    {more : List (PortLink η)}
    (holds : portTable.Holds links)
    (distinct : DistinctKeys PortLink.port (links ++ more))
    (allocations : Allocations) :
    (portTableReinsert portTable more allocations).1.Holds
      (links ++ allocatedLinks more allocations) := by
  induction more generalizing portTable links allocations with
  | nil =>
      rw [allocatedLinks, List.append_nil]
      exact holds
  | cons link more inductionHypothesis =>
      rw [portTableReinsert, allocatedLinks]
      simp only [nextAllocation_eq]
      cases allocations.getD 0 true with
      | false =>
          simp only [Bool.false_eq_true, if_false]
          refine inductionHypothesis holds ?_ _
          refine distinct.sublist ?_
          exact ((List.sublist_cons_self link more).append_left links).map _
      | true =>
          simp only [if_true]
          rw [List.append_cons] at distinct ⊢
          refine inductionHypothesis ?_ distinct _
          have absent : lookup PortLink.port links link.port = none := by
            rw [lookup_eq_none_iff]
            intro other member same
            rw [DistinctKeys, List.map_append, List.nodup_append'] at distinct
            have keys := distinct.1
            rw [List.map_append, List.nodup_append'] at keys
            exact keys.2.2 (List.mem_map_of_mem member) (by simp [same])
          have inserted := holds.insert link
          rw [insertNew, absent] at inserted
          exact inserted

/-- The table that a call readies has the links kept. -/
theorem PortTable.Holds.readied
    (holds : portTable.Holds links)
    (allocations : Allocations) :
    (if portTable.overloaded then portTableRebuild portTable allocations
      else (portTable, allocations)).1.Holds
      (portTable.linksKept allocations) := by
  unfold PortTable.linksKept PortTable.rebuilds
  cases portTable.overloaded with
  | false => exact holds.chains
  | true =>
      unfold portTableRebuild
      cases size : primeSizes[portTable.primeSizeIndex + 1]? with
      | none => exact holds.chains
      | some newTableSize =>
          simp only [nextAllocation_eq]
          cases allocations.getD 0 true with
          | false => exact holds.chains
          | true =>
              have positive := primeSizes_pos newTableSize
                (List.mem_of_getElem? size)
              exact (emptyTable_holds positive _).reinsert
                holds.flatten_distinct _

/-- Whatever the allocations, a call adds its link to the links kept, if it is
allocated and its port is not there. -/
theorem PortTable.Holds.krsLibPortTableInsert_of_allocations
    (holds : portTable.Holds links)
    (link : PortLink η)
    (allocations : Allocations) :
    (krsLibPortTableInsert portTable link.port link.socketHandler
      allocations).1.Holds
      (if portTable.linkAllocated allocations then
        insertNew (portTable.linksKept allocations) link
      else portTable.linksKept allocations) := by
  have ready := holds.readied allocations
  unfold Kronos.krsLibPortTableInsert
  simp only [nextAllocation_eq, readied_allocations]
  rw [List.getD_eq_getElem?_getD, List.getElem?_drop, Nat.add_zero,
    ← List.getD_eq_getElem?_getD, ← PortTable.linkAllocated]
  cases portTable.linkAllocated allocations with
  | false => exact ready
  | true => exact ready.insert link

/-- Where every allocation succeeds, every link is kept. -/
theorem PortTable.Holds.linksKept_perm (holds : portTable.Holds links) :
    (portTable.linksKept []).Perm links := by
  unfold PortTable.linksKept
  split
  case isTrue =>
      rw [List.drop_nil, allocatedLinks_nil]
      exact holds.perm
  case isFalse => exact holds.perm

/-- An insertion adds its link unless the port is there. -/
theorem PortTable.Holds.krsLibPortTableInsert
    (holds : portTable.Holds links)
    (port : UInt16)
    (socketHandler : η) :
    (krsLibPortTableInsert portTable port socketHandler []).1.Holds
      (insertNew links ⟨port, socketHandler⟩) := by
  have inserted := holds.krsLibPortTableInsert_of_allocations
    ⟨port, socketHandler⟩ []
  rw [PortTable.linkAllocated, List.getD_nil, if_pos rfl] at inserted
  exact inserted.of_perm (insertNew_perm holds.linksKept_perm _)

theorem PortTable.Holds.krsLibPortTableLookup
    (holds : portTable.Holds links)
    (port : UInt16) :
    krsLibPortTableLookup portTable port =
      (lookup PortLink.port links port).map PortLink.socketHandler := by
  rw [Kronos.krsLibPortTableLookup, holds.lookup]

theorem PortTable.Holds.mem_krsLibPortTableDestroy
    (holds : portTable.Holds links)
    {socketHandler : η} :
    socketHandler ∈ krsLibPortTableDestroy portTable ↔
      ∃ link ∈ links, link.socketHandler = socketHandler := by
  rw [krsLibPortTableDestroy, List.mem_map]
  simp only [holds.perm.mem_iff]

end Map

end Kronos
