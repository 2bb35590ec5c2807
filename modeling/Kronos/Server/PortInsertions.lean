import Mathlib.Data.Finset.Card
import Mathlib.Data.Finset.Dedup
import Kronos.Server.PortTable

/-!
# Sequences of insertions into the port table

Calls of `krs_lib_port_table_insert` on a new table, each with the outcomes of
its own allocations.  While allocations succeed, the table is the map of the
first insertions and its counter counts their ports.  When they fail, a
rebuild gives up every link that it cannot allocate again.
-/

namespace Kronos

open Library

variable {η : Type}

/-- A call of `krs_lib_port_table_insert`, with the outcomes of its
allocations. -/
structure PortInsertion (η : Type) where
  link : PortLink η
  allocations : Allocations := []
  deriving DecidableEq, Repr

/-- The table after the call. -/
def insertPort (portTable : PortTable η) (insertion : PortInsertion η) :
    PortTable η :=
  (krsLibPortTableInsert portTable insertion.link.port
    insertion.link.socketHandler insertion.allocations).1

/-- Calls on a new table. -/
def insertPorts (insertions : List (PortInsertion η)) : PortTable η :=
  insertions.foldl insertPort krsLibPortTableCreate

theorem insertPorts_append_singleton
    (insertions : List (PortInsertion η))
    (insertion : PortInsertion η) :
    insertPorts (insertions ++ [insertion]) =
      insertPort (insertPorts insertions) insertion := by
  rw [insertPorts, List.foldl_append]
  rfl

/-- Whatever the allocations, the table stands for some links. -/
theorem insertPorts_holds (insertions : List (PortInsertion η)) :
    ∃ links, (insertPorts insertions).Holds links := by
  induction insertions using List.reverseRecOn with
  | nil => exact ⟨[], krsLibPortTableCreate_holds⟩
  | append_singleton insertions insertion inductionHypothesis =>
      obtain ⟨links, holds⟩ := inductionHypothesis
      rw [insertPorts_append_singleton]
      exact ⟨_, holds.krsLibPortTableInsert_of_allocations insertion.link
        insertion.allocations⟩

/-! ## The counter and the size -/

/-- The counter counts the links, and the number of chains is the prime size of
the index. -/
structure PortTable.Counted (portTable : PortTable η) : Prop where
  entries : portTable.totalEntries = portTable.table.flatten.length
  size : primeSizes[portTable.primeSizeIndex]? = some portTable.table.length

section Counter

variable {portTable : PortTable η} {links : List (PortLink η)}

theorem krsLibPortTableCreate_counted :
    (krsLibPortTableCreate : PortTable η).Counted where
  entries := by
    simp [krsLibPortTableCreate]
  size := by
    simp [krsLibPortTableCreate, primeSizes]

theorem PortTable.Counted.insert
    (counted : portTable.Counted)
    (holds : portTable.Holds links)
    (link : PortLink η)
    (allocated : Bool) :
    (portTableInsert portTable link allocated).1.Counted := by
  cases allocated with
  | false => exact counted
  | true =>
      cases found : lookup PortLink.port links link.port with
      | some other =>
          have refused : chainInsert PortLink.port hashPortIndex
              portTable.table link = none :=
            holds.insert_none (by rw [found]; rfl)
          simp only [portTableInsert, refused]
          exact counted
      | none =>
          obtain ⟨after, inserted, length, chained⟩ :=
            holds.insert_some hashPortIndex_lt found
          simp only [portTableInsert, inserted]
          refine ⟨?_, ?_⟩
          · change portTable.totalEntries + 1 = after.flatten.length
            rw [chained.perm.length_eq, List.length_append,
              ← holds.perm.length_eq, counted.entries]
            rfl
          · change primeSizes[portTable.primeSizeIndex]? = some after.length
            rw [length, counted.size]

theorem PortTable.Holds.portTableInsert
    (holds : portTable.Holds links)
    (link : PortLink η)
    (allocated : Bool) :
    ∃ links, (portTableInsert portTable link allocated).1.Holds links := by
  cases allocated with
  | false => exact ⟨links, holds⟩
  | true => exact ⟨_, holds.insert link⟩

theorem PortTable.Counted.reinsert
    (counted : portTable.Counted)
    (holds : portTable.Holds links)
    (more : List (PortLink η))
    (allocations : Allocations) :
    (portTableReinsert portTable more allocations).1.Counted := by
  induction more generalizing portTable links allocations with
  | nil => exact counted
  | cons link more inductionHypothesis =>
      obtain ⟨others, after⟩ := holds.portTableInsert link
        (nextAllocation allocations).1
      exact inductionHypothesis (counted.insert holds link _) after _

theorem PortTable.Counted.rebuild
    (counted : portTable.Counted)
    (allocations : Allocations) :
    (portTableRebuild portTable allocations).1.Counted := by
  unfold portTableRebuild
  cases size : primeSizes[portTable.primeSizeIndex + 1]? with
  | none => exact counted
  | some newTableSize =>
      simp only
      split
      case isTrue => exact counted
      case isFalse =>
          have positive := primeSizes_pos newTableSize
            (List.mem_of_getElem? size)
          refine PortTable.Counted.reinsert ⟨?_, ?_⟩
            (emptyTable_holds positive _) _ _
          · rw [List.flatten_replicate_nil]
            rfl
          · rw [size, List.length_replicate]

theorem insertPort_counted
    (counted : portTable.Counted)
    (holds : portTable.Holds links)
    (insertion : PortInsertion η) :
    (insertPort portTable insertion).Counted := by
  have ready := holds.readied insertion.allocations
  unfold insertPort krsLibPortTableInsert
  refine PortTable.Counted.insert ?_ ready _ _
  split
  case isTrue => exact counted.rebuild insertion.allocations
  case isFalse => exact counted

end Counter

theorem insertPorts_counted (insertions : List (PortInsertion η)) :
    (insertPorts insertions).Counted := by
  induction insertions using List.reverseRecOn with
  | nil => exact krsLibPortTableCreate_counted
  | append_singleton insertions insertion inductionHypothesis =>
      obtain ⟨links, holds⟩ := insertPorts_holds insertions
      rw [insertPorts_append_singleton]
      exact insertPort_counted inductionHypothesis holds insertion

/-! ## Allocations that succeed -/

/-- Calls that insert some links, whose allocations succeed. -/
def succeeding (links : List (PortLink η)) : List (PortInsertion η) :=
  links.map fun link => { link := link }

/-- The links of which the table keeps the first of each port. -/
def firstLinks (links : List (PortLink η)) : List (PortLink η) :=
  links.foldl insertNew []

theorem firstLinks_append_singleton
    (links : List (PortLink η))
    (link : PortLink η) :
    firstLinks (links ++ [link]) = insertNew (firstLinks links) link := by
  rw [firstLinks, List.foldl_append]
  rfl

theorem insertPorts_succeeding (links : List (PortLink η)) :
    (insertPorts (succeeding links)).Holds (firstLinks links) := by
  induction links using List.reverseRecOn with
  | nil => exact krsLibPortTableCreate_holds
  | append_singleton links link inductionHypothesis =>
      rw [succeeding, List.map_append, List.map_singleton,
        insertPorts_append_singleton, firstLinks_append_singleton]
      exact inductionHypothesis.krsLibPortTableInsert link.port
        link.socketHandler

theorem lookup_firstLinks (links : List (PortLink η)) (port : UInt16) :
    lookup PortLink.port (firstLinks links) port =
      lookup PortLink.port links port := by
  induction links using List.reverseRecOn with
  | nil => rfl
  | append_singleton links link inductionHypothesis =>
      rw [firstLinks_append_singleton, lookup_insertNew]
      unfold lookup at inductionHypothesis ⊢
      rw [List.find?_append, List.find?_append, inductionHypothesis]

theorem mem_ports_iff_lookup (links : List (PortLink η)) (port : UInt16) :
    port ∈ links.map PortLink.port ↔
      lookup PortLink.port links port ≠ none := by
  rw [Ne, lookup_eq_none_iff]
  simp only [List.mem_map, not_forall, not_not, exists_prop]

/-- As many links are kept as there are ports. -/
theorem length_firstLinks
    {links : List (PortLink η)}
    (distinct : DistinctKeys PortLink.port (firstLinks links)) :
    (firstLinks links).length = (links.map PortLink.port).toFinset.card := by
  rw [← List.length_map PortLink.port, ← List.toFinset_card_of_nodup distinct]
  congr 1
  ext port
  rw [List.mem_toFinset, List.mem_toFinset, mem_ports_iff_lookup,
    mem_ports_iff_lookup, lookup_firstLinks]

/-- A rebuild whose allocations succeed changes no lookup. -/
theorem PortTable.Holds.lookup_rebuild
    {portTable : PortTable η}
    {links : List (PortLink η)}
    (holds : portTable.Holds links)
    (overloaded : portTable.overloaded = true)
    (port : UInt16) :
    Kronos.krsLibPortTableLookup (portTableRebuild portTable []).1 port =
      Kronos.krsLibPortTableLookup portTable port := by
  have ready := holds.readied []
  rw [if_pos overloaded] at ready
  have same := ready.of_perm holds.linksKept_perm
  rw [same.krsLibPortTableLookup, holds.krsLibPortTableLookup]

/-- Whatever links are inserted, in whatever order, while allocations succeed:
a lookup returns the handler of the first insertion of its port and finds no
port that was not inserted, the counter counts the different ports, every
chain index is below the size of the table, and a rebuild that the load calls
for changes no lookup. -/
theorem insertions_looked_up (links : List (PortLink η)) :
    let portTable := insertPorts (succeeding links)
    (∀ port, krsLibPortTableLookup portTable port =
      (lookup PortLink.port links port).map PortLink.socketHandler) ∧
    (∀ port, krsLibPortTableLookup portTable port = none ↔
      ∀ link ∈ links, link.port ≠ port) ∧
    portTable.totalEntries = (links.map PortLink.port).toFinset.card ∧
    primeSizes[portTable.primeSizeIndex]? = some portTable.table.length ∧
    (∀ port, hashPortIndex port portTable.table.length <
      portTable.table.length) ∧
    (∀ index chain, portTable.table[index]? = some chain ->
      ∀ link ∈ chain,
        hashPortIndex link.port portTable.table.length = index) ∧
    (portTable.overloaded = true -> ∀ port,
      krsLibPortTableLookup (portTableRebuild portTable []).1 port =
        krsLibPortTableLookup portTable port) := by
  intro portTable
  have holds : portTable.Holds (firstLinks links) := insertPorts_succeeding links
  have counted : portTable.Counted := insertPorts_counted _
  have found : ∀ port, krsLibPortTableLookup portTable port =
      (lookup PortLink.port links port).map PortLink.socketHandler := by
    intro port
    rw [holds.krsLibPortTableLookup, lookup_firstLinks]
  refine ⟨found, ?_, ?_, counted.size, ?_, holds.placed, ?_⟩
  · intro port
    rw [found, Option.map_eq_none_iff, lookup_eq_none_iff]
  · rw [counted.entries, holds.perm.length_eq,
      length_firstLinks holds.distinct]
  · intro port
    exact hashPortIndex_lt port _ holds.positive
  · intro overloaded port
    exact holds.lookup_rebuild overloaded port

/-! ## Allocations that fail -/

/-- Every port that could be looked up still can, with the same handler. -/
def PortTable.KeepsPorts (before after : PortTable η) : Prop :=
  ∀ port socketHandler,
    krsLibPortTableLookup before port = some socketHandler ->
      krsLibPortTableLookup after port = some socketHandler

/-- If the call rebuilds the table, then every link is allocated again, unless
it is the one that the call inserts and that insertion is allocated. -/
def PortTable.Reallocates
    (portTable : PortTable η)
    (link : PortLink η)
    (allocations : Allocations) : Prop :=
  portTable.rebuilds allocations = true ->
    ∀ index other, portTable.table.flatten[index]? = some other ->
      allocations.getD (index + 1) true = true ∨
        (other = link ∧
          allocations.getD (portTable.table.flatten.length + 1) true = true)

section Losses

variable {portTable after : PortTable η} {links others : List (PortLink η)}

theorem PortTable.Holds.lookup_eq_some_iff
    (holds : portTable.Holds links)
    {port : UInt16}
    {socketHandler : η} :
    Kronos.krsLibPortTableLookup portTable port = some socketHandler ↔
      { port := port, socketHandler := socketHandler } ∈ links := by
  rw [holds.krsLibPortTableLookup, Option.map_eq_some_iff]
  constructor
  · rintro ⟨link, found, rfl⟩
    obtain ⟨present, rfl⟩ := holds.distinct.lookup_eq_some_iff.mp found
    exact present
  · intro present
    exact ⟨_, holds.distinct.lookup_eq_some_iff.mpr ⟨present, rfl⟩, rfl⟩

theorem PortTable.Holds.keepsPorts_iff
    (holds : portTable.Holds links)
    (holdsAfter : after.Holds others) :
    portTable.KeepsPorts after ↔ ∀ link ∈ links, link ∈ others := by
  unfold PortTable.KeepsPorts
  simp only [holds.lookup_eq_some_iff, holdsAfter.lookup_eq_some_iff]
  constructor
  · intro kept link member
    exact kept link.port link.socketHandler member
  · intro kept port socketHandler member
    exact kept _ member

theorem mem_insertNew_of_mem
    {link other : PortLink η}
    (member : other ∈ links) :
    other ∈ insertNew links link := by
  unfold insertNew
  split
  case isTrue => exact member
  case isFalse => exact List.mem_append_left _ member

theorem mem_of_mem_insertNew
    {link other : PortLink η}
    (member : other ∈ insertNew links link) :
    other ∈ links ∨ other = link := by
  unfold insertNew at member
  split at member
  case isTrue => exact .inl member
  case isFalse =>
      rw [List.mem_append, List.mem_singleton] at member
      exact member

/-- A link is there after its insertion if no other link has its port. -/
theorem mem_insertNew_self
    {link : PortLink η}
    (alone : ∀ other ∈ links, other.port = link.port -> other = link) :
    link ∈ insertNew links link := by
  unfold insertNew
  split
  case isTrue present =>
      obtain ⟨other, found⟩ := Option.isSome_iff_exists.mp present
      have same := alone other (lookup_mem found) (lookup_key found)
      rw [← same]
      exact lookup_mem found
  case isFalse => exact List.mem_append_right _ (List.mem_singleton_self _)

/-- A call that rebuilds the table keeps a link exactly if it is allocated
again. -/
theorem PortTable.Holds.mem_linksKept
    (holds : portTable.Holds links)
    {allocations : Allocations}
    (rebuilt : portTable.rebuilds allocations = true)
    {index : Nat}
    {link : PortLink η}
    (read : portTable.table.flatten[index]? = some link) :
    link ∈ portTable.linksKept allocations ↔
      allocations.getD (index + 1) true = true := by
  have nodup := holds.flatten_distinct.of_map
  rw [PortTable.linksKept, if_pos rebuilt, mem_allocatedLinks]
  simp only [List.getD_eq_getElem?_getD, List.getElem?_drop, Nat.add_comm 1]
  constructor
  · rintro ⟨position, found, allocated⟩
    have same : position = index := by
      obtain ⟨inside, -⟩ := List.getElem?_eq_some_iff.mp found
      exact (List.getElem?_inj inside nodup).mp (found.trans read.symm)
    rw [← same]
    exact allocated
  · intro allocated
    exact ⟨index, read, allocated⟩

theorem PortTable.linksKept_sublist
    (portTable : PortTable η)
    (allocations : Allocations) :
    (portTable.linksKept allocations).Sublist portTable.table.flatten := by
  unfold PortTable.linksKept
  split
  case isTrue => exact allocatedLinks_sublist _ _
  case isFalse => exact List.Sublist.refl _

/-- A call keeps every port exactly if it allocates every link again. -/
theorem PortTable.Holds.insert_keepsPorts_iff
    (holds : portTable.Holds links)
    (link : PortLink η)
    (allocations : Allocations) :
    portTable.KeepsPorts
        (Kronos.krsLibPortTableInsert portTable link.port link.socketHandler
          allocations).1 ↔
      portTable.Reallocates link allocations := by
  rw [holds.chains.keepsPorts_iff
    (holds.krsLibPortTableInsert_of_allocations link allocations)]
  unfold PortTable.Reallocates
  have last : portTable.rebuilds allocations = true ->
      portTable.linkAllocated allocations =
        allocations.getD (portTable.table.flatten.length + 1) true := by
    intro rebuilt
    rw [PortTable.linkAllocated, PortTable.allocationsBefore, if_pos rebuilt]
  constructor
  · intro kept rebuilt index other read
    rw [← holds.mem_linksKept rebuilt read, ← last rebuilt]
    have present := kept other (List.mem_of_getElem? read)
    split at present
    case isTrue allocated =>
        rcases mem_of_mem_insertNew present with earlier | same
        · exact .inl earlier
        · exact .inr ⟨same, allocated⟩
    case isFalse => exact .inl present
  · intro reallocates other member
    suffices kept : other ∈ portTable.linksKept allocations ∨
        (other = link ∧ portTable.linkAllocated allocations = true) by
      rcases kept with kept | ⟨rfl, allocated⟩
      · split
        case isTrue => exact mem_insertNew_of_mem kept
        case isFalse => exact kept
      · rw [if_pos allocated]
        apply mem_insertNew_self
        intro found inside samePort
        exact holds.flatten_distinct.eq_of_key
          ((portTable.linksKept_sublist allocations).subset inside) member
          samePort
    cases rebuilt : portTable.rebuilds allocations with
    | false =>
        rw [PortTable.linksKept, rebuilt]
        exact .inl member
    | true =>
        obtain ⟨index, read⟩ := List.mem_iff_getElem?.mp member
        rw [holds.mem_linksKept rebuilt read, last rebuilt]
        exact reallocates rebuilt index other read

end Losses

/-- In every table that insertions can reach, whatever their allocations: a
further insertion loses no port exactly if it does not rebuild the table, or
allocates every link again. -/
theorem insertion_keeps_ports_iff
    (insertions : List (PortInsertion η))
    (link : PortLink η)
    (allocations : Allocations) :
    let portTable := insertPorts insertions
    portTable.KeepsPorts (insertPort portTable ⟨link, allocations⟩) ↔
      portTable.Reallocates link allocations := by
  obtain ⟨links, holds⟩ := insertPorts_holds insertions
  exact holds.insert_keepsPorts_iff link allocations

/-- The ports from 0 to 25, each with its number for a handler. -/
def manyPorts : List (PortLink Nat) :=
  (List.range 26).map fun number =>
    { port := number.toUInt16, socketHandler := number }

/-- The table is rebuilt for the 27th port, and its first link cannot be
allocated again. -/
theorem port_lost_by_rebuild :
    let portTable := insertPorts (succeeding manyPorts)
    let after := insertPort portTable ⟨⟨26, 26⟩, [true, false]⟩
    krsLibPortTableLookup portTable 0 = some 0 ∧
      krsLibPortTableLookup after 0 = none ∧
      ¬ portTable.KeepsPorts after := by
  intro portTable after
  have found : krsLibPortTableLookup portTable 0 = some 0 := by
    decide +kernel
  have lost : krsLibPortTableLookup after 0 = none := by
    decide +kernel
  refine ⟨found, lost, ?_⟩
  intro kept
  have still := kept 0 0 found
  rw [lost] at still
  cases still

end Kronos
