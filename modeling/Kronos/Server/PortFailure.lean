import Kronos.Server.PortInsertions
import Kronos.Server.Ports

/-!
# Adding a port when something fails

A port is registered in the table before the list.  If the list cannot grow,
the call destroys the descriptor and reports an error; the table is left as the
insertion made it, and has no operation that would take the descriptor out.
-/

namespace Kronos

open Library

/-! ## Lookups after an insertion -/

section Lookups

variable {η : Type} {portTable : PortTable η} {links : List (PortLink η)}

/-- If the call rebuilds the table, then every link is allocated again. -/
def PortTable.ReallocatesAll
    (portTable : PortTable η)
    (allocations : Allocations) : Prop :=
  portTable.rebuilds allocations = true ->
    ∀ index, index < portTable.table.flatten.length ->
      allocations.getD (index + 1) true = true

/-- What is found after a call was found before it, or is its own link. -/
theorem PortTable.Holds.lookup_insert_cases
    (holds : portTable.Holds links)
    {link : PortLink η}
    {allocations : Allocations}
    {port : UInt16}
    {socketHandler : η}
    (found : Kronos.krsLibPortTableLookup
      (Kronos.krsLibPortTableInsert portTable link.port link.socketHandler
        allocations).1 port = some socketHandler) :
    Kronos.krsLibPortTableLookup portTable port = some socketHandler ∨
      (portTable.linkAllocated allocations = true ∧
        port = link.port ∧ socketHandler = link.socketHandler) := by
  rw [(holds.krsLibPortTableInsert_of_allocations link
    allocations).lookup_eq_some_iff] at found
  rw [holds.chains.lookup_eq_some_iff]
  have kept := (portTable.linksKept_sublist allocations).subset
  split at found
  case isTrue allocated =>
      rcases mem_of_mem_insertNew found with earlier | same
      · exact .inl (kept earlier)
      · subst same
        exact .inr ⟨allocated, rfl, rfl⟩
  case isFalse => exact .inl (kept found)

/-- An allocated link is found if its port was not there. -/
theorem PortTable.Holds.lookup_insert_new
    (holds : portTable.Holds links)
    {link : PortLink η}
    {allocations : Allocations}
    (allocated : portTable.linkAllocated allocations = true)
    (absent : Kronos.krsLibPortTableLookup portTable link.port = none) :
    Kronos.krsLibPortTableLookup
      (Kronos.krsLibPortTableInsert portTable link.port link.socketHandler
        allocations).1 link.port = some link.socketHandler := by
  have inserted := holds.krsLibPortTableInsert_of_allocations link allocations
  rw [if_pos allocated] at inserted
  rw [inserted.lookup_eq_some_iff]
  apply mem_insertNew_self
  intro other member samePort
  have present : Kronos.krsLibPortTableLookup portTable link.port =
      some other.socketHandler := by
    rw [holds.chains.lookup_eq_some_iff, ← samePort]
    exact (portTable.linksKept_sublist allocations).subset member
  rw [absent] at present
  cases present

/-- A call with a handler that is not in the table changes no lookup exactly if
it allocates every link again and does not insert its own. -/
theorem PortTable.Holds.lookups_same_iff
    (holds : portTable.Holds links)
    {link : PortLink η}
    (fresh : ∀ port, Kronos.krsLibPortTableLookup portTable port ≠
      some link.socketHandler)
    (allocations : Allocations) :
    (∀ port, Kronos.krsLibPortTableLookup
        (Kronos.krsLibPortTableInsert portTable link.port link.socketHandler
          allocations).1 port =
        Kronos.krsLibPortTableLookup portTable port) ↔
      portTable.ReallocatesAll allocations ∧
        (Kronos.krsLibPortTableLookup portTable link.port ≠ none ∨
          portTable.linkAllocated allocations = false) := by
  have keeps := holds.insert_keepsPorts_iff link allocations
  constructor
  · intro same
    constructor
    · have reallocates := keeps.mp (by
        intro port socketHandler found
        rw [same]
        exact found)
      intro rebuilt index inside
      rcases reallocates rebuilt index _ (List.getElem?_eq_getElem inside) with
        allocated | ⟨equal, -⟩
      · exact allocated
      · refine absurd ?_ (fresh link.port)
        rw [holds.chains.lookup_eq_some_iff]
        exact equal ▸ List.getElem_mem inside
    · by_contra neither
      rw [not_or, not_not, Bool.not_eq_false] at neither
      have found := holds.lookup_insert_new neither.2 neither.1
      rw [same, neither.1] at found
      cases found
  · rintro ⟨all, unchanged⟩ port
    have kept := keeps.mpr (by
      intro rebuilt index other read
      obtain ⟨inside, -⟩ := List.getElem?_eq_some_iff.mp read
      exact .inl (all rebuilt index inside))
    apply Option.ext
    intro socketHandler
    constructor
    · intro found
      rcases holds.lookup_insert_cases found with before | own
      · exact before
      · obtain ⟨allocated, rfl, rfl⟩ := own
        rcases unchanged with present | refused
        · obtain ⟨other, before⟩ := Option.ne_none_iff_exists'.mp present
          have same := (kept _ _ before).symm.trans found
          rw [before, same]
        · rw [refused] at allocated
          cases allocated
    · exact kept port socketHandler

end Lookups

/-! ## Calls whose allocations may fail -/

/-- A call that adds a port, with the outcomes of its allocations. -/
structure PortAttempt extends PortCall where
  allocations : Allocations := []
  deriving DecidableEq, Repr

/-- The call. -/
def attemptPort (manager : PortManager) (attempt : PortAttempt) :
    PortManager × KronosResult :=
  match attempt.address with
  | none =>
      krsServerPortManagerPortAdd manager attempt.port attempt.opened
        attempt.allocations
  | some address =>
      krsServerPortManagerPortAddWithAddress manager attempt.port address
        attempt.opened attempt.allocations

/-- Calls on a port manager. -/
def attemptPorts (manager : PortManager) (attempts : List PortAttempt) :
    PortManager :=
  attempts.foldl (fun manager attempt => (attemptPort manager attempt).1)
    manager

/-- Every lookup and the descriptor list are as before. -/
structure PortManager.LeftAlone (before after : PortManager) : Prop where
  lookups : ∀ port, krsLibPortTableLookup after.portTable port =
    krsLibPortTableLookup before.portTable port
  list : after.descriptorList = before.descriptorList

/-- The list has room for another descriptor, or can grow. -/
def PortManager.listGrows
    (manager : PortManager)
    (allocations : Allocations) : Bool :=
  manager.descriptorList.items.length < manager.descriptorList.capacity ||
    allocations.getD
      (manager.portTable.allocationsBefore allocations + 1) true

/-- The socket is not opened, or the list takes the descriptor, or the table
keeps all its links and does not take the new one. -/
def PortManager.Recovers
    (manager : PortManager)
    (attempt : PortAttempt) : Prop :=
  attempt.opened = false ∨
    manager.listGrows attempt.allocations = true ∨
    (manager.portTable.ReallocatesAll attempt.allocations ∧
      (krsLibPortTableLookup manager.portTable attempt.port ≠ none ∨
        manager.portTable.linkAllocated attempt.allocations = false))

/-- Every call of a run recovers. -/
def Recovering : PortManager -> List PortAttempt -> Prop
  | _, [] => True
  | manager, attempt :: attempts =>
      manager.Recovers attempt ∧
        Recovering (attemptPort manager attempt).1 attempts

/-- The descriptor that a call creates. -/
def PortAttempt.descriptor
    (attempt : PortAttempt)
    (manager : PortManager) : BoundDescriptor :=
  { socket := manager.sockets
    port := attempt.port
    address := attempt.boundAddress manager }

/-- The table after a call that opens its socket. -/
def PortAttempt.registered
    (attempt : PortAttempt)
    (manager : PortManager) : PortTable BoundDescriptor :=
  (krsLibPortTableInsert manager.portTable attempt.port
    (attempt.descriptor manager) attempt.allocations).1

theorem krsArrayPush_cases
    (array : PointerArray α)
    (item : α)
    (allocations : Allocations) :
    if array.items.length < array.capacity ||
        allocations.getD 0 true then
      ∃ after, krsArrayPush array item allocations = some after ∧
        after.items = array.items ++ [item]
    else krsArrayPush array item allocations = none := by
  unfold krsArrayPush
  rw [nextAllocation_eq]
  by_cases room : array.items.length < array.capacity
  · rw [if_pos (by simp [room]), if_neg (Nat.not_le.mpr room)]
    exact ⟨_, rfl, rfl⟩
  · rw [if_pos (Nat.not_lt.mp room), decide_eq_false room, Bool.false_or]
    cases allocations.getD 0 true with
    | true => exact ⟨_, rfl, rfl⟩
    | false => rfl

/-- What a call can do: nothing, register the descriptor twice, or register it
in the table only and destroy it. -/
theorem attemptPort_cases (manager : PortManager) (attempt : PortAttempt) :
    (attempt.opened = false ∧
      attemptPort manager attempt =
        (manager, .wMsg .serverBindFailed "socket creation failed")) ∨
    (attempt.opened = true ∧
      manager.listGrows attempt.allocations = true ∧
      ∃ list, list.items = manager.descriptorList.items ++
          [attempt.descriptor manager] ∧
        attemptPort manager attempt =
          ({ manager with
              portTable := attempt.registered manager
              descriptorList := list
              sockets := manager.sockets + 1 },
            .suc)) ∨
    (attempt.opened = true ∧
      manager.listGrows attempt.allocations = false ∧
      attemptPort manager attempt =
        ({ manager with
            portTable := attempt.registered manager
            sockets := manager.sockets + 1
            destroyed := attempt.descriptor manager :: manager.destroyed },
          .wMsg .memoryAllocation "Failed to grow array")) := by
  have added : attemptPort manager attempt =
      krsServerPortManagerPortAddWithAddress manager attempt.port
        (attempt.boundAddress manager) attempt.opened attempt.allocations := by
    unfold attemptPort PortCall.boundAddress
    cases attempt.address <;> rfl
  rw [added]
  unfold krsServerPortManagerPortAddWithAddress
  cases attempt.opened with
  | false => exact .inl ⟨rfl, rfl⟩
  | true =>
      right
      have pushed := krsArrayPush_cases manager.descriptorList
        (attempt.descriptor manager)
        (attempt.allocations.drop (manager.portTable.allocationsBefore
          attempt.allocations + 1))
      rw [List.getD_eq_getElem?_getD, List.getElem?_drop, Nat.add_zero,
        ← List.getD_eq_getElem?_getD, ← PortManager.listGrows] at pushed
      unfold PortAttempt.registered
      unfold PortAttempt.descriptor at pushed ⊢
      simp only [Bool.not_true, Bool.false_eq_true, if_false, true_and,
        krsLibPortTableInsert_allocations]
      cases grows : manager.listGrows attempt.allocations with
      | true =>
          rw [grows, if_pos rfl] at pushed
          obtain ⟨list, success, items⟩ := pushed
          rw [success]
          exact .inl ⟨rfl, list, items, rfl⟩
      | false =>
          rw [grows, if_neg Bool.false_ne_true] at pushed
          rw [pushed]
          exact .inr ⟨rfl, rfl⟩

/-! ## What a run of calls keeps -/

/-- The table stands for some links, and every descriptor in it and every one
destroyed has the number of a socket that was opened. -/
structure PortManager.Numbered (manager : PortManager) : Prop where
  holds : ∃ links, manager.portTable.Holds links
  found : ∀ port descriptor,
    krsLibPortTableLookup manager.portTable port = some descriptor ->
      descriptor.socket < manager.sockets
  destroyed : ∀ descriptor ∈ manager.destroyed,
    descriptor.socket < manager.sockets

section Runs

variable {manager : PortManager} {attempt : PortAttempt}

theorem krsServerPortManagerCreate_numbered (defaultAddress : Address) :
    (krsServerPortManagerCreate defaultAddress).Numbered where
  holds := ⟨[], krsLibPortTableCreate_holds⟩
  found := by
    intro port descriptor found
    have none_found := PortTable.Holds.krsLibPortTableLookup
      (krsLibPortTableCreate_holds (η := BoundDescriptor)) port
    rw [krsServerPortManagerCreate, none_found] at found
    cases found
  destroyed := by
    intro descriptor member
    cases member

theorem PortManager.Numbered.fresh
    (numbered : manager.Numbered)
    (port : UInt16) :
    krsLibPortTableLookup manager.portTable port ≠
      some (attempt.descriptor manager) := by
  intro found
  exact Nat.lt_irrefl _ (numbered.found port _ found)

/-- What is found after a call was found before it, or has a new socket. -/
theorem PortManager.Numbered.registered
    (numbered : manager.Numbered)
    {port : UInt16}
    {descriptor : BoundDescriptor}
    (found : krsLibPortTableLookup (attempt.registered manager) port =
      some descriptor) :
    krsLibPortTableLookup manager.portTable port = some descriptor ∨
      descriptor = attempt.descriptor manager := by
  obtain ⟨links, holds⟩ := numbered.holds
  let link : PortLink BoundDescriptor :=
    { port := attempt.port, socketHandler := attempt.descriptor manager }
  have inserted : krsLibPortTableLookup
      (krsLibPortTableInsert manager.portTable link.port link.socketHandler
        attempt.allocations).1 port = some descriptor := found
  rcases holds.lookup_insert_cases inserted with before | own
  · exact .inl before
  · exact .inr own.2.2

theorem PortManager.Numbered.registered_socket
    (numbered : manager.Numbered)
    {port : UInt16}
    {descriptor : BoundDescriptor}
    (found : krsLibPortTableLookup (attempt.registered manager) port =
      some descriptor) :
    descriptor.socket < manager.sockets + 1 := by
  rcases numbered.registered found with before | rfl
  · exact Nat.lt_succ_of_lt (numbered.found port descriptor before)
  · exact Nat.lt_succ_self _

theorem PortManager.Numbered.step
    (numbered : manager.Numbered)
    (attempt : PortAttempt) :
    (attemptPort manager attempt).1.Numbered := by
  obtain ⟨links, holds⟩ := numbered.holds
  have registered : ∃ links, (attempt.registered manager).Holds links :=
    ⟨_, holds.krsLibPortTableInsert_of_allocations
      ⟨attempt.port, attempt.descriptor manager⟩ attempt.allocations⟩
  rcases attemptPort_cases manager attempt with
    ⟨-, same⟩ | ⟨-, -, list, -, added⟩ | ⟨-, -, failed⟩
  · rw [same]
    exact numbered
  · rw [added]
    refine ⟨registered, ?_, ?_⟩
    · intro port descriptor found
      exact numbered.registered_socket found
    · intro descriptor member
      exact Nat.lt_succ_of_lt (numbered.destroyed descriptor member)
  · rw [failed]
    refine ⟨registered, ?_, ?_⟩
    · intro port descriptor found
      exact numbered.registered_socket found
    · intro descriptor member
      rcases List.mem_cons.mp member with rfl | earlier
      · exact Nat.lt_succ_self _
      · exact Nat.lt_succ_of_lt (numbered.destroyed descriptor earlier)

theorem PortManager.Numbered.attempts
    (numbered : manager.Numbered)
    (attempts : List PortAttempt) :
    (attemptPorts manager attempts).Numbered := by
  induction attempts generalizing manager with
  | nil => exact numbered
  | cons attempt attempts inductionHypothesis =>
      exact inductionHypothesis (numbered.step attempt)

/-- A call that fails leaves everything alone exactly if it recovers. -/
theorem PortManager.Numbered.leftAlone_iff
    (numbered : manager.Numbered)
    (attempt : PortAttempt) :
    ((attemptPort manager attempt).2.valid = false ->
        manager.LeftAlone (attemptPort manager attempt).1) ↔
      manager.Recovers attempt := by
  unfold PortManager.Recovers
  rcases attemptPort_cases manager attempt with
    ⟨refused, same⟩ | ⟨-, grows, list, -, added⟩ | ⟨opened, full, failed⟩
  · rw [same]
    exact iff_of_true (fun _ => ⟨fun _ => rfl, rfl⟩) (.inl refused)
  · rw [added]
    exact iff_of_true (fun invalid => nomatch invalid) (.inr (.inl grows))
  · rw [failed, opened, full]
    obtain ⟨links, holds⟩ := numbered.holds
    let link : PortLink BoundDescriptor :=
      { port := attempt.port, socketHandler := attempt.descriptor manager }
    have fresh : ∀ port, krsLibPortTableLookup manager.portTable port ≠
        some link.socketHandler := numbered.fresh
    have same := holds.lookups_same_iff fresh attempt.allocations
    simp only [Bool.true_eq_false, Bool.false_eq_true, false_or]
    rw [← same]
    constructor
    · intro alone
      exact (alone rfl).lookups
    · intro lookups _
      exact ⟨lookups, rfl⟩

/-- While every call recovers, no lookup returns a destroyed descriptor. -/
theorem PortManager.Numbered.never_destroyed
    (numbered : manager.Numbered)
    {attempts : List PortAttempt}
    (recovering : Recovering manager attempts)
    (intact : ∀ port descriptor,
      krsLibPortTableLookup manager.portTable port = some descriptor ->
        descriptor ∉ manager.destroyed) :
    ∀ port descriptor,
      krsLibPortTableLookup (attemptPorts manager attempts).portTable port =
          some descriptor ->
        descriptor ∉ (attemptPorts manager attempts).destroyed := by
  induction attempts generalizing manager with
  | nil => exact intact
  | cons attempt attempts inductionHypothesis =>
      obtain ⟨recovers, later⟩ := recovering
      refine inductionHypothesis (numbered.step attempt) later ?_
      intro port descriptor found
      change krsLibPortTableLookup (attemptPort manager attempt).1.portTable
        port = some descriptor at found
      change descriptor ∉ (attemptPort manager attempt).1.destroyed
      have alone := (numbered.leftAlone_iff attempt).mpr recovers
      rcases attemptPort_cases manager attempt with
        ⟨-, same⟩ | ⟨-, -, list, -, added⟩ | ⟨-, -, failed⟩
      · rw [same] at found ⊢
        exact intact port descriptor found
      · rw [added] at found ⊢
        rcases numbered.registered found with before | rfl
        · exact intact port descriptor before
        · intro member
          exact Nat.lt_irrefl _ (numbered.destroyed _ member)
      · rw [failed] at alone found ⊢
        rw [(alone rfl).lookups] at found
        intro member
        rcases List.mem_cons.mp member with rfl | earlier
        · exact numbered.fresh port found
        · exact intact port descriptor found earlier

end Runs

/-- In every port manager that calls can reach, whatever the operating system
and the allocator say: a further call that fails leaves the lookups and the
list alone exactly if its socket is not opened, the list takes the descriptor,
or the table keeps its links and does not take the new one.  While every call
is of this kind, no lookup returns a destroyed descriptor. -/
theorem port_failure_left_alone_iff
    (defaultAddress : Address)
    (attempts : List PortAttempt) :
    let start := krsServerPortManagerCreate defaultAddress
    let manager := attemptPorts start attempts
    (∀ attempt, ((attemptPort manager attempt).2.valid = false ->
        manager.LeftAlone (attemptPort manager attempt).1) ↔
      manager.Recovers attempt) ∧
    (Recovering start attempts -> ∀ port descriptor,
      krsLibPortTableLookup manager.portTable port = some descriptor ->
        descriptor ∉ manager.destroyed) := by
  intro start manager
  have numbered := krsServerPortManagerCreate_numbered defaultAddress
  constructor
  · intro attempt
    exact (numbered.attempts attempts).leftAlone_iff attempt
  · intro recovering
    apply numbered.never_destroyed recovering
    intro port descriptor _ member
    cases member

/-- Eight ports, which fill the list. -/
def eightPorts : List PortAttempt :=
  (List.range 8).map fun number => { port := number.toUInt16 }

/-- The list cannot grow for a ninth port: the call fails and destroys the
descriptor, which the table still finds. -/
theorem destroyed_descriptor_found :
    let start := krsServerPortManagerCreate (Vector.replicate 16 0)
    let manager := attemptPorts start eightPorts
    let attempt : PortAttempt := { port := 8, allocations := [true, false] }
    let after := attemptPort manager attempt
    let descriptor := attempt.descriptor manager
    after.2.valid = false ∧
      krsLibPortTableLookup manager.portTable 8 = none ∧
      krsLibPortTableLookup after.1.portTable 8 = some descriptor ∧
      descriptor ∈ after.1.destroyed ∧
      ¬ manager.LeftAlone after.1 := by
  intro start manager attempt after descriptor
  have absent : krsLibPortTableLookup manager.portTable 8 = none := by
    decide +kernel
  have found : krsLibPortTableLookup after.1.portTable 8 =
      some descriptor := by
    decide +kernel
  refine ⟨by decide +kernel, absent, found, by decide +kernel, ?_⟩
  intro alone
  have same := alone.lookups 8
  rw [found, absent] at same
  cases same

end Kronos
