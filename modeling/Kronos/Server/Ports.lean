import Mathlib.Data.List.Induction
import Kronos.Basic
import Kronos.Server.PortTable

/-!
# The ports of a server

`server_port_manager_lifecycle.c`: adding a port opens a socket and registers
its descriptor twice, in the port table and in the descriptor list.  The
message handler finds the descriptor of a datagram in the table, and the
destructor of the table destroys the descriptors in it; the retransmit thread,
the broadcasts and the receive buffers go by the list.

The table refuses a port that it has, and nobody hears of it.
-/

namespace Kronos

open Library

/-- `KrsArray_t`. -/
structure PointerArray (α : Type) where
  items : List α
  capacity : Nat
  deriving DecidableEq, Repr

/-- `krs_array_create`. -/
def krsArrayCreate (initialCapacity : Nat) : PointerArray α :=
  { items := []
    capacity := if initialCapacity = 0 then 8 else initialCapacity }

/-- `krs_array_push`: the array, unless it has to grow and cannot. -/
def krsArrayPush
    (array : PointerArray α)
    (item : α)
    (allocations : Allocations) : Option (PointerArray α) :=
  if array.items.length ≥ array.capacity then
    if (nextAllocation allocations).1 then
      some
        { items := array.items ++ [item]
          capacity := if array.capacity = 0 then 8 else array.capacity * 2 }
    else none
  else some { array with items := array.items ++ [item] }

/-- An `Address_t`. -/
abbrev Address := Vector UInt8 16

/-- A `UDPSocketDescriptor_t`, as far as its registration goes: its socket, the
port, and the address to which the socket is bound. -/
structure BoundDescriptor where
  socket : Nat
  port : UInt16
  address : Address
  deriving DecidableEq, Repr

/-- `ServerPortManager_t`, as far as its ports go, with the number of sockets
opened so far and the descriptors destroyed so far. -/
structure PortManager where
  portTable : PortTable BoundDescriptor
  descriptorList : PointerArray BoundDescriptor
  defaultAddress : Address
  sockets : Nat := 0
  destroyed : List BoundDescriptor := []
  deriving DecidableEq, Repr

/-- `krs_server_port_manager_create`. -/
def krsServerPortManagerCreate (defaultAddress : Address) : PortManager :=
  { portTable := krsLibPortTableCreate
    descriptorList := krsArrayCreate 8
    defaultAddress := defaultAddress }

/-- `krs_server_port_manager_port_add_with_address`.  `opened` is whether the
operating system opens the socket and binds it. -/
def krsServerPortManagerPortAddWithAddress
    (manager : PortManager)
    (port : UInt16)
    (address : Address)
    (opened : Bool)
    (allocations : Allocations) : PortManager × KronosResult :=
  if !opened then
    (manager, .wMsg .serverBindFailed "socket creation failed")
  else
    let socketHandler : BoundDescriptor :=
      { socket := manager.sockets, port := port, address := address }
    let inserted := krsLibPortTableInsert manager.portTable port socketHandler
      allocations
    match krsArrayPush manager.descriptorList socketHandler inserted.2 with
    | none =>
        ({ manager with
            portTable := inserted.1
            sockets := manager.sockets + 1
            destroyed := socketHandler :: manager.destroyed },
          .wMsg .memoryAllocation "Failed to grow array")
    | some descriptorList =>
        ({ manager with
            portTable := inserted.1
            descriptorList := descriptorList
            sockets := manager.sockets + 1 },
          .suc)

/-- `krs_server_port_manager_port_add`. -/
def krsServerPortManagerPortAdd
    (manager : PortManager)
    (port : UInt16)
    (opened : Bool)
    (allocations : Allocations) : PortManager × KronosResult :=
  krsServerPortManagerPortAddWithAddress manager port manager.defaultAddress
    opened allocations

/-- The descriptor that `krs_server_message_handler_thread` takes for a datagram
that arrived on the socket of a descriptor. -/
def handlingDescriptor (manager : PortManager) (arrived : BoundDescriptor) :
    Option BoundDescriptor :=
  krsLibPortTableLookup manager.portTable arrived.port

/-- A call that adds a port, at an address or at the default one, with the
outcome of opening its socket. -/
structure PortCall where
  port : UInt16
  address : Option Address := none
  opened : Bool := true
  deriving DecidableEq, Repr

/-- The call, with allocations that succeed. -/
def addPort (manager : PortManager) (call : PortCall) :
    PortManager × KronosResult :=
  match call.address with
  | none => krsServerPortManagerPortAdd manager call.port call.opened []
  | some address =>
      krsServerPortManagerPortAddWithAddress manager call.port address
        call.opened []

/-- Calls on a new port manager. -/
def addPorts (defaultAddress : Address) (calls : List PortCall) :
    PortManager :=
  calls.foldl (fun manager call => (addPort manager call).1)
    (krsServerPortManagerCreate defaultAddress)

/-- Both registries have the same descriptors: for a port of the list the table
finds the descriptor of the list, which handles the datagrams of its socket,
and the destructor of the table destroys it. -/
structure PortManager.Agrees (manager : PortManager) : Prop where
  found : ∀ descriptor ∈ manager.descriptorList.items,
    krsLibPortTableLookup manager.portTable descriptor.port = some descriptor
  handled : ∀ descriptor ∈ manager.descriptorList.items,
    handlingDescriptor manager descriptor = some descriptor
  reached : ∀ descriptor ∈ manager.descriptorList.items,
    descriptor ∈ krsLibPortTableDestroy manager.portTable

/-! ## What the registries hold -/

/-- The list has a descriptor for every socket, and the table the first one of
each port. -/
structure PortManager.Registers
    (manager : PortManager)
    (links : List (PortLink BoundDescriptor)) : Prop where
  holds : manager.portTable.Holds links
  first : ∀ port, (lookup PortLink.port links port).map
      PortLink.socketHandler =
    lookup BoundDescriptor.port manager.descriptorList.items port
  nodup : manager.descriptorList.items.Nodup
  opened : ∀ descriptor ∈ manager.descriptorList.items,
    descriptor.socket < manager.sockets

theorem krsArrayPush_items (array : PointerArray α) (item : α) :
    ∃ after, krsArrayPush array item [] = some after ∧
      after.items = array.items ++ [item] := by
  unfold krsArrayPush
  split
  case isTrue => exact ⟨_, rfl, rfl⟩
  case isFalse => exact ⟨_, rfl, rfl⟩

/-- The address of a call. -/
def PortCall.boundAddress (call : PortCall) (manager : PortManager) : Address :=
  call.address.getD manager.defaultAddress

/-- A call that opens its socket registers a new descriptor at the end of the
list, and succeeds. -/
theorem addPort_opened
    {call : PortCall}
    (manager : PortManager)
    (opened : call.opened = true) :
    let descriptor : BoundDescriptor :=
      { socket := manager.sockets
        port := call.port
        address := call.boundAddress manager }
    ∃ list, list.items = manager.descriptorList.items ++ [descriptor] ∧
      addPort manager call =
        ({ manager with
            portTable := (krsLibPortTableInsert manager.portTable call.port
              descriptor []).1
            descriptorList := list
            sockets := manager.sockets + 1 },
          .suc) := by
  intro descriptor
  obtain ⟨list, pushed, items⟩ := krsArrayPush_items manager.descriptorList
    descriptor
  refine ⟨list, items, ?_⟩
  have added : addPort manager call =
      krsServerPortManagerPortAddWithAddress manager call.port
        (call.boundAddress manager) call.opened [] := by
    unfold addPort PortCall.boundAddress
    cases call.address <;> rfl
  simp only [added, krsServerPortManagerPortAddWithAddress, opened,
    Bool.not_true, Bool.false_eq_true, if_false,
    krsLibPortTableInsert_allocations, List.drop_nil]
  change (match krsArrayPush manager.descriptorList descriptor [] with
    | none => _
    | some _ => _) = _
  rw [pushed]

/-- A call whose socket cannot be opened fails and changes nothing. -/
theorem addPort_refused
    {call : PortCall}
    (manager : PortManager)
    (refused : call.opened = false) :
    addPort manager call =
      (manager, .wMsg .serverBindFailed "socket creation failed") := by
  unfold addPort
  cases call.address with
  | none =>
      rw [krsServerPortManagerPortAdd, krsServerPortManagerPortAddWithAddress,
        refused]
      rfl
  | some address =>
      simp only [krsServerPortManagerPortAddWithAddress, refused]
      rfl

/-- A call keeps what the registries hold. -/
theorem PortManager.Registers.add
    {manager : PortManager}
    {links : List (PortLink BoundDescriptor)}
    (registers : manager.Registers links)
    (call : PortCall) :
    ∃ links, (addPort manager call).1.Registers links := by
  cases opened : call.opened with
  | false =>
      rw [addPort_refused manager opened]
      exact ⟨links, registers⟩
  | true =>
      obtain ⟨list, items, added⟩ := addPort_opened manager opened
      rw [added]
      refine ⟨_, registers.holds.krsLibPortTableInsert _ _, ?_, ?_, ?_⟩
      · intro port
        simp only
        rw [items, lookup_insertNew]
        have first := registers.first port
        unfold lookup at first ⊢
        rw [List.find?_append, List.find?_append, ← first]
        cases List.find? (fun link => link.port == port) links with
        | some link => rfl
        | none =>
            rw [Option.none_or, Option.map_none, Option.none_or,
              List.find?_singleton, List.find?_singleton]
            simp only
            split <;> rfl
      · simp only
        rw [items, List.nodup_append']
        refine ⟨registers.nodup, List.nodup_singleton _, ?_⟩
        intro descriptor earlier last
        rw [List.mem_singleton] at last
        subst last
        exact Nat.lt_irrefl _ (registers.opened _ earlier)
      · intro descriptor member
        simp only at member
        rw [items, List.mem_append, List.mem_singleton] at member
        rcases member with earlier | rfl
        · exact Nat.lt_succ_of_lt (registers.opened descriptor earlier)
        · exact Nat.lt_succ_self _

theorem addPorts_registers
    (defaultAddress : Address)
    (calls : List PortCall) :
    ∃ links, (addPorts defaultAddress calls).Registers links := by
  induction calls using List.reverseRecOn with
  | nil =>
      refine ⟨[], krsLibPortTableCreate_holds, ?_, List.nodup_nil, ?_⟩
      · intro port
        rfl
      · intro descriptor member
        cases member
  | append_singleton calls call inductionHypothesis =>
      obtain ⟨links, registers⟩ := inductionHypothesis
      rw [addPorts, List.foldl_append]
      exact registers.add call

/-- The ports of the list are those of the calls that succeed, in order. -/
theorem addPorts_ports
    (defaultAddress : Address)
    (calls : List PortCall) :
    (addPorts defaultAddress calls).descriptorList.items.map
        BoundDescriptor.port =
      (calls.filter PortCall.opened).map PortCall.port := by
  induction calls using List.reverseRecOn with
  | nil => rfl
  | append_singleton calls call inductionHypothesis =>
      rw [addPorts, List.foldl_append, List.filter_append, List.map_append,
        ← inductionHypothesis]
      simp only [List.foldl_cons, List.foldl_nil]
      cases opened : call.opened with
      | false =>
          rw [addPort_refused _ opened, List.filter_singleton, opened]
          exact (List.append_nil _).symm
      | true =>
          obtain ⟨list, items, added⟩ := addPort_opened
            (addPorts defaultAddress calls) opened
          rw [addPorts] at added
          rw [added, List.filter_singleton, opened]
          simp only [items, List.map_append]
          rfl

theorem PortManager.Registers.agrees_iff
    {manager : PortManager}
    {links : List (PortLink BoundDescriptor)}
    (registers : manager.Registers links) :
    manager.Agrees ↔
      DistinctKeys BoundDescriptor.port manager.descriptorList.items := by
  have found := fun port => (registers.holds.krsLibPortTableLookup port).trans
    (registers.first port)
  rw [distinctKeys_iff_lookup_self registers.nodup]
  constructor
  · intro agrees descriptor member
    rw [← found]
    exact agrees.found descriptor member
  · intro distinct
    have looked : ∀ descriptor ∈ manager.descriptorList.items,
        krsLibPortTableLookup manager.portTable descriptor.port =
          some descriptor := by
      intro descriptor member
      rw [found]
      exact distinct descriptor member
    refine ⟨looked, looked, ?_⟩
    intro descriptor member
    rw [registers.holds.mem_krsLibPortTableDestroy]
    have linked := registers.first descriptor.port
    rw [distinct descriptor member] at linked
    obtain ⟨link, inLinks, handler⟩ := Option.map_eq_some_iff.mp linked
    exact ⟨link, lookup_mem inLinks, handler⟩

/-- Whatever ports are added, at whatever addresses, and whatever the operating
system says: both registries have the same descriptors, each datagram is
handled by the descriptor of its socket, and the destructor reaches every
descriptor, exactly if the calls that succeed all have different ports. -/
theorem registries_agree_iff
    (defaultAddress : Address)
    (calls : List PortCall) :
    (∀ manager call, (addPort manager call).2.valid = call.opened) ∧
    ((addPorts defaultAddress calls).Agrees ↔
      ((calls.filter PortCall.opened).map PortCall.port).Nodup) := by
  constructor
  · intro manager call
    cases opened : call.opened with
    | false => rw [addPort_refused manager opened]; rfl
    | true =>
        obtain ⟨list, -, added⟩ := addPort_opened manager opened
        rw [added]
        rfl
  · obtain ⟨links, registers⟩ := addPorts_registers defaultAddress calls
    rw [registers.agrees_iff, DistinctKeys, addPorts_ports]

/-- One port on two addresses: both calls succeed, and the table has the first
descriptor only. -/
theorem second_address_not_registered :
    let start := krsServerPortManagerCreate (Vector.replicate 16 0)
    let first := krsServerPortManagerPortAdd start 5000 true []
    let second := krsServerPortManagerPortAddWithAddress first.1 5000
      (Vector.replicate 16 1) true []
    first.2.valid = true ∧ second.2.valid = true ∧ ¬ second.1.Agrees := by
  intro start first second
  refine ⟨by decide +kernel, by decide +kernel, ?_⟩
  intro agrees
  have found := agrees.found
    { socket := 1, port := 5000, address := Vector.replicate 16 1 }
    (by decide +kernel)
  exact absurd found (by decide +kernel)

end Kronos
