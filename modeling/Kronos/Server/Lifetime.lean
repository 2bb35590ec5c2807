import Kronos.Server.Threads

/-!
# The lifetime of connections

A connection starts with one reference, that of its owner: the lists of its
port, and after a removal the thread that finalizes it.  Every other reference
belongs to a thread that has acquired the connection.  As long as no connection
is finalized before its `CONNECTION` handler has entered it into the map, a
connection whose owner is gone is on no list and not in the map, so that the
last release frees it once and for all.
-/

namespace Kronos

open Library

/-! ## References -/

/-- What the threads hold together. -/
structure Claims where
  acquired : Multiset ConnectionRef
  removing : Multiset ConnectionRef
  releasing : Multiset ConnectionRef
  registering : Multiset ConnectionRef

/-- The claims of a pool of threads. -/
def claimsOf (threads : List ServerThread) : Claims :=
  { acquired := gathered ServerThread.acquired threads
    removing := gathered ServerThread.removing threads
    releasing := gathered ServerThread.releasing threads
    registering := gathered ServerThread.registering threads }

/-- The references of a connection that no thread has acquired. -/
def surplus
    (spm : ServerPortManager)
    (acquired : Multiset ConnectionRef)
    (ref : ConnectionRef) : Option Int :=
  spm.connections[ref]?.map fun conn => conn.refcount - acquired.count ref

/-- The owner of a connection has not released it. -/
def Owned
    (spm : ServerPortManager)
    (claims : Claims)
    (ref : ConnectionRef) : Prop :=
  surplus spm claims.acquired ref = some 1

/-- No list has the connection. -/
def Unlisted (spm : ServerPortManager) (ref : ConnectionRef) : Prop :=
  ∀ descriptor channel, ref ∉ listed spm descriptor channel

/-- The invariant of the connections. -/
structure Lifetimes (spm : ServerPortManager) (claims : Claims) : Prop where
  known : ∀ ref count, surplus spm claims.acquired ref = some count ->
    count = 1 ∨ count = 0
  held : ∀ ref ∈ claims.acquired, ref < spm.connections.length
  freed : ∀ (ref : ConnectionRef) (conn : ClientConnection),
    spm.connections[ref]? = some conn ->
      (conn.freed = true ↔ conn.refcount = 0)
  members : ∀ descriptor channel, ∀ ref ∈ listed spm descriptor channel,
    Owned spm claims ref
  onePort : ∀ left right first second ref,
    ref ∈ listed spm left first ->
      ref ∈ listed spm right second -> left = right
  orphaned : ∀ ref ∈ claims.removing + claims.releasing,
    Owned spm claims ref ∧ Unlisted spm ref
  once : (claims.removing + claims.releasing).Nodup
  placed : ProbeTable.Placed idHash spm.connectionMap.entries.slots
  mapped : ∀ connectionId entry,
    Slot.live connectionId entry ∈ spm.connectionMap.entries.slots ->
      Owned spm claims entry.connection ∧
        entry.connection ∉ claims.releasing ∧
        spm.connectionIdOf entry.connection = connectionId
  registering : ∀ ref ∈ claims.registering,
    Owned spm claims ref ∧ ref ∉ claims.releasing

/-- A connection that nobody can find any more. -/
structure Forgotten
    (spm : ServerPortManager)
    (claims : Claims)
    (ref : ConnectionRef) : Prop where
  unlisted : Unlisted spm ref
  unmapped : ∀ connectionId entry,
    Slot.live connectionId entry ∈ spm.connectionMap.entries.slots ->
      entry.connection ≠ ref
  acquired : ref ∉ claims.acquired
  removing : ref ∉ claims.removing
  releasing : ref ∉ claims.releasing
  registering : ref ∉ claims.registering

/-- What the life of a connection depends on is the same. -/
structure SameLifetime (before after : ClientConnection) : Prop where
  connectionId : after.connectionId = before.connectionId
  refcount : after.refcount = before.refcount
  freed : after.freed = before.freed

theorem SameLifetime.refl (conn : ClientConnection) :
    SameLifetime conn conn := ⟨rfl, rfl, rfl⟩

section

variable
  {before after : ServerPortManager}
  {claims rest : Claims}

theorem Owned.lt
    {ref : ConnectionRef}
    (owned : Owned before claims ref) :
    ref < before.connections.length := by
  obtain ⟨conn, read, -⟩ := Option.map_eq_some_iff.mp owned
  exact (List.getElem?_eq_some_iff.mp read).1

/-- A step that moves references around without touching the owner's. -/
theorem Lifetimes.change
    (lifetimes : Lifetimes before claims)
    {acquired : Multiset ConnectionRef}
    (same : surplus after acquired = surplus before claims.acquired)
    (held : ∀ ref ∈ acquired, ref < after.connections.length)
    (freed : ∀ (ref : ConnectionRef) (conn : ClientConnection),
      after.connections[ref]? = some conn ->
        (conn.freed = true ↔ conn.refcount = 0))
    (lists : ∀ descriptor channel, ∀ ref ∈ listed after descriptor channel,
      ∃ other, ref ∈ listed before descriptor other)
    (map : after.connectionMap = before.connectionMap)
    (ids : after.connectionIdOf = before.connectionIdOf) :
    Lifetimes after { claims with acquired := acquired } := by
  have owned : ∀ ref, Owned after { claims with acquired := acquired } ref ↔
      Owned before claims ref := by
    intro ref
    unfold Owned
    rw [same]
  refine ⟨?_, held, freed, ?_, ?_, ?_, lifetimes.once, ?_, ?_, ?_⟩
  · dsimp only
    rw [same]
    exact lifetimes.known
  · intro descriptor channel ref member
    obtain ⟨other, old⟩ := lists descriptor channel ref member
    exact (owned ref).mpr (lifetimes.members descriptor other ref old)
  · intro left right first second ref leftIn rightIn
    obtain ⟨_, leftOld⟩ := lists left first ref leftIn
    obtain ⟨_, rightOld⟩ := lists right second ref rightIn
    exact lifetimes.onePort left right _ _ ref leftOld rightOld
  · intro ref orphan
    obtain ⟨own, unlisted⟩ := lifetimes.orphaned ref orphan
    refine ⟨(owned ref).mpr own, fun descriptor channel member => ?_⟩
    obtain ⟨other, old⟩ := lists descriptor channel ref member
    exact unlisted descriptor other old
  · rw [map]
    exact lifetimes.placed
  · intro connectionId entry bound
    rw [map] at bound
    rw [owned, ids]
    exact lifetimes.mapped connectionId entry bound
  · intro ref pending
    rw [owned]
    exact lifetimes.registering ref pending

theorem connectionIdOf_of_related
    {relation : ConnectionRef -> ClientConnection -> ClientConnection -> Prop}
    (heap : IndexRelated relation before.connections after.connections)
    (sameId : ∀ ref old new, relation ref old new ->
      new.connectionId = old.connectionId) :
    after.connectionIdOf = before.connectionIdOf := by
  funext ref
  unfold ServerPortManager.connectionIdOf
  rcases heap.read_cases ref with ⟨noneBefore, noneAfter⟩ |
    ⟨old, new, oldRead, newRead, related⟩
  · rw [noneBefore, noneAfter]
  · rw [oldRead, newRead]
    exact sameId ref old new related

/-- A step that changes no reference count and lists nobody new. -/
theorem Lifetimes.frame
    (lifetimes : Lifetimes before claims)
    (heap : IndexRelated (fun _ => SameLifetime) before.connections
      after.connections)
    (lists : ∀ descriptor channel, ∀ ref ∈ listed after descriptor channel,
      ∃ other, ref ∈ listed before descriptor other)
    (map : after.connectionMap = before.connectionMap) :
    Lifetimes after claims := by
  refine lifetimes.change ?_ ?_ ?_ lists map
    (connectionIdOf_of_related heap fun _ _ _ same => same.connectionId)
  · funext ref
    unfold surplus
    rcases heap.read_cases ref with ⟨noneBefore, noneAfter⟩ |
      ⟨old, new, oldRead, newRead, same⟩
    · rw [noneBefore, noneAfter]
    · rw [oldRead, newRead, Option.map_some, Option.map_some, same.refcount]
  · intro ref member
    rw [heap.1]
    exact lifetimes.held ref member
  · intro ref new newRead
    obtain ⟨old, oldRead, same⟩ := heap.exists_old newRead
    rw [same.freed, same.refcount]
    exact lifetimes.freed ref old oldRead

/-! ## Acquiring and releasing -/

theorem getElem?_modifyConnection
    (spm : ServerPortManager)
    (connection ref : ConnectionRef)
    (change : ClientConnection -> ClientConnection) :
    (spm.modifyConnection connection change).connections[ref]? =
      if connection = ref then spm.connections[ref]?.map change
      else spm.connections[ref]? := by
  unfold ServerPortManager.modifyConnection
  rw [List.getElem?_modify]
  split
  case isTrue => rfl
  case isFalse => simp

/-- A step that changes the reference count of one connection by as much as the
threads hold more of it. -/
theorem surplus_modifyConnection
    (spm : ServerPortManager)
    (connection : ConnectionRef)
    {change : ClientConnection -> ClientConnection}
    {acquired taken : Multiset ConnectionRef}
    (balanced : ∀ conn, (change conn).refcount - taken.count connection =
      conn.refcount - acquired.count connection)
    (others : ∀ ref ≠ connection, taken.count ref = acquired.count ref) :
    surplus (spm.modifyConnection connection change) taken =
      surplus spm acquired := by
  funext ref
  unfold surplus
  rw [getElem?_modifyConnection]
  split
  case isTrue same =>
    subst same
    rw [Option.map_map]
    congr 1
    funext conn
    exact balanced conn
  case isFalse different => rw [others ref (Ne.symm different)]

theorem modifyConnection_connectionIdOf
    (spm : ServerPortManager)
    (connection : ConnectionRef)
    {change : ClientConnection -> ClientConnection}
    (sameId : ∀ conn, (change conn).connectionId = conn.connectionId) :
    (spm.modifyConnection connection change).connectionIdOf =
      spm.connectionIdOf := by
  funext ref
  unfold ServerPortManager.connectionIdOf
  rw [getElem?_modifyConnection]
  by_cases same : connection = ref
  · rw [if_pos same]
    cases spm.connections[ref]? with
    | none => rfl
    | some conn => exact sameId conn
  · rw [if_neg same]

theorem releaseConnection_refcount (conn : ClientConnection) :
    (releaseConnection conn).refcount = conn.refcount - 1 := by
  unfold releaseConnection
  dsimp only
  split <;> rfl

theorem releaseConnection_connectionId (conn : ClientConnection) :
    (releaseConnection conn).connectionId = conn.connectionId := by
  unfold releaseConnection
  dsimp only
  split <;> rfl

/-- A release of a connection that is not freed frees it when it was the
last. -/
theorem releaseConnection_freed_iff
    {conn : ClientConnection}
    (alive : conn.freed = false) :
    (releaseConnection conn).freed = true ↔
      (releaseConnection conn).refcount = 0 := by
  rw [releaseConnection_refcount]
  unfold releaseConnection
  dsimp only
  split
  case isTrue nonzero =>
    rw [alive]
    exact ⟨nofun, fun zero => absurd zero nonzero⟩
  case isFalse zero => exact ⟨fun _ => not_not.mp zero, fun _ => rfl⟩

/-- An owned connection has a reference, and so has an acquired one. -/
theorem Lifetimes.alive
    (lifetimes : Lifetimes before claims)
    {ref : ConnectionRef}
    {conn : ClientConnection}
    (read : before.connections[ref]? = some conn)
    (kept : Owned before claims ref ∨ ref ∈ claims.acquired) :
    conn.freed = false ∧ 1 ≤ conn.refcount := by
  have balance : surplus before claims.acquired ref =
      some (conn.refcount - claims.acquired.count ref) := by
    rw [surplus, read]
    rfl
  have positive : 1 ≤ conn.refcount := by
    rcases kept with owned | acquired
    · rw [Owned, balance] at owned
      have := Option.some.inj owned
      omega
    · have held := Multiset.count_pos.mpr acquired
      rcases lifetimes.known ref _ balance with one | zero
      · omega
      · omega
  refine ⟨?_, positive⟩
  rw [← Bool.not_eq_true, lifetimes.freed ref conn read]
  omega

/-- Acquiring a connection keeps the references that no thread has acquired. -/
theorem surplus_acquireConnection
    (spm : ServerPortManager)
    (connection : ConnectionRef)
    (acquired : Multiset ConnectionRef) :
    surplus (acquireConnection spm connection) (connection ::ₘ acquired) =
      surplus spm acquired := by
  refine surplus_modifyConnection spm connection ?_ ?_
  · intro conn
    rw [Multiset.count_cons_self]
    push_cast
    omega
  · intro ref different
    exact Multiset.count_cons_of_ne different _

/-- A thread takes a reference on a connection that its owner still has. -/
theorem Lifetimes.acquire
    (lifetimes : Lifetimes before claims)
    {connection : ConnectionRef}
    (owned : Owned before claims connection) :
    Lifetimes (acquireConnection before connection)
      { claims with acquired := connection ::ₘ claims.acquired } := by
  have length : (acquireConnection before connection).connections.length =
      before.connections.length := List.length_modify ..
  refine lifetimes.change ?_ ?_ ?_ (fun _ channel _ member =>
    ⟨channel, member⟩) rfl
    (modifyConnection_connectionIdOf before connection fun _ => rfl)
  · exact surplus_acquireConnection before connection claims.acquired
  · intro ref member
    rw [length]
    rcases Multiset.mem_cons.mp member with rfl | old
    · exact owned.lt
    · exact lifetimes.held ref old
  · intro ref conn read
    unfold acquireConnection at read
    rw [getElem?_modifyConnection] at read
    split at read
    case isTrue same =>
      subst same
      obtain ⟨old, oldRead, rfl⟩ := Option.map_eq_some_iff.mp read
      obtain ⟨alive, positive⟩ := lifetimes.alive oldRead (Or.inl owned)
      dsimp only
      rw [alive]
      exact ⟨nofun, fun zero => by omega⟩
    case isFalse => exact lifetimes.freed ref conn read

theorem release_freed
    (lifetimes : Lifetimes before claims)
    {connection : ConnectionRef}
    (kept : Owned before claims connection ∨ connection ∈ claims.acquired)
    (ref : ConnectionRef)
    (conn : ClientConnection)
    (read : (krsConnectionMapRelease before connection).connections[ref]? =
      some conn) :
    conn.freed = true ↔ conn.refcount = 0 := by
  unfold krsConnectionMapRelease at read
  rw [getElem?_modifyConnection] at read
  split at read
  case isTrue same =>
    subst same
    obtain ⟨old, oldRead, rfl⟩ := Option.map_eq_some_iff.mp read
    exact releaseConnection_freed_iff (lifetimes.alive oldRead kept).1
  case isFalse => exact lifetimes.freed ref conn read

/-- A thread gives a reference back. -/
theorem Lifetimes.giveBack
    {connection : ConnectionRef}
    (lifetimes : Lifetimes before
      { rest with acquired := connection ::ₘ rest.acquired }) :
    Lifetimes (krsConnectionMapRelease before connection) rest := by
  have length : (krsConnectionMapRelease before
      connection).connections.length = before.connections.length :=
    List.length_modify ..
  refine lifetimes.change ?_ ?_
    (release_freed lifetimes (Or.inr (Multiset.mem_cons_self _ _)))
    (fun _ channel _ member => ⟨channel, member⟩) rfl
    (modifyConnection_connectionIdOf before connection
      releaseConnection_connectionId)
  · refine surplus_modifyConnection before connection ?_ ?_
    · intro conn
      rw [Multiset.count_cons_self, releaseConnection_refcount]
      push_cast
      omega
    · intro ref different
      exact (Multiset.count_cons_of_ne different _).symm
  · intro ref member
    rw [length]
    exact lifetimes.held ref (Multiset.mem_cons_of_mem member)

/-- The owner releases a connection that is on no list and not in the map. -/
theorem Lifetimes.retire
    {connection : ConnectionRef}
    (lifetimes : Lifetimes before
      { rest with releasing := connection ::ₘ rest.releasing }) :
    Lifetimes (krsConnectionMapRelease before connection) rest := by
  have member : connection ∈ rest.removing +
      (connection ::ₘ rest.releasing) :=
    Multiset.mem_add.mpr (Or.inr (Multiset.mem_cons_self _ _))
  obtain ⟨own, unlisted⟩ := lifetimes.orphaned connection member
  have once := lifetimes.once
  dsimp only at once
  rw [Multiset.add_cons, Multiset.nodup_cons] at once
  have same : ∀ ref ≠ connection,
      surplus (krsConnectionMapRelease before connection) rest.acquired ref =
        surplus before rest.acquired ref := by
    intro ref different
    unfold surplus krsConnectionMapRelease
    rw [getElem?_modifyConnection, if_neg (Ne.symm different)]
  have owned : ∀ ref ≠ connection, Owned before
      { rest with releasing := connection ::ₘ rest.releasing } ref ->
        Owned (krsConnectionMapRelease before connection) rest ref := by
    intro ref different ownedBefore
    unfold Owned at ownedBefore ⊢
    rw [same ref different]
    exact ownedBefore
  refine ⟨?_, ?_, release_freed lifetimes (Or.inl own), ?_,
    lifetimes.onePort, ?_, once.2, lifetimes.placed, ?_, ?_⟩
  · intro ref count balance
    by_cases here : ref = connection
    · subst here
      obtain ⟨conn, read, one⟩ := Option.map_eq_some_iff.mp own
      right
      unfold surplus krsConnectionMapRelease at balance
      rw [getElem?_modifyConnection, if_pos rfl, read] at balance
      have value := Option.some.inj balance
      dsimp only at value one
      rw [releaseConnection_refcount] at value
      omega
    · rw [same ref here] at balance
      exact lifetimes.known ref count balance
  · intro ref acquired
    rw [show (krsConnectionMapRelease before connection).connections.length =
      before.connections.length from List.length_modify ..]
    exact lifetimes.held ref acquired
  · intro descriptor channel ref listedHere
    refine owned ref ?_ (lifetimes.members descriptor channel ref listedHere)
    rintro rfl
    exact unlisted descriptor channel listedHere
  · intro ref orphan
    have different : ref ≠ connection := by
      rintro rfl
      exact once.1 orphan
    have before := lifetimes.orphaned ref (by
      dsimp only
      rw [Multiset.add_cons]
      exact Multiset.mem_cons_of_mem orphan)
    exact ⟨owned ref different before.1, before.2⟩
  · intro connectionId entry bound
    obtain ⟨ownedBefore, kept, named⟩ :=
      lifetimes.mapped connectionId entry bound
    obtain ⟨different, absent⟩ :=
      not_or.mp (fun either => kept (Multiset.mem_cons.mpr either))
    refine ⟨owned _ different ownedBefore, absent, ?_⟩
    rw [← named]
    exact congrFun (modifyConnection_connectionIdOf before connection
      releaseConnection_connectionId) _
  · intro ref pending
    obtain ⟨ownedBefore, kept⟩ := lifetimes.registering ref pending
    obtain ⟨different, absent⟩ :=
      not_or.mp (fun either => kept (Multiset.mem_cons.mpr either))
    exact ⟨owned ref different ownedBefore, absent⟩

/-! ## The last release -/

theorem isLastReference_eq_true
    {ref : ConnectionRef}
    (last : isLastReference before ref = true) :
    ∃ conn, before.connections[ref]? = some conn ∧ conn.refcount = 1 := by
  unfold isLastReference at last
  split at last
  case h_1 => cases last
  case h_2 conn read => exact ⟨conn, read, by simpa [sub_eq_zero] using last⟩

/-- When a thread gives the last reference back, nobody finds the connection any
more. -/
theorem Lifetimes.forgotten_giveBack
    {connection : ConnectionRef}
    (lifetimes : Lifetimes before
      { rest with acquired := connection ::ₘ rest.acquired })
    (last : isLastReference before connection = true) :
    Forgotten before rest connection := by
  obtain ⟨conn, read, one⟩ := isLastReference_eq_true last
  have balance : surplus before (connection ::ₘ rest.acquired) connection =
      some (-(rest.acquired.count connection : Int)) := by
    rw [surplus, read, Option.map_some, one, Multiset.count_cons_self]
    push_cast
    congr 1
    omega
  have gone : ¬ Owned before
      { rest with acquired := connection ::ₘ rest.acquired } connection := by
    intro owned
    rw [Owned, balance] at owned
    have := Option.some.inj owned
    omega
  refine ⟨?_, ?_, ?_, ?_, ?_, ?_⟩
  · intro descriptor channel member
    exact gone (lifetimes.members descriptor channel connection member)
  · rintro connectionId entry bound rfl
    exact gone (lifetimes.mapped connectionId entry bound).1
  · rw [← Multiset.count_eq_zero]
    rcases lifetimes.known connection _ balance with impossible | zero
    · omega
    · omega
  · intro orphan
    exact gone (lifetimes.orphaned connection
      (Multiset.mem_add.mpr (Or.inl orphan))).1
  · intro orphan
    exact gone (lifetimes.orphaned connection
      (Multiset.mem_add.mpr (Or.inr orphan))).1
  · intro pending
    exact gone (lifetimes.registering connection pending).1

/-- When the owner releases the last reference, nobody finds the connection any
more. -/
theorem Lifetimes.forgotten_retire
    {connection : ConnectionRef}
    (lifetimes : Lifetimes before
      { rest with releasing := connection ::ₘ rest.releasing })
    (last : isLastReference before connection = true) :
    Forgotten before rest connection := by
  obtain ⟨conn, read, one⟩ := isLastReference_eq_true last
  have member : connection ∈ rest.removing +
      (connection ::ₘ rest.releasing) :=
    Multiset.mem_add.mpr (Or.inr (Multiset.mem_cons_self _ _))
  obtain ⟨own, unlisted⟩ := lifetimes.orphaned connection member
  have once := lifetimes.once
  dsimp only at once
  rw [Multiset.add_cons, Multiset.nodup_cons, Multiset.mem_add,
    not_or] at once
  refine ⟨unlisted, ?_, ?_, once.1.1, once.1.2, ?_⟩
  · rintro connectionId entry bound rfl
    exact (lifetimes.mapped connectionId entry bound).2.1
      (Multiset.mem_cons_self _ _)
  · rw [← Multiset.count_eq_zero]
    rw [Owned, surplus, read, Option.map_some, one] at own
    have := Option.some.inj own
    dsimp only at this
    omega
  · intro pending
    exact (lifetimes.registering connection pending).2
      (Multiset.mem_cons_self _ _)

/-! ## Joining and leaving -/

/-- A new connection is on a list, with a handler that will enter it into the
map. -/
theorem Lifetimes.join
    (lifetimes : Lifetimes before claims)
    {descriptor : Nat}
    {conn : ClientConnection}
    (heap : after.connections = before.connections ++ [conn])
    (one : conn.refcount = 1)
    (alive : conn.freed = false)
    (lists : ChangesLists before after descriptor
      (.join before.connections.length))
    (map : after.connectionMap = before.connectionMap) :
    Lifetimes after
      { claims with
        registering := before.connections.length ::ₘ claims.registering } := by
  have length : after.connections.length =
      before.connections.length + 1 := by
    rw [heap, List.length_append, List.length_singleton]
  have unheld : claims.acquired.count before.connections.length = 0 := by
    rw [Multiset.count_eq_zero]
    intro held
    exact Nat.lt_irrefl _ (lifetimes.held _ held)
  have newcomer : surplus after claims.acquired
      before.connections.length = some 1 := by
    rw [surplus, heap, List.getElem?_concat_length, Option.map_some, one,
      unheld]
    rfl
  have old : ∀ ref < before.connections.length,
      surplus after claims.acquired ref =
        surplus before claims.acquired ref := by
    intro ref inside
    rw [surplus, surplus, heap, List.getElem?_append_left inside]
  have owned : ∀ ref, Owned before claims ref -> Owned after
      { claims with
        registering := before.connections.length ::ₘ claims.registering }
      ref := by
    intro ref own
    unfold Owned
    rw [old ref own.lt]
    exact own
  have joined : ∀ other channel ref, ref ∈ listed after other channel ->
      ref ∈ listed before other channel ∨
        other = descriptor ∧ ref = before.connections.length := by
    intro other channel ref member
    rw [lists other] at member
    split at member
    case isFalse => exact Or.inl member
    case isTrue same =>
      simp only [RosterOp.apply, Function.update_apply] at member
      split at member
      case isFalse => exact Or.inl member
      case isTrue onBase =>
        subst onBase
        rcases List.mem_append.mp member with earlier | last
        · exact Or.inl earlier
        · exact Or.inr ⟨same, List.mem_singleton.mp last⟩
  have unknown : ∀ other channel,
      before.connections.length ∉ listed before other channel := by
    intro other channel member
    exact Nat.lt_irrefl _ (lifetimes.members other channel _ member).lt
  have notReleasing : before.connections.length ∉ claims.releasing := by
    intro orphan
    exact Nat.lt_irrefl _ (lifetimes.orphaned _
      (Multiset.mem_add.mpr (Or.inr orphan))).1.lt
  refine ⟨?_, ?_, ?_, ?_, ?_, ?_, lifetimes.once, ?_, ?_, ?_⟩
  · intro ref count balance
    obtain ⟨conn, read, -⟩ := Option.map_eq_some_iff.mp balance
    have inside := (List.getElem?_eq_some_iff.mp read).1
    by_cases here : ref = before.connections.length
    · subst here
      rw [newcomer] at balance
      exact Or.inl (Option.some.inj balance).symm
    · rw [length] at inside
      rw [old ref (Nat.lt_of_le_of_ne (Nat.le_of_lt_succ inside) here)]
        at balance
      exact lifetimes.known ref count balance
  · intro ref held
    rw [length]
    exact Nat.lt_succ_of_lt (lifetimes.held ref held)
  · intro ref other read
    rw [heap, List.getElem?_append] at read
    split at read
    case isTrue => exact lifetimes.freed ref other read
    case isFalse =>
      rw [List.mem_singleton.mp (List.mem_of_getElem? read), alive, one]
      exact ⟨fun gone => absurd gone Bool.false_ne_true,
        fun unreferenced => absurd unreferenced (by decide)⟩
  · intro other channel ref member
    rcases joined other channel ref member with earlier | ⟨-, rfl⟩
    · exact owned ref (lifetimes.members other channel ref earlier)
    · exact newcomer
  · intro left right first second ref leftIn rightIn
    rcases joined left first ref leftIn with leftOld | ⟨leftHere, rfl⟩
    · rcases joined right second ref rightIn with rightOld | ⟨-, rfl⟩
      · exact lifetimes.onePort left right first second ref leftOld rightOld
      · exact absurd leftOld (unknown left first)
    · rcases joined right second _ rightIn with rightOld | ⟨rightHere, -⟩
      · exact absurd rightOld (unknown right second)
      · exact leftHere.trans rightHere.symm
  · intro ref orphan
    obtain ⟨own, unlisted⟩ := lifetimes.orphaned ref orphan
    refine ⟨owned ref own, fun other channel member => ?_⟩
    rcases joined other channel ref member with earlier | ⟨-, rfl⟩
    · exact unlisted other channel earlier
    · exact Nat.lt_irrefl _ own.lt
  · rw [map]
    exact lifetimes.placed
  · intro connectionId entry bound
    rw [map] at bound
    obtain ⟨own, kept, named⟩ := lifetimes.mapped connectionId entry bound
    refine ⟨owned _ own, kept, ?_⟩
    rw [← named]
    unfold ServerPortManager.connectionIdOf
    rw [heap, List.getElem?_append_left own.lt]
  · intro ref pending
    rcases Multiset.mem_cons.mp pending with rfl | earlier
    · exact ⟨newcomer, notReleasing⟩
    · obtain ⟨own, kept⟩ := lifetimes.registering ref earlier
      exact ⟨owned ref own, kept⟩

/-- The orphans of a section leave all lists of their port. -/
structure Leaves
    (before after : ServerPortManager)
    (descriptor : Nat)
    (orphans : List ConnectionRef) : Prop where
  once : orphans.Nodup
  wereListed : ∀ orphan ∈ orphans, ∃ channel,
    orphan ∈ listed before descriptor channel
  unlisted : ∀ orphan ∈ orphans, ∀ channel,
    orphan ∉ listed after descriptor channel
  lists : ∀ other channel, ∀ ref ∈ listed after other channel,
    ref ∈ listed before other channel
  heap : after.connections = before.connections
  map : after.connectionMap = before.connectionMap

theorem Lifetimes.leave
    (lifetimes : Lifetimes before claims)
    {descriptor : Nat}
    {orphans : List ConnectionRef}
    (leaves : Leaves before after descriptor orphans) :
    Lifetimes after
      { claims with removing := ↑orphans + claims.removing } := by
  have same : surplus after claims.acquired =
      surplus before claims.acquired := by
    funext ref
    rw [surplus, surplus, leaves.heap]
  have kept : Lifetimes after claims := by
    refine lifetimes.frame ?_ (fun other channel ref member =>
      ⟨channel, leaves.lists other channel ref member⟩) leaves.map
    rw [leaves.heap]
    exact IndexRelated.refl (fun _ => SameLifetime.refl) _
  have orphaned : ∀ ref ∈ orphans,
      Owned after claims ref ∧ Unlisted after ref := by
    intro ref orphan
    obtain ⟨channel, member⟩ := leaves.wereListed ref orphan
    constructor
    · unfold Owned
      rw [same]
      exact lifetimes.members descriptor channel ref member
    · intro other otherChannel otherMember
      obtain rfl := lifetimes.onePort other descriptor otherChannel channel ref
        (leaves.lists other otherChannel ref otherMember) member
      exact leaves.unlisted ref orphan otherChannel otherMember
  refine ⟨kept.known, kept.held, kept.freed, kept.members, kept.onePort, ?_, ?_,
    kept.placed, kept.mapped, kept.registering⟩
  · intro ref member
    dsimp only at member
    rw [Multiset.add_assoc] at member
    rcases Multiset.mem_add.mp member with orphan | earlier
    · exact orphaned ref (Multiset.mem_coe.mp orphan)
    · exact kept.orphaned ref earlier
  · dsimp only
    rw [Multiset.add_assoc, Multiset.nodup_add]
    refine ⟨Multiset.coe_nodup.mpr leaves.once, kept.once, ?_⟩
    rw [Multiset.disjoint_left]
    intro ref orphan earlier
    obtain ⟨channel, member⟩ := leaves.wereListed ref
      (Multiset.mem_coe.mp orphan)
    exact (lifetimes.orphaned ref earlier).2 descriptor channel member

/-! ## The map -/

/-- The table of ids can take another entry: it is not doubled beyond `2 ^ 31`
slots. -/
def GrowsWithin (table : ProbeTable κ ν) (allocated : Bool) : Prop :=
  table.crowded = true -> allocated = true -> table.slots.length ≤ 2 ^ 30

instance (table : ProbeTable κ ν) (allocated : Bool) :
    Decidable (GrowsWithin table allocated) :=
  inferInstanceAs (Decidable (_ -> _ -> _))

/-- A handler enters its connection into the map. -/
theorem Lifetimes.register
    {descriptor : Nat}
    {connection : ConnectionRef}
    (lifetimes : Lifetimes before
      { rest with registering := connection ::ₘ rest.registering })
    {entriesGrown : Bool}
    (within : GrowsWithin before.connectionMap.entries entriesGrown)
    (addrGrown : Bool) :
    Lifetimes
      (registerConnection before descriptor connection entriesGrown addrGrown)
      rest := by
  obtain ⟨own, kept⟩ := lifetimes.registering connection
    (Multiset.mem_cons_self _ _)
  obtain ⟨conn, read, -⟩ := Option.map_eq_some_iff.mp own
  have fewer : Lifetimes before rest :=
    ⟨lifetimes.known, lifetimes.held, lifetimes.freed, lifetimes.members,
      lifetimes.onePort, lifetimes.orphaned, lifetimes.once, lifetimes.placed,
      lifetimes.mapped, fun ref pending =>
        lifetimes.registering ref (Multiset.mem_cons_of_mem pending)⟩
  unfold registerConnection
  rw [read]
  obtain ⟨placed, entries⟩ := lifetimes.placed.put within conn.connectionId
    { descriptor := descriptor, connection := connection }
  refine ⟨fewer.known, fewer.held, fewer.freed, fewer.members, fewer.onePort,
    fewer.orphaned, fewer.once, placed, ?_, fewer.registering⟩
  intro connectionId entry bound
  rcases entries connectionId entry bound with ⟨rfl, rfl⟩ | ⟨-, old⟩
  · refine ⟨own, kept, ?_⟩
    unfold ServerPortManager.connectionIdOf
    rw [read]
  · exact fewer.mapped connectionId entry old

/-- The ids of orphans are removed from the map, and none of the orphans is to
be entered there any more. -/
theorem Lifetimes.remove
    {orphans : List ConnectionRef}
    (lifetimes : Lifetimes before
      { rest with removing := ↑orphans + rest.removing })
    (registered : ∀ orphan ∈ orphans, orphan ∉ rest.registering) :
    Lifetimes (removeOrphans before orphans)
      { rest with releasing := ↑orphans + rest.releasing } := by
  have swapped : ↑orphans + rest.removing + rest.releasing =
      rest.removing + (↑orphans + rest.releasing) := by
    rw [Multiset.add_comm (orphans : Multiset ConnectionRef),
      Multiset.add_assoc]
  have orphaned := lifetimes.orphaned
  have once := lifetimes.once
  dsimp only at orphaned once
  rw [swapped] at orphaned once
  obtain ⟨placed, entries⟩ := foldl_krsConnectionMapRemove_placed
    before.addressOf (orphans.map before.connectionIdOf)
    before.connectionMap lifetimes.placed
  refine ⟨lifetimes.known, lifetimes.held, lifetimes.freed, lifetimes.members,
    lifetimes.onePort, orphaned, once, placed, ?_, ?_⟩
  · intro connectionId entry bound
    obtain ⟨other, old⟩ := (entries connectionId entry).mp bound
    obtain ⟨own, kept, named⟩ := lifetimes.mapped connectionId entry old
    refine ⟨own, fun member => ?_, named⟩
    rcases Multiset.mem_add.mp member with orphan | earlier
    · refine other (List.mem_map.mpr
        ⟨entry.connection, Multiset.mem_coe.mp orphan, named⟩)
    · exact kept earlier
  · intro ref pending
    obtain ⟨own, kept⟩ := lifetimes.registering ref pending
    refine ⟨own, fun member => ?_⟩
    rcases Multiset.mem_add.mp member with orphan | earlier
    · exact registered ref (Multiset.mem_coe.mp orphan) pending
    · exact kept earlier

end

end Kronos
