import Kronos.Server.ConnectionMap
import Kronos.Server.Orphans

/-!
# Connections are freed safely

The steps of the threads as operations on the references of the connections,
and what follows for every run of the pool.
-/

namespace Kronos

open Library

/-! ## Claims of the pool -/

/-- The claims of one thread more. -/
def Claims.plus (claims : Claims) (thread : ServerThread) : Claims :=
  { acquired := ↑thread.acquired + claims.acquired
    removing := ↑thread.removing + claims.removing
    releasing := ↑thread.releasing + claims.releasing
    registering := ↑thread.registering + claims.registering }

theorem claimsOf_of_getElem?
    {threads : List ServerThread}
    {position : Nat}
    {thread : ServerThread}
    (found : threads[position]? = some thread) :
    claimsOf threads =
      (claimsOf (threads.eraseIdx position)).plus thread := by
  unfold claimsOf Claims.plus
  rw [gathered_of_getElem? found, gathered_of_getElem? found,
    gathered_of_getElem? found, gathered_of_getElem? found]

theorem gathered_singleton
    (part : ServerThread -> List ConnectionRef)
    (thread : ServerThread) :
    gathered part [thread] = ↑(part thread) := by
  simp [gathered]

theorem claimsOf_splice
    (threads : List ServerThread)
    (position : Nat)
    (thread : ServerThread) :
    claimsOf (splice threads position [thread]) =
      (claimsOf (threads.eraseIdx position)).plus thread := by
  unfold claimsOf Claims.plus
  simp only [gathered_splice, gathered_singleton]

theorem claimsOf_splice_nil
    (threads : List ServerThread)
    (position : Nat) :
    claimsOf (splice threads position []) =
      claimsOf (threads.eraseIdx position) := by
  rw [splice, List.append_nil, ← List.eraseIdx_eq_take_drop_succ]

theorem claimsOf_append
    (threads : List ServerThread)
    (thread : ServerThread) :
    claimsOf (threads ++ [thread]) = (claimsOf threads).plus thread := by
  unfold claimsOf Claims.plus
  simp only [gathered_append, gathered_singleton, Multiset.add_comm]

section

variable (rest : Claims)

theorem Claims.plus_register (descriptor : Nat) (connection : ConnectionRef) :
    rest.plus (.register descriptor connection) =
      { rest with registering := connection ::ₘ rest.registering } := by
  simp [plus, ServerThread.acquired, ServerThread.removing,
    ServerThread.releasing, ServerThread.registering]

theorem Claims.plus_welcome (connection : ConnectionRef) :
    rest.plus (.welcome connection) = rest := by
  simp [plus, ServerThread.acquired, ServerThread.removing,
    ServerThread.releasing, ServerThread.registering]

theorem Claims.plus_remove (orphans : List ConnectionRef) :
    rest.plus (.remove orphans) =
      { rest with removing := ↑orphans + rest.removing } := by
  simp [plus, ServerThread.acquired, ServerThread.removing,
    ServerThread.releasing, ServerThread.registering]

theorem Claims.plus_finalize
    (orphanCount : Nat)
    (orphans : List ConnectionRef) :
    rest.plus (.finalize orphanCount orphans) =
      { rest with releasing := ↑orphans + rest.releasing } := by
  simp [plus, ServerThread.acquired, ServerThread.removing,
    ServerThread.releasing, ServerThread.registering]

theorem Claims.plus_finalize_nil (orphanCount : Nat) :
    rest.plus (.finalize orphanCount []) = rest := by
  rw [plus_finalize, Multiset.coe_nil, Multiset.zero_add]

theorem Claims.plus_finalize_cons
    (orphanCount : Nat)
    (connection : ConnectionRef)
    (orphans : List ConnectionRef) :
    let fewer := rest.plus (.finalize orphanCount orphans)
    rest.plus (.finalize orphanCount (connection :: orphans)) =
      { fewer with releasing := connection ::ₘ fewer.releasing } := by
  intro fewer
  rw [plus_finalize, ← Multiset.cons_coe, Multiset.cons_add]
  simp only [fewer, plus_finalize]

theorem Claims.plus_release (held : List ConnectionRef) :
    rest.plus (.release held) =
      { rest with acquired := ↑held + rest.acquired } := by
  simp [plus, ServerThread.acquired, ServerThread.removing,
    ServerThread.releasing, ServerThread.registering]

theorem Claims.plus_release_nil : rest.plus (.release []) = rest := by
  rw [plus_release, Multiset.coe_nil, Multiset.zero_add]

theorem Claims.plus_release_cons
    (connection : ConnectionRef)
    (held : List ConnectionRef) :
    let fewer := rest.plus (.release held)
    rest.plus (.release (connection :: held)) =
      { fewer with acquired := connection ::ₘ fewer.acquired } := by
  intro fewer
  rw [plus_release, ← Multiset.cons_coe, Multiset.cons_add]
  simp only [fewer, plus_release]

/-- What nobody holds, nobody holds without one of the threads. -/
theorem Forgotten.of_plus
    {rest : Claims}
    {spm : ServerPortManager}
    {thread : ServerThread}
    {connection : ConnectionRef}
    (forgotten : Forgotten spm (rest.plus thread) connection) :
    Forgotten spm rest connection where
  unlisted := forgotten.unlisted
  unmapped := forgotten.unmapped
  acquired := fun held =>
    forgotten.acquired (Multiset.mem_add.mpr (Or.inr held))
  removing := fun held =>
    forgotten.removing (Multiset.mem_add.mpr (Or.inr held))
  releasing := fun held =>
    forgotten.releasing (Multiset.mem_add.mpr (Or.inr held))
  registering := fun held =>
    forgotten.registering (Multiset.mem_add.mpr (Or.inr held))

end

/-! ## Runs of the pool -/

/-- Freed connections stay freed. -/
def FreedStays (before after : ServerPortManager) : Prop :=
  ∀ (ref : ConnectionRef) (conn : ClientConnection),
    before.connections[ref]? = some conn -> conn.freed = true ->
      ∃ next : ClientConnection, after.connections[ref]? = some next ∧
        next.freed = true

section

variable {before after : ServerPortManager}

theorem FreedStays.of_heap
    (same : after.connections = before.connections) :
    FreedStays before after := by
  intro ref conn read freed
  exact ⟨conn, by rw [same]; exact read, freed⟩

theorem FreedStays.of_related
    (heap : IndexRelated (fun _ => SameLifetime) before.connections
      after.connections) :
    FreedStays before after := by
  intro ref conn read freed
  obtain ⟨next, nextRead, same⟩ := heap.exists_new read
  exact ⟨next, nextRead, same.freed.trans freed⟩

theorem FreedStays.of_modify
    (spm : ServerPortManager)
    (connection : ConnectionRef)
    {change : ClientConnection -> ClientConnection}
    (keeps : ∀ conn, conn.freed = true -> (change conn).freed = true) :
    FreedStays spm (spm.modifyConnection connection change) := by
  intro ref conn read freed
  rw [getElem?_modifyConnection, read]
  split
  case isTrue => exact ⟨_, rfl, keeps conn freed⟩
  case isFalse => exact ⟨_, rfl, freed⟩

theorem FreedStays.trans
    {third : ServerPortManager}
    (earlier : FreedStays before after)
    (later : FreedStays after third) :
    FreedStays before third := by
  intro ref conn read freed
  obtain ⟨next, nextRead, nextFreed⟩ := earlier ref conn read freed
  exact later ref next nextRead nextFreed

end

/-- Connections are freed safely: each at most once, when it is on no list, not
in the map and with no other thread, and the map has no freed connection. -/
structure LifetimeSafe (current : ThreadedServer) : Prop where
  once : (current.frees.map FreeRecord.connection).Nodup
  alone : ∀ record ∈ current.frees, record.listed = false ∧
    record.mapped = false ∧ record.held = false
  mapped : ∀ connectionId entry,
    Slot.live connectionId entry ∈ current.spm.connectionMap.entries.slots ->
      ∀ conn, current.spm.connections[entry.connection]? = some conn ->
        conn.freed = false

/-- The invariant of the pool. -/
structure LifetimeInvariant (current : ThreadedServer) : Prop where
  lifetimes : Lifetimes current.spm (claimsOf current.threads)
  once : (current.frees.map FreeRecord.connection).Nodup
  alone : ∀ record ∈ current.frees, record.listed = false ∧
    record.mapped = false ∧ record.held = false
  gone : ∀ record ∈ current.frees, ∃ conn,
    current.spm.connections[record.connection]? = some conn ∧
      conn.freed = true

section

variable {current : ThreadedServer}

theorem LifetimeInvariant.safe
    (invariant : LifetimeInvariant current) :
    LifetimeSafe current := by
  refine ⟨invariant.once, invariant.alone, ?_⟩
  intro connectionId entry bound conn read
  exact (invariant.lifetimes.alive read (Or.inl
    (invariant.lifetimes.mapped connectionId entry bound).1)).1

/-- A step without a `free`. -/
theorem LifetimeInvariant.step
    (invariant : LifetimeInvariant current)
    {spm : ServerPortManager}
    {threads : List ServerThread}
    (lifetimes : Lifetimes spm (claimsOf threads))
    (stays : FreedStays current.spm spm) :
    LifetimeInvariant { current with spm := spm, threads := threads } := by
  refine ⟨lifetimes, invariant.once, invariant.alone, ?_⟩
  intro record member
  obtain ⟨conn, read, freed⟩ := invariant.gone record member
  exact stays record.connection conn read freed

theorem isListed_eq_false
    {spm : ServerPortManager}
    {connection : ConnectionRef}
    (unlisted : Unlisted spm connection) :
    isListed spm connection = false := by
  rw [← Bool.not_eq_true]
  intro found
  obtain ⟨desc, descIn, onDesc⟩ := List.any_eq_true.mp found
  obtain ⟨channel, -, member⟩ := List.any_eq_true.mp onDesc
  obtain ⟨descriptor, read⟩ := List.getElem?_of_mem descIn
  refine unlisted descriptor channel ?_
  rw [listed_of_read read]
  exact List.contains_iff_mem.mp member

theorem isMapped_eq_false
    {map : ConnectionMap}
    {connection : ConnectionRef}
    (unmapped : ∀ connectionId entry,
      Slot.live connectionId entry ∈ map.entries.slots ->
        entry.connection ≠ connection) :
    isMapped map connection = false := by
  rw [← Bool.not_eq_true]
  intro found
  obtain ⟨slot, slotIn, bound⟩ := List.any_eq_true.mp found
  cases slot with
  | empty => cases bound
  | tombstone => cases bound
  | live connectionId entry =>
      have same : (entry.connection == connection) = true := bound
      exact unmapped connectionId entry slotIn (beq_iff_eq.mp same)

/-- Nobody follows a pointer to a forgotten connection. -/
theorem Forgotten.unheld
    {spm : ServerPortManager}
    {connection : ConnectionRef}
    {others : List ServerThread}
    (forgotten : Forgotten spm (claimsOf others) connection)
    (returned : ∀ thread ∈ others, connection ∉ thread.welcoming) :
    (others.any fun other => other.pointers.contains connection) = false := by
  rw [← Bool.not_eq_true]
  intro found
  obtain ⟨thread, threadIn, held⟩ := List.any_eq_true.mp found
  rw [List.contains_iff_mem] at held
  simp only [ServerThread.pointers, List.mem_append] at held
  rcases held with (((acquired | removing) | releasing) | registering) |
    welcoming
  · exact forgotten.acquired (mem_gathered.mpr ⟨thread, threadIn, acquired⟩)
  · exact forgotten.removing (mem_gathered.mpr ⟨thread, threadIn, removing⟩)
  · exact forgotten.releasing
      (mem_gathered.mpr ⟨thread, threadIn, releasing⟩)
  · exact forgotten.registering
      (mem_gathered.mpr ⟨thread, threadIn, registering⟩)
  · exact returned thread threadIn welcoming

/-- A release: if it is the last, the connection is forgotten. -/
theorem LifetimeInvariant.release
    (invariant : LifetimeInvariant current)
    {position : Nat}
    {connection : ConnectionRef}
    {next : List ServerThread}
    (lifetimes : Lifetimes (krsConnectionMapRelease current.spm connection)
      (claimsOf (splice current.threads position next)))
    (kept : Owned current.spm (claimsOf current.threads) connection ∨
      connection ∈ (claimsOf current.threads).acquired)
    (forgotten : isLastReference current.spm connection = true ->
      Forgotten current.spm (claimsOf (current.threads.eraseIdx position))
        connection)
    (returned : isLastReference current.spm connection = true ->
      ∀ thread ∈ current.threads, connection ∉ thread.welcoming) :
    LifetimeInvariant (current.releaseBy position connection next) := by
  have stays : FreedStays current.spm
      (krsConnectionMapRelease current.spm connection) := by
    refine FreedStays.of_modify current.spm connection ?_
    intro conn freed
    unfold releaseConnection
    dsimp only
    split
    case isTrue => exact freed
    case isFalse => rfl
  have goneAfter : ∀ record ∈ current.frees, ∃ conn,
      (krsConnectionMapRelease current.spm
        connection).connections[record.connection]? = some conn ∧
          conn.freed = true := by
    intro record member
    obtain ⟨conn, read, freed⟩ := invariant.gone record member
    exact stays record.connection conn read freed
  unfold ThreadedServer.releaseBy
  split
  case isFalse => exact ⟨lifetimes, invariant.once, invariant.alone, goneAfter⟩
  case isTrue last =>
    obtain ⟨conn, read, one⟩ := isLastReference_eq_true last
    have alive := (invariant.lifetimes.alive read kept).1
    have quiet := forgotten last
    refine ⟨lifetimes, ?_, ?_, ?_⟩
    · dsimp only
      rw [List.map_append, List.map_singleton]
      refine List.nodup_append.mpr
        ⟨invariant.once, List.nodup_singleton _, ?_⟩
      rintro first firstIn second secondIn rfl
      obtain ⟨record, member, rfl⟩ := List.mem_map.mp firstIn
      obtain ⟨old, oldRead, freed⟩ := invariant.gone record member
      rw [List.mem_singleton.mp secondIn, read] at oldRead
      cases oldRead
      rw [alive] at freed
      cases freed
    · intro record member
      rcases List.mem_append.mp member with earlier | new
      · exact invariant.alone record earlier
      · rw [List.mem_singleton.mp new]
        exact ⟨isListed_eq_false quiet.unlisted,
          isMapped_eq_false quiet.unmapped,
          quiet.unheld fun thread threadIn =>
            returned last thread (List.mem_of_mem_eraseIdx threadIn)⟩
    · intro record member
      rcases List.mem_append.mp member with earlier | new
      · exact goneAfter record earlier
      · rw [List.mem_singleton.mp new]
        refine ⟨releaseConnection conn, ?_, ?_⟩
        · unfold krsConnectionMapRelease
          rw [getElem?_modifyConnection, if_pos rfl, read]
          rfl
        · rw [releaseConnection_freed_iff alive, releaseConnection_refcount,
            one]
          rfl

end

/-! ## The condition -/

/-- The `CONNECTION` handler of the connection has not entered it into the map
yet. -/
def awaitsEntry
    (threads : List ServerThread)
    (connection : ConnectionRef) : Bool :=
  threads.any fun thread => thread.registering.contains connection

/-- The `CONNECTION` handler of the connection is about to read it for its
reply and its callback. -/
def awaitsWelcome
    (threads : List ServerThread)
    (connection : ConnectionRef) : Bool :=
  threads.any fun thread => thread.welcoming.contains connection

/-- A release of a connection is not the last while its `CONNECTION` handler
still reads it. -/
def ReleasedInTime
    (current : ThreadedServer)
    (connection : ConnectionRef) : Prop :=
  isLastReference current.spm connection = true ->
    awaitsWelcome current.threads connection = false

/-- When a thread may take its next step: the ids of orphans are removed from
the map after their `CONNECTION` handlers have entered them, the last release
of a connection waits for the end of its handler, and the map does not outgrow
its 32-bit capacity. -/
def AdvanceAllowed
    (current : ThreadedServer)
    (outcomes : StepOutcomes) : ServerThread -> Prop
  | .register _ _ =>
      GrowsWithin current.spm.connectionMap.entries outcomes.entriesGrown ∧
        GrowsWithin current.spm.connectionMap.addrEntries outcomes.addrGrown
  | .remove orphans =>
      ∀ orphan ∈ orphans, awaitsEntry current.threads orphan = false
  | .finalize _ (connection :: _) => ReleasedInTime current connection
  | .release (connection :: _) => ReleasedInTime current connection
  | _ => True

/-- The condition on the steps of a run. -/
def LifetimeAllowed (current : ThreadedServer) : ThreadEvent -> Prop
  | .advance position outcomes =>
      ∀ thread ∈ current.threads[position]?,
        AdvanceAllowed current outcomes thread
  | _ => True

theorem not_mem_of_any_eq_false
    {part : ServerThread -> List ConnectionRef}
    {threads : List ServerThread}
    {connection : ConnectionRef}
    (nobody : (threads.any fun thread =>
      (part thread).contains connection) = false)
    {thread : ServerThread}
    (member : thread ∈ threads) :
    connection ∉ part thread := by
  intro held
  have somebody : (threads.any fun thread =>
      (part thread).contains connection) = true :=
    List.any_eq_true.mpr ⟨thread, member, List.contains_iff_mem.mpr held⟩
  rw [nobody] at somebody
  cases somebody

section

variable {current : ThreadedServer}

/-! ## Steps of a thread -/

/-- A send changes no list. -/
theorem useForSend_lists
    (spm : ServerPortManager)
    (entry : ConnectionMapEntry)
    (request : SendRequest) :
    ChangesLists spm (useForSend spm entry request) entry.descriptor
      .keep := by
  unfold useForSend
  split
  case h_2 => exact .of_descriptorList rfl _
  case h_1 target desc _ descRead =>
    refine .of_modify rfl descRead ?_
    funext channel
    rw [connectionsOf_modifyChannel]
    split
    case isTrue same =>
      subst same
      rw [nextPacketId_connections]
      rfl
    case isFalse => rfl

/-- A broadcast changes no list when it draws its packet ids. -/
theorem numberBroadcast_lists
    (spm : ServerPortManager)
    (descriptor : Nat)
    (channel : Channel)
    (count : Nat)
    (counter : Bool) :
    ChangesLists spm (numberBroadcast spm descriptor channel count counter)
      descriptor .keep := by
  refine .of_sameList rfl ?_
  intro state
  rw [broadcastPacketIds_connections, ensureCounter_connections]

theorem Lifetimes.of_useForSend
    {spm : ServerPortManager}
    {claims : Claims}
    (lifetimes : Lifetimes spm claims)
    (entry : ConnectionMapEntry)
    (request : SendRequest) :
    Lifetimes (useForSend spm entry request) claims ∧
      FreedStays spm (useForSend spm entry request) := by
  have lists := useForSend_lists spm entry request
  unfold useForSend at lists ⊢
  split
  case h_2 => exact ⟨lifetimes, .of_heap rfl⟩
  case h_1 target desc targetRead descRead =>
    have heap : IndexRelated (fun _ => SameLifetime) spm.connections
        (spm.connections.set entry.connection
          (sendOn target request.channel
            (nextPacketId request.channel request.allocations.counter
              (desc.channelStates request.channel)).1
            request.data request.length request.requireAck request.clock
            request.allocations).1) := by
      refine ⟨List.length_set, ?_⟩
      intro ref old new oldRead newRead
      obtain ⟨_, _, sent⟩ := sendOn_eq target request.channel
        (nextPacketId request.channel request.allocations.counter
          (desc.channelStates request.channel)).1
        request.data request.length request.requireAck request.clock
        request.allocations
      rw [List.getElem?_set] at newRead
      split at newRead
      case isTrue same =>
        subst same
        rw [targetRead] at oldRead
        cases oldRead
        split at newRead
        case isTrue =>
          cases newRead
          rw [sent]
          exact ⟨rfl, rfl, rfl⟩
        case isFalse => cases newRead
      case isFalse =>
        rw [oldRead] at newRead
        cases newRead
        exact SameLifetime.refl old
    rw [targetRead, descRead] at lists
    exact ⟨lifetimes.frame heap (mem_listed_of_keep lists) rfl,
      .of_related heap⟩

theorem Lifetimes.of_numberBroadcast
    {spm : ServerPortManager}
    {claims : Claims}
    (lifetimes : Lifetimes spm claims)
    (descriptor : Nat)
    (channel : Channel)
    (count : Nat)
    (counter : Bool) :
    Lifetimes (numberBroadcast spm descriptor channel count counter)
      claims :=
  lifetimes.frame (IndexRelated.refl (fun _ => SameLifetime.refl) _)
    (mem_listed_of_keep (numberBroadcast_lists spm descriptor channel count
      counter)) rfl

/-- A thread takes its next step. -/
theorem LifetimeInvariant.advance
    (invariant : LifetimeInvariant current)
    {position : Nat}
    {outcomes : StepOutcomes}
    {thread : ServerThread}
    (found : current.threads[position]? = some thread)
    (allowed : AdvanceAllowed current outcomes thread) :
    LifetimeInvariant (advance current position outcomes thread) := by
  have lifetimes := invariant.lifetimes
  have claims := claimsOf_of_getElem? found
  rw [claims] at lifetimes
  cases thread with
  | register descriptor connection =>
      rw [Claims.plus_register] at lifetimes
      refine invariant.step ?_ (.of_heap ?_)
      · rw [claimsOf_splice, Claims.plus_welcome]
        exact lifetimes.register allowed.1 outcomes.addrGrown
      · unfold registerConnection
        split <;> rfl
  | welcome connection =>
      rw [Claims.plus_welcome] at lifetimes
      refine invariant.step ?_ (.of_heap rfl)
      rw [claimsOf_splice_nil]
      exact lifetimes
  | remove orphans =>
      rw [Claims.plus_remove] at lifetimes
      refine invariant.step ?_ (.of_heap rfl)
      rw [claimsOf_splice, Claims.plus_finalize]
      refine lifetimes.remove ?_
      intro orphan member pending
      obtain ⟨other, otherIn, registering⟩ := mem_gathered.mp pending
      exact not_mem_of_any_eq_false (allowed orphan member)
        (List.mem_of_mem_eraseIdx otherIn) registering
  | finalize orphanCount orphans =>
      cases orphans with
      | nil =>
          rw [Claims.plus_finalize_nil] at lifetimes
          refine invariant.step ?_ (.of_heap rfl)
          rw [claimsOf_splice_nil]
          exact lifetimes.frame
            (IndexRelated.refl (fun _ => SameLifetime.refl) _)
            (fun _ channel _ member => ⟨channel, member⟩) rfl
      | cons connection orphans =>
          rw [Claims.plus_finalize_cons] at lifetimes
          change LifetimeInvariant (current.releaseBy position connection
            [.finalize orphanCount orphans])
          refine invariant.release ?_ (Or.inl ?_) ?_ ?_
          · rw [claimsOf_splice]
            exact lifetimes.retire
          · rw [claims, Claims.plus_finalize_cons]
            refine (lifetimes.orphaned connection ?_).1
            dsimp only
            exact Multiset.mem_add.mpr (Or.inr (Multiset.mem_cons_self _ _))
          · exact fun last => (lifetimes.forgotten_retire last).of_plus
          · intro last other otherIn
            exact not_mem_of_any_eq_false (allowed last) otherIn
  | send entry request =>
      obtain ⟨used, stays⟩ := lifetimes.of_useForSend entry request
      refine invariant.step ?_ stays
      rw [claimsOf_splice]
      exact used
  | broadcast descriptor channel snapshot =>
      refine invariant.step ?_ (.of_heap rfl)
      rw [claimsOf_splice]
      exact lifetimes.of_numberBroadcast descriptor channel snapshot.length
        outcomes.counter
  | release held =>
      cases held with
      | nil =>
          rw [Claims.plus_release_nil] at lifetimes
          refine invariant.step ?_ (.of_heap rfl)
          rw [claimsOf_splice_nil]
          exact lifetimes
      | cons connection held =>
          rw [Claims.plus_release_cons] at lifetimes
          change LifetimeInvariant (current.releaseBy position connection
            [.release held])
          refine invariant.release ?_ (Or.inr ?_) ?_ ?_
          · rw [claimsOf_splice]
            exact lifetimes.giveBack
          · rw [claims, Claims.plus_release_cons]
            dsimp only
            exact Multiset.mem_cons_self _ _
          · exact fun last => (lifetimes.forgotten_giveBack last).of_plus
          · intro last other otherIn
            exact not_mem_of_any_eq_false (allowed last) otherIn

/-! ## First sections -/

theorem LifetimeInvariant.connection
    (invariant : LifetimeInvariant current)
    (descriptor : Nat)
    (remoteAddr : PortAddress)
    (now : UInt64)
    (allocations : ConnectAllocations) :
    let next := connectionSection current.spm descriptor remoteAddr now
      allocations
    LifetimeInvariant (current.spawn next
      (if current.spm.connections.length < next.connections.length then
        [.register descriptor current.spm.connections.length]
      else [])) := by
  intro next
  obtain ⟨map, heap⟩ := connectionSection_heap current.spm descriptor
    remoteAddr now allocations
  rcases heap with same | ⟨conn, one, alive, grown⟩
  · rw [if_neg (by rw [same.1]; exact Nat.lt_irrefl _)]
    refine invariant.step ?_ (.of_related same)
    rw [List.append_nil]
    rcases connectionSection_cases current.spm descriptor remoteAddr now
        allocations with ⟨kept, -⟩ | joined
    · exact invariant.lifetimes.frame same (mem_listed_of_keep kept) map
    · obtain ⟨other, -, longer⟩ := joined.heap
      have lengths := same.1
      rw [longer, List.length_append, List.length_singleton] at lengths
      omega
  · have longer : next.connections.length =
        current.spm.connections.length + 1 := by
      rw [grown, List.length_append, List.length_singleton]
    rw [if_pos (by rw [longer]; exact Nat.lt_succ_self _)]
    refine invariant.step ?_ ?_
    · rw [claimsOf_append, Claims.plus_register]
      rcases connectionSection_cases current.spm descriptor remoteAddr now
          allocations with ⟨-, shorter⟩ | joined
      · have lengths := shorter.1
        rw [longer] at lengths
        omega
      · exact invariant.lifetimes.join grown one alive joined.lists map
    · intro ref old read freed
      refine ⟨old, ?_, freed⟩
      have inside := (List.getElem?_eq_some_iff.mp read).1
      rw [grown, List.getElem?_append_left inside]
      exact read

theorem LifetimeInvariant.leave
    (invariant : LifetimeInvariant current)
    {spm : ServerPortManager}
    {descriptor : Nat}
    {orphans : List ConnectionRef}
    (leaves : Leaves current.spm spm descriptor orphans) :
    LifetimeInvariant (current.spawn spm (finalizing orphans)) := by
  have left := invariant.lifetimes.leave leaves
  refine invariant.step ?_ (.of_heap leaves.heap)
  unfold finalizing
  split
  case isTrue nobody =>
    rw [List.append_nil]
    rw [List.length_eq_zero_iff.mp nobody, Multiset.coe_nil,
      Multiset.zero_add] at left
    exact left
  case isFalse =>
    rw [claimsOf_append, Claims.plus_remove]
    exact left

/-- A section that lists nobody new and leaves the heap and the map alone. -/
theorem LifetimeInvariant.quiet
    (invariant : LifetimeInvariant current)
    {spm : ServerPortManager}
    (heap : IndexRelated (fun _ => SameLifetime) current.spm.connections
      spm.connections)
    (lists : ∀ descriptor channel, ∀ ref ∈ listed spm descriptor channel,
      ∃ other, ref ∈ listed current.spm descriptor other)
    (map : spm.connectionMap = current.spm.connectionMap) :
    LifetimeInvariant (current.spawn spm []) := by
  refine invariant.step ?_ (.of_related heap)
  rw [List.append_nil]
  exact invariant.lifetimes.frame heap lists map

theorem CalmEvent.mem_listed_origin
    {before after : ServerPortManager}
    {effects : List ServerEffect}
    (calm : CalmEvent before after effects)
    (descriptor : Nat)
    (channel : Channel)
    (ref : ConnectionRef)
    (member : ref ∈ listed after descriptor channel) :
    ∃ other, ref ∈ listed before descriptor other := by
  rcases calm.mem_listed member with own | base
  · exact ⟨channel, own⟩
  · exact ⟨0, base⟩

theorem LifetimeInvariant.heartbeat
    (invariant : LifetimeInvariant current)
    (descriptor : Nat)
    (remoteAddr : PortAddress)
    (now : UInt64) :
    LifetimeInvariant (current.spawn
      (krsServerHandleHeartbeatFrame current.spm descriptor remoteAddr now)
      []) := by
  have lists := (krsServerHandleHeartbeatFrame_calm current.spm descriptor
    remoteAddr now).mem_listed_origin
  unfold krsServerHandleHeartbeatFrame at lists ⊢
  split
  case h_1 =>
    exact invariant.quiet (IndexRelated.refl (fun _ => SameLifetime.refl) _)
      (fun _ channel _ member => ⟨channel, member⟩) rfl
  case h_2 desc read =>
    rw [read] at lists
    obtain ⟨heap, map, -⟩ := foldl_heartbeat remoteAddr now
      (allChannels.flatMap desc.connectionsOf) current.spm
    exact invariant.quiet (heap.mono fun _ _ _ same => same.sameLifetime)
      lists map

/-- A broadcast acquires one listed connection after another. -/
theorem Lifetimes.acquireAll
    {snapshot : List ConnectionRef}
    {spm : ServerPortManager}
    {claims : Claims}
    (lifetimes : Lifetimes spm claims)
    (owned : ∀ ref ∈ snapshot, Owned spm claims ref) :
    Lifetimes (snapshot.foldl acquireConnection spm)
        { claims with acquired := ↑snapshot + claims.acquired } ∧
      FreedStays spm (snapshot.foldl acquireConnection spm) := by
  induction snapshot generalizing spm claims with
  | nil =>
      rw [Multiset.coe_nil, Multiset.zero_add]
      exact ⟨lifetimes, .of_heap rfl⟩
  | cons connection snapshot inductionHypothesis =>
      have taken := lifetimes.acquire (owned connection List.mem_cons_self)
      have acquired : FreedStays spm (acquireConnection spm connection) :=
        FreedStays.of_modify spm connection fun _ freed => freed
      obtain ⟨after, stays⟩ := inductionHypothesis taken (by
        intro ref member
        unfold Owned
        rw [surplus_acquireConnection]
        exact owned ref (List.mem_cons_of_mem _ member))
      refine ⟨?_, acquired.trans stays⟩
      rw [← Multiset.cons_coe, Multiset.cons_add, ← Multiset.add_cons]
      exact after

theorem LifetimeInvariant.send
    (invariant : LifetimeInvariant current)
    {connectionId : UInt32}
    {entry : ConnectionMapEntry}
    (found : krsConnectionMapGet current.spm.connectionMap connectionId =
      some entry)
    (request : SendRequest) :
    LifetimeInvariant (current.spawn
      (acquireConnection current.spm entry.connection)
      [.send entry request]) := by
  have lifetimes := invariant.lifetimes
  have bound := (krsConnectionMapGet_eq_some_iff lifetimes.placed).mp found
  have taken := lifetimes.acquire
    (lifetimes.mapped connectionId entry bound).1
  refine invariant.step ?_
    (.of_modify current.spm entry.connection fun _ freed => freed)
  rw [claimsOf_append]
  change Lifetimes _ ((claimsOf current.threads).plus
    (.release [entry.connection]))
  rw [Claims.plus_release, Multiset.coe_singleton, Multiset.singleton_add]
  exact taken

theorem LifetimeInvariant.broadcast
    (invariant : LifetimeInvariant current)
    {descriptor : Nat}
    {channel : Channel}
    {desc : UDPSocketDescriptor}
    (read : current.spm.descriptorList[descriptor]? = some desc)
    {conns snapshot : List ConnectionRef}
    (stored : (desc.channelStates channel).connections = some conns)
    {excludeId : UInt32}
    (taken : broadcastSnapshot current.spm excludeId [] conns =
      some snapshot) :
    LifetimeInvariant (current.spawn
      (snapshot.foldl acquireConnection current.spm)
      [.broadcast descriptor channel snapshot]) := by
  obtain ⟨acquired, stays⟩ := invariant.lifetimes.acquireAll (by
    intro ref member
    refine invariant.lifetimes.members descriptor channel ref ?_
    rw [listed_of_read read, UDPSocketDescriptor.connectionsOf, stored]
    rcases mem_broadcastSnapshot taken member with impossible | onList
    · cases impossible
    · exact onList)
  refine invariant.step ?_ stays
  rw [claimsOf_append]
  change Lifetimes _ ((claimsOf current.threads).plus (.release snapshot))
  rw [Claims.plus_release]
  exact acquired

/-- An allowed step. -/
theorem LifetimeInvariant.threadStep
    (invariant : LifetimeInvariant current)
    {event : ThreadEvent}
    {next : ThreadedServer}
    (allowed : LifetimeAllowed current event)
    (taken : threadStep current event = some next) :
    LifetimeInvariant next := by
  cases event with
  | connection descriptor remoteAddr now allocations =>
      cases taken
      exact invariant.connection descriptor remoteAddr now allocations
  | disconnect descriptor remoteAddr =>
      cases taken
      exact invariant.leave
        (disconnectSection_leaves current.spm descriptor remoteAddr)
  | evict descriptor now =>
      cases taken
      exact invariant.leave (evictSection_leaves current.spm descriptor now)
  | heartbeat descriptor remoteAddr now =>
      cases taken
      exact invariant.heartbeat descriptor remoteAddr now
  | subscribe descriptor frame remoteAddr created pushed =>
      cases taken
      obtain ⟨heap, map⟩ := dispatchSubscribe_heap current.spm descriptor
        frame remoteAddr created pushed true
      refine invariant.quiet ?_ (dispatchSubscribe_calm current.spm
        descriptor frame remoteAddr created pushed true).mem_listed_origin map
      rw [heap]
      exact IndexRelated.refl (fun _ => SameLifetime.refl) _
  | unsubscribe descriptor frame remoteAddr =>
      cases taken
      obtain ⟨heap, map⟩ := dispatchUnsubscribe_heap current.spm descriptor
        frame remoteAddr true
      refine invariant.quiet ?_ (dispatchUnsubscribe_calm current.spm
        descriptor frame remoteAddr true).mem_listed_origin map
      rw [heap]
      exact IndexRelated.refl (fun _ => SameLifetime.refl) _
  | send connectionId request =>
      simp only [Kronos.threadStep] at taken
      split at taken
      case h_1 =>
        cases taken
        exact invariant
      case h_2 entry found =>
        cases taken
        exact invariant.send found request
  | broadcast descriptor channel excludeId =>
      simp only [Kronos.threadStep] at taken
      split at taken
      case h_1 =>
        cases taken
        exact invariant
      case h_2 desc read =>
        split at taken
        case h_1 =>
          cases taken
          exact invariant
        case h_2 conns stored =>
          obtain ⟨snapshot, found, rfl⟩ := Option.map_eq_some_iff.mp taken
          exact invariant.broadcast read stored found
  | advance position outcomes =>
      obtain ⟨thread, found, rfl⟩ := Option.map_eq_some_iff.mp taken
      exact invariant.advance found (allowed thread found)

/-- Without connections and threads there is nothing to count. -/
theorem Lifetimes.initial
    {spm : ServerPortManager}
    (nobody : spm.connections = [])
    (unlisted : ∀ ref, Unlisted spm ref)
    (placed : ProbeTable.Placed idHash spm.connectionMap.entries.slots)
    (unbound : ∀ connectionId entry,
      Slot.live connectionId entry ∉ spm.connectionMap.entries.slots) :
    Lifetimes spm (claimsOf []) where
  known := by
    intro ref count balance
    rw [surplus, nobody] at balance
    cases balance
  held := nofun
  freed := by
    intro ref conn read
    rw [nobody] at read
    cases read
  members := fun descriptor channel ref member =>
    absurd member (unlisted ref descriptor channel)
  onePort := fun left _ first _ ref member =>
    absurd member (unlisted ref left first)
  orphaned := nofun
  once := Multiset.nodup_zero
  placed := placed
  mapped := fun connectionId entry bound =>
    absurd bound (unbound connectionId entry)
  registering := nofun

theorem LifetimeInvariant.start
    {descriptorList : List UDPSocketDescriptor}
    (fresh : ∀ desc ∈ descriptorList, ∀ channel,
      desc.connectionsOf channel = []) :
    LifetimeInvariant { spm := serverStart descriptorList } := by
  have empty : ∀ ref, Unlisted (serverStart descriptorList) ref := by
    intro ref descriptor channel
    unfold listed
    split
    case h_1 => exact List.not_mem_nil
    case h_2 desc read =>
      rw [fresh desc (List.mem_of_getElem? read) channel]
      exact List.not_mem_nil
  obtain ⟨sound, implements⟩ := krsConnectionMapCreate_sound 64
  have unbound : ∀ connectionId entry, Slot.live connectionId entry ∉
      (krsConnectionMapCreate 64).entries.slots := by
    intro connectionId entry bound
    have impossible := (implements.bindings connectionId entry).mp bound
    cases impossible
  exact ⟨.initial rfl empty sound.entries.placed unbound, List.nodup_nil,
    nofun, nofun⟩

/-- In every interleaving of `CONNECTION` and `DISCONNECT` handlers, eviction
ticks, sends and broadcasts on any number of threads: if the ids of orphans are
removed from the map only after their `CONNECTION` handlers have entered them,
and no last release comes before the handler of the connection has read it for
the last time, then every connection is freed at most once, when it is on no
list, not in the map and with no other thread, and the map never has a freed
connection. -/
theorem connections_freed_safely
    {descriptorList : List UDPSocketDescriptor}
    (fresh : ∀ desc ∈ descriptorList, ∀ channel,
      desc.connectionsOf channel = [])
    {events : List ThreadEvent}
    {final : ThreadedServer}
    (allowed : RunAllowed threadStep LifetimeAllowed
      { spm := serverStart descriptorList } events)
    (reached : run threadStep { spm := serverStart descriptorList } events =
      some final) :
    LifetimeSafe final :=
  (run_induction
    (fun _ _ _ invariant allowedHere taken =>
      LifetimeInvariant.threadStep invariant allowedHere taken)
    (LifetimeInvariant.start fresh) allowed reached).safe

end

/-! ## Two small runs -/

instance (current : ThreadedServer) (connection : ConnectionRef) :
    Decidable (ReleasedInTime current connection) :=
  inferInstanceAs (Decidable (_ -> _))

instance (current : ThreadedServer) (outcomes : StepOutcomes) :
    (thread : ServerThread) ->
      Decidable (AdvanceAllowed current outcomes thread)
  | .register _ _ => inferInstanceAs (Decidable (_ ∧ _))
  | .welcome _ => isTrue trivial
  | .remove orphans =>
      inferInstanceAs (Decidable (∀ orphan ∈ orphans, _ = false))
  | .finalize _ [] => isTrue trivial
  | .finalize _ (connection :: _) =>
      inferInstanceAs (Decidable (ReleasedInTime current connection))
  | .send _ _ => isTrue trivial
  | .broadcast _ _ _ => isTrue trivial
  | .release [] => isTrue trivial
  | .release (connection :: _) =>
      inferInstanceAs (Decidable (ReleasedInTime current connection))

instance (current : ThreadedServer) :
    (event : ThreadEvent) -> Decidable (LifetimeAllowed current event)
  | .advance _ _ => inferInstanceAs (Decidable (∀ _ ∈ _, _))
  | .connection _ _ _ _ => isTrue trivial
  | .disconnect _ _ => isTrue trivial
  | .evict _ _ => isTrue trivial
  | .heartbeat _ _ _ => isTrue trivial
  | .subscribe _ _ _ _ _ => isTrue trivial
  | .unsubscribe _ _ _ => isTrue trivial
  | .send _ _ => isTrue trivial
  | .broadcast _ _ _ => isTrue trivial

/-- The next step of the thread at a position. -/
def stepOf (position : Nat) : ThreadEvent := .advance position {}

/-- The server of the small runs. -/
def smallServer : ThreadedServer := { spm := serverStart [listeningPort] }

/-- A `krs_server_send` of one byte to connection 1. -/
def smallSend : ThreadEvent :=
  .send 1 { channel := 20, data := [7], length := 1, requireAck := false }

/-- A connection is entered into the map and acquired by a sender before its
`DISCONNECT`; the sender gives the last reference back. -/
def orderlyEvents : List ThreadEvent :=
  [.connection 0 (clientAddress 7) 1 {}, stepOf 0, stepOf 0, smallSend,
    .disconnect 0 (clientAddress 7), stepOf 1, stepOf 1, stepOf 0, stepOf 0]

/-- A `DISCONNECT` on another thread comes between the two sections of a
`CONNECTION` handler, and a send follows. -/
def hastyEvents : List ThreadEvent :=
  [.connection 0 (clientAddress 7) 1 {}, .disconnect 0 (clientAddress 7),
    stepOf 1, stepOf 1, stepOf 0, smallSend, stepOf 2, stepOf 2]

/-- The connection is freed once, by the sender. -/
theorem orderly_connection_freed_safely :
    ∃ final, run threadStep smallServer orderlyEvents = some final ∧
      final.frees =
        [{ connection := 0, listed := false, mapped := false,
           held := false }] ∧
      LifetimeSafe final := by
  have fresh : ∀ desc ∈ [listeningPort], ∀ channel,
      desc.connectionsOf channel = [] := by
    intro desc member channel
    rw [List.mem_singleton.mp member]
    rfl
  have allowed : RunAllowed threadStep LifetimeAllowed smallServer
      orderlyEvents := by decide +kernel
  have outcome : (run threadStep smallServer orderlyEvents).map
      ThreadedServer.frees = some
        [{ connection := 0, listed := false, mapped := false,
           held := false }] := by decide +kernel
  obtain ⟨final, reached, frees⟩ := Option.map_eq_some_iff.mp outcome
  exact ⟨final, reached, frees,
    connections_freed_safely fresh allowed reached⟩

/-- The connection is freed while its `CONNECTION` handler still holds it, is
then entered into the map, and is freed a second time by the send. -/
theorem hasty_connection_freed_twice :
    ∃ final, run threadStep smallServer hastyEvents = some final ∧
      final.frees =
        [{ connection := 0, listed := false, mapped := false, held := true },
          { connection := 0, listed := false, mapped := true,
            held := true }] ∧
      isMapped final.spm.connectionMap 0 = true ∧
      ¬ LifetimeSafe final := by
  have outcome : (run threadStep smallServer hastyEvents).map
      (fun final => (final.frees, isMapped final.spm.connectionMap 0)) =
        some
          ([{ connection := 0, listed := false, mapped := false,
              held := true },
            { connection := 0, listed := false, mapped := true,
              held := true }], true) := by decide +kernel
  obtain ⟨final, reached, shown⟩ := Option.map_eq_some_iff.mp outcome
  obtain ⟨frees, mapped⟩ := Prod.mk.inj shown
  refine ⟨final, reached, frees, mapped, fun safe => ?_⟩
  have once := safe.once
  rw [frees] at once
  exact absurd once (by decide)

end Kronos
