import Kronos.Server.Membership
import Kronos.Server.Step

/-!
# Connect and disconnect callbacks

A connection is announced when it is accepted and when it is removed.  In
between it is a member of channel 0 of its port and bound in the connection
map.  The buffer for removed connections holds 64 of them; a tick that finds
more stale connections on one port removes them from the lists without
removing them from the map and without announcing it.
-/

namespace Kronos

open Library

/-! ## The connection map as a finite map -/

section

variable {map : ConnectionMap}

theorem krsConnectionMapGet_eq_some_iff
    (placed : ProbeTable.Placed idHash map.entries.slots)
    {connectionId : UInt32}
    {entry : ConnectionMapEntry} :
    krsConnectionMapGet map connectionId = some entry ↔
      .live connectionId entry ∈ map.entries.slots :=
  ProbeTable.get_eq_some_iff placed

/-- A connection id is bound once. -/
theorem entry_unique
    (placed : ProbeTable.Placed idHash map.entries.slots)
    {connectionId : UInt32}
    {left right : ConnectionMapEntry}
    (leftBound : .live connectionId left ∈ map.entries.slots)
    (rightBound : .live connectionId right ∈ map.entries.slots) :
    left = right := by
  have leftRead := (krsConnectionMapGet_eq_some_iff placed).mpr leftBound
  have rightRead := (krsConnectionMapGet_eq_some_iff placed).mpr rightBound
  rw [leftRead] at rightRead
  exact Option.some.inj rightRead

/-- Removing an id that is not there changes nothing. -/
theorem krsConnectionMapRemove_entries
    (map : ConnectionMap)
    (address : ConnectionRef -> Option PortAddress)
    (connectionId : UInt32) :
    (krsConnectionMapRemove map address connectionId).entries =
      map.entries.remove idHash connectionId := by
  unfold krsConnectionMapRemove
  split
  case h_2 => rfl
  case h_1 found =>
    have missing : map.entries.find idHash connectionId = none := by
      simpa [krsConnectionMapGet, ProbeTable.get] using found
    rw [ProbeTable.remove, missing]

theorem foldl_krsConnectionMapRemove_placed
    (address : ConnectionRef -> Option PortAddress)
    (connectionIds : List UInt32)
    (map : ConnectionMap)
    (placed : ProbeTable.Placed idHash map.entries.slots) :
    let removed := connectionIds.foldl (fun map connectionId =>
      krsConnectionMapRemove map address connectionId) map
    ProbeTable.Placed idHash removed.entries.slots ∧
      ∀ otherId entry, .live otherId entry ∈ removed.entries.slots ↔
        otherId ∉ connectionIds ∧
          .live otherId entry ∈ map.entries.slots := by
  induction connectionIds generalizing map with
  | nil => simpa using placed
  | cons connectionId connectionIds inductionHypothesis =>
      obtain ⟨placedHere, bindingsHere⟩ := placed.remove connectionId
      have here := krsConnectionMapRemove_entries map address connectionId
      rw [← here] at placedHere bindingsHere
      obtain ⟨placedAfter, bindingsAfter⟩ := inductionHypothesis _ placedHere
      refine ⟨placedAfter, ?_⟩
      intro otherId entry
      rw [List.foldl_cons, bindingsAfter, bindingsHere, List.mem_cons,
        not_or]
      tauto

theorem foldl_krsConnectionMapRemove_sound
    (address : ConnectionRef -> Option PortAddress)
    (connectionIds : List UInt32)
    (map : ConnectionMap)
    (sound : ProbeTable.Sound idHash map.entries) :
    ProbeTable.Sound idHash (connectionIds.foldl (fun map connectionId =>
      krsConnectionMapRemove map address connectionId) map).entries := by
  induction connectionIds generalizing map with
  | nil => exact sound
  | cons connectionId connectionIds inductionHypothesis =>
      refine inductionHypothesis _ ?_
      rw [krsConnectionMapRemove_entries]
      exact (sound.remove connectionId).1

end

/-! ## The invariant -/

/-- The connections of a channel of a port. -/
def listed
    (spm : ServerPortManager)
    (descriptor : Nat)
    (channel : Channel) : List ConnectionRef :=
  match spm.descriptorList[descriptor]? with
  | none => []
  | some desc => desc.connectionsOf channel

/-- On a new server nobody is listed. -/
theorem listed_serverStart
    {descriptorList : List UDPSocketDescriptor}
    {channel : Channel}
    (fresh : ∀ desc ∈ descriptorList, desc.connectionsOf channel = [])
    (descriptor : Nat) :
    listed (serverStart descriptorList) descriptor channel = [] := by
  unfold listed
  split
  case h_1 => rfl
  case h_2 desc read => exact fresh desc (List.mem_of_getElem? read)

/-- Id and address of a connection. -/
def identityOf (spm : ServerPortManager) (ref : ConnectionRef) :
    Option (UInt32 × PortAddress) :=
  spm.connections[ref]?.map fun conn =>
    (conn.connectionId, conn.remoteAddress)

/-- The effect is the disconnect callback of this connection. -/
def ServerEffect.isDisconnectOf (ref : ConnectionRef) :
    ServerEffect -> Bool
  | .disconnected _ connection _ => connection == ref
  | _ => false

/-- How often the disconnect callback was called for a connection. -/
def disconnectCount (log : List ServerEffect) (ref : ConnectionRef) : Nat :=
  log.countP (ServerEffect.isDisconnectOf ref)

theorem disconnectCount_append
    (log effects : List ServerEffect)
    (ref : ConnectionRef) :
    disconnectCount (log ++ effects) ref =
      disconnectCount log ref + disconnectCount effects ref :=
  List.countP_append

/-- Lists, map and log agree on who is connected. -/
structure Presence
    (spm : ServerPortManager)
    (log : List ServerEffect) : Prop where
  sound : ProbeTable.Sound idHash spm.connectionMap.entries
  bound : ∀ descriptor, ∀ ref ∈ listed spm descriptor 0,
    ∃ connectionId address,
      identityOf spm ref = some (connectionId, address) ∧
        .live connectionId
            { descriptor := descriptor, connection := ref } ∈
          spm.connectionMap.entries.slots
  backed : ∀ connectionId entry,
    .live connectionId entry ∈ spm.connectionMap.entries.slots ->
      entry.connection ∈ listed spm entry.descriptor 0 ∧
        ∃ address, identityOf spm entry.connection =
          some (connectionId, address)
  subscribers : ∀ descriptor channel, ∀ ref ∈ listed spm descriptor channel,
    ref ∈ listed spm descriptor 0
  distinct : ∀ descriptor, (listed spm descriptor 0).Nodup
  addresses : ∀ descriptor, ∀ left ∈ listed spm descriptor 0,
    ∀ right ∈ listed spm descriptor 0, ∀ leftId rightId address,
      identityOf spm left = some (leftId, address) ->
        identityOf spm right = some (rightId, address) -> left = right
  callbacks : ∀ desc ∈ spm.descriptorList,
    desc.disconnectCallback.isSome = true
  present : ∀ descriptor, ∀ ref ∈ listed spm descriptor 0,
    disconnectCount log ref = 0
  left : ∀ ref, ref < spm.connections.length ->
    (∀ descriptor, ref ∉ listed spm descriptor 0) ->
      disconnectCount log ref = 1
  unborn : ∀ ref, spm.connections.length ≤ ref ->
    disconnectCount log ref = 0
  announced : ∀ callback ref connectionId,
    ServerEffect.connected callback ref connectionId ∈ log ->
      ∃ address, identityOf spm ref = some (connectionId, address)

/-- A connection is a member of at most one port. -/
theorem Presence.descriptor_unique
    {spm : ServerPortManager}
    {log : List ServerEffect}
    (presence : Presence spm log)
    {ref : ConnectionRef}
    {left right : Nat}
    (leftListed : ref ∈ listed spm left 0)
    (rightListed : ref ∈ listed spm right 0) :
    left = right := by
  obtain ⟨leftId, _, leftIdentity, leftBound⟩ :=
    presence.bound left ref leftListed
  obtain ⟨rightId, _, rightIdentity, rightBound⟩ :=
    presence.bound right ref rightListed
  rw [leftIdentity] at rightIdentity
  cases rightIdentity
  have same := entry_unique presence.sound.placed leftBound rightBound
  exact congrArg ConnectionMapEntry.descriptor same

theorem allocated_of_identity
    {spm : ServerPortManager}
    {ref : ConnectionRef}
    {identity : UInt32 × PortAddress}
    (known : identityOf spm ref = some identity) :
    ref < spm.connections.length := by
  obtain ⟨conn, read, -⟩ := Option.map_eq_some_iff.mp known
  exact (List.getElem?_eq_some_iff.mp read).1

/-- A member is an allocated connection. -/
theorem Presence.allocated
    {spm : ServerPortManager}
    {log : List ServerEffect}
    (presence : Presence spm log)
    {descriptor : Nat}
    {ref : ConnectionRef}
    (member : ref ∈ listed spm descriptor 0) :
    ref < spm.connections.length := by
  obtain ⟨connectionId, address, identity, -⟩ :=
    presence.bound descriptor ref member
  exact allocated_of_identity identity

/-! ## Calm events keep it -/

theorem identityOf_of_related
    {before after : ServerPortManager}
    (heap : IndexRelated (fun _ => SameIdentity) before.connections
      after.connections) :
    identityOf after = identityOf before := by
  funext ref
  unfold identityOf
  rcases heap.read_cases ref with ⟨noneBefore, noneAfter⟩ |
    ⟨old, new, oldRead, newRead, same⟩
  · rw [noneBefore, noneAfter]
  · rw [oldRead, newRead, Option.map_some, Option.map_some,
      same.connectionId, same.remoteAddress]

theorem Unannounced.disconnectCount_eq_zero
    {effects : List ServerEffect}
    (unannounced : Unannounced effects)
    (ref : ConnectionRef) :
    disconnectCount effects ref = 0 := by
  rw [disconnectCount, List.countP_eq_zero]
  intro effect member announced
  have silent := unannounced effect member
  cases effect <;> first | cases announced | cases silent

section

variable
  {before after : ServerPortManager}
  {effects : List ServerEffect}

theorem CalmEvent.listed_zero
    (calm : CalmEvent before after effects)
    (descriptor : Nat) :
    listed after descriptor 0 = listed before descriptor 0 := by
  unfold listed
  rcases calm.descriptors.read_cases descriptor with
    ⟨noneBefore, noneAfter⟩ | ⟨old, new, oldRead, newRead, same⟩
  · rw [noneBefore, noneAfter]
  · rw [oldRead, newRead]
    exact same.members

theorem CalmEvent.mem_listed
    (calm : CalmEvent before after effects)
    {descriptor : Nat}
    {channel : Channel}
    {ref : ConnectionRef}
    (member : ref ∈ listed after descriptor channel) :
    ref ∈ listed before descriptor channel ∨
      ref ∈ listed before descriptor 0 := by
  unfold listed at member ⊢
  split at member
  case h_1 => cases member
  case h_2 new newRead =>
    obtain ⟨old, oldRead, same⟩ := calm.descriptors.exists_old newRead
    rw [oldRead]
    exact same.subscribers channel ref member

theorem Presence.calm
    {log : List ServerEffect}
    (presence : Presence before log)
    (calm : CalmEvent before after effects) :
    Presence after (log ++ effects) := by
  have identity := identityOf_of_related calm.heap
  have silent := calm.unannounced.disconnectCount_eq_zero
  refine ⟨?_, ?_, ?_, ?_, ?_, ?_, ?_, ?_, ?_, ?_, ?_⟩
  · rw [calm.map]
    exact presence.sound
  · intro descriptor ref member
    rw [calm.listed_zero] at member
    rw [identity, calm.map]
    exact presence.bound descriptor ref member
  · intro connectionId entry
    rw [calm.map, calm.listed_zero, identity]
    exact presence.backed connectionId entry
  · intro descriptor channel ref member
    rw [calm.listed_zero]
    rcases calm.mem_listed member with own | base
    · exact presence.subscribers descriptor channel ref own
    · exact base
  · intro descriptor
    rw [calm.listed_zero]
    exact presence.distinct descriptor
  · intro descriptor
    rw [calm.listed_zero, identity]
    exact presence.addresses descriptor
  · intro new member
    obtain ⟨position, newRead⟩ := List.mem_iff_getElem?.mp member
    obtain ⟨old, oldRead, same⟩ := calm.descriptors.exists_old newRead
    rw [same.disconnect]
    exact presence.callbacks old (List.mem_of_getElem? oldRead)
  · intro descriptor ref member
    rw [calm.listed_zero] at member
    rw [disconnectCount_append, silent, Nat.add_zero]
    exact presence.present descriptor ref member
  · intro ref inside absent
    rw [calm.heap.1] at inside
    rw [disconnectCount_append, silent, Nat.add_zero]
    refine presence.left ref inside fun descriptor => ?_
    rw [← calm.listed_zero]
    exact absent descriptor
  · intro ref outside
    rw [calm.heap.1] at outside
    rw [disconnectCount_append, silent, Nat.add_zero]
    exact presence.unborn ref outside
  · intro callback ref connectionId member
    rw [identity]
    rcases List.mem_append.mp member with earlier | later
    · exact presence.announced callback ref connectionId earlier
    · cases calm.unannounced _ later

end

/-! ## Accepting a connection -/

section

variable
  {before after : ServerPortManager}
  {effects : List ServerEffect}
  {descriptor : Nat}
  {desc : UDPSocketDescriptor}
  {conn : ClientConnection}

theorem Accepted.listed
    (accepted : Accepted before after effects descriptor desc conn)
    (other : Nat)
    (channel : Channel) :
    listed after other channel =
      if other = descriptor ∧ channel = 0 then
        listed before other channel ++ [before.connections.length]
      else listed before other channel := by
  unfold Kronos.listed
  rw [accepted.descriptors, List.getElem?_modify]
  by_cases same : other = descriptor
  · subst same
    rw [accepted.read]
    simp only [if_true, Option.map_eq_map, Option.map_some, true_and]
    rw [connectionsOf_modifyChannel]
    split
    case isTrue zero =>
      subst zero
      obtain ⟨conns, stored⟩ := Option.isSome_iff_exists.mp accepted.created
      simp [pushConnection, UDPSocketDescriptor.connectionsOf, stored]
    case isFalse => rfl
  · simp only [if_neg (Ne.symm same), Option.map_eq_map, same, false_and,
      if_false, Option.map_id_fun', id_eq]

theorem Accepted.identity
    (accepted : Accepted before after effects descriptor desc conn)
    (ref : ConnectionRef) :
    identityOf after ref =
      if ref = before.connections.length then
        some (conn.connectionId, conn.remoteAddress)
      else identityOf before ref := by
  unfold identityOf
  rw [accepted.heap]
  split
  case isTrue last =>
    rw [last, List.getElem?_concat_length]
    rfl
  case isFalse other =>
    rcases Nat.lt_or_ge ref before.connections.length with inside | outside
    · rw [List.getElem?_append_left inside]
    · rw [List.getElem?_eq_none_iff.mpr outside,
        List.getElem?_eq_none_iff.mpr]
      rw [List.length_append, List.length_singleton]
      exact Nat.lt_of_le_of_ne outside (Ne.symm other)

theorem Accepted.disconnectCount_eq_zero
    (accepted : Accepted before after effects descriptor desc conn)
    (ref : ConnectionRef) :
    disconnectCount effects ref = 0 := by
  rw [disconnectCount, List.countP_eq_zero]
  intro effect member disconnects
  have presence : effect.isPresence = true := by
    cases effect <;> first | rfl | cases disconnects
  obtain ⟨callback, rfl⟩ := accepted.announced effect member presence
  cases disconnects

/-- The next connection id is not in use and the map can still grow. -/
def ConnectionIdFree (spm : ServerPortManager) : Prop :=
  krsConnectionMapGet spm.connectionMap (spm.nextConnectionId + 1) = none ∧
    spm.connectionMap.entries.slots.length ≤ 2 ^ 30

instance (spm : ServerPortManager) : Decidable (ConnectionIdFree spm) :=
  inferInstanceAs (Decidable (_ ∧ _))

theorem Presence.accept
    {log : List ServerEffect}
    (presence : Presence before log)
    (free : ConnectionIdFree before)
    (accepted : Accepted before after effects descriptor desc conn) :
    Presence after (log ++ effects) := by
  have lists := accepted.listed
  have identity := accepted.identity
  have silent := accepted.disconnectCount_eq_zero
  have unused : ∀ entry, .live conn.connectionId entry ∉
      before.connectionMap.entries.slots := by
    intro entry bound
    have read := (krsConnectionMapGet_eq_some_iff presence.sound.placed).mpr bound
    rw [accepted.connectionId, free.1] at read
    cases read
  obtain ⟨sound, binds⟩ := presence.sound.put free.2 conn.connectionId
    { descriptor := descriptor, connection := before.connections.length }
  have bindings : ∀ connectionId entry,
      .live connectionId entry ∈ after.connectionMap.entries.slots ↔
        (connectionId = conn.connectionId ∧
          entry = ⟨descriptor, before.connections.length⟩) ∨
        (connectionId ≠ conn.connectionId ∧
          .live connectionId entry ∈
            before.connectionMap.entries.slots) := by
    rw [accepted.map]
    exact binds
  have members : ∀ other ref, ref ∈ listed after other 0 ->
      ref ∈ listed before other 0 ∨
        other = descriptor ∧ ref = before.connections.length := by
    intro other ref member
    rw [lists] at member
    split at member
    case isTrue here =>
      rcases List.mem_append.mp member with old | new
      · exact Or.inl old
      · exact Or.inr ⟨here.1, List.mem_singleton.mp new⟩
    case isFalse => exact Or.inl member
  have kept : ∀ other channel ref, ref ∈ listed before other channel ->
      ref ∈ listed after other channel := by
    intro other channel ref member
    rw [lists]
    split
    case isTrue => exact List.mem_append_left _ member
    case isFalse => exact member
  have old_ne : ∀ other ref, ref ∈ listed before other 0 ->
      ref ≠ before.connections.length := by
    intro other ref member same
    have inside := presence.allocated member
    rw [same] at inside
    exact Nat.lt_irrefl _ inside
  refine ⟨?_, ?_, ?_, ?_, ?_, ?_, ?_, ?_, ?_, ?_, ?_⟩
  · rw [accepted.map]
    exact sound
  · intro other ref member
    rcases members other ref member with old | ⟨rfl, rfl⟩
    · obtain ⟨connectionId, address, known, bound⟩ :=
        presence.bound other ref old
      refine ⟨connectionId, address, ?_, ?_⟩
      · rw [identity, if_neg (old_ne other ref old)]
        exact known
      · rw [bindings]
        refine Or.inr ⟨?_, bound⟩
        rintro rfl
        exact unused _ bound
    · refine ⟨conn.connectionId, conn.remoteAddress, ?_, ?_⟩
      · rw [identity, if_pos rfl]
      · rw [bindings]
        exact Or.inl ⟨rfl, rfl⟩
  · intro connectionId entry bound
    rw [bindings] at bound
    rcases bound with ⟨rfl, rfl⟩ | ⟨-, old⟩
    · refine ⟨?_, conn.remoteAddress, ?_⟩
      · rw [lists, if_pos ⟨rfl, rfl⟩]
        simp
      · rw [identity, if_pos rfl]
    · obtain ⟨member, address, known⟩ := presence.backed connectionId entry
        old
      refine ⟨kept _ _ _ member, address, ?_⟩
      rw [identity, if_neg (old_ne _ _ member)]
      exact known
  · intro other channel ref member
    rw [lists] at member
    split at member
    case isTrue here =>
      rw [here.2] at member
      rw [lists, if_pos ⟨here.1, rfl⟩]
      exact member
    case isFalse =>
      exact kept other 0 ref (presence.subscribers other channel ref member)
  · intro other
    rw [lists]
    split
    case isTrue =>
      refine List.nodup_append.mpr
        ⟨presence.distinct other, List.nodup_singleton _, ?_⟩
      rintro left leftIn right rightIn rfl
      exact old_ne other left leftIn (List.mem_singleton.mp rightIn)
    case isFalse => exact presence.distinct other
  · intro other leftRef leftMember rightRef rightMember leftId rightId
      address leftIdentity rightIdentity
    have unknown : ∀ ref otherId, ref ∈ listed before descriptor 0 ->
        identityOf before ref ≠ some (otherId, conn.remoteAddress) := by
      intro ref otherId member known
      unfold Kronos.listed at member
      rw [accepted.read] at member
      have differs := accepted.unknown ref member
      obtain ⟨oldConn, read, same⟩ := Option.map_eq_some_iff.mp known
      unfold ServerPortManager.hasAddress at differs
      rw [read] at differs
      simp only [Prod.mk.injEq] at same
      simp only at differs
      rw [same.2, (krsNetworkPortAddressEquals_iff _ _).mpr rfl] at differs
      cases differs
    rw [identity] at leftIdentity rightIdentity
    rcases members other leftRef leftMember with leftOld | ⟨rfl, rfl⟩
    · rw [if_neg (old_ne other leftRef leftOld)] at leftIdentity
      rcases members other rightRef rightMember with rightOld | ⟨rfl, rfl⟩
      · rw [if_neg (old_ne other rightRef rightOld)] at rightIdentity
        exact presence.addresses other leftRef leftOld rightRef rightOld
          leftId rightId address leftIdentity rightIdentity
      · rw [if_pos rfl] at rightIdentity
        cases rightIdentity
        exact absurd leftIdentity (unknown leftRef leftId leftOld)
    · rw [if_pos rfl] at leftIdentity
      cases leftIdentity
      rcases members other rightRef rightMember with rightOld | ⟨-, rfl⟩
      · rw [if_neg (old_ne other rightRef rightOld)] at rightIdentity
        exact absurd rightIdentity (unknown rightRef rightId rightOld)
      · rfl
  · intro new member
    rw [accepted.descriptors] at member
    obtain ⟨position, newRead⟩ := List.mem_iff_getElem?.mp member
    rw [List.getElem?_modify] at newRead
    obtain ⟨old, oldRead, same⟩ := Option.map_eq_some_iff.mp newRead
    have registered := presence.callbacks old (List.mem_of_getElem? oldRead)
    rw [← same]
    split
    case isTrue => exact registered
    case isFalse => exact registered
  · intro other ref member
    rw [disconnectCount_append, silent, Nat.add_zero]
    rcases members other ref member with old | ⟨-, rfl⟩
    · exact presence.present other ref old
    · exact presence.unborn _ (Nat.le_refl _)
  · intro ref inside absent
    rw [disconnectCount_append, silent, Nat.add_zero]
    rw [accepted.heap, List.length_append, List.length_singleton] at inside
    rcases Nat.lt_or_ge ref before.connections.length with old | new
    · exact presence.left ref old fun other member =>
        absent other (kept other 0 ref member)
    · have last : ref = before.connections.length :=
        Nat.le_antisymm (Nat.le_of_lt_succ inside) new
      refine absurd ?_ (absent descriptor)
      rw [lists, if_pos ⟨rfl, rfl⟩, last]
      simp
  · intro ref outside
    rw [accepted.heap, List.length_append, List.length_singleton] at outside
    rw [disconnectCount_append, silent, Nat.add_zero]
    exact presence.unborn ref (Nat.le_of_succ_le outside)
  · intro callback ref connectionId member
    rw [identity]
    rcases List.mem_append.mp member with earlier | later
    · obtain ⟨address, known⟩ :=
        presence.announced callback ref connectionId earlier
      have inside := allocated_of_identity known
      rw [if_neg (Nat.ne_of_lt inside)]
      exact ⟨address, known⟩
    · obtain ⟨registered, same⟩ := accepted.announced _ later rfl
      cases same
      rw [if_pos rfl]
      exact ⟨conn.remoteAddress, rfl⟩

end

/-! ## Removing connections -/

/-- The leaving members of a port were removed and announced. -/
structure Removed
    (before after : ServerPortManager)
    (effects : List ServerEffect)
    (descriptor : Nat)
    (leaves : ConnectionRef -> Bool)
    (orphans : List ConnectionRef) : Prop where
  once : orphans.Nodup
  mem_iff : ∀ ref, ref ∈ orphans ↔
    ref ∈ listed before descriptor 0 ∧ leaves ref = true
  lists : ∀ other channel, listed after other channel =
    if other = descriptor then
      (listed before other channel).filter fun ref => !leaves ref
    else listed before other channel
  descriptors : IndexRelated (fun _ => SameCallbacks) before.descriptorList
    after.descriptorList
  map : after.connectionMap =
    (orphans.map before.connectionIdOf).foldl (fun map connectionId =>
      krsConnectionMapRemove map before.addressOf connectionId)
      before.connectionMap
  heap : IndexRelated (fun _ => SameIdentity) before.connections
    after.connections
  announced : ∃ callback,
    effects = disconnectCallbacks (some callback) before orphans

section

variable
  {before after : ServerPortManager}
  {effects : List ServerEffect}
  {descriptor : Nat}
  {leaves : ConnectionRef -> Bool}
  {orphans : List ConnectionRef}

theorem Removed.disconnectCount_eq
    (removed : Removed before after effects descriptor leaves orphans)
    (ref : ConnectionRef) :
    disconnectCount effects ref = if ref ∈ orphans then 1 else 0 := by
  obtain ⟨callback, rfl⟩ := removed.announced
  rw [disconnectCount, disconnectCallbacks, List.countP_map]
  change orphans.count ref = _
  exact List.Nodup.count removed.once

theorem connectionIdOf_of_identity
    {spm : ServerPortManager}
    {ref : ConnectionRef}
    {connectionId : UInt32}
    {address : PortAddress}
    (identity : identityOf spm ref = some (connectionId, address)) :
    spm.connectionIdOf ref = connectionId := by
  obtain ⟨conn, read, same⟩ := Option.map_eq_some_iff.mp identity
  unfold ServerPortManager.connectionIdOf
  rw [read]
  exact (Prod.mk.inj same).1

theorem Presence.remove
    {log : List ServerEffect}
    (presence : Presence before log)
    (removed : Removed before after effects descriptor leaves orphans) :
    Presence after (log ++ effects) := by
  have identity := identityOf_of_related removed.heap
  have counted := removed.disconnectCount_eq
  have sound := foldl_krsConnectionMapRemove_sound before.addressOf
    (orphans.map before.connectionIdOf) before.connectionMap presence.sound
  have bindings := (foldl_krsConnectionMapRemove_placed before.addressOf
    (orphans.map before.connectionIdOf) before.connectionMap
    presence.sound.placed).2
  rw [← removed.map] at sound bindings
  have survivor : ∀ other ref, ref ∈ listed after other 0 ->
      ref ∈ listed before other 0 ∧ ref ∉ orphans := by
    intro other ref member
    rw [removed.lists] at member
    split at member
    case isTrue same =>
      subst same
      obtain ⟨old, stays⟩ := List.mem_filter.mp member
      refine ⟨old, fun orphan => ?_⟩
      rw [((removed.mem_iff ref).mp orphan).2] at stays
      cases stays
    case isFalse other_ne =>
      refine ⟨member, fun orphan => other_ne ?_⟩
      exact presence.descriptor_unique member
        ((removed.mem_iff ref).mp orphan).1
  have stays : ∀ other ref, ref ∈ listed before other 0 ->
      ref ∉ orphans -> ref ∈ listed after other 0 := by
    intro other ref member notOrphan
    rw [removed.lists]
    split
    case isTrue same =>
      subst same
      refine List.mem_filter.mpr ⟨member, ?_⟩
      rw [Bool.not_eq_true']
      refine Bool.eq_false_of_not_eq_true fun gone => notOrphan ?_
      exact (removed.mem_iff ref).mpr ⟨member, gone⟩
    case isFalse => exact member
  have orphanId : ∀ ref other connectionId address,
      ref ∈ listed before other 0 ->
      identityOf before ref = some (connectionId, address) ->
      (connectionId ∈ orphans.map before.connectionIdOf ↔
        ref ∈ orphans) := by
    intro ref other connectionId address member known
    constructor
    · intro evicted
      obtain ⟨orphan, isOrphan, sameId⟩ := List.mem_map.mp evicted
      obtain ⟨orphanId, orphanAddress, orphanKnown, orphanBound⟩ :=
        presence.bound descriptor orphan
          ((removed.mem_iff orphan).mp isOrphan).1
      rw [connectionIdOf_of_identity orphanKnown] at sameId
      obtain ⟨ownId, ownAddress, ownKnown, ownBound⟩ :=
        presence.bound other ref member
      rw [known] at ownKnown
      cases ownKnown
      rw [← sameId] at ownBound
      have same := entry_unique presence.sound.placed ownBound orphanBound
      cases same
      exact isOrphan
    · intro isOrphan
      rw [← connectionIdOf_of_identity known]
      exact List.mem_map_of_mem isOrphan
  refine ⟨sound, ?_, ?_, ?_, ?_, ?_, ?_, ?_, ?_, ?_, ?_⟩
  · intro other ref member
    obtain ⟨old, notOrphan⟩ := survivor other ref member
    obtain ⟨connectionId, address, known, bound⟩ :=
      presence.bound other ref old
    refine ⟨connectionId, address, ?_, ?_⟩
    · rw [identity]
      exact known
    · rw [bindings, orphanId ref other connectionId address old known]
      exact ⟨notOrphan, bound⟩
  · intro connectionId entry bound
    rw [bindings] at bound
    obtain ⟨member, address, known⟩ := presence.backed connectionId entry
      bound.2
    rw [orphanId _ _ connectionId address member known] at bound
    refine ⟨stays _ _ member bound.1, address, ?_⟩
    rw [identity]
    exact known
  · intro other channel ref member
    rw [removed.lists] at member ⊢
    split at member
    case isTrue same =>
      rw [if_pos same]
      obtain ⟨old, kept⟩ := List.mem_filter.mp member
      exact List.mem_filter.mpr
        ⟨presence.subscribers other channel ref old, kept⟩
    case isFalse different =>
      rw [if_neg different]
      exact presence.subscribers other channel ref member
  · intro other
    rw [removed.lists]
    split
    case isTrue => exact (presence.distinct other).filter _
    case isFalse => exact presence.distinct other
  · intro other leftRef leftMember rightRef rightMember
    rw [identity]
    exact presence.addresses other leftRef (survivor other _ leftMember).1
      rightRef (survivor other _ rightMember).1
  · intro new member
    obtain ⟨position, newRead⟩ := List.mem_iff_getElem?.mp member
    obtain ⟨old, oldRead, same⟩ := removed.descriptors.exists_old newRead
    rw [same.disconnect]
    exact presence.callbacks old (List.mem_of_getElem? oldRead)
  · intro other ref member
    obtain ⟨old, notOrphan⟩ := survivor other ref member
    rw [disconnectCount_append, counted, if_neg notOrphan, Nat.add_zero]
    exact presence.present other ref old
  · intro ref inside absent
    rw [removed.heap.1] at inside
    rw [disconnectCount_append, counted]
    by_cases isOrphan : ref ∈ orphans
    · rw [if_pos isOrphan, presence.present descriptor ref
        ((removed.mem_iff ref).mp isOrphan).1]
    · rw [if_neg isOrphan, Nat.add_zero]
      exact presence.left ref inside fun other member =>
        absent other (stays other ref member isOrphan)
  · intro ref outside
    rw [removed.heap.1] at outside
    have notOrphan : ref ∉ orphans := by
      intro isOrphan
      have inside := presence.allocated ((removed.mem_iff ref).mp isOrphan).1
      exact absurd inside (Nat.not_lt.mpr outside)
    rw [disconnectCount_append, counted, if_neg notOrphan, Nat.add_zero]
    exact presence.unborn ref outside
  · intro callback ref connectionId member
    rw [identity]
    rcases List.mem_append.mp member with earlier | later
    · exact presence.announced callback ref connectionId earlier
    · obtain ⟨registered, rfl⟩ := removed.announced
      obtain ⟨orphan, -, impossible⟩ := List.mem_map.mp later
      cases impossible

end

/-- Finalizing what a sweep has found. -/
theorem krsServerFinalizeOrphanEvictions_removed
    {spm : ServerPortManager}
    {descriptor : Nat}
    {desc cleared : UDPSocketDescriptor}
    {leaves : ConnectionRef -> Bool}
    {orphans : List ConnectionRef}
    (read : spm.descriptorList[descriptor]? = some desc)
    (callbacks : SameCallbacks desc cleared)
    (registered : desc.disconnectCallback.isSome = true)
    (lists : ∀ channel, cleared.connectionsOf channel =
      (desc.connectionsOf channel).filter fun ref => !leaves ref)
    (once : orphans.Nodup)
    (mem_iff : ∀ ref, ref ∈ orphans ↔
      ref ∈ desc.connectionsOf 0 ∧ leaves ref = true) :
    let finalized := krsServerFinalizeOrphanEvictions
      (spm.modifyDescriptor descriptor fun _ => cleared) descriptor orphans
    Removed spm finalized.1 finalized.2 descriptor leaves orphans := by
  obtain ⟨descriptors, map, effects⟩ := krsServerFinalizeOrphanEvictions_spec
    (spm.modifyDescriptor descriptor fun _ => cleared) descriptor orphans
    (modifyDescriptor_read read _)
  have heap := krsServerFinalizeOrphanEvictions_heap
    (spm.modifyDescriptor descriptor fun _ => cleared) descriptor orphans
  obtain ⟨callback, isRegistered⟩ := Option.isSome_iff_exists.mp registered
  refine ⟨once, ?_, ?_, ?_, map, ?_, callback, ?_⟩
  · unfold listed
    rw [read]
    exact mem_iff
  · intro other channel
    unfold listed
    rw [descriptors, ServerPortManager.modifyDescriptor,
      List.getElem?_modify]
    by_cases same : other = descriptor
    · subst same
      rw [read]
      simp only [if_true, Option.map_eq_map, Option.map_some]
      exact lists channel
    · simp only [if_neg (Ne.symm same), Option.map_eq_map, same, if_false,
        Option.map_id_fun', id_eq]
  · rw [descriptors]
    refine IndexRelated.modify (fun _ => SameCallbacks.refl) _ descriptor ?_
    intro old oldRead
    rw [read] at oldRead
    cases oldRead
    exact callbacks
  · exact heap.mono fun _ _ _ released => released.identity
  · rw [effects, callbacks.disconnect, isRegistered]
    rfl

end Kronos
