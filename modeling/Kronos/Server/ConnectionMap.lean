import Mathlib.Data.Nat.Size
import Kronos.Library.ProbeWalks
import Kronos.Server.State

/-!
# The connection map as two finite maps

`connection_map.c` keeps two probe tables, by connection id and by remote
address.  `MapSpec` is what they are for: a binding for each id, and an id for
each address.  A `put` binds both, and a `remove` of a bound id unbinds the id
and the address of the connection bound to it.
-/

namespace Kronos

open Library
open Library.ProbeTable

/-! ## The initial capacity -/

/-- The bits of `smeared` are those of `value`, each also written to the
`width` positions from it downwards. -/
def Smeared (value width smeared : Nat) : Prop :=
  ∀ position, smeared.testBit position = true ↔
    ∃ distance < width, value.testBit (position + distance) = true

theorem Smeared.self (value : Nat) : Smeared value 1 value := by
  intro position
  simp

theorem Smeared.double
    {value width smeared : Nat}
    (known : Smeared value width smeared) :
    Smeared value (width + width) (smeared ||| smeared >>> width) := by
  intro position
  rw [Nat.testBit_or, Nat.testBit_shiftRight, Bool.or_eq_true, known, known]
  constructor
  · rintro (⟨distance, near, bit⟩ | ⟨distance, near, bit⟩)
    · exact ⟨distance, by omega, bit⟩
    · refine ⟨width + distance, by omega, ?_⟩
      rw [← bit]
      congr 1
      omega
  · rintro ⟨distance, near, bit⟩
    rcases Nat.lt_or_ge distance width with short | long
    · exact Or.inl ⟨distance, short, bit⟩
    · refine Or.inr ⟨distance - width, by omega, ?_⟩
      rw [← bit]
      congr 1
      omega

/-- Smearing a number of at most 32 bits over 32 positions fills it up with
ones. -/
theorem Smeared.eq_two_pow_sub_one
    {value smeared : Nat}
    (known : Smeared value 32 smeared)
    (small : value < 2 ^ 32) :
    smeared = 2 ^ value.size - 1 := by
  have short : value.size ≤ 32 := Nat.size_le.mpr small
  apply Nat.eq_of_testBit_eq
  intro position
  rw [Nat.testBit_two_pow_sub_one, Bool.eq_iff_iff, known,
    decide_eq_true_iff]
  constructor
  · rintro ⟨distance, -, bit⟩
    by_contra above
    have below : value < 2 ^ (position + distance) :=
      lt_of_lt_of_le (Nat.lt_size_self value)
        (Nat.pow_le_pow_right Nat.two_pos (by omega))
    rw [Nat.testBit_lt_two_pow below] at bit
    cases bit
  · intro below
    have top : 2 ^ (value.size - 1) ≤ value := by
      rw [← Nat.lt_size]
      omega
    have highest : value < 2 ^ (value.size - 1 + 1) := by
      rw [Nat.sub_add_cancel (by omega)]
      exact Nat.lt_size_self value
    refine ⟨value.size - 1 - position, by omega, ?_⟩
    rw [show position + (value.size - 1 - position) = value.size - 1 by omega,
      Nat.testBit_eq_decide_div_mod_eq, decide_eq_true_iff,
      Nat.div_eq_of_lt_le (k := 1) (by omega) (by omega)]

/-- The word that `s_next_power_of_two` increments. -/
theorem nextPowerOfTwo_smear (word : UInt32) :
    let first := word ||| word >>> 1
    let second := first ||| first >>> 2
    let third := second ||| second >>> 4
    let fourth := third ||| third >>> 8
    (fourth ||| fourth >>> 16).toNat = 2 ^ word.toNat.size - 1 := by
  have smeared :=
    (Smeared.self word.toNat).double.double.double.double.double
  have filled := smeared.eq_two_pow_sub_one word.toNat_lt
  simp only [UInt32.toNat_or, UInt32.toNat_shiftRight]
  exact filled

/-- Capacities are powers of two, from sixteen on. -/
theorem nextPowerOfTwo_power (initialCapacity : UInt32) :
    ∃ exponent, 4 ≤ exponent ∧
      (nextPowerOfTwo initialCapacity).toNat = 2 ^ exponent := by
  have smeared := nextPowerOfTwo_smear (initialCapacity - 1)
  have short : (initialCapacity - 1).toNat.size ≤ 32 :=
    Nat.size_le.mpr (initialCapacity - 1).toNat_lt
  unfold nextPowerOfTwo
  dsimp only at smeared ⊢
  generalize (initialCapacity - 1).toNat.size = exponent at *
  generalize (_ : UInt32) ||| (_ : UInt32) >>> 16 = word at *
  have positive := Nat.two_pow_pos exponent
  split
  case isTrue => exact ⟨4, le_refl _, rfl⟩
  case isFalse large =>
    have next : (word + 1).toNat = 2 ^ exponent % 2 ^ 32 := by
      rw [UInt32.toNat_add, smeared]
      congr 1
      simp
      omega
    rcases Nat.lt_or_eq_of_le short with below | rfl
    · have fits : 2 ^ exponent < 2 ^ 32 :=
        Nat.pow_lt_pow_right (by decide) below
      rw [Nat.mod_eq_of_lt fits] at next
      refine ⟨exponent, ?_, next⟩
      by_contra small
      have tiny : 2 ^ exponent ≤ 2 ^ 3 :=
        Nat.pow_le_pow_right Nat.two_pos (by omega)
      apply large
      rw [UInt32.lt_iff_toNat_lt, next]
      exact lt_of_le_of_lt tiny (by decide)
    · exact absurd (by rw [UInt32.lt_iff_toNat_lt, next]; decide) large

/-! ## Operations -/

/-- A change of the connection map.  `entriesGrown` and `addrGrown` are the
outcomes of the growth allocations of a `put`. -/
inductive MapOp
  | put (connectionId : UInt32) (entry : ConnectionMapEntry)
      (entriesGrown addrGrown : Bool)
  | remove (connectionId : UInt32)
  deriving DecidableEq, Repr

/-- Every growth allocation of the operation succeeds. -/
def MapOp.grows : MapOp -> Bool
  | .put _ _ entriesGrown addrGrown => entriesGrown && addrGrown
  | .remove _ => true

section Operations

variable (address : ConnectionRef -> PortAddress)

/-- One operation on the connection map; `address` is the remote address of
each connection. -/
def applyMapOp (map : ConnectionMap) : MapOp -> ConnectionMap
  | .put connectionId entry entriesGrown addrGrown =>
      krsConnectionMapPut map connectionId entry (address entry.connection)
        entriesGrown addrGrown
  | .remove connectionId =>
      krsConnectionMapRemove map (fun connection => some (address connection))
        connectionId

/-- What the connection map is for. -/
structure MapSpec where
  bindings : UInt32 -> Option ConnectionMapEntry
  addresses : PortAddress -> Option UInt32

/-- Nothing is bound. -/
def MapSpec.empty : MapSpec :=
  { bindings := fun _ => none, addresses := fun _ => none }

/-- One operation on the two finite maps. -/
def MapSpec.apply (spec : MapSpec) : MapOp -> MapSpec
  | .put connectionId entry _ _ =>
      { bindings := Function.update spec.bindings connectionId (some entry)
        addresses := Function.update spec.addresses
          (address entry.connection) (some connectionId) }
  | .remove connectionId =>
      match spec.bindings connectionId with
      | none => spec
      | some entry =>
          { bindings := Function.update spec.bindings connectionId none
            addresses := Function.update spec.addresses
              (address entry.connection) none }

end Operations

/-- Both tables are counted and hold what the finite maps bind. -/
structure Implements (map : ConnectionMap) (spec : MapSpec) : Prop where
  entries : Counted idHash map.entries
  addrEntries : Counted addrHash map.addrEntries
  bindings : Represents map.entries.slots spec.bindings
  addresses : Represents map.addrEntries.slots spec.addresses

section Implementation

variable
  {address : ConnectionRef -> PortAddress}
  {map : ConnectionMap}
  {spec : MapSpec}

theorem Implements.get
    (implements : Implements map spec)
    (connectionId : UInt32) :
    krsConnectionMapGet map connectionId = spec.bindings connectionId :=
  get_of_represents implements.entries.placed implements.bindings connectionId

theorem Implements.getByAddress
    (implements : Implements map spec)
    (addr : PortAddress) :
    krsConnectionMapGetByAddress map addr = (spec.addresses addr).getD 0 := by
  rw [krsConnectionMapGetByAddress,
    get_of_represents implements.addrEntries.placed implements.addresses]

/-- Removals do to both tables what they do to the finite maps. -/
theorem Implements.remove
    (implements : Implements map spec)
    (connectionId : UInt32) :
    Implements (applyMapOp address map (.remove connectionId))
      (spec.apply address (.remove connectionId)) := by
  simp only [applyMapOp, krsConnectionMapRemove, MapSpec.apply,
    implements.get]
  cases spec.bindings connectionId with
  | none => exact implements
  | some entry =>
      obtain ⟨entries, members, -, -⟩ :=
        implements.entries.remove connectionId
      obtain ⟨addrEntries, addrMembers, -, -⟩ :=
        implements.addrEntries.remove (address entry.connection)
      exact
        { entries := entries
          addrEntries := addrEntries
          bindings := represents_remove members implements.bindings
          addresses := represents_remove addrMembers implements.addresses }

end Implementation

/-! ## Maps that can grow -/

/-- Both tables are sound. -/
structure SoundMap (map : ConnectionMap) : Prop where
  entries : Sound idHash map.entries
  addrEntries : Sound addrHash map.addrEntries

/-- Neither table has more than `2 ^ 30` slots. -/
def CapacityWithin (map : ConnectionMap) : Prop :=
  map.entries.slots.length ≤ 2 ^ 30 ∧
    map.addrEntries.slots.length ≤ 2 ^ 30

instance capacityWithinDecidable (map : ConnectionMap) :
    Decidable (CapacityWithin map) :=
  inferInstanceAs (Decidable (_ ∧ _))

theorem krsConnectionMapCreate_sound (initialCapacity : UInt32) :
    SoundMap (krsConnectionMapCreate initialCapacity) ∧
      Implements (krsConnectionMapCreate initialCapacity) MapSpec.empty := by
  obtain ⟨exponent, large, capacity⟩ := nextPowerOfTwo_power initialCapacity
  unfold krsConnectionMapCreate
  rw [capacity]
  have entries : Sound idHash
      (ProbeTable.create (2 ^ exponent) :
        ProbeTable UInt32 ConnectionMapEntry) := create_sound idHash large
  have addrEntries : Sound addrHash
      (ProbeTable.create (2 ^ exponent) : ProbeTable PortAddress UInt32) :=
    create_sound addrHash large
  exact ⟨⟨entries, addrEntries⟩, entries.counted, addrEntries.counted,
    create_represents _, create_represents _⟩

theorem SoundMap.apply
    {address : ConnectionRef -> PortAddress}
    {map : ConnectionMap}
    {spec : MapSpec}
    (sound : SoundMap map)
    (implements : Implements map spec)
    (bounded : CapacityWithin map)
    {op : MapOp}
    (grows : op.grows = true) :
    SoundMap (applyMapOp address map op) ∧
      Implements (applyMapOp address map op) (spec.apply address op) := by
  cases op with
  | put connectionId entry entriesGrown addrGrown =>
      obtain ⟨rfl, rfl⟩ : entriesGrown = true ∧ addrGrown = true := by
        simpa [MapOp.grows] using grows
      obtain ⟨entries, binds⟩ := sound.entries.put bounded.1 connectionId
        entry
      obtain ⟨addrEntries, addrBinds⟩ := sound.addrEntries.put bounded.2
        (address entry.connection) connectionId
      exact ⟨⟨entries, addrEntries⟩, entries.counted, addrEntries.counted,
        binds.represents implements.bindings,
        addrBinds.represents implements.addresses⟩
  | remove connectionId =>
      refine ⟨?_, implements.remove connectionId⟩
      simp only [applyMapOp, krsConnectionMapRemove]
      split
      case h_1 => exact sound
      case h_2 =>
        exact ⟨(sound.entries.remove connectionId).1,
          (sound.addrEntries.remove _).1⟩

/-- A run of operations within the capacity keeps both tables sound and in step
with the finite maps. -/
theorem foldl_applyMapOp_sound
    {initialCapacity : UInt32}
    {address : ConnectionRef -> PortAddress}
    (ops : List MapOp)
    (grows : ∀ op ∈ ops, op.grows = true)
    (bounded : ∀ earlier, earlier <+: ops ->
      CapacityWithin (earlier.foldl (applyMapOp address)
        (krsConnectionMapCreate initialCapacity))) :
    SoundMap (ops.foldl (applyMapOp address)
        (krsConnectionMapCreate initialCapacity)) ∧
      Implements (ops.foldl (applyMapOp address)
          (krsConnectionMapCreate initialCapacity))
        (ops.foldl (MapSpec.apply address) MapSpec.empty) := by
  induction ops using List.reverseRecOn with
  | nil => exact krsConnectionMapCreate_sound initialCapacity
  | append_singleton ops op inductionHypothesis =>
      obtain ⟨sound, implements⟩ := inductionHypothesis
        (fun earlier member => grows earlier (List.mem_append_left _ member))
        (fun earlier within =>
          bounded earlier (within.trans (List.prefix_append ops [op])))
      rw [List.foldl_append, List.foldl_append]
      exact sound.apply implements
        (bounded ops (List.prefix_append ops [op]))
        (grows op (List.mem_append_right _ List.mem_cons_self))

/-- The walks of every operation on one table stop: of lookups and removals,
of insertions after growing, and of a rehash. -/
structure WalksStop
    [DecidableEq κ]
    (hash : κ -> Nat)
    (table : ProbeTable κ ν) : Prop where
  lookups : ∀ key, WalkStops hash table.slots key
  insertions : ∀ key, WalkStops hash (table.makeRoom hash true).slots key
  rehashes : ∀ entered rest key value,
    table.slots = entered ++ Slot.live key value :: rest ->
      WalkStops hash
        (entered.foldl (rehash hash)
          (ProbeTable.create (table.slots.length * 2 % 2 ^ 32))).slots key

theorem walksStop_of_sound
    [DecidableEq κ]
    {hash : κ -> Nat}
    {table : ProbeTable κ ν}
    (sound : Sound hash table)
    (bounded : table.slots.length ≤ 2 ^ 30) :
    WalksStop hash table where
  lookups := sound.walkStops
  insertions := (sound.makeRoom bounded true).walkStops
  rehashes := fun _ _ _ _ => sound.rehash_walkStops bounded

/-- After any puts and removes for which the memory is there and that keep the
capacity within `2 ^ 30`, the two tables look up what the finite maps bind, the
four counters are right, and every walk stops. -/
theorem connection_map_implements_finite_maps
    (initialCapacity : UInt32)
    (address : ConnectionRef -> PortAddress)
    (ops : List MapOp)
    (grows : ∀ op ∈ ops, op.grows = true)
    (bounded : ∀ earlier, earlier <+: ops ->
      CapacityWithin (earlier.foldl (applyMapOp address)
        (krsConnectionMapCreate initialCapacity))) :
    let map := ops.foldl (applyMapOp address)
      (krsConnectionMapCreate initialCapacity)
    let spec := ops.foldl (MapSpec.apply address) MapSpec.empty
    (∀ connectionId, krsConnectionMapGet map connectionId =
        spec.bindings connectionId) ∧
      (∀ addr, krsConnectionMapGetByAddress map addr =
        (spec.addresses addr).getD 0) ∧
      map.entries.count = map.entries.slots.countP Slot.isLive ∧
      map.entries.tombstones =
        map.entries.slots.countP Slot.isTombstone ∧
      map.addrEntries.count = map.addrEntries.slots.countP Slot.isLive ∧
      map.addrEntries.tombstones =
        map.addrEntries.slots.countP Slot.isTombstone ∧
      WalksStop idHash map.entries ∧ WalksStop addrHash map.addrEntries := by
  obtain ⟨sound, implements⟩ := foldl_applyMapOp_sound ops grows bounded
  have capacity := bounded ops (List.prefix_refl ops)
  exact ⟨implements.get, implements.getByAddress, implements.entries.live,
    implements.entries.buried, implements.addrEntries.live,
    implements.addrEntries.buried,
    walksStop_of_sound sound.entries capacity.1,
    walksStop_of_sound sound.addrEntries capacity.2⟩

/-- The address of each connection of a small run. -/
def distinctAddress (connection : ConnectionRef) : PortAddress :=
  clientAddress connection.toUInt16

/-- Two ids that share a home slot, one of them removed and a third bound in
its place. -/
def recyclingOps : List MapOp :=
  [.put 1 { descriptor := 0, connection := 0 } true true,
   .put 17 { descriptor := 0, connection := 1 } true true,
   .remove 1,
   .put 33 { descriptor := 0, connection := 2 } true true]

/-- The theorem at operations that recycle a tombstone. -/
theorem recycling_ops_implement_finite_maps :
    let map := recyclingOps.foldl (applyMapOp distinctAddress)
      (krsConnectionMapCreate 16)
    krsConnectionMapGet map 17 = some { descriptor := 0, connection := 1 } ∧
      krsConnectionMapGet map 1 = none ∧
      krsConnectionMapGetByAddress map (clientAddress 2) = 33 ∧
      map.entries.count = 2 ∧ map.entries.tombstones = 0 ∧
      WalksStop idHash map.entries := by
  have grows : ∀ op ∈ recyclingOps, op.grows = true := by decide
  have within : ∀ earlier ∈ recyclingOps.inits,
      CapacityWithin (earlier.foldl (applyMapOp distinctAddress)
        (krsConnectionMapCreate 16)) := by decide +kernel
  have bounded : ∀ earlier, earlier <+: recyclingOps ->
      CapacityWithin (earlier.foldl (applyMapOp distinctAddress)
        (krsConnectionMapCreate 16)) :=
    fun earlier member => within earlier ((List.mem_inits _ _).mpr member)
  obtain ⟨get, byAddress, count, tombstones, -, -, walks, -⟩ :=
    connection_map_implements_finite_maps 16 distinctAddress recyclingOps
      grows bounded
  refine ⟨(get 17).trans rfl, (get 1).trans rfl,
    (byAddress (clientAddress 2)).trans rfl, count.trans ?_,
    tombstones.trans ?_, walks⟩
  · decide +kernel
  · decide +kernel

end Kronos
