import Kronos.Library.ProbeRoom
import Kronos.Server.AddressIndex

/-!
# The connection map when memory is short

`s_grow` and `s_addr_grow` return without a word when the larger array cannot
be allocated, and the insertion goes on in the old one.  The loops of the
insertions stop after one turn around the table, but what follows them does not
ask why they stopped: in a table full of entries it writes over the one at the
home of the new key and counts one entry more.

Until then nothing is lost: the tables are what they should be after every run
in which each `put` finds a slot for its id and one for its address.
-/

namespace Kronos

open Library
open Library.ProbeTable

section Runs

variable (address : ConnectionRef -> PortAddress)

/-- Neither table counts more entries than it has slots. -/
structure CountsFit (map : ConnectionMap) : Prop where
  entries : map.entries.count ≤ map.entries.slots.length
  addrEntries : map.addrEntries.count ≤ map.addrEntries.slots.length

/-- A `put` of a new id binds it and leaves the bindings of all other ids and
of all other addresses, or it leaves the map as it is. -/
def PutsWhole (map : ConnectionMap) : MapOp -> Prop
  | .put connectionId entry entriesGrown addrGrown =>
      krsConnectionMapGet map connectionId = none ->
        let next := applyMapOp address map
          (.put connectionId entry entriesGrown addrGrown)
        (krsConnectionMapGet next connectionId = some entry ∧
            (∀ other, other ≠ connectionId ->
              krsConnectionMapGet next other =
                krsConnectionMapGet map other) ∧
            ∀ addr, addr ≠ address entry.connection ->
              next.addrEntries.get addrHash addr =
                map.addrEntries.get addrHash addr) ∨
          next = map
  | .remove _ => True

/-- The entries of all other keys are still there after a `put`. -/
def OverwritesNobody (map : ConnectionMap) : MapOp -> Prop
  | .put connectionId entry entriesGrown addrGrown =>
      let next := applyMapOp address map
        (.put connectionId entry entriesGrown addrGrown)
      (∀ other stored, other ≠ connectionId ->
          .live other stored ∈ map.entries.slots ->
            .live other stored ∈ next.entries.slots) ∧
        ∀ addr stored, addr ≠ address entry.connection ->
          .live addr stored ∈ map.addrEntries.slots ->
            .live addr stored ∈ next.addrEntries.slots
  | .remove _ => True

/-- A `put` has room in both tables. -/
def PutHasRoom (map : ConnectionMap) : MapOp -> Prop
  | .put connectionId entry entriesGrown addrGrown =>
      HasRoom map.entries connectionId entriesGrown ∧
        HasRoom map.addrEntries (address entry.connection) addrGrown
  | .remove _ => True

end Runs

instance putHasRoomDecidable
    (address : ConnectionRef -> PortAddress)
    (map : ConnectionMap) :
    ∀ op, Decidable (PutHasRoom address map op)
  | .put _ _ _ _ => inferInstanceAs (Decidable (_ ∧ _))
  | .remove _ => isTrue trivial

/-- Both tables are counted, and their capacities are 32-bit words. -/
structure CountedMap (map : ConnectionMap) : Prop where
  entries : Counted idHash map.entries
  addrEntries : Counted addrHash map.addrEntries
  capacity : map.entries.slots.length ≤ 2 ^ 31
  addrCapacity : map.addrEntries.slots.length ≤ 2 ^ 31

section Steps

variable
  {address : ConnectionRef -> PortAddress}
  {map : ConnectionMap}
  {connectionId : UInt32}
  {entry : ConnectionMapEntry}
  {entriesGrown addrGrown : Bool}

theorem CountedMap.countsFit (counted : CountedMap map) : CountsFit map :=
  ⟨counted.entries.count_le, counted.addrEntries.count_le⟩

theorem CountedMap.create (initialCapacity : UInt32) :
    CountedMap (krsConnectionMapCreate initialCapacity) := by
  obtain ⟨sound, -⟩ := krsConnectionMapCreate_sound initialCapacity
  obtain ⟨exponent, -, power⟩ := nextPowerOfTwo_power initialCapacity
  have word := (nextPowerOfTwo initialCapacity).toNat_lt
  have small : (nextPowerOfTwo initialCapacity).toNat ≤ 2 ^ 31 := by
    rw [power] at word ⊢
    have below : exponent < 32 :=
      (Nat.pow_lt_pow_iff_right (by decide)).mp word
    exact Nat.pow_le_pow_right Nat.two_pos (by omega)
  refine ⟨sound.entries.counted, sound.addrEntries.counted, ?_, ?_⟩
  · simpa [krsConnectionMapCreate, ProbeTable.create] using small
  · simpa [krsConnectionMapCreate, ProbeTable.create] using small

theorem CountedMap.remove
    (counted : CountedMap map)
    (connectionId : UInt32) :
    CountedMap (applyMapOp address map (.remove connectionId)) := by
  simp only [applyMapOp, krsConnectionMapRemove]
  split
  case h_1 => exact counted
  case h_2 removed _ =>
    obtain ⟨entries, -, length, -⟩ := counted.entries.remove connectionId
    obtain ⟨addrEntries, -, addrLength, -⟩ :=
      counted.addrEntries.remove (address removed.connection)
    refine ⟨entries, addrEntries, ?_, ?_⟩
    · exact length.le.trans counted.capacity
    · exact addrLength.le.trans counted.addrCapacity

/-- What a `put` with room does to both tables. -/
theorem CountedMap.put
    (counted : CountedMap map)
    (room : PutHasRoom address map
      (.put connectionId entry entriesGrown addrGrown)) :
    let next := applyMapOp address map
      (.put connectionId entry entriesGrown addrGrown)
    CountedMap next ∧
      BindsAlso map.entries.slots connectionId entry next.entries.slots ∧
      BindsAlso map.addrEntries.slots (address entry.connection) connectionId
        next.addrEntries.slots := by
  obtain ⟨entriesRoom, addrRoom⟩ := room
  obtain ⟨entries, binds⟩ := counted.entries.put
    (counted.entries.takesKey entriesRoom) entry
  obtain ⟨addrEntries, addrBinds⟩ := counted.addrEntries.put
    (counted.addrEntries.takesKey addrRoom) connectionId
  exact ⟨⟨entries, addrEntries,
      length_put_of_hasRoom entriesRoom counted.capacity entry,
      length_put_of_hasRoom addrRoom counted.addrCapacity connectionId⟩,
    binds, addrBinds⟩

/-- A `put` without room counts an entry too many in one of the tables. -/
theorem CountedMap.put_overfull
    (counted : CountedMap map)
    (noRoom : ¬ PutHasRoom address map
      (.put connectionId entry entriesGrown addrGrown)) :
    ¬ CountsFit (applyMapOp address map
      (.put connectionId entry entriesGrown addrGrown)) := by
  intro fits
  rcases not_and_or.mp noRoom with full | addrFull
  · exact absurd fits.entries (Nat.not_le.mpr
      (counted.entries.put_overfull counted.capacity full entry))
  · exact absurd fits.addrEntries (Nat.not_le.mpr
      (counted.addrEntries.put_overfull counted.addrCapacity addrFull
        connectionId))

/-- Operations with room keep the tables counted, and only those keep the
counts within the capacities. -/
theorem CountedMap.step
    (counted : CountedMap map)
    (op : MapOp) :
    (CountsFit (applyMapOp address map op) ↔ PutHasRoom address map op) ∧
      (PutHasRoom address map op ->
        CountedMap (applyMapOp address map op)) := by
  cases op with
  | put connectionId entry entriesGrown addrGrown =>
      refine ⟨⟨?_, ?_⟩, fun room => (counted.put room).1⟩
      · intro fits
        by_contra noRoom
        exact counted.put_overfull noRoom fits
      · intro room
        exact (counted.put room).1.countsFit
  | remove connectionId =>
      have next : CountedMap (applyMapOp address map
        (.remove connectionId)) := counted.remove connectionId
      exact ⟨⟨fun _ => trivial, fun _ => next.countsFit⟩, fun _ => next⟩

/-- A `put` with room binds its id and its address, and nothing else
changes. -/
theorem CountedMap.putsWhole
    (counted : CountedMap map)
    {op : MapOp}
    (room : PutHasRoom address map op) :
    PutsWhole address map op := by
  cases op with
  | remove connectionId => trivial
  | put connectionId entry entriesGrown addrGrown =>
      intro _
      obtain ⟨next, binds, addrBinds⟩ := counted.put room
      have bound := get_of_represents next.entries.placed
        (binds.represents counted.entries.placed.represents_get)
      have addrBound := get_of_represents next.addrEntries.placed
        (addrBinds.represents counted.addrEntries.placed.represents_get)
      refine Or.inl ⟨?_, ?_, ?_⟩
      · exact (bound connectionId).trans (Function.update_self ..)
      · intro other different
        exact (bound other).trans (Function.update_of_ne different ..)
      · intro addr different
        exact (addrBound addr).trans (Function.update_of_ne different ..)

theorem CountedMap.overwritesNobody
    (counted : CountedMap map)
    {op : MapOp}
    (room : PutHasRoom address map op) :
    OverwritesNobody address map op := by
  cases op with
  | remove connectionId => trivial
  | put connectionId entry entriesGrown addrGrown =>
      obtain ⟨-, binds, addrBinds⟩ := counted.put room
      refine ⟨?_, ?_⟩
      · intro other stored different member
        exact (binds other stored).mpr (Or.inr ⟨different, member⟩)
      · intro addr stored different member
        exact (addrBinds addr stored).mpr (Or.inr ⟨different, member⟩)

end Steps

/-! ## Whole runs -/

/-- In every run of operations whose growth allocations fail at will, every
`put` of a new id is carried out whole or not at all, no entry is overwritten
by another key, and the counts stay within the capacities, exactly if every
`put` has room in both tables. -/
theorem connection_map_survives_failures_iff
    (initialCapacity : UInt32)
    (address : ConnectionRef -> PortAddress)
    (ops : List MapOp) :
    RunStates (mapStep address) CountsFit
          (krsConnectionMapCreate initialCapacity) ops ∧
        RunAllowed (mapStep address) (PutsWhole address)
          (krsConnectionMapCreate initialCapacity) ops ∧
        RunAllowed (mapStep address) (OverwritesNobody address)
          (krsConnectionMapCreate initialCapacity) ops ↔
      RunAllowed (mapStep address) (PutHasRoom address)
        (krsConnectionMapCreate initialCapacity) ops := by
  have start := CountedMap.create initialCapacity
  have exactly : RunStates (mapStep address) CountsFit
      (krsConnectionMapCreate initialCapacity) ops ↔
        RunAllowed (mapStep address) (PutHasRoom address)
          (krsConnectionMapCreate initialCapacity) ops :=
    runStates_iff_runAllowed
      (fun _ op counted _ => ⟨_, rfl, counted.step op⟩) start start.countsFit
  have kept : ∀ map op next, CountedMap map -> PutHasRoom address map op ->
      mapStep address map op = some next -> CountedMap next := by
    intro map op next counted room taken
    cases taken
    exact (counted.step op).2 room
  refine ⟨fun all => exactly.mp all.1, fun room => ⟨exactly.mpr room, ?_, ?_⟩⟩
  · exact room.mono kept (fun _ _ counted here => counted.putsWhole here)
      start
  · exact room.mono kept
      (fun _ _ counted here => counted.overwritesNobody here) start

/-! ## A full table -/

/-- Connections with the ids from zero on are entered while no memory can be
had. -/
def hungryPuts (count : Nat) : List MapOp :=
  (List.range count).map fun connection =>
    .put connection.toUInt32
      { descriptor := 0, connection := connection } false false

/-- The table of sixteen slots after sixteen of them. -/
def fullMap : ConnectionMap :=
  (hungryPuts 16).foldl (applyMapOp distinctAddress)
    (krsConnectionMapCreate 16)

/-- The seventeenth connection. -/
def oneTooMany : MapOp :=
  .put 16 { descriptor := 0, connection := 16 } false false

theorem full_map_overwritten :
    run (mapStep distinctAddress) (krsConnectionMapCreate 16)
        (hungryPuts 16) = some fullMap ∧
      ¬ CountsFit (applyMapOp distinctAddress fullMap oneTooMany) ∧
      ¬ PutsWhole distinctAddress fullMap oneTooMany ∧
      ¬ OverwritesNobody distinctAddress fullMap oneTooMany := by
  refine ⟨by decide +kernel, ?_, ?_, ?_⟩
  · intro fits
    exact absurd fits.entries (by decide +kernel)
  · intro whole
    rcases whole (by decide +kernel) with ⟨-, others, -⟩ | same
    · exact absurd (others 0 (by decide)) (by decide +kernel)
    · exact absurd same (by decide +kernel)
  · intro nobody
    exact absurd (nobody.1 0 { descriptor := 0, connection := 0 } (by decide)
      (by decide +kernel)) (by decide +kernel)

end Kronos
