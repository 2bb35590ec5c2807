import Kronos.Library.Transition
import Kronos.Server.ConnectionMap

/-!
# The address index of the connection map

`krs_connection_map_put` and `krs_connection_map_remove` update the table by
address from the address alone.  The two tables agree as long as a connection
is removed only when no other live entry shares its remote address: such a
removal takes the address away from the entries that stay.
-/

namespace Kronos

open Library
open Library.ProbeTable

/-- The two indexes of the connection map agree: an address has a nonzero id
exactly when a live entry has this address, and the id is one of such an
entry. -/
def IndexesAgree
    (address : ConnectionRef -> PortAddress)
    (map : ConnectionMap) : Prop :=
  ∀ addr,
    (krsConnectionMapGetByAddress map addr ≠ 0 ↔
      ∃ connectionId entry, .live connectionId entry ∈ map.entries.slots ∧
        address entry.connection = addr) ∧
    (krsConnectionMapGetByAddress map addr ≠ 0 ->
      ∃ entry,
        .live (krsConnectionMapGetByAddress map addr) entry ∈
            map.entries.slots ∧
          address entry.connection = addr)

/-- The ids that a sequence of operations puts. -/
def putIds (ops : List MapOp) : List UInt32 :=
  ops.filterMap fun op =>
    match op with
    | .put connectionId _ _ _ => some connectionId
    | .remove _ => none

/-- The slot holds the entry of another id, for a connection with this
address. -/
def sharesAddress
    (address : ConnectionRef -> PortAddress)
    (connectionId : UInt32)
    (addr : PortAddress) : Slot UInt32 ConnectionMapEntry -> Bool
  | .live other entry =>
      decide (other ≠ connectionId ∧ address entry.connection = addr)
  | _ => false

/-- The condition of one operation.  A `put` brings a nonzero id and finds a
place for its keys.  A `remove` finds no other live entry with the address of
the connection it removes. -/
def KeepsIndexes
    (address : ConnectionRef -> PortAddress)
    (map : ConnectionMap) : MapOp -> Prop
  | .put connectionId entry entriesGrown addrGrown =>
      connectionId ≠ 0 ∧
        TakesKey idHash map.entries connectionId entriesGrown ∧
        TakesKey addrHash map.addrEntries (address entry.connection)
          addrGrown
  | .remove connectionId =>
      match krsConnectionMapGet map connectionId with
      | none => True
      | some entry =>
          ∀ slot ∈ map.entries.slots,
            sharesAddress address connectionId (address entry.connection)
              slot = false

instance keepsIndexesDecidable
    (address : ConnectionRef -> PortAddress)
    (map : ConnectionMap) :
    ∀ op, Decidable (KeepsIndexes address map op)
  | .put _ _ _ _ => inferInstanceAs (Decidable (_ ∧ _ ∧ _))
  | .remove connectionId =>
      match read : krsConnectionMapGet map connectionId with
      | none => isTrue (by simp only [KeepsIndexes, read])
      | some entry =>
          decidable_of_iff
            (∀ slot ∈ map.entries.slots,
              sharesAddress address connectionId (address entry.connection)
                slot = false)
            (by simp only [KeepsIndexes, read])

/-! ## Agreement of the finite maps -/

/-- The finite maps agree. -/
structure MapSpec.Agrees
    (address : ConnectionRef -> PortAddress)
    (spec : MapSpec) : Prop where
  sound : ∀ addr connectionId, spec.addresses addr = some connectionId ->
    connectionId ≠ 0 ∧ ∃ entry, spec.bindings connectionId = some entry ∧
      address entry.connection = addr
  complete : ∀ connectionId entry,
    spec.bindings connectionId = some entry ->
      ∃ known, spec.addresses (address entry.connection) = some known

section Agreement

variable
  {address : ConnectionRef -> PortAddress}
  {map : ConnectionMap}
  {spec : MapSpec}

theorem MapSpec.Agrees.empty : MapSpec.empty.Agrees address where
  sound := by
    intro addr connectionId known
    cases known
  complete := by
    intro connectionId entry bound
    cases bound

/-- A new id keeps the finite maps in agreement. -/
theorem MapSpec.Agrees.put
    (agrees : spec.Agrees address)
    {connectionId : UInt32}
    (nonzero : connectionId ≠ 0)
    (fresh : spec.bindings connectionId = none)
    (entry : ConnectionMapEntry)
    (entriesGrown addrGrown : Bool) :
    (spec.apply address
      (.put connectionId entry entriesGrown addrGrown)).Agrees address where
  sound := by
    intro addr known read
    simp only [MapSpec.apply] at read ⊢
    by_cases here : addr = address entry.connection
    · subst here
      rw [Function.update_self, Option.some.injEq] at read
      subst read
      exact ⟨nonzero, entry, Function.update_self .., rfl⟩
    · rw [Function.update_of_ne here] at read
      obtain ⟨knownNonzero, stored, bound, located⟩ := agrees.sound addr known
        read
      have other : known ≠ connectionId := by
        rintro rfl
        rw [fresh] at bound
        cases bound
      refine ⟨knownNonzero, stored, ?_, located⟩
      rw [Function.update_of_ne other]
      exact bound
  complete := by
    intro other stored bound
    simp only [MapSpec.apply] at bound ⊢
    by_cases here : address stored.connection = address entry.connection
    · rw [here]
      exact ⟨connectionId, Function.update_self ..⟩
    · rw [Function.update_of_ne here]
      have different : other ≠ connectionId := by
        rintro rfl
        rw [Function.update_self, Option.some.injEq] at bound
        subst bound
        exact here rfl
      rw [Function.update_of_ne different] at bound
      exact agrees.complete other stored bound

/-- The finite maps after a bound id was removed. -/
theorem MapSpec.apply_remove
    (spec : MapSpec)
    (address : ConnectionRef -> PortAddress)
    {connectionId : UInt32}
    {entry : ConnectionMapEntry}
    (bound : spec.bindings connectionId = some entry) :
    (spec.apply address (.remove connectionId)).bindings =
        Function.update spec.bindings connectionId none ∧
      (spec.apply address (.remove connectionId)).addresses =
        Function.update spec.addresses (address entry.connection) none := by
  constructor <;> simp only [MapSpec.apply, bound]

/-- Removing a bound id keeps the finite maps in agreement exactly when no
other id is bound to a connection with the same address. -/
theorem MapSpec.Agrees.remove_iff
    (agrees : spec.Agrees address)
    {connectionId : UInt32}
    {entry : ConnectionMapEntry}
    (bound : spec.bindings connectionId = some entry) :
    (spec.apply address (.remove connectionId)).Agrees address ↔
      ∀ other otherEntry, spec.bindings other = some otherEntry ->
        address otherEntry.connection = address entry.connection ->
          other = connectionId := by
  obtain ⟨bindings, addresses⟩ := spec.apply_remove address bound
  constructor
  · intro after other otherEntry otherBound shared
    by_contra different
    obtain ⟨known, read⟩ := after.complete other otherEntry
      (by rw [bindings, Function.update_of_ne different]; exact otherBound)
    rw [addresses, shared, Function.update_self] at read
    cases read
  · intro alone
    refine ⟨?_, ?_⟩
    · intro addr known read
      rw [addresses] at read
      by_cases here : addr = address entry.connection
      · subst here
        rw [Function.update_self] at read
        cases read
      · rw [Function.update_of_ne here] at read
        obtain ⟨nonzero, stored, storedBound, located⟩ :=
          agrees.sound addr known read
        have different : known ≠ connectionId := by
          rintro rfl
          rw [bound, Option.some.injEq] at storedBound
          subst storedBound
          exact here located.symm
        refine ⟨nonzero, stored, ?_, located⟩
        rw [bindings, Function.update_of_ne different]
        exact storedBound
    · intro other stored storedBound
      rw [bindings] at storedBound
      have different : other ≠ connectionId := by
        rintro rfl
        rw [Function.update_self] at storedBound
        cases storedBound
      rw [Function.update_of_ne different] at storedBound
      have elsewhere :
          address stored.connection ≠ address entry.connection :=
        fun shared => different (alone other stored storedBound shared)
      rw [addresses, Function.update_of_ne elsewhere]
      exact agrees.complete other stored storedBound

/-- The tables agree when the finite maps do. -/
theorem Implements.indexesAgree
    (implements : Implements map spec)
    (agrees : spec.Agrees address) :
    IndexesAgree address map := by
  intro addr
  have known : krsConnectionMapGetByAddress map addr ≠ 0 ->
      ∃ entry,
        .live (krsConnectionMapGetByAddress map addr) entry ∈
            map.entries.slots ∧
          address entry.connection = addr := by
    intro nonzero
    rw [implements.getByAddress] at nonzero ⊢
    cases read : spec.addresses addr with
    | none =>
        rw [read] at nonzero
        exact absurd rfl nonzero
    | some connectionId =>
        obtain ⟨-, entry, bound, located⟩ := agrees.sound addr connectionId
          read
        exact ⟨entry, (implements.bindings connectionId entry).mpr bound,
          located⟩
  refine ⟨⟨fun nonzero => ⟨_, known nonzero⟩, ?_⟩, known⟩
  rintro ⟨connectionId, entry, live, rfl⟩
  obtain ⟨other, read⟩ := agrees.complete connectionId entry
    ((implements.bindings connectionId entry).mp live)
  rw [implements.getByAddress, read]
  exact (agrees.sound _ other read).1

/-! ## Runs -/

/-- A step of the connection map. -/
def mapStep
    (address : ConnectionRef -> PortAddress)
    (map : ConnectionMap)
    (op : MapOp) : Option ConnectionMap :=
  some (applyMapOp address map op)

/-- One operation that meets its condition keeps the tables in step with
finite maps that agree. -/
theorem KeepsIndexes.agrees
    {op : MapOp}
    (keeps : KeepsIndexes address map op)
    (implements : Implements map spec)
    (agrees : spec.Agrees address)
    (fresh : ∀ connectionId ∈ putIds [op],
      spec.bindings connectionId = none) :
    Implements (applyMapOp address map op) (spec.apply address op) ∧
      (spec.apply address op).Agrees address := by
  cases op with
  | put connectionId entry entriesGrown addrGrown =>
      obtain ⟨nonzero, takesId, takesAddress⟩ := keeps
      obtain ⟨entries, binds⟩ := implements.entries.put takesId entry
      obtain ⟨addrEntries, addrBinds⟩ :=
        implements.addrEntries.put takesAddress connectionId
      exact ⟨⟨entries, addrEntries, binds.represents implements.bindings,
          addrBinds.represents implements.addresses⟩,
        agrees.put nonzero (fresh connectionId (by simp [putIds])) entry
          entriesGrown addrGrown⟩
  | remove connectionId =>
      refine ⟨implements.remove connectionId, ?_⟩
      cases bound : spec.bindings connectionId with
      | none =>
          simp only [MapSpec.apply, bound]
          exact agrees
      | some entry =>
          rw [agrees.remove_iff bound]
          intro other otherEntry otherBound shared
          simp only [KeepsIndexes, implements.get, bound] at keeps
          have alone := keeps _
            ((implements.bindings other otherEntry).mpr otherBound)
          by_contra different
          exact of_decide_eq_false alone ⟨different, shared⟩

/-- Only the ids put by an operation become bound. -/
theorem MapSpec.apply_bindings_none
    {op : MapOp}
    {connectionId : UInt32}
    (absent : spec.bindings connectionId = none)
    (other : connectionId ∉ putIds [op]) :
    (spec.apply address op).bindings connectionId = none := by
  cases op with
  | put put entry entriesGrown addrGrown =>
      have different : connectionId ≠ put := by
        simpa [putIds] using other
      simp only [MapSpec.apply]
      rw [Function.update_of_ne different]
      exact absent
  | remove removed =>
      simp only [MapSpec.apply]
      cases spec.bindings removed with
      | none => exact absent
      | some entry =>
          by_cases same : connectionId = removed
          · subst same
            exact Function.update_self ..
          · simp only
            rw [Function.update_of_ne same]
            exact absent

theorem putIds_cons (op : MapOp) (ops : List MapOp) :
    putIds (op :: ops) = putIds [op] ++ putIds ops := by
  rw [putIds, ← List.singleton_append, List.filterMap_append]
  rfl

/-- Runs of operations that meet their conditions keep the tables in step with
finite maps that agree. -/
theorem run_mapStep_agrees
    {ops : List MapOp}
    {final : ConnectionMap}
    (implements : Implements map spec)
    (agrees : spec.Agrees address)
    (fresh : ∀ connectionId ∈ putIds ops,
      spec.bindings connectionId = none)
    (distinct : (putIds ops).Nodup)
    (allowed : RunAllowed (mapStep address) (KeepsIndexes address) map ops)
    (reached : run (mapStep address) map ops = some final) :
    IndexesAgree address final := by
  induction ops generalizing map spec with
  | nil =>
      cases reached
      exact implements.indexesAgree agrees
  | cons op ops inductionHypothesis =>
      obtain ⟨keeps, later⟩ := allowed
      rw [putIds_cons, List.nodup_append] at distinct
      obtain ⟨-, distinctLater, apart⟩ := distinct
      rw [putIds_cons] at fresh
      obtain ⟨implementsNext, agreesNext⟩ := keeps.agrees implements agrees
        fun connectionId member =>
          fresh connectionId (List.mem_append_left _ member)
      refine inductionHypothesis implementsNext agreesNext ?_ distinctLater
        later reached
      intro connectionId member
      exact MapSpec.apply_bindings_none
        (fresh connectionId (List.mem_append_right _ member))
        fun here => apart connectionId here connectionId member rfl

end Agreement

/-- In every state that puts with distinct ids and removes lead to, the two
indexes agree, if each step met its condition. -/
theorem address_index_agrees_with_id_index
    (initialCapacity : UInt32)
    (address : ConnectionRef -> PortAddress)
    (ops : List MapOp)
    (final : ConnectionMap)
    (distinct : (putIds ops).Nodup)
    (allowed : RunAllowed (mapStep address) (KeepsIndexes address)
      (krsConnectionMapCreate initialCapacity) ops)
    (reached : run (mapStep address)
      (krsConnectionMapCreate initialCapacity) ops = some final) :
    IndexesAgree address final :=
  run_mapStep_agrees (krsConnectionMapCreate_sound initialCapacity).2
    MapSpec.Agrees.empty (fun _ _ => rfl) distinct allowed reached

/-- Two connections on different addresses, the first removed again. -/
def separateOps : List MapOp :=
  [.put 1 { descriptor := 0, connection := 0 } true true,
   .put 2 { descriptor := 1, connection := 1 } true true,
   .remove 1]

/-- The theorem at connections with different addresses. -/
theorem separate_addresses_agree :
    ∃ final, run (mapStep distinctAddress) (krsConnectionMapCreate 64)
        separateOps = some final ∧
      IndexesAgree distinctAddress final ∧
      krsConnectionMapGetByAddress final (clientAddress 0) = 0 ∧
      krsConnectionMapGetByAddress final (clientAddress 1) = 2 := by
  refine ⟨_, rfl, ?_, by decide +kernel, by decide +kernel⟩
  exact address_index_agrees_with_id_index 64 distinctAddress separateOps _
    (by decide) (by decide +kernel) rfl

/-- The same operations on connections with one address: the second is live and
unknown by its address after the first was removed. -/
theorem shared_address_unknown_after_removal :
    (putIds separateOps).Nodup ∧
      ∃ final, run (mapStep fun _ => clientAddress 5000)
          (krsConnectionMapCreate 64) separateOps = some final ∧
        ¬ IndexesAgree (fun _ => clientAddress 5000) final := by
  refine ⟨by decide, _, rfl, ?_⟩
  intro agree
  have known := (agree (clientAddress 5000)).1.mpr
    ⟨2, { descriptor := 1, connection := 1 }, by decide +kernel, rfl⟩
  exact known (by decide +kernel)

end Kronos
