import Mathlib.Data.Nat.Log
import Kronos.Library.ProbeChurn
import Kronos.Server.AddressIndex

/-!
# The capacity of the connection map

`krs_connection_map_put` doubles the table by connection id when live entries
and tombstones take three quarters of it.  Connection ids are issued one after
the other, so a new connection takes a new slot, not the slot of one that
left: the table of a server is doubled again and again, however few
connections are live.

The capacity stays within sixteen times what is needed exactly if no `put`
finds a table of more than half that size crowded.  Few `put`s do not get that
far; with ids as they are issued, many always do.
-/

namespace Kronos

open Library
open Library.ProbeTable

/-- `map->capacity`. -/
def ConnectionMap.capacity (map : ConnectionMap) : Nat :=
  map.entries.slots.length

/-- The operation is a `put`. -/
def MapOp.isPut : MapOp -> Bool
  | .put _ _ _ _ => true
  | .remove _ => false

/-- The ids that are bound after an operation. -/
def liveAfter (live : List UInt32) : MapOp -> List UInt32
  | .put connectionId _ _ _ => connectionId :: live.erase connectionId
  | .remove connectionId => live.erase connectionId

/-- The ids that are bound after each operation of a run. -/
def liveStates (ops : List MapOp) : List (List UInt32) :=
  ops.scanl liveAfter []

/-- Ids one after the other, as `s_generate_connection_id` issues them. -/
def IssuedFrom (next : Nat) : List UInt32 -> Prop
  | [] => True
  | connectionId :: ids =>
      connectionId.toNat = next ∧ IssuedFrom (next + 1) ids

instance issuedFromDecidable :
    (next : Nat) -> (ids : List UInt32) -> Decidable (IssuedFrom next ids)
  | _, [] => isTrue trivial
  | next, connectionId :: ids =>
      have := issuedFromDecidable (next + 1) ids
      inferInstanceAs (Decidable (connectionId.toNat = next ∧
        IssuedFrom (next + 1) ids))

theorem IssuedFrom.le
    {next : Nat}
    {ids : List UInt32}
    (issued : IssuedFrom next ids) :
    ∀ connectionId ∈ ids, next ≤ connectionId.toNat := by
  induction ids generalizing next with
  | nil => simp
  | cons first ids inductionHypothesis =>
      obtain ⟨isNext, issued⟩ := issued
      rw [List.forall_mem_cons]
      refine ⟨isNext.ge, fun connectionId member => ?_⟩
      exact Nat.le_of_succ_le (inductionHypothesis issued connectionId member)

/-- Issued ids increase. -/
theorem IssuedFrom.increasing
    {next : Nat}
    {ids : List UInt32}
    (issued : IssuedFrom next ids) :
    ids.Pairwise (· < ·) := by
  induction ids generalizing next with
  | nil => exact List.Pairwise.nil
  | cons first ids inductionHypothesis =>
      obtain ⟨isNext, issued⟩ := issued
      refine List.pairwise_cons.mpr ⟨?_, inductionHypothesis issued⟩
      intro connectionId member
      rw [UInt32.lt_iff_toNat_lt, isNext]
      exact issued.le connectionId member

/-- The maps of a run. -/
def mapStates
    (address : ConnectionRef -> PortAddress)
    (initialCapacity : UInt32)
    (ops : List MapOp) : List ConnectionMap :=
  ops.scanl (applyMapOp address) (krsConnectionMapCreate initialCapacity)

/-- Sixteen times the larger of the number of live entries and the initial
capacity. -/
def capacityBound (limit : Nat) (initialCapacity : UInt32) : Nat :=
  16 * max limit (nextPowerOfTwo initialCapacity).toNat

/-- A `put` finds a table crowded whose double is beyond the bound. -/
def Overgrows (bound : Nat) (map : ConnectionMap) (op : MapOp) : Prop :=
  op.isPut = true ∧ map.entries.crowded = true ∧
    bound < map.capacity * 2 ∧ map.capacity < 2 ^ 31

/-- The number of times that the table can be doubled within the bound. -/
def growthsWithin (limit : Nat) (initialCapacity : UInt32) : Nat :=
  Nat.log 2 (capacityBound limit initialCapacity /
    (nextPowerOfTwo initialCapacity).toNat)

/-- So many `put`s cannot fill the largest table within the bound. -/
def safePuts (limit : Nat) (initialCapacity : UInt32) : Nat :=
  let capacity := (nextPowerOfTwo initialCapacity).toNat
  let growths := growthsWithin limit initialCapacity
  growthCost capacity (limit - 1) growths + capacity * 2 ^ growths * 3 / 4

/-- More `put`s than this fill it. -/
def fatalPuts (limit : Nat) (initialCapacity : UInt32) : Nat :=
  growthCost (nextPowerOfTwo initialCapacity).toNat 0
    (growthsWithin limit initialCapacity + 1)

section Capacity

variable {address : ConnectionRef -> PortAddress} {map : ConnectionMap}

/-- What an operation does to the table by connection id. -/
def entriesAfter (table : ProbeTable UInt32 ConnectionMapEntry) :
    MapOp -> ProbeTable UInt32 ConnectionMapEntry
  | .put connectionId entry _ _ => table.put idHash connectionId entry true
  | .remove connectionId => table.remove idHash connectionId

theorem applyMapOp_entries
    {op : MapOp}
    (grows : op.grows = true) :
    (applyMapOp address map op).entries = entriesAfter map.entries op := by
  cases op with
  | put connectionId entry entriesGrown addrGrown =>
      obtain ⟨rfl, -⟩ := Bool.and_eq_true_iff.mp grows
      rfl
  | remove connectionId =>
      simp only [applyMapOp, krsConnectionMapRemove, krsConnectionMapGet,
        ProbeTable.get]
      cases found : map.entries.find idHash connectionId with
      | none =>
          rw [entriesAfter, ProbeTable.remove, found]
          rfl
      | some entry => rfl

/-- The capacity after an operation. -/
theorem applyMapOp_capacity
    {op : MapOp}
    (grows : op.grows = true) :
    (applyMapOp address map op).capacity =
      if op.isPut && map.entries.crowded then
        map.capacity * 2 % 2 ^ 32
      else map.capacity := by
  unfold ConnectionMap.capacity
  rw [applyMapOp_entries grows]
  cases op with
  | put connectionId entry entriesGrown addrGrown =>
      rw [entriesAfter, length_put, Bool.and_true]
      rfl
  | remove connectionId => exact length_remove _

/-- Capacities are powers of two below `2 ^ 32`, or zero after an overflow. -/
def CapacityWord (map : ConnectionMap) : Prop :=
  map.capacity = 0 ∨ ∃ exponent < 32, map.capacity = 2 ^ exponent

theorem CapacityWord.apply
    (word : CapacityWord map)
    {op : MapOp}
    (grows : op.grows = true) :
    CapacityWord (applyMapOp address map op) := by
  unfold CapacityWord
  rw [applyMapOp_capacity grows]
  split
  case isFalse => exact word
  case isTrue =>
      rcases word with zero | ⟨exponent, small, power⟩
      · exact .inl (by rw [zero, Nat.zero_mul, Nat.zero_mod])
      · rw [power, ← Nat.pow_succ]
        rcases Nat.lt_or_eq_of_le (Nat.succ_le_of_lt small) with below | top
        · rw [Nat.mod_eq_of_lt (Nat.pow_lt_pow_right (by decide) below)]
          exact .inr ⟨exponent + 1, below, rfl⟩
        · exact .inl (by rw [top, Nat.mod_self])

theorem CapacityWord.le (word : CapacityWord map) :
    map.capacity ≤ 2 ^ 31 := by
  rcases word with zero | ⟨exponent, small, power⟩
  · omega
  · rw [power]
    exact Nat.pow_le_pow_right (by decide) (by omega)

/-- An operation leaves the bound exactly if it overgrows. -/
theorem overgrows_iff
    {bound : Nat}
    {op : MapOp}
    (word : CapacityWord map)
    (within : map.capacity ≤ bound)
    (grows : op.grows = true) :
    Overgrows bound map op ↔
      bound < (applyMapOp address map op).capacity := by
  have small := word.le
  rw [applyMapOp_capacity grows]
  unfold Overgrows
  split
  case isTrue crowded =>
      obtain ⟨puts, crowded⟩ := Bool.and_eq_true_iff.mp crowded
      simp only [puts, crowded, true_and]
      rcases Nat.lt_or_eq_of_le small with below | top
      · rw [Nat.mod_eq_of_lt (by omega)]
        exact ⟨And.left, fun beyond => ⟨beyond, below⟩⟩
      · rw [top]
        constructor
        · rintro ⟨-, impossible⟩
          exact absurd impossible (lt_irrefl _)
        · intro impossible
          exact absurd impossible (Nat.not_lt_zero _)
  case isFalse calm =>
      constructor
      · rintro ⟨puts, crowded, -⟩
        exact absurd (Bool.and_eq_true_iff.mpr ⟨puts, crowded⟩) calm
      · intro beyond
        omega

/-- A run stays within the bound exactly if none of its operations
overgrows. -/
theorem scanl_within_iff
    {bound : Nat}
    (ops : List MapOp)
    (word : CapacityWord map)
    (within : map.capacity ≤ bound)
    (grows : ∀ op ∈ ops, op.grows = true) :
    (∀ reached ∈ ops.scanl (applyMapOp address) map,
      reached.capacity ≤ bound) ↔
    ∀ taken ∈ (ops.scanl (applyMapOp address) map).zip ops,
      ¬ Overgrows bound taken.1 taken.2 := by
  induction ops generalizing map with
  | nil => simpa using within
  | cons op ops inductionHypothesis =>
      obtain ⟨growsNow, growsLater⟩ := List.forall_mem_cons.mp grows
      have step : Overgrows bound map op ↔
          bound < (applyMapOp address map op).capacity :=
        overgrows_iff word within growsNow
      rw [List.scanl_cons, List.zip_cons_cons, List.forall_mem_cons,
        List.forall_mem_cons]
      by_cases stays : (applyMapOp address map op).capacity ≤ bound
      · rw [inductionHypothesis (word.apply growsNow) stays growsLater, step]
        simp [within, stays]
      · constructor
        · rintro ⟨-, all⟩
          refine absurd (all _ ?_) stays
          cases ops <;> simp
        · rintro ⟨calm, -⟩
          rw [step, not_lt] at calm
          exact absurd calm stays

end Capacity

/-! ## The bound -/

section Bound

variable (limit : Nat) (initialCapacity : UInt32)

theorem initialCapacity_le_bound :
    (nextPowerOfTwo initialCapacity).toNat ≤
      capacityBound limit initialCapacity := by
  unfold capacityBound
  omega

theorem initialCapacity_pos : 0 < (nextPowerOfTwo initialCapacity).toNat := by
  obtain ⟨exponent, -, power⟩ := nextPowerOfTwo_power initialCapacity
  rw [power]
  exact Nat.two_pow_pos exponent

/-- The doublings that are counted stay within the bound. -/
theorem growthsWithin_spec (growths : Nat) :
    (nextPowerOfTwo initialCapacity).toNat * 2 ^ growths ≤
        capacityBound limit initialCapacity ↔
      growths ≤ growthsWithin limit initialCapacity := by
  have positive := initialCapacity_pos initialCapacity
  have within := Nat.div_pos (initialCapacity_le_bound limit initialCapacity)
    positive
  unfold growthsWithin
  rw [Nat.le_log_iff_pow_le (by decide) within.ne',
    Nat.le_div_iff_mul_le positive, Nat.mul_comm]

end Bound

/-! ## Few puts -/

/-- The entries of the table are those with the given ids. -/
structure LiveIds
    (live : List UInt32)
    (table : ProbeTable UInt32 ConnectionMapEntry) : Prop where
  distinct : live.Nodup
  count : table.count = live.length
  members : ∀ connectionId,
    (∃ entry, .live connectionId entry ∈ table.slots) ↔
      connectionId ∈ live

section Few

variable
  {live : List UInt32}
  {table : ProbeTable UInt32 ConnectionMapEntry}

theorem LiveIds.put
    (ids : LiveIds live table)
    (sound : Sound idHash table)
    (bounded : table.slots.length ≤ 2 ^ 30)
    {connectionId : UInt32}
    (fresh : connectionId ∉ live)
    (entry : ConnectionMapEntry) :
    LiveIds (connectionId :: live)
      (table.put idHash connectionId entry true) := by
  have absent : ∀ stored, .live connectionId stored ∉ table.slots := by
    intro stored member
    exact fresh ((ids.members connectionId).mp ⟨stored, member⟩)
  obtain ⟨-, binds⟩ := sound.put bounded connectionId entry
  refine ⟨List.nodup_cons.mpr ⟨fresh, ids.distinct⟩, ?_, ?_⟩
  · rw [sound.put_count bounded absent, ids.count, List.length_cons]
  · intro other
    rw [List.mem_cons, ← ids.members]
    constructor
    · rintro ⟨stored, member⟩
      rcases (binds other stored).mp member with ⟨same, -⟩ | ⟨-, old⟩
      · exact .inl same
      · exact .inr ⟨stored, old⟩
    · rintro (rfl | ⟨stored, member⟩)
      · exact ⟨entry, (binds other entry).mpr (.inl ⟨rfl, rfl⟩)⟩
      · refine ⟨stored, (binds other stored).mpr (.inr ⟨?_, member⟩)⟩
        rintro rfl
        exact absent stored member

theorem LiveIds.remove
    (ids : LiveIds live table)
    (sound : Sound idHash table)
    (connectionId : UInt32) :
    LiveIds (live.erase connectionId)
      (table.remove idHash connectionId) := by
  obtain ⟨-, members, -⟩ := sound.remove connectionId
  refine ⟨ids.distinct.erase connectionId, ?_, ?_⟩
  · have bound : (table.get idHash connectionId).isSome = true ↔
        connectionId ∈ live := by
      rw [← ids.members, Option.isSome_iff_exists]
      exact exists_congr fun entry => get_eq_some_iff sound.placed
    rw [remove_count, ids.count, List.length_erase]
    simp only [bound]
  · intro other
    rw [ids.distinct.mem_erase_iff, ← ids.members]
    simp only [members]
    exact exists_and_left

/-- A run of few `put`s of new ids, with few entries live at a time, doubles
the table only within the bound. -/
theorem scanl_within_of_few
    {address : ConnectionRef -> PortAddress}
    {map : ConnectionMap}
    {capacity limit growths within puts : Nat}
    (ops : List MapOp)
    (small : capacity * 2 ^ within < 2 ^ 31)
    (paced : Paced idHash capacity (limit - 1) growths puts map.entries)
    (grown : growths ≤ within)
    (ids : LiveIds live map.entries)
    (grows : ∀ op ∈ ops, op.grows = true)
    (later : ∀ earlier ∈ live, ∀ connectionId ∈ putIds ops,
      earlier < connectionId)
    (increasing : (putIds ops).Pairwise (· < ·))
    (few : ∀ state ∈ ops.scanl liveAfter live, state.length ≤ limit)
    (paid : puts + (putIds ops).length ≤
      growthCost capacity (limit - 1) within + capacity * 2 ^ within * 3 / 4) :
    ∀ reached ∈ ops.scanl (applyMapOp address) map,
      reached.capacity ≤ capacity * 2 ^ within := by
  induction ops generalizing map live growths puts with
  | nil =>
      have width := Nat.mul_le_mul_left capacity
        (Nat.pow_le_pow_right Nat.two_pos grown)
      simpa [ConnectionMap.capacity, paced.length] using width
  | cons op ops inductionHypothesis =>
      have width := Nat.mul_le_mul_left capacity
        (Nat.pow_le_pow_right Nat.two_pos grown)
      have bounded : map.entries.slots.length ≤ 2 ^ 30 := by
        apply le_of_power_lt paced.sound.placed.power
        rw [paced.length]
        exact lt_of_le_of_lt width small
      obtain ⟨growsNow, growsLater⟩ := List.forall_mem_cons.mp grows
      rw [List.scanl_cons, List.forall_mem_cons] at few ⊢
      refine ⟨by rw [ConnectionMap.capacity, paced.length]; exact width, ?_⟩
      have step : (applyMapOp address map op).entries =
          entriesAfter map.entries op := applyMapOp_entries growsNow
      cases op with
      | remove connectionId =>
          rw [putIds_cons] at later increasing paid
          apply inductionHypothesis _ grown _ growsLater _ increasing few.2
            paid
          · rw [step]
            exact paced.remove connectionId
          · rw [step]
            exact ids.remove paced.sound connectionId
          · intro earlier member
            exact later earlier (List.mem_of_mem_erase member)
      | put connectionId entry entriesGrown addrGrown =>
          rw [putIds_cons] at later increasing paid
          obtain ⟨above, increasing⟩ := List.pairwise_cons.mp increasing
          have fresh : connectionId ∉ live := by
            intro member
            exact UInt32.lt_irrefl _ (later connectionId member connectionId
              List.mem_cons_self)
          have room : live.length + 1 ≤ limit := by
            have next := few.2 (liveAfter live (.put connectionId entry
              entriesGrown addrGrown)) (by cases ops <;> simp)
            rw [liveAfter, List.erase_of_not_mem fresh] at next
            exact next
          rw [liveAfter, List.erase_of_not_mem fresh] at few
          have laterIds : ∀ earlier ∈ connectionId :: live,
              ∀ other ∈ putIds ops, earlier < other := by
            intro earlier member other put
            rcases List.mem_cons.mp member with rfl | old
            · exact above other put
            · exact later earlier old other (List.mem_cons_of_mem _ put)
          have total : puts + 1 + (putIds ops).length ≤
              growthCost capacity (limit - 1) within +
                capacity * 2 ^ within * 3 / 4 := by
            have length : (putIds [.put connectionId entry entriesGrown
                addrGrown] ++ putIds ops).length =
                  (putIds ops).length + 1 := rfl
            omega
          have kept : map.entries.count ≤ limit - 1 := by
            rw [ids.count]
            omega
          have named := ids.put paced.sound bounded fresh entry
          rcases paced.put bounded kept connectionId entry with
            same | ⟨cost, doubled⟩
          · rw [entriesAfter] at step
            rw [← step] at same named
            exact inductionHypothesis same grown named growsLater laterIds
              increasing few.2 total
          · have below : growths + 1 ≤ within := by
              apply Nat.succ_le_of_lt
              apply Nat.lt_of_le_of_ne grown
              rintro rfl
              omega
            rw [entriesAfter] at step
            rw [← step] at doubled named
            exact inductionHypothesis doubled below named growsLater laterIds
              increasing few.2 total

end Few

/-! ## Many puts -/

theorem growthCost_mono
    (capacity kept : Nat)
    {fewer more : Nat}
    (le : fewer ≤ more) :
    growthCost capacity kept fewer ≤ growthCost capacity kept more := by
  induction le with
  | refl => exact le_refl _
  | step _ inductionHypothesis =>
      exact le_trans inductionHypothesis (Nat.le_add_right _ _)

/-- A run within the bound that puts ids as they are issued makes few
`put`s. -/
theorem puts_le_of_within
    {address : ConnectionRef -> PortAddress}
    {map : ConnectionMap}
    {capacity growths bound within puts next : Nat}
    (ops : List MapOp)
    (small : bound < 2 ^ 31)
    (most : ∀ doublings, capacity * 2 ^ doublings ≤ bound ->
      doublings ≤ within)
    (aligned : 4 ∣ capacity)
    (swept : Swept idHash capacity growths puts next map.entries)
    (grows : ∀ op ∈ ops, op.grows = true)
    (issued : IssuedFrom next (putIds ops))
    (bounded : ∀ reached ∈ ops.scanl (applyMapOp address) map,
      reached.capacity ≤ bound) :
    puts + (putIds ops).length ≤ growthCost capacity 0 (within + 1) := by
  induction ops generalizing map growths puts next with
  | nil =>
      have afford := swept.puts_le
      have full := swept.sound.load
      have here := bounded map (by simp)
      rw [ConnectionMap.capacity] at here
      rw [swept.length] at here full
      rw [← ProbeTable.load] at full
      have quarters : 4 ∣ capacity * 2 ^ growths := aligned.mul_right _
      have last : puts ≤ growthCost capacity 0 (growths + 1) := by
        rw [growthCost]
        omega
      exact last.trans
        (growthCost_mono capacity 0 (Nat.succ_le_succ (most growths here)))
  | cons op ops inductionHypothesis =>
      obtain ⟨growsNow, growsLater⟩ := List.forall_mem_cons.mp grows
      rw [List.scanl_cons, List.forall_mem_cons] at bounded
      obtain ⟨here, bounded⟩ := bounded
      have step : (applyMapOp address map op).entries =
          entriesAfter map.entries op := applyMapOp_entries growsNow
      cases op with
      | remove connectionId =>
          have after := swept.remove connectionId
          rw [entriesAfter] at step
          rw [← step] at after
          exact inductionHypothesis after growsLater issued bounded
      | put connectionId entry entriesGrown addrGrown =>
          obtain ⟨isNext, issued⟩ := issued
          have length : map.entries.slots.length ≤ 2 ^ 30 :=
            le_of_power_lt swept.sound.placed.power (lt_of_le_of_lt here small)
          obtain ⟨grown, after⟩ := swept.put aligned length isNext entry
          rw [entriesAfter] at step
          rw [← step] at after
          have rest := inductionHypothesis after growsLater issued bounded
          have total : (putIds (.put connectionId entry entriesGrown
              addrGrown :: ops)).length = (putIds ops).length + 1 := rfl
          omega

/-! ## Runs from an empty map -/

theorem krsConnectionMapCreate_capacity (initialCapacity : UInt32) :
    (krsConnectionMapCreate initialCapacity).capacity =
      (nextPowerOfTwo initialCapacity).toNat := by
  simp [ConnectionMap.capacity, krsConnectionMapCreate, ProbeTable.create]

theorem krsConnectionMapCreate_capacityWord (initialCapacity : UInt32) :
    CapacityWord (krsConnectionMapCreate initialCapacity) := by
  obtain ⟨exponent, -, power⟩ := nextPowerOfTwo_power initialCapacity
  refine .inr ⟨exponent, ?_, ?_⟩
  · have word := (nextPowerOfTwo initialCapacity).toNat_lt
    rw [power] at word
    exact (Nat.pow_lt_pow_iff_right (by decide)).mp word
  · rw [krsConnectionMapCreate_capacity, power]

theorem krsConnectionMapCreate_liveIds (initialCapacity : UInt32) :
    LiveIds [] (krsConnectionMapCreate initialCapacity).entries where
  distinct := List.nodup_nil
  count := rfl
  members := by simp [krsConnectionMapCreate, ProbeTable.create]

/-- No capacity of a run is beyond `2 ^ 31`. -/
theorem scanl_capacity_le
    {address : ConnectionRef -> PortAddress}
    {map : ConnectionMap}
    (ops : List MapOp)
    (word : CapacityWord map)
    (grows : ∀ op ∈ ops, op.grows = true) :
    ∀ reached ∈ ops.scanl (applyMapOp address) map,
      reached.capacity ≤ 2 ^ 31 := by
  induction ops generalizing map with
  | nil => simpa using word.le
  | cons op ops inductionHypothesis =>
      obtain ⟨growsNow, growsLater⟩ := List.forall_mem_cons.mp grows
      rw [List.scanl_cons, List.forall_mem_cons]
      exact ⟨word.le, inductionHypothesis (word.apply growsNow) growsLater⟩

/-- Few `put`s stay within the bound. -/
theorem capacity_within_of_safePuts
    {limit : Nat}
    {initialCapacity : UInt32}
    {address : ConnectionRef -> PortAddress}
    {ops : List MapOp}
    (grows : ∀ op ∈ ops, op.grows = true)
    (increasing : (putIds ops).Pairwise (· < ·))
    (few : ∀ live ∈ liveStates ops, live.length ≤ limit)
    (safe : (putIds ops).length ≤ safePuts limit initialCapacity) :
    ∀ map ∈ mapStates address initialCapacity ops,
      map.capacity ≤ capacityBound limit initialCapacity := by
  have largest := (growthsWithin_spec limit initialCapacity _).mpr
    (le_refl (growthsWithin limit initialCapacity))
  obtain ⟨exponent, large, power⟩ := nextPowerOfTwo_power initialCapacity
  rcases Nat.lt_or_ge (capacityBound limit initialCapacity) (2 ^ 31) with
    small | huge
  · have paced : Paced idHash (nextPowerOfTwo initialCapacity).toNat
        (limit - 1) 0 0 (krsConnectionMapCreate initialCapacity).entries := by
      rw [krsConnectionMapCreate, power]
      exact create_paced large (limit - 1)
    intro map reached
    have within := scanl_within_of_few ops (lt_of_le_of_lt largest small)
      paced (Nat.zero_le _) (krsConnectionMapCreate_liveIds initialCapacity)
      grows (by simp) increasing few (by simpa [safePuts] using safe) map
      reached
    exact within.trans largest
  · intro map reached
    exact (scanl_capacity_le ops
      (krsConnectionMapCreate_capacityWord initialCapacity) grows map
      reached).trans huge

/-- Many `put`s of issued ids do not. -/
theorem capacity_beyond_of_fatalPuts
    {limit first : Nat}
    {initialCapacity : UInt32}
    {address : ConnectionRef -> PortAddress}
    {ops : List MapOp}
    (grows : ∀ op ∈ ops, op.grows = true)
    (small : capacityBound limit initialCapacity < 2 ^ 31)
    (issued : IssuedFrom first (putIds ops))
    (fatal : fatalPuts limit initialCapacity < (putIds ops).length) :
    ∃ map ∈ mapStates address initialCapacity ops,
      capacityBound limit initialCapacity < map.capacity := by
  obtain ⟨exponent, large, power⟩ := nextPowerOfTwo_power initialCapacity
  have aligned : 4 ∣ (nextPowerOfTwo initialCapacity).toNat := by
    rw [power]
    exact pow_dvd_pow 2 (show 2 ≤ exponent by omega)
  have swept : Swept idHash (nextPowerOfTwo initialCapacity).toNat 0 0 first
      (krsConnectionMapCreate initialCapacity).entries := by
    rw [krsConnectionMapCreate, power]
    exact create_swept large first
  by_contra within
  have bounded : ∀ map ∈ mapStates address initialCapacity ops,
      map.capacity ≤ capacityBound limit initialCapacity := by
    intro map reached
    by_contra beyond
    exact within ⟨map, reached, Nat.lt_of_not_le beyond⟩
  have paid := puts_le_of_within ops small
    (fun doublings => (growthsWithin_spec limit initialCapacity doublings).mp)
    aligned swept grows issued bounded
  rw [fatalPuts] at fatal
  omega

/-- For every run of `put`s of new ids in increasing order, with at most
`limit` of them live at a time: the capacity stays within the bound exactly if
no `put` finds a table crowded whose double is beyond the bound; it stays
within the bound if there are no more than `safePuts`; and it does not if the
ids are issued one after the other and there are more than `fatalPuts`.  The two
numbers are the same for a limit of one; between them, for larger limits, the
order of the removals decides, which the first part reads off the run. -/
theorem connection_map_capacity_bounded_iff
    (limit : Nat)
    (initialCapacity : UInt32)
    (address : ConnectionRef -> PortAddress)
    (ops : List MapOp)
    (grows : ∀ op ∈ ops, op.grows = true)
    (increasing : (putIds ops).Pairwise (· < ·))
    (few : ∀ live ∈ liveStates ops, live.length ≤ limit) :
    ((∀ map ∈ mapStates address initialCapacity ops,
        map.capacity ≤ capacityBound limit initialCapacity) ↔
      ∀ taken ∈ (mapStates address initialCapacity ops).zip ops,
        ¬ Overgrows (capacityBound limit initialCapacity) taken.1 taken.2) ∧
    ((putIds ops).length ≤ safePuts limit initialCapacity ->
      ∀ map ∈ mapStates address initialCapacity ops,
        map.capacity ≤ capacityBound limit initialCapacity) ∧
    (capacityBound limit initialCapacity < 2 ^ 31 ->
      (∃ first, IssuedFrom first (putIds ops)) ->
      fatalPuts limit initialCapacity < (putIds ops).length ->
      ∃ map ∈ mapStates address initialCapacity ops,
        capacityBound limit initialCapacity < map.capacity) := by
  refine ⟨?_, capacity_within_of_safePuts grows increasing few, ?_⟩
  · apply scanl_within_iff ops
      (krsConnectionMapCreate_capacityWord initialCapacity) _ grows
    rw [krsConnectionMapCreate_capacity]
    exact initialCapacity_le_bound limit initialCapacity
  · rintro small ⟨first, issued⟩ fatal
    exact capacity_beyond_of_fatalPuts grows small issued fatal

/-- Connections that come and go one at a time, with the ids as they are
issued. -/
def comeAndGo (rounds : Nat) : List MapOp :=
  (List.range rounds).flatMap fun round =>
    [.put (UInt32.ofNat (round + 1))
      { descriptor := 0, connection := round } true true,
     .remove (UInt32.ofNat (round + 1))]

/-- Three connections, one at a time, leave the first table as it is. -/
theorem three_connections_within_bound :
    (putIds (comeAndGo 3)).length = 3 ∧
      ∀ map ∈ mapStates distinctAddress 16 (comeAndGo 3),
        map.capacity ≤ 256 := by
  have issued : IssuedFrom 1 (putIds (comeAndGo 3)) := by
    decide +kernel
  have bounded := connection_map_capacity_bounded_iff 1 16 distinctAddress
    (comeAndGo 3) (by decide +kernel) issued.increasing (by decide +kernel)
  exact ⟨by decide +kernel, bounded.2.1 (by decide +kernel)⟩

/-- With never more than one connection live, the 373rd doubles a table of 256
slots. -/
theorem capacity_beyond_bound :
    (∀ op ∈ comeAndGo 373, op.grows = true) ∧
      (putIds (comeAndGo 373)).Pairwise (· < ·) ∧
      (∀ live ∈ liveStates (comeAndGo 373), live.length ≤ 1) ∧
      capacityBound 1 16 = 256 ∧
      ∃ map ∈ mapStates distinctAddress 16 (comeAndGo 373),
        256 < map.capacity := by
  have grows : ∀ op ∈ comeAndGo 373, op.grows = true := by
    decide +kernel
  have issued : IssuedFrom 1 (putIds (comeAndGo 373)) := by
    decide +kernel
  have bound : capacityBound 1 16 = 256 := by
    decide +kernel
  have fatal : fatalPuts 1 16 < (putIds (comeAndGo 373)).length := by
    decide +kernel
  have beyond : ∃ map ∈ mapStates distinctAddress 16 (comeAndGo 373),
      capacityBound 1 16 < map.capacity :=
    capacity_beyond_of_fatalPuts grows (by rw [bound]; decide) issued fatal
  rw [bound] at beyond
  exact ⟨grows, issued.increasing, by decide +kernel, bound, beyond⟩

end Kronos
