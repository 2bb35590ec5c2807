import Kronos.Library.OpenAddressing

/-!
# Probe tables as finite maps

Membership of `Slot.live key value` in the array is the graph of a finite map.
Insertions and removals of a counted table act on it as on a finite map and
keep the counters exact.  A sound table also has a quarter of its slots free, so that
every walk comes to an end; growing keeps it that way.
-/

namespace Library

namespace ProbeTable

variable {κ ν : Type} {hash : κ -> Nat} {slots : List (Slot κ ν)}

/-! ## Counters -/

/-- Every slot is live, a tombstone or empty. -/
theorem length_eq_countP (slots : List (Slot κ ν)) :
    slots.length = slots.countP Slot.isLive +
      slots.countP Slot.isTombstone + slots.countP Slot.isEmpty := by
  induction slots with
  | nil => rfl
  | cons slot slots inductionHypothesis =>
      cases slot <;>
        simp [List.countP_cons, Slot.isLive, Slot.isTombstone, Slot.isEmpty,
          inductionHypothesis] <;> omega

/-- A table that is not full has an empty slot on every path. -/
theorem room_of_not_full
    (notFull : slots.countP Slot.isLive + slots.countP Slot.isTombstone <
      slots.length)
    (key : κ) :
    ∃ distance < slots.length,
      pathSlot hash slots key distance = .empty := by
  have total := length_eq_countP slots
  have positive : 0 < slots.countP Slot.isEmpty := by omega
  obtain ⟨slot, member, vacant⟩ := List.countP_pos_iff.mp positive
  have isEmpty : slot = .empty := by
    cases slot with
    | empty => rfl
    | tombstone => cases vacant
    | live _ _ => cases vacant
  rw [← isEmpty]
  exact pathSlot_of_mem hash member key

/-- A counted table: entries are placed and the counters are right. -/
structure Counted (hash : κ -> Nat) (table : ProbeTable κ ν) : Prop where
  placed : Placed hash table.slots
  live : table.count = table.slots.countP Slot.isLive
  buried : table.tombstones = table.slots.countP Slot.isTombstone

theorem countP_isLive_set
    {position : Nat}
    {old new : Slot κ ν}
    (present : slots[position]? = some old) :
    (slots.set position new).countP Slot.isLive =
      slots.countP Slot.isLive - (if old.isLive then 1 else 0) +
        (if new.isLive then 1 else 0) := by
  obtain ⟨inside, value⟩ := List.getElem?_eq_some_iff.mp present
  rw [List.countP_set inside, value]

theorem countP_isTombstone_set
    {position : Nat}
    {old new : Slot κ ν}
    (present : slots[position]? = some old) :
    (slots.set position new).countP Slot.isTombstone =
      slots.countP Slot.isTombstone - (if old.isTombstone then 1 else 0) +
        (if new.isTombstone then 1 else 0) := by
  obtain ⟨inside, value⟩ := List.getElem?_eq_some_iff.mp present
  rw [List.countP_set inside, value]

theorem countP_pos_of_getElem?
    {property : Slot κ ν -> Bool}
    {position : Nat}
    {slot : Slot κ ν}
    (present : slots[position]? = some slot)
    (holds : property slot = true) :
    0 < slots.countP property :=
  List.countP_pos_iff.mpr ⟨slot, List.mem_of_getElem? present, holds⟩

/-! ## Operations as operations on a finite map -/

/-- The entries after binding a key. -/
def BindsAlso
    (before : List (Slot κ ν))
    (key : κ)
    (value : ν)
    (after : List (Slot κ ν)) : Prop :=
  ∀ otherKey otherValue, Slot.live otherKey otherValue ∈ after ↔
    (otherKey = key ∧ otherValue = value) ∨
      (otherKey ≠ key ∧ .live otherKey otherValue ∈ before)

/-- Entering a key that is not live at a slot without an entry. -/
theorem Placed.enter
    (placed : Placed hash slots)
    {position : Nat}
    {slot : Slot κ ν}
    {key : κ}
    (present : slots[position]? = some slot)
    (unused : slot.isLive = false)
    (reached : Reached hash slots key position)
    (absent : ∀ value, .live key value ∉ slots)
    (value : ν) :
    Placed hash (slots.set position (.live key value)) ∧
      BindsAlso slots key value (slots.set position (.live key value)) := by
  obtain ⟨inside, -⟩ := List.getElem?_eq_some_iff.mp present
  refine ⟨placed.set (by simp) ?_ ?_, ?_⟩
  · intro written writtenValue same
    cases same
    exact reached
  · intro written writtenValue stored other same found
    cases same
    exact absurd (List.mem_of_getElem? found) (absent stored)
  · intro otherKey otherValue
    rw [live_mem_set_iff inside, other_slot_of_unused_iff present unused]
    constructor
    · rintro (same | member)
      · cases same
        exact Or.inl ⟨rfl, rfl⟩
      · refine Or.inr ⟨?_, member⟩
        rintro rfl
        exact absent otherValue member
    · rintro (⟨rfl, rfl⟩ | ⟨-, member⟩)
      · exact Or.inl rfl
      · exact Or.inr member

/-- Where an insertion writes fits the key. -/
theorem Placed.insert_fits
    [DecidableEq κ]
    (placed : Placed hash slots)
    {key : κ}
    (accepts : Accepts slots key) :
    SpotFits hash slots key (spotFrom slots key slots.length
      (mask slots.length (hash key)) none) := by
  have fits := spotFrom_fits placed accepts
    (show 0 + slots.length = slots.length by omega)
    (fun _ impossible => absurd impossible (Nat.not_lt_zero _))
    (fun _ impossible => absurd impossible (Nat.not_lt_zero _))
    (show ∀ position, none = some position -> _ by simp)
    (fun _ _ impossible => absurd impossible (Nat.not_lt_zero _))
  rw [Nat.add_zero, ← mask_eq_mod placed.power] at fits
  exact fits

/-- Binding a key in a counted table that has a place for it. -/
theorem Counted.insert
    [DecidableEq κ]
    {table : ProbeTable κ ν}
    (counted : Counted hash table)
    {key : κ}
    (accepts : Accepts table.slots key)
    (value : ν) :
    Counted hash (table.insert hash key value) ∧
      BindsAlso table.slots key value (table.insert hash key value).slots ∧
      (table.insert hash key value).slots.length = table.slots.length ∧
      (table.insert hash key value).count +
        (table.insert hash key value).tombstones ≤
          table.count + table.tombstones + 1 := by
  have placed := counted.placed
  have fits := placed.insert_fits accepts
  have live := counted.live
  have buried := counted.buried
  rw [ProbeTable.insert]
  cases spot : spotFrom table.slots key table.slots.length
      (mask table.slots.length (hash key)) none with
  | present position =>
      rw [spot] at fits
      obtain ⟨old, present⟩ := fits
      obtain ⟨inside, -⟩ := List.getElem?_eq_some_iff.mp present
      have occupied := countP_pos_of_getElem? present
        (show Slot.isLive _ = true from rfl)
      have stillPlaced : Placed hash
          (table.slots.set position (.live key value)) := by
        refine placed.set (by simp) ?_ ?_
        · intro written writtenValue same
          cases same
          exact placed.reached position key old present
        · intro written writtenValue stored other same found
          cases same
          exact placed.distinct other position key stored old found present
      refine ⟨⟨stillPlaced, ?_, ?_⟩, ?_, List.length_set, Nat.le_succ _⟩
      · rw [countP_isLive_set present]
        simp only [Slot.isLive, if_true]
        omega
      · rw [countP_isTombstone_set present]
        simp only [Slot.isTombstone, Bool.false_eq_true, if_false]
        omega
      · intro otherKey otherValue
        simp only
        rw [live_mem_set_iff inside, placed.other_slot_iff present]
        constructor
        · rintro (same | other)
          · cases same
            exact Or.inl ⟨rfl, rfl⟩
          · exact Or.inr other
        · rintro (⟨rfl, rfl⟩ | other)
          · exact Or.inl rfl
          · exact Or.inr other
  | reused position =>
      rw [spot] at fits
      obtain ⟨present, reached, absent⟩ := fits
      have occupied := countP_pos_of_getElem? present
        (show Slot.isTombstone _ = true from rfl)
      obtain ⟨stillPlaced, binds⟩ :=
        placed.enter present rfl reached absent value
      refine ⟨⟨stillPlaced, ?_, ?_⟩, binds, List.length_set, ?_⟩
      · rw [countP_isLive_set present]
        simp only [Slot.isLive, Bool.false_eq_true, if_true, if_false]
        omega
      · rw [countP_isTombstone_set present]
        simp only [Slot.isTombstone, Bool.false_eq_true, if_true, if_false]
        omega
      · simp only
        omega
  | vacant position =>
      rw [spot] at fits
      obtain ⟨present, reached, absent⟩ := fits
      obtain ⟨stillPlaced, binds⟩ :=
        placed.enter present rfl reached absent value
      refine ⟨⟨stillPlaced, ?_, ?_⟩, binds, List.length_set, ?_⟩
      · rw [countP_isLive_set present]
        simp only [Slot.isLive, Bool.false_eq_true, if_true, if_false]
        omega
      · rw [countP_isTombstone_set present]
        simp only [Slot.isTombstone, Bool.false_eq_true, if_false]
        omega
      · simp only
        omega

/-- Unbinding a key of a placed table. -/
theorem Placed.remove
    [DecidableEq κ]
    {table : ProbeTable κ ν}
    (placed : Placed hash table.slots)
    (key : κ) :
    Placed hash (table.remove hash key).slots ∧
      ∀ otherKey otherValue,
        Slot.live otherKey otherValue ∈ (table.remove hash key).slots ↔
          otherKey ≠ key ∧ .live otherKey otherValue ∈ table.slots := by
  rw [ProbeTable.remove]
  cases found : table.find hash key with
  | none =>
      refine ⟨placed, ?_⟩
      intro otherKey otherValue
      have absent := (find_eq_none_iff placed).mp found
      constructor
      · intro member
        refine ⟨?_, member⟩
        rintro rfl
        exact absent otherValue member
      · rintro ⟨-, member⟩
        exact member
  | some entry =>
      obtain ⟨position, value⟩ := entry
      have present := (find_eq_some_iff placed).mp found
      obtain ⟨inside, -⟩ := List.getElem?_eq_some_iff.mp present
      constructor
      · refine placed.set (by simp) ?_ ?_
        · intro written writtenValue same
          cases same
        · intro written writtenValue stored other same
          cases same
      · intro otherKey otherValue
        simp only
        rw [live_mem_set_iff inside, placed.other_slot_iff present]
        constructor
        · rintro (same | other)
          · cases same
          · exact other
        · exact Or.inr

/-- Unbinding a key. -/
theorem Counted.remove
    [DecidableEq κ]
    {table : ProbeTable κ ν}
    (counted : Counted hash table)
    (key : κ) :
    Counted hash (table.remove hash key) ∧
      (∀ otherKey otherValue,
        Slot.live otherKey otherValue ∈ (table.remove hash key).slots ↔
          otherKey ≠ key ∧ .live otherKey otherValue ∈ table.slots) ∧
      (table.remove hash key).slots.length = table.slots.length ∧
      (table.remove hash key).count + (table.remove hash key).tombstones =
        table.count + table.tombstones := by
  obtain ⟨stillPlaced, bindings⟩ := counted.placed.remove key
  have live := counted.live
  have buried := counted.buried
  suffices (table.remove hash key).count =
        (table.remove hash key).slots.countP Slot.isLive ∧
      (table.remove hash key).tombstones =
        (table.remove hash key).slots.countP Slot.isTombstone ∧
      (table.remove hash key).slots.length = table.slots.length ∧
      (table.remove hash key).count + (table.remove hash key).tombstones =
        table.count + table.tombstones by
    obtain ⟨liveAfter, buriedAfter, length, load⟩ := this
    exact ⟨⟨stillPlaced, liveAfter, buriedAfter⟩, bindings, length, load⟩
  rw [ProbeTable.remove]
  cases found : table.find hash key with
  | none => exact ⟨live, buried, rfl, rfl⟩
  | some entry =>
      obtain ⟨position, value⟩ := entry
      have present := (find_eq_some_iff counted.placed).mp found
      have occupied := countP_pos_of_getElem? present
        (show Slot.isLive _ = true from rfl)
      refine ⟨?_, ?_, List.length_set, ?_⟩
      · rw [countP_isLive_set present]
        simp only [Slot.isLive, Bool.false_eq_true, if_true, if_false]
        omega
      · rw [countP_isTombstone_set present]
        simp only [Slot.isTombstone, Bool.false_eq_true, if_true, if_false]
        omega
      · simp only
        omega

/-! ## Sound tables -/

/-- A sound table: entries are placed, the counters are exact, and no more
than three quarters of the array and one slot are in use. -/
structure Sound (hash : κ -> Nat) (table : ProbeTable κ ν) : Prop where
  placed : Placed hash table.slots
  live : table.count = table.slots.countP Slot.isLive
  buried : table.tombstones = table.slots.countP Slot.isTombstone
  load : (table.count + table.tombstones) * 4 <
    table.slots.length * 3 + 4
  large : 16 ≤ table.slots.length

theorem Sound.counted
    {table : ProbeTable κ ν}
    (sound : Sound hash table) :
    Counted hash table :=
  { placed := sound.placed, live := sound.live, buried := sound.buried }

theorem Sound.room
    {table : ProbeTable κ ν}
    (sound : Sound hash table)
    (key : κ) :
    ∃ distance < table.slots.length,
      pathSlot hash table.slots key distance = .empty := by
  apply room_of_not_full
  have load := sound.load
  have large := sound.large
  rw [← sound.live, ← sound.buried]
  omega

theorem Sound.accepts
    [DecidableEq κ]
    {table : ProbeTable κ ν}
    (sound : Sound hash table)
    (key : κ) :
    Accepts table.slots key := by
  obtain ⟨distance, -, vacant⟩ := sound.room key
  have present := getElem?_of_pathSlot
    (length_pos_of_power sound.placed.power) vacant
  exact ⟨.empty, List.mem_of_getElem? present, rfl⟩

/-- Binding a key in a sound table that is not crowded. -/
theorem Sound.insert
    [DecidableEq κ]
    {table : ProbeTable κ ν}
    (sound : Sound hash table)
    (notCrowded : (table.count + table.tombstones) * 4 <
      table.slots.length * 3)
    (key : κ)
    (value : ν) :
    Sound hash (table.insert hash key value) ∧
      BindsAlso table.slots key value
        (table.insert hash key value).slots := by
  obtain ⟨inserted, binds, length, load⟩ :=
    sound.counted.insert (sound.accepts key) value
  refine ⟨⟨inserted.placed, inserted.live, inserted.buried, ?_, ?_⟩, binds⟩
  · rw [length]
    omega
  · rw [length]
    exact sound.large

/-- Unbinding a key in a sound table. -/
theorem Sound.remove
    [DecidableEq κ]
    {table : ProbeTable κ ν}
    (sound : Sound hash table)
    (key : κ) :
    Sound hash (table.remove hash key) ∧
      (∀ otherKey otherValue,
        Slot.live otherKey otherValue ∈ (table.remove hash key).slots ↔
          otherKey ≠ key ∧ .live otherKey otherValue ∈ table.slots) ∧
      (table.remove hash key).slots.length = table.slots.length := by
  obtain ⟨removed, members, length, load⟩ := sound.counted.remove key
  refine ⟨⟨removed.placed, removed.live, removed.buried, ?_, ?_⟩, members,
    length⟩
  · rw [length, load]
    exact sound.load
  · rw [length]
    exact sound.large

/-! ## Growing -/

/-- A table being filled by a rehash: placed, exactly counted and without
tombstones. -/
structure Filling (hash : κ -> Nat) (table : ProbeTable κ ν) : Prop where
  placed : Placed hash table.slots
  live : table.count = table.slots.countP Slot.isLive
  noneBuried : table.tombstones = 0
  noTombstone : table.slots.countP Slot.isTombstone = 0

theorem create_filling
    (hash : κ -> Nat)
    (exponent : Nat) :
    Filling hash (create (2 ^ exponent) : ProbeTable κ ν) where
  placed :=
    { power := ⟨exponent, by simp [create]⟩
      reached := by
        intro position key value present
        have member := List.mem_of_getElem? present
        simp [create] at member
      distinct := by
        intro left right key leftValue rightValue present
        have member := List.mem_of_getElem? present
        simp [create] at member }
  live := by simp [create, List.countP_replicate, Slot.isLive]
  noneBuried := rfl
  noTombstone := by simp [create, List.countP_replicate, Slot.isTombstone]

/-- Entering one old entry that is not live yet. -/
theorem Filling.rehash_live
    {table : ProbeTable κ ν}
    (filling : Filling hash table)
    {key : κ}
    (absent : ∀ value, .live key value ∉ table.slots)
    (notFull : table.count < table.slots.length)
    (value : ν) :
    Filling hash (table.rehash hash (.live key value)) ∧
      BindsAlso table.slots key value
        (table.rehash hash (.live key value)).slots ∧
      (table.rehash hash (.live key value)).slots.length =
        table.slots.length ∧
      (table.rehash hash (.live key value)).count = table.count + 1 := by
  have placed := filling.placed
  have live := filling.live
  have room : ∃ distance < table.slots.length,
      pathSlot hash table.slots key distance = .empty := by
    apply room_of_not_full
    rw [← filling.live, filling.noTombstone]
    omega
  have unused := unusedFrom_reached placed.power room
    (show 0 + table.slots.length = table.slots.length by omega)
    (fun _ impossible => absurd impossible (Nat.not_lt_zero _))
  rw [Nat.add_zero, ← mask_eq_mod placed.power] at unused
  obtain ⟨present, reached⟩ := unused
  obtain ⟨stillPlaced, binds⟩ := placed.enter present rfl reached absent value
  refine ⟨⟨stillPlaced, ?_, filling.noneBuried, ?_⟩, binds,
    List.length_set, rfl⟩
  · simp only [rehash]
    rw [countP_isLive_set present]
    simp only [Slot.isLive, Bool.false_eq_true, if_true, if_false]
    omega
  · simp only [rehash]
    rw [countP_isTombstone_set present, filling.noTombstone]
    simp [Slot.isTombstone]

/-- Entering a whole array whose entries have distinct keys. -/
theorem Filling.foldl_rehash
    (entries : List (Slot κ ν))
    {table : ProbeTable κ ν}
    (filling : Filling hash table)
    (apart : entries.Pairwise fun left right =>
      ∀ key leftValue rightValue, left = Slot.live key leftValue ->
        right ≠ .live key rightValue)
    (fresh : ∀ key value, Slot.live key value ∈ entries ->
      ∀ stored, .live key stored ∉ table.slots)
    (fits : table.count + entries.countP Slot.isLive <
      table.slots.length) :
    let grown := entries.foldl (rehash hash) table
    Filling hash grown ∧
      (∀ key value, Slot.live key value ∈ grown.slots ↔
        .live key value ∈ table.slots ∨ .live key value ∈ entries) ∧
      grown.slots.length = table.slots.length ∧
      grown.count = table.count + entries.countP Slot.isLive := by
  induction entries generalizing table with
  | nil => exact ⟨filling, by simp, rfl, rfl⟩
  | cons slot entries inductionHypothesis =>
      obtain ⟨headApart, tailApart⟩ := List.pairwise_cons.mp apart
      cases slot with
      | live key value =>
          rw [List.countP_cons_of_pos rfl] at fits ⊢
          obtain ⟨entered, binds, length, count⟩ := filling.rehash_live
            (fresh key value (by simp)) (by omega) value
          have freshNext : ∀ otherKey otherValue,
              Slot.live otherKey otherValue ∈ entries -> ∀ stored,
                .live otherKey stored ∉
                  (table.rehash hash (.live key value)).slots := by
            intro otherKey otherValue member stored bound
            rcases (binds otherKey stored).mp bound with ⟨rfl, -⟩ | ⟨-, old⟩
            · exact headApart _ member otherKey value otherValue rfl rfl
            · exact fresh otherKey otherValue (by simp [member]) stored old
          obtain ⟨grown, members, grownLength, grownCount⟩ :=
            inductionHypothesis entered tailApart freshNext
              (by rw [length, count]; omega)
          refine ⟨grown, ?_, grownLength.trans length, ?_⟩
          · intro otherKey otherValue
            rw [List.foldl_cons, members, binds, List.mem_cons]
            constructor
            · rintro ((⟨rfl, rfl⟩ | ⟨-, old⟩) | later)
              · exact Or.inr (Or.inl rfl)
              · exact Or.inl old
              · exact Or.inr (Or.inr later)
            · rintro (old | same | later)
              · refine Or.inl (Or.inr ⟨?_, old⟩)
                rintro rfl
                exact fresh otherKey value (by simp) otherValue old
              · cases same
                exact Or.inl (Or.inl ⟨rfl, rfl⟩)
              · exact Or.inr later
          · rw [List.foldl_cons, grownCount, count]
            omega
      | empty =>
          rw [List.countP_cons_of_neg (by simp [Slot.isLive])] at fits ⊢
          have rest := inductionHypothesis filling tailApart
            (fun key value member => fresh key value (by simp [member])) fits
          simpa [rehash] using rest
      | tombstone =>
          rw [List.countP_cons_of_neg (by simp [Slot.isLive])] at fits ⊢
          have rest := inductionHypothesis filling tailApart
            (fun key value member => fresh key value (by simp [member])) fits
          simpa [rehash] using rest

/-- Slots of a placed array have distinct keys. -/
theorem Placed.apart (placed : Placed hash slots) :
    slots.Pairwise fun left right =>
      ∀ key leftValue rightValue, left = Slot.live key leftValue ->
        right ≠ .live key rightValue := by
  rw [List.pairwise_iff_getElem]
  intro left right leftInside rightInside below key leftValue rightValue
    leftLive rightLive
  have same := placed.distinct left right key leftValue rightValue
    (by rw [List.getElem?_eq_getElem leftInside, leftLive])
    (by rw [List.getElem?_eq_getElem rightInside, rightLive])
  omega

/-- The entries of a part of a table, entered into one of twice its size. -/
theorem Placed.rehash_part
    {table : ProbeTable κ ν}
    (placed : Placed hash table.slots)
    (bounded : table.slots.length ≤ 2 ^ 30)
    {entered rest : List (Slot κ ν)}
    (split : table.slots = entered ++ rest) :
    let grown := entered.foldl (rehash hash)
      (create (table.slots.length * 2 % 2 ^ 32))
    Filling hash grown ∧
      (∀ key value, Slot.live key value ∈ grown.slots ↔
        .live key value ∈ entered) ∧
      grown.slots.length = table.slots.length * 2 ∧
      grown.count = entered.countP Slot.isLive := by
  have positive := length_pos_of_power placed.power
  obtain ⟨exponent, length⟩ := placed.power
  have doubled : table.slots.length * 2 % 2 ^ 32 = 2 ^ (exponent + 1) := by
    rw [Nat.mod_eq_of_lt (by omega), length, Nat.pow_succ]
  have newLength : (create (2 ^ (exponent + 1)) :
      ProbeTable κ ν).slots.length = table.slots.length * 2 := by
    simp [create, length, Nat.pow_succ]
  have initial : Filling hash
      (create (2 ^ (exponent + 1)) : ProbeTable κ ν) :=
    create_filling hash (exponent + 1)
  have apart := placed.apart
  rw [split] at apart
  have shorter : entered.countP Slot.isLive ≤ table.slots.length := by
    rw [split, List.length_append]
    exact Nat.le_add_right_of_le List.countP_le_length
  obtain ⟨filling, members, grownLength, count⟩ :=
    initial.foldl_rehash entered (List.pairwise_append.mp apart).1
      (by
        intro key value _ stored member
        simp [create] at member)
      (by
        rw [newLength]
        change 0 + _ < _
        omega)
  have emptyCount : (create (2 ^ (exponent + 1)) :
      ProbeTable κ ν).count = 0 := rfl
  rw [newLength] at grownLength
  rw [emptyCount, Nat.zero_add] at count
  rw [doubled]
  refine ⟨filling, ?_, grownLength, count⟩
  intro key value
  rw [members]
  simp [create]

/-- Doubling a table of at most `2 ^ 30` slots keeps its entries. -/
theorem Placed.grow
    {table : ProbeTable κ ν}
    (placed : Placed hash table.slots)
    (bounded : table.slots.length ≤ 2 ^ 30) :
    Filling hash (table.grow hash) ∧
      (∀ key value, Slot.live key value ∈ (table.grow hash).slots ↔
        .live key value ∈ table.slots) ∧
      (table.grow hash).slots.length = table.slots.length * 2 ∧
      (table.grow hash).count = table.slots.countP Slot.isLive := by
  have whole : table.slots = table.slots ++ [] := (List.append_nil _).symm
  exact placed.rehash_part bounded whole

/-- Doubling a counted table keeps it counted and clears its tombstones. -/
theorem Counted.grow
    {table : ProbeTable κ ν}
    (counted : Counted hash table)
    (bounded : table.slots.length ≤ 2 ^ 30) :
    Counted hash (table.grow hash) ∧
      (∀ key value, Slot.live key value ∈ (table.grow hash).slots ↔
        .live key value ∈ table.slots) ∧
      (table.grow hash).slots.length = table.slots.length * 2 ∧
      (table.grow hash).count = table.count ∧
      (table.grow hash).tombstones = 0 := by
  obtain ⟨filling, members, length, count⟩ := counted.placed.grow bounded
  rw [← counted.live] at count
  refine ⟨⟨filling.placed, filling.live, ?_⟩, members, length, count,
    filling.noneBuried⟩
  rw [filling.noneBuried, filling.noTombstone]

/-- Doubling a sound table of at most `2 ^ 30` slots leaves room for more. -/
theorem Sound.grow
    {table : ProbeTable κ ν}
    (sound : Sound hash table)
    (bounded : table.slots.length ≤ 2 ^ 30) :
    Sound hash (table.grow hash) ∧
      (∀ key value, Slot.live key value ∈ (table.grow hash).slots ↔
        .live key value ∈ table.slots) ∧
      ((table.grow hash).count + (table.grow hash).tombstones) * 4 <
        (table.grow hash).slots.length * 3 := by
  have load := sound.load
  have large := sound.large
  obtain ⟨counted, members, length, count, noneBuried⟩ :=
    sound.counted.grow bounded
  refine ⟨⟨counted.placed, counted.live, counted.buried, ?_, ?_⟩, members, ?_⟩
  · rw [noneBuried, count, length]
    omega
  · rw [length]
    omega
  · rw [noneBuried, count, length]
    omega

/-- The growth test of a sound table of at most `2 ^ 30` slots does not
overflow. -/
theorem Sound.crowded_iff
    {table : ProbeTable κ ν}
    (sound : Sound hash table)
    (bounded : table.slots.length ≤ 2 ^ 30) :
    table.crowded = true ↔
      (table.count + table.tombstones) * 4 ≥ table.slots.length * 3 := by
  have load := sound.load
  rw [crowded, Nat.mod_eq_of_lt (by omega), Nat.mod_eq_of_lt (by omega),
    decide_eq_true_iff]

/-- Binding a key in a sound table of at most `2 ^ 30` slots, when the memory
for growing is there. -/
theorem Sound.put
    [DecidableEq κ]
    {table : ProbeTable κ ν}
    (sound : Sound hash table)
    (bounded : table.slots.length ≤ 2 ^ 30)
    (key : κ)
    (value : ν) :
    Sound hash (table.put hash key value true) ∧
      BindsAlso table.slots key value
        (table.put hash key value true).slots := by
  rw [ProbeTable.put, makeRoom]
  by_cases crowd : table.crowded = true
  · rw [crowd, Bool.and_true, if_pos rfl]
    obtain ⟨grown, members, room⟩ := sound.grow bounded
    obtain ⟨inserted, binds⟩ := grown.insert room key value
    refine ⟨inserted, ?_⟩
    intro otherKey otherValue
    rw [binds, members]
  · rw [Bool.eq_false_of_not_eq_true crowd]
    simp only [Bool.false_and, Bool.false_eq_true, if_false]
    rw [sound.crowded_iff bounded] at crowd
    obtain ⟨inserted, binds⟩ := sound.insert (by omega) key value
    exact ⟨inserted, binds⟩

/-- A `put` of the key has a place for it: growing does not overflow the
capacity, and afterwards there is a slot for the key. -/
def TakesKey
    [DecidableEq κ]
    (hash : κ -> Nat)
    (table : ProbeTable κ ν)
    (key : κ)
    (allocated : Bool) : Prop :=
  (table.crowded = true -> allocated = true ->
      table.slots.length ≤ 2 ^ 30) ∧
    Accepts (table.makeRoom hash allocated).slots key

instance takesKeyDecidable
    [DecidableEq κ]
    (hash : κ -> Nat)
    (table : ProbeTable κ ν)
    (key : κ)
    (allocated : Bool) :
    Decidable (TakesKey hash table key allocated) :=
  inferInstanceAs (Decidable (_ ∧ _))

/-- Binding a key that a counted table takes. -/
theorem Counted.put
    [DecidableEq κ]
    {table : ProbeTable κ ν}
    (counted : Counted hash table)
    {key : κ}
    {allocated : Bool}
    (takes : TakesKey hash table key allocated)
    (value : ν) :
    Counted hash (table.put hash key value allocated) ∧
      BindsAlso table.slots key value
        (table.put hash key value allocated).slots := by
  obtain ⟨bounded, accepts⟩ := takes
  have roomy : Counted hash (table.makeRoom hash allocated) ∧
      ∀ key value, Slot.live key value ∈
        (table.makeRoom hash allocated).slots ↔
          .live key value ∈ table.slots := by
    unfold ProbeTable.makeRoom
    split
    case isTrue grows =>
      obtain ⟨crowded, allocated⟩ := Bool.and_eq_true_iff.mp grows
      obtain ⟨grown, members, -⟩ := counted.grow
        (bounded crowded allocated)
      exact ⟨grown, members⟩
    case isFalse => exact ⟨counted, fun _ _ => Iff.rfl⟩
  obtain ⟨room, members⟩ := roomy
  obtain ⟨inserted, binds, -, -⟩ := room.insert accepts value
  refine ⟨inserted, fun otherKey otherValue => ?_⟩
  rw [ProbeTable.put, binds, members]

/-! ## Tables without room -/

theorem insert_slots
    [DecidableEq κ]
    (table : ProbeTable κ ν)
    (key : κ)
    (value : ν) :
    (table.insert hash key value).slots = table.slots.set
      (spotFrom table.slots key table.slots.length
        (mask table.slots.length (hash key)) none).position
      (.live key value) := by
  unfold ProbeTable.insert
  split
  case h_1 spot => rw [spot]; rfl
  case h_2 spot => rw [spot]; rfl
  case h_3 spot => rw [spot]; rfl

/-- A walk over entries of other keys ends where it has to stop. -/
theorem spotFrom_of_not_accepts
    [DecidableEq κ]
    (power : ∃ exponent, slots.length = 2 ^ exponent)
    {key : κ}
    (full : ¬ Accepts slots key)
    (left start : Nat) :
    spotFrom slots key left ((hash key + start) % slots.length) none =
      .vacant ((hash key + (start + left)) % slots.length) := by
  have positive := length_pos_of_power power
  induction left generalizing start with
  | zero => rfl
  | succ left inductionHypothesis =>
      have member := List.mem_of_getElem?
        (getElem?_of_pathSlot positive (rfl : pathSlot hash slots key start =
          pathSlot hash slots key start))
      have here : slots.getD ((hash key + start) % slots.length) .empty =
          pathSlot hash slots key start := rfl
      rw [spotFrom, here]
      cases read : pathSlot hash slots key start with
      | empty => exact absurd ⟨_, member, by rw [read]; rfl⟩ full
      | tombstone => exact absurd ⟨_, member, by rw [read]; rfl⟩ full
      | live stored value =>
          dsimp only
          split
          case isTrue same =>
            refine absurd ⟨_, member, ?_⟩ full
            rw [read]
            exact decide_eq_true same
          case isFalse =>
            rw [mask_path_succ power, inductionHypothesis]
            congr 3
            omega

/-- An insertion writes to a slot that the key gets to, and the key is live
nowhere else, with or without room for it. -/
theorem Placed.spotFrom_writable
    [DecidableEq κ]
    (placed : Placed hash slots)
    (key : κ) :
    let position := (spotFrom slots key slots.length
      (mask slots.length (hash key)) none).position
    Reached hash slots key position ∧
      ∀ stored other, slots[other]? = some (.live key stored) ->
        other = position := by
  have positive := length_pos_of_power placed.power
  have home : mask slots.length (hash key) =
      (hash key + 0) % slots.length := mask_eq_mod placed.power _
  rw [home]
  by_cases accepts : Accepts slots key
  · have fits := spotFrom_fits placed accepts
      (show 0 + slots.length = slots.length by omega)
      (fun _ impossible => absurd impossible (Nat.not_lt_zero _))
      (fun _ impossible => absurd impossible (Nat.not_lt_zero _))
      (show ∀ position, none = some position -> _ by simp)
      (fun _ _ impossible => absurd impossible (Nat.not_lt_zero _))
    have absent : ∀ position, (∀ value, Slot.live key value ∉ slots) ->
        ∀ stored other, slots[other]? = some (Slot.live key stored) ->
          other = position := fun _ missing stored _ read =>
      absurd (List.mem_of_getElem? read) (missing stored)
    cases spot : spotFrom slots key slots.length
        ((hash key + 0) % slots.length) none with
    | present position =>
        rw [spot] at fits
        obtain ⟨value, present⟩ := fits
        exact ⟨placed.reached position key value present,
          fun stored other read =>
            placed.distinct other position key stored value read present⟩
    | reused position =>
        rw [spot] at fits
        exact ⟨fits.2.1, absent position fits.2.2⟩
    | vacant position =>
        rw [spot] at fits
        exact ⟨fits.2.1, absent position fits.2.2⟩
  · rw [spotFrom_of_not_accepts placed.power accepts]
    refine ⟨⟨0, positive, ?_, fun _ impossible =>
      absurd impossible (Nat.not_lt_zero _)⟩, ?_⟩
    · change (hash key + (0 + slots.length)) % slots.length = _
      rw [Nat.zero_add, Nat.add_mod_right, Nat.add_zero]
    · intro stored other read
      exact absurd ⟨_, List.mem_of_getElem? read, decide_eq_true rfl⟩ accepts

/-- The entries after a `put` are the new one and some of the old ones, and they
are placed: a table without room for the key loses another entry. -/
theorem Placed.put
    [DecidableEq κ]
    {table : ProbeTable κ ν}
    (placed : Placed hash table.slots)
    {allocated : Bool}
    (bounded : table.crowded = true -> allocated = true ->
      table.slots.length ≤ 2 ^ 30)
    (key : κ)
    (value : ν) :
    Placed hash (table.put hash key value allocated).slots ∧
      ∀ otherKey otherValue, Slot.live otherKey otherValue ∈
          (table.put hash key value allocated).slots ->
        (otherKey = key ∧ otherValue = value) ∨
          (otherKey ≠ key ∧ .live otherKey otherValue ∈ table.slots) := by
  have roomy : Placed hash (table.makeRoom hash allocated).slots ∧
      ∀ otherKey otherValue, Slot.live otherKey otherValue ∈
        (table.makeRoom hash allocated).slots ↔
          .live otherKey otherValue ∈ table.slots := by
    unfold ProbeTable.makeRoom
    split
    case isTrue grows =>
      obtain ⟨crowded, allocated⟩ := Bool.and_eq_true_iff.mp grows
      obtain ⟨filling, members, -⟩ := placed.grow (bounded crowded allocated)
      exact ⟨filling.placed, members⟩
    case isFalse => exact ⟨placed, fun _ _ => Iff.rfl⟩
  obtain ⟨ready, members⟩ := roomy
  rw [ProbeTable.put, insert_slots]
  generalize table.makeRoom hash allocated = room at ready members ⊢
  obtain ⟨reached, unique⟩ := ready.spotFrom_writable key
  generalize (spotFrom room.slots key room.slots.length
    (mask room.slots.length (hash key)) none).position = position at *
  constructor
  · refine ready.set (by simp) ?_ ?_
    · intro written writtenValue same
      cases same
      exact reached
    · intro written writtenValue stored other same found
      cases same
      exact unique stored other found
  · intro otherKey otherValue member
    have inside : position < room.slots.length := by
      obtain ⟨distance, -, rfl, -⟩ := reached
      exact Nat.mod_lt _ (length_pos_of_power ready.power)
    rcases (live_mem_set_iff inside).mp member with same | ⟨other, apart, read⟩
    · cases same
      exact Or.inl ⟨rfl, rfl⟩
    · refine Or.inr ⟨?_, (members _ _).mp (List.mem_of_getElem? read)⟩
      rintro rfl
      exact apart (unique otherValue other read)

/-- A table of at least sixteen slots starts sound. -/
theorem create_sound
    (hash : κ -> Nat)
    {exponent : Nat}
    (large : 4 ≤ exponent) :
    Sound hash (create (2 ^ exponent) : ProbeTable κ ν) := by
  have filling : Filling hash (create (2 ^ exponent) : ProbeTable κ ν) :=
    create_filling hash exponent
  have length : (create (2 ^ exponent) : ProbeTable κ ν).slots.length =
      2 ^ exponent := by simp [create]
  refine ⟨filling.placed, filling.live, ?_, ?_, ?_⟩
  · rw [filling.noneBuried, filling.noTombstone]
  · change (0 + 0) * 4 < _
    omega
  · rw [length]
    calc
      16 = 2 ^ 4 := rfl
      _ ≤ 2 ^ exponent := Nat.pow_le_pow_right Nat.two_pos large

/-! ## The finite map of a table -/

/-- The live entries are the graph of a partial function. -/
def Represents (slots : List (Slot κ ν)) (bindings : κ -> Option ν) : Prop :=
  ∀ key value, Slot.live key value ∈ slots ↔ bindings key = some value

theorem create_represents (capacity : Nat) :
    Represents (create capacity : ProbeTable κ ν).slots fun _ => none := by
  intro key value
  simp [create]

theorem get_of_represents
    [DecidableEq κ]
    {table : ProbeTable κ ν}
    {bindings : κ -> Option ν}
    (placed : Placed hash table.slots)
    (represents : Represents table.slots bindings)
    (key : κ) :
    table.get hash key = bindings key := by
  apply Option.ext
  intro value
  rw [get_eq_some_iff placed, represents]

theorem BindsAlso.represents
    [DecidableEq κ]
    {after : List (Slot κ ν)}
    {bindings : κ -> Option ν}
    {key : κ}
    {value : ν}
    (binds : BindsAlso slots key value after)
    (represents : Represents slots bindings) :
    Represents after (Function.update bindings key (some value)) := by
  intro otherKey otherValue
  rw [binds, represents]
  by_cases same : otherKey = key
  · subst same
    simp [eq_comm]
  · simp [same]

theorem represents_remove
    [DecidableEq κ]
    {after : List (Slot κ ν)}
    {bindings : κ -> Option ν}
    {key : κ}
    (removed : ∀ otherKey otherValue,
      Slot.live otherKey otherValue ∈ after ↔
        otherKey ≠ key ∧ .live otherKey otherValue ∈ slots)
    (represents : Represents slots bindings) :
    Represents after (Function.update bindings key none) := by
  intro otherKey otherValue
  rw [removed, represents]
  by_cases same : otherKey = key
  · subst same
    simp
  · simp [same]

end ProbeTable

end Library
