import Kronos.Library.KeyedList
import Kronos.Library.ThreadPool

/-!
# Chained hash tables

A hash table keeps, for each index, the chain of the items whose keys have that
index.  An insertion goes to the end of its chain and is refused if the chain
has the key.  `Chained` says which items, with distinct keys, a table stands
for; looking up, inserting and rehashing are read as operations on these.

The hash is any function of the key and the number of chains that stays below
that number.
-/

namespace Library

variable {α κ : Type}

/-- The chain of a key. -/
def chainOf
    (hash : κ -> Nat -> Nat)
    (table : List (List α))
    (wanted : κ) : List α :=
  table[hash wanted table.length]?.getD []

/-- The table stands for some items with distinct keys, each of them in the
chain of its key. -/
structure Chained
    (key : α -> κ)
    (hash : κ -> Nat -> Nat)
    (table : List (List α))
    (items : List α) : Prop where
  positive : 0 < table.length
  placed : ∀ index chain, table[index]? = some chain ->
    ∀ item ∈ chain, hash (key item) table.length = index
  perm : table.flatten.Perm items
  distinct : DistinctKeys key items

section Shape

variable
  {key : α -> κ}
  {hash : κ -> Nat -> Nat}
  {table : List (List α)}
  {items : List α}

theorem Chained.mem_chainOf
    (chained : Chained key hash table items)
    {item : α} :
    item ∈ chainOf hash table (key item) ↔ item ∈ items := by
  rw [← chained.perm.mem_iff, List.mem_flatten]
  constructor
  · intro member
    unfold chainOf at member
    cases read : table[hash (key item) table.length]? with
    | none =>
        rw [read] at member
        cases member
    | some chain =>
        rw [read] at member
        exact ⟨chain, List.mem_of_getElem? read, member⟩
  · rintro ⟨chain, inside, member⟩
    obtain ⟨index, read⟩ := List.mem_iff_getElem?.mp inside
    rw [chainOf, chained.placed index chain read item member, read]
    exact member

theorem Chained.flatten_distinct (chained : Chained key hash table items) :
    DistinctKeys key table.flatten :=
  (chained.perm.map key).nodup_iff.mpr chained.distinct

theorem Chained.chainOf_distinct
    (chained : Chained key hash table items)
    (wanted : κ) :
    DistinctKeys key (chainOf hash table wanted) := by
  unfold chainOf
  cases read : table[hash wanted table.length]? with
  | none => exact List.nodup_nil
  | some chain =>
      have part := List.sublist_flatten_of_mem (List.mem_of_getElem? read)
      exact List.Nodup.sublist (part.map key) chained.flatten_distinct

theorem Chained.empty
    {size : Nat}
    (positive : 0 < size) :
    Chained key hash (List.replicate size []) [] where
  positive := by
    rw [List.length_replicate]
    exact positive
  placed := by
    intro index chain read item member
    rw [List.getElem?_replicate] at read
    split at read
    case isTrue =>
        cases read
        cases member
    case isFalse => cases read
  perm := by
    rw [List.flatten_replicate_nil]
  distinct := List.nodup_nil

/-- An item at the end of a chain is one more item of the table. -/
theorem flatten_set_perm
    {index : Nat}
    {chain : List α}
    (read : table[index]? = some chain)
    (item : α) :
    (table.set index (chain ++ [item])).flatten.Perm
      (table.flatten ++ [item]) := by
  obtain ⟨inside, -⟩ := List.getElem?_eq_some_iff.mp read
  have found : (table.set index (chain ++ [item]))[index]? =
      some (chain ++ [item]) := List.getElem?_set_self inside
  have after := perm_of_getElem? found
  rw [List.eraseIdx_set_eq] at after
  refine after.flatten.trans (List.Perm.trans ?_
    ((perm_of_getElem? read).flatten.symm.append_right [item]))
  rw [List.flatten_cons, List.flatten_cons, List.append_assoc,
    List.append_assoc]
  exact List.perm_append_comm.append_left chain

end Shape

variable [DecidableEq κ]

/-- Put an item at the end of a chain, unless the chain has its key. -/
def appendLink (key : α -> κ) : List α -> α -> Option (List α)
  | [], item => some [item]
  | current :: chain, item =>
      if key current = key item then none
      else (appendLink key chain item).map (current :: ·)

/-- The first item with a key in its chain. -/
def chainLookup
    (key : α -> κ)
    (hash : κ -> Nat -> Nat)
    (table : List (List α))
    (wanted : κ) : Option α :=
  lookup key (chainOf hash table wanted) wanted

/-- Insert an item into the chain of its key. -/
def chainInsert
    (key : α -> κ)
    (hash : κ -> Nat -> Nat)
    (table : List (List α))
    (item : α) : Option (List (List α)) :=
  (appendLink key (chainOf hash table (key item)) item).map
    (table.set (hash (key item) table.length))

variable
  {key : α -> κ}
  {hash : κ -> Nat -> Nat}
  {table : List (List α)}
  {items : List α}

theorem appendLink_eq (chain : List α) (item : α) :
    appendLink key chain item =
      if (lookup key chain (key item)).isSome then none
      else some (chain ++ [item]) := by
  induction chain with
  | nil => rfl
  | cons current chain inductionHypothesis =>
      rw [appendLink, lookup, List.find?_cons, inductionHypothesis]
      by_cases same : key current = key item
      · simp [same]
      · rw [if_neg same, beq_false_of_ne same]
        change Option.map (current :: ·) _ =
          if (lookup key chain (key item)).isSome then none else _
        split <;> rfl

/-- A lookup finds the item with the key. -/
theorem Chained.lookup
    (chained : Chained key hash table items)
    (wanted : κ) :
    chainLookup key hash table wanted =
      Library.lookup key items wanted := by
  apply lookup_congr (chained.chainOf_distinct wanted) chained.distinct
  intro item keyed
  subst keyed
  exact chained.mem_chainOf

/-- An insertion is refused if the key is there. -/
theorem Chained.insert_none
    (chained : Chained key hash table items)
    {item : α}
    (present : (Library.lookup key items (key item)).isSome) :
    chainInsert key hash table item = none := by
  rw [← chained.lookup, chainLookup] at present
  rw [chainInsert, appendLink_eq, if_pos present]
  rfl

/-- An insertion of a new key adds the item. -/
theorem Chained.insert_some
    (chained : Chained key hash table items)
    (bounded : ∀ key size, 0 < size -> hash key size < size)
    {item : α}
    (absent : Library.lookup key items (key item) = none) :
    ∃ after, chainInsert key hash table item = some after ∧
      after.length = table.length ∧
      Chained key hash after (items ++ [item]) := by
  have inside := bounded (key item) table.length chained.positive
  obtain ⟨chain, read⟩ : ∃ chain,
      table[hash (key item) table.length]? = some chain :=
    ⟨_, List.getElem?_eq_getElem inside⟩
  have chain_eq : chainOf hash table (key item) = chain := by
    rw [chainOf, read]
    rfl
  have missing := chained.lookup (key item)
  rw [absent, chainLookup] at missing
  refine ⟨table.set (hash (key item) table.length) (chain ++ [item]), ?_,
    List.length_set, ?_, ?_, ?_, chained.distinct.append absent⟩
  · rw [chainInsert, appendLink_eq, missing, chain_eq]
    rfl
  · rw [List.length_set]
    exact chained.positive
  · intro index other found entry member
    rw [List.length_set]
    by_cases same : hash (key item) table.length = index
    · subst same
      rw [List.getElem?_set_self inside] at found
      cases found
      rcases List.mem_append.mp member with earlier | last
      · exact chained.placed _ chain read entry earlier
      · rw [List.mem_singleton] at last
        rw [last]
    · rw [List.getElem?_set_ne same] at found
      exact chained.placed index other found entry member
  · exact (flatten_set_perm read item).trans
      (chained.perm.append_right [item])

end Library
