import Mathlib.Data.Finset.Card
import Mathlib.Data.List.Nodup

/-!
# Buffers of limited room

A scan that meets items one after the other, some of them several times, notes
each in a buffer unless it is there already or the buffer is full.  Afterwards
the buffer holds as many different items as it has room for.
-/

namespace Library

variable {α : Type} [DecidableEq α]

/-- Note an item while there is room. -/
def noteItem (capacity : Nat) (buffer : List α) (item : α) : List α :=
  if item ∈ buffer then buffer
  else if buffer.length < capacity then buffer ++ [item]
  else buffer

/-- What a buffer holds of the items that were met: different ones of them, and
all of them as long as they fit. -/
structure HoldsMet
    (capacity : Nat)
    (met : Finset α)
    (buffer : List α) : Prop where
  once : buffer.Nodup
  wereMet : ∀ item ∈ buffer, item ∈ met
  length : buffer.length = min capacity met.card

variable {capacity : Nat} {met : Finset α} {buffer : List α}

omit [DecidableEq α] in
theorem HoldsMet.empty (capacity : Nat) :
    HoldsMet capacity (∅ : Finset α) [] where
  once := List.nodup_nil
  wereMet := nofun
  length := by simp

/-- While there is room, the buffer holds every item that was met. -/
theorem HoldsMet.mem_of_room
    (holds : HoldsMet capacity met buffer)
    (room : buffer.length < capacity)
    {item : α}
    (known : item ∈ met) :
    item ∈ buffer := by
  have whole : buffer.toFinset = met := by
    apply Finset.eq_of_subset_of_card_le
    · intro noted member
      exact holds.wereMet noted (List.mem_toFinset.mp member)
    · have length := holds.length
      rw [List.toFinset_card_of_nodup holds.once]
      omega
  rw [← whole] at known
  exact List.mem_toFinset.mp known

/-- One more item. -/
theorem HoldsMet.note
    (holds : HoldsMet capacity met buffer)
    (item : α) :
    HoldsMet capacity (insert item met) (noteItem capacity buffer item) := by
  unfold noteItem
  split_ifs with noted room
  · rw [Finset.insert_eq_self.mpr (holds.wereMet item noted)]
    exact holds
  · have fresh : item ∉ met :=
      fun known => noted (holds.mem_of_room room known)
    have length := holds.length
    refine ⟨?_, ?_, ?_⟩
    · refine List.nodup_append.mpr
        ⟨holds.once, List.nodup_singleton item, ?_⟩
      rintro first firstIn second secondIn rfl
      rw [List.mem_singleton.mp secondIn] at firstIn
      exact noted firstIn
    · intro other member
      rcases List.mem_append.mp member with earlier | last
      · exact Finset.mem_insert_of_mem (holds.wereMet other earlier)
      · rw [List.mem_singleton.mp last]
        exact Finset.mem_insert_self item met
    · rw [List.length_append, List.length_singleton,
        Finset.card_insert_of_notMem fresh]
      omega
  · have length := holds.length
    have grown : met.card ≤ (insert item met).card :=
      Finset.card_le_card (Finset.subset_insert item met)
    exact ⟨holds.once,
      fun other member =>
        Finset.mem_insert_of_mem (holds.wereMet other member),
      by omega⟩

/-- A scan that notes the items that are wanted and passes over the others. -/
theorem HoldsMet.foldl
    {wanted : α -> Bool}
    {visit : List α -> α -> List α}
    (notes : ∀ buffer item, wanted item = true ->
      visit buffer item = noteItem capacity buffer item)
    (passes : ∀ buffer item, wanted item = false ->
      visit buffer item = buffer)
    (holds : HoldsMet capacity met buffer)
    (items : List α) :
    HoldsMet capacity (met ∪ (items.filter wanted).toFinset)
      (items.foldl visit buffer) := by
  induction items generalizing met buffer with
  | nil => simpa using holds
  | cons item items inductionHypothesis =>
      rw [List.foldl_cons, List.filter_cons]
      cases decision : wanted item with
      | false =>
          rw [passes buffer item decision]
          simpa using inductionHypothesis holds
      | true =>
          rw [notes buffer item decision]
          have next := inductionHypothesis (holds.note item)
          simpa [Finset.insert_union, Finset.union_insert] using next

end Library
