import Kronos.Ack.Stored

/-!
# What a tracker's entries are

A property of an entry's packet id, its channel and the frame it stores is kept
by everything that happens to a tracker, as long as it holds of the entries that
are registered.
-/

namespace Kronos

open Library

/-- Every pending entry has the property. -/
def Registered
    (Known : UInt64 -> Channel -> Option (List UInt8 × Nat) -> Prop)
    (tracker : AckTracker) : Prop :=
  ∀ entry ∈ tracker.pending,
    Known entry.packetId entry.channel entry.storedFrame

section Registered

variable
  {Known : UInt64 -> Channel -> Option (List UInt8 × Nat) -> Prop}
  {tracker : AckTracker}

theorem Registered.create (timeoutMs maxRetries : Nat) :
    Registered Known (krsAckTrackerCreate timeoutMs maxRetries) := nofun

theorem Registered.mono
    {Weaker : UInt64 -> Channel -> Option (List UInt8 × Nat) -> Prop}
    (registered : Registered Known tracker)
    (weaker : ∀ packetId channel stored, Known packetId channel stored ->
      Weaker packetId channel stored) :
    Registered Weaker tracker :=
  fun entry member => weaker _ _ _ (registered entry member)

/-- Dropping entries, and changing nothing that the property looks at. -/
theorem Registered.filterMap
    {after : AckTracker}
    (registered : Registered Known tracker)
    {rewrite : AckEntry -> Option AckEntry}
    (same : ∀ entry kept, rewrite entry = some kept ->
      kept.packetId = entry.packetId ∧ kept.channel = entry.channel ∧
        kept.storedFrame = entry.storedFrame)
    (pending : after.pending = tracker.pending.filterMap rewrite) :
    Registered Known after := by
  intro kept member
  rw [pending] at member
  obtain ⟨entry, present, rewritten⟩ := List.mem_filterMap.mp member
  obtain ⟨number, channel, stored⟩ := same entry kept rewritten
  rw [number, channel, stored]
  exact registered entry present

theorem Registered.receiveRtt
    (registered : Registered Known tracker)
    (packetId : UInt64)
    (channel : Channel)
    (now : UInt64) :
    Registered Known
      (krsAckTrackerReceiveRtt tracker packetId channel now).2 := by
  rw [krsAckTrackerReceiveRtt_snd]
  refine registered.filterMap ?_ rfl
  intro entry kept left
  unfold afterAck observed at left
  split_ifs at left <;> cases left <;> simp

theorem Registered.check
    (registered : Registered Known tracker)
    (now : UInt64)
    (outCapacity droppedCapacity : Nat) :
    Registered Known (krsAckTrackerCheckTimeouts tracker now outCapacity
      droppedCapacity).2 := by
  rw [krsAckTrackerCheckTimeouts_snd]
  refine registered.filterMap ?_ rfl
  intro entry kept left
  unfold afterCheck at left
  split_ifs at left <;> cases left <;> exact ⟨rfl, rfl, rfl⟩

theorem Registered.expect
    (registered : Registered Known tracker)
    (packetId : UInt64)
    (channel : Channel)
    (frameData : Option (List UInt8))
    (frameSize : Nat)
    (known : Known packetId channel (registeredFrame frameData frameSize))
    (now : UInt64)
    (allocated : Bool) :
    Registered Known (krsAckTrackerExpect tracker packetId channel frameData
      frameSize now allocated) := by
  cases allocated with
  | false => exact registered
  | true =>
      intro entry member
      rcases List.mem_append.mp member with old | new
      · exact registered entry old
      · rw [List.mem_singleton] at new
        subst new
        rw [newEntry_storedFrame]
        exact known

/-- The frame found for a retry belongs to an entry. -/
theorem Registered.getRetryFrameForEntry
    (registered : Registered Known tracker)
    {handle : Nat}
    {stored : List UInt8 × Nat}
    (found : krsAckTrackerGetRetryFrameForEntry tracker handle =
      some stored) :
    ∃ packetId channel, Known packetId channel (some stored) := by
  obtain ⟨entry, lookedUp, same⟩ := Option.bind_eq_some_iff.mp found
  have known := registered entry (lookup_mem lookedUp)
  rw [same] at known
  exact ⟨entry.packetId, entry.channel, known⟩

/-- An acknowledgement removes an entry only if it names its packet id and its
channel. -/
theorem mem_receiveRtt_of_ne
    {entry : AckEntry}
    (member : entry ∈ tracker.pending)
    {packetId : UInt64}
    {channel : Channel}
    (other : ¬ (entry.packetId = packetId ∧ entry.channel = channel))
    (now : UInt64) :
    ∃ kept ∈ (krsAckTrackerReceiveRtt tracker packetId channel
      now).2.pending, kept.handle = entry.handle := by
  rw [krsAckTrackerReceiveRtt_snd]
  have left : afterAck tracker packetId channel entry =
      some (observed tracker packetId channel entry) := by
    refine if_neg ?_
    simpa [AckEntry.awaits] using other
  exact ⟨_, List.mem_filterMap.mpr ⟨entry, member, left⟩,
    (afterAck_handle left).1⟩

end Registered

end Kronos
