import Kronos.Ack.RetryFrame

/-!
# What a tracker stores

A property of all stored frames is kept by everything that happens to a
tracker, as long as it holds of the frames that are registered; it then holds
of every frame that is looked up for a retry.
-/

namespace Kronos

open Library

/-- Every stored frame, cut to its recorded size, has the property. -/
def StoresOnly (Stored : List UInt8 -> Prop) (tracker : AckTracker) : Prop :=
  ∀ entry ∈ tracker.pending, ∀ data size,
    entry.storedFrame = some (data, size) -> Stored (data.take size)

section Stored

variable {Stored : List UInt8 -> Prop} {tracker : AckTracker}

theorem StoresOnly.create (timeoutMs maxRetries : Nat) :
    StoresOnly Stored (krsAckTrackerCreate timeoutMs maxRetries) := by
  intro entry member
  cases member

theorem StoresOnly.mono
    {Weaker : List UInt8 -> Prop}
    (stores : StoresOnly Stored tracker)
    (weaker : ∀ frame, Stored frame -> Weaker frame) :
    StoresOnly Weaker tracker :=
  fun entry member data size stored =>
    weaker _ (stores entry member data size stored)

/-- Dropping entries, and changing anything but the stored frames. -/
theorem StoresOnly.filterMap
    {after : AckTracker}
    (stores : StoresOnly Stored tracker)
    {rewrite : AckEntry -> Option AckEntry}
    (frameKept : ∀ entry kept, rewrite entry = some kept ->
      kept.storedFrame = entry.storedFrame)
    (pending : after.pending = tracker.pending.filterMap rewrite) :
    StoresOnly Stored after := by
  intro kept member data size stored
  rw [pending] at member
  obtain ⟨entry, present, rewritten⟩ := List.mem_filterMap.mp member
  rw [frameKept entry kept rewritten] at stored
  exact stores entry present data size stored

theorem StoresOnly.receiveRtt
    (stores : StoresOnly Stored tracker)
    (packetId : UInt64)
    (channel : Channel)
    (now : UInt64) :
    StoresOnly Stored
      (krsAckTrackerReceiveRtt tracker packetId channel now).2 := by
  rw [krsAckTrackerReceiveRtt_snd]
  exact stores.filterMap (fun _ _ left => (afterAck_handle left).2) rfl

theorem StoresOnly.setTimeout
    (stores : StoresOnly Stored tracker)
    (timeoutMs : Nat) :
    StoresOnly Stored (krsAckTrackerSetTimeout tracker timeoutMs) := stores

theorem StoresOnly.check
    (stores : StoresOnly Stored tracker)
    (now : UInt64)
    (outCapacity droppedCapacity : Nat) :
    StoresOnly Stored (krsAckTrackerCheckTimeouts tracker now outCapacity
      droppedCapacity).2 := by
  rw [krsAckTrackerCheckTimeouts_snd]
  exact stores.filterMap (fun _ _ left => (afterCheck_handle left).2.2) rfl

theorem StoresOnly.expect
    (stores : StoresOnly Stored tracker)
    (packetId : UInt64)
    (channel : Channel)
    {frame : List UInt8}
    {frameSize : Nat}
    (registered : Stored (frame.take frameSize))
    (now : UInt64)
    (allocated : Bool) :
    StoresOnly Stored (krsAckTrackerExpect tracker packetId channel
      (some frame) frameSize now allocated) := by
  cases allocated with
  | false => exact stores
  | true =>
      intro entry member data size stored
      rcases List.mem_append.mp member with old | new
      · exact stores entry old data size stored
      · rw [List.mem_singleton] at new
        subst new
        rw [newEntry_storedFrame, registeredFrame] at stored
        split at stored
        case isTrue =>
          cases stored
          rw [List.take_take, Nat.min_self]
          exact registered
        case isFalse => cases stored

theorem StoresOnly.getRetryFrame
    (stores : StoresOnly Stored tracker)
    {packetId : UInt64}
    {data : List UInt8}
    {size : Nat}
    (found : krsAckTrackerGetRetryFrame tracker packetId =
      some (data, size)) :
    Stored (data.take size) := by
  obtain ⟨entry, member, stored⟩ := List.exists_of_findSome?_eq_some found
  split at stored
  case isTrue => cases stored
  case isFalse => exact stores entry member data size stored

theorem StoresOnly.getRetryFrameForEntry
    (stores : StoresOnly Stored tracker)
    {handle : Nat}
    {data : List UInt8}
    {size : Nat}
    (found : krsAckTrackerGetRetryFrameForEntry tracker handle =
      some (data, size)) :
    Stored (data.take size) := by
  obtain ⟨entry, lookedUp, stored⟩ := Option.bind_eq_some_iff.mp found
  exact stores entry (lookup_mem lookedUp) data size stored

end Stored

end Kronos
