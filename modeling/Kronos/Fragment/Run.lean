import Kronos.Fragment.Feed
import Kronos.Fragment.Split
import Kronos.Library.Transition

/-!
# Runs of a reassembler

Datagrams arrive, are parsed into a body buffer of `KRONOS_BUFFER_SIZE` bytes
and, when the parser accepts them, fed to one reassembler; stale sessions are
swept in between.  The array accesses of the reassembler are checked, so a run
that gets stuck is one in which the code leaves its arrays.
-/

namespace Kronos

open Library

/-! ## Calls that stop before a session -/

/-- A frame without fragment info goes straight through. -/
theorem feed_of_plain
    {fragment : Frame}
    (reassembler : Reassembler)
    (plain : hasFlag fragment.presenceFlags .fragmentInfo = false)
    (now : UInt64)
    (allocated : Bool) :
    ∃ result, krsReassemblerFeed reassembler fragment now allocated =
      some (reassembler, result) := by
  rw [krsReassemblerFeed, plain]
  cases allocated <;> exact ⟨_, rfl⟩

/-- A fragment that is not admitted changes nothing and completes nothing. -/
theorem feed_of_rejected
    {reassembler : Reassembler}
    {fragment : Frame}
    {allocated : Bool}
    (flagged : hasFlag fragment.presenceFlags .fragmentInfo = true)
    (rejected : ¬ Admitted reassembler fragment allocated)
    (now : UInt64) :
    ∃ result, krsReassemblerFeed reassembler fragment now allocated =
        some (reassembler, result) ∧
      result.complete = false := by
  rw [krsReassemblerFeed, flagged]
  simp only [Bool.not_true, Bool.false_eq_true, if_false]
  by_cases valid : validFragment fragment = true
  · rw [valid]
    simp only [Bool.not_true, Bool.false_eq_true, if_false]
    by_cases oversized : fragment.body.length > krsMaxPayloadPerFragment
    · rw [if_pos oversized]
      exact ⟨_, rfl, rfl⟩
    · rw [if_neg oversized, openSession]
      cases found : findSession reassembler fragment.packetId with
      | some slot =>
          refine absurd ?_ rejected
          refine ⟨flagged, valid, by omega, ?_⟩
          intro absent
          rw [findSession_eq_none_iff.mpr absent] at found
          cases found
      | none =>
          by_cases crowded :
              reassembler.sessions.length ≥ krsMaxReassemblySessions
          · simp only [if_pos crowded]
            exact ⟨_, rfl, rfl⟩
          · cases allocated with
            | false =>
                simp only [if_neg crowded]
                exact ⟨_, rfl, rfl⟩
            | true =>
                refine absurd ?_ rejected
                exact ⟨flagged, valid, by omega, fun _ => ⟨by omega, rfl⟩⟩
  · rw [Bool.not_eq_true] at valid
    rw [valid]
    exact ⟨_, rfl, rfl⟩

/-! ## Sweeping -/

/-- The sessions that survive a sweep. -/
def fresh (now : UInt64) (timeoutMs : Nat) (session : FragmentSession) :
    Bool :=
  decide ((now - session.createdMs).toNat < timeoutMs)

/-- A sweep keeps the fresh sessions, in order. -/
theorem krsReassemblerSweepStale_sessions
    (reassembler : Reassembler)
    (now : UInt64)
    (timeoutMs : Nat) :
    (krsReassemblerSweepStale reassembler now timeoutMs).2.sessions =
      reassembler.sessions.filter (fresh now timeoutMs) := by
  rw [krsReassemblerSweepStale, sweep_eq_sweepRight]
  change (sweepRight _ 0 reassembler.sessions).2 = _
  rw [sweepRight_snd_eq_filterMap (Option.guard (fresh now timeoutMs)),
    ← List.filterMap_eq_filter]
  intro removed session
  by_cases young : (now - session.createdMs).toNat < timeoutMs
  · simp [young, Option.guard, fresh]
  · simp [young, Option.guard, fresh]

/-- Sweeping keeps the invariant. -/
theorem ReassemblerInvariant.sweepStale
    {reassembler : Reassembler}
    (invariant : ReassemblerInvariant reassembler)
    (now : UInt64)
    (timeoutMs : Nat) :
    ReassemblerInvariant
      (krsReassemblerSweepStale reassembler now timeoutMs).2 := by
  have kept := krsReassemblerSweepStale_sessions reassembler now timeoutMs
  refine ⟨?_, ?_⟩
  · intro session member
    rw [kept] at member
    exact invariant.opened session (List.mem_of_mem_filter member)
  · unfold DistinctKeys
    rw [kept]
    exact invariant.distinct.sublist (List.filter_sublist.map _)

/-! ## The system -/

/-- What happens to a reassembler: a datagram arrives, or a sweep runs. -/
inductive ReassemblerEvent
  | feed (datagram : List UInt8) (now : UInt64) (allocated : Bool)
  | sweepStale (now : UInt64) (timeoutMs : Nat)
  deriving DecidableEq, Repr

/-- One event.  A datagram that the parser refuses is not fed. -/
def reassemblerStep (reassembler : Reassembler) :
    ReassemblerEvent -> Option Reassembler
  | .feed datagram now allocated =>
      let frame := krsFrameCreate datagram kronosBufferSize
      if frame.protocolChar ≠ 0x4B then some reassembler
      else (krsReassemblerFeed reassembler frame now allocated).map Prod.fst
  | .sweepStale now timeoutMs =>
      some (krsReassemblerSweepStale reassembler now timeoutMs).2

/-- A fragment that passes the checks of the code and meets an open session has
an index below the total that session was opened with. -/
def IndexInsideSession (reassembler : Reassembler) : ReassemblerEvent -> Prop
  | .feed datagram _ _ =>
      let frame := krsFrameCreate datagram kronosBufferSize
      frame.protocolChar = 0x4B ->
      hasFlag frame.presenceFlags .fragmentInfo = true ->
      validFragment frame = true ->
      frame.body.length ≤ krsMaxPayloadPerFragment ->
      ∀ session, reassembler.session frame.packetId = some session ->
        frame.index < session.total
  | .sweepStale _ _ => True

/-- A call that returns keeps the invariant. -/
theorem ReassemblerInvariant.feed
    {reassembler next : Reassembler}
    {fragment : Frame}
    {now : UInt64}
    {allocated : Bool}
    {result : ReassembleResult}
    (invariant : ReassemblerInvariant reassembler)
    (fed : krsReassemblerFeed reassembler fragment now allocated =
      some (next, result)) :
    ReassemblerInvariant next := by
  by_cases flagged : hasFlag fragment.presenceFlags .fragmentInfo = true
  · by_cases admitted : Admitted reassembler fragment allocated
    · rcases Nat.lt_or_ge fragment.index
          (reassembler.sessionFor fragment now).total with inside | outside
      · obtain ⟨next', result', fed', effect⟩ :=
          feed_of_admitted invariant admitted now inside
        rw [fed'] at fed
        cases fed
        exact effect.invariant
      · rw [feed_eq_none invariant admitted now outside] at fed
        cases fed
    · obtain ⟨result', fed', -⟩ := feed_of_rejected flagged admitted now
      rw [fed'] at fed
      cases fed
      exact invariant
  · rw [Bool.not_eq_true] at flagged
    obtain ⟨result', fed'⟩ := feed_of_plain reassembler flagged now allocated
    rw [fed'] at fed
    cases fed
    exact invariant

/-- A call stays inside its arrays if and only if the index is inside the
session that the fragment meets. -/
theorem feed_isSome_iff
    {reassembler : Reassembler}
    (invariant : ReassemblerInvariant reassembler)
    (fragment : Frame)
    (now : UInt64)
    (allocated : Bool) :
    (krsReassemblerFeed reassembler fragment now allocated).isSome ↔
      (hasFlag fragment.presenceFlags .fragmentInfo = true ->
        validFragment fragment = true ->
        fragment.body.length ≤ krsMaxPayloadPerFragment ->
        ∀ session, reassembler.session fragment.packetId = some session ->
          fragment.index < session.total) := by
  by_cases flagged : hasFlag fragment.presenceFlags .fragmentInfo = true
  · by_cases admitted : Admitted reassembler fragment allocated
    · cases lookedUp : reassembler.session fragment.packetId with
      | none =>
          have opened : reassembler.sessionFor fragment now = newSession
              fragment.packetId fragment.metadata.fragmentTotal.toNat now := by
            rw [Reassembler.sessionFor, lookedUp, Option.getD_none]
          obtain ⟨next, result, fed, -⟩ := feed_of_admitted invariant admitted
            now (by
              rw [opened]
              exact ((validFragment_iff fragment).mp admitted.valid).1)
          simp [fed]
      | some session =>
          have opened : reassembler.sessionFor fragment now = session := by
            rw [Reassembler.sessionFor, lookedUp, Option.getD_some]
          rcases Nat.lt_or_ge fragment.index session.total with
            inside | outside
          · obtain ⟨next, result, fed, -⟩ := feed_of_admitted invariant
              admitted now (by rw [opened]; exact inside)
            simp [fed, inside]
          · have stuck := feed_eq_none invariant admitted now
              (by rw [opened]; exact outside)
            simp only [stuck, Option.isSome_none, Bool.false_eq_true,
              false_iff]
            intro covered
            have inside := covered flagged admitted.valid admitted.fits
              session rfl
            omega
    · obtain ⟨result, fed, -⟩ := feed_of_rejected flagged admitted now
      simp only [fed, Option.isSome_some, true_iff]
      intro _ valid fits session present
      refine absurd ?_ admitted
      exact ⟨flagged, valid, fits, fun absent => by rw [absent] at present; cases present⟩
  · have plain := Bool.not_eq_true _ ▸ flagged
    obtain ⟨result, fed⟩ := feed_of_plain reassembler plain now allocated
    simp [fed, plain]

theorem reassemblerStep_invariant
    (reassembler : Reassembler)
    (event : ReassemblerEvent)
    (next : Reassembler)
    (invariant : ReassemblerInvariant reassembler)
    (taken : reassemblerStep reassembler event = some next) :
    ReassemblerInvariant next := by
  cases event with
  | feed datagram now allocated =>
      rw [reassemblerStep] at taken
      split at taken
      case isTrue =>
        cases taken
        exact invariant
      case isFalse =>
        obtain ⟨⟨fed, result⟩, called, rfl⟩ := Option.map_eq_some_iff.mp taken
        exact invariant.feed called
  | sweepStale now timeoutMs =>
      rw [reassemblerStep] at taken
      cases taken
      exact invariant.sweepStale now timeoutMs

theorem reassemblerStep_isSome_iff
    (reassembler : Reassembler)
    (event : ReassemblerEvent)
    (invariant : ReassemblerInvariant reassembler) :
    (reassemblerStep reassembler event).isSome ↔
      IndexInsideSession reassembler event := by
  cases event with
  | feed datagram now allocated =>
      rw [reassemblerStep, IndexInsideSession]
      by_cases accepted :
          (krsFrameCreate datagram kronosBufferSize).protocolChar = 0x4B
      · simp only [accepted, ne_eq, not_true_eq_false, if_false,
          Option.isSome_map, forall_const]
        exact feed_isSome_iff invariant _ now allocated
      · simp [accepted]
  | sweepStale now timeoutMs =>
      simp [reassemblerStep, IndexInsideSession]

/-- From an empty reassembler, a run stays inside every session's arrays if and
only if each accepted fragment that meets an open session has an index inside
that session. -/
theorem reassembler_run_inside_arrays_iff (events : List ReassemblerEvent) :
    (run reassemblerStep krsReassemblerCreate events).isSome ↔
      RunAllowed reassemblerStep IndexInsideSession krsReassemblerCreate
        events :=
  run_isSome_iff_runAllowed reassemblerStep_invariant
    reassemblerStep_isSome_iff krsReassemblerCreate_invariant

/-- Two well-formed fragments of packet 1: the first opens a session of two
pieces, the second announces 64 and carries index 63. -/
theorem reassembler_run_leaves_arrays :
    ¬ (run reassemblerStep krsReassemblerCreate
      [.feed (fragmentFrame 10 .basicMessage 1 0 0 2 [7]) 0 true,
       .feed (fragmentFrame 10 .basicMessage 1 0 63 64 [8]) 0 true]).isSome := by
  decide +kernel

end Kronos
