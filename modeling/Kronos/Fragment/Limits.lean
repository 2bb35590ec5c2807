import Kronos.Fragment.Run

/-!
# The sessions of a running reassembler

Fragments are fed and stale sessions swept at times that never go back, with
memory that may run out.  As long as a fragment that meets an open session
announces that session's total, the sessions stay within their limits, their
counters count their flags, an error changes no session, and a sweep goes by
the age of the sessions.
-/

namespace Kronos

open Library

/-- A call on a reassembler, with the time at which it is made. -/
inductive SessionEvent
  | feed (fragment : Frame) (now : UInt64) (allocated : Bool)
  | sweepStale (now : UInt64) (timeoutMs : Nat)
  deriving DecidableEq, Repr

/-- The time of a call. -/
def SessionEvent.now : SessionEvent -> UInt64
  | .feed _ now _ => now
  | .sweepStale now _ => now

/-- A reassembler, with the time of its last call. -/
structure TimedReassembler where
  reassembler : Reassembler
  clock : UInt64
  deriving DecidableEq, Repr

/-- One call. -/
def sessionStep (current : TimedReassembler) :
    SessionEvent -> Option TimedReassembler
  | .feed fragment now allocated =>
      (krsReassemblerFeed current.reassembler fragment now allocated).map
        fun fed => { reassembler := fed.1, clock := now }
  | .sweepStale now timeoutMs =>
      some
        { reassembler := (krsReassemblerSweepStale current.reassembler now
            timeoutMs).2
          clock := now }

/-- A fragment that passes the checks of the code and meets an open session
announces the total of that session. -/
def AnnouncesTotal (reassembler : Reassembler) (fragment : Frame) : Prop :=
  hasFlag fragment.presenceFlags .fragmentInfo = true ->
    validFragment fragment = true ->
      fragment.body.length ≤ krsMaxPayloadPerFragment ->
        ∀ session, reassembler.session fragment.packetId = some session ->
          fragment.metadata.fragmentTotal.toNat = session.total

instance announcesTotalDecidable
    (reassembler : Reassembler)
    (fragment : Frame) :
    Decidable (AnnouncesTotal reassembler fragment) :=
  match found : reassembler.session fragment.packetId with
  | none => isTrue (by
      intro _ _ _ session present
      rw [found] at present
      cases present)
  | some session =>
      decidable_of_iff
        (hasFlag fragment.presenceFlags .fragmentInfo = true ->
          validFragment fragment = true ->
            fragment.body.length ≤ krsMaxPayloadPerFragment ->
              fragment.metadata.fragmentTotal.toNat = session.total)
        (by simp only [AnnouncesTotal, found, Option.some.injEq, forall_eq'])

/-- The time does not go back, and a fragment announces the total of the open
session that it meets. -/
def SessionAllowed (current : TimedReassembler) (event : SessionEvent) : Prop :=
  current.clock ≤ event.now ∧
    match event with
    | .feed fragment _ _ => AnnouncesTotal current.reassembler fragment
    | .sweepStale _ _ => True

instance sessionAllowedDecidable (current : TimedReassembler) :
    ∀ event, Decidable (SessionAllowed current event)
  | .feed fragment now _ =>
      inferInstanceAs (Decidable (current.clock ≤ now ∧
        AnnouncesTotal current.reassembler fragment))
  | .sweepStale now _ =>
      inferInstanceAs (Decidable (current.clock ≤ now ∧ True))

/-- The limits of an open session. -/
structure SessionWithinLimits (session : FragmentSession) : Prop where
  some_piece : 1 ≤ session.total
  few_pieces : session.total ≤ krsMaxFragmentsPerPacket
  flags : session.pieceReceived.length = session.total
  counted : session.received = session.pieceReceived.count true
  incomplete : session.received < session.total
  sizes : ∀ size ∈ session.pieceSizes, size ≤ krsMaxPayloadPerFragment

/-- The limits of a reassembler. -/
structure WithinLimits (reassembler : Reassembler) : Prop where
  few : reassembler.sessions.length ≤ krsMaxReassemblySessions
  distinct : (reassembler.sessions.map FragmentSession.packetId).Nodup
  sessions : ∀ session ∈ reassembler.sessions, SessionWithinLimits session

/-- The age of a session. -/
def FragmentSession.age (session : FragmentSession) (now : UInt64) : Nat :=
  now.toNat - session.createdMs.toNat

/-- A sweep removes the sessions whose age is at least the timeout, keeps the
others in order, and returns how many it removed. -/
def SweepsByAge (reassembler : Reassembler) (now : UInt64) (timeoutMs : Nat) :
    Prop :=
  let swept := krsReassemblerSweepStale reassembler now timeoutMs
  swept.2.sessions =
      reassembler.sessions.filter
        (fun session => decide (session.age now < timeoutMs)) ∧
    swept.1 =
      (reassembler.sessions.filter
        (fun session => decide (timeoutMs ≤ session.age now))).length

/-! ## One piece -/

/-- A piece is fed without an error, and opens no session. -/
theorem feedPiece_outcome
    {reassembler next : Reassembler}
    {slot : Nat}
    {session : FragmentSession}
    {fragment : Frame}
    {result : ReassembleResult}
    (fed : feedPiece reassembler slot session fragment =
      some (next, result)) :
    result.base.valid = true ∧
      next.sessions.length ≤ reassembler.sessions.length := by
  unfold feedPiece at fed
  obtain ⟨duplicate, -, rest⟩ := Option.bind_eq_some_iff.mp fed
  split at rest
  case isTrue =>
      cases rest
      exact ⟨rfl, Nat.le_of_eq List.length_set⟩
  case isFalse =>
      obtain ⟨stored, -, after⟩ := Option.bind_eq_some_iff.mp rest
      split at after
      case isTrue =>
          cases after
          exact ⟨rfl, Nat.le_of_eq List.length_set⟩
      case isFalse =>
          obtain ⟨completed, outcome, same⟩ :=
            Option.map_eq_some_iff.mp after
          cases same
          obtain ⟨sizes, -, compacted⟩ := Option.bind_eq_some_iff.mp outcome
          obtain ⟨buffer, -, rfl⟩ := Option.map_eq_some_iff.mp compacted
          refine ⟨rfl, ?_⟩
          have erased := List.length_eraseP_le (l := reassembler.sessions.set
            slot stored) (p := fun session =>
              session.packetId == fragment.packetId)
          rw [List.length_set] at erased
          exact erased

/-- Opening a session keeps the limit of their number. -/
theorem openSession_length
    {reassembler opened : Reassembler}
    {packetId : UInt64}
    {total : Nat}
    {now : UInt64}
    {allocated : Bool}
    {slot : Nat}
    (few : reassembler.sessions.length ≤ krsMaxReassemblySessions)
    (found : openSession reassembler packetId total now allocated =
      .ok (opened, slot)) :
    opened.sessions.length ≤ krsMaxReassemblySessions := by
  unfold openSession at found
  split at found
  case h_1 =>
      cases found
      exact few
  case h_2 =>
      split at found
      case isTrue => cases found
      case isFalse room =>
          split at found
          case isTrue => cases found
          case isFalse =>
              cases found
              rw [List.length_append, List.length_singleton]
              omega

/-! ## One call -/

section Call

variable
  {reassembler next : Reassembler}
  {fragment : Frame}
  {now : UInt64}
  {allocated : Bool}
  {result : ReassembleResult}

/-- A call changes nothing, or it is that of an admitted fragment. -/
theorem feed_cases
    (fed : krsReassemblerFeed reassembler fragment now allocated =
      some (next, result)) :
    next = reassembler ∨ Admitted reassembler fragment allocated := by
  by_cases flagged : hasFlag fragment.presenceFlags .fragmentInfo = true
  · by_cases admitted : Admitted reassembler fragment allocated
    · exact .inr admitted
    · obtain ⟨other, same, -⟩ := feed_of_rejected flagged admitted now
      rw [same] at fed
      cases fed
      exact .inl rfl
  · obtain ⟨other, same⟩ := feed_of_plain reassembler
      (Bool.not_eq_true _ ▸ flagged) now allocated
    rw [same] at fed
    cases fed
    exact .inl rfl

/-- The call of an admitted fragment succeeds and keeps the limit of the number
of sessions. -/
theorem feed_outcome_of_admitted
    (invariant : ReassemblerInvariant reassembler)
    (admitted : Admitted reassembler fragment allocated)
    (fed : krsReassemblerFeed reassembler fragment now allocated =
      some (next, result)) :
    result.base.valid = true ∧
      (reassembler.sessions.length ≤ krsMaxReassemblySessions ->
        next.sessions.length ≤ krsMaxReassemblySessions) := by
  obtain ⟨opened, slot, found, located⟩ :=
    openSession_of_admitted invariant admitted now
  rw [feed_eq_feedSession admitted found, feedSession, located.present,
    Option.bind_some] at fed
  obtain ⟨valid, length⟩ := feedPiece_outcome fed
  exact ⟨valid, fun few => length.trans (openSession_length few found)⟩

/-- A call that returns an error changes nothing. -/
theorem feed_of_error
    (invariant : ReassemblerInvariant reassembler)
    (fed : krsReassemblerFeed reassembler fragment now allocated =
      some (next, result))
    (error : result.base.valid = false) :
    next = reassembler := by
  rcases feed_cases fed with same | admitted
  · exact same
  · have valid := (feed_outcome_of_admitted invariant admitted fed).1
    rw [error] at valid
    cases valid

theorem feed_length
    (invariant : ReassemblerInvariant reassembler)
    (few : reassembler.sessions.length ≤ krsMaxReassemblySessions)
    (fed : krsReassemblerFeed reassembler fragment now allocated =
      some (next, result)) :
    next.sessions.length ≤ krsMaxReassemblySessions := by
  rcases feed_cases fed with rfl | admitted
  · exact few
  · exact (feed_outcome_of_admitted invariant admitted fed).2 few

/-- The total and the time of a session were those of its packet's session
before the call, or of the session that the call opens. -/
theorem FeedEffect.origin
    (effect : FeedEffect reassembler fragment now next result)
    {session : FragmentSession}
    (member : session ∈ next.sessions) :
    session ∈ reassembler.sessions ∨
      session.total = (reassembler.sessionFor fragment now).total ∧
        session.createdMs =
          (reassembler.sessionFor fragment now).createdMs := by
  have found : next.session session.packetId = some session :=
    effect.invariant.distinct.lookup_eq_some_iff.mpr ⟨member, rfl⟩
  by_cases own : session.packetId = fragment.packetId
  · right
    rw [own] at found
    have step := effect.step
    cases step with
    | duplicate received same =>
        rw [same] at found
        cases found
        exact ⟨rfl, rfl⟩
    | stored stored missing piece incomplete same =>
        rw [same] at found
        cases found
        exact ⟨piece.total, piece.createdMs⟩
    | completed stored result missing piece full outcome gone =>
        rw [gone] at found
        cases found
  · left
    rw [effect.others session.packetId own] at found
    exact lookup_mem found

/-- Where fragments announce the right totals, an admitted fragment has an
effect. -/
theorem AnnouncesTotal.effect
    (announces : AnnouncesTotal reassembler fragment)
    (invariant : ReassemblerInvariant reassembler)
    (admitted : Admitted reassembler fragment allocated)
    (now : UInt64) :
    ∃ next result,
      krsReassemblerFeed reassembler fragment now allocated =
        some (next, result) ∧
      FeedEffect reassembler fragment now next result := by
  apply feed_of_admitted invariant admitted now
  have index := ((validFragment_iff fragment).mp admitted.valid).1
  unfold Reassembler.sessionFor
  cases found : reassembler.session fragment.packetId with
  | none => exact index
  | some session =>
      have total := announces admitted.flagged admitted.valid admitted.fits
        session found
      rw [total] at index
      exact index

/-- Where fragments announce the right totals, a call returns. -/
theorem AnnouncesTotal.feed_isSome
    (announces : AnnouncesTotal reassembler fragment)
    (invariant : ReassemblerInvariant reassembler)
    (now : UInt64)
    (allocated : Bool) :
    ∃ fed, krsReassemblerFeed reassembler fragment now allocated =
      some fed := by
  apply Option.isSome_iff_exists.mp
  rw [feed_isSome_iff invariant]
  intro flagged valid fits session found
  have index := ((validFragment_iff fragment).mp valid).1
  rw [announces flagged valid fits session found] at index
  exact index

end Call

/-! ## Sweeps -/

/-- A sweep counts the sessions that are not fresh. -/
theorem krsReassemblerSweepStale_count
    (reassembler : Reassembler)
    (now : UInt64)
    (timeoutMs : Nat) :
    (krsReassemblerSweepStale reassembler now timeoutMs).1 =
      (reassembler.sessions.filter
        (fun session => !fresh now timeoutMs session)).length := by
  rw [krsReassemblerSweepStale, sweep_eq_sweepRight]
  induction reassembler.sessions with
  | nil => rfl
  | cons session sessions inductionHypothesis =>
      rw [sweepRight_cons, List.filter_cons]
      simp only at inductionHypothesis ⊢
      by_cases young : (now - session.createdMs).toNat < timeoutMs
      · simp [young, fresh, inductionHypothesis]
      · simp [young, fresh, inductionHypothesis]

/-- A session that was opened before now is fresh exactly if its age is below
the timeout. -/
theorem fresh_eq_age
    {session : FragmentSession}
    {now : UInt64}
    (opened : session.createdMs ≤ now)
    (timeoutMs : Nat) :
    fresh now timeoutMs session = decide (session.age now < timeoutMs) := by
  rw [fresh, FragmentSession.age, UInt64.toNat_sub_of_le _ _ opened]

theorem sweepsByAge_of_opened
    {reassembler : Reassembler}
    {now : UInt64}
    (opened : ∀ session ∈ reassembler.sessions, session.createdMs ≤ now)
    (timeoutMs : Nat) :
    SweepsByAge reassembler now timeoutMs := by
  refine ⟨?_, ?_⟩
  · rw [krsReassemblerSweepStale_sessions]
    apply List.filter_congr
    intro session member
    exact fresh_eq_age (opened session member) timeoutMs
  · rw [krsReassemblerSweepStale_count]
    congr 1
    apply List.filter_congr
    intro session member
    rw [fresh_eq_age (opened session member) timeoutMs, ← decide_not]
    exact decide_eq_decide.mpr Nat.not_lt

/-! ## Whole runs -/

/-- The invariant of a run: the sessions are open and few, have few pieces, and
were opened before now. -/
structure SessionsInvariant (current : TimedReassembler) : Prop where
  invariant : ReassemblerInvariant current.reassembler
  few : current.reassembler.sessions.length ≤ krsMaxReassemblySessions
  total : ∀ session ∈ current.reassembler.sessions,
    session.total ≤ krsMaxFragmentsPerPacket
  opened : ∀ session ∈ current.reassembler.sessions,
    session.createdMs ≤ current.clock

theorem SessionsInvariant.withinLimits
    {current : TimedReassembler}
    (sessions : SessionsInvariant current) :
    WithinLimits current.reassembler where
  few := sessions.few
  distinct := sessions.invariant.distinct
  sessions := by
    intro session member
    have isOpen := sessions.invariant.opened session member
    exact
      { some_piece := Nat.one_le_of_lt isOpen.incomplete
        few_pieces := sessions.total session member
        flags := isOpen.flagsLength
        counted := isOpen.receivedCount
        incomplete := isOpen.incomplete
        sizes := isOpen.sizesBounded }

/-- The session of an admitted fragment is within the limits and opened before
now. -/
theorem SessionsInvariant.sessionFor
    {current : TimedReassembler}
    (sessions : SessionsInvariant current)
    {fragment : Frame}
    {allocated : Bool}
    (admitted : Admitted current.reassembler fragment allocated)
    {now : UInt64}
    (later : current.clock ≤ now) :
    (current.reassembler.sessionFor fragment now).total ≤
        krsMaxFragmentsPerPacket ∧
      (current.reassembler.sessionFor fragment now).createdMs ≤ now := by
  unfold Reassembler.sessionFor
  cases found : current.reassembler.session fragment.packetId with
  | none =>
      exact ⟨((validFragment_iff fragment).mp admitted.valid).2,
        UInt64.le_refl _⟩
  | some session =>
      have member : session ∈ current.reassembler.sessions := lookup_mem found
      exact ⟨sessions.total session member,
        UInt64.le_trans (sessions.opened session member) later⟩

/-- An allowed call returns and keeps the invariant. -/
theorem sessionStep_progress
    (current : TimedReassembler)
    (event : SessionEvent)
    (sessions : SessionsInvariant current)
    (allowed : SessionAllowed current event) :
    ∃ next, sessionStep current event = some next ∧
      SessionsInvariant next := by
  obtain ⟨later, announced⟩ := allowed
  cases event with
  | feed fragment now allocated =>
      have announces : AnnouncesTotal current.reassembler fragment := announced
      obtain ⟨fed, called⟩ := announces.feed_isSome sessions.invariant now
        allocated
      refine ⟨{ reassembler := fed.1, clock := now }, ?_, ?_⟩
      · rw [sessionStep, called]
        rfl
      · have origin : ∀ session ∈ fed.1.sessions,
            session ∈ current.reassembler.sessions ∨
              session.total ≤ krsMaxFragmentsPerPacket ∧
                session.createdMs ≤ now := by
          intro session member
          rcases feed_cases called with same | admitted
          · rw [same] at member
            exact .inl member
          · obtain ⟨next, result, performed, effect⟩ :=
              announces.effect sessions.invariant admitted now
            rw [called] at performed
            cases performed
            have bounds := sessions.sessionFor admitted later
            rcases effect.origin member with old | ⟨total, created⟩
            · exact .inl old
            · rw [total, created]
              exact .inr bounds
        refine ⟨sessions.invariant.feed called,
          feed_length sessions.invariant sessions.few called, ?_, ?_⟩
        · intro session member
          rcases origin session member with old | new
          · exact sessions.total session old
          · exact new.1
        · intro session member
          rcases origin session member with old | new
          · exact UInt64.le_trans (sessions.opened session old) later
          · exact new.2
  | sweepStale now timeoutMs =>
      refine ⟨_, rfl, sessions.invariant.sweepStale now timeoutMs, ?_, ?_, ?_⟩
      · rw [krsReassemblerSweepStale_sessions]
        exact (List.length_filter_le _ _).trans sessions.few
      · intro session member
        rw [krsReassemblerSweepStale_sessions] at member
        exact sessions.total session (List.mem_of_mem_filter member)
      · intro session member
        rw [krsReassemblerSweepStale_sessions] at member
        exact UInt64.le_trans
          (sessions.opened session (List.mem_of_mem_filter member)) later

theorem krsReassemblerCreate_sessions (clock : UInt64) :
    SessionsInvariant { reassembler := krsReassemblerCreate, clock := clock }
    where
  invariant := krsReassemblerCreate_invariant
  few := Nat.zero_le _
  total := by
    intro session member
    cases member
  opened := by
    intro session member
    cases member

/-- From an empty reassembler, whatever is fed and swept at times that do not go
back, as long as fragments announce the totals of the sessions that they meet:
every call returns, the sessions are within their limits, a further call that
returns an error changes nothing, and a further sweep goes by the age of the
sessions. -/
theorem reassembler_run_within_limits
    (start : UInt64)
    (events : List SessionEvent)
    (allowed : RunAllowed sessionStep SessionAllowed
      { reassembler := krsReassemblerCreate, clock := start } events) :
    ∃ current,
      run sessionStep { reassembler := krsReassemblerCreate, clock := start }
        events = some current ∧
      WithinLimits current.reassembler ∧
      (∀ fragment now allocated next result,
        krsReassemblerFeed current.reassembler fragment now allocated =
            some (next, result) ->
          result.base.valid = false -> next = current.reassembler) ∧
      (∀ now timeoutMs, current.clock ≤ now ->
        SweepsByAge current.reassembler now timeoutMs) := by
  obtain ⟨current, reached, sessions⟩ := run_progress sessionStep_progress
    (krsReassemblerCreate_sessions start) allowed
  refine ⟨current, reached, sessions.withinLimits, ?_, ?_⟩
  · intro fragment now allocated next result fed error
    exact feed_of_error sessions.invariant fed error
  · intro now timeoutMs later
    apply sweepsByAge_of_opened
    intro session member
    exact UInt64.le_trans (sessions.opened session member) later

/-- Two of three fragments, one of them twice, a fragment without memory and a
sweep. -/
def threePieceRun : List SessionEvent :=
  let fragment := fun packetId index total byte =>
    krsFrameCreate (fragmentFrame 10 .basicMessage packetId 0 index total
      [byte]) kronosBufferSize
  [.feed (fragment 1 0 3 7) 5 true, .feed (fragment 1 2 3 8) 6 true,
    .feed (fragment 1 0 3 7) 6 true, .feed (fragment 2 0 2 9) 7 false,
    .sweepStale 9 30]

/-- The run leaves one session with two pieces. -/
theorem three_piece_run_within_limits :
    let start : TimedReassembler :=
      { reassembler := krsReassemblerCreate, clock := 5 }
    RunAllowed sessionStep SessionAllowed start threePieceRun ∧
      ∃ current, run sessionStep start threePieceRun = some current ∧
        current.reassembler.sessions.map FragmentSession.received = [2] ∧
        WithinLimits current.reassembler := by
  intro start
  have allowed : RunAllowed sessionStep SessionAllowed start
      threePieceRun := by
    decide +kernel
  have received : (run sessionStep start threePieceRun).map (fun current =>
      current.reassembler.sessions.map FragmentSession.received) =
        some [2] := by
    decide +kernel
  obtain ⟨current, reached, limits, -⟩ := reassembler_run_within_limits 5
    threePieceRun allowed
  rw [reached] at received
  exact ⟨allowed, current, reached, Option.some.inj received, limits⟩

end Kronos
