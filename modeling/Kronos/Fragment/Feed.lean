import Kronos.Fragment.Session
import Kronos.Library.KeyedList

/-!
# One call of the reassembler

`feed_cases` lists what a call of `krsReassemblerFeed` can do to a reassembler
that satisfies its invariant.  The sessions are read as a finite map from
packet ids; a call touches only the session of its own packet.
-/

namespace Kronos

open Library

/-- The open session of a packet id. -/
def Reassembler.session (reassembler : Reassembler) (packetId : UInt64) :
    Option FragmentSession :=
  lookup FragmentSession.packetId reassembler.sessions packetId

/-- Sessions are open, and there is at most one for a packet id. -/
structure ReassemblerInvariant (reassembler : Reassembler) : Prop where
  opened : ∀ session ∈ reassembler.sessions, OpenSession session
  distinct : DistinctKeys FragmentSession.packetId reassembler.sessions

theorem krsReassemblerCreate_invariant :
    ReassemblerInvariant krsReassemblerCreate where
  opened := by simp [krsReassemblerCreate]
  distinct := by simp [DistinctKeys, krsReassemblerCreate]

theorem ReassemblerInvariant.openSession_of_session
    {reassembler : Reassembler}
    (invariant : ReassemblerInvariant reassembler)
    {packetId : UInt64}
    {session : FragmentSession}
    (found : reassembler.session packetId = some session) :
    OpenSession session :=
  invariant.opened session (lookup_mem found)

theorem Reassembler.session_packetId
    {reassembler : Reassembler}
    {packetId : UInt64}
    {session : FragmentSession}
    (found : reassembler.session packetId = some session) :
    session.packetId = packetId :=
  lookup_key found

/-! ## Looking the session up -/

theorem findSession_eq_none_iff
    {reassembler : Reassembler}
    {packetId : UInt64} :
    findSession reassembler packetId = none ↔
      reassembler.session packetId = none := by
  simp [findSession, Reassembler.session, lookup]

theorem findSession_eq_some
    {reassembler : Reassembler}
    {packetId : UInt64}
    {slot : Nat}
    (found : findSession reassembler packetId = some slot) :
    ∃ session, reassembler.sessions[slot]? = some session ∧
      reassembler.session packetId = some session := by
  obtain ⟨inside, tested, earlier⟩ :=
    List.findIdx?_eq_some_iff_getElem.mp found
  refine ⟨reassembler.sessions[slot], List.getElem?_eq_getElem inside, ?_⟩
  apply List.find?_eq_some_iff_getElem.mpr
  exact ⟨tested, slot, inside, rfl, fun position below => by
    simpa using earlier position below⟩

/-- The session a fragment is added to: the open one, or a new one. -/
def Reassembler.sessionFor
    (reassembler : Reassembler)
    (fragment : Frame)
    (now : UInt64) : FragmentSession :=
  (reassembler.session fragment.packetId).getD
    (newSession fragment.packetId fragment.metadata.fragmentTotal.toNat now)

/-- A fragment gets as far as its session: it is well-formed, and its session
is open or can be opened. -/
structure Admitted
    (reassembler : Reassembler)
    (fragment : Frame)
    (allocated : Bool) : Prop where
  flagged : hasFlag fragment.presenceFlags .fragmentInfo = true
  valid : validFragment fragment = true
  fits : fragment.body.length ≤ krsMaxPayloadPerFragment
  room : reassembler.session fragment.packetId = none ->
    reassembler.sessions.length < krsMaxReassemblySessions ∧
      allocated = true

/-- The session of an admitted fragment, with the fragment's own
`ACK_REQUIRED` flag added. -/
def Reassembler.flaggedSession
    (reassembler : Reassembler)
    (fragment : Frame)
    (now : UInt64) : FragmentSession :=
  let session := reassembler.sessionFor fragment now
  { session with
    ackRequired := session.ackRequired ||
      hasFlag fragment.presenceFlags .ackRequired }

/-- A valid fragment has an index below its own total, and a small total. -/
theorem validFragment_iff (fragment : Frame) :
    validFragment fragment = true ↔
      fragment.metadata.fragmentIndex.toNat <
          fragment.metadata.fragmentTotal.toNat ∧
        fragment.metadata.fragmentTotal.toNat ≤ krsMaxFragmentsPerPacket := by
  simp only [validFragment, Bool.not_eq_true', Bool.or_eq_false_iff,
    beq_eq_false_iff_ne, decide_eq_false_iff_not]
  omega

/-- An admitted fragment is handled on a reassembler whose session list holds
its session at a known position. -/
structure OpenedAt
    (reassembler : Reassembler)
    (fragment : Frame)
    (now : UInt64)
    (opened : Reassembler)
    (slot : Nat) : Prop where
  present :
    opened.sessions[slot]? = some (reassembler.sessionFor fragment now)
  distinct : DistinctKeys FragmentSession.packetId opened.sessions
  packetId :
    (reassembler.sessionFor fragment now).packetId = fragment.packetId
  shape : SessionShape (reassembler.sessionFor fragment now)
  others : ∀ packetId, packetId ≠ fragment.packetId ->
    opened.session packetId = reassembler.session packetId
  sessions : ∀ session ∈ opened.sessions,
    session.packetId ≠ fragment.packetId -> session ∈ reassembler.sessions
  size : opened.sessions.length ≤ reassembler.sessions.length + 1

theorem openSession_of_admitted
    {reassembler : Reassembler}
    {fragment : Frame}
    {allocated : Bool}
    (invariant : ReassemblerInvariant reassembler)
    (admitted : Admitted reassembler fragment allocated)
    (now : UInt64) :
    ∃ opened slot,
      openSession reassembler fragment.packetId
          fragment.metadata.fragmentTotal.toNat now allocated =
        .ok (opened, slot) ∧
      OpenedAt reassembler fragment now opened slot := by
  cases found : findSession reassembler fragment.packetId with
  | some slot =>
      obtain ⟨session, present, lookedUp⟩ := findSession_eq_some found
      have same : reassembler.sessionFor fragment now = session := by
        rw [Reassembler.sessionFor, lookedUp, Option.getD_some]
      refine ⟨reassembler, slot, by rw [openSession, found], ?_⟩
      exact
        { present := by rw [same]; exact present
          distinct := invariant.distinct
          packetId := by rw [same]; exact Reassembler.session_packetId lookedUp
          shape := by
            rw [same]
            exact (invariant.openSession_of_session lookedUp).toSessionShape
          others := fun _ _ => rfl
          sessions := fun _ member _ => member
          size := Nat.le_succ _ }
  | none =>
      have absent := findSession_eq_none_iff.mp found
      obtain ⟨space, granted⟩ := admitted.room absent
      have same : reassembler.sessionFor fragment now =
          newSession fragment.packetId
            fragment.metadata.fragmentTotal.toNat now := by
        rw [Reassembler.sessionFor, absent, Option.getD_none]
      refine ⟨{ sessions := reassembler.sessions ++
          [newSession fragment.packetId
            fragment.metadata.fragmentTotal.toNat now] },
        reassembler.sessions.length, ?_, ?_⟩
      · rw [openSession, found]
        simp only [granted, Bool.not_true, Bool.false_eq_true, if_false]
        rw [if_neg (by omega)]
      · exact
          { present := by rw [same]; simp
            distinct := invariant.distinct.append absent
            packetId := by rw [same]; rfl
            shape := by rw [same]; exact newSession_shape _ _ _
            others := fun packetId different => lookup_append_other different
            sessions := by
              intro session member different
              rcases List.mem_append.mp member with old | new
              · exact old
              · rw [List.mem_singleton] at new
                subst new
                exact absurd rfl different
            size := by simp }

/-! ## The effect of a call -/

/-- The fragment index of a frame. -/
abbrev Frame.index (fragment : Frame) : Nat :=
  fragment.metadata.fragmentIndex.toNat

/-- What an admitted fragment inside its session does to that session. -/
inductive FeedStep
    (reassembler : Reassembler)
    (fragment : Frame)
    (now : UInt64)
    (next : Reassembler) : ReassembleResult -> Prop
  | duplicate
      (received : (reassembler.flaggedSession fragment
        now).pieceReceived[fragment.index]? = some true)
      (session : next.session fragment.packetId =
        some (reassembler.flaggedSession fragment now)) :
      FeedStep reassembler fragment now next { base := .suc }
  | stored
      (stored : FragmentSession)
      (missing : (reassembler.flaggedSession fragment
        now).pieceReceived[fragment.index]? = some false)
      (piece : StoredPiece (reassembler.flaggedSession fragment now)
        fragment.index fragment.body stored)
      (incomplete : stored.received < stored.total)
      (session : next.session fragment.packetId = some stored) :
      FeedStep reassembler fragment now next { base := .suc }
  | completed
      (stored : FragmentSession)
      (result : ReassembleResult)
      (missing : (reassembler.flaggedSession fragment
        now).pieceReceived[fragment.index]? = some false)
      (piece : StoredPiece (reassembler.flaggedSession fragment now)
        fragment.index fragment.body stored)
      (full : stored.received = stored.total)
      (outcome : completeSession stored = some result)
      (session : next.session fragment.packetId = none) :
      FeedStep reassembler fragment now next result

/-- The whole effect of an admitted fragment: one session moves. -/
structure FeedEffect
    (reassembler : Reassembler)
    (fragment : Frame)
    (now : UInt64)
    (next : Reassembler)
    (result : ReassembleResult) : Prop where
  step : FeedStep reassembler fragment now next result
  others : ∀ packetId, packetId ≠ fragment.packetId ->
    next.session packetId = reassembler.session packetId
  invariant : ReassemblerInvariant next

/-- Raising the `ACK_REQUIRED` flag of a session keeps its shape. -/
theorem Reassembler.flaggedSession_shape
    {reassembler : Reassembler}
    {fragment : Frame}
    {now : UInt64}
    (shape : SessionShape (reassembler.sessionFor fragment now)) :
    SessionShape (reassembler.flaggedSession fragment now) where
  pieceSize := shape.pieceSize
  bufferLength := shape.bufferLength
  sizesLength := shape.sizesLength
  flagsLength := shape.flagsLength
  sizesBounded := shape.sizesBounded
  receivedCount := shape.receivedCount

/-- An admitted fragment is handed to the session it was opened for. -/
theorem feed_eq_feedSession
    {reassembler opened : Reassembler}
    {fragment : Frame}
    {now : UInt64}
    {allocated : Bool}
    {slot : Nat}
    (admitted : Admitted reassembler fragment allocated)
    (found : openSession reassembler fragment.packetId
      fragment.metadata.fragmentTotal.toNat now allocated =
        .ok (opened, slot)) :
    krsReassemblerFeed reassembler fragment now allocated =
      feedSession opened slot fragment := by
  have notOversized := admitted.fits
  rw [krsReassemblerFeed, admitted.flagged, admitted.valid, found]
  simp only [Bool.not_true, Bool.false_eq_true, if_false]
  rw [if_neg (by omega)]

/-- An index at or past the session's total is an access outside its
arrays. -/
theorem feed_eq_none
    {reassembler : Reassembler}
    {fragment : Frame}
    {allocated : Bool}
    (invariant : ReassemblerInvariant reassembler)
    (admitted : Admitted reassembler fragment allocated)
    (now : UInt64)
    (outside :
      (reassembler.sessionFor fragment now).total ≤ fragment.index) :
    krsReassemblerFeed reassembler fragment now allocated = none := by
  obtain ⟨opened, slot, found, located⟩ :=
    openSession_of_admitted invariant admitted now
  have flagOutside : (reassembler.sessionFor fragment
      now).pieceReceived[fragment.index]? = none := by
    rw [List.getElem?_eq_none_iff, located.shape.flagsLength]
    exact outside
  rw [feed_eq_feedSession admitted found, feedSession, located.present,
    Option.bind_some, feedPiece]
  simp only [flagOutside, Option.bind_none]

/-- A position holding the fragment's session can be reassigned under the same
packet id: the other sessions stay, and the invariant follows once the new
session is open. -/
theorem OpenedAt.reassign
    {reassembler opened : Reassembler}
    {fragment : Frame}
    {now : UInt64}
    {slot : Nat}
    {session : FragmentSession}
    (located : OpenedAt reassembler fragment now opened slot)
    (invariant : ReassemblerInvariant reassembler)
    (samePacket : session.packetId = fragment.packetId)
    (isOpen : OpenSession session) :
    let next : Reassembler := { sessions := opened.sessions.set slot session }
    next.session fragment.packetId = some session ∧
      (∀ packetId, packetId ≠ fragment.packetId ->
        next.session packetId = reassembler.session packetId) ∧
      ReassemblerInvariant next := by
  have sameKey : session.packetId =
      (reassembler.sessionFor fragment now).packetId :=
    samePacket.trans located.packetId.symm
  refine ⟨?_, ?_, ?_⟩
  · have self := located.distinct.lookup_set_self located.present sameKey
    rwa [located.packetId] at self
  · intro packetId different
    have other := located.distinct.lookup_set_other located.present sameKey
      (show packetId ≠ _ by rw [located.packetId]; exact different)
    exact other.trans (located.others packetId different)
  · refine ⟨?_, located.distinct.set located.present sameKey⟩
    intro current member
    rcases (located.distinct.mem_set_iff located.present sameKey).mp member with
      equal | ⟨old, different⟩
    · rw [equal]
      exact isOpen
    · rw [located.packetId] at different
      exact invariant.opened current (located.sessions current old different)

/-- A position holding the fragment's session can be reassigned and then
removed. -/
theorem OpenedAt.remove
    {reassembler opened : Reassembler}
    {fragment : Frame}
    {now : UInt64}
    {slot : Nat}
    {session : FragmentSession}
    (located : OpenedAt reassembler fragment now opened slot)
    (invariant : ReassemblerInvariant reassembler)
    (samePacket : session.packetId = fragment.packetId) :
    let next := removeSession
      { sessions := opened.sessions.set slot session } fragment.packetId
    next.session fragment.packetId = none ∧
      (∀ packetId, packetId ≠ fragment.packetId ->
        next.session packetId = reassembler.session packetId) ∧
      ReassemblerInvariant next := by
  have sameKey : session.packetId =
      (reassembler.sessionFor fragment now).packetId :=
    samePacket.trans located.packetId.symm
  have distinct := located.distinct.set located.present sameKey
  refine ⟨distinct.lookup_erase_self fragment.packetId, ?_, ?_⟩
  · intro packetId different
    have erased := distinct.lookup_erase_other different
    have other := located.distinct.lookup_set_other located.present sameKey
      (show packetId ≠ _ by rw [located.packetId]; exact different)
    exact erased.trans (other.trans (located.others packetId different))
  · refine ⟨?_, distinct.erase fragment.packetId⟩
    intro current member
    obtain ⟨kept, different⟩ := distinct.mem_erase_iff.mp member
    rcases (located.distinct.mem_set_iff located.present sameKey).mp kept with
      equal | ⟨old, -⟩
    · rw [equal] at different
      exact absurd samePacket different
    · exact invariant.opened current (located.sessions current old different)

/-- All flags of a session are set once its counter reaches its total. -/
theorem piece_isSome_of_full
    {session : FragmentSession}
    (shape : SessionShape session)
    (full : session.received = session.total)
    {index : Nat}
    (inside : index < session.total) :
    session.pieceReceived[index]? = some true := by
  have counted : session.pieceReceived.count true =
      session.pieceReceived.length := by
    rw [← shape.receivedCount, full, shape.flagsLength]
  have flagInside : index < session.pieceReceived.length := by
    rw [shape.flagsLength]
    exact inside
  rw [List.getElem?_eq_getElem flagInside]
  congr 1
  exact (List.count_eq_length.mp counted _ (List.getElem_mem flagInside)).symm

/-- A full session always hands out a result: compaction stays inside. -/
theorem completeSession_isSome
    {session : FragmentSession}
    (shape : SessionShape session)
    (full : session.received = session.total) :
    ∃ result, completeSession session = some result ∧
      result.complete = true := by
  let chunks := (List.range session.total).filterMap session.piece
  have pieces : ∀ index < session.total, ∃ payload,
      session.piece index = some payload := by
    intro index inside
    rw [FragmentSession.piece,
      if_pos (piece_isSome_of_full shape full inside)]
    exact ⟨_, rfl⟩
  have table : (List.range session.total).map session.piece =
      chunks.map some := by
    rw [List.map_filterMap_some_eq_filter_map_isSome]
    refine (List.filter_eq_self.mpr ?_).symm
    intro piece member
    obtain ⟨index, inside, rfl⟩ := List.mem_map.mp member
    obtain ⟨payload, stored⟩ := pieces index (List.mem_range.mp inside)
    rw [stored]
    rfl
  have count : chunks.length = session.total := by
    have lengths := congrArg List.length table
    simpa using lengths.symm
  have full : ∀ index, session.piece index = chunks[index]? := by
    intro index
    by_cases inside : index < session.total
    · have entry := congrArg (fun list => list[index]?) table
      simp only [List.getElem?_map, List.getElem?_range inside,
        Option.map_some] at entry
      cases present : chunks[index]? with
      | none =>
          rw [present] at entry
          cases entry
      | some chunk =>
          rw [present] at entry
          simpa using entry
    · have outside : chunks[index]? = none := by
        rw [List.getElem?_eq_none_iff]
        omega
      rw [outside]
      apply FragmentSession.piece_of_missing
      rw [List.getElem?_eq_none_iff.mpr (by rw [shape.flagsLength]; omega)]
      simp
  obtain ⟨buffer, completed, -⟩ := completeSession_spec shape full count
  exact ⟨_, completed, rfl⟩

/-- An admitted fragment whose index its session covers has a defined
effect. -/
theorem feed_of_admitted
    {reassembler : Reassembler}
    {fragment : Frame}
    {allocated : Bool}
    (invariant : ReassemblerInvariant reassembler)
    (admitted : Admitted reassembler fragment allocated)
    (now : UInt64)
    (inside :
      fragment.index < (reassembler.sessionFor fragment now).total) :
    ∃ next result,
      krsReassemblerFeed reassembler fragment now allocated =
        some (next, result) ∧
      FeedEffect reassembler fragment now next result := by
  obtain ⟨opened, slot, found, located⟩ :=
    openSession_of_admitted invariant admitted now
  have shape := Reassembler.flaggedSession_shape located.shape
  have flagInside : fragment.index < (reassembler.flaggedSession fragment
      now).pieceReceived.length := by
    rw [shape.flagsLength]
    exact inside
  have wasOpen : (reassembler.sessionFor fragment now).received <
      (reassembler.sessionFor fragment now).total := by
    unfold Reassembler.sessionFor at inside ⊢
    cases lookedUp : reassembler.session fragment.packetId with
    | none =>
        rw [lookedUp, Option.getD_none] at inside
        exact Nat.zero_lt_of_lt inside
    | some session =>
        exact (invariant.openSession_of_session lookedUp).incomplete
  have flaggedOpen : OpenSession (reassembler.flaggedSession fragment now) :=
    { toSessionShape := shape, incomplete := wasOpen }
  have samePacket : (reassembler.flaggedSession fragment now).packetId =
      fragment.packetId := located.packetId
  rw [feed_eq_feedSession admitted found, feedSession, located.present,
    Option.bind_some]
  change ∃ next result,
    feedPiece opened slot (reassembler.flaggedSession fragment now) fragment =
        some (next, result) ∧
      FeedEffect reassembler fragment now next result
  rw [feedPiece]
  cases received : (reassembler.flaggedSession fragment
      now).pieceReceived[fragment.index]? with
  | none =>
      rw [List.getElem?_eq_none_iff] at received
      omega
  | some duplicate =>
      rw [Option.bind_some]
      cases duplicate with
      | true =>
          obtain ⟨session, others, next⟩ :=
            located.reassign invariant samePacket flaggedOpen
          refine ⟨_, _, rfl, ?_⟩
          exact
            { step := .duplicate received session
              others := others
              invariant := next }
      | false =>
          obtain ⟨stored, written, piece⟩ :=
            storePiece_spec shape admitted.fits received
          have storedPacket : stored.packetId = fragment.packetId :=
            piece.packetId.trans samePacket
          simp only [Bool.false_eq_true, if_false, written, Option.bind_some]
          by_cases incomplete : stored.received < stored.total
          · obtain ⟨session, others, next⟩ := located.reassign invariant
              storedPacket
              { toSessionShape := piece.shape, incomplete := incomplete }
            rw [if_pos incomplete]
            refine ⟨_, _, rfl, ?_⟩
            exact
              { step := .stored stored received piece incomplete session
                others := others
                invariant := next }
          · have full : stored.received = stored.total := by
              have storedReceived := piece.received
              have storedTotal := piece.total
              have before := flaggedOpen.incomplete
              omega
            obtain ⟨result, outcome, -⟩ :=
              completeSession_isSome piece.shape full
            obtain ⟨session, others, next⟩ :=
              located.remove invariant storedPacket
            rw [if_neg incomplete, outcome]
            refine ⟨_, _, rfl, ?_⟩
            exact
              { step := .completed stored result received piece full outcome
                  session
                others := others
                invariant := next }

end Kronos
