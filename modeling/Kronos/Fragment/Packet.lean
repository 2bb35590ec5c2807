import Kronos.Fragment.Run
import Kronos.Library.KeyedRun

/-!
# What a reassembler does for one packet

The reassembler is meant to treat packet ids independently.  `packetStep` says
what happens to one of them: the fragments of a packet are collected until
every index has come, and then the payload is the concatenation, in index
order, of the first payload that came for each index.
`reassembler_results_by_packet` says that the sessions of a reassembler, their
buffers and their compaction amount to just that.
-/

namespace Kronos

open Library

/-! ## The packet alone -/

/-- The total that a fragment announces. -/
abbrev Frame.total (fragment : Frame) : Nat :=
  fragment.metadata.fragmentTotal.toNat

/-- The fragment asks for an acknowledgement. -/
def asksForAck (fragment : Frame) : Bool :=
  hasFlag fragment.presenceFlags .ackRequired

/-- The first payload that came for an index. -/
def firstPayload (history : List Frame) (index : Nat) :
    Option (List UInt8) :=
  (history.find? fun fragment => fragment.index == index).map Frame.body

/-- The first payloads of all indexes, in index order. -/
def collected (history : List Frame) (total : Nat) : List (List UInt8) :=
  (List.range total).map fun index =>
    (firstPayload history index).getD []

/-- What a caller sees of a result: the payload is the first `dataLength` bytes
of the memory it is handed. -/
structure Outcome where
  base : KronosResult
  complete : Bool
  payload : List UInt8
  dataLength : Nat
  ackRequired : Bool
  deriving DecidableEq, Repr

/-- A result as its caller sees it. -/
def ReassembleResult.outcome (result : ReassembleResult) : Outcome :=
  { base := result.base
    complete := result.complete
    payload := result.data.take result.dataLength
    dataLength := result.dataLength
    ackRequired := result.ackRequired }

/-- The outcome of a call that does not complete a packet. -/
def Outcome.pending (base : KronosResult) : Outcome :=
  { base := base
    complete := false
    payload := []
    dataLength := 0
    ackRequired := false }

/-- A packet of which these fragments have come is complete when there is a
payload for every index. -/
def packetCollect (seen : List Frame) (total : Nat) :
    List Frame × Outcome :=
  if ∀ index < total, (firstPayload seen index).isSome then
    ([],
      { base := .suc
        complete := true
        payload := (collected seen total).flatten
        dataLength := (collected seen total).flatten.length
        ackRequired := seen.any asksForAck })
  else (seen, .pending .suc)

/-- One fragment of a packet.  The state is the fragments that came since the
last completion, the oldest first. -/
def packetStep (history : List Frame) (fragment : Frame) :
    List Frame × Outcome :=
  if !validFragment fragment then
    (history, .pending (.wMsg .invalidParameter
      "invalid fragment index/total or exceeds max"))
  else if fragment.body.length > krsMaxPayloadPerFragment then
    (history, .pending (.wMsg .fragmentPayloadOversized
      "fragment payload exceeds per-fragment maximum"))
  else packetCollect (history ++ [fragment]) fragment.total

/-! ## The session of a packet -/

/-- A session stores what came for its packet. -/
structure Stores (session : FragmentSession) (history : List Frame) :
    Prop where
  pieces : ∀ index, session.piece index = firstPayload history index
  totals : ∀ fragment ∈ history, fragment.total = session.total
  ackRequired : session.ackRequired = history.any asksForAck

theorem firstPayload_append
    (history : List Frame)
    (fragment : Frame)
    (index : Nat) :
    firstPayload (history ++ [fragment]) index =
      (firstPayload history index).or
        (if fragment.index = index then some fragment.body else none) := by
  unfold firstPayload
  rw [List.find?_append]
  cases history.find? fun fragment => fragment.index == index with
  | some earlier => rfl
  | none =>
      by_cases here : fragment.index = index
      · simp [here]
      · simp [here]

/-- A new session has stored nothing. -/
theorem newSession_stores (packetId : UInt64) (total : Nat) (now : UInt64) :
    Stores (newSession packetId total now) [] where
  pieces := by
    intro index
    rw [newSession_piece]
    rfl
  totals := by
    intro fragment member
    cases member
  ackRequired := rfl

/-- The pieces of a session are all there when its counter is full. -/
theorem Stores.full_iff
    {session : FragmentSession}
    {history : List Frame}
    (stores : Stores session history)
    (shape : SessionShape session) :
    session.received = session.total ↔
      ∀ index < session.total, (firstPayload history index).isSome := by
  have flags : ∀ index, session.pieceReceived[index]? = some true ↔
      (firstPayload history index).isSome := by
    intro index
    rw [← stores.pieces, FragmentSession.piece]
    split
    case isTrue received => simp [received]
    case isFalse missing => simp [missing]
  constructor
  · intro full index inside
    exact (flags index).mp (piece_isSome_of_full shape full inside)
  · intro all
    rw [shape.receivedCount, ← shape.flagsLength, List.count_eq_length]
    intro flag member
    obtain ⟨index, present⟩ := List.mem_iff_getElem?.mp member
    obtain ⟨inside, -⟩ := List.getElem?_eq_some_iff.mp present
    rw [shape.flagsLength] at inside
    have received := (flags index).mpr (all index inside)
    rw [received] at present
    exact Option.some.inj present

/-- A session that stores another fragment, up to its payload: the pieces are
those of the longer history, and the flag of the fragment is added. -/
theorem Stores.more
    {session next : FragmentSession}
    {history : List Frame}
    {fragment : Frame}
    (stores : Stores session history)
    (total : fragment.total = session.total)
    (sameTotal : next.total = session.total)
    (ackRequired : next.ackRequired =
      (session.ackRequired || asksForAck fragment))
    (pieces : ∀ index, next.piece index = (session.piece index).or
      (if fragment.index = index then some fragment.body else none)) :
    Stores next (history ++ [fragment]) where
  pieces := by
    intro index
    rw [pieces, stores.pieces, firstPayload_append]
  totals := by
    intro other member
    rw [sameTotal]
    rcases List.mem_append.mp member with earlier | last
    · exact stores.totals other earlier
    · rw [List.mem_singleton.mp last]
      exact total
  ackRequired := by
    rw [ackRequired, stores.ackRequired]
    simp

/-- The session of a fragment, once its own flag is added. -/
theorem flaggedSession_piece
    (reassembler : Reassembler)
    (fragment : Frame)
    (now : UInt64)
    (index : Nat) :
    (reassembler.flaggedSession fragment now).piece index =
      (reassembler.sessionFor fragment now).piece index := rfl

/-- A duplicate changes nothing but the flag. -/
theorem Stores.duplicate
    {reassembler : Reassembler}
    {history : List Frame}
    {fragment : Frame}
    {now : UInt64}
    (stores : Stores (reassembler.sessionFor fragment now) history)
    (total : fragment.total = (reassembler.sessionFor fragment now).total)
    (received : (reassembler.flaggedSession fragment
      now).pieceReceived[fragment.index]? = some true) :
    Stores (reassembler.flaggedSession fragment now)
      (history ++ [fragment]) := by
  refine stores.more total rfl rfl ?_
  intro index
  rw [flaggedSession_piece]
  by_cases here : fragment.index = index
  · subst here
    have known : (reassembler.sessionFor fragment
        now).pieceReceived[fragment.index]? = some true := received
    rw [FragmentSession.piece, if_pos known]
    rfl
  · rw [if_neg here, Option.or_none]

/-- A new piece is stored. -/
theorem Stores.stored
    {reassembler : Reassembler}
    {history : List Frame}
    {fragment : Frame}
    {now : UInt64}
    {stored : FragmentSession}
    (stores : Stores (reassembler.sessionFor fragment now) history)
    (total : fragment.total = (reassembler.sessionFor fragment now).total)
    (missing : (reassembler.flaggedSession fragment
      now).pieceReceived[fragment.index]? = some false)
    (piece : StoredPiece (reassembler.flaggedSession fragment now)
      fragment.index fragment.body stored) :
    Stores stored (history ++ [fragment]) := by
  refine stores.more total piece.total piece.ackRequired ?_
  intro index
  rw [← flaggedSession_piece]
  by_cases here : fragment.index = index
  · subst here
    have absent : (reassembler.flaggedSession fragment now).piece
        fragment.index = none :=
      FragmentSession.piece_of_missing (by rw [missing]; simp)
    rw [piece.pieceSelf, absent, if_pos rfl]
    rfl
  · rw [piece.pieceOther index (Ne.symm here), if_neg here, Option.or_none]

/-- A full session hands out the collected payloads. -/
theorem Stores.complete
    {session : FragmentSession}
    {history : List Frame}
    (stores : Stores session history)
    (shape : SessionShape session)
    (full : session.received = session.total) :
    ∃ buffer, completeSession session =
        some { base := .suc
               complete := true
               data := buffer
               dataLength :=
                 (collected history session.total).flatten.length
               ackRequired := history.any asksForAck } ∧
      buffer.take (collected history session.total).flatten.length =
        (collected history session.total).flatten := by
  have all := (stores.full_iff shape).mp full
  have count : (collected history session.total).length = session.total := by
    simp [collected]
  have pieces : ∀ index, session.piece index =
      (collected history session.total)[index]? := by
    intro index
    rw [stores.pieces]
    by_cases inside : index < session.total
    · obtain ⟨payload, known⟩ := Option.isSome_iff_exists.mp
        (all index inside)
      simp [collected, inside, known]
    · have absent : session.piece index = none := by
        apply FragmentSession.piece_of_missing
        rw [List.getElem?_eq_none_iff.mpr (by rw [shape.flagsLength]; omega)]
        simp
      rw [← stores.pieces, absent,
        List.getElem?_eq_none_iff.mpr (by rw [count]; omega)]
  rw [← stores.ackRequired]
  exact completeSession_spec shape pieces count

/-! ## One call -/

/-- The sessions of a reassembler store what came for their packets, and
nothing came for a packet without a session since its last completion. -/
structure Sessions
    (reassembler : Reassembler)
    (histories : UInt64 -> List Frame) : Prop where
  invariant : ReassemblerInvariant reassembler
  absent : ∀ packetId, reassembler.session packetId = none ->
    histories packetId = []
  stores : ∀ packetId session,
    reassembler.session packetId = some session ->
      Stores session (histories packetId)

/-- The side conditions of a call: the frame is a fragment, it announces the
total of the open session that it meets, and the session limit is not hit. -/
structure MeetsEqualTotal
    (reassembler : Reassembler)
    (arrival : Frame × UInt64) : Prop where
  flagged : hasFlag arrival.1.presenceFlags .fragmentInfo = true
  total : ∀ session, reassembler.session arrival.1.packetId = some session ->
    validFragment arrival.1 = true -> arrival.1.total = session.total
  room : reassembler.session arrival.1.packetId = none ->
    reassembler.sessions.length < krsMaxReassemblySessions

theorem meetsEqualTotal_iff
    (reassembler : Reassembler)
    (arrival : Frame × UInt64) :
    MeetsEqualTotal reassembler arrival ↔
      hasFlag arrival.1.presenceFlags .fragmentInfo = true ∧
        match reassembler.session arrival.1.packetId with
        | none => reassembler.sessions.length < krsMaxReassemblySessions
        | some session =>
            validFragment arrival.1 = true ->
              arrival.1.total = session.total := by
  constructor
  · rintro ⟨flagged, total, room⟩
    refine ⟨flagged, ?_⟩
    split
    case h_1 absent => exact room absent
    case h_2 session present => exact total session present
  · rintro ⟨flagged, condition⟩
    refine ⟨flagged, ?_, ?_⟩
    · intro session present
      rw [present] at condition
      exact condition
    · intro absent
      rw [absent] at condition
      exact condition

instance meetsEqualTotalDecidable
    (reassembler : Reassembler)
    (arrival : Frame × UInt64) :
    Decidable (MeetsEqualTotal reassembler arrival) :=
  match found : reassembler.session arrival.1.packetId with
  | none =>
      decidable_of_iff
        (hasFlag arrival.1.presenceFlags .fragmentInfo = true ∧
          reassembler.sessions.length < krsMaxReassemblySessions)
        (by rw [meetsEqualTotal_iff, found])
  | some session =>
      decidable_of_iff
        (hasFlag arrival.1.presenceFlags .fragmentInfo = true ∧
          (validFragment arrival.1 = true ->
            arrival.1.total = session.total))
        (by rw [meetsEqualTotal_iff, found])

/-- A call of `krs_reassembler_feed` at a time, with the memory there. -/
def feedAt (reassembler : Reassembler) (arrival : Frame × UInt64) :
    Option (Reassembler × ReassembleResult) :=
  krsReassemblerFeed reassembler arrival.1 arrival.2 true

theorem Sessions.sessionFor
    {reassembler : Reassembler}
    {histories : UInt64 -> List Frame}
    (sessions : Sessions reassembler histories)
    {arrival : Frame × UInt64}
    (meets : MeetsEqualTotal reassembler arrival)
    (valid : validFragment arrival.1 = true) :
    Stores (reassembler.sessionFor arrival.1 arrival.2)
        (histories arrival.1.packetId) ∧
      arrival.1.total = (reassembler.sessionFor arrival.1 arrival.2).total := by
  unfold Reassembler.sessionFor
  cases lookedUp : reassembler.session arrival.1.packetId with
  | none =>
      rw [sessions.absent _ lookedUp]
      exact ⟨newSession_stores _ _ _, rfl⟩
  | some session =>
      exact ⟨sessions.stores _ session lookedUp,
        meets.total session lookedUp valid⟩

/-- The histories after a call follow the sessions after it. -/
theorem Sessions.update
    {reassembler next : Reassembler}
    {histories : UInt64 -> List Frame}
    (sessions : Sessions reassembler histories)
    {packetId : UInt64}
    (others : ∀ other, other ≠ packetId ->
      next.session other = reassembler.session other)
    (invariant : ReassemblerInvariant next)
    {history : List Frame}
    (absent : next.session packetId = none -> history = [])
    (stores : ∀ session, next.session packetId = some session ->
      Stores session history) :
    Sessions next (Function.update histories packetId history) where
  invariant := invariant
  absent := by
    intro other missing
    by_cases here : other = packetId
    · subst here
      rw [Function.update_self]
      exact absent missing
    · rw [Function.update_of_ne here]
      rw [others other here] at missing
      exact sessions.absent other missing
  stores := by
    intro other session present
    by_cases here : other = packetId
    · subst here
      rw [Function.update_self]
      exact stores session present
    · rw [Function.update_of_ne here]
      rw [others other here] at present
      exact sessions.stores other session present

/-- What the session of a packet says of its completion. -/
theorem Stores.packetCollect_of_open
    {session : FragmentSession}
    {seen : List Frame}
    (stores : Stores session seen)
    (isOpen : OpenSession session) :
    packetCollect seen session.total = (seen, .pending .suc) := by
  rw [packetCollect, if_neg]
  intro all
  have full := (stores.full_iff isOpen.toSessionShape).mpr all
  have incomplete := isOpen.incomplete
  omega

/-- The sessions after a call that keeps the session of its packet open. -/
theorem Sessions.keep
    {reassembler next : Reassembler}
    {histories : UInt64 -> List Frame}
    (sessions : Sessions reassembler histories)
    {packetId : UInt64}
    (others : ∀ other, other ≠ packetId ->
      next.session other = reassembler.session other)
    (invariant : ReassemblerInvariant next)
    {session : FragmentSession}
    (present : next.session packetId = some session)
    {seen : List Frame}
    (stores : Stores session seen) :
    Sessions next (Function.update histories packetId seen) := by
  refine sessions.update others invariant ?_ ?_
  · intro absent
    rw [present] at absent
    cases absent
  · intro other found
    rw [present] at found
    cases found
    exact stores

/-- A fragment that its session takes. -/
theorem feedAt_of_taken
    {reassembler : Reassembler}
    {histories : UInt64 -> List Frame}
    (sessions : Sessions reassembler histories)
    {arrival : Frame × UInt64}
    (meets : MeetsEqualTotal reassembler arrival)
    (valid : validFragment arrival.1 = true)
    (fits : arrival.1.body.length ≤ krsMaxPayloadPerFragment) :
    let collect := packetCollect
      (histories arrival.1.packetId ++ [arrival.1]) arrival.1.total
    ∃ next result, feedAt reassembler arrival = some (next, result) ∧
      Sessions next
        (Function.update histories arrival.1.packetId collect.1) ∧
      result.outcome = collect.2 := by
  obtain ⟨stores, total⟩ := sessions.sessionFor meets valid
  have admitted : Admitted reassembler arrival.1 true :=
    { flagged := meets.flagged
      valid := valid
      fits := fits
      room := fun absent => ⟨meets.room absent, rfl⟩ }
  obtain ⟨next, result, fed, effect⟩ := feed_of_admitted sessions.invariant
    admitted arrival.2 (by
      rw [← total]
      exact ((validFragment_iff _).mp valid).1)
  refine ⟨next, result, fed, ?_⟩
  cases effect.step with
  | duplicate received session =>
      have more := stores.duplicate total received
      have collect := more.packetCollect_of_open
        (effect.invariant.openSession_of_session session)
      have sameTotal : (reassembler.flaggedSession arrival.1
          arrival.2).total = arrival.1.total := total.symm
      rw [sameTotal] at collect
      rw [collect]
      exact ⟨sessions.keep effect.others effect.invariant session more, rfl⟩
  | stored stored missing piece incomplete session =>
      have more := stores.stored total missing piece
      have collect := more.packetCollect_of_open
        (effect.invariant.openSession_of_session session)
      rw [piece.total.trans total.symm] at collect
      rw [collect]
      exact ⟨sessions.keep effect.others effect.invariant session more, rfl⟩
  | completed stored result missing piece full outcome session =>
      have more := stores.stored total missing piece
      have all := (more.full_iff piece.shape).mp full
      obtain ⟨buffer, completed, payload⟩ := more.complete piece.shape full
      rw [completed] at outcome
      cases outcome
      rw [piece.total.trans total.symm] at all payload ⊢
      rw [packetCollect, if_pos all]
      refine ⟨sessions.update effect.others effect.invariant (fun _ => rfl)
        ?_, ?_⟩
      · intro other present
        rw [session] at present
        cases present
      · simp only [ReassembleResult.outcome, payload]

/-- A fragment that is refused before its session is looked up. -/
theorem feedAt_of_refused
    {reassembler : Reassembler}
    {arrival : Frame × UInt64}
    (flagged : hasFlag arrival.1.presenceFlags .fragmentInfo = true)
    (history : List Frame)
    (refused : ¬ (validFragment arrival.1 = true ∧
      arrival.1.body.length ≤ krsMaxPayloadPerFragment)) :
    ∃ result, feedAt reassembler arrival = some (reassembler, result) ∧
      packetStep history arrival.1 = (history, result.outcome) := by
  unfold feedAt krsReassemblerFeed packetStep
  rw [flagged]
  by_cases valid : validFragment arrival.1 = true
  · have oversized : arrival.1.body.length > krsMaxPayloadPerFragment :=
      Nat.not_le.mp fun fits => refused ⟨valid, fits⟩
    rw [valid]
    simp only [Bool.not_true, Bool.false_eq_true, if_false]
    rw [if_pos oversized, if_pos oversized]
    exact ⟨_, rfl, rfl⟩
  · rw [Bool.not_eq_true] at valid
    rw [valid]
    exact ⟨_, rfl, rfl⟩

/-- A call treats the packet of its fragment alone. -/
theorem feedAt_byKey :
    ByKey feedAt MeetsEqualTotal (fun arrival => arrival.1.packetId)
      (fun history arrival => packetStep history arrival.1)
      ReassembleResult.outcome Sessions := by
  intro reassembler histories arrival sessions meets
  dsimp only
  by_cases taken : validFragment arrival.1 = true ∧
      arrival.1.body.length ≤ krsMaxPayloadPerFragment
  · obtain ⟨valid, fits⟩ := taken
    have step : packetStep (histories arrival.1.packetId) arrival.1 =
        packetCollect (histories arrival.1.packetId ++ [arrival.1])
          arrival.1.total := by
      rw [packetStep, valid]
      simp only [Bool.not_true, Bool.false_eq_true, if_false]
      rw [if_neg (Nat.not_lt.mpr fits)]
    rw [step]
    exact feedAt_of_taken sessions meets valid fits
  · obtain ⟨result, fed, step⟩ := feedAt_of_refused meets.flagged
      (histories arrival.1.packetId) taken
    rw [step]
    refine ⟨reassembler, result, fed, ?_, rfl⟩
    rw [Function.update_eq_self]
    exact sessions

/-! ## Runs -/

/-- The results that a reassembler returns for a packet id are those of the
packet alone, fed with the fragments that carry its id. -/
theorem reassembler_results_by_packet
    (arrivals : List (Frame × UInt64))
    (allowed : RunAllowed
      (fun reassembler arrival => (feedAt reassembler arrival).map Prod.fst)
      MeetsEqualTotal krsReassemblerCreate arrivals) :
    ∃ final results,
      runOutputs feedAt krsReassemblerCreate arrivals =
        some (final, results) ∧
      ∀ packetId,
        (outputsOf (fun arrival => arrival.1.packetId) packetId arrivals
            results).map ReassembleResult.outcome =
          partOutputs (fun history arrival => packetStep history arrival.1) []
            (arrivals.filter fun arrival => arrival.1.packetId = packetId) :=
  runOutputs_byKey feedAt_byKey
    { invariant := krsReassemblerCreate_invariant
      absent := fun _ _ => rfl
      stores := by
        intro packetId session present
        cases present }
    allowed

/-- A fragment of one of two interleaved packets. -/
def pieceOf
    (packetId : UInt64)
    (index total : UInt16)
    (flags : UInt16)
    (body : List UInt8) : Frame × UInt64 :=
  ({ presenceFlags := MetadataFlag.fragmentInfo.mask ||| flags
     packetId := packetId
     metadata := { fragmentIndex := index, fragmentTotal := total }
     body := body }, 0)

/-- Two packets interleaved, one of them with an empty piece and a duplicate
that carries another payload. -/
def interleavedArrivals : List (Frame × UInt64) :=
  [pieceOf 1 2 3 0 [7], pieceOf 2 1 2 1 [9], pieceOf 1 0 3 0 [],
   pieceOf 1 2 3 1 [8], pieceOf 2 0 2 0 [5, 6], pieceOf 1 1 3 0 [3, 4]]

/-- The theorem at the two interleaved packets. -/
theorem interleaved_packets_results :
    ∃ final results,
      runOutputs feedAt krsReassemblerCreate interleavedArrivals =
        some (final, results) ∧
      (outputsOf (fun arrival => arrival.1.packetId) 1 interleavedArrivals
          results).map ReassembleResult.outcome =
        [.pending .suc, .pending .suc, .pending .suc,
          { base := .suc
            complete := true
            payload := [3, 4, 7]
            dataLength := 3
            ackRequired := true }] := by
  obtain ⟨final, results, reached, byPacket⟩ :=
    reassembler_results_by_packet interleavedArrivals (by decide +kernel)
  refine ⟨final, results, reached, (byPacket 1).trans ?_⟩
  decide +kernel

end Kronos
