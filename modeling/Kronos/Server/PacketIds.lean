import Kronos.Server.PortFrame
import Kronos.Server.Recipients

/-!
# Packet ids over the life of a server

The packet counters of a port outlive its connections: datagrams and retransmit
ticks do not touch them, and every message takes the next ids of its channel.
As long as a counter does not wrap around, no packet id is given out twice on a
channel of a port, whichever calls send the messages and whoever connects,
leaves or is evicted between them.
-/

namespace Kronos

open Library

/-! ## The last packet id -/

/-- The last packet id that a channel has given out; zero before the first. -/
def ChannelState.lastPacketId
    (state : ChannelState)
    (channel : Channel) : UInt64 :=
  match state.packetCounter with
  | none => 0
  | some counter => counter channel

/-- The last packet id of a channel of a port. -/
def lastPacketId
    (descriptorList : List UDPSocketDescriptor)
    (descriptor : Nat)
    (channel : Channel) : UInt64 :=
  match descriptorList[descriptor]? with
  | none => 0
  | some desc => (desc.channelStates channel).lastPacketId channel

/-- Ports that keep their packet counters. -/
theorem SettingsKept.lastPacketId
    {before after : List UDPSocketDescriptor}
    (kept : SettingsKept before after)
    (descriptor : Nat)
    (channel : Channel) :
    lastPacketId after descriptor channel =
      lastPacketId before descriptor channel := by
  unfold Kronos.lastPacketId
  rcases kept.read_cases descriptor with ⟨missing, alsoMissing⟩ |
    ⟨old, new, oldRead, newRead, same⟩
  · rw [missing, alsoMissing]
  · rw [oldRead, newRead]
    dsimp only
    rw [ChannelState.lastPacketId, same.counters channel]
    rfl

/-- Writing the state of one channel of one port. -/
theorem lastPacketId_modify
    {descriptorList : List UDPSocketDescriptor}
    {descriptor : Nat}
    {desc : UDPSocketDescriptor}
    (read : descriptorList[descriptor]? = some desc)
    (channel : Channel)
    (state : ChannelState)
    (other : Nat)
    (otherChannel : Channel) :
    lastPacketId (descriptorList.modify descriptor
        (·.modifyChannel channel fun _ => state)) other otherChannel =
      if other = descriptor ∧ otherChannel = channel then
        state.lastPacketId channel
      else lastPacketId descriptorList other otherChannel := by
  unfold lastPacketId
  by_cases here : other = descriptor
  · subst here
    rw [List.getElem?_modify_eq, read]
    simp only [Option.map_eq_map, Option.map_some, true_and,
      UDPSocketDescriptor.modifyChannel]
    by_cases same : otherChannel = channel
    · subst same
      rw [Function.update_self, if_pos rfl]
    · rw [Function.update_of_ne same, if_neg same]
  · rw [List.getElem?_modify_ne _ _ (Ne.symm here),
      if_neg fun both => here both.1]

/-- Every datagram of a message carries its channel and packet id. -/
theorem krsFrameCreate_of_wireFrames
    {channel : Channel}
    {packetId : UInt64}
    {payload : List UInt8}
    {requireAck : Bool}
    (short : payload.length < 2 ^ 16)
    {datagram : List UInt8}
    (sent : datagram ∈ wireFrames channel packetId payload requireAck) :
    (krsFrameCreate datagram kronosBufferSize).channel = channel ∧
      (krsFrameCreate datagram kronosBufferSize).packetId = packetId := by
  have parsed := krsFrameCreate_wireFrame short sent
  generalize krsFrameCreate datagram kronosBufferSize = frame at parsed
  cases parsed with
  | whole => exact ⟨rfl, rfl⟩
  | fragment => exact ⟨rfl, rfl⟩

/-- The packet id in the header of a datagram. -/
def packetIdOf (datagram : List UInt8) : UInt64 :=
  (krsFrameCreate datagram kronosBufferSize).packetId

/-- The channel in the header of a datagram. -/
def channelOf (datagram : List UInt8) : Channel :=
  (krsFrameCreate datagram kronosBufferSize).channel

/-! ## What a call gives out -/

/-- A call on a channel: the counters of the channel go up by a bounded number,
every datagram has the id zero or one of those that were counted, and a nonzero
id goes to one address. -/
structure Issues
    (channel : Channel)
    (budget : Nat)
    (before after : ServerPortManager)
    (effects : List ServerEffect) : Prop where
  ports : after.descriptorList.length = before.descriptorList.length
  other : ∀ descriptor otherChannel, otherChannel ≠ channel ->
    lastPacketId after.descriptorList descriptor otherChannel =
      lastPacketId before.descriptorList descriptor otherChannel
  grows : ∀ descriptor,
    (lastPacketId before.descriptorList descriptor channel).toNat ≤
      (lastPacketId after.descriptorList descriptor channel).toNat
  bounded : ∀ descriptor,
    (lastPacketId after.descriptorList descriptor channel).toNat ≤
      (lastPacketId before.descriptorList descriptor channel).toNat + budget
  fresh : ∀ descriptor address frame,
    .netSend descriptor address frame ∈ effects ->
      channelOf frame = channel ∧ (packetIdOf frame = 0 ∨
        (lastPacketId before.descriptorList descriptor channel).toNat <
            (packetIdOf frame).toNat ∧
          (packetIdOf frame).toNat ≤
            (lastPacketId after.descriptorList descriptor channel).toNat)
  apart : ∀ descriptor first second frame otherFrame,
    .netSend descriptor first frame ∈ effects ->
    .netSend descriptor second otherFrame ∈ effects ->
    packetIdOf frame = packetIdOf otherFrame -> packetIdOf frame ≠ 0 ->
      first = second

section Calls

variable
  {channel : Channel}
  {before between after : ServerPortManager}

/-- A call that gives out nothing. -/
theorem Issues.nothing
    (budget : Nat)
    (same : SettingsKept before.descriptorList after.descriptorList) :
    Issues channel budget before after [] where
  ports := same.1
  other := fun descriptor otherChannel _ =>
    same.lastPacketId descriptor otherChannel
  grows := fun descriptor =>
    Nat.le_of_eq (congrArg UInt64.toNat (same.lastPacketId _ _).symm)
  bounded := fun descriptor => by
    rw [same.lastPacketId]
    exact Nat.le_add_right _ _
  fresh := nofun
  apart := nofun

theorem Issues.mono
    {budget larger : Nat}
    {effects : List ServerEffect}
    (issues : Issues channel budget before after effects)
    (grown : budget ≤ larger) :
    Issues channel larger before after effects :=
  { issues with
    bounded := fun descriptor =>
      (issues.bounded descriptor).trans (Nat.add_le_add_left grown _) }

/-- One call after another. -/
theorem Issues.append
    {first second : Nat}
    {early late : List ServerEffect}
    (earlier : Issues channel first before between early)
    (later : Issues channel second between after late) :
    Issues channel (first + second) before after (early ++ late) where
  ports := later.ports.trans earlier.ports
  other := fun descriptor otherChannel different =>
    (later.other descriptor otherChannel different).trans
      (earlier.other descriptor otherChannel different)
  grows := fun descriptor =>
    (earlier.grows descriptor).trans (later.grows descriptor)
  bounded := fun descriptor => by
    have firstBound := earlier.bounded descriptor
    have secondBound := later.bounded descriptor
    omega
  fresh := by
    intro descriptor address frame member
    have firstGrows := earlier.grows descriptor
    have secondGrows := later.grows descriptor
    rcases List.mem_append.mp member with inEarly | inLate
    · obtain ⟨named, zero | given⟩ :=
        earlier.fresh descriptor address frame inEarly
      · exact ⟨named, Or.inl zero⟩
      · exact ⟨named, Or.inr ⟨given.1, given.2.trans secondGrows⟩⟩
    · obtain ⟨named, zero | given⟩ :=
        later.fresh descriptor address frame inLate
      · exact ⟨named, Or.inl zero⟩
      · exact ⟨named, Or.inr ⟨firstGrows.trans_lt given.1, given.2⟩⟩
  apart := by
    intro descriptor firstAddress secondAddress frame otherFrame sent
      otherSent same positive
    have crossed : ∀ {low high lowFrame highFrame},
        .netSend descriptor low lowFrame ∈ early ->
        .netSend descriptor high highFrame ∈ late ->
        packetIdOf lowFrame = packetIdOf highFrame ->
        packetIdOf lowFrame ≠ 0 -> False := by
      intro low high lowFrame highFrame inEarly inLate equal nonzero
      obtain ⟨-, zero | given⟩ := earlier.fresh descriptor low _ inEarly
      · exact nonzero zero
      · obtain ⟨-, alsoZero | alsoGiven⟩ :=
          later.fresh descriptor high _ inLate
        · exact nonzero (equal.trans alsoZero)
        · rw [equal] at given
          omega
    rcases List.mem_append.mp sent with inEarly | inLate
    · rcases List.mem_append.mp otherSent with otherEarly | otherLate
      · exact earlier.apart _ _ _ _ _ inEarly otherEarly same positive
      · exact (crossed inEarly otherLate same positive).elim
    · rcases List.mem_append.mp otherSent with otherEarly | otherLate
      · exact (crossed otherEarly inLate same.symm
          (same ▸ positive)).elim
      · exact later.apart _ _ _ _ _ inLate otherLate same positive

/-- Calls one after another, with the same budget each. -/
theorem serverCalls_issues
    {α : Type}
    {step : ServerPortManager -> α ->
      Option (ServerPortManager × List ServerEffect)}
    {ports budget : Nat}
    (each : ∀ spm call next effects,
      spm.descriptorList.length = ports ->
      (∀ descriptor, (lastPacketId spm.descriptorList descriptor
        channel).toNat + budget < 2 ^ 64) ->
      step spm call = some (next, effects) ->
        Issues channel budget spm next effects)
    {calls : List α}
    {effects : List ServerEffect}
    (sized : before.descriptorList.length = ports)
    (room : ∀ descriptor, (lastPacketId before.descriptorList descriptor
      channel).toNat + calls.length * budget < 2 ^ 64)
    (ran : serverCalls step calls before = some (after, effects)) :
    Issues channel (calls.length * budget) before after effects := by
  induction calls generalizing before effects with
  | nil =>
      cases ran
      exact .nothing _ (IndexRelated.refl (fun _ => KeepsSettings.refl) _)
  | cons call calls inductionHypothesis =>
      obtain ⟨first, stepped, rest⟩ := Option.bind_eq_some_iff.mp ran
      obtain ⟨last, ranRest, same⟩ := Option.map_eq_some_iff.mp rest
      cases same
      simp only [List.length_cons, Nat.add_mul, Nat.one_mul] at room ⊢
      have issued := each before call _ _ sized (fun descriptor => by
        have enough := room descriptor
        omega) stepped
      have remaining := inductionHypothesis (issued.ports.trans sized)
        (fun descriptor => by
          have enough := room descriptor
          have spent := issued.bounded descriptor
          omega) ranRest
      rw [Nat.add_comm]
      exact issued.append remaining

/-- A call that writes one channel of one port, and sends from this port
only. -/
theorem Issues.of_modify
    {descriptor : Nat}
    {desc : UDPSocketDescriptor}
    (read : before.descriptorList[descriptor]? = some desc)
    {state : ChannelState}
    (written : after.descriptorList = before.descriptorList.modify descriptor
      (·.modifyChannel channel fun _ => state))
    {budget : Nat}
    (grows : ((desc.channelStates channel).lastPacketId channel).toNat ≤
      (state.lastPacketId channel).toNat)
    (bounded : (state.lastPacketId channel).toNat ≤
      ((desc.channelStates channel).lastPacketId channel).toNat + budget)
    {effects : List ServerEffect}
    (fresh : ∀ port address frame, .netSend port address frame ∈ effects ->
      port = descriptor ∧ channelOf frame = channel ∧
        (packetIdOf frame = 0 ∨
          ((desc.channelStates channel).lastPacketId channel).toNat <
              (packetIdOf frame).toNat ∧
            (packetIdOf frame).toNat ≤ (state.lastPacketId channel).toNat))
    (apart : ∀ first second frame otherFrame,
      .netSend descriptor first frame ∈ effects ->
      .netSend descriptor second otherFrame ∈ effects ->
      packetIdOf frame = packetIdOf otherFrame -> packetIdOf frame ≠ 0 ->
        first = second) :
    Issues channel budget before after effects := by
  have last := lastPacketId_modify read channel state
  have here : lastPacketId before.descriptorList descriptor channel =
      (desc.channelStates channel).lastPacketId channel := by
    rw [lastPacketId, read]
  rw [← written] at last
  refine ⟨?_, ?_, ?_, ?_, ?_, ?_⟩
  · rw [written, List.length_modify]
  · intro other otherChannel different
    rw [last, if_neg fun both => different both.2]
  · intro other
    rw [last]
    split
    case isTrue same =>
      rw [same.1, here]
      exact grows
    case isFalse => exact Nat.le_refl _
  · intro other
    rw [last]
    split
    case isTrue same =>
      rw [same.1, here]
      exact bounded
    case isFalse => exact Nat.le_add_right _ _
  · intro port address frame member
    obtain ⟨rfl, named, given⟩ := fresh port address frame member
    rw [last, if_pos ⟨rfl, rfl⟩, here]
    exact ⟨named, given⟩
  · intro port first second frame otherFrame sent otherSent
    obtain ⟨rfl, -⟩ := fresh port first frame sent
    exact apart first second frame otherFrame sent otherSent

theorem nextPacketId_cases
    (channel : Channel)
    (created : Bool)
    (state : ChannelState) :
    let numbered := nextPacketId channel created state
    (numbered.1 = 0 ∧
        numbered.2.lastPacketId channel = state.lastPacketId channel) ∨
      (numbered.1 = state.lastPacketId channel + 1 ∧
        numbered.2.lastPacketId channel = state.lastPacketId channel + 1) := by
  unfold nextPacketId ChannelState.lastPacketId krsPacketCounterNext
  cases stored : state.packetCounter with
  | some counter => exact Or.inr ⟨rfl, Function.update_self _ _ _⟩
  | none =>
      cases created with
      | false =>
          refine Or.inl ⟨rfl, ?_⟩
          simp only [Bool.false_eq_true, if_false]
          rw [stored]
      | true => exact Or.inr ⟨rfl, Function.update_self _ _ _⟩

theorem toNat_add_one
    {number : UInt64}
    (room : number.toNat + 1 < 2 ^ 64) :
    (number + 1).toNat = number.toNat + 1 := by
  rw [UInt64.toNat_add]
  exact Nat.mod_eq_of_lt room

theorem mem_flatMap_krsNetSendFrame
    {descriptor port : Nat}
    {address target : PortAddress}
    {frames : List (List UInt8)}
    {frame : List UInt8}
    (member : .netSend port target frame ∈
      frames.flatMap (krsNetSendFrame descriptor address)) :
    port = descriptor ∧ target = address ∧ frame ∈ frames := by
  obtain ⟨other, inFrames, sent⟩ := List.mem_flatMap.mp member
  unfold krsNetSendFrame at sent
  split at sent
  case isTrue => cases sent
  case isFalse =>
    rw [List.mem_singleton] at sent
    cases sent
    exact ⟨rfl, rfl, inFrames⟩

variable {payload : List UInt8} {length : UInt16}

/-- A send gives out one packet id at most. -/
theorem krsServerSend_issues
    (whole : payload.length = length.toNat)
    (room : ∀ descriptor, (lastPacketId before.descriptorList descriptor
      channel).toNat + 1 < 2 ^ 64)
    {connectionId : UInt32}
    {requireAck : Bool}
    {clock : Nat -> UInt64}
    {allocations : SendAllocations}
    {result : KronosResult}
    {effects : List ServerEffect}
    (sent : krsServerSend before connectionId channel payload length
      requireAck clock allocations = some (after, result, effects)) :
    Issues channel 1 before after effects := by
  have short : payload.length < 2 ^ 16 := by
    rw [whole]
    exact length.toNat_lt
  unfold krsServerSend at sent
  dsimp only at sent
  split at sent
  case h_1 =>
    cases sent
    exact .nothing _ (IndexRelated.refl (fun _ => KeepsSettings.refl) _)
  case h_2 entry _ =>
    split at sent
    case h_2 => cases sent
    case h_1 target desc _ read =>
      split at sent
      case isTrue => cases sent
      case isFalse =>
        cases sent
        have here := room entry.descriptor
        rw [lastPacketId, read] at here
        have numbered := nextPacketId_cases channel allocations.counter
          (desc.channelStates channel)
        dsimp only at numbered here
        generalize nextPacketId channel allocations.counter
          (desc.channelStates channel) = issued at numbered ⊢
        have next := toNat_add_one here
        refine .of_modify read rfl ?_ ?_ ?_ ?_
        · rcases numbered with ⟨-, same⟩ | ⟨-, counted⟩
          · rw [same]
          · rw [counted, next]
            exact Nat.le_succ _
        · rcases numbered with ⟨-, same⟩ | ⟨-, counted⟩
          · rw [same]
            exact Nat.le_succ _
          · rw [counted, next]
        · intro port address frame member
          obtain ⟨rfl, -, inFrames⟩ := mem_flatMap_krsNetSendFrame member
          obtain ⟨named, number⟩ := krsFrameCreate_of_wireFrames short
            (mem_sendOn whole inFrames)
          refine ⟨rfl, named, ?_⟩
          rw [packetIdOf, number]
          rcases numbered with ⟨zero, -⟩ | ⟨given, counted⟩
          · exact Or.inl zero
          · rw [given, counted, next]
            exact Or.inr ⟨Nat.lt_succ_self _, Nat.le_refl _⟩
        · intro first second frame otherFrame firstSent secondSent _ _
          obtain ⟨-, rfl, -⟩ := mem_flatMap_krsNetSendFrame firstSent
          obtain ⟨-, rfl, -⟩ := mem_flatMap_krsNetSendFrame secondSent
          rfl

/-- Where a broadcast leaves the counter. -/
theorem broadcastPacketIds_lastPacketId
    (count : Nat)
    (state : ChannelState) :
    (broadcastPacketIds channel count state).2.lastPacketId channel =
      match state.packetCounter with
      | none => 0
      | some counter => counter channel + UInt64.ofNat count := by
  induction count generalizing state with
  | zero =>
      cases stored : state.packetCounter with
      | none => rw [broadcastPacketIds, ChannelState.lastPacketId, stored]
      | some counter =>
          rw [broadcastPacketIds, ChannelState.lastPacketId, stored]
          exact (UInt64.add_zero _).symm
  | succ count inductionHypothesis =>
      rw [broadcastPacketIds]
      dsimp only
      rw [inductionHypothesis, nextPacketId]
      cases stored : state.packetCounter with
      | none =>
          simp only [Bool.false_eq_true, if_false]
          rw [stored]
      | some counter =>
          dsimp only [krsPacketCounterNext]
          rw [Function.update_self, UInt64.ofNat_add, UInt64.add_assoc,
            UInt64.add_comm 1]
          rfl

/-- The ids of a broadcast are consecutive, or all zero. -/
theorem broadcastPacketIds_cases
    (count : Nat)
    {state : ChannelState}
    (room : (state.lastPacketId channel).toNat + count < 2 ^ 64) :
    let numbered := broadcastPacketIds channel count state
    (state.lastPacketId channel).toNat ≤
        (numbered.2.lastPacketId channel).toNat ∧
      (numbered.2.lastPacketId channel).toNat ≤
        (state.lastPacketId channel).toNat + count ∧
      ∀ (index : Nat) (packetId : UInt64),
        numbered.1[index]? = some packetId -> packetId = 0 ∨
          packetId.toNat =
              (state.lastPacketId channel).toNat + 1 + index ∧
            packetId.toNat ≤ (numbered.2.lastPacketId channel).toNat := by
  intro numbered
  have last := @broadcastPacketIds_lastPacketId channel count state
  cases stored : state.packetCounter with
  | none =>
      rw [stored] at last
      have first : state.lastPacketId channel = 0 := by
        rw [ChannelState.lastPacketId, stored]
      rw [first]
      refine ⟨Nat.zero_le _, ?_, ?_⟩
      · rw [show numbered.2.lastPacketId channel = 0 from last]
        exact Nat.zero_le _
      · intro index packetId found
        rw [show numbered.1 = _ from
          broadcastPacketIds_of_none channel count stored] at found
        exact Or.inl (List.eq_of_mem_replicate (List.mem_of_getElem? found))
  | some counter =>
      rw [stored] at last
      have first : state.lastPacketId channel = counter channel := by
        rw [ChannelState.lastPacketId, stored]
      rw [first] at room ⊢
      have final : (numbered.2.lastPacketId channel).toNat =
          (counter channel).toNat + count := by
        rw [show numbered.2.lastPacketId channel =
          counter channel + UInt64.ofNat count from last, UInt64.toNat_add,
          UInt64.toNat_ofNat']
        omega
      rw [final]
      refine ⟨Nat.le_add_right _ _, Nat.le_refl _, ?_⟩
      intro index packetId found
      rw [show numbered.1 = _ from
        broadcastPacketIds_of_counter channel count stored,
        List.getElem?_map, Option.map_eq_some_iff] at found
      obtain ⟨position, inside, rfl⟩ := found
      obtain ⟨small, rfl⟩ := List.getElem?_eq_some_iff.mp inside
      rw [List.length_range] at small
      rw [List.getElem_range]
      have value : (counter channel + 1 + UInt64.ofNat index).toNat =
          (counter channel).toNat + 1 + index := by
        simp only [UInt64.toNat_add, UInt64.toNat_ofNat', UInt64.toNat_one]
        omega
      rw [value]
      exact Or.inr ⟨rfl, by omega⟩

theorem ensureCounter_lastPacketId
    (created : Bool)
    (state : ChannelState) :
    (ensureCounter created state).lastPacketId channel =
      state.lastPacketId channel := by
  unfold ensureCounter
  cases stored : state.packetCounter with
  | some counter => rfl
  | none =>
      cases created with
      | false => rfl
      | true =>
          rw [ChannelState.lastPacketId, ChannelState.lastPacketId, stored]
          rfl

theorem length_broadcastSnapshot
    {spm : ServerPortManager}
    {excludeId : UInt32}
    {conns taken snapshot : List ConnectionRef}
    (room : taken.length ≤ broadcastCapacity)
    (found : broadcastSnapshot spm excludeId taken conns = some snapshot) :
    snapshot.length ≤ broadcastCapacity := by
  induction conns generalizing taken with
  | nil =>
      cases found
      exact room
  | cons connection conns inductionHypothesis =>
      rw [broadcastSnapshot] at found
      split at found
      case isFalse =>
        cases found
        exact room
      case isTrue free =>
        split at found
        case h_1 => cases found
        case h_2 =>
          split at found
          case isTrue => cases found
          case isFalse =>
            split at found
            case isTrue => exact inductionHypothesis room found
            case isFalse =>
              refine inductionHypothesis ?_ found
              rw [List.length_append]
              exact free

/-- The datagrams of a broadcast go to the connections of the snapshot, each
with the id of its place. -/
theorem mem_broadcastEffects
    {spm : ServerPortManager}
    {descriptor port : Nat}
    {outcomes : BroadcastOutcomes}
    {snapshot : List ConnectionRef}
    {ids : List UInt64}
    {address : PortAddress}
    {frame : List UInt8}
    (whole : payload.length = length.toNat)
    (member : .netSend port address frame ∈
      broadcastEffects spm descriptor channel payload length outcomes
        (snapshot.zip ids)) :
    port = descriptor ∧ ∃ (index : Nat) (connection : ConnectionRef)
      (packetId : UInt64),
      snapshot[index]? = some connection ∧ ids[index]? = some packetId ∧
      spm.addressOf connection = some address ∧
      frame ∈ wireFrames channel packetId payload false := by
  obtain ⟨part, inParts, inPart⟩ := List.mem_flatten.mp member
  obtain ⟨index, inside, rfl⟩ := List.mem_mapIdx.mp inParts
  split at inPart
  case h_1 => cases inPart
  case h_2 target located =>
    obtain ⟨rfl, rfl, inFrames⟩ := mem_flatMap_krsNetSendFrame inPart
    have found := List.getElem?_eq_getElem inside
    obtain ⟨refs, numbers⟩ := List.getElem?_zip_eq_some.mp found
    exact ⟨rfl, index, _, _, refs, numbers, located,
      mem_sendToConnection whole inFrames⟩

/-- A broadcast on one port gives out one packet id for each connection of its
snapshot. -/
theorem broadcastOnDescriptor_issues
    (whole : payload.length = length.toNat)
    (room : ∀ descriptor, (lastPacketId before.descriptorList descriptor
      channel).toNat + broadcastCapacity < 2 ^ 64)
    {descriptor : Nat}
    {excludeId : UInt32}
    {outcomes : BroadcastOutcomes}
    {effects : List ServerEffect}
    (sent : broadcastOnDescriptor before descriptor channel payload length
      excludeId outcomes = some (after, effects)) :
    Issues channel broadcastCapacity before after effects := by
  have short : payload.length < 2 ^ 16 := by
    rw [whole]
    exact length.toNat_lt
  have nothing : Issues channel broadcastCapacity before before [] :=
    .nothing _ (IndexRelated.refl (fun _ => KeepsSettings.refl) _)
  unfold broadcastOnDescriptor at sent
  split at sent
  case h_1 =>
    cases sent
    exact nothing
  case h_2 desc read =>
    split at sent
    case h_1 =>
      cases sent
      exact nothing
    case h_2 =>
      obtain ⟨snapshot, taken, same⟩ := Option.map_eq_some_iff.mp sent
      have few := length_broadcastSnapshot (Nat.zero_le _) taken
      have here := room descriptor
      rw [lastPacketId, read] at here
      dsimp only at here same
      have start := @ensureCounter_lastPacketId channel outcomes.counter
        (desc.channelStates channel)
      generalize ensureCounter outcomes.counter (desc.channelStates channel) =
        ready at same start
      rw [← start] at here
      obtain ⟨grows, bounded, given⟩ := @broadcastPacketIds_cases channel
        snapshot.length ready (by omega)
      generalize broadcastPacketIds channel snapshot.length ready =
        numbered at same grows bounded given
      rw [foldl_modifyConnection, foldl_krsConnectionMapRelease] at same
      cases same
      rw [start] at grows bounded given
      refine .of_modify read rfl grows (bounded.trans
        (Nat.add_le_add_left few _)) ?_ ?_
      · intro port address frame member
        obtain ⟨rfl, index, connection, packetId, -, drawn, -, inFrames⟩ :=
          mem_broadcastEffects whole member
        obtain ⟨named, number⟩ := krsFrameCreate_of_wireFrames short inFrames
        refine ⟨rfl, named, ?_⟩
        rw [packetIdOf, number]
        rcases given index packetId drawn with zero | ⟨value, least⟩
        · exact Or.inl zero
        · rw [value] at least ⊢
          exact Or.inr ⟨by omega, least⟩
      · intro first second frame otherFrame firstSent secondSent equal nonzero
        obtain ⟨-, index, connection, packetId, listed, drawn, located,
          inFrames⟩ := mem_broadcastEffects whole firstSent
        obtain ⟨-, otherIndex, other, otherId, otherListed, otherDrawn,
          otherLocated, otherInFrames⟩ := mem_broadcastEffects whole secondSent
        rw [packetIdOf, packetIdOf,
          (krsFrameCreate_of_wireFrames short inFrames).2,
          (krsFrameCreate_of_wireFrames short otherInFrames).2] at equal
        rw [packetIdOf,
          (krsFrameCreate_of_wireFrames short inFrames).2] at nonzero
        subst equal
        rcases given index packetId drawn with zero | ⟨value, -⟩
        · exact absurd zero nonzero
        rcases given otherIndex packetId otherDrawn with zero | ⟨sameValue, -⟩
        · exact absurd zero nonzero
        obtain rfl : index = otherIndex := by omega
        rw [listed] at otherListed
        cases otherListed
        exact Option.some.inj (located.symm.trans otherLocated)

theorem length_snapshotIds
    {spm : ServerPortManager}
    {conns : List ConnectionRef}
    {ids : List UInt32}
    (copied : snapshotIds spm conns = some ids) :
    ids.length ≤ broadcastCapacity := by
  suffices ∀ (read : ConnectionRef -> Option UInt32)
      (refs : List ConnectionRef) (ids : List UInt32),
      refs.mapM read = some ids -> ids.length = refs.length by
    rw [this _ _ _ copied]
    exact List.length_take_le _ _
  intro read refs
  induction refs with
  | nil =>
      intro ids copied
      cases copied
      rfl
  | cons ref refs inductionHypothesis =>
      intro ids copied
      rw [List.mapM_cons] at copied
      obtain ⟨first, -, rest⟩ := Option.bind_eq_some_iff.mp copied
      obtain ⟨others, found, same⟩ := Option.bind_eq_some_iff.mp rest
      cases same
      rw [List.length_cons, List.length_cons, inductionHypothesis _ found]

/-- The sends of a reliable broadcast on one port. -/
theorem broadcastReliableOnDescriptor_issues
    (whole : payload.length = length.toNat)
    (room : ∀ descriptor, (lastPacketId before.descriptorList descriptor
      channel).toNat + broadcastCapacity < 2 ^ 64)
    {descriptor : Nat}
    {outcomes : BroadcastOutcomes}
    {effects : List ServerEffect}
    (sent : broadcastReliableOnDescriptor before descriptor channel payload
      length outcomes = some (after, effects)) :
    Issues channel broadcastCapacity before after effects := by
  unfold broadcastReliableOnDescriptor at sent
  split at sent
  case h_1 =>
    cases sent
    exact .nothing _ (IndexRelated.refl (fun _ => KeepsSettings.refl) _)
  case h_2 desc _ =>
    obtain ⟨ids, copied, ran⟩ := Option.bind_eq_some_iff.mp sent
    have few : ids.zipIdx.length ≤ broadcastCapacity := by
      rw [List.length_zipIdx]
      exact length_snapshotIds copied
    have issued : Issues channel (ids.zipIdx.length * 1) before after
        effects := by
      refine serverCalls_issues ?_ rfl (fun port => ?_) ran
      · intro current target next sends _ enough stepped
        obtain ⟨⟨next, result, handed⟩, performed, same⟩ :=
          Option.map_eq_some_iff.mp stepped
        cases same
        exact krsServerSend_issues whole enough performed
      · have enough := room port
        rw [Nat.mul_one]
        omega
    rw [Nat.mul_one] at issued
    exact issued.mono few

end Calls

/-- The number of packet ids that one call can take from a counter. -/
def callBudget (ports : Nat) : Nat := (ports + 1) * broadcastCapacity

/-- A message takes no more ids than the ports have room in their snapshots,
whichever call sends it. -/
theorem ServerMessage.perform_issues
    {message : ServerMessage}
    {before after : ServerPortManager}
    (room : ∀ descriptor, (lastPacketId before.descriptorList descriptor
      message.channel).toNat + callBudget before.descriptorList.length <
        2 ^ 64)
    {effects : List ServerEffect}
    (performed : message.perform before = some (after, effects)) :
    Issues message.channel (callBudget before.descriptorList.length) before
      after effects := by
  have whole := ofNat_length_toNat message.short
  have ports : before.descriptorList.length * broadcastCapacity ≤
      callBudget before.descriptorList.length :=
    Nat.mul_le_mul_right _ (Nat.le_succ _)
  have one : broadcastCapacity ≤
      callBudget before.descriptorList.length :=
    Nat.le_mul_of_pos_left _ (Nat.succ_pos _)
  have everyPort : ∀ {step : ServerPortManager -> Nat ->
        Option (ServerPortManager × List ServerEffect)},
      (∀ spm call next effects,
        spm.descriptorList.length = before.descriptorList.length ->
        (∀ descriptor, (lastPacketId spm.descriptorList descriptor
          message.channel).toNat + broadcastCapacity < 2 ^ 64) ->
        step spm call = some (next, effects) ->
          Issues message.channel broadcastCapacity spm next effects) ->
      serverCalls step (List.range before.descriptorList.length) before =
        some (after, effects) ->
      Issues message.channel (callBudget before.descriptorList.length) before
        after effects := by
    intro step each ran
    have issued := serverCalls_issues each rfl (fun descriptor => by
      have enough := room descriptor
      rw [List.length_range]
      omega) ran
    rw [List.length_range] at issued
    exact issued.mono ports
  unfold perform at performed
  dsimp only at performed
  split at performed
  case h_1 connectionId requireAck clock allocations how =>
    obtain ⟨⟨next, result, sent⟩, called, same⟩ :=
      Option.map_eq_some_iff.mp performed
    cases same
    have capacity : 1 ≤ broadcastCapacity := by decide
    refine (krsServerSend_issues whole (fun descriptor => ?_) called).mono
      (capacity.trans one)
    have enough := room descriptor
    omega
  case h_2 outcomes how =>
    exact everyPort (fun _ _ _ _ _ enough =>
      broadcastOnDescriptor_issues whole enough) performed
  case h_3 excludeConnectionId outcomes how =>
    exact everyPort (fun _ _ _ _ _ enough =>
      broadcastOnDescriptor_issues whole enough) performed
  case h_4 outcomes how =>
    exact everyPort (fun _ _ _ _ _ enough =>
      broadcastReliableOnDescriptor_issues whole enough) performed

/-! ## Runs -/

/-- A first transmission of a datagram: the number of the call that made it,
the port, the address and the datagram. -/
structure Transmission where
  call : Nat
  descriptor : Nat
  address : PortAddress
  frame : List UInt8
  deriving DecidableEq, Repr

/-- The transmission that an effect of a call makes. -/
def ServerEffect.transmission (call : Nat) :
    ServerEffect -> Option Transmission
  | .netSend descriptor address frame =>
      some
        { call := call
          descriptor := descriptor
          address := address
          frame := frame }
  | _ => none

/-- A server, the number of messages it has sent, and their datagrams. -/
structure IssuingServer where
  spm : ServerPortManager
  calls : Nat := 0
  sent : List Transmission := []

/-- What happens: the application sends a message by any call, a datagram is
handled, or the retransmit thread ticks. -/
inductive IssuingEvent
  | message (message : ServerMessage)
  | datagram (descriptor : Nat) (bytes : List UInt8)
      (remoteAddr : PortAddress) (input : HandlerInput)
  | tick (clock : TickClock)

/-- One step.  Replies and retransmissions are not first transmissions. -/
def issuingStep (current : IssuingServer) :
    IssuingEvent -> Option IssuingServer
  | .message message =>
      (message.perform current.spm).map fun performed =>
        { spm := performed.1
          calls := current.calls + 1
          sent := current.sent ++ performed.2.filterMap
            (ServerEffect.transmission current.calls) }
  | .datagram descriptor bytes remoteAddr input =>
      (handleDatagram current.spm descriptor bytes remoteAddr input).map
        fun handled => { current with spm := handled.1 }
  | .tick clock =>
      some { current with spm := (retransmitTick current.spm clock).1 }

/-- The events that are calls. -/
def IssuingEvent.isMessage : IssuingEvent -> Bool
  | .message _ => true
  | _ => false

/-- Two transmissions of one port with one channel and one nonzero packet id
are datagrams of one call to one address. -/
def IdsUnique (sent : List Transmission) : Prop :=
  ∀ first ∈ sent, ∀ second ∈ sent,
    first.descriptor = second.descriptor ->
    channelOf first.frame = channelOf second.frame ->
    packetIdOf first.frame = packetIdOf second.frame ->
    packetIdOf first.frame ≠ 0 ->
      first.call = second.call ∧ first.address = second.address

/-- The counters have counted every id that was given out, and no more than the
calls could take. -/
structure IssuingInvariant (ports : Nat) (current : IssuingServer) :
    Prop where
  sized : current.spm.descriptorList.length = ports
  bounded : ∀ descriptor channel,
    (lastPacketId current.spm.descriptorList descriptor channel).toNat ≤
      current.calls * callBudget ports
  earlier : ∀ transmission ∈ current.sent,
    transmission.call < current.calls ∧
      (packetIdOf transmission.frame).toNat ≤
        (lastPacketId current.spm.descriptorList transmission.descriptor
          (channelOf transmission.frame)).toNat
  unique : IdsUnique current.sent

theorem IssuingInvariant.keep
    {ports : Nat}
    {current : IssuingServer}
    (invariant : IssuingInvariant ports current)
    {next : ServerPortManager}
    (kept : SettingsKept current.spm.descriptorList next.descriptorList) :
    IssuingInvariant ports { current with spm := next } where
  sized := kept.1.trans invariant.sized
  bounded := fun descriptor channel => by
    dsimp only
    rw [kept.lastPacketId]
    exact invariant.bounded descriptor channel
  earlier := fun transmission member => by
    dsimp only
    rw [kept.lastPacketId]
    exact invariant.earlier transmission member
  unique := invariant.unique

/-- A call keeps the invariant as long as its counters have room. -/
theorem IssuingInvariant.message
    {ports : Nat}
    {current : IssuingServer}
    (invariant : IssuingInvariant ports current)
    (room : (current.calls + 1) * callBudget ports < 2 ^ 64)
    {message : ServerMessage}
    {next : IssuingServer}
    (taken : issuingStep current (.message message) = some next) :
    IssuingInvariant ports next := by
  obtain ⟨⟨spm, effects⟩, performed, same⟩ := Option.map_eq_some_iff.mp taken
  cases same
  have sized := invariant.sized
  have issues := ServerMessage.perform_issues (fun descriptor => by
    have bound := invariant.bounded descriptor message.channel
    rw [sized]
    rw [Nat.add_mul, Nat.one_mul] at room
    omega) performed
  rw [sized] at issues
  have grows : ∀ descriptor channel,
      (lastPacketId current.spm.descriptorList descriptor channel).toNat ≤
        (lastPacketId spm.descriptorList descriptor channel).toNat := by
    intro descriptor channel
    by_cases here : channel = message.channel
    · rw [here]
      exact issues.grows descriptor
    · rw [issues.other descriptor channel here]
  have made : ∀ transmission ∈ effects.filterMap
        (ServerEffect.transmission current.calls),
      transmission.call = current.calls ∧
        .netSend transmission.descriptor transmission.address
          transmission.frame ∈ effects := by
    intro transmission member
    obtain ⟨effect, present, known⟩ := List.mem_filterMap.mp member
    cases effect with
    | netSend descriptor address frame =>
        cases known
        exact ⟨rfl, present⟩
    | retransmit => cases known
    | message => cases known
    | connected => cases known
    | disconnected => cases known
    | deliveryFailure => cases known
  refine ⟨issues.ports.trans sized, ?_, ?_, ?_⟩
  · intro descriptor channel
    have bound := invariant.bounded descriptor channel
    rw [Nat.add_mul, Nat.one_mul]
    by_cases here : channel = message.channel
    · rw [here] at bound ⊢
      exact (issues.bounded descriptor).trans (Nat.add_le_add_right bound _)
    · dsimp only
      rw [issues.other descriptor channel here]
      exact Nat.le_add_right_of_le bound
  · intro transmission member
    rcases List.mem_append.mp member with old | new
    · obtain ⟨before, counted⟩ := invariant.earlier transmission old
      exact ⟨Nat.lt_succ_of_lt before, counted.trans (grows _ _)⟩
    · obtain ⟨numbered, sent⟩ := made transmission new
      obtain ⟨named, given⟩ := issues.fresh _ _ _ sent
      refine ⟨numbered.trans_lt (Nat.lt_succ_self _), ?_⟩
      rw [named]
      rcases given with zero | ⟨-, counted⟩
      · rw [zero]
        exact Nat.zero_le _
      · exact counted
  · have crossed : ∀ {old new : Transmission}, old ∈ current.sent ->
        new ∈ effects.filterMap
          (ServerEffect.transmission current.calls) ->
        old.descriptor = new.descriptor ->
        channelOf old.frame = channelOf new.frame ->
        packetIdOf old.frame = packetIdOf new.frame ->
        packetIdOf old.frame ≠ 0 -> False := by
      intro old new before after port channel number nonzero
      obtain ⟨-, counted⟩ := invariant.earlier old before
      obtain ⟨named, given⟩ := issues.fresh _ _ _ (made new after).2
      rw [port, channel, number, named] at counted
      rcases given with zero | ⟨above, -⟩
      · exact nonzero (number.trans zero)
      · omega
    intro first firstIn second secondIn port channel number nonzero
    rcases List.mem_append.mp firstIn with firstOld | firstNew
    · rcases List.mem_append.mp secondIn with secondOld | secondNew
      · exact invariant.unique _ firstOld _ secondOld port channel number
          nonzero
      · exact (crossed firstOld secondNew port channel number nonzero).elim
    · rcases List.mem_append.mp secondIn with secondOld | secondNew
      · exact (crossed secondOld firstNew port.symm channel.symm number.symm
          (number ▸ nonzero)).elim
      · obtain ⟨firstCall, firstSent⟩ := made first firstNew
        obtain ⟨secondCall, secondSent⟩ := made second secondNew
        rw [← port] at secondSent
        exact ⟨firstCall.trans secondCall.symm,
          issues.apart _ _ _ _ _ firstSent secondSent number nonzero⟩

/-- The beginning: ports none of whose channels has a packet counter yet. -/
def issuingStart (descriptorList : List UDPSocketDescriptor) : IssuingServer :=
  { spm := serverStart descriptorList }

/-- No channel has given out a packet id. -/
def Unnumbered (descriptorList : List UDPSocketDescriptor) : Prop :=
  ∀ desc ∈ descriptorList, ∀ channel,
    (desc.channelStates channel).packetCounter = none

theorem IssuingInvariant.start
    {descriptorList : List UDPSocketDescriptor}
    (unnumbered : Unnumbered descriptorList) :
    IssuingInvariant descriptorList.length (issuingStart descriptorList) where
  sized := rfl
  bounded := by
    intro descriptor channel
    suffices lastPacketId descriptorList descriptor channel = 0 by
      change (lastPacketId descriptorList descriptor channel).toNat ≤ _
      rw [this]
      exact Nat.zero_le _
    unfold lastPacketId
    cases read : descriptorList[descriptor]? with
    | none => rfl
    | some desc =>
        dsimp only
        rw [ChannelState.lastPacketId,
          unnumbered desc (List.mem_of_getElem? read) channel]
  earlier := nofun
  unique := nofun

theorem IssuingInvariant.run
    {ports : Nat}
    {current final : IssuingServer}
    (invariant : IssuingInvariant ports current)
    {events : List IssuingEvent}
    (room : (current.calls + events.countP IssuingEvent.isMessage) *
      callBudget ports < 2 ^ 64)
    (reached : Library.run issuingStep current events = some final) :
    IssuingInvariant ports final := by
  induction events generalizing current with
  | nil =>
      cases reached
      exact invariant
  | cons event events inductionHypothesis =>
      rw [run_cons] at reached
      obtain ⟨next, taken, rest⟩ := Option.bind_eq_some_iff.mp reached
      cases event with
      | message message =>
          rw [List.countP_cons_of_pos rfl] at room
          have calls : next.calls = current.calls + 1 := by
            obtain ⟨performed, -, same⟩ := Option.map_eq_some_iff.mp taken
            rw [← same]
          refine inductionHypothesis (invariant.message ?_ taken) ?_ rest
          · refine Nat.lt_of_le_of_lt (Nat.mul_le_mul_right _ ?_) room
            omega
          · rw [calls, Nat.add_assoc, Nat.add_comm 1]
            exact room
      | datagram descriptor bytes remoteAddr input =>
          obtain ⟨handled, received, same⟩ := Option.map_eq_some_iff.mp taken
          cases same
          exact inductionHypothesis
            (invariant.keep (handleDatagram_portsKept received).settings)
            room rest
      | tick clock =>
          cases taken
          exact inductionHypothesis
            (invariant.keep (retransmitTick_settingsKept _ clock)) room rest

/-- In every run of a server with any ports, in which messages are sent by any
calls while clients connect, subscribe, leave and are evicted: as long as the
calls are too few for a 64-bit counter to wrap around, two datagrams of messages
that a port sends for the first time with the same channel and the same nonzero
packet id are datagrams of one call to one address.  Acknowledgements, which
carry the packet ids of clients, are not meant. -/
theorem packet_ids_never_reused
    {descriptorList : List UDPSocketDescriptor}
    (unnumbered : Unnumbered descriptorList)
    {events : List IssuingEvent}
    (few : events.countP IssuingEvent.isMessage *
      callBudget descriptorList.length < 2 ^ 64)
    {final : IssuingServer}
    (reached : run issuingStep (issuingStart descriptorList) events =
      some final) :
    IdsUnique final.sent := by
  refine ((IssuingInvariant.start unnumbered).run ?_ reached).unique
  rw [issuingStart, Nat.zero_add]
  exact few

/-- A message of one byte on channel 10. -/
def byteMessage (call : SendCall) : ServerMessage :=
  { channel := 10
    payload := [7]
    short := by decide
    call := call }

/-- A client connects and gets a message, leaves, connects again and gets
another one. -/
def returningEvents : List IssuingEvent :=
  [.datagram 0 (controlFrame 0 .connection) (clientAddress 7) { now := 1 },
    .message (byteMessage (.send 1 true (fun _ => 1) {})),
    .datagram 0 (controlFrame 0 .disconnect) (clientAddress 7) { now := 2 },
    .datagram 0 (controlFrame 0 .connection) (clientAddress 7) { now := 3 },
    .message (byteMessage (.send 2 true (fun _ => 3) {}))]

/-- What the server has sent in that run. -/
def returningSent : List Transmission :=
  ((run issuingStep (issuingStart [listeningPort]) returningEvents).map
    IssuingServer.sent).getD []

theorem returning_client_gets_new_packet_id :
    returningSent.map (fun transmission => packetIdOf transmission.frame) =
      [1, 2] ∧
    IdsUnique returningSent := by
  have numbers : returningSent.map (fun transmission =>
      packetIdOf transmission.frame) = [1, 2] := by
    decide +kernel
  refine ⟨numbers, ?_⟩
  unfold returningSent
  cases reached : run issuingStep (issuingStart [listeningPort])
      returningEvents with
  | none => exact nofun
  | some final =>
      refine packet_ids_never_reused ?_ (by decide) reached
      intro desc member channel
      rw [List.mem_singleton.mp member]
      rfl

end Kronos
