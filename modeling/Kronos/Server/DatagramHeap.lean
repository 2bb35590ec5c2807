import Kronos.Server.ConnectionIds
import Kronos.Server.Replies

/-!
# What a datagram does to the connections

A `CONNECTION` may create a connection and an acknowledgement changes a tracker.
Every other frame leaves the connections as they are or releases some of them,
issues no connection id and sends nothing but acknowledgements.
-/

namespace Kronos

open Library

/-- All frames among the effects are acknowledgements. -/
def SendsOnlyAcks (effects : List ServerEffect) : Prop :=
  ∀ port address frame, .netSend port address frame ∈ effects ->
    ∃ channel packetId, frame = ackResponse channel packetId

/-- A frame that neither connects nor acknowledges. -/
structure HandledPlainly
    (before after : ServerPortManager)
    (effects : List ServerEffect) : Prop where
  heap : IndexRelated (fun _ => Released) before.connections after.connections
  counter : after.nextConnectionId = before.nextConnectionId
  acks : SendsOnlyAcks effects

theorem SendsOnlyAcks.nil : SendsOnlyAcks [] := by
  intro port address frame member
  cases member

theorem SendsOnlyAcks.append
    {first second : List ServerEffect}
    (earlier : SendsOnlyAcks first)
    (later : SendsOnlyAcks second) :
    SendsOnlyAcks (first ++ second) := by
  intro port address frame member
  rcases List.mem_append.mp member with before | after
  · exact earlier port address frame before
  · exact later port address frame after

theorem SendsOnlyAcks.of_silent
    {effects : List ServerEffect}
    (silent : ∀ port address frame, .netSend port address frame ∉ effects) :
    SendsOnlyAcks effects :=
  fun port address frame member => absurd member (silent port address frame)

theorem sendAckResponse_onlyAcks
    (descriptor : Nat)
    (remoteAddr : PortAddress)
    (channel : Channel)
    (packetId : UInt64)
    (ackBuilt : Bool) :
    SendsOnlyAcks (sendAckResponse descriptor remoteAddr channel packetId
      ackBuilt) := by
  intro port address frame member
  unfold sendAckResponse krsNetSendFrame at member
  split_ifs at member
  · cases member
  · cases List.mem_singleton.mp member
    exact ⟨channel, packetId, rfl⟩
  · cases member

/-- A frame that leaves the connections as they are. -/
theorem HandledPlainly.of_eq
    {before after : ServerPortManager}
    {effects : List ServerEffect}
    (heap : after.connections = before.connections)
    (counter : after.nextConnectionId = before.nextConnectionId)
    (acks : SendsOnlyAcks effects) :
    HandledPlainly before after effects where
  heap := by
    rw [heap]
    exact IndexRelated.refl (fun _ conn => (SameDelivery.refl conn).released) _
  counter := counter
  acks := acks

theorem krsServerHandleHeartbeatFrame_plainly
    (spm : ServerPortManager)
    (descriptor : Nat)
    (remoteAddr : PortAddress)
    (now : UInt64) :
    HandledPlainly spm
      (krsServerHandleHeartbeatFrame spm descriptor remoteAddr now) [] := by
  have counter : ∀ (refs : List ConnectionRef) (current : ServerPortManager),
      (refs.foldl (fun current connection =>
        if current.hasAddress remoteAddr connection then
          current.modifyConnection connection fun conn =>
            { conn with lastHeartbeatMs := now }
        else current) current).nextConnectionId =
          current.nextConnectionId := by
    intro refs
    induction refs with
    | nil => exact fun _ => rfl
    | cons ref refs inductionHypothesis =>
        intro current
        rw [List.foldl_cons, inductionHypothesis]
        split <;> rfl
  unfold krsServerHandleHeartbeatFrame
  split
  case h_1 => exact .of_eq rfl rfl .nil
  case h_2 desc _ =>
    obtain ⟨heap, -, -⟩ := foldl_heartbeat remoteAddr now
      (allChannels.flatMap desc.connectionsOf) spm
    exact ⟨heap.mono fun _ _ _ refreshed => refreshed.sameDelivery.released,
      counter _ spm, .nil⟩

theorem dispatchDisconnect_plainly
    (spm : ServerPortManager)
    (descriptor : Nat)
    (remoteAddr : PortAddress) :
    HandledPlainly spm (dispatchDisconnect spm descriptor remoteAddr).1
      (dispatchDisconnect spm descriptor remoteAddr).2 where
  heap := by
    unfold dispatchDisconnect
    split
    case h_1 =>
      exact IndexRelated.refl
        (fun _ conn => (SameDelivery.refl conn).released) _
    case h_2 desc _ =>
      simp only
      generalize sweepChannels (disconnectVisit spm remoteAddr) desc = swept
      exact krsServerFinalizeOrphanEvictions_heap
        (spm.modifyDescriptor descriptor fun _ => swept.2) descriptor swept.1
  counter := dispatchDisconnect_nextConnectionId spm descriptor remoteAddr
  acks := by
    unfold dispatchDisconnect
    split
    case h_1 => exact .nil
    case h_2 => exact .of_silent (finalize_silent _ _ _)

theorem dispatchSubscribe_plainly
    (spm : ServerPortManager)
    (descriptor : Nat)
    (frame : Frame)
    (remoteAddr : PortAddress)
    (created pushed ackBuilt : Bool) :
    let handled := dispatchSubscribe spm descriptor frame remoteAddr created
      pushed ackBuilt
    HandledPlainly spm handled.1 handled.2 := by
  unfold dispatchSubscribe
  split
  case h_1 =>
    split
    case h_1 => exact .of_eq rfl rfl .nil
    case h_2 =>
      simp only
      split
      case h_1 => exact .of_eq rfl rfl .nil
      case h_2 =>
        refine .of_eq rfl rfl ?_
        split
        case isTrue => exact sendAckResponse_onlyAcks _ _ _ _ _
        case isFalse => exact .nil
  case h_2 => exact .of_eq rfl rfl .nil

theorem dispatchUnsubscribe_plainly
    (spm : ServerPortManager)
    (descriptor : Nat)
    (frame : Frame)
    (remoteAddr : PortAddress)
    (ackBuilt : Bool) :
    let handled := dispatchUnsubscribe spm descriptor frame remoteAddr ackBuilt
    HandledPlainly spm handled.1 handled.2 := by
  have acks : SendsOnlyAcks (if ackRequested frame then
      sendAckResponse descriptor remoteAddr 0 frame.packetId ackBuilt
      else []) := by
    split
    case isTrue => exact sendAckResponse_onlyAcks _ _ _ _ _
    case isFalse => exact .nil
  unfold dispatchUnsubscribe
  split
  case h_1 =>
    simp only
    split
    case h_1 => exact .of_eq rfl rfl acks
    case h_2 => exact .of_eq rfl rfl acks
  case h_2 => exact .of_eq rfl rfl .nil

theorem deliver_plainly
    (spm : ServerPortManager)
    (descriptor : Nat)
    (desc : UDPSocketDescriptor)
    (frame : Frame)
    (remoteAddr : PortAddress)
    (delivery : Delivery)
    (ackBuilt : Bool) :
    let delivered := deliver spm descriptor desc frame remoteAddr delivery
      ackBuilt
    delivered.1.nextConnectionId = spm.nextConnectionId ∧
      SendsOnlyAcks delivered.2 := by
  unfold deliver
  cases delivery.ackRequired with
  | true =>
      simp only [if_true]
      split
      case h_1 => exact ⟨rfl, sendAckResponse_onlyAcks _ _ _ _ _⟩
      case h_2 =>
        refine ⟨rfl, (sendAckResponse_onlyAcks _ _ _ _ _).append ?_⟩
        split
        case h_1 => exact .nil
        case h_2 => exact .of_silent (by simp)
  | false =>
      simp only [Bool.false_eq_true, if_false]
      split
      case h_1 => exact ⟨rfl, .nil⟩
      case h_2 =>
        refine ⟨rfl, SendsOnlyAcks.nil.append ?_⟩
        split
        case h_1 => exact .nil
        case h_2 => exact .of_silent (by simp)

theorem dispatchAppFrame_plainly
    {spm next : ServerPortManager}
    {descriptor : Nat}
    {frame : Frame}
    {remoteAddr : PortAddress}
    {now : UInt64}
    {created allocated ackBuilt : Bool}
    {effects : List ServerEffect}
    (dispatched : dispatchAppFrame spm descriptor frame remoteAddr now created
      allocated ackBuilt = some (next, effects)) :
    HandledPlainly spm next effects := by
  cases dispatchAppFrame_cases dispatched with
  | unregistered missing outcome =>
      cases outcome
      exact .of_eq rfl rfl .nil
  | whole desc read outcome =>
      obtain ⟨heap, -⟩ := deliver_effect spm descriptor desc frame remoteAddr
        _ _
      obtain ⟨counter, acks⟩ := deliver_plainly spm descriptor desc frame
        remoteAddr _ _
      rw [outcome] at heap counter acks
      exact .of_eq heap counter acks
  | stored desc state read reassembled outcome =>
      cases outcome
      exact .of_eq rfl rfl .nil
  | completed desc state delivery read reassembled outcome =>
      obtain ⟨heap, -⟩ := deliver_effect _ descriptor desc frame remoteAddr
        delivery _
      obtain ⟨counter, acks⟩ := deliver_plainly _ descriptor desc frame
        remoteAddr delivery _
      rw [outcome] at heap counter acks
      exact .of_eq heap counter acks

/-- What becomes of a frame. -/
inductive FrameOutcome
    (spm : ServerPortManager)
    (descriptor : Nat)
    (frame : Frame)
    (remoteAddr : PortAddress)
    (input : HandlerInput)
    (next : ServerPortManager)
    (effects : List ServerEffect) : Prop
  | connection
      (handled : dispatchConnection spm descriptor remoteAddr input.now
        input.connect = (next, effects))
  | acknowledgement
      (type : frame.frameType = FrameType.messageAck.code)
      (handled : dispatchAck spm frame remoteAddr input.now = next)
      (silent : effects = [])
  | plain
      (handled : HandledPlainly spm next effects)

theorem routeFrame_outcome
    {spm next : ServerPortManager}
    {descriptor : Nat}
    {frame : Frame}
    {remoteAddr : PortAddress}
    {input : HandlerInput}
    {effects : List ServerEffect}
    (routed : routeFrame spm descriptor frame remoteAddr input =
      some (next, effects)) :
    FrameOutcome spm descriptor frame remoteAddr input next effects := by
  have plainly : ∀ result : ServerPortManager × List ServerEffect,
      some result = some (next, effects) ->
        HandledPlainly spm result.1 result.2 ->
          FrameOutcome spm descriptor frame remoteAddr input next effects := by
    intro result returned handled
    rw [Option.some.inj returned] at handled
    exact .plain handled
  unfold routeFrame at routed
  split_ifs at routed with connection heartbeat disconnect subscribe
    unsubscribe acknowledgement other application
  · exact .connection (Option.some.inj routed)
  · exact plainly _ routed
      (krsServerHandleHeartbeatFrame_plainly spm descriptor remoteAddr _)
  · exact plainly _ routed
      (dispatchDisconnect_plainly spm descriptor remoteAddr)
  · exact plainly _ routed
      (dispatchSubscribe_plainly spm descriptor frame remoteAddr _ _ _)
  · exact plainly _ routed
      (dispatchUnsubscribe_plainly spm descriptor frame remoteAddr _)
  · cases routed
    exact .acknowledgement acknowledgement rfl rfl
  · exact plainly _ routed (.of_eq rfl rfl .nil)
  · exact .plain (dispatchAppFrame_plainly routed)
  · exact plainly _ routed (.of_eq rfl rfl .nil)

end Kronos
