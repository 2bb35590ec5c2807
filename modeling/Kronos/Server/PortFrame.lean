import Kronos.Server.Acknowledged
import Kronos.Server.History

/-!
# What the handlers leave alone

A datagram changes its own port only, and no handler changes the callbacks of a
port or its packet counters; the retransmit thread changes neither.  Packet
counters belong to the sends, and callbacks to the calls that set them.
-/

namespace Kronos

open Library

/-- The port number, the callbacks and the packet counters of a port are as
they were. -/
structure KeepsSettings (before after : UDPSocketDescriptor) : Prop where
  settings : { after with channelStates := before.channelStates } = before
  counters : ∀ channel, (after.channelStates channel).packetCounter =
    (before.channelStates channel).packetCounter

namespace KeepsSettings

theorem refl (desc : UDPSocketDescriptor) : KeepsSettings desc desc :=
  ⟨rfl, fun _ => rfl⟩

theorem trans
    {first second third : UDPSocketDescriptor}
    (earlier : KeepsSettings first second)
    (later : KeepsSettings second third) :
    KeepsSettings first third := by
  constructor
  · have kept := earlier.settings
    rw [← later.settings] at kept
    exact kept
  · intro channel
    exact (later.counters channel).trans (earlier.counters channel)

/-- Writing one channel without touching its counter. -/
theorem modifyChannel
    (desc : UDPSocketDescriptor)
    (channel : Channel)
    {change : ChannelState -> ChannelState}
    (same : (change (desc.channelStates channel)).packetCounter =
      (desc.channelStates channel).packetCounter) :
    KeepsSettings desc (desc.modifyChannel channel change) := by
  refine ⟨rfl, ?_⟩
  intro other
  unfold UDPSocketDescriptor.modifyChannel
  dsimp only
  by_cases here : other = channel
  · subst here
    rw [Function.update_self]
    exact same
  · rw [Function.update_of_ne here]

theorem sweepChannels
    (visit : List ConnectionRef -> ConnectionRef ->
      List ConnectionRef × Option ConnectionRef)
    (desc : UDPSocketDescriptor) :
    KeepsSettings desc (sweepChannels visit desc).2 := by
  have loop : ∀ (channels : List Channel)
      (current : List ConnectionRef × UDPSocketDescriptor),
      KeepsSettings current.2
        (channels.foldl (sweepChannel visit) current).2 := by
    intro channels
    induction channels with
    | nil => exact fun _ => refl _
    | cons channel channels inductionHypothesis =>
        intro current
        refine trans ?_ (inductionHypothesis _)
        unfold sweepChannel
        split
        case h_1 => exact refl _
        case h_2 =>
          dsimp only
          exact modifyChannel current.2 channel rfl
  exact loop allChannels ([], desc)

theorem sweepReassemblers (now : UInt64) (desc : UDPSocketDescriptor) :
    KeepsSettings desc (sweepReassemblers now desc) :=
  ⟨rfl, fun _ => rfl⟩

end KeepsSettings

/-- The port at a position: it keeps its settings, and is as it was unless it is
the one that is worked on. -/
def PortKept
    (descriptor : Nat)
    (index : Nat)
    (before after : UDPSocketDescriptor) : Prop :=
  KeepsSettings before after ∧ (index ≠ descriptor -> after = before)

/-- The ports of a server after some work on one of them. -/
def PortsKept
    (descriptor : Nat)
    (before after : List UDPSocketDescriptor) : Prop :=
  IndexRelated (PortKept descriptor) before after

theorem PortsKept.refl
    (descriptor : Nat)
    (descriptorList : List UDPSocketDescriptor) :
    PortsKept descriptor descriptorList descriptorList :=
  IndexRelated.refl (fun _ desc => ⟨.refl desc, fun _ => rfl⟩) _

theorem PortsKept.trans
    {descriptor : Nat}
    {first second third : List UDPSocketDescriptor}
    (earlier : PortsKept descriptor first second)
    (later : PortsKept descriptor second third) :
    PortsKept descriptor first third := by
  refine IndexRelated.trans ?_ earlier later
  rintro index a b c ⟨firstKept, firstSame⟩ ⟨secondKept, secondSame⟩
  exact ⟨firstKept.trans secondKept, fun other =>
    (secondSame other).trans (firstSame other)⟩

theorem PortsKept.modify
    (descriptor : Nat)
    (descriptorList : List UDPSocketDescriptor)
    {change : UDPSocketDescriptor -> UDPSocketDescriptor}
    (kept : ∀ desc, descriptorList[descriptor]? = some desc ->
      KeepsSettings desc (change desc)) :
    PortsKept descriptor descriptorList
      (descriptorList.modify descriptor change) := by
  refine IndexRelated.modify (fun _ desc => ⟨.refl desc, fun _ => rfl⟩) _ _ ?_
  intro desc read
  exact ⟨kept desc read, fun other => absurd rfl other⟩

/-! ## Channel states -/

theorem ensureConnections_packetCounter
    (created : Bool)
    (state : ChannelState) :
    (ensureConnections created state).packetCounter =
      state.packetCounter := by
  unfold ensureConnections
  split
  case h_1 => rfl
  case h_2 => split <;> rfl

theorem commitSubscription_packetCounter
    {connection : ConnectionRef}
    {created pushed : Bool}
    {state next : ChannelState}
    (committed : commitSubscription connection created pushed state =
      some next) :
    next.packetCounter = state.packetCounter := by
  unfold commitSubscription at committed
  split at committed
  case h_1 => cases committed
  case h_2 =>
    split at committed
    case isTrue =>
      cases committed
      rfl
    case isFalse =>
      split at committed
      case isTrue =>
        cases committed
        rfl
      case isFalse => cases committed

theorem reassemble_packetCounter
    {state next : ChannelState}
    {frame : Frame}
    {now : UInt64}
    {created allocated : Bool}
    {delivery : Option Delivery}
    (reassembled : reassemble state frame now created allocated =
      some (next, delivery)) :
    next.packetCounter = state.packetCounter := by
  rcases reassemble_cases reassembled with
    ⟨-, -, rfl, -⟩ | ⟨-, fed, result, -, rfl, -⟩
  · rfl
  · rfl

/-! ## Handlers -/

section Handlers

variable (spm : ServerPortManager) (descriptor : Nat)

theorem connectionSection_portsKept
    (remoteAddr : PortAddress)
    (now : UInt64)
    (allocations : ConnectAllocations) :
    PortsKept descriptor spm.descriptorList
      (connectionSection spm descriptor remoteAddr now
        allocations).descriptorList := by
  have opened : PortsKept descriptor spm.descriptorList
      (spm.modifyDescriptor descriptor (·.modifyChannel 0
        (ensureConnections allocations.array))).descriptorList :=
    PortsKept.modify _ _ fun desc _ =>
      .modifyChannel desc 0 (ensureConnections_packetCounter _ _)
  unfold connectionSection
  dsimp only
  generalize spm.modifyDescriptor descriptor _ = between at *
  split
  case h_1 => exact opened
  case h_2 =>
    split
    case h_1 => exact opened
    case h_2 =>
      split
      case isTrue => exact opened
      case isFalse =>
        split
        case isTrue => exact opened
        case isFalse =>
          exact opened.trans (PortsKept.modify _ _ fun desc _ =>
            .modifyChannel desc 0 rfl)

theorem disconnectSection_portsKept (remoteAddr : PortAddress) :
    PortsKept descriptor spm.descriptorList
      (disconnectSection spm descriptor remoteAddr).2.descriptorList := by
  unfold disconnectSection
  split
  case h_1 => exact PortsKept.refl _ _
  case h_2 desc read =>
    refine PortsKept.modify _ _ fun old oldRead => ?_
    rw [read] at oldRead
    cases oldRead
    exact KeepsSettings.sweepChannels _ desc

theorem evictDescriptor_portsKept (now : UInt64) :
    PortsKept descriptor spm.descriptorList
      (evictDescriptor spm now descriptor).1.descriptorList := by
  rw [evictDescriptor_eq, krsServerFinalizeOrphanEvictions_descriptorList]
  unfold evictSection
  split
  case h_1 => exact PortsKept.refl _ _
  case h_2 desc read =>
    refine PortsKept.modify _ _ fun old oldRead => ?_
    rw [read] at oldRead
    cases oldRead
    exact (KeepsSettings.sweepChannels _ desc).trans
      (.sweepReassemblers now _)

variable {spm} {descriptor}

theorem dispatchAppFrame_portsKept
    {next : ServerPortManager}
    {frame : Frame}
    {remoteAddr : PortAddress}
    {now : UInt64}
    {created allocated ackBuilt : Bool}
    {effects : List ServerEffect}
    (dispatched : dispatchAppFrame spm descriptor frame remoteAddr now
      created allocated ackBuilt = some (next, effects)) :
    PortsKept descriptor spm.descriptorList next.descriptorList := by
  have stored : ∀ {desc state delivery},
      spm.descriptorList[descriptor]? = some desc ->
      reassemble (desc.channelStates frame.channel) frame now created
        allocated = some (state, delivery) ->
      PortsKept descriptor spm.descriptorList
        (spm.descriptorList.modify descriptor
          (·.modifyChannel frame.channel fun _ => state)) := by
    intro desc state delivery read reassembled
    refine PortsKept.modify _ _ fun old oldRead => ?_
    rw [read] at oldRead
    cases oldRead
    exact .modifyChannel desc _ (reassemble_packetCounter reassembled)
  cases dispatchAppFrame_cases dispatched with
  | unregistered missing outcome =>
      cases outcome
      exact PortsKept.refl _ _
  | whole desc read outcome =>
      obtain ⟨-, -, descriptors, -⟩ := deliver_effect spm descriptor desc
        frame remoteAddr
        { data := frame.body
          dataLength := frame.body.length
          ackRequired := ackRequested frame } ackBuilt
      rw [outcome] at descriptors
      rw [descriptors]
      exact PortsKept.refl _ _
  | stored desc state read reassembled outcome =>
      cases outcome
      exact stored read reassembled
  | completed desc state delivery read reassembled outcome =>
      obtain ⟨-, -, descriptors, -⟩ := deliver_effect _ descriptor desc
        frame remoteAddr delivery ackBuilt
      rw [outcome] at descriptors
      rw [descriptors]
      exact stored read reassembled

theorem Routed.portsKept
    {frame : Frame}
    {remoteAddr : PortAddress}
    {input : HandlerInput}
    {result : ServerPortManager × List ServerEffect}
    (routed : Routed spm descriptor frame remoteAddr input result) :
    PortsKept descriptor spm.descriptorList result.1.descriptorList := by
  cases routed with
  | connection =>
      obtain ⟨map, handled⟩ := krsServerHandleConnectionFrame_section spm
        descriptor remoteAddr input.now input.connect
      unfold dispatchConnection
      dsimp only
      rw [handled]
      exact connectionSection_portsKept _ _ _ _ _
  | heartbeat =>
      unfold krsServerHandleHeartbeatFrame
      split
      case h_1 => exact PortsKept.refl _ _
      case h_2 desc _ =>
        obtain ⟨-, -, descriptors⟩ := foldl_heartbeat remoteAddr input.now
          (allChannels.flatMap desc.connectionsOf) spm
        dsimp only
        rw [descriptors]
        exact PortsKept.refl _ _
  | disconnect =>
      rw [dispatchDisconnect_eq,
        krsServerFinalizeOrphanEvictions_descriptorList]
      exact disconnectSection_portsKept _ _ _
  | subscribe =>
      unfold dispatchSubscribe
      split
      case h_2 => exact PortsKept.refl _ _
      case h_1 target desc _ read =>
        split
        case h_1 => exact PortsKept.refl _ _
        case h_2 =>
          dsimp only
          split
          case h_1 =>
            exact PortsKept.modify _ _ fun old _ =>
              .modifyChannel old _ (ensureConnections_packetCounter _ _)
          case h_2 state committed =>
            refine PortsKept.modify _ _ fun old oldRead => ?_
            rw [read] at oldRead
            cases oldRead
            exact .modifyChannel desc _
              (commitSubscription_packetCounter committed)
  | unsubscribe =>
      unfold dispatchUnsubscribe
      split
      case h_2 => exact PortsKept.refl _ _
      case h_1 =>
        dsimp only
        split
        case h_1 => exact PortsKept.refl _ _
        case h_2 =>
          exact PortsKept.modify _ _ fun desc _ =>
            .modifyChannel desc _ rfl
  | acknowledgement =>
      rw [dispatchAck_descriptorList]
      exact PortsKept.refl _ _
  | ignored => exact PortsKept.refl _ _
  | application _ _ dispatched => exact dispatchAppFrame_portsKept dispatched

/-- A datagram leaves the other ports, and the settings and packet counters of
its own port, as they are. -/
theorem handleDatagram_portsKept
    {next : ServerPortManager}
    {bytes : List UInt8}
    {remoteAddr : PortAddress}
    {input : HandlerInput}
    {effects : List ServerEffect}
    (handled : handleDatagram spm descriptor bytes remoteAddr input =
      some (next, effects)) :
    PortsKept descriptor spm.descriptorList next.descriptorList := by
  unfold handleDatagram at handled
  dsimp only at handled
  split at handled
  case isTrue =>
    cases handled
    exact PortsKept.refl _ _
  case isFalse => exact (routeFrame_routed handled).portsKept

end Handlers

/-! ## The retransmit thread -/

/-- All ports keep their settings and packet counters. -/
def SettingsKept (before after : List UDPSocketDescriptor) : Prop :=
  IndexRelated (fun _ => KeepsSettings) before after

theorem PortsKept.settings
    {descriptor : Nat}
    {before after : List UDPSocketDescriptor}
    (kept : PortsKept descriptor before after) :
    SettingsKept before after :=
  IndexRelated.mono (fun _ _ _ same => same.1) kept

theorem SettingsKept.trans
    {first second third : List UDPSocketDescriptor}
    (earlier : SettingsKept first second)
    (later : SettingsKept second third) :
    SettingsKept first third :=
  IndexRelated.trans (fun _ _ _ _ before after => before.trans after) earlier
    later

theorem evictAll_settingsKept
    (spm : ServerPortManager)
    (clock : Nat -> UInt64) :
    SettingsKept spm.descriptorList
      (evictAll spm clock).1.descriptorList := by
  have loop : ∀ (descriptors : List Nat)
      (current : ServerPortManager × List ServerEffect),
      SettingsKept current.1.descriptorList
        (descriptors.foldl (fun current descriptor =>
          let evicted := evictDescriptor current.1 (clock descriptor)
            descriptor
          (evicted.1, current.2 ++ evicted.2)) current).1.descriptorList := by
    intro descriptors
    induction descriptors with
    | nil => exact fun _ => IndexRelated.refl (fun _ => KeepsSettings.refl) _
    | cons descriptor descriptors inductionHypothesis =>
        intro current
        exact (evictDescriptor_portsKept current.1 descriptor
          (clock descriptor)).settings.trans (inductionHypothesis _)
  exact loop _ (spm, [])

/-- A tick leaves the settings and packet counters of all ports as they are. -/
theorem retransmitTick_settingsKept
    (spm : ServerPortManager)
    (clock : TickClock) :
    SettingsKept spm.descriptorList
      (retransmitTick spm clock).1.descriptorList := by
  have collected : (collectAll spm clock.check).2.descriptorList =
      spm.descriptorList := by
    rw [collectAll_eq]
  unfold retransmitTick
  dsimp only
  generalize collectAll spm clock.check = buffers at *
  rw [← collected]
  exact evictAll_settingsKept _ clock.evict

end Kronos
