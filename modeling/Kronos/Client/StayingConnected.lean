import Kronos.Client.Connect
import Kronos.Client.Outgoing
import Kronos.Client.Window
import Kronos.Library.Lease
import Kronos.Server.Beats

/-!
# Staying connected

The receive thread of a client sends a heartbeat when 5000 ms have passed since
the last one, and an eviction tick of the server removes a connection whose
last heartbeat is 30000 ms old.  The heartbeats go over a network that loses,
delays, repeats and reorders them.  The tick and the handlers read the clock
before they take the lock.  While the rounds of the receive thread follow one
another soon enough, not too many heartbeats in a row are lost, and no tick
meets a heartbeat of the connection that is newer than its reading, the server
keeps the connection, whatever else reaches it, unless the client disconnects.
-/

namespace Kronos

open Library

/-! ## A client, its server, and the heartbeats between them -/

/-- Which connection it is about, how far the clocks of the server and of the
client are ahead of a common time in milliseconds, and what is known of the
network and of the threads: how long connecting takes at most, and the handler
of a frame from its reading of the clock to its section; the time between two
rounds of the client's thread, and the delay of a heartbeat; and which
heartbeats are lost, and how many in a row. -/
structure HeartbeatSetting where
  descriptor : Nat
  ref : ConnectionRef
  address : PortAddress
  serverAhead : Nat
  clientAhead : Nat
  handshake : Nat
  handling : Nat
  gap : Nat
  delay : Nat
  losses : Nat
  lost : Nat -> Bool

namespace HeartbeatSetting

variable (setting : HeartbeatSetting)

/-- What `GetTickCount64` returns on the server. -/
def serverClock (time : Nat) : UInt64 :=
  UInt64.ofNat (setting.serverAhead + time)

/-- What `GetTickCount64` returns on the client. -/
def clientClock (time : Nat) : UInt64 :=
  UInt64.ofNat (setting.clientAhead + time)

/-- The longest time from one heartbeat to the next. -/
def period : Nat := krsClientHeartbeatIntervalMs + setting.gap

/-- By so much the last heartbeat that the server has heard of may be older
than the client's. -/
def lag : Nat := max setting.handshake setting.handling

/-- Handshake or handling, delay and the lost heartbeats together take less
than the timeout of the server. -/
def WithinTimeout : Prop :=
  setting.lag + setting.delay + (setting.losses + 1) * setting.period <
    krsHeartbeatTimeoutMs

end HeartbeatSetting

/-- The clock that a round of the receive thread reads. -/
def ClientEvent.roundClock : ClientEvent -> Option UInt64
  | .service now _ => some now
  | _ => none

/-- The heartbeats of an event, with the datagram if one could be built. -/
def eventBeats (conn : ServerConnection) :
    ClientEvent -> List (Option (List UInt8))
  | .service now built =>
      if (now - conn.lastHeartbeatSentMs).toNat ≥
          krsClientHeartbeatIntervalMs then
        [(clientDatagrams (clientHeartbeat conn now built).2).head?]
      else []
  | _ => []

/-- A server and one of its clients, at some time.  The heartbeats are listed
with the time at which they were due, and `arrived` says which of their
datagrams have reached the server.  Heartbeat 0 stands for connecting.
`readings` are the times at which the server's threads have read the clock for
sections still to come, and `heard` is the time that the connection's last
heartbeat stands for. -/
structure HeartbeatRun where
  spm : ServerPortManager
  client : ServerConnection
  time : Nat
  lastRound : Nat
  beats : List (Nat × Option (List UInt8))
  arrived : List Nat
  readings : List Nat
  heard : Nat

/-- Time passes; the client does something; a thread of the server reads the
clock; with such a reading, the server handles the datagram of a heartbeat,
perhaps once more, or deals with anything else. -/
inductive HeartbeatEvent
  | pass (milliseconds : Nat)
  | client (event : ClientEvent)
  | readClock
  | arrive (beat : Nat) (reading : Nat)
  | server (event : HandlerEvent) (reading : Nat)

/-- The times of the heartbeats. -/
def HeartbeatRun.times (current : HeartbeatRun) : List Nat :=
  current.beats.map Prod.fst

/-- The times after one more heartbeat. -/
theorem HeartbeatRun.times_beat
    (current : HeartbeatRun)
    (client : ServerConnection)
    (lastRound : Nat)
    (datagram : Option (List UInt8)) :
    HeartbeatRun.times
        { current with
          client := client
          lastRound := lastRound
          beats := current.beats ++ [(current.time, datagram)] } =
      current.times ++ [current.time] :=
  List.map_append

/-- The server has used a reading of the clock. -/
def HeartbeatRun.handled
    (setting : HeartbeatSetting)
    (current : HeartbeatRun)
    (spm : ServerPortManager)
    (reading : Nat) : HeartbeatRun :=
  { current with
    spm := spm
    readings := current.readings.erase reading
    heard :=
      if lastHeartbeatOf spm setting.ref =
          lastHeartbeatOf current.spm setting.ref then current.heard
      else reading }

/-- One step of client, network and server. -/
def heartbeatStep (setting : HeartbeatSetting) (current : HeartbeatRun) :
    HeartbeatEvent -> Option HeartbeatRun
  | .pass milliseconds =>
      some { current with time := current.time + milliseconds }
  | .client event =>
      (clientStep current.client event).map fun client =>
        { current with
          client := client
          lastRound :=
            if event.roundClock.isSome then current.time
            else current.lastRound
          beats := current.beats ++
            (eventBeats current.client event).map fun datagram =>
              (current.time, datagram) }
  | .readClock =>
      some { current with readings := current.readings ++ [current.time] }
  | .arrive beat reading =>
      if reading ∈ current.readings then
        (current.beats[beat]?.bind Prod.snd).bind fun datagram =>
          (handleDatagram current.spm setting.descriptor datagram
              setting.address { now := setting.serverClock reading }).map
            fun next =>
              { current.handled setting next.1 reading with
                arrived := current.arrived ++ [beat] }
      else none
  | .server event reading =>
      if reading ∈ current.readings ∧
          event.clock = setting.serverClock reading then
        (handlerEffect current.spm event).map fun next =>
          current.handled setting next.1 reading
      else none

/-- What a reading of the clock has to be for an event: that of a frame is not
too old, and when a tick sweeps the port of the connection, the connection's
last heartbeat is not newer than the reading of the tick. -/
def ReadingInOrder
    (setting : HeartbeatSetting)
    (current : HeartbeatRun)
    (reading : Nat) : HandlerEvent -> Prop
  | .frame .. => current.time ≤ reading + setting.handling
  | .evict own _ => own = setting.descriptor -> current.heard ≤ reading

/-- Time passes no round of the receive thread and no heartbeat that is not
lost.  The client reads its clock when a round takes place, the readings of the
server's threads are in order, and the server gets no `DISCONNECT` from the
client. -/
def HeartbeatAllowed (setting : HeartbeatSetting) (current : HeartbeatRun) :
    HeartbeatEvent -> Prop
  | .pass milliseconds =>
      current.time + milliseconds ≤ current.lastRound + setting.gap ∧
        Punctual setting.delay (current.time + milliseconds) setting.lost
          current.times (· ∈ 0 :: current.arrived)
  | .client event =>
      event.roundClock = none ∨
        event.roundClock = some (setting.clientClock current.time)
  | .readClock => True
  | .arrive _ reading => current.time ≤ reading + setting.handling
  | .server event reading =>
      ReadingInOrder setting current reading event ∧
        ¬ ControlFrame .disconnect setting.descriptor setting.address event

instance
    (type : FrameType)
    (descriptor : Nat)
    (address : PortAddress) :
    (event : HandlerEvent) ->
      Decidable (ControlFrame type descriptor address event)
  | .frame .. => inferInstanceAs (Decidable (_ ∧ _ ∧ _ ∧ _))
  | .evict .. => inferInstanceAs (Decidable False)

instance
    (setting : HeartbeatSetting)
    (current : HeartbeatRun)
    (reading : Nat) :
    (event : HandlerEvent) ->
      Decidable (ReadingInOrder setting current reading event)
  | .frame .. => inferInstanceAs (Decidable (_ ≤ _))
  | .evict .. => inferInstanceAs (Decidable (_ = _ -> _))

instance (setting : HeartbeatSetting) (current : HeartbeatRun) :
    (event : HeartbeatEvent) ->
      Decidable (HeartbeatAllowed setting current event)
  | .pass _ => inferInstanceAs (Decidable (_ ∧ _))
  | .client _ => inferInstanceAs (Decidable (_ ∨ _))
  | .readClock => inferInstanceAs (Decidable True)
  | .arrive _ _ => inferInstanceAs (Decidable (_ ≤ _))
  | .server _ _ => inferInstanceAs (Decidable (_ ∧ _))

/-! ## The client's side -/

/-- The datagram of a heartbeat. -/
def heartbeatDatagram : List UInt8 :=
  serializeToBuffer (krsFrameBuilderCreate 1 .heartbeat) 32

section Client

variable {conn : ServerConnection}

/-- Connecting counts as the first heartbeat. -/
theorem krsClientServerConnect_heartbeatSent
    {outcomes : ConnectOutcomes}
    {received : Option (List UInt8)}
    {now : UInt64}
    {client : ServerConnection}
    (connects : (krsClientServerConnect outcomes received now).1 =
      some client) :
    client.lastHeartbeatSentMs = now := by
  unfold krsClientServerConnect at connects
  dsimp only at connects
  split at connects
  case isTrue => cases connects
  case isFalse =>
    obtain ⟨connectionId, -, made⟩ := Option.bind_eq_some_iff.mp connects
    split at made
    case isTrue => rw [← Option.some.inj made]
    case isFalse => cases made

theorem takeSlot_heartbeatSent
    {taken : ServerConnection}
    (admitted : conn.takeSlot = some taken) :
    taken.lastHeartbeatSentMs = conn.lastHeartbeatSentMs := by
  unfold ServerConnection.takeSlot at admitted
  split at admitted
  case h_1 => rw [Option.some.inj admitted]
  case h_2 =>
    split at admitted
    case isTrue =>
      rw [← Option.some.inj admitted]
    case isFalse => cases admitted

theorem sendNumbered_heartbeatSent
    (conn : ServerConnection)
    (packetId : UInt64)
    (channel : Channel)
    (data : List UInt8)
    (length : UInt16)
    (requireAck : Bool)
    (clock : Nat -> UInt64)
    (allocations : SendAllocations) :
    (sendNumbered conn packetId channel data length requireAck clock
      allocations).1.lastHeartbeatSentMs = conn.lastHeartbeatSentMs := by
  unfold sendNumbered
  dsimp only
  split
  case h_1 => split_ifs <;> rfl
  case h_2 => split_ifs <;> rfl

theorem krsClientSend_heartbeatSent
    (conn : ServerConnection)
    (channel : Channel)
    (data : List UInt8)
    (length : UInt16)
    (requireAck : Bool)
    (clock : Nat -> UInt64)
    (allocations : SendAllocations) :
    (krsClientSend conn channel data length requireAck clock
      allocations).1.lastHeartbeatSentMs = conn.lastHeartbeatSentMs := by
  unfold krsClientSend
  split
  case isTrue => rfl
  case isFalse =>
    cases requireAck with
    | false => exact sendNumbered_heartbeatSent _ _ _ _ _ _ _ _
    | true =>
        simp only [if_true]
        split
        case h_1 => rfl
        case h_2 taken admitted =>
          rw [sendNumbered_heartbeatSent, takeSlot_heartbeatSent admitted]
          rfl

theorem krsClientSubscribe_heartbeatSent
    (conn : ServerConnection)
    (channel : Channel)
    (now : UInt64)
    (allocations : SendAllocations) :
    (krsClientSubscribe conn channel now
      allocations).1.lastHeartbeatSentMs = conn.lastHeartbeatSentMs := by
  unfold krsClientSubscribe
  dsimp only
  split_ifs <;> rfl

theorem krsClientUnsubscribe_heartbeatSent
    (conn : ServerConnection)
    (channel : Channel)
    (built : Bool) :
    (krsClientUnsubscribe conn channel
      built).1.lastHeartbeatSentMs = conn.lastHeartbeatSentMs := by
  unfold krsClientUnsubscribe
  dsimp only
  split_ifs <;> rfl

theorem subscribeSucceeded_heartbeatSent
    (conn : ServerConnection)
    (channel : Channel) :
    (subscribeSucceeded conn channel).lastHeartbeatSentMs =
      conn.lastHeartbeatSentMs := by
  unfold subscribeSucceeded
  split_ifs <;> rfl

theorem subscribeTimeout_heartbeatSent (conn : ServerConnection) :
    (subscribeTimeout conn).1.lastHeartbeatSentMs =
      conn.lastHeartbeatSentMs := by
  unfold subscribeTimeout
  split_ifs <;> rfl

theorem clientRetransmit_heartbeatSent
    (conn : ServerConnection)
    (now : UInt64) :
    (clientRetransmit conn now).1.lastHeartbeatSentMs =
      conn.lastHeartbeatSentMs := by
  unfold clientRetransmit
  split <;> rfl

theorem clientAcknowledge_heartbeatSent
    (conn : ServerConnection)
    (frame : Frame)
    (now : UInt64) :
    (clientAcknowledge conn frame now).lastHeartbeatSentMs =
      conn.lastHeartbeatSentMs := by
  unfold clientAcknowledge
  cases conn.ackTracker with
  | none => dsimp only; split_ifs <;> rfl
  | some tracker =>
      dsimp only
      split <;> split_ifs <;> rfl

/-- Only a round of the receive thread changes when the last heartbeat was
sent. -/
theorem clientStep_heartbeatSent
    {event : ClientEvent}
    {next : ServerConnection}
    (between : event.roundClock = none)
    (stepped : clientStep conn event = some next) :
    next.lastHeartbeatSentMs = conn.lastHeartbeatSentMs := by
  cases event with
  | send channel data length requireAck clock allocations =>
      rw [← Option.some.inj stepped]
      exact krsClientSend_heartbeatSent _ _ _ _ _ _ _
  | subscribe channel now allocations =>
      rw [← Option.some.inj stepped]
      exact krsClientSubscribe_heartbeatSent _ _ _ _
  | poll channel =>
      rw [← Option.some.inj stepped]
      split
      case isTrue => exact subscribeSucceeded_heartbeatSent _ _
      case isFalse => rfl
  | timeout =>
      rw [← Option.some.inj stepped]
      exact subscribeTimeout_heartbeatSent _
  | unsubscribe channel built =>
      rw [← Option.some.inj stepped]
      exact krsClientUnsubscribe_heartbeatSent _ _ _
  | service now built => cases between
  | receive datagram now allocations =>
      obtain ⟨⟨after, effects⟩, received, rfl⟩ :=
        Option.map_eq_some_iff.mp stepped
      cases clientReceive_cases received with
      | idle outcome => cases outcome; rfl
      | acknowledged frame parsed accepted type outcome =>
          cases outcome
          exact clientAcknowledge_heartbeatSent _ _ _
      | whole frame outcome => cases outcome; rfl
      | fed frame parsed arrived accepted type application subscribed flagged
          fedTo reassembled outcome => cases outcome; rfl

theorem eventBeats_between
    {event : ClientEvent}
    (between : event.roundClock = none) :
    eventBeats conn event = [] := by
  cases event with
  | service now built => cases between
  | send | subscribe | poll | timeout | unsubscribe | receive => rfl

/-- A heartbeat carries its datagram. -/
theorem eventBeats_datagram
    {event : ClientEvent}
    {datagram : List UInt8}
    (member : some datagram ∈ eventBeats conn event) :
    datagram = heartbeatDatagram := by
  cases event with
  | service now built =>
      rw [eventBeats] at member
      split at member
      case isTrue due =>
        have sent := List.mem_of_mem_head? (List.mem_singleton.mp member).symm
        unfold clientHeartbeat at sent
        rw [if_pos due] at sent
        dsimp only at sent
        split at sent
        case isTrue => exact mem_clientDatagrams_sendFrame sent
        case isFalse => cases sent
      case isFalse => cases member
  | send | subscribe | poll | timeout | unsubscribe | receive => cases member

end Client

/-! ## The server's side -/

/-- A server that has counted one more datagram. -/
def ServerPortManager.countMessage (spm : ServerPortManager) :
    ServerPortManager :=
  { spm with
    stats :=
      { spm.stats with
        messagesReceived := spm.stats.messagesReceived + 1 } }

/-- The handler thread counts the datagram of a heartbeat and goes on to
`krs_server_handle_heartbeat_frame`. -/
theorem handleDatagram_heartbeat
    (spm : ServerPortManager)
    (descriptor : Nat)
    (remoteAddr : PortAddress)
    (now : UInt64) :
    let frame := krsFrameCreate heartbeatDatagram kronosBufferSize
    handleDatagram spm descriptor heartbeatDatagram remoteAddr
        { now := now } =
      handlerEffect spm.countMessage
        (.frame descriptor frame remoteAddr now) ∧
    handlerEffect spm.countMessage
        (.frame descriptor frame remoteAddr now) =
      some (krsServerHandleHeartbeatFrame spm.countMessage descriptor
        remoteAddr now, []) := by
  intro frame
  have accepted : frame.protocolChar = 0x4B := by decide +kernel
  have channel : frame.channel = 1 := by decide +kernel
  have type : frame.frameType = FrameType.heartbeat.code := by
    decide +kernel
  constructor
  · unfold handleDatagram
    exact if_neg (not_not.mpr accepted)
  · change routeFrame spm.countMessage descriptor frame remoteAddr _ = _
    unfold routeFrame
    rw [if_neg, if_pos ⟨channel, type⟩]
    rintro ⟨other, -⟩
    rw [channel] at other
    exact absurd other (by decide)

/-- A frame leaves the last heartbeat of a connection as it is or sets it to
the clock of the handler, and a tick leaves it as it is. -/
theorem handlerEffect_hears
    {before after : ServerPortManager}
    {event : HandlerEvent}
    {effects : List ServerEffect}
    {ref : ConnectionRef}
    (inside : ref < before.connections.length)
    (effect : handlerEffect before event = some (after, effects)) :
    lastHeartbeatOf after ref = lastHeartbeatOf before ref ∨
      (∃ descriptor frame remoteAddr now,
        event = .frame descriptor frame remoteAddr now) ∧
        lastHeartbeatOf after ref = event.clock := by
  have read := List.getElem?_eq_getElem inside
  unfold lastHeartbeatOf
  rw [read]
  cases event with
  | frame descriptor frame remoteAddr now =>
      obtain ⟨next, found, beats⟩ := handlerEffect_beatsAt effect ref _ read
      rw [found]
      exact beats.imp_right fun set =>
        ⟨⟨descriptor, frame, remoteAddr, now, rfl⟩, set⟩
  | evict descriptor now =>
      have evicted := evictDescriptor_heartbeats before now descriptor
      rw [Option.some.inj effect] at evicted
      obtain ⟨next, found, same⟩ := evicted.exists_new read
      rw [found]
      exact Or.inl same

/-- An event keeps a connection unless a tick of its port finds it stale or it
is a `DISCONNECT` from its address. -/
theorem handlerEffect_keeps
    {before after : ServerPortManager}
    {event : HandlerEvent}
    {effects : List ServerEffect}
    {descriptor : Nat}
    {ref : ConnectionRef}
    {address : PortAddress}
    (roster : RosterInvariant before)
    (listedAs : ListedAs before descriptor 0 ref address)
    (effect : handlerEffect before event = some (after, effects))
    (stays : ¬ ControlFrame .disconnect descriptor address event)
    (fresh : ∀ now, event = .evict descriptor now ->
      isStale before now ref = false) :
    ListedAs after descriptor 0 ref address := by
  refine (listedAs_zero_iff roster effect descriptor ref address).mpr
    (Or.inr ⟨listedAs, ?_⟩)
  rintro (disconnects | evicts)
  · exact stays disconnects
  · cases event with
    | frame => exact evicts
    | evict own now =>
        obtain ⟨rfl, stale⟩ := evicts
        rw [fresh now rfl] at stale
        cases stale

/-! ## What holds in every state -/

/-- Differences between readings of one clock. -/
theorem toNat_clock_sub
    (ahead : Nat)
    {earlier later : Nat}
    (order : earlier ≤ later)
    (small : later - earlier < 2 ^ 64) :
    (UInt64.ofNat (ahead + later) - UInt64.ofNat (ahead + earlier)).toNat =
      later - earlier := by
  simp only [UInt64.toNat_sub, UInt64.toNat_ofNat']
  omega

/-- The connection is on channel 0.  No heartbeat that arrived was due much
later than the one that the connection has kept.  The heartbeats follow one
another closely, none that is not lost is overdue, and the last one is
young. -/
structure StayingInvariant
    (setting : HeartbeatSetting)
    (current : HeartbeatRun) : Prop where
  roster : RosterInvariant current.spm
  listedAs : ListedAs current.spm setting.descriptor 0 setting.ref
    setting.address
  hears : lastHeartbeatOf current.spm setting.ref =
    setting.serverClock current.heard
  heardBefore : current.heard ≤ current.time
  bound : ∀ beat ∈ 0 :: current.arrived, ∃ due,
    current.times[beat]? = some due ∧ due ≤ current.heard + setting.lag
  readings : ∀ reading ∈ current.readings, reading ≤ current.time
  past : ∀ due ∈ current.times, due ≤ current.time
  datagrams : ∀ due datagram, (due, some datagram) ∈ current.beats ->
    datagram = heartbeatDatagram
  paced : Paced setting.period current.times
  sent : ∃ last, current.times.getLast? = some last ∧
    current.client.lastHeartbeatSentMs = setting.clientClock last ∧
      last ≤ current.lastRound ∧
      current.lastRound < last + krsClientHeartbeatIntervalMs
  round : current.lastRound ≤ current.time ∧
    current.time ≤ current.lastRound + setting.gap
  punctual : Punctual setting.delay current.time setting.lost current.times
    (· ∈ 0 :: current.arrived)

namespace StayingInvariant

variable
  {setting : HeartbeatSetting}
  {current : HeartbeatRun}

/-- The last heartbeat is young. -/
theorem recent
    (invariant : StayingInvariant setting current)
    (within : setting.WithinTimeout)
    (few : FewLost setting.losses setting.lost) :
    current.time < current.heard + krsHeartbeatTimeoutMs := by
  obtain ⟨first, begins, -⟩ := invariant.bound 0 List.mem_cons_self
  obtain ⟨beat, due, found, came, young⟩ := exists_recent_beat
    invariant.paced few invariant.punctual begins List.mem_cons_self (by
      intro latest isLast
      obtain ⟨last, same, -, before, soon⟩ := invariant.sent
      rw [isLast] at same
      cases same
      have round := invariant.round.2
      unfold HeartbeatSetting.period
      omega)
  obtain ⟨other, same, late⟩ := invariant.bound beat came
  rw [found] at same
  cases same
  unfold HeartbeatSetting.WithinTimeout at within
  omega

/-- The connection is not stale, for a reading that is not older than its last
heartbeat. -/
theorem fresh
    (invariant : StayingInvariant setting current)
    (recent : current.time < current.heard + krsHeartbeatTimeoutMs)
    {reading : Nat}
    (after : current.heard ≤ reading)
    (before : reading ≤ current.time) :
    isStale current.spm (setting.serverClock reading) setting.ref =
      false := by
  rw [← Bool.not_eq_true, isStale_iff]
  rintro ⟨-, old⟩
  unfold krsHeartbeatTimeoutMs at recent old
  rw [invariant.hears, HeartbeatSetting.serverClock,
    HeartbeatSetting.serverClock, toNat_clock_sub _ after (by omega)] at old
  omega

/-- A thread of the server reads the clock. -/
theorem reads
    (invariant : StayingInvariant setting current) :
    StayingInvariant setting
      { current with readings := current.readings ++ [current.time] } := by
  refine { invariant with readings := ?_ }
  intro reading member
  rcases List.mem_append.mp member with earlier | now
  · exact invariant.readings reading earlier
  · exact Nat.le_of_eq (List.mem_singleton.mp now)

/-- The server deals with something. -/
theorem handles
    (invariant : StayingInvariant setting current)
    {spm : ServerPortManager}
    (roster : RosterInvariant spm)
    (listedAs : ListedAs spm setting.descriptor 0 setting.ref
      setting.address)
    {reading : Nat}
    (read : reading ∈ current.readings)
    (hears : lastHeartbeatOf spm setting.ref =
        lastHeartbeatOf current.spm setting.ref ∨
      current.time ≤ reading + setting.handling ∧
        lastHeartbeatOf spm setting.ref = setting.serverClock reading) :
    StayingInvariant setting (current.handled setting spm reading) := by
  have readings : ∀ other ∈ current.readings.erase reading,
      other ≤ current.time := fun other member =>
    invariant.readings other (List.mem_of_mem_erase member)
  by_cases same : lastHeartbeatOf spm setting.ref =
      lastHeartbeatOf current.spm setting.ref
  · rw [HeartbeatRun.handled, if_pos same]
    exact { invariant with
      roster := roster
      listedAs := listedAs
      hears := same.trans invariant.hears
      readings := readings }
  · obtain ⟨young, set⟩ := hears.resolve_left same
    rw [HeartbeatRun.handled, if_neg same]
    refine { invariant with
      roster := roster
      listedAs := listedAs
      hears := set
      heardBefore := invariant.readings reading read
      bound := ?_
      readings := readings }
    intro beat came
    obtain ⟨due, found, -⟩ := invariant.bound beat came
    have before := invariant.past due (List.mem_of_getElem? found)
    have lag : setting.handling ≤ setting.lag := Nat.le_max_right _ _
    refine ⟨due, found, ?_⟩
    dsimp only
    omega

/-- A heartbeat has arrived that was not due much later than the one that the
connection has kept. -/
theorem arrives
    (invariant : StayingInvariant setting current)
    {beat due : Nat}
    (found : current.times[beat]? = some due)
    (young : current.time ≤ current.heard + setting.lag) :
    StayingInvariant setting
      { current with arrived := current.arrived ++ [beat] } := by
  refine { invariant with bound := ?_, punctual := ?_ }
  · intro other came
    rcases List.mem_append.mp
      (show other ∈ (0 :: current.arrived) ++ [beat] from came) with
      earlier | now
    · exact invariant.bound other earlier
    · rw [List.mem_singleton.mp now]
      have before := invariant.past due (List.mem_of_getElem? found)
      exact ⟨due, found, Nat.le_trans before young⟩
  · intro other due here kept overdue
    exact List.mem_append_left [beat]
      (invariant.punctual other due here kept overdue)

/-- Time passes. -/
theorem passes
    (invariant : StayingInvariant setting current)
    {milliseconds : Nat}
    (soon : current.time + milliseconds ≤
      current.lastRound + setting.gap)
    (punctual : Punctual setting.delay (current.time + milliseconds)
      setting.lost current.times (· ∈ 0 :: current.arrived)) :
    StayingInvariant setting
      { current with time := current.time + milliseconds } := by
  have round := invariant.round.1
  exact { invariant with
    heardBefore := Nat.le_add_right_of_le invariant.heardBefore
    readings := fun reading member =>
      Nat.le_add_right_of_le (invariant.readings reading member)
    past := fun due member =>
      Nat.le_add_right_of_le (invariant.past due member)
    round := ⟨Nat.le_add_right_of_le round, soon⟩
    punctual := punctual }

/-- The client does something between two rounds. -/
theorem acts
    (invariant : StayingInvariant setting current)
    {client : ServerConnection}
    (same : client.lastHeartbeatSentMs =
      current.client.lastHeartbeatSentMs) :
    StayingInvariant setting { current with client := client } := by
  obtain ⟨last, isLast, read, before⟩ := invariant.sent
  exact { invariant with sent := ⟨last, isLast, same.trans read, before⟩ }

/-- A round in which no heartbeat is due. -/
theorem rounds
    (invariant : StayingInvariant setting current)
    (within : ∀ last, current.times.getLast? = some last ->
      current.time < last + krsClientHeartbeatIntervalMs) :
    StayingInvariant setting
      { current with lastRound := current.time } := by
  obtain ⟨last, isLast, read, before, -⟩ := invariant.sent
  have round := invariant.round.1
  exact { invariant with
    sent := ⟨last, isLast, read, Nat.le_trans before round,
      within last isLast⟩
    round := ⟨Nat.le_refl _, Nat.le_add_right _ _⟩ }

/-- A round in which a heartbeat is due. -/
theorem beats
    (invariant : StayingInvariant setting current)
    {client : ServerConnection}
    {datagram : Option (List UInt8)}
    (set : client.lastHeartbeatSentMs = setting.clientClock current.time)
    (typed : ∀ bytes, datagram = some bytes -> bytes = heartbeatDatagram) :
    StayingInvariant setting
      { current with
        client := client
        lastRound := current.time
        beats := current.beats ++ [(current.time, datagram)] } := by
  have positive : 0 < krsClientHeartbeatIntervalMs := by decide
  refine
    { roster := invariant.roster
      listedAs := invariant.listedAs
      hears := invariant.hears
      heardBefore := invariant.heardBefore
      bound := ?_
      readings := invariant.readings
      past := ?_
      datagrams := ?_
      paced := ?_
      sent := ⟨current.time, ?_, set, Nat.le_refl _,
        Nat.lt_add_of_pos_right positive⟩
      round := ⟨Nat.le_refl _, Nat.le_add_right _ _⟩
      punctual := ?_ }
  · intro beat came
    obtain ⟨due, found, late⟩ := invariant.bound beat came
    refine ⟨due, ?_, late⟩
    rw [HeartbeatRun.times_beat]
    exact List.getElem?_append_left
      (List.getElem?_eq_some_iff.mp found).1 ▸ found
  · rw [HeartbeatRun.times_beat]
    intro due member
    rcases List.mem_append.mp member with earlier | now
    · exact invariant.past due earlier
    · exact Nat.le_of_eq (List.mem_singleton.mp now)
  · intro due bytes member
    rcases List.mem_append.mp member with earlier | now
    · exact invariant.datagrams due bytes earlier
    · exact typed bytes (Prod.mk.inj (List.mem_singleton.mp now)).2.symm
  · rw [HeartbeatRun.times_beat]
    apply invariant.paced.concat
    intro latest isLast
    obtain ⟨last, same, -, before, soon⟩ := invariant.sent
    rw [isLast] at same
    cases same
    have round := invariant.round.2
    unfold HeartbeatSetting.period
    omega
  · rw [HeartbeatRun.times_beat, List.getLast?_concat]
  · rw [HeartbeatRun.times_beat]
    exact invariant.punctual.concat (Nat.le_add_right _ _)

/-- A round of the receive thread. -/
theorem service
    (invariant : StayingInvariant setting current)
    (within : setting.WithinTimeout)
    (built : Bool)
    {next : HeartbeatRun}
    (taken : heartbeatStep setting current
      (.client (.service (setting.clientClock current.time) built)) =
        some next) :
    StayingInvariant setting next := by
  rw [heartbeatStep] at taken
  obtain ⟨client, stepped, rfl⟩ := Option.map_eq_some_iff.mp taken
  have sent : client.lastHeartbeatSentMs =
      (clientHeartbeat current.client (setting.clientClock current.time)
        built).1.lastHeartbeatSentMs := by
    rw [← Option.some.inj stepped]
    exact clientRetransmit_heartbeatSent _ _
  obtain ⟨last, isLast, read, before, soon⟩ := invariant.sent
  have round := invariant.round
  have elapsed : (setting.clientClock current.time -
      current.client.lastHeartbeatSentMs).toNat = current.time - last := by
    have period : setting.period ≤ (setting.losses + 1) * setting.period :=
      Nat.le_mul_of_pos_left _ (Nat.succ_pos _)
    unfold HeartbeatSetting.WithinTimeout krsHeartbeatTimeoutMs at within
    unfold HeartbeatSetting.period at within period
    rw [read]
    exact toNat_clock_sub _ (by omega) (by omega)
  by_cases due : current.time - last ≥ krsClientHeartbeatIntervalMs
  · have beat : eventBeats current.client
        (.service (setting.clientClock current.time) built) =
          [(clientDatagrams (clientHeartbeat current.client
            (setting.clientClock current.time) built).2).head?] := by
      rw [eventBeats, elapsed, if_pos due]
    rw [beat]
    apply invariant.beats
    · rw [sent, clientHeartbeat, elapsed, if_pos due]
    · intro bytes carries
      have carried : some bytes ∈ eventBeats current.client
          (.service (setting.clientClock current.time) built) := by
        rw [beat, carries]
        exact List.mem_singleton_self _
      exact eventBeats_datagram carried
  · have silent : eventBeats current.client
        (.service (setting.clientClock current.time) built) = [] := by
      rw [eventBeats, elapsed, if_neg due]
    rw [silent, List.map_nil, List.append_nil]
    refine (invariant.rounds ?_).acts ?_
    · intro latest isLatest
      rw [isLast] at isLatest
      cases isLatest
      omega
    · rw [sent, clientHeartbeat, elapsed, if_neg due]

/-- A reading that the connection has kept as its last heartbeat is the time it
stands for. -/
theorem heard_eq
    (invariant : StayingInvariant setting current)
    (recent : current.time < current.heard + krsHeartbeatTimeoutMs)
    {reading : Nat}
    (before : reading ≤ current.time)
    (young : current.time < reading + krsHeartbeatTimeoutMs)
    (same : setting.serverClock reading =
      lastHeartbeatOf current.spm setting.ref) :
    current.heard = reading := by
  have past := invariant.heardBefore
  rw [invariant.hears, HeartbeatSetting.serverClock,
    HeartbeatSetting.serverClock, ← UInt64.toNat_inj] at same
  simp only [UInt64.toNat_ofNat'] at same
  unfold krsHeartbeatTimeoutMs at recent young
  omega

/-- The datagram of a heartbeat arrives. -/
theorem arrive
    (invariant : StayingInvariant setting current)
    (within : setting.WithinTimeout)
    (recent : current.time < current.heard + krsHeartbeatTimeoutMs)
    {beat reading : Nat}
    (young : current.time ≤ reading + setting.handling)
    {next : HeartbeatRun}
    (taken : heartbeatStep setting current (.arrive beat reading) =
      some next) :
    StayingInvariant setting next := by
  have lag : setting.handling ≤ setting.lag := Nat.le_max_right _ _
  rw [heartbeatStep] at taken
  split at taken
  case isFalse => cases taken
  case isTrue read =>
    obtain ⟨datagram, carried, taken⟩ := Option.bind_eq_some_iff.mp taken
    obtain ⟨⟨due, body⟩, found, rfl⟩ := Option.bind_eq_some_iff.mp carried
    obtain ⟨⟨after, effects⟩, handled, rfl⟩ :=
      Option.map_eq_some_iff.mp taken
    obtain rfl :=
      invariant.datagrams due datagram (List.mem_of_getElem? found)
    obtain ⟨same, renewed⟩ := handleDatagram_heartbeat current.spm
      setting.descriptor setting.address (setting.serverClock reading)
    rw [same] at handled
    have roster : RosterInvariant current.spm.countMessage :=
      ⟨invariant.roster.allocated, invariant.roster.inOrder⟩
    have counted : ListedAs current.spm.countMessage setting.descriptor 0
        setting.ref setting.address := invariant.listedAs
    have listedAs := handlerEffect_keeps roster counted handled
      (by
        rintro ⟨-, -, onControl, -⟩
        exact absurd onControl (by decide +kernel))
      (fun now evicts => nomatch evicts)
    have hears : lastHeartbeatOf after setting.ref =
        setting.serverClock reading := by
      rw [handled] at renewed
      rw [(Prod.mk.inj (Option.some.inj renewed)).1]
      exact krsServerHandleHeartbeatFrame_renews counted _
    have sent : current.times[beat]? = some due :=
      List.getElem?_map.trans (congrArg (Option.map Prod.fst) found)
    have handles := invariant.handles (roster.handlerEffect handled) listedAs
      read (Or.inr ⟨young, hears⟩)
    refine handles.arrives sent ?_
    -- The reading is now the last heartbeat, whether it was before or not.
    rw [HeartbeatRun.handled]
    dsimp only
    split
    case isTrue unchanged =>
      unfold HeartbeatSetting.WithinTimeout at within
      have kept := invariant.heard_eq recent (invariant.readings reading read)
        (by omega) (hears.symm.trans unchanged)
      omega
    case isFalse => omega

/-- The server deals with anything else. -/
theorem serves
    (invariant : StayingInvariant setting current)
    (recent : current.time < current.heard + krsHeartbeatTimeoutMs)
    {event : HandlerEvent}
    {reading : Nat}
    (inOrder : ReadingInOrder setting current reading event)
    (stays : ¬ ControlFrame .disconnect setting.descriptor setting.address
      event)
    {next : HeartbeatRun}
    (taken : heartbeatStep setting current (.server event reading) =
      some next) :
    StayingInvariant setting next := by
  rw [heartbeatStep] at taken
  split at taken
  case isFalse => cases taken
  case isTrue reads =>
    obtain ⟨read, clock⟩ := reads
    obtain ⟨⟨after, effects⟩, effect, rfl⟩ :=
      Option.map_eq_some_iff.mp taken
    have inside := invariant.roster.allocated _ _ invariant.listedAs.1
    refine invariant.handles (invariant.roster.handlerEffect effect) ?_ read ?_
    · refine handlerEffect_keeps invariant.roster invariant.listedAs effect
        stays ?_
      rintro now rfl
      rw [show now = setting.serverClock reading from clock]
      exact invariant.fresh recent (inOrder rfl)
        (invariant.readings reading read)
    · refine (handlerEffect_hears inside effect).imp_right ?_
      rintro ⟨⟨descriptor, frame, remoteAddr, now, rfl⟩, set⟩
      exact ⟨inOrder, set.trans clock⟩

/-- Whatever happens. -/
theorem step
    (invariant : StayingInvariant setting current)
    (within : setting.WithinTimeout)
    (few : FewLost setting.losses setting.lost)
    {event : HeartbeatEvent}
    {next : HeartbeatRun}
    (allowed : HeartbeatAllowed setting current event)
    (taken : heartbeatStep setting current event = some next) :
    StayingInvariant setting next := by
  have recent := invariant.recent within few
  cases event with
  | pass milliseconds =>
      cases taken
      exact invariant.passes allowed.1 allowed.2
  | client event =>
      rcases allowed with between | reads
      · obtain ⟨client, stepped, rfl⟩ := Option.map_eq_some_iff.mp taken
        have silent : eventBeats current.client event = [] :=
          eventBeats_between between
        rw [between, silent, List.map_nil, List.append_nil]
        exact invariant.acts (clientStep_heartbeatSent between stepped)
      · cases event with
        | service read built =>
            cases reads
            exact invariant.service within built taken
        | send | subscribe | poll | timeout | unsubscribe | receive =>
            cases reads
  | readClock =>
      cases taken
      exact invariant.reads
  | arrive beat reading => exact invariant.arrive within recent allowed taken
  | server event reading =>
      exact invariant.serves recent allowed.1 allowed.2 taken

end StayingInvariant

/-! ## Whole runs -/

/-- A client has connected to a server that has heard of it at this time. -/
def HeartbeatRun.start
    (spm : ServerPortManager)
    (client : ServerConnection)
    (heard time : Nat) : HeartbeatRun :=
  { spm := spm
    client := client
    time := time
    lastRound := time
    beats := [(time, none)]
    arrived := []
    readings := []
    heard := heard }

theorem StayingInvariant.start
    {setting : HeartbeatSetting}
    {spm : ServerPortManager}
    {client : ServerConnection}
    {heard connected : Nat}
    (roster : RosterInvariant spm)
    (listedAs : ListedAs spm setting.descriptor 0 setting.ref
      setting.address)
    (hears : lastHeartbeatOf spm setting.ref = setting.serverClock heard)
    (before : heard ≤ connected)
    (inTime : connected ≤ heard + setting.handshake)
    (beats : client.lastHeartbeatSentMs = setting.clientClock connected) :
    StayingInvariant setting (.start spm client heard connected) where
  roster := roster
  listedAs := listedAs
  hears := hears
  heardBefore := before
  bound := by
    intro beat came
    rw [List.mem_singleton.mp came]
    have lag : setting.handshake ≤ setting.lag := Nat.le_max_left _ _
    exact ⟨connected, rfl, by
      change connected ≤ heard + setting.lag
      omega⟩
  readings := fun reading member => nomatch member
  past := fun due member => Nat.le_of_eq (List.mem_singleton.mp member)
  datagrams := by
    intro due datagram member
    cases List.mem_singleton.mp member
  paced := paced_singleton setting.period connected
  sent := ⟨connected, rfl, beats, Nat.le_refl _,
    Nat.lt_add_of_pos_right (by decide)⟩
  round := ⟨Nat.le_refl _, Nat.le_add_right _ _⟩
  punctual := by
    intro beat due found kept overdue
    cases beat with
    | zero => exact List.mem_cons_self
    | succ beat => cases found

/-- A client has connected and its receive thread goes on with its rounds in
time.  If handshake or handling, delay and lost heartbeats together fit into
the timeout, and no tick meets a heartbeat of the connection that is newer than
its reading of the clock, then the server keeps the connection and never finds
it stale, whatever other frames reach it and whatever else the client does
short of disconnecting. -/
theorem regular_heartbeats_stay_connected
    {setting : HeartbeatSetting}
    (within : setting.WithinTimeout)
    (few : FewLost setting.losses setting.lost)
    {descriptorList : List UDPSocketDescriptor}
    (unused : ∀ desc ∈ descriptorList, ∀ channel,
      desc.connectionsOf channel = [])
    {earlier : List HandlerEvent}
    {server : HandlerRun}
    (served : run handlerStep (handlerStart descriptorList) earlier =
      some server)
    (listedAs : ListedAs server.spm setting.descriptor 0 setting.ref
      setting.address)
    {heard connected : Nat}
    (hears : lastHeartbeatOf server.spm setting.ref =
      setting.serverClock heard)
    (before : heard ≤ connected)
    (inTime : connected ≤ heard + setting.handshake)
    {outcomes : ConnectOutcomes}
    {received : Option (List UInt8)}
    {client : ServerConnection}
    (connects : (krsClientServerConnect outcomes received
      (setting.clientClock connected)).1 = some client)
    {events : List HeartbeatEvent}
    {final : HeartbeatRun}
    (allowed : RunAllowed (heartbeatStep setting) (HeartbeatAllowed setting)
      (.start server.spm client heard connected) events)
    (reached : run (heartbeatStep setting)
      (.start server.spm client heard connected) events = some final) :
    ListedAs final.spm setting.descriptor 0 setting.ref setting.address ∧
      isStale final.spm (setting.serverClock final.time) setting.ref =
        false := by
  have history : HistoryInvariant server :=
    run_invariant (fun _ _ _ here => here.step)
      (HistoryInvariant.start unused) served
  have start : StayingInvariant setting
      (.start server.spm client heard connected) :=
    StayingInvariant.start history.roster listedAs hears before inTime
      (krsClientServerConnect_heartbeatSent connects)
  have invariant : StayingInvariant setting final :=
    run_induction (fun _ _ _ here permitted taken =>
      here.step within few permitted taken) start allowed reached
  exact ⟨invariant.listedAs,
    invariant.fresh (invariant.recent within few) invariant.heardBefore
      (Nat.le_refl _)⟩

/-- Two clocks that differ, and a network that loses the first heartbeat. -/
def lossySetting : HeartbeatSetting where
  descriptor := 0
  ref := 0
  address := clientAddress 4000
  serverAhead := 700
  clientAhead := 20
  handshake := 100
  handling := 20
  gap := 5000
  delay := 50
  losses := 1
  lost := fun beat => beat == 1

/-- The `CONNECTION` of the client. -/
def connectionArrives : List HandlerEvent :=
  [.frame 0 (krsFrameCreate (controlFrame 0 .connection) kronosBufferSize)
    (clientAddress 4000) (lossySetting.serverClock 10)]

/-- The client sends two heartbeats, and the second one arrives.  A tick and
the handler read the clock at the same time, the handler waits 10 ms for the
lock, and the tick runs its section after it. -/
def lossyEvents : List HeartbeatEvent :=
  [.pass 5000, .client (.service (lossySetting.clientClock 5060) true),
    .pass 5000, .client (.service (lossySetting.clientClock 10060) true),
    .pass 30, .readClock, .readClock, .pass 10, .arrive 2 10090,
    .server (.evict 0 (lossySetting.serverClock 10090)) 10090]

theorem lossy_client_stays_connected :
    ∃ server client final,
      run handlerStep (handlerStart [listeningPort]) connectionArrives =
          some server ∧
        run (heartbeatStep lossySetting) (.start server.spm client 10 60)
          lossyEvents = some final ∧
        final.arrived = [2] ∧
        ListedAs final.spm 0 0 0 (clientAddress 4000) := by
  let client : ServerConnection :=
    { connectionId := 1, lastHeartbeatSentMs := 80 }
  have outcome : (run handlerStep (handlerStart [listeningPort])
      connectionArrives).map (fun server =>
        let start : HeartbeatRun := .start server.spm client 10 60
        decide (listed server.spm 0 0 = [0] ∧
          server.spm.addressOf 0 = some (clientAddress 4000) ∧
          lastHeartbeatOf server.spm 0 = lossySetting.serverClock 10 ∧
          RunAllowed (heartbeatStep lossySetting)
            (HeartbeatAllowed lossySetting) start lossyEvents ∧
          (run (heartbeatStep lossySetting) start lossyEvents).map
            HeartbeatRun.arrived = some [2])) = some true := by
    decide +kernel
  obtain ⟨server, served, facts⟩ := Option.map_eq_some_iff.mp outcome
  obtain ⟨members, owned, hears, allowed, arrivals⟩ := of_decide_eq_true facts
  obtain ⟨final, reached, arrived⟩ := Option.map_eq_some_iff.mp arrivals
  have listedAs : ListedAs server.spm 0 0 0 (clientAddress 4000) := by
    refine ⟨?_, owned⟩
    rw [members]
    exact List.mem_singleton_self 0
  have few : FewLost 1 lossySetting.lost := by
    intro first
    by_cases second : first = 1
    · exact ⟨2, by omega, by omega, rfl⟩
    · exact ⟨first, Nat.le_refl _, Nat.le_add_right _ _,
        beq_eq_false_iff_ne.mpr second⟩
  have unused : ∀ desc ∈ [listeningPort], ∀ channel,
      desc.connectionsOf channel = [] := by
    intro desc member channel
    rw [List.mem_singleton.mp member]
    rfl
  have connects : (krsClientServerConnect {} (some (socketAckFrame 1))
      (lossySetting.clientClock 60)).1 = some client := by
    unfold krsClientServerConnect
    rw [if_neg (by decide), Option.bind_some, connectReply_socketAckFrame]
    rfl
  have within : lossySetting.WithinTimeout := by
    unfold HeartbeatSetting.WithinTimeout
    decide
  exact ⟨server, client, final, served, reached, arrived,
    (regular_heartbeats_stay_connected within few unused served listedAs
      hears (by decide) (by decide) connects allowed reached).1⟩

end Kronos
