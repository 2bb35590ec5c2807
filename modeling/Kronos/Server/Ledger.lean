import Kronos.Ack.Registered
import Kronos.Server.PacketIds
import Kronos.Server.Replies

/-!
# The ledger of a server

A ledger records the messages that a server has sent: to whom, on which channel,
under which packet id and with which payload.  Every entry that a connection has
pending belongs to a message of the ledger that was sent to its address, and so
does every message that the server puts on the wire, retransmissions included.
-/

namespace Kronos

open Library

/-- A message that was sent. -/
structure SentMessage where
  address : PortAddress
  channel : Channel
  packetId : UInt64
  payload : List UInt8
  requireAck : Bool
  deriving DecidableEq, Repr

/-- The datagrams of the message. -/
def SentMessage.frames (message : SentMessage) : List (List UInt8) :=
  wireFrames message.channel message.packetId message.payload
    message.requireAck

/-- The message that an event sends. -/
def sentMessage (spm : ServerPortManager) : ServerEvent -> Option SentMessage
  | .send connectionId channel data _ requireAck _ allocations =>
      (krsConnectionMapGet spm.connectionMap connectionId).bind fun entry =>
        spm.connections[entry.connection]?.bind fun target =>
          spm.descriptorList[entry.descriptor]?.map fun desc =>
            { address := target.remoteAddress
              channel := channel
              packetId := (nextPacketId channel allocations.counter
                (desc.channelStates channel)).1
              payload := data
              requireAck := requireAck }
  | _ => none

/-- The application passes the length of its data. -/
def ServerEvent.Sized : ServerEvent -> Prop
  | .send _ _ data length _ _ _ => data.length = length.toNat
  | _ => True

instance : (event : ServerEvent) -> Decidable event.Sized
  | .send _ _ _ _ _ _ _ => inferInstanceAs (Decidable (_ = _))
  | .datagram _ _ _ _ => isTrue trivial
  | .tick _ => isTrue trivial

/-! ## Pending entries -/

/-- An entry belongs to a message that was sent to the address, and stores a
datagram of it. -/
def KnownTo
    (ledger : List SentMessage)
    (address : PortAddress)
    (packetId : UInt64)
    (channel : Channel)
    (stored : Option (List UInt8 × Nat)) : Prop :=
  ∃ message ∈ ledger, message.address = address ∧
    message.packetId = packetId ∧ message.channel = channel ∧
    ∀ data size, stored = some (data, size) ->
      data.take size ∈ message.frames

/-- All that a connection has pending was sent to its address. -/
def RegistersKnown
    (ledger : List SentMessage)
    (conn : ClientConnection) : Prop :=
  ∀ tracker, conn.ackTracker = some tracker ->
    Registered (KnownTo ledger conn.remoteAddress) tracker

section Connections

variable {ledger : List SentMessage} {conn : ClientConnection}

theorem KnownTo.mono
    {more : List SentMessage}
    {address : PortAddress}
    {packetId : UInt64}
    {channel : Channel}
    {stored : Option (List UInt8 × Nat)}
    (known : KnownTo ledger address packetId channel stored)
    (grows : ∀ message ∈ ledger, message ∈ more) :
    KnownTo more address packetId channel stored := by
  obtain ⟨message, member, rest⟩ := known
  exact ⟨message, grows message member, rest⟩

theorem RegistersKnown.mono
    {more : List SentMessage}
    (registers : RegistersKnown ledger conn)
    (grows : ∀ message ∈ ledger, message ∈ more) :
    RegistersKnown more conn :=
  fun tracker read => (registers tracker read).mono
    fun _ _ _ known => known.mono grows

theorem RegistersKnown.of_none
    (absent : conn.ackTracker = none) :
    RegistersKnown ledger conn := by
  intro tracker read
  rw [absent] at read
  cases read

/-- A change that leaves tracker and address alone. -/
theorem RegistersKnown.congr
    (registers : RegistersKnown ledger conn)
    {after : ClientConnection}
    (tracker : after.ackTracker = conn.ackTracker)
    (address : after.remoteAddress = conn.remoteAddress) :
    RegistersKnown ledger after := by
  unfold RegistersKnown
  rw [tracker, address]
  exact registers

theorem RegistersKnown.acknowledge
    (registers : RegistersKnown ledger conn)
    (packetId : UInt64)
    (channel : Channel)
    (now : UInt64) :
    RegistersKnown ledger (acknowledge conn packetId channel now) := by
  unfold RegistersKnown
  rw [(acknowledge_identity conn packetId channel now).remoteAddress]
  unfold Kronos.acknowledge
  split
  case h_1 => exact registers
  case h_2 tracker read =>
    have received := (registers tracker read).receiveRtt packetId channel now
    dsimp only
    split
    case h_1 =>
      intro after afterRead
      cases afterRead
      exact received
    case h_2 =>
      intro after afterRead
      cases afterRead
      exact received

theorem Registered.expectFrames
    {Known : UInt64 -> Channel -> Option (List UInt8 × Nat) -> Prop}
    {tracker : AckTracker}
    (registered : Registered Known tracker)
    (packetId : UInt64)
    (channel : Channel)
    (clock : Nat -> UInt64)
    (allocated : Nat -> Bool)
    (index : Nat)
    {frames : List (List UInt8 × Nat)}
    (known : ∀ frame ∈ frames,
      Known packetId channel (registeredFrame (some frame.1) frame.2)) :
    Registered Known (expectFrames tracker packetId channel clock allocated
      index frames) := by
  induction frames generalizing tracker index with
  | nil => exact registered
  | cons frame frames inductionHypothesis =>
      obtain ⟨here, later⟩ := List.forall_mem_cons.mp known
      exact inductionHypothesis
        (registered.expect packetId channel _ _ here (clock index)
          (allocated index))
        (index + 1) later

/-- A send registers datagrams of its own message. -/
theorem RegistersKnown.sendOn
    (registers : RegistersKnown ledger conn)
    {message : SentMessage}
    (recorded : message ∈ ledger)
    (toConnection : message.address = conn.remoteAddress)
    {length : UInt16}
    (whole : message.payload.length = length.toNat)
    (clock : Nat -> UInt64)
    (allocations : SendAllocations) :
    RegistersKnown ledger (sendOn conn message.channel message.packetId
      message.payload length message.requireAck clock allocations).1 := by
  have identity := sendOn_identity conn message.channel message.packetId
    message.payload length message.requireAck clock allocations
  obtain ⟨-, change⟩ := sendOn_ackTracker conn message.channel
    message.packetId message.payload length message.requireAck clock
    allocations
  generalize (Kronos.sendOn conn message.channel message.packetId
    message.payload length message.requireAck clock allocations).1 = after
      at *
  have ready : ∀ tracker, ReadyTracker conn tracker ->
      Registered (KnownTo ledger conn.remoteAddress) tracker := by
    rintro tracker (read | ⟨-, rfl⟩)
    · exact registers tracker read
    · exact Registered.create 1000 5
  unfold RegistersKnown
  rw [identity.remoteAddress]
  intro tracker read
  rcases change with same | ⟨used, usable, created | ⟨frames, built,
      expected⟩⟩
  · rw [same] at read
    exact registers tracker read
  · rw [created, Option.some.injEq] at read
    rw [← read]
    exact ready used usable
  · rw [expected] at read
    cases read
    refine (ready used usable).expectFrames _ _ clock allocations.entry 0 ?_
    intro frame member
    refine ⟨message, recorded, toConnection, rfl, rfl, ?_⟩
    intro data size stored
    unfold registeredFrame at stored
    split at stored
    case isFalse => cases stored
    case isTrue =>
      cases stored
      rw [List.take_take, Nat.min_self, SentMessage.frames,
        ← messageFrames_eq_wireFrames whole built]
      exact List.mem_map.mpr ⟨frame, member, rfl⟩

theorem RegistersKnown.collect
    (registers : RegistersKnown ledger conn)
    (callback : Option Callback)
    (descriptor : Nat)
    (connection : ConnectionRef)
    (now : UInt64)
    (buffers : TickBuffers) :
    RegistersKnown ledger (collectConnection callback descriptor connection
      now buffers conn).2 := by
  unfold collectConnection
  split
  case h_1 => exact registers
  case h_2 tracker read =>
    intro after afterRead
    cases afterRead
    exact (registers tracker read).check now checkCapacity checkCapacity

end Connections

/-- The event is sized, and its message is in the ledger. -/
def RecordedIn
    (ledger : List SentMessage)
    (current : ServerRun)
    (event : ServerEvent) : Prop :=
  event.Sized ∧
    ∀ message, sentMessage current.spm event = some message ->
      message ∈ ledger

/-- Everything that a connection has pending stays known to a ledger that
records the messages. -/
theorem registersKnown_connectionInvariant (ledger : List SentMessage) :
    ConnectionInvariant (RecordedIn ledger)
      fun _ _ conn => RegistersKnown ledger conn where
  quiet := fun _ _ _ _ _ registers => registers
  released := by
    intro log ref old new released registers
    rcases released with same | gone
    · exact registers.congr same.ackTracker same.remoteAddress
    · exact .of_none gone.ackTracker
  acknowledged := fun _ _ _ packetId channel now registers =>
    registers.acknowledge packetId channel now
  created := fun _ _ _ new _ => .of_none new.ackTracker
  sent := by
    intro current connectionId channel data length requireAck clock
      allocations recorded entry desc target found descRead targetRead _
      registers
    have acquired : RegistersKnown ledger
        { target with refcount := target.refcount + 1 } := registers
    have member := recorded.2
      { address := target.remoteAddress
        channel := channel
        packetId := (nextPacketId channel allocations.counter
          (desc.channelStates channel)).1
        payload := data
        requireAck := requireAck } (by
      rw [sentMessage, found, Option.bind_some, targetRead,
        Option.bind_some, descRead, Option.map_some])
    exact acquired.sendOn member rfl recorded.1 clock allocations
  ticked := by
    intro current clock refs _ registers ref old new oldRead newRead
    obtain ⟨checked, unvisited⟩ :=
      (collectAll_heap refs clock.check).2 ref old new oldRead newRead
    by_cases visited : ref ∈ visitedRefs current.spm
    · obtain ⟨callback, descriptor, buffers, rfl⟩ := checked visited
      exact (registers ref old oldRead).collect callback descriptor ref _
        buffers
    · rw [unvisited visited]
      exact registers ref old oldRead

/-! ## The wire -/

/-- The datagram belongs to a message that was sent to the address. -/
def SentInLedger
    (ledger : List SentMessage)
    (address : PortAddress)
    (datagram : List UInt8) : Prop :=
  ∃ message ∈ ledger, message.address = address ∧ datagram ∈ message.frames

theorem queueRetries_sentInLedger
    {ledger : List SentMessage}
    {tracker : AckTracker}
    {addr : PortAddress}
    (registered : Registered (KnownTo ledger addr) tracker)
    (descriptor : Nat)
    (connection : ConnectionRef)
    (retries : List Retry)
    {queue : RetryQueue}
    (queued : ∀ retransmit ∈ queue.pending,
      SentInLedger ledger retransmit.addr retransmit.data) :
    ∀ retransmit ∈ (queueRetries tracker descriptor connection addr retries
        queue).pending,
      SentInLedger ledger retransmit.addr retransmit.data := by
  induction retries generalizing queue with
  | nil => exact queued
  | cons retry retries inductionHypothesis =>
      rw [queueRetries]
      split
      case isFalse => exact queued
      case isTrue =>
        split
        case h_1 => exact inductionHypothesis queued
        case h_2 data size found =>
          split
          case isTrue => exact inductionHypothesis queued
          case isFalse =>
            refine inductionHypothesis ?_
            intro retransmit member
            rcases List.mem_append.mp member with earlier | last
            · exact queued retransmit earlier
            · rw [List.mem_singleton.mp last]
              obtain ⟨_, _, message, recorded, sentTo, -, -, stored⟩ :=
                registered.getRetryFrameForEntry found
              exact ⟨message, recorded, sentTo, stored data size rfl⟩

/-- A tick retransmits datagrams to the addresses they were sent to. -/
theorem foldl_visitEntry_sentInLedger
    {ledger : List SentMessage}
    (callback : Nat -> Option Callback)
    (clock : ConnectionRef -> UInt64)
    (entries : List ConnectionMapEntry)
    (current : TickBuffers × List ClientConnection)
    (queued : ∀ retransmit ∈ current.1.pending,
      SentInLedger ledger retransmit.addr retransmit.data)
    (registers : ∀ conn ∈ current.2, RegistersKnown ledger conn) :
    ∀ retransmit ∈
        (entries.foldl (visitEntry callback clock) current).1.pending,
      SentInLedger ledger retransmit.addr retransmit.data := by
  induction entries generalizing current with
  | nil => exact queued
  | cons entry entries inductionHypothesis =>
      rw [List.foldl_cons]
      refine inductionHypothesis _ ?_ ?_
      · unfold visitEntry
        split
        case h_1 => exact queued
        case h_2 conn read =>
          unfold collectConnection
          split
          case h_1 => exact queued
          case h_2 tracker trackerRead =>
            exact queueRetries_sentInLedger
              ((registers conn (List.mem_of_getElem? read) tracker
                trackerRead).check _ _ _) _ _ _ queued
      · unfold visitEntry
        split
        case h_1 => exact registers
        case h_2 conn read =>
          intro other member
          rcases List.mem_or_eq_of_mem_set member with old | rfl
          · exact registers other old
          · exact (registers conn (List.mem_of_getElem? read)).collect _ _ _
              _ _

theorem retransmitTick_sentInLedger
    {ledger : List SentMessage}
    {spm : ServerPortManager}
    (registers : ∀ conn ∈ spm.connections, RegistersKnown ledger conn)
    (clock : TickClock)
    {address : PortAddress}
    {frame : List UInt8}
    (sent : frame ∈ sentTo address (retransmitTick spm clock).2) :
    SentInLedger ledger address frame := by
  obtain ⟨effect, member, framed⟩ := List.mem_filterMap.mp sent
  have pending := foldl_visitEntry_sentInLedger (failureCallback spm)
    clock.check (visitedEntries spm) ({}, spm.connections) (by simp)
    registers
  have collected := collectAll_eq spm clock.check
  unfold retransmitTick at member
  dsimp only at collected member
  rw [collected] at member
  rcases List.mem_append.mp member with checked | evicted
  · rcases List.mem_append.mp checked with flushed | failed
    · obtain ⟨retransmit, queued, rfl⟩ := List.mem_map.mp flushed
      rcases ServerEffect.frameTo_eq_some framed with ⟨_, impossible⟩ |
        ⟨_, _, _, same⟩
      · cases impossible
      · cases same
        exact pending retransmit queued
    · obtain ⟨failure, -, rfl⟩ := List.mem_map.mp failed
      cases framed
  · rcases ServerEffect.frameTo_eq_some framed with ⟨port, rfl⟩ |
      ⟨port, ref, entry, rfl⟩
    · exact absurd evicted (evictAll_silent _ _ _ _ _)
    · have quiet := (evictAll_effect _ clock.evict).2.2 _ evicted
      cases quiet

/-- A datagram that an event sends to an address belongs to a message of the
ledger, or answers a datagram from there. -/
theorem serverEffect_sentInLedger
    {ledger : List SentMessage}
    {current : ServerRun}
    {next : ServerPortManager}
    {event : ServerEvent}
    {effects : List ServerEffect}
    (registers : ∀ conn ∈ current.spm.connections,
      RegistersKnown ledger conn)
    (recorded : RecordedIn ledger current event)
    (taken : serverEffect current.spm event = some (next, effects))
    {address : PortAddress}
    {frame : List UInt8}
    (sent : frame ∈ sentTo address effects) :
    SentInLedger ledger address frame ∨
      ∃ descriptor bytes input,
        event = .datagram descriptor bytes address input ∧
          Reply next descriptor (krsFrameCreate bytes kronosBufferSize)
            address frame := by
  cases event with
  | datagram descriptor bytes remoteAddr input =>
      obtain ⟨effect, member, framed⟩ := List.mem_filterMap.mp sent
      have quiet := (handleDatagram_effect taken).quiet effect member
      rcases ServerEffect.frameTo_eq_some framed with ⟨port, rfl⟩ |
        ⟨port, ref, entry, rfl⟩
      · obtain ⟨rfl, reply⟩ := handleDatagram_answeredBy taken port address
          frame member
        exact Or.inr ⟨descriptor, bytes, input, rfl, reply⟩
      · cases quiet
  | send connectionId channel data length requireAck clock allocations =>
      obtain ⟨effect, member, framed⟩ := List.mem_filterMap.mp sent
      obtain ⟨⟨after, result, sends⟩, returned, same⟩ :=
        Option.map_eq_some_iff.mp taken
      cases same
      have quiet := (krsServerSend_effect returned).2 effect member
      rcases ServerEffect.frameTo_eq_some framed with ⟨port, rfl⟩ |
        ⟨port, ref, entry, rfl⟩
      · left
        have message := recorded.2
        rw [sentMessage] at message
        unfold krsServerSend at returned
        dsimp only at returned
        split at returned
        case h_1 =>
          cases returned
          cases member
        case h_2 entry found =>
          rw [found, Option.bind_some] at message
          split at returned
          case h_2 => cases returned
          case h_1 target desc targetRead descRead =>
            rw [targetRead, Option.bind_some, descRead, Option.map_some]
              at message
            split at returned
            case isTrue => cases returned
            case isFalse =>
              cases returned
              obtain ⟨-, rfl, inFrames⟩ := mem_flatMap_krsNetSendFrame member
              exact ⟨_, message _ rfl, rfl, mem_sendOn recorded.1 inFrames⟩
      · cases quiet
  | tick clock =>
      cases taken
      exact Or.inl (retransmitTick_sentInLedger registers clock sent)

/-! ## Packet ids of the ledger -/

/-- Every recorded packet id was counted on its channel of the only port, and no
two messages of a channel have the same one. -/
structure LedgerNumbered
    (ledger : List SentMessage)
    (descriptorList : List UDPSocketDescriptor) : Prop where
  counted : ∀ message ∈ ledger, message.packetId.toNat ≤
    (lastPacketId descriptorList 0 message.channel).toNat
  unique : ∀ first ∈ ledger, ∀ second ∈ ledger,
    first.channel = second.channel -> first.packetId = second.packetId ->
      first = second

/-- The message gets a packet id that is not zero: its counter exists or can be
created, and does not wrap around. -/
def Numbered (spm : ServerPortManager) (event : ServerEvent) : Prop :=
  ∀ message, sentMessage spm event = some message -> message.packetId ≠ 0

instance (spm : ServerPortManager) (event : ServerEvent) :
    Decidable (Numbered spm event) :=
  match sent : sentMessage spm event with
  | none => isTrue fun _ read => by
      rw [sent] at read
      cases read
  | some message =>
      if zero : message.packetId = 0 then
        isFalse fun numbered => numbered message sent zero
      else isTrue fun _ read => by
        rw [sent] at read
        cases read
        exact zero

theorem toNat_add_one_of_ne_zero
    {number : UInt64}
    (positive : number + 1 ≠ 0) :
    (number + 1).toNat = number.toNat + 1 := by
  refine toNat_add_one ?_
  by_contra full
  have bound := number.toNat_lt
  refine positive (UInt64.toNat_inj.mp ?_)
  rw [UInt64.toNat_add]
  change (number.toNat + 1) % 2 ^ 64 = 0
  omega

theorem LedgerNumbered.keep
    {ledger : List SentMessage}
    {before after : List UDPSocketDescriptor}
    (numbered : LedgerNumbered ledger before)
    (kept : SettingsKept before after) :
    LedgerNumbered ledger after where
  counted := fun message member => by
    rw [kept.lastPacketId]
    exact numbered.counted message member
  unique := numbered.unique

/-- On the only port of a server, every event keeps the packet ids of the ledger
apart. -/
theorem LedgerNumbered.step
    {ledger : List SentMessage}
    {spm next : ServerPortManager}
    (numbered : LedgerNumbered ledger spm.descriptorList)
    (onePort : spm.descriptorList.length = 1)
    {event : ServerEvent}
    (positive : Numbered spm event)
    {effects : List ServerEffect}
    (taken : serverEffect spm event = some (next, effects)) :
    LedgerNumbered (ledger ++ (sentMessage spm event).toList)
        next.descriptorList ∧
      next.descriptorList.length = 1 := by
  cases event with
  | datagram descriptor bytes remoteAddr input =>
      have kept := (handleDatagram_portsKept taken).settings
      have nothing : sentMessage spm
          (.datagram descriptor bytes remoteAddr input) = none := rfl
      rw [nothing, Option.toList_none, List.append_nil]
      exact ⟨numbered.keep kept, kept.1.trans onePort⟩
  | tick clock =>
      cases taken
      have kept := retransmitTick_settingsKept spm clock
      have nothing : sentMessage spm (.tick clock) = none := rfl
      rw [nothing, Option.toList_none, List.append_nil]
      exact ⟨numbered.keep kept, kept.1.trans onePort⟩
  | send connectionId channel data length requireAck clock allocations =>
      obtain ⟨⟨after, result, sends⟩, returned, same⟩ :=
        Option.map_eq_some_iff.mp taken
      cases same
      unfold Numbered at positive
      rw [sentMessage] at positive ⊢
      unfold krsServerSend at returned
      dsimp only at returned
      split at returned
      case h_1 missing =>
        cases returned
        rw [missing, Option.bind_none, Option.toList_none, List.append_nil]
        exact ⟨numbered, onePort⟩
      case h_2 entry found =>
        rw [found, Option.bind_some] at positive ⊢
        split at returned
        case h_2 => cases returned
        case h_1 target desc targetRead descRead =>
          rw [targetRead, Option.bind_some, descRead, Option.map_some]
            at positive ⊢
          split at returned
          case isTrue => cases returned
          case isFalse =>
            cases returned
            obtain ⟨inside, -⟩ := List.getElem?_eq_some_iff.mp descRead
            have first : entry.descriptor = 0 := by omega
            rw [first] at descRead ⊢
            dsimp only at positive ⊢
            have given := positive _ rfl
            have drawn := nextPacketId_cases channel allocations.counter
              (desc.channelStates channel)
            dsimp only at drawn given
            generalize nextPacketId channel allocations.counter
              (desc.channelStates channel) = issued at *
            have last := lastPacketId_modify descRead channel issued.2
            have here : lastPacketId spm.descriptorList 0 channel =
                (desc.channelStates channel).lastPacketId channel := by
              rw [lastPacketId, descRead]
            rcases drawn with ⟨zero, -⟩ | ⟨number, counted⟩
            · exact absurd zero given
            rw [number] at given
            have value := toNat_add_one_of_ne_zero given
            have grown : ∀ other, (lastPacketId spm.descriptorList 0
                other).toNat ≤ (lastPacketId (spm.descriptorList.modify 0
                  (·.modifyChannel channel fun _ => issued.2)) 0
                    other).toNat := by
              intro other
              rw [last]
              split
              case isTrue same =>
                rw [same.2, here, counted, value]
                exact Nat.le_succ _
              case isFalse => exact Nat.le_refl _
            have above : ∀ message ∈ ledger, message.channel = channel ->
                message.packetId ≠ issued.1 := by
              intro message member named equal
              have bound := numbered.counted message member
              rw [named, here, equal, number, value] at bound
              omega
            refine ⟨⟨?_, ?_⟩, ?_⟩
            · intro message member
              rcases List.mem_append.mp member with old | new
              · exact (numbered.counted message old).trans (grown _)
              · rw [Option.toList_some, List.mem_singleton] at new
                subst new
                dsimp only
                rw [last, if_pos ⟨rfl, rfl⟩, number, counted]
            · intro first firstIn second secondIn channels ids
              rcases List.mem_append.mp firstIn with firstOld | firstNew
              · rcases List.mem_append.mp secondIn with secondOld | secondNew
                · exact numbered.unique _ firstOld _ secondOld channels ids
                · rw [Option.toList_some, List.mem_singleton] at secondNew
                  subst secondNew
                  exact absurd ids (above first firstOld channels)
              · rw [Option.toList_some, List.mem_singleton] at firstNew
                subst firstNew
                rcases List.mem_append.mp secondIn with secondOld | secondNew
                · exact absurd ids.symm (above second secondOld channels.symm)
                · rw [Option.toList_some, List.mem_singleton] at secondNew
                  exact secondNew.symm
            · rw [List.length_modify]
              exact onePort

end Kronos
