import Kronos.Client.Outgoing

/-!
# Subscribe calls

One client and one server, with a network between them that loses, repeats and
reorders datagrams: whatever was once sent may arrive at any time, any number of
times, or never.  The client's calls come one after another, and a subscribe
waits in one of its two loops while the receive thread, if there is one, and the
server go on.

A subscribe takes any `MESSAGE_ACK` with its packet id for its own.  As long as
such an acknowledgement is one of channel 0, a subscribe that succeeds has been
committed by the server.
-/

namespace Kronos

open Library

/-! ## The system -/

/-- The client, the subscribe call it waits in, the datagrams it has sent, and
the server.  The run also records the subscribe calls so far, those that the
server has committed, and those that have returned with success. -/
structure SubscribeRun where
  client : ServerConnection
  waiting : Option (Channel × UInt64) := none
  wire : List (List UInt8)
  server : ServerRun
  subscribes : List (Channel × UInt64) := []
  commits : List (Channel × UInt64) := []
  returned : List (Channel × UInt64) := []

/-- What can happen.  Positions name datagrams among those once sent. -/
inductive SubscribeEvent
  | send (channel : Channel) (data : List UInt8) (length : UInt16)
      (requireAck : Bool) (clock : Nat -> UInt64)
      (allocations : SendAllocations)
  | startReceive (created : Bool)
  | subscribe (channel : Channel) (now : UInt64)
      (allocations : SendAllocations)
  | unsubscribe (channel : Channel) (built : Bool)
  | service (now : UInt64) (built : Bool)
  | receive (position : Nat) (now : UInt64) (allocations : ReceiveAllocations)
  | poll
  | waitReceive (position : Nat)
  | timeout
  | deliver (position : Nat) (input : HandlerInput)
  | other (event : ServerEvent)

/-- The event is a datagram from an address. -/
def ServerEvent.isFrom (address : PortAddress) : ServerEvent -> Bool
  | .datagram _ _ remoteAddr _ => decide (remoteAddr = address)
  | _ => false

/-- The subscribe call that the handling of a frame has committed: the frame is
an accepted `SUBSCRIBE`, and the connection is on the list of its channel. -/
def committedBy
    (next : ServerPortManager)
    (descriptor : Nat)
    (frame : Frame)
    (address : PortAddress) : List (Channel × UInt64) :=
  if frame.protocolChar = 0x4B ∧ frame.channel = 0 ∧
      frame.frameType = FrameType.subscribe.code then
    match targetChannel frame with
    | none => []
    | some target =>
        if isSubscribed next descriptor target address then
          [(target, frame.packetId)]
        else []
  else []

/-- The subscribe that waits returns with success. -/
def SubscribeRun.succeed
    (current : SubscribeRun)
    (channel : Channel)
    (packetId : UInt64) : SubscribeRun :=
  { current with
    client := subscribeSucceeded current.client channel
    waiting := none
    returned := current.returned ++ [(channel, packetId)] }

section System

variable (address : PortAddress) (descriptor : Nat)

/-- Everything the server has sent to the client. -/
def SubscribeRun.toClient (current : SubscribeRun) : List (List UInt8) :=
  sentTo address current.server.log

/-- One step.  Calls are made when no subscribe waits; the receive thread and
the loop without it exclude each other. -/
def subscribeStep (current : SubscribeRun) :
    SubscribeEvent -> Option SubscribeRun
  | .send channel data length requireAck clock allocations =>
      if current.waiting.isSome then none
      else
        let sent := krsClientSend current.client channel data length
          requireAck clock allocations
        some
          { current with
            client := sent.1
            wire := current.wire ++ sent.2.2 }
  | .startReceive created =>
      if current.waiting.isSome then none
      else
        some
          { current with
            client := (krsClientStartReceive current.client created).1 }
  | .subscribe channel now allocations =>
      if current.waiting.isSome then none
      else
        let called := krsClientSubscribe current.client channel now allocations
        match called.2 with
        | .error _ => some { current with client := called.1 }
        | .ok (packetId, frame) =>
            some
              { current with
                client := called.1
                waiting := some (channel, packetId)
                wire := current.wire ++ [frame]
                subscribes := current.subscribes ++ [(channel, packetId)] }
  | .unsubscribe channel built =>
      if current.waiting.isSome then none
      else
        let called := krsClientUnsubscribe current.client channel built
        some
          { current with
            client := called.1
            wire := current.wire ++ clientDatagrams called.2.2 }
  | .service now built =>
      if !current.client.recvThread then none
      else
        let beat := clientHeartbeat current.client now built
        let resent := clientRetransmit beat.1 now
        some
          { current with
            client := resent.1
            wire := current.wire ++ clientDatagrams beat.2 ++
              clientDatagrams resent.2 }
  | .receive position now allocations =>
      match (current.toClient address)[position]? with
      | none => none
      | some datagram =>
          if !current.client.recvThread then none
          else
            (clientReceive current.client datagram now allocations).map
              fun received =>
                { current with
                  client := received.1
                  wire := current.wire ++ clientDatagrams received.2 }
  | .poll =>
      match current.waiting with
      | none => none
      | some (channel, packetId) =>
          if !current.client.recvThread then none
          else if subscribePoll current.client then
            some (current.succeed channel packetId)
          else some current
  | .waitReceive position =>
      match current.waiting, (current.toClient address)[position]? with
      | some (channel, packetId), some datagram =>
          if current.client.recvThread then none
          else if subscribeReceive packetId datagram then
            some (current.succeed channel packetId)
          else some current
      | _, _ => none
  | .timeout =>
      if current.waiting.isNone then none
      else
        some
          { current with
            client := (subscribeTimeout current.client).1
            waiting := none }
  | .deliver position input =>
      match current.wire[position]? with
      | none => none
      | some datagram =>
          (serverStep current.server
            (.datagram descriptor datagram address input)).map fun next =>
              { current with
                server := next
                commits := current.commits ++ committedBy next.spm descriptor
                  (krsFrameCreate datagram kronosBufferSize) address }
  | .other event =>
      if event.isFrom address then none
      else
        (serverStep current.server event).map fun next =>
          { current with server := next }

/-! ## The property and its condition -/

/-- A subscribe has returned with success, and a channel is marked as
subscribed, only after the server has committed the connection for that
`SUBSCRIBE`. -/
structure SubscribesCommitted (current : SubscribeRun) : Prop where
  returned : ∀ call ∈ current.returned, call ∈ current.commits
  subscribed : ∀ channel, current.client.subscribed channel = true ->
    ∃ packetId, (channel, packetId) ∈ current.returned

/-- If the frame acknowledges a packet id, it does so on channel 0. -/
def AcknowledgesOnChannel0 (packetId : UInt64) (frame : Frame) : Prop :=
  frame.protocolChar = 0x4B -> frame.frameType = FrameType.messageAck.code ->
    frame.packetId = packetId -> frame.channel = 0

instance (packetId : UInt64) (frame : Frame) :
    Decidable (AcknowledgesOnChannel0 packetId frame) :=
  inferInstanceAs (Decidable (_ -> _ -> _ -> _))

/-- A `SUBSCRIBE` gets a packet id that no earlier one had, and the
acknowledgements of the awaited packet id that reach a waiting subscribe are
those of channel 0. -/
def SubscribeAllowed (current : SubscribeRun) : SubscribeEvent -> Prop
  | .subscribe _ _ _ =>
      current.client.nextPacketId 0 ∉ current.subscribes.map Prod.snd
  | .receive position _ _ =>
      ∀ call ∈ current.waiting, ∀ datagram ∈
        (current.toClient address)[position]?,
        AcknowledgesOnChannel0 call.2
          (krsFrameCreate datagram kronosBufferSize)
  | .waitReceive position =>
      ∀ call ∈ current.waiting, ∀ datagram ∈
        (current.toClient address)[position]?,
        AcknowledgesOnChannel0 call.2 (krsFrameCreate datagram 64)
  | _ => True

/-! ## The invariant -/

/-- Every `MESSAGE_ACK` of channel 0 that the server has sent to the client
answers a `SUBSCRIBE` that it has committed. -/
def AcksCommitted
    (datagrams : List (List UInt8))
    (commits : List (Channel × UInt64)) : Prop :=
  ∀ datagram ∈ datagrams, ∀ size,
    let frame := krsFrameCreate datagram size
    frame.protocolChar = 0x4B ->
      frame.frameType = FrameType.messageAck.code -> frame.channel = 0 ->
        ∃ target, (target, frame.packetId) ∈ commits

/-- The state of the wait: the packet id that the receive thread compares with,
its flag, and the call that waits. -/
structure WaitInvariant (current : SubscribeRun) : Prop where
  called : ∀ call, current.waiting = some call -> call ∈ current.subscribes
  pending : current.client.pendingSubscribePid ≠ 0 ->
    ∃ channel, current.waiting =
      some (channel, current.client.pendingSubscribePid)
  flag : current.client.subscribeAckReceived = true ->
    ∃ call, current.waiting = some call ∧ call ∈ current.commits
  threadless : current.client.recvThread = false ->
    current.client.pendingSubscribePid = 0 ∧
      current.client.subscribeAckReceived = false

/-- The invariant of allowed runs. -/
structure SubscribeInvariant (current : SubscribeRun) : Prop where
  unique : (current.subscribes.map Prod.snd).Nodup
  wire : ∀ datagram ∈ current.wire, ClientFrame current.subscribes datagram
  stores : StoresClientFrames current.subscribes current.client
  server : RunHolds (fun _ _ conn => StoresMessages conn) current.server
  acks : AcksCommitted (current.toClient address) current.commits
  commits : ∀ call ∈ current.commits, call ∈ current.subscribes
  wait : WaitInvariant current
  result : SubscribesCommitted current

variable {address} {descriptor} {current : SubscribeRun}

/-- Two calls with one packet id are the same. -/
theorem eq_of_packetId
    {calls : List (Channel × UInt64)}
    (unique : (calls.map Prod.snd).Nodup)
    {channel target : Channel}
    {packetId : UInt64}
    (first : (channel, packetId) ∈ calls)
    (second : (target, packetId) ∈ calls) :
    target = channel := by
  have same := List.inj_on_of_nodup_map unique second first rfl
  exact (Prod.mk.inj same).1

/-- An acknowledgement of channel 0 with the packet id of a call. -/
theorem SubscribeInvariant.committed
    (invariant : SubscribeInvariant address current)
    {datagram : List UInt8}
    (sent : datagram ∈ current.toClient address)
    {channel : Channel}
    {packetId : UInt64}
    (called : (channel, packetId) ∈ current.subscribes)
    {size : Nat}
    (accepted : (krsFrameCreate datagram size).protocolChar = 0x4B)
    (type : (krsFrameCreate datagram size).frameType =
      FrameType.messageAck.code)
    (numbered : (krsFrameCreate datagram size).packetId = packetId)
    (zero : (krsFrameCreate datagram size).channel = 0) :
    (channel, packetId) ∈ current.commits := by
  obtain ⟨target, committed⟩ :=
    invariant.acks datagram sent size accepted type zero
  rw [numbered] at committed
  rw [eq_of_packetId invariant.unique called
    (invariant.commits _ committed)] at committed
  exact committed

/-! ## Calls -/

/-- A state in which only the client has changed and has sent some
datagrams. -/
theorem SubscribeInvariant.withClient
    (invariant : SubscribeInvariant address current)
    {next : ServerConnection}
    {datagrams : List (List UInt8)}
    (stores : StoresClientFrames current.subscribes next)
    (frames : ∀ datagram ∈ datagrams,
      ClientFrame current.subscribes datagram)
    (wait : WaitInvariant { current with client := next })
    (subscribed : ∀ channel, next.subscribed channel = true ->
      current.client.subscribed channel = true) :
    SubscribeInvariant address
      { current with client := next, wire := current.wire ++ datagrams } where
  unique := invariant.unique
  wire := by
    intro datagram member
    rcases List.mem_append.mp member with earlier | later
    · exact invariant.wire datagram earlier
    · exact frames datagram later
  stores := stores
  server := invariant.server
  acks := invariant.acks
  commits := invariant.commits
  wait := ⟨wait.called, wait.pending, wait.flag, wait.threadless⟩
  result := ⟨invariant.result.returned, fun channel marked =>
    invariant.result.subscribed channel (subscribed channel marked)⟩

theorem WaitInvariant.of_sameWait
    (wait : WaitInvariant current)
    {next : ServerConnection}
    (same : SameWait current.client next) :
    WaitInvariant { current with client := next } where
  called := wait.called
  pending := by
    dsimp only
    rw [same.pending]
    exact wait.pending
  flag := by
    dsimp only
    rw [same.received]
    exact wait.flag
  threadless := by
    dsimp only
    rw [same.recvThread, same.pending, same.received]
    exact wait.threadless

/-- A call of the client, or a round of its receive thread, that a waiting
subscribe does not notice. -/
theorem SubscribeInvariant.outgoing
    (invariant : SubscribeInvariant address current)
    {next : ServerConnection}
    {datagrams : List (List UInt8)}
    (outgoing : Outgoing current.subscribes current.client next datagrams) :
    SubscribeInvariant address
      { current with client := next, wire := current.wire ++ datagrams } := by
  refine invariant.withClient outgoing.stores outgoing.frames
    (invariant.wait.of_sameWait outgoing.wait) ?_
  intro channel marked
  rw [outgoing.wait.subscribed] at marked
  exact marked

/-- No subscribe waits: the flag is down and no packet id is pending. -/
theorem WaitInvariant.idle
    (wait : WaitInvariant current)
    (free : current.waiting = none) :
    current.client.pendingSubscribePid = 0 ∧
      current.client.subscribeAckReceived = false := by
  constructor
  · by_contra pending
    obtain ⟨channel, waits⟩ := wait.pending pending
    rw [free] at waits
    cases waits
  · rw [← Bool.not_eq_true]
    intro flag
    obtain ⟨call, waits, -⟩ := wait.flag flag
    rw [free] at waits
    cases waits

/-- A state in which nothing is pending and no subscribe waits. -/
theorem WaitInvariant.of_settled
    (free : current.waiting = none)
    (settled : current.client.pendingSubscribePid = 0 ∧
      current.client.subscribeAckReceived = false) :
    WaitInvariant current where
  called := by
    intro call waits
    rw [free] at waits
    cases waits
  pending := fun pending => absurd settled.1 pending
  flag := by
    rw [settled.2]
    exact nofun
  threadless := fun _ => settled

theorem SubscribeInvariant.startReceive
    (invariant : SubscribeInvariant address current)
    (free : current.waiting = none)
    (created : Bool) :
    SubscribeInvariant address
      { current with
        client := (krsClientStartReceive current.client created).1 } := by
  have settled := invariant.wait.idle free
  have started : ∀ next : ServerConnection,
      next.ackTracker = current.client.ackTracker ->
      next.pendingSubscribePid = current.client.pendingSubscribePid ->
      next.subscribeAckReceived = current.client.subscribeAckReceived ->
      next.subscribed = current.client.subscribed ->
      SubscribeInvariant address { current with client := next } := by
    intro next tracker pending received subscribed
    have kept := invariant.withClient (invariant.stores.congr tracker)
      (nofun : ∀ datagram ∈ [], ClientFrame current.subscribes datagram)
      (WaitInvariant.of_settled free
        ⟨pending.trans settled.1, received.trans settled.2⟩)
      (by rw [subscribed]; exact fun _ marked => marked)
    rw [List.append_nil] at kept
    exact kept
  unfold krsClientStartReceive
  split_ifs
  · exact started _ rfl rfl rfl rfl
  · exact started _ rfl rfl rfl rfl
  · exact started _ rfl rfl rfl rfl
  · exact started _ rfl rfl rfl rfl

theorem SubscribeInvariant.unsubscribe
    (invariant : SubscribeInvariant address current)
    (channel : Channel)
    (built : Bool) :
    let called := krsClientUnsubscribe current.client channel built
    SubscribeInvariant address
      { current with
        client := called.1
        wire := current.wire ++ clientDatagrams called.2.2 } := by
  unfold krsClientUnsubscribe
  split
  case isTrue =>
    exact invariant.outgoing (.silent invariant.stores rfl (SameWait.refl _))
  case isFalse =>
    split
    case isTrue =>
      exact invariant.outgoing
        (.silent invariant.stores rfl (SameWait.refl _))
    case isFalse =>
      dsimp only
      split
      case isTrue =>
        exact invariant.outgoing
          (.silent invariant.stores rfl ⟨rfl, rfl, rfl, rfl⟩)
      case isFalse =>
        refine invariant.withClient (invariant.stores.congr rfl) ?_ ?_ ?_
        · intro datagram member
          exact .unsubscribe channel _ (mem_clientDatagrams_sendFrame member)
        · exact ⟨invariant.wait.called, invariant.wait.pending,
            invariant.wait.flag, invariant.wait.threadless⟩
        · intro other marked
          dsimp only at marked
          by_cases same : other = channel
          · subst same
            rw [Function.update_self] at marked
            cases marked
          · rw [Function.update_of_ne same] at marked
            exact marked

/-- A subscribe that has sent its frame and starts to wait. -/
structure StartsWaiting
    (subscribes : List (Channel × UInt64))
    (before after : ServerConnection)
    (packetId : UInt64) : Prop where
  stores : StoresClientFrames subscribes after
  subscribed : after.subscribed = before.subscribed
  recvThread : after.recvThread = before.recvThread
  pending : after.pendingSubscribePid =
    if before.recvThread then packetId else before.pendingSubscribePid
  received : after.subscribeAckReceived =
    if before.recvThread then false else before.subscribeAckReceived

/-- The part of `krs_client_subscribe` before the wait loop. -/
theorem krsClientSubscribe_cases
    {subscribes : List (Channel × UInt64)}
    {conn : ServerConnection}
    (stores : StoresClientFrames subscribes conn)
    (channel : Channel)
    (now : UInt64)
    (allocations : SendAllocations) :
    let packetId := conn.nextPacketId 0
    let called := krsClientSubscribe conn channel now allocations
    (∃ result, called.2 = .error result ∧
        Outgoing subscribes conn called.1 []) ∨
      called.2 = .ok (packetId, subscribeFrame channel packetId) ∧
        StartsWaiting (subscribes ++ [(channel, packetId)]) conn called.1
          packetId := by
  intro packetId
  have grown : StoresClientFrames (subscribes ++ [(channel, packetId)])
      (conn.advanceCounter 0) :=
    (stores.congr rfl).mono fun _ member => List.mem_append_left _ member
  have sameWait : SameWait conn (conn.advanceCounter 0) := ⟨rfl, rfl, rfl, rfl⟩
  unfold krsClientSubscribe
  split
  case isTrue => exact Or.inl ⟨_, rfl, .silent stores rfl (SameWait.refl _)⟩
  case isFalse =>
    split
    case isTrue => exact Or.inl ⟨_, rfl, .silent stores rfl (SameWait.refl _)⟩
    case isFalse =>
      split
      case isTrue =>
        exact Or.inl ⟨_, rfl, .silent stores rfl (SameWait.refl _)⟩
      case isFalse =>
        dsimp only
        split
        case isTrue => exact Or.inl ⟨_, rfl, .silent stores rfl sameWait⟩
        case isFalse =>
          split
          case isTrue threaded =>
            have running : conn.recvThread = true := threaded
            refine Or.inr ⟨rfl, ?_, rfl, rfl, ?_, ?_⟩
            · refine ((grown.ensureTracker allocations.tracker).expect packetId
                0 (fun _ => now) allocations.entry ?_).congr rfl
              intro frame member
              rw [List.mem_singleton.mp member, List.take_length]
              exact .subscribe channel packetId (by simp) rfl
            · rw [if_pos running]
            · rw [if_pos running]
          case isFalse threadless =>
            have stopped : ¬ conn.recvThread = true := threadless
            refine Or.inr ⟨rfl, grown, rfl, rfl, ?_, ?_⟩
            · rw [if_neg stopped]
              rfl
            · rw [if_neg stopped]
              rfl

theorem SubscribeInvariant.subscribe
    (invariant : SubscribeInvariant address current)
    (free : current.waiting = none)
    {channel : Channel}
    {next : ServerConnection}
    {packetId : UInt64}
    (fresh : packetId ∉ current.subscribes.map Prod.snd)
    (starts : StartsWaiting (current.subscribes ++ [(channel, packetId)])
      current.client next packetId) :
    SubscribeInvariant address
      { current with
        client := next
        waiting := some (channel, packetId)
        wire := current.wire ++ [subscribeFrame channel packetId]
        subscribes := current.subscribes ++ [(channel, packetId)] } where
  unique := by
    rw [List.map_append, List.map_singleton]
    refine List.nodup_append.mpr
      ⟨invariant.unique, List.nodup_singleton _, ?_⟩
    rintro first firstIn second secondIn rfl
    rw [List.mem_singleton.mp secondIn] at firstIn
    exact fresh firstIn
  wire := by
    intro datagram member
    rcases List.mem_append.mp member with earlier | last
    · exact (invariant.wire datagram earlier).mono
        fun _ called => List.mem_append_left _ called
    · exact .subscribe channel packetId (by simp) (List.mem_singleton.mp last)
  stores := starts.stores
  server := invariant.server
  acks := invariant.acks
  commits := fun call committed =>
    List.mem_append_left _ (invariant.commits call committed)
  wait := by
    obtain ⟨noPending, noFlag⟩ := invariant.wait.idle free
    have pending := starts.pending
    have received := starts.received
    rw [noPending] at pending
    rw [noFlag] at received
    refine ⟨?_, ?_, ?_, ?_⟩
    · rintro call ⟨⟩
      simp
    · dsimp only
      rw [pending]
      split
      case isTrue => exact fun _ => ⟨channel, rfl⟩
      case isFalse => exact fun nonzero => absurd rfl nonzero
    · dsimp only
      rw [received]
      split <;> exact nofun
    · dsimp only
      rw [starts.recvThread, pending, received]
      intro stopped
      rw [stopped]
      exact ⟨rfl, rfl⟩
  result := ⟨invariant.result.returned, by
    dsimp only
    rw [starts.subscribed]
    exact invariant.result.subscribed⟩

/-! ## The end of the wait -/

/-- The waiting subscribe returns with success after it was committed. -/
theorem SubscribeInvariant.succeed
    (invariant : SubscribeInvariant address current)
    {channel : Channel}
    {packetId : UInt64}
    (committed : (channel, packetId) ∈ current.commits) :
    SubscribeInvariant address (current.succeed channel packetId) where
  unique := invariant.unique
  wire := invariant.wire
  stores := by
    refine invariant.stores.congr ?_
    simp only [SubscribeRun.succeed, subscribeSucceeded]
    split <;> rfl
  server := invariant.server
  acks := invariant.acks
  commits := invariant.commits
  wait := by
    refine WaitInvariant.of_settled rfl ?_
    simp only [SubscribeRun.succeed, subscribeSucceeded]
    split
    case isTrue => exact ⟨rfl, rfl⟩
    case isFalse threadless =>
      exact invariant.wait.threadless (by simpa using threadless)
  result := by
    refine ⟨?_, ?_⟩
    · intro call member
      rcases List.mem_append.mp member with earlier | last
      · exact invariant.result.returned call earlier
      · rw [List.mem_singleton.mp last]
        exact committed
    · intro other marked
      by_cases same : other = channel
      · subst same
        exact ⟨packetId, by simp [SubscribeRun.succeed]⟩
      · have before : current.client.subscribed other = true := by
          simp only [SubscribeRun.succeed, subscribeSucceeded,
            Function.update_of_ne same] at marked
          split at marked <;> exact marked
        obtain ⟨earlier, known⟩ := invariant.result.subscribed other before
        exact ⟨earlier, List.mem_append_left _ known⟩

theorem SubscribeInvariant.timeout
    (invariant : SubscribeInvariant address current) :
    SubscribeInvariant address
      { current with
        client := (subscribeTimeout current.client).1
        waiting := none } where
  unique := invariant.unique
  wire := invariant.wire
  stores := by
    refine invariant.stores.congr ?_
    simp only [subscribeTimeout]
    split <;> rfl
  server := invariant.server
  acks := invariant.acks
  commits := invariant.commits
  wait := by
    refine WaitInvariant.of_settled rfl ?_
    simp only [subscribeTimeout]
    split
    case isTrue => exact ⟨rfl, rfl⟩
    case isFalse threadless =>
      exact invariant.wait.threadless (by simpa using threadless)
  result := by
    refine ⟨invariant.result.returned, ?_⟩
    intro channel marked
    refine invariant.result.subscribed channel ?_
    simp only [subscribeTimeout] at marked
    split at marked <;> exact marked

/-! ## Acknowledgements -/

/-- A round of the receive thread.  The flag goes up for a waiting subscribe
that the server has committed. -/
theorem SubscribeInvariant.receive
    (invariant : SubscribeInvariant address current)
    (threaded : current.client.recvThread = true)
    {datagram : List UInt8}
    (sent : datagram ∈ current.toClient address)
    (onChannel0 : ∀ call ∈ current.waiting,
      AcknowledgesOnChannel0 call.2
        (krsFrameCreate datagram kronosBufferSize))
    {now : UInt64}
    {allocations : ReceiveAllocations}
    {next : ServerConnection}
    {effects : List ClientEffect}
    (received : clientReceive current.client datagram now allocations =
      some (next, effects)) :
    SubscribeInvariant address
      { current with
        client := next
        wire := current.wire ++ clientDatagrams effects } := by
  obtain ⟨stores, frames, unnoticed | answered⟩ :=
    clientReceive_outgoing invariant.stores received
  · exact invariant.outgoing ⟨stores, unnoticed, frames⟩
  · have wait := answered.wait
    obtain ⟨channel, waits⟩ := invariant.wait.pending answered.awaited
    have zero := onChannel0 _ waits answered.accepted answered.type
      answered.numbered
    have committed := invariant.committed sent
      (invariant.wait.called _ waits) answered.accepted answered.type
      answered.numbered zero
    refine invariant.withClient stores frames ⟨invariant.wait.called, ?_, ?_,
      ?_⟩ ?_
    · intro nonzero
      have pending : next.pendingSubscribePid =
          current.client.pendingSubscribePid := wait.pending
      exact ⟨channel, by rw [pending]; exact waits⟩
    · exact fun _ => ⟨_, waits, committed⟩
    · intro stopped
      have running : next.recvThread = true := wait.recvThread.trans threaded
      rw [running] at stopped
      cases stopped
    · intro other marked
      have same : next.subscribed = current.client.subscribed :=
        wait.subscribed
      rw [same] at marked
      exact marked

/-- The loop with the receive thread has seen the flag. -/
theorem SubscribeInvariant.poll
    (invariant : SubscribeInvariant address current)
    {channel : Channel}
    {packetId : UInt64}
    (waits : current.waiting = some (channel, packetId))
    (flagged : subscribePoll current.client = true) :
    SubscribeInvariant address (current.succeed channel packetId) := by
  obtain ⟨call, waiting, committed⟩ := invariant.wait.flag flagged
  rw [waits] at waiting
  cases waiting
  exact invariant.succeed committed

theorem subscribeReceive_eq_true
    {packetId : UInt64}
    {datagram : List UInt8}
    (received : subscribeReceive packetId datagram = true) :
    let frame := krsFrameCreate datagram 64
    frame.protocolChar = 0x4B ∧
      frame.frameType = FrameType.messageAck.code ∧
      frame.packetId = packetId := by
  unfold subscribeReceive recvFrom at received
  split at received
  case h_1 => cases received
  case h_2 raw whole =>
    have sameRaw : raw = datagram := by
      split at whole
      case isTrue => cases whole
      case isFalse => exact (Option.some.inj whole).symm
    rw [sameRaw] at received
    simpa using received

/-- The loop without a receive thread has read an acknowledgement. -/
theorem SubscribeInvariant.waitReceive
    (invariant : SubscribeInvariant address current)
    {channel : Channel}
    {packetId : UInt64}
    (waits : current.waiting = some (channel, packetId))
    {datagram : List UInt8}
    (sent : datagram ∈ current.toClient address)
    (onChannel0 : AcknowledgesOnChannel0 packetId
      (krsFrameCreate datagram 64))
    (received : subscribeReceive packetId datagram = true) :
    SubscribeInvariant address (current.succeed channel packetId) := by
  obtain ⟨accepted, type, numbered⟩ := subscribeReceive_eq_true received
  exact invariant.succeed (invariant.committed sent
    (invariant.wait.called _ waits) accepted type numbered
    (onChannel0 accepted type numbered))

/-! ## The server -/

/-- A message acknowledges nothing. -/
theorem IsMessage.not_messageAck
    {datagram : List UInt8}
    (message : IsMessage datagram)
    {size : Nat}
    (accepted : (krsFrameCreate datagram size).protocolChar = 0x4B) :
    (krsFrameCreate datagram size).frameType ≠
      FrameType.messageAck.code := by
  obtain ⟨channel, packetId, flags, heads⟩ := message
  rw [(krsFrameCreate_of_heads heads accepted).2.1]
  decide

/-- What the server sends for a datagram of the client acknowledges, on
channel 0, the subscribe that it commits. -/
theorem Reply.committed
    {subscribes : List (Channel × UInt64)}
    {next : ServerPortManager}
    {datagram frame : List UInt8}
    (sent : ClientFrame subscribes datagram)
    (requested : (krsFrameCreate datagram kronosBufferSize).protocolChar =
      0x4B)
    (reply : Reply next descriptor (krsFrameCreate datagram kronosBufferSize)
      address frame)
    {size : Nat}
    (accepted : (krsFrameCreate frame size).protocolChar = 0x4B)
    (type : (krsFrameCreate frame size).frameType =
      FrameType.messageAck.code)
    (zero : (krsFrameCreate frame size).channel = 0) :
    ∃ target, (target, (krsFrameCreate frame size).packetId) ∈
      committedBy next descriptor (krsFrameCreate datagram kronosBufferSize)
        address := by
  cases reply with
  | socketAck heads =>
      rw [(krsFrameCreate_of_heads heads accepted).2.1] at type
      exact absurd type (by decide)
  | message application heads =>
      rw [(krsFrameCreate_of_heads heads accepted).1] at zero
      rw [zero] at application
      exact absurd application (by decide)
  | subscribed target channel requestType named committed heads =>
      refine ⟨target, ?_⟩
      rw [(krsFrameCreate_of_heads heads accepted).2.2.1]
      unfold committedBy
      rw [if_pos ⟨requested, channel, requestType⟩, named]
      dsimp only
      rw [if_pos committed]
      exact List.mem_singleton_self _
  | unsubscribed channel requestType acknowledged heads =>
      rw [sent.unsubscribed requested requestType] at acknowledged
      cases acknowledged

/-- A rejected datagram is not answered. -/
theorem handleDatagram_of_rejected
    {spm next : ServerPortManager}
    {datagram : List UInt8}
    {input : HandlerInput}
    {effects : List ServerEffect}
    (rejected : (krsFrameCreate datagram kronosBufferSize).protocolChar ≠
      0x4B)
    (handled : handleDatagram spm descriptor datagram address input =
      some (next, effects)) :
    effects = [] := by
  unfold handleDatagram at handled
  dsimp only at handled
  rw [if_pos rejected] at handled
  cases handled
  rfl

theorem sentTo_append
    (address : PortAddress)
    (first second : List ServerEffect) :
    sentTo address (first ++ second) =
      sentTo address first ++ sentTo address second := List.filterMap_append

theorem mem_committedBy
    {next : ServerPortManager}
    {frame : Frame}
    {call : Channel × UInt64}
    (committed : call ∈ committedBy next descriptor frame address) :
    frame.protocolChar = 0x4B ∧
      frame.frameType = FrameType.subscribe.code ∧
      targetChannel frame = some call.1 ∧ frame.packetId = call.2 := by
  unfold committedBy at committed
  split at committed
  case isFalse => cases committed
  case isTrue requested =>
    split at committed
    case h_1 => cases committed
    case h_2 target named =>
      split at committed
      case isFalse => cases committed
      case isTrue =>
        rw [List.mem_singleton.mp committed]
        exact ⟨requested.1, requested.2.2, named, rfl⟩

/-- A step of the server with the calls it commits. -/
theorem SubscribeInvariant.serverStep
    (invariant : SubscribeInvariant address current)
    {event : ServerEvent}
    {next : ServerRun}
    {committed : List (Channel × UInt64)}
    (taken : serverStep current.server event = some next)
    (called : ∀ call ∈ committed, call ∈ current.subscribes)
    (acks : ∀ effects, serverEffect current.server.spm event =
      some (next.spm, effects) ->
        AcksCommitted (sentTo address effects) committed) :
    SubscribeInvariant address
      { current with
        server := next, commits := current.commits ++ committed } where
  unique := invariant.unique
  wire := invariant.wire
  stores := invariant.stores
  server := invariant.server.step storesMessages_connectionInvariant trivial
    taken
  acks := by
    obtain ⟨⟨spm, effects⟩, effect, rfl⟩ := Option.map_eq_some_iff.mp taken
    intro datagram sent size frame accepted type zero
    simp only [SubscribeRun.toClient, sentTo_append] at sent
    rcases List.mem_append.mp sent with earlier | later
    · obtain ⟨target, known⟩ := invariant.acks datagram earlier size accepted
        type zero
      exact ⟨target, List.mem_append_left _ known⟩
    · obtain ⟨target, known⟩ := acks effects effect datagram later size
        accepted type zero
      exact ⟨target, List.mem_append_right _ known⟩
  commits := by
    intro call member
    rcases List.mem_append.mp member with earlier | later
    · exact invariant.commits call earlier
    · exact called call later
  wait := by
    refine ⟨invariant.wait.called, invariant.wait.pending, ?_,
      invariant.wait.threadless⟩
    intro flagged
    obtain ⟨call, waits, known⟩ := invariant.wait.flag flagged
    exact ⟨call, waits, List.mem_append_left _ known⟩
  result := ⟨fun call returned =>
      List.mem_append_left _ (invariant.result.returned call returned),
    invariant.result.subscribed⟩

theorem SubscribeInvariant.messages
    (invariant : SubscribeInvariant address current) :
    ∀ conn ∈ current.server.spm.connections, StoresMessages conn := by
  intro conn member
  obtain ⟨ref, read⟩ := List.getElem?_of_mem member
  exact invariant.server.connections ref conn read

/-- The server handles a datagram of the client. -/
theorem SubscribeInvariant.deliver
    (invariant : SubscribeInvariant address current)
    {datagram : List UInt8}
    (sent : datagram ∈ current.wire)
    {input : HandlerInput}
    {next : ServerRun}
    (taken : Kronos.serverStep current.server
      (.datagram descriptor datagram address input) = some next) :
    SubscribeInvariant address
      { current with
        server := next
        commits := current.commits ++ committedBy next.spm descriptor
          (krsFrameCreate datagram kronosBufferSize) address } := by
  have outgoing := invariant.wire datagram sent
  refine invariant.serverStep taken ?_ ?_
  · rintro ⟨target, packetId⟩ committed
    obtain ⟨accepted, type, named, numbered⟩ := mem_committedBy committed
    have called := outgoing.subscribed accepted type named
    rw [numbered] at called
    exact called
  · intro effects handled reply answered size frame accepted type zero
    by_cases requested :
        (krsFrameCreate datagram kronosBufferSize).protocolChar = 0x4B
    · rcases serverEffect_sentTo invariant.messages handled answered with
        message | ⟨_, _, _, same, reply⟩
      · exact absurd type (message.not_messageAck accepted)
      · cases same
        exact reply.committed outgoing requested accepted type zero
    · rw [handleDatagram_of_rejected requested handled] at answered
      cases answered

/-- The server does something else. -/
theorem SubscribeInvariant.other
    (invariant : SubscribeInvariant address current)
    {event : ServerEvent}
    (elsewhere : event.isFrom address = false)
    {next : ServerRun}
    (taken : Kronos.serverStep current.server event = some next) :
    SubscribeInvariant address { current with server := next } := by
  have kept := invariant.serverStep taken
    (nofun : ∀ call ∈ [], call ∈ current.subscribes) ?_
  · rw [List.append_nil] at kept
    exact kept
  · intro effects handled reply answered size frame accepted type zero
    rcases serverEffect_sentTo invariant.messages handled answered with
      message | ⟨_, _, _, same, _⟩
    · exact absurd type (message.not_messageAck accepted)
    · rw [same] at elsewhere
      simp [ServerEvent.isFrom] at elsewhere

/-! ## Runs -/

/-- An allowed step. -/
theorem SubscribeInvariant.step
    {event : SubscribeEvent}
    {next : SubscribeRun}
    (invariant : SubscribeInvariant address current)
    (allowed : SubscribeAllowed address current event)
    (taken : subscribeStep address descriptor current event = some next) :
    SubscribeInvariant address next := by
  cases event with
  | send channel data length requireAck clock allocations =>
      simp only [subscribeStep] at taken
      split at taken
      case isTrue => cases taken
      case isFalse =>
        cases taken
        exact invariant.outgoing (krsClientSend_outgoing invariant.stores
          channel data length requireAck clock allocations)
  | startReceive created =>
      simp only [subscribeStep] at taken
      split at taken
      case isTrue => cases taken
      case isFalse free =>
        cases taken
        exact invariant.startReceive (by simpa using free) created
  | subscribe channel now allocations =>
      simp only [subscribeStep] at taken
      split at taken
      case isTrue => cases taken
      case isFalse free =>
        rcases krsClientSubscribe_cases invariant.stores channel now
            allocations with ⟨result, returned, outgoing⟩ | ⟨returned, starts⟩
        · rw [returned] at taken
          cases taken
          have kept := invariant.outgoing outgoing
          rw [List.append_nil] at kept
          exact kept
        · rw [returned] at taken
          cases taken
          exact invariant.subscribe (by simpa using free) allowed starts
  | unsubscribe channel built =>
      simp only [subscribeStep] at taken
      split at taken
      case isTrue => cases taken
      case isFalse =>
        cases taken
        exact invariant.unsubscribe channel built
  | service now built =>
      simp only [subscribeStep] at taken
      split at taken
      case isTrue => cases taken
      case isFalse =>
        cases taken
        have beat := invariant.outgoing
          (clientHeartbeat_outgoing invariant.stores now built)
        exact beat.outgoing (clientRetransmit_outgoing beat.stores now)
  | receive position now allocations =>
      simp only [subscribeStep] at taken
      split at taken
      case h_1 => cases taken
      case h_2 datagram found =>
        split at taken
        case isTrue => cases taken
        case isFalse threaded =>
          obtain ⟨⟨client, effects⟩, received, rfl⟩ :=
            Option.map_eq_some_iff.mp taken
          exact invariant.receive (by simpa using threaded)
            (List.mem_of_getElem? found)
            (fun call waits => allowed call waits datagram found) received
  | poll =>
      simp only [subscribeStep] at taken
      split at taken
      case h_1 => cases taken
      case h_2 channel packetId waits =>
        split at taken
        case isTrue => cases taken
        case isFalse =>
          split at taken
          case isTrue flagged =>
            cases taken
            exact invariant.poll waits flagged
          case isFalse =>
            cases taken
            exact invariant
  | waitReceive position =>
      simp only [subscribeStep] at taken
      split at taken
      case h_2 => cases taken
      case h_1 channel packetId datagram waits found =>
        split at taken
        case isTrue => cases taken
        case isFalse =>
          split at taken
          case isTrue received =>
            cases taken
            exact invariant.waitReceive waits (List.mem_of_getElem? found)
              (allowed _ waits datagram found) received
          case isFalse =>
            cases taken
            exact invariant
  | timeout =>
      simp only [subscribeStep] at taken
      split at taken
      case isTrue => cases taken
      case isFalse =>
        cases taken
        exact invariant.timeout
  | deliver position input =>
      simp only [subscribeStep] at taken
      split at taken
      case h_1 => cases taken
      case h_2 datagram found =>
        obtain ⟨server, stepped, rfl⟩ := Option.map_eq_some_iff.mp taken
        exact invariant.deliver (List.mem_of_getElem? found) stepped
  | other event =>
      simp only [subscribeStep] at taken
      split at taken
      case isTrue => cases taken
      case isFalse elsewhere =>
        obtain ⟨server, stepped, rfl⟩ := Option.map_eq_some_iff.mp taken
        exact invariant.other (by simpa using elsewhere) stepped

/-- The connection that `krs_client_connect` returns. -/
structure FreshClient (client : ServerConnection) : Prop where
  recvThread : client.recvThread = false
  ackTracker : client.ackTracker = none
  pending : client.pendingSubscribePid = 0
  received : client.subscribeAckReceived = false
  subscribed : ∀ channel, client.subscribed channel = false

/-- The beginning: the client has sent its `CONNECTION`, and the server has
started. -/
def SubscribeRun.start
    (client : ServerConnection)
    (descriptorList : List UDPSocketDescriptor) : SubscribeRun :=
  { client := client
    wire := [controlFrame 0 .connection]
    server := runStart descriptorList }

theorem SubscribeInvariant.start
    {client : ServerConnection}
    (fresh : FreshClient client)
    (descriptorList : List UDPSocketDescriptor) :
    SubscribeInvariant address (.start client descriptorList) where
  unique := List.nodup_nil
  wire := by
    intro datagram member
    rw [List.mem_singleton.mp member]
    exact .other 0 .connection 0 0
      (serializeToBuffer_heads (krsFrameBuilderCreate 0 .connection) rfl
        (by decide) (by decide)) (by decide) (by decide)
  stores := by
    intro tracker read
    rw [SubscribeRun.start, fresh.ackTracker] at read
    cases read
  server := RunHolds.start _ descriptorList
  acks := nofun
  commits := nofun
  wait := WaitInvariant.of_settled rfl ⟨fresh.pending, fresh.received⟩
  result := by
    refine ⟨nofun, ?_⟩
    intro channel marked
    rw [SubscribeRun.start, fresh.subscribed channel] at marked
    cases marked

/-- In every run of a client and a server over a network that loses, repeats
and reorders datagrams, with or without a receive thread: if no `SUBSCRIBE`
reuses a packet id and the awaited packet id is acknowledged to a waiting
subscribe on channel 0 only, then a subscribe returns with success, and marks
its channel, only after the server has committed that `SUBSCRIBE`. -/
theorem subscribe_success_committed
    {client : ServerConnection}
    (fresh : FreshClient client)
    {descriptorList : List UDPSocketDescriptor}
    {events : List SubscribeEvent}
    {final : SubscribeRun}
    (allowed : RunAllowed (subscribeStep address descriptor)
      (SubscribeAllowed address) (.start client descriptorList) events)
    (reached : run (subscribeStep address descriptor)
      (.start client descriptorList) events = some final) :
    SubscribesCommitted final :=
  (run_induction
    (fun _ _ _ invariant allowedHere taken =>
      SubscribeInvariant.step invariant allowedHere taken)
    (SubscribeInvariant.start fresh descriptorList) allowed reached).result

end System

/-! ## Two small runs -/

instance (address : PortAddress) (current : SubscribeRun) :
    (event : SubscribeEvent) ->
      Decidable (SubscribeAllowed address current event)
  | .subscribe _ _ _ => inferInstanceAs (Decidable (_ ∉ _))
  | .receive _ _ _ => Option.decidableForallMem current.waiting
  | .waitReceive _ => Option.decidableForallMem current.waiting
  | .send _ _ _ _ _ _ => isTrue trivial
  | .startReceive _ => isTrue trivial
  | .unsubscribe _ _ => isTrue trivial
  | .service _ _ => isTrue trivial
  | .poll => isTrue trivial
  | .timeout => isTrue trivial
  | .deliver _ _ => isTrue trivial
  | .other _ => isTrue trivial

/-- The client of the small runs. -/
def smallClient : ServerConnection := { connectionId := 1 }

/-- A subscribe to channel 10 is sent, committed and acknowledged. -/
def committedEvents (threaded : Bool) : List SubscribeEvent :=
  [.deliver 0 { now := 1 }] ++
    (if threaded then [.startReceive true] else []) ++
    [.subscribe 10 2 {}, .deliver 1 { now := 3 }] ++
    if threaded then [.receive 1 4 {}, .poll] else [.waitReceive 1]

/-- The client sends a message on channel 20, which the server acknowledges.
Its first packet id is the one of the `SUBSCRIBE` that follows, which is
lost. -/
def lostEvents (threaded : Bool) : List SubscribeEvent :=
  [.deliver 0 { now := 1 }] ++
    (if threaded then [.startReceive true] else []) ++
    [.send 20 [7] 1 true (fun _ => 2) {}, .deliver 1 { now := 3 },
      .subscribe 10 4 {}] ++
    if threaded then [.receive 1 5 {}, .poll] else [.waitReceive 1]

/-- The calls that returned, those committed, and the mark of channel 10. -/
def SubscribeRun.outcome (current : SubscribeRun) :
    List (Channel × UInt64) × List (Channel × UInt64) × Bool :=
  (current.returned, current.commits, current.client.subscribed 10)

theorem smallClient_fresh : FreshClient smallClient :=
  ⟨rfl, rfl, rfl, rfl, fun _ => rfl⟩

/-- The small run with these events ends in a state with this outcome. -/
def smallRunEnds
    (events : List SubscribeEvent)
    (outcome : List (Channel × UInt64) × List (Channel × UInt64) × Bool)
    (Holds : SubscribeRun -> Prop) : Prop :=
  ∃ final,
    run (subscribeStep (clientAddress 7) 0)
      (.start smallClient [listeningPort]) events = some final ∧
    final.outcome = outcome ∧ Holds final

/-- Both wait loops end with success after the commit. -/
theorem acknowledged_subscribe_committed :
    smallRunEnds (committedEvents false) ([(10, 1)], [(10, 1)], true)
        SubscribesCommitted ∧
      smallRunEnds (committedEvents true) ([(10, 1)], [(10, 1)], true)
        SubscribesCommitted := by
  have committed : ∀ threaded, smallRunEnds (committedEvents threaded)
      ([(10, 1)], [(10, 1)], true) SubscribesCommitted := by
    intro threaded
    have allowed : RunAllowed (subscribeStep (clientAddress 7) 0)
        (SubscribeAllowed (clientAddress 7))
        (.start smallClient [listeningPort]) (committedEvents threaded) := by
      cases threaded <;> decide +kernel
    have outcome : (run (subscribeStep (clientAddress 7) 0)
        (.start smallClient [listeningPort]) (committedEvents threaded)).map
          SubscribeRun.outcome = some ([(10, 1)], [(10, 1)], true) := by
      cases threaded <;> decide +kernel
    obtain ⟨final, reached, shown⟩ := Option.map_eq_some_iff.mp outcome
    exact ⟨final, reached, shown,
      subscribe_success_committed smallClient_fresh allowed reached⟩
  exact ⟨committed false, committed true⟩

/-- The acknowledgement of the message ends the wait for the `SUBSCRIBE`, in
either loop: the subscribe succeeds and nothing was committed. -/
theorem lost_subscribe_succeeds :
    smallRunEnds (lostEvents false) ([(10, 1)], [], true)
        (¬ SubscribesCommitted ·) ∧
      smallRunEnds (lostEvents true) ([(10, 1)], [], true)
        (¬ SubscribesCommitted ·) := by
  have lost : ∀ threaded, smallRunEnds (lostEvents threaded)
      ([(10, 1)], [], true) (¬ SubscribesCommitted ·) := by
    intro threaded
    have outcome : (run (subscribeStep (clientAddress 7) 0)
        (.start smallClient [listeningPort]) (lostEvents threaded)).map
          SubscribeRun.outcome = some ([(10, 1)], [], true) := by
      cases threaded <;> decide +kernel
    obtain ⟨final, reached, shown⟩ := Option.map_eq_some_iff.mp outcome
    refine ⟨final, reached, shown, fun committed => ?_⟩
    have returned : final.returned = [(10, 1)] := congrArg (·.1) shown
    have commits : final.commits = [] := congrArg (·.2.1) shown
    have impossible := committed.returned (10, 1) (by rw [returned]; simp)
    rw [commits] at impossible
    cases impossible
  exact ⟨lost false, lost true⟩

end Kronos
