import Kronos.Library.Transition
import Kronos.Server.Lists

/-!
# Evictions and the clock

The eviction tick reads the clock before it takes the state lock and compares
that reading with the heartbeats it finds under the lock, in unsigned 64-bit
arithmetic.  Handlers write heartbeats in between, and the handler of a
`HEARTBEAT` reads the clock before it takes the lock, too.  So a heartbeat that
is newer than the reading of the tick looks ages old, and a handler that is
late overwrites a newer heartbeat with its own.  Ticks that meet neither evict
only connections that have been silent for the whole timeout.
-/

namespace Kronos

open Library

/-- A server, the shared clock, the reading of a tick that has not taken the
lock yet, with its port, and the readings of the handlers of `HEARTBEAT`s that
wait for the lock.  `heard` records the sections of `CONNECTION`s and
`HEARTBEAT`s: the port, the sender, and the reading of the clock. -/
structure ClockedServer where
  spm : ServerPortManager
  clock : UInt64
  reading : Option (Nat × UInt64) := none
  waiting : List UInt64 := []
  heard : List (Nat × PortAddress × UInt64) := []

/-- What can happen: time passes, the tick reads the clock, the handler of a
`HEARTBEAT` reads the clock, the tick runs its section, or another section
runs. -/
inductive ClockedEvent
  | advance (now : UInt64)
  | readClock (descriptor : Nat)
  | readHeartbeat
  | evict
  | handle (taken : LockSection)

/-- A `CONNECTION` reads the clock in its section, and a `HEARTBEAT` has read
it before.  Evictions are not handlers. -/
def readsClock (current : ClockedServer) : LockSection -> Bool
  | .connection _ _ now _ => now == current.clock
  | .heartbeat _ _ now => current.waiting.contains now
  | .evict .. => false
  | _ => true

/-- The handler of a `HEARTBEAT` does not wait any longer. -/
def waitingAfter (waiting : List UInt64) : LockSection -> List UInt64
  | .heartbeat _ _ now => waiting.erase now
  | _ => waiting

/-- A sign of life, with the reading of the clock that goes with it. -/
def LockSection.heard : LockSection -> List (Nat × PortAddress × UInt64)
  | .connection descriptor remoteAddr now _ => [(descriptor, remoteAddr, now)]
  | .heartbeat descriptor remoteAddr now => [(descriptor, remoteAddr, now)]
  | _ => []

/-- One step.  The clock does not run backwards, and the retransmit thread has
one reading at a time. -/
def clockedStep (current : ClockedServer) :
    ClockedEvent -> Option ClockedServer
  | .advance now =>
      if current.clock ≤ now then some { current with clock := now }
      else none
  | .readClock descriptor =>
      match current.reading with
      | none =>
          some { current with reading := some (descriptor, current.clock) }
      | some _ => none
  | .readHeartbeat =>
      some { current with waiting := current.waiting ++ [current.clock] }
  | .evict =>
      match current.reading with
      | none => none
      | some (descriptor, now) =>
          some
            { current with
              spm := (evictSection current.spm descriptor now).2
              reading := none }
  | .handle taken =>
      if readsClock current taken then
        some
          { current with
            spm := lockSection current.spm taken
            waiting := waitingAfter current.waiting taken
            heard := current.heard ++ taken.heard }
      else none

/-- The last heartbeat of a connection. -/
def lastHeartbeatOf (spm : ServerPortManager) (ref : ConnectionRef) :
    UInt64 :=
  match spm.connections[ref]? with
  | none => 0
  | some conn => conn.lastHeartbeatMs

/-- So old is a reading of the clock that a connection with no other sign of
life may be evicted. -/
def OutOfTime (clock reading : UInt64) : Prop :=
  reading.toNat + krsHeartbeatTimeoutMs ≤ clock.toNat

instance (clock reading : UInt64) : Decidable (OutOfTime clock reading) :=
  inferInstanceAs (Decidable (_ ≤ _))

/-- An eviction removes only connections whose last heartbeat is a timeout
ago, and so is every `CONNECTION` and `HEARTBEAT` of their client. -/
def RemovesOnlyOld (current : ClockedServer) : ClockedEvent -> Prop
  | .evict =>
      ∀ next, clockedStep current .evict = some next ->
        ∀ descriptor channel, ∀ ref ∈ listed current.spm descriptor channel,
          ref ∉ listed next.spm descriptor channel ->
            OutOfTime current.clock (lastHeartbeatOf current.spm ref) ∧
            ∀ address reading,
              current.spm.addressOf ref = some address ->
                (descriptor, address, reading) ∈ current.heard ->
                  OutOfTime current.clock reading
  | _ => True

/-- A heartbeat is so much newer than the reading that its age wraps around to
less than the timeout. -/
def WrapsFresh (now last : UInt64) : Prop :=
  2 ^ 64 < last.toNat - now.toNat + krsHeartbeatTimeoutMs

instance (now last : UInt64) : Decidable (WrapsFresh now last) :=
  inferInstanceAs (Decidable (_ < _))

/-- The last heartbeat of a connection is not newer than the reading of the
tick, unless it is out of time by now or wraps around. -/
def HeartbeatBeforeReading (clock now last : UInt64) : Prop :=
  last ≤ now ∨ OutOfTime clock last ∨ WrapsFresh now last

instance (clock now last : UInt64) :
    Decidable (HeartbeatBeforeReading clock now last) :=
  inferInstanceAs (Decidable (_ ∨ _ ∨ _))

/-- A sign of life has not been overwritten with an older one, unless it is out
of time by now or what has been written is still young. -/
def NotOverwritten (clock now last reading : UInt64) : Prop :=
  reading ≤ last ∨ OutOfTime clock reading ∨
    last ≤ now ∧ now.toNat < last.toNat + krsHeartbeatTimeoutMs ∨
    WrapsFresh now last

instance (clock now last reading : UInt64) :
    Decidable (NotOverwritten clock now last reading) :=
  inferInstanceAs (Decidable (_ ∨ _ ∨ _ ∧ _ ∨ _))

/-- At an eviction, no connection of the port has a heartbeat that is newer
than the reading of the tick, and none has one that is older than a sign of
life that the port has had from its client. -/
def HeartbeatsInOrder (current : ClockedServer) : ClockedEvent -> Prop
  | .evict =>
      ∀ descriptor now, current.reading = some (descriptor, now) ->
        ∀ channel, ∀ ref ∈ listed current.spm descriptor channel,
          HeartbeatBeforeReading current.clock now
              (lastHeartbeatOf current.spm ref) ∧
            ∀ sign ∈ current.heard, sign.1 = descriptor ->
              current.spm.addressOf ref = some sign.2.1 ->
                NotOverwritten current.clock now
                  (lastHeartbeatOf current.spm ref) sign.2.2
  | _ => True

instance (current : ClockedServer) :
    ∀ event, Decidable (HeartbeatsInOrder current event)
  | .advance _ => isTrue trivial
  | .readClock _ => isTrue trivial
  | .readHeartbeat => isTrue trivial
  | .handle _ => isTrue trivial
  | .evict =>
      match held : current.reading with
      | none => isTrue fun _ _ reading => by rw [held] at reading; cases reading
      | some (descriptor, now) =>
          decidable_of_iff
            (allChannels.all (fun channel => decide
              (∀ ref ∈ listed current.spm descriptor channel,
                HeartbeatBeforeReading current.clock now
                    (lastHeartbeatOf current.spm ref) ∧
                  ∀ sign ∈ current.heard, sign.1 = descriptor ->
                    current.spm.addressOf ref = some sign.2.1 ->
                      NotOverwritten current.clock now
                        (lastHeartbeatOf current.spm ref) sign.2.2)) = true)
            (by
              rw [List.all_eq_true]
              constructor
              · intro holds other reading same channel
                rw [held] at same
                cases same
                exact of_decide_eq_true
                  (holds channel (mem_allChannels channel))
              · exact fun holds channel _ =>
                  decide_eq_true (holds descriptor now held channel))

/-! ## One eviction -/

/-- The age of a heartbeat in unsigned arithmetic. -/
theorem toNat_age (now last : UInt64) :
    (now - last).toNat =
      if last ≤ now then now.toNat - last.toNat
      else 2 ^ 64 - (last.toNat - now.toNat) := by
  have nowSmall := now.toNat_lt
  have lastSmall := last.toNat_lt
  rw [UInt64.toNat_sub]
  split
  case isTrue before =>
    rw [UInt64.le_iff_toNat_le] at before
    omega
  case isFalse after =>
    rw [UInt64.not_le, UInt64.lt_iff_toNat_lt] at after
    omega

/-- A stale connection is old by the clock exactly when its heartbeat did not
come after the reading. -/
theorem stale_implies_old_iff
    {now clock last : UInt64}
    (past : now ≤ clock) :
    ((now - last).toNat ≥ krsHeartbeatTimeoutMs -> OutOfTime clock last) ↔
      HeartbeatBeforeReading clock now last := by
  have lastSmall := last.toNat_lt
  rw [UInt64.le_iff_toNat_le] at past
  rw [toNat_age]
  unfold HeartbeatBeforeReading OutOfTime WrapsFresh krsHeartbeatTimeoutMs
  by_cases before : last ≤ now
  · rw [if_pos before]
    simp only [before, true_or, iff_true]
    rw [UInt64.le_iff_toNat_le] at before
    omega
  · rw [if_neg before]
    simp only [before, false_or]
    rw [UInt64.not_le, UInt64.lt_iff_toNat_lt] at before
    omega

/-- What a heartbeat has to be so that a connection is not stale. -/
theorem not_stale_iff (now last : UInt64) :
    ¬ (now - last).toNat ≥ krsHeartbeatTimeoutMs ↔
      last ≤ now ∧ now.toNat < last.toNat + krsHeartbeatTimeoutMs ∨
        WrapsFresh now last := by
  have lastSmall := last.toNat_lt
  rw [toNat_age]
  unfold WrapsFresh krsHeartbeatTimeoutMs
  by_cases before : last ≤ now
  · rw [if_pos before]
    simp only [before, true_and]
    rw [UInt64.le_iff_toNat_le] at before
    omega
  · rw [if_neg before]
    simp only [before, false_and, false_or]
    rw [UInt64.not_le, UInt64.lt_iff_toNat_lt] at before
    omega

/-- With a heartbeat that is not newer than the reading, a stale connection has
had no younger sign of life exactly when none was overwritten. -/
theorem stale_implies_silent_iff
    {now clock last : UInt64}
    (past : now ≤ clock)
    (before : HeartbeatBeforeReading clock now last)
    (reading : UInt64) :
    ((now - last).toNat ≥ krsHeartbeatTimeoutMs ->
        OutOfTime clock reading) ↔
      NotOverwritten clock now last reading := by
  unfold NotOverwritten
  rw [← not_stale_iff]
  constructor
  · intro silent
    by_cases stale : (now - last).toNat ≥ krsHeartbeatTimeoutMs
    · exact Or.inr (Or.inl (silent stale))
    · exact Or.inr (Or.inr stale)
  · rintro (older | old | young) stale
    · have old := (stale_implies_old_iff past).mpr before stale
      rw [UInt64.le_iff_toNat_le] at older
      unfold OutOfTime at old ⊢
      omega
    · exact old
    · exact absurd stale young

/-- Who is evicted, by heartbeat. -/
theorem isStale_iff
    (spm : ServerPortManager)
    (now : UInt64)
    (ref : ConnectionRef) :
    isStale spm now ref = true ↔
      ref < spm.connections.length ∧
        (now - lastHeartbeatOf spm ref).toNat ≥ krsHeartbeatTimeoutMs := by
  unfold isStale lastHeartbeatOf
  cases read : spm.connections[ref]? with
  | none =>
      rw [List.getElem?_eq_none_iff] at read
      simp only [Bool.false_eq_true, false_iff, not_and]
      intro inside
      exact absurd inside (Nat.not_lt.mpr read)
  | some conn =>
      obtain ⟨inside, -⟩ := List.getElem?_eq_some_iff.mp read
      simp [inside]

theorem not_mem_evictSection_iff
    {spm : ServerPortManager}
    {own descriptor : Nat}
    {channel : Channel}
    {ref : ConnectionRef}
    (now : UInt64)
    (member : ref ∈ listed spm descriptor channel) :
    ref ∉ listed (evictSection spm own now).2 descriptor channel ↔
      descriptor = own ∧ isStale spm now ref = true := by
  rw [evictSection_lists spm own now descriptor]
  split
  case isTrue same =>
    subst same
    rw [RosterOp.mem_apply_leave]
    simp only [member, true_and, Bool.not_eq_false]
  case isFalse different =>
    exact ⟨fun removed => absurd member removed,
      fun evicted => absurd evicted.1 different⟩

/-- The reading of the tick is in the past, and listed connections are
allocated. -/
structure ClockInvariant (current : ClockedServer) : Prop where
  reading : ∀ descriptor now, current.reading = some (descriptor, now) ->
    now ≤ current.clock
  roster : RosterInvariant current.spm

theorem ClockInvariant.removesOnlyOld_iff
    {current : ClockedServer}
    (invariant : ClockInvariant current)
    (event : ClockedEvent) :
    RemovesOnlyOld current event ↔ HeartbeatsInOrder current event := by
  cases event with
  | advance now => exact Iff.rfl
  | readClock descriptor => exact Iff.rfl
  | readHeartbeat => exact Iff.rfl
  | handle taken => exact Iff.rfl
  | evict =>
      unfold RemovesOnlyOld HeartbeatsInOrder clockedStep
      dsimp only
      cases held : current.reading with
      | none => simp
      | some pending =>
          obtain ⟨own, now⟩ := pending
          have past := invariant.reading own now held
          constructor
          · rintro removes _ _ ⟨⟩ channel ref member
            have leaves (old : (now - lastHeartbeatOf current.spm ref).toNat ≥
                krsHeartbeatTimeoutMs) :=
              removes _ rfl own channel ref member (by
                rw [not_mem_evictSection_iff now member, isStale_iff]
                exact ⟨rfl, invariant.roster.allocated own ref
                  ((invariant.roster.inOrder own).mem_base member), old⟩)
            have before := (stale_implies_old_iff past).mp fun old =>
              (leaves old).1
            refine ⟨before, ?_⟩
            rintro ⟨_, address, reading⟩ sign rfl owned
            exact (stale_implies_silent_iff past before reading).mp
              fun old => (leaves old).2 address reading owned sign
          · rintro inOrder _ ⟨⟩ descriptor channel ref member removed
            rw [not_mem_evictSection_iff now member, isStale_iff] at removed
            obtain ⟨same, -, old⟩ := removed
            subst same
            obtain ⟨before, signs⟩ := inOrder _ now rfl channel ref member
            refine ⟨(stale_implies_old_iff past).mpr before old, ?_⟩
            intro address reading owned sign
            exact (stale_implies_silent_iff past before reading).mpr
              (signs _ sign rfl owned) old

/-! ## Whole runs -/

theorem ClockInvariant.step
    {current next : ClockedServer}
    (invariant : ClockInvariant current)
    {event : ClockedEvent}
    (taken : clockedStep current event = some next) :
    ClockInvariant next := by
  cases event with
  | advance now =>
      rw [clockedStep] at taken
      split at taken
      case isTrue later =>
        cases taken
        refine ⟨?_, invariant.roster⟩
        intro descriptor reading held
        exact UInt64.le_trans (invariant.reading descriptor reading held)
          later
      case isFalse => cases taken
  | readClock descriptor =>
      rw [clockedStep] at taken
      split at taken
      case h_1 =>
        cases taken
        refine ⟨?_, invariant.roster⟩
        rintro _ _ ⟨⟩
        exact UInt64.le_refl _
      case h_2 => cases taken
  | readHeartbeat =>
      cases taken
      exact ⟨invariant.reading, invariant.roster⟩
  | evict =>
      rw [clockedStep] at taken
      split at taken
      case h_1 => cases taken
      case h_2 own now _ =>
        cases taken
        refine ⟨nofun, ?_⟩
        exact invariant.roster.lockSection (.evict own now)
  | handle entered =>
      rw [clockedStep] at taken
      split at taken
      case isTrue =>
        cases taken
        exact ⟨invariant.reading, invariant.roster.lockSection entered⟩
      case isFalse => cases taken

/-- A server that starts at some time. -/
def clockedStart
    (descriptorList : List UDPSocketDescriptor)
    (clock : UInt64) : ClockedServer :=
  { spm := serverStart descriptorList, clock := clock }

/-- In every interleaving, the evictions remove only connections that have been
silent for a timeout, by their last heartbeat and by every `CONNECTION` and
`HEARTBEAT` of their client, if and only if no eviction meets a heartbeat that
is newer than the reading of its tick or that has overwritten a newer one. -/
theorem evictions_only_old_iff
    {descriptorList : List UDPSocketDescriptor}
    (fresh : ∀ desc ∈ descriptorList, ∀ channel,
      desc.connectionsOf channel = [])
    (clock : UInt64)
    (events : List ClockedEvent) :
    RunAllowed clockedStep RemovesOnlyOld
        (clockedStart descriptorList clock) events ↔
      RunAllowed clockedStep HeartbeatsInOrder
        (clockedStart descriptorList clock) events := by
  have start : ClockInvariant (clockedStart descriptorList clock) :=
    ⟨nofun, RosterInvariant.start fresh⟩
  exact runAllowed_congr (fun _ _ _ here => here.step)
    (fun _ event here => here.removesOnlyOld_iff event) start

/-- A client connects, sends a heartbeat, falls silent and is evicted in
time. -/
theorem silent_client_evicted_in_time :
    let events : List ClockedEvent :=
      [.handle (.connection 0 (clientAddress 4000) 5 {}), .readHeartbeat,
        .advance 7, .handle (.heartbeat 0 (clientAddress 4000) 5),
        .advance 40000, .readClock 0, .evict]
    (run clockedStep (clockedStart [announcingPort] 5) events).map
        (fun final => listed final.spm 0 0) = some [] ∧
      RunAllowed clockedStep RemovesOnlyOld
        (clockedStart [announcingPort] 5) events := by
  refine ⟨by decide +kernel, (evictions_only_old_iff ?_ 5 _).mpr
    (by decide +kernel)⟩
  intro desc member channel
  rw [List.mem_singleton.mp member]
  rfl

/-- A client connects one millisecond after a tick has read the clock and is
evicted at once. -/
theorem new_client_evicted_at_once :
    ¬ RunAllowed clockedStep RemovesOnlyOld
      (clockedStart [announcingPort] 5)
      [.readClock 0, .advance 6,
        .handle (.connection 0 (clientAddress 4000) 6 {}), .evict] := by
  intro allowed
  have ran : (run clockedStep (clockedStart [announcingPort] 5)
      [.readClock 0, .advance 6,
        .handle (.connection 0 (clientAddress 4000) 6 {})]).map
      (fun current =>
        (listed current.spm 0 0, lastHeartbeatOf current.spm 0,
          current.clock,
          (clockedStep current .evict).map fun next =>
            listed next.spm 0 0)) = some ([0], 6, 6, some []) := by
    decide +kernel
  obtain ⟨current, reached, facts⟩ := Option.map_eq_some_iff.mp ran
  simp only [Prod.mk.injEq] at facts
  obtain ⟨members, heard, clock, evicted⟩ := facts
  obtain ⟨next, taken, gone⟩ := Option.map_eq_some_iff.mp evicted
  have early : RemovesOnlyOld current .evict := allowed.after reached
  have old := (early next taken 0 0 0
    (by rw [members]; exact List.mem_singleton.mpr rfl)
    (by rw [gone]; exact List.not_mem_nil)).1
  rw [heard, clock] at old
  exact absurd old (by decide)

/-- A handler reads the clock and waits; meanwhile a younger `HEARTBEAT` is
handled.  Then the late handler writes its old reading, and the client is
evicted two milliseconds after its younger `HEARTBEAT`. -/
theorem late_heartbeat_evicts_client :
    ¬ RunAllowed clockedStep RemovesOnlyOld
      (clockedStart [announcingPort] 1)
      [.handle (.connection 0 (clientAddress 4000) 1 {}), .readHeartbeat,
        .advance 29999, .readHeartbeat,
        .handle (.heartbeat 0 (clientAddress 4000) 29999),
        .handle (.heartbeat 0 (clientAddress 4000) 1), .advance 30001,
        .readClock 0, .evict] := by
  intro allowed
  have ran : (run clockedStep (clockedStart [announcingPort] 1)
      [.handle (.connection 0 (clientAddress 4000) 1 {}), .readHeartbeat,
        .advance 29999, .readHeartbeat,
        .handle (.heartbeat 0 (clientAddress 4000) 29999),
        .handle (.heartbeat 0 (clientAddress 4000) 1), .advance 30001,
        .readClock 0]).map
      (fun current =>
        (listed current.spm 0 0, current.spm.addressOf 0,
          decide ((0, clientAddress 4000, 29999) ∈ current.heard),
          current.clock,
          (clockedStep current .evict).map fun next =>
            listed next.spm 0 0)) =
      some ([0], some (clientAddress 4000), true, 30001, some []) := by
    decide +kernel
  obtain ⟨current, reached, facts⟩ := Option.map_eq_some_iff.mp ran
  simp only [Prod.mk.injEq, decide_eq_true_eq] at facts
  obtain ⟨members, owned, sign, clock, evicted⟩ := facts
  obtain ⟨next, taken, gone⟩ := Option.map_eq_some_iff.mp evicted
  have early : RemovesOnlyOld current .evict := allowed.after reached
  have old := (early next taken 0 0 0
    (by rw [members]; exact List.mem_singleton.mpr rfl)
    (by rw [gone]; exact List.not_mem_nil)).2 _ _ owned sign
  rw [clock] at old
  exact absurd old (by decide)

end Kronos
