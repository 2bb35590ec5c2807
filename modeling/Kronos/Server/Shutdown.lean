import Mathlib.Algebra.Order.BigOperators.Group.List
import Kronos.Server.Lists
import Kronos.Server.Stop

/-!
# Connections at shutdown

The rounds of the sweep of a stopping server end with all lists empty.  They
pass every connection to the finalization exactly once, and never meet a
connection they have released, exactly when every list names its connections in
the order in which the list of channel 0 is taken off, batch by batch.
-/

namespace Kronos

open Library

/-! ## What is claimed of the events -/

/-- The later event reads the connection that the earlier one released. -/
def ReadAfterRelease : StopEvent -> StopEvent -> Prop
  | .release ref, .read other => ref = other
  | _, _ => False

/-- Each of the connections is released once, and none is read after its
release. -/
structure PassedOnce
    (refs : List ConnectionRef)
    (events : List StopEvent) : Prop where
  released : ∀ ref ∈ refs, events.count (.release ref) = 1
  unread : events.Pairwise fun earlier later =>
    ¬ ReadAfterRelease earlier later

/-- The event is the disconnect callback of this connection. -/
def StopEvent.isDisconnectOf (ref : ConnectionRef) : StopEvent -> Bool
  | .callback effect => effect.isDisconnectOf ref
  | _ => false

/-- The connections of a port are passed to the finalization once, with one
callback each. -/
structure SweptOnce
    (desc : UDPSocketDescriptor)
    (events : List StopEvent) : Prop
    extends PassedOnce (desc.connectionsOf 0) events where
  announced : ∀ callback, desc.disconnectCallback = some callback ->
    ∀ ref ∈ desc.connectionsOf 0,
      events.countP (StopEvent.isDisconnectOf ref) = 1

/-! ## The events of one round -/

/-- The events of a round and of the rounds after it. -/
def roundEvents
    (buffer : StopBuffer)
    (effects : List ServerEffect)
    (rest : List StopEvent) : List StopEvent :=
  buffer.reads.map .read ++ buffer.orphans.map .release ++
    effects.map .callback ++ rest

section

variable
  (buffer : StopBuffer)
  (effects : List ServerEffect)
  (rest : List StopEvent)

theorem count_release_roundEvents (ref : ConnectionRef) :
    (roundEvents buffer effects rest).count (.release ref) =
      buffer.orphans.count ref + rest.count (.release ref) := by
  have noRead : (buffer.reads.map StopEvent.read).count (.release ref) = 0 :=
    List.count_eq_zero_of_not_mem (by simp)
  have noCallback :
      (effects.map StopEvent.callback).count (.release ref) = 0 :=
    List.count_eq_zero_of_not_mem (by simp)
  have releases : (buffer.orphans.map StopEvent.release).count
      (.release ref) = buffer.orphans.count ref :=
    List.count_map_of_injective _ _
      (fun _ _ same => StopEvent.release.inj same) ref
  simp only [roundEvents, List.count_append, noRead, noCallback, releases,
    Nat.zero_add, Nat.add_zero]

theorem mem_release_roundEvents (ref : ConnectionRef) :
    .release ref ∈ roundEvents buffer effects rest ↔
      ref ∈ buffer.orphans ∨ .release ref ∈ rest := by
  simp [roundEvents]

theorem mem_read_roundEvents (ref : ConnectionRef) :
    .read ref ∈ roundEvents buffer effects rest ↔
      ref ∈ buffer.reads ∨ .read ref ∈ rest := by
  simp [roundEvents]

theorem countP_isDisconnectOf_roundEvents (ref : ConnectionRef) :
    (roundEvents buffer effects rest).countP (StopEvent.isDisconnectOf ref) =
      disconnectCount effects ref +
        rest.countP (StopEvent.isDisconnectOf ref) := by
  have noRead : (buffer.reads.map StopEvent.read).countP
      (StopEvent.isDisconnectOf ref) = 0 := by
    simp [List.countP_map, Function.comp_def, StopEvent.isDisconnectOf]
  have noRelease : (buffer.orphans.map StopEvent.release).countP
      (StopEvent.isDisconnectOf ref) = 0 := by
    simp [List.countP_map, Function.comp_def, StopEvent.isDisconnectOf]
  have callbacks : (effects.map StopEvent.callback).countP
      (StopEvent.isDisconnectOf ref) = disconnectCount effects ref := by
    rw [List.countP_map]
    rfl
  simp only [roundEvents, List.countP_append, noRead, noRelease, callbacks,
    Nat.zero_add]

/-- Reads come before the releases of their round. -/
theorem unread_roundEvents :
    ((roundEvents buffer effects rest).Pairwise fun earlier later =>
        ¬ ReadAfterRelease earlier later) ↔
      (∀ ref ∈ buffer.orphans, .read ref ∉ rest) ∧
        rest.Pairwise fun earlier later =>
          ¬ ReadAfterRelease earlier later := by
  have never : ∀ earlier later : StopEvent,
      (∀ ref, later ≠ .read ref) -> ¬ ReadAfterRelease earlier later := by
    intro earlier later notRead after
    cases later with
    | read ref => exact notRead ref rfl
    | release ref => cases earlier <;> exact after
    | callback effect => cases earlier <;> exact after
  have reads : (buffer.reads.map StopEvent.read).Pairwise
      fun earlier later => ¬ ReadAfterRelease earlier later :=
    List.pairwise_map.mpr (List.pairwise_of_forall fun _ _ => id)
  have releases : (buffer.orphans.map StopEvent.release).Pairwise
      fun earlier later => ¬ ReadAfterRelease earlier later :=
    List.pairwise_map.mpr (List.pairwise_of_forall fun _ _ => id)
  have callbacks : (effects.map StopEvent.callback).Pairwise
      fun earlier later => ¬ ReadAfterRelease earlier later :=
    List.pairwise_map.mpr (List.pairwise_of_forall fun _ _ => id)
  have round : (buffer.reads.map StopEvent.read ++
      buffer.orphans.map StopEvent.release ++
      effects.map StopEvent.callback).Pairwise
      fun earlier later => ¬ ReadAfterRelease earlier later := by
    refine List.pairwise_append.mpr
      ⟨List.pairwise_append.mpr ⟨reads, releases, ?_⟩, callbacks, ?_⟩
    · intro earlier _ later member
      obtain ⟨ref, -, rfl⟩ := List.mem_map.mp member
      exact never earlier (.release ref) nofun
    · intro earlier _ later member
      obtain ⟨effect, -, rfl⟩ := List.mem_map.mp member
      exact never earlier (.callback effect) nofun
  rw [roundEvents, List.pairwise_append]
  constructor
  · rintro ⟨-, unread, apart⟩
    refine ⟨?_, unread⟩
    intro ref member read
    exact apart (.release ref) (by simp [member]) (.read ref) read rfl
  · rintro ⟨gone, unread⟩
    refine ⟨round, unread, ?_⟩
    intro earlier earlierIn later laterIn after
    cases later with
    | read ref =>
        cases earlier with
        | read other => exact after
        | callback effect => exact after
        | release other =>
            subst after
            exact gone _ (by simpa using earlierIn) laterIn
    | release ref => exact never earlier (.release ref) nofun after
    | callback effect => exact never earlier (.callback effect) nofun after

/-- A round and the rounds after it pass the connections once exactly when the
round leaves none of its connections in a list and the rounds after it pass
what remains once. -/
theorem passedOnce_roundEvents_iff
    {before after : List ConnectionRef}
    {remains : ConnectionRef -> Prop}
    (once : buffer.orphans.Nodup)
    (kept : ∀ ref ∈ after, ref ∈ before ∧ remains ref)
    (removed : ∀ ref ∈ before, ref ∈ after ∨ ref ∈ buffer.orphans)
    (origin : ∀ ref ∈ buffer.orphans, ref ∈ before)
    (reads : ∀ ref, .read ref ∈ rest -> remains ref)
    (releases : ∀ ref, .release ref ∈ rest ↔ remains ref) :
    PassedOnce before (roundEvents buffer effects rest) ↔
      (∀ ref, remains ref -> ref ∉ buffer.orphans) ∧
        PassedOnce after rest := by
  have counted := count_release_roundEvents buffer effects rest
  constructor
  · rintro ⟨released, unread⟩
    have clean : ∀ ref, remains ref -> ref ∉ buffer.orphans := by
      intro ref left gone
      have total := released ref (origin ref gone)
      have again := List.count_pos_iff.mpr ((releases ref).mpr left)
      have first := List.count_pos_iff.mpr gone
      rw [counted] at total
      omega
    refine ⟨clean, ?_, ((unread_roundEvents buffer effects rest).mp
      unread).2⟩
    intro ref member
    obtain ⟨base, left⟩ := kept ref member
    have total := released ref base
    rw [counted, List.count_eq_zero_of_not_mem (clean ref left)] at total
    omega
  · rintro ⟨clean, released, unread⟩
    refine ⟨?_, (unread_roundEvents buffer effects rest).mpr ⟨?_, unread⟩⟩
    · intro ref base
      rw [counted]
      by_cases gone : ref ∈ buffer.orphans
      · have never : .release ref ∉ rest := fun again =>
          clean ref ((releases ref).mp again) gone
        rw [List.count_eq_one_of_mem once gone,
          List.count_eq_zero_of_not_mem never]
      · have left := (removed ref base).resolve_right gone
        rw [List.count_eq_zero_of_not_mem gone, released ref left]
    · intro ref gone read
      exact clean ref (reads ref read) gone

end

/-! ## All rounds on a port -/

/-- Every list names its connections in the order in which the list of channel
0 is taken off from its end, batch by batch. -/
def ListsInBatches (desc : UDPSocketDescriptor) : Prop :=
  ∀ channel, InBatches maxEvictionsPerCycle (desc.connectionsOf 0).reverse
    (desc.connectionsOf channel).reverse

/-- The lists are contained in the list of channel 0, which names every
connection once. -/
structure ListsContained (desc : UDPSocketDescriptor) : Prop where
  nodup : (desc.connectionsOf 0).Nodup
  contained : ∀ channel, ∀ ref ∈ desc.connectionsOf channel,
    ref ∈ desc.connectionsOf 0

/-- A connection is on some list. -/
def OnSomeList (desc : UDPSocketDescriptor) (ref : ConnectionRef) : Prop :=
  ∃ channel, ref ∈ desc.connectionsOf channel

/-- The lists are in the order of their batches exactly when a pass leaves
nothing behind that it has taken, and they still are afterwards. -/
theorem listsInBatches_iff
    {desc : UDPSocketDescriptor}
    (lists : ListsContained desc) :
    ListsInBatches desc ↔
      (∀ ref, OnSomeList (stopPass desc).2 ref ->
        ref ∉ (stopPass desc).1.orphans) ∧
        ListsInBatches (stopPass desc).2 := by
  obtain ⟨orphans, after⟩ := stopPass_contained lists.nodup lists.contained
  have base : ((stopPass desc).2.connectionsOf 0).reverse =
      (desc.connectionsOf 0).reverse.drop maxEvictionsPerCycle := by
    rw [after, afterBatch_take _ (List.nodup_reverse.mpr lists.nodup)]
  have each : ∀ channel,
      InBatches maxEvictionsPerCycle (desc.connectionsOf 0).reverse
          (desc.connectionsOf channel).reverse ↔
        (∀ ref ∈ (stopPass desc).2.connectionsOf channel,
          ref ∉ (stopPass desc).1.orphans) ∧
        InBatches maxEvictionsPerCycle
          ((stopPass desc).2.connectionsOf 0).reverse
          ((stopPass desc).2.connectionsOf channel).reverse := by
    intro channel
    rw [inBatches_iff (by decide) (by
      intro ref member
      rw [List.mem_reverse] at member ⊢
      exact lists.contained channel ref member), ← after channel, ← orphans,
      ← base]
    simp only [List.mem_reverse]
  unfold ListsInBatches OnSomeList
  simp only [each, forall_and]
  constructor
  · rintro ⟨clean, batches⟩
    exact ⟨fun ref ⟨channel, member⟩ => clean channel ref member, batches⟩
  · rintro ⟨clean, batches⟩
    exact ⟨fun channel ref member => clean ref ⟨channel, member⟩, batches⟩

/-- A pass that leaves nothing behind keeps the lists contained. -/
theorem ListsContained.stopPass
    {desc : UDPSocketDescriptor}
    (lists : ListsContained desc)
    (clean : ∀ ref, OnSomeList (stopPass desc).2 ref ->
      ref ∉ (stopPass desc).1.orphans) :
    ListsContained (stopPass desc).2 := by
  have steps := stopPass_steps desc
  refine ⟨(steps.kept 0).nodup lists.nodup, ?_⟩
  intro channel ref member
  have base := lists.contained channel ref ((steps.kept channel).mem member)
  exact (steps.removed 0 ref base).resolve_right (clean ref ⟨channel, member⟩)

/-- A pass that takes something shortens the lists. -/
theorem listedTotal_stopPass
    {desc : UDPSocketDescriptor}
    (nonempty : (stopPass desc).1.orphans ≠ []) :
    (stopPass desc).2.listedTotal < desc.listedTotal := by
  have steps := stopPass_steps desc
  refine List.sum_lt_sum _ _ ?_ ?_
  · exact fun channel _ => (steps.kept channel).length_le
  · rcases steps.shorter with same | ⟨channel, less⟩
    · exact absurd same nonempty
    · exact ⟨channel, mem_allChannels channel, less⟩

/-- A pass that takes nothing has found nothing. -/
theorem empty_of_stopPass
    {desc : UDPSocketDescriptor}
    (empty : (stopPass desc).1.orphans = []) :
    (∀ channel, desc.connectionsOf channel = []) ∧
      (stopPass desc).1.reads = [] := by
  have steps := stopPass_steps desc
  have lists : ∀ channel, desc.connectionsOf channel = [] := by
    intro channel
    by_contra nonempty
    exact steps.touched channel (mem_allChannels channel) nonempty empty
  refine ⟨lists, List.eq_nil_iff_forall_not_mem.mpr ?_⟩
  intro ref member
  rcases steps.reads ref member with earlier | ⟨channel, found⟩
  · exact absurd earlier List.not_mem_nil
  · rw [lists] at found
    exact absurd found List.not_mem_nil

/-- What the rounds on a port do. -/
structure StopsPort
    (spm : ServerPortManager)
    (descriptor : Nat)
    (desc : UDPSocketDescriptor)
    (final : ServerPortManager)
    (events : List StopEvent) : Prop where
  others : ∀ other, other ≠ descriptor ->
    final.descriptorList[other]? = spm.descriptorList[other]?
  reads : ∀ ref, .read ref ∈ events -> OnSomeList desc ref
  releases : ∀ ref, .release ref ∈ events ↔ OnSomeList desc ref
  announced : ∀ callback, desc.disconnectCallback = some callback ->
    ∀ ref, events.countP (StopEvent.isDisconnectOf ref) =
      events.count (.release ref)
  once : ListsContained desc ->
    (PassedOnce (desc.connectionsOf 0) events ↔ ListsInBatches desc)

theorem StopsPort.empty
    {spm final : ServerPortManager}
    {descriptor : Nat}
    {desc : UDPSocketDescriptor}
    (empty : ∀ channel, desc.connectionsOf channel = [])
    (others : ∀ other, other ≠ descriptor ->
      final.descriptorList[other]? = spm.descriptorList[other]?) :
    StopsPort spm descriptor desc final [] := by
  have nobody : ∀ ref, ¬ OnSomeList desc ref := by
    rintro ref ⟨channel, member⟩
    rw [empty] at member
    exact absurd member List.not_mem_nil
  refine ⟨others, by simp, ?_, by simp, ?_⟩
  · intro ref
    simp [nobody]
  · intro _
    constructor
    · intro _ channel
      simp [empty, InBatches]
    · exact fun _ => ⟨by simp [empty], List.Pairwise.nil⟩

/-- One more round. -/
theorem StopsPort.round
    {spm swept final : ServerPortManager}
    {descriptor : Nat}
    {desc : UDPSocketDescriptor}
    {effects : List ServerEffect}
    {rest : List StopEvent}
    (stops : StopsPort swept descriptor (stopPass desc).2 final rest)
    (others : ∀ other, other ≠ descriptor ->
      swept.descriptorList[other]? = spm.descriptorList[other]?)
    (announced : ∀ callback, desc.disconnectCallback = some callback ->
      ∀ ref, disconnectCount effects ref =
        (stopPass desc).1.orphans.count ref) :
    StopsPort spm descriptor desc final
      (roundEvents (stopPass desc).1 effects rest) := by
  have steps := stopPass_steps desc
  have kept : ∀ ref, OnSomeList (stopPass desc).2 ref ->
      OnSomeList desc ref := fun ref ⟨channel, member⟩ =>
    ⟨channel, (steps.kept channel).mem member⟩
  have origin : ∀ ref ∈ (stopPass desc).1.orphans, OnSomeList desc ref := by
    intro ref member
    exact (steps.origin ref member).resolve_left List.not_mem_nil
  refine ⟨?_, ?_, ?_, ?_, ?_⟩
  · intro other different
    rw [stops.others other different, others other different]
  · intro ref member
    rcases (mem_read_roundEvents _ _ _ ref).mp member with here | later
    · exact (steps.reads ref here).resolve_left List.not_mem_nil
    · exact kept ref (stops.reads ref later)
  · intro ref
    rw [mem_release_roundEvents, stops.releases]
    constructor
    · rintro (here | later)
      · exact origin ref here
      · exact kept ref later
    · rintro ⟨channel, member⟩
      exact (steps.removed channel ref member).symm.imp_right
        fun left => ⟨channel, left⟩
  · intro callback registered ref
    rw [countP_isDisconnectOf_roundEvents, count_release_roundEvents,
      announced callback registered ref,
      stops.announced callback
        ((stopPass_callbacks desc).disconnect.trans registered) ref]
  · intro lists
    rw [passedOnce_roundEvents_iff _ _ _ (steps.once List.nodup_nil)
      (fun ref member => ⟨(steps.kept 0).mem member, 0, member⟩)
      (steps.removed 0)
      (fun ref member => by
        obtain ⟨channel, found⟩ := origin ref member
        exact lists.contained channel ref found)
      stops.reads stops.releases, listsInBatches_iff lists]
    exact and_congr_right fun clean => stops.once (lists.stopPass clean)

/-- The rounds on a port end, and what the last round establishes and every
other round carries back holds of them. -/
theorem stopRounds_rule
    {descriptor : Nat}
    (Holds : ServerPortManager -> UDPSocketDescriptor -> ServerPortManager ->
      List StopEvent -> Prop)
    (last : ∀ spm desc, spm.descriptorList[descriptor]? = some desc ->
      (stopPass desc).1.orphans = [] ->
      Holds spm desc
        (spm.modifyDescriptor descriptor fun _ => (stopPass desc).2)
        ((stopPass desc).1.reads.map .read))
    (round : ∀ spm desc final rest,
      spm.descriptorList[descriptor]? = some desc ->
      let finalized := krsServerFinalizeOrphanEvictions
        (spm.modifyDescriptor descriptor fun _ => (stopPass desc).2)
        descriptor (stopPass desc).1.orphans
      Holds finalized.1 (stopPass desc).2 final rest ->
      Holds spm desc final
        (roundEvents (stopPass desc).1 finalized.2 rest))
    {fuel : Nat}
    {spm : ServerPortManager}
    {desc : UDPSocketDescriptor}
    (read : spm.descriptorList[descriptor]? = some desc)
    (enough : desc.listedTotal < fuel) :
    ∃ final events,
      stopRounds fuel spm descriptor = some (final, events) ∧
        Holds spm desc final events := by
  induction fuel generalizing spm desc with
  | zero => exact absurd enough (Nat.not_lt_zero _)
  | succ fuel inductionHypothesis =>
      rw [stopRounds, read]
      dsimp only
      split
      case isTrue empty =>
        exact ⟨_, _, rfl,
          last spm desc read (List.length_eq_zero_iff.mp empty)⟩
      case isFalse nonempty =>
        have less := listedTotal_stopPass
          (fun empty => nonempty (List.length_eq_zero_iff.mpr empty))
        have sweptRead : (krsServerFinalizeOrphanEvictions
            (spm.modifyDescriptor descriptor fun _ => (stopPass desc).2)
            descriptor (stopPass desc).1.orphans).1.descriptorList[
              descriptor]? = some (stopPass desc).2 := by
          rw [krsServerFinalizeOrphanEvictions_descriptorList]
          exact modifyDescriptor_read read _
        obtain ⟨final, rest, ran, holds⟩ :=
          inductionHypothesis sweptRead (by omega)
        rw [ran]
        exact ⟨final, _, rfl, round spm desc final rest read holds⟩

/-- The rounds on a port end. -/
theorem stopRounds_stops
    {fuel : Nat}
    {spm : ServerPortManager}
    {descriptor : Nat}
    {desc : UDPSocketDescriptor}
    (read : spm.descriptorList[descriptor]? = some desc)
    (enough : desc.listedTotal < fuel) :
    ∃ final events,
      stopRounds fuel spm descriptor = some (final, events) ∧
        StopsPort spm descriptor desc final events := by
  have others : ∀ (spm : ServerPortManager) (desc : UDPSocketDescriptor)
      (other : Nat), other ≠ descriptor ->
      (spm.modifyDescriptor descriptor
        fun _ => (stopPass desc).2).descriptorList[other]? =
          spm.descriptorList[other]? := by
    intro spm desc other different
    exact List.getElem?_modify_ne _ _ (Ne.symm different)
  refine stopRounds_rule (fun spm desc final events =>
    StopsPort spm descriptor desc final events) ?_ ?_ read enough
  · intro spm desc read empty
    obtain ⟨lists, reads⟩ := empty_of_stopPass empty
    rw [reads]
    exact .empty lists (others spm desc)
  · intro spm desc final rest read finalized stops
    obtain ⟨descriptors, -, effects⟩ :=
      krsServerFinalizeOrphanEvictions_spec _ descriptor
        (stopPass desc).1.orphans
        (modifyDescriptor_read read fun _ => (stopPass desc).2)
    refine stops.round ?_ ?_
    · intro other different
      rw [descriptors]
      exact others spm desc other different
    · intro callback registered ref
      rw [effects, (stopPass_callbacks desc).disconnect, registered,
        disconnectCount, disconnectCallbacks, List.countP_map]
      rfl

/-- The lists of a port are all empty. -/
def ListsEmpty (spm : ServerPortManager) (descriptor : Nat) : Prop :=
  ∃ desc, spm.descriptorList[descriptor]? = some desc ∧
    ∀ channel, desc.connectionsOf channel = []

/-- The rounds on a port leave its lists empty. -/
theorem stopRounds_empties
    {fuel : Nat}
    {spm : ServerPortManager}
    {descriptor : Nat}
    {desc : UDPSocketDescriptor}
    (read : spm.descriptorList[descriptor]? = some desc)
    (enough : desc.listedTotal < fuel) :
    ∃ final events,
      stopRounds fuel spm descriptor = some (final, events) ∧
        ListsEmpty final descriptor := by
  refine stopRounds_rule (fun _ _ final _ => ListsEmpty final descriptor)
    ?_ ?_ read enough
  · intro spm desc read empty
    refine ⟨(stopPass desc).2, modifyDescriptor_read read _, ?_⟩
    intro channel
    have kept := (stopPass_steps desc).kept channel
    rw [(empty_of_stopPass empty).1 channel] at kept
    exact List.sublist_nil.mp kept
  · intro spm desc final rest read finalized empty
    exact empty

/-! ## All ports -/

/-- What a sweep did on one port. -/
def eventsOn (descriptor : Nat) (trace : List (Nat × StopEvent)) :
    List StopEvent :=
  trace.filterMap fun entry =>
    if entry.1 = descriptor then some entry.2 else none

theorem eventsOn_append
    (descriptor : Nat)
    (first second : List (Nat × StopEvent)) :
    eventsOn descriptor (first ++ second) =
      eventsOn descriptor first ++ eventsOn descriptor second :=
  List.filterMap_append

theorem eventsOn_tagged
    (descriptor other : Nat)
    (events : List StopEvent) :
    eventsOn descriptor (events.map (other, ·)) =
      if other = descriptor then events else [] := by
  unfold eventsOn
  rw [List.filterMap_map]
  split
  case isTrue same => simp [same]
  case isFalse different => simp [different]

/-- The rounds on any port end with its lists empty, and they leave the other
ports alone. -/
theorem stopRounds_ends
    (spm : ServerPortManager)
    (descriptor : Nat) :
    ∃ final events,
      stopRounds (stopFuel spm descriptor) spm descriptor =
          some (final, events) ∧
        (∀ other, other ≠ descriptor ->
          final.descriptorList[other]? = spm.descriptorList[other]?) ∧
        ∀ desc, spm.descriptorList[descriptor]? = some desc ->
          StopsPort spm descriptor desc final events ∧
            ListsEmpty final descriptor := by
  unfold stopFuel
  cases read : spm.descriptorList[descriptor]? with
  | none =>
      refine ⟨spm, [], ?_, fun _ _ => rfl, nofun⟩
      dsimp only
      rw [stopRounds, read]
  | some desc =>
      obtain ⟨final, events, ran, stops⟩ :=
        stopRounds_stops read (Nat.lt_succ_self _)
      obtain ⟨emptied, others, ranAgain, empty⟩ :=
        stopRounds_empties read (Nat.lt_succ_self _)
      cases ran.symm.trans ranAgain
      refine ⟨final, events, ran, stops.others, ?_⟩
      rintro _ ⟨⟩
      exact ⟨stops, empty⟩

/-- A sweep over some ports ends, and it leaves the other ports alone.  On each
of them it runs the rounds for the lists that the port had, and leaves these
empty. -/
theorem stopDescriptors_ends
    {descriptors : List Nat}
    (nodup : descriptors.Nodup)
    (spm : ServerPortManager) :
    ∃ final trace, stopDescriptors descriptors spm = some (final, trace) ∧
      (∀ descriptor, descriptor ∉ descriptors ->
        eventsOn descriptor trace = [] ∧
          final.descriptorList[descriptor]? =
            spm.descriptorList[descriptor]?) ∧
      ∀ descriptor ∈ descriptors, ∀ desc,
        spm.descriptorList[descriptor]? = some desc ->
          (∃ before after, StopsPort before descriptor desc after
            (eventsOn descriptor trace)) ∧
          ListsEmpty final descriptor := by
  induction descriptors generalizing spm with
  | nil => exact ⟨spm, [], rfl, fun _ _ => ⟨rfl, rfl⟩, by simp⟩
  | cons first descriptors inductionHypothesis =>
      obtain ⟨fresh, nodupRest⟩ := List.nodup_cons.mp nodup
      obtain ⟨stopped, events, ran, others, stops⟩ :=
        stopRounds_ends spm first
      obtain ⟨final, trace, ranRest, untouched, rest⟩ :=
        inductionHypothesis nodupRest stopped
      refine ⟨final, events.map (first, ·) ++ trace, ?_, ?_, ?_⟩
      · rw [stopDescriptors, ran, Option.bind_some, ranRest]
        rfl
      · intro descriptor absent
        rw [List.mem_cons, not_or] at absent
        obtain ⟨different, absentRest⟩ := absent
        obtain ⟨silent, kept⟩ := untouched descriptor absentRest
        rw [eventsOn_append, eventsOn_tagged, if_neg (Ne.symm different),
          silent, List.append_nil]
        exact ⟨rfl, kept.trans (others descriptor different)⟩
      · intro descriptor member desc read
        rw [eventsOn_append, eventsOn_tagged]
        by_cases same : first = descriptor
        · subst same
          obtain ⟨silent, kept⟩ := untouched first fresh
          obtain ⟨here, after, afterRead, empty⟩ := stops desc read
          rw [if_pos rfl, silent, List.append_nil]
          exact ⟨⟨spm, stopped, here⟩, after, kept.trans afterRead, empty⟩
        · have later := (List.mem_cons.mp member).resolve_left (Ne.symm same)
          rw [if_neg same, List.nil_append]
          rw [← others descriptor (Ne.symm same)] at read
          exact rest descriptor later desc read

/-- Whatever the lists of a port hold, the rounds on it end, after no more
rounds than the lists have entries and one, and all lists are empty then.  They
still are when the sweep has gone over all ports. -/
theorem stop_sweep_empties_lists
    {spm : ServerPortManager}
    {descriptor : Nat}
    {desc : UDPSocketDescriptor}
    (read : spm.descriptorList[descriptor]? = some desc) :
    (∀ fuel, desc.listedTotal < fuel ->
      ∃ final events,
        stopRounds fuel spm descriptor = some (final, events) ∧
          ListsEmpty final descriptor) ∧
      ∃ final trace,
        sweepActiveConnectionsOnStop spm = some (final, trace) ∧
          ListsEmpty final descriptor := by
  refine ⟨fun fuel enough => stopRounds_empties read enough, ?_⟩
  obtain ⟨final, trace, ran, -, ports⟩ :=
    stopDescriptors_ends List.nodup_range spm
  have present : descriptor ∈ List.range spm.descriptorList.length := by
    rw [List.mem_range]
    exact (List.getElem?_eq_some_iff.mp read).1
  exact ⟨final, trace, ran, (ports descriptor present desc read).2⟩

/-- A port whose lists go beyond a buffer, repeat a connection and name one that
channel 0 does not have. -/
def scatteredPort : UDPSocketDescriptor :=
  { port := 5000
    channelStates := fun channel =>
      { connections :=
          if channel = 10 then some (List.range 70)
          else if channel = 20 then some [3, 3, 99]
          else none } }

theorem scattered_lists_emptied :
    ∃ final trace,
      sweepActiveConnectionsOnStop (serverStart [scatteredPort]) =
          some (final, trace) ∧
        ListsEmpty final 0 := by
  have read : (serverStart [scatteredPort]).descriptorList[0]? =
      some scatteredPort := rfl
  exact (stop_sweep_empties_lists read).2

/-- The sweep of a stopping server ends.  On a port whose lists are contained in
the list of channel 0, it passes every connection to the finalization once and
reads none after its release if and only if every list names its connections in
the order in which the list of channel 0 is taken off from its end in batches
of `MAX_EVICTIONS_PER_CYCLE`. -/
theorem stop_sweep_once_iff
    {spm : ServerPortManager}
    {descriptor : Nat}
    {desc : UDPSocketDescriptor}
    (read : spm.descriptorList[descriptor]? = some desc)
    (lists : ListsContained desc) :
    ∃ final trace,
      sweepActiveConnectionsOnStop spm = some (final, trace) ∧
        (SweptOnce desc (eventsOn descriptor trace) ↔
          ListsInBatches desc) := by
  obtain ⟨final, trace, ran, -, ports⟩ :=
    stopDescriptors_ends List.nodup_range spm
  have present : descriptor ∈ List.range spm.descriptorList.length := by
    rw [List.mem_range]
    exact (List.getElem?_eq_some_iff.mp read).1
  obtain ⟨⟨before, after, stops⟩, -⟩ := ports descriptor present desc read
  refine ⟨final, trace, ran, ?_⟩
  rw [← stops.once lists]
  constructor
  · exact fun swept => swept.toPassedOnce
  · intro passed
    refine ⟨passed, ?_⟩
    intro callback registered ref member
    rw [stops.announced callback registered ref, passed.released ref member]

/-! ## More connections than the buffer holds -/

/-- A client subscribes to channel 10. -/
def subscribeFrom (port : UInt16) : ServerEvent :=
  .datagram 0
    (serializeToBuffer
      ((krsFrameBuilderCreate 0 .subscribe).setData (some [10]) 1) 64)
    (clientAddress port) {}

/-- One more client connects than the buffer holds, and some of them
subscribe. -/
def crowdedRun (subscribers : List UInt16) : List ServerEvent :=
  (List.range 65).map (fun client => connectFrom (UInt16.ofNat client) 0) ++
    subscribers.map subscribeFrom

/-- The lists after such a run. -/
def crowdedLists (subscribers : List ConnectionRef) (channel : Channel) :
    List ConnectionRef :=
  if channel = 0 then List.range 65
  else if channel = 10 then subscribers
  else []

/-- The lists of the first port, and how often a stop of the server then
releases a connection. -/
def listsAndReleases (final : ServerRun) (ref : ConnectionRef) :
    List (List ConnectionRef) × Option Nat :=
  (allChannels.map (listed final.spm 0),
    (sweepActiveConnectionsOnStop final.spm).map fun swept =>
      (eventsOn 0 swept.2).count (.release ref))

/-- The port of a crowded run. -/
theorem port_of_crowdedRun
    {final : ServerRun}
    {subscribers : List ConnectionRef}
    (found : allChannels.map (listed final.spm 0) =
      allChannels.map (crowdedLists subscribers))
    (inside : ∀ subscriber ∈ subscribers, subscriber ∈ List.range 65) :
    ∃ desc, final.spm.descriptorList[0]? = some desc ∧
      desc.connectionsOf = crowdedLists subscribers ∧
      ListsContained desc := by
  have lists : listed final.spm 0 = crowdedLists subscribers := by
    funext channel
    exact List.map_inj_left.mp found channel (mem_allChannels channel)
  cases read : final.spm.descriptorList[0]? with
  | none =>
      have empty := listed_of_missing read 0
      rw [lists, crowdedLists, if_pos rfl] at empty
      exact absurd empty (by decide)
  | some desc =>
      rw [listed_of_read read] at lists
      refine ⟨desc, rfl, lists, ?_, ?_⟩
      · rw [lists]
        exact List.nodup_range
      · intro channel member found
        rw [lists] at found ⊢
        unfold crowdedLists at found ⊢
        rw [if_pos rfl]
        split_ifs at found with zero ten
        · exact found
        · exact inside member found
        · exact absurd found List.not_mem_nil

/-- The first two clients subscribe in the order in which they connected. -/
theorem ordered_subscribers_swept_once :
    ∃ final desc stopped trace,
      run serverStep (runStart [announcingPort]) (crowdedRun [0, 1]) =
          some final ∧
        final.spm.descriptorList[0]? = some desc ∧
        sweepActiveConnectionsOnStop final.spm = some (stopped, trace) ∧
        SweptOnce desc (eventsOn 0 trace) := by
  have ran : (run serverStep (runStart [announcingPort])
      (crowdedRun [0, 1])).map
        (fun final => allChannels.map (listed final.spm 0)) =
        some (allChannels.map (crowdedLists [0, 1])) := by
    decide +kernel
  obtain ⟨final, reached, found⟩ := Option.map_eq_some_iff.mp ran
  obtain ⟨desc, read, lists, contained⟩ :=
    port_of_crowdedRun found (by decide)
  obtain ⟨stopped, trace, swept, once⟩ := stop_sweep_once_iff read contained
  refine ⟨final, desc, stopped, trace, reached, read, swept, once.mpr ?_⟩
  intro channel
  rw [lists]
  unfold crowdedLists
  rw [if_pos rfl]
  split_ifs
  · exact (by decide +kernel : InBatches 64 (List.range 65).reverse
      (List.range 65).reverse)
  · exact (by decide +kernel : InBatches 64 (List.range 65).reverse [1, 0])
  · exact List.Pairwise.nil

/-- The first two clients subscribe in the other order.  The second one is
released in the first round, stays in the list of channel 10 behind the first
one, and is released again. -/
theorem unordered_subscriber_released_twice :
    ∃ final desc,
      run serverStep (runStart [announcingPort]) (crowdedRun [1, 0]) =
          some final ∧
        final.spm.descriptorList[0]? = some desc ∧
        ListsContained desc ∧
        (∀ channel, (desc.connectionsOf channel).Nodup) ∧
        ∀ stopped trace,
          sweepActiveConnectionsOnStop final.spm = some (stopped, trace) ->
            ¬ SweptOnce desc (eventsOn 0 trace) := by
  have ran : (run serverStep (runStart [announcingPort])
      (crowdedRun [1, 0])).map (listsAndReleases · 1) =
        some (allChannels.map (crowdedLists [1, 0]), some 2) := by
    decide +kernel
  obtain ⟨final, reached, facts⟩ := Option.map_eq_some_iff.mp ran
  obtain ⟨desc, read, lists, contained⟩ :=
    port_of_crowdedRun (congrArg Prod.fst facts) (by decide)
  refine ⟨final, desc, reached, read, contained, ?_, ?_⟩
  · intro channel
    rw [lists]
    unfold crowdedLists
    split_ifs
    · exact List.nodup_range
    · decide
    · exact List.nodup_nil
  · intro stopped trace swept once
    have twice := congrArg Prod.snd facts
    rw [listsAndReleases, swept] at twice
    have single := once.released 1 (by rw [lists]; decide)
    simp only [Option.map_some, Option.some.injEq, single] at twice
    exact absurd twice (by decide)

end Kronos
