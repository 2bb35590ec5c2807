import Kronos.Library.Batches
import Kronos.Server.Sections

/-!
# The sweep of a stopping server

`s_sweep_active_connections_on_stop` empties the connection lists of every port
in rounds.  A round fills a buffer of fixed size with the connections it finds,
removes them from the lists, and hands the buffer to the finalization.  When
the buffer is full, a list is left at its first connection that is not in the
buffer.

One round is read in two ways here: in general, and for lists that are
contained in the list of channel 0.
-/

namespace Kronos

open Library

/-! ## The model -/

/-- What the sweep does with connections: it reads one from a list, the
finalization releases one, or a callback is called. -/
inductive StopEvent
  | read (connection : ConnectionRef)
  | release (connection : ConnectionRef)
  | callback (effect : ServerEffect)
  deriving DecidableEq, Repr

/-- The orphan buffer of a round, and the connections read in it. -/
structure StopBuffer where
  orphans : List ConnectionRef := []
  reads : List ConnectionRef := []

/-- One turn of the loop over a list. -/
def stopVisit (buffer : StopBuffer) (connection : ConnectionRef) :
    StopBuffer × Bool :=
  let reads := buffer.reads ++ [connection]
  if buffer.orphans.contains connection then
    ({ buffer with reads := reads }, true)
  else if maxEvictionsPerCycle ≤ buffer.orphans.length then
    ({ buffer with reads := reads }, false)
  else
    ({ orphans := buffer.orphans ++ [connection], reads := reads }, true)

/-- The loop over the list of one channel. -/
def stopChannel
    (current : StopBuffer × UDPSocketDescriptor)
    (channel : Channel) : StopBuffer × UDPSocketDescriptor :=
  match (current.2.channelStates channel).connections with
  | none => current
  | some conns =>
      let drained := drain stopVisit current.1 conns
      (drained.1, current.2.modifyChannel channel fun state =>
        { state with connections := some drained.2 })

/-- The part of a round that holds the state lock. -/
def stopPass (desc : UDPSocketDescriptor) :
    StopBuffer × UDPSocketDescriptor :=
  allChannels.foldl stopChannel ({}, desc)

/-- The rounds on one port; `none` when the fuel runs out. -/
def stopRounds : Nat -> ServerPortManager -> Nat ->
    Option (ServerPortManager × List StopEvent)
  | 0, _, _ => none
  | fuel + 1, spm, descriptor =>
      match spm.descriptorList[descriptor]? with
      | none => some (spm, [])
      | some desc =>
          let pass := stopPass desc
          let swept := spm.modifyDescriptor descriptor fun _ => pass.2
          if pass.1.orphans.length = 0 then
            some (swept, pass.1.reads.map .read)
          else
            let finalized := krsServerFinalizeOrphanEvictions swept descriptor
              pass.1.orphans
            (stopRounds fuel finalized.1 descriptor).map fun rest =>
              (rest.1, pass.1.reads.map .read ++
                pass.1.orphans.map .release ++
                finalized.2.map .callback ++ rest.2)

/-- How many connections the lists of a descriptor hold, counted by list. -/
def UDPSocketDescriptor.listedTotal (desc : UDPSocketDescriptor) : Nat :=
  (allChannels.map fun channel => (desc.connectionsOf channel).length).sum

/-- Enough rounds for a port: every one but the last removes something. -/
def stopFuel (spm : ServerPortManager) (descriptor : Nat) : Nat :=
  match spm.descriptorList[descriptor]? with
  | none => 1
  | some desc => desc.listedTotal + 1

/-- The rounds on several ports, one port after the other. -/
def stopDescriptors : List Nat -> ServerPortManager ->
    Option (ServerPortManager × List (Nat × StopEvent))
  | [], spm => some (spm, [])
  | descriptor :: descriptors, spm =>
      (stopRounds (stopFuel spm descriptor) spm descriptor).bind fun stopped =>
        (stopDescriptors descriptors stopped.1).map fun others =>
          (others.1, stopped.2.map (descriptor, ·) ++ others.2)

/-- `s_sweep_active_connections_on_stop`, with what it does on which port. -/
def sweepActiveConnectionsOnStop (spm : ServerPortManager) :
    Option (ServerPortManager × List (Nat × StopEvent)) :=
  stopDescriptors (List.range spm.descriptorList.length) spm

/-! ## What a pass does to any lists -/

/-- What a pass over some channels does to the lists and the buffer. -/
structure StopSteps
    (channels : List Channel)
    (before after : Channel -> List ConnectionRef)
    (first last : StopBuffer) : Prop where
  kept : ∀ channel, (after channel).Sublist (before channel)
  removed : ∀ channel, ∀ ref ∈ before channel,
    ref ∈ after channel ∨ ref ∈ last.orphans
  tracked : ∀ ref ∈ first.orphans, ref ∈ last.orphans
  origin : ∀ ref ∈ last.orphans,
    ref ∈ first.orphans ∨ ∃ channel, ref ∈ before channel
  once : first.orphans.Nodup -> last.orphans.Nodup
  reads : ∀ ref ∈ last.reads,
    ref ∈ first.reads ∨ ∃ channel, ref ∈ before channel
  shorter : last.orphans = first.orphans ∨
    ∃ channel, (after channel).length < (before channel).length
  touched : ∀ channel ∈ channels, before channel ≠ [] -> last.orphans ≠ []

theorem StopSteps.refl
    (lists : Channel -> List ConnectionRef)
    (buffer : StopBuffer)
    {channels : List Channel}
    (empty : ∀ channel ∈ channels, lists channel = []) :
    StopSteps channels lists lists buffer buffer where
  kept _ := List.Sublist.refl _
  removed _ _ member := Or.inl member
  tracked _ member := member
  origin _ member := Or.inl member
  once nodup := nodup
  reads _ member := Or.inl member
  shorter := Or.inl rfl
  touched channel member nonempty :=
    absurd (empty channel member) nonempty

theorem StopSteps.trans
    {firsts channels : List Channel}
    {before between after : Channel -> List ConnectionRef}
    {first middle last : StopBuffer}
    (earlier : StopSteps firsts before between first middle)
    (later : StopSteps channels between after middle last) :
    StopSteps (firsts ++ channels) before after first last where
  kept other := (later.kept other).trans (earlier.kept other)
  removed := by
    intro other ref member
    rcases earlier.removed other ref member with stays | gone
    · exact later.removed other ref stays
    · exact Or.inr (later.tracked ref gone)
  tracked ref member := later.tracked ref (earlier.tracked ref member)
  origin := by
    intro ref member
    rcases later.origin ref member with known | ⟨other, found⟩
    · exact earlier.origin ref known
    · exact Or.inr ⟨other, (earlier.kept other).mem found⟩
  once nodup := later.once (earlier.once nodup)
  reads := by
    intro ref member
    rcases later.reads ref member with known | ⟨other, found⟩
    · exact earlier.reads ref known
    · exact Or.inr ⟨other, (earlier.kept other).mem found⟩
  shorter := by
    rcases later.shorter with sameLater | ⟨other, less⟩
    · rcases earlier.shorter with sameEarlier | ⟨other, less⟩
      · exact Or.inl (sameLater.trans sameEarlier)
      · exact Or.inr ⟨other,
          Nat.lt_of_le_of_lt (later.kept other).length_le less⟩
    · exact Or.inr ⟨other,
        Nat.lt_of_lt_of_le less (earlier.kept other).length_le⟩
  touched := by
    intro other member nonempty
    have carried : middle.orphans ≠ [] -> last.orphans ≠ [] := by
      intro filled
      obtain ⟨ref, found⟩ := List.exists_mem_of_ne_nil _ filled
      exact List.ne_nil_of_mem (later.tracked ref found)
    rcases List.mem_append.mp member with inFirsts | inRest
    · exact carried (earlier.touched other inFirsts nonempty)
    · obtain ⟨ref, found⟩ := List.exists_mem_of_ne_nil _ nonempty
      rcases earlier.removed other ref found with stays | gone
      · exact later.touched other inRest (List.ne_nil_of_mem stays)
      · exact carried (List.ne_nil_of_mem gone)

/-- A visit finds the connection in the buffer, finds the buffer full, or puts
the connection into the buffer. -/
theorem stopVisit_cases
    (buffer : StopBuffer)
    (connection : ConnectionRef) :
    (connection ∈ buffer.orphans ∧
      stopVisit buffer connection =
        (⟨buffer.orphans, buffer.reads ++ [connection]⟩, true)) ∨
    (connection ∉ buffer.orphans ∧
      maxEvictionsPerCycle ≤ buffer.orphans.length ∧
      stopVisit buffer connection =
        (⟨buffer.orphans, buffer.reads ++ [connection]⟩, false)) ∨
    (connection ∉ buffer.orphans ∧
      buffer.orphans.length < maxEvictionsPerCycle ∧
      stopVisit buffer connection =
        (⟨buffer.orphans ++ [connection], buffer.reads ++ [connection]⟩,
          true)) := by
  unfold stopVisit
  by_cases known : connection ∈ buffer.orphans
  · left
    simp [known]
  · right
    by_cases full : maxEvictionsPerCycle ≤ buffer.orphans.length
    · left
      simp [known, full]
    · right
      simp [known, full]
      omega

section

variable
  {lists : Channel -> List ConnectionRef}
  {channel : Channel}
  {items : List ConnectionRef}
  {connection : ConnectionRef}

/-- A visit that removes the last connection of a list, which is in the buffer
afterwards. -/
theorem StopSteps.remove
    (list : lists channel = items ++ [connection])
    {first last : StopBuffer}
    (tracked : ∀ ref ∈ first.orphans, ref ∈ last.orphans)
    (inside : connection ∈ last.orphans)
    (origin : ∀ ref ∈ last.orphans, ref ∈ first.orphans ∨ ref = connection)
    (once : first.orphans.Nodup -> last.orphans.Nodup)
    (reads : last.reads = first.reads ++ [connection]) :
    StopSteps [channel] lists (Function.update lists channel items) first
      last := by
  have found : connection ∈ lists channel := by
    rw [list]
    simp
  refine ⟨?_, ?_, tracked, ?_, once, ?_, Or.inr ⟨channel, ?_⟩, ?_⟩
  · intro other
    by_cases same : other = channel
    · subst same
      rw [Function.update_self, list]
      exact List.sublist_append_left _ _
    · rw [Function.update_of_ne same]
  · intro other ref member
    by_cases same : other = channel
    · subst same
      rw [list] at member
      rw [Function.update_self]
      rcases List.mem_append.mp member with earlier | last
      · exact Or.inl earlier
      · rw [List.mem_singleton.mp last]
        exact Or.inr inside
    · rw [Function.update_of_ne same]
      exact Or.inl member
  · intro ref member
    rcases origin ref member with known | rfl
    · exact Or.inl known
    · exact Or.inr ⟨channel, found⟩
  · intro ref member
    rw [reads] at member
    rcases List.mem_append.mp member with earlier | last
    · exact Or.inl earlier
    · rw [List.mem_singleton.mp last]
      exact Or.inr ⟨channel, found⟩
  · rw [Function.update_self, list, List.length_append]
    exact Nat.lt_succ_self _
  · exact fun _ _ _ => List.ne_nil_of_mem inside

/-- A visit that finds the buffer full. -/
theorem StopSteps.leave
    (found : connection ∈ lists channel)
    {buffer : StopBuffer}
    (full : maxEvictionsPerCycle ≤ buffer.orphans.length) :
    StopSteps [channel] lists lists buffer
      ⟨buffer.orphans, buffer.reads ++ [connection]⟩ := by
  refine ⟨fun _ => List.Sublist.refl _, fun _ _ member => Or.inl member,
    fun _ member => member, fun _ member => Or.inl member,
    fun nodup => nodup, ?_, Or.inl rfl, ?_⟩
  · intro ref member
    rcases List.mem_append.mp member with earlier | last
    · exact Or.inl earlier
    · rw [List.mem_singleton.mp last]
      exact Or.inr ⟨channel, found⟩
  · intro _ _ _ empty
    simp only at empty
    rw [empty] at full
    exact absurd full (by decide)

/-- The loop over the list of a channel. -/
theorem stopSteps_drain
    (list : lists channel = items)
    (buffer : StopBuffer) :
    StopSteps [channel] lists
      (Function.update lists channel (drain stopVisit buffer items).2) buffer
      (drain stopVisit buffer items).1 := by
  induction items using List.reverseRecOn generalizing lists buffer with
  | nil =>
      rw [drain_nil, ← list, Function.update_eq_self]
      refine StopSteps.refl lists buffer ?_
      intro other member
      rw [List.mem_singleton.mp member]
      exact list
  | append_singleton items connection inductionHypothesis =>
      have goesOn : ∀ next : StopBuffer,
          StopSteps [channel] lists (Function.update lists channel items)
            buffer next ->
          StopSteps [channel] lists
            (Function.update lists channel (drain stopVisit next items).2)
            buffer (drain stopVisit next items).1 := by
        intro next visited
        have rest := visited.trans
          (inductionHypothesis (Function.update_self channel items lists) next)
        rw [Function.update_idem] at rest
        refine { rest with touched := ?_ }
        intro other member
        exact rest.touched other (List.mem_append_left _ member)
      rw [drain_concat]
      rcases stopVisit_cases buffer connection with
        ⟨known, visited⟩ | ⟨-, full, visited⟩ | ⟨unknown, -, visited⟩
      · rw [visited]
        exact goesOn _ (.remove list (fun _ member => member) known
          (fun _ member => Or.inl member) (fun nodup => nodup) rfl)
      · rw [visited]
        simp only [Bool.false_eq_true, if_false]
        rw [← list, Function.update_eq_self]
        exact .leave (by rw [list]; simp) full
      · rw [visited]
        refine goesOn _ (.remove list ?_ (by simp) ?_ ?_ rfl)
        · exact fun _ member => List.mem_append_left _ member
        · intro ref member
          simpa using member
        · intro nodup
          exact List.nodup_append.mpr ⟨nodup, List.nodup_singleton _, by
            rintro left leftIn right rightIn rfl
            rw [List.mem_singleton.mp rightIn] at leftIn
            exact unknown leftIn⟩

end

/-! ## The lists of a pass -/

/-- The loop over one channel, on the lists alone. -/
def drainChannel
    (current : StopBuffer × (Channel -> List ConnectionRef))
    (channel : Channel) :
    StopBuffer × (Channel -> List ConnectionRef) :=
  ((drain stopVisit current.1 (current.2 channel)).1,
    Function.update current.2 channel
      (drain stopVisit current.1 (current.2 channel)).2)

theorem stopChannel_lists
    (current : StopBuffer × UDPSocketDescriptor)
    (channel : Channel) :
    ((stopChannel current channel).1,
        (stopChannel current channel).2.connectionsOf) =
      drainChannel (current.1, current.2.connectionsOf) channel := by
  have list : current.2.connectionsOf channel =
      (current.2.channelStates channel).connections.getD [] := rfl
  unfold stopChannel drainChannel
  dsimp only
  cases stored : (current.2.channelStates channel).connections with
  | none =>
      rw [stored, Option.getD_none] at list
      rw [list, drain_nil, ← list, Function.update_eq_self]
  | some conns =>
      rw [stored, Option.getD_some] at list
      simp only [list, connectionsOf_modifyChannel_update, Option.getD_some]

theorem stopPass_lists (desc : UDPSocketDescriptor) :
    (stopPass desc).1 =
        (allChannels.foldl drainChannel ({}, desc.connectionsOf)).1 ∧
      (stopPass desc).2.connectionsOf =
        (allChannels.foldl drainChannel ({}, desc.connectionsOf)).2 := by
  unfold stopPass
  generalize ({} : StopBuffer) = buffer
  generalize allChannels = channels
  induction channels generalizing buffer desc with
  | nil => exact ⟨rfl, rfl⟩
  | cons channel channels inductionHypothesis =>
      rw [List.foldl_cons, List.foldl_cons,
        ← stopChannel_lists (buffer, desc) channel]
      exact inductionHypothesis _ _

theorem stopPass_callbacks (desc : UDPSocketDescriptor) :
    SameCallbacks desc (stopPass desc).2 := by
  unfold stopPass
  generalize ({} : StopBuffer) = buffer
  generalize allChannels = channels
  induction channels generalizing buffer desc with
  | nil => exact SameCallbacks.refl desc
  | cons channel channels inductionHypothesis =>
      have first : SameCallbacks desc
          (stopChannel (buffer, desc) channel).2 := by
        unfold stopChannel
        split
        case h_1 => exact SameCallbacks.refl desc
        case h_2 => exact ⟨rfl, rfl, rfl⟩
      rw [List.foldl_cons]
      exact first.trans (inductionHypothesis _ _)

/-- What a pass does to any lists. -/
theorem stopPass_steps (desc : UDPSocketDescriptor) :
    StopSteps allChannels desc.connectionsOf
      (stopPass desc).2.connectionsOf {} (stopPass desc).1 := by
  have loop : ∀ (channels : List Channel)
      (current : StopBuffer × (Channel -> List ConnectionRef)),
      StopSteps channels current.2
        (channels.foldl drainChannel current).2 current.1
        (channels.foldl drainChannel current).1 := by
    intro channels
    induction channels with
    | nil => exact fun current => .refl _ _ (by simp)
    | cons channel channels inductionHypothesis =>
        intro current
        rw [List.foldl_cons]
        have first : StopSteps [channel] current.2
            (drainChannel current channel).2 current.1
            (drainChannel current channel).1 := stopSteps_drain rfl current.1
        exact first.trans (inductionHypothesis (drainChannel current channel))
  obtain ⟨buffer, lists⟩ := stopPass_lists desc
  rw [buffer, lists]
  exact loop allChannels ({}, desc.connectionsOf)

/-! ## Lists contained in the list of channel 0 -/

/-- The loop over a list whose connections are not in the buffer fills the
buffer up. -/
theorem drain_untracked
    (buffer : StopBuffer)
    {items : List ConnectionRef}
    (nodup : items.Nodup)
    (untracked : ∀ ref ∈ items, ref ∉ buffer.orphans) :
    (drain stopVisit buffer items).1.orphans =
        buffer.orphans ++ items.reverse.take
          (maxEvictionsPerCycle - buffer.orphans.length) ∧
      (drain stopVisit buffer items).2.reverse =
        items.reverse.drop
          (maxEvictionsPerCycle - buffer.orphans.length) := by
  induction items using List.reverseRecOn generalizing buffer with
  | nil => simp
  | append_singleton items connection inductionHypothesis =>
      have fresh : connection ∉ buffer.orphans :=
        untracked connection (by simp)
      obtain ⟨nodupRest, -, apart⟩ := List.nodup_append.mp nodup
      rw [drain_concat, List.reverse_append, List.reverse_singleton,
        List.singleton_append]
      rcases stopVisit_cases buffer connection with
        ⟨known, -⟩ | ⟨-, full, visited⟩ | ⟨-, room, visited⟩
      · exact absurd known fresh
      · rw [visited, Nat.sub_eq_zero_of_le full]
        simp
      · rw [visited]
        simp only [if_true]
        have rest := inductionHypothesis
          ⟨buffer.orphans ++ [connection], buffer.reads ++ [connection]⟩
          nodupRest (by
            intro ref member tracked
            rcases List.mem_append.mp tracked with earlier | last
            · exact untracked ref (by simp [member]) earlier
            · exact apart ref member connection (by simp)
                (List.mem_singleton.mp last))
        obtain ⟨left, remaining⟩ : ∃ left,
            maxEvictionsPerCycle - buffer.orphans.length = left + 1 :=
          ⟨maxEvictionsPerCycle - buffer.orphans.length - 1, by omega⟩
        have less : maxEvictionsPerCycle -
            (buffer.orphans ++ [connection]).length = left := by
          rw [List.length_append, List.length_singleton]
          omega
        simp only [less] at rest
        rw [rest.1, rest.2, remaining, List.take_succ_cons,
          List.drop_succ_cons, List.append_assoc, List.singleton_append]
        exact ⟨rfl, rfl⟩

/-- The loop over a list of which the buffer takes nothing more. -/
theorem drain_tracked
    (buffer : StopBuffer)
    {items : List ConnectionRef}
    (settled : ∀ ref ∈ items, ref ∈ buffer.orphans ∨
      maxEvictionsPerCycle ≤ buffer.orphans.length) :
    (drain stopVisit buffer items).1.orphans = buffer.orphans ∧
      (drain stopVisit buffer items).2.reverse =
        afterBatch buffer.orphans items.reverse := by
  induction items using List.reverseRecOn generalizing buffer with
  | nil => exact ⟨rfl, rfl⟩
  | append_singleton items connection inductionHypothesis =>
      rw [drain_concat, List.reverse_append, List.reverse_singleton,
        List.singleton_append, afterBatch, List.dropWhile_cons]
      rcases stopVisit_cases buffer connection with
        ⟨known, visited⟩ | ⟨unknown, -, visited⟩ | ⟨unknown, room, -⟩
      · rw [visited]
        simp only [known, decide_true, if_true]
        exact inductionHypothesis
          ⟨buffer.orphans, buffer.reads ++ [connection]⟩
          (fun ref member => settled ref (by simp [member]))
      · rw [visited]
        simp [unknown]
      · rcases settled connection (by simp) with known | full
        · exact absurd known unknown
        · omega

theorem foldl_drainChannel_tracked
    (channels : List Channel)
    (current : StopBuffer × (Channel -> List ConnectionRef))
    (settled : ∀ channel, ∀ ref ∈ current.2 channel,
      ref ∈ current.1.orphans ∨
        maxEvictionsPerCycle ≤ current.1.orphans.length) :
    (channels.foldl drainChannel current).1.orphans = current.1.orphans ∧
      ∀ channel, ((channels.foldl drainChannel current).2 channel).reverse =
        if channel ∈ channels then
          afterBatch current.1.orphans (current.2 channel).reverse
        else (current.2 channel).reverse := by
  induction channels generalizing current with
  | nil => simp
  | cons channel channels inductionHypothesis =>
      obtain ⟨same, list⟩ := drain_tracked current.1 (settled channel)
      have firstOrphans : (drainChannel current channel).1.orphans =
          current.1.orphans := same
      have firstLists : ∀ other,
          ((drainChannel current channel).2 other).reverse =
            if other = channel then
              afterBatch current.1.orphans (current.2 other).reverse
            else (current.2 other).reverse := by
        intro other
        unfold drainChannel
        by_cases here : other = channel
        · subst here
          simp [list]
        · simp [here]
      have contained : ∀ other, ∀ ref ∈ (drainChannel current channel).2 other,
          ref ∈ current.2 other := by
        intro other ref member
        rw [← List.mem_reverse, firstLists] at member
        split at member
        case isTrue =>
          exact List.mem_reverse.mp (mem_of_mem_afterBatch member)
        case isFalse => exact List.mem_reverse.mp member
      obtain ⟨orphans, lists⟩ := inductionHypothesis
        (drainChannel current channel) (by
          intro other ref member
          rw [firstOrphans]
          exact settled other ref (contained other ref member))
      rw [List.foldl_cons]
      refine ⟨orphans.trans firstOrphans, ?_⟩
      intro other
      rw [lists, firstLists, firstOrphans]
      by_cases later : other ∈ channels
      · by_cases here : other = channel
        · simp [here, afterBatch_idem]
        · simp [later, here]
      · simp [later]

/-- A pass over lists that are contained in the list of channel 0 takes a batch
off that list, and off the end of every list what belongs to it. -/
theorem stopPass_contained
    {desc : UDPSocketDescriptor}
    (nodup : (desc.connectionsOf 0).Nodup)
    (contained : ∀ channel, ∀ ref ∈ desc.connectionsOf channel,
      ref ∈ desc.connectionsOf 0) :
    (stopPass desc).1.orphans =
        (desc.connectionsOf 0).reverse.take maxEvictionsPerCycle ∧
      ∀ channel, ((stopPass desc).2.connectionsOf channel).reverse =
        afterBatch
          ((desc.connectionsOf 0).reverse.take maxEvictionsPerCycle)
          (desc.connectionsOf channel).reverse := by
  have zeroFirst : allChannels = 0 :: allChannels.tail := rfl
  obtain ⟨buffer, lists⟩ := stopPass_lists desc
  rw [zeroFirst, List.foldl_cons] at buffer lists
  obtain ⟨filled, list⟩ := drain_untracked {} nodup (by simp)
  simp only [List.length_nil, Nat.sub_zero, List.nil_append] at filled list
  have firstOrphans :
      (drainChannel ({}, desc.connectionsOf) 0).1.orphans =
        (desc.connectionsOf 0).reverse.take maxEvictionsPerCycle := filled
  have first : ∀ channel,
      ((drainChannel ({}, desc.connectionsOf) 0).2 channel).reverse =
        if channel = 0 then
          (desc.connectionsOf 0).reverse.drop maxEvictionsPerCycle
        else (desc.connectionsOf channel).reverse := by
    intro channel
    unfold drainChannel
    by_cases here : channel = 0
    · subst here
      simp [list]
    · simp [here]
  obtain ⟨orphans, rest⟩ := foldl_drainChannel_tracked allChannels.tail
    (drainChannel ({}, desc.connectionsOf) 0) (by
      intro channel ref member
      have base : ref ∈ desc.connectionsOf 0 := by
        rw [← List.mem_reverse, first] at member
        split at member
        case isTrue =>
          exact List.mem_reverse.mp (List.mem_of_mem_drop member)
        case isFalse =>
          exact contained channel ref (List.mem_reverse.mp member)
      rw [firstOrphans]
      by_cases full : maxEvictionsPerCycle ≤ (desc.connectionsOf 0).length
      · right
        simp [full]
      · left
        rw [List.take_of_length_le (by simp; omega)]
        exact List.mem_reverse.mpr base)
  rw [firstOrphans] at orphans rest
  refine ⟨by rw [buffer, orphans], ?_⟩
  intro channel
  rw [lists, rest, first]
  by_cases zero : channel = 0
  · subst zero
    have taken := afterBatch_take maxEvictionsPerCycle
      (List.nodup_reverse.mpr nodup)
    rw [if_pos rfl, ← taken, afterBatch_idem]
    exact ite_self _
  · have later : channel ∈ allChannels.tail := by
      have member := mem_allChannels channel
      rw [zeroFirst] at member
      exact (List.mem_cons.mp member).resolve_left zero
    rw [if_neg zero, if_pos later]

end Kronos
