import Kronos.Ack.Tracker
import Kronos.Congestion.Controller
import Mathlib.Data.Finset.Max
import Mathlib.Data.NNRat.Defs
import Mathlib.Algebra.Order.Ring.Rat

/-!
# Runs of the congestion controller

A run is a sequence of sends, acknowledgements and losses in any order.  In
every run the window lies on the side of the threshold that its phase stands
for, the round-trip estimate between the smallest and the largest sample, and
the retransmission timeout between its bounds.  In congestion avoidance a
window of acknowledgements grows the window by at most one packet.
-/

namespace Kronos

/-- A call that changes the controller. -/
inductive CongestionEvent
  | send
  | ack (rttMs : ℚ≥0)
  | timeoutLoss
  | fastRetransmitLoss
  deriving DecidableEq

/-- What a call leaves of the controller. -/
def congestionStep (cc : CongestionController) :
    CongestionEvent -> CongestionController
  | .send => krsCongestionOnSend cc
  | .ack rttMs => krsCongestionOnAck cc rttMs
  | .timeoutLoss => krsCongestionOnTimeoutLoss cc
  | .fastRetransmitLoss => krsCongestionOnFastRetransmitLoss cc

/-- A controller after a sequence of calls. -/
def congestionRun (cc : CongestionController)
    (events : List CongestionEvent) : CongestionController :=
  events.foldl congestionStep cc

/-- The round-trip sample of a call. -/
def CongestionEvent.sample : CongestionEvent -> Option ℚ
  | .ack rttMs => some rttMs
  | .send => none
  | .timeoutLoss => none
  | .fastRetransmitLoss => none

/-- The round-trip samples of a run, in order. -/
def rttSamples (events : List CongestionEvent) : List ℚ :=
  events.filterMap CongestionEvent.sample

/-! ## The invariant -/

/-- The window and the threshold of a phase. -/
def PhaseWindow (cc : CongestionController) : Prop :=
  match cc.phase with
  | .slowStart => cc.cwnd ≤ cc.ssthresh
  | .congestionAvoidance => cc.ssthresh ≤ cc.cwnd

/-- What holds of a controller with the given samples. -/
structure CongestionInvariant
    (cc : CongestionController)
    (samples : List ℚ) : Prop where
  cwnd : 1 ≤ cc.cwnd
  ssthresh : 1 ≤ cc.ssthresh
  phase : PhaseWindow cc
  rttvar : 0 ≤ cc.rttvarMs
  rtoMin : 200 ≤ cc.rtoMs
  rtoMax : cc.rtoMs ≤ 60000
  sampled : cc.hasRttSample = true ↔ samples ≠ []
  bounded : ∀ smallest largest : ℚ,
    (∀ sample ∈ samples, smallest ≤ sample ∧ sample ≤ largest) ->
      samples ≠ [] -> smallest ≤ cc.srttMs ∧ cc.srttMs ≤ largest

theorem krsCongestionCreate_invariant :
    CongestionInvariant krsCongestionCreate [] where
  cwnd := by norm_num [krsCongestionCreate]
  ssthresh := by norm_num [krsCongestionCreate]
  phase := by
    change (4 : ℚ) ≤ 64
    norm_num
  rttvar := le_refl _
  rtoMin := by norm_num [krsCongestionCreate]
  rtoMax := by norm_num [krsCongestionCreate]
  sampled := by simp [krsCongestionCreate]
  bounded := fun _ _ _ some => absurd rfl some

theorem one_le_halvedWindow (cc : CongestionController) :
    1 ≤ halvedWindow cc := by
  unfold halvedWindow krsCcMinCwnd
  split
  case isTrue => exact le_refl _
  case isFalse large => exact not_lt.mp large

theorem boundedRto_bounds (srttMs rttvarMs : ℚ) :
    200 ≤ boundedRto srttMs rttvarMs ∧
      boundedRto srttMs rttvarMs ≤ 60000 := by
  unfold boundedRto krsCcRtoMinMs krsCcRtoMaxMs
  dsimp only
  split_ifs with low high high
  · norm_num
  · norm_num
  · norm_num
  · exact ⟨not_lt.mp low, not_lt.mp high⟩

/-- A new sample keeps the deviation nonnegative. -/
theorem rttEstimate_rttvar_nonneg
    {cc : CongestionController}
    (rttvar : 0 ≤ cc.rttvarMs)
    (rttMs : ℚ≥0) :
    0 ≤ (rttEstimate cc rttMs).2 := by
  have sample : (0 : ℚ) ≤ rttMs := rttMs.coe_nonneg
  unfold rttEstimate krsCcBeta
  split
  case isTrue => exact div_nonneg sample (by norm_num)
  case isFalse =>
    have deviation := abs_nonneg (cc.srttMs - rttMs)
    dsimp only
    linarith

/-- A new sample keeps the estimate between the samples. -/
theorem rttEstimate_srtt_between
    {cc : CongestionController}
    {samples : List ℚ}
    {rttMs smallest largest : ℚ}
    (invariant : CongestionInvariant cc samples)
    (old : ∀ sample ∈ samples, smallest ≤ sample ∧ sample ≤ largest)
    (new : smallest ≤ rttMs ∧ rttMs ≤ largest) :
    smallest ≤ (rttEstimate cc rttMs).1 ∧
      (rttEstimate cc rttMs).1 ≤ largest := by
  unfold rttEstimate krsCcAlpha
  split
  case isTrue => exact new
  case isFalse known =>
    have some : samples ≠ [] := invariant.sampled.mp (by simpa using known)
    obtain ⟨above, below⟩ := invariant.bounded smallest largest old some
    dsimp only
    constructor
    · linarith [new.1]
    · linarith [new.2]

/-- An acknowledgement keeps the window on the side of its phase. -/
theorem PhaseWindow.onAck
    {cc : CongestionController}
    (cwnd : 1 ≤ cc.cwnd)
    (phase : PhaseWindow cc)
    (rttMs : ℚ) :
    PhaseWindow (krsCongestionOnAck cc rttMs) := by
  unfold PhaseWindow krsCongestionOnAck grownWindow at *
  cases known : cc.phase with
  | slowStart =>
      dsimp only
      by_cases reached : cc.cwnd + 1 ≥ cc.ssthresh
      · rw [if_pos reached]
        exact reached
      · rw [if_neg reached]
        exact (not_le.mp reached).le
  | congestionAvoidance =>
      rw [known] at phase
      have growth : 0 < 1 / cc.cwnd := by positivity
      dsimp only at phase ⊢
      linarith

/-- A call keeps the invariant, with its sample added. -/
theorem CongestionInvariant.step
    {cc : CongestionController}
    {samples : List ℚ}
    (invariant : CongestionInvariant cc samples)
    (event : CongestionEvent) :
    CongestionInvariant (congestionStep cc event)
      (samples ++ event.sample.toList) := by
  cases event with
  | send =>
      rw [CongestionEvent.sample, Option.toList_none, List.append_nil]
      exact ⟨invariant.cwnd, invariant.ssthresh, invariant.phase,
        invariant.rttvar, invariant.rtoMin, invariant.rtoMax,
        invariant.sampled, invariant.bounded⟩
  | ack rttMs =>
      have rto := boundedRto_bounds (rttEstimate cc rttMs).1
        (rttEstimate cc rttMs).2
      exact
        { cwnd := WindowOpen.onAck invariant.cwnd rttMs
          ssthresh := invariant.ssthresh
          phase := invariant.phase.onAck invariant.cwnd rttMs
          rttvar := rttEstimate_rttvar_nonneg invariant.rttvar rttMs
          rtoMin := rto.1
          rtoMax := rto.2
          sampled := by
            refine iff_of_true rfl ?_
            rw [CongestionEvent.sample, Option.toList_some]
            exact List.append_ne_nil_of_right_ne_nil _
              (List.cons_ne_nil _ _)
          bounded := by
            intro smallest largest all _
            refine rttEstimate_srtt_between invariant ?_ ?_
            · intro sample member
              exact all sample (List.mem_append_left _ member)
            · exact all rttMs (List.mem_append_right _
                (List.mem_singleton_self _)) }
  | timeoutLoss =>
      rw [CongestionEvent.sample, Option.toList_none, List.append_nil]
      exact ⟨le_refl _, one_le_halvedWindow cc, one_le_halvedWindow cc,
        invariant.rttvar, invariant.rtoMin, invariant.rtoMax,
        invariant.sampled, invariant.bounded⟩
  | fastRetransmitLoss =>
      rw [CongestionEvent.sample, Option.toList_none, List.append_nil]
      exact ⟨one_le_halvedWindow cc, one_le_halvedWindow cc, le_refl _,
        invariant.rttvar, invariant.rtoMin, invariant.rtoMax,
        invariant.sampled, invariant.bounded⟩

/-- A run keeps the invariant, with its samples added. -/
theorem CongestionInvariant.run
    {cc : CongestionController}
    {samples : List ℚ}
    (invariant : CongestionInvariant cc samples)
    (events : List CongestionEvent) :
    CongestionInvariant (congestionRun cc events)
      (samples ++ rttSamples events) := by
  induction events generalizing cc samples with
  | nil =>
      rw [rttSamples, List.filterMap_nil, List.append_nil]
      exact invariant
  | cons event events inductionHypothesis =>
      have later := inductionHypothesis (invariant.step event)
      rw [List.append_assoc] at later
      have both : event.sample.toList ++ rttSamples events =
          rttSamples (event :: events) := by
        cases event <;> rfl
      rw [both] at later
      exact later

/-- A list of samples has a smallest and a largest one. -/
theorem exists_smallest_largest
    {samples : List ℚ}
    (some : samples ≠ []) :
    ∃ smallest ∈ samples, ∃ largest ∈ samples,
      ∀ sample ∈ samples, smallest ≤ sample ∧ sample ≤ largest := by
  have nonempty : samples.toFinset.Nonempty :=
    List.toFinset_nonempty_iff samples |>.mpr some
  obtain ⟨smallest, present, least⟩ :=
    samples.toFinset.exists_min_image id nonempty
  obtain ⟨largest, found, greatest⟩ :=
    samples.toFinset.exists_max_image id nonempty
  refine ⟨smallest, List.mem_toFinset.mp present, largest,
    List.mem_toFinset.mp found, ?_⟩
  intro sample member
  have counted := List.mem_toFinset.mpr member
  exact ⟨least sample counted, greatest sample counted⟩

/-- In every run of the controller the window and the threshold hold at least
one packet and stand as the phase says, the estimates are bounded by the
samples, and the timeout that an acknowledgement sets is between 200 and 60000
milliseconds. -/
theorem congestion_run_bounds
    (events : List CongestionEvent)
    (tracker : AckTracker) :
    let cc := congestionRun krsCongestionCreate events
    let samples := rttSamples events
    1 ≤ cc.cwnd ∧ 1 ≤ cc.ssthresh ∧
      (cc.phase = .slowStart -> cc.cwnd ≤ cc.ssthresh) ∧
      (cc.phase = .congestionAvoidance -> cc.ssthresh ≤ cc.cwnd) ∧
      0 ≤ cc.rttvarMs ∧
      (cc.hasRttSample = true ↔ samples ≠ []) ∧
      (samples ≠ [] -> ∃ smallest ∈ samples, ∃ largest ∈ samples,
        (∀ sample ∈ samples, smallest ≤ sample ∧ sample ≤ largest) ∧
          smallest ≤ cc.srttMs ∧ cc.srttMs ≤ largest) ∧
      (200 ≤ cc.rtoMs ∧ cc.rtoMs ≤ 60000) ∧
      let timed := krsAckTrackerSetTimeout tracker ⌊krsCongestionGetRto cc⌋₊
      200 ≤ timed.timeoutMs ∧ timed.timeoutMs ≤ 60000 := by
  have invariant := krsCongestionCreate_invariant.run events
  rw [List.nil_append] at invariant
  intro cc samples
  have phase : PhaseWindow cc := invariant.phase
  unfold PhaseWindow at phase
  refine ⟨invariant.cwnd, invariant.ssthresh, ?_, ?_, invariant.rttvar,
    invariant.sampled, ?_, ⟨invariant.rtoMin, invariant.rtoMax⟩, ?_⟩
  · intro known
    rw [known] at phase
    exact phase
  · intro known
    rw [known] at phase
    exact phase
  · intro some
    obtain ⟨smallest, present, largest, found, between⟩ :=
      exists_smallest_largest some
    exact ⟨smallest, present, largest, found, between,
      invariant.bounded smallest largest between some⟩
  · have atLeast : 200 ≤ ⌊krsCongestionGetRto cc⌋₊ :=
      Nat.le_floor invariant.rtoMin
    have atMost : ⌊krsCongestionGetRto cc⌋₊ ≤ 60000 :=
      Nat.floor_le_of_le invariant.rtoMax
    have kept : ¬ ⌊krsCongestionGetRto cc⌋₊ < 50 := by omega
    dsimp only [krsAckTrackerSetTimeout]
    rw [if_neg kept]
    exact ⟨atLeast, atMost⟩

/-! ## Additive increase -/

/-- The call takes a packet for lost. -/
def CongestionEvent.isLoss : CongestionEvent -> Bool
  | .send => false
  | .ack _ => false
  | .timeoutLoss => true
  | .fastRetransmitLoss => true

/-- One more acknowledgement in congestion avoidance: the window stays between
both lines through the window at the start. -/
theorem grown_between
    {start window : ℚ}
    {acks : Nat}
    (packet : 1 ≤ start)
    (few : (acks : ℚ) + 1 ≤ start)
    (above : start + acks / (start + 1) ≤ window)
    (below : window ≤ start + acks / start) :
    start + ((acks + 1 : Nat) : ℚ) / (start + 1) ≤ window + 1 / window ∧
      window + 1 / window ≤ start + ((acks + 1 : Nat) : ℚ) / start := by
  have positive : 0 < start := by linarith
  have counted : (0 : ℚ) ≤ acks := Nat.cast_nonneg acks
  have atLeast : start ≤ window := by
    have grown : (0 : ℚ) ≤ acks / (start + 1) := by positivity
    linarith
  have atMost : window ≤ start + 1 := by
    have share : (acks : ℚ) / start ≤ 1 := by
      rw [div_le_one positive]
      linarith
    linarith
  have slow : 1 / (start + 1) ≤ 1 / window :=
    one_div_le_one_div_of_le (by linarith) atMost
  have fast : 1 / window ≤ 1 / start :=
    one_div_le_one_div_of_le positive atLeast
  rw [Nat.cast_add, Nat.cast_one, add_div, add_div]
  constructor
  · linarith
  · linarith

/-- Without a loss the phase stays, and the window is between both lines. -/
theorem congestionRun_between
    {cc : CongestionController}
    {events : List CongestionEvent}
    (avoidance : cc.phase = .congestionAvoidance)
    (packet : 1 ≤ cc.cwnd)
    (lossless : ∀ event ∈ events, event.isLoss = false)
    (few : ((rttSamples events).length : ℚ) ≤ cc.cwnd) :
    let grown := congestionRun cc events
    let acks : ℚ := (rttSamples events).length
    grown.phase = .congestionAvoidance ∧
      cc.cwnd + acks / (cc.cwnd + 1) ≤ grown.cwnd ∧
      grown.cwnd ≤ cc.cwnd + acks / cc.cwnd := by
  induction events using List.reverseRecOn with
  | nil => simp [congestionRun, rttSamples, avoidance]
  | append_singleton events event inductionHypothesis =>
      have split : rttSamples (events ++ [event]) =
          rttSamples events ++ event.sample.toList := by
        rw [rttSamples, List.filterMap_append]
        cases event <;> rfl
      have shorter : (rttSamples events).length ≤
          (rttSamples (events ++ [event])).length := by
        rw [split, List.length_append]
        exact Nat.le_add_right _ _
      obtain ⟨phase, above, below⟩ := inductionHypothesis
        (fun earlier member => lossless earlier
          (List.mem_append_left _ member))
        ((Nat.cast_le.mpr shorter).trans few)
      have taken : congestionRun cc (events ++ [event]) =
          congestionStep (congestionRun cc events) event := by
        rw [congestionRun, List.foldl_append]
        rfl
      have kind := lossless event
        (List.mem_append_right _ (List.mem_singleton_self _))
      rw [split] at few ⊢
      rw [taken]
      cases event with
      | send =>
          rw [CongestionEvent.sample, Option.toList_none, List.append_nil]
          exact ⟨phase, above, below⟩
      | ack rttMs =>
          rw [CongestionEvent.sample, Option.toList_some, List.length_append,
            List.length_singleton] at few ⊢
          have grown : congestionStep (congestionRun cc events) (.ack rttMs) =
              krsCongestionOnAck (congestionRun cc events) rttMs := rfl
          have window : grownWindow (congestionRun cc events) =
              ((congestionRun cc events).cwnd +
                1 / (congestionRun cc events).cwnd,
                .congestionAvoidance) := by
            rw [grownWindow, phase]
          rw [Nat.cast_add, Nat.cast_one] at few
          have between := grown_between packet few above below
          rw [grown, krsCongestionOnAck, window]
          exact ⟨rfl, between⟩
      | timeoutLoss => cases kind
      | fastRetransmitLoss => cases kind

/-- From every state in congestion avoidance with a window of at least one
packet, any acknowledgements up to a window of them, in a run without a loss,
grow the window between two lines: by at most one packet in all, and by at
least the whole part of the window over the window and one when they fill
it. -/
theorem additive_increase
    {cc : CongestionController}
    {events : List CongestionEvent}
    (avoidance : cc.phase = .congestionAvoidance)
    (packet : 1 ≤ cc.cwnd)
    (lossless : ∀ event ∈ events, event.isLoss = false)
    (few : ((rttSamples events).length : ℚ) ≤ cc.cwnd) :
    let grown := congestionRun cc events
    let acks : ℚ := (rttSamples events).length
    cc.cwnd + acks / (cc.cwnd + 1) ≤ grown.cwnd ∧
      grown.cwnd ≤ cc.cwnd + acks / cc.cwnd ∧
      grown.cwnd ≤ cc.cwnd + 1 ∧
      ((rttSamples events).length = ⌊cc.cwnd⌋₊ ->
        cc.cwnd + ⌊cc.cwnd⌋₊ / (cc.cwnd + 1) ≤ grown.cwnd) := by
  obtain ⟨-, above, below⟩ := congestionRun_between avoidance packet lossless
    few
  intro grown acks
  have positive : 0 < cc.cwnd := by linarith
  have share : acks / cc.cwnd ≤ 1 := by
    rw [div_le_one positive]
    exact few
  refine ⟨above, below, below.trans ?_, ?_⟩
  · linarith
  · intro full
    rw [← full]
    exact above

/-- A window of four packets in congestion avoidance. -/
def fourPackets : CongestionController :=
  { krsCongestionCreate with phase := .congestionAvoidance }

/-- Two acknowledgements with a send between them. -/
def twoAcks : List CongestionEvent := [.ack 50, .send, .ack 60]

theorem two_acks_of_four_packets :
    (4 : ℚ) + 2 / 5 ≤ (congestionRun fourPackets twoAcks).cwnd ∧
      (congestionRun fourPackets twoAcks).cwnd ≤ 4 + 2 / 4 := by
  have few : ((rttSamples twoAcks).length : ℚ) ≤ fourPackets.cwnd := by
    change ((2 : Nat) : ℚ) ≤ 4
    norm_num
  have packet : 1 ≤ fourPackets.cwnd := by
    change (1 : ℚ) ≤ 4
    norm_num
  obtain ⟨above, below, -⟩ := additive_increase
    (show fourPackets.phase = .congestionAvoidance from rfl) packet
    (show ∀ event ∈ twoAcks, event.isLoss = false by decide) few
  have start : fourPackets.cwnd = 4 := rfl
  have acks : (rttSamples twoAcks).length = 2 := rfl
  rw [start, acks] at above below
  norm_num at above below ⊢
  exact ⟨above, below⟩

end Kronos
