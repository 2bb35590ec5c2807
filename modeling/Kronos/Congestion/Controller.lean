import Mathlib.Data.Rat.Floor
import Mathlib.Tactic.Linarith
import Mathlib.Tactic.Positivity

/-!
# The congestion controller

The controller's doubles are exact rationals here.  The window of the source
never gets near `2 ^ 32`: in congestion avoidance it grows by its own inverse,
which double arithmetic absorbs long before, so the conversion to `uint32_t` is
the floor.
-/

namespace Kronos

/-- `CongestionPhase_e`. -/
inductive CongestionPhase
  | slowStart
  | congestionAvoidance
  deriving DecidableEq, Repr

/-- `CongestionController_t`. -/
structure CongestionController where
  cwnd : ℚ
  ssthresh : ℚ
  inFlight : Nat
  srttMs : ℚ
  rttvarMs : ℚ
  rtoMs : ℚ
  hasRttSample : Bool
  phase : CongestionPhase
  deriving DecidableEq, Repr

/-- `KRS_CC_MIN_CWND`. -/
def krsCcMinCwnd : ℚ := 1

/-- `KRS_CC_ALPHA`. -/
def krsCcAlpha : ℚ := 1 / 8

/-- `KRS_CC_BETA`. -/
def krsCcBeta : ℚ := 1 / 4

/-- `KRS_CC_RTO_MIN_MS`. -/
def krsCcRtoMinMs : ℚ := 200

/-- `KRS_CC_RTO_MAX_MS`. -/
def krsCcRtoMaxMs : ℚ := 60000

/-- `krs_congestion_create`. -/
def krsCongestionCreate : CongestionController :=
  { cwnd := 4
    ssthresh := 64
    inFlight := 0
    srttMs := 0
    rttvarMs := 0
    rtoMs := 1000
    hasRttSample := false
    phase := .slowStart }

/-- `krs_congestion_can_send`. -/
def krsCongestionCanSend (cc : CongestionController) : Bool :=
  decide (cc.inFlight < ⌊cc.cwnd⌋₊)

/-- `krs_congestion_on_send`. -/
def krsCongestionOnSend (cc : CongestionController) : CongestionController :=
  { cc with inFlight := cc.inFlight + 1 }

/-- The round-trip estimates after a sample: `srtt_ms` and `rttvar_ms`. -/
def rttEstimate (cc : CongestionController) (rttMs : ℚ) : ℚ × ℚ :=
  if !cc.hasRttSample then (rttMs, rttMs / 2)
  else
    ((1 - krsCcAlpha) * cc.srttMs + krsCcAlpha * rttMs,
      (1 - krsCcBeta) * cc.rttvarMs + krsCcBeta * |cc.srttMs - rttMs|)

/-- The retransmission timeout for an estimate, between its bounds. -/
def boundedRto (srttMs rttvarMs : ℚ) : ℚ :=
  let rtoMs := srttMs + 4 * rttvarMs
  let rtoMs := if rtoMs < krsCcRtoMinMs then krsCcRtoMinMs else rtoMs
  if rtoMs > krsCcRtoMaxMs then krsCcRtoMaxMs else rtoMs

/-- The window and the phase after an acknowledgement. -/
def grownWindow (cc : CongestionController) : ℚ × CongestionPhase :=
  match cc.phase with
  | .slowStart =>
      (cc.cwnd + 1,
        if cc.cwnd + 1 ≥ cc.ssthresh then .congestionAvoidance
        else .slowStart)
  | .congestionAvoidance => (cc.cwnd + 1 / cc.cwnd, .congestionAvoidance)

/-- `krs_congestion_on_ack`. -/
def krsCongestionOnAck (cc : CongestionController) (rttMs : ℚ) :
    CongestionController :=
  let estimate := rttEstimate cc rttMs
  let grown := grownWindow cc
  { cc with
    inFlight := if cc.inFlight > 0 then cc.inFlight - 1 else cc.inFlight
    srttMs := estimate.1
    rttvarMs := estimate.2
    hasRttSample := true
    rtoMs := boundedRto estimate.1 estimate.2
    cwnd := grown.1
    phase := grown.2 }

/-- Half the window, and at least one packet. -/
def halvedWindow (cc : CongestionController) : ℚ :=
  if cc.cwnd / 2 < krsCcMinCwnd then krsCcMinCwnd else cc.cwnd / 2

/-- `krs_congestion_on_timeout_loss`. -/
def krsCongestionOnTimeoutLoss (cc : CongestionController) :
    CongestionController :=
  { cc with
    ssthresh := halvedWindow cc
    cwnd := krsCcMinCwnd
    phase := .slowStart }

/-- `krs_congestion_on_fast_retransmit_loss`. -/
def krsCongestionOnFastRetransmitLoss (cc : CongestionController) :
    CongestionController :=
  { cc with
    ssthresh := halvedWindow cc
    cwnd := halvedWindow cc
    phase := .congestionAvoidance }

/-- `krs_congestion_get_rto`. -/
def krsCongestionGetRto (cc : CongestionController) : ℚ := cc.rtoMs

/-! ## The window stays open -/

/-- The window holds at least one packet. -/
def WindowOpen (cc : CongestionController) : Prop := 1 ≤ cc.cwnd

theorem krsCongestionCreate_windowOpen : WindowOpen krsCongestionCreate := by
  norm_num [WindowOpen, krsCongestionCreate]

theorem WindowOpen.onSend
    {cc : CongestionController}
    (windowOpen : WindowOpen cc) :
    WindowOpen (krsCongestionOnSend cc) := windowOpen

theorem WindowOpen.onAck
    {cc : CongestionController}
    (windowOpen : WindowOpen cc)
    (rttMs : ℚ) :
    WindowOpen (krsCongestionOnAck cc rttMs) := by
  unfold WindowOpen at windowOpen ⊢
  change 1 ≤ (grownWindow cc).1
  unfold grownWindow
  cases cc.phase with
  | slowStart =>
      change 1 ≤ cc.cwnd + 1
      linarith
  | congestionAvoidance =>
      have growth : 0 < 1 / cc.cwnd := by positivity
      change 1 ≤ cc.cwnd + 1 / cc.cwnd
      linarith

theorem WindowOpen.onTimeoutLoss (cc : CongestionController) :
    WindowOpen (krsCongestionOnTimeoutLoss cc) := le_refl _

theorem WindowOpen.onFastRetransmitLoss (cc : CongestionController) :
    WindowOpen (krsCongestionOnFastRetransmitLoss cc) := by
  unfold WindowOpen krsCongestionOnFastRetransmitLoss halvedWindow
    krsCcMinCwnd
  simp only
  split_ifs with small
  · exact le_refl _
  · linarith

/-- An open window with nothing in flight admits a packet. -/
theorem WindowOpen.canSend
    {cc : CongestionController}
    (windowOpen : WindowOpen cc)
    (idle : cc.inFlight = 0) :
    krsCongestionCanSend cc = true := by
  rw [krsCongestionCanSend, idle, decide_eq_true_eq, Nat.floor_pos]
  exact windowOpen

end Kronos
