import TcpStack.Model.CongestionControl
import TcpStack.Proofs.Frames

/-!
# TcpStack — what congestion control really does

Any sequence of acknowledgements and time-outs, from the start of a connection on.

* **`cwnd_positive`** — `cwnd_` stays positive, and the division by it is safe, exactly if no new
  ACK makes a threshold of 0 the window and no increment wraps. A threshold of 0 takes a few
  losses in a row: nothing bounds the halving from below.
* **`refines_reno`** — the code is the machine with one rule for each state exactly as long as
  CONGESTION_AVOIDANCE has nothing to hand on to FAST_RECOVERY, or hands on what makes no
  difference.
-/

namespace NetStack

open Transition

section

variable [HyLib]

namespace TcpController

variable {c c' : TcpController} {ackRe : AckResult}

/-! ## The `switch`, case by case -/

theorem update_slowStart (hst : c.ccState = .slowStart) :
    c.updateCongestionControl ackRe = .ok (c.ccSlowStart ackRe) := by
  rw [updateCongestionControl, hst]

theorem update_fastRecovery (hst : c.ccState = .fastRecovery) :
    c.updateCongestionControl ackRe = .ok (c.ccFastRecovery ackRe) := by
  rw [updateCongestionControl, hst]

/-- CONGESTION_AVOIDANCE on a new ACK: the increment is overwritten by the threshold. -/
theorem update_newAck (hst : c.ccState = .congestionAvoidance) (hpos : c.cwnd ≠ 0)
    (hack : ackRe.ackRefreshed = true) : c.updateCongestionControl ackRe =
      .ok { c with cwnd := c.ssthresh, ccState := .congestionAvoidance } := by
  rw [updateCongestionControl, hst]
  simp only [ccCongestionAvoidance, hack, if_true, if_neg hpos, ok_bind, ccFastRecovery]

/-- CONGESTION_AVOIDANCE on anything else: a duplicate goes on to FAST_RECOVERY. -/
theorem update_noAck (hst : c.ccState = .congestionAvoidance) (hack : ackRe.ackRefreshed = false) :
    c.updateCongestionControl ackRe =
      .ok ((if ackRe.reTransmit then c.ccReTransmit else c).ccFastRecovery ackRe) := by
  rw [updateCongestionControl, hst]
  simp only [ccCongestionAvoidance, hack, Bool.false_eq_true, if_false]
  split <;> rfl

/-! ## The window does not vanish -/

/-- The event does not make `cwnd_` zero: a new ACK does not copy a threshold of 0, and no
increment by a packet size wraps. -/
def CwndKept (c : TcpController) : CongestionEvent → Prop
  | .timeout => True
  | .ack ackRe =>
    match c.ccState with
    | .slowStart => ackRe.ackRefreshed = true → c.cwnd + kDefaultDataPacketSize ≠ 0
    | .congestionAvoidance =>
      if ackRe.ackRefreshed then c.ssthresh ≠ 0
      else ackRe.dupAck = true → ackRe.reTransmit = false → c.cwnd + kDefaultDataPacketSize ≠ 0
    | .fastRecovery =>
      if ackRe.ackRefreshed then c.ssthresh ≠ 0
      else ackRe.dupAck = true → c.cwnd + kDefaultDataPacketSize ≠ 0

omit [HyLib] in
/-- Half of a window and a few packets do not wrap. -/
theorem half_add_ne_zero (cwnd : UInt32) {n : UInt32} (hpos : 0 < n.toNat) (hn : n.toNat < 2 ^ 31) :
    cwnd / 2 + n ≠ 0 := by
  intro h
  have hnat := congrArg UInt32.toNat h
  rw [UInt32.toNat_add, UInt32.toNat_div, UInt32.toNat_zero] at hnat
  have hlt := cwnd.toNat_lt
  have htwo : UInt32.toNat 2 = 2 := rfl
  rw [htwo] at hnat
  omega

/-- SLOW_START. -/
theorem ccSlowStart_cwnd (hpos : c.cwnd ≠ 0) : (c.ccSlowStart ackRe).cwnd ≠ 0 ↔
    (ackRe.ackRefreshed = true → c.cwnd + kDefaultDataPacketSize ≠ 0) := by
  unfold ccSlowStart
  split
  · next hack => simp [hack]
  · next hack =>
    split
    · have hlost : c.ccReTransmit.cwnd ≠ 0 := half_add_ne_zero c.cwnd (by decide) (by decide)
      simp [hack, hlost]
    · simp [hack, hpos]

/-- FAST_RECOVERY, entered as such or from the case above it. -/
theorem ccFastRecovery_cwnd (hpos : c.cwnd ≠ 0) : (c.ccFastRecovery ackRe).cwnd ≠ 0 ↔
    if ackRe.ackRefreshed then c.ssthresh ≠ 0
    else ackRe.dupAck = true → c.cwnd + kDefaultDataPacketSize ≠ 0 := by
  unfold ccFastRecovery
  split
  · exact Iff.rfl
  · split
    · next hdup => simp [hdup]
    · next hdup => simp [hdup, hpos]

/-- **One event.** The condition says exactly which events keep the window positive. -/
theorem cwndKept_iff (hpos : c.cwnd ≠ 0) (e : CongestionEvent) :
    c.CwndKept e ↔ ∃ c', c.congestionStep e = .ok c' ∧ c'.cwnd ≠ 0 := by
  cases e with
  | timeout => simp [CwndKept, congestionStep, timeoutReTransmitter, kDefaultDataPacketSize]
  | ack ackRe =>
    have hstep : c.congestionStep (.ack ackRe) = c.updateCongestionControl ackRe := rfl
    rw [hstep]
    cases hst : c.ccState with
    | slowStart => simp [update_slowStart hst, CwndKept, hst, ccSlowStart_cwnd hpos]
    | fastRecovery =>
      simp only [update_fastRecovery hst, CwndKept, hst, Except.ok.injEq, exists_eq_left',
        ccFastRecovery_cwnd hpos]
    | congestionAvoidance =>
      cases hack : ackRe.ackRefreshed with
      | true => simp [update_newAck hst hpos hack, CwndKept, hst, hack]
      | false =>
        rw [update_noAck hst hack]
        by_cases hre : ackRe.reTransmit = true
        · -- the loss leaves room enough for the increment behind it
          have hlost : c.ccReTransmit.cwnd ≠ 0 := half_add_ne_zero c.cwnd (by decide) (by decide)
          have hgrown : c.ccReTransmit.cwnd + kDefaultDataPacketSize ≠ 0 := by
            show c.cwnd / 2 + 2 * kDefaultDataPacketSize + kDefaultDataPacketSize ≠ 0
            rw [UInt32.add_assoc]
            exact half_add_ne_zero c.cwnd (by decide) (by decide)
          simp [CwndKept, hst, ccFastRecovery_cwnd hlost, hack, hre, hgrown]
        · simp [CwndKept, hst, ccFastRecovery_cwnd hpos, hack, hre]

end TcpController

/-- **When the congestion window stays positive.** From the start of a connection on, every event
succeeds and leaves `cwnd_` positive, so that nothing is divided by zero, exactly if no new ACK
arrives in CONGESTION_AVOIDANCE or FAST_RECOVERY while `ssthresh_` is 0, and no increment by a
packet size wraps `cwnd_` to 0. -/
theorem cwnd_positive (key : TcpControllerKey) (options : TcpControllerOptions)
    (es : List CongestionEvent) :
    (∀ pre, pre <+: es → ∃ c,
      run TcpController.congestionStep (.new key options) pre = .ok c ∧ c.cwnd ≠ 0) ↔
    Meets TcpController.congestionStep TcpController.CwndKept (.new key options) es :=
  forall_prefix_iff_meets TcpController.congestionStep (P := fun c => c.cwnd ≠ 0)
    (fun _ e hpos => TcpController.cwndKept_iff hpos e)
    (show kDefaultDataPacketSize ≠ 0 by decide)

end

section

open scoped Reference

/-- The results of `NewAckedPacket`: a new ACK and a third duplicate. -/
def newAck : AckResult := ⟨true, false, false, some 0⟩

def thirdDuplicate : AckResult := ⟨false, true, true, some 0⟩

/-- A time-out leaves the threshold at 5; three rounds of loss and recovery halve it to 0, and
the last new ACK makes it the window. -/
def vanishingWindow : List CongestionEvent :=
  [.timeout, .ack newAck, .ack newAck, .ack thirdDuplicate, .ack newAck, .ack thirdDuplicate,
    .ack newAck, .ack thirdDuplicate, .ack newAck]

/-- The window vanishes, and the next new ACK divides by zero. -/
theorem not_cwnd_positive : ¬ ∀ es : List CongestionEvent,
    ∃ c, run TcpController.congestionStep (.new {} TcpController.getDefaultOptions) es = .ok c ∧
      c.cwnd ≠ 0 := by
  intro h
  have hzero : (run TcpController.congestionStep (.new {} TcpController.getDefaultOptions)
      vanishingWindow).map (·.cwnd) = .ok 0 := by decide +kernel
  obtain ⟨c, hc, hcwnd⟩ := h vanishingWindow
  rw [hc] at hzero
  exact hcwnd (Except.ok.inj hzero)

example : run TcpController.congestionStep (.new {} TcpController.getDefaultOptions)
    (vanishingWindow ++ [.ack newAck]) = .error .divisionByZero := by decide +kernel

end

section

variable [HyLib]

/-! ## The Reno machine -/

namespace TcpController

variable {c c' : TcpController} {ackRe : AckResult}

/-- What CONGESTION_AVOIDANCE hands on to FAST_RECOVERY makes no difference: there is nothing to
do there, or the threshold is what the window would have become anyway. -/
def NothingHandedOn (c : TcpController) : CongestionEvent → Prop
  | .timeout => True
  | .ack ackRe => c.ccState = .congestionAvoidance →
    if ackRe.ackRefreshed then
      c.ssthresh = c.cwnd + kDefaultDataPacketSize * kDefaultDataPacketSize / c.cwnd
    else ackRe.dupAck = false

instance (c : TcpController) : (e : CongestionEvent) → Decidable (c.NothingHandedOn e)
  | .timeout => inferInstanceAs (Decidable True)
  | .ack ackRe => inferInstanceAs (Decidable (c.ccState = .congestionAvoidance →
    if ackRe.ackRefreshed then
      c.ssthresh = c.cwnd + kDefaultDataPacketSize * kDefaultDataPacketSize / c.cwnd
    else ackRe.dupAck = false))

/-- After the event the three variables are those of the machine, and a new ACK in
CONGESTION_AVOIDANCE has not made the window smaller. -/
def FollowsReno (c : TcpController) (e : CongestionEvent) : Prop :=
  ∃ c', c.congestionStep e = .ok c' ∧ c'.reno = c.reno.next e ∧
    ∀ ackRe, e = .ack ackRe → c.ccState = .congestionAvoidance → ackRe.ackRefreshed = true →
      c.cwnd ≤ c'.cwnd

omit [HyLib] in
/-- The increment of CONGESTION_AVOIDANCE does not wrap: a window beyond 100 does not grow. -/
theorem le_add_increment (cwnd : UInt32) :
    cwnd ≤ cwnd + kDefaultDataPacketSize * kDefaultDataPacketSize / cwnd := by
  have hsq : (kDefaultDataPacketSize * kDefaultDataPacketSize).toNat = 100 := by decide
  rw [UInt32.le_iff_toNat_le, UInt32.toNat_add, UInt32.toNat_div, hsq]
  have hlt := cwnd.toNat_lt
  have hdiv : 100 / cwnd.toNat ≤ 100 := Nat.div_le_self ..
  rcases Nat.lt_or_ge 100 cwnd.toNat with hbig | hsmall
  · rw [Nat.div_eq_of_lt hbig]
    omega
  · rw [Nat.mod_eq_of_lt (by omega)]
    exact Nat.le_add_right ..

/-- SLOW_START ends with a `break`. -/
theorem reno_ccSlowStart (hst : c.ccState = .slowStart) :
    (c.ccSlowStart ackRe).reno = c.reno.next (.ack ackRe) := by
  unfold ccSlowStart Reno.next TcpController.reno
  simp only [hst]
  split
  · rfl
  · split
    · rfl
    · simp [hst]

/-- FAST_RECOVERY is the last case. -/
theorem reno_ccFastRecovery (hst : c.ccState = .fastRecovery) :
    (c.ccFastRecovery ackRe).reno = c.reno.next (.ack ackRe) := by
  unfold ccFastRecovery Reno.next TcpController.reno
  simp only [hst]
  split
  · rfl
  · split
    · simp
    · simp [hst]

omit [HyLib] in
/-- A packet size more is another window. -/
theorem add_packetSize_ne (n : UInt32) : n + kDefaultDataPacketSize ≠ n := by
  intro h
  have hnat := congrArg UInt32.toNat h
  have hten : kDefaultDataPacketSize.toNat = 10 := by decide
  rw [UInt32.toNat_add, hten] at hnat
  have := n.toNat_lt
  omega

/-- **One event.** The code follows the machine exactly if nothing is handed on. -/
theorem followsReno_iff (hpos : 0 < c.cwnd) (e : CongestionEvent) :
    c.FollowsReno e ↔ c.NothingHandedOn e := by
  have hne : c.cwnd ≠ 0 := (UInt32.ne_of_lt hpos).symm
  cases e with
  | timeout =>
    -- a time-out is handled by the same lines in all three states
    refine ⟨fun _ => trivial, fun _ => ⟨_, rfl, ?_, by simp⟩⟩
    unfold timeoutReTransmitter
    simp only
    split
    · obtain ⟨b, ps, hre, -⟩ := c.resendBase_frame
      rw [hre]
      rfl
    · rfl
  | ack ackRe =>
    cases hst : c.ccState with
    | slowStart =>
      refine ⟨fun _ hca => by simp [hst] at hca, fun _ => ⟨c.ccSlowStart ackRe, ?_,
        reno_ccSlowStart hst, fun _ _ hca => by simp [hst] at hca⟩⟩
      exact update_slowStart hst
    | fastRecovery =>
      refine ⟨fun _ hca => by simp [hst] at hca, fun _ => ⟨c.ccFastRecovery ackRe, ?_,
        reno_ccFastRecovery hst, fun _ _ hca => by simp [hst] at hca⟩⟩
      exact update_fastRecovery hst
    | congestionAvoidance =>
      unfold FollowsReno NothingHandedOn congestionStep
      cases hack : ackRe.ackRefreshed with
      | true =>
        -- the case runs on into that of FAST_RECOVERY, which overwrites `cwnd_` with `ssthresh_`
        simp only [update_newAck hst hne hack, Except.ok.injEq, exists_eq_left']
        simp only [TcpController.reno, Reno.next, hst, hack, if_true, Reno.mk.injEq, true_and,
          and_true, forall_true_left]
        constructor
        · exact And.left
        · intro heq
          refine ⟨heq, fun _ _ _ => ?_⟩
          rw [heq]
          exact le_add_increment c.cwnd
      | false =>
        simp only [update_noAck hst hack, Except.ok.injEq, exists_eq_left', hst, hack,
          Bool.false_eq_true, if_false, forall_true_left]
        constructor
        · -- a duplicate adds a packet size to what the machine has
          intro h
          by_contra hdup
          simp only [Bool.not_eq_false] at hdup
          have hcwnd := congrArg Reno.cwnd h.1
          cases hre : ackRe.reTransmit with
          | true =>
            simp only [TcpController.reno, Reno.next, hst, hack, hre, ccFastRecovery, hdup,
              Bool.false_eq_true, if_false, if_true] at hcwnd
            exact add_packetSize_ne _ hcwnd
          | false =>
            simp only [TcpController.reno, Reno.next, hst, hack, hre, ccFastRecovery, hdup,
              Bool.false_eq_true, if_false, if_true] at hcwnd
            exact add_packetSize_ne _ hcwnd
        · intro hdup
          refine ⟨?_, by simp [hack]⟩
          cases hre : ackRe.reTransmit with
          | true =>
            simp [TcpController.reno, Reno.next, hst, hack, hre, ccFastRecovery, hdup,
              ccReTransmit, Reno.lose]
          | false => simp [TcpController.reno, Reno.next, hst, hack, hre, ccFastRecovery, hdup]

/-- A run that follows the machine event by event ends where the machine does. -/
theorem run_followsReno {es : List CongestionEvent} (h : Meets congestionStep FollowsReno c es) :
    ∃ c', run congestionStep c es = .ok c' ∧ c'.reno = es.foldl Reno.next c.reno := by
  induction es generalizing c with
  | nil => exact ⟨c, rfl, rfl⟩
  | cons e es ih =>
    obtain ⟨c₁, hstep, hnext, -⟩ := h.1
    obtain ⟨c', hrun, hreno⟩ := ih (h.2 c₁ hstep)
    refine ⟨c', (run_cons_eq_ok congestionStep).mpr ⟨c₁, hstep, hrun⟩, ?_⟩
    rw [hreno, hnext]
    rfl

end TcpController

/-- **When congestion control is the Reno machine.** In a run in which `cwnd_` is positive before
every event, each event applies only the rule of the state held on entry, and a new ACK in
CONGESTION_AVOIDANCE does not decrease `cwnd_`, exactly if CONGESTION_AVOIDANCE never hands on to
FAST_RECOVERY what makes a difference there. The whole run is then one of the machine. -/
theorem refines_reno (key : TcpControllerKey) (options : TcpControllerOptions)
    (es : List CongestionEvent)
    (hpos : Meets TcpController.congestionStep (fun c _ => 0 < c.cwnd) (.new key options) es) :
    (Meets TcpController.congestionStep TcpController.FollowsReno (.new key options) es ↔
      Meets TcpController.congestionStep TcpController.NothingHandedOn (.new key options) es) ∧
    (Meets TcpController.congestionStep TcpController.NothingHandedOn (.new key options) es →
      ∃ c, run TcpController.congestionStep (.new key options) es = .ok c ∧
        c.reno = es.foldl Reno.next Reno.init) := by
  have hiff := Meets.congr TcpController.congestionStep
    (fun (c : TcpController) e (h : 0 < c.cwnd) => TcpController.followsReno_iff h e) hpos
  exact ⟨hiff, fun h => TcpController.run_followsReno (hiff.mpr h)⟩

end

section

open scoped Reference

/-- The result of a first duplicate. -/
def firstDuplicate : AckResult := ⟨false, true, false, some 0⟩

/-- A loss in SLOW_START, duplicates, and the recovery. -/
def oneRecovery : List CongestionEvent :=
  [.ack newAck, .timeout, .ack thirdDuplicate, .ack firstDuplicate, .ack newAck, .timeout]

theorem refines_reno_oneRecovery :
    ∃ c, run TcpController.congestionStep (.new {} TcpController.getDefaultOptions) oneRecovery =
      .ok c ∧ c.reno = oneRecovery.foldl Reno.next Reno.init :=
  (refines_reno {} TcpController.getDefaultOptions oneRecovery (by decide +kernel)).2
    (by decide +kernel)

/-- After a time-out the second new ACK arrives in CONGESTION_AVOIDANCE: the window of 20 becomes
the threshold of 5. -/
theorem not_refines_reno : ¬ ∀ es : List CongestionEvent,
    Meets TcpController.congestionStep (fun c _ => 0 < c.cwnd)
      (.new {} TcpController.getDefaultOptions) es →
    Meets TcpController.congestionStep TcpController.FollowsReno
      (.new {} TcpController.getDefaultOptions) es := by
  intro h
  have hpos : Meets TcpController.congestionStep (fun c _ => 0 < c.cwnd)
      (.new {} TcpController.getDefaultOptions) [.timeout, .ack newAck, .ack newAck] := by
    decide +kernel
  have hhanded := (Meets.congr TcpController.congestionStep
    (fun (c : TcpController) e (h : 0 < c.cwnd) => TcpController.followsReno_iff h e) hpos).mp
      (h _ hpos)
  exact absurd hhanded (by decide +kernel)

example : (run TcpController.congestionStep (.new {} TcpController.getDefaultOptions)
    [.timeout, .ack newAck, .ack newAck]).map (·.cwnd) = .ok 5 := by decide +kernel

end

end NetStack
