import TcpStack.Lib.Run
import TcpStack.Model.TcpController

/-!
# TcpStack — congestion control (`TcpController.cc`)

`UpdateCongestionControl` and its interplay with `TimeoutReTransmitter`. The call in `HandleACK`
is commented out in the source, so a controller only ever sees the time-outs; here the function
is called on any results, as `HandleACK` would.

The `switch` of the source has a `break` behind SLOW_START only: CONGESTION_AVOIDANCE runs into
FAST_RECOVERY. An integer division by zero ends the process.

* **`updateCongestionControl`** — the code.
* **`Reno`** — what the code is meant to be: the machine with one rule for each state.
-/

namespace NetStack

variable [HyLib]

/-- What ends the process in `UpdateCongestionControl`. -/
inductive ArithmeticFault where
  /-- `kDefaultDataPacketSize * kDefaultDataPacketSize / cwnd_` with `cwnd_ = 0`. -/
  | divisionByZero
deriving DecidableEq, Repr

namespace TcpController

/-- The branches for `re_transmit`, the same in SLOW_START and CONGESTION_AVOIDANCE. -/
def ccReTransmit (c : TcpController) : TcpController :=
  let ssthresh := c.cwnd / 2
  { c with ssthresh, cwnd := ssthresh + 2 * kDefaultDataPacketSize, ccState := .fastRecovery }

/-- `case SLOW_START`. -/
def ccSlowStart (c : TcpController) (ackRe : AckResult) : TcpController :=
  if ackRe.ackRefreshed then
    let cwnd := c.cwnd + kDefaultDataPacketSize
    { c with cwnd, ccState := if cwnd ≥ c.ssthresh then .congestionAvoidance else c.ccState }
  else if ackRe.reTransmit then c.ccReTransmit
  else c

/-- `case CONGESTION_AVOIDANCE`, up to its end. -/
def ccCongestionAvoidance (c : TcpController) (ackRe : AckResult) :
    Except ArithmeticFault TcpController :=
  if ackRe.ackRefreshed then
    if c.cwnd = 0 then .error .divisionByZero
    else
      .ok { c with cwnd := c.cwnd + kDefaultDataPacketSize * kDefaultDataPacketSize / c.cwnd }
  else if ackRe.reTransmit then .ok c.ccReTransmit
  else .ok c

/-- `case FAST_RECOVERY`. -/
def ccFastRecovery (c : TcpController) (ackRe : AckResult) : TcpController :=
  if ackRe.ackRefreshed then { c with cwnd := c.ssthresh, ccState := .congestionAvoidance }
  else if ackRe.dupAck then { c with cwnd := c.cwnd + kDefaultDataPacketSize }
  else c

/-- `TcpController::UpdateCongestionControl`. -/
def updateCongestionControl (c : TcpController) (ackRe : AckResult) :
    Except ArithmeticFault TcpController :=
  match c.ccState with
  | .slowStart => .ok (c.ccSlowStart ackRe)
  | .congestionAvoidance => do
    let c ← c.ccCongestionAvoidance ackRe
    -- there is no `break`
    .ok (c.ccFastRecovery ackRe)
  | .fastRecovery => .ok (c.ccFastRecovery ackRe)

end TcpController

/-- What congestion control reacts to. -/
inductive CongestionEvent where
  /-- `UpdateCongestionControl` with the result of a `NewAckedPacket`. -/
  | ack (ackRe : AckResult)
  /-- `TimeoutReTransmitter`. -/
  | timeout
deriving DecidableEq, Repr

/-- One event. -/
def TcpController.congestionStep (c : TcpController) :
    CongestionEvent → Except ArithmeticFault TcpController
  | .ack ackRe => c.updateCongestionControl ackRe
  | .timeout => .ok c.timeoutReTransmitter

/-! ## The machine it is meant to be -/

/-- The three variables of congestion control. -/
structure Reno where
  ccState : CongestionControlState
  cwnd : UInt32
  ssthresh : UInt32
deriving DecidableEq, Repr

namespace Reno

/-- Where a connection starts. -/
def init : Reno := ⟨.slowStart, kDefaultDataPacketSize, kInitialSSThresh⟩

/-- A loss that duplicate ACKs have shown. -/
def lose (r : Reno) : Reno :=
  ⟨.fastRecovery, r.cwnd / 2 + 2 * kDefaultDataPacketSize, r.cwnd / 2⟩

/-- One rule for each state, and only the rule of the state held on entry is applied. -/
def next (r : Reno) : CongestionEvent → Reno
  | .timeout => ⟨.slowStart, kDefaultDataPacketSize, r.cwnd / 2⟩
  | .ack ackRe =>
    match r.ccState with
    | .slowStart =>
      if ackRe.ackRefreshed then
        let cwnd := r.cwnd + kDefaultDataPacketSize
        { r with cwnd, ccState := if r.ssthresh ≤ cwnd then .congestionAvoidance else .slowStart }
      else if ackRe.reTransmit then r.lose
      else r
    | .congestionAvoidance =>
      if ackRe.ackRefreshed then
        { r with cwnd := r.cwnd + kDefaultDataPacketSize * kDefaultDataPacketSize / r.cwnd }
      else if ackRe.reTransmit then r.lose
      else r
    | .fastRecovery =>
      if ackRe.ackRefreshed then { r with cwnd := r.ssthresh, ccState := .congestionAvoidance }
      else if ackRe.dupAck then { r with cwnd := r.cwnd + kDefaultDataPacketSize }
      else r

end Reno

/-- The three variables of a controller. -/
def TcpController.reno (c : TcpController) : Reno := ⟨c.ccState, c.cwnd, c.ssthresh⟩

end NetStack
