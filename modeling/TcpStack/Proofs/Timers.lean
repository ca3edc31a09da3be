import TcpStack.Proofs.Frames

/-!
# TcpStack — the timers of the sender

A sender that waits for the network must be woken up by a timer. The retransmission timer is
started and stopped in six operations, by the number of queued packets in some and by the size
of the window in others.

* **`SenderOp`** — the operations of the sending side, in any order.
* **`timers_armed`** — an unacknowledged packet has the retransmission timer running, and a
  `SendBufferListener` that waits for the window has it running or the prober.
-/

namespace NetStack

open Tiling Transition

section

variable [HyLib]

/-! ## The operations of the sender -/

/-- What happens to the sending side of a controller. -/
inductive SenderOp where
  | tryConnect
  | handleSYN (pkt : Packet)
  | handleACKSYN (pkt : Packet)
  | handleACK (pkt : Packet)
  | sendBufferListener
  | writeData (buf : List UInt8)
  | timeoutReTransmitter
  | probeWindowSize
  | sendFIN
  | environment (g : Globals)
deriving DecidableEq, Repr

/-- A controller and the globals of its process. -/
structure Sender where
  globals : Globals := {}
  con : TcpController
deriving DecidableEq, Repr

/-- One operation. An operation that has to wait changes nothing. -/
def Sender.step (s : Sender) : SenderOp → Except Fatal Sender
  | .tryConnect => do
    let (_, con) ← s.con.tryConnect s.globals
    .ok { s with con }
  | .handleSYN pkt => do
    let con ← s.con.handleSYN s.globals pkt
    .ok { s with con }
  | .handleACKSYN pkt => do
    let (globals, con) ← s.con.handleACKSYN s.globals pkt
    .ok { globals, con }
  | .handleACK pkt => do
    let (globals, con) ← s.con.handleACK s.globals pkt
    .ok { globals, con }
  | .sendBufferListener => do
    let con ← s.con.sendBufferListener s.globals.clock
    .ok { s with con }
  | .writeData buf =>
    match s.con.writeData buf with
    | none => .ok s
    | some (_, con) => .ok { s with con }
  | .timeoutReTransmitter => .ok { s with con := s.con.timeoutReTransmitter }
  | .probeWindowSize => .ok { s with con := s.con.probeWindowSize }
  | .sendFIN =>
    if s.con.sendFINWait then do
      let con ← s.con.sendFIN s.globals.clock
      .ok { s with con }
    else .ok s
  | .environment globals => .ok { s with globals }

/-- `SendFIN` does not take its error return. -/
def Sender.FinAllowed (s : Sender) (op : SenderOp) : Prop :=
  op = .sendFIN → s.con.sendFINWait = true → s.con.shutdown = false →
    s.con.state = .established ∨ s.con.state = .closeWait

instance (s : Sender) (op : SenderOp) : Decidable (s.FinAllowed op) :=
  inferInstanceAs (Decidable (_ → _ → _ → _ ∨ _))

/-! ## The size of the window -/

/-- The size of the queued packets, modulo `2^32`. -/
def queued : List SendWindowNode → UInt32
  | [] => 0
  | node :: rest => node.pkt.payloadSize + queued rest

theorem queued_append (l m : List SendWindowNode) : queued (l ++ m) = queued l + queued m := by
  induction l with
  | nil => simp [queued]
  | cons node rest ih => simp only [List.cons_append, queued, ih, UInt32.add_assoc]

/-- The size of a queue is the sum of its payload sizes, cut to 32 bits. -/
theorem queued_eq_ofNat (nodes : List SendWindowNode) :
    queued nodes = UInt32.ofNat ((nodes.map fun node => node.pkt.payloadSize.toNat).sum) := by
  induction nodes with
  | nil => rfl
  | cons node rest ih =>
    rw [queued, ih, List.map_cons, List.sum_cons, UInt32.ofNat_add, UInt32.ofNat_toNat]

/-- `NewAckedPacket` takes from `size_` what it takes from the queue. -/
theorem SendWindow.newAckedPacket_size {w w' : SendWindow} {g g' : Globals} {ackNum : UInt32}
    {res : AckResult} (h : w.newAckedPacket g ackNum = .ok (res, w', g'))
    (hsize : w.size = queued w.pktsToAck) : w'.size = queued w'.pktsToAck := by
  rcases newAckedPacket_cases h with ⟨-, l, hl, -, -, rfl, -⟩ |
    ⟨-, -, ⟨-, -, rfl, -⟩ | ⟨-, -, rfl, -⟩⟩ | ⟨-, -, -, rfl, -⟩
  · obtain ⟨front, hqueue, hleft, -⟩ := popAcked_splits hl
    show l.size = queued l.pktsToAck
    have hfront : queued front = UInt32.ofNat ((front.map fun node => len node.pkt).sum) :=
      queued_eq_ofNat front
    rw [hleft, hsize, hqueue, queued_append, ← hfront]
    grind
  · exact hsize
  · exact hsize
  · exact hsize

/-! ## The timer of the queue -/

namespace TcpController

/-- A queued packet has the retransmission timer running. The size of the window is that of its
queue, because one of the tests for an empty window looks at the size. -/
structure Armed (c : TcpController) : Prop where
  timer : c.sendWindow.pktsToAck ≠ [] → c.timer.isStarted
  size : c.sendWindow.size = queued c.sendWindow.pktsToAck

variable {c c' : TcpController} {g g' : Globals} {pkt : Packet}

theorem Armed.resendBase (h : c.Armed) : c.resendBase.Armed := by
  obtain ⟨b, ps, hre, -⟩ := c.resendBase_frame
  rw [hre]
  exact ⟨h.timer, h.size⟩

/-- A packet in an empty window starts the timer. -/
theorem Armed.sendDataPacket {clock : ℕ} {size : UInt32} {r : Bool} (h : c.Armed)
    (hr : c.sendWindow.pktsToAck = [] → r = true) (hrun : c.sendDataPacket clock size r = .ok c') :
    c'.Armed := by
  unfold TcpController.sendDataPacket at hrun
  generalize c.makeDataPacketFromBuffer c.sendWindow.nextSeqNumberToSend c.sendBuffer size = pb
    at hrun
  obtain ⟨p, b⟩ := pb
  obtain ⟨⟨sent, w⟩, hsent, hrun⟩ := bind_eq_ok.mp hrun
  rcases SendWindow.sendPacket_cases hsent with ⟨rfl, rfl⟩ | ⟨rfl, rfl⟩
  · cases hrun
    exact ⟨h.timer, h.size⟩
  · cases hrun
    refine ⟨fun _ => ?_, ?_⟩
    · show (if r then c.timer.restart else c.timer).isStarted
      split
      · exact c.timer.isStarted_restart
      · next hno => exact h.timer fun hq => hno (hr hq)
    · show c.sendWindow.size + p.payloadSize = queued (c.sendWindow.pktsToAck ++ [_])
      rw [queued_append, h.size]
      simp [queued]

theorem Armed.sendFullPackets {clock numPkts : ℕ} (h : c.Armed)
    (hrun : sendFullPackets clock numPkts c = .ok c') : c'.Armed := by
  induction numPkts generalizing c with
  | zero =>
    cases hrun
    exact h
  | succ numPkts ih =>
    obtain ⟨c₁, h₁, hrun⟩ := bind_eq_ok.mp hrun
    refine ih (h.sendDataPacket (fun hq => ?_) h₁) hrun
    simp [SendWindow.numPacketsToAck, hq]

theorem Armed.sendBufferListenerLoop {clock : ℕ} (h : c.Armed)
    (hrun : c.sendBufferListenerLoop clock = .ok c') : c'.Armed := by
  unfold TcpController.sendBufferListenerLoop at hrun
  split at hrun
  · cases hrun
    exact h
  · unfold sendBufferListenerBody at hrun
    split at hrun
    · cases hrun
      exact h
    · split at hrun
      · cases hrun
        exact ⟨h.timer, h.size⟩
      · obtain ⟨c₁, h₁, hrun⟩ := bind_eq_ok.mp hrun
        have hfull := h.sendFullPackets h₁
        split at hrun
        · -- the last packet of the iteration tests the size, which is that of the queue
          refine hfull.sendDataPacket (fun hq => ?_) hrun
          rw [hfull.size, hq]
          rfl
        · cases hrun
          exact hfull

theorem Armed.sendBufferListener {clock : ℕ} (h : c.Armed)
    (hrun : c.sendBufferListener clock = .ok c') : c'.Armed := by
  unfold TcpController.sendBufferListener at hrun
  split at hrun
  · cases hrun
    exact h
  · have hpassed : { c with sending := true }.Armed := ⟨h.timer, h.size⟩
    exact hpassed.sendBufferListenerLoop hrun

/-- Registering a packet and starting the timer. -/
theorem Armed.enqueue {clock : ℕ} {p : Packet} {sent : Bool} {w : SendWindow} (h : c.Armed)
    (hsent : c.sendWindow.sendPacket clock p = .ok (sent, w)) :
    w.size = queued w.pktsToAck := by
  rcases SendWindow.sendPacket_cases hsent with ⟨rfl, rfl⟩ | ⟨rfl, rfl⟩
  · exact h.size
  · rw [SendWindow.enqueue, queued_append, h.size]
    simp [queued]

theorem Armed.tryConnect {b : Bool} (h : c.Armed) (hrun : c.tryConnect g = .ok (b, c')) :
    c'.Armed := by
  unfold TcpController.tryConnect at hrun
  split at hrun
  · cases hrun
    exact h
  · obtain ⟨⟨sent, w⟩, hsent, hrun⟩ := bind_eq_ok.mp hrun
    cases sent with
    | false =>
      cases hrun
      exact h
    | true =>
      cases hrun
      exact ⟨fun _ => c.timer.isStarted_restart, h.enqueue hsent⟩

theorem Armed.handleSYN (h : c.Armed) (hrun : c.handleSYN g pkt = .ok c') : c'.Armed := by
  obtain ⟨⟨ackNum, chain, w⟩, -, hrun⟩ := bind_eq_ok.mp hrun
  simp only at hrun
  split at hrun
  · cases hrun
  · have h₁ : ({ c with recvWindow := w } : TcpController).Armed := ⟨h.timer, h.size⟩
    split at hrun
    · cases hrun
      exact h₁.resendBase
    · obtain ⟨⟨sent, w'⟩, hsent, hrun⟩ := bind_eq_ok.mp hrun
      cases sent with
      | false =>
        cases hrun
        exact h₁
      | true =>
        cases hrun
        exact ⟨fun _ => c.timer.isStarted_restart, h.enqueue hsent⟩

theorem Armed.handleACKSYN (h : c.Armed) (hrun : c.handleACKSYN g pkt = .ok (g', c')) :
    c'.Armed := by
  unfold TcpController.handleACKSYN at hrun
  split at hrun
  · obtain ⟨⟨g₁, c₁⟩, hconn, hrun⟩ := bind_eq_ok.mp hrun
    obtain ⟨⟨res, w, g₂⟩, hack, hconn⟩ := bind_eq_ok.mp hconn
    cases hconn
    cases hrun
    have hsize : w.size = queued w.pktsToAck := SendWindow.newAckedPacket_size hack h.size
    refine ⟨fun hne => ?_, hsize⟩
    have hne' : w.pktsToAck ≠ [] := hne
    -- packets are left, so some were there before
    have hold : c.sendWindow.pktsToAck ≠ [] := by
      rintro hnil
      have := (SendWindow.newAckedPacket_suffix hack).1
      rw [hnil] at this
      exact hne' (List.suffix_nil.mp this)
    show (if w.numPacketsToAck = 0 then c.timer.stop else c.timer).isStarted
    rw [if_neg (by simpa [SendWindow.numPacketsToAck] using hne')]
    exact h.timer hold
  · cases hrun
    exact ⟨h.timer, h.size⟩

theorem Armed.handleACK (h : c.Armed) (hrun : c.handleACK g pkt = .ok (g', c')) : c'.Armed := by
  obtain ⟨⟨b, g₁, c₁⟩, hwin, hrun⟩ := bind_eq_ok.mp hrun
  cases hrun
  have h₁ : c₁.Armed := by
    obtain ⟨⟨res, w, g₂⟩, hack, hwin⟩ := bind_eq_ok.mp hwin
    have hsize : w.size = queued w.pktsToAck := SendWindow.newAckedPacket_size hack h.size
    -- the timer is set by the queue that is left, whether or not its front is sent again
    have htimer : ∀ {w₁ : SendWindow}, w₁.pktsToAck ≠ [] →
        (if w₁.numPacketsToAck = 0 then c.timer.stop else c.timer.restart).isStarted := by
      intro w₁ hne
      rw [if_neg (by simpa [SendWindow.numPacketsToAck] using hne)]
      exact c.timer.isStarted_restart
    simp only at hwin
    split at hwin
    · obtain ⟨f, ps, hre, -⟩ := resendBase_frame { c with sendWindow := w }
      rw [hre] at hwin
      cases hwin
      exact ⟨fun hne => htimer hne, hsize⟩
    · cases hwin
      exact ⟨fun hne => htimer hne, hsize⟩
  obtain ⟨st, t₁, t₂, k, s, hst⟩ := c₁.handleACKState_frame b
  rw [hst]
  exact ⟨h₁.timer, h₁.size⟩

theorem Armed.timeoutReTransmitter (h : c.Armed) : c.timeoutReTransmitter.Armed := by
  unfold TcpController.timeoutReTransmitter
  simp only
  split
  · exact ⟨h.resendBase.timer, h.resendBase.size⟩
  · exact ⟨h.timer, h.size⟩

theorem Armed.sendFIN {clock : ℕ} (h : c.Armed)
    (hstate : c.shutdown = false → c.state = .established ∨ c.state = .closeWait)
    (hrun : c.sendFIN clock = .ok c') : c'.Armed := by
  unfold TcpController.sendFIN at hrun
  split at hrun
  · cases hrun
    exact h
  · next hdown =>
    obtain ⟨⟨p, c₁⟩, hwin, hrun⟩ := bind_eq_ok.mp hrun
    cases hrun
    obtain ⟨⟨sent, w⟩, hsent, hwin⟩ := bind_eq_ok.mp hwin
    have hsize : w.size = queued w.pktsToAck := by
      have hcap : ({ c with sendWindow := c.sendWindow.setCapacity (c.sendWindow.size + 1) } :
        TcpController).Armed := ⟨h.timer, h.size⟩
      exact hcap.enqueue hsent
    cases sent with
    | false => cases hwin
    | true =>
      cases hwin
      unfold sendFINState
      rcases hstate (by simpa using hdown) with hst | hst
      · simp only [hst]
        exact ⟨fun _ => c.timer.isStarted_restart, hsize⟩
      · simp only [hst]
        exact ⟨fun _ => c.timer.isStarted_restart, hsize⟩

theorem Armed.writeData {n : ℤ} {buf : List UInt8} (h : c.Armed)
    (hrun : c.writeData buf = some (n, c')) : c'.Armed := by
  unfold TcpController.writeData at hrun
  split at hrun
  · cases hrun
    exact h
  · split at hrun
    · cases hrun
    · split at hrun
      · cases hrun
        exact h
      · cases hrun
        exact ⟨h.timer, h.size⟩

end TcpController

/-- Every operation keeps the timer of the queue running. -/
theorem Sender.armed_step {s s' : Sender} {op : SenderOp} (h : s.con.Armed)
    (hfin : s.FinAllowed op) (hstep : s.step op = .ok s') : s'.con.Armed := by
  cases op with
  | tryConnect =>
    obtain ⟨⟨b, c⟩, hrun, hstep⟩ := bind_eq_ok.mp hstep
    cases hstep
    exact h.tryConnect hrun
  | handleSYN pkt =>
    obtain ⟨c, hrun, hstep⟩ := bind_eq_ok.mp hstep
    cases hstep
    exact h.handleSYN hrun
  | handleACKSYN pkt =>
    obtain ⟨⟨g, c⟩, hrun, hstep⟩ := bind_eq_ok.mp hstep
    cases hstep
    exact h.handleACKSYN hrun
  | handleACK pkt =>
    obtain ⟨⟨g, c⟩, hrun, hstep⟩ := bind_eq_ok.mp hstep
    cases hstep
    exact h.handleACK hrun
  | sendBufferListener =>
    obtain ⟨c, hrun, hstep⟩ := bind_eq_ok.mp hstep
    cases hstep
    exact h.sendBufferListener hrun
  | writeData buf =>
    simp only [step] at hstep
    split at hstep
    · cases hstep
      exact h
    · next hrun =>
      cases hstep
      exact h.writeData hrun
  | timeoutReTransmitter =>
    cases hstep
    exact h.timeoutReTransmitter
  | probeWindowSize =>
    cases hstep
    simp only [TcpController.probeWindowSize]
    split
    · exact ⟨h.timer, h.size⟩
    · exact h
  | sendFIN =>
    simp only [step] at hstep
    split at hstep
    · next hwait =>
      obtain ⟨c, hrun, hstep⟩ := bind_eq_ok.mp hstep
      cases hstep
      exact h.sendFIN (hfin rfl hwait) hrun
    · cases hstep
      exact h
  | environment g =>
    cases hstep
    exact h

/-- A `SendBufferListener` that waits for a window with a capacity waits for packets in it. -/
theorem TcpController.Armed.timer_of_wait {c : TcpController} (h : c.Armed)
    (hwait : c.sendWindowWait = false) :
    c.timer.isStarted ∨ c.sendWindow.capacity = 0 ∧ c.proberTimer.isStarted := by
  simp only [sendWindowWait, Bool.or_eq_false_iff, Bool.and_eq_false_iff,
    decide_eq_false_iff_not] at hwait
  obtain ⟨hfree, hprobe⟩ := hwait
  by_cases hcap : c.sendWindow.capacity = 0
  · refine Or.inr ⟨hcap, ?_⟩
    rcases hprobe with hp | hp
    · exact absurd (by rw [hcap]; exact UInt32.le_refl _) hp
    · simpa using hp
  · refine Or.inl (h.timer fun hnil => hfree ?_)
    -- an empty queue has size 0, and all of the capacity is free
    have hsize : c.sendWindow.size = 0 := by
      rw [h.size, hnil]
      rfl
    have hpos : c.sendWindow.capacity > 0 := UInt32.pos_iff_ne_zero.mpr hcap
    rw [SendWindow.freeSpace, hsize, if_pos hpos]
    simpa using hpos

/-- **The sender never stalls without a timer.** In every run without an error return of
`SendFIN`, a packet that waits for its acknowledgement has the retransmission timer running, and
a `SendBufferListener` that has data and waits for the window has it running, or the capacity is
0 and the prober runs. -/
theorem timers_armed {g : Globals} {key : TcpControllerKey} {options : TcpControllerOptions}
    {s : Sender} {ops : List SenderOp}
    (hfin : Meets Sender.step Sender.FinAllowed ⟨g, TcpController.new key options⟩ ops)
    (hrun : run Sender.step ⟨g, TcpController.new key options⟩ ops = .ok s) :
    (s.con.sendWindow.pktsToAck ≠ [] → s.con.timer.isStarted) ∧
      (s.con.sendBuffer.empty = false → s.con.inConnectingState = false →
        s.con.sendWindowWait = false →
        s.con.timer.isStarted ∨ s.con.sendWindow.capacity = 0 ∧ s.con.proberTimer.isStarted) := by
  have h : s.con.Armed := run_induction_of_meets Sender.step (P := fun s => s.con.Armed)
    (fun _ _ _ h hcond hstep => Sender.armed_step h hcond hstep)
    ⟨fun hne => absurd rfl hne, rfl⟩ hfin hrun
  exact ⟨h.timer, fun _ _ => h.timer_of_wait⟩

end

section

open scoped Reference

/-- A client connects to a peer with room for two bytes, and three are written. -/
def smallWindow : List SenderOp :=
  [.tryConnect, .handleACKSYN
      { ipHeader := {}, tcpHeader := { sync := true, ack := true, ackNum := 1, windowSize := 2 } },
    .writeData [1, 2, 3], .sendBufferListener]

theorem timers_armed_smallWindow : ∃ s,
    run Sender.step ⟨{}, TcpController.new {} TcpController.getDefaultOptions⟩ smallWindow = .ok s ∧
    s.con.sendBuffer.empty = false ∧ s.con.inConnectingState = false ∧
    s.con.sendWindowWait = false ∧
    (s.con.timer.isStarted ∨ s.con.sendWindow.capacity = 0 ∧ s.con.proberTimer.isStarted) := by
  have hrun : (run Sender.step ⟨{}, TcpController.new {} TcpController.getDefaultOptions⟩
      smallWindow).map (fun s =>
        (s.con.sendBuffer.empty, s.con.inConnectingState, s.con.sendWindowWait)) =
      .ok (false, false, false) := by decide +kernel
  obtain ⟨s, hs, heq⟩ := map_eq_ok.mp hrun
  simp only [Prod.mk.injEq] at heq
  obtain ⟨hbuf, hconn, hwait⟩ := heq
  exact ⟨s, hs, hbuf, hconn, hwait, (timers_armed (by decide +kernel) hs).2 hbuf hconn hwait⟩

end

end NetStack
