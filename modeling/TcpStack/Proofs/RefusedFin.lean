import TcpStack.Proofs.Interleaving
import TcpStack.Proofs.SendQueue

/-!
# TcpStack — a `SendFIN` that is refused

`SendFIN` makes room in the send window and registers its FIN first, and looks at `state_`
afterwards, under another mutex. In a state that does not allow a FIN it logs an error and
returns. In between other tasks may run: a second `SendFIN`, the reset of a closed connection,
the handlers of the receive thread.

* **`TcpController.CallsWindow`** — a step of a controller uses its send window only through the
  calls of the window, so what they keep holds in every reachable controller.
* **`TcpController.sendFINWindow_registers`** — the FIN is always registered: neither the check
  nor the `LogFATAL` of the window section is reached.
* **`Racing.step_midFin`** — a `SendFIN` between its sections is left alone by all other threads.
* **`refused_fin_unchanged`** — the error return leaves a FIN behind whenever it is taken, and
  whether it is taken depends on the state at the second section only.
-/

namespace NetStack

open Transition

section

variable [HyLib]

/-! ## The window of a controller -/

namespace TcpController

/-- The send window changes by calls of its interface. -/
def CallsWindow (c c' : TcpController) : Prop :=
  ∃ calls, run SendWindow.apply c.sendWindow calls = .ok c'.sendWindow

variable {c c' c₁ : TcpController} {g g' : Globals} {pkt : Packet} {clock : ℕ}

theorem CallsWindow.of_eq (h : c'.sendWindow = c.sendWindow) : CallsWindow c c' :=
  ⟨[], by rw [h, run_nil]⟩

theorem CallsWindow.refl (c : TcpController) : CallsWindow c c := .of_eq rfl

theorem CallsWindow.trans (h₁ : CallsWindow c c₁) (h₂ : CallsWindow c₁ c') : CallsWindow c c' := by
  obtain ⟨calls₁, h₁⟩ := h₁
  obtain ⟨calls₂, h₂⟩ := h₂
  exact ⟨calls₁ ++ calls₂, by rw [run_append, h₁, ok_bind, h₂]⟩

theorem CallsWindow.call (call : SendWindow.Call)
    (h : c.sendWindow.apply call = .ok c'.sendWindow) : CallsWindow c c' :=
  ⟨[call], by rw [run, h, ok_bind, run_nil]⟩

theorem CallsWindow.valid (h : CallsWindow c c') (hv : c.sendWindow.Valid) :
    c'.sendWindow.Valid := by
  obtain ⟨calls, hrun⟩ := h
  exact hv.run hrun

/-- One `SendPacket` of the window. -/
theorem CallsWindow.sendPacket {sent : Bool} {w : SendWindow}
    (h : c.sendWindow.sendPacket clock pkt = .ok (sent, w)) (hw : c'.sendWindow = w) :
    CallsWindow c c' := by
  refine .call (.sendPacket clock pkt) ?_
  rw [hw]
  show (c.sendWindow.sendPacket clock pkt).map Prod.snd = .ok w
  rw [h]
  rfl

theorem CallsWindow.resendBase (c : TcpController) : CallsWindow c c.resendBase := by
  refine .call .getBasePakcketToReSend ?_
  show Except.ok c.sendWindow.getBasePakcketToReSend.2 = _
  unfold TcpController.resendBase
  cases c.sendWindow.getBasePakcketToReSend with
  | mk pkt w => cases pkt <;> rfl

theorem CallsWindow.setCapacity {capacity : UInt32}
    (h : c'.sendWindow = c.sendWindow.setCapacity capacity) : CallsWindow c c' :=
  .call (.setCapacity capacity) (by rw [h]; rfl)

/-- One `NewAckedPacket` of the window. -/
theorem CallsWindow.newAckedPacket {ackNum : UInt32} {res : AckResult} {w : SendWindow}
    (h : c.sendWindow.newAckedPacket g ackNum = .ok (res, w, g')) (hw : c'.sendWindow = w) :
    CallsWindow c c' := by
  refine .call (.newAckedPacket g ackNum) ?_
  rw [hw]
  show (c.sendWindow.newAckedPacket g ackNum).map (fun r => r.2.1) = .ok w
  rw [h]
  rfl

/-! ## Function by function -/

theorem CallsWindow.tryConnect {b : Bool} (h : c.tryConnect g = .ok (b, c')) :
    CallsWindow c c' := by
  unfold TcpController.tryConnect at h
  split at h
  · cases h
    exact .refl c
  · obtain ⟨⟨sent, w⟩, hsent, h⟩ := bind_eq_ok.mp h
    cases sent with
    | false =>
      cases h
      exact .refl c
    | true =>
      cases h
      exact .sendPacket hsent rfl

theorem CallsWindow.handleSYN (h : c.handleSYN g pkt = .ok c') : CallsWindow c c' := by
  obtain ⟨⟨ackNum, chain, rw⟩, -, h⟩ := bind_eq_ok.mp h
  simp only at h
  split at h
  · cases h
  · split at h
    · cases h
      exact .resendBase { c with recvWindow := rw }
    · obtain ⟨⟨sent, w⟩, hsent, h⟩ := bind_eq_ok.mp h
      cases sent with
      | false =>
        cases h
        exact .of_eq rfl
      | true =>
        cases h
        exact .sendPacket hsent rfl

theorem CallsWindow.handleACKSYN (h : c.handleACKSYN g pkt = .ok (g', c')) :
    CallsWindow c c' := by
  unfold TcpController.handleACKSYN at h
  split at h
  · obtain ⟨⟨g₁, c₁⟩, hconn, h⟩ := bind_eq_ok.mp h
    obtain ⟨⟨res, w, g₂⟩, hack, hconn⟩ := bind_eq_ok.mp hconn
    cases hconn
    cases h
    -- the number is acknowledged, then the peer's window size is set
    have hacked : CallsWindow c { c with sendWindow := w } := .newAckedPacket hack rfl
    exact hacked.trans (.setCapacity rfl)
  · cases h
    exact .of_eq rfl

theorem CallsWindow.handleACKWindow {b : Bool} (h : c.handleACKWindow g pkt = .ok (b, g', c')) :
    CallsWindow c c' := by
  obtain ⟨⟨res, w, g₁⟩, hack, h⟩ := bind_eq_ok.mp h
  have hacked : CallsWindow c { c with sendWindow := w } := .newAckedPacket hack rfl
  simp only at h
  split at h
  · cases h
    exact (hacked.trans (.resendBase _)).trans (.setCapacity rfl)
  · cases h
    exact hacked.trans (.setCapacity rfl)

theorem CallsWindow.handleACKState (c : TcpController) (b : Bool) :
    CallsWindow c (c.handleACKState b) := by
  obtain ⟨st, t₁, t₂, k, s, hst⟩ := c.handleACKState_frame b
  rw [hst]
  exact .of_eq rfl

theorem CallsWindow.receiveAndAck (h : c.receiveAndAck pkt = .ok c') : CallsWindow c c' :=
  .of_eq (receiveAndAck_takes h).sendWindow

/-- The handlers, one for each kind of packet. -/
theorem CallsWindow.handlePacket (h : c.handlePacket g pkt = .ok (g', c')) :
    CallsWindow c c' := by
  unfold TcpController.handlePacket at h
  split at h
  · obtain ⟨c₁, h₁, heq⟩ := map_eq_ok.mp h
    cases heq
    exact .handleSYN h₁
  · exact .handleACKSYN h
  · obtain ⟨c₁, h₁, heq⟩ := map_eq_ok.mp h
    cases heq
    obtain ⟨st, k, hf⟩ := c.handleFINState_frame
    have hstate : CallsWindow c c.handleFINState := by
      rw [hf]
      exact .of_eq rfl
    exact hstate.trans (.receiveAndAck h₁)
  · obtain ⟨⟨b, g₁, c₁⟩, hwin, h⟩ := bind_eq_ok.mp h
    cases h
    exact (CallsWindow.handleACKWindow hwin).trans (.handleACKState c₁ b)
  · cases h
    exact .of_eq rfl
  · obtain ⟨c₁, h₁, heq⟩ := map_eq_ok.mp h
    cases heq
    unfold handleDataPacket at h₁
    split at h₁
    · cases h₁
      exact .of_eq rfl
    · exact .receiveAndAck h₁

theorem CallsWindow.sendDataPacket {size : UInt32} {r : Bool}
    (h : c.sendDataPacket clock size r = .ok c') : CallsWindow c c' := by
  unfold TcpController.sendDataPacket at h
  generalize c.makeDataPacketFromBuffer c.sendWindow.nextSeqNumberToSend c.sendBuffer size = pb at h
  obtain ⟨p, b⟩ := pb
  obtain ⟨⟨sent, w⟩, hsent, h⟩ := bind_eq_ok.mp h
  cases sent with
  | false =>
    cases h
    exact .of_eq rfl
  | true =>
    cases h
    exact .sendPacket hsent rfl

/-- Induction on the number of packets. -/
theorem CallsWindow.sendFullPackets {n : ℕ} (h : sendFullPackets clock n c = .ok c') :
    CallsWindow c c' := by
  induction n generalizing c with
  | zero =>
    cases h
    exact .refl _
  | succ n ih =>
    obtain ⟨c₁, h₁, h⟩ := bind_eq_ok.mp h
    exact (CallsWindow.sendDataPacket h₁).trans (ih h)

theorem CallsWindow.sendBufferListenerLoop (h : c.sendBufferListenerLoop clock = .ok c') :
    CallsWindow c c' := by
  unfold TcpController.sendBufferListenerLoop at h
  split at h
  · cases h
    exact .refl c
  · unfold sendBufferListenerBody at h
    split at h
    · cases h
      exact .refl c
    · split at h
      · cases h
        exact .of_eq rfl
      · obtain ⟨c₁, h₁, h⟩ := bind_eq_ok.mp h
        refine (CallsWindow.sendFullPackets h₁).trans ?_
        split at h
        · exact .sendDataPacket h
        · cases h
          exact .refl _

theorem CallsWindow.sendBufferListener (h : c.sendBufferListener clock = .ok c') :
    CallsWindow c c' := by
  unfold TcpController.sendBufferListener at h
  split at h
  · cases h
    exact .refl c
  · have hpassed : CallsWindow c { c with sending := true } := .of_eq rfl
    exact hpassed.trans (.sendBufferListenerLoop h)

theorem CallsWindow.timeoutReTransmitter (c : TcpController) :
    CallsWindow c c.timeoutReTransmitter := by
  unfold TcpController.timeoutReTransmitter
  simp only
  split
  · exact (CallsWindow.resendBase c).trans (.of_eq rfl)
  · exact .of_eq rfl

theorem CallsWindow.probeWindowSize (c : TcpController) : CallsWindow c c.probeWindowSize := by
  unfold TcpController.probeWindowSize
  split
  · exact .of_eq rfl
  · exact .refl c

/-- The room is made first, then the FIN is registered. -/
theorem CallsWindow.sendFINWindow {p : Packet} (h : c.sendFINWindow clock = .ok (p, c')) :
    CallsWindow c c' := by
  obtain ⟨⟨sent, w⟩, hsent, h⟩ := bind_eq_ok.mp h
  cases sent with
  | false => cases h
  | true =>
    cases h
    have hroom : CallsWindow c
        { c with sendWindow := c.sendWindow.setCapacity (c.sendWindow.size + 1) } := .setCapacity rfl
    exact hroom.trans (.sendPacket hsent rfl)

theorem CallsWindow.sendFINState (c : TcpController) (p : Packet) :
    CallsWindow c (c.sendFINState p) := by
  unfold TcpController.sendFINState
  split <;> exact .of_eq rfl

theorem CallsWindow.sendFIN (h : c.sendFIN clock = .ok c') : CallsWindow c c' := by
  unfold TcpController.sendFIN at h
  split at h
  · cases h
    exact .refl c
  · obtain ⟨⟨p, c₁⟩, hwin, h⟩ := bind_eq_ok.mp h
    cases h
    exact (CallsWindow.sendFINWindow hwin).trans (.sendFINState c₁ p)

end TcpController

open TcpController

/-- The actions of an endpoint. -/
theorem Endpoint.step_callsWindow {e e' : Endpoint} {g g' : Globals} {a : Action}
    (h : e.step g a = .ok (g', e')) : CallsWindow e.con e'.con := by
  cases a with
  | writeData buf =>
    cases h
    obtain ⟨b, l, hw, -⟩ := e.writeData_frame buf
    rw [hw]
    exact .of_eq rfl
  | readData size =>
    obtain ⟨e₁, h₁, heq⟩ := map_eq_ok.mp h
    cases heq
    obtain ⟨b, ps, r, rfl, -⟩ := readData_frame h₁
    exact .of_eq rfl
  | shutDown =>
    cases h
    show CallsWindow e.con e.shutDownSocket.con
    unfold Endpoint.shutDownSocket
    split <;> exact .refl _
  | close =>
    cases h
    show CallsWindow e.con e.closeSocket.con
    unfold Endpoint.closeSocket
    split <;> exact .refl _
  | sendFIN =>
    obtain ⟨e₁, h₁, heq⟩ := map_eq_ok.mp h
    cases heq
    unfold Endpoint.runSendFIN at h₁
    split at h₁
    · cases h₁
      exact .refl _
    · obtain ⟨c, hc, h₁⟩ := bind_eq_ok.mp h₁
      cases h₁
      exact .sendFIN hc
  | sendBufferListener =>
    obtain ⟨c, hc, heq⟩ := map_eq_ok.mp h
    cases heq
    exact .sendBufferListener hc
  | receiveBufferListener =>
    cases h
    obtain ⟨b, o, hb, -⟩ := e.con.receiveBufferListener_frame
    rw [hb]
    exact .of_eq rfl
  | timeoutReTransmitter =>
    cases h
    exact .timeoutReTransmitter _
  | probeWindowSize =>
    cases h
    exact .probeWindowSize _
  | handlePacket =>
    simp only [Endpoint.step, Endpoint.handleNext] at h
    split at h
    · cases h
      exact .refl _
    · obtain ⟨⟨g₁, c⟩, hc, h⟩ := bind_eq_ok.mp h
      cases h
      have hhandle := CallsWindow.handlePacket hc
      exact (CallsWindow.of_eq rfl).trans hhandle

namespace Racing

/-- **Every section uses the send window only through its calls.** -/
theorem step_callsWindow {s s' : Racing} {i : Section} (h : s.step i = .ok s') :
    CallsWindow s.endpoint.con s'.endpoint.con := by
  cases i with
  | ackWindow =>
    -- a section does nothing unless its thread is where the section starts
    simp only [step] at h
    split at h
    · split at h
      · obtain ⟨⟨b, g, c⟩, hwin, h⟩ := bind_eq_ok.mp h
        cases h
        have hack := CallsWindow.handleACKWindow hwin
        exact (CallsWindow.of_eq rfl).trans hack
      · cases h
        exact .refl _
    · cases h
      exact .refl _
  | ackState =>
    simp only [step] at h
    split at h
    · cases h
      exact .handleACKState _ _
    · cases h
      exact .refl _
  | finWindow thread =>
    simp only [step] at h
    split at h
    · cases h
      exact .refl _
    · split at h
      · cases h
        exact .refl _
      · obtain ⟨⟨p, c⟩, hwin, h⟩ := bind_eq_ok.mp h
        cases h
        exact .sendFINWindow hwin
  | finState thread =>
    simp only [step] at h
    split at h
    · cases h
      exact .sendFINState _ _
    · cases h
      exact .refl _
  | rstClear =>
    simp only [step] at h
    split at h
    · cases h
      exact .refl _
    · cases h
      exact .of_eq rfl
  | rstState =>
    simp only [step] at h
    split at h
    · cases h
      exact .of_eq rfl
    · cases h
      exact .refl _
  | closeAndDelete =>
    simp only [step] at h
    split at h
    · cases h
      exact .of_eq rfl
    · cases h
      exact .refl _
  | handleOther =>
    simp only [step] at h
    split at h
    · split at h
      · cases h
        exact .refl _
      · obtain ⟨⟨g, e⟩, he, h⟩ := bind_eq_ok.mp h
        cases h
        exact Endpoint.step_callsWindow (a := .handlePacket) he
    · cases h
      exact .refl _
  | act a =>
    simp only [step] at h
    split at h
    · cases h
      exact .refl _
    · obtain ⟨⟨g, e⟩, he, h⟩ := bind_eq_ok.mp h
      cases h
      exact Endpoint.step_callsWindow he
  | receive pkt =>
    cases h
    exact .of_eq rfl
  | transmit =>
    cases h
    exact .of_eq rfl
  | environment g =>
    cases h
    exact .refl _

/-- The send window of a reachable controller satisfies its invariant. -/
theorem valid_run {s₀ s : Racing} {is : List Section} (hstart : s₀.Start)
    (hrun : run Racing.step s₀ is = .ok s) : s.endpoint.con.sendWindow.Valid := by
  refine run_induction Racing.step (P := fun s => s.endpoint.con.sendWindow.Valid)
    (fun _ _ _ h hstep => (step_callsWindow hstep).valid h) ?_ hrun
  obtain ⟨t, ht, rfl⟩ := hstart
  cases ht with
  | server g key options => exact .new _ _
  | client g key options hconn => exact (CallsWindow.tryConnect hconn).valid (.new _ _)

end Racing

/-! ## The error return -/

namespace TcpController

variable {c c' : TcpController} {clock : ℕ}

/-- Nothing keeps the window section of `SendFIN` from registering the FIN: there is room for one
sequence number, or the capacity has wrapped to 0 and no room is needed. -/
theorem sendFINWindow_registers (hv : c.sendWindow.Valid) (clock : ℕ) :
    ∃ p c₁, c.sendFINWindow clock = .ok (p, c₁) := by
  set w := c.sendWindow.setCapacity (c.sendWindow.size + 1) with hw
  have hvalid : w.Valid := ⟨hv.endToEnd, hv.size⟩
  have hroom : ¬ (w.freeSpace < (c.makeFinPacket w.nextSeqNumberToSend).payloadSize ∧
      w.capacity > 0) := by
    rintro ⟨hfree, hcap⟩
    have hfree' : w.freeSpace < 1 := hfree
    have hlt : w.size < w.capacity := by
      show c.sendWindow.size < c.sendWindow.size + 1
      have hpos : 0 < (c.sendWindow.size + 1).toNat := UInt32.lt_iff_toNat_lt.mp hcap
      rw [UInt32.toNat_add, UInt32.toNat_one] at hpos
      rw [UInt32.lt_iff_toNat_lt, UInt32.toNat_add, UInt32.toNat_one]
      have := c.sendWindow.size.toNat_lt
      omega
    have hone : w.capacity - w.size = 1 := by
      show c.sendWindow.size + 1 - c.sendWindow.size = 1
      grind
    rw [SendWindow.freeSpace, if_pos hlt, hone] at hfree'
    exact UInt32.lt_irrefl _ hfree'
  have hsent := hvalid.sendPacket_next clock (p := c.makeFinPacket w.nextSeqNumberToSend) rfl hroom
  have hrun : c.sendFINWindow clock = .ok (c.makeFinPacket w.nextSeqNumberToSend,
      { c with sendWindow := w.enqueue clock (c.makeFinPacket w.nextSeqNumberToSend) }) := by
    unfold sendFINWindow
    simp only [← hw]
    rw [hsent]
    rfl
  exact ⟨_, _, hrun⟩

/-- Between two controllers neither the send window, nor a timer, nor the state has changed. -/
def SameSender (c c' : TcpController) : Prop :=
  c'.sendWindow = c.sendWindow ∧ c'.timer = c.timer ∧ c'.synTimer = c.synTimer ∧
    c'.finTimer = c.finTimer ∧ c'.closeTimer = c.closeTimer ∧ c'.proberTimer = c.proberTimer ∧
    c'.killArmed = c.killArmed ∧ c'.state = c.state

/-- The window section makes the queue longer by its FIN. -/
theorem not_sameSender_sendFINWindow {p : Packet} (h : c.sendFINWindow clock = .ok (p, c')) :
    ¬ SameSender c c' := by
  obtain ⟨-, w, watch, rfl, hq⟩ := sendFINWindow_frame h
  intro hsame
  have hqueue : w.pktsToAck = c.sendWindow.pktsToAck := congrArg SendWindow.pktsToAck hsame.1
  rw [hqueue] at hq
  simp at hq

end TcpController

/-! ## A call in a run -/

namespace Racing

/-- A section of the `SendFIN` of a thread. -/
def OfSendFIN (thread : ℕ) (i : Section) : Prop := i = .finWindow thread ∨ i = .finState thread

instance (thread : ℕ) (i : Section) : Decidable (OfSendFIN thread i) :=
  inferInstanceAs (Decidable (_ ∨ _))

variable {s s' s₁ s₂ s₃ : Racing} {i : Section} {thread : ℕ}

/-- **No other section touches the FIN that a thread has under way.** -/
theorem step_midFin (hi : ¬ OfSendFIN thread i) (h : s.step i = .ok s') :
    s'.midFin thread = s.midFin thread := by
  cases i with
  | finWindow t =>
    have hne : thread ≠ t := fun heq => hi (Or.inl (by rw [heq]))
    simp only [step] at h
    split at h
    · cases h
      rfl
    · split at h
      · cases h
        rfl
      · obtain ⟨⟨p, c⟩, -, h⟩ := bind_eq_ok.mp h
        cases h
        exact Function.update_of_ne hne _ _
  | finState t =>
    have hne : thread ≠ t := fun heq => hi (Or.inr (by rw [heq]))
    simp only [step] at h
    split at h
    · cases h
      exact Function.update_of_ne hne _ _
    · cases h
      rfl
  | ackWindow =>
    simp only [step] at h
    split at h
    · split at h
      · obtain ⟨r, -, h⟩ := bind_eq_ok.mp h
        cases h
        rfl
      · cases h
        rfl
    · cases h
      rfl
  | handleOther =>
    simp only [step] at h
    split at h
    · split at h
      · cases h
        rfl
      · obtain ⟨r, -, h⟩ := bind_eq_ok.mp h
        cases h
        rfl
    · cases h
      rfl
  | act a =>
    simp only [step] at h
    split at h
    · cases h
      rfl
    · obtain ⟨r, -, h⟩ := bind_eq_ok.mp h
      cases h
      rfl
  | ackState | rstClear | rstState | closeAndDelete =>
    simp only [step] at h
    split at h
    · cases h
      rfl
    · cases h
      rfl
  | receive pkt | transmit | environment g =>
    cases h
    rfl

/-- Nor does a run of the other threads. -/
theorem run_midFin {is : List Section} (hothers : ∀ i ∈ is, ¬ OfSendFIN thread i)
    (h : run step s is = .ok s') : s'.midFin thread = s.midFin thread := by
  induction is generalizing s with
  | nil =>
    cases h
    rfl
  | cons i is ih =>
    obtain ⟨s₁, h₁, h⟩ := bind_eq_ok.mp h
    rw [ih (fun j hj => hothers j (List.mem_cons_of_mem _ hj)) h]
    exact step_midFin (hothers i List.mem_cons_self) h₁

/-- A thread of the pool may run its `SendFIN` task: the send buffer is empty, or the controller
shut down. -/
def FinReady (s : Racing) (thread : ℕ) : Prop :=
  s.midFin thread = none ∧ s.endpoint.finTasks ≠ 0 ∧ s.endpoint.con.sendFINWait = true

instance (s : Racing) (thread : ℕ) : Decidable (FinReady s thread) :=
  inferInstanceAs (Decidable (_ ∧ _ ∧ _))

theorem step_finWindow (h : s.FinReady thread) :
    s.step (.finWindow thread) =
      if s.endpoint.con.shutdown then
        .ok { s with endpoint := { s.endpoint with finTasks := s.endpoint.finTasks - 1 } }
      else s.endpoint.con.sendFINWindow s.globals.clock >>= fun (finPkt, con) => .ok { s with
        endpoint := { s.endpoint with con, finTasks := s.endpoint.finTasks - 1 }
        midFin := Function.update s.midFin thread (some finPkt) } := by
  have hready : ¬ (s.midFin thread ≠ none || s.endpoint.finTasks = 0 ||
      !s.endpoint.con.sendFINWait) = true := by
    simp [h.1, h.2.1, h.2.2]
  exact if_neg hready

/-- The state section finds a FIN under way and a state that does not allow one: the return behind
"Can't send FIN at TCP state %s". -/
def FinRefused (s₂ : Racing) (thread : ℕ) : Prop :=
  s₂.midFin thread ≠ none ∧ s₂.endpoint.con.state ≠ .established ∧
    s₂.endpoint.con.state ≠ .closeWait

instance (s₂ : Racing) (thread : ℕ) : Decidable (FinRefused s₂ thread) :=
  inferInstanceAs (Decidable (_ ∧ _ ∧ _))

/-- A refused `SendFIN` has changed nothing, neither in its window section, from `s` to `s₁`, nor
in its state section, from `s₂` to `s₃`. -/
def RefusalHarmless (thread : ℕ) (s s₁ s₂ s₃ : Racing) : Prop :=
  s₂.FinRefused thread →
    SameSender s.endpoint.con s₁.endpoint.con ∧ SameSender s₂.endpoint.con s₃.endpoint.con

/-- The state section never fails. -/
theorem step_finState (s₂ : Racing) (thread : ℕ) : ∃ s₃, s₂.step (.finState thread) = .ok s₃ := by
  simp only [step]
  split
  · exact ⟨_, rfl⟩
  · exact ⟨_, rfl⟩

end Racing

/-- **When a refused `SendFIN` changes nothing.** In every run, with the sections of several
`SendFIN`s, of `HandleACK` and of the other tasks in any order: a `SendFIN` that may start always
gets through both of its sections, and whatever the other threads do between them, it keeps its
promise exactly if the controller was shut down at the first, or is in ESTABLISHED or CLOSE_WAIT at
the second, so that the error return is not taken at all. Where it is taken, the FIN has been
registered. -/
theorem refused_fin_unchanged {s₀ s : Racing} {is : List Section} (hstart : s₀.Start)
    (hrun : run Racing.step s₀ is = .ok s) {thread : ℕ} (hready : s.FinReady thread) :
    ∃ s₁, s.step (.finWindow thread) = .ok s₁ ∧
      ∀ js s₂, (∀ i ∈ js, ¬ Racing.OfSendFIN thread i) → run Racing.step s₁ js = .ok s₂ →
        ∃ s₃, s₂.step (.finState thread) = .ok s₃ ∧
          (Racing.RefusalHarmless thread s s₁ s₂ s₃ ↔ s.endpoint.con.shutdown = true ∨
            s₂.endpoint.con.state = .established ∨ s₂.endpoint.con.state = .closeWait) := by
  have hstep := Racing.step_finWindow hready
  cases hdown : s.endpoint.con.shutdown with
  | true =>
    -- the task returns at once, and no FIN is under way
    rw [if_pos hdown] at hstep
    refine ⟨_, hstep, fun js s₂ hothers hjs => ?_⟩
    obtain ⟨s₃, h₃⟩ := s₂.step_finState thread
    have hmid : s₂.midFin thread = none := (Racing.run_midFin hothers hjs).trans hready.1
    refine ⟨s₃, h₃, fun _ => Or.inl rfl, fun _ hrefused => ?_⟩
    exact absurd hmid hrefused.1
  | false =>
    -- the window section never fails and registers the FIN in every state
    obtain ⟨p, c, hwin⟩ := sendFINWindow_registers (Racing.valid_run hstart hrun) s.globals.clock
    rw [if_neg (by simp [hdown]), hwin, ok_bind] at hstep
    refine ⟨_, hstep, fun js s₂ hothers hjs => ?_⟩
    obtain ⟨s₃, h₃⟩ := s₂.step_finState thread
    have hmid : s₂.midFin thread = some p := by
      rw [Racing.run_midFin hothers hjs]
      exact Function.update_self ..
    refine ⟨s₃, h₃, fun hharmless => ?_, fun hallowed hrefused => ?_⟩
    · by_contra hno
      simp only [not_or] at hno
      have hrefused : s₂.FinRefused thread := ⟨by simp [hmid], hno.2.1, hno.2.2⟩
      exact not_sameSender_sendFINWindow hwin (hharmless hrefused).1
    · rcases hallowed with h | h | h
      · cases h
      · exact absurd h hrefused.2.1
      · exact absurd h hrefused.2.2

end

section

open scoped Reference

/-- Three bytes are sent, and the application closes the connection. -/
def closeSent : List Section := sendThree ++ [.act .close]

/-- The acknowledgement of the bytes, handled between the two sections of `SendFIN`. -/
def ackBetween : List Section :=
  [.receive (signal { ack := true, ackNum := 4, windowSize := 100 }), .ackWindow, .ackState]

/-- A byte of the peer arrives instead, and the connection is reset. -/
def resetBetween : List Section :=
  [.receive { signal { seqNum := 1 } with payload := [7], payloadSize := 1 }, .handleOther,
    .rstClear, .rstState]

/-- A run up to the window section of `SendFIN`, and the sections up to its state section. -/
def betweenSections (is js : List Section) : Except Fatal (Racing × Racing × Racing) := do
  let s ← run Racing.step (.ofSolo newSolo) is
  let s₁ ← s.step (.finWindow 0)
  let s₂ ← run Racing.step s₁ js
  .ok (s, s₁, s₂)

theorem betweenSections_runs {is js : List Section} {s s₁ s₂ : Racing}
    (h : betweenSections is js = .ok (s, s₁, s₂)) :
    run Racing.step (.ofSolo newSolo) is = .ok s ∧ s.step (.finWindow 0) = .ok s₁ ∧
      run Racing.step s₁ js = .ok s₂ := by
  obtain ⟨t, ht, h⟩ := bind_eq_ok.mp h
  obtain ⟨t₁, ht₁, h⟩ := bind_eq_ok.mp h
  obtain ⟨t₂, ht₂, h⟩ := bind_eq_ok.mp h
  cases h
  exact ⟨ht, ht₁, ht₂⟩

theorem refused_fin_unchanged_closeSent :
    ∃ s s₁ s₂ s₂' s₃ s₃', run Racing.step (.ofSolo newSolo) closeSent = .ok s ∧
      s.endpoint.con.state = .established ∧ s.step (.finWindow 0) = .ok s₁ ∧
      run Racing.step s₁ ackBetween = .ok s₂ ∧ s₂.step (.finState 0) = .ok s₃ ∧
      Racing.RefusalHarmless 0 s s₁ s₂ s₃ ∧
      run Racing.step s₁ resetBetween = .ok s₂' ∧ s₂'.step (.finState 0) = .ok s₃' ∧
      ¬ Racing.RefusalHarmless 0 s s₁ s₂' s₃' := by
  have hack : (betweenSections closeSent ackBetween).map (fun r =>
      (decide (r.1.FinReady 0), r.1.endpoint.con.shutdown, r.1.endpoint.con.state,
        r.2.2.endpoint.con.state)) = .ok (true, false, .established, .established) := by
    decide +kernel
  have hreset : (betweenSections closeSent resetBetween).map (fun r =>
      r.2.2.endpoint.con.state) = .ok .closed := by
    decide +kernel
  obtain ⟨⟨s, s₁, s₂⟩, h, heq⟩ := map_eq_ok.mp hack
  obtain ⟨⟨t, t₁, s₂'⟩, h', hclosed⟩ := map_eq_ok.mp hreset
  simp only [Prod.mk.injEq, decide_eq_true_eq] at heq
  obtain ⟨hready, hdown, hest, hest₂⟩ := heq
  replace hclosed : s₂'.endpoint.con.state = .closed := hclosed
  obtain ⟨hs, hs₁, hs₂⟩ := betweenSections_runs h
  obtain ⟨ht, ht₁, hs₂'⟩ := betweenSections_runs h'
  -- both runs are the same up to the window section
  cases hs.symm.trans ht
  cases hs₁.symm.trans ht₁
  obtain ⟨r₁, hr₁, hcall⟩ := refused_fin_unchanged ⟨newSolo, .server _ _ _, rfl⟩ hs hready
  cases hs₁.symm.trans hr₁
  obtain ⟨s₃, hs₃, hiff⟩ := hcall ackBetween s₂ (by decide) hs₂
  obtain ⟨s₃', hs₃', hiff'⟩ := hcall resetBetween s₂' (by decide) hs₂'
  refine ⟨s, s₁, s₂, s₂', s₃, s₃', hs, hest, hs₁, hs₂, hs₃, hiff.mpr (Or.inr (Or.inl hest₂)),
    hs₂', hs₃', fun hharmless => ?_⟩
  have hallowed := hiff'.mp hharmless
  simp [hdown, hclosed] at hallowed

/-- A connection is accepted and closed before the ACK of its SYN-ACK arrives. -/
def closedEarly : List Section :=
  [.receive (signal { sync := true }), .handleOther, .act .close]

/-- The `SendFIN` task of the closed connection runs in SYN_RCVD, with nothing in between: it is
refused, and its FIN is in the window behind the SYN-ACK. -/
theorem not_refused_fin_unchanged : ¬ ∀ (s₀ s s₁ s₂ s₃ : Racing) (is js : List Section)
    (thread : ℕ), s₀.Start → run Racing.step s₀ is = .ok s → s.FinReady thread →
    s.endpoint.con.sendBuffer.empty = true → s.step (.finWindow thread) = .ok s₁ →
    (∀ i ∈ js, ¬ Racing.OfSendFIN thread i) → run Racing.step s₁ js = .ok s₂ →
    s₂.step (.finState thread) = .ok s₃ → Racing.RefusalHarmless thread s s₁ s₂ s₃ := by
  intro h
  have hrun : (betweenSections closedEarly []).map (fun r =>
      (decide (r.1.FinReady 0), r.1.endpoint.con.sendBuffer.empty,
        r.1.endpoint.con.sendWindow.pktsToAck.length,
        r.2.1.endpoint.con.sendWindow.pktsToAck.length, decide (r.2.2.FinRefused 0))) =
      .ok (true, true, 1, 2, true) := by decide +kernel
  obtain ⟨⟨s, s₁, s₂⟩, hr, heq⟩ := map_eq_ok.mp hrun
  simp only [Prod.mk.injEq, decide_eq_true_eq] at heq
  obtain ⟨hready, hbuf, hlen, hlen₁, hrefused⟩ := heq
  obtain ⟨hs, hs₁, hs₂⟩ := betweenSections_runs hr
  obtain ⟨s₃, hs₃⟩ := s₂.step_finState 0
  have hsame := h _ s s₁ s₂ s₃ closedEarly [] 0 ⟨newSolo, .server _ _ _, rfl⟩ hs hready hbuf hs₁
    (by simp) hs₂ hs₃ hrefused
  rw [hsame.1.1, hlen] at hlen₁
  cases hlen₁

end

end NetStack
