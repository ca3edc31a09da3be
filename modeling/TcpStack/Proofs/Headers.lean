import TcpStack.Proofs.Frames
import TcpStack.Proofs.PacketPath

/-!
# TcpStack — the headers of a controller

The host routes a packet by its addresses and ports alone. Every packet that a controller makes
takes them from its key, and what it sends again is a copy of what it made.

* **`Addressed`** — all packets that the controller holds for sending go to its peer.
* **`Endpoint.addressed_step`** — every step of an endpoint keeps it.
-/

namespace NetStack

open Transition

variable [HyLib]

/-- What waits to be sent, or to be acknowledged, is routed to the other end of `key`. -/
structure TcpController.Addressed (key : TcpControllerKey) (c : TcpController) : Prop where
  owner : c.key = key
  sent : ∀ p ∈ c.pktSendBuffer, p.tcpKey = key.wire
  queue : ∀ node ∈ c.sendWindow.pktsToAck, node.pkt.tcpKey = key.wire

namespace TcpController

variable {key : TcpControllerKey} {c c' : TcpController} {g g' : Globals} {pkt p : Packet}

/-! ## The packets -/

theorem tcpKey_makeDataPacketFromBuffer (c : TcpController) (seqNum : UInt32) (b : RingBuffer)
    (size : UInt32) : (c.makeDataPacketFromBuffer seqNum b size).1.tcpKey = c.key.wire := by
  unfold makeDataPacketFromBuffer Packet.injectPayloadFromBuffer
  split
  · rfl
  · rfl

theorem tcpKey_makeDataPacket (c : TcpController) (seqNum : UInt32) (data : List UInt8)
    (size : Int32) : (c.makeDataPacket seqNum data size).tcpKey = c.key.wire := by
  rw [← (c.stamp_makePacket seqNum data size).1, Packet.tcpKey_stamp]

/-! ## Sections -/

namespace Addressed

/-- Everything but the key, the send queue and the send window is free to change. -/
theorem congr (h : c.Addressed key) (hkey : c'.key = c.key)
    (hsent : c'.pktSendBuffer = c.pktSendBuffer)
    (hqueue : c'.sendWindow.pktsToAck ⊆ c.sendWindow.pktsToAck) : c'.Addressed key where
  owner := hkey.trans h.owner
  sent := by
    rw [hsent]
    exact h.sent
  queue node hn := h.queue node (hqueue hn)

theorem sendPacket (h : c.Addressed key) (hp : p.tcpKey = key.wire) :
    (c.sendPacket (some p)).Addressed key where
  owner := h.owner
  sent q hq := by
    rcases List.mem_append.mp hq with hq | hq
    · exact h.sent q hq
    · rw [List.mem_singleton.mp hq]
      exact hp
  queue := h.queue

/-- A packet of the controller is registered, unless the window refuses it. -/
theorem registered (h : c.Addressed key) {w : SendWindow} {clock : ℕ} {sent : Bool}
    (hp : p.tcpKey = key.wire) (hw : c.sendWindow.sendPacket clock p = .ok (sent, w)) :
    { c with sendWindow := w }.Addressed key := by
  rcases SendWindow.sendPacket_cases hw with ⟨-, rfl⟩ | ⟨-, rfl⟩
  · exact h
  · refine ⟨h.owner, h.sent, fun node hn => ?_⟩
    rcases List.mem_append.mp hn with hn | hn
    · exact h.queue node hn
    · rw [List.mem_singleton.mp hn]
      exact hp

/-- A packet is registered and its copy sent. -/
theorem transmit (h : c.Addressed key) {w : SendWindow} {clock : ℕ} {sent : Bool}
    (hp : p.tcpKey = key.wire) (hw : c.sendWindow.sendPacket clock p = .ok (sent, w)) :
    ({ c with sendWindow := w }.sendPacket (some p.copy)).Addressed key := by
  apply (h.registered hp hw).sendPacket
  rw [Packet.tcpKey_copy]
  exact hp

/-- What is sent again is a copy of a packet that was sent. -/
theorem copies (h : c.Addressed key) {ps : List Packet}
    (hps : ∀ q ∈ ps, ∃ node ∈ c.sendWindow.pktsToAck, q = node.pkt.copy) :
    ∀ q ∈ c.pktSendBuffer ++ ps, q.tcpKey = key.wire := by
  intro q hq
  rcases List.mem_append.mp hq with hq | hq
  · exact h.sent q hq
  · obtain ⟨node, hn, rfl⟩ := hps q hq
    rw [Packet.tcpKey_copy]
    exact h.queue node hn

theorem resendBase (h : c.Addressed key) : c.resendBase.Addressed key := by
  obtain ⟨b, ps, hre, hps⟩ := c.resendBase_frame
  rw [hre]
  exact ⟨h.owner, h.copies hps, h.queue⟩

theorem sendAck (h : c.Addressed key) (ackNum : UInt32) :
    (c.sendPacket (some (c.makeAckPacket ackNum))).Addressed key := by
  apply h.sendPacket
  rw [← h.owner]
  rfl

/-! ## Handlers -/

theorem tryConnect (h : c.Addressed key) {b : Bool} (hrun : c.tryConnect g = .ok (b, c')) :
    c'.Addressed key := by
  have hkey : (c.makeSyncPacket c.sendWindow.sendBase).tcpKey = key.wire := by
    rw [← h.owner]
    rfl
  unfold TcpController.tryConnect at hrun
  split at hrun
  · cases hrun
    exact h
  · obtain ⟨⟨sent, w⟩, hw, hrun⟩ := bind_eq_ok.mp hrun
    cases sent with
    | false =>
      cases hrun
      exact h
    | true =>
      cases hrun
      exact (h.transmit hkey hw).congr rfl rfl (List.Subset.refl _)

theorem handleSYN (h : c.Addressed key) (hrun : c.handleSYN g pkt = .ok c') :
    c'.Addressed key := by
  obtain ⟨⟨ackNum, chain, r⟩, -, hrun⟩ := bind_eq_ok.mp hrun
  have hr : { c with recvWindow := r }.Addressed key := h.congr rfl rfl (List.Subset.refl _)
  simp only at hrun
  split at hrun
  · cases hrun
  · split at hrun
    · -- the SYN was seen before
      cases hrun
      exact hr.resendBase
    · obtain ⟨⟨sent, w⟩, hw, hrun⟩ := bind_eq_ok.mp hrun
      have hkey : (makeSyncAckPacket { c with recvWindow := r } 0 ackNum).tcpKey = key.wire := by
        rw [← h.owner]
        rfl
      cases sent with
      | false =>
        cases hrun
        exact hr
      | true =>
        cases hrun
        exact (hr.transmit hkey hw).congr rfl rfl (List.Subset.refl _)

theorem handleACKSYN (h : c.Addressed key) (hrun : c.handleACKSYN g pkt = .ok (g', c')) :
    c'.Addressed key := by
  have hfinish : ∀ c₁ : TcpController, c₁.Addressed key → ∀ r : RecvWindow, ∀ ackNum,
      ({ c₁ with recvWindow := r }.sendPacket
        (some (makeAckPacket { c₁ with recvWindow := r } ackNum))).Addressed key := by
    intro c₁ h₁ r ackNum
    have hr : { c₁ with recvWindow := r }.Addressed key := h₁.congr rfl rfl (List.Subset.refl _)
    exact hr.sendAck ackNum
  unfold TcpController.handleACKSYN at hrun
  split at hrun
  · obtain ⟨⟨g₁, c₁⟩, hconn, hrun⟩ := bind_eq_ok.mp hrun
    obtain ⟨⟨res, w, g₂⟩, hack, hconn⟩ := bind_eq_ok.mp hconn
    cases hconn
    cases hrun
    apply hfinish
    exact h.congr rfl rfl (SendWindow.newAckedPacket_suffix hack).1.subset
  · cases hrun
    exact hfinish c h _ _

theorem receiveAndAck (h : c.Addressed key) (hrun : c.receiveAndAck pkt = .ok c') :
    c'.Addressed key := by
  obtain ⟨⟨ackNum, chain, r⟩, -, hrun⟩ := bind_eq_ok.mp hrun
  obtain ⟨c₁, hstream, hrun⟩ := bind_eq_ok.mp hrun
  cases hrun
  obtain ⟨b, o, -, rfl⟩ := streamLoop_frame hstream
  apply sendAck
  exact h.congr rfl rfl (List.Subset.refl _)

theorem handleACK (h : c.Addressed key) (hrun : c.handleACK g pkt = .ok (g', c')) :
    c'.Addressed key := by
  obtain ⟨⟨b, g₁, c₁⟩, hwin, hrun⟩ := bind_eq_ok.mp hrun
  obtain ⟨res, w₀, w, t, pt, ps, hack, hw, -, hps, rfl⟩ := handleACKWindow_frame hwin
  have hsub : w.pktsToAck ⊆ c.sendWindow.pktsToAck := by
    rw [hw]
    exact (SendWindow.newAckedPacket_suffix hack).1.subset
  cases hrun
  obtain ⟨st, t₁, t₂, k, s, hst⟩ := handleACKState_frame { c with
    sendWindow := w, timer := t, proberTimer := pt, pktSendBuffer := c.pktSendBuffer ++ ps } b
  rw [hst]
  refine ⟨h.owner, h.copies fun q hq => ?_, fun node hn => h.queue node (hsub hn)⟩
  obtain ⟨node, hn, rfl⟩ := hps q hq
  exact ⟨node, hsub hn, rfl⟩

theorem handlePacket (h : c.Addressed key) (hrun : c.handlePacket g pkt = .ok (g', c')) :
    c'.Addressed key := by
  unfold TcpController.handlePacket at hrun
  split at hrun
  · obtain ⟨c₁, h₁, heq⟩ := map_eq_ok.mp hrun
    cases heq
    exact h.handleSYN h₁
  · exact h.handleACKSYN hrun
  · obtain ⟨c₁, h₁, heq⟩ := map_eq_ok.mp hrun
    cases heq
    obtain ⟨st, k, hst⟩ := c.handleFINState_frame
    rw [handleFIN, hst] at h₁
    refine receiveAndAck ?_ h₁
    exact h.congr rfl rfl (List.Subset.refl _)
  · exact h.handleACK hrun
  · cases hrun
    exact h.congr rfl rfl (List.Subset.refl _)
  · obtain ⟨c₁, h₁, heq⟩ := map_eq_ok.mp hrun
    cases heq
    unfold handleDataPacket at h₁
    split at h₁
    · -- a window probe
      cases h₁
      exact h.sendAck _
    · exact h.receiveAndAck h₁

/-! ## The send pipeline -/

theorem sendDataPacket (h : c.Addressed key) {clock : ℕ} {size : UInt32} {r : Bool}
    (hrun : c.sendDataPacket clock size r = .ok c') : c'.Addressed key := by
  have hkey := c.tcpKey_makeDataPacketFromBuffer c.sendWindow.nextSeqNumberToSend c.sendBuffer size
  unfold TcpController.sendDataPacket at hrun
  generalize c.makeDataPacketFromBuffer c.sendWindow.nextSeqNumberToSend c.sendBuffer size = pb
    at hrun hkey
  obtain ⟨⟨sent, w⟩, hw, hrun⟩ := bind_eq_ok.mp hrun
  rw [h.owner] at hkey
  have hb : { c with sendBuffer := pb.2 }.Addressed key := h.congr rfl rfl (List.Subset.refl _)
  cases sent with
  | false =>
    cases hrun
    exact hb
  | true =>
    cases hrun
    exact (hb.transmit hkey hw).congr rfl rfl (List.Subset.refl _)

theorem sendFullPackets {clock numPkts : ℕ} (h : c.Addressed key)
    (hrun : sendFullPackets clock numPkts c = .ok c') : c'.Addressed key := by
  induction numPkts generalizing c with
  | zero =>
    cases hrun
    exact h
  | succ numPkts ih =>
    obtain ⟨c₁, h₁, hrun⟩ := bind_eq_ok.mp hrun
    exact ih (h.sendDataPacket h₁) hrun

theorem sendBufferListenerLoop {clock : ℕ} (h : c.Addressed key)
    (hrun : c.sendBufferListenerLoop clock = .ok c') : c'.Addressed key := by
  unfold TcpController.sendBufferListenerLoop at hrun
  split at hrun
  · cases hrun
    exact h
  · unfold sendBufferListenerBody at hrun
    split at hrun
    · cases hrun
      exact h
    · split at hrun
      · cases hrun
        exact h.congr rfl rfl (List.Subset.refl _)
      · obtain ⟨c₁, h₁, hrun⟩ := bind_eq_ok.mp hrun
        have hfull := h.sendFullPackets h₁
        split at hrun
        · exact hfull.sendDataPacket hrun
        · cases hrun
          exact hfull

theorem sendBufferListener {clock : ℕ} (h : c.Addressed key)
    (hrun : c.sendBufferListener clock = .ok c') : c'.Addressed key := by
  unfold TcpController.sendBufferListener at hrun
  split at hrun
  · cases hrun
    exact h
  · have hpassed : { c with sending := true }.Addressed key :=
      h.congr rfl rfl (List.Subset.refl _)
    exact hpassed.sendBufferListenerLoop hrun

theorem sendFIN {clock : ℕ} (h : c.Addressed key) (hrun : c.sendFIN clock = .ok c') :
    c'.Addressed key := by
  unfold TcpController.sendFIN at hrun
  split at hrun
  · cases hrun
    exact h
  · obtain ⟨⟨fin, c₁⟩, hwin, hrun⟩ := bind_eq_ok.mp hrun
    cases hrun
    obtain ⟨⟨sent, w⟩, hw, hwin⟩ := bind_eq_ok.mp hwin
    cases sent with
    | false => cases hwin
    | true =>
      cases hwin
      have hcap : { c with
          sendWindow := c.sendWindow.setCapacity (c.sendWindow.size + 1) }.Addressed key :=
        h.congr rfl rfl (List.Subset.refl _)
      have hkey : (c.makeFinPacket
          (c.sendWindow.setCapacity (c.sendWindow.size + 1)).nextSeqNumberToSend).tcpKey =
          key.wire := by
        rw [← h.owner]
        rfl
      unfold sendFINState
      split
      · exact (hcap.transmit hkey hw).congr rfl rfl (List.Subset.refl _)
      · exact (hcap.transmit hkey hw).congr rfl rfl (List.Subset.refl _)
      · exact hcap.registered hkey hw

theorem probeWindowSize (h : c.Addressed key) : c.probeWindowSize.Addressed key := by
  unfold TcpController.probeWindowSize
  split
  · apply h.sendPacket
    rw [Packet.tcpKey_copy, tcpKey_makeDataPacket, h.owner]
  · exact h

theorem timeoutReTransmitter (h : c.Addressed key) : c.timeoutReTransmitter.Addressed key := by
  unfold TcpController.timeoutReTransmitter
  split
  · exact h.resendBase.congr rfl rfl (List.Subset.refl _)
  · exact h.congr rfl rfl (List.Subset.refl _)

end Addressed

/-- A new controller holds no packets. -/
theorem addressed_new (key : TcpControllerKey) (options : TcpControllerOptions) :
    (TcpController.new key options).Addressed key where
  owner := rfl
  sent _ hp := absurd hp List.not_mem_nil
  queue _ hn := absurd hn List.not_mem_nil

end TcpController

namespace Endpoint

variable {key : TcpControllerKey} {e e' : Endpoint} {g g' : Globals}

/-- **What an endpoint sends goes to its peer, whatever it does.** -/
theorem addressed_step {a : Action} (h : e.con.Addressed key) (hrun : e.step g a = .ok (g', e')) :
    e'.con.Addressed key := by
  cases a with
  | writeData buf =>
    cases hrun
    obtain ⟨b, l, hw, -⟩ := e.writeData_frame buf
    rw [hw]
    exact h.congr rfl rfl (List.Subset.refl _)
  | readData size =>
    obtain ⟨e₁, h₁, heq⟩ := map_eq_ok.mp hrun
    cases heq
    obtain ⟨b, ps, r, rfl, -, -⟩ := readData_frame h₁
    exact h.congr rfl rfl (List.Subset.refl _)
  | shutDown =>
    cases hrun
    obtain ⟨b, k, hs, -⟩ := e.shutDownSocket_frame
    rw [hs]
    exact h
  | close =>
    cases hrun
    obtain ⟨b, k, hs, -⟩ := e.closeSocket_frame
    rw [hs]
    exact h
  | sendFIN =>
    obtain ⟨e₁, h₁, heq⟩ := map_eq_ok.mp hrun
    cases heq
    unfold runSendFIN at h₁
    split at h₁
    · cases h₁
      exact h
    · obtain ⟨c, hc, h₁⟩ := bind_eq_ok.mp h₁
      cases h₁
      exact h.sendFIN hc
  | sendBufferListener =>
    obtain ⟨c, h₁, heq⟩ := map_eq_ok.mp hrun
    cases heq
    exact h.sendBufferListener h₁
  | receiveBufferListener =>
    cases hrun
    obtain ⟨b, o, hb, -⟩ := e.con.receiveBufferListener_frame
    rw [hb]
    exact h.congr rfl rfl (List.Subset.refl _)
  | timeoutReTransmitter =>
    cases hrun
    exact h.timeoutReTransmitter
  | probeWindowSize =>
    cases hrun
    exact h.probeWindowSize
  | handlePacket =>
    replace hrun : e.handleNext g = .ok (g', e') := hrun
    unfold handleNext at hrun
    split at hrun
    · cases hrun
      exact h
    · obtain ⟨⟨g₁, c⟩, hc, hrun⟩ := bind_eq_ok.mp hrun
      cases hrun
      refine TcpController.Addressed.handlePacket ?_ hc
      exact h.congr rfl rfl (List.Subset.refl _)

end Endpoint

end NetStack
