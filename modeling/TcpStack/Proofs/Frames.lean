import TcpStack.Lib.Run
import TcpStack.Model.Network
import TcpStack.Proofs.SendWindow

/-!
# TcpStack — what each section of the controller can change

Frame lemmas: for each function of the controller, the fields it may write and what it says
about them. They hold for every controller and every packet, so that results about single
controllers need no assumption on the peer.

* **`streamLoop_frame`**, **`receiveAndAck_frame`** — the receive pipeline.
* **`handleACKWindow_frame`** — the window section of `HandleACK`.
* **`sendBufferListener_frame`**, **`sendFINWindow_frame`** — the send pipeline.
* **`Endpoint.step_quiet_plain`** — every action but the handling of a packet.
-/

namespace NetStack

open Transition

/-! ## Kinds of packets -/

/-- A FIN or a data packet: what a send window holds once the SYN is acknowledged. -/
def Packet.Plain (p : Packet) : Prop := p.kind = .fin ∨ p.kind = .data

theorem Packet.copy_tcpHeader (p : Packet) : p.copy.tcpHeader = p.tcpHeader := by
  unfold Packet.copy Packet.injectPayload
  split <;> rfl

theorem Packet.copy_kind (p : Packet) : p.copy.kind = p.kind := by
  simp only [Packet.kind, Packet.copy_tcpHeader]

theorem Packet.copy_payloadSize (p : Packet) : p.copy.payloadSize = p.payloadSize := by
  unfold Packet.copy Packet.injectPayload
  split
  · rfl
  · exact UInt32.toUInt32_toInt32 _

theorem Packet.sync_of_kind_syn {p : Packet} (h : p.kind = .syn) : p.tcpHeader.sync = true := by
  cases hs : p.tcpHeader.sync <;> cases ha : p.tcpHeader.ack <;>
    cases hf : p.tcpHeader.fin <;> cases hr : p.tcpHeader.rst <;>
    simp [Packet.kind, hs, ha, hf, hr] at h ⊢

theorem Packet.sync_of_kind_synAck {p : Packet} (h : p.kind = .synAck) :
    p.tcpHeader.sync = true ∧ p.tcpHeader.ack = true := by
  cases hs : p.tcpHeader.sync <;> cases ha : p.tcpHeader.ack <;>
    cases hf : p.tcpHeader.fin <;> cases hr : p.tcpHeader.rst <;>
    simp [Packet.kind, hs, ha, hf, hr] at h ⊢

theorem Packet.not_sync_of_kind {p : Packet} (h₁ : p.kind ≠ .syn) (h₂ : p.kind ≠ .synAck) :
    p.tcpHeader.sync = false := by
  cases hs : p.tcpHeader.sync with
  | false => rfl
  | true => cases ha : p.tcpHeader.ack <;> simp [Packet.kind, hs, ha] at h₁ h₂

theorem Packet.kind_of_fin {p : Packet} (hs : p.tcpHeader.sync = false)
    (hf : p.tcpHeader.fin = true) : p.kind = .fin := by
  simp [Packet.kind, hs, hf]

theorem Packet.fin_of_kind_fin {p : Packet} (h : p.kind = .fin) : p.tcpHeader.fin = true := by
  by_contra hf
  unfold Packet.kind at h
  simp only [hf, if_false] at h
  repeat' split at h
  all_goals cases h

theorem Packet.fin_of_kind_data {p : Packet} (h : p.kind = .data) : p.tcpHeader.fin = false := by
  have hs := Packet.not_sync_of_kind (p := p) (by simp [h]) (by simp [h])
  by_contra hf
  simp [Packet.kind_of_fin hs (by simpa using hf)] at h

theorem Packet.Plain.sync {p : Packet} (h : p.Plain) : p.tcpHeader.sync = false := by
  rcases h with h | h
  · exact Packet.not_sync_of_kind (by simp [h]) (by simp [h])
  · exact Packet.not_sync_of_kind (by simp [h]) (by simp [h])

variable [HyLib]

namespace TcpController

theorem makeAckPacket_kind (c : TcpController) (ackNum : UInt32) :
    (c.makeAckPacket ackNum).kind = .ack := by
  simp [Packet.kind, makeAckPacket, tcpHeader]

theorem makeFinPacket_kind (c : TcpController) (seqNum : UInt32) :
    (c.makeFinPacket seqNum).kind = .fin := by
  simp [Packet.kind, makeFinPacket, tcpHeader]

/-- What `MakeDataPacket` builds from the send buffer has no flags. -/
theorem makeDataPacketFromBuffer_kind (c : TcpController) (seqNum : UInt32) (b : RingBuffer)
    (size : UInt32) : (c.makeDataPacketFromBuffer seqNum b size).1.kind = .data := by
  unfold makeDataPacketFromBuffer Packet.injectPayloadFromBuffer
  split <;> simp [Packet.kind, tcpHeader]

theorem makeDataPacketFromBuffer_size (c : TcpController) (seqNum : UInt32) (b : RingBuffer)
    (size : UInt32) : (c.makeDataPacketFromBuffer seqNum b size).2.size ≤ b.size := by
  unfold makeDataPacketFromBuffer Packet.injectPayloadFromBuffer
  split
  · exact le_rfl
  · simp [RingBuffer.size_eq]

/-! ## The receive pipeline -/

/-- Pushing overflowed packets fills the receive buffer. Induction on the queue. -/
theorem pushOverflowedLoop_capacity (l : List Packet) (b : RingBuffer) :
    (pushOverflowedLoop l b).2.capacity = b.capacity := by
  induction l generalizing b with
  | nil => rfl
  | cons p rest ih =>
    unfold pushOverflowedLoop
    split
    · simp only
      split
      · rw [ih, RingBuffer.capacity_write]
      · exact b.capacity_write _
    · rfl

/-- Streaming writes the receive buffer and the overflow queue, and the pipe is at its end
once a FIN was streamed. Induction on the chain. -/
theorem streamLoop_frame {chain : List Packet} {c c' : TcpController}
    (h : streamLoop chain c = .ok c') :
    ∃ b o, b.capacity = c.recvBuffer.capacity ∧ c' = { c with
      recvBuffer := b
      overflowPkts := o
      pipeState :=
        if chain.any (·.tcpHeader.fin) then .eofNotConsumed else c.pipeState } := by
  induction chain generalizing c with
  | nil =>
    cases h
    exact ⟨_, _, rfl, rfl⟩
  | cons p rest ih =>
    rw [streamLoop] at h
    split at h
    · cases h
    · split at h
      · next hfin =>
        cases h
        exact ⟨c.recvBuffer, c.overflowPkts, rfl, by simp [hfin]⟩
      · next hfin =>
        have hfin' : p.tcpHeader.fin = false := by simpa using hfin
        split at h
        · simp only at h
          split at h
          · obtain ⟨b, o, hb, rfl⟩ := ih h
            exact ⟨b, o, hb.trans (RingBuffer.capacity_write ..), by simp [hfin']⟩
          · obtain ⟨b, o, hb, rfl⟩ := ih h
            exact ⟨b, o, hb.trans (RingBuffer.capacity_write ..), by simp [hfin']⟩
        · obtain ⟨b, o, hb, rfl⟩ := ih h
          exact ⟨b, o, hb, by simp [hfin']⟩

/-- The common end of `HandleDataPacket` and `HandleFIN`. -/
theorem receiveAndAck_frame {c c' : TcpController} {pkt : Packet}
    (h : c.receiveAndAck pkt = .ok c') :
    ∃ ackNum chain w b o p, c.recvWindow.receivePacket pkt = .ok (ackNum, chain, w) ∧
      p.kind = .ack ∧ p.tcpHeader.ackNum = ackNum ∧ b.capacity = c.recvBuffer.capacity ∧
      c' = { c with
        recvWindow := w
        recvBuffer := b
        overflowPkts := o
        pipeState := if chain.any (·.tcpHeader.fin) then .eofNotConsumed else c.pipeState
        pktSendBuffer := c.pktSendBuffer ++ [p] } := by
  obtain ⟨⟨ackNum, chain, w⟩, hrecv, h⟩ := bind_eq_ok.mp h
  obtain ⟨c₁, hstream, h⟩ := bind_eq_ok.mp h
  cases h
  obtain ⟨b, o, hb, rfl⟩ := streamLoop_frame hstream
  exact ⟨ackNum, chain, w, b, o, _, hrecv, makeAckPacket_kind _ _, rfl,
    hb.trans (pushOverflowedLoop_capacity _ _), rfl⟩

/-- The state section of `HandleFIN` writes the state and arms the self-destruct. -/
theorem handleFINState_frame (c : TcpController) :
    ∃ st k, c.handleFINState = { c with state := st, killArmed := k } := by
  unfold handleFINState
  split
  · exact ⟨_, _, rfl⟩
  · exact ⟨_, _, rfl⟩
  · exact ⟨_, _, rfl⟩
  · exact ⟨c.state, c.killArmed, rfl⟩

theorem receiveBufferListener_frame (c : TcpController) :
    ∃ b o, c.receiveBufferListener = { c with recvBuffer := b, overflowPkts := o } ∧
      b.capacity = c.recvBuffer.capacity := by
  unfold receiveBufferListener
  split
  · exact ⟨c.recvBuffer, c.overflowPkts, rfl, rfl⟩
  · exact ⟨_, _, rfl, pushOverflowedLoop_capacity _ _⟩

/-! ## Acknowledgements -/

/-- Retransmission sends a copy of the front of the queue. -/
theorem resendBase_frame (c : TcpController) :
    ∃ b ps, c.resendBase = { c with
        sendWindow := { c.sendWindow with hasRetransmittedPkt := b }
        pktSendBuffer := c.pktSendBuffer ++ ps } ∧
      ∀ p ∈ ps, ∃ node ∈ c.sendWindow.pktsToAck, p = node.pkt.copy := by
  cases hq : c.sendWindow.pktsToAck with
  | nil =>
    refine ⟨c.sendWindow.hasRetransmittedPkt, [], ?_, by simp⟩
    have hbase : c.sendWindow.getBasePakcketToReSend = (none, c.sendWindow) := by
      simp [SendWindow.getBasePakcketToReSend, hq]
    simp [resendBase, hbase, sendPacket]
  | cons node rest =>
    refine ⟨true, [node.pkt.copy], ?_, by simp⟩
    simp [resendBase, SendWindow.getBasePakcketToReSend, hq, sendPacket]

/-- The window section of `HandleACK`: packets leave the queue at its front, and a packet of
the queue may be sent again. -/
theorem handleACKWindow_frame {c c' : TcpController} {g g' : Globals} {pkt : Packet} {b : Bool}
    (h : c.handleACKWindow g pkt = .ok (b, g', c')) :
    ∃ res w₀ w t pt ps,
      c.sendWindow.newAckedPacket g pkt.tcpHeader.ackNum = .ok (res, w₀, g') ∧
      w.pktsToAck = w₀.pktsToAck ∧ b = (w.pktsToAck.length == 0) ∧
      (∀ p ∈ ps, ∃ node ∈ w.pktsToAck, p = node.pkt.copy) ∧
      c' = { c with
        sendWindow := w
        timer := t
        proberTimer := pt
        pktSendBuffer := c.pktSendBuffer ++ ps } := by
  obtain ⟨⟨res, w, g₁⟩, hack, h⟩ := bind_eq_ok.mp h
  simp only at h
  split at h
  · obtain ⟨f, ps, hre, hps⟩ := resendBase_frame { c with sendWindow := w }
    rw [hre] at h
    cases h
    refine ⟨res, w, _, _, _, ps, hack, ?_, ?_, ?_, rfl⟩
    · rfl
    · rfl
    · exact hps
  · cases h
    refine ⟨res, w, w.setCapacity (c.getNewSendWindowSize pkt.tcpHeader.windowSize.toUInt32),
      if w.numPacketsToAck = 0 then c.timer.stop else c.timer.restart,
      if c.getNewSendWindowSize pkt.tcpHeader.windowSize.toUInt32 > 0 then c.proberTimer.stop
        else c.proberTimer, [], hack, rfl, rfl, by simp, ?_⟩
    rw [List.append_nil]
    rfl

/-- The state section of `HandleACK` writes the state, two timers, and the marks of a
connection that comes to its end. -/
theorem handleACKState_frame (c : TcpController) (sendWindowEmpty : Bool) :
    ∃ st t₁ t₂ k s, c.handleACKState sendWindowEmpty = { c with
      state := st, synTimer := t₁, finTimer := t₂, killArmed := k, shutdown := s } := by
  unfold handleACKState
  split
  · exact ⟨_, _, _, _, _, rfl⟩
  · split
    · exact ⟨_, _, _, _, _, rfl⟩
    · split
      · exact ⟨_, _, _, _, _, rfl⟩
      · split
        · exact ⟨_, _, _, _, _, rfl⟩
        · exact ⟨c.state, c.synTimer, c.finTimer, c.killArmed, c.shutdown, rfl⟩

/-! ## The send pipeline -/

/-- What the sending of data may do: take bytes from the send buffer, enqueue data packets,
send them. -/
def SendsData (c c' : TcpController) : Prop :=
  ∃ w b t ps new, c' = { c with
      sendWindow := w, sendBuffer := b, timer := t, pktSendBuffer := c.pktSendBuffer ++ ps } ∧
    b.size ≤ c.sendBuffer.size ∧ w.pktsToAck = c.sendWindow.pktsToAck ++ new ∧
    (∀ node ∈ new, node.pkt.kind = .data) ∧ ∀ p ∈ ps, p.kind = .data

theorem SendsData.refl (c : TcpController) : SendsData c c :=
  ⟨c.sendWindow, c.sendBuffer, c.timer, [], [], by simp, le_rfl, by simp, by simp, by simp⟩

theorem SendsData.trans {c c' c'' : TcpController} (h : SendsData c c') (h' : SendsData c' c'') :
    SendsData c c'' := by
  obtain ⟨w, b, t, ps, new, rfl, hb, hw, hnew, hps⟩ := h
  obtain ⟨w', b', t', ps', new', rfl, hb', hw', hnew', hps'⟩ := h'
  refine ⟨w', b', t', ps ++ ps', new ++ new', by simp, hb'.trans hb, ?_, ?_, ?_⟩
  · rw [hw', hw, List.append_assoc]
  · intro node hn
    exact (List.mem_append.mp hn).elim (hnew node) (hnew' node)
  · intro p hp
    exact (List.mem_append.mp hp).elim (hps p) (hps' p)

theorem sendDataPacket_frame {c c' : TcpController} {clock : ℕ} {size : UInt32} {r : Bool}
    (h : c.sendDataPacket clock size r = .ok c') : SendsData c c' := by
  have hkind := c.makeDataPacketFromBuffer_kind c.sendWindow.nextSeqNumberToSend c.sendBuffer size
  have hsize := c.makeDataPacketFromBuffer_size c.sendWindow.nextSeqNumberToSend c.sendBuffer size
  unfold sendDataPacket at h
  generalize c.makeDataPacketFromBuffer c.sendWindow.nextSeqNumberToSend c.sendBuffer size = pb
    at h hkind hsize
  obtain ⟨p, b⟩ := pb
  obtain ⟨⟨sent, w⟩, hsent, h⟩ := bind_eq_ok.mp h
  rcases SendWindow.sendPacket_cases hsent with ⟨rfl, rfl⟩ | ⟨rfl, rfl⟩
  · cases h
    exact ⟨c.sendWindow, b, c.timer, [], [], by simp, hsize, by simp, by simp, by simp⟩
  · cases h
    refine ⟨_, _, _, [_], [_], rfl, hsize, rfl, ?_, ?_⟩
    · simpa using hkind
    · simpa [Packet.copy_kind] using hkind

theorem sendFullPackets_frame {clock numPkts : ℕ} {c c' : TcpController}
    (h : sendFullPackets clock numPkts c = .ok c') : SendsData c c' := by
  induction numPkts generalizing c with
  | zero =>
    cases h
    exact SendsData.refl _
  | succ numPkts ih =>
    obtain ⟨c₁, h₁, h⟩ := bind_eq_ok.mp h
    exact (sendDataPacket_frame h₁).trans (ih h)

/-- `SendBufferListener` need not wait for the connection, or has waited for it. -/
def MaySend (c : TcpController) : Prop := c.inConnectingState = false ∨ c.sending = true

theorem maySend_of_not_wait {c : TcpController}
    (h : ¬ (c.shutdown || (!c.sending && c.inConnectingState)) = true) : c.MaySend := by
  simp only [Bool.or_eq_true, Bool.and_eq_true, Bool.not_eq_true', not_or, not_and,
    Bool.not_eq_true] at h
  cases hsending : c.sending with
  | true => exact Or.inr hsending
  | false => exact Or.inl (h.2 hsending)

/-- An iteration of the loop sends data, or starts the prober, or waits. -/
theorem sendBufferListenerLoop_frame {c c' : TcpController} {clock : ℕ}
    (h : c.sendBufferListenerLoop clock = .ok c') :
    c' = c ∨ (∃ t : Timer, t.isStarted ∧ c' = { c with proberTimer := t }) ∨ SendsData c c' := by
  unfold sendBufferListenerLoop sendBufferListenerBody at h
  split at h
  · cases h
    exact Or.inl rfl
  · split at h
    · cases h
      exact Or.inl rfl
    · split at h
      · cases h
        refine Or.inr (Or.inl ⟨_, ?_, rfl⟩)
        split
        · assumption
        · exact Timer.isStarted_restart _
      · obtain ⟨c₁, h₁, h⟩ := bind_eq_ok.mp h
        have hfull := sendFullPackets_frame h₁
        split at h
        · exact Or.inr (Or.inr (hfull.trans (sendDataPacket_frame h)))
        · cases h
          exact Or.inr (Or.inr hfull)

/-- `SendBufferListener` waits for the connection, or has waited and makes an iteration. -/
theorem sendBufferListener_frame {c c' : TcpController} {clock : ℕ}
    (h : c.sendBufferListener clock = .ok c') :
    c' = c ∨ c.MaySend ∧ ∃ c₁, c₁ = { c with sending := true } ∧
      (c' = c₁ ∨ (∃ t : Timer, t.isStarted ∧ c' = { c₁ with proberTimer := t }) ∨
        SendsData c₁ c') := by
  unfold sendBufferListener at h
  split at h
  · cases h
    exact Or.inl rfl
  · next hwait =>
    exact Or.inr ⟨maySend_of_not_wait hwait, _, rfl, sendBufferListenerLoop_frame h⟩

/-- The window section of `SendFIN` registers a FIN at the end of the queue. -/
theorem sendFINWindow_frame {c c' : TcpController} {clock : ℕ} {p : Packet}
    (h : c.sendFINWindow clock = .ok (p, c')) :
    p.kind = .fin ∧ ∃ w watch, c' = { c with sendWindow := w } ∧
      w.pktsToAck = c.sendWindow.pktsToAck ++ [⟨p, watch⟩] := by
  obtain ⟨⟨sent, w⟩, hsent, h⟩ := bind_eq_ok.mp h
  rcases SendWindow.sendPacket_cases hsent with ⟨rfl, rfl⟩ | ⟨rfl, rfl⟩
  · cases h
  · cases h
    exact ⟨makeFinPacket_kind _ _, _, _, rfl, rfl⟩

end TcpController

/-! ## The actions of an endpoint -/

/-- The outcomes of `ReadData`: the abort behind the end of the stream, a wait, -1, the end of
the stream, and data. -/
theorem TcpController.readData_cases (c : TcpController) (size : ℕ) :
    c.readData size = .error .dataAfterEof ∨ c.readData size = .ok none ∨
      c.readData size = .ok (some (-1, [], c)) ∨
      (c.pipeState = .eofNotConsumed ∧ c.recvBuffer.bytes = [] ∧
        c.readData size = .ok (some (0, [], { c with pipeState := .eofConsumed }))) ∨
      (c.recvBuffer.bytes ≠ [] ∧ c.readData size = .ok (some ((c.recvBuffer.read size).1.length,
        (c.recvBuffer.read size).1, { c with recvBuffer := (c.recvBuffer.read size).2 }))) := by
  have hempty : c.recvBuffer.empty = true ↔ c.recvBuffer.bytes = [] := c.recvBuffer.empty_iff
  unfold TcpController.readData
  split
  · exact Or.inl rfl
  · split
    · exact Or.inr (Or.inl rfl)
    · split
      · exact Or.inr (Or.inr (Or.inl rfl))
      · split
        · exact Or.inr (Or.inr (Or.inl rfl))
        · next hdata =>
          split
          · next heof => exact Or.inr (Or.inr (Or.inr (Or.inl ⟨heof.1, hempty.mp heof.2, rfl⟩)))
          · next heof =>
            refine Or.inr (Or.inr (Or.inr (Or.inr ⟨fun hnil => ?_, rfl⟩)))
            have he := hempty.mpr hnil
            exact hdata ⟨fun hps => heof ⟨hps, he⟩, he⟩

/-- A `SendFIN` task of the endpoint is due: it has nothing to wait for. -/
def Endpoint.finDue (e : Endpoint) : Bool :=
  e.finTasks ≠ 0 && e.con.sendFINWait && !e.con.shutdown

/-- What an endpoint may do without handling a packet: enqueue data and FINs, send them or
retransmit, take the step from ESTABLISHED or CLOSE_WAIT that a local close takes, and read
the end of the stream. -/
structure Endpoint.Quiet (e e' : Endpoint) : Prop where
  handled : e'.handled = e.handled
  recvWindow : e'.con.recvWindow = e.con.recvWindow
  pktRecvBuffer : e'.con.pktRecvBuffer = e.con.pktRecvBuffer
  shutdown : e'.con.shutdown = e.con.shutdown
  killArmed : e'.con.killArmed = e.con.killArmed
  pipeState : e'.con.pipeState = e.con.pipeState ∨
    e.con.pipeState = .eofNotConsumed ∧ e'.con.pipeState = .eofConsumed
  state : e'.con.state = e.con.state ∨ e.con.state = .established ∧ e'.con.state = .finWait1 ∨
    e.con.state = .closeWait ∧ e'.con.state = .lastAck
  queue : ∃ new, e'.con.sendWindow.pktsToAck = e.con.sendWindow.pktsToAck ++ new ∧
    ∀ node ∈ new, node.pkt.Plain
  emits : ∃ ps, e'.con.pktSendBuffer = e.con.pktSendBuffer ++ ps ∧
    ∀ q ∈ ps, q.Plain ∨ ∃ node ∈ e.con.sendWindow.pktsToAck, q = node.pkt.copy

namespace Endpoint

/-- Changes that concern neither the windows nor the state machine are quiet. -/
theorem Quiet.of_same {e e' : Endpoint} (h₁ : e'.handled = e.handled)
    (h₂ : e'.con.recvWindow = e.con.recvWindow)
    (h₃ : e'.con.pktRecvBuffer = e.con.pktRecvBuffer) (h₄ : e'.con.shutdown = e.con.shutdown)
    (h₅ : e'.con.killArmed = e.con.killArmed)
    (h₆ : e'.con.pipeState = e.con.pipeState ∨
      e.con.pipeState = .eofNotConsumed ∧ e'.con.pipeState = .eofConsumed)
    (h₇ : e'.con.state = e.con.state) (h₈ : e'.con.sendWindow = e.con.sendWindow)
    (h₉ : e'.con.pktSendBuffer = e.con.pktSendBuffer) : e.Quiet e' :=
  ⟨h₁, h₂, h₃, h₄, h₅, h₆, Or.inl h₇, ⟨[], by simp [h₈], by simp⟩, ⟨[], by simp [h₉], by simp⟩⟩

theorem Quiet.refl (e : Endpoint) : e.Quiet e :=
  .of_same rfl rfl rfl rfl rfl (Or.inl rfl) rfl rfl rfl

/-- Data and FINs are sent, and nothing is sent again. -/
def SendsPlain (e e' : Endpoint) : Prop :=
  ∃ ps, e'.con.pktSendBuffer = e.con.pktSendBuffer ++ ps ∧ ∀ q ∈ ps, q.Plain

theorem SendsPlain.of_same {e e' : Endpoint}
    (h : e'.con.pktSendBuffer = e.con.pktSendBuffer) : e.SendsPlain e' :=
  ⟨[], by rw [h, List.append_nil], by simp⟩

/-- `WriteData` appends the same bytes to the send buffer and to the record of accepted
bytes. -/
theorem writeData_frame (e : Endpoint) (buf : List UInt8) :
    ∃ b l, e.writeData buf = { e with
        con := { e.con with sendBuffer := b }, written := e.written ++ l } ∧
      b.bytes = e.con.sendBuffer.bytes ++ l := by
  have hsame : ∃ b l, e = { e with
        con := { e.con with sendBuffer := b }, written := e.written ++ l } ∧
      b.bytes = e.con.sendBuffer.bytes ++ l := ⟨e.con.sendBuffer, [], by simp, by simp⟩
  unfold Endpoint.writeData TcpController.writeData
  split
  · exact hsame
  · split
    · exact hsame
    · next hwrite =>
      split at hwrite
      · cases hwrite
        exact ⟨e.con.sendBuffer, [], by simp, by simp⟩
      · split at hwrite
        · cases hwrite
        · split at hwrite
          · cases hwrite
            exact ⟨e.con.sendBuffer, [], by simp, by simp⟩
          · cases hwrite
            refine ⟨_, _, rfl, ?_⟩
            show (e.con.sendBuffer.write buf).2.bytes = e.con.sendBuffer.bytes ++
              buf.take ((e.con.sendBuffer.write buf).1 : ℤ).toNat
            rw [RingBuffer.bytes_write, RingBuffer.write_fst, Int.toNat_natCast,
              List.append_cancel_left_eq, List.take_eq_take_iff]
            omega

/-- `ReadData` takes bytes from the receive buffer, and the pipe from its end to the end that
was read. -/
theorem readData_frame {e e' : Endpoint} {size : ℕ} (h : e.readData size = .ok e') :
    ∃ b ps r, e' = { e with con := { e.con with recvBuffer := b, pipeState := ps }, readOut := r } ∧
      (ps = e.con.pipeState ∨ e.con.pipeState = .eofNotConsumed ∧ ps = .eofConsumed) ∧
      b.capacity = e.con.recvBuffer.capacity := by
  unfold Endpoint.readData at h
  rcases e.con.readData_cases size with hr | hr | hr | ⟨heof, -, hr⟩ | ⟨-, hr⟩
  · rw [hr] at h
    cases h
  · rw [hr] at h
    cases h
    exact ⟨_, _, _, rfl, Or.inl rfl, rfl⟩
  · rw [hr] at h
    cases h
    exact ⟨_, _, _, rfl, Or.inl rfl, rfl⟩
  · rw [hr] at h
    cases h
    exact ⟨_, _, _, rfl, Or.inr ⟨heof, rfl⟩, rfl⟩
  · rw [hr] at h
    cases h
    exact ⟨_, _, _, rfl, Or.inl rfl, RingBuffer.capacity_read ..⟩

/-- `ShutDownSocket` queues a `SendFIN` task only when it sets its flag. -/
theorem shutDownSocket_frame (e : Endpoint) : ∃ b k,
    e.shutDownSocket = { e with shutDown := b, finTasks := e.finTasks + k } ∧
      e.shutDown.toNat + k ≤ b.toNat := by
  unfold Endpoint.shutDownSocket
  split
  · exact ⟨e.shutDown, 0, rfl, le_rfl⟩
  · next hopen =>
    simp only [Bool.or_eq_true, not_or, Bool.not_eq_true] at hopen
    refine ⟨true, e.con.tryShutDown.toNat, rfl, ?_⟩
    have := Bool.toNat_le e.con.tryShutDown
    simp only [hopen.2, Bool.toNat_false, Bool.toNat_true]
    omega

theorem closeSocket_frame (e : Endpoint) : ∃ b k,
    e.closeSocket = { e with closed := b, finTasks := e.finTasks + k } ∧
      e.closed.toNat + k ≤ b.toNat := by
  unfold Endpoint.closeSocket
  split
  · exact ⟨e.closed, 0, rfl, le_rfl⟩
  · next hopen =>
    simp only [Bool.not_eq_true] at hopen
    refine ⟨true, e.con.tryShutDown.toNat, rfl, ?_⟩
    have := Bool.toNat_le e.con.tryShutDown
    simp only [hopen, Bool.toNat_false, Bool.toNat_true]
    omega

theorem runSendFIN_quiet {e e' : Endpoint} {clock : ℕ} (h : e.runSendFIN clock = .ok e') :
    e.Quiet e' ∧ e.SendsPlain e' := by
  unfold Endpoint.runSendFIN at h
  split at h
  · cases h
    exact ⟨.refl _, .of_same rfl⟩
  · obtain ⟨c, hc, h⟩ := bind_eq_ok.mp h
    cases h
    unfold TcpController.sendFIN at hc
    split at hc
    · cases hc
      exact ⟨.of_same rfl rfl rfl rfl rfl (Or.inl rfl) rfl rfl rfl, .of_same rfl⟩
    · obtain ⟨⟨p, c₁⟩, hwin, hc⟩ := bind_eq_ok.mp hc
      cases hc
      obtain ⟨hkind, w, watch, rfl, hw⟩ := TcpController.sendFINWindow_frame hwin
      have hqueue : ∃ new, w.pktsToAck = e.con.sendWindow.pktsToAck ++ new ∧
          ∀ node ∈ new, node.pkt.Plain := ⟨[⟨p, watch⟩], hw, by simp [Packet.Plain, hkind]⟩
      have hplain : ∀ q ∈ [p.copy], q.Plain := by simp [Packet.Plain, Packet.copy_kind, hkind]
      unfold TcpController.sendFINState
      split
      · next hst =>
        exact ⟨⟨rfl, rfl, rfl, rfl, rfl, Or.inl rfl, Or.inr (Or.inl ⟨hst, rfl⟩), hqueue,
          ⟨_, rfl, fun q hq => Or.inl (hplain q hq)⟩⟩, _, rfl, hplain⟩
      · next hst =>
        exact ⟨⟨rfl, rfl, rfl, rfl, rfl, Or.inl rfl, Or.inr (Or.inr ⟨hst, rfl⟩), hqueue,
          ⟨_, rfl, fun q hq => Or.inl (hplain q hq)⟩⟩, _, rfl, hplain⟩
      · exact ⟨⟨rfl, rfl, rfl, rfl, rfl, Or.inl rfl, Or.inl rfl, hqueue, ⟨[], by simp, by simp⟩⟩,
          .of_same rfl⟩

theorem sendBufferListener_quiet {e : Endpoint} {c : TcpController} {clock : ℕ}
    (h : e.con.sendBufferListener clock = .ok c) :
    e.Quiet { e with con := c } ∧ e.SendsPlain { e with con := c } := by
  rcases TcpController.sendBufferListener_frame h with
    rfl | ⟨-, c₁, rfl, rfl | ⟨_, -, rfl⟩ | hsend⟩
  · exact ⟨.refl _, .of_same rfl⟩
  · exact ⟨.of_same rfl rfl rfl rfl rfl (Or.inl rfl) rfl rfl rfl, .of_same rfl⟩
  · exact ⟨.of_same rfl rfl rfl rfl rfl (Or.inl rfl) rfl rfl rfl, .of_same rfl⟩
  · obtain ⟨w, b, t, ps, new, rfl, -, hw, hnew, hps⟩ := hsend
    have hplain : ∀ q ∈ ps, q.Plain := fun q hq => Or.inr (hps q hq)
    exact ⟨⟨rfl, rfl, rfl, rfl, rfl, Or.inl rfl, Or.inl rfl,
      ⟨new, hw, fun node hn => Or.inr (hnew node hn)⟩,
      ⟨ps, rfl, fun q hq => Or.inl (hplain q hq)⟩⟩, ps, rfl, hplain⟩

theorem timeoutReTransmitter_quiet (e : Endpoint) :
    e.Quiet { e with con := e.con.timeoutReTransmitter } := by
  unfold TcpController.timeoutReTransmitter
  simp only
  split
  · obtain ⟨b, ps, hre, hps⟩ := e.con.resendBase_frame
    rw [hre]
    exact ⟨rfl, rfl, rfl, rfl, rfl, Or.inl rfl, Or.inl rfl, ⟨[], by simp, by simp⟩,
      ⟨ps, rfl, fun q hq => Or.inr (hps q hq)⟩⟩
  · exact .of_same rfl rfl rfl rfl rfl (Or.inl rfl) rfl rfl rfl

theorem probeWindowSize_quiet (e : Endpoint) :
    e.Quiet { e with con := e.con.probeWindowSize } ∧
      e.SendsPlain { e with con := e.con.probeWindowSize } := by
  unfold TcpController.probeWindowSize
  split
  · set p := e.con.makeDataPacket e.con.sendWindow.nextSeqNumberToSend [] 0
    have hplain : ∀ q ∈ [p.copy], q.Plain := by
      intro q hq
      rw [List.mem_singleton.mp hq]
      refine Or.inr ?_
      rw [Packet.copy_kind]
      simp [p, TcpController.makeDataPacket, Packet.injectPayload, Packet.kind,
        TcpController.tcpHeader]
    exact ⟨⟨rfl, rfl, rfl, rfl, rfl, Or.inl rfl, Or.inl rfl,
      ⟨[], by simp [TcpController.sendPacket], by simp⟩,
      ⟨_, rfl, fun q hq => Or.inl (hplain q hq)⟩⟩, _, rfl, hplain⟩
  · exact ⟨.refl e, .of_same rfl⟩

/-- **Every action but the handling of a packet is quiet**, and only a timeout sends something
again. -/
theorem step_quiet_plain {e e' : Endpoint} {g g' : Globals} {a : Action} (ha : a ≠ .handlePacket)
    (h : e.step g a = .ok (g', e')) :
    e.Quiet e' ∧ (a ≠ .timeoutReTransmitter → e.SendsPlain e') := by
  cases a with
  | writeData buf =>
    cases h
    obtain ⟨b, l, hw, -⟩ := e.writeData_frame buf
    rw [hw]
    exact ⟨.of_same rfl rfl rfl rfl rfl (Or.inl rfl) rfl rfl rfl, fun _ => .of_same rfl⟩
  | readData size =>
    obtain ⟨e₁, h₁, heq⟩ := map_eq_ok.mp h
    cases heq
    obtain ⟨b, ps, r, rfl, hps, -⟩ := readData_frame h₁
    exact ⟨.of_same rfl rfl rfl rfl rfl hps rfl rfl rfl, fun _ => .of_same rfl⟩
  | shutDown =>
    cases h
    obtain ⟨b, k, hs, -⟩ := e.shutDownSocket_frame
    rw [hs]
    exact ⟨.of_same rfl rfl rfl rfl rfl (Or.inl rfl) rfl rfl rfl, fun _ => .of_same rfl⟩
  | close =>
    cases h
    obtain ⟨b, k, hs, -⟩ := e.closeSocket_frame
    rw [hs]
    exact ⟨.of_same rfl rfl rfl rfl rfl (Or.inl rfl) rfl rfl rfl, fun _ => .of_same rfl⟩
  | sendFIN =>
    obtain ⟨e₁, h₁, heq⟩ := map_eq_ok.mp h
    cases heq
    exact (runSendFIN_quiet h₁).imp_right fun hplain _ => hplain
  | sendBufferListener =>
    obtain ⟨c, h₁, heq⟩ := map_eq_ok.mp h
    cases heq
    exact (sendBufferListener_quiet h₁).imp_right fun hplain _ => hplain
  | receiveBufferListener =>
    cases h
    obtain ⟨b, o, hb, -⟩ := e.con.receiveBufferListener_frame
    rw [hb]
    exact ⟨.of_same rfl rfl rfl rfl rfl (Or.inl rfl) rfl rfl rfl, fun _ => .of_same rfl⟩
  | timeoutReTransmitter =>
    cases h
    exact ⟨e.timeoutReTransmitter_quiet, fun ht => absurd rfl ht⟩
  | probeWindowSize =>
    cases h
    exact e.probeWindowSize_quiet.imp_right fun hplain _ => hplain
  | handlePacket => exact absurd rfl ha

theorem step_quiet {e e' : Endpoint} {g g' : Globals} {a : Action} (ha : a ≠ .handlePacket)
    (h : e.step g a = .ok (g', e')) : e.Quiet e' :=
  (step_quiet_plain ha h).1

end Endpoint

/-! ## The bytes of the application -/

namespace TcpController

variable {c c' : TcpController} {g g' : Globals} {pkt : Packet}

theorem handleSYN_buffers (h : c.handleSYN g pkt = .ok c') :
    c'.sendBuffer = c.sendBuffer ∧ c'.sending = c.sending ∧ c'.recvBuffer = c.recvBuffer := by
  obtain ⟨⟨ackNum, chain, w⟩, -, h⟩ := bind_eq_ok.mp h
  simp only at h
  split at h
  · cases h
  · split at h
    · obtain ⟨b, ps, hre, -⟩ := resendBase_frame { c with recvWindow := w }
      rw [hre] at h
      cases h
      exact ⟨rfl, rfl, rfl⟩
    · obtain ⟨⟨sent, w'⟩, -, h⟩ := bind_eq_ok.mp h
      cases sent with
      | true =>
        cases h
        exact ⟨rfl, rfl, rfl⟩
      | false =>
        cases h
        exact ⟨rfl, rfl, rfl⟩

theorem handleACKSYN_buffers (h : c.handleACKSYN g pkt = .ok (g', c')) :
    c'.sendBuffer = c.sendBuffer ∧ c'.sending = c.sending ∧ c'.recvBuffer = c.recvBuffer := by
  unfold handleACKSYN at h
  split at h
  · obtain ⟨⟨g₁, c₁⟩, hconn, h⟩ := bind_eq_ok.mp h
    obtain ⟨⟨res, w, g₂⟩, -, hconn⟩ := bind_eq_ok.mp hconn
    cases hconn
    cases h
    exact ⟨rfl, rfl, rfl⟩
  · cases h
    exact ⟨rfl, rfl, rfl⟩

/-- No handler touches the send buffer, the thread that empties it, or the size of the receive
buffer. -/
theorem handlePacket_buffers (h : c.handlePacket g pkt = .ok (g', c')) :
    c'.sendBuffer = c.sendBuffer ∧ c'.sending = c.sending ∧
      c'.recvBuffer.capacity = c.recvBuffer.capacity := by
  have hrecv : ∀ {c c' : TcpController}, c.receiveAndAck pkt = .ok c' →
      c'.sendBuffer = c.sendBuffer ∧ c'.sending = c.sending ∧
      c'.recvBuffer.capacity = c.recvBuffer.capacity := by
    intro c c' h
    obtain ⟨_, _, _, _, _, _, -, -, -, hcap, rfl⟩ := receiveAndAck_frame h
    exact ⟨rfl, rfl, hcap⟩
  unfold handlePacket at h
  split at h
  · obtain ⟨c₁, h₁, heq⟩ := map_eq_ok.mp h
    cases heq
    obtain ⟨hs, hsending, hr⟩ := handleSYN_buffers h₁
    exact ⟨hs, hsending, by rw [hr]⟩
  · obtain ⟨hs, hsending, hr⟩ := handleACKSYN_buffers h
    exact ⟨hs, hsending, by rw [hr]⟩
  · obtain ⟨c₁, h₁, heq⟩ := map_eq_ok.mp h
    cases heq
    obtain ⟨st, k, hst⟩ := c.handleFINState_frame
    rw [handleFIN, hst] at h₁
    have := hrecv h₁
    exact this
  · obtain ⟨⟨b, g₁, c₁⟩, hwin, h⟩ := bind_eq_ok.mp h
    obtain ⟨_, _, w, t, pt, ps, -, -, -, -, rfl⟩ := handleACKWindow_frame hwin
    cases h
    obtain ⟨_, _, _, _, _, hst⟩ := handleACKState_frame { c with
      sendWindow := w, timer := t, proberTimer := pt, pktSendBuffer := c.pktSendBuffer ++ ps } b
    rw [hst]
    exact ⟨rfl, rfl, rfl⟩
  · cases h
    exact ⟨rfl, rfl, rfl⟩
  · obtain ⟨c₁, h₁, heq⟩ := map_eq_ok.mp h
    cases heq
    unfold handleDataPacket at h₁
    split at h₁
    · cases h₁
      exact ⟨rfl, rfl, rfl⟩
    · exact hrecv h₁

end TcpController

namespace Endpoint

/-- What a step does with the bytes of the application: new ones are accepted, and bytes leave
the send buffer at its front, though not until the end has connected. The size of the receive
buffer is fixed. -/
structure Pours (e e' : Endpoint) : Prop where
  bytes : ∃ l, e'.written = e.written ++ l ∧
    e'.con.sendBuffer.size ≤ e.con.sendBuffer.size + l.length ∧
    (¬ e.con.MaySend → e'.con.sendBuffer.bytes = e.con.sendBuffer.bytes ++ l)
  capacity : e'.con.recvBuffer.capacity = e.con.recvBuffer.capacity
  sending : ¬ e.con.MaySend → e'.con.sending = e.con.sending

theorem Pours.of_same {e e' : Endpoint} (hw : e'.written = e.written)
    (hb : e'.con.sendBuffer = e.con.sendBuffer)
    (hcap : e'.con.recvBuffer.capacity = e.con.recvBuffer.capacity)
    (hsend : e.con.MaySend ∨ e'.con.sending = e.con.sending) : e.Pours e' :=
  ⟨⟨[], by simp [hw], by simp [hb], by simp [hb]⟩, hcap, fun hno => hsend.resolve_left hno⟩

/-- The bytes that left the send buffer stay counted. -/
theorem Pours.carried_le {e e' : Endpoint} (h : e.Pours e') : e.carried ≤ e'.carried := by
  obtain ⟨l, hw, hsize, -⟩ := h.bytes
  unfold carried
  rw [hw, List.length_append]
  omega

theorem handleNext_pours {e e' : Endpoint} {g g' : Globals} (h : e.handleNext g = .ok (g', e')) :
    e.Pours e' := by
  unfold handleNext at h
  split at h
  · cases h
    exact .of_same rfl rfl rfl (Or.inr rfl)
  · obtain ⟨⟨g₁, c⟩, hc, h⟩ := bind_eq_ok.mp h
    cases h
    obtain ⟨hs, hsend, hr⟩ := TcpController.handlePacket_buffers hc
    exact .of_same rfl hs hr (Or.inr hsend)

theorem runSendFIN_pours {e e' : Endpoint} {clock : ℕ} (h : e.runSendFIN clock = .ok e') :
    e.Pours e' := by
  unfold runSendFIN at h
  split at h
  · cases h
    exact .of_same rfl rfl rfl (Or.inr rfl)
  · obtain ⟨c, hc, h⟩ := bind_eq_ok.mp h
    cases h
    unfold TcpController.sendFIN at hc
    split at hc
    · cases hc
      exact .of_same rfl rfl rfl (Or.inr rfl)
    · obtain ⟨⟨p, c₁⟩, hwin, hc⟩ := bind_eq_ok.mp hc
      cases hc
      obtain ⟨-, w, watch, rfl, -⟩ := TcpController.sendFINWindow_frame hwin
      unfold TcpController.sendFINState
      split <;> exact .of_same rfl rfl rfl (Or.inr rfl)

theorem step_pours {e e' : Endpoint} {g g' : Globals} {a : Action}
    (h : e.step g a = .ok (g', e')) : e.Pours e' := by
  cases a with
  | writeData buf =>
    cases h
    obtain ⟨b, l, hw, hb⟩ := e.writeData_frame buf
    rw [hw]
    exact ⟨⟨l, rfl, by simp [RingBuffer.size_eq, hb], fun _ => hb⟩, rfl, fun _ => rfl⟩
  | readData size =>
    obtain ⟨e₁, h₁, heq⟩ := map_eq_ok.mp h
    cases heq
    obtain ⟨b, ps, r, rfl, -, hcap⟩ := readData_frame h₁
    exact .of_same rfl rfl hcap (Or.inr rfl)
  | shutDown =>
    cases h
    obtain ⟨b, k, hs, -⟩ := e.shutDownSocket_frame
    rw [hs]
    exact .of_same rfl rfl rfl (Or.inr rfl)
  | close =>
    cases h
    obtain ⟨b, k, hs, -⟩ := e.closeSocket_frame
    rw [hs]
    exact .of_same rfl rfl rfl (Or.inr rfl)
  | sendFIN =>
    obtain ⟨e₁, h₁, heq⟩ := map_eq_ok.mp h
    cases heq
    exact runSendFIN_pours h₁
  | sendBufferListener =>
    obtain ⟨c, h₁, heq⟩ := map_eq_ok.mp h
    cases heq
    rcases TcpController.sendBufferListener_frame h₁ with
      rfl | ⟨hmay, c₁, rfl, rfl | ⟨_, -, rfl⟩ | hsend⟩
    · exact .of_same rfl rfl rfl (Or.inr rfl)
    · exact .of_same rfl rfl rfl (Or.inl hmay)
    · exact .of_same rfl rfl rfl (Or.inl hmay)
    · -- what the listener takes from the buffer it has put into packets
      obtain ⟨w, b, t, ps, new, rfl, hb, -⟩ := hsend
      exact ⟨⟨[], by simp, by simpa using hb, fun hno => absurd hmay hno⟩, rfl,
        fun hno => absurd hmay hno⟩
  | receiveBufferListener =>
    cases h
    obtain ⟨b, o, hb, hcap⟩ := e.con.receiveBufferListener_frame
    rw [hb]
    exact .of_same rfl rfl hcap (Or.inr rfl)
  | timeoutReTransmitter =>
    cases h
    unfold TcpController.timeoutReTransmitter
    simp only
    split
    · obtain ⟨b, ps, hre, -⟩ := e.con.resendBase_frame
      rw [hre]
      exact .of_same rfl rfl rfl (Or.inr rfl)
    · exact .of_same rfl rfl rfl (Or.inr rfl)
  | probeWindowSize =>
    cases h
    unfold TcpController.probeWindowSize
    split
    · exact .of_same rfl rfl rfl (Or.inr rfl)
    · exact .of_same rfl rfl rfl (Or.inr rfl)
  | handlePacket => exact handleNext_pours h

end Endpoint

end NetStack
