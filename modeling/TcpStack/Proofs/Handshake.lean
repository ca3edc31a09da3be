import TcpStack.Proofs.Sending

/-!
# TcpStack — the three-way handshake

How far a connection is opened is a matter of both ends and of everything in flight. `Phase`
lists the four stages:

* `listening` — the client's SYN is on its way, the server has not handled it;
* `synRcvd` — the server has answered, the client has not handled the SYN-ACK;
* `half` — the client is connected, the server waits for the acknowledgement of its SYN-ACK;
* `opened` — both SYNs are acknowledged.

The stages rest on the order of the packets: no SYN follows an acknowledgement of the client,
and until the server is connected everything it sends is a SYN-ACK or an acknowledgement.
-/

namespace NetStack

open Tiling Transition

variable [HyLib]

/-! ## Packets of the handshake -/

/-- The client's SYN. -/
def Packet.IsSyn (p : Packet) : Prop :=
  p.kind = .syn ∧ p.tcpHeader.seqNum = 0 ∧ p.payloadSize = 1

/-- The server's SYN-ACK. -/
def Packet.IsSynAck (p : Packet) : Prop :=
  p.kind = .synAck ∧ p.tcpHeader.seqNum = 0 ∧ p.tcpHeader.ackNum = 1

/-- A FIN or a data packet with payload: it goes to the receive window. -/
def Packet.Delivered (p : Packet) : Prop :=
  p.kind = .fin ∨ p.kind = .data ∧ p.payloadSize ≠ 0

instance (p : Packet) : Decidable p.Delivered := inferInstanceAs (Decidable (_ ∨ _))

/-! ## One end -/

/-- The first packet `p` is not acknowledged, and only FINs are registered behind it. -/
structure Opening (e : Endpoint) (p : Packet) (fins : List Packet) : Prop where
  window : e.con.sendWindow.Holds (p :: fins) 0
  history : History (p :: fins)
  sync : p.tcpHeader.sync = true
  closing : ∀ q ∈ fins, q.tcpHeader.fin = true
  tasks : fins.length + e.finTasks ≤ e.shutDown.toNat + e.closed.toNat
  capacity : e.con.sendWindow.capacity ≠ 0
  sending : e.con.sending = false

/-- What an endpoint that has handled its peer's first packet knows. -/
structure Met (e : Endpoint) (first : Packet → Prop) : Prop where
  head : ∃ q l, e.handled = q :: l ∧ first q
  zero : ∀ s ∈ e.handled, s.tcpHeader.sync = true → s.tcpHeader.seqNum = 0
  base : (∀ p ∈ e.handled, ¬ p.Delivered) → e.con.recvWindow.recvBase = 1

theorem Met.handled_ne {e : Endpoint} {first : Packet → Prop} (h : Met e first) :
    e.handled ≠ [] := by
  obtain ⟨q, l, hq, -⟩ := h.head
  simp [hq]

/-- The client in SYN_SENT. -/
structure SynSent (c : Endpoint) (up : List Packet) : Prop where
  state : c.con.state = .synSent
  handled : c.handled = []
  opening : ∃ p fins, Opening c p fins ∧ p.IsSyn
  up : ∀ q ∈ up, q.IsSyn

/-- The server before its first packet. -/
structure Fresh (v : Endpoint) : Prop where
  state : v.con.state = .closed
  shutdown : v.con.shutdown = false
  handled : v.handled = []
  window : v.con.sendWindow.Holds [] 0
  capacity : v.con.sendWindow.capacity ≠ 0
  tasks : v.finTasks ≤ v.shutDown.toNat + v.closed.toNat
  recvWindow : v.con.recvWindow.recvBase = 0 ∧ v.con.recvWindow.pkts = []
  unsent : v.con.sendBuffer.bytes = v.written
  sending : v.con.sending = false

/-- The server in SYN_RCVD. -/
structure SynReceived (v : Endpoint) : Prop where
  state : v.con.state = .synRcvd
  met : Met v Packet.IsSyn
  opening : ∃ q fins, Opening v q fins ∧ q.IsSynAck

/-- An end whose SYN is acknowledged. -/
structure Joined (e : Endpoint) (first : Packet → Prop) : Prop where
  synSent : e.con.state ≠ .synSent
  synRcvd : e.con.state ≠ .synRcvd
  met : Met e first
  queue : ∀ node ∈ e.con.sendWindow.pktsToAck, node.pkt.Plain

/-! ## The connection -/

/-- **The stages of the handshake**, over the client `c`, the server `v` and the packets in
flight in both directions. -/
inductive Phase (c v : Endpoint) (up down : List Packet) : Prop where
  | listening (client : SynSent c up) (server : Fresh v) (hdown : down = [])
  | synRcvd (client : SynSent c up) (server : SynReceived v) (hdown : ∀ q ∈ down, q.IsSynAck)
  | half (client : Joined c Packet.IsSynAck) (base : c.con.recvWindow.recvBase = 1)
      (server : SynReceived v) (hsyn : ∀ q ∈ up, q.tcpHeader.sync = true → q.IsSyn)
      (horder : up.Pairwise fun p q => q.tcpHeader.sync = true → p.tcpHeader.sync = true)
      (hack : ∀ q ∈ up, q.kind = .ack → q.tcpHeader.ackNum = 1)
      (hdown : ∀ q ∈ down, q.IsSynAck ∨ q.kind = .ack)
  | opened (client : Joined c Packet.IsSynAck) (server : Joined v Packet.IsSyn)
      (acked : ∃ q ∈ v.handled, q.kind = .ack) (hup : ∀ q ∈ up, q.tcpHeader.sync = false)
      (hdown : ∀ q ∈ down, q.tcpHeader.sync = true → q.IsSynAck)

/-- Losing packets does not change the stage. -/
theorem Phase.sublist {c v : Endpoint} {up down up' down' : List Packet} (h : Phase c v up down)
    (hu : up'.Sublist up) (hd : down'.Sublist down) : Phase c v up' down' := by
  cases h with
  | listening client server hdown =>
    refine .listening { client with up := fun q hq => client.up q (hu.subset hq) } server ?_
    rw [hdown] at hd
    exact List.sublist_nil.mp hd
  | synRcvd client server hdown =>
    exact .synRcvd { client with up := fun q hq => client.up q (hu.subset hq) } server
      fun q hq => hdown q (hd.subset hq)
  | half client base server hsyn horder hack hdown =>
    exact .half client base server (fun q hq => hsyn q (hu.subset hq)) (horder.sublist hu)
      (fun q hq => hack q (hu.subset hq)) fun q hq => hdown q (hd.subset hq)
  | opened client server acked hup hdown =>
    exact .opened client server acked (fun q hq => hup q (hu.subset hq))
      fun q hq => hdown q (hd.subset hq)

/-! ## An end that opens -/

namespace Opening

variable {e e' : Endpoint} {p : Packet} {fins : List Packet}

/-- SYN and FINs take one sequence number each. -/
theorem offset_eq (h : Opening e p fins) {i : ℕ} (hi : i ≤ fins.length + 1) :
    offset (p :: fins) i = i := by
  have hcontrol : ∀ q ∈ p :: fins, q.control = true := by
    intro q hq
    rcases List.mem_cons.mp hq with rfl | hq
    · simp [Packet.control, h.sync]
    · simp [Packet.control, h.closing q hq]
  have hstream : stream ((p :: fins).take i) = [] := by
    rw [stream, List.flatMap_eq_nil_iff]
    intro q hq
    have hq' := List.mem_of_mem_take hq
    exact ((h.history.regular q hq').control (hcontrol q hq')).1
  have hcount : ((p :: fins).take i).countP Packet.control = ((p :: fins).take i).length :=
    List.countP_eq_length.mpr fun q hq => hcontrol q (List.mem_of_mem_take hq)
  rw [NetStack.offset_eq h.history.regular, hstream, hcount, List.length_take]
  simp only [List.length_nil, List.length_cons]
  omega

theorem length_le (h : Opening e p fins) : fins.length ≤ 2 := by
  have := h.tasks
  have h₁ := Bool.toNat_le e.shutDown
  have h₂ := Bool.toNat_le e.closed
  omega

theorem size_toNat (h : Opening e p fins) : e.con.sendWindow.size.toNat = fins.length + 1 := by
  have hle := h.length_le
  rw [h.window.size, offset_zero, List.length_cons, h.offset_eq le_rfl, Nat.sub_zero,
    UInt32.toNat_ofNat_of_lt' (by simp only [UInt32.size]; omega)]

/-- The front of the queue is the first packet. -/
theorem queue (h : Opening e p fins) : ∃ node nodes, e.con.sendWindow.pktsToAck = node :: nodes ∧
    node.pkt = p ∧ nodes.map (·.pkt) = fins := by
  have hq := h.window.queue
  rw [List.drop_zero] at hq
  obtain ⟨node, nodes, hcons, hnode, hnodes⟩ := List.map_eq_cons_iff.mp hq
  exact ⟨node, nodes, hcons, hnode, hnodes⟩

theorem resendBase_eq (h : Opening e p fins) :
    e.con.resendBase = { e.con with
      sendWindow := { e.con.sendWindow with hasRetransmittedPkt := true }
      pktSendBuffer := e.con.pktSendBuffer ++ [p] } := by
  obtain ⟨node, nodes, hq, rfl, -⟩ := h.queue
  have hcopy := (h.history.regular node.pkt (by simp)).copy_eq
  simp [TcpController.resendBase, SendWindow.getBasePakcketToReSend, hq, TcpController.sendPacket,
    hcopy]

/-- Only the send window and the requests to close matter. -/
theorem congr (h : Opening e p fins) (hq : e'.con.sendWindow.pktsToAck = e.con.sendWindow.pktsToAck)
    (hb : e'.con.sendWindow.sendBase = e.con.sendWindow.sendBase)
    (hs : e'.con.sendWindow.size = e.con.sendWindow.size)
    (hc : e'.con.sendWindow.capacity = e.con.sendWindow.capacity)
    (ht : fins.length + e'.finTasks ≤ e'.shutDown.toNat + e'.closed.toNat)
    (hsend : e'.con.sending = e.con.sending) : Opening e' p fins :=
  { h with
    window := ⟨hq ▸ h.window.queue, hb ▸ h.window.base, hs ▸ h.window.size, h.window.una_le⟩
    tasks := ht
    capacity := hc ▸ h.capacity
    sending := hsend.trans h.sending }

/-- Registering a FIN before the first packet is acknowledged. It is not sent. -/
theorem sendFIN (h : Opening e p fins) (hconn : e.con.inConnectingState = true) {clock : ℕ}
    (hrun : e.runSendFIN clock = .ok e') :
    ∃ fins', Opening e' p fins' ∧ e'.con.pktSendBuffer = e.con.pktSendBuffer := by
  unfold Endpoint.runSendFIN at hrun
  split at hrun
  · cases hrun
    exact ⟨fins, h, rfl⟩
  · next hwait =>
    simp only [Bool.or_eq_true, decide_eq_true_eq, not_or] at hwait
    have htasks := h.tasks
    obtain ⟨c, hc, hrun⟩ := bind_eq_ok.mp hrun
    cases hrun
    unfold TcpController.sendFIN at hc
    split at hc
    · cases hc
      refine ⟨fins, h.congr rfl rfl rfl rfl ?_ rfl, rfl⟩
      show _ + (e.finTasks - 1) ≤ e.shutDown.toNat + e.closed.toNat
      omega
    · rw [TcpController.sendFINWindow_eq h.window h.history.tiled, ok_bind] at hc
      cases hc
      set f := e.con.finPacket with hf
      -- the state section refuses: only ESTABLISHED and CLOSE_WAIT send the FIN
      have hstate : TcpController.sendFINState { e.con with
          sendWindow :=
            (e.con.sendWindow.setCapacity (e.con.sendWindow.size + 1)).enqueue clock f } f
          = { e.con with
            sendWindow :=
              (e.con.sendWindow.setCapacity (e.con.sendWindow.size + 1)).enqueue clock f } := by
        unfold TcpController.sendFINState
        split
        · next hst =>
          have hst' : e.con.state = .established := hst
          simp [TcpController.inConnectingState, hst'] at hconn
        · next hst =>
          have hst' : e.con.state = .closeWait := hst
          simp [TcpController.inConnectingState, hst'] at hconn
        · rfl
      rw [hstate]
      refine ⟨fins ++ [f],
        ⟨(h.window.setCapacity _).enqueue clock f, ?_, h.sync, ?_, ?_, ?_, h.sending⟩, rfl⟩
      · exact h.history.concat e.con.finPacket_regular h.window.nextSeqNumberToSend
          (fun hs => by simp [hf, TcpController.finPacket, TcpController.makeFinPacket,
            TcpController.tcpHeader] at hs) (fun hs => by cases hs)
      · intro q hq
        rcases List.mem_append.mp hq with hq | hq
        · exact h.closing q hq
        · rw [List.mem_singleton.mp hq]
          rfl
      · show (fins ++ [f]).length + (e.finTasks - 1) ≤ e.shutDown.toNat + e.closed.toNat
        rw [List.length_append, List.length_singleton]
        omega
      · -- the size is far from the wrap-around, as there are at most two FINs
        show e.con.sendWindow.size + 1 ≠ 0
        intro h0
        have hnat := congrArg UInt32.toNat h0
        have hle := h.length_le
        rw [UInt32.toNat_add, h.size_toNat, UInt32.toNat_one, UInt32.toNat_zero] at hnat
        omega

/-- **Until the first packet is acknowledged, it is all an end sends.** -/
theorem step (h : Opening e p fins) (hconn : e.con.inConnectingState = true) {g g' : Globals}
    {a : Action} (ha : a ≠ .handlePacket) (hrun : e.step g a = .ok (g', e')) :
    ∃ fins', Opening e' p fins' ∧ ∃ ps, e'.con.pktSendBuffer = e.con.pktSendBuffer ++ ps ∧
      ∀ q ∈ ps, q = p := by
  have hnone : ∀ {e' : Endpoint}, e'.con.pktSendBuffer = e.con.pktSendBuffer →
      ∃ ps, e'.con.pktSendBuffer = e.con.pktSendBuffer ++ ps ∧ ∀ q ∈ ps, q = p :=
    fun hsame => ⟨[], by simp [hsame], by simp⟩
  have htasks := h.tasks
  cases a with
  | writeData buf =>
    cases hrun
    obtain ⟨b, l, hw, -⟩ := e.writeData_frame buf
    rw [hw]
    exact ⟨fins, h.congr rfl rfl rfl rfl htasks rfl, hnone rfl⟩
  | readData size =>
    obtain ⟨e₁, h₁, heq⟩ := map_eq_ok.mp hrun
    cases heq
    obtain ⟨b, ps, r, rfl, -⟩ := Endpoint.readData_frame h₁
    exact ⟨fins, h.congr rfl rfl rfl rfl htasks rfl, hnone rfl⟩
  | shutDown =>
    cases hrun
    obtain ⟨b, k, hs, hflag⟩ := e.shutDownSocket_frame
    rw [hs]
    refine ⟨fins, h.congr rfl rfl rfl rfl ?_ rfl, hnone rfl⟩
    show fins.length + (e.finTasks + k) ≤ b.toNat + e.closed.toNat
    omega
  | close =>
    cases hrun
    obtain ⟨b, k, hs, hflag⟩ := e.closeSocket_frame
    rw [hs]
    refine ⟨fins, h.congr rfl rfl rfl rfl ?_ rfl, hnone rfl⟩
    show fins.length + (e.finTasks + k) ≤ e.shutDown.toNat + b.toNat
    omega
  | sendFIN =>
    obtain ⟨e₁, h₁, heq⟩ := map_eq_ok.mp hrun
    cases heq
    obtain ⟨fins', ho, hsend⟩ := h.sendFIN hconn h₁
    exact ⟨fins', ho, hnone hsend⟩
  | sendBufferListener =>
    obtain ⟨c, h₁, heq⟩ := map_eq_ok.mp hrun
    cases heq
    rcases TcpController.sendBufferListener_frame h₁ with rfl | ⟨hmay, -⟩
    · exact ⟨fins, h, hnone rfl⟩
    · -- data is only sent once the end is connected
      simp [TcpController.MaySend, hconn, h.sending] at hmay
  | receiveBufferListener =>
    cases hrun
    obtain ⟨b, o, hb, -⟩ := e.con.receiveBufferListener_frame
    rw [hb]
    exact ⟨fins, h.congr rfl rfl rfl rfl htasks rfl, hnone rfl⟩
  | timeoutReTransmitter =>
    cases hrun
    unfold TcpController.timeoutReTransmitter
    simp only
    split
    · -- the packet at the base is the first one
      rw [h.resendBase_eq]
      exact ⟨fins, h.congr rfl rfl rfl rfl htasks rfl, [p], rfl, by simp⟩
    · exact ⟨fins, h.congr rfl rfl rfl rfl htasks rfl, hnone rfl⟩
  | probeWindowSize =>
    cases hrun
    unfold TcpController.probeWindowSize
    rw [if_neg h.capacity]
    exact ⟨fins, h, hnone rfl⟩
  | handlePacket => exact absurd rfl ha

end Opening

/-! ## An end before and after -/

/-- Without a `SendFIN` a server that has handled nothing stays silent. -/
theorem Fresh.step {v v' : Endpoint} (h : Fresh v) {g g' : Globals} {a : Action}
    (ha : a ≠ .handlePacket)
    (hfin : a = .sendFIN → v.finTasks = 0 ∨ v.con.sendBuffer.empty = false)
    (hrun : v.step g a = .ok (g', v')) :
    Fresh v' ∧ v'.con.pktSendBuffer = v.con.pktSendBuffer := by
  have hq := Endpoint.step_quiet ha hrun
  have hstate : v'.con.state = .closed := by
    rcases hq.state with hs | ⟨hs, -⟩ | ⟨hs, -⟩
    · rw [hs, h.state]
    · simp [h.state] at hs
    · simp [h.state] at hs
  have hconn : v.con.inConnectingState = true := by
    simp [TcpController.inConnectingState, h.state]
  -- an action that leaves the send window alone leaves a fresh server fresh
  have hkeep : v'.con.sendWindow = v.con.sendWindow →
      v'.finTasks ≤ v'.shutDown.toNat + v'.closed.toNat →
      v'.con.sendBuffer.bytes = v'.written → v'.con.sending = v.con.sending → Fresh v' :=
    fun hw ht hb hs =>
    ⟨hstate, hq.shutdown.trans h.shutdown, hq.handled.trans h.handled, hw ▸ h.window,
      hw ▸ h.capacity, ht, hq.recvWindow ▸ h.recvWindow, hb,
      hs.trans h.sending⟩
  have htasks := h.tasks
  have hunsent := h.unsent
  cases a with
  | writeData buf =>
    cases hrun
    obtain ⟨b, l, hw, hb⟩ := v.writeData_frame buf
    rw [hw] at hkeep ⊢
    exact ⟨hkeep rfl htasks (by rw [hb, hunsent]) rfl, rfl⟩
  | readData size =>
    obtain ⟨e₁, h₁, heq⟩ := map_eq_ok.mp hrun
    cases heq
    obtain ⟨b, ps, r, rfl, -⟩ := Endpoint.readData_frame h₁
    exact ⟨hkeep rfl htasks hunsent rfl, rfl⟩
  | shutDown =>
    cases hrun
    obtain ⟨b, k, hs, hflag⟩ := v.shutDownSocket_frame
    rw [hs] at hkeep ⊢
    refine ⟨hkeep rfl ?_ hunsent rfl, rfl⟩
    show v.finTasks + k ≤ b.toNat + v.closed.toNat
    omega
  | close =>
    cases hrun
    obtain ⟨b, k, hs, hflag⟩ := v.closeSocket_frame
    rw [hs] at hkeep ⊢
    refine ⟨hkeep rfl ?_ hunsent rfl, rfl⟩
    show v.finTasks + k ≤ v.shutDown.toNat + b.toNat
    omega
  | sendFIN =>
    obtain ⟨e₁, h₁, heq⟩ := map_eq_ok.mp hrun
    cases heq
    -- the task is not there, or waits for the send buffer
    have hwait : (v.finTasks = 0 || !v.con.sendFINWait) = true := by
      rcases hfin rfl with h0 | hne
      · simp [h0]
      · simp [TcpController.sendFINWait, h.shutdown, hne]
    rw [Endpoint.runSendFIN, if_pos (by simpa using hwait)] at h₁
    cases h₁
    exact ⟨h, rfl⟩
  | sendBufferListener =>
    obtain ⟨c, h₁, heq⟩ := map_eq_ok.mp hrun
    cases heq
    rcases TcpController.sendBufferListener_frame h₁ with rfl | ⟨hmay, -⟩
    · exact ⟨h, rfl⟩
    · simp [TcpController.MaySend, hconn, h.sending] at hmay
  | receiveBufferListener =>
    cases hrun
    obtain ⟨b, o, hb, -⟩ := v.con.receiveBufferListener_frame
    rw [hb] at hkeep ⊢
    exact ⟨hkeep rfl htasks hunsent rfl, rfl⟩
  | timeoutReTransmitter =>
    cases hrun
    -- there is nothing to send again, only the congestion control is reset
    have hnil : v.con.sendWindow.pktsToAck = [] := h.window.queue_eq_nil_iff.mpr rfl
    have hidle : v.con.timeoutReTransmitter = { v.con with
        ssthresh := v.con.cwnd / 2, cwnd := kDefaultDataPacketSize, ccState := .slowStart } := by
      simp [TcpController.timeoutReTransmitter, SendWindow.numPacketsToAck, hnil]
    rw [hidle] at hkeep ⊢
    exact ⟨hkeep rfl htasks hunsent rfl, rfl⟩
  | probeWindowSize =>
    cases hrun
    rw [TcpController.probeWindowSize, if_neg h.capacity]
    exact ⟨h, rfl⟩
  | handlePacket => exact absurd rfl ha

/-- Handling a further packet. -/
theorem Met.snoc {e e' : Endpoint} {first : Packet → Prop} (h : Met e first) {pkt : Packet}
    (hh : e'.handled = e.handled ++ [pkt])
    (hz : pkt.tcpHeader.sync = true → pkt.tcpHeader.seqNum = 0)
    (hb : ¬ pkt.Delivered → e'.con.recvWindow.recvBase = e.con.recvWindow.recvBase ∨
      e'.con.recvWindow.recvBase = 1) : Met e' first where
  head := by
    obtain ⟨q, l, hl, hq⟩ := h.head
    exact ⟨q, l ++ [pkt], by simp [hh, hl], hq⟩
  zero := by
    intro s hs hsync
    rw [hh] at hs
    rcases List.mem_append.mp hs with hs | hs
    · exact h.zero s hs hsync
    · rw [List.mem_singleton.mp hs] at hsync ⊢
      exact hz hsync
  base := by
    intro hnone
    rw [hh] at hnone
    rcases hb (hnone pkt (by simp)) with hsame | hone
    · rw [hsame]
      exact h.base fun p hp => hnone p (by simp [hp])
    · exact hone

/-- An end whose SYN is acknowledged sends FINs and data. -/
theorem Joined.step {e e' : Endpoint} {first : Packet → Prop} (h : Joined e first)
    {g g' : Globals} {a : Action} (ha : a ≠ .handlePacket) (hrun : e.step g a = .ok (g', e')) :
    Joined e' first ∧ ∃ ps, e'.con.pktSendBuffer = e.con.pktSendBuffer ++ ps ∧
      ∀ q ∈ ps, q.Plain := by
  have hq := Endpoint.step_quiet ha hrun
  obtain ⟨ps, hps, hplain⟩ := hq.emits
  obtain ⟨new, hnew, hnewp⟩ := hq.queue
  refine ⟨⟨?_, ?_, ⟨?_, ?_, ?_⟩, ?_⟩, ps, hps, ?_⟩
  · rcases hq.state with hs | ⟨-, hs⟩ | ⟨-, hs⟩
    · rw [hs]
      exact h.synSent
    · simp [hs]
    · simp [hs]
  · rcases hq.state with hs | ⟨-, hs⟩ | ⟨-, hs⟩
    · rw [hs]
      exact h.synRcvd
    · simp [hs]
    · simp [hs]
  · rw [hq.handled]
    exact h.met.head
  · rw [hq.handled]
    exact h.met.zero
  · rw [hq.handled, hq.recvWindow]
    exact h.met.base
  · intro node hn
    rw [hnew] at hn
    exact (List.mem_append.mp hn).elim (h.queue node) (hnewp node)
  · intro q hq'
    rcases hplain q hq' with hp | ⟨node, hn, rfl⟩
    · exact hp
    · rw [Packet.Plain, Packet.copy_kind]
      exact h.queue node hn

/-! ## Handling a packet -/

theorem Endpoint.handleNext_cons {e e' : Endpoint} {g g' : Globals} {pkt : Packet}
    {rest : List Packet} (hbuf : e.con.pktRecvBuffer = pkt :: rest)
    (h : e.handleNext g = .ok (g', e')) :
    ∃ c, { e.con with pktRecvBuffer := rest }.handlePacket g pkt = .ok (g', c) ∧
      e' = { e with con := c, handled := e.handled ++ [pkt] } := by
  unfold Endpoint.handleNext at h
  rw [hbuf] at h
  obtain ⟨⟨g₁, c⟩, hc, h⟩ := bind_eq_ok.mp h
  cases h
  exact ⟨c, hc, rfl⟩

omit [HyLib] in
/-- The number `ReceivePacket` returns is the receive base it leaves. -/
theorem RecvWindow.receivePacket_ackNum {w w' : RecvWindow} {p : Packet} {ackNum : UInt32}
    {chain : List Packet} (h : w.receivePacket p = .ok (ackNum, chain, w')) :
    ackNum = w'.recvBase := by
  rcases RecvWindow.receivePacket_cases h with ⟨-, rfl, -, rfl⟩ |
    ⟨before, after, -, -, -, rfl, -, rfl⟩ | ⟨-, -, -, -, -, rfl⟩
  · rfl
  · rfl
  · rfl

omit [HyLib] in
/-- The first packet of a new window. -/
theorem RecvWindow.receivePacket_first {w : RecvWindow} {p : Packet} (hbase : w.recvBase = 0)
    (hpkts : w.pkts = []) (hseq : p.tcpHeader.seqNum = 0) (hsize : p.payloadSize = 1) :
    w.receivePacket p = .ok (1, [p], { w with recvBase := 1, pkts := [] }) := by
  simp [RecvWindow.receivePacket, hbase, hpkts, hseq, hsize, RecvWindow.insertWalk,
    RecvWindow.overlapsNext, RecvWindow.chainWalk, RecvWindow.endOf, bind, Except.bind]

/-- What an end does with a packet that is no SYN and, in SYN_SENT, no SYN-ACK. -/
structure TcpController.Handles (c c' : TcpController) (pkt : Packet) : Prop where
  pktRecvBuffer : c'.pktRecvBuffer = c.pktRecvBuffer
  queue : c'.sendWindow.pktsToAck <:+ c.sendWindow.pktsToAck
  window : pkt.kind ≠ .ack → c'.sendWindow = c.sendWindow
  state : c'.state = c.state ∨ c'.state ≠ .synSent ∧ c'.state ≠ .synRcvd
  waiting : c.inConnectingState = true → pkt.kind ≠ .ack ∨ c.state ≠ .synRcvd → c'.state = c.state
  base : ¬ pkt.Delivered → c'.recvWindow.recvBase = c.recvWindow.recvBase ∨
    pkt.kind = .synAck ∧ c'.recvWindow.recvBase = pkt.tcpHeader.seqNum + 1
  emits : ∃ ps, c'.pktSendBuffer = c.pktSendBuffer ++ ps ∧ ∀ q ∈ ps,
    (pkt.kind = .ack ∧ ∃ node ∈ c.sendWindow.pktsToAck, q = node.pkt.copy) ∨
      pkt.kind ≠ .ack ∧ q.kind = .ack ∧ q.tcpHeader.ackNum = c'.recvWindow.recvBase

namespace TcpController

variable {c c' : TcpController} {g g' : Globals} {pkt : Packet}

/-- `HandleDataPacket` and `HandleFIN` past the state section: the window of the own direction
is not concerned. -/
theorem Handles.of_receiveAndAck (hd : pkt.Delivered) (h : c.receiveAndAck pkt = .ok c') :
    c.Handles c' pkt := by
  obtain ⟨ackNum, chain, w, b, o, p, hrecv, hp, hnum, -, rfl⟩ := receiveAndAck_frame h
  refine ⟨rfl, List.suffix_refl _, fun _ => rfl, Or.inl rfl, fun _ _ => rfl,
    fun hnd => absurd hd hnd, [p], rfl, fun q hq => Or.inr ?_⟩
  rw [List.mem_singleton.mp hq]
  refine ⟨?_, hp, hnum.trans (RecvWindow.receivePacket_ackNum hrecv)⟩
  rcases hd with hk | ⟨hk, -⟩ <;> simp [hk]

/-- The state section of `HandleACK` does nothing in CLOSED and SYN_SENT. -/
theorem handleACKState_connecting {c : TcpController} (hconn : c.inConnectingState = true)
    (hr : c.state ≠ .synRcvd) (b : Bool) : c.handleACKState b = c := by
  simp only [inConnectingState, Bool.or_eq_true, decide_eq_true_eq, hr, or_false] at hconn
  rcases hconn with hs | hs <;> simp [handleACKState, hs]

/-- The state section of `HandleACK` leaves SYN_RCVD and does not enter a connecting state. -/
theorem handleACKState_state (c : TcpController) (b : Bool) :
    (c.handleACKState b).state = c.state ∨
      (c.handleACKState b).state ≠ .synSent ∧ (c.handleACKState b).state ≠ .synRcvd := by
  unfold handleACKState closeAndDelete
  split
  · exact Or.inr (by simp)
  · split
    · exact Or.inr (by simp)
    · split
      · exact Or.inr (by simp)
      · split
        · exact Or.inr (by simp)
        · exact Or.inl rfl

theorem Handles.of_handleACK (hk : pkt.kind = .ack) (h : c.handleACK g pkt = .ok (g', c')) :
    c.Handles c' pkt := by
  obtain ⟨⟨b, g₁, c₁⟩, hwin, h⟩ := bind_eq_ok.mp h
  obtain ⟨res, w₀, w, t, pt, ps, hack, hw, -, hps, rfl⟩ := handleACKWindow_frame hwin
  have hsuffix := (SendWindow.newAckedPacket_suffix hack).1
  set c₁ : TcpController := { c with
    sendWindow := w, timer := t, proberTimer := pt, pktSendBuffer := c.pktSendBuffer ++ ps }
  have hstate := c₁.handleACKState_state b
  have hwait : c.inConnectingState = true → c.state ≠ .synRcvd →
      (c₁.handleACKState b).state = c.state := fun hconn hr => by
    rw [handleACKState_connecting (c := c₁) hconn hr]
  obtain ⟨st, t₁, t₂, k, sd, hc⟩ := c₁.handleACKState_frame b
  cases h
  rw [hc] at hstate hwait ⊢
  refine ⟨rfl, hw ▸ hsuffix, fun hne => absurd hk hne, hstate,
    fun hconn hr => hwait hconn (hr.resolve_left (not_not.mpr hk)),
    fun _ => Or.inl rfl, ps, rfl, fun q hq => ?_⟩
  obtain ⟨node, hn, rfl⟩ := hps q hq
  rw [hw] at hn
  exact Or.inl ⟨hk, node, hsuffix.subset hn, rfl⟩

/-- **Every handler but those that open the connection.** -/
theorem handles (hk : pkt.kind ≠ .syn) (hst : pkt.kind = .synAck → c.state ≠ .synSent)
    (h : c.handlePacket g pkt = .ok (g', c')) : c.Handles c' pkt := by
  unfold handlePacket at h
  split at h
  · next hsyn => exact absurd hsyn hk
  · next hsa =>
    unfold handleACKSYN at h
    rw [if_neg (hst hsa)] at h
    cases h
    refine ⟨rfl, List.suffix_refl _, fun _ => rfl, Or.inl rfl, fun _ _ => rfl,
      fun _ => Or.inr ⟨hsa, rfl⟩, _, rfl, fun q hq => Or.inr ?_⟩
    rw [List.mem_singleton.mp hq]
    exact ⟨by simp [hsa], makeAckPacket_kind _ _, rfl⟩
  · next hfin =>
    obtain ⟨c₁, h₁, heq⟩ := map_eq_ok.mp h
    cases heq
    have hh := Handles.of_receiveAndAck (Or.inl hfin) h₁
    obtain ⟨st, k, hs⟩ := c.handleFINState_frame
    have hst' : st = c.state ∨ st ≠ .synSent ∧ st ≠ .synRcvd := by
      have hst₁ : c.handleFINState.state = st := by rw [hs]
      rw [← hst₁]
      unfold handleFINState
      split <;> simp
    have hwait : c.inConnectingState = true → c.handleFINState = c := by
      intro hconn
      simp only [inConnectingState, Bool.or_eq_true, decide_eq_true_eq] at hconn
      rcases hconn with (hr | hr) | hr <;> simp [handleFINState, hr]
    have hkeep : c.inConnectingState = true → c'.state = c.state := by
      intro hconn
      rw [hwait hconn] at hh
      exact hh.waiting hconn (Or.inl (by simp [hfin]))
    rw [hs] at hh
    refine ⟨hh.pktRecvBuffer, hh.queue, hh.window, ?_, fun hconn _ => hkeep hconn,
      hh.base, hh.emits⟩
    rcases hh.state with hsame | hne
    · rw [hsame]
      exact hst'
    · exact Or.inr hne
  · next hack => exact Handles.of_handleACK hack h
  · cases h
    exact ⟨rfl, List.suffix_refl _, fun _ => rfl, Or.inl rfl, fun _ _ => rfl,
      fun _ => Or.inl rfl, [], by simp [closeAndDelete], by simp⟩
  · next hdata =>
    obtain ⟨c₁, h₁, heq⟩ := map_eq_ok.mp h
    cases heq
    unfold handleDataPacket at h₁
    split at h₁
    · cases h₁
      refine ⟨rfl, List.suffix_refl _, fun _ => rfl, Or.inl rfl, fun _ _ => rfl,
        fun _ => Or.inl rfl, _, rfl, fun q hq => Or.inr ?_⟩
      rw [List.mem_singleton.mp hq]
      exact ⟨by simp [hdata], makeAckPacket_kind _ _, rfl⟩
    · next hsize => exact Handles.of_receiveAndAck (Or.inr ⟨hdata, hsize⟩) h₁

end TcpController

/-- An acknowledgement of the first packet takes it from the window. -/
theorem Opening.newAckedPacket {e : Endpoint} {p : Packet} {fins : List Packet}
    (h : Opening e p fins) (g : Globals) {res : AckResult} {w : SendWindow} {g' : Globals}
    (hack : e.con.sendWindow.newAckedPacket g 1 = .ok (res, w, g')) :
    ∀ node ∈ w.pktsToAck, node.pkt.Plain := by
  have hone : offset (p :: fins) 1 = 1 := h.offset_eq (by omega)
  have hend : offset (p :: fins) (p :: fins).length ≤ 2 ^ 32 := by
    have := h.length_le
    rw [List.length_cons, h.offset_eq le_rfl]
    omega
  obtain ⟨res', w', g'', hrun, hholds, -⟩ :=
    h.window.newAckedPacket h.history.tiled g (j := 1) (by omega) (by simp) hend (by omega)
  rw [hone] at hrun
  cases hack.symm.trans hrun
  intro node hn
  have hmem : node.pkt ∈ (p :: fins).drop 1 := hholds.queue ▸ List.mem_map_of_mem hn
  have hmem' : node.pkt ∈ fins := hmem
  have hfin := h.closing _ hmem'
  have hreg := h.history.regular node.pkt (List.mem_cons_of_mem _ hmem')
  have hs : node.pkt.tcpHeader.sync = false := by
    by_contra hs
    simp [hreg.sync (by simpa using hs)] at hfin
  left
  rw [hreg.kind_eq hs, if_pos hfin]

section Handle

variable {e e' : Endpoint} {g g' : Globals} {pkt : Packet} {rest : List Packet}
  (hbuf : e.con.pktRecvBuffer = pkt :: rest) (hrun : e.handleNext g = .ok (g', e'))
include hbuf hrun

/-- An end whose SYN is acknowledged handles a packet. -/
theorem Joined.handle {first : Packet → Prop} (h : Joined e first) (hk : pkt.kind ≠ .syn)
    (hz : pkt.tcpHeader.sync = true → pkt.tcpHeader.seqNum = 0) :
    Joined e' first ∧ e'.con.pktRecvBuffer = rest ∧ e'.handled = e.handled ++ [pkt] ∧
      (¬ pkt.Delivered → e'.con.recvWindow.recvBase = e.con.recvWindow.recvBase ∨
        e'.con.recvWindow.recvBase = 1) ∧
      ∃ ps, e'.con.pktSendBuffer = e.con.pktSendBuffer ++ ps ∧ ∀ q ∈ ps,
        q.Plain ∨ q.kind = .ack ∧ q.tcpHeader.ackNum = e'.con.recvWindow.recvBase := by
  obtain ⟨c, hc, rfl⟩ := Endpoint.handleNext_cons hbuf hrun
  have hh := TcpController.handles (c := { e.con with pktRecvBuffer := rest }) hk
    (fun _ => h.synSent) hc
  have hbase : ¬ pkt.Delivered → c.recvWindow.recvBase = e.con.recvWindow.recvBase ∨
      c.recvWindow.recvBase = 1 := by
    intro hnd
    rcases hh.base hnd with hsame | ⟨hsa, hone⟩
    · exact Or.inl hsame
    · rw [hone, hz (Packet.sync_of_kind_synAck hsa).1]
      exact Or.inr rfl
  refine ⟨⟨?_, ?_, h.met.snoc rfl hz hbase, ?_⟩, hh.pktRecvBuffer, rfl, hbase, ?_⟩
  · rcases hh.state with hs | hs
    · rw [hs]
      exact h.synSent
    · exact hs.1
  · rcases hh.state with hs | hs
    · rw [hs]
      exact h.synRcvd
    · exact hs.2
  · exact fun node hn => h.queue node (hh.queue.subset hn)
  · obtain ⟨ps, hps, hemit⟩ := hh.emits
    refine ⟨ps, hps, fun q hq => ?_⟩
    rcases hemit q hq with ⟨-, node, hn, rfl⟩ | ⟨-, hack⟩
    · left
      rw [Packet.Plain, Packet.copy_kind]
      exact h.queue node hn
    · exact Or.inr hack

/-- **The client leaves SYN_SENT through `HandleACKSYN`.** -/
theorem SynSent.handle {up : List Packet} (h : SynSent e up) (hsa : pkt.IsSynAck) :
    Joined e' Packet.IsSynAck ∧ e'.con.pktRecvBuffer = rest ∧
      e'.con.recvWindow.recvBase = 1 ∧
      ∃ q, e'.con.pktSendBuffer = e.con.pktSendBuffer ++ [q] ∧ q.kind = .ack ∧
        q.tcpHeader.ackNum = 1 := by
  obtain ⟨c, hc, rfl⟩ := Endpoint.handleNext_cons hbuf hrun
  obtain ⟨hkind, hseq, hnum⟩ := hsa
  obtain ⟨p, fins, hopen, -⟩ := h.opening
  simp only [TcpController.handlePacket, hkind] at hc
  unfold TcpController.handleACKSYN at hc
  rw [if_pos h.state] at hc
  obtain ⟨⟨g₁, c₁⟩, h₁, hc⟩ := bind_eq_ok.mp hc
  obtain ⟨⟨res, w, g₂⟩, hack, h₁⟩ := bind_eq_ok.mp h₁
  cases h₁
  cases hc
  rw [hnum] at hack
  have hplain := hopen.newAckedPacket g hack
  have hmet : ∀ s ∈ e.handled ++ [pkt], s = pkt := by simp [h.handled]
  refine ⟨⟨by simp [TcpController.sendPacket], by simp [TcpController.sendPacket],
    ⟨⟨pkt, [], by simp [h.handled], hkind, hseq, hnum⟩, ?_, ?_⟩, hplain⟩, rfl, ?_, _, rfl,
    TcpController.makeAckPacket_kind _ _, ?_⟩
  · intro s hs _
    rw [hmet s hs, hseq]
  · intro _
    show pkt.tcpHeader.seqNum + 1 = 1
    rw [hseq]
    rfl
  · show pkt.tcpHeader.seqNum + 1 = 1
    rw [hseq]
    rfl
  · show pkt.tcpHeader.seqNum + 1 = 1
    rw [hseq]
    rfl


/-- **The server answers the first SYN.** -/
theorem Fresh.handle (h : Fresh e) (hsyn : pkt.IsSyn) :
    SynReceived e' ∧ e'.con.pktRecvBuffer = rest ∧
      ∃ q, e'.con.pktSendBuffer = e.con.pktSendBuffer ++ [q] ∧ q.IsSynAck := by
  obtain ⟨c, hc, rfl⟩ := Endpoint.handleNext_cons hbuf hrun
  obtain ⟨hkind, hseq, hpay⟩ := hsyn
  have hrecv := RecvWindow.receivePacket_first h.recvWindow.1 h.recvWindow.2 hseq hpay
  have hsize : e.con.sendWindow.size = 0 := h.window.size
  simp only [TcpController.handlePacket, hkind, TcpController.handleSYN, hrecv, ok_bind,
    hseq] at hc
  rw [if_neg (by decide), if_neg (by rw [hsize]; exact UInt32.lt_irrefl _)] at hc
  set c₀ : TcpController := { e.con with
    pktRecvBuffer := rest, recvWindow := { e.con.recvWindow with recvBase := 1, pkts := [] } }
    with hc₀
  set q := c₀.makeSyncAckPacket 0 1 with hq
  have hreg : q.Regular := c₀.makeSyncAckPacket_regular 0 1
  have hroom : ¬ (e.con.sendWindow.freeSpace < q.payloadSize ∧ e.con.sendWindow.capacity > 0) := by
    rintro ⟨hlt, hcap⟩
    have hlt' := UInt32.lt_iff_toNat_lt.mp hlt
    have hcap' := UInt32.lt_iff_toNat_lt.mp hcap
    rw [SendWindow.freeSpace_toNat, hsize, UInt32.toNat_zero] at hlt'
    rw [UInt32.toNat_zero] at hcap'
    have hq1 : q.payloadSize.toNat = 1 := rfl
    omega
  have hnext : q.tcpHeader.seqNum = e.con.sendWindow.nextSeqNumberToSend := by
    rw [h.window.nextSeqNumberToSend]
    rfl
  have hsent := h.window.sendPacket History.nil.tiled g.clock hnext hroom
  rw [hsent] at hc
  simp only [ok_bind, hreg.copy_eq] at hc
  cases hc
  have hmet : ∀ s ∈ e.handled ++ [pkt], s = pkt := by simp [h.handled]
  refine ⟨⟨rfl, ⟨⟨pkt, [], by simp [h.handled], hkind, hseq, hpay⟩, ?_, fun _ => rfl⟩, q, [],
    ⟨h.window.enqueue g.clock q, ?_, rfl, by simp, ?_, h.capacity, h.sending⟩, rfl, rfl, rfl⟩, rfl,
    q, rfl, rfl, rfl, rfl⟩
  · intro s hs _
    rw [hmet s hs, hseq]
  · exact History.nil.concat hreg rfl (fun _ => rfl) (fun _ => by simp [NoFin])
  · simpa using h.tasks

/-- A server in SYN_RCVD repeats its SYN-ACK when the SYN arrives again. -/
theorem SynReceived.handle_syn (h : SynReceived e) (hsyn : pkt.IsSyn) :
    SynReceived e' ∧ e'.con.pktRecvBuffer = rest ∧
      ∃ q, e'.con.pktSendBuffer = e.con.pktSendBuffer ++ [q] ∧ q.IsSynAck := by
  obtain ⟨c, hc, rfl⟩ := Endpoint.handleNext_cons hbuf hrun
  obtain ⟨hkind, hseq, hpay⟩ := hsyn
  obtain ⟨q, fins, hopen, hq⟩ := h.opening
  simp only [TcpController.handlePacket, hkind] at hc
  obtain ⟨c₁, h₁, heq⟩ := map_eq_ok.mp hc
  cases heq
  obtain ⟨⟨ackNum, chain, w⟩, hrecv, h₁⟩ := bind_eq_ok.mp h₁
  simp only at h₁
  split at h₁
  · cases h₁
  · next hnum =>
    have hbase : w.recvBase = 1 := by
      rw [← RecvWindow.receivePacket_ackNum hrecv, not_not.mp hnum, hseq]
      rfl
    have hsize : e.con.sendWindow.size > 0 := by
      rw [gt_iff_lt, UInt32.lt_iff_toNat_lt, hopen.size_toNat, UInt32.toNat_zero]
      omega
    rw [if_pos hsize] at h₁
    cases h₁
    have hopen' : Opening { e with con := { e.con with pktRecvBuffer := rest, recvWindow := w } }
        q fins := hopen.congr rfl rfl rfl rfl hopen.tasks rfl
    have hre := hopen'.resendBase_eq
    simp only at hre
    rw [hre]
    refine ⟨⟨h.state, h.met.snoc rfl (fun _ => hseq) (fun _ => Or.inr hbase), q, fins,
      hopen.congr rfl rfl rfl rfl hopen.tasks rfl, hq⟩, rfl, q, rfl, hq⟩

/-- **The acknowledgement of the SYN-ACK opens the server's side.** -/
theorem SynReceived.handle_ack (h : SynReceived e) (hkind : pkt.kind = .ack)
    (hnum : pkt.tcpHeader.ackNum = 1) :
    Joined e' Packet.IsSyn ∧ e'.con.pktRecvBuffer = rest ∧ e'.handled = e.handled ++ [pkt] ∧
      ∃ ps, e'.con.pktSendBuffer = e.con.pktSendBuffer ++ ps ∧ ∀ q ∈ ps, q.Plain := by
  obtain ⟨c, hc, rfl⟩ := Endpoint.handleNext_cons hbuf hrun
  obtain ⟨q, fins, hopen, -⟩ := h.opening
  have hsync := Packet.not_sync_of_kind (p := pkt) (by simp [hkind]) (by simp [hkind])
  simp only [TcpController.handlePacket, hkind] at hc
  obtain ⟨⟨b, g₁, c₁⟩, hwin, hc⟩ := bind_eq_ok.mp hc
  obtain ⟨res, w₀, w, t, pt, ps, hack, hw, -, hps, rfl⟩ :=
    TcpController.handleACKWindow_frame hwin
  rw [hnum] at hack
  have hplain := hopen.newAckedPacket g hack
  cases hc
  rw [TcpController.handleACKState, if_pos h.state]
  refine ⟨⟨by simp, by simp, h.met.snoc rfl (by simp [hsync]) (fun _ => Or.inl rfl), ?_⟩, rfl, rfl,
    ps, rfl, ?_⟩
  · intro node hn
    exact hplain node (hw ▸ hn)
  · intro p hp
    obtain ⟨node, hn, rfl⟩ := hps p hp
    rw [Packet.Plain, Packet.copy_kind]
    exact hplain node (hw ▸ hn)

/-- Anything else a server handles in SYN_RCVD is acknowledged at most. -/
theorem SynReceived.handle_other (h : SynReceived e) (hsync : pkt.tcpHeader.sync = false)
    (hkind : pkt.kind ≠ .ack) :
    SynReceived e' ∧ e'.con.pktRecvBuffer = rest ∧
      ∃ ps, e'.con.pktSendBuffer = e.con.pktSendBuffer ++ ps ∧ ∀ q ∈ ps, q.kind = .ack := by
  obtain ⟨c, hc, rfl⟩ := Endpoint.handleNext_cons hbuf hrun
  obtain ⟨q, fins, hopen, hq⟩ := h.opening
  have hk : pkt.kind ≠ .syn := fun hk => by simp [Packet.sync_of_kind_syn hk] at hsync
  have hk' : pkt.kind ≠ .synAck := fun hk => by
    simp [(Packet.sync_of_kind_synAck hk).1] at hsync
  have hh := TcpController.handles (c := { e.con with pktRecvBuffer := rest }) hk
    (by simp [h.state]) hc
  have hw : c.sendWindow = e.con.sendWindow := hh.window hkind
  have hstate : c.state = .synRcvd :=
    (hh.waiting (by simp [TcpController.inConnectingState, h.state]) (Or.inl hkind)).trans h.state
  refine ⟨⟨hstate, h.met.snoc rfl (by simp [hsync]) ?_, q, fins,
    hopen.congr (by rw [hw]) (by rw [hw]) (by rw [hw]) (by rw [hw]) hopen.tasks
      (TcpController.handlePacket_buffers hc).2.1, hq⟩,
    hh.pktRecvBuffer, ?_⟩
  · intro hnd
    rcases hh.base hnd with hsame | ⟨hsa, -⟩
    · exact Or.inl hsame
    · exact absurd hsa hk'
  · obtain ⟨ps, hps, hemit⟩ := hh.emits
    refine ⟨ps, hps, fun p hp => ?_⟩
    rcases hemit p hp with ⟨hack, -⟩ | ⟨-, hack, -⟩
    · exact absurd hack hkind
    · exact hack

end Handle

/-- The client in SYN_SENT repeats its SYN. -/
theorem SynSent.step {c c' : Endpoint} {up : List Packet} (h : SynSent c up) {g g' : Globals}
    {a : Action} (ha : a ≠ .handlePacket) (hrun : c.step g a = .ok (g', c')) :
    ∃ ps, c'.con.pktSendBuffer = c.con.pktSendBuffer ++ ps ∧ SynSent c' (up ++ ps) := by
  have hq := Endpoint.step_quiet ha hrun
  obtain ⟨p, fins, hopen, hp⟩ := h.opening
  obtain ⟨fins', hopen', ps, hps, hall⟩ :=
    hopen.step (by simp [TcpController.inConnectingState, h.state]) ha hrun
  refine ⟨ps, hps, ?_, hq.handled.trans h.handled, ⟨p, fins', hopen', hp⟩, ?_⟩
  · rcases hq.state with hs | ⟨hs, -⟩ | ⟨hs, -⟩
    · rw [hs, h.state]
    · simp [h.state] at hs
    · simp [h.state] at hs
  · intro q hq'
    rcases List.mem_append.mp hq' with hq' | hq'
    · exact h.up q hq'
    · rw [hall q hq']
      exact hp

/-- The server in SYN_RCVD repeats its SYN-ACK. -/
theorem SynReceived.step {v v' : Endpoint} (h : SynReceived v) {g g' : Globals} {a : Action}
    (ha : a ≠ .handlePacket) (hrun : v.step g a = .ok (g', v')) :
    ∃ ps, v'.con.pktSendBuffer = v.con.pktSendBuffer ++ ps ∧ SynReceived v' ∧
      ∀ q ∈ ps, q.IsSynAck := by
  have hq := Endpoint.step_quiet ha hrun
  obtain ⟨p, fins, hopen, hp⟩ := h.opening
  obtain ⟨fins', hopen', ps, hps, hall⟩ :=
    hopen.step (by simp [TcpController.inConnectingState, h.state]) ha hrun
  refine ⟨ps, hps, ⟨?_, ⟨?_, ?_, ?_⟩, p, fins', hopen', hp⟩, fun q hq' => hall q hq' ▸ hp⟩
  · rcases hq.state with hs | ⟨hs, -⟩ | ⟨hs, -⟩
    · rw [hs, h.state]
    · simp [h.state] at hs
    · simp [h.state] at hs
  · exact hq.handled ▸ h.met.head
  · exact hq.handled ▸ h.met.zero
  · rw [hq.handled, hq.recvWindow]
    exact h.met.base

/-! ## The stages are kept -/

namespace Phase

variable {c v c' v' : Endpoint} {up down : List Packet} {g g' : Globals} {a : Action}

theorem client_step (h : Phase c v up down) (ha : a ≠ .handlePacket)
    (hrun : c.step g a = .ok (g', c')) :
    ∃ ps, c'.con.pktSendBuffer = c.con.pktSendBuffer ++ ps ∧ Phase c' v (up ++ ps) down := by
  have hq := Endpoint.step_quiet ha hrun
  cases h with
  | listening client server hdown =>
    obtain ⟨ps, hps, hsent⟩ := client.step ha hrun
    exact ⟨ps, hps, .listening hsent server hdown⟩
  | synRcvd client server hdown =>
    obtain ⟨ps, hps, hsent⟩ := client.step ha hrun
    exact ⟨ps, hps, .synRcvd hsent server hdown⟩
  | half client base server hsyn horder hack hdown =>
    obtain ⟨hjoined, ps, hps, hplain⟩ := client.step ha hrun
    refine ⟨ps, hps, .half hjoined (hq.recvWindow ▸ base) server ?_ ?_ ?_ hdown⟩
    · intro q hq' hs
      rcases List.mem_append.mp hq' with hq' | hq'
      · exact hsyn q hq' hs
      · simp [(hplain q hq').sync] at hs
    · refine List.pairwise_append.mpr ⟨horder, ?_, fun p _ q hq' hs => ?_⟩
      · refine List.pairwise_of_forall_mem_list fun p _ q hq' hs => ?_
        simp [(hplain q hq').sync] at hs
      · simp [(hplain q hq').sync] at hs
    · intro q hq' hk
      rcases List.mem_append.mp hq' with hq' | hq'
      · exact hack q hq' hk
      · rcases hplain q hq' with hp | hp <;> simp [hp] at hk
  | opened client server acked hup hdown =>
    obtain ⟨hjoined, ps, hps, hplain⟩ := client.step ha hrun
    refine ⟨ps, hps, .opened hjoined server acked ?_ hdown⟩
    intro q hq'
    rcases List.mem_append.mp hq' with hq' | hq'
    · exact hup q hq'
    · exact (hplain q hq').sync

theorem client_handle {pkt : Packet} {rest : List Packet} (h : Phase c v up (pkt :: down))
    (hbuf : c.con.pktRecvBuffer = pkt :: rest) (hrun : c.handleNext g = .ok (g', c')) :
    c'.con.pktRecvBuffer = rest ∧
      ∃ ps, c'.con.pktSendBuffer = c.con.pktSendBuffer ++ ps ∧ Phase c' v (up ++ ps) down := by
  cases h with
  -- nothing has been sent to the client yet
  | listening client server hdown => cases hdown
  | synRcvd client server hdown =>
    -- the first SYN-ACK: the client is connected and its ACK goes out behind all of its SYNs
    obtain ⟨hjoined, hrest, hbase, q, hsend, hqk, hqn⟩ :=
      client.handle hbuf hrun (hdown pkt (by simp))
    have hqs := Packet.not_sync_of_kind (p := q) (by simp [hqk]) (by simp [hqk])
    refine ⟨hrest, [q], hsend, .half hjoined hbase server ?_ ?_ ?_ ?_⟩
    · intro p hp hs
      rcases List.mem_append.mp hp with hp | hp
      · exact client.up p hp
      · rw [List.mem_singleton.mp hp] at hs
        simp [hqs] at hs
    · refine List.pairwise_append.mpr ⟨?_, by simp, fun p _ r hr hs => ?_⟩
      · exact List.pairwise_of_forall_mem_list fun p hp _ _ _ =>
          Packet.sync_of_kind_syn (client.up p hp).1
      · rw [List.mem_singleton.mp hr] at hs
        simp [hqs] at hs
    · intro p hp hk
      rcases List.mem_append.mp hp with hp | hp
      · simp [(client.up p hp).1] at hk
      · rw [List.mem_singleton.mp hp, hqn]
    · exact fun p hp => Or.inl (hdown p (by simp [hp]))
  | half client base server hsyn horder hack hdown =>
    -- a further SYN-ACK or a plain ACK of the server: the receive base stays at 1
    have hpkt := hdown pkt (by simp)
    have hk : pkt.kind ≠ .syn := by
      rcases hpkt with hsa | hk
      · simp [hsa.1]
      · simp [hk]
    have hz : pkt.tcpHeader.sync = true → pkt.tcpHeader.seqNum = 0 := by
      rcases hpkt with hsa | hk
      · exact fun _ => hsa.2.1
      · simp [Packet.not_sync_of_kind (p := pkt) (by simp [hk]) (by simp [hk])]
    have hnd : ¬ pkt.Delivered := by
      rcases hpkt with hsa | hk
      · simp [Packet.Delivered, hsa.1]
      · simp [Packet.Delivered, hk]
    obtain ⟨hjoined, hrest, -, hb, ps, hps, hemit⟩ := client.handle hbuf hrun hk hz
    have hbase : c'.con.recvWindow.recvBase = 1 := by
      rcases hb hnd with hsame | hone
      · rw [hsame, base]
      · exact hone
    have hns : ∀ q ∈ ps, q.tcpHeader.sync = false := by
      intro q hq
      rcases hemit q hq with hp | ⟨hqk, -⟩
      · exact hp.sync
      · exact Packet.not_sync_of_kind (by simp [hqk]) (by simp [hqk])
    refine ⟨hrest, ps, hps, .half hjoined hbase server ?_ ?_ ?_ ?_⟩
    · intro q hq hs
      rcases List.mem_append.mp hq with hq | hq
      · exact hsyn q hq hs
      · simp [hns q hq] at hs
    · refine List.pairwise_append.mpr ⟨horder, ?_, fun p _ q hq hs => ?_⟩
      · exact List.pairwise_of_forall_mem_list fun p _ q hq hs => by simp [hns q hq] at hs
      · simp [hns q hq] at hs
    · intro q hq hqk
      rcases List.mem_append.mp hq with hq | hq
      · exact hack q hq hqk
      · rcases hemit q hq with hp | ⟨-, hnum⟩
        · rcases hp with hp | hp <;> simp [hp] at hqk
        · rw [hnum, hbase]
    · exact fun q hq => hdown q (by simp [hq])
  | opened client server acked hup hdown =>
    -- both ends are connected; what still carries the SYN flag is an old SYN-ACK
    have hsa := hdown pkt (by simp)
    have hk : pkt.kind ≠ .syn := by
      intro hk
      simp [(hsa (Packet.sync_of_kind_syn hk)).1] at hk
    obtain ⟨hjoined, hrest, -, -, ps, hps, hemit⟩ :=
      client.handle hbuf hrun hk (fun hs => (hsa hs).2.1)
    refine ⟨hrest, ps, hps, .opened hjoined server acked ?_ fun q hq => hdown q (by simp [hq])⟩
    intro q hq
    rcases List.mem_append.mp hq with hq | hq
    · exact hup q hq
    · rcases hemit q hq with hp | ⟨hqk, -⟩
      · exact hp.sync
      · exact Packet.not_sync_of_kind (by simp [hqk]) (by simp [hqk])

/-- A step of the server. The one thing it must not do is to register a FIN before it has
handled the SYN. -/
theorem server_step (h : Phase c v up down) (ha : a ≠ .handlePacket)
    (hfin : a = .sendFIN → Fresh v → v.finTasks = 0 ∨ v.con.sendBuffer.empty = false)
    (hrun : v.step g a = .ok (g', v')) :
    ∃ ps, v'.con.pktSendBuffer = v.con.pktSendBuffer ++ ps ∧ Phase c v' up (down ++ ps) := by
  cases h with
  | listening client server hdown =>
    obtain ⟨hfresh, hsend⟩ := server.step ha (fun hs => hfin hs server) hrun
    exact ⟨[], by simp [hsend], .listening client hfresh (by simp [hdown])⟩
  | synRcvd client server hdown =>
    obtain ⟨ps, hps, hrecv, hall⟩ := server.step ha hrun
    refine ⟨ps, hps, .synRcvd client hrecv fun q hq => ?_⟩
    exact (List.mem_append.mp hq).elim (hdown q) (hall q)
  | half client base server hsyn horder hack hdown =>
    obtain ⟨ps, hps, hrecv, hall⟩ := server.step ha hrun
    refine ⟨ps, hps, .half client base hrecv hsyn horder hack fun q hq => ?_⟩
    exact (List.mem_append.mp hq).elim (hdown q) fun hq => Or.inl (hall q hq)
  | opened client server acked hup hdown =>
    have hh := (Endpoint.step_quiet ha hrun).handled
    obtain ⟨hjoined, ps, hps, hplain⟩ := server.step ha hrun
    refine ⟨ps, hps, .opened client hjoined (hh ▸ acked) hup fun q hq hs => ?_⟩
    rcases List.mem_append.mp hq with hq | hq
    · exact hdown q hq hs
    · simp [(hplain q hq).sync] at hs

theorem server_handle {pkt : Packet} {rest : List Packet} (h : Phase c v (pkt :: up) down)
    (hbuf : v.con.pktRecvBuffer = pkt :: rest) (hrun : v.handleNext g = .ok (g', v')) :
    v'.con.pktRecvBuffer = rest ∧
      ∃ ps, v'.con.pktSendBuffer = v.con.pktSendBuffer ++ ps ∧ Phase c v' up (down ++ ps) := by
  cases h with
  | listening client server hdown =>
    -- the first SYN
    obtain ⟨hrecv, hrest, q, hsend, hq⟩ := server.handle hbuf hrun (client.up pkt (by simp))
    refine ⟨hrest, [q], hsend, .synRcvd { client with up := fun q hq => client.up q (by simp [hq]) }
      hrecv ?_⟩
    simpa [hdown] using hq
  | synRcvd client server hdown =>
    -- another SYN, which the SYN-ACK of the first one answers again
    obtain ⟨hrecv, hrest, q, hsend, hq⟩ := server.handle_syn hbuf hrun (client.up pkt (by simp))
    refine ⟨hrest, [q], hsend, .synRcvd { client with up := fun q hq => client.up q (by simp [hq]) }
      hrecv fun r hr => ?_⟩
    rcases List.mem_append.mp hr with hr | hr
    · exact hdown r hr
    · rw [List.mem_singleton.mp hr]
      exact hq
  | half client base server hsyn horder hack hdown =>
    obtain ⟨hlast, horder'⟩ := List.pairwise_cons.mp horder
    have hsyn' : ∀ q ∈ up, q.tcpHeader.sync = true → q.IsSyn := fun q hq => hsyn q (by simp [hq])
    have hack' : ∀ q ∈ up, q.kind = .ack → q.tcpHeader.ackNum = 1 :=
      fun q hq => hack q (by simp [hq])
    cases hs : pkt.tcpHeader.sync with
    | true =>
      obtain ⟨hrecv, hrest, q, hsend, hq⟩ := server.handle_syn hbuf hrun (hsyn pkt (by simp) hs)
      refine ⟨hrest, [q], hsend, .half client base hrecv hsyn' horder' hack' fun r hr => ?_⟩
      rcases List.mem_append.mp hr with hr | hr
      · exact hdown r hr
      · rw [List.mem_singleton.mp hr]
        exact Or.inl hq
    | false =>
      by_cases hk : pkt.kind = .ack
      · -- the order of the packets: no SYN is left behind this acknowledgement
        obtain ⟨hjoined, hrest, hh, ps, hps, hplain⟩ :=
          server.handle_ack hbuf hrun hk (hack pkt (by simp) hk)
        refine ⟨hrest, ps, hps, .opened client hjoined ⟨pkt, by simp [hh], hk⟩ ?_ ?_⟩
        · intro q hq
          by_contra hqs
          have := hlast q hq (by simpa using hqs)
          simp [hs] at this
        · intro q hq hqs
          rcases List.mem_append.mp hq with hq | hq
          · rcases hdown q hq with hsa | hqk
            · exact hsa
            · simp [Packet.not_sync_of_kind (p := q) (by simp [hqk]) (by simp [hqk])] at hqs
          · simp [(hplain q hq).sync] at hqs
      · obtain ⟨hrecv, hrest, ps, hps, hall⟩ := server.handle_other hbuf hrun hs hk
        refine ⟨hrest, ps, hps, .half client base hrecv hsyn' horder' hack' fun q hq => ?_⟩
        exact (List.mem_append.mp hq).elim (hdown q) fun hq => Or.inr (hall q hq)
  | opened client server acked hup hdown =>
    -- no SYN is on its way any more
    have hs := hup pkt (by simp)
    have hk : pkt.kind ≠ .syn := fun hk => by simp [Packet.sync_of_kind_syn hk] at hs
    obtain ⟨hjoined, hrest, hh, -, ps, hps, hemit⟩ := server.handle hbuf hrun hk (by simp [hs])
    obtain ⟨r, hr, hrk⟩ := acked
    refine ⟨hrest, ps, hps, .opened client hjoined ⟨r, by simp [hh, hr], hrk⟩
      (fun q hq => hup q (by simp [hq])) fun q hq hqs => ?_⟩
    rcases List.mem_append.mp hq with hq | hq
    · exact hdown q hq hqs
    · rcases hemit q hq with hp | ⟨hqk, -⟩
      · simp [hp.sync] at hqs
      · simp [Packet.not_sync_of_kind (p := q) (by simp [hqk]) (by simp [hqk])] at hqs

end Phase

end NetStack
