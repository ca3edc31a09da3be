import TcpStack.Proofs.Service

/-!
# TcpStack — what each thread achieves

One lemma for each step that a sender with something left to do waits for.

* **`Linked.timeout_emits`** — the timeout sends the oldest packet of the window.
* **`Linked.answers`** — a segment at or behind the receive base is acknowledged beyond its start.
* **`TcpController.probe_answered`** — a window probe is answered with the free space.
* **`TcpController.handleACK_sets`** — an acknowledgement moves the send base and the capacity.
* **`Linked.packetise_size`** — a window with room takes bytes out of the send buffer.
* **`Endpoint.readAll`** — a read of the whole receive buffer.
-/

namespace NetStack

open Tiling Transition SlidingWindow

variable [HyLib]

variable {e e' f : Endpoint} {wo wi : List Packet} {s s₁ s₂ : State Packet} {g g' : Globals}
  {pkt : Packet} {rest : List Packet}

/-! ## The oldest packet -/

omit [HyLib] in
/-- Past the handshake and before a FIN, a segment of the history carries data. -/
theorem History.data_of_pos {hist : List Packet} (h : History hist) (hno : NoFin hist) {i : ℕ}
    (hi : 1 ≤ i) (hp : hist[i]? = some pkt) : pkt.kind = .data ∧ pkt.payloadSize ≠ 0 := by
  have hmem := List.mem_of_getElem? hp
  have hreg := h.regular pkt hmem
  have hsync : pkt.tcpHeader.sync = false := by
    by_contra hs
    have := h.sync_first hp (by simpa using hs)
    omega
  refine ⟨?_, hreg.payloadSize_ne_zero⟩
  rw [hreg.kind_eq hsync, hno pkt hmem]
  rfl

/-- **The timeout sends the oldest packet of the window**, which starts at the send base. -/
theorem Linked.timeout_emits (h : Linked e f wo wi s₁ s₂) {node : SendWindowNode}
    {nodes : List SendWindowNode} (hq : e.con.sendWindow.pktsToAck = node :: nodes) :
    e.con.timeoutReTransmitter.pktSendBuffer = e.con.pktSendBuffer ++ [node.pkt] ∧
      node.pkt.tcpHeader.seqNum = e.con.sendWindow.sendBase ∧ s₁.hist[s₁.una]? = some node.pkt := by
  have hhead := h.out.sends.window.head hq
  have hcopy := (h.out.sends.history.regular _ (List.mem_of_getElem? hhead)).copy_eq
  refine ⟨?_, ?_, hhead⟩
  · simp [TcpController.timeoutReTransmitter, SendWindow.numPacketsToAck, hq,
      TcpController.resendBase, SendWindow.getBasePakcketToReSend, TcpController.sendPacket, hcopy]
  · rw [h.out.sends.history.tiled.seq hhead, h.out.sends.window.base]

/-! ## Answers of the receiver -/

/-- **A segment at the receive base or behind it is acknowledged beyond its start.** -/
theorem Linked.answers (h : Linked e f wo wi s₁ s₂)
    (hend : offset s₂.hist s₂.hist.length < 2 ^ 32)
    (hbuf : e.con.pktRecvBuffer = pkt :: rest) (hkind : pkt.kind = .data)
    (hsize : pkt.payloadSize ≠ 0)
    (hseq : pkt.tcpHeader.seqNum.toNat ≤ e.con.recvWindow.recvBase.toNat)
    (hrun : e.handleNext g = .ok (g', e')) :
    ∃ q, e'.con.pktSendBuffer = e.con.pktSendBuffer ++ [q] ∧ q.kind = .ack ∧
      q.tcpHeader.ackNum = e'.con.recvWindow.recvBase ∧
      pkt.tcpHeader.seqNum.toNat < e'.con.recvWindow.recvBase.toNat := by
  obtain ⟨i, d, hdata, hp, -⟩ := h.recv_data hbuf (by simp [hkind]) (fun _ => hsize)
  have ht := h.inn.sends.history.tiled
  have hinv := h.inn.inv
  have hr := offset_mono s₂.hist hinv.rcvd_le
  have hilt : i < s₂.hist.length := (List.getElem?_eq_some_iff.mp hp).1
  have hstart : pkt.tcpHeader.seqNum.toNat = offset s₂.hist i := by
    have := offset_mono s₂.hist hilt.le
    rw [ht.seq hp, UInt32.toNat_ofNat_of_lt']
    simp only [UInt32.size]
    omega
  have hbase := h.inn.receives.recvBase_toNat (by omega)
  have hholds := h.inn.receives.window (by omega)
  -- the segment is not ahead of the receive base
  have hle : i ≤ s₂.rcvd := by
    by_contra hlt
    have := offset_lt ht.pos (not_le.mp hlt) hilt.le
    omega
  obtain ⟨c, hc, rfl⟩ := Endpoint.handleNext_cons hbuf hrun
  simp only [TcpController.handlePacket, hkind, TcpController.handleDataPacket, if_neg hsize] at hc
  obtain ⟨c', hrecv, heq⟩ := map_eq_ok.mp hc
  cases heq
  obtain ⟨ackNum, chain, w, b, o, q, hw, hq, hnum, -, rfl⟩ :=
    TcpController.receiveAndAck_frame hrecv
  refine ⟨q, rfl, hq, hnum.trans (RecvWindow.receivePacket_ackNum hw), ?_⟩
  show pkt.tcpHeader.seqNum.toNat < w.recvBase.toNat
  rw [hstart]
  rcases Nat.lt_or_ge i s₂.rcvd with hlt | hge
  · -- received before: the base is beyond it already
    have hold := hholds.receive_old ht hend.le hp hlt hinv.rcvd_le (by omega)
    cases hw.symm.trans hold
    rw [hbase]
    exact offset_lt ht.pos hlt hinv.rcvd_le
  · -- in order: the base moves
    obtain rfl : i = s₂.rcvd := by omega
    obtain ⟨k, left, w', hooo, -, hnext, hw', -⟩ :=
      hholds.receive_next ht hend.le hp hinv.ooo_sorted fun j hj => (hinv.ooo_bounds j hj).1
    cases hw.symm.trans hnext
    have hlast : s₂.rcvd + k + 1 ≤ s₂.hist.length := by
      rcases Nat.eq_zero_or_pos k with hk | hk
      · omega
      · have hmem : s₂.rcvd + k ∈ s₂.ooo := by
          rw [hooo]
          exact List.mem_append_left _ (List.mem_range'_1.mpr ⟨by omega, by omega⟩)
        have := (hinv.ooo_bounds _ hmem).2
        omega
    have hmono := offset_mono s₂.hist hlast
    rw [hw'.base, UInt32.toNat_ofNat_of_lt' (by simp only [UInt32.size]; omega)]
    exact offset_lt ht.pos (by omega) hlast

namespace TcpController

variable {c c' : TcpController}

/-- **A window probe is answered** with the receive base and the free space. -/
theorem probe_answered (hkind : pkt.kind = .data) (hsize : pkt.payloadSize = 0)
    (hrun : c.handlePacket g pkt = .ok (g', c')) :
    c' = { c with pktSendBuffer := c.pktSendBuffer ++ [c.makeAckPacket c.recvWindow.recvBase] } := by
  simp only [handlePacket, hkind, handleDataPacket, if_pos hsize, sendPacket] at hrun
  cases hrun
  rfl

/-! ## The sender learns -/

/-- **An acknowledgement sets the capacity, and moves the send base up to its number.** -/
theorem handleACK_sets (hkind : pkt.kind = .ack) (hrun : c.handlePacket g pkt = .ok (g', c')) :
    c'.sendWindow.capacity = pkt.tcpHeader.windowSize.toUInt32 ∧
      (c.sendWindow.sendBase < pkt.tcpHeader.ackNum →
        c'.sendWindow.sendBase = pkt.tcpHeader.ackNum) := by
  simp only [handlePacket, hkind] at hrun
  obtain ⟨⟨b, g₁, c₁⟩, hwin, hrun⟩ := bind_eq_ok.mp hrun
  obtain ⟨st, t₁, t₂, k, sd, hst⟩ := c₁.handleACKState_frame b
  cases hrun
  rw [hst]
  obtain ⟨⟨res, w, g₂⟩, hack, hwin⟩ := bind_eq_ok.mp hwin
  -- what is retransmitted leaves the window's numbers alone
  have hsame : c₁.sendWindow.capacity = pkt.tcpHeader.windowSize.toUInt32 ∧
      c₁.sendWindow.sendBase = w.sendBase := by
    simp only at hwin
    split at hwin
    · obtain ⟨f, ps, hre, -⟩ := resendBase_frame { c with sendWindow := w }
      rw [hre] at hwin
      cases hwin
      exact ⟨rfl, rfl⟩
    · cases hwin
      exact ⟨rfl, rfl⟩
  refine ⟨hsame.1, fun hlt => hsame.2.trans ?_⟩
  have hadv : c.sendWindow.ackAdvances pkt.tcpHeader.ackNum = true := by
    simp [SendWindow.ackAdvances, hlt]
  rcases SendWindow.newAckedPacket_cases hack with ⟨-, _, -, -, -, rfl, -⟩ | ⟨hno, -⟩ | ⟨hno, -⟩
  · rfl
  · simp [hadv] at hno
  · simp [hadv] at hno

/-- With nothing in the window but a capacity, there is room. -/
theorem Armed.freeSpace_pos (h : c.Armed) (hq : c.sendWindow.pktsToAck = [])
    (hcap : c.sendWindow.capacity ≠ 0) : 0 < c.sendWindow.freeSpace.toNat := by
  have hsize : c.sendWindow.size = 0 := by
    rw [h.size, hq]
    rfl
  have hpos : c.sendWindow.capacity.toNat ≠ 0 := fun h0 => hcap (UInt32.toNat_inj.mp h0)
  rw [SendWindow.freeSpace_toNat, hsize, UInt32.toNat_zero]
  omega

/-- Past its waits an iteration of `SendBufferListener` packs and sends. -/
theorem sendBufferListenerLoop_of_ready (hwait : c.sendWindowWait = true)
    (hbytes : c.sendBuffer.bytes ≠ []) (clock : ℕ) :
    c.sendBufferListenerLoop clock = c.sendBufferListenerBody clock := by
  have hempty : c.sendBuffer.empty = false := by simpa [RingBuffer.empty_eq] using hbytes
  rw [sendBufferListenerLoop, if_neg (by simp [hwait, hempty])]

/-- A connection that is open lets `SendBufferListener` into its loop. -/
theorem sendBufferListener_of_connected (hdown : c.shutdown = false)
    (hconn : c.inConnectingState = false) (clock : ℕ) :
    c.sendBufferListener clock = { c with sending := true }.sendBufferListenerLoop clock := by
  rw [sendBufferListener, if_neg (by simp [hdown, hconn])]

/-- **A closed window starts the prober.** -/
theorem sendBufferListener_probes (hdown : c.shutdown = false) (hconn : c.inConnectingState = false)
    (hbytes : c.sendBuffer.bytes ≠ []) (hcap : c.sendWindow.capacity = 0)
    (hprober : ¬ c.proberTimer.isStarted) (clock : ℕ) :
    c.sendBufferListener clock =
      .ok { c with sending := true, proberTimer := c.proberTimer.restart } := by
  have hwait : ({ c with sending := true } : TcpController).sendWindowWait = true := by
    simp [sendWindowWait, hcap, hprober]
  rw [sendBufferListener_of_connected hdown hconn, sendBufferListenerLoop_of_ready hwait hbytes,
    sendBufferListenerBody, if_neg (by simp [hcap]), if_pos hcap, if_neg hprober]

end TcpController

/-- Packing takes what fits in the window out of the send buffer. -/
theorem Linked.packetise_size (h : Linked e f wo wi s₁ s₂) (hu : 1 ≤ s₁.una) (hno : NoFin s₁.hist)
    (clock : ℕ) : ∃ c', e.con.packetise clock = .ok c' ∧ c'.sendBuffer.size =
      e.con.sendBuffer.size - min e.con.sendWindow.freeSpace.toNat e.con.sendBuffer.size := by
  unfold TcpController.packetise
  have hk : kDefaultDataPacketSize.toNat = 10 := rfl
  simp only [hk]
  set sizeToSend := min e.con.sendWindow.freeSpace.toNat e.con.sendBuffer.size with hmin
  have hdiv := Nat.div_add_mod sizeToSend 10
  have hmod : sizeToSend % 10 < 10 := Nat.mod_lt _ (by omega)
  have hfree : sizeToSend ≤ e.con.sendWindow.freeSpace.toNat := Nat.min_le_left _ _
  have hsize : sizeToSend ≤ e.con.sendBuffer.size := Nat.min_le_right _ _
  obtain ⟨c, hc, hcs, hcf, s₁', -, hu', hno', hlinked⟩ :=
    Linked.sendFullPackets clock (sizeToSend / 10) e s₁ h hu hno (by omega) (by omega)
  rw [hc, ok_bind]
  split
  · next hlast =>
    obtain ⟨c', hc', hcs', -, -⟩ := hlinked.sendDataPacket hu' hno' hlast (by omega)
      (by rw [hcs]; omega) (by rw [hcf]; omega) clock (c.sendWindow.size == 0)
    refine ⟨c', hc', ?_⟩
    rw [hcs', hcs]
    omega
  · refine ⟨c, rfl, ?_⟩
    rw [hcs]
    omega

/-- **An empty window with a capacity takes bytes out of the send buffer.** -/
theorem Linked.sendBufferListener_sends (h : Linked e f wo wi s₁ s₂) (hu : 1 ≤ s₁.una)
    (hno : NoFin s₁.hist) (harmed : e.con.Armed) (hdown : e.con.shutdown = false)
    (hconn : e.con.inConnectingState = false) (hbytes : e.con.sendBuffer.bytes ≠ [])
    (hq : e.con.sendWindow.pktsToAck = []) (hcap : e.con.sendWindow.capacity ≠ 0) (clock : ℕ) :
    ∃ c', e.con.sendBufferListener clock = .ok c' ∧ c'.sendBuffer.size < e.con.sendBuffer.size := by
  have hfree := harmed.freeSpace_pos hq hcap
  have hlt : (0 : UInt32) < e.con.sendWindow.freeSpace := by
    rw [UInt32.lt_iff_toNat_lt]
    exact hfree
  have hpos : 0 < e.con.sendBuffer.size := by
    rw [RingBuffer.size_eq]
    exact List.length_pos_iff.mpr hbytes
  have hwait : ({ e.con with sending := true } : TcpController).sendWindowWait = true := by
    simp [TcpController.sendWindowWait, hlt]
  have hpassed : Linked { e with con := { e.con with sending := true } } f wo wi s₁ s₂ :=
    h.similar {}
  obtain ⟨c', hc', hsize⟩ := hpassed.packetise_size hu hno clock
  refine ⟨c', ?_, ?_⟩
  · rw [TcpController.sendBufferListener_of_connected hdown hconn,
      TcpController.sendBufferListenerLoop_of_ready hwait hbytes,
      TcpController.sendBufferListenerBody, if_neg ?_, if_neg hcap, hc']
    rintro ⟨hle, -⟩
    exact absurd hlt (UInt32.not_lt.mpr hle)
  · rw [hsize]
    show e.con.sendBuffer.size - min e.con.sendWindow.freeSpace.toNat e.con.sendBuffer.size <
      e.con.sendBuffer.size
    omega

/-! ## Reading -/

/-- **A read of the whole receive buffer**, before the end of the stream. -/
theorem Endpoint.readAll (hpipe : e.con.pipeState = .opened) (hdown : e.con.shutdown = false) :
    ∃ b, b.bytes = [] ∧ b.capacity = e.con.recvBuffer.capacity ∧
      e.readData e.con.recvBuffer.size = .ok { e with
        con := { e.con with recvBuffer := b }
        readOut := e.readOut ++ e.con.recvBuffer.bytes } := by
  by_cases hnil : e.con.recvBuffer.bytes = []
  · -- nothing to read: the call waits
    refine ⟨e.con.recvBuffer, hnil, rfl, ?_⟩
    have hwait : e.con.readData e.con.recvBuffer.size = .ok none := by
      rw [TcpController.readData, if_neg (by simp [hpipe]), if_pos]
      simp [hdown, hpipe, RingBuffer.empty_eq, hnil]
    rw [readData, hwait, hnil, List.append_nil]
    rfl
  · have hempty : e.con.recvBuffer.empty = false := by simpa [RingBuffer.empty_eq] using hnil
    have hread : e.con.readData e.con.recvBuffer.size = .ok (some (
        (e.con.recvBuffer.read e.con.recvBuffer.size).1.length,
        (e.con.recvBuffer.read e.con.recvBuffer.size).1,
        { e.con with recvBuffer := (e.con.recvBuffer.read e.con.recvBuffer.size).2 })) := by
      rw [TcpController.readData, if_neg (by simp [hpipe]), if_neg (by simp [hempty]),
        if_neg (by simp [hdown]), if_neg (by simp [hempty]), if_neg (by simp [hempty])]
    refine ⟨(e.con.recvBuffer.read e.con.recvBuffer.size).2, ?_, RingBuffer.capacity_read _ _, ?_⟩
    · simp [RingBuffer.size_eq]
    · rw [readData, hread]
      simp [RingBuffer.size_eq, bind, Except.bind]

end NetStack
