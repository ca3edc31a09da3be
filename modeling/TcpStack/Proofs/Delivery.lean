import TcpStack.Proofs.Connection

/-!
# TcpStack — delivery, end of stream and flow control

What the invariant of the connection says about the bytes that go through it, in each
direction and in every reachable state that fits in the sequence space.

* **`reliable_delivery`** — the bytes read at one end are a prefix of the bytes written at the
  other.
* **`graceful_close`** — at the end of the stream they are all of them.
* **`flow_control`** — what was sent fits in the receive buffer, so nothing ever overflows.
-/

namespace NetStack

open Tiling Transition SlidingWindow

section

variable [HyLib]

/-! ## Delivery -/

section Directions

variable {e f : Endpoint} {s : State Packet}

theorem Direction.readOut_prefix (h : Direction e f s) : f.readOut <+: e.written := by
  have htake : stream (s.hist.take s.rcvd) <+: stream s.hist := by
    conv_rhs => rw [← List.take_append_drop s.rcvd s.hist, stream_append]
    exact List.prefix_append _ _
  calc f.readOut <+: f.readOut ++ f.con.recvBuffer.bytes := List.prefix_append _ _
    _ = stream (s.hist.take s.rcvd) := h.receives.delivered
    _ <+: stream s.hist := htake
    _ <+: stream s.hist ++ e.con.sendBuffer.bytes := List.prefix_append _ _
    _ = e.written := h.sends.written

/-- The end of the stream is reported when everything was read. -/
theorem Direction.eof (h : Direction e f s) {size : ℕ} (hsize : 0 < size) {data : List UInt8}
    {con : TcpController} (hread : f.con.readData size = .ok (some (0, data, con))) :
    f.readOut ++ data = e.written := by
  rcases f.con.readData_cases size with hr | hr | hr | ⟨heof, hnil, hr⟩ | ⟨hne, hr⟩
  · cases hr.symm.trans hread
  · cases hr.symm.trans hread
  · cases hr.symm.trans hread
  · cases hr.symm.trans hread
    -- the FIN was taken in order, and nothing but FINs follows it
    have hfin : ¬ NoFin (s.hist.take s.rcvd) := h.receives.eof.mp (by simp [heof])
    have hall : stream (s.hist.take s.rcvd) = stream s.hist := by
      refine h.sends.history.stream_take_of_fin ?_
      by_contra hno
      exact hfin fun p hp => by
        by_contra hpf
        exact hno ⟨p, hp, by simpa using hpf⟩
    have hdrained : e.con.sendBuffer.bytes = [] :=
      h.sends.drained fun hno => hfin fun p hp => hno p (List.mem_of_mem_take hp)
    have hdel := h.receives.delivered
    rw [hnil, hall] at hdel
    rw [← h.sends.written, hdrained, ← hdel, List.append_nil, List.append_nil]
  · -- data was returned, so the value is not 0
    rw [hr] at hread
    simp only [Except.ok.injEq, Option.some.injEq, Prod.mk.injEq, Int.natCast_eq_zero,
      RingBuffer.read_fst, List.length_take] at hread
    have := List.length_pos_iff.mpr hne
    omega

end Directions

/-- **End-to-end reliable order.** In every run in which each direction carries fewer than
`2^32 - 2` bytes, the bytes read on one side are a prefix of the bytes written on the other. -/
theorem reliable_delivery {cfg : Config} {g : Globals} {evs : List Event} {n : Net}
    (hrun : Net.run cfg g evs = .ok n) (hfit : n.Fits cfg) :
    n.client.readOut <+: (n.peer cfg).written ∧ (n.peer cfg).readOut <+: n.client.written := by
  obtain ⟨s₁, s₂, h⟩ := Net.good_run hrun hfit
  exact ⟨h.linked.inn.readOut_prefix, h.linked.out.readOut_prefix⟩

end

section

open scoped Reference

/-- A handshake, three bytes from the client, two of them read. -/
def transferRun : List Event :=
  [.sendToServer, .deliverToServer, .server .handlePacket, .server .handlePacket, .sendToClient,
    .deliverToClient, .client .handlePacket, .sendToServer, .deliverToServer,
    .server .handlePacket, .client (.writeData [1, 2, 3]), .client .sendBufferListener,
    .sendToServer, .deliverToServer, .server .handlePacket, .server (.readData 2)]

theorem reliable_delivery_transfer : ∃ n, Net.run {} {} transferRun = .ok n ∧
    (n.peer {}).readOut = [1, 2] ∧ n.client.written = [1, 2, 3] ∧
    (n.peer {}).readOut <+: n.client.written := by
  have hrun : (Net.run {} {} transferRun).map (fun n => (n.client.carried, (n.peer {}).carried,
      (n.peer {}).readOut, n.client.written)) = .ok (3, 0, [1, 2], [1, 2, 3]) := by
    decide +kernel
  obtain ⟨n, hn, heq⟩ := map_eq_ok.mp hrun
  simp only [Prod.mk.injEq] at heq
  obtain ⟨hc, hv, hread, hwritten⟩ := heq
  exact ⟨n, hn, hread, hwritten, (reliable_delivery hn ⟨by omega, by omega⟩).2⟩

end

section

variable [HyLib]

/-- **Graceful close.** When `ReadData` reports the end of the stream, the bytes read are all
bytes the other side has written. -/
theorem graceful_close {cfg : Config} {g : Globals} {evs : List Event} {n : Net}
    (hrun : Net.run cfg g evs = .ok n) (hfit : n.Fits cfg) {size : ℕ} (hsize : 0 < size) :
    (∀ data con, n.client.con.readData size = .ok (some (0, data, con)) →
      n.client.readOut ++ data = (n.peer cfg).written) ∧
    (∀ data con, (n.peer cfg).con.readData size = .ok (some (0, data, con)) →
      (n.peer cfg).readOut ++ data = n.client.written) := by
  obtain ⟨s₁, s₂, h⟩ := Net.good_run hrun hfit
  exact ⟨fun _ _ => h.linked.inn.eof hsize, fun _ _ => h.linked.out.eof hsize⟩

end

section

open scoped Reference

/-- The rest is read, and the client closes its direction. -/
def closeRun : List Event :=
  transferRun ++ [.server (.readData 2), .client .shutDown, .client .sendFIN, .sendToServer,
    .deliverToServer, .server .handlePacket]

theorem graceful_close_transfer : ∃ n data con, Net.run {} {} closeRun = .ok n ∧
    (n.peer {}).con.readData 5 = .ok (some (0, data, con)) ∧
    (n.peer {}).readOut ++ data = n.client.written := by
  have hrun : (Net.run {} {} closeRun).map (fun n => (n.client.carried, (n.peer {}).carried,
      (n.peer {}).con.pipeState, (n.peer {}).con.recvBuffer.bytes, (n.peer {}).con.shutdown))
      = .ok (3, 0, .eofNotConsumed, [], false) := by
    decide +kernel
  obtain ⟨n, hn, heq⟩ := map_eq_ok.mp hrun
  simp only [Prod.mk.injEq] at heq
  obtain ⟨hc, hv, hpipe, hnil, hdown⟩ := heq
  have hread : (n.peer {}).con.readData 5
      = .ok (some (0, [], { (n.peer {}).con with pipeState := .eofConsumed })) := by
    simp [TcpController.readData, hpipe, RingBuffer.empty_eq, hnil, hdown]
  exact ⟨n, _, _, hn, hread,
    (graceful_close hn ⟨by omega, by omega⟩ (by omega)).2 _ _ hread⟩

end

section

variable [HyLib]

/-! ## Flow control -/

/-- **Flow control** from `e` to `f`, whose receive buffer holds `N` bytes; data starts at
sequence number 1. -/
structure FlowControlled (e f : Endpoint) (wire : List Packet) (N : ℕ) : Prop where
  /-- The end of the last data byte ever sent. -/
  edge : 1 + e.carried ≤ 1 + f.readOut.length + N
  /-- No data packet reaches beyond it, whether it waits for its acknowledgement or is in
  flight. -/
  registered : ∀ node ∈ e.con.sendWindow.pktsToAck, node.pkt.kind = .data →
    node.pkt.tcpHeader.seqNum.toNat + node.pkt.payloadSize.toNat ≤ 1 + e.carried
  sent : ∀ q ∈ flight e f wire, q.kind = .data → q.payloadSize ≠ 0 →
    q.tcpHeader.seqNum.toNat + q.payloadSize.toNat ≤ 1 + e.carried
  /-- Without a FIN in it, the window is not larger than its capacity. -/
  window : (∀ node ∈ e.con.sendWindow.pktsToAck, node.pkt.tcpHeader.fin = false) →
    e.con.sendWindow.size ≤ e.con.sendWindow.capacity
  /-- What the next packet makes available in order fits in the receive buffer. -/
  fits : ∀ pkt rest ackNum chain w, f.con.pktRecvBuffer = pkt :: rest → pkt.Delivered →
    f.con.recvWindow.receivePacket pkt = .ok (ackNum, chain, w) →
    (stream chain).length ≤ f.con.recvBuffer.freeSpace
  overflow : f.con.overflowPkts = []

section FlowControl

variable {e f : Endpoint} {wo wi : List Packet} {s s₁ s₂ : State Packet}

/-- A data packet ends at most one sequence number behind the bytes of the history. -/
theorem Sends.data_end (h : Sends e s) (hend : offset s.hist s.hist.length ≤ 2 ^ 32) {q : Packet}
    (hq : q ∈ s.hist) (hk : q.kind = .data) :
    q.tcpHeader.seqNum.toNat + q.payloadSize.toNat ≤ 1 + e.carried := by
  obtain ⟨i, hi⟩ := List.mem_iff_getElem?.mp hq
  have hlt := (List.getElem?_eq_some_iff.mp hi).1
  have hoff := offset_lt h.history.tiled.pos hlt le_rfl
  have hle := h.history.offset_succ_le hi (Packet.fin_of_kind_data hk)
  rw [h.history.tiled.seq hi, UInt32.toNat_ofNat_of_lt' (by simp only [UInt32.size]; omega),
    h.carried_eq]
  rw [offset_succ hi] at hle
  exact hle

/-- Before a FIN is in the window, the window respects its capacity. -/
theorem Sends.size_le (h : Sends e s)
    (hno : ∀ node ∈ e.con.sendWindow.pktsToAck, node.pkt.tcpHeader.fin = false) :
    e.con.sendWindow.size ≤ e.con.sendWindow.capacity := by
  have hqueue : NoFin (s.hist.drop s.una) := by
    rw [← h.window.queue]
    intro p hp
    obtain ⟨node, hn, rfl⟩ := List.mem_map.mp hp
    exact hno node hn
  by_cases hfin : NoFin s.hist
  · rw [UInt32.le_iff_toNat_le]
    rcases Nat.eq_zero_or_pos s.una with hu | hu
    · -- a SYN at most
      obtain ⟨hc, hnil⟩ := h.opening hu
      have hcap : 0 < e.con.sendWindow.capacity.toNat := by
        rw [Nat.pos_iff_ne_zero]
        exact fun h0 => hc (UInt32.toNat_inj.mp h0)
      have hle := h.history.offset_length_le
      rw [hnil, List.length_nil, List.countP_eq_zero.mpr fun p hp => by simp [hfin p hp]] at hle
      rw [h.window.size, hu, offset_zero,
        UInt32.toNat_ofNat_of_lt' (by simp only [UInt32.size]; omega)]
      omega
    · have hcredit := h.credit hfin hu
      have hedge := h.edge hfin
      have hsize := h.size_toNat hfin hu
      omega
  · -- every packet is acknowledged: behind a FIN there are only FINs
    have hu : s.una = s.hist.length := by
      by_contra hne
      have hlt : s.una < s.hist.length := lt_of_le_of_ne h.window.una_le hne
      have hlast := h.history.last_fin hfin (List.getElem?_eq_getElem (show s.hist.length - 1 <
        s.hist.length by omega))
      have hmem : s.hist[s.hist.length - 1] ∈ s.hist.drop s.una :=
        List.mem_drop_iff_getElem.mpr ⟨s.hist.length - 1 - s.una, by omega, by
          congr 1
          omega⟩
      simp [hqueue _ hmem] at hlast
    rw [h.window.size, hu, Nat.sub_self]
    exact UInt32.zero_le

omit [HyLib] in
/-- The packets in flight: segments, acknowledgements and probes. -/
theorem Carries.mem_cases {out inn : List Packet} {una : ℕ} {l : List Packet} {d : List ℕ}
    {a : List (ℕ × ℕ)} (h : Carries out inn una l d a) {q : Packet} (hq : q ∈ l) :
    q ∈ out ∨ q.kind = .ack ∨ q.kind = .data ∧ q.payloadSize = 0 := by
  induction h with
  | nil => simp at hq
  | data hp _ ih =>
    rcases List.mem_cons.mp hq with rfl | hq
    · exact Or.inl (List.mem_of_getElem? hp)
    · exact ih hq
  | ack hkind _ _ _ _ ih =>
    rcases List.mem_cons.mp hq with rfl | hq
    · exact Or.inr (Or.inl hkind)
    · exact ih hq
  | probe hkind hsize _ _ ih =>
    rcases List.mem_cons.mp hq with rfl | hq
    · exact Or.inr (Or.inr ⟨hkind, hsize⟩)
    · exact ih hq

theorem Linked.flowControlled (h : Linked e f wo wi s₁ s₂)
    (hend : offset s₁.hist s₁.hist.length ≤ 2 ^ 32) :
    FlowControlled e f wo f.con.recvBuffer.capacity where
  edge := by
    have := h.out.room
    rw [h.out.sends.carried_eq]
    omega
  registered := fun node hn hk => by
    refine h.out.sends.data_end hend (List.mem_of_mem_drop (i := s₁.una) ?_) hk
    rw [← h.out.sends.window.queue]
    exact List.mem_map_of_mem hn
  sent := fun q hq hk hsize => by
    rcases h.toPeer.mem_cases hq with hmem | hack | ⟨-, h0⟩
    · exact h.out.sends.data_end hend hmem hk
    · simp [hk] at hack
    · exact absurd h0 hsize
  window := h.out.sends.size_le
  fits := fun pkt rest ackNum chain w hbuf hd hrecv => by
    have hk : pkt.kind ≠ .syn ∧ pkt.kind ≠ .synAck ∧ pkt.kind ≠ .ack := by
      rcases hd with hk | ⟨hk, -⟩ <;> simp [hk]
    refine h.symm.chain_fits hbuf (Packet.not_sync_of_kind hk.1 hk.2.1) hk.2.2 (fun hdata => ?_)
      hend hrecv
    rcases hd with hfin | ⟨-, hsize⟩
    · simp [hdata] at hfin
    · exact hsize
  overflow := h.out.receives.overflow

end FlowControl

/-- The receive buffers keep the sizes they were created with. -/
theorem Net.recvBuffer_capacity {cfg : Config} {g : Globals} {evs : List Event} {n : Net}
    (hrun : Net.run cfg g evs = .ok n) :
    n.client.con.recvBuffer.capacity = cfg.clientRecvBuffer ∧
      (n.peer cfg).con.recvBuffer.capacity = cfg.serverRecvBuffer := by
  rw [Net.run, init_eq, ok_bind] at hrun
  refine run_induction (step cfg) (P := fun m => m.client.con.recvBuffer.capacity
    = cfg.clientRecvBuffer ∧ (m.peer cfg).con.recvBuffer.capacity = cfg.serverRecvBuffer)
    (fun m ev m' hm hstep => ?_)
    (by exact ⟨RingBuffer.capacity_new _, RingBuffer.capacity_new _⟩) hrun
  obtain ⟨hc, hv⟩ := hm
  rcases step_cases hstep with ⟨a, g, c, rfl, hrun, rfl⟩ | ⟨a, v, g, v', rfl, hs, hrun, rfl⟩ |
    hmoves | ⟨pkt, rest, hs, hw, hsync, rfl⟩
  · exact ⟨(Endpoint.step_pours hrun).capacity.trans hc, hv⟩
  · rw [peer_of_some hs] at hv
    exact ⟨hc, (Endpoint.step_pours hrun).capacity.trans hv⟩
  · obtain ⟨r, s, hc'⟩ := hmoves.client
    obtain ⟨r', s', hp'⟩ := hmoves.server
    rw [hc', hp']
    exact ⟨hc, hv⟩
  · exact ⟨hc, RingBuffer.capacity_new _⟩

/-- **Flow control is never overrun**, in either direction and whatever the sizes of the receive
buffers. -/
theorem flow_control {cfg : Config} {g : Globals} {evs : List Event} {n : Net}
    (hrun : Net.run cfg g evs = .ok n) (hfit : n.Fits cfg) :
    FlowControlled n.client (n.peer cfg) n.toServer cfg.serverRecvBuffer ∧
      FlowControlled (n.peer cfg) n.client n.toClient cfg.clientRecvBuffer := by
  obtain ⟨s₁, s₂, h⟩ := Net.good_run hrun hfit
  obtain ⟨hc, hv⟩ := Net.recvBuffer_capacity hrun
  rw [← hc, ← hv]
  exact ⟨h.linked.flowControlled (h.linked.out.sends.offset_le hfit.client),
    h.linked.symm.flowControlled (h.linked.inn.sends.offset_le hfit.server)⟩

end

section

open scoped Reference

/-- A server with room for five bytes, and a client that has eight. -/
def smallBuffer : Config := { serverRecvBuffer := 5 }

def smallBufferRun : List Event :=
  [.sendToServer, .deliverToServer, .server .handlePacket, .sendToClient, .deliverToClient,
    .client .handlePacket, .client (.writeData [1, 2, 3, 4, 5, 6, 7, 8]),
    .client .sendBufferListener, .sendToServer, .deliverToServer, .deliverToServer,
    .server .handlePacket, .server .handlePacket, .server .handlePacket]

theorem flow_control_smallBuffer : ∃ n, Net.run smallBuffer {} smallBufferRun = .ok n ∧
    n.client.carried = 5 ∧ (n.peer smallBuffer).con.recvBuffer.bytes = [1, 2, 3, 4, 5] ∧
    FlowControlled n.client (n.peer smallBuffer) n.toServer 5 := by
  have hrun : (Net.run smallBuffer {} smallBufferRun).map (fun n => (n.client.carried,
      (n.peer smallBuffer).carried, (n.peer smallBuffer).con.recvBuffer.bytes))
      = .ok (5, 0, [1, 2, 3, 4, 5]) := by
    decide +kernel
  obtain ⟨n, hn, heq⟩ := map_eq_ok.mp hrun
  simp only [Prod.mk.injEq] at heq
  obtain ⟨hc, hv, hbytes⟩ := heq
  exact ⟨n, hn, hc, hbytes, (flow_control hn ⟨by omega, by omega⟩).1⟩

end

end NetStack
