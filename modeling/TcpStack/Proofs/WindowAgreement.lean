import TcpStack.Proofs.Connection

/-!
# TcpStack — the two windows of a direction agree

The receive base and the acknowledgements in flight are boundaries of the sender's queue, and
no packet arrives that the receiver has already set aside. This is what the `SANITY_CHECK`s of
both windows and of `HandleSYN` rest on, so none of them ever fails.

* **`WindowsAgree`** — agreement in one direction.
* **`windows_agree`** — it holds in every reachable state, with the acknowledgements that
  `HandleACK` is going to see.
* **`not_windows_agree`** — a retransmitted SYN-ACK is not one of them: its number stays 1.
-/

namespace NetStack

open Tiling Transition SlidingWindow

section

variable [HyLib]

/-! ## Boundaries -/

/-- The sequence number behind the first `k` packets of the queue. -/
def SendWindow.boundary (w : SendWindow) (k : ℕ) : UInt32 :=
  w.sendBase + ((w.pktsToAck.take k).map (·.pkt.payloadSize)).sum

/-- The boundaries of the queue are the boundaries of the history. Induction on `k`. -/
theorem SendWindow.Holds.boundary_eq {w : SendWindow} {hist : List Packet} {una : ℕ}
    (h : w.Holds hist una) (k : ℕ) (hk : una + k ≤ hist.length) :
    w.boundary k = UInt32.ofNat (offset hist (una + k)) := by
  induction k with
  | zero => simp [SendWindow.boundary, h.base]
  | succ k ih =>
    have hlen : k < w.pktsToAck.length := by
      have := congrArg List.length h.queue
      rw [List.length_map, List.length_drop] at this
      omega
    have hpkt : hist[una + k]? = some w.pktsToAck[k].pkt := by
      rw [← List.getElem?_drop, ← h.queue, List.getElem?_map, List.getElem?_eq_getElem hlen]
      rfl
    rw [← Nat.add_assoc, offset_succ hpkt, UInt32.ofNat_add, ← ih (by omega), Packet.ofNat_len]
    simp only [SendWindow.boundary, List.take_add_one, List.getElem?_eq_getElem hlen,
      Option.toList_some, List.map_append, List.map_cons, List.map_nil, List.sum_append,
      List.sum_cons, List.sum_nil, UInt32.add_zero, UInt32.add_assoc]

/-! ## Agreement -/

/-- **The windows of the direction from `e` to `f` agree.** `counts` tells which packets on
their way back count as acknowledgements. -/
structure WindowsAgree (counts : Packet → Bool) (e f : Endpoint) (wo wi : List Packet) : Prop where
  /-- The receive base is a boundary of the queue. -/
  base : ∃ k ≤ e.con.sendWindow.pktsToAck.length,
    f.con.recvWindow.recvBase = e.con.sendWindow.boundary k
  /-- So is every acknowledgement in flight. -/
  acks : ∀ q ∈ (flight f e wi).filter counts, ∃ k ≤ e.con.sendWindow.pktsToAck.length,
    q.tcpHeader.ackNum = e.con.sendWindow.boundary k
  /-- Acknowledgements do not decrease, and none is behind the send base. -/
  sorted : ((flight f e wi).filter counts).Pairwise fun p q =>
    p.tcpHeader.ackNum ≤ q.tcpHeader.ackNum
  ahead : ∀ q ∈ (flight f e wi).filter counts,
    e.con.sendWindow.sendBase ≤ q.tcpHeader.ackNum
  /-- No data or FIN packet in flight is already set aside by the receiver. -/
  fresh : ∀ q ∈ flight e f wo, q.Delivered → ∀ p ∈ f.con.recvWindow.pkts,
    p.tcpHeader.seqNum ≠ q.tcpHeader.seqNum

/-- The packets `HandleACK` is going to see. -/
def Packet.isPureAck (p : Packet) : Bool := p.kind = .ack

omit [HyLib] in
/-- The numbers of the acknowledgements in flight are those of the protocol. -/
theorem Carries.pureAcks {out inn : List Packet} {una : ℕ} {l : List Packet} {d : List ℕ}
    {a : List (ℕ × ℕ)} (h : Carries out inn una l d a) (hreg : ∀ p ∈ out, p.Regular) :
    (l.filter Packet.isPureAck).map (·.tcpHeader.ackNum)
      = a.map fun j => UInt32.ofNat (offset inn j.1) := by
  induction h with
  | nil => rfl
  | @data p _ _ _ _ hp _ ih =>
    have hk := (hreg p (List.mem_of_getElem? hp)).kind_ne_ack
    rw [List.filter_cons_of_neg (by simp [Packet.isPureAck, hk])]
    exact ih
  | ack hkind _ hnum _ _ ih =>
    rw [List.filter_cons_of_pos (by simp [Packet.isPureAck, hkind]), List.map_cons, List.map_cons,
      hnum, ih]
  | probe hkind _ _ _ ih =>
    rw [List.filter_cons_of_neg (by simp [Packet.isPureAck, hkind])]
    exact ih

omit [HyLib] in
/-- A payload packet in flight is a segment of the protocol. -/
theorem Carries.delivered {out inn : List Packet} {una : ℕ} {l : List Packet} {d : List ℕ}
    {a : List (ℕ × ℕ)} (h : Carries out inn una l d a) {q : Packet} (hq : q ∈ l)
    (hd : q.Delivered) : ∃ i ∈ d, out[i]? = some q := by
  induction h with
  | nil => simp at hq
  | data hp _ ih =>
    rcases List.mem_cons.mp hq with rfl | hq
    · exact ⟨_, by simp, hp⟩
    · obtain ⟨i, hi, hget⟩ := ih hq
      exact ⟨i, by simp [hi], hget⟩
  | ack hkind _ _ _ _ ih =>
    rcases List.mem_cons.mp hq with rfl | hq
    · simp [Packet.Delivered, hkind] at hd
    · exact ih hq
  | probe hkind hsize _ _ ih =>
    rcases List.mem_cons.mp hq with rfl | hq
    · simp [Packet.Delivered, hkind, hsize] at hd
    · exact ih hq

section Agree

variable {e f : Endpoint} {wo wi : List Packet} {s s₁ s₂ : State Packet}

/-- A received or acknowledged index is a boundary of the queue. -/
theorem Sends.boundary (h : Sends e s) {j : ℕ} (hu : s.una ≤ j) (hj : j ≤ s.hist.length) :
    ∃ k ≤ e.con.sendWindow.pktsToAck.length,
      UInt32.ofNat (offset s.hist j) = e.con.sendWindow.boundary k := by
  have hlen := congrArg List.length h.window.queue
  rw [List.length_map, List.length_drop] at hlen
  refine ⟨j - s.una, by omega, ?_⟩
  rw [h.window.boundary_eq _ (by omega), Nat.add_sub_cancel' hu]

theorem Linked.windowsAgree (h : Linked e f wo wi s₁ s₂)
    (hend : offset s₁.hist s₁.hist.length < 2 ^ 32) :
    WindowsAgree Packet.isPureAck e f wo wi := by
  have hinv := h.out.inv
  have hsends := h.out.sends
  have hmono : ∀ {i j : ℕ}, i ≤ j → j ≤ s₁.hist.length →
      UInt32.ofNat (offset s₁.hist i) ≤ UInt32.ofNat (offset s₁.hist j) := by
    intro i j hij hj
    have h₁ := offset_mono s₁.hist hij
    have h₂ : offset s₁.hist j ≤ offset s₁.hist s₁.hist.length := offset_mono _ hj
    rw [UInt32.le_iff_toNat_le, UInt32.toNat_ofNat_of_lt' (by simp only [UInt32.size]; omega),
      UInt32.toNat_ofNat_of_lt' (by simp only [UInt32.size]; omega)]
    exact h₁
  have hnums := h.fromPeer.pureAcks h.inn.sends.history.regular
  have hack : ∀ q ∈ (flight f e wi).filter Packet.isPureAck, ∃ a ∈ s₁.acks,
      q.tcpHeader.ackNum = UInt32.ofNat (offset s₁.hist a.1) := by
    intro q hq
    have hmem : q.tcpHeader.ackNum ∈ s₁.acks.map fun j => UInt32.ofNat (offset s₁.hist j.1) := by
      rw [← hnums]
      exact List.mem_map_of_mem hq
    obtain ⟨a, ha, hnum⟩ := List.mem_map.mp hmem
    exact ⟨a, ha, hnum.symm⟩
  have hle : ∀ a ∈ s₁.acks, a.1 ≤ s₁.hist.length := fun a ha =>
    (hinv.mem_acks_le ha).1.trans hinv.rcvd_le
  refine ⟨?_, ?_, ?_, ?_, ?_⟩
  · rw [h.out.receives.base]
    exact hsends.boundary hinv.una_le_rcvd hinv.rcvd_le
  · intro q hq
    obtain ⟨a, ha, hnum⟩ := hack q hq
    rw [hnum]
    exact hsends.boundary (hinv.le_of_mem_acks ha).1 (hle a ha)
  · refine List.pairwise_map.mp ?_
    rw [hnums]
    refine List.pairwise_map.mpr (hinv.acks_pairwise.imp_of_mem fun {a b} _ hb hab => ?_)
    exact hmono hab.1 (hle b hb)
  · intro q hq
    obtain ⟨a, ha, hnum⟩ := hack q hq
    rw [hnum, hsends.window.base]
    exact hmono (hinv.le_of_mem_acks ha).1 (hle a ha)
  · intro q hq hd p hp heq
    obtain ⟨j, hj, hq'⟩ := h.toPeer.delivered hq hd
    have hrcvd : offset s₁.hist s₁.rcvd ≤ offset s₁.hist s₁.hist.length :=
      offset_mono _ hinv.rcvd_le
    obtain ⟨i, hi, hp'⟩ := (h.out.receives.window (by omega)).exists_index hp
    -- an index in flight beyond the receive base is beyond everything set aside
    have hi' := hinv.ooo_bounds i hi
    have hjlt := (List.getElem?_eq_some_iff.mp hq').1
    have hpos := hsends.history.tiled.pos
    have hoi := offset_lt hpos hi'.2 le_rfl
    have hoj := offset_lt hpos hjlt le_rfl
    rw [hsends.history.tiled.seq hp', hsends.history.tiled.seq hq'] at heq
    have hnat := congrArg UInt32.toNat heq
    rw [UInt32.toNat_ofNat_of_lt' (by simp only [UInt32.size]; omega),
      UInt32.toNat_ofNat_of_lt' (by simp only [UInt32.size]; omega)] at hnat
    have hij := offset_inj hpos hi'.2.le hjlt.le hnat
    have := hinv.ahead_ooo j hj (by omega) i hi
    omega

end Agree

/-! ## The result -/

/-- `ShutDown` and `Close` may each register a FIN. An end that asks for both carries a byte
less, so that all its sequence numbers are below `2^32`. -/
def Endpoint.LeavesRoom (e : Endpoint) : Prop :=
  e.shutDown = true → e.closed = true → e.carried < 2 ^ 32 - 3

theorem Sends.offset_lt_of_leavesRoom {e : Endpoint} {s : State Packet} (h : Sends e s)
    (hfit : e.carried < 2 ^ 32 - 2) (hroom : e.LeavesRoom) :
    offset s.hist s.hist.length < 2 ^ 32 := by
  have hle := h.history.offset_length_le
  have hfins := h.fins
  unfold Endpoint.LeavesRoom at hroom
  rw [h.carried_eq] at hfit hroom
  have h₁ := Bool.toNat_le e.shutDown
  have h₂ := Bool.toNat_le e.closed
  by_cases hboth : e.shutDown = true ∧ e.closed = true
  · have := hroom hboth.1 hboth.2
    omega
  · have hone : e.shutDown.toNat + e.closed.toNat ≤ 1 := by
      cases hs : e.shutDown <;> cases hc : e.closed <;> simp_all
    omega

/-- **The windows agree, and no `SANITY_CHECK` fails.** -/
theorem windows_agree {cfg : Config} {g : Globals} {evs : List Event} {n : Net}
    (hrun : Net.run cfg g evs = .ok n) (hfit : n.Fits cfg)
    (hc : n.client.LeavesRoom) (hv : (n.peer cfg).LeavesRoom) :
    WindowsAgree Packet.isPureAck n.client (n.peer cfg) n.toServer n.toClient ∧
      WindowsAgree Packet.isPureAck (n.peer cfg) n.client n.toClient n.toServer ∧
      ∀ ev x, Net.step cfg n ev = .error x → x.isSanityCheck = false := by
  obtain ⟨s₁, s₂, h⟩ := Net.good_run hrun hfit
  have h₁ := h.linked.out.sends.offset_lt_of_leavesRoom hfit.client hc
  have h₂ := h.linked.inn.sends.offset_lt_of_leavesRoom hfit.server hv
  refine ⟨h.linked.windowsAgree h₁, h.linked.symm.windowsAgree h₂, fun ev x hstep => ?_⟩
  have hr₁ : offset s₁.hist s₁.rcvd ≤ offset s₁.hist s₁.hist.length :=
    offset_mono _ h.linked.out.inv.rcvd_le
  have hr₂ : offset s₂.hist s₂.rcvd ≤ offset s₂.hist s₂.hist.length :=
    offset_mono _ h.linked.inn.inv.rcvd_le
  rcases Net.step_error hstep with ⟨a, hrun⟩ | ⟨a, v, hs, hrun⟩
  · rw [h.linked.step_error h.ready_client h₁.le h₂.le (by omega) hrun]
    rfl
  · have hready := h.ready_server
    have hlinked := h.linked
    rw [Net.peer_of_some hs] at hready hlinked
    rw [hlinked.symm.step_error hready h₂.le h₁.le (by omega) hrun]
    rfl

end

section

open scoped Reference

/-- The third packet of the handshake is lost. The server takes data in SYN_RCVD, repeats its
SYN-ACK, and is established by the acknowledgement of an earlier copy. -/
def lateSynAckRun : List Event :=
  [.sendToServer, .deliverToServer, .server .handlePacket, .server .handlePacket, .sendToClient,
    .deliverToClient, .client .handlePacket, .sendToServer, .dropToServer 0,
    .client (.writeData [1, 2, 3, 4, 5, 6, 7, 8, 9, 10]), .client .sendBufferListener,
    .sendToServer, .deliverToServer, .server .handlePacket, .server .timeoutReTransmitter,
    .sendToClient, .deliverToClient, .client .handlePacket, .sendToServer, .deliverToServer,
    .server .handlePacket, .deliverToClient, .client .handlePacket]

theorem windows_agree_lateSynAck : ∃ n, Net.run {} {} lateSynAckRun = .ok n ∧
    (n.peer {}).con.recvWindow.recvBase = 11 ∧
    WindowsAgree Packet.isPureAck n.client (n.peer {}) n.toServer n.toClient := by
  have hrun : (Net.run {} {} lateSynAckRun).map (fun n => (n.client.carried,
      (n.peer {}).carried, n.client.shutDown, (n.peer {}).shutDown,
      (n.peer {}).con.recvWindow.recvBase)) = .ok (10, 0, false, false, 11) := by
    decide +kernel
  obtain ⟨n, hn, heq⟩ := map_eq_ok.mp hrun
  simp only [Prod.mk.injEq] at heq
  obtain ⟨hc, hv, hcs, hvs, hbase⟩ := heq
  exact ⟨n, hn, hbase, (windows_agree hn ⟨by omega, by omega⟩ (by simp [Endpoint.LeavesRoom, hcs])
    (by simp [Endpoint.LeavesRoom, hvs])).1⟩

/-- With every packet that has the ACK flag counted, the windows do not agree: a SYN-ACK in
flight acknowledges 1 when the send base is at 11. -/
theorem not_windows_agree : ¬ ∀ (cfg : Config) (g : Globals) (evs : List Event) (n : Net),
    Net.run cfg g evs = .ok n → n.Fits cfg → n.client.con.inConnectingState = false →
    (n.peer cfg).con.inConnectingState = false →
    WindowsAgree (·.tcpHeader.ack) n.client (n.peer cfg) n.toServer n.toClient := by
  intro h
  have hrun : (Net.run {} {} lateSynAckRun).map (fun n => (n.client.carried +
      (n.peer {}).carried, n.client.con.state, (n.peer {}).con.state,
      n.client.con.sendWindow.sendBase,
      ((flight (n.peer {}) n.client n.toClient).filter (·.tcpHeader.ack)).map
        (·.tcpHeader.ackNum))) = .ok (10, .established, .established, 11, [1]) := by
    decide +kernel
  obtain ⟨n, hn, heq⟩ := map_eq_ok.mp hrun
  simp only [Prod.mk.injEq] at heq
  obtain ⟨hcarried, hcs, hvs, hbase, hacks⟩ := heq
  obtain ⟨q, l, hq, hnum, -⟩ := List.map_eq_cons_iff.mp hacks
  have hle := (h {} {} lateSynAckRun n hn ⟨by omega, by omega⟩
    (by simp [TcpController.inConnectingState, hcs])
    (by simp [TcpController.inConnectingState, hvs])).ahead q (by simp [hq])
  rw [hbase, hnum] at hle
  exact absurd hle (by decide)

end

end NetStack
