import TcpStack.Proofs.Sending

/-!
# TcpStack — the packet handlers refine the protocol

One lemma for each handler of `HandleReceivedPackets`, and from them the step lemma of the
refinement, **`Linked.step`**: whatever an endpoint does, both directions follow.

The handlers of SYN and SYN-ACK depend on how far the connection is opened. What they need to
know is collected in `Ready`; the handshake proves it for both ends.
-/

namespace NetStack

open Tiling Transition SlidingWindow

variable [HyLib]

variable {e f : Endpoint} {wo wi : List Packet} {s₁ s₂ : State Packet}

/-- What an endpoint may rely on when it acts. -/
structure Ready (e : Endpoint) (s₁ : State Packet) : Prop where
  /-- Outside the connecting states the own SYN is acknowledged, and it stays so. -/
  opened : e.con.MaySend → 1 ≤ s₁.una
  /-- A SYN arrives before the sequence numbers of the own direction are used up. -/
  syn : ∀ pkt rest, e.con.pktRecvBuffer = pkt :: rest → pkt.kind = .syn →
    s₁.hist = [] ∨ s₁.una < s₁.hist.length ∨ offset s₁.hist s₁.una < 2 ^ 32
  /-- In SYN_SENT nothing was acknowledged, and no acknowledgement but a SYN-ACK is on its
  way. -/
  connecting : e.con.state = .synSent → s₁.una = 0 ∧ s₁.acks = [] ∧ s₁.hist ≠ []

/-! ## State sections -/

theorem Endpoint.similar_handleACKState (e : Endpoint) (sendWindowEmpty : Bool) :
    e.Similar { e with con := e.con.handleACKState sendWindowEmpty } := by
  unfold TcpController.handleACKState
  split
  · exact {}
  · split
    · exact {}
    · split
      · exact {}
      · split
        · exact {}
        · exact {}

theorem Endpoint.similar_handleFINState (e : Endpoint) :
    e.Similar { e with con := e.con.handleFINState } := by
  unfold TcpController.handleFINState
  split <;> exact {}

/-! ## `HandleACK` -/

/-- The window section of `HandleACK`: take in the acknowledgement, retransmit if it is the
last of a row of duplicates. -/
theorem Linked.handleACKWindow (h : Linked e f wo wi s₁ s₂) {pkt : Packet} {rest : List Packet}
    (hbuf : e.con.pktRecvBuffer = pkt :: rest) (hkind : pkt.kind = .ack)
    (hend : offset s₁.hist s₁.hist.length ≤ 2 ^ 32) (g : Globals) :
    ∃ b g' c', { e.con with pktRecvBuffer := rest }.handleACKWindow g pkt = .ok (b, g', c') ∧
      ∃ s₁', Steps s₁ s₁' ∧ Linked { e with con := c' } f wo wi s₁' s₂ := by
  obtain ⟨res, w', g', hrun, s₁', hsteps, -, hlinked⟩ := h.recvAck hbuf hkind hend g
  unfold TcpController.handleACKWindow
  simp only [hrun, ok_bind]
  by_cases hre : res.reTransmit = true
  · obtain ⟨s₁'', hsteps', hlinked'⟩ := hlinked.resendBase
    refine ⟨_, _, _, rfl, s₁'', hsteps.trans hsteps', hlinked'.similar ?_⟩
    -- raising the capacity and picking the base packet do not interfere
    rw [if_pos hre]
    cases hq : w'.pktsToAck with
    | nil =>
      constructor <;> simp [TcpController.resendBase, SendWindow.getBasePakcketToReSend, hq,
        TcpController.sendPacket, SendWindow.setCapacity, TcpController.getNewSendWindowSize,
        kEnableCongestionControl]
    | cons node nodes =>
      constructor <;> simp [TcpController.resendBase, SendWindow.getBasePakcketToReSend, hq,
        TcpController.sendPacket, SendWindow.setCapacity, TcpController.getNewSendWindowSize,
        kEnableCongestionControl]
  · rw [if_neg hre]
    exact ⟨_, _, _, rfl, s₁', hsteps, hlinked.similar {}⟩

theorem Linked.handleACK (h : Linked e f wo wi s₁ s₂) {pkt : Packet} {rest : List Packet}
    (hbuf : e.con.pktRecvBuffer = pkt :: rest) (hkind : pkt.kind = .ack)
    (hend : offset s₁.hist s₁.hist.length ≤ 2 ^ 32) (g : Globals) :
    ∃ g' c', { e.con with pktRecvBuffer := rest }.handleACK g pkt = .ok (g', c') ∧
      ∃ s₁', Steps s₁ s₁' ∧ Linked { e with con := c' } f wo wi s₁' s₂ := by
  obtain ⟨b, g', c', hrun, s₁', hsteps, hlinked⟩ := h.handleACKWindow hbuf hkind hend g
  refine ⟨g', c'.handleACKState b, ?_, s₁', hsteps, ?_⟩
  · rw [TcpController.handleACK, hrun]
    rfl
  · exact hlinked.similar (Endpoint.similar_handleACKState { e with con := c' } b)

/-! ## SYN and SYN-ACK -/

/-- The receive window takes in a SYN, for the first time or again. -/
theorem Linked.receivePacket_sync (h : Linked e f wo wi s₁ s₂) {pkt : Packet}
    {rest : List Packet} (hbuf : e.con.pktRecvBuffer = pkt :: rest)
    (hsync : pkt.tcpHeader.sync = true) (hend : offset s₂.hist s₂.hist.length ≤ 2 ^ 32) :
    ∃ chain w, e.con.recvWindow.receivePacket pkt = .ok (1, chain, w) ∧
      w.Holds s₂.hist 1 [] := by
  obtain ⟨hp, hoff, hr, hooo, -⟩ := h.sync_head hbuf hsync
  have ht := h.inn.sends.history.tiled
  have hle : offset s₂.hist s₂.rcvd ≤ offset s₂.hist 1 := offset_mono _ hr
  have hholds := h.inn.receives.window (by omega)
  rw [hooo] at hholds
  rcases Nat.eq_zero_or_pos s₂.rcvd with h0 | hpos
  · rw [h0] at hholds
    obtain ⟨k, left, w, hrun, -, hrecv, hw, -⟩ :=
      hholds.receive_next ht hend hp .nil (by simp)
    obtain ⟨hk, hleft⟩ := List.append_eq_nil_iff.mp hrun.symm
    obtain rfl : k = 0 := by simpa using hk
    subst hleft
    have hbase : w.recvBase = 1 := by
      rw [hw.base, hoff]
      rfl
    rw [hbase] at hrecv
    exact ⟨_, w, hrecv, hw⟩
  · have hr1 : s₂.rcvd = 1 := by omega
    rw [hr1] at hholds
    have hlen : 1 ≤ s₂.hist.length := (List.getElem?_eq_some_iff.mp hp).1
    have hbase : e.con.recvWindow.recvBase = 1 := by
      rw [hholds.base, hoff]
      rfl
    have hrecv := hholds.receive_old ht hend hp (by omega) hlen (by omega)
    rw [hbase] at hrecv
    exact ⟨[], e.con.recvWindow, hrecv, hholds⟩

/-- An empty window refuses a packet or takes it at its base. -/
theorem SendWindow.sendPacket_of_nil {w : SendWindow} (h : w.pktsToAck = []) (clock : ℕ)
    (p : Packet) : w.sendPacket clock p = .ok (false, w) ∨
      (p.tcpHeader.seqNum = w.sendBase ∧
        w.sendPacket clock p = .ok (true, w.enqueue clock p)) := by
  unfold SendWindow.sendPacket
  simp only [h, List.getLast?_nil]
  split
  · exact Or.inl rfl
  · split
    · exact Or.inl rfl
    · next hseq => exact Or.inr ⟨not_not.mp hseq, rfl⟩

/-- The size of the window tells whether something is unacknowledged. -/
theorem Sends.size_eq_zero {s : State Packet} (h : Sends e s)
    (hend : offset s.hist s.hist.length ≤ 2 ^ 32) (h0 : ¬ e.con.sendWindow.size > 0) :
    s.una = s.hist.length := by
  by_contra hne
  have hlt : s.una < s.hist.length := lt_of_le_of_ne h.window.una_le hne
  have hoff := offset_lt h.history.tiled.pos hlt le_rfl
  have hdiff : offset s.hist s.hist.length - offset s.hist s.una < 2 ^ 32 := by
    rcases Nat.eq_zero_or_pos s.una with hu | hu
    · have := h.offset_le_of_opening hu
      omega
    · have := le_offset h.history.tiled.pos h.window.una_le
      omega
  refine h0 ?_
  rw [h.window.size, gt_iff_lt, UInt32.lt_iff_toNat_lt, UInt32.toNat_zero,
    UInt32.toNat_ofNat_of_lt' hdiff]
  omega

/-- Registering a SYN or SYN-ACK as the first packet. -/
theorem Sends.syncPacket {s : State Packet} (h : Sends e s) (hnil : s.hist = []) (clock : ℕ)
    {p : Packet} (hreg : p.Regular) (hsync : p.tcpHeader.sync = true)
    (hseq : p.tcpHeader.seqNum = 0) :
    Sends { e with con := { e.con with sendWindow := e.con.sendWindow.enqueue clock p } }
      { s with hist := s.hist ++ [p] } := by
  have hu : s.una = 0 := by
    have := h.window.una_le
    simpa [hnil] using this
  have hpfin : p.tcpHeader.fin = false := hreg.sync hsync
  have hcontrol : p.control = true := by simp [Packet.control, hsync]
  have hone : offset [p] 1 = 1 := by
    have := offset_concat [] p
    rwa [List.nil_append, List.length_singleton, offset_nil, Nat.zero_add,
      hreg.len_control hcontrol] at this
  refine { h with
    window := h.window.enqueue clock p, history := ?_, first := ?_, written := ?_,
    fins := ?_, drained := ?_, opening := ?_, credit := ?_, edge := ?_ }
  · refine h.history.concat hreg ?_ (fun _ => hnil) ?_
    · rw [hnil, hseq]
      rfl
    · simp [NoFin, hnil]
  · intro q hq
    simp only [hnil, List.nil_append, List.getElem?_cons_zero, Option.some.injEq] at hq
    rw [← hq, hcontrol]
  · rw [← h.written, stream_append, stream_cons, (hreg.control hcontrol).1]
    simp
  · rw [List.countP_append]
    simpa [hpfin] using h.fins
  · intro hfin
    refine absurd (fun q hq => ?_) hfin
    simp only [hnil, List.nil_append, List.mem_singleton] at hq
    rw [hq, hpfin]
  · intro _
    refine ⟨(h.opening hu).1, ?_⟩
    rw [hnil, List.nil_append, stream_cons, (hreg.control hcontrol).1]
    rfl
  · intro _ hu'
    simp only [hu] at hu'
    omega
  · intro _
    have := h.edge (by simp [NoFin, hnil])
    simp only [hnil, List.length_nil, offset_zero] at this
    simp only [hnil, List.nil_append, List.length_singleton, hone]
    exact this

/-- The first packet of a server: a SYN-ACK for the client's SYN. -/
theorem Linked.sendSyncAck (h : Linked e f wo wi s₁ s₂) (hnil : s₁.hist = [])
    (hpos : 1 ≤ s₂.rcvd) (hquiet : stream (s₂.hist.take s₂.rcvd) = []) (clock : ℕ) :
    ∃ s₁', Steps s₁ s₁' ∧ Linked { e with con := { e.con with
        sendWindow := e.con.sendWindow.enqueue clock (e.con.makeSyncAckPacket 0 1)
        pktSendBuffer := e.con.pktSendBuffer ++ [e.con.makeSyncAckPacket 0 1] } } f wo wi
      s₁' s₂ := by
  have hsends := h.out.sends.syncPacket hnil clock (e.con.makeSyncAckPacket_regular 0 1) rfl rfl
  set p := e.con.makeSyncAckPacket 0 1 with hp
  -- nothing was received yet, so the whole buffer is free
  have hwin : p.tcpHeader.windowSize.toNat = e.con.recvBuffer.capacity := by
    have hdel := congrArg List.length h.inn.receives.delivered
    rw [hquiet, List.length_append, List.length_nil] at hdel
    have hbuf := e.con.recvBuffer.size_add_freeSpace
    have hsmall := h.inn.small
    show (UInt16.ofNat e.con.recvBuffer.freeSpace).toNat = _
    rw [UInt16.toNat_ofNat_of_lt' (by simp only [UInt16.size]; omega)]
    omega
  have hroom : (stream (s₁.hist ++ [p])).length
      ≤ f.readOut.length + f.con.recvBuffer.capacity := by
    rw [hnil]
    exact Nat.zero_le _
  have hgreets : Greets e { s₁ with hist := s₁.hist ++ [p] } s₂ := by
    intro q hq _ _
    simp only [hnil, List.nil_append, List.getElem?_cons_zero, Option.some.injEq] at hq
    rw [← hq]
    exact ⟨rfl, hwin, hpos⟩
  obtain ⟨s₁', hsteps, -, -, -, hlinked⟩ :=
    h.enqueue [p] (k := e.finTasks) hsends hroom hgreets (Or.inr ⟨rfl, Or.inl hnil⟩)
  exact ⟨s₁', hsteps, hlinked⟩

/-- **`HandleSYN`** answers with a SYN-ACK, or repeats the oldest packet that is not
acknowledged. Its check never fails. -/
theorem Linked.handleSYN (h : Linked e f wo wi s₁ s₂) {pkt : Packet} {rest : List Packet}
    (hbuf : e.con.pktRecvBuffer = pkt :: rest) (hsync : pkt.tcpHeader.sync = true)
    (hready : s₁.hist = [] ∨ s₁.una < s₁.hist.length ∨ offset s₁.hist s₁.una < 2 ^ 32)
    (hend₁ : offset s₁.hist s₁.hist.length ≤ 2 ^ 32)
    (hend₂ : offset s₂.hist s₂.hist.length ≤ 2 ^ 32) (g : Globals) :
    ∃ c', { e.con with pktRecvBuffer := rest }.handleSYN g pkt = .ok c' ∧
      ∃ s₁' s₂', Steps s₁ s₁' ∧ Steps s₂ s₂' ∧ Linked { e with con := c' } f wo wi s₁' s₂' := by
  obtain ⟨chain, w, hrecv, hw⟩ := h.receivePacket_sync hbuf hsync hend₂
  obtain ⟨hp, -, -, -, hpay, -, -⟩ := h.sync_head hbuf hsync
  obtain ⟨s₂', hsteps₂, hrcvd, hhist, hlinked⟩ := h.recvSync hbuf hsync hw
  have hseq : pkt.tcpHeader.seqNum = 0 := by
    rw [h.inn.sends.history.tiled.seq hp, offset_zero]
    rfl
  unfold TcpController.handleSYN
  simp only [hrecv, ok_bind, hseq]
  rw [if_neg (by decide)]
  split
  · -- the SYN-ACK is still in the window and is sent again
    obtain ⟨s₁', hsteps₁, hlinked'⟩ := hlinked.resendBase
    exact ⟨_, rfl, s₁', s₂', hsteps₁, hsteps₂, hlinked'⟩
  · next hsize =>
    have huna := h.out.sends.size_eq_zero hend₁ hsize
    have hq := h.out.sends.window.queue_eq_nil_iff.mpr huna
    set c : TcpController := { e.con with pktRecvBuffer := rest, recvWindow := w } with hc
    rcases SendWindow.sendPacket_of_nil hq g.clock (c.makeSyncAckPacket 0 1) with
      href | ⟨hbase, hsent⟩
    · -- refused: the send base is not 0 any more
      rw [href]
      exact ⟨c, rfl, s₁, s₂', .refl, hsteps₂, hlinked⟩
    · -- only a history without any packet ends at 0
      have hnil : s₁.hist = [] := by
        rcases hready with hnil | hlt | hfit
        · exact hnil
        · omega
        · have hle := le_offset h.out.sends.history.tiled.pos h.out.inv.una_le
          have h0 : (0 : UInt32) = UInt32.ofNat (offset s₁.hist s₁.una) := by
            rw [← h.out.sends.window.base, ← hbase]
            rfl
          have hnat := congrArg UInt32.toNat h0
          rw [UInt32.toNat_ofNat_of_lt' hfit, UInt32.toNat_zero] at hnat
          exact List.length_eq_zero_iff.mp (by omega)
      rw [hsent, ok_bind]
      obtain ⟨s₁', hsteps₁, hlinked'⟩ :=
        hlinked.sendSyncAck hnil (by omega) (by rw [hhist, hrcvd, hpay]) g.clock
      refine ⟨_, rfl, s₁', s₂', hsteps₁, hsteps₂, hlinked'.similar ?_⟩
      rw [(c.makeSyncAckPacket_regular 0 1).copy_eq]
      exact {}

/-- The SYN-ACK as an acknowledgement: in SYN_SENT it acknowledges the own SYN and opens the
send window. -/
theorem Linked.connect (h : Linked e f wo wi s₁ s₂) {pkt : Packet} (hp : s₂.hist[0]? = some pkt)
    (hsync : pkt.tcpHeader.sync = true) (hack : pkt.tcpHeader.ack = true) (hu : s₁.una = 0)
    (hacks : s₁.acks = []) (hne : s₁.hist ≠ [])
    (hend : offset s₁.hist s₁.hist.length ≤ 2 ^ 32) (g : Globals) :
    ∃ res w' g', e.con.sendWindow.newAckedPacket g pkt.tcpHeader.ackNum = .ok (res, w', g') ∧
      ∃ s₁', Steps s₁ s₁' ∧ Linked { e with con := { e.con with
        sendWindow := w'.setCapacity pkt.tcpHeader.windowSize.toUInt32 } } f wo wi s₁' s₂ := by
  obtain ⟨hnum, hwin, hpos⟩ := h.greeted pkt hp hsync hack
  have hsends := h.out.sends
  have hrcvd : s₁.rcvd = 1 := by
    have := (h.out.inv.opening hu hne).2.1
    omega
  obtain ⟨q, hq⟩ : ∃ q, s₁.hist[0]? = some q :=
    ⟨_, List.getElem?_eq_getElem (List.length_pos_iff.mpr hne)⟩
  have hreg := hsends.history.regular _ (List.mem_of_getElem? hq)
  have hcontrol := hsends.first q hq
  have hoff : offset s₁.hist 1 = 1 := by
    rw [offset_succ hq, offset_zero, hreg.len_control hcontrol]
  have hlen : 1 ≤ s₁.hist.length := List.length_pos_iff.mpr hne
  have hack1 : pkt.tcpHeader.ackNum = UInt32.ofNat (offset s₁.hist 1) := by
    rw [hnum, hoff]
    rfl
  -- the peer has received the SYN only, so its whole buffer is free
  have hlimit : s₁.limit = 1 + f.con.recvBuffer.capacity := by
    have hdel := congrArg List.length h.out.receives.delivered
    rw [hrcvd, List.take_add_one, hq] at hdel
    simp only [List.take_zero, Option.toList_some, List.nil_append, stream_cons, stream_nil,
      (hreg.control hcontrol).1, List.length_append, List.length_nil] at hdel
    have hbuf := f.con.recvBuffer.size_add_freeSpace
    rw [h.out.receives.limit, hrcvd, hoff, max_self]
    omega
  obtain ⟨res, w', g', hrun, hholds, -⟩ :=
    hsends.window.newAckedPacket hsends.history.tiled g (j := 1) (by omega) hlen hend
      (by intro _; omega)
  have hsteps : Steps s₁ { s₁ with una := s₁.rcvd, credit := s₁.limit, acks := [] } :=
    Relation.ReflTransGen.tail (.single (.ack s₁ hpos)) (.recvAck _ (by simp [hacks]))
  refine ⟨res, w', g', by rw [hack1, hrun], _, hsteps, ?_⟩
  refine ⟨⟨h.out.inv.steps hsteps, ?_, { h.out.receives with }, h.out.room, h.out.small⟩,
    { h.inn with receives := { h.inn.receives with } }, ?_, ?_, h.greets, h.greeted⟩
  · exact { hsends with
      window := by
        rw [hrcvd]
        exact hholds.setCapacity _
      opening := by
        simp only [hrcvd]
        omega
      credit := fun _ _ => by
        simp only [hrcvd, hoff, SendWindow.setCapacity, UInt16.toNat_toUInt32, hwin, hlimit]
      edge := fun hno => (hsends.edge hno).trans h.out.inv.credit_le_limit }
  · exact h.toPeer.mono (List.prefix_refl _) (List.prefix_refl _) h.out.inv.una_le_rcvd
  · have := h.fromPeer
    rwa [hacks] at this

/-- The end of `HandleACKSYN`: the receive base it sets is the one that is set already, on
every further copy of the SYN-ACK. -/
theorem Linked.setRecvBase (h : Linked e f wo wi s₁ s₂) {pkt : Packet} {rest : List Packet}
    (hbuf : e.con.pktRecvBuffer = pkt :: rest) (hsync : pkt.tcpHeader.sync = true)
    {c : TcpController} (hc : c = { e.con with
      pktRecvBuffer := rest, recvWindow := e.con.recvWindow.setRecvBase 1 }) :
    ∃ s₂', Steps s₂ s₂' ∧
      Linked { e with con := c.sendPacket (some (c.makeAckPacket 1)) } f wo wi s₁ s₂' := by
  obtain ⟨-, hoff, hr, hooo, -⟩ := h.sync_head hbuf hsync
  have hw : (e.con.recvWindow.setRecvBase 1).Holds s₂.hist 1 [] := by
    have hle : offset s₂.hist s₂.rcvd ≤ offset s₂.hist 1 := offset_mono _ hr
    have hpkts := (h.inn.receives.window (by omega)).pkts
    rw [hooo] at hpkts
    refine ⟨?_, hpkts⟩
    rw [hoff]
    rfl
  obtain ⟨s₂', hsteps, hrcvd, -, hlinked⟩ := h.recvSync hbuf hsync hw
  rw [← hc] at hlinked
  have hone : (1 : UInt32) = c.recvWindow.recvBase := by
    rw [hc]
    rfl
  obtain ⟨s₂'', hsteps', hlinked'⟩ := hlinked.sendAck (by omega) hone
  exact ⟨s₂'', hsteps.trans hsteps', hlinked'⟩

/-- **`HandleACKSYN`** connects in SYN_SENT and acknowledges every copy of the SYN-ACK. -/
theorem Linked.handleACKSYN (h : Linked e f wo wi s₁ s₂) {pkt : Packet} {rest : List Packet}
    (hbuf : e.con.pktRecvBuffer = pkt :: rest) (hsync : pkt.tcpHeader.sync = true)
    (hack : pkt.tcpHeader.ack = true)
    (hready : e.con.state = .synSent → s₁.una = 0 ∧ s₁.acks = [] ∧ s₁.hist ≠ [])
    (hend : offset s₁.hist s₁.hist.length ≤ 2 ^ 32) (g : Globals) :
    ∃ g' c', { e.con with pktRecvBuffer := rest }.handleACKSYN g pkt = .ok (g', c') ∧
      ∃ s₁' s₂', Steps s₁ s₁' ∧ Steps s₂ s₂' ∧ Linked { e with con := c' } f wo wi s₁' s₂' := by
  obtain ⟨hp, -⟩ := h.sync_head hbuf hsync
  have hseq : pkt.tcpHeader.seqNum + 1 = 1 := by
    rw [h.inn.sends.history.tiled.seq hp, offset_zero]
    rfl
  unfold TcpController.handleACKSYN
  by_cases hst : e.con.state = .synSent
  · obtain ⟨hu, hacks, hne⟩ := hready hst
    obtain ⟨res, w', g', hrun, s₁', hsteps₁, hlinked⟩ :=
      h.connect hp hsync hack hu hacks hne hend g
    obtain ⟨s₂', hsteps₂, hlinked'⟩ := hlinked.setRecvBase hbuf hsync rfl
    rw [if_pos hst]
    simp only [TcpController.handleACKSYNConnect, hrun, ok_bind, hseq]
    exact ⟨_, _, rfl, s₁', s₂', hsteps₁, hsteps₂, hlinked'.similar {}⟩
  · obtain ⟨s₂', hsteps₂, hlinked⟩ := h.setRecvBase hbuf hsync rfl
    rw [if_neg hst]
    simp only [ok_bind, hseq]
    exact ⟨_, _, rfl, s₁, s₂', .refl, hsteps₂, hlinked.similar {}⟩

/-! ## Dispatch -/

omit [HyLib] in
/-- No registered packet resets the connection. -/
theorem Packet.Regular.kind_ne_rst {p : Packet} (h : p.Regular) : p.kind ≠ .rst := by
  cases hs : p.tcpHeader.sync with
  | true => cases ha : p.tcpHeader.ack <;> simp [Packet.kind, hs, ha]
  | false =>
    rw [h.kind_eq hs]
    split <;> simp

/-- A window probe is answered with an acknowledgement. -/
theorem Linked.recvProbe (h : Linked e f wo wi s₁ s₂) {pkt : Packet} {rest : List Packet}
    (hbuf : e.con.pktRecvBuffer = pkt :: rest) (hkind : pkt.kind = .data)
    (hsize : pkt.payloadSize = 0) {c : TcpController}
    (hc : c = { e.con with pktRecvBuffer := rest }) :
    ∃ s₂', Steps s₂ s₂' ∧
      Linked { e with con := c.sendPacket (some (c.makeAckPacket c.recvWindow.recvBase)) } f wo wi
        s₁ s₂' := by
  have hfrom := h.fromPeer
  simp only [flight, hbuf, List.cons_append] at hfrom
  generalize hacks : s₁.acks = acks at hfrom
  generalize hdata : s₂.data = data at hfrom
  cases hfrom with
  | data hp _ =>
    exact absurd hsize
      (h.inn.sends.history.regular _ (List.mem_of_getElem? hp)).payloadSize_ne_zero
  | ack hkind' _ _ _ _ => simp [hkind] at hkind'
  | probe _ _ hu hrest =>
    have hlinked : Linked { e with con := c } f wo wi s₁ s₂ := by
      subst hc
      refine ⟨{ h.out with sends := { h.out.sends with } },
        { h.inn with receives := { h.inn.receives with } }, h.toPeer, ?_, h.greets, h.greeted⟩
      rw [hdata, hacks]
      exact hrest
    exact hlinked.sendAck (hu.trans h.inn.inv.una_le_rcvd) rfl

section Dispatch

variable (h : Linked e f wo wi s₁ s₂) (hready : Ready e s₁)
  (hend₁ : offset s₁.hist s₁.hist.length ≤ 2 ^ 32)
  (hend₂ : offset s₂.hist s₂.hist.length ≤ 2 ^ 32)
include h hready hend₁ hend₂

/-- **Every handler refines the protocol**, and none fails before the end of the sequence
space. -/
theorem Linked.handlePacket {pkt : Packet} {rest : List Packet}
    (hbuf : e.con.pktRecvBuffer = pkt :: rest) (g : Globals) :
    (offset s₂.hist s₂.rcvd < 2 ^ 32 →
      ∃ r, { e.con with pktRecvBuffer := rest }.handlePacket g pkt = .ok r) ∧
    ∀ g' c', { e.con with pktRecvBuffer := rest }.handlePacket g pkt = .ok (g', c') →
      ∃ s₁' s₂', Steps s₁ s₁' ∧ Steps s₂ s₂' ∧ Linked { e with con := c' } f wo wi s₁' s₂' := by
  unfold TcpController.handlePacket
  cases hkind : pkt.kind with
  | syn =>
    obtain ⟨c, hrun, s₁', s₂', h₁, h₂, hl⟩ := h.handleSYN hbuf (Packet.sync_of_kind_syn hkind)
      (hready.syn pkt rest hbuf hkind) hend₁ hend₂ g
    simp only [hrun, Except.map]
    refine ⟨fun _ => ⟨_, rfl⟩, fun g' c' hc => ?_⟩
    cases hc
    exact ⟨s₁', s₂', h₁, h₂, hl⟩
  | synAck =>
    obtain ⟨hsync, hack⟩ := Packet.sync_of_kind_synAck hkind
    obtain ⟨g₁, c, hrun, s₁', s₂', h₁, h₂, hl⟩ :=
      h.handleACKSYN hbuf hsync hack hready.connecting hend₁ g
    simp only [hrun]
    refine ⟨fun _ => ⟨_, rfl⟩, fun g' c' hc => ?_⟩
    cases hc
    exact ⟨s₁', s₂', h₁, h₂, hl⟩
  | fin =>
    have hsync : pkt.tcpHeader.sync = false :=
      Packet.not_sync_of_kind (by simp [hkind]) (by simp [hkind])
    -- the state section comes first, and does not concern the windows
    have hl := h.similar e.similar_handleFINState
    have hbuf' : e.con.handleFINState.pktRecvBuffer = pkt :: rest := by
      rw [e.similar_handleFINState.pktRecvBuffer, hbuf]
    have hcomm : { e.con with pktRecvBuffer := rest }.handleFINState
        = { e.con.handleFINState with pktRecvBuffer := rest } := by
      cases hst : e.con.state <;> simp [TcpController.handleFINState, hst]
    simp only [TcpController.handleFIN, hcomm]
    refine ⟨fun hfit => ?_, fun g' c' hc => ?_⟩
    · obtain ⟨c, hrun⟩ := hl.receiveAndAck_ok hbuf' hsync (by simp [hkind]) (by simp [hkind])
        hend₂ hfit
      simp only at hrun
      rw [hrun]
      exact ⟨_, rfl⟩
    · obtain ⟨c, hrun, hc⟩ := map_eq_ok.mp hc
      cases hc
      obtain ⟨s₂', hsteps, hl'⟩ := hl.receiveAndAck hbuf' hsync (by simp [hkind]) (by simp [hkind])
        hend₂ hrun
      exact ⟨s₁, s₂', .refl, hsteps, hl'⟩
  | ack =>
    obtain ⟨g₁, c, hrun, s₁', h₁, hl⟩ := h.handleACK hbuf hkind hend₁ g
    simp only [hrun]
    refine ⟨fun _ => ⟨_, rfl⟩, fun g' c' hc => ?_⟩
    cases hc
    exact ⟨s₁', s₂, h₁, .refl, hl⟩
  | rst =>
    obtain ⟨i, d, -, hp, -⟩ := h.recv_data hbuf (by simp [hkind]) (by simp [hkind])
    exact absurd hkind (h.inn.sends.history.regular _ (List.mem_of_getElem? hp)).kind_ne_rst
  | data =>
    have hsync : pkt.tcpHeader.sync = false :=
      Packet.not_sync_of_kind (by simp [hkind]) (by simp [hkind])
    simp only [TcpController.handleDataPacket]
    by_cases hsize : pkt.payloadSize = 0
    · rw [if_pos hsize]
      obtain ⟨s₂', hsteps, hl⟩ := h.recvProbe hbuf hkind hsize rfl
      refine ⟨fun _ => ⟨_, rfl⟩, fun g' c' hc => ?_⟩
      cases hc
      exact ⟨s₁, s₂', .refl, hsteps, hl⟩
    · rw [if_neg hsize]
      refine ⟨fun hfit => ?_, fun g' c' hc => ?_⟩
      · obtain ⟨c, hrun⟩ := h.receiveAndAck_ok hbuf hsync (by simp [hkind]) (fun _ => hsize)
          hend₂ hfit
        simp only at hrun
        rw [hrun]
        exact ⟨_, rfl⟩
      · obtain ⟨c, hrun, hc⟩ := map_eq_ok.mp hc
        cases hc
        obtain ⟨s₂', hsteps, hl'⟩ := h.receiveAndAck hbuf hsync (by simp [hkind])
          (fun _ => hsize) hend₂ hrun
        exact ⟨s₁, s₂', .refl, hsteps, hl'⟩

theorem Linked.handleNext {g g' : Globals} {e' : Endpoint} (hrun : e.handleNext g = .ok (g', e')) :
    ∃ s₁' s₂', Steps s₁ s₁' ∧ Steps s₂ s₂' ∧ Linked e' f wo wi s₁' s₂' := by
  unfold Endpoint.handleNext at hrun
  split at hrun
  · cases hrun
    exact ⟨s₁, s₂, .refl, .refl, h⟩
  · next pkt rest hbuf =>
    obtain ⟨⟨g₁, c⟩, hc, hrun⟩ := bind_eq_ok.mp hrun
    cases hrun
    obtain ⟨s₁', s₂', h₁, h₂, hl⟩ := (h.handlePacket hready hend₁ hend₂ hbuf g).2 _ _ hc
    exact ⟨s₁', s₂', h₁, h₂, hl.similar {}⟩

end Dispatch

/-! ## Reading -/

/-- **`ReadData`** returns the oldest bytes of the receive buffer and moves the right edge. -/
theorem Linked.readData (h : Linked e f wo wi s₁ s₂) {size : ℕ} {e' : Endpoint}
    (hrun : e.readData size = .ok e') :
    ∃ s₂', Steps s₂ s₂' ∧ Linked e' f wo wi s₁ s₂' := by
  have hre := h.inn.receives
  unfold Endpoint.readData at hrun
  rcases e.con.readData_cases size with hr | hr | hr | ⟨heof, -, hr⟩ | ⟨-, hr⟩
  · rw [hr] at hrun
    cases hrun
  · rw [hr] at hrun
    cases hrun
    exact ⟨s₂, .refl, h⟩
  · rw [hr] at hrun
    cases hrun
    exact ⟨s₂, .refl, h.similar { readOut := by simp }⟩
  · rw [hr] at hrun
    cases hrun
    -- the end of the stream: the pipe remembers that it was read
    refine ⟨s₂, .refl, { h.out with sends := { h.out.sends with } },
      { h.inn with receives := { hre with delivered := ?_, eof := ?_ }, room := ?_ },
      h.toPeer, h.fromPeer, h.greets, h.greeted⟩
    · simpa using hre.delivered
    · rw [← hre.eof, heof]
      simp
    · simpa using h.inn.room
  · rw [hr] at hrun
    cases hrun
    -- what is read makes room, so the right edge moves forward
    have hfree : e.con.recvBuffer.freeSpace ≤ (e.con.recvBuffer.read size).2.freeSpace := by
      simp only [RingBuffer.freeSpace_eq, RingBuffer.bytes_read, RingBuffer.capacity_read,
        List.length_drop]
      omega
    have hstep : Step s₂ { s₂ with limit := max 1 (offset s₂.hist s₂.rcvd) +
        (e.con.recvBuffer.read size).2.freeSpace } :=
      .grant s₂ (by rw [hre.limit]; omega)
    refine ⟨_, .single hstep, { h.out with sends := { h.out.sends with } },
      ⟨h.inn.inv.step hstep, { h.inn.sends with }, { hre with delivered := ?_, limit := rfl },
        ?_, (RingBuffer.capacity_read ..).trans_le h.inn.small⟩, h.toPeer, h.fromPeer,
      h.greets.of_capacity (RingBuffer.capacity_read ..), h.greeted⟩
    · show (e.readOut ++ (e.con.recvBuffer.read size).1) ++ (e.con.recvBuffer.read size).2.bytes
        = stream (s₂.hist.take s₂.rcvd)
      rw [RingBuffer.read_fst, RingBuffer.bytes_read, List.append_assoc, List.take_append_drop,
        hre.delivered]
    · have := h.inn.room
      show (stream s₂.hist).length
        ≤ (e.readOut ++ (e.con.recvBuffer.read size).1).length +
          (e.con.recvBuffer.read size).2.capacity
      rw [List.length_append, RingBuffer.capacity_read]
      omega

/-! ## Every action -/

section Step

variable (h : Linked e f wo wi s₁ s₂) (hready : Ready e s₁)
  (hend₁ : offset s₁.hist s₁.hist.length ≤ 2 ^ 32)
  (hend₂ : offset s₂.hist s₂.hist.length ≤ 2 ^ 32)
include h hready hend₁ hend₂

/-- **Whatever an endpoint does, both directions follow.** -/
theorem Linked.step {g g' : Globals} {a : Action} {e' : Endpoint}
    (hrun : e.step g a = .ok (g', e')) :
    ∃ s₁' s₂', Steps s₁ s₁' ∧ Steps s₂ s₂' ∧ Linked e' f wo wi s₁' s₂' := by
  cases a with
  | writeData buf =>
    cases hrun
    exact ⟨s₁, s₂, .refl, .refl, h.writeData buf⟩
  | readData size =>
    obtain ⟨e₁, he₁, heq⟩ := map_eq_ok.mp hrun
    cases heq
    obtain ⟨s₂', hsteps, hl⟩ := h.readData he₁
    exact ⟨s₁, s₂', .refl, hsteps, hl⟩
  | shutDown =>
    cases hrun
    exact ⟨s₁, s₂, .refl, .refl, h.shutDownSocket⟩
  | close =>
    cases hrun
    exact ⟨s₁, s₂, .refl, .refl, h.closeSocket⟩
  | sendFIN =>
    obtain ⟨e₁, he₁, s₁', hsteps, hl⟩ := h.runSendFIN (fun hopen => hready.opened (Or.inl hopen)) g.clock
    obtain ⟨e₂, he₂, heq⟩ := map_eq_ok.mp hrun
    cases heq
    cases he₁.symm.trans he₂
    exact ⟨s₁', s₂, hsteps, .refl, hl⟩
  | sendBufferListener =>
    obtain ⟨c, hc, s₁', hsteps, hl⟩ := h.sendBufferListener hready.opened g.clock
    obtain ⟨c', hc', heq⟩ := map_eq_ok.mp hrun
    cases heq
    cases hc.symm.trans hc'
    exact ⟨s₁', s₂, hsteps, .refl, hl⟩
  | receiveBufferListener =>
    cases hrun
    -- everything fits in the receive buffer, so there is nothing to push
    have hsame : e.con.receiveBufferListener = e.con := by
      rw [TcpController.receiveBufferListener,
        TcpController.pushOverflowed_of_nil h.inn.receives.overflow, ite_self]
    rw [hsame]
    exact ⟨s₁, s₂, .refl, .refl, h⟩
  | timeoutReTransmitter =>
    cases hrun
    obtain ⟨s₁', hsteps, hl⟩ := h.timeoutReTransmitter
    exact ⟨s₁', s₂, hsteps, .refl, hl⟩
  | probeWindowSize =>
    cases hrun
    exact ⟨s₁, s₂, .refl, .refl, h.probeWindowSize⟩
  | handlePacket => exact h.handleNext hready hend₁ hend₂ hrun

/-- **No action aborts the process before the end of the sequence space**, except reading
behind the end of the stream. -/
theorem Linked.step_error (hfit : offset s₂.hist s₂.rcvd < 2 ^ 32) {g : Globals} {a : Action}
    {x : Fatal} (hrun : e.step g a = .error x) : x = .dataAfterEof := by
  cases a with
  | writeData buf => cases hrun
  | readData size =>
    simp only [Endpoint.step, Endpoint.readData] at hrun
    rcases e.con.readData_cases size with hr | hr | hr | ⟨-, -, hr⟩ | ⟨-, hr⟩
    · rw [hr] at hrun
      cases hrun
      rfl
    all_goals
      rw [hr] at hrun
      cases hrun
  | shutDown => cases hrun
  | close => cases hrun
  | sendFIN =>
    obtain ⟨e₁, he₁, -⟩ := h.runSendFIN (fun hopen => hready.opened (Or.inl hopen)) g.clock
    simp [Endpoint.step, he₁, Except.map] at hrun
  | sendBufferListener =>
    obtain ⟨c, hc, -⟩ := h.sendBufferListener hready.opened g.clock
    simp [Endpoint.step, hc, Except.map] at hrun
  | receiveBufferListener => cases hrun
  | timeoutReTransmitter => cases hrun
  | probeWindowSize => cases hrun
  | handlePacket =>
    replace hrun : e.handleNext g = .error x := hrun
    unfold Endpoint.handleNext at hrun
    split at hrun
    · cases hrun
    · next pkt rest hbuf =>
      obtain ⟨r, hr⟩ := (h.handlePacket hready hend₁ hend₂ hbuf g).1 hfit
      rw [hr] at hrun
      cases hrun

end Step

end NetStack
