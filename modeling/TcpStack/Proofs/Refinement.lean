import TcpStack.Lib.SlidingWindow
import TcpStack.Model.Network
import TcpStack.Proofs.History
import TcpStack.Proofs.RecvWindow

/-!
# TcpStack — a connection as two sliding windows

A connection refines two copies of the sliding-window protocol, one for each direction.
`Linked e f` is the relation: `e` is the sender of the first copy and the receiver of the
second, `f` the other way round, and the packets in flight carry the segments of one copy
and the acknowledgements of the other. The relation is symmetric in the two ends, so every
step has to be followed for one end only.

* **`Carries`** — what the packets of one flight mean for the two copies.
* **`Sends`** / **`Receives`** — an endpoint as the sender and as the receiver of a copy.
* **`Linked.resendBase`**, **`Linked.sendAck`**, **`Linked.enqueue`**, **`Linked.recvAck`**,
  **`Linked.receiveAndAck`** — the moves every action is composed of.
-/

namespace NetStack

open Tiling Transition SlidingWindow

/-! ## Packets in flight -/

/-- A flight from one end to the other: segments of `out`, the history of the sending end,
acknowledgements for `inn`, the history of the other end, and window probes. -/
inductive Carries (out inn : List Packet) (una : ℕ) :
    List Packet → List ℕ → List (ℕ × ℕ) → Prop where
  | nil : Carries out inn una [] [] []
  | data {p : Packet} {i : ℕ} {l : List Packet} {d : List ℕ} {a : List (ℕ × ℕ)}
      (hp : out[i]? = some p) (h : Carries out inn una l d a) :
      Carries out inn una (p :: l) (i :: d) a
  | ack {p : Packet} {j r : ℕ} {l : List Packet} {d : List ℕ} {a : List (ℕ × ℕ)}
      (hkind : p.kind = .ack) (hj : j ≤ inn.length)
      (hnum : p.tcpHeader.ackNum = UInt32.ofNat (offset inn j))
      (hwin : r = offset inn j + p.tcpHeader.windowSize.toNat)
      (h : Carries out inn una l d a) : Carries out inn una (p :: l) d ((j, r) :: a)
  | probe {p : Packet} {l : List Packet} {d : List ℕ} {a : List (ℕ × ℕ)}
      (hkind : p.kind = .data) (hsize : p.payloadSize = 0) (hu : 1 ≤ una)
      (h : Carries out inn una l d a) : Carries out inn una (p :: l) d a

namespace Carries

variable {out inn : List Packet} {una : ℕ} {l l' : List Packet} {d d' : List ℕ}
  {a a' : List (ℕ × ℕ)}

/-- What a flight carries does not change when the histories grow. -/
theorem mono (h : Carries out inn una l d a) {out' inn' : List Packet} {una' : ℕ}
    (hout : out <+: out') (hinn : inn <+: inn') (hu : una ≤ una') :
    Carries out' inn' una' l d a := by
  induction h with
  | nil => exact .nil
  | data hp _ ih =>
    obtain ⟨m, rfl⟩ := hout
    exact .data (by rw [List.getElem?_append_left (List.getElem?_eq_some_iff.mp hp).1, hp]) ih
  | ack hkind hj hnum hwin _ ih =>
    obtain ⟨m, rfl⟩ := hinn
    refine .ack hkind (hj.trans (by simp)) ?_ ?_ ih
    · rw [offset_append _ hj, hnum]
    · rw [offset_append _ hj, hwin]
  | probe hkind hsize hu' _ ih => exact .probe hkind hsize (hu'.trans hu) ih

theorem append (h : Carries out inn una l d a) (h' : Carries out inn una l' d' a') :
    Carries out inn una (l ++ l') (d ++ d') (a ++ a') := by
  induction h with
  | nil => exact h'
  | data hp _ ih => exact .data hp ih
  | ack hkind hj hnum hwin _ ih => exact .ack hkind hj hnum hwin ih
  | probe hkind hsize hu _ ih => exact .probe hkind hsize hu ih

/-- Losing packets loses segments and acknowledgements. -/
theorem sublist (h : Carries out inn una l d a) (hl : l'.Sublist l) :
    ∃ d' a', d'.Sublist d ∧ a'.Sublist a ∧ Carries out inn una l' d' a' := by
  induction h generalizing l' with
  | nil =>
    obtain rfl := List.sublist_nil.mp hl
    exact ⟨[], [], .slnil, .slnil, .nil⟩
  | data hp _ ih =>
    rcases List.sublist_cons_iff.mp hl with hl | ⟨r, rfl, hr⟩
    · obtain ⟨d', a', hd, ha, h'⟩ := ih hl
      exact ⟨d', a', hd.cons _, ha, h'⟩
    · obtain ⟨d', a', hd, ha, h'⟩ := ih hr
      exact ⟨_, a', hd.cons_cons _, ha, .data hp h'⟩
  | ack hkind hj hnum hwin _ ih =>
    rcases List.sublist_cons_iff.mp hl with hl | ⟨r, rfl, hr⟩
    · obtain ⟨d', a', hd, ha, h'⟩ := ih hl
      exact ⟨d', a', hd, ha.cons _, h'⟩
    · obtain ⟨d', a', hd, ha, h'⟩ := ih hr
      exact ⟨d', _, hd, ha.cons_cons _, .ack hkind hj hnum hwin h'⟩
  | probe hkind hsize hu _ ih =>
    rcases List.sublist_cons_iff.mp hl with hl | ⟨r, rfl, hr⟩
    · exact ih hl
    · obtain ⟨d', a', hd, ha, h'⟩ := ih hr
      exact ⟨d', a', hd, ha, .probe hkind hsize hu h'⟩

end Carries

variable [HyLib]

/-! ## The two ends of a direction -/

/-- The endpoint as a sender. Until the first FIN is registered its right edge is what the
receiver granted last, and it has not sent beyond it. -/
structure Sends (e : Endpoint) (s : State Packet) : Prop where
  window : e.con.sendWindow.Holds s.hist s.una
  history : History s.hist
  first : ∀ p, s.hist[0]? = some p → p.control = true
  written : stream s.hist ++ e.con.sendBuffer.bytes = e.written
  fins : s.hist.countP (·.tcpHeader.fin) + e.finTasks ≤ e.shutDown.toNat + e.closed.toNat
  drained : ¬ NoFin s.hist → e.con.sendBuffer.bytes = []
  opening : s.una = 0 → e.con.sendWindow.capacity ≠ 0 ∧ stream s.hist = []
  credit : NoFin s.hist → 1 ≤ s.una →
    offset s.hist s.una + e.con.sendWindow.capacity.toNat = s.credit
  edge : NoFin s.hist → max 1 (offset s.hist s.hist.length) ≤ s.credit

/-- The endpoint as a receiver. The receive list is meaningful as long as the receive base
has not reached `2^32`. -/
structure Receives (e : Endpoint) (s : State Packet) : Prop where
  base : e.con.recvWindow.recvBase = UInt32.ofNat (offset s.hist s.rcvd)
  window : offset s.hist s.rcvd < 2 ^ 32 → e.con.recvWindow.Holds s.hist s.rcvd s.ooo
  delivered : e.readOut ++ e.con.recvBuffer.bytes = stream (s.hist.take s.rcvd)
  overflow : e.con.overflowPkts = []
  eof : e.con.pipeState ≠ .opened ↔ ¬ NoFin (s.hist.take s.rcvd)
  limit : s.limit = max 1 (offset s.hist s.rcvd) + e.con.recvBuffer.freeSpace

/-- A direction: `e` sends, `f` receives, and what was sent fits in the receive buffer. -/
structure Direction (e f : Endpoint) (s : State Packet) : Prop where
  inv : Inv s
  sends : Sends e s
  receives : Receives f s
  room : (stream s.hist).length ≤ f.readOut.length + f.con.recvBuffer.capacity
  small : f.con.recvBuffer.capacity ≤ 65535

/-- If the history `s₁` of `e` starts with a SYN-ACK, it acknowledges the peer's SYN and
reports the whole receive buffer. -/
def Greets (e : Endpoint) (s₁ s₂ : State Packet) : Prop :=
  ∀ p, s₁.hist[0]? = some p → p.tcpHeader.sync = true → p.tcpHeader.ack = true →
    p.tcpHeader.ackNum = 1 ∧ p.tcpHeader.windowSize.toNat = e.con.recvBuffer.capacity ∧
      1 ≤ s₂.rcvd

/-- The packets between two ends: received and not handled, on the wire, not yet on the
wire. -/
def flight (sender receiver : Endpoint) (wire : List Packet) : List Packet :=
  receiver.con.pktRecvBuffer ++ wire ++ sender.con.pktSendBuffer

/-- **The refinement relation.** `s₁` is the direction from `e` to `f`, `s₂` the other. -/
structure Linked (e f : Endpoint) (wo wi : List Packet) (s₁ s₂ : State Packet) : Prop where
  out : Direction e f s₁
  inn : Direction f e s₂
  toPeer : Carries s₁.hist s₂.hist s₁.una (flight e f wo) s₁.data s₂.acks
  fromPeer : Carries s₂.hist s₁.hist s₂.una (flight f e wi) s₂.data s₁.acks
  greets : Greets e s₁ s₂
  greeted : Greets f s₂ s₁

theorem Linked.symm {e f : Endpoint} {wo wi : List Packet} {s₁ s₂ : State Packet}
    (h : Linked e f wo wi s₁ s₂) : Linked f e wi wo s₂ s₁ :=
  ⟨h.inn, h.out, h.fromPeer, h.toPeer, h.greeted, h.greets⟩

/-- The endpoints differ only in what the refinement does not look at: protocol state,
timers, congestion control. -/
structure Endpoint.Similar (e e' : Endpoint) : Prop where
  sendWindow : e'.con.sendWindow = e.con.sendWindow := by rfl
  sendBuffer : e'.con.sendBuffer = e.con.sendBuffer := by rfl
  recvWindow : e'.con.recvWindow = e.con.recvWindow := by rfl
  recvBuffer : e'.con.recvBuffer = e.con.recvBuffer := by rfl
  overflowPkts : e'.con.overflowPkts = e.con.overflowPkts := by rfl
  pipeState : e'.con.pipeState = e.con.pipeState := by rfl
  pktRecvBuffer : e'.con.pktRecvBuffer = e.con.pktRecvBuffer := by rfl
  pktSendBuffer : e'.con.pktSendBuffer = e.con.pktSendBuffer := by rfl
  written : e'.written = e.written := by rfl
  readOut : e'.readOut = e.readOut := by rfl
  shutDown : e'.shutDown = e.shutDown := by rfl
  closed : e'.closed = e.closed := by rfl
  finTasks : e'.finTasks = e.finTasks := by rfl

variable {e f : Endpoint} {wo wi : List Packet} {s₁ s₂ : State Packet}

theorem Linked.similar (h : Linked e f wo wi s₁ s₂) {e' : Endpoint} (hs : e.Similar e') :
    Linked e' f wo wi s₁ s₂ := by
  obtain ⟨⟨hi, hse, hre, hroom, hsm⟩, ⟨hi', hse', hre', hroom', hsm'⟩, hto, hfrom, hg, hg'⟩ := h
  refine ⟨⟨hi, ⟨?_, hse.history, hse.first, ?_, ?_, ?_, ?_, ?_, hse.edge⟩, hre, hroom, hsm⟩,
    ⟨hi', hse', ⟨?_, ?_, ?_, ?_, ?_, ?_⟩, ?_, ?_⟩, ?_, ?_, ?_, hg'⟩
  · exact hs.sendWindow ▸ hse.window
  · rw [hs.sendBuffer, hs.written, hse.written]
  · rw [hs.finTasks, hs.shutDown, hs.closed]
    exact hse.fins
  · rw [hs.sendBuffer]
    exact hse.drained
  · rw [hs.sendWindow]
    exact hse.opening
  · rw [hs.sendWindow]
    exact hse.credit
  · rw [hs.recvWindow, hre'.base]
  · rw [hs.recvWindow]
    exact hre'.window
  · rw [hs.readOut, hs.recvBuffer, hre'.delivered]
  · rw [hs.overflowPkts, hre'.overflow]
  · rw [hs.pipeState]
    exact hre'.eof
  · rw [hs.recvBuffer, hre'.limit]
  · rw [hs.readOut, hs.recvBuffer]
    exact hroom'
  · rw [hs.recvBuffer]
    exact hsm'
  · rw [flight, hs.pktSendBuffer]
    exact hto
  · rw [flight, hs.pktRecvBuffer]
    exact hfrom
  · rw [Greets, hs.recvBuffer]
    exact hg

/-! ## Transmitting -/

/-- Retransmitting the oldest packet that is not acknowledged. -/
theorem Linked.resendBase (h : Linked e f wo wi s₁ s₂) :
    ∃ s₁', Steps s₁ s₁' ∧ Linked { e with con := e.con.resendBase } f wo wi s₁' s₂ := by
  cases hq : e.con.sendWindow.pktsToAck with
  | nil =>
    have hsame : e.con.resendBase = e.con := by
      simp [TcpController.resendBase, SendWindow.getBasePakcketToReSend, hq,
        TcpController.sendPacket]
    rw [hsame]
    exact ⟨s₁, .refl, h⟩
  | cons node rest =>
    have hhead := h.out.sends.window.head hq
    have hlt : s₁.una < s₁.hist.length := (List.getElem?_eq_some_iff.mp hhead).1
    have hcopy := (h.out.sends.history.regular _ (List.mem_of_getElem? hhead)).copy_eq
    have hcon : e.con.resendBase = { e.con with
        sendWindow := { e.con.sendWindow with hasRetransmittedPkt := true }
        pktSendBuffer := e.con.pktSendBuffer ++ [node.pkt] } := by
      simp [TcpController.resendBase, SendWindow.getBasePakcketToReSend, hq,
        TcpController.sendPacket, hcopy]
    have hstep : Step s₁ { s₁ with data := s₁.data ++ [s₁.una] } := .resend s₁ hlt
    have hwindow := h.out.sends.window
    rw [hcon]
    refine ⟨_, .single hstep, ?_, ?_, ?_, ?_, ?_, ?_⟩
    · exact { h.out with
        inv := h.out.inv.step hstep
        sends := { h.out.sends with
          window := ⟨hwindow.queue, hwindow.base, hwindow.size, hwindow.una_le⟩ }
        receives := { h.out.receives with } }
    · exact { h.inn with receives := { h.inn.receives with } }
    · have := h.toPeer.append (.data hhead .nil)
      simpa [flight, List.append_assoc] using this
    · exact h.fromPeer
    · exact h.greets
    · exact h.greeted

/-- Acknowledging what was received. The number of the acknowledgement is the receive base. -/
theorem Linked.sendAck (h : Linked e f wo wi s₁ s₂) (hpos : 1 ≤ s₂.rcvd) {ackNum : UInt32}
    (hnum : ackNum = e.con.recvWindow.recvBase) :
    ∃ s₂', Steps s₂ s₂' ∧
      Linked { e with con := e.con.sendPacket (some (e.con.makeAckPacket ackNum)) } f wo wi
        s₁ s₂' := by
  have hstep : Step s₂ { s₂ with acks := s₂.acks ++ [(s₂.rcvd, s₂.limit)] } := .ack s₂ hpos
  have hinv := h.inn.inv
  have hfree : e.con.recvBuffer.freeSpace ≤ 65535 := by
    have := e.con.recvBuffer.size_add_freeSpace
    have := h.inn.small
    omega
  -- the right edge of the acknowledgement is the receiver's limit
  have hwin : s₂.limit = offset s₂.hist s₂.rcvd + e.con.advertisedWindow.toNat := by
    have hle := le_offset h.inn.sends.history.tiled.pos hinv.rcvd_le
    rw [h.inn.receives.limit, TcpController.advertisedWindow, UInt16.toNat_ofNat_of_lt' (by
      simp only [UInt16.size]; omega), Nat.max_eq_right (by omega)]
  refine ⟨_, .single hstep, ?_, ?_, ?_, ?_, ?_, ?_⟩
  · exact { h.out with sends := { h.out.sends with } }
  · exact { h.inn with
      inv := hinv.step hstep
      sends := { h.inn.sends with }
      receives := { h.inn.receives with } }
  · have hack : (e.con.makeAckPacket ackNum).kind = .ack := by
      simp [Packet.kind, TcpController.makeAckPacket, TcpController.tcpHeader]
    have := h.toPeer.append (.ack (p := e.con.makeAckPacket ackNum) hack hinv.rcvd_le
      (by rw [← h.inn.receives.base, ← hnum]; rfl) hwin .nil)
    simpa [flight, List.append_assoc, TcpController.sendPacket] using this
  · exact h.fromPeer
  · exact h.greets
  · exact h.greeted

/-! ## Registering packets -/

/-- The receiver does not notice that the history grows. -/
theorem Receives.concat {s : State Packet} (h : Receives e s) (hr : s.rcvd ≤ s.hist.length)
    (p : Packet) : Receives e { s with hist := s.hist ++ [p] } := by
  have hoff : offset (s.hist ++ [p]) s.rcvd = offset s.hist s.rcvd := offset_append _ hr
  have htake : (s.hist ++ [p]).take s.rcvd = s.hist.take s.rcvd :=
    List.take_append_of_le_length hr
  refine ⟨?_, ?_, ?_, h.overflow, ?_, ?_⟩
  · rw [h.base, hoff]
  · intro hfit
    obtain ⟨hbase, hpkts⟩ := h.window (hoff ▸ hfit)
    refine ⟨by rw [hbase, hoff], hpkts.imp fun q i hq => ?_⟩
    rw [List.getElem?_append_left (List.getElem?_eq_some_iff.mp hq).1, hq]
  · rw [h.delivered, htake]
  · rw [h.eof, htake]
  · rw [h.limit, hoff]

/-- **Registering a packet**, and transmitting it unless the first packet still waits for its
acknowledgement. -/
theorem Linked.enqueue (h : Linked e f wo wi s₁ s₂) (ps : List Packet) {p : Packet}
    {w : SendWindow} {b : RingBuffer} {k : ℕ}
    (hsends : Sends { e with con := { e.con with sendWindow := w, sendBuffer := b }, finTasks := k }
      { s₁ with hist := s₁.hist ++ [p] })
    (hroom : (stream (s₁.hist ++ [p])).length ≤ f.readOut.length + f.con.recvBuffer.capacity)
    (hgreets : Greets e { s₁ with hist := s₁.hist ++ [p] } s₂)
    (hps : ps = [] ∨ ps = [p] ∧ (s₁.hist = [] ∨ 1 ≤ s₁.una)) :
    ∃ s₁', Steps s₁ s₁' ∧ s₁'.hist = s₁.hist ++ [p] ∧ s₁'.una = s₁.una ∧
      s₁'.credit = s₁.credit ∧
      Linked { e with
        con := { e.con with
          sendWindow := w, sendBuffer := b, pktSendBuffer := e.con.pktSendBuffer ++ ps }
        finTasks := k } f wo wi s₁' s₂ := by
  have hpre : s₁.hist <+: s₁.hist ++ [p] := List.prefix_append _ _
  have hreceives := h.out.receives.concat h.out.inv.rcvd_le p
  rcases hps with rfl | ⟨rfl, hgate⟩
  · have hstep : Step s₁ { s₁ with hist := s₁.hist ++ [p] } := .register s₁ p
    refine ⟨_, .single hstep, rfl, rfl, rfl, ?_⟩
    refine ⟨⟨h.out.inv.step hstep, { hsends with }, hreceives, hroom, h.out.small⟩,
      { h.inn with receives := { h.inn.receives with } }, ?_, ?_, hgreets, h.greeted⟩
    · have := h.toPeer.mono hpre (List.prefix_refl _) le_rfl
      simpa [flight] using this
    · exact h.fromPeer.mono (List.prefix_refl _) hpre le_rfl
  · have hstep := Step.send s₁ p hgate
    refine ⟨_, .single hstep, rfl, rfl, rfl, ?_⟩
    refine ⟨⟨h.out.inv.step hstep, { hsends with }, { hreceives with }, hroom, h.out.small⟩,
      { h.inn with receives := { h.inn.receives with } }, ?_, ?_, hgreets, h.greeted⟩
    · have hp : (s₁.hist ++ [p])[s₁.hist.length]? = some p := by simp
      have := (h.toPeer.mono hpre (List.prefix_refl _) le_rfl).append (.data hp .nil)
      simpa [flight, List.append_assoc] using this
    · exact h.fromPeer.mono (List.prefix_refl _) hpre le_rfl

/-- Behind an existing packet the greeting is out of question. -/
theorem Greets.concat (h : Greets e s₁ s₂) (hne : s₁.hist ≠ []) (p : Packet) :
    Greets e { s₁ with hist := s₁.hist ++ [p] } s₂ := by
  intro q hq
  refine h q ?_
  rwa [List.getElem?_append_left (List.length_pos_iff.mpr hne)] at hq

/-- The SYN-ACK has reported the size of the receive buffer, which stays. -/
theorem Greets.of_capacity {e' : Endpoint} (h : Greets e s₁ s₂)
    (hcap : e'.con.recvBuffer.capacity = e.con.recvBuffer.capacity) : Greets e' s₁ s₂ := by
  intro p hp hsync hack
  rw [hcap]
  exact h p hp hsync hack

/-! ## Taking in a packet -/

/-- The sequence numbers used while the first packet is not acknowledged: a SYN and FINs. -/
theorem Sends.offset_le_of_opening {s : State Packet} (h : Sends e s) (hu : s.una = 0) :
    offset s.hist s.hist.length ≤ 3 := by
  have hle := h.history.offset_length_le
  have hfins := h.fins
  rw [(h.opening hu).2, List.length_nil] at hle
  have h₁ := Bool.toNat_le e.shutDown
  have h₂ := Bool.toNat_le e.closed
  omega

omit [HyLib] in
/-- Packets that were registered are not dispatched to `HandleACK`. -/
theorem Packet.Regular.kind_ne_ack {p : Packet} (h : p.Regular) : p.kind ≠ .ack := by
  cases hs : p.tcpHeader.sync with
  | true => cases ha : p.tcpHeader.ack <;> simp [Packet.kind, hs, ha]
  | false =>
    rw [h.kind_eq hs]
    split <;> simp

/-- **An acknowledgement arrives.** It acknowledges a boundary of the history that is not
behind the send base, and its right edge is at least the one known before. -/
theorem Linked.recvAck (h : Linked e f wo wi s₁ s₂) {pkt : Packet} {rest : List Packet}
    (hbuf : e.con.pktRecvBuffer = pkt :: rest) (hkind : pkt.kind = .ack)
    (hend : offset s₁.hist s₁.hist.length ≤ 2 ^ 32) (g : Globals) :
    ∃ res w' g', e.con.sendWindow.newAckedPacket g pkt.tcpHeader.ackNum = .ok (res, w', g') ∧
      ∃ s₁', Steps s₁ s₁' ∧ 1 ≤ s₁'.una ∧
        Linked { e with
          con := { e.con with
            pktRecvBuffer := rest
            sendWindow := w'.setCapacity pkt.tcpHeader.windowSize.toUInt32 } } f wo wi s₁' s₂ := by
  have hfrom := h.fromPeer
  simp only [flight, hbuf, List.cons_append] at hfrom
  generalize hacks : s₁.acks = acks at hfrom
  generalize hdata : s₂.data = data at hfrom
  cases hfrom with
  | data hp _ =>
    exact absurd hkind (h.inn.sends.history.regular _ (List.mem_of_getElem? hp)).kind_ne_ack
  | probe hkind' _ _ _ => simp [hkind] at hkind'
  | @ack _ j r _ _ as _ hj hnum hwin hrest =>
    -- the ACK is one of those the abstract window has in flight
    have hmem : (j, r) ∈ s₁.acks := by simp [hacks]
    have hpos : 1 ≤ j := h.out.inv.acks_pos _ hmem
    obtain ⟨huj, hcr⟩ := h.out.inv.le_of_mem_acks hmem
    have hsends := h.out.sends
    -- at send base 0 the boundary `2^32` would look like a repeated ACK
    have hwrap : s₁.una = 0 → offset s₁.hist j < 2 ^ 32 := by
      intro hu
      have := hsends.offset_le_of_opening hu
      have : offset s₁.hist j ≤ offset s₁.hist s₁.hist.length := offset_mono _ hj
      omega
    obtain ⟨res, w', g', hrun, hholds, -⟩ :=
      hsends.window.newAckedPacket hsends.history.tiled g huj hj hend hwrap
    have hstep := Step.recvAck s₁ hacks
    refine ⟨res, w', g', by rw [hnum, hrun], _, .single hstep, hpos, ?_⟩
    refine ⟨⟨h.out.inv.step hstep, ?_, { h.out.receives with }, h.out.room, h.out.small⟩,
      { h.inn with receives := { h.inn.receives with } }, ?_, ?_, h.greets, h.greeted⟩
    · exact { hsends with
        window := hholds.setCapacity _
        opening := fun hu => absurd hu (Nat.one_le_iff_ne_zero.mp hpos)
        credit := fun _ _ => by
          rw [hwin, SendWindow.setCapacity, UInt16.toNat_toUInt32]
        edge := fun hno => (hsends.edge hno).trans hcr }
    · exact h.toPeer.mono (List.prefix_refl _) (List.prefix_refl _) huj
    · show Carries s₂.hist s₁.hist s₂.una (rest ++ wi ++ f.con.pktSendBuffer) s₂.data as
      rw [hdata]
      exact hrest

/-- A segment is the next packet to handle, as it is not an acknowledgement and no probe. -/
theorem Linked.recv_data (h : Linked e f wo wi s₁ s₂) {pkt : Packet} {rest : List Packet}
    (hbuf : e.con.pktRecvBuffer = pkt :: rest) (hack : pkt.kind ≠ .ack)
    (hsize : pkt.kind = .data → pkt.payloadSize ≠ 0) :
    ∃ i d, s₂.data = i :: d ∧ s₂.hist[i]? = some pkt ∧
      Carries s₂.hist s₁.hist s₂.una (rest ++ wi ++ f.con.pktSendBuffer) d s₁.acks := by
  have hfrom := h.fromPeer
  simp only [flight, hbuf, List.cons_append] at hfrom
  generalize hacks : s₁.acks = acks at hfrom
  generalize hdata : s₂.data = data at hfrom
  cases hfrom with
  | data hp hrest => exact ⟨_, _, rfl, hp, hrest⟩
  | probe hkind hzero _ _ => exact absurd hzero (hsize hkind)
  | ack hkind _ _ _ _ => exact absurd hkind hack

/-- A segment was taken from the receive queue: what is left to show is that the endpoint
receives for the new abstract state. -/
theorem Linked.received (h : Linked e f wo wi s₁ s₂) {rest : List Packet} {d : List ℕ}
    (hrest : Carries s₂.hist s₁.hist s₂.una (rest ++ wi ++ f.con.pktSendBuffer) d s₁.acks)
    {w : RecvWindow} {b : RingBuffer} {ps : PipeState} {r l : ℕ} {o : List ℕ}
    (hsteps : Steps s₂ { s₂ with data := d, rcvd := r, ooo := o, limit := l })
    (hr : s₂.rcvd ≤ r) (hcap : b.capacity = e.con.recvBuffer.capacity)
    (hre : Receives { e with con := { e.con with
        pktRecvBuffer := rest, recvWindow := w, recvBuffer := b, pipeState := ps } }
      { s₂ with data := d, rcvd := r, ooo := o, limit := l }) :
    Linked { e with con := { e.con with
        pktRecvBuffer := rest, recvWindow := w, recvBuffer := b, pipeState := ps } } f wo wi s₁
      { s₂ with data := d, rcvd := r, ooo := o, limit := l } := by
  refine ⟨{ h.out with sends := { h.out.sends with } },
    ⟨h.inn.inv.steps hsteps, { h.inn.sends with }, hre, ?_, ?_⟩, h.toPeer, hrest, ?_, h.greeted⟩
  · rw [hcap]
    exact h.inn.room
  · rw [hcap]
    exact h.inn.small
  · intro p hp hs ha
    obtain ⟨hnum, hwin, hpos⟩ := h.greets p hp hs ha
    exact ⟨hnum, by rw [hwin, ← hcap], hpos.trans hr⟩

/-- What a sync packet at the head of the receive queue says: it is the first packet of the
peer, and at most that one was taken before. -/
theorem Linked.sync_head (h : Linked e f wo wi s₁ s₂) {pkt : Packet} {rest : List Packet}
    (hbuf : e.con.pktRecvBuffer = pkt :: rest) (hsync : pkt.tcpHeader.sync = true) :
    s₂.hist[0]? = some pkt ∧ offset s₂.hist 1 = 1 ∧ s₂.rcvd ≤ 1 ∧ s₂.ooo = [] ∧
      stream (s₂.hist.take 1) = [] ∧ NoFin (s₂.hist.take 1) ∧
      ∃ d, s₂.data = 0 :: d ∧
        Carries s₂.hist s₁.hist s₂.una (rest ++ wi ++ f.con.pktSendBuffer) d s₁.acks := by
  have hkind : pkt.kind = .syn ∨ pkt.kind = .synAck := by
    cases ha : pkt.tcpHeader.ack <;> simp [Packet.kind, hsync, ha]
  obtain ⟨i, d, hdata, hp, hrest⟩ := h.recv_data hbuf (by rcases hkind with hk | hk <;> simp [hk])
    (by rcases hkind with hk | hk <;> simp [hk])
  have hhist := h.inn.sends.history
  obtain rfl := hhist.sync_first hp hsync
  obtain ⟨hr, hooo⟩ := h.inn.inv.first_rcvd (by simp [hdata])
  have hreg := hhist.regular _ (List.mem_of_getElem? hp)
  have hcontrol : pkt.control = true := by simp [Packet.control, hsync]
  have htake : s₂.hist.take 1 = [pkt] := by
    rw [List.take_add_one, hp]
    rfl
  refine ⟨hp, ?_, hr, hooo, ?_, ?_, d, hdata, hrest⟩
  · rw [offset_succ hp, offset_zero, hreg.len_control hcontrol]
  · simp [htake, (hreg.control hcontrol).1]
  · simp [htake, NoFin, hreg.sync hsync]

/-- **A SYN or SYN-ACK arrives.** The receive window expects the second packet of the peer
afterwards, whether the first one is new or not. -/
theorem Linked.recvSync (h : Linked e f wo wi s₁ s₂) {pkt : Packet} {rest : List Packet}
    (hbuf : e.con.pktRecvBuffer = pkt :: rest) (hsync : pkt.tcpHeader.sync = true)
    {w : RecvWindow} (hw : w.Holds s₂.hist 1 []) :
    ∃ s₂', Steps s₂ s₂' ∧ s₂'.rcvd = 1 ∧ s₂'.hist = s₂.hist ∧
      Linked { e with con := { e.con with pktRecvBuffer := rest, recvWindow := w } } f wo wi
        s₁ s₂' := by
  obtain ⟨hp, hoff, hr, hooo, hpay, hno, d, hdata, hrest⟩ := h.sync_head hbuf hsync
  have hre := h.inn.receives
  have hsteps : Steps s₂ { s₂ with data := d, rcvd := 1, ooo := [] } := by
    rcases Nat.eq_zero_or_pos s₂.rcvd with h0 | hpos
    · have hnext : s₂.data = s₂.rcvd :: d := by rw [hdata, h0]
      have hrun : s₂.ooo = List.range' (s₂.rcvd + 1) 0 ++ [] := by simp [hooo]
      simpa [h0] using Relation.ReflTransGen.single (Step.recvNext s₂ hnext hrun (by simp))
    · have hr1 : s₂.rcvd = 1 := by omega
      have hstep := Step.recvOld s₂ hdata hpos
      rw [← hr1, ← hooo]
      exact .single hstep
  -- the sequence number of the first packet is not in the buffer
  have hsame : stream (s₂.hist.take s₂.rcvd) = [] ∧ NoFin (s₂.hist.take s₂.rcvd) ∧
      max 1 (offset s₂.hist s₂.rcvd) = 1 := by
    rcases Nat.eq_zero_or_pos s₂.rcvd with h0 | hpos
    · simp [h0, NoFin]
    · rw [show s₂.rcvd = 1 by omega]
      exact ⟨hpay, hno, by simp [hoff]⟩
  refine ⟨_, hsteps, rfl, rfl, h.received hrest hsteps hr rfl
    ⟨hw.base, fun _ => hw, ?_, hre.overflow, ?_, ?_⟩⟩
  · rw [hpay, ← hsame.1]
    exact hre.delivered
  · simp only [hno, not_true_eq_false, iff_false]
    simpa [hsame.2.1] using hre.eof
  · show s₂.limit = max 1 (offset s₂.hist 1) + e.con.recvBuffer.freeSpace
    rw [hre.limit, hsame.2.2, hoff, max_self]

omit [HyLib] in
/-- A packet that is not at the receive base is not delivered. -/
theorem RecvWindow.receivePacket_of_ne {w w' : RecvWindow} {p : Packet} {ackNum : UInt32}
    {chain : List Packet} (hne : p.tcpHeader.seqNum ≠ w.recvBase)
    (h : w.receivePacket p = .ok (ackNum, chain, w')) :
    ackNum = w.recvBase ∧ chain = [] ∧ w'.recvBase = w.recvBase := by
  rcases RecvWindow.receivePacket_cases h with ⟨-, rfl, rfl, rfl⟩ |
    ⟨before, after, -, -, -, rfl, rfl, rfl⟩ | ⟨-, -, hseq, -⟩
  · exact ⟨rfl, rfl, rfl⟩
  · exact ⟨rfl, rfl, rfl⟩
  · exact absurd hseq hne

/-- What comes next in order fits in the receive buffer: all bytes ever sent fit behind what was
read. -/
theorem Direction.run_fits {s : State Packet} (h : Direction e f s) (k : ℕ) :
    (stream ((s.hist.drop s.rcvd).take k)).length ≤ f.con.recvBuffer.freeSpace := by
  have hsum : (stream (s.hist.take s.rcvd)).length
      + (stream ((s.hist.drop s.rcvd).take k)).length ≤ (stream s.hist).length := by
    have := congrArg (fun l => (stream l).length) (List.take_append_drop (s.rcvd + k) s.hist)
    simp only [stream_append, List.length_append, List.take_add] at this
    omega
  have h₁ := h.room
  have h₂ := f.con.recvBuffer.size_add_freeSpace
  have h₃ := congrArg List.length h.receives.delivered
  rw [List.length_append] at h₃
  omega

/-- Taking a run of packets out of the window: the bytes they carry fit in the buffer, the
right edge does not move back. -/
theorem Linked.recv_run (h : Linked e f wo wi s₁ s₂) {rest : List Packet} {d left : List ℕ}
    {k : ℕ} {w : RecvWindow} {pkt : Packet} (hp : s₂.hist[s₂.rcvd]? = some pkt)
    (hsync : pkt.tcpHeader.sync = false)
    (hrest : Carries s₂.hist s₁.hist s₂.una (rest ++ wi ++ f.con.pktSendBuffer) d s₁.acks)
    (hdata : s₂.data = s₂.rcvd :: d) (hrun : s₂.ooo = List.range' (s₂.rcvd + 1) k ++ left)
    (hgap : s₂.rcvd + k + 1 ∉ left) (hw : w.Holds s₂.hist (s₂.rcvd + k + 1) left) :
    ∃ c' s₂', { e.con with
          pktRecvBuffer := rest, recvWindow := w }.streamDataToReceiveBuffer
        ((s₂.hist.drop s₂.rcvd).take (k + 1)) = .ok c' ∧
      c'.recvWindow = w ∧ Steps s₂ s₂' ∧ 1 ≤ s₂'.rcvd ∧
      Linked { e with con := c' } f wo wi s₁ s₂' := by
  have hhist := h.inn.sends.history
  have hre := h.inn.receives
  set chain := (s₂.hist.drop s₂.rcvd).take (k + 1) with hchain
  have htake : s₂.hist.take (s₂.rcvd + k + 1) = s₂.hist.take s₂.rcvd ++ chain := by
    rw [Nat.add_assoc, List.take_add]
  have hmem : ∀ p ∈ chain, p ∈ s₂.hist := fun p hp =>
    List.mem_of_mem_drop (List.mem_of_mem_take hp)
  have hnosync : ∀ p ∈ chain, p.tcpHeader.sync = false := by
    intro q hq
    obtain ⟨n, hn⟩ := List.mem_iff_getElem?.mp (List.mem_of_mem_take hq)
    rw [List.getElem?_drop] at hn
    by_contra hs
    have h0 := hhist.sync_first hn (by simpa using hs)
    obtain rfl : n = 0 := by omega
    rw [Nat.add_zero, hp] at hn
    cases hn
    exact hs hsync
  have hlast := hhist.fin_last.sublist
    ((List.take_sublist (k + 1) _).trans (List.drop_sublist s₂.rcvd s₂.hist))
  have hroom : (stream chain).length ≤ e.con.recvBuffer.freeSpace := h.inn.run_fits (k + 1)
  obtain ⟨b, hb, hbytes, hcap⟩ := TcpController.streamLoop_eq
    (c := { e.con with pktRecvBuffer := rest, recvWindow := w })
    (fun p hp => hhist.regular p (hmem p hp)) hnosync hlast hroom
  replace hbytes : b.bytes = e.con.recvBuffer.bytes ++ stream chain := hbytes
  replace hcap : b.capacity = e.con.recvBuffer.capacity := hcap
  have hfree : b.freeSpace + (stream chain).length = e.con.recvBuffer.freeSpace := by
    have h₁ := e.con.recvBuffer.size_add_freeSpace
    have h₂ := b.size_add_freeSpace
    rw [hbytes, hcap, List.length_append] at h₂
    omega
  -- the first packet takes a sequence number that is not in the buffer
  have hoff : max 1 (offset s₂.hist s₂.rcvd) + (stream chain).length
      ≤ offset s₂.hist (s₂.rcvd + k + 1) := by
    have hcount : s₂.rcvd = 0 → 1 ≤ chain.countP Packet.control := by
      intro h0
      rw [h0] at hp
      refine List.countP_pos_iff.mpr ⟨pkt, ?_, h.inn.sends.first pkt hp⟩
      obtain ⟨hlt, rfl⟩ := List.getElem?_eq_some_iff.mp hp
      rw [hchain, h0, List.drop_zero]
      exact List.mem_take_iff_getElem.mpr ⟨0, by omega, rfl⟩
    have hle := le_offset hhist.tiled.pos h.inn.inv.rcvd_le
    have h₁ := offset_eq hhist.regular s₂.rcvd
    have h₂ := offset_eq hhist.regular (s₂.rcvd + k + 1)
    rw [htake, stream_append, List.length_append, List.countP_append] at h₂
    rcases Nat.eq_zero_or_pos s₂.rcvd with h0 | hpos
    · have := hcount h0
      simp only [h0, offset_zero] at h₁ ⊢
      simp only [h0] at h₂
      omega
    · omega
  have hlimit : s₂.limit ≤ max 1 (offset s₂.hist (s₂.rcvd + k + 1)) + b.freeSpace := by
    rw [hre.limit]
    omega
  have hsteps : Steps s₂ { s₂ with
      data := d, rcvd := s₂.rcvd + k + 1, ooo := left
      limit := max 1 (offset s₂.hist (s₂.rcvd + k + 1)) + b.freeSpace } :=
    Relation.ReflTransGen.tail (.single (.recvNext s₂ hdata hrun hgap)) (.grant _ hlimit)
  have hpush : TcpController.pushOverflowedPacketsToSocketBuffer
      { e.con with pktRecvBuffer := rest, recvWindow := w }
        = { e.con with pktRecvBuffer := rest, recvWindow := w } :=
    TcpController.pushOverflowed_of_nil hre.overflow
  refine ⟨_, _, by rw [TcpController.streamDataToReceiveBuffer, hpush, hb], rfl, hsteps,
    show 1 ≤ s₂.rcvd + k + 1 by omega, h.received hrest hsteps (by omega) hcap ?_⟩
  refine ⟨hw.base, fun _ => hw, ?_, hre.overflow, ?_, rfl⟩
  · show e.readOut ++ b.bytes = stream (s₂.hist.take (s₂.rcvd + k + 1))
    rw [hbytes, htake, stream_append, ← hre.delivered, List.append_assoc]
  · show (if chain.any (·.tcpHeader.fin) then PipeState.eofNotConsumed else e.con.pipeState)
      ≠ .opened ↔ ¬ NoFin (s₂.hist.take (s₂.rcvd + k + 1))
    have heof := hre.eof
    rw [htake]
    by_cases hany : chain.any (·.tcpHeader.fin) = true
    · rw [if_pos hany]
      obtain ⟨p, hp, hpf⟩ := List.any_eq_true.mp hany
      refine ⟨fun _ hno => ?_, fun _ => by simp⟩
      simp [hno p (List.mem_append_right _ hp)] at hpf
    · rw [if_neg hany, heof, not_iff_not]
      simp only [List.any_eq_true, not_exists, not_and] at hany
      constructor
      · intro hno p hp
        rcases List.mem_append.mp hp with hp | hp
        · exact hno p hp
        · simpa using hany p hp
      · exact fun hno p hp => hno p (List.mem_append_left _ hp)

/-- Streaming an empty chain with nothing in the overflow queue. -/
theorem TcpController.streamDataToReceiveBuffer_nil {c : TcpController}
    (h : c.overflowPkts = []) : c.streamDataToReceiveBuffer [] = .ok c := by
  rw [TcpController.streamDataToReceiveBuffer, TcpController.pushOverflowed_of_nil h,
    TcpController.streamLoop]

section Receive

variable {pkt : Packet} {rest : List Packet}
  (h : Linked e f wo wi s₁ s₂) (hbuf : e.con.pktRecvBuffer = pkt :: rest)
  (hsync : pkt.tcpHeader.sync = false) (hack : pkt.kind ≠ .ack)
  (hsize : pkt.kind = .data → pkt.payloadSize ≠ 0)
  (hend : offset s₂.hist s₂.hist.length ≤ 2 ^ 32)
include h hbuf hsync hack hsize hend

/-- Delivering a packet to the receive window and streaming what it completes. The packet is
old, ahead of the receive base, or at it. -/
theorem Linked.recv_fits (hfit : offset s₂.hist s₂.rcvd < 2 ^ 32) :
    ∃ ackNum chain w c' s₂', e.con.recvWindow.receivePacket pkt = .ok (ackNum, chain, w) ∧
      (stream chain).length ≤ e.con.recvBuffer.freeSpace ∧
      { e.con with pktRecvBuffer := rest, recvWindow := w }.streamDataToReceiveBuffer chain
        = .ok c' ∧
      ackNum = c'.recvWindow.recvBase ∧ Steps s₂ s₂' ∧ 1 ≤ s₂'.rcvd ∧
      Linked { e with con := c' } f wo wi s₁ s₂' := by
  obtain ⟨i, d, hdata, hp, hrest⟩ := h.recv_data hbuf hack hsize
  have hinv := h.inn.inv
  have ht := h.inn.sends.history.tiled
  have hre := h.inn.receives
  have hholds := hre.window hfit
  rcases lt_trichotomy i s₂.rcvd with hi | rfl | hi
  · -- taken before
    have hsteps : Steps s₂ { s₂ with data := d } := .single (.recvOld s₂ hdata hi)
    exact ⟨_, _, _, _, _, hholds.receive_old ht hend hp hi hinv.rcvd_le hfit, Nat.zero_le _,
      TcpController.streamDataToReceiveBuffer_nil hre.overflow, rfl, hsteps,
      show 1 ≤ s₂.rcvd by omega,
      h.received hrest hsteps le_rfl rfl { hre with }⟩
  · -- in order
    have hbounds : ∀ j ∈ s₂.ooo, s₂.rcvd < j := fun j hj => (hinv.ooo_bounds j hj).1
    obtain ⟨k, left, w, hrun, hgap, hrecv, hw, -⟩ :=
      hholds.receive_next ht hend hp hinv.ooo_sorted hbounds
    obtain ⟨c', s₂', hstream, hwin, hsteps, hpos, hlinked⟩ :=
      h.recv_run hp hsync hrest hdata hrun hgap hw
    exact ⟨_, _, w, c', s₂', hrecv, h.inn.run_fits (k + 1), hstream, by rw [hwin], hsteps, hpos,
      hlinked⟩
  · -- too early
    have hmem : i ∈ s₂.data := by simp [hdata]
    have hpos : 1 ≤ s₂.rcvd := by
      by_contra hr
      have := hinv.data_of_rcvd_zero (by omega) hmem
      omega
    have hsteps : Steps s₂ { s₂ with data := d, ooo := s₂.ooo ++ [i] } :=
      .single (.recvAhead s₂ hdata hi)
    obtain ⟨w, hrecv, hw, -⟩ := hholds.receive_ahead ht hend hp hi (hinv.ahead_ooo i hmem hi)
    have hbase : e.con.recvWindow.recvBase = w.recvBase := hholds.base.trans hw.base.symm
    exact ⟨_, _, w, _, _, hrecv, Nat.zero_le _,
      TcpController.streamDataToReceiveBuffer_nil hre.overflow, hbase, hsteps, hpos,
      h.received hrest hsteps le_rfl rfl { hre with base := hw.base, window := fun _ => hw }⟩

omit hsync in
/-- Once all `2^32` sequence numbers are received, a further packet is one that was taken
before. It is not recognised as such, but it is not delivered either. -/
theorem Linked.recv_full (hfull : offset s₂.hist s₂.rcvd = 2 ^ 32) {ackNum : UInt32}
    {chain : List Packet} {w : RecvWindow}
    (hrecv : e.con.recvWindow.receivePacket pkt = .ok (ackNum, chain, w)) :
    chain = [] ∧ ackNum = w.recvBase ∧ ∃ s₂', Steps s₂ s₂' ∧ 1 ≤ s₂'.rcvd ∧
      Linked { e with con := { e.con with pktRecvBuffer := rest, recvWindow := w } } f wo wi
        s₁ s₂' := by
  obtain ⟨i, d, hdata, hp, hrest⟩ := h.recv_data hbuf hack hsize
  have hinv := h.inn.inv
  have hhist := h.inn.sends.history
  have hre := h.inn.receives
  have hilt : i < s₂.hist.length := (List.getElem?_eq_some_iff.mp hp).1
  have hioff : offset s₂.hist i < offset s₂.hist s₂.hist.length :=
    offset_lt hhist.tiled.pos hilt le_rfl
  have hi : i < s₂.rcvd := by
    by_contra hge
    have := offset_mono s₂.hist (not_lt.mp hge)
    omega
  -- the first packet is not in flight any more
  have hi0 : i ≠ 0 := by
    rintro rfl
    have hr1 := (hinv.first_rcvd (by simp [hdata])).1
    have hr : s₂.rcvd = 1 := by omega
    have := (hhist.regular _ (List.mem_of_getElem? hp)).len_le
    rw [hr, offset_succ hp, offset_zero] at hfull
    omega
  have hne : pkt.tcpHeader.seqNum ≠ e.con.recvWindow.recvBase := by
    have hpos := le_offset hhist.tiled.pos hilt.le
    rw [hhist.tiled.seq hp, hre.base, SendWindow.ofNat_eq_zero_of_full hfull]
    intro h0
    have hnat := congrArg UInt32.toNat h0
    rw [UInt32.toNat_ofNat_of_lt' (by simp only [UInt32.size]; omega), UInt32.toNat_zero] at hnat
    omega
  obtain ⟨rfl, rfl, hbase⟩ := RecvWindow.receivePacket_of_ne hne hrecv
  have hsteps : Steps s₂ { s₂ with data := d } := .single (.recvOld s₂ hdata hi)
  refine ⟨rfl, hbase.symm, _, hsteps, show 1 ≤ s₂.rcvd by omega,
    h.received hrest hsteps le_rfl rfl
      { hre with base := hbase.trans hre.base, window := fun hfit => ?_ }⟩
  exact absurd hfull hfit.ne

/-- **`HandleDataPacket` and `HandleFIN` refine the protocol**: their common end takes the
packet in and acknowledges. -/
theorem Linked.receiveAndAck {c' : TcpController}
    (hrun : { e.con with pktRecvBuffer := rest }.receiveAndAck pkt = .ok c') :
    ∃ s₂', Steps s₂ s₂' ∧ Linked { e with con := c' } f wo wi s₁ s₂' := by
  obtain ⟨⟨ackNum, chain, w⟩, hrecv, hrun⟩ := bind_eq_ok.mp hrun
  obtain ⟨c, hstream, hc'⟩ := bind_eq_ok.mp hrun
  cases hc'
  have hle : offset s₂.hist s₂.rcvd ≤ offset s₂.hist s₂.hist.length :=
    offset_mono _ h.inn.inv.rcvd_le
  obtain ⟨hnum, s₂', hsteps, hpos, hlinked⟩ : ackNum = c.recvWindow.recvBase ∧
      ∃ s₂', Steps s₂ s₂' ∧ 1 ≤ s₂'.rcvd ∧ Linked { e with con := c } f wo wi s₁ s₂' := by
    rcases Nat.lt_or_ge (offset s₂.hist s₂.rcvd) (2 ^ 32) with hfit | hfull
    · obtain ⟨_, _, _, c', s₂', hrecv', -, hstream', hnum, hsteps, hpos, hlinked⟩ :=
        h.recv_fits hbuf hsync hack hsize hend hfit
      cases hrecv.symm.trans hrecv'
      cases hstream.symm.trans hstream'
      exact ⟨hnum, s₂', hsteps, hpos, hlinked⟩
    · obtain ⟨rfl, hnum, s₂', hsteps, hpos, hlinked⟩ :=
        h.recv_full hbuf hack hsize hend (by omega) hrecv
      have hc : c = { e.con with pktRecvBuffer := rest, recvWindow := w } := by
        have := hstream.symm.trans
          (TcpController.streamDataToReceiveBuffer_nil h.inn.receives.overflow)
        exact Except.ok.inj this
      subst hc
      exact ⟨hnum, s₂', hsteps, hpos, hlinked⟩
  obtain ⟨s₂'', hsteps', hlinked'⟩ := hlinked.sendAck hpos hnum
  exact ⟨s₂'', hsteps.trans hsteps', hlinked'⟩

/-- Before the end of the sequence space the handlers do not fail. -/
theorem Linked.receiveAndAck_ok (hfit : offset s₂.hist s₂.rcvd < 2 ^ 32) :
    ∃ c', { e.con with pktRecvBuffer := rest }.receiveAndAck pkt = .ok c' := by
  obtain ⟨ackNum, chain, w, c', s₂', hrecv, -, hstream, -⟩ :=
    h.recv_fits hbuf hsync hack hsize hend hfit
  refine ⟨c'.sendPacket (some (c'.makeAckPacket ackNum)), ?_⟩
  simp only [TcpController.receiveAndAck, hrecv, ok_bind, hstream]

/-- **Whatever the receive window hands out fits in the receive buffer.** -/
theorem Linked.chain_fits {ackNum : UInt32} {chain : List Packet} {w : RecvWindow}
    (hrecv : e.con.recvWindow.receivePacket pkt = .ok (ackNum, chain, w)) :
    (stream chain).length ≤ e.con.recvBuffer.freeSpace := by
  have hle : offset s₂.hist s₂.rcvd ≤ offset s₂.hist s₂.hist.length :=
    offset_mono _ h.inn.inv.rcvd_le
  rcases Nat.lt_or_ge (offset s₂.hist s₂.rcvd) (2 ^ 32) with hfit | hfull
  · obtain ⟨_, _, _, _, _, hrecv', hroom, -⟩ := h.recv_fits hbuf hsync hack hsize hend hfit
    cases hrecv.symm.trans hrecv'
    exact hroom
  · obtain ⟨rfl, -⟩ := h.recv_full hbuf hack hsize hend (by omega) hrecv
    exact Nat.zero_le _

end Receive

end NetStack
