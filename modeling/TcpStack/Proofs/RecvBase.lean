import TcpStack.Proofs.Closing

/-!
# TcpStack — the receive base only moves forward

`recv_base` is written by `ReceivePacket`, for SYN, data and FIN packets, and by `HandleACKSYN`
for every copy of the SYN-ACK. It goes out in plain ACKs, and in the SYN-ACK, which keeps its number
when it is sent again. Sequence numbers are compared in serial-number order.

* **`RecvWindow.receivePacket_advance`** — `ReceivePacket` moves the base by the bytes it delivers.
* **`Logged.goes`** — a step keeps the base, moves it by the bytes it delivers, or connects.
* **`recv_base_forward`** — for packets of any content in any order, the base and the
  acknowledgement numbers sent never go back, as long as every SYN-ACK handled repeats the one that
  was consumed last, and none is sent again behind the base.
-/

namespace NetStack

open Tiling Transition

/-- Serial-number order: `b` is at most `2^31 - 1` ahead of `a`. -/
def SerialLE (a b : UInt32) : Prop := (b - a).toNat < 2 ^ 31

instance (a b : UInt32) : Decidable (SerialLE a b) := inferInstanceAs (Decidable (_ < _))

/-- Two numbers at a distance below `2^31` from a third. -/
theorem serialLE_of_le {b : UInt32} {i j : ℕ} (hij : i ≤ j) (hj : j < 2 ^ 31) :
    SerialLE (b + UInt32.ofNat i) (b + UInt32.ofNat j) := by
  have hsub : b + UInt32.ofNat j - (b + UInt32.ofNat i) = UInt32.ofNat (j - i) := by
    rw [UInt32.ofNat_sub hij]
    grind
  rw [SerialLE, hsub, UInt32.toNat_ofNat_of_lt' (by simp only [UInt32.size]; omega)]
  omega

/-! ## What `ReceivePacket` delivers -/

/-- The bytes of a chain. -/
def chainBytes (chain : List Packet) : ℕ := (chain.map len).sum

namespace RecvWindow

/-- The chain behind a packet ends as many bytes later as it has. Induction on the window. -/
theorem chainWalk_end (p : Packet) (l : List Packet) :
    endOf ((chainWalk p l).1.getLast?.getD p) =
      endOf p + UInt32.ofNat (chainBytes (chainWalk p l).1) := by
  induction l generalizing p with
  | nil => simp [chainWalk, chainBytes]
  | cons next rest ih =>
    rw [chainWalk]
    split
    · next heq =>
      have hnext : endOf next = endOf p + next.payloadSize := by
        rw [endOf, endOf, heq]
      rw [List.getLast?_cons, Option.getD_some, ih next, hnext]
      simp only [chainBytes, List.map_cons, List.sum_cons, UInt32.ofNat_add, Packet.ofNat_len,
        UInt32.add_assoc]
    · simp [chainBytes]

/-- **`ReceivePacket` moves the base by the bytes it delivers**, and only a packet at the base
moves it. -/
theorem receivePacket_advance {w w' : RecvWindow} {p : Packet} {ackNum : UInt32}
    {chain : List Packet} (h : w.receivePacket p = .ok (ackNum, chain, w')) :
    w'.recvBase = w.recvBase + UInt32.ofNat (chainBytes chain) ∧
      (p.tcpHeader.seqNum ≠ w.recvBase → w'.recvBase = w.recvBase) := by
  rcases receivePacket_cases h with ⟨-, -, rfl, rfl⟩ | ⟨before, after, -, -, -, -, rfl, rfl⟩ |
    ⟨-, -, hseq, rfl, rfl, rfl⟩
  · simp [chainBytes]
  · simp [chainBytes]
  · refine ⟨?_, fun hne => absurd hseq hne⟩
    show endOf _ = _
    rw [chainWalk_end, endOf, hseq]
    simp only [chainBytes, List.map_cons, List.sum_cons, UInt32.ofNat_add, Packet.ofNat_len,
      UInt32.add_assoc]

end RecvWindow

/-! ## What a controller sends -/

/-- The acknowledgement numbers of packets, of plain ACKs and of SYN-ACKs. -/
def ackNums (ps : List Packet) : List UInt32 :=
  (ps.filter fun p => p.kind = .ack ∨ p.kind = .synAck).map (·.tcpHeader.ackNum)

theorem ackNums_append (ps qs : List Packet) : ackNums (ps ++ qs) = ackNums ps ++ ackNums qs := by
  simp [ackNums]

theorem mem_ackNums {ps : List Packet} {a : UInt32} : a ∈ ackNums ps ↔
    ∃ p ∈ ps, (p.kind = .ack ∨ p.kind = .synAck) ∧ p.tcpHeader.ackNum = a := by
  simp [ackNums, and_assoc]

/-- Data and FINs acknowledge nothing. -/
theorem ackNums_of_plain {ps : List Packet} (h : ∀ p ∈ ps, p.Plain) : ackNums ps = [] := by
  rw [List.eq_nil_iff_forall_not_mem]
  intro a ha
  obtain ⟨p, hp, hkind, -⟩ := mem_ackNums.mp ha
  rcases h p hp with hk | hk <;> simp [hk] at hkind

section

variable [HyLib]

/-- No packet that can be retransmitted is a plain ACK. -/
def NoAcks (c : TcpController) : Prop := ∀ node ∈ c.sendWindow.pktsToAck, node.pkt.kind ≠ .ack

/-- The front of the send window acknowledges no more and no less than what was received, if it is
a SYN-ACK. -/
def FrontCurrent (c : TcpController) : Prop :=
  ∀ node ∈ c.sendWindow.pktsToAck.head?, node.pkt.kind = .synAck →
    node.pkt.tcpHeader.ackNum = c.recvWindow.recvBase

instance (c : TcpController) : Decidable (FrontCurrent c) :=
  inferInstanceAs (Decidable (∀ node ∈ c.sendWindow.pktsToAck.head?, _))

namespace TcpController

/-- What `SendPacket(send_window_.GetBasePakcketToReSend())` sends. -/
def front (c : TcpController) : List Packet :=
  (c.sendWindow.pktsToAck.head?.map (·.pkt.copy)).toList

theorem resendBase_front (c : TcpController) :
    c.resendBase.pktSendBuffer = c.pktSendBuffer ++ c.front := by
  cases hq : c.sendWindow.pktsToAck with
  | nil => simp [resendBase, SendWindow.getBasePakcketToReSend, hq, sendPacket, front]
  | cons node rest => simp [resendBase, SendWindow.getBasePakcketToReSend, hq, sendPacket, front]

theorem ackNums_front {c : TcpController} (hno : NoAcks c) (hfront : FrontCurrent c) :
    ∀ a ∈ ackNums c.front, a = c.recvWindow.recvBase := by
  intro a ha
  obtain ⟨p, hp, hkind, rfl⟩ := mem_ackNums.mp ha
  simp only [front, Option.mem_toList, Option.map_eq_some_iff] at hp
  obtain ⟨node, hhead, rfl⟩ := hp
  rw [Packet.copy_kind] at hkind
  rw [Packet.copy_tcpHeader]
  exact hfront node hhead (hkind.resolve_left (hno node (List.mem_of_mem_head? hhead)))

theorem timeoutReTransmitter_sends (c : TcpController) :
    c.timeoutReTransmitter.pktSendBuffer = c.pktSendBuffer ∨
      c.timeoutReTransmitter.pktSendBuffer = c.pktSendBuffer ++ c.front := by
  unfold timeoutReTransmitter
  simp only
  split
  · exact Or.inr c.resendBase_front
  · exact Or.inl rfl

/-- Handling the packet sends the front of the window again: a SYN that was seen before, or one
duplicate ACK too many. -/
def Resends (c : TcpController) (g : Globals) (pkt : Packet) : Prop :=
  pkt.kind = .syn ∨ pkt.kind = .ack ∧ pkt.tcpHeader.ackNum = c.sendWindow.sendBase ∧
    g.maxDuplicatedAcks ≤ c.sendWindow.duplicatedAcks + 1

instance (c : TcpController) (g : Globals) (pkt : Packet) : Decidable (Resends c g pkt) :=
  inferInstanceAs (Decidable (_ ∨ _ ∧ _ ∧ _))

end TcpController

/-- A retransmission is asked for by a duplicate, which takes nothing from the queue. -/
theorem SendWindow.newAckedPacket_reTransmit {w w' : SendWindow} {g g' : Globals}
    {ackNum : UInt32} {res : AckResult} (h : w.newAckedPacket g ackNum = .ok (res, w', g'))
    (hre : res.reTransmit = true) :
    ackNum = w.sendBase ∧ g.maxDuplicatedAcks ≤ w.duplicatedAcks + 1 ∧
      w'.pktsToAck = w.pktsToAck := by
  unfold SendWindow.newAckedPacket at h
  split at h
  · obtain ⟨l, -, h⟩ := bind_eq_ok.mp h
    by_cases hnext : ackNum ≠ if l.pktsToAck = [] then l.crtSeqNum + l.crtPktLength else l.crtSeqNum
    · simp only [if_pos hnext] at h
      cases h
    · simp only [if_neg hnext] at h
      cases h
      cases hre
  · split at h
    · next heq =>
      simp only at h
      split at h
      · next hmax =>
        cases h
        exact ⟨heq, hmax, rfl⟩
      · cases h
        cases hre
    · cases h
      cases hre

/-- An ACK is answered with the front of the window, or with nothing. -/
theorem TcpController.handleACK_emits {c c' : TcpController} {g g' : Globals} {pkt : Packet}
    (kind : pkt.kind = .ack) (h : c.handleACK g pkt = .ok (g', c')) :
    c'.pktSendBuffer = c.pktSendBuffer ∨
      c.Resends g pkt ∧ c'.pktSendBuffer = c.pktSendBuffer ++ c.front := by
  obtain ⟨⟨b, g₁, c₁⟩, hwin, h⟩ := bind_eq_ok.mp h
  cases h
  obtain ⟨st, t₁, t₂, k, sd, hc⟩ := c₁.handleACKState_frame b
  rw [hc]
  obtain ⟨⟨res, w, g₁⟩, hack, hwin⟩ := bind_eq_ok.mp hwin
  simp only at hwin
  split at hwin
  · next hre =>
    cases hwin
    obtain ⟨hbase, hmax, hqueue⟩ := SendWindow.newAckedPacket_reTransmit hack hre
    refine Or.inr ⟨Or.inr ⟨kind, hbase, hmax⟩, ?_⟩
    have hfront : TcpController.front { c with sendWindow := w } = c.front := by
      simp only [front, hqueue]
    rw [← hfront]
    exact resendBase_front { c with sendWindow := w }
  · cases hwin
    exact Or.inl rfl

/-! ## Handling a packet -/

/-- The bytes that handling the packet delivers in order. -/
def receivedBytes (c : TcpController) (pkt : Packet) : ℕ :=
  if pkt.kind = .syn ∨ pkt.Delivered then
    match c.recvWindow.receivePacket pkt with
    | .ok (_, chain, _) => chainBytes chain
    | .error _ => 0
  else 0

/-- What handling a packet does to the receive base, and the acknowledgement numbers it sends:
all of the base before, or all of the base after. -/
structure Advances (c c' : TcpController) (pkt : Packet) : Prop where
  noAcks : NoAcks c'
  state : c.state ≠ .synSent → c'.state ≠ .synSent
  base : c'.recvWindow.recvBase = c.recvWindow.recvBase + UInt32.ofNat (receivedBytes c pkt)
  only : pkt.tcpHeader.seqNum ≠ c.recvWindow.recvBase →
    c'.recvWindow.recvBase = c.recvWindow.recvBase
  emits : ∃ ps, c'.pktSendBuffer = c.pktSendBuffer ++ ps ∧
    ((∀ a ∈ ackNums ps, a = c.recvWindow.recvBase) ∨ ∀ a ∈ ackNums ps, a = c'.recvWindow.recvBase)

section Step

variable {c c' : TcpController} {g g' : Globals} {pkt : Packet}

theorem receivedBytes_eq {ackNum : UInt32} {chain : List Packet} {w : RecvWindow}
    (hd : pkt.kind = .syn ∨ pkt.Delivered)
    (h : c.recvWindow.receivePacket pkt = .ok (ackNum, chain, w)) :
    receivedBytes c pkt = chainBytes chain := by
  simp only [receivedBytes, if_pos hd, h]

theorem receivedBytes_zero (hd : ¬ (pkt.kind = .syn ∨ pkt.Delivered)) :
    receivedBytes c pkt = 0 := by
  simp only [receivedBytes, if_neg hd]

/-- A SYN is delivered or kept, and answered with a SYN-ACK or with the front of the queue. -/
theorem advances_syn (hno : NoAcks c) (hfront : FrontCurrent c) (kind : pkt.kind = .syn)
    (h : c.handlePacket g pkt = .ok (g', c')) : Advances c c' pkt := by
  unfold TcpController.handlePacket at h
  rw [kind] at h
  obtain ⟨c₁, h₁, heq⟩ := map_eq_ok.mp h
  cases heq
  obtain ⟨⟨ackNum, chain, w⟩, hrecv, h₁⟩ := bind_eq_ok.mp h₁
  obtain ⟨hbase, honly⟩ := RecvWindow.receivePacket_advance hrecv
  rw [← receivedBytes_eq (Or.inl kind) hrecv] at hbase
  simp only at h₁
  split at h₁
  · cases h₁
  · split at h₁
    · -- the front is what it was before the SYN
      have hemit := TcpController.resendBase_front { c with recvWindow := w }
      obtain ⟨b, ps, hre, -⟩ := TcpController.resendBase_frame { c with recvWindow := w }
      rw [hre] at h₁ hemit
      cases h₁
      exact ⟨hno, fun hst => hst, hbase, honly, c.front, hemit,
        Or.inl (TcpController.ackNums_front hno hfront)⟩
    · obtain ⟨⟨sent, w'⟩, hsent, h₁⟩ := bind_eq_ok.mp h₁
      rcases SendWindow.sendPacket_cases hsent with ⟨rfl, rfl⟩ | ⟨rfl, rfl⟩
      · cases h₁
        exact ⟨hno, fun hst => hst, hbase, honly, [], by simp, by simp [ackNums]⟩
      · cases h₁
        refine ⟨fun node hn => ?_, fun _ => by simp [TcpController.sendPacket], hbase, honly, [_],
          rfl, Or.inr fun a ha => ?_⟩
        · rcases List.mem_append.mp hn with hn | hn
          · exact hno node hn
          · rw [List.mem_singleton.mp hn]
            simp [Packet.kind, TcpController.makeSyncAckPacket, TcpController.makeSyncPacket]
        · obtain ⟨q, hq, -, rfl⟩ := mem_ackNums.mp ha
          rw [List.mem_singleton.mp hq, Packet.copy_tcpHeader]
          exact RecvWindow.receivePacket_ackNum hrecv

/-- In SYN_SENT a SYN-ACK sets the base, and the ACK that answers it carries the new base. -/
theorem handleACKSYN_base (hno : NoAcks c) (kind : pkt.kind = .synAck)
    (h : c.handlePacket g pkt = .ok (g', c')) :
    NoAcks c' ∧ c'.recvWindow.recvBase = pkt.tcpHeader.seqNum + 1 ∧
      ∃ ps, c'.pktSendBuffer = c.pktSendBuffer ++ ps ∧
        ∀ a ∈ ackNums ps, a = c'.recvWindow.recvBase := by
  replace h : c.handleACKSYN g pkt = .ok (g', c') := by
    simpa only [TcpController.handlePacket, kind] using h
  have hack : ∀ c₀ : TcpController, ∀ a ∈ ackNums [c₀.makeAckPacket (pkt.tcpHeader.seqNum + 1)],
      a = pkt.tcpHeader.seqNum + 1 := by
    intro c₀ a ha
    obtain ⟨q, hq, -, rfl⟩ := mem_ackNums.mp ha
    rw [List.mem_singleton.mp hq]
    rfl
  unfold TcpController.handleACKSYN at h
  split at h
  · obtain ⟨⟨g₁, c₁⟩, hconn, h⟩ := bind_eq_ok.mp h
    obtain ⟨⟨res, w, g₂⟩, hacked, hconn⟩ := bind_eq_ok.mp hconn
    cases hconn
    cases h
    exact ⟨fun node hn => hno node ((SendWindow.newAckedPacket_suffix hacked).1.subset hn), rfl, _,
      rfl, hack _⟩
  · cases h
    exact ⟨hno, rfl, _, rfl, hack _⟩

theorem TcpController.Handles.not_synSent (h : c.Handles c' pkt) (hst : c.state ≠ .synSent) :
    c'.state ≠ .synSent := by
  rcases h.state with hs | ⟨hs, -⟩
  · rw [hs]
    exact hst
  · exact hs

/-- Every packet but a SYN-ACK that sets the base somewhere else. -/
theorem advances (hno : NoAcks c) (hfront : c.Resends g pkt → FrontCurrent c)
    (hrepeat : pkt.kind = .synAck → pkt.tcpHeader.seqNum + 1 = c.recvWindow.recvBase)
    (h : c.handlePacket g pkt = .ok (g', c')) : Advances c c' pkt := by
  by_cases kind : pkt.kind = .syn
  · exact advances_syn hno (hfront (Or.inl kind)) kind h
  by_cases synAck : pkt.kind = .synAck
  · obtain ⟨hno', hbase, ps, hps, hemit⟩ := handleACKSYN_base hno synAck h
    have hd : ¬ (pkt.kind = .syn ∨ pkt.Delivered) := by simp [Packet.Delivered, synAck]
    have hsame : c'.recvWindow.recvBase = c.recvWindow.recvBase := hbase.trans (hrepeat synAck)
    refine ⟨hno', fun hst => ?_, ?_, fun _ => hsame, ps, hps, Or.inr hemit⟩
    · exact (TcpController.handles kind (fun _ => hst) h).not_synSent hst
    · rw [receivedBytes_zero hd, hsame]
      simp
  have hh := TcpController.handles kind (fun hk => absurd hk synAck) h
  have hbase : c'.recvWindow.recvBase =
      c.recvWindow.recvBase + UInt32.ofNat (receivedBytes c pkt) ∧
      (pkt.tcpHeader.seqNum ≠ c.recvWindow.recvBase →
        c'.recvWindow.recvBase = c.recvWindow.recvBase) := by
    by_cases hd : pkt.Delivered
    · -- data and FINs go through `ReceivePacket`, whatever the state is
      have hrecv : ∃ ackNum chain,
          c.recvWindow.receivePacket pkt = .ok (ackNum, chain, c'.recvWindow) := by
        cases TcpController.handlePacket_outcome h with
        | fin kind takes =>
          obtain ⟨ackNum, chain, w, hrecv, rfl, -⟩ := takes.result
          obtain ⟨st, k, hf⟩ := c.handleFINState_frame
          rw [hf] at hrecv
          exact ⟨ackNum, chain, hrecv⟩
        | data kind size takes =>
          obtain ⟨ackNum, chain, w, hrecv, rfl, -⟩ := takes.result
          exact ⟨ackNum, chain, hrecv⟩
        | syn kind => simp [Packet.Delivered, kind] at hd
        | synAck kind => simp [Packet.Delivered, kind] at hd
        | ack kind => simp [Packet.Delivered, kind] at hd
        | rst kind => simp [Packet.Delivered, kind] at hd
        | probe kind size => simp [Packet.Delivered, kind, size] at hd
      obtain ⟨ackNum, chain, hrecv⟩ := hrecv
      rw [receivedBytes_eq (Or.inr hd) hrecv]
      exact RecvWindow.receivePacket_advance hrecv
    · -- every other packet leaves the base alone
      have hsame : c'.recvWindow.recvBase = c.recvWindow.recvBase :=
        (hh.base hd).resolve_right fun hs => synAck hs.1
      rw [receivedBytes_zero (by simp [kind, hd]), hsame]
      simp
  refine ⟨fun node hn => hno node (hh.queue.subset hn), hh.not_synSent, hbase.1, hbase.2, ?_⟩
  by_cases ack : pkt.kind = .ack
  · have hack : c.handleACK g pkt = .ok (g', c') := by
      simpa only [TcpController.handlePacket, ack] using h
    rcases TcpController.handleACK_emits ack hack with hnone | ⟨hre, hemit⟩
    · exact ⟨[], by rw [hnone, List.append_nil], by simp [ackNums]⟩
    · exact ⟨c.front, hemit, Or.inl (TcpController.ackNums_front hno (hfront hre))⟩
  · obtain ⟨ps, hps, hemit⟩ := hh.emits
    refine ⟨ps, hps, Or.inr fun a ha => ?_⟩
    obtain ⟨q, hq, -, rfl⟩ := mem_ackNums.mp ha
    rcases hemit q hq with ⟨hk, -⟩ | ⟨-, -, hnum⟩
    · exact absurd hk ack
    · exact hnum

/-- A step that handles a packet, or finds none. -/
theorem Solo.handlePacket_cases {s s' : Solo} (h : s.step (.act .handlePacket) = .ok s') :
    s.endpoint.con.pktRecvBuffer = [] ∧ s' = s ∨
      ∃ pkt rest, s.endpoint.con.pktRecvBuffer = pkt :: rest ∧
        { s.endpoint.con with pktRecvBuffer := rest }.handlePacket s.globals pkt =
          .ok (s'.globals, s'.endpoint.con) := by
  obtain ⟨⟨g, e⟩, hstep, h⟩ := bind_eq_ok.mp h
  cases h
  simp only [Endpoint.step, Endpoint.handleNext] at hstep
  split at hstep
  · next hnil =>
    cases hstep
    exact Or.inl ⟨hnil, rfl⟩
  · next pkt rest hhead =>
    obtain ⟨⟨g₁, c₁⟩, hc, hstep⟩ := bind_eq_ok.mp hstep
    cases hstep
    exact Or.inr ⟨pkt, rest, hhead, hc⟩

end Step

/-! ## Runs -/

/-- A controller, and all packets it has sent. -/
structure Logged where
  solo : Solo
  sent : List Packet
deriving DecidableEq, Repr

namespace Logged

/-- The controller. -/
abbrev con (s : Logged) : TcpController := s.solo.endpoint.con

/-- The receive base of the controller. -/
abbrev base (s : Logged) : UInt32 := s.con.recvWindow.recvBase

/-- A controller with what it has sent from its start. -/
def ofSolo (s : Solo) : Logged := { solo := s, sent := s.endpoint.con.pktSendBuffer }

/-- One step, with the packets it puts in the packet send buffer. -/
def step (s : Logged) (i : Input) : Except Fatal Logged := do
  let solo ← s.solo.step i
  .ok { solo, sent := s.sent ++ solo.endpoint.con.pktSendBuffer.drop s.con.pktSendBuffer.length }

/-- The bytes that a step delivers in order. -/
def received (s : Logged) : Input → ℕ
  | .act .handlePacket =>
    match s.con.pktRecvBuffer with
    | [] => 0
    | pkt :: _ => receivedBytes s.con pkt
  | _ => 0

/-- A SYN-ACK repeats the one that was consumed last, or it is the one that the controller waits
for in SYN_SENT, and nothing has been acknowledged yet. -/
def SynAckRepeats (s : Logged) (pkt : Packet) : Prop :=
  pkt.kind = .synAck → pkt.tcpHeader.seqNum + 1 = s.base ∨
    s.con.state = .synSent ∧ ackNums s.sent = []

instance (s : Logged) (pkt : Packet) : Decidable (s.SynAckRepeats pkt) :=
  inferInstanceAs (Decidable (_ → _ ∨ _ ∧ _))

/-- A SYN-ACK that is handled repeats the last one, and one that is sent again has not been
overtaken by data. -/
def Forward (s : Logged) (i : Input) : Prop :=
  Solo.OnPacket (fun e pkt => s.SynAckRepeats pkt ∧
    (e.con.Resends s.solo.globals pkt → FrontCurrent e.con)) s.solo i ∧
  (i = .act .timeoutReTransmitter → FrontCurrent s.con)

instance (s : Logged) (i : Input) : Decidable (s.Forward i) :=
  inferInstanceAs (Decidable (_ ∧ (_ → _)))

/-- What a step does to the receive base, and the acknowledgement numbers it sends. -/
structure Goes (s s' : Logged) (bytes : ℕ) : Prop where
  noAcks : NoAcks s'.con
  state : s.con.state ≠ .synSent → s'.con.state ≠ .synSent
  moves : ∃ ps, s'.sent = s.sent ++ ps ∧
    (s'.base = s.base + UInt32.ofNat bytes ∧
        ((∀ a ∈ ackNums ps, a = s.base) ∨ ∀ a ∈ ackNums ps, a = s'.base) ∨
      s.con.state = .synSent ∧ ackNums s.sent = [] ∧ ∀ a ∈ ackNums ps, a = s'.base)

variable {s s' : Logged} {i : Input}

/-- The packets of a step are what it appends to the send buffer. -/
theorem step_sent (h : s.step i = .ok s') : s.solo.step i = .ok s'.solo ∧
    ∀ ps, s'.con.pktSendBuffer = s.con.pktSendBuffer ++ ps → s'.sent = s.sent ++ ps := by
  obtain ⟨t, ht, h⟩ := bind_eq_ok.mp h
  cases h
  refine ⟨ht, fun ps hps => ?_⟩
  replace hps : t.endpoint.con.pktSendBuffer = s.con.pktSendBuffer ++ ps := hps
  show s.sent ++ t.endpoint.con.pktSendBuffer.drop s.con.pktSendBuffer.length = _
  rw [hps, List.drop_left]

theorem goes_handlePacket (hno : NoAcks s.con) (hcond : s.Forward (.act .handlePacket))
    (h : s.step (.act .handlePacket) = .ok s') : s.Goes s' (s.received (.act .handlePacket)) := by
  obtain ⟨hsolo, hsent⟩ := step_sent h
  rcases Solo.handlePacket_cases hsolo with ⟨hnil, hsame⟩ | ⟨pkt, rest, hhead, hrun⟩
  · have hzero : s.received (.act .handlePacket) = 0 := by simp only [received, hnil]
    have hcon : s'.con = s.con := by rw [con, hsame]
    refine ⟨by rwa [hcon], by rw [hcon]; exact id, [], hsent [] (by rw [hcon, List.append_nil]),
      Or.inl ⟨?_, Or.inl (by simp [ackNums])⟩⟩
    rw [base, hcon, hzero]
    simp
  · have hbytes : s.received (.act .handlePacket) = receivedBytes s.con pkt := by
      simp only [received, hhead]
    obtain ⟨hsyn, hfront⟩ := hcond.1.head hhead
    by_cases hconn : pkt.kind = .synAck ∧ pkt.tcpHeader.seqNum + 1 ≠ s.base
    · -- only the SYN-ACK that connects may set the base somewhere else
      obtain ⟨hno', hbase, ps, hps, hemit⟩ := handleACKSYN_base
        (c := { s.con with pktRecvBuffer := rest }) hno hconn.1 hrun
      obtain ⟨hst, hnone⟩ := (hsyn hconn.1).resolve_left hconn.2
      exact ⟨hno', fun hne => absurd hst hne, ps, hsent ps hps, Or.inr ⟨hst, hnone, hemit⟩⟩
    · have hrepeat : pkt.kind = .synAck → pkt.tcpHeader.seqNum + 1 = s.base := fun hk =>
        not_not.mp fun hne => hconn ⟨hk, hne⟩
      have ha := advances (c := { s.con with pktRecvBuffer := rest }) hno hfront hrepeat hrun
      obtain ⟨ps, hps, hemit⟩ := ha.emits
      refine ⟨ha.noAcks, ha.state, ps, hsent ps hps, Or.inl ⟨?_, hemit⟩⟩
      rw [hbytes]
      exact ha.base

/-- **A step keeps the receive base, moves it by the bytes it delivers, or connects.** -/
theorem goes (hno : NoAcks s.con) (hcond : s.Forward i) (h : s.step i = .ok s') :
    s.Goes s' (s.received i) := by
  by_cases hi : i = .act .handlePacket
  · subst hi
    exact goes_handlePacket hno hcond h
  obtain ⟨hsolo, hsent⟩ := step_sent h
  have hzero : s.received i = 0 := by
    unfold received
    split
    · exact absurd rfl hi
    · rfl
  rw [hzero]
  have hbase : s.base = s.base + UInt32.ofNat 0 := by simp
  cases i with
  | act a =>
    have ha : a ≠ .handlePacket := fun heq => hi (by rw [heq])
    obtain ⟨⟨g, e⟩, hrun, heq⟩ := bind_eq_ok.mp hsolo
    have hq := Endpoint.step_quiet ha hrun
    have he : s'.solo.endpoint = e := (congrArg Solo.endpoint (Except.ok.inj heq)).symm
    rw [← he] at hq
    refine ⟨fun node hn => ?_, fun hst => ?_, ?_⟩
    · obtain ⟨new, hqueue, hnew⟩ := hq.queue
      rw [hqueue] at hn
      rcases List.mem_append.mp hn with hn | hn
      · exact hno node hn
      · rcases hnew node hn with hk | hk <;> simp [hk]
    · rcases hq.state with hs | ⟨-, hs⟩ | ⟨-, hs⟩
      · rwa [con, hs]
      · simp [con, hs]
      · simp [con, hs]
    · have hsame : s'.base = s.base := by rw [base, con, hq.recvWindow]
      by_cases ht : a = .timeoutReTransmitter
      · subst ht
        have hcon : s'.con = s.con.timeoutReTransmitter := by
          rw [con, he]
          cases hrun
          rfl
        rcases s.con.timeoutReTransmitter_sends with hnone | hemit
        · rw [← hcon] at hnone
          exact ⟨[], hsent [] (by rw [hnone, List.append_nil]),
            Or.inl ⟨hsame.trans hbase, Or.inl (by simp [ackNums])⟩⟩
        · rw [← hcon] at hemit
          exact ⟨_, hsent _ hemit, Or.inl ⟨hsame.trans hbase,
            Or.inl (TcpController.ackNums_front hno (hcond.2 rfl))⟩⟩
      · obtain ⟨ps, hps, hplain⟩ := (Endpoint.step_quiet_plain ha hrun).2 ht
        rw [← he] at hps
        exact ⟨ps, hsent ps hps, Or.inl ⟨hsame.trans hbase, Or.inl (by simp [ackNums_of_plain hplain])⟩⟩
  | receive pkt =>
    obtain ⟨t, ht, h⟩ := bind_eq_ok.mp h
    cases ht
    cases h
    refine ⟨hno, id, [], ?_, Or.inl ⟨hbase, Or.inl (by simp [ackNums])⟩⟩
    simp [TcpController.receiveNewPacket]
  | transmit =>
    obtain ⟨t, ht, h⟩ := bind_eq_ok.mp h
    cases ht
    cases h
    exact ⟨hno, id, [], by simp, Or.inl ⟨hbase, Or.inl (by simp [ackNums])⟩⟩
  | environment g =>
    obtain ⟨t, ht, h⟩ := bind_eq_ok.mp h
    cases ht
    cases h
    exact ⟨hno, id, [], by simp, Or.inl ⟨hbase, Or.inl (by simp [ackNums])⟩⟩

/-- A packet that is not at the base leaves it alone, once SYN_SENT is left. -/
theorem handlePacket_only {pkt : Packet} (hno : NoAcks s.con) (hst : s.con.state ≠ .synSent)
    (hcond : s.Forward (.act .handlePacket)) (h : s.step (.act .handlePacket) = .ok s')
    (hhead : s.con.pktRecvBuffer.head? = some pkt) (hne : pkt.tcpHeader.seqNum ≠ s.base) :
    s'.base = s.base := by
  rcases Solo.handlePacket_cases (step_sent h).1 with ⟨hnil, -⟩ | ⟨p, rest, hp, hrun⟩
  · simp [hnil] at hhead
  · have hpkt : p = pkt := by simpa [hp] using hhead
    subst hpkt
    obtain ⟨hsyn, hfront⟩ := hcond.1.head hp
    have hrepeat : p.kind = .synAck → p.tcpHeader.seqNum + 1 = s.base := fun hk =>
      (hsyn hk).resolve_right fun hs => hst hs.1
    exact (advances (c := { s.con with pktRecvBuffer := rest }) hno hfront hrepeat hrun).only hne

/-- Once SYN_SENT is left, the base is as far from where it was as bytes have been delivered. -/
structure Past (b : UInt32) (k : ℕ) (s : Logged) : Prop where
  noAcks : NoAcks s.con
  state : s.con.state ≠ .synSent
  base : s.base = b + UInt32.ofNat k

theorem Past.step {b : UInt32} {k : ℕ} (h : Past b k s) (hcond : s.Forward i)
    (hstep : s.step i = .ok s') : Past b (k + s.received i) s' := by
  have hg := goes h.noAcks hcond hstep
  obtain ⟨ps, -, ⟨hbase, -⟩ | ⟨hst, -⟩⟩ := hg.moves
  · refine ⟨hg.noAcks, hg.state h.state, ?_⟩
    rw [hbase, h.base, UInt32.ofNat_add, UInt32.add_assoc]
  · exact absurd hst h.state

/-- All acknowledgement numbers sent so far are bases on a way of at most `n` bytes, in this
order. -/
def Ascending (n : ℕ) (s : Logged) : Prop :=
  NoAcks s.con ∧ ∃ b k, ∃ js : List ℕ, k ≤ n ∧ s.base = b + UInt32.ofNat k ∧
    ackNums s.sent = js.map (fun j => b + UInt32.ofNat j) ∧ js.Pairwise (· ≤ ·) ∧ ∀ j ∈ js, j ≤ k

omit [HyLib] in
/-- Numbers that are all the same extend an ascending list, if they are as large as its last. -/
theorem pairwise_append_replicate {js : List ℕ} {j k m : ℕ} (hsorted : js.Pairwise (· ≤ ·))
    (hle : ∀ i ∈ js, i ≤ j) (hjk : j ≤ k) :
    (js ++ List.replicate m j).Pairwise (· ≤ ·) ∧ ∀ i ∈ js ++ List.replicate m j, i ≤ k := by
  constructor
  · rw [List.pairwise_append]
    refine ⟨hsorted, List.pairwise_replicate.mpr (Or.inr le_rfl), fun i hi l hl => ?_⟩
    rw [List.eq_of_mem_replicate hl]
    exact hle i hi
  · intro i hi
    rcases List.mem_append.mp hi with hi | hi
    · exact (hle i hi).trans hjk
    · rw [List.eq_of_mem_replicate hi]
      exact hjk

theorem Ascending.step {n : ℕ} (h : Ascending n s) (hcond : s.Forward i)
    (hstep : s.step i = .ok s') : Ascending (n + s.received i) s' := by
  obtain ⟨hno, b, k, js, hkn, hbase, hjs, hsorted, hle⟩ := h
  have hg := goes hno hcond hstep
  refine ⟨hg.noAcks, ?_⟩
  obtain ⟨ps, hps, ⟨hbase', hemit⟩ | ⟨hst, hnone, hemit⟩⟩ := hg.moves
  · have hnew : s'.base = b + UInt32.ofNat (k + s.received i) := by
      rw [hbase', hbase, UInt32.ofNat_add, UInt32.add_assoc]
    -- the numbers of this step are all `j` bytes on the way
    have hj : ∃ j, k ≤ j ∧ j ≤ k + s.received i ∧
        ackNums ps = List.replicate (ackNums ps).length (b + UInt32.ofNat j) := by
      rcases hemit with hemit | hemit
      · exact ⟨k, le_rfl, by omega, List.eq_replicate_iff.mpr ⟨rfl, hbase ▸ hemit⟩⟩
      · exact ⟨k + s.received i, by omega, le_rfl, List.eq_replicate_iff.mpr ⟨rfl, hnew ▸ hemit⟩⟩
    obtain ⟨j, hkj, hjk, hreplicate⟩ := hj
    obtain ⟨hsorted', hle'⟩ := pairwise_append_replicate (m := (ackNums ps).length) hsorted
      (fun i hi => (hle i hi).trans hkj) hjk
    refine ⟨b, _, _, by omega, hnew, ?_, hsorted', hle'⟩
    rw [hps, ackNums_append, hjs, List.map_append, List.map_replicate, ← hreplicate]
  · -- the way begins with the SYN-ACK
    refine ⟨s'.base, 0, List.replicate (ackNums ps).length 0, by omega, by simp, ?_,
      List.pairwise_replicate.mpr (Or.inr le_rfl), fun j hj => (List.eq_of_mem_replicate hj).le⟩
    rw [hps, ackNums_append, hnone, List.nil_append, List.map_replicate]
    exact List.eq_replicate_iff.mpr ⟨rfl, by simpa using hemit⟩

end Logged

/-- In a controller that was reached from its start, only SYNs, data and FINs are queued. -/
theorem Solo.noAcks_run {s₀ s : Solo} (hstart : s₀.Start) (is : List Input)
    (hrun : run Solo.step s₀ is = .ok s) : NoAcks s.endpoint.con := by
  refine run_induction Solo.step (P := fun s => NoAcks s.endpoint.con) ?_ ?_ hrun
  · intro s i s' h hstep
    cases Solo.step_moves hstep with
    | still i r p same =>
      rw [same]
      exact h
    | act a ne quiet =>
      obtain ⟨new, hq, hnew⟩ := quiet.queue
      intro node hn
      rw [hq] at hn
      rcases List.mem_append.mp hn with hn | hn
      · exact h node hn
      · rcases hnew node hn with hk | hk <;> simp [hk]
    | handle pkt rest head outcome =>
      -- what is new in the queue is a SYN-ACK
      obtain ⟨kept, new, hq, hkept, hnew⟩ := outcome.queue_cases
      intro node hn
      rw [hq] at hn
      rcases List.mem_append.mp hn with hn | hn
      · exact h node (hkept.subset hn)
      · simp [(hnew node hn).2]
  · cases hstart with
    | server g key options => exact fun node hn => by simp [TcpController.new] at hn
    | client g key options hconn =>
      unfold TcpController.tryConnect at hconn
      rw [if_neg (by simp [TcpController.new])] at hconn
      obtain ⟨⟨sent, w⟩, hsent, hconn⟩ := bind_eq_ok.mp hconn
      rcases SendWindow.sendPacket_cases hsent with ⟨rfl, rfl⟩ | ⟨rfl, rfl⟩
      · cases hconn
        exact fun node hn => by simp [TcpController.new] at hn
      · cases hconn
        intro node hn
        replace hn : node ∈ [] ++ [_] := hn
        rw [List.nil_append, List.mem_singleton] at hn
        rw [hn]
        simp [Packet.kind, TcpController.makeSyncPacket, TcpController.tcpHeader]

/-- A new controller has acknowledged nothing. -/
theorem Solo.Start.ascending {s : Solo} (h : s.Start) : Logged.Ascending 0 (.ofSolo s) := by
  refine ⟨Solo.noAcks_run h [] rfl, s.endpoint.con.recvWindow.recvBase, 0, [], le_rfl,
    by simp [Logged.ofSolo], ?_, .nil, by simp⟩
  show ackNums s.endpoint.con.pktSendBuffer = []
  cases h with
  | server g key options => rfl
  | client g key options hconn =>
    unfold TcpController.tryConnect at hconn
    rw [if_neg (by simp [TcpController.new])] at hconn
    obtain ⟨⟨sent, w⟩, hsent, hconn⟩ := bind_eq_ok.mp hconn
    cases sent with
    | false =>
      cases hconn
      rfl
    | true =>
      cases hconn
      rfl

/-- **The receive base only moves forward.** In every run from a new controller, for packets of
any content that deliver fewer than `2^31` bytes: once SYN_SENT is left the receive base never goes
back, and the acknowledgement numbers of all packets sent, SYN-ACKs included, never do, if every
SYN-ACK that is handled repeats the one that was consumed last, and none is sent again when the
base has moved on. A packet that is not at the base leaves the base alone. -/
theorem recv_base_forward {s₀ : Solo} (hstart : s₀.Start) {is₁ is₂ : List Input} {t₁ t₂ : Logged}
    (hcond : Meets Logged.step Logged.Forward (.ofSolo s₀) (is₁ ++ is₂))
    (hbytes : tally Logged.step Logged.received (.ofSolo s₀) (is₁ ++ is₂) < 2 ^ 31)
    (h₁ : run Logged.step (.ofSolo s₀) is₁ = .ok t₁) (h₂ : run Logged.step t₁ is₂ = .ok t₂) :
    (t₁.con.state ≠ .synSent → SerialLE t₁.base t₂.base) ∧ (ackNums t₂.sent).Pairwise SerialLE ∧
      ∀ pkt t₃, t₂.con.pktRecvBuffer.head? = some pkt → t₂.con.state ≠ .synSent →
        t₂.Forward (.act .handlePacket) → t₂.step (.act .handlePacket) = .ok t₃ →
        pkt.tcpHeader.seqNum ≠ t₂.base → t₃.base = t₂.base := by
  have hasc₁ := run_induction_tally Logged.step (f := Logged.received) (P := Logged.Ascending)
    (fun _ _ _ _ h hc hs => h.step hc hs) hstart.ascending hcond.of_append h₁
  have hasc₂ := run_induction_tally Logged.step (f := Logged.received) (P := Logged.Ascending)
    (fun _ _ _ _ h hc hs => h.step hc hs) hasc₁ (hcond.append_right _ h₁) h₂
  rw [tally_append _ is₂ h₁] at hbytes
  refine ⟨fun hst => ?_, ?_, fun pkt t₃ hhead hst hc hs hne =>
    Logged.handlePacket_only hasc₂.1 hst hc hs hhead hne⟩
  · have hpast₁ : Logged.Past t₁.base 0 t₁ := ⟨hasc₁.1, hst, by simp⟩
    have hpast₂ := run_induction_tally Logged.step (f := Logged.received) (P := Logged.Past t₁.base)
      (fun _ _ _ _ h hc hs => h.step hc hs) hpast₁ (hcond.append_right _ h₁) h₂
    have hle := serialLE_of_le (b := t₁.base)
      (Nat.zero_le (0 + tally Logged.step Logged.received t₁ is₂)) (by omega)
    rw [hpast₂.base]
    simpa using hle
  · obtain ⟨-, b, k, js, hk, -, hjs, hsorted, hle⟩ := hasc₂
    rw [hjs, List.pairwise_map]
    refine hsorted.imp_of_mem fun {i j} _ hj hij => serialLE_of_le hij ?_
    have := hle j hj
    omega

end

section

open scoped Reference

/-- Three bytes of the peer. -/
def threeBytes (seqNum : UInt32) : Packet :=
  { ipHeader := {}, tcpHeader := { seqNum }, payload := [1, 2, 3], payloadSize := 3 }

/-- The peer connects, and the SYN-ACK is sent a second time before its ACK arrives. -/
def acceptSlowly : List Input :=
  arrive (signal { sync := true }) ++ [.act .timeoutReTransmitter, .transmit] ++
    arrive (signal { ack := true, ackNum := 1, windowSize := 100 })

/-- Data of the peer, delivered in the wrong order and repeated, and its FIN. -/
def reordered : List Input :=
  arrive (threeBytes 4) ++ arrive (threeBytes 1) ++ arrive (threeBytes 1) ++
    arrive (signal { fin := true, seqNum := 7 })

theorem recv_base_forward_reordered : ∃ t₁ t₂,
    run Logged.step (.ofSolo newSolo) acceptSlowly = .ok t₁ ∧
      run Logged.step t₁ reordered = .ok t₂ ∧ SerialLE t₁.base t₂.base ∧
      ackNums t₂.sent = [1, 1, 1, 7, 7, 8] ∧ (ackNums t₂.sent).Pairwise SerialLE := by
  have hrun : (run Logged.step (.ofSolo newSolo) acceptSlowly >>= fun t₁ =>
      (run Logged.step t₁ reordered).map fun t₂ => (t₁, t₂)).map
        (fun r => (decide (r.1.con.state ≠ .synSent), ackNums r.2.sent)) =
      .ok (true, [1, 1, 1, 7, 7, 8]) := by decide +kernel
  obtain ⟨⟨t₁, t₂⟩, hboth, heq⟩ := map_eq_ok.mp hrun
  obtain ⟨u₁, h₁, hboth⟩ := bind_eq_ok.mp hboth
  obtain ⟨u₂, h₂, hpair⟩ := map_eq_ok.mp hboth
  cases hpair
  simp only [Prod.mk.injEq, decide_eq_true_eq] at heq
  obtain ⟨hst, hacks⟩ := heq
  obtain ⟨hbase, hforward, -⟩ := recv_base_forward (.server _ _ _) (by decide +kernel)
    (by decide +kernel) h₁ h₂
  exact ⟨t₁, t₂, h₁, h₂, hbase hst, hacks, hforward⟩

/-- The server has received three bytes in SYN_RCVD when its SYN-ACK is sent again. -/
example : (run Logged.step (.ofSolo newSolo) (arrive (signal { sync := true }) ++
    arrive (threeBytes 1) ++ [.act .timeoutReTransmitter])).map (fun t => ackNums t.sent) =
    .ok [1, 4, 1] := by decide +kernel

/-- The client's controller with default options, after `TryConnect`. -/
def connectingSolo : Except Fatal Solo := do
  let (_, con) ← (TcpController.new {} TcpController.getDefaultOptions).tryConnect {}
  .ok { endpoint := { con } }

/-- The SYN-ACK of the peer. -/
def synAckOfPeer : Packet :=
  signal { sync := true, ack := true, ackNum := 1, windowSize := 100 }

theorem not_recv_base_forward : ¬ ∀ (s₀ : Solo) (is : List Input) (pkt : Packet) (t₁ t₂ : Logged),
    s₀.Start → run Logged.step (.ofSolo s₀) is = .ok t₁ →
    tally Logged.step Logged.received (.ofSolo s₀) (is ++ arrive pkt) < 2 ^ 31 →
    t₁.con.state ≠ .closed → t₁.con.state ≠ .synSent →
    run Logged.step t₁ (arrive pkt) = .ok t₂ → SerialLE t₁.base t₂.base := by
  intro h
  -- the client has received three bytes when a late copy of the SYN-ACK arrives
  have hrun : connectingSolo.map (fun s₀ =>
      (decide (tally Logged.step Logged.received (.ofSolo s₀)
          (arrive synAckOfPeer ++ arrive (threeBytes 1) ++ arrive synAckOfPeer) < 2 ^ 31),
        (run Logged.step (.ofSolo s₀) (arrive synAckOfPeer ++ arrive (threeBytes 1))).map fun t₁ =>
          (t₁.con.state, t₁.base, (run Logged.step t₁ (arrive synAckOfPeer)).map (·.base)))) =
      .ok (true, .ok (.established, 4, .ok 1)) := by decide +kernel
  obtain ⟨s₀, hs₀, hrun⟩ := map_eq_ok.mp hrun
  obtain ⟨⟨b, con⟩, hconn, heq⟩ := bind_eq_ok.mp hs₀
  cases heq
  simp only [Prod.mk.injEq, decide_eq_true_eq] at hrun
  obtain ⟨hbytes, hrun⟩ := hrun
  obtain ⟨t₁, h₁, heq⟩ := map_eq_ok.mp hrun
  simp only [Prod.mk.injEq] at heq
  obtain ⟨hstate, hbase, hnext⟩ := heq
  obtain ⟨t₂, h₂, hbase'⟩ := map_eq_ok.mp hnext
  have := h _ _ synAckOfPeer t₁ t₂ (.client _ _ _ hconn) h₁ hbytes (by simp [hstate])
    (by simp [hstate]) h₂
  rw [hbase, hbase'] at this
  revert this
  decide

end

end NetStack
