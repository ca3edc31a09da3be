import TcpStack.Model.Solo
import TcpStack.Proofs.Frames
import TcpStack.Proofs.Handshake

/-!
# TcpStack — the closing half of the state machine

How the state, the receive pipe and the send window of one controller go together when its own
FIN and the peer's FIN cross, for a peer that sends anything in any order.

* **`TcpController.Outcome`** — what handling a packet does, kind by kind.
* **`fin_not_missed`** — a FIN that was taken is known to the state machine, unless it was
  handled while the controller was connecting.
* **`fin_in_order`** — a state that means "the peer has closed" is right about it, as long as
  every FIN that moves the state arrives in order.
* **`time_wait_acked`** — TIME_WAIT means that the own FIN is acknowledged, as long as every ACK
  in CLOSING acknowledges it.
-/

namespace NetStack

open Transition

/-! ## What handling a packet does -/

namespace RecvWindow

/-- Delivered or kept, a packet is the new one or was in the window before. -/
theorem receivePacket_mem {w w' : RecvWindow} {p : Packet} {ackNum : UInt32}
    {chain : List Packet} (h : w.receivePacket p = .ok (ackNum, chain, w')) :
    (∀ q ∈ chain, q = p ∨ q ∈ w.pkts) ∧ ∀ q ∈ w'.pkts, q = p ∨ q ∈ w.pkts := by
  rcases receivePacket_cases h with ⟨-, -, rfl, rfl⟩ |
    ⟨before, after, hwalk, -, -, -, rfl, rfl⟩ | ⟨-, -, -, rfl, -, rfl⟩
  · exact ⟨by simp, fun q hq => Or.inr hq⟩
  · -- the packet is put between the two parts of the list
    have hmem := insertWalk_mem hwalk
    refine ⟨by simp, fun q hq => ?_⟩
    rcases List.mem_append.mp hq with hq | hq
    · exact Or.inr (hmem ▸ List.mem_append_left _ hq)
    · rcases List.mem_cons.mp hq with rfl | hq
      · exact Or.inl rfl
      · exact Or.inr (hmem ▸ List.mem_append_right _ hq)
  · -- the list is cut behind the chain
    have hchain := chainWalk_append p w.pkts
    refine ⟨fun q hq => ?_, fun q hq => ?_⟩
    · rcases List.mem_cons.mp hq with rfl | hq
      · exact Or.inl rfl
      · exact Or.inr (hchain ▸ List.mem_append_left _ hq)
    · exact Or.inr (hchain ▸ List.mem_append_right _ hq)

/-- A packet at the receive base is delivered. -/
theorem receivePacket_base {w w' : RecvWindow} {p : Packet} {ackNum : UInt32}
    {chain : List Packet} (hseq : p.tcpHeader.seqNum = w.recvBase)
    (h : w.receivePacket p = .ok (ackNum, chain, w')) : p ∈ chain := by
  rcases receivePacket_cases h with ⟨hold, -⟩ | ⟨-, -, -, -, hnew, -⟩ | ⟨-, -, -, rfl, -⟩
  · exact absurd (hseq ▸ hold) (UInt32.lt_irrefl _)
  · exact absurd (hseq ▸ hnew) (UInt32.lt_irrefl _)
  · exact List.mem_cons_self ..

/-- The packet completes a chain with a FIN in it. -/
def DeliversFIN (w : RecvWindow) (pkt : Packet) : Prop :=
  ∃ ackNum chain w', w.receivePacket pkt = .ok (ackNum, chain, w') ∧ ∃ q ∈ chain, q.kind = .fin

end RecvWindow

section

variable [HyLib]

namespace TcpController

/-- A FIN that was streamed is a packet for `HandleFIN`. Induction on the chain. -/
theorem streamLoop_fin {chain : List Packet} {c c' : TcpController}
    (h : streamLoop chain c = .ok c') (hany : chain.any (·.tcpHeader.fin) = true) :
    ∃ q ∈ chain, q.kind = .fin := by
  induction chain generalizing c with
  | nil => simp at hany
  | cons p rest ih =>
    rw [streamLoop] at h
    split at h
    · cases h
    · next hsync =>
      split at h
      · next hfin => exact ⟨p, by simp, by simp [Packet.kind, hsync, hfin]⟩
      · next hfin =>
        have hrest : rest.any (·.tcpHeader.fin) = true := by
          simpa [List.any_cons, hfin] using hany
        have hind : ∀ {c₁ : TcpController}, streamLoop rest c₁ = .ok c' →
            ∃ q ∈ p :: rest, q.kind = .fin := by
          intro c₁ h₁
          obtain ⟨q, hq, hk⟩ := ih h₁ hrest
          exact ⟨q, by simp [hq], hk⟩
        split at h
        · simp only at h
          split at h
          · exact hind h
          · exact hind h
        · exact hind h

/-- The common end of `HandleDataPacket` and `HandleFIN`, as far as closing is concerned. -/
structure Takes (c c' : TcpController) (pkt : Packet) : Prop where
  state : c'.state = c.state
  killArmed : c'.killArmed = c.killArmed
  sendWindow : c'.sendWindow = c.sendWindow
  result : ∃ ackNum chain w, c.recvWindow.receivePacket pkt = .ok (ackNum, chain, w) ∧
    c'.recvWindow = w ∧
    (c'.pipeState = c.pipeState ∧ (∀ q ∈ chain, q.kind ≠ .fin) ∨
      c'.pipeState = .eofNotConsumed ∧ ∃ q ∈ chain, q.kind = .fin)

theorem receiveAndAck_takes {c c' : TcpController} {pkt : Packet}
    (h : c.receiveAndAck pkt = .ok c') : c.Takes c' pkt := by
  have hrun := h
  obtain ⟨ackNum, chain, w, b, o, p, hrecv, -, -, -, rfl⟩ := receiveAndAck_frame h
  refine ⟨rfl, rfl, rfl, ackNum, chain, w, hrecv, rfl, ?_⟩
  cases hany : chain.any (·.tcpHeader.fin) with
  | true =>
    refine Or.inr ⟨by simp, ?_⟩
    obtain ⟨⟨_, _, _⟩, hrecv', hrun⟩ := bind_eq_ok.mp hrun
    cases hrecv.symm.trans hrecv'
    obtain ⟨c₁, hstream, -⟩ := bind_eq_ok.mp hrun
    exact streamLoop_fin hstream hany
  | false =>
    refine Or.inl ⟨by simp, fun q hq hk => ?_⟩
    have hfin : q.tcpHeader.fin = false := by
      simpa using List.any_eq_false.mp hany q hq
    simp [Packet.fin_of_kind_fin hk] at hfin

theorem Takes.pipeState_iff {c c' : TcpController} {pkt : Packet} (h : c.Takes c' pkt) :
    c'.pipeState ≠ .opened ↔ c.pipeState ≠ .opened ∨ c.recvWindow.DeliversFIN pkt := by
  obtain ⟨ackNum, chain, w, hrecv, -, hpipe⟩ := h.result
  rcases hpipe with ⟨hsame, hno⟩ | ⟨heof, q, hq, hkind⟩
  · have hnot : ¬ c.recvWindow.DeliversFIN pkt := by
      rintro ⟨_, _, _, hrecv', q, hq, hkind⟩
      cases hrecv.symm.trans hrecv'
      exact hno q hq hkind
    simp [hsame, hnot]
  · have hdel : c.recvWindow.DeliversFIN pkt := ⟨ackNum, chain, w, hrecv, q, hq, hkind⟩
    simp [heof, hdel]

/-- The branches of the state section of `HandleFIN`. -/
theorem handleFINState_cases (c : TcpController) :
    c.state = .established ∧ c.handleFINState = { c with state := .closeWait } ∨
    c.state = .finWait2 ∧ c.handleFINState = { c with state := .timeWait, killArmed := true } ∨
    c.state = .finWait1 ∧ c.handleFINState = { c with state := .closing } ∨
    (c.state ≠ .established ∧ c.state ≠ .finWait2 ∧ c.state ≠ .finWait1) ∧
      c.handleFINState = c := by
  unfold handleFINState
  split
  · next hst => exact Or.inl ⟨hst, rfl⟩
  · next hst => exact Or.inr (Or.inl ⟨hst, rfl⟩)
  · next hst => exact Or.inr (Or.inr (Or.inl ⟨hst, rfl⟩))
  · next h₁ h₂ h₃ => exact Or.inr (Or.inr (Or.inr ⟨⟨h₁, h₂, h₃⟩, rfl⟩))

/-- The branches of the state section of `HandleACK`, as far as closing is concerned. -/
theorem handleACKState_cases (c : TcpController) (empty : Bool) :
    (c.handleACKState empty).killArmed = c.killArmed ∧
      ((c.handleACKState empty).state = c.state ∧ c.state ≠ .closing ∨
        c.state = .synRcvd ∧ (c.handleACKState empty).state = .established ∨
        c.state = .finWait1 ∧ empty = true ∧ (c.handleACKState empty).state = .finWait2 ∨
        c.state = .lastAck ∧ empty = true ∧ (c.handleACKState empty).state = .closed) ∨
    c.state = .closing ∧ (c.handleACKState empty).state = .timeWait := by
  unfold handleACKState
  split
  · next hst => exact Or.inl ⟨rfl, Or.inr (Or.inl ⟨hst, rfl⟩)⟩
  · split
    · next hst => exact Or.inl ⟨rfl, Or.inr (Or.inr (Or.inl ⟨hst.1, hst.2, rfl⟩))⟩
    · split
      · next hst => exact Or.inl ⟨rfl, Or.inr (Or.inr (Or.inr ⟨hst.1, hst.2, rfl⟩))⟩
      · split
        · next hst => exact Or.inr ⟨hst, rfl⟩
        · next hst => exact Or.inl ⟨rfl, Or.inl ⟨rfl, hst⟩⟩

theorem handleACKState_same (c : TcpController) (empty : Bool) :
    (c.handleACKState empty).pipeState = c.pipeState ∧
      (c.handleACKState empty).recvWindow = c.recvWindow ∧
      (c.handleACKState empty).sendWindow = c.sendWindow := by
  obtain ⟨st, t₁, t₂, k, s, h⟩ := c.handleACKState_frame empty
  rw [h]
  exact ⟨rfl, rfl, rfl⟩

/-- **What handling a packet does**, as far as closing is concerned. -/
inductive Outcome (c : TcpController) (g : Globals) (c' : TcpController) (pkt : Packet) : Prop
    where
  /-- A SYN may move the state to SYN_RCVD. -/
  | syn (kind : pkt.kind = .syn) (state : c'.state = c.state ∨ c'.state = .synRcvd)
      (pipe : c'.pipeState = c.pipeState) (kill : c'.killArmed = c.killArmed)
      (pkts : ∀ p ∈ c'.recvWindow.pkts, p = pkt ∨ p ∈ c.recvWindow.pkts)
      (queue : ∃ new, c'.sendWindow.pktsToAck = c.sendWindow.pktsToAck ++ new ∧
        ∀ node ∈ new, node.pkt.tcpHeader.fin = false ∧ node.pkt.kind = .synAck)
  /-- A SYN-ACK connects in SYN_SENT. -/
  | synAck (kind : pkt.kind = .synAck)
      (state : c'.state = c.state ∨ c.state = .synSent ∧ c'.state = .established)
      (pipe : c'.pipeState = c.pipeState) (kill : c'.killArmed = c.killArmed)
      (pkts : c'.recvWindow.pkts = c.recvWindow.pkts)
      (window : c.state ≠ .synSent → c'.sendWindow = c.sendWindow)
      (suffix : c'.sendWindow.pktsToAck <:+ c.sendWindow.pktsToAck)
  /-- A FIN moves the state first. -/
  | fin (kind : pkt.kind = .fin) (takes : c.handleFINState.Takes c' pkt)
  /-- An ACK takes packets from the queue, and then looks at the state. -/
  | ack (kind : pkt.kind = .ack) (c₁ : TcpController) (empty : Bool) (res : AckResult)
      (w : SendWindow) (g' : Globals)
      (acked : c.sendWindow.newAckedPacket g pkt.tcpHeader.ackNum = .ok (res, w, g'))
      (queue : c₁.sendWindow.pktsToAck = w.pktsToAck) (isEmpty : empty = (w.pktsToAck.length == 0))
      (state : c₁.state = c.state) (pipe : c₁.pipeState = c.pipeState)
      (kill : c₁.killArmed = c.killArmed) (pkts : c₁.recvWindow = c.recvWindow)
      (result : c' = c₁.handleACKState empty)
  | rst (kind : pkt.kind = .rst) (result : c' = c.closeAndDelete)
  | probe (kind : pkt.kind = .data) (size : pkt.payloadSize = 0) (state : c'.state = c.state)
      (pipe : c'.pipeState = c.pipeState) (kill : c'.killArmed = c.killArmed)
      (recv : c'.recvWindow = c.recvWindow) (window : c'.sendWindow = c.sendWindow)
  | data (kind : pkt.kind = .data) (size : pkt.payloadSize ≠ 0) (takes : c.Takes c' pkt)

theorem handleSYN_outcome {c c' : TcpController} {g : Globals} {pkt : Packet}
    (kind : pkt.kind = .syn) (h : c.handleSYN g pkt = .ok c') : c.Outcome g c' pkt := by
  obtain ⟨⟨ackNum, chain, w⟩, hrecv, h⟩ := bind_eq_ok.mp h
  have hmem := (RecvWindow.receivePacket_mem hrecv).2
  simp only at h
  split at h
  · cases h
  · split at h
    · obtain ⟨b, ps, hre, -⟩ := resendBase_frame { c with recvWindow := w }
      rw [hre] at h
      cases h
      exact .syn kind (Or.inl rfl) rfl rfl hmem ⟨[], by simp, by simp⟩
    · obtain ⟨⟨sent, w'⟩, hsent, h⟩ := bind_eq_ok.mp h
      rcases SendWindow.sendPacket_cases hsent with ⟨rfl, rfl⟩ | ⟨rfl, rfl⟩
      · cases h
        exact .syn kind (Or.inl rfl) rfl rfl hmem ⟨[], by simp, by simp⟩
      · cases h
        refine .syn kind (Or.inr rfl) rfl rfl hmem ⟨[_], rfl, ?_⟩
        intro node hn
        rw [List.mem_singleton.mp hn]
        exact ⟨rfl, rfl⟩

theorem handleACKSYN_outcome {c c' : TcpController} {g g' : Globals} {pkt : Packet}
    (kind : pkt.kind = .synAck) (h : c.handleACKSYN g pkt = .ok (g', c')) :
    c.Outcome g c' pkt := by
  unfold handleACKSYN at h
  split at h
  · next hst =>
    obtain ⟨⟨g₁, c₁⟩, hconn, h⟩ := bind_eq_ok.mp h
    obtain ⟨⟨res, w, g₂⟩, hack, hconn⟩ := bind_eq_ok.mp hconn
    cases hconn
    cases h
    exact .synAck kind (Or.inr ⟨hst, rfl⟩) rfl rfl rfl (fun hne => absurd hst hne)
      (SendWindow.newAckedPacket_suffix hack).1
  · cases h
    exact .synAck kind (Or.inl rfl) rfl rfl rfl (fun _ => rfl) (List.suffix_refl _)

theorem handlePacket_outcome {c c' : TcpController} {g g' : Globals} {pkt : Packet}
    (h : c.handlePacket g pkt = .ok (g', c')) : c.Outcome g c' pkt := by
  unfold handlePacket at h
  split at h
  · next kind =>
    obtain ⟨c₁, h₁, heq⟩ := map_eq_ok.mp h
    cases heq
    exact handleSYN_outcome kind h₁
  · next kind => exact handleACKSYN_outcome kind h
  · next kind =>
    obtain ⟨c₁, h₁, heq⟩ := map_eq_ok.mp h
    cases heq
    exact .fin kind (receiveAndAck_takes h₁)
  · next kind =>
    obtain ⟨⟨b, g₁, c₁⟩, hwin, h⟩ := bind_eq_ok.mp h
    cases h
    obtain ⟨res, w₀, w, t, pt, ps, hack, hw, hb, -, rfl⟩ := handleACKWindow_frame hwin
    exact .ack kind { c with
      sendWindow := w, timer := t, proberTimer := pt, pktSendBuffer := c.pktSendBuffer ++ ps }
      b res w₀ _ hack hw (by rw [hb, hw]) rfl rfl rfl rfl rfl
  · next kind =>
    cases h
    exact .rst kind rfl
  · next kind =>
    obtain ⟨c₁, h₁, heq⟩ := map_eq_ok.mp h
    cases heq
    unfold handleDataPacket at h₁
    split at h₁
    · next size =>
      cases h₁
      exact .probe kind size rfl rfl rfl rfl rfl
    · next size => exact .data kind size (receiveAndAck_takes h₁)

/-- **Handling a packet takes packets from the front of the queue**, and the only packet it puts
into it is a SYN-ACK. -/
theorem Outcome.queue_cases {c c' : TcpController} {g : Globals} {pkt : Packet}
    (h : c.Outcome g c' pkt) : ∃ kept new, c'.sendWindow.pktsToAck = kept ++ new ∧
      kept <:+ c.sendWindow.pktsToAck ∧
      ∀ node ∈ new, node.pkt.tcpHeader.fin = false ∧ node.pkt.kind = .synAck := by
  have hnone : ∀ {kept}, c'.sendWindow.pktsToAck = kept → kept <:+ c.sendWindow.pktsToAck →
      ∃ kept new, c'.sendWindow.pktsToAck = kept ++ new ∧ kept <:+ c.sendWindow.pktsToAck ∧
        ∀ node ∈ new, node.pkt.tcpHeader.fin = false ∧ node.pkt.kind = .synAck :=
    fun hq hsuffix => ⟨_, [], by rw [hq, List.append_nil], hsuffix, by simp⟩
  cases h with
  | syn kind state pipe kill pkts queue =>
    obtain ⟨new, hq, hnew⟩ := queue
    exact ⟨_, new, hq, List.suffix_refl _, hnew⟩
  | synAck kind state pipe kill pkts window suffix => exact hnone rfl suffix
  | fin kind takes =>
    -- the state section leaves the window alone
    obtain ⟨st, k, hframe⟩ := c.handleFINState_frame
    have hw := takes.sendWindow
    rw [hframe] at hw
    exact hnone (congrArg SendWindow.pktsToAck hw) (List.suffix_refl _)
  | ack kind c₁ empty res w g' acked queue isEmpty state pipe kill pkts result =>
    refine hnone ?_ (SendWindow.newAckedPacket_suffix acked).1
    rw [result, (c₁.handleACKState_same empty).2.2, queue]
  | rst kind result => exact hnone (by rw [result]; rfl) (List.suffix_refl _)
  | probe kind size state pipe kill recv window =>
    exact hnone (congrArg SendWindow.pktsToAck window) (List.suffix_refl _)
  | data kind size takes =>
    exact hnone (congrArg SendWindow.pktsToAck takes.sendWindow) (List.suffix_refl _)

end TcpController

/-! ## Steps of a single controller -/

/-- What the other actions do with FINs: a due `SendFIN` registers one, and nothing else moves
the state or adds a FIN to the queue. -/
theorem Endpoint.step_registers {e e' : Endpoint} {g g' : Globals} {a : Action}
    (ha : a ≠ .handlePacket) (h : e.step g a = .ok (g', e')) :
    (e'.con.state = e.con.state ∧
      ∃ new, e'.con.sendWindow.pktsToAck = e.con.sendWindow.pktsToAck ++ new ∧
        ∀ node ∈ new, node.pkt.tcpHeader.fin = false) ∨
    (a = .sendFIN ∧ e.finDue = true ∧
      ∃ node, e'.con.sendWindow.pktsToAck = e.con.sendWindow.pktsToAck ++ [node] ∧
        node.pkt.tcpHeader.fin = true) := by
  cases a with
  | writeData buf =>
    cases h
    obtain ⟨b, l, hw, -⟩ := e.writeData_frame buf
    rw [hw]
    exact Or.inl ⟨rfl, [], by simp, by simp⟩
  | readData size =>
    obtain ⟨e₁, h₁, heq⟩ := map_eq_ok.mp h
    cases heq
    obtain ⟨b, ps, r, rfl, -⟩ := readData_frame h₁
    exact Or.inl ⟨rfl, [], by simp, by simp⟩
  | shutDown =>
    cases h
    obtain ⟨b, k, hs, -⟩ := e.shutDownSocket_frame
    rw [hs]
    exact Or.inl ⟨rfl, [], by simp, by simp⟩
  | close =>
    cases h
    obtain ⟨b, k, hs, -⟩ := e.closeSocket_frame
    rw [hs]
    exact Or.inl ⟨rfl, [], by simp, by simp⟩
  | sendFIN =>
    obtain ⟨e₁, h₁, heq⟩ := map_eq_ok.mp h
    cases heq
    unfold runSendFIN at h₁
    split at h₁
    · cases h₁
      exact Or.inl ⟨rfl, [], by simp, by simp⟩
    · next hwait =>
      obtain ⟨c, hc, h₁⟩ := bind_eq_ok.mp h₁
      cases h₁
      unfold TcpController.sendFIN at hc
      split at hc
      · cases hc
        exact Or.inl ⟨rfl, [], by simp, by simp⟩
      · next hshut =>
        obtain ⟨⟨p, c₁⟩, hwin, hc⟩ := bind_eq_ok.mp hc
        cases hc
        obtain ⟨hkind, w, watch, rfl, hw⟩ := TcpController.sendFINWindow_frame hwin
        have hdue : e.finDue = true := by
          simp only [Bool.or_eq_true, decide_eq_true_eq, not_or, Bool.not_eq_true',
            Bool.not_eq_false] at hwait
          simp only [Bool.not_eq_true] at hshut
          simp [finDue, hwait.1, hwait.2, hshut]
        refine Or.inr ⟨rfl, hdue, ⟨p, watch⟩, ?_, Packet.fin_of_kind_fin hkind⟩
        unfold TcpController.sendFINState
        split
        · exact hw
        · exact hw
        · exact hw
  | sendBufferListener =>
    obtain ⟨c, h₁, heq⟩ := map_eq_ok.mp h
    cases heq
    rcases TcpController.sendBufferListener_frame h₁ with
      rfl | ⟨-, c₁, rfl, rfl | ⟨_, -, rfl⟩ | hsend⟩
    · exact Or.inl ⟨rfl, [], by simp, by simp⟩
    · exact Or.inl ⟨rfl, [], by simp, by simp⟩
    · exact Or.inl ⟨rfl, [], by simp, by simp⟩
    · obtain ⟨w, b, t, ps, new, rfl, -, hw, hnew, -⟩ := hsend
      exact Or.inl ⟨rfl, new, hw, fun node hn => Packet.fin_of_kind_data (hnew node hn)⟩
  | receiveBufferListener =>
    cases h
    obtain ⟨b, o, hb, -⟩ := e.con.receiveBufferListener_frame
    rw [hb]
    exact Or.inl ⟨rfl, [], by simp, by simp⟩
  | timeoutReTransmitter =>
    cases h
    unfold TcpController.timeoutReTransmitter
    simp only
    split
    · obtain ⟨b, ps, hre, -⟩ := e.con.resendBase_frame
      rw [hre]
      exact Or.inl ⟨rfl, [], by simp, by simp⟩
    · exact Or.inl ⟨rfl, [], by simp, by simp⟩
  | probeWindowSize =>
    cases h
    unfold TcpController.probeWindowSize
    split
    · exact Or.inl ⟨rfl, [], by simp [TcpController.sendPacket], by simp⟩
    · exact Or.inl ⟨rfl, [], by simp, by simp⟩
  | handlePacket => exact absurd rfl ha

namespace Solo

/-- **What a step of a single controller does**: an action of its own, the handling of the next
packet, or nothing that closing depends on. -/
inductive Moves (s s' : Solo) : Input → Prop where
  | act (a : Action) (ne : a ≠ .handlePacket) (quiet : s.endpoint.Quiet s'.endpoint)
      (step : s.endpoint.step s.globals a = .ok (s'.globals, s'.endpoint)) : Moves s s' (.act a)
  | handle (pkt : Packet) (rest : List Packet) (head : s.endpoint.con.pktRecvBuffer = pkt :: rest)
      (outcome :
        { s.endpoint.con with pktRecvBuffer := rest }.Outcome s.globals s'.endpoint.con pkt)
      (handled : s'.endpoint.handled = s.endpoint.handled ++ [pkt]) :
      Moves s s' (.act .handlePacket)
  | still (i : Input) (r p : List Packet) (same : s'.endpoint = { s.endpoint with
      con := { s.endpoint.con with pktRecvBuffer := r, pktSendBuffer := p } })
      (idle : i = .act .handlePacket → s.endpoint.con.pktRecvBuffer = []) : Moves s s' i

theorem step_moves {s s' : Solo} {i : Input} (h : s.step i = .ok s') : s.Moves s' i := by
  cases i with
  | act a =>
    obtain ⟨⟨g, e⟩, hstep, h⟩ := bind_eq_ok.mp h
    cases h
    by_cases ha : a = .handlePacket
    · subst ha
      simp only [Endpoint.step, Endpoint.handleNext] at hstep
      split at hstep
      · next hnil =>
        cases hstep
        exact .still _ _ _ rfl fun _ => hnil
      · next pkt rest hhead =>
        obtain ⟨⟨g₁, c⟩, hc, hstep⟩ := bind_eq_ok.mp hstep
        cases hstep
        exact .handle pkt rest hhead (TcpController.handlePacket_outcome hc) rfl
    · exact .act a ha (Endpoint.step_quiet ha hstep) hstep
  | receive pkt =>
    cases h
    exact .still _ _ _ rfl (by simp)
  | transmit =>
    cases h
    exact .still _ _ _ rfl (by simp)
  | environment g =>
    cases h
    exact .still _ _ _ rfl (by simp)

/-- A condition on the packet that the step handles, if it handles one. -/
def OnPacket (P : Endpoint → Packet → Prop) (s : Solo) (i : Input) : Prop :=
  i = .act .handlePacket → ∀ pkt ∈ s.endpoint.con.pktRecvBuffer.head?, P s.endpoint pkt

instance (P : Endpoint → Packet → Prop) [∀ e pkt, Decidable (P e pkt)] (s : Solo) (i : Input) :
    Decidable (OnPacket P s i) :=
  inferInstanceAs (Decidable (_ → ∀ pkt ∈ s.endpoint.con.pktRecvBuffer.head?, P s.endpoint pkt))

theorem OnPacket.head {P : Endpoint → Packet → Prop} {s : Solo} {pkt : Packet}
    {rest : List Packet} (h : OnPacket P s (.act .handlePacket))
    (hhead : s.endpoint.con.pktRecvBuffer = pkt :: rest) : P s.endpoint pkt :=
  h rfl pkt (by simp [hhead])

/-- A new controller has seen nothing, and waits for a handshake. -/
theorem Start.fresh {s : Solo} (h : s.Start) :
    s.endpoint.handled = [] ∧ s.endpoint.con.recvWindow.pkts = [] ∧
      s.endpoint.con.pipeState = .opened ∧ s.endpoint.con.killArmed = false ∧
      (s.endpoint.con.state = .closed ∨ s.endpoint.con.state = .synSent) := by
  cases h with
  | server g key options => exact ⟨rfl, rfl, rfl, rfl, Or.inl rfl⟩
  | client g key options hconn =>
    unfold TcpController.tryConnect at hconn
    split at hconn
    · cases hconn
      exact ⟨rfl, rfl, rfl, rfl, Or.inl rfl⟩
    · obtain ⟨⟨sent, w⟩, -, hconn⟩ := bind_eq_ok.mp hconn
      cases sent with
      | true =>
        cases hconn
        exact ⟨rfl, rfl, rfl, rfl, Or.inr rfl⟩
      | false =>
        cases hconn
        exact ⟨rfl, rfl, rfl, rfl, Or.inl rfl⟩

end Solo

/-! ## The end of the stream -/

namespace Solo

/-- The packet that the step handles makes the receive window deliver a FIN: the receive base
moves over it. -/
def TakesFIN (s : Solo) (i : Input) : Prop :=
  i = .act .handlePacket ∧ ∃ pkt rest, s.endpoint.con.pktRecvBuffer = pkt :: rest ∧
    (pkt.kind = .fin ∨ pkt.kind = .data ∧ pkt.payloadSize ≠ 0) ∧
    s.endpoint.con.recvWindow.DeliversFIN pkt

theorem takesFIN_iff {s : Solo} {pkt : Packet} {rest : List Packet}
    (head : s.endpoint.con.pktRecvBuffer = pkt :: rest) :
    s.TakesFIN (.act .handlePacket) ↔
      (pkt.kind = .fin ∨ pkt.kind = .data ∧ pkt.payloadSize ≠ 0) ∧
        s.endpoint.con.recvWindow.DeliversFIN pkt := by
  constructor
  · rintro ⟨-, pkt', rest', head', h⟩
    cases head.symm.trans head'
    exact h
  · intro h
    exact ⟨rfl, pkt, rest, head, h⟩

/-- The receive pipe leaves OPEN in the steps that deliver a FIN, and for good. -/
theorem step_pipeState {s s' : Solo} {i : Input} (h : s.step i = .ok s') :
    s'.endpoint.con.pipeState ≠ .opened ↔
      s.endpoint.con.pipeState ≠ .opened ∨ s.TakesFIN i := by
  cases step_moves h with
  | still i r p same idle =>
    have hno : ¬ s.TakesFIN i := by
      rintro ⟨hi, pkt, rest, head, -⟩
      simp [idle hi] at head
    simp [same, hno]
  | act a ne quiet =>
    have hno : ¬ s.TakesFIN (.act a) := fun ht => ne (by simpa using ht.1)
    rcases quiet.pipeState with hp | ⟨hp, hp'⟩
    · simp [hp, hno]
    · simp [hp, hp']
  | handle pkt rest head outcome handled =>
    rw [takesFIN_iff head]
    cases outcome with
    | syn kind state pipe => simp [pipe, kind]
    | synAck kind state pipe => simp [pipe, kind]
    | fin kind takes =>
      obtain ⟨st, k, hf⟩ := TcpController.handleFINState_frame
        { s.endpoint.con with pktRecvBuffer := rest }
      rw [takes.pipeState_iff, hf]
      simp [kind]
    | ack kind c₁ empty res w g' acked queue isEmpty state pipe kill pkts result =>
      simp [result, (c₁.handleACKState_same empty).1, pipe, kind]
    | rst kind result => simp [result, TcpController.closeAndDelete, kind]
    | probe kind size state pipe => simp [pipe, kind, size]
    | data kind size takes =>
      rw [takes.pipeState_iff]
      simp [kind, size]

/-- **The pipe is at its end exactly when a FIN was delivered in order.** -/
theorem eof_iff_takesFIN {s₀ s : Solo} {is : List Input} (hstart : s₀.Start)
    (hrun : run step s₀ is = .ok s) :
    s.endpoint.con.pipeState ≠ .opened ↔ Happens step TakesFIN s₀ is := by
  constructor
  · intro heof
    rcases happens_of_run step (fun _ _ _ h => (step_pipeState h).mp) hrun heof with h₀ | hh
    · exact absurd hstart.fresh.2.2.1 h₀
    · exact hh
  · exact run_of_happens step (fun _ _ _ h ht => (step_pipeState h).mpr (Or.inr ht))
      (fun _ _ _ hp h => (step_pipeState h).mpr (Or.inl hp)) hrun

end Solo

/-! ## A FIN that was taken is known to the state machine -/

/-- The states that mean "the peer has closed". -/
def TcpState.peerClosed : TcpState → Bool
  | .closeWait | .lastAck | .closing | .timeWait => true
  | _ => false

/-- What is taken from the receive window was received. -/
theorem TcpController.Takes.received {c c' : TcpController} {pkt : Packet} {l : List Packet}
    (h : c.Takes c' pkt) (hl : ∀ p ∈ c.recvWindow.pkts, p ∈ l)
    (heof : c.pipeState ≠ .opened → ∃ p ∈ l, p.kind = .fin) :
    (∀ p ∈ c'.recvWindow.pkts, p ∈ l ++ [pkt]) ∧
      (c'.pipeState ≠ .opened → ∃ p ∈ l ++ [pkt], p.kind = .fin) := by
  obtain ⟨ackNum, chain, w, hrecv, hw, hpipe⟩ := h.result
  obtain ⟨hchain, hkept⟩ := RecvWindow.receivePacket_mem hrecv
  have hmem : ∀ p, p = pkt ∨ p ∈ c.recvWindow.pkts → p ∈ l ++ [pkt] := by
    rintro p (rfl | hp)
    · simp
    · exact List.mem_append_left _ (hl p hp)
  refine ⟨fun p hp => hmem p (hkept p (hw ▸ hp)), fun hne => ?_⟩
  rcases hpipe with ⟨hsame, -⟩ | ⟨-, q, hq, hkind⟩
  · rw [hsame] at hne
    obtain ⟨p, hp, hkind⟩ := heof hne
    exact ⟨p, List.mem_append_left _ hp, hkind⟩
  · exact ⟨q, hmem q (hchain q hq), hkind⟩

namespace Solo

/-- The end of the stream comes from a FIN that was handled, and the state knows every FIN that
was handled. -/
structure Noticed (e : Endpoint) : Prop where
  listen : e.con.state ≠ .listen
  pkts : ∀ p ∈ e.con.recvWindow.pkts, p ∈ e.handled
  eof : e.con.pipeState ≠ .opened → ∃ p ∈ e.handled, p.kind = .fin
  fin : (∃ p ∈ e.handled, p.kind = .fin) →
    e.con.state.peerClosed = true ∨ e.con.state = .closed

/-- A correct peer sends its SYN before its FIN, and the channel keeps the order. -/
def SynBeforeFin : Solo → Input → Prop :=
  OnPacket fun e pkt => pkt.kind = .syn → ∀ p ∈ e.handled, p.kind ≠ .fin

/-- No FIN is handled while the controller is connecting. -/
def FinAfterHandshake : Solo → Input → Prop :=
  OnPacket fun e pkt => pkt.kind = .fin → e.con.state ≠ .synSent ∧ e.con.state ≠ .synRcvd

instance (s : Solo) (i : Input) : Decidable (SynBeforeFin s i) :=
  inferInstanceAs (Decidable (OnPacket _ s i))

instance (s : Solo) (i : Input) : Decidable (FinAfterHandshake s i) :=
  inferInstanceAs (Decidable (OnPacket _ s i))

/-- Handling a packet that is not a FIN keeps what is known, if the state stays among the states
that know it. -/
theorem Noticed.append {e e' : Endpoint} {pkt : Packet} (h : Noticed e)
    (hhandled : e'.handled = e.handled ++ [pkt]) (hkind : pkt.kind ≠ .fin)
    (hlisten : e'.con.state ≠ .listen)
    (hpkts : ∀ p ∈ e'.con.recvWindow.pkts, p ∈ e.handled ++ [pkt])
    (heof : e'.con.pipeState ≠ .opened → ∃ p ∈ e.handled ++ [pkt], p.kind = .fin)
    (hstate : (∃ p ∈ e.handled, p.kind = .fin) →
      e.con.state.peerClosed = true ∨ e.con.state = .closed →
      e'.con.state.peerClosed = true ∨ e'.con.state = .closed) : Noticed e' := by
  refine ⟨hlisten, hhandled ▸ hpkts, hhandled ▸ heof, fun hfin => ?_⟩
  rw [hhandled] at hfin
  have hold : ∃ p ∈ e.handled, p.kind = .fin := by
    obtain ⟨p, hp, hk⟩ := hfin
    rcases List.mem_append.mp hp with hp | hp
    · exact ⟨p, hp, hk⟩
    · rw [List.mem_singleton.mp hp] at hk
      exact absurd hk hkind
  exact hstate hold (h.fin hold)

theorem Noticed.step {s s' : Solo} {i : Input} (h : Noticed s.endpoint)
    (hsyn : SynBeforeFin s i) (hshake : FinAfterHandshake s i) (hstep : s.step i = .ok s') :
    Noticed s'.endpoint := by
  cases step_moves hstep with
  | still i r p same idle => exact same ▸ ⟨h.listen, h.pkts, h.eof, h.fin⟩
  | act a ne quiet =>
    have hstate := quiet.state
    refine ⟨?_, ?_, ?_, ?_⟩
    · rcases hstate with hst | ⟨-, hst⟩ | ⟨-, hst⟩
      · exact hst ▸ h.listen
      · simp [hst]
      · simp [hst]
    · rw [quiet.handled, quiet.recvWindow]
      exact h.pkts
    · rw [quiet.handled]
      intro hne
      rcases quiet.pipeState with hp | ⟨hp, -⟩
      · exact h.eof (hp ▸ hne)
      · exact h.eof (by simp [hp])
    · rw [quiet.handled]
      intro hfin
      have hold := h.fin hfin
      rcases hstate with hst | ⟨hst, -⟩ | ⟨-, hst⟩
      · exact hst ▸ hold
      · simp [hst, TcpState.peerClosed] at hold
      · simp [hst, TcpState.peerClosed]
  | handle pkt rest head outcome handled =>
    have hsyn' := hsyn.head head
    have hshake' := hshake.head head
    have hpkts : ∀ p ∈ s.endpoint.con.recvWindow.pkts, p ∈ s.endpoint.handled ++ [pkt] :=
      fun p hp => List.mem_append_left _ (h.pkts p hp)
    have heof : s.endpoint.con.pipeState ≠ .opened →
        ∃ p ∈ s.endpoint.handled ++ [pkt], p.kind = .fin := by
      intro hne
      obtain ⟨p, hp, hk⟩ := h.eof hne
      exact ⟨p, List.mem_append_left _ hp, hk⟩
    have hlisten := h.listen
    cases outcome with
    | syn kind state pipe kill pkts =>
      -- a SYN comes before every FIN, so there is nothing to be known yet
      refine h.append handled (by simp [kind]) ?_ ?_ (pipe ▸ heof) ?_
      · rcases state with hst | hst
        · exact hst ▸ hlisten
        · simp [hst]
      · intro p hp
        rcases pkts p hp with rfl | hp
        · simp
        · exact hpkts p hp
      · rintro ⟨p, hp, hk⟩ -
        exact absurd hk (hsyn' kind p hp)
    | synAck kind state pipe kill pkts =>
      refine h.append handled (by simp [kind]) ?_ (pkts ▸ hpkts) (pipe ▸ heof) ?_
      · rcases state with hst | ⟨-, hst⟩
        · exact hst ▸ hlisten
        · simp [hst]
      · rintro - hold
        rcases state with hst | ⟨hst, -⟩
        · exact hst ▸ hold
        · simp only at hst
          simp [hst, TcpState.peerClosed] at hold
    | fin kind takes =>
      obtain ⟨st, k, hf⟩ := TcpController.handleFINState_frame
        { s.endpoint.con with pktRecvBuffer := rest }
      have hrecv := takes.received (l := s.endpoint.handled)
        (by rw [hf]; exact h.pkts) (by rw [hf]; exact h.eof)
      -- the if-chain of `HandleFIN` has a branch for every state that is left here
      have hst : s'.endpoint.con.state.peerClosed = true ∨ s'.endpoint.con.state = .closed := by
        obtain ⟨hsent, hrcvd⟩ := hshake' kind
        rw [takes.state]
        unfold TcpController.handleFINState
        cases hs : s.endpoint.con.state <;> simp_all [TcpState.peerClosed]
      refine ⟨?_, handled ▸ hrecv.1, handled ▸ hrecv.2, fun _ => hst⟩
      intro hl
      simp [hl, TcpState.peerClosed] at hst
    | ack kind c₁ empty res w g' acked queue isEmpty state pipe kill pkts result =>
      obtain ⟨hpipe, hrecv, -⟩ := c₁.handleACKState_same empty
      have hmove := c₁.handleACKState_cases empty
      rw [← result] at hpipe hrecv hmove
      rw [state] at hmove
      refine h.append handled (by simp [kind]) ?_ ?_ ?_ ?_
      · rcases hmove with ⟨-, ⟨hst, -⟩ | ⟨-, hst⟩ | ⟨-, -, hst⟩ | ⟨-, -, hst⟩⟩ | ⟨-, hst⟩
        · exact hst ▸ hlisten
        all_goals simp [hst]
      · rw [hrecv, pkts]
        exact hpkts
      · rw [hpipe, pipe]
        exact heof
      · rintro - hold
        simp only at hmove
        rcases hmove with ⟨-, ⟨hst, -⟩ | ⟨hst, -⟩ | ⟨hst, -, -⟩ | ⟨-, -, hst⟩⟩ | ⟨-, hst⟩
        · exact hst ▸ hold
        · simp [hst, TcpState.peerClosed] at hold
        · simp [hst, TcpState.peerClosed] at hold
        · exact Or.inr hst
        · simp [hst, TcpState.peerClosed]
    | rst kind result =>
      refine h.append handled (by simp [kind]) ?_ ?_ ?_ ?_ <;> rw [result]
      · exact hlisten
      · exact hpkts
      · exact heof
      · exact fun _ hold => hold
    | probe kind size state pipe kill recv =>
      exact h.append handled (by simp [kind]) (state ▸ hlisten) (recv ▸ hpkts) (pipe ▸ heof)
        fun _ hold => state ▸ hold
    | data kind size takes =>
      obtain ⟨hrecv, hpipe⟩ := takes.received (l := s.endpoint.handled) h.pkts h.eof
      exact h.append handled (by simp [kind]) (takes.state ▸ hlisten) hrecv hpipe
        fun _ hold => takes.state ▸ hold

theorem Noticed.start {s : Solo} (h : s.Start) : Noticed s.endpoint := by
  obtain ⟨hhandled, hpkts, hpipe, -, hstate⟩ := h.fresh
  refine ⟨?_, by simp [hpkts], by simp [hpipe], by simp [hhandled]⟩
  rcases hstate with hst | hst
  · simp [hst]
  · simp [hst]

end Solo

/-- **The FIN of the peer is not missed.** If no FIN is handled before the handshake is over,
then the state knows about every FIN that was delivered in order. -/
theorem fin_not_missed {s₀ s : Solo} {is : List Input} (hstart : s₀.Start)
    (hpeer : Meets Solo.step Solo.SynBeforeFin s₀ is)
    (hshake : Meets Solo.step Solo.FinAfterHandshake s₀ is)
    (hrun : run Solo.step s₀ is = .ok s) (heof : s.endpoint.con.pipeState ≠ .opened) :
    s.endpoint.con.state.peerClosed = true ∨ s.endpoint.con.state = .closed := by
  have h : Solo.Noticed s.endpoint :=
    run_induction_of_meets Solo.step (P := fun s => Solo.Noticed s.endpoint)
      (fun _ _ _ h hcond hstep => h.step hcond.1 hcond.2 hstep) (.start hstart)
      (hpeer.and _ hshake) hrun
  exact h.fin (h.eof heof)

end

section

open scoped Reference

/-- A controller on the server's side with default options. -/
def newSolo : Solo :=
  { endpoint := { con := TcpController.new {} TcpController.getDefaultOptions } }

/-- A packet of the peer without payload; SYN and FIN take one sequence number. -/
def signal (tcpHeader : TcpHeader) : Packet :=
  { ipHeader := {}, tcpHeader, payloadSize := if tcpHeader.sync || tcpHeader.fin then 1 else 0 }

/-- A packet arrives and is handled. -/
def arrive (pkt : Packet) : List Input := [.receive pkt, .act .handlePacket]

/-- The peer connects. -/
def accept : List Input :=
  arrive (signal { sync := true }) ++ arrive (signal { ack := true, ackNum := 1, windowSize := 100 })

theorem fin_not_missed_closeWait : ∃ s,
    run Solo.step newSolo (accept ++ arrive (signal { fin := true, seqNum := 1 })) = .ok s ∧
    s.endpoint.con.pipeState ≠ .opened ∧
    (s.endpoint.con.state.peerClosed = true ∨ s.endpoint.con.state = .closed) := by
  have hrun : (run Solo.step newSolo (accept ++ arrive (signal { fin := true, seqNum := 1 }))).map
      (·.endpoint.con.pipeState) = .ok .eofNotConsumed := by decide +kernel
  obtain ⟨s, hs, hpipe⟩ := map_eq_ok.mp hrun
  have heof : s.endpoint.con.pipeState ≠ .opened := by simp [hpipe]
  exact ⟨s, hs, heof, fin_not_missed (.server _ _ _) (by decide +kernel) (by decide +kernel) hs heof⟩

/-- The third packet of the handshake is lost, and the client closes. -/
def lostAckRun : List Event :=
  [.sendToServer, .deliverToServer, .server .handlePacket, .server .handlePacket, .sendToClient,
    .deliverToClient, .deliverToClient, .client .handlePacket, .sendToServer, .dropToServer 0,
    .client .shutDown, .client .sendFIN, .sendToServer, .deliverToServer, .server .handlePacket]

theorem not_fin_not_missed : ¬ ∀ (cfg : Config) (g : Globals) (evs : List Event) (n : Net)
    (v : Endpoint), Net.run cfg g evs = .ok n → n.server = some v →
    v.con.pipeState ≠ .opened → v.con.state.peerClosed = true ∨ v.con.state = .closed := by
  intro h
  have hrun : (Net.run {} {} lostAckRun).map
      (fun n => n.server.map fun v => (v.con.state, v.con.pipeState)) =
      .ok (some (.synRcvd, .eofNotConsumed)) := by decide +kernel
  obtain ⟨n, hn, heq⟩ := map_eq_ok.mp hrun
  obtain ⟨v, hv, heq⟩ := Option.map_eq_some_iff.mp heq
  obtain ⟨hstate, hpipe⟩ := Prod.mk.inj heq
  have := h {} {} lostAckRun n v hn hv (by simp [hpipe])
  simp [hstate, TcpState.peerClosed] at this

end

section

variable [HyLib]

/-! ## A state that knows of a FIN is right about it -/

/-- The packet moves the state of the controller when it is a FIN. -/
def TcpState.movesOnFin : TcpState → Bool
  | .established | .finWait1 | .finWait2 => true
  | _ => false

namespace Solo

/-- A FIN that moves the state is at the receive base, or the FIN was delivered before. -/
def FinInOrder : Solo → Input → Prop :=
  OnPacket fun e pkt => pkt.kind = .fin → e.con.state.movesOnFin = true →
    e.con.pipeState ≠ .opened ∨ pkt.tcpHeader.seqNum = e.con.recvWindow.recvBase

instance (s : Solo) (i : Input) : Decidable (FinInOrder s i) :=
  inferInstanceAs (Decidable (OnPacket _ s i))

/-- The state says that the peer has closed, or the controller is going to delete itself. -/
def Ended (c : TcpController) : Prop := c.state.peerClosed = true ∨ c.killArmed = true

theorem ended_step {s s' : Solo} {i : Input} (horder : FinInOrder s i)
    (h : Ended s.endpoint.con → s.endpoint.con.pipeState ≠ .opened) (hstep : s.step i = .ok s')
    (hend : Ended s'.endpoint.con) : s'.endpoint.con.pipeState ≠ .opened := by
  have hpipe := step_pipeState hstep
  by_cases hopen : s.endpoint.con.pipeState ≠ .opened
  · exact hpipe.mpr (Or.inl hopen)
  have hno : ¬ Ended s.endpoint.con := fun he => hopen (h he)
  unfold Ended at hno hend
  cases step_moves hstep with
  | still i r p same =>
    rw [same] at hend
    exact absurd hend hno
  | act a ne quiet =>
    rw [quiet.killArmed] at hend
    rcases quiet.state with hst | ⟨-, hst⟩ | ⟨hst, -⟩
    · rw [hst] at hend
      exact absurd hend hno
    · rw [hst] at hend
      exact absurd (hend.imp_left (by simp [TcpState.peerClosed])) hno
    · simp [hst, TcpState.peerClosed] at hno
  | handle pkt rest head outcome handled =>
    cases outcome with
    | syn kind state pipe kill =>
      rw [kill] at hend
      rcases state with hst | hst
      · rw [hst] at hend
        exact absurd hend hno
      · rw [hst] at hend
        exact absurd (hend.imp_left (by simp [TcpState.peerClosed])) hno
    | synAck kind state pipe kill =>
      rw [kill] at hend
      rcases state with hst | ⟨-, hst⟩
      · rw [hst] at hend
        exact absurd hend hno
      · rw [hst] at hend
        exact absurd (hend.imp_left (by simp [TcpState.peerClosed])) hno
    | fin kind takes =>
      rw [takes.state, takes.killArmed] at hend
      -- the state moves only on a FIN at the receive base, and that one is delivered
      have hdelivers : s.endpoint.con.state.movesOnFin = true →
          s'.endpoint.con.pipeState ≠ .opened := by
        intro hmoves
        have hseq := (horder.head head kind hmoves).resolve_left hopen
        obtain ⟨ackNum, chain, w, hrecv, -, -⟩ := takes.result
        obtain ⟨st, k, hf⟩ := TcpController.handleFINState_frame
          { s.endpoint.con with pktRecvBuffer := rest }
        rw [hf] at hrecv
        exact hpipe.mpr (Or.inr ((takesFIN_iff head).mpr ⟨Or.inl kind, ackNum, chain, w, hrecv,
          pkt, RecvWindow.receivePacket_base hseq hrecv, kind⟩))
      rcases TcpController.handleFINState_cases { s.endpoint.con with pktRecvBuffer := rest } with
        ⟨hst, -⟩ | ⟨hst, -⟩ | ⟨hst, -⟩ | ⟨-, hf⟩
      · exact hdelivers (by simp_all [TcpState.movesOnFin])
      · exact hdelivers (by simp_all [TcpState.movesOnFin])
      · exact hdelivers (by simp_all [TcpState.movesOnFin])
      · rw [hf] at hend
        exact absurd hend hno
    | ack kind c₁ empty res w g' acked queue isEmpty state pipe kill pkts result =>
      have hmove := c₁.handleACKState_cases empty
      rw [← result, state, kill] at hmove
      simp only at hmove
      rcases hmove with ⟨hkill, ⟨hst, -⟩ | ⟨-, hst⟩ | ⟨-, -, hst⟩ | ⟨-, -, hst⟩⟩ | ⟨hst, -⟩
      · rw [hkill, hst] at hend
        exact absurd hend hno
      · rw [hkill, hst] at hend
        exact absurd (hend.imp_left (by simp [TcpState.peerClosed])) hno
      · rw [hkill, hst] at hend
        exact absurd (hend.imp_left (by simp [TcpState.peerClosed])) hno
      · rw [hkill, hst] at hend
        exact absurd (hend.imp_left (by simp [TcpState.peerClosed])) hno
      · simp [hst, TcpState.peerClosed] at hno
    | rst kind result =>
      rw [result] at hend
      exact absurd hend hno
    | probe kind size state pipe kill =>
      rw [state, kill] at hend
      exact absurd hend hno
    | data kind size takes =>
      rw [takes.state, takes.killArmed] at hend
      exact absurd hend hno

end Solo

/-- **The FIN of the peer takes effect in order.** If every FIN that moves the state arrives in
order, then a controller whose state says that the peer has closed, or that is going to delete
itself, has received everything up to and including the FIN. -/
theorem fin_in_order {s₀ s : Solo} {is : List Input} (hstart : s₀.Start)
    (horder : Meets Solo.step Solo.FinInOrder s₀ is) (hrun : run Solo.step s₀ is = .ok s)
    (hend : s.endpoint.con.state.peerClosed = true ∨ s.endpoint.con.killArmed = true) :
    s.endpoint.con.pipeState ≠ .opened ∧ Happens Solo.step Solo.TakesFIN s₀ is := by
  have hstart' : Solo.Ended s₀.endpoint.con → s₀.endpoint.con.pipeState ≠ .opened := by
    obtain ⟨-, -, -, hkill, hstate⟩ := hstart.fresh
    rintro (hst | hk)
    · rcases hstate with hs | hs <;> simp [hs, TcpState.peerClosed] at hst
    · simp [hkill] at hk
  have heof : s.endpoint.con.pipeState ≠ .opened :=
    run_induction_of_meets Solo.step
      (P := fun s => Solo.Ended s.endpoint.con → s.endpoint.con.pipeState ≠ .opened)
      (fun _ _ _ h hcond hstep => Solo.ended_step hcond h hstep) hstart' horder hrun hend
  exact ⟨heof, (Solo.eof_iff_takesFIN hstart hrun).mp heof⟩

end

section

open scoped Reference

theorem fin_in_order_closeWait : ∃ s,
    run Solo.step newSolo (accept ++ arrive (signal { fin := true, seqNum := 1 })) = .ok s ∧
    s.endpoint.con.state = .closeWait ∧ s.endpoint.con.pipeState ≠ .opened ∧
    Happens Solo.step Solo.TakesFIN newSolo
      (accept ++ arrive (signal { fin := true, seqNum := 1 })) := by
  have hrun : (run Solo.step newSolo (accept ++ arrive (signal { fin := true, seqNum := 1 }))).map
      (·.endpoint.con.state) = .ok .closeWait := by decide +kernel
  obtain ⟨s, hs, hstate⟩ := map_eq_ok.mp hrun
  exact ⟨s, hs, hstate, fin_in_order (.server _ _ _) (by decide +kernel) hs
    (Or.inl (by rw [hstate]; rfl))⟩

/-- A data packet of the client is lost, and the FIN behind it arrives. -/
def lostDataRun : List Event :=
  [.sendToServer, .deliverToServer, .server .handlePacket, .server .handlePacket, .sendToClient,
    .deliverToClient, .client .handlePacket, .sendToServer, .deliverToServer,
    .server .handlePacket, .client (.writeData [1, 2, 3]), .client .sendBufferListener,
    .sendToServer, .dropToServer 0, .client .shutDown, .client .sendFIN, .sendToServer,
    .deliverToServer, .server .handlePacket]

theorem not_fin_in_order : ¬ ∀ (cfg : Config) (g : Globals) (evs : List Event) (n : Net)
    (v : Endpoint), Net.run cfg g evs = .ok n → n.server = some v →
    v.con.state.peerClosed = true → v.con.pipeState ≠ .opened := by
  intro h
  have hrun : (Net.run {} {} lostDataRun).map
      (fun n => n.server.map fun v => (v.con.state, v.con.pipeState)) =
      .ok (some (.closeWait, .opened)) := by decide +kernel
  obtain ⟨n, hn, heq⟩ := map_eq_ok.mp hrun
  obtain ⟨v, hv, heq⟩ := Option.map_eq_some_iff.mp heq
  obtain ⟨hstate, hpipe⟩ := Prod.mk.inj heq
  exact h {} {} lostDataRun n v hn hv (by rw [hstate]; rfl) hpipe

end

section

variable [HyLib]

/-! ## TIME_WAIT means that the own FIN is acknowledged -/

/-- A FIN waits for its acknowledgement. -/
def TcpController.FinQueued (c : TcpController) : Prop :=
  ∃ node ∈ c.sendWindow.pktsToAck, node.pkt.tcpHeader.fin = true

instance (c : TcpController) : Decidable c.FinQueued :=
  inferInstanceAs (Decidable (∃ node ∈ c.sendWindow.pktsToAck, node.pkt.tcpHeader.fin = true))

theorem TcpController.FinQueued.mono {c c' : TcpController} (h : c.FinQueued)
    (hsub : ∀ node ∈ c.sendWindow.pktsToAck, node.pkt.tcpHeader.fin = true →
      node ∈ c'.sendWindow.pktsToAck) : c'.FinQueued := by
  obtain ⟨node, hn, hfin⟩ := h
  exact ⟨node, hsub node hn hfin, hfin⟩

/-- Packets without a FIN flag at the end of the queue change nothing. -/
theorem TcpController.finQueued_append {c c' : TcpController} {new : List SendWindowNode}
    (hq : c'.sendWindow.pktsToAck = c.sendWindow.pktsToAck ++ new)
    (hnew : ∀ node ∈ new, node.pkt.tcpHeader.fin = false) : c'.FinQueued ↔ c.FinQueued := by
  constructor
  · refine fun h => h.mono fun node hn hfin => ?_
    rw [hq] at hn
    rcases List.mem_append.mp hn with hn | hn
    · exact hn
    · simp [hnew node hn] at hfin
  · refine fun h => h.mono fun node hn _ => ?_
    rw [hq]
    exact List.mem_append_left _ hn

/-- Handling a packet puts no FIN into the queue. -/
theorem TcpController.Outcome.finQueued {c c' : TcpController} {g : Globals} {pkt : Packet}
    (h : c.Outcome g c' pkt) (hq : c'.FinQueued) : c.FinQueued := by
  obtain ⟨kept, new, hqueue, hkept, hnew⟩ := h.queue_cases
  refine hq.mono fun node hn hfin => ?_
  rw [hqueue] at hn
  rcases List.mem_append.mp hn with hn | hn
  · exact hkept.subset hn
  · simp [(hnew node hn).1] at hfin

/-- FIN_WAIT_1 and the states behind it. -/
def TcpState.ownFin : TcpState → Bool
  | .finWait1 | .finWait2 | .closing | .timeWait => true
  | _ => false

namespace Solo

/-- An ACK that is handled in CLOSING while a FIN waits acknowledges everything: it moves the
send base, and no packet of the queue starts at its number. -/
def AckInClosing : Solo → Input → Prop :=
  OnPacket fun e pkt => pkt.kind = .ack → e.con.state = .closing → e.con.FinQueued →
    e.con.sendWindow.ackAdvances pkt.tcpHeader.ackNum = true ∧
      ∀ node ∈ e.con.sendWindow.pktsToAck, node.pkt.tcpHeader.seqNum ≠ pkt.tcpHeader.ackNum

instance (s : Solo) (i : Input) : Decidable (AckInClosing s i) :=
  inferInstanceAs (Decidable (OnPacket _ s i))

/-- No second FIN is registered once the first one is acknowledged. -/
def OneFin (s : Solo) (i : Input) : Prop :=
  i = .act .sendFIN → s.endpoint.finDue = true → s.endpoint.con.state ≠ .finWait2

instance (s : Solo) (i : Input) : Decidable (OneFin s i) :=
  inferInstanceAs (Decidable (_ → _ → ¬ _))

/-- The step handles an acknowledgement that takes the last FIN from the send window. -/
def AcksFIN (s : Solo) (i : Input) : Prop :=
  i = .act .handlePacket ∧ s.endpoint.con.FinQueued ∧ ∃ pkt rest res w g,
    s.endpoint.con.pktRecvBuffer = pkt :: rest ∧ pkt.kind = .ack ∧
    s.endpoint.con.sendWindow.newAckedPacket s.globals pkt.tcpHeader.ackNum = .ok (res, w, g) ∧
    ∀ node ∈ w.pktsToAck, node.pkt.tcpHeader.fin = false

/-- In FIN_WAIT_2 no FIN waits. -/
theorem finWait2_step {s s' : Solo} {i : Input} (hone : OneFin s i)
    (h : s.endpoint.con.state = .finWait2 → ¬ s.endpoint.con.FinQueued)
    (hstep : s.step i = .ok s') (hst' : s'.endpoint.con.state = .finWait2) :
    ¬ s'.endpoint.con.FinQueued := by
  cases step_moves hstep with
  | still i r p same =>
    rw [same] at hst' ⊢
    exact h hst'
  | act a ne quiet step =>
    have hst : s.endpoint.con.state = .finWait2 := by
      rcases quiet.state with hst | ⟨-, hst⟩ | ⟨-, hst⟩
      · rw [← hst, hst']
      · rw [hst] at hst'
        cases hst'
      · rw [hst] at hst'
        cases hst'
    rcases Endpoint.step_registers ne step with ⟨-, new, hq, hnew⟩ | ⟨rfl, hdue, -⟩
    · rw [TcpController.finQueued_append hq hnew]
      exact h hst
    · exact absurd hst (hone rfl hdue)
  | handle pkt rest head outcome handled =>
    have hback : s'.endpoint.con.FinQueued → s.endpoint.con.FinQueued := outcome.finQueued
    have hstayed : s.endpoint.con.state = .finWait2 → ¬ s'.endpoint.con.FinQueued :=
      fun hst hq => h hst (hback hq)
    cases outcome with
    | syn kind state =>
      rcases state with hst | hst
      · exact hstayed (hst.symm.trans hst')
      · rw [hst] at hst'
        cases hst'
    | synAck kind state =>
      rcases state with hst | ⟨-, hst⟩
      · exact hstayed (hst.symm.trans hst')
      · rw [hst] at hst'
        cases hst'
    | fin kind takes =>
      -- no branch of `HandleFIN` leads to FIN_WAIT_2, and none stays there
      exfalso
      rw [takes.state] at hst'
      rcases TcpController.handleFINState_cases { s.endpoint.con with pktRecvBuffer := rest } with
        ⟨-, hf⟩ | ⟨-, hf⟩ | ⟨-, hf⟩ | ⟨hne, hf⟩
      · rw [hf] at hst'
        cases hst'
      · rw [hf] at hst'
        cases hst'
      · rw [hf] at hst'
        cases hst'
      · rw [hf] at hst'
        exact hne.2.1 hst'
    | ack kind c₁ empty res w g' acked queue isEmpty state pipe kill pkts result =>
      have hwin := (c₁.handleACKState_same empty).2.2
      have hmove := c₁.handleACKState_cases empty
      rw [← result] at hwin hmove
      rw [state, hst'] at hmove
      simp only [reduceCtorEq, and_false, or_false, false_or] at hmove
      rcases hmove with ⟨-, ⟨hst, -⟩ | ⟨-, hempty, -⟩⟩
      · exact hstayed hst.symm
      · -- the window is empty
        have hnil : w.pktsToAck = [] := by
          rw [isEmpty] at hempty
          simpa using hempty
        rintro ⟨node, hn, -⟩
        rw [hwin, queue, hnil] at hn
        simp at hn
    | rst kind result =>
      rw [result] at hst'
      exact hstayed hst'
    | probe kind size state => exact hstayed (state.symm.trans hst')
    | data kind size takes => exact hstayed (takes.state.symm.trans hst')

/-- The own FIN leaves the window through an acknowledgement: a controller behind FIN_WAIT_1
without a FIN in its window was in such a state before, or the step acknowledges the FIN. -/
theorem acksFIN_step {s s' : Solo} {i : Input} (hstep : s.step i = .ok s')
    (h : s'.endpoint.con.state.ownFin = true ∧ ¬ s'.endpoint.con.FinQueued) :
    (s.endpoint.con.state.ownFin = true ∧ ¬ s.endpoint.con.FinQueued) ∨ s.AcksFIN i := by
  obtain ⟨hown, hno⟩ := h
  cases step_moves hstep with
  | still i r p same =>
    rw [same] at hown hno
    exact Or.inl ⟨hown, hno⟩
  | act a ne quiet step =>
    rcases Endpoint.step_registers ne step with ⟨hst, new, hq, hnew⟩ | ⟨-, -, node, hq, hfin⟩
    · rw [TcpController.finQueued_append hq hnew] at hno
      exact Or.inl ⟨hst ▸ hown, hno⟩
    · exact absurd ⟨node, by simp [hq], hfin⟩ hno
  | handle pkt rest head outcome handled =>
    have hsame : s'.endpoint.con.sendWindow = s.endpoint.con.sendWindow →
        ¬ s.endpoint.con.FinQueued :=
      fun hw hq => hno (hq.mono fun node hn _ => by rw [hw]; exact hn)
    cases outcome with
    | syn kind state pipe kill pkts queue =>
      rcases state with hst | hst
      · obtain ⟨new, hq, hnew⟩ := queue
        rw [hst] at hown
        rw [TcpController.finQueued_append hq fun node hn => (hnew node hn).1] at hno
        exact Or.inl ⟨hown, hno⟩
      · simp [hst, TcpState.ownFin] at hown
    | synAck kind state pipe kill pkts window =>
      rcases state with hst | ⟨-, hst⟩
      · rw [hst] at hown
        have hne : s.endpoint.con.state ≠ .synSent := by
          intro hs
          simp only at hown
          simp [hs, TcpState.ownFin] at hown
        exact Or.inl ⟨hown, hsame (window hne)⟩
      · simp [hst, TcpState.ownFin] at hown
    | fin kind takes =>
      rw [takes.state] at hown
      obtain ⟨st, k, hframe⟩ := TcpController.handleFINState_frame
        { s.endpoint.con with pktRecvBuffer := rest }
      have hw := takes.sendWindow
      rw [hframe] at hw
      refine Or.inl ⟨?_, hsame hw⟩
      rcases TcpController.handleFINState_cases { s.endpoint.con with pktRecvBuffer := rest } with
        ⟨-, hf⟩ | ⟨hst, -⟩ | ⟨hst, -⟩ | ⟨-, hf⟩
      · simp [hf, TcpState.ownFin] at hown
      · simp only at hst
        simp [hst, TcpState.ownFin]
      · simp only at hst
        simp [hst, TcpState.ownFin]
      · rw [hf] at hown
        exact hown
    | ack kind c₁ empty res w g' acked queue isEmpty state pipe kill pkts result =>
      have hwin := (c₁.handleACKState_same empty).2.2
      have hmove := c₁.handleACKState_cases empty
      rw [← result] at hwin hmove
      rw [state] at hmove
      simp only at hmove
      have hown₀ : s.endpoint.con.state.ownFin = true := by
        rcases hmove with ⟨-, ⟨hst, -⟩ | ⟨-, hst⟩ | ⟨hst, -, -⟩ | ⟨-, -, hst⟩⟩ | ⟨hst, -⟩
        · rw [← hst]
          exact hown
        · simp [hst, TcpState.ownFin] at hown
        · simp [hst, TcpState.ownFin]
        · simp [hst, TcpState.ownFin] at hown
        · simp [hst, TcpState.ownFin]
      by_cases hq : s.endpoint.con.FinQueued
      · refine Or.inr ⟨rfl, hq, pkt, rest, res, w, g', head, kind, acked, fun node hn => ?_⟩
        by_contra hfin
        exact hno ⟨node, by rw [hwin, queue]; exact hn, by simpa using hfin⟩
      · exact Or.inl ⟨hown₀, hq⟩
    | rst kind result =>
      rw [result] at hown hno
      exact Or.inl ⟨hown, hno⟩
    | probe kind size state pipe kill recv window =>
      exact Or.inl ⟨state ▸ hown, hsame window⟩
    | data kind size takes =>
      exact Or.inl ⟨takes.state ▸ hown, hsame takes.sendWindow⟩

/-- The step into TIME_WAIT. -/
theorem timeWait_step {s s' : Solo} {i : Input} (hack : AckInClosing s i)
    (h : s.endpoint.con.state = .finWait2 → ¬ s.endpoint.con.FinQueued)
    (hstep : s.step i = .ok s') (hbefore : s.endpoint.con.state ≠ .timeWait)
    (hafter : s'.endpoint.con.state = .timeWait) : ¬ s'.endpoint.con.FinQueued := by
  cases step_moves hstep with
  | still i r p same =>
    rw [same] at hafter
    exact absurd hafter hbefore
  | act a ne quiet step =>
    rcases quiet.state with hst | ⟨-, hst⟩ | ⟨-, hst⟩
    · exact absurd (hst.symm.trans hafter) hbefore
    · rw [hst] at hafter
      cases hafter
    · rw [hst] at hafter
      cases hafter
  | handle pkt rest head outcome handled =>
    have hback : s'.endpoint.con.FinQueued → s.endpoint.con.FinQueued := outcome.finQueued
    cases outcome with
    | syn kind state =>
      rcases state with hst | hst
      · exact absurd (hst.symm.trans hafter) hbefore
      · rw [hst] at hafter
        cases hafter
    | synAck kind state =>
      rcases state with hst | ⟨-, hst⟩
      · exact absurd (hst.symm.trans hafter) hbefore
      · rw [hst] at hafter
        cases hafter
    | fin kind takes =>
      rw [takes.state] at hafter
      rcases TcpController.handleFINState_cases { s.endpoint.con with pktRecvBuffer := rest } with
        ⟨-, hf⟩ | ⟨hst, hf⟩ | ⟨-, hf⟩ | ⟨-, hf⟩
      · rw [hf] at hafter
        cases hafter
      · -- from FIN_WAIT_2, where no FIN waits
        exact fun hq => h hst (hback hq)
      · rw [hf] at hafter
        cases hafter
      · rw [hf] at hafter
        exact absurd hafter hbefore
    | ack kind c₁ empty res w g' acked queue isEmpty state pipe kill pkts result =>
      have hwin := (c₁.handleACKState_same empty).2.2
      have hmove := c₁.handleACKState_cases empty
      rw [← result] at hwin hmove
      rw [state, hafter] at hmove
      have hclosing : s.endpoint.con.state = .closing := by
        simp only [reduceCtorEq, and_false, or_false] at hmove
        rcases hmove with ⟨-, hst, -⟩ | ⟨hst, -⟩
        · exact absurd hst.symm hbefore
        · exact hst
      by_cases hq : s.endpoint.con.FinQueued
      · -- the ACK that is handled in CLOSING acknowledges everything
        obtain ⟨hadv, hne⟩ := hack.head head kind hclosing hq
        have hnil := SendWindow.newAckedPacket_nil acked hadv hne
        rintro ⟨node, hn, -⟩
        rw [hwin, queue, hnil] at hn
        simp at hn
      · exact fun hq' => hq (hback hq')
    | rst kind result =>
      rw [result] at hafter
      exact absurd hafter hbefore
    | probe kind size state => exact absurd (state.symm.trans hafter) hbefore
    | data kind size takes => exact absurd (takes.state.symm.trans hafter) hbefore

end Solo

/-- **TIME_WAIT means that the own FIN is acknowledged.** If every ACK in CLOSING acknowledges
the whole window, and no second FIN is registered in FIN_WAIT_2, then the state becomes
TIME_WAIT only when an acknowledgement has taken the FIN from the send window. -/
theorem time_wait_acked {s₀ s s' : Solo} {is : List Input} {i : Input} (hstart : s₀.Start)
    (hack : Meets Solo.step Solo.AckInClosing s₀ (is ++ [i]))
    (hone : Meets Solo.step Solo.OneFin s₀ (is ++ [i])) (hrun : run Solo.step s₀ is = .ok s)
    (hstep : s.step i = .ok s') (hbefore : s.endpoint.con.state ≠ .timeWait)
    (hafter : s'.endpoint.con.state = .timeWait) :
    ¬ s'.endpoint.con.FinQueued ∧ Happens Solo.step Solo.AcksFIN s₀ (is ++ [i]) := by
  have hstate := hstart.fresh.2.2.2.2
  have hwait2 : s.endpoint.con.state = .finWait2 → ¬ s.endpoint.con.FinQueued :=
    run_induction_of_meets Solo.step
      (P := fun s => s.endpoint.con.state = .finWait2 → ¬ s.endpoint.con.FinQueued)
      (fun _ _ _ h hcond hstep => Solo.finWait2_step hcond h hstep)
      (by rcases hstate with hs | hs <;> simp [hs]) (hone.of_append _) hrun
  have hno := Solo.timeWait_step (hack.last _ hrun) hwait2 hstep hbefore hafter
  have hrun' : run Solo.step s₀ (is ++ [i]) = .ok s' := by
    rw [run_append, hrun]
    simp [run, hstep]
  refine ⟨hno, ?_⟩
  rcases happens_of_run Solo.step (fun _ _ _ => Solo.acksFIN_step) hrun'
      ⟨by rw [hafter]; rfl, hno⟩ with ⟨hown, -⟩ | hh
  · rcases hstate with hs | hs <;> simp [hs, TcpState.ownFin] at hown
  · exact hh

end

section

open scoped Reference

/-- The controller closes first, and the peer afterwards. -/
def activeClose : List Input :=
  accept ++ [.act .shutDown, .act .sendFIN] ++
    arrive (signal { ack := true, ackNum := 2, windowSize := 100 }) ++
    [.receive (signal { fin := true, seqNum := 1 })]

/-- Both close at the same time: the peer's FIN comes before the ACK of the own one. -/
def crossedClose : List Input :=
  accept ++ [.act .shutDown, .act .sendFIN] ++ arrive (signal { fin := true, seqNum := 1 }) ++
    [.receive (signal { ack := true, ackNum := 2, windowSize := 100 })]

/-- The run ends in the first state, and the next packet takes it to the second. -/
theorem exists_nextState (is : List Input) (st st' : TcpState)
    (h : (run Solo.step newSolo is).map
      (fun s => (s.endpoint.con.state, (s.step (.act .handlePacket)).map (·.endpoint.con.state))) =
      .ok (st, .ok st')) :
    ∃ s s', run Solo.step newSolo is = .ok s ∧ s.endpoint.con.state = st ∧
      s.step (.act .handlePacket) = .ok s' ∧ s'.endpoint.con.state = st' := by
  obtain ⟨s, hs, heq⟩ := map_eq_ok.mp h
  obtain ⟨hbefore, hnext⟩ := Prod.mk.inj heq
  obtain ⟨s', hs', hafter⟩ := map_eq_ok.mp hnext
  exact ⟨s, s', hs, hbefore, hs', hafter⟩

theorem time_wait_acked_activeClose :
    (∃ s s', run Solo.step newSolo activeClose = .ok s ∧ s.endpoint.con.state = .finWait2 ∧
      s.step (.act .handlePacket) = .ok s' ∧ s'.endpoint.con.state = .timeWait ∧
      ¬ s'.endpoint.con.FinQueued ∧
      Happens Solo.step Solo.AcksFIN newSolo (activeClose ++ [.act .handlePacket])) ∧
    ∃ s s', run Solo.step newSolo crossedClose = .ok s ∧ s.endpoint.con.state = .closing ∧
      s.step (.act .handlePacket) = .ok s' ∧ s'.endpoint.con.state = .timeWait ∧
      ¬ s'.endpoint.con.FinQueued ∧
      Happens Solo.step Solo.AcksFIN newSolo (crossedClose ++ [.act .handlePacket]) := by
  constructor
  · obtain ⟨s, s', hs, hbefore, hs', hafter⟩ := exists_nextState activeClose .finWait2
      .timeWait (by decide +kernel)
    exact ⟨s, s', hs, hbefore, hs', hafter, time_wait_acked (.server _ _ _) (by decide +kernel)
      (by decide +kernel) hs hs' (by simp [hbefore]) hafter⟩
  · obtain ⟨s, s', hs, hbefore, hs', hafter⟩ := exists_nextState crossedClose .closing
      .timeWait (by decide +kernel)
    exact ⟨s, s', hs, hbefore, hs', hafter, time_wait_acked (.server _ _ _) (by decide +kernel)
      (by decide +kernel) hs hs' (by simp [hbefore]) hafter⟩

/-- Both ends close while data of the client waits for its acknowledgement: the server's FIN
finds the client in FIN_WAIT_1, and the ACK of the data finds it in CLOSING. -/
def simultaneousClose : List Event :=
  [.sendToServer, .deliverToServer, .server .handlePacket, .server .handlePacket, .sendToClient,
    .deliverToClient, .client .handlePacket, .sendToServer, .deliverToServer,
    .server .handlePacket, .client (.writeData [1, 2, 3]), .client .sendBufferListener,
    .client .shutDown, .client .sendFIN, .server .shutDown, .server .sendFIN, .sendToClient,
    .deliverToClient, .deliverToClient, .client .handlePacket, .client .handlePacket, .sendToServer, .deliverToServer,
    .server .handlePacket, .sendToClient, .deliverToClient]

theorem not_time_wait_acked : ¬ ∀ (cfg : Config) (g : Globals) (evs : List Event) (n : Net)
    (n' : Net) (a : Action), Net.run cfg g evs = .ok n → n.step cfg (.client a) = .ok n' →
    n.client.con.state ≠ .timeWait → n'.client.con.state = .timeWait →
    ¬ n'.client.con.FinQueued := by
  intro h
  have hrun : (Net.run {} {} simultaneousClose).map
      (fun n => (n.client.con.state, (n.step {} (.client .handlePacket)).map fun n' =>
        (n'.client.con.state, decide n'.client.con.FinQueued))) =
      .ok (.closing, .ok (.timeWait, true)) := by decide +kernel
  obtain ⟨n, hn, heq⟩ := map_eq_ok.mp hrun
  obtain ⟨hbefore, hnext⟩ := Prod.mk.inj heq
  obtain ⟨n', hn', heq⟩ := map_eq_ok.mp hnext
  obtain ⟨hafter, hq⟩ := Prod.mk.inj heq
  exact h {} {} simultaneousClose n n' .handlePacket hn hn' (by simp [hbefore]) hafter
    (by simpa using hq)

end

end NetStack
