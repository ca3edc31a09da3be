import TcpStack.Proofs.Progress

/-!
# TcpStack — from any state of a run

The timers complete the handshake first: the client's SYN is repeated until the server has seen it,
and the server's SYN-ACK until the server has its acknowledgement. From then on both directions
make progress.

* **`Pair.Sound.greet`**, **`Pair.Sound.confirm`** — the two halves of the handshake.
* **`Net.never_stuck`** — everything that was written can be read, whatever happened before.
-/

namespace NetStack

open Tiling Transition

section

variable [HyLib]

/-- **A SYN-ACK is answered with an acknowledgement**, in every state. -/
theorem TcpController.handleACKSYN_answers {c c' : TcpController} {g g' : Globals} {pkt : Packet}
    (hkind : pkt.kind = .synAck) (h : c.handlePacket g pkt = .ok (g', c')) :
    ∃ l q, c'.pktSendBuffer = l ++ [q] ∧ q.kind = .ack := by
  simp only [handlePacket, hkind] at h
  unfold handleACKSYN at h
  by_cases hst : c.state = .synSent
  · rw [if_pos hst] at h
    obtain ⟨⟨g₁, c₁⟩, -, h⟩ := bind_eq_ok.mp h
    cases h
    exact ⟨_, _, rfl, makeAckPacket_kind _ _⟩
  · rw [if_neg hst] at h
    cases h
    exact ⟨_, _, rfl, makeAckPacket_kind _ _⟩

namespace Pair

variable {cfg : Config} {b : Bool} {p p' : Pair} {pkt : Packet} {rest : List Packet}

/-- What an end handles is recorded. -/
theorem Sound.take (h : Sound cfg b p) (hbuf : p.near.con.pktRecvBuffer = pkt :: rest) :
    ∃ p', Leads cfg b p p' ∧ p'.near.handled = p.near.handled ++ [pkt] ∧
      ∃ g' c, ({ p.near.con with pktRecvBuffer := rest } : TcpController).handlePacket p.globals pkt
        = .ok (g', c) ∧ p'.near.con = c := by
  obtain ⟨g', e', hrun, -, hleads⟩ := h.handle hbuf
  obtain ⟨c, hc, rfl⟩ := Endpoint.handleNext_cons hbuf hrun
  exact ⟨_, hleads, rfl, g', c, hc, rfl⟩

/-- **The SYN reaches the server.** -/
theorem Sound.greet (h : Sound cfg true p) : ∃ p', Leads cfg true p p' ∧ p'.far.handled ≠ [] := by
  cases h.phase with
  | listening client _ _ =>
    obtain ⟨syn, fins, hopen, -⟩ := client.opening
    obtain ⟨node, nodes, hq, -⟩ := hopen.queue
    obtain ⟨p₁, hp₁, hbuf⟩ := h.resend hq
    obtain ⟨p₂, hp₂, hhandled, -⟩ := (hp₁.sound h).swap.take hbuf
    refine ⟨p₂.swap, hp₁.trans hp₂.swap, ?_⟩
    show p₂.near.handled ≠ []
    simp [hhandled]
  | synRcvd _ server _ => exact ⟨p, .refl cfg true p, server.met.handled_ne⟩
  | half _ _ server _ _ _ _ => exact ⟨p, .refl cfg true p, server.met.handled_ne⟩
  | opened _ server _ _ _ => exact ⟨p, .refl cfg true p, server.met.handled_ne⟩

/-- A server in SYN_RCVD keeps its SYN-ACK until it is acknowledged. -/
theorem Sound.synReceived (h : Sound cfg true p) (hst : p.far.con.state = .synRcvd) :
    SynReceived p.far := by
  cases h.phase with
  | listening _ server _ => simp [server.state] at hst
  | synRcvd _ server _ => exact server
  | half _ _ server _ _ _ _ => exact server
  | opened _ server _ _ _ => exact absurd hst server.synRcvd


/-- Both ends have begun the handshake once the server has handled a packet. -/
theorem Sound.begun (h : Sound cfg true p) (hne : p.far.handled ≠ []) :
    p.near.Begun ∧ p.far.Begun := by
  obtain ⟨hc, hv⟩ := h.intact.begun h.near_open h.far_open
  rcases hv with hv | ⟨-, hnil⟩
  · exact ⟨hc, hv⟩
  · exact absurd hnil hne

/-- **The SYN-ACK is acknowledged.** -/
theorem Sound.confirm (h : Sound cfg true p) (hne : p.far.handled ≠ []) :
    ∃ p', Leads cfg true p p' ∧ p'.far.con.state ≠ .synRcvd := by
  by_cases hst : p.far.con.state = .synRcvd
  · -- the SYN-ACK is repeated
    obtain ⟨synAck, fins, hopen, hsynAck⟩ := (h.synReceived hst).opening
    obtain ⟨node, nodes, hq, rfl, -⟩ := hopen.queue
    obtain ⟨p₁, hp₁, hbuf₁⟩ := h.swap.resend hq
    -- the client answers it
    obtain ⟨p₂, hp₂, -, _, c, hc, hcon⟩ := (hp₁.sound h.swap).swap.take hbuf₁
    obtain ⟨l, ack, hsend, hack⟩ := TcpController.handleACKSYN_answers hsynAck.1 hc
    have hto : Leads cfg true p p₂ := hp₁.swap.trans hp₂
    -- the answer comes back
    obtain ⟨p₃, hp₃, hbuf₃⟩ := (hto.sound h).bring ((congrArg _ hcon).trans hsend)
    have hto₃ := hto.trans hp₃
    have h₃ := hto₃.sound h
    obtain ⟨-, hbegun⟩ := h₃.begun (hto₃.far.handled.ne_nil hne)
    obtain ⟨p₄, hp₄, -, _, c', hc', hcon'⟩ := h₃.swap.take hbuf₃
    refine ⟨p₄.swap, hto₃.trans hp₄.swap, ?_⟩
    show p₄.near.con.state ≠ .synRcvd
    rw [hcon']
    exact (Endpoint.handlePacket_begun hc' (by simp [hack]) hbegun).2.2 hack
  · exact ⟨p, .refl cfg true p, hst⟩

/-- **The handshake can be completed.** -/
theorem Sound.connect (h : Sound cfg true p) : ∃ p', Leads cfg true p p' ∧
    p'.near.con.state = .established ∧ p'.far.con.state = .established := by
  obtain ⟨p₁, hp₁, hne⟩ := h.greet
  obtain ⟨p₂, hp₂, hst⟩ := (hp₁.sound h).confirm hne
  have hto := hp₁.trans hp₂
  have h₂ := hto.sound h
  have hne₂ := hp₂.far.handled.ne_nil hne
  obtain ⟨hc, hv⟩ := h₂.begun hne₂
  refine ⟨p₂, hto, ?_⟩
  cases h₂.phase with
  | listening _ server _ => exact absurd server.handled hne₂
  | synRcvd _ server _ => exact absurd server.state hst
  | half _ _ server _ _ _ _ => exact absurd server.state hst
  | opened client server _ _ _ =>
    rcases hc with hc | hc | hc
    · exact absurd hc client.synSent
    · exact absurd hc client.synRcvd
    · rcases hv with hv | hv | hv
      · exact absurd hv server.synSent
      · exact absurd hv server.synRcvd
      · exact ⟨hc, hv⟩

end Pair

end

namespace Net

section

variable [HyLib] {cfg : Config} {g : Globals} {evs : List Event} {n : Net}

/-- **The server comes to know of the connection.** The client's SYN is sent again, and the first
packet the network delivers creates the server's controller. -/
theorem arrives (hrun : run cfg g evs = .ok n) (hfit : n.Fits cfg) (hopen : n.client.Open)
    (hs : n.server = none) : ∃ p : Pair, ReachesBy (step cfg) Serves n (p.net true) ∧
      p.near.written = n.client.written ∧ p.near.Open ∧ p.far.written = [] ∧ p.far.Open := by
  have hintact := intact_run hrun hfit
  have hpeer : n.peer cfg = { con := newServer cfg {} 0 } := by rw [peer, hs, Option.getD_none]
  have hstage := hintact.stage (by rw [hpeer]; exact ⟨rfl, rfl⟩)
  rw [Stage, hpeer] at hstage
  -- a server that has handled nothing is still missing
  cases hstage with
  | listening client _ _ =>
    obtain ⟨syn, fins, hopening, hsyn⟩ := client.opening
    obtain ⟨node, nodes, hq, rfl, -⟩ := hopening.queue
    obtain ⟨s₁, s₂, hgood⟩ := good_run hrun hfit
    obtain ⟨hout, -⟩ := hgood.linked.timeout_emits hq
    have htimer : n.client.con.timer.isStarted := (hintact.client hopen).timer (by simp [hq])
    -- everything on the way to the server is the SYN
    have hup : ∀ q ∈ n.toServer ++ (n.client.con.pktSendBuffer ++ [node.pkt]), q.IsSyn := by
      intro q hq
      simp only [List.mem_append, List.mem_singleton] at hq
      rcases hq with hq | hq | rfl
      · exact client.up q (by simp [up, flight, hq])
      · exact client.up q (by simp [up, flight, hq])
      · exact hsyn
    obtain ⟨pkt, rest, hcons⟩ := List.exists_cons_of_ne_nil
      (l := n.toServer ++ (n.client.con.pktSendBuffer ++ [node.pkt])) (by simp)
    have hsync := Packet.sync_of_kind_syn (hup pkt (by simp [hcons])).1
    set c : Endpoint := { n.client with con := n.client.con.timeoutReTransmitter } with hc
    have hresend : ReachesBy (step cfg) Serves n { n with client := c } :=
      .single (e := .client .timeoutReTransmitter) htimer rfl
    have hsend : ReachesBy (step cfg) Serves { n with client := c } { n with
        client := c.requeue c.con.pktRecvBuffer []
        toServer := n.toServer ++ c.con.pktSendBuffer } :=
      .single (e := .sendToServer) trivial rfl
    refine ⟨⟨n.globals, c.requeue c.con.pktRecvBuffer [], accepted cfg pkt, rest, n.toClient⟩,
      (hresend.trans hsend).trans (.single (e := .deliverToServer) trivial ?_), rfl, hopen, rfl,
      rfl, rfl⟩
    rw [hout.symm] at hcons
    simp only [step, hc, hcons, hs, demultiplexToServer, hsync, if_true]
    rfl
  | synRcvd _ server _ => exact absurd rfl server.met.handled_ne
  | half _ _ server _ _ _ _ => exact absurd rfl server.met.handled_ne
  | opened _ server _ _ _ => exact absurd rfl server.met.handled_ne

/-- The connection as a pair, once the server knows of it. -/
theorem known (hrun : run cfg g evs = .ok n) (hfit : n.Fits cfg) (hopen : n.client.Open)
    (hopen' : (n.peer cfg).Open) : ∃ p : Pair, ReachesBy (step cfg) Serves n (p.net true) ∧
      p.near.written = n.client.written ∧ p.near.Open ∧ p.far.written = (n.peer cfg).written ∧
      p.far.Open := by
  cases hs : n.server with
  | none =>
    obtain ⟨p, hp, hw, ho, hw', ho'⟩ := arrives hrun hfit hopen hs
    rw [peer, hs]
    exact ⟨p, hp, hw, ho, hw', ho'⟩
  | some v =>
    have hpeer : n.peer cfg = v := peer_of_some hs
    have hsame : ({ n with server := some v } : Net) = n := by rw [← hs]
    rw [hpeer] at hopen' ⊢
    refine ⟨⟨n.globals, n.client, v, n.toServer, n.toClient⟩, ?_, rfl, hopen, rfl, hopen'⟩
    show ReachesBy (step cfg) Serves n { n with server := some v }
    rw [hsame]

/-- **The connection is never stuck.** From every state that a run reaches, whatever was lost and
whatever waits, the stack can bring everything that was written to the reader at the other end,
as long as the applications do not close. -/
theorem never_stuck (hrun : run cfg g evs = .ok n)
    (hroom : 0 < cfg.clientRecvBuffer ∧ 0 < cfg.serverRecvBuffer)
    (hopen : n.client.Open ∧ (n.peer cfg).Open)
    (hsmall : n.client.written.length < 2 ^ 32 - 3 ∧ (n.peer cfg).written.length < 2 ^ 32 - 3) :
    ∃ evs' n', Meets (step cfg) Serves n evs' ∧ Transition.run (step cfg) n evs' = .ok n' ∧
      n'.client.written = n.client.written ∧ (n'.peer cfg).written = (n.peer cfg).written ∧
      n'.client.readOut = (n.peer cfg).written ∧ (n'.peer cfg).readOut = n.client.written := by
  have hfit : n.Fits cfg := by
    obtain ⟨hc, hv⟩ := hsmall
    refine ⟨?_, ?_⟩
    · rw [Endpoint.carried]
      omega
    · rw [Endpoint.carried]
      omega
  obtain ⟨p, hp, hw, ho, hw', ho'⟩ := known hrun hfit hopen.1 hopen.2
  have h : Pair.Sound cfg true p :=
    ⟨run_reaches hrun hp, ho, ho', hw ▸ hsmall.1, hw' ▸ hsmall.2⟩
  -- the handshake, and then the bytes
  obtain ⟨p₁, hp₁, hst, hst'⟩ := h.connect
  obtain ⟨p₂, hp₂, hread, hread'⟩ := (hp₁.sound h).deliver_both hst hst' hroom
  have hleads := hp₁.trans hp₂
  obtain ⟨evs', hmeets, hrun'⟩ := hp.trans hleads.goes
  have hnear := hleads.near.written.trans hw
  have hfar := hleads.far.written.trans hw'
  exact ⟨evs', p₂.net true, hmeets, hrun', hnear, hfar, hread'.trans hfar, hread.trans hnear⟩

end

section

open scoped Reference

/-- The server's buffer of five bytes is full, and the acknowledgements that say so are lost. -/
def stalledRun : List Event :=
  smallBufferRun ++ [.server (.writeData [9, 10]), .sendToClient, .dropToClient 0, .dropToClient 0]

theorem never_stuck_stalled : ∃ n, run smallBuffer {} stalledRun = .ok n ∧
    (n.peer smallBuffer).readOut = [] ∧ ∃ evs' n', Meets (step smallBuffer) Serves n evs' ∧
      Transition.run (step smallBuffer) n evs' = .ok n' ∧ n'.client.readOut = [9, 10] ∧
      (n'.peer smallBuffer).readOut = [1, 2, 3, 4, 5, 6, 7, 8] := by
  have hrun : (run smallBuffer {} stalledRun).map (fun n =>
      ((n.client.shutDown, n.client.closed, n.client.written), (n.peer smallBuffer).shutDown,
        (n.peer smallBuffer).closed, (n.peer smallBuffer).written, (n.peer smallBuffer).readOut))
      = .ok ((false, false, [1, 2, 3, 4, 5, 6, 7, 8]), false, false, [9, 10], []) := by
    decide +kernel
  obtain ⟨n, hn, heq⟩ := map_eq_ok.mp hrun
  simp only [Prod.mk.injEq] at heq
  obtain ⟨⟨hs, hc, hw⟩, hs', hc', hw', hr⟩ := heq
  obtain ⟨evs', n', hmeets, hrun', -, -, hread, hread'⟩ := never_stuck hn (by decide)
    ⟨⟨hs, hc⟩, hs', hc'⟩ (by simp [hw, hw'])
  exact ⟨n, hn, hr, evs', n', hmeets, hrun', hread.trans hw', hread'.trans hw⟩

end

end Net

end NetStack
