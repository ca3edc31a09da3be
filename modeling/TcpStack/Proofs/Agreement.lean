import TcpStack.Proofs.Handshake
import TcpStack.Proofs.Network

/-!
# TcpStack — agreement after the three-way handshake

The stages of `Phase` are kept by every step of the connection but one: a `SendFIN` task that
runs at the server before its controller has handled the SYN. `SendFIN` registers the FIN
first and looks at the state afterwards, so the FIN becomes the first packet of the server,
`HandleSYN` takes the non-empty send window for a repeated SYN, and the client gets a FIN
where it waits for a SYN-ACK.

* **`Net.Orderly`** — the condition that excludes this step.
* **`Net.phase_step`** / **`Net.phase_run`** — the stage along a run.
* **`Agreement`** — what the two ends agree on.
-/

namespace NetStack

open Transition

section

variable [HyLib]

/-! ## The stage does not depend on the queues -/

theorem Opening.requeue {e : Endpoint} {p : Packet} {fins : List Packet} (h : Opening e p fins)
    (r s : List Packet) : Opening (e.requeue r s) p fins :=
  h.congr rfl rfl rfl rfl h.tasks rfl

theorem Met.requeue {e : Endpoint} {first : Packet → Prop} (h : Met e first)
    (r s : List Packet) : Met (e.requeue r s) first :=
  ⟨h.head, h.zero, h.base⟩

theorem SynSent.requeue {c : Endpoint} {up : List Packet} (h : SynSent c up) (r s : List Packet) :
    SynSent (c.requeue r s) up := by
  obtain ⟨p, fins, hopen, hp⟩ := h.opening
  exact ⟨h.state, h.handled, ⟨p, fins, hopen.requeue r s, hp⟩, h.up⟩

theorem Fresh.requeue {v : Endpoint} (h : Fresh v) (r s : List Packet) : Fresh (v.requeue r s) :=
  ⟨h.state, h.shutdown, h.handled, h.window, h.capacity, h.tasks, h.recvWindow, h.unsent,
    h.sending⟩

theorem SynReceived.requeue {v : Endpoint} (h : SynReceived v) (r s : List Packet) :
    SynReceived (v.requeue r s) := by
  obtain ⟨q, fins, hopen, hq⟩ := h.opening
  exact ⟨h.state, h.met.requeue r s, q, fins, hopen.requeue r s, hq⟩

theorem Joined.requeue {e : Endpoint} {first : Packet → Prop} (h : Joined e first)
    (r s : List Packet) : Joined (e.requeue r s) first :=
  ⟨h.synSent, h.synRcvd, h.met.requeue r s, h.queue⟩

theorem Phase.requeue {c v : Endpoint} {up down : List Packet} (h : Phase c v up down)
    (r s r' s' : List Packet) : Phase (c.requeue r s) (v.requeue r' s') up down := by
  cases h with
  | listening client server hdown =>
    exact .listening (client.requeue r s) (server.requeue r' s') hdown
  | synRcvd client server hdown =>
    exact .synRcvd (client.requeue r s) (server.requeue r' s') hdown
  | half client base server hsyn horder hack hdown =>
    exact .half (client.requeue r s) base (server.requeue r' s') hsyn horder hack hdown
  | opened client server acked hup hdown =>
    exact .opened (client.requeue r s) (server.requeue r' s') acked hup hdown

/-! ## The stage along a run -/

namespace Net

variable {cfg : Config} {n n' : Net} {ev : Event}

/-- The step is not a `SendFIN` at a server that is still in CLOSED. -/
def Orderly (n : Net) (ev : Event) : Prop :=
  ev = .server .sendFIN → ∀ v, n.server = some v → v.finDue = true → v.con.state ≠ .closed

instance (n : Net) (ev : Event) : Decidable (Orderly n ev) :=
  match hs : n.server with
  | none => .isTrue fun _ v hv => by simp [hs] at hv
  | some v =>
    decidable_of_iff (ev = .server .sendFIN → v.finDue = true → v.con.state ≠ .closed)
      ⟨fun h hev w hw => by
        rw [hs] at hw
        cases hw
        exact h hev, fun h hev => h hev v hs⟩

/-- The stage of the handshake. -/
def Stage (cfg : Config) (n : Net) : Prop :=
  Phase n.client (n.peer cfg) (n.up cfg) (n.down cfg)

theorem stage_client {a : Action} {g : Globals} {c : Endpoint} (h : Stage cfg n)
    (hrun : n.client.step n.globals a = .ok (g, c)) :
    Stage cfg { n with globals := g, client := c } :=
  lift_client (P := fun c up down => Phase c (n.peer cfg) up down) h hrun
    (fun ha => h.client_step ha hrun) fun _ _ _ hbuf hrun h => h.client_handle hbuf hrun

theorem stage_server {a : Action} {g : Globals} {v v' : Endpoint} (h : Stage cfg n)
    (hv : n.server = some v) (hdue : a = .sendFIN → Fresh v → v.finDue = false)
    (hrun : v.step n.globals a = .ok (g, v')) :
    Stage cfg { n with globals := g, server := some v' } := by
  rw [Stage, peer_of_some hv] at h
  have hfin : a = .sendFIN → Fresh v → v.finTasks = 0 ∨ v.con.sendBuffer.empty = false := by
    intro hs hfresh
    have := hdue hs hfresh
    simp only [Endpoint.finDue, TcpController.sendFINWait, hfresh.shutdown, Bool.false_or,
      Bool.not_false, Bool.and_true, Bool.and_eq_false_iff, ne_eq, decide_not,
      Bool.not_eq_eq_eq_not, decide_eq_true_eq] at this
    exact this
  exact lift_server (P := fun v up down => Phase n.client v up down) hv h hrun
    (fun ha => h.server_step ha hfin hrun) fun _ _ _ hbuf hrun h => h.server_handle hbuf hrun

theorem stage_moves (h : Stage cfg n) (hm : Moves cfg n n') : Stage cfg n' := by
  obtain ⟨r, s, hc⟩ := hm.client
  obtain ⟨r', s', hp⟩ := hm.server
  have h' := (Phase.requeue h r s r' s').sublist hm.up hm.down
  rwa [← hc, ← hp] at h'

/-- The connection the server creates for a SYN is a fresh one, and the SYN is in flight once
more. -/
theorem stage_accepted {pkt : Packet} {rest : List Packet} (h : Stage cfg n)
    (hs : n.server = none) (hw : n.toServer = pkt :: rest) :
    Stage cfg { n with server := some (accepted cfg pkt), toServer := rest } := by
  have hup : n.up cfg = pkt :: (rest ++ n.client.con.pktSendBuffer) := by
    simp [Net.up, flight, peer, hs, hw, newServer, TcpController.new]
  have hhandled : (n.peer cfg).handled = [] := by simp [peer, hs]
  -- only a server that has handled nothing can be missing
  cases h with
  | listening client server hdown =>
    have hpkt := client.up pkt (by simp [hup])
    have hcopy : pkt.copy.IsSyn :=
      ⟨by rw [Packet.copy_kind, hpkt.1], by rw [Packet.copy_tcpHeader, hpkt.2.1], by
        rw [Packet.copy_payloadSize, hpkt.2.2]⟩
    refine .listening ⟨client.state, client.handled, client.opening, ?_⟩ ?_ ?_
    · intro q hq
      have hq' : q = pkt.copy ∨ q ∈ n.up cfg := by
        rw [hup]
        simpa [Net.up, peer, flight, accepted, TcpController.receiveNewPacket, newServer,
          TcpController.new] using hq
      rcases hq' with rfl | hq'
      · exact hcopy
      · exact client.up q hq'
    · exact ⟨rfl, rfl, rfl, .fresh _, show kDefaultWindowSize ≠ 0 by decide, le_rfl,
        ⟨hpkt.2.1, rfl⟩, RingBuffer.bytes_new _, rfl⟩
    · have : n.down cfg = n.client.con.pktRecvBuffer ++ n.toClient := by
        simp [Net.down, peer, hs, flight, newServer, TcpController.new]
      rw [this] at hdown
      simpa [Net.down, peer, flight, accepted, TcpController.receiveNewPacket, newServer,
        TcpController.new] using hdown
  | synRcvd _ server _ => exact absurd hhandled server.met.handled_ne
  | half _ _ server _ _ _ _ => exact absurd hhandled server.met.handled_ne
  | opened _ server _ _ _ => exact absurd hhandled server.met.handled_ne

/-- **One step keeps the stage, or moves to the next.** -/
theorem stage_step (h : Stage cfg n) (hord : Orderly n ev) (hstep : step cfg n ev = .ok n') :
    Stage cfg n' := by
  rcases step_cases hstep with ⟨a, g, c, rfl, hrun, rfl⟩ | ⟨a, v, g, v', rfl, hv, hrun, rfl⟩ |
    hm | ⟨pkt, rest, hs, hw, -, rfl⟩
  · exact stage_client h hrun
  · refine stage_server h hv (fun ha hfresh => ?_) hrun
    by_contra hdue
    exact hord (by rw [ha]) v hv (by simpa using hdue) hfresh.state
  · exact stage_moves h hm
  · exact stage_accepted h hs hw

theorem connecting_opening (cfg : Config) (clock : ℕ) :
    Opening (connecting cfg clock) (clientSyn cfg) [] where
  window := (SendWindow.Holds.fresh kDefaultWindowSize).enqueue clock (clientSyn cfg)
  history := History.nil.concat ((newClient cfg).makeSyncPacket_regular 0) rfl (fun _ => rfl)
    (fun _ _ hq => by cases hq)
  sync := rfl
  closing := by simp
  tasks := le_rfl
  capacity := show kDefaultWindowSize ≠ 0 by decide
  sending := rfl

theorem stage_init (cfg : Config) (g : Globals) :
    Stage cfg { globals := g, client := connecting cfg g.clock } := by
  have hsyn : (clientSyn cfg).IsSyn := ⟨rfl, rfl, rfl⟩
  refine .listening ⟨rfl, rfl, ⟨_, _, connecting_opening cfg g.clock, hsyn⟩, ?_⟩
    ⟨rfl, rfl, rfl, .fresh _, show kDefaultWindowSize ≠ 0 by decide, le_rfl, ⟨rfl, rfl⟩,
      RingBuffer.bytes_new _, rfl⟩
    rfl
  intro q hq
  have : q = clientSyn cfg := by
    simpa [Net.up, flight, peer, newServer, TcpController.new, connecting] using hq
  rw [this]
  exact hsyn

/-- **The stage along a run.** -/
theorem stage_run {g : Globals} {evs : List Event} {n₀ : Net} (h₀ : init cfg g = .ok n₀)
    (hm : Meets (step cfg) Orderly n₀ evs) (hrun : Transition.run (step cfg) n₀ evs = .ok n) :
    Stage cfg n := by
  rw [init_eq] at h₀
  cases h₀
  exact run_induction_of_meets (step cfg) (fun _ _ _ => stage_step) (stage_init cfg g) hm hrun

end Net

/-! ## What the two ends agree on -/

/-- The server is in ESTABLISHED or in a state reached from it. CLOSED is reached through
`CloseAndDelete` only. -/
def Endpoint.pastHandshake (v : Endpoint) : Prop :=
  v.con.state ≠ .synRcvd ∧ (v.con.state = .closed → v.con.shutdown = true)

/-- No SYN is left in the send window. -/
def Endpoint.synRemoved (e : Endpoint) : Prop :=
  ∀ node ∈ e.con.sendWindow.pktsToAck, node.pkt.tcpHeader.sync = false

/-- **What the handshake establishes** between a client `c` and a server `v`. -/
structure Agreement (c v : Endpoint) : Prop where
  /-- The client leaves SYN_SENT with the first packet it handles. -/
  waits : c.con.state = .synSent ↔ c.handled = []
  /-- That packet is a SYN-ACK. -/
  left : ∀ q l, c.handled = q :: l → q.kind = .synAck
  connected : v.pastHandshake → c.con.state ≠ .synSent
  removed : v.pastHandshake → c.synRemoved ∧ v.synRemoved
  /-- The receive base before the first data or FIN packet. -/
  serverBase : ∀ s ∈ v.handled, s.kind = .syn → (∀ p ∈ v.handled, ¬ p.Delivered) →
    v.con.recvWindow.recvBase = s.tcpHeader.seqNum + 1
  clientBase : ∀ s ∈ c.handled, s.kind = .synAck → (∀ p ∈ c.handled, ¬ p.Delivered) →
    c.con.recvWindow.recvBase = s.tcpHeader.seqNum + 1
  /-- Data is registered behind the acknowledgement of the own SYN. -/
  clientData : ∀ node ∈ c.con.sendWindow.pktsToAck, node.pkt.kind = .data →
    c.synRemoved ∧ ∃ q ∈ c.handled, q.kind = .synAck
  serverData : ∀ node ∈ v.con.sendWindow.pktsToAck, node.pkt.kind = .data →
    v.synRemoved ∧ ∃ q ∈ v.handled, q.kind = .ack
  /-- What the client's receive window gets comes after a SYN-ACK. -/
  order : ∀ l₁ p l₂, c.handled = l₁ ++ p :: l₂ → p.Delivered → ∃ s ∈ l₁, s.kind = .synAck

section Conclusions

variable {c v : Endpoint} {up down : List Packet}

/-- While an end opens, its queue is its SYN and FINs. -/
theorem Opening.not_data {e : Endpoint} {p : Packet} {fins : List Packet} (h : Opening e p fins) :
    ∀ node ∈ e.con.sendWindow.pktsToAck, node.pkt.kind ≠ .data := by
  intro node hnode hdata
  have hmem : node.pkt ∈ p :: fins := by
    have := h.window.queue
    rw [List.drop_zero] at this
    exact this ▸ List.mem_map_of_mem hnode
  have hsync := Packet.not_sync_of_kind (p := node.pkt) (by simp [hdata]) (by simp [hdata])
  rcases List.mem_cons.mp hmem with hp | hf
  · simp [hp, h.sync] at hsync
  · have hfin := h.closing _ hf
    simp [Packet.kind, hsync, hfin] at hdata

theorem Joined.synRemoved {e : Endpoint} {first : Packet → Prop} (h : Joined e first) :
    e.synRemoved := fun node hn => (h.queue node hn).sync

/-- The receive base as `Met` describes it. -/
theorem Met.recvBase {e : Endpoint} {first : Packet → Prop} (h : Met e first) {s : Packet}
    (hs : s ∈ e.handled) (hsync : s.tcpHeader.sync = true)
    (hno : ∀ p ∈ e.handled, ¬ p.Delivered) :
    e.con.recvWindow.recvBase = s.tcpHeader.seqNum + 1 := by
  rw [h.base hno, h.zero s hs hsync]
  rfl

/-- Behind the first packet a client handled there is a SYN-ACK in front of everything. -/
theorem Met.order (h : Met c Packet.IsSynAck) {l₁ l₂ : List Packet} {p : Packet}
    (hl : c.handled = l₁ ++ p :: l₂) (hp : p.Delivered) : ∃ s ∈ l₁, s.kind = .synAck := by
  obtain ⟨q, l, hq, hsa⟩ := h.head
  rw [hq] at hl
  cases l₁ with
  | nil =>
    -- the first packet is a SYN-ACK, it is not delivered
    cases hl
    simp [Packet.Delivered, hsa.1] at hp
  | cons r l₁ =>
    cases hl
    exact ⟨q, by simp, hsa.1⟩

theorem SynSent.agreement (hc : SynSent c up) (hpast : ¬ v.pastHandshake)
    (hbase : ∀ s ∈ v.handled, s.kind = .syn → (∀ p ∈ v.handled, ¬ p.Delivered) →
      v.con.recvWindow.recvBase = s.tcpHeader.seqNum + 1)
    (hdata : ∀ node ∈ v.con.sendWindow.pktsToAck, node.pkt.kind ≠ .data) : Agreement c v where
  waits := by simp [hc.state, hc.handled]
  left := by simp [hc.handled]
  connected := fun h => absurd h hpast
  removed := fun h => absurd h hpast
  serverBase := hbase
  clientBase := by simp [hc.handled]
  clientData := fun node hn hk => by
    obtain ⟨p, fins, hopen, -⟩ := hc.opening
    exact absurd hk (hopen.not_data node hn)
  serverData := fun node hn hk => absurd hk (hdata node hn)
  order := by simp [hc.handled]

theorem Joined.agreement (hc : Joined c Packet.IsSynAck) (hv : Met v Packet.IsSyn)
    (hremoved : v.pastHandshake → v.synRemoved)
    (hdata : ∀ node ∈ v.con.sendWindow.pktsToAck, node.pkt.kind = .data →
      v.synRemoved ∧ ∃ q ∈ v.handled, q.kind = .ack) : Agreement c v := by
  obtain ⟨q, l, hq, hsa⟩ := hc.met.head
  exact {
    waits := by simp [hc.synSent, hq]
    left := fun q' l' hl => by
      rw [hq] at hl
      cases hl
      exact hsa.1
    connected := fun _ => hc.synSent
    removed := fun h => ⟨hc.synRemoved, hremoved h⟩
    serverBase := fun s hs hk hno => hv.recvBase hs (Packet.sync_of_kind_syn hk) hno
    clientBase := fun s hs hk hno => hc.met.recvBase hs (Packet.sync_of_kind_synAck hk).1 hno
    clientData := fun _ _ _ => ⟨hc.synRemoved, q, by simp [hq], hsa.1⟩
    serverData := hdata
    order := fun l₁ p l₂ hl hp => hc.met.order hl hp }

theorem SynReceived.not_past (h : SynReceived v) : ¬ v.pastHandshake := fun hp => hp.1 h.state

theorem SynReceived.not_data (h : SynReceived v) :
    ∀ node ∈ v.con.sendWindow.pktsToAck, node.pkt.kind ≠ .data := by
  obtain ⟨q, fins, hopen, -⟩ := h.opening
  exact hopen.not_data

/-- Every stage is one of agreement. -/
theorem Phase.agreement (h : Phase c v up down) : Agreement c v := by
  cases h with
  | listening client server hdown =>
    refine client.agreement (fun hp => ?_) (by simp [server.handled]) ?_
    · exact absurd (hp.2 server.state) (by simp [server.shutdown])
    · have hq := server.window.queue
      simp only [List.drop_nil, List.map_eq_nil_iff] at hq
      simp [hq]
  | synRcvd client server hdown =>
    exact client.agreement server.not_past
      (fun s hs hk hno => server.met.recvBase hs (Packet.sync_of_kind_syn hk) hno) server.not_data
  | half client base server hsyn horder hack hdown =>
    exact client.agreement server.met (fun hp => absurd hp server.not_past)
      fun node hn hk => absurd hk (server.not_data node hn)
  | opened client server acked hup hdown =>
    exact client.agreement server.met (fun _ => server.synRemoved)
      fun _ _ _ => ⟨server.synRemoved, acked⟩

end Conclusions

/-- **Handshake agreement.** In every run without a `SendFIN` at a server in CLOSED, the two
ends agree in every state. -/
theorem handshake_agreement {cfg : Config} {g : Globals} {n₀ n : Net} {evs : List Event}
    (h₀ : Net.init cfg g = .ok n₀) (hord : Meets (Net.step cfg) Net.Orderly n₀ evs)
    (hrun : Transition.run (Net.step cfg) n₀ evs = .ok n) {v : Endpoint}
    (hv : n.server = some v) : Agreement n.client v := by
  have hstage := Net.stage_run h₀ hord hrun
  rw [Net.Stage, Net.peer_of_some hv] at hstage
  exact hstage.agreement

end

section

open scoped Reference

/-- A handshake without losses, after which the server shuts down. -/
def handshakeRun : List Event :=
  [.sendToServer, .deliverToServer, .server .handlePacket, .server .handlePacket, .sendToClient,
    .deliverToClient, .client .handlePacket, .sendToServer, .deliverToServer,
    .server .handlePacket, .server .shutDown, .server .sendFIN]

theorem handshake_agreement_finWait1 : ∃ n v, Net.run {} {} handshakeRun = .ok n ∧
    n.server = some v ∧ v.con.state = .finWait1 ∧ Agreement n.client v := by
  obtain ⟨n₀, h₀, hord⟩ : ∃ n₀, Net.init {} {} = .ok n₀ ∧
      Meets (Net.step {}) Net.Orderly n₀ handshakeRun :=
    ⟨_, Net.init_eq {} {}, by decide +kernel⟩
  have hrun : (Transition.run (Net.step {}) n₀ handshakeRun).map
      (fun n => n.server.map (·.con.state)) = .ok (some .finWait1) := by
    rw [Net.init_eq] at h₀
    cases h₀
    decide +kernel
  obtain ⟨n, hn, hstate⟩ := map_eq_ok.mp hrun
  obtain ⟨v, hv, hst⟩ := Option.map_eq_some_iff.mp hstate
  exact ⟨n, v, by rw [Net.run, h₀, ok_bind, hn], hv, hst, handshake_agreement h₀ hord hn hv⟩

/-- The server shuts down before its controller has handled the SYN. -/
def earlyFinRun : List Event :=
  [.sendToServer, .deliverToServer, .server .shutDown, .server .sendFIN, .server .handlePacket,
    .sendToClient, .deliverToClient, .client .handlePacket]

theorem not_handshake_agreement : ¬ ∀ (cfg : Config) (g : Globals) (evs : List Event) (n : Net)
    (v : Endpoint), Net.run cfg g evs = .ok n → n.server = some v → Agreement n.client v := by
  intro h
  have hrun : (Net.run {} {} earlyFinRun).map
      (fun n => (n.client.handled.map (·.kind), n.server.isSome)) = .ok ([.fin], true) := by
    decide +kernel
  obtain ⟨n, hn, heq⟩ := map_eq_ok.mp hrun
  obtain ⟨hkinds, hsome⟩ := Prod.ext_iff.mp heq
  obtain ⟨v, hv⟩ := Option.isSome_iff_exists.mp hsome
  obtain ⟨q, l, hl, hq, -⟩ := List.map_eq_cons_iff.mp hkinds
  -- nothing is in front of the FIN
  obtain ⟨s, hs, -⟩ := (h {} {} earlyFinRun n v hn hv).order [] q l hl (Or.inl hq)
  simp at hs

end

end NetStack
