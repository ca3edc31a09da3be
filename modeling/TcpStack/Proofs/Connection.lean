import TcpStack.Proofs.Agreement
import TcpStack.Proofs.Handling

/-!
# TcpStack — the invariant of the connection

Every reachable state of the connection is linked to two sliding windows, as long as neither
direction runs out of sequence numbers. The stage of the handshake tells what the handlers of
SYN and SYN-ACK need to know (`Ready`); the one step that leaves the stages, a `SendFIN` at a
server in CLOSED, leads to a connection that never opens (`Refused`).

* **`Good`** — the invariant.
* **`Net.good_step`** / **`Net.good_run`** — it holds along every run.
-/

namespace NetStack

open Tiling Transition SlidingWindow

variable [HyLib]

/-! ## A connection that is refused -/

/-- The server registered a FIN before it handled the SYN. The client stays in SYN_SENT. -/
structure Refused (c v : Endpoint) (up down : List Packet) : Prop where
  client : c.con.state = .synSent
  opening : ∃ p fins, Opening c p fins ∧ p.IsSyn
  server : v.con.state = .closed
  queue : ∀ node ∈ v.con.sendWindow.pktsToAck, node.pkt.Plain
  unsent : v.con.sendBuffer.bytes = v.written
  sending : v.con.sending = false
  up : ∀ q ∈ up, q.kind = .syn ∨ q.kind = .ack
  down : ∀ q ∈ down, q.Plain

omit [HyLib] in
theorem Packet.Plain.copy {p : Packet} (h : p.Plain) : p.copy.Plain := by
  rwa [Packet.Plain, Packet.copy_kind]

namespace Refused

variable {c v c' v' : Endpoint} {up down up' down' : List Packet} {g g' : Globals} {a : Action}

theorem sublist (h : Refused c v up down) (hu : up'.Sublist up) (hd : down'.Sublist down) :
    Refused c v up' down' :=
  { h with
    up := fun q hq => h.up q (hu.subset hq)
    down := fun q hq => h.down q (hd.subset hq) }

theorem requeue (h : Refused c v up down) (r s r' s' : List Packet) :
    Refused (c.requeue r s) (v.requeue r' s') up down := by
  obtain ⟨p, fins, hopen, hp⟩ := h.opening
  exact ⟨h.client, ⟨p, fins, hopen.requeue r s, hp⟩, h.server, h.queue, h.unsent, h.sending, h.up,
    h.down⟩

theorem client_step (h : Refused c v up down) (ha : a ≠ .handlePacket)
    (hrun : c.step g a = .ok (g', c')) :
    ∃ ps, c'.con.pktSendBuffer = c.con.pktSendBuffer ++ ps ∧ Refused c' v (up ++ ps) down := by
  have hq := Endpoint.step_quiet ha hrun
  obtain ⟨p, fins, hopen, hp⟩ := h.opening
  obtain ⟨fins', hopen', ps, hps, hall⟩ :=
    hopen.step (by simp [TcpController.inConnectingState, h.client]) ha hrun
  refine ⟨ps, hps, ?_, ⟨p, fins', hopen', hp⟩, h.server, h.queue, h.unsent, h.sending, ?_, h.down⟩
  · rcases hq.state with hs | ⟨hs, -⟩ | ⟨hs, -⟩
    · rw [hs, h.client]
    · simp [h.client] at hs
    · simp [h.client] at hs
  · intro q hq'
    rcases List.mem_append.mp hq' with hq' | hq'
    · exact h.up q hq'
    · rw [hall q hq']
      exact Or.inl hp.1

/-- The client acknowledges the FIN, and nothing else happens. -/
theorem client_handle {pkt : Packet} {rest : List Packet} (h : Refused c v up (pkt :: down))
    (hbuf : c.con.pktRecvBuffer = pkt :: rest) (hrun : c.handleNext g = .ok (g', c')) :
    c'.con.pktRecvBuffer = rest ∧
      ∃ ps, c'.con.pktSendBuffer = c.con.pktSendBuffer ++ ps ∧ Refused c' v (up ++ ps) down := by
  obtain ⟨con, hc, rfl⟩ := Endpoint.handleNext_cons hbuf hrun
  obtain ⟨p, fins, hopen, hp⟩ := h.opening
  have hplain := h.down pkt (by simp)
  have hk : pkt.kind ≠ .syn ∧ pkt.kind ≠ .synAck ∧ pkt.kind ≠ .ack := by
    rcases hplain with hk | hk <;> simp [hk]
  have hh := TcpController.handles (c := { c.con with pktRecvBuffer := rest }) hk.1
    (fun hsa => absurd hsa hk.2.1) hc
  have hw : con.sendWindow = c.con.sendWindow := hh.window hk.2.2
  obtain ⟨ps, hps, hemit⟩ := hh.emits
  refine ⟨hh.pktRecvBuffer, ps, hps, ?_, ⟨p, fins, ?_, hp⟩, h.server, h.queue, h.unsent, h.sending,
    ?_, fun q hq => h.down q (by simp [hq])⟩
  · exact (hh.waiting (by simp [TcpController.inConnectingState, h.client])
      (Or.inl hk.2.2)).trans h.client
  · exact hopen.congr (by rw [hw]) (by rw [hw]) (by rw [hw]) (by rw [hw]) hopen.tasks
      (TcpController.handlePacket_buffers hc).2.1
  · intro q hq
    rcases List.mem_append.mp hq with hq | hq
    · exact h.up q hq
    · rcases hemit q hq with ⟨hack, -⟩ | ⟨-, hack, -⟩
      · exact absurd hack hk.2.2
      · exact Or.inr hack

theorem server_step (h : Refused c v up down) (ha : a ≠ .handlePacket)
    (hrun : v.step g a = .ok (g', v')) :
    ∃ ps, v'.con.pktSendBuffer = v.con.pktSendBuffer ++ ps ∧ Refused c v' up (down ++ ps) := by
  have hq := Endpoint.step_quiet ha hrun
  obtain ⟨new, hnew, hplain⟩ := hq.queue
  obtain ⟨ps, hps, hemit⟩ := hq.emits
  obtain ⟨l, hw, -, hb⟩ := (Endpoint.step_pours hrun).bytes
  have hwaits : ¬ v.con.MaySend := by
    simp [TcpController.MaySend, TcpController.inConnectingState, h.server, h.sending]
  refine ⟨ps, hps, h.client, h.opening, ?_, ?_, ?_,
    ((Endpoint.step_pours hrun).sending hwaits).trans h.sending, h.up, ?_⟩
  · rcases hq.state with hs | ⟨hs, -⟩ | ⟨hs, -⟩
    · rw [hs, h.server]
    · simp [h.server] at hs
    · simp [h.server] at hs
  · intro node hn
    rw [hnew] at hn
    exact (List.mem_append.mp hn).elim (h.queue node) (hplain node)
  · rw [hb hwaits, hw, h.unsent]
  · intro q hq'
    rcases List.mem_append.mp hq' with hq' | hq'
    · exact h.down q hq'
    · rcases hemit q hq' with hp | ⟨node, hn, rfl⟩
      · exact hp
      · exact (h.queue node hn).copy

/-- A SYN is taken for a repeated one, or its answer does not fit behind the FIN. -/
theorem server_syn {pkt : Packet} {rest : List Packet} (h : Refused c v up down)
    (hbase : ¬ v.con.sendWindow.size > 0 →
      v.con.sendWindow.pktsToAck = [] ∧ v.con.sendWindow.sendBase ≠ 0)
    {con : TcpController}
    (hrun : { v.con with pktRecvBuffer := rest }.handleSYN g pkt = .ok con) :
    con.pktRecvBuffer = rest ∧ con.state = .closed ∧
      con.sendWindow.pktsToAck = v.con.sendWindow.pktsToAck ∧
      ∃ ps, con.pktSendBuffer = v.con.pktSendBuffer ++ ps ∧ ∀ q ∈ ps, q.Plain := by
  obtain ⟨⟨ackNum, chain, w⟩, -, hrun⟩ := bind_eq_ok.mp hrun
  simp only at hrun
  split at hrun
  · cases hrun
  · split at hrun
    · obtain ⟨b, ps, hre, hps⟩ :=
        TcpController.resendBase_frame { v.con with pktRecvBuffer := rest, recvWindow := w }
      rw [hre] at hrun
      cases hrun
      refine ⟨rfl, h.server, rfl, ps, rfl, fun q hq => ?_⟩
      obtain ⟨node, hn, rfl⟩ := hps q hq
      exact (h.queue node hn).copy
    · next hsize =>
      obtain ⟨hnil, hne⟩ := hbase hsize
      obtain ⟨⟨sent, w'⟩, hsent, hrun⟩ := bind_eq_ok.mp hrun
      rcases SendWindow.sendPacket_of_nil hnil g.clock (TcpController.makeSyncAckPacket
        { v.con with pktRecvBuffer := rest, recvWindow := w } 0 ackNum) with href | ⟨h0, -⟩
      · cases hsent.symm.trans href
        cases hrun
        exact ⟨rfl, h.server, rfl, [], by simp, by simp⟩
      · exact absurd h0.symm hne

theorem server_handle {pkt : Packet} {rest : List Packet} (h : Refused c v (pkt :: up) down)
    (hbase : ¬ v.con.sendWindow.size > 0 →
      v.con.sendWindow.pktsToAck = [] ∧ v.con.sendWindow.sendBase ≠ 0)
    (hbuf : v.con.pktRecvBuffer = pkt :: rest) (hrun : v.handleNext g = .ok (g', v')) :
    v'.con.pktRecvBuffer = rest ∧
      ∃ ps, v'.con.pktSendBuffer = v.con.pktSendBuffer ++ ps ∧ Refused c v' up (down ++ ps) := by
  obtain ⟨con, hc, rfl⟩ := Endpoint.handleNext_cons hbuf hrun
  have hup : ∀ q ∈ up, q.kind = .syn ∨ q.kind = .ack := fun q hq => h.up q (by simp [hq])
  have hunsent : con.sendBuffer.bytes = v.written := by
    rw [(TcpController.handlePacket_buffers hc).1]
    exact h.unsent
  have hsending : con.sending = false :=
    (TcpController.handlePacket_buffers hc).2.1.trans h.sending
  obtain ⟨hrest, hstate, hqueue, ps, hps, hplain⟩ : con.pktRecvBuffer = rest ∧
      con.state = .closed ∧ (∀ node ∈ con.sendWindow.pktsToAck, node.pkt.Plain) ∧
      ∃ ps, con.pktSendBuffer = v.con.pktSendBuffer ++ ps ∧ ∀ q ∈ ps, q.Plain := by
    rcases h.up pkt (by simp) with hk | hk
    · simp only [TcpController.handlePacket, hk] at hc
      obtain ⟨con', hc', heq⟩ := map_eq_ok.mp hc
      cases heq
      obtain ⟨hrest, hstate, hqueue, hemit⟩ := h.server_syn hbase hc'
      exact ⟨hrest, hstate, hqueue ▸ h.queue, hemit⟩
    · have hh := TcpController.handles (c := { v.con with pktRecvBuffer := rest })
        (by simp [hk]) (by simp [hk]) hc
      refine ⟨hh.pktRecvBuffer, ?_, fun node hn => h.queue node (hh.queue.subset hn), ?_⟩
      · exact (hh.waiting (by simp [TcpController.inConnectingState, h.server])
          (Or.inr (by simp [h.server]))).trans h.server
      · obtain ⟨ps, hps, hemit⟩ := hh.emits
        refine ⟨ps, hps, fun q hq => ?_⟩
        rcases hemit q hq with ⟨-, node, hn, rfl⟩ | ⟨hne, -⟩
        · exact (h.queue node hn).copy
        · exact absurd hk hne
  refine ⟨hrest, ps, hps, h.client, h.opening, hstate, hqueue, hunsent, hsending, hup,
    fun q hq => ?_⟩
  exact (List.mem_append.mp hq).elim (h.down q) (hplain q)

end Refused

/-! ## Transport -/

section Transport

variable {e f : Endpoint} {wo wi wo' wi' : List Packet} {s₁ s₂ : State Packet}

/-- **Moving packets and losing them.** -/
theorem Linked.moves (h : Linked e f wo wi s₁ s₂) (r s r' s' : List Packet)
    (ho : (flight (e.requeue r s) (f.requeue r' s') wo').Sublist (flight e f wo))
    (hi : (flight (f.requeue r' s') (e.requeue r s) wi').Sublist (flight f e wi)) :
    ∃ s₁' s₂', Steps s₁ s₁' ∧ Steps s₂ s₂' ∧
      Linked (e.requeue r s) (f.requeue r' s') wo' wi' s₁' s₂' := by
  obtain ⟨d₁, a₂, hd₁, ha₂, hto⟩ := h.toPeer.sublist ho
  obtain ⟨d₂, a₁, hd₂, ha₁, hfrom⟩ := h.fromPeer.sublist hi
  have h₁ : Step s₁ { s₁ with data := d₁, acks := a₁ } := .lose s₁ hd₁ ha₁
  have h₂ : Step s₂ { s₂ with data := d₂, acks := a₂ } := .lose s₂ hd₂ ha₂
  refine ⟨_, _, .single h₁, .single h₂, ?_⟩
  obtain ⟨⟨hinv, hse, hre, hroom, hsm⟩, ⟨hinv', hse', hre', hroom', hsm'⟩, -, -, hg, hg'⟩ := h
  exact ⟨⟨hinv.step h₁, { hse with }, { hre with }, hroom, hsm⟩,
    ⟨hinv'.step h₂, { hse' with }, { hre' with }, hroom', hsm'⟩, hto, hfrom, hg, hg'⟩

/-- The host delivers the first SYN twice. For the protocol it is a retransmission: as long as
the SYN is not acknowledged, everything in flight is this SYN. -/
theorem Linked.duplicate (h : Linked e f wo wi s₁ s₂) {p : Packet} {l r' s' : List Packet}
    (hu : s₁.una = 0) (hp : p.tcpHeader.sync = true) (hflight : flight e f wo = p :: l)
    (ho : flight e (f.requeue r' s') wo' = p :: p :: l)
    (hi : flight (f.requeue r' s') e wi = flight f e wi) :
    ∃ s₁', Steps s₁ s₁' ∧ Linked e (f.requeue r' s') wo' wi s₁' s₂ := by
  have hto := h.toPeer
  rw [hflight] at hto
  generalize hdata : s₁.data = data at hto
  generalize hacks : s₂.acks = acks at hto
  cases hto with
  | ack hkind _ _ _ _ =>
    simp [Packet.not_sync_of_kind (p := p) (by simp [hkind]) (by simp [hkind])] at hp
  | probe hkind _ _ _ =>
    simp [Packet.not_sync_of_kind (p := p) (by simp [hkind]) (by simp [hkind])] at hp
  | @data _ i _ d _ hget hrest =>
    obtain rfl := h.out.sends.history.sync_first hget hp
    have hlt := (List.getElem?_eq_some_iff.mp hget).1
    have hall := (h.out.inv.opening hu (List.length_pos_iff.mp hlt)).1
    have hrot : s₁.data ++ [s₁.una] = 0 :: 0 :: d := by
      have hrep := List.eq_replicate_of_mem hall
      rw [hdata, List.length_cons] at hrep
      rw [hdata, hu, hrep, ← List.replicate_succ', List.replicate_succ, ← hrep]
    have hstep : Step s₁ { s₁ with data := s₁.data ++ [s₁.una] } := .resend s₁ (by omega)
    refine ⟨_, .single hstep, ?_⟩
    obtain ⟨⟨hinv, hse, hre, hroom, hsm⟩, ⟨hinv', hse', hre', hroom', hsm'⟩, -, hfrom, hg, hg'⟩ := h
    refine ⟨⟨hinv.step hstep, { hse with }, { hre with }, hroom, hsm⟩,
      ⟨hinv', { hse' with }, { hre' with }, hroom', hsm'⟩, ?_, hi ▸ hfrom, hg, hg'⟩
    rw [ho, hacks]
    simp only [hrot]
    exact .data hget (.data hget hrest)

end Transport

/-! ## The start -/

/-- Two endpoints that have done nothing. -/
theorem Linked.fresh (cfg : Config) :
    Linked { con := Net.newClient cfg } { con := Net.newServer cfg {} 0 } [] []
      (State.init (1 + cfg.serverRecvBuffer)) (State.init (1 + cfg.clientRecvBuffer)) := by
  have hsends : ∀ {con : TcpController} {edge : ℕ}, con.sendWindow.Holds [] 0 →
      con.sendWindow.capacity ≠ 0 → con.sendBuffer.bytes = [] →
      Sends { con := con } (State.init (1 + edge)) := by
    intro con edge hw hc hb
    exact ⟨hw, History.nil, by simp [State.init], by simp [State.init, hb], by simp [State.init],
      fun _ => hb, fun _ => ⟨hc, rfl⟩, by simp [State.init], by simp [State.init]⟩
  have hreceives : ∀ {con : TcpController} {N : ℕ}, con.recvWindow.recvBase = 0 →
      con.recvWindow.pkts = [] → con.recvBuffer = RingBuffer.new N → con.overflowPkts = [] →
      con.pipeState = .opened → Receives { con := con } (State.init (1 + N)) := by
    intro con N hb hp hr ho hs
    refine ⟨hb, fun _ => ⟨hb, ?_⟩, by simp [State.init, hr], ho,
      by simp [State.init, hs, NoFin], by simp [State.init, hr, RingBuffer.freeSpace_eq]⟩
    rw [hp]
    exact .nil
  refine ⟨⟨.init _, hsends (.fresh _) (show kDefaultWindowSize ≠ 0 by decide)
      (RingBuffer.bytes_new _), hreceives rfl rfl rfl rfl rfl, Nat.zero_le _,
      (RingBuffer.capacity_new _).trans_le cfg.server_le⟩,
    ⟨.init _, hsends (.fresh _) (show kDefaultWindowSize ≠ 0 by decide)
      (RingBuffer.bytes_new _), hreceives rfl rfl rfl rfl rfl, Nat.zero_le _,
      (RingBuffer.capacity_new _).trans_le cfg.client_le⟩, .nil, .nil, ?_, ?_⟩
  · intro p hp
    simp [State.init] at hp
  · intro p hp
    simp [State.init] at hp

/-- The first packet of the direction is a SYN. -/
def Synced (s : State Packet) : Prop := ∃ p, s.hist[0]? = some p ∧ p.tcpHeader.sync = true

omit [HyLib] in
theorem Synced.steps {s s' : State Packet} (h : Synced s) (hs : Steps s s') : Synced s' := by
  obtain ⟨p, hp, hsync⟩ := h
  obtain ⟨l, hl⟩ := hs.hist_prefix
  refine ⟨p, ?_, hsync⟩
  rw [← hl, List.getElem?_append_left (List.getElem?_eq_some_iff.mp hp).1, hp]

/-- The client after `TryConnect`. -/
theorem Linked.connecting (cfg : Config) (clock : ℕ) :
    ∃ s₁ s₂, Synced s₁ ∧
      Linked (Net.connecting cfg clock) { con := Net.newServer cfg {} 0 } [] [] s₁ s₂ := by
  obtain ⟨s₁, s₂, hnil, h⟩ : ∃ s₁ s₂, s₁.hist = [] ∧
      Linked { con := Net.newClient cfg } { con := Net.newServer cfg {} 0 } [] [] s₁ s₂ :=
    ⟨_, _, rfl, Linked.fresh cfg⟩
  have hreg := (Net.newClient cfg).makeSyncPacket_regular 0
  have hsends := h.out.sends.syncPacket hnil clock hreg rfl rfl
  have hroom : (stream (s₁.hist ++ [Net.clientSyn cfg])).length = 0 := by
    rw [hnil]
    rfl
  have hgreets : Greets { con := Net.newClient cfg }
      { s₁ with hist := s₁.hist ++ [Net.clientSyn cfg] } s₂ := by
    intro p hp _ hack
    simp only [hnil, List.nil_append, List.getElem?_cons_zero, Option.some.injEq] at hp
    rw [← hp] at hack
    cases hack
  obtain ⟨s₁', -, hhist, -, -, hl⟩ := h.enqueue [Net.clientSyn cfg] (k := 0) hsends
    (hroom.trans_le (Nat.zero_le _)) hgreets (Or.inr ⟨rfl, Or.inl hnil⟩)
  exact ⟨s₁', s₂, ⟨Net.clientSyn cfg, by rw [hhist, hnil]; rfl, rfl⟩, hl.similar {}⟩

/-! ## What the ends may rely on -/

omit [HyLib] in
/-- Without acknowledgements in flight there are none on their way in the protocol. -/
theorem Carries.acks_nil {out inn : List Packet} {una : ℕ} {l : List Packet} {d : List ℕ}
    {a : List (ℕ × ℕ)} (h : Carries out inn una l d a) (hno : ∀ q ∈ l, q.kind ≠ .ack) :
    a = [] := by
  induction h with
  | nil => rfl
  | data _ _ ih => exact ih fun q hq => hno q (by simp [hq])
  | ack hkind _ _ _ _ _ => exact absurd hkind (hno _ (by simp))
  | probe _ _ _ _ ih => exact ih fun q hq => hno q (by simp [hq])

omit [HyLib] in
/-- A SYN in flight is a packet of the history. -/
theorem Carries.mem_of_sync {out inn : List Packet} {una : ℕ} {l : List Packet} {d : List ℕ}
    {a : List (ℕ × ℕ)} (h : Carries out inn una l d a) {q : Packet} (hq : q ∈ l)
    (hs : q.tcpHeader.sync = true) : q ∈ out := by
  induction h with
  | nil => simp at hq
  | data hp _ ih =>
    rcases List.mem_cons.mp hq with rfl | hq
    · exact List.mem_of_getElem? hp
    · exact ih hq
  | ack hkind _ _ _ _ ih =>
    rcases List.mem_cons.mp hq with rfl | hq
    · simp [Packet.not_sync_of_kind (p := q) (by simp [hkind]) (by simp [hkind])] at hs
    · exact ih hq
  | probe hkind _ _ _ ih =>
    rcases List.mem_cons.mp hq with rfl | hq
    · simp [Packet.not_sync_of_kind (p := q) (by simp [hkind]) (by simp [hkind])] at hs
    · exact ih hq

section Ready

variable {e : Endpoint} {s : State Packet}

/-- The first packet of an end that opens is the first packet of its history. -/
theorem Opening.una {p : Packet} {fins : List Packet} (h : Opening e p fins) (hs : Sends e s) :
    s.una = 0 ∧ s.hist[0]? = some p := by
  have hq := h.window.queue
  rw [hs.window.queue, List.drop_zero] at hq
  have hget : s.hist[s.una]? = some p := by
    rw [← Nat.add_zero s.una, ← List.getElem?_drop, hq, List.getElem?_cons_zero]
  have hu := hs.history.sync_first hget h.sync
  exact ⟨hu, hu ▸ hget⟩

theorem Joined.una_pos {first : Packet → Prop} (h : Joined e first) (hs : Sends e s)
    (hsync : Synced s) : 1 ≤ s.una := by
  by_contra hu
  obtain ⟨p, hp, hps⟩ := hsync
  -- an unacknowledged SYN would be in the queue
  have hmem : p ∈ e.con.sendWindow.pktsToAck.map (·.pkt) := by
    rw [hs.window.queue, show s.una = 0 by omega, List.drop_zero]
    exact List.mem_of_getElem? hp
  obtain ⟨node, hn, rfl⟩ := List.mem_map.mp hmem
  simp [(h.queue node hn).sync] at hps

/-- An end that has not sent any data has used a SYN and its FINs. -/
theorem Sends.offset_le_of_unsent (h : Sends e s) (hb : e.con.sendBuffer.bytes = e.written) :
    offset s.hist s.hist.length ≤ 3 := by
  have hnil : stream s.hist = [] := by
    have := congrArg List.length h.written
    rw [List.length_append, hb] at this
    exact List.length_eq_zero_iff.mp (by omega)
  have hle := h.history.offset_length_le
  have hfins := h.fins
  rw [hnil, List.length_nil] at hle
  have h₁ := Bool.toNat_le e.shutDown
  have h₂ := Bool.toNat_le e.closed
  omega

/-- The bytes that left the send buffer are the bytes in the history. -/
theorem Sends.carried_eq (h : Sends e s) : e.carried = (stream s.hist).length := by
  have := congrArg List.length h.written
  rw [List.length_append] at this
  simp only [Endpoint.carried, RingBuffer.size_eq]
  omega

/-- Fewer than `2^32 - 2` bytes leave room for the SYN and two FINs. -/
theorem Sends.offset_le (h : Sends e s) (hc : e.carried < 2 ^ 32 - 2) :
    offset s.hist s.hist.length ≤ 2 ^ 32 := by
  have hle := h.history.offset_length_le
  have hfins := h.fins
  rw [h.carried_eq] at hc
  have h₁ := Bool.toNat_le e.shutDown
  have h₂ := Bool.toNat_le e.closed
  omega

variable {c v : Endpoint} {wo wi : List Packet} {s₁ s₂ : State Packet}
  (hl : Linked c v wo wi s₁ s₂)
include hl

theorem Opening.connecting {p : Packet} {fins : List Packet} (h : Opening c p fins)
    (hno : ∀ q ∈ flight v c wi, q.kind ≠ .ack) :
    s₁.una = 0 ∧ s₁.acks = [] ∧ s₁.hist ≠ [] := by
  obtain ⟨hu, hp⟩ := h.una hl.out.sends
  refine ⟨hu, hl.fromPeer.acks_nil hno, fun hnil => ?_⟩
  simp [hnil] at hp

theorem Phase.ready_client (h : Phase c v (flight c v wo) (flight v c wi)) (hsync : Synced s₁) :
    Ready c s₁ := by
  have hhead : ∀ pkt rest, c.con.pktRecvBuffer = pkt :: rest → pkt ∈ flight v c wi := by
    intro pkt rest hbuf
    simp [flight, hbuf]
  have hsent : ∀ {up}, SynSent c up → (∀ q ∈ flight v c wi, q.IsSynAck) → Ready c s₁ := by
    intro up hc hdown
    obtain ⟨p, fins, hopen, -⟩ := hc.opening
    refine ⟨?_, ?_, fun _ => hopen.connecting hl fun q hq => by simp [(hdown q hq).1]⟩
    · simp [TcpController.MaySend, TcpController.inConnectingState, hc.state, hopen.sending]
    · intro pkt rest hbuf hk
      simp [(hdown pkt (hhead pkt rest hbuf)).1] at hk
  cases h with
  | listening client server hdown => exact hsent client (by simp [hdown])
  | synRcvd client server hdown => exact hsent client hdown
  | half client base server hsyn horder hack hdown =>
    refine ⟨fun _ => client.una_pos hl.out.sends hsync, ?_, fun h => absurd h client.synSent⟩
    intro pkt rest hbuf hk
    rcases hdown pkt (hhead pkt rest hbuf) with hsa | hk'
    · simp [hsa.1] at hk
    · simp [hk'] at hk
  | opened client server acked hup hdown =>
    refine ⟨fun _ => client.una_pos hl.out.sends hsync, ?_, fun h => absurd h client.synSent⟩
    intro pkt rest hbuf hk
    simp [(hdown pkt (hhead pkt rest hbuf) (Packet.sync_of_kind_syn hk)).1] at hk

theorem Phase.ready_server (h : Phase c v (flight c v wo) (flight v c wi))
    (hsync : v.handled ≠ [] → Synced s₂) : Ready v s₂ := by
  have hsends := hl.inn.sends
  have hrecv : SynReceived v → Ready v s₂ := by
    intro hv
    obtain ⟨q, fins, hopen, -⟩ := hv.opening
    obtain ⟨hu, hq⟩ := hopen.una hsends
    refine ⟨?_, fun _ _ _ _ => Or.inr (Or.inl ?_), by simp [hv.state]⟩
    · simp [TcpController.MaySend, TcpController.inConnectingState, hv.state, hopen.sending]
    · rw [hu]
      exact (List.getElem?_eq_some_iff.mp hq).1
  cases h with
  | listening client server hdown =>
    refine ⟨?_, fun _ _ _ _ => Or.inr (Or.inr ?_), by simp [server.state]⟩
    · simp [TcpController.MaySend, TcpController.inConnectingState, server.state, server.sending]
    · have h₁ := hsends.offset_le_of_unsent server.unsent
      have h₂ : offset s₂.hist s₂.una ≤ offset s₂.hist s₂.hist.length :=
        offset_mono _ hl.inn.inv.una_le
      omega
  | synRcvd client server hdown => exact hrecv server
  | half client base server hsyn horder hack hdown => exact hrecv server
  | opened client server acked hup hdown =>
    refine ⟨fun _ => server.una_pos hsends (hsync server.met.handled_ne), ?_,
      fun h => absurd h server.synSent⟩
    intro pkt rest hbuf hk
    have hs := hup pkt (by simp [flight, hbuf])
    simp [Packet.sync_of_kind_syn hk] at hs

theorem Refused.ready_client (h : Refused c v (flight c v wo) (flight v c wi)) : Ready c s₁ := by
  obtain ⟨p, fins, hopen, -⟩ := h.opening
  refine ⟨?_, ?_, fun _ => hopen.connecting hl fun q hq => ?_⟩
  · simp [TcpController.MaySend, TcpController.inConnectingState, h.client, hopen.sending]
  · intro pkt rest hbuf hk
    rcases h.down pkt (by simp [flight, hbuf]) with hp | hp <;> simp [hk] at hp
  · rcases h.down q hq with hp | hp <;> simp [hp]

theorem Refused.ready_server (h : Refused c v (flight c v wo) (flight v c wi)) : Ready v s₂ := by
  refine ⟨?_, fun _ _ _ _ => Or.inr (Or.inr ?_), by simp [h.server]⟩
  · simp [TcpController.MaySend, TcpController.inConnectingState, h.server, h.sending]
  · have h₁ := hl.inn.sends.offset_le_of_unsent h.unsent
    have h₂ : offset s₂.hist s₂.una ≤ offset s₂.hist s₂.hist.length :=
      offset_mono _ hl.inn.inv.una_le
    omega

/-- The answer to the SYN cannot be registered behind the FIN. -/
theorem Refused.base_ne_zero (h : Refused c v (flight c v wo) (flight v c wi))
    (hne : s₂.hist ≠ []) (hsize : ¬ v.con.sendWindow.size > 0) :
    v.con.sendWindow.pktsToAck = [] ∧ v.con.sendWindow.sendBase ≠ 0 := by
  have hsends := hl.inn.sends
  have hle := hsends.offset_le_of_unsent h.unsent
  have hu := hsends.size_eq_zero (by omega) hsize
  refine ⟨hsends.window.queue_eq_nil_iff.mpr hu, fun h0 => ?_⟩
  have hlen := le_offset hsends.history.tiled.pos (le_refl s₂.hist.length)
  have hpos := List.length_pos_iff.mpr hne
  rw [hsends.window.base, hu] at h0
  have hnat := congrArg UInt32.toNat h0
  rw [UInt32.toNat_ofNat_of_lt' (by simp only [UInt32.size]; omega), UInt32.toNat_zero] at hnat
  omega

end Ready

/-! ## The invariant -/

/-- **The invariant of the connection**: it is linked to two sliding windows, and either the
handshake is at one of its stages or the connection is refused. -/
structure Good (cfg : Config) (n : Net) (s₁ s₂ : State Packet) : Prop where
  linked : Linked n.client (n.peer cfg) n.toServer n.toClient s₁ s₂
  synced : Synced s₁
  stage : n.Stage cfg ∧ ((n.peer cfg).handled ≠ [] → Synced s₂) ∨
    Refused n.client (n.peer cfg) (n.up cfg) (n.down cfg) ∧ s₂.hist ≠ []

/-- Neither direction has used up its sequence numbers: fewer than `2^32 - 2` bytes left the
send buffers. -/
structure Net.Fits (cfg : Config) (n : Net) : Prop where
  client : n.client.carried < 2 ^ 32 - 2
  server : (n.peer cfg).carried < 2 ^ 32 - 2

section Good

variable {cfg : Config} {n n' : Net} {s₁ s₂ : State Packet}

theorem Good.ready_client (h : Good cfg n s₁ s₂) : Ready n.client s₁ := by
  rcases h.stage with ⟨hstage, -⟩ | ⟨href, -⟩
  · exact Phase.ready_client h.linked hstage h.synced
  · exact href.ready_client h.linked

theorem Good.ready_server (h : Good cfg n s₁ s₂) : Ready (n.peer cfg) s₂ := by
  rcases h.stage with ⟨hstage, hsync⟩ | ⟨href, -⟩
  · exact Phase.ready_server h.linked hstage hsync
  · exact href.ready_server h.linked

/-- A SYN_RCVD server has registered its SYN-ACK first. -/
theorem SynReceived.synced {v : Endpoint} (h : SynReceived v) {s : State Packet}
    (hs : Sends v s) : Synced s := by
  obtain ⟨q, fins, hopen, -⟩ := h.opening
  exact ⟨q, (hopen.una hs).2, hopen.sync⟩

theorem Endpoint.handled_cases {e e' : Endpoint} {g g' : Globals} {a : Action}
    (h : e.step g a = .ok (g', e')) :
    e'.handled = e.handled ∨ ∃ pkt, e'.handled = e.handled ++ [pkt] := by
  by_cases ha : a = .handlePacket
  · subst ha
    replace h : e.handleNext g = .ok (g', e') := h
    cases hbuf : e.con.pktRecvBuffer with
    | nil =>
      simp only [Endpoint.handleNext, hbuf] at h
      cases h
      exact Or.inl rfl
    | cons pkt rest =>
      obtain ⟨c, -, rfl⟩ := Endpoint.handleNext_cons hbuf h
      exact Or.inr ⟨pkt, rfl⟩
  · exact Or.inl (Endpoint.step_quiet ha h).handled

/-- The server's SYN-ACK is registered when the first packet is handled. -/
theorem Phase.synced_server {c v v' : Endpoint} {up down : List Packet} {s s' : State Packet}
    {g g' : Globals} {a : Action} (h : Phase c v' up down) (hrun : v.step g a = .ok (g', v'))
    (hsync : v.handled ≠ [] → Synced s) (hsteps : Steps s s') (hs : Sends v' s')
    (hne : v'.handled ≠ []) : Synced s' := by
  cases h with
  | listening _ server _ => exact absurd server.handled hne
  | synRcvd _ server _ => exact server.synced hs
  | half _ _ server _ _ _ _ => exact server.synced hs
  | opened _ server acked _ _ =>
    -- at least two packets were handled, so this is not the first one
    refine (hsync fun hnil => ?_).steps hsteps
    obtain ⟨q, l, hq, hsyn⟩ := server.met.head
    obtain ⟨r, hr, hack⟩ := acked
    rcases Endpoint.handled_cases hrun with hh | ⟨pkt, hh⟩
    · exact hne (hh.trans hnil)
    · rw [hnil, List.nil_append] at hh
      rw [hh] at hq hr
      cases hq
      simp [List.mem_singleton.mp hr, hsyn.1] at hack

/-- `SendFIN` in CLOSED registers the FIN and returns. -/
theorem Endpoint.runSendFIN_closed {v v' : Endpoint} {clock : ℕ} (hdue : v.finDue = true)
    (hst : v.con.state = .closed) (h : v.runSendFIN clock = .ok v') :
    ∃ w node, v' = { v with con := { v.con with sendWindow := w }, finTasks := v.finTasks - 1 } ∧
      w.pktsToAck = v.con.sendWindow.pktsToAck ++ [node] ∧ node.pkt.kind = .fin := by
  simp only [Endpoint.finDue, ne_eq, decide_not, Bool.and_eq_true, Bool.not_eq_eq_eq_not,
    Bool.not_true, decide_eq_false_iff_not] at hdue
  obtain ⟨⟨ht, hwait⟩, hdown⟩ := hdue
  unfold Endpoint.runSendFIN at h
  rw [if_neg (by simp [ht, hwait])] at h
  obtain ⟨c, hc, h⟩ := bind_eq_ok.mp h
  cases h
  unfold TcpController.sendFIN at hc
  rw [if_neg (by simp [hdown])] at hc
  obtain ⟨⟨p, c₁⟩, hwin, hc⟩ := bind_eq_ok.mp hc
  cases hc
  obtain ⟨hkind, w, watch, rfl, hw⟩ := TcpController.sendFINWindow_frame hwin
  refine ⟨w, ⟨p, watch⟩, ?_, hw, hkind⟩
  simp [TcpController.sendFINState, hst]

/-- A `SendFIN` before the SYN refuses the connection. -/
theorem Phase.refuse {c v v' : Endpoint} {up down : List Packet} (h : Phase c v up down)
    (hfresh : Fresh v) (hdue : v.finDue = true) {clock : ℕ}
    (hrun : v.runSendFIN clock = .ok v') :
    Refused c v' up down ∧ v'.con.sendWindow.pktsToAck ≠ [] ∧
      v'.con.pktSendBuffer = v.con.pktSendBuffer ∧ v'.con.pktRecvBuffer = v.con.pktRecvBuffer := by
  obtain ⟨w, node, rfl, hw, hkind⟩ := Endpoint.runSendFIN_closed hdue hfresh.state hrun
  have hq := hfresh.window.queue
  simp only [List.drop_nil, List.map_eq_nil_iff] at hq
  rw [hq, List.nil_append] at hw
  refine ⟨?_, by simp [hw], rfl, rfl⟩
  cases h with
  | listening client server hdown =>
    refine ⟨client.state, client.opening, hfresh.state, ?_, hfresh.unsent, hfresh.sending,
      fun q hq => Or.inl (client.up q hq).1, by simp [hdown]⟩
    intro m hm
    rw [hw] at hm
    rw [List.mem_singleton.mp hm]
    exact Or.inl hkind
  | synRcvd _ server _ => exact absurd hfresh.handled server.met.handled_ne
  | half _ _ server _ _ _ _ => exact absurd hfresh.handled server.met.handled_ne
  | opened _ server _ _ _ => exact absurd hfresh.handled server.met.handled_ne

/-- A step of the client. -/
theorem Good.client (h : Good cfg n s₁ s₂) (hfit : n.Fits cfg) {a : Action} {g : Globals}
    {c : Endpoint} (hrun : n.client.step n.globals a = .ok (g, c)) :
    ∃ s₁' s₂', Good cfg { n with globals := g, client := c } s₁' s₂' := by
  obtain ⟨s₁', s₂', h₁, h₂, hl⟩ := h.linked.step h.ready_client
    (h.linked.out.sends.offset_le hfit.client) (h.linked.inn.sends.offset_le hfit.server) hrun
  refine ⟨s₁', s₂', hl, h.synced.steps h₁, ?_⟩
  rcases h.stage with ⟨hstage, hsync⟩ | ⟨href, hne⟩
  · exact Or.inl ⟨Net.stage_client hstage hrun, fun hne => (hsync hne).steps h₂⟩
  · refine Or.inr ⟨?_, ?_⟩
    · exact Net.lift_client (P := fun c up down => Refused c (n.peer cfg) up down) href hrun
        (fun ha => href.client_step ha hrun) fun _ _ _ hbuf hrun h => h.client_handle hbuf hrun
    · exact fun hnil => hne (List.prefix_nil.mp (hnil ▸ h₂.hist_prefix))

/-- A step of the server. -/
theorem Good.server (h : Good cfg n s₁ s₂) (hfit : n.Fits cfg) {a : Action} {g : Globals}
    {v v' : Endpoint} (hv : n.server = some v) (hrun : v.step n.globals a = .ok (g, v')) :
    ∃ s₁' s₂', Good cfg { n with globals := g, server := some v' } s₁' s₂' := by
  have hpeer : n.peer cfg = v := Net.peer_of_some hv
  have hready := h.ready_server
  have hlinked := h.linked
  obtain ⟨hcfit, hvfit⟩ := hfit
  rw [hpeer] at hready hlinked hvfit
  obtain ⟨s₂', s₁', h₂, h₁, hl⟩ := hlinked.symm.step hready
    (hlinked.inn.sends.offset_le hvfit) (hlinked.out.sends.offset_le hcfit) hrun
  refine ⟨s₁', s₂', hl.symm, h.synced.steps h₁, ?_⟩
  rcases h.stage with ⟨hstage, hsync⟩ | ⟨href, hne⟩
  · rw [hpeer] at hsync
    by_cases hearly : a = .sendFIN ∧ Fresh v ∧ v.finDue = true
    · obtain ⟨rfl, hfresh, hdue⟩ := hearly
      rw [Net.Stage, hpeer] at hstage
      obtain ⟨v₁, hv₁, heq⟩ := map_eq_ok.mp hrun
      cases heq
      obtain ⟨href, hqueue, hsend, hrecv⟩ := hstage.refuse hfresh hdue hv₁
      refine Or.inr ⟨?_, fun hnil => hqueue ?_⟩
      · simpa [Net.up, Net.down, Net.peer, hv, flight, hsend, hrecv] using href
      · have hq := hl.out.sends.window.queue
        rw [hnil, List.drop_nil] at hq
        exact List.map_eq_nil_iff.mp hq
    · have hstage' := Net.stage_server hstage hv (fun ha hfresh => by
        by_contra hdue
        exact hearly ⟨ha, hfresh, by simpa using hdue⟩) hrun
      exact Or.inl ⟨hstage', Phase.synced_server hstage' hrun hsync h₂ hl.out.sends⟩
  · refine Or.inr ⟨?_, fun hnil => hne (List.prefix_nil.mp (hnil ▸ h₂.hist_prefix))⟩
    rw [hpeer] at href
    have hbase := fun hsize => Refused.base_ne_zero hlinked (by
      simpa [Net.up, Net.down, hpeer] using href) hne hsize
    exact Net.lift_server (P := fun v up down => Refused n.client v up down) hv href hrun
      (fun ha => href.server_step ha hrun)
      fun _ _ _ hbuf hrun h => h.server_handle hbase hbuf hrun

/-- Packets move, and some of them are lost. -/
theorem Good.moves (h : Good cfg n s₁ s₂) (hm : Net.Moves cfg n n') :
    ∃ s₁' s₂', Good cfg n' s₁' s₂' := by
  obtain ⟨r, s, hc⟩ := hm.client
  obtain ⟨r', s', hp⟩ := hm.server
  have hup := hm.up
  have hdown := hm.down
  rw [Net.up, hc, hp] at hup
  rw [Net.down, hc, hp] at hdown
  obtain ⟨s₁', s₂', h₁, h₂, hl⟩ := h.linked.moves r s r' s' hup hdown
  rw [← hc, ← hp] at hl
  refine ⟨s₁', s₂', hl, h.synced.steps h₁, ?_⟩
  rcases h.stage with ⟨hstage, hsync⟩ | ⟨href, hne⟩
  · refine Or.inl ⟨Net.stage_moves hstage hm, fun hh => (hsync ?_).steps h₂⟩
    rwa [hp] at hh
  · refine Or.inr ⟨?_, fun hnil => hne (List.prefix_nil.mp (hnil ▸ h₂.hist_prefix))⟩
    have href' := (href.requeue r s r' s').sublist hm.up hm.down
    rwa [← hc, ← hp] at href'

/-- The server's connection is created. -/
theorem Good.accepted (h : Good cfg n s₁ s₂) {pkt : Packet} {rest : List Packet}
    (hs : n.server = none) (hw : n.toServer = pkt :: rest) (hsync : pkt.tcpHeader.sync = true) :
    ∃ s₁' s₂', Good cfg { n with server := some (Net.accepted cfg pkt), toServer := rest }
      s₁' s₂' := by
  have hpeer : n.peer cfg = { con := Net.newServer cfg {} 0 } := by simp [Net.peer, hs]
  rcases h.stage with ⟨hstage, -⟩ | ⟨href, hne⟩
  · have hstage' := Net.stage_accepted hstage hs hw
    have hlinked := h.linked
    rw [hw, hpeer] at hlinked
    have hflight : flight n.client { con := Net.newServer cfg {} 0 } (pkt :: rest)
        = pkt :: (rest ++ n.client.con.pktSendBuffer) := by
      simp [flight, Net.newServer, TcpController.new]
    have hmem := hlinked.toPeer.mem_of_sync (q := pkt) (by simp [hflight]) hsync
    have hcopy := (hlinked.out.sends.history.regular pkt hmem).copy_eq
    -- the server has handled nothing, so the client's SYN is not acknowledged
    obtain ⟨hu, hseq⟩ : s₁.una = 0 ∧ pkt.tcpHeader.seqNum = 0 := by
      have hup : pkt ∈ n.up cfg := by simp [Net.up, hpeer, hw, hflight]
      cases hstage with
      | listening client server _ =>
        obtain ⟨p, fins, hopen, -⟩ := client.opening
        exact ⟨(hopen.una hlinked.out.sends).1, (client.up pkt hup).2.1⟩
      | synRcvd _ server _ => exact absurd (by rw [hpeer]) server.met.handled_ne
      | half _ _ server _ _ _ _ => exact absurd (by rw [hpeer]) server.met.handled_ne
      | opened _ server _ _ _ => exact absurd (by rw [hpeer]) server.met.handled_ne
    -- the buffers of the accepted server: the SYN twice, the rest still on the wire
    have ho : flight n.client (Endpoint.requeue { con := Net.newServer cfg {} 0 } [pkt, pkt] [])
        rest = pkt :: pkt :: (rest ++ n.client.con.pktSendBuffer) := by
      simp [flight, Endpoint.requeue]
    obtain ⟨s₁', h₁, hl⟩ := hlinked.duplicate hu hsync hflight ho (by
      simp [flight, Endpoint.requeue, Net.newServer, TcpController.new])
    have hsimilar : Endpoint.Similar
        (Endpoint.requeue { con := Net.newServer cfg {} 0 } [pkt, pkt] [])
        (Net.accepted cfg pkt) :=
      { recvWindow := by
          simp [Net.accepted, TcpController.receiveNewPacket, Net.newServer, TcpController.new,
            hseq, Endpoint.requeue]
        pktRecvBuffer := by
          simp [Net.accepted, TcpController.receiveNewPacket, Net.newServer, TcpController.new,
            hcopy, Endpoint.requeue] }
    refine ⟨s₁', s₂, (hl.symm.similar hsimilar).symm, h.synced.steps h₁, Or.inl ⟨hstage', ?_⟩⟩
    exact fun hne => absurd rfl hne
  · -- a server that does not exist has not registered a FIN
    have hsize : ¬ (n.peer cfg).con.sendWindow.size > 0 := by
      rw [hpeer]
      exact UInt32.lt_irrefl 0
    refine absurd ?_ (href.base_ne_zero h.linked hne hsize).2
    rw [hpeer]
    rfl

/-- **One step of the connection keeps the invariant.** -/
theorem Net.good_step (h : ∃ s₁ s₂, Good cfg n s₁ s₂) (hfit : n.Fits cfg) {ev : Event}
    (hstep : Net.step cfg n ev = .ok n') : ∃ s₁ s₂, Good cfg n' s₁ s₂ := by
  obtain ⟨s₁, s₂, h⟩ := h
  rcases step_cases hstep with ⟨a, g, c, rfl, hrun, rfl⟩ | ⟨a, v, g, v', rfl, hv, hrun, rfl⟩ |
    hm | ⟨pkt, rest, hs, hw, hsync, rfl⟩
  · exact h.client hfit hrun
  · exact h.server hfit hv hrun
  · exact h.moves hm
  · exact h.accepted hs hw hsync

/-- The bytes that left the send buffers only grow. -/
theorem Net.Fits.of_step {ev : Event} (hfit : n'.Fits cfg) (hstep : Net.step cfg n ev = .ok n') :
    n.Fits cfg := by
  obtain ⟨hc, hv⟩ := hfit
  rcases step_cases hstep with ⟨a, g, c, rfl, hrun, rfl⟩ | ⟨a, v, g, v', rfl, hs, hrun, rfl⟩ |
    hm | ⟨pkt, rest, hs, hw, hsync, rfl⟩
  · exact ⟨(Endpoint.step_pours hrun).carried_le.trans_lt hc, hv⟩
  · refine ⟨hc, ?_⟩
    rw [peer_of_some hs]
    exact (Endpoint.step_pours hrun).carried_le.trans_lt hv
  · obtain ⟨r, s, hc'⟩ := hm.client
    obtain ⟨r', s', hp'⟩ := hm.server
    rw [hc'] at hc
    rw [hp'] at hv
    exact ⟨hc, hv⟩
  · refine ⟨hc, ?_⟩
    simp [peer, hs, Endpoint.carried]

theorem Net.good_init (cfg : Config) (g : Globals) :
    ∃ s₁ s₂, Good cfg { globals := g, client := connecting cfg g.clock } s₁ s₂ := by
  obtain ⟨s₁, s₂, hsync, hl⟩ := Linked.connecting cfg g.clock
  exact ⟨s₁, s₂, hl, hsync, Or.inl ⟨stage_init cfg g, fun hne => absurd rfl hne⟩⟩

/-- **The invariant holds in every reachable state** that fits in the sequence space. -/
theorem Net.good_run {g : Globals} {evs : List Event} (hrun : Net.run cfg g evs = .ok n)
    (hfit : n.Fits cfg) : ∃ s₁ s₂, Good cfg n s₁ s₂ := by
  rw [Net.run, init_eq, ok_bind] at hrun
  refine run_induction (step cfg) (P := fun m => m.Fits cfg → ∃ s₁ s₂, Good cfg m s₁ s₂)
    (fun m ev m' hm hstep hfit' => ?_) (fun _ => good_init cfg g) hrun hfit
  have hfit := hfit'.of_step hstep
  exact good_step (hm hfit) hfit hstep

end Good

end NetStack
