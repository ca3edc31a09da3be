import TcpStack.Lib.Reaches
import TcpStack.Proofs.Answers

/-!
# TcpStack — the connection is never stuck

Whatever was lost, delayed or left waiting before: as long as neither application has closed, the
stack can still bring every byte written at one end to the reader at the other.

* **`Pair`** — the connection as one of its ends sees it, so that both directions are one.
* **`Pair.Leads`** — the stack brings the connection from one state to another.
-/

namespace NetStack

open Tiling Transition SlidingWindow

variable [HyLib]

theorem Net.run_reaches {cfg : Config} {g : Globals} {evs : List Event} {n n' : Net}
    (hrun : Net.run cfg g evs = .ok n) (h : ReachesBy (Net.step cfg) Net.Serves n n') :
    ∃ g evs, Net.run cfg g evs = .ok n' := by
  obtain ⟨es, -, hes⟩ := h
  obtain ⟨m, hm, hrun⟩ := bind_eq_ok.mp hrun
  refine ⟨g, evs ++ es, ?_⟩
  rw [Net.run, hm, ok_bind, run_append, hrun, ok_bind, hes]

/-! ## The connection as an end sees it -/

/-- Both ends and the channels from and to the end `near`. -/
structure Pair where
  globals : Globals
  near : Endpoint
  far : Endpoint
  out : List Packet
  inn : List Packet

namespace Pair

/-- The connection of a pair; `near` is the client or the server. -/
def net (client : Bool) (p : Pair) : Net :=
  match client with
  | true => { globals := p.globals, client := p.near, server := some p.far, toServer := p.out, toClient := p.inn }
  | false => { globals := p.globals, client := p.far, server := some p.near, toServer := p.inn, toClient := p.out }

/-- The same connection, seen from the other end. -/
def swap (p : Pair) : Pair := ⟨p.globals, p.far, p.near, p.inn, p.out⟩

variable {cfg : Config} {b : Bool} {p p' p'' : Pair} {g' : Globals} {e' : Endpoint} {a : Action}
  {pkt q : Packet} {rest l : List Packet}

theorem net_swap (b : Bool) (p : Pair) : p.swap.net b = p.net (!b) := by
  cases b <;> rfl

/-- The stack brings the connection from `p` to `p'`, and undoes nothing on the way. -/
structure Leads (cfg : Config) (b : Bool) (p p' : Pair) : Prop where
  goes : ReachesBy (Net.step cfg) Net.Serves (p.net b) (p'.net b)
  near : p.near.Grows p'.near
  far : p.far.Grows p'.far

theorem Leads.refl (cfg : Config) (b : Bool) (p : Pair) : Leads cfg b p p :=
  ⟨.refl _, .refl _, .refl _⟩

theorem Leads.trans (h : Leads cfg b p p') (h' : Leads cfg b p' p'') : Leads cfg b p p'' :=
  ⟨h.goes.trans h'.goes, h.near.trans h'.near, h.far.trans h'.far⟩

theorem Leads.swap (h : Leads cfg b p p') : Leads cfg (!b) p.swap p'.swap := by
  refine ⟨?_, h.far, h.near⟩
  rw [net_swap, net_swap, Bool.not_not]
  exact h.goes

/-- A connection that a run has reached, that nobody has closed, and whose sequence numbers are not
used up. -/
structure Sound (cfg : Config) (b : Bool) (p : Pair) : Prop where
  reached : ∃ g evs, Net.run cfg g evs = .ok (p.net b)
  near_open : p.near.Open
  far_open : p.far.Open
  near_small : p.near.written.length < 2 ^ 32 - 3
  far_small : p.far.written.length < 2 ^ 32 - 3

theorem Sound.swap (h : Sound cfg b p) : Sound cfg (!b) p.swap := by
  refine ⟨?_, h.far_open, h.near_open, h.far_small, h.near_small⟩
  rw [net_swap, Bool.not_not]
  exact h.reached

theorem Leads.sound (h : Leads cfg b p p') (hs : Sound cfg b p) : Sound cfg b p' := by
  obtain ⟨g, evs, hrun⟩ := hs.reached
  refine ⟨Net.run_reaches hrun h.goes, h.near.open_ hs.near_open, h.far.open_ hs.far_open, ?_, ?_⟩
  · rw [h.near.written]
    exact hs.near_small
  · rw [h.far.written]
    exact hs.far_small

/-! ## What is known of a sound connection -/

theorem Sound.fits (h : Sound cfg b p) : (p.net b).Fits cfg := by
  have h₁ : p.near.carried < 2 ^ 32 - 2 := by
    have := h.near_small
    rw [Endpoint.carried]
    omega
  have h₂ : p.far.carried < 2 ^ 32 - 2 := by
    have := h.far_small
    rw [Endpoint.carried]
    omega
  cases b with
  | true => exact ⟨h₁, h₂⟩
  | false => exact ⟨h₂, h₁⟩

theorem Sound.linked (h : Sound cfg b p) : ∃ s₁ s₂,
    Linked p.near p.far p.out p.inn s₁ s₂ ∧ Ready p.near s₁ := by
  obtain ⟨g, evs, hrun⟩ := h.reached
  obtain ⟨s₁, s₂, hgood⟩ := Net.good_run hrun h.fits
  cases b with
  | true => exact ⟨s₁, s₂, hgood.linked, hgood.ready_client⟩
  | false => exact ⟨s₂, s₁, hgood.linked.symm, hgood.ready_server⟩

theorem Sound.intact (h : Sound cfg b p) : (p.net b).Intact cfg := by
  obtain ⟨g, evs, hrun⟩ := h.reached
  exact Net.intact_run hrun h.fits

theorem Sound.armed (h : Sound cfg b p) : p.near.con.Armed := by
  cases b with
  | true => exact h.intact.client h.near_open
  | false => exact h.intact.server h.near_open

theorem Sound.calm (h : Sound cfg b p) : p.near.con.Calm ∧ p.near.finTasks = 0 := by
  obtain ⟨g, evs, hrun⟩ := h.reached
  obtain ⟨hc, hv⟩ := Net.calm_run hrun h.fits
  cases b with
  | true => exact hc h.near_open
  | false => exact hv h.near_open

/-- The stage of the handshake, seen from the client. -/
theorem Sound.phase (h : Sound cfg true p) :
    Phase p.near p.far (flight p.near p.far p.out) (flight p.far p.near p.inn) :=
  h.intact.stage h.far_open

/-- The stage of the handshake, seen from the server. -/
theorem Sound.phase_server (h : Sound cfg false p) :
    Phase p.far p.near (flight p.far p.near p.inn) (flight p.near p.far p.out) :=
  h.swap.phase

/-- No SYN is on its way to an end in ESTABLISHED. -/
theorem Sound.no_syn (h : Sound cfg b p) (hst : p.near.con.state = .established) :
    ∀ pkt ∈ p.near.con.pktRecvBuffer, pkt.kind ≠ .syn := by
  intro pkt hpkt hk
  have hsync := Packet.sync_of_kind_syn hk
  have hmem : pkt ∈ flight p.far p.near p.inn := by simp [flight, hpkt]
  cases b with
  | true =>
    cases h.phase with
    | listening client _ _ => simp [client.state] at hst
    | synRcvd client _ _ => simp [client.state] at hst
    | half _ _ _ _ _ _ hdown =>
      rcases hdown pkt hmem with hsa | hack
      · simp [hsa.1] at hk
      · simp [hack] at hk
    | opened _ _ _ _ hdown => simp [(hdown pkt hmem hsync).1] at hk
  | false =>
    cases h.phase_server with
    | listening _ server _ => simp [server.state] at hst
    | synRcvd _ server _ => simp [server.state] at hst
    | half _ _ server _ _ _ _ => simp [server.state] at hst
    | opened _ _ _ hup _ => simp [hup pkt hmem] at hsync

/-! ## Steps -/

/-- **A step that is due.** -/
theorem Sound.act (h : Sound cfg b p) (hdue : p.near.Due a)
    (hrun : p.near.step p.globals a = .ok (g', e')) :
    Leads cfg b p { p with globals := g', near := e' } := by
  obtain ⟨s₁, s₂, hlinked, hready⟩ := h.linked
  refine ⟨?_, hlinked.grows hready h.near_open h.far_open h.near_small h.far_small (fun hst => ?_)
    hdue hrun, .refl _⟩
  · cases b with
    | true =>
      refine ReachesBy.single (e := .client a) hdue ?_
      simp [net, Net.step, hrun, bind, Except.bind]
    | false =>
      refine ReachesBy.single (e := .server a) (fun v hv => ?_) ?_
      · cases hv
        exact hdue
      · simp [net, Net.step, hrun, bind, Except.bind]
  · exact Endpoint.established_step hst h.calm.2 (h.no_syn hst) (hlinked.no_fin h.far_open) hrun

theorem grows_requeue (e : Endpoint) (r s : List Packet) : e.Grows (e.requeue r s) :=
  ⟨rfl, List.prefix_refl _, List.prefix_refl _, rfl, rfl, le_rfl, le_rfl, le_rfl, id⟩

/-- What waits for the channel enters it. -/
theorem send (cfg : Config) (b : Bool) (p : Pair) : Leads cfg b p { p with
    near := p.near.requeue p.near.con.pktRecvBuffer []
    out := p.out ++ p.near.con.pktSendBuffer } := by
  refine ⟨?_, grows_requeue _ _ _, .refl _⟩
  cases b with
  | true => exact ReachesBy.single (e := .sendToServer) trivial rfl
  | false => exact ReachesBy.single (e := .sendToClient) trivial rfl

theorem deliver_next (cfg : Config) (b : Bool) (hout : p.out = pkt :: rest) : Leads cfg b p { p with
    far := p.far.requeue (p.far.con.pktRecvBuffer ++ [pkt]) p.far.con.pktSendBuffer
    out := rest } := by
  refine ⟨?_, .refl _, grows_requeue _ _ _⟩
  cases b with
  | true =>
    refine ReachesBy.single (e := .deliverToServer) trivial ?_
    simp only [net, Net.step, hout, Net.demultiplexToServer]
    rfl
  | false =>
    refine ReachesBy.single (e := .deliverToClient) trivial ?_
    simp only [net, Net.step, hout]
    rfl

/-- The channel is emptied. Induction on what is in it. -/
theorem deliver_all (cfg : Config) (b : Bool) (p : Pair) : Leads cfg b p { p with
    far := p.far.requeue (p.far.con.pktRecvBuffer ++ p.out) p.far.con.pktSendBuffer
    out := [] } := by
  induction hout : p.out generalizing p with
  | nil =>
    have hsame : { p with
        far := p.far.requeue (p.far.con.pktRecvBuffer ++ []) p.far.con.pktSendBuffer
        out := [] } = p := by
      rw [List.append_nil, ← hout]
      rfl
    rw [hsame]
    exact .refl cfg b p
  | cons pkt rest ih =>
    refine (deliver_next cfg b hout).trans ?_
    have := ih { p with
      far := p.far.requeue (p.far.con.pktRecvBuffer ++ [pkt]) p.far.con.pktSendBuffer
      out := rest } rfl
    simpa [Endpoint.requeue, List.append_assoc] using this

/-- **An end handles its next packet.** -/
theorem Sound.handle (h : Sound cfg b p) (hbuf : p.near.con.pktRecvBuffer = pkt :: rest) :
    ∃ g' e', p.near.handleNext p.globals = .ok (g', e') ∧ e'.con.pktRecvBuffer = rest ∧
      Leads cfg b p { p with globals := g', near := e' } := by
  obtain ⟨s₁, s₂, hlinked, hready⟩ := h.linked
  have hend₁ := hlinked.out.sends.offset_lt_of_open h.near_open h.near_small
  have hend₂ := hlinked.inn.sends.offset_lt_of_open h.far_open h.far_small
  have hr := offset_mono s₂.hist hlinked.inn.inv.rcvd_le
  obtain ⟨⟨g', e'⟩, hrun⟩ := hlinked.step_ok hready hend₁.le hend₂.le (by omega) p.globals
    (a := .handlePacket) rfl
  refine ⟨g', e', hrun, ?_, h.act (a := .handlePacket) trivial hrun⟩
  replace hrun : p.near.handleNext p.globals = .ok (g', e') := hrun
  cases b with
  | true =>
    have hphase : Phase p.near p.far (flight p.near p.far p.out)
      (pkt :: (rest ++ p.inn ++ p.far.con.pktSendBuffer)) := by
      have := h.phase
      simpa [flight, hbuf] using this
    exact (hphase.client_handle hbuf hrun).1
  | false =>
    have hphase : Phase p.far p.near (pkt :: (rest ++ p.inn ++ p.far.con.pktSendBuffer))
      (flight p.near p.far p.out) := by
      have := h.phase_server
      simpa [flight, hbuf] using this
    exact (hphase.server_handle hbuf hrun).1

/-- An end handles its packets up to a given one. Induction on those in front of it. -/
theorem Sound.handle_to (h : Sound cfg b p) (hbuf : p.near.con.pktRecvBuffer = l ++ [q]) :
    ∃ p', Leads cfg b p p' ∧ p'.near.con.pktRecvBuffer = [q] ∧ p'.far = p.far ∧ p'.out = p.out ∧
      p'.inn = p.inn := by
  induction l generalizing p with
  | nil => exact ⟨p, .refl cfg b p, hbuf, rfl, rfl, rfl⟩
  | cons pkt rest ih =>
    obtain ⟨g', e', -, hrest, hleads⟩ := h.handle hbuf
    obtain ⟨p', hp', hq, hfar, hout, hinn⟩ := ih (hleads.sound h) hrest
    exact ⟨p', hleads.trans hp', hq, hfar, hout, hinn⟩

/-- **What an end sent last becomes what the other end handles next.** -/
theorem Sound.bring (h : Sound cfg b p) (hq : p.near.con.pktSendBuffer = l ++ [q]) :
    ∃ p', Leads cfg b p p' ∧ p'.far.con.pktRecvBuffer = [q] := by
  have hsend := send cfg b p
  have hdeliver := deliver_all cfg b { p with
    near := p.near.requeue p.near.con.pktRecvBuffer []
    out := p.out ++ p.near.con.pktSendBuffer }
  have hleads := hsend.trans hdeliver
  obtain ⟨p', hp', hbuf, -⟩ := (hleads.sound h).swap.handle_to
    (l := p.far.con.pktRecvBuffer ++ (p.out ++ l)) (q := q) (by
      show p.far.con.pktRecvBuffer ++ (p.out ++ p.near.con.pktSendBuffer) = _
      simp [hq])
  have hback := hp'.swap
  rw [Bool.not_not] at hback
  exact ⟨p'.swap, hleads.trans hback, hbuf⟩

/-- **The packet that has waited longest can be brought to the other end.** The timeout sends it
again. -/
theorem Sound.resend (h : Sound cfg b p) {node : SendWindowNode} {nodes : List SendWindowNode}
    (hq : p.near.con.sendWindow.pktsToAck = node :: nodes) :
    ∃ p', Leads cfg b p p' ∧ p'.far.con.pktRecvBuffer = [node.pkt] := by
  obtain ⟨s₁, s₂, hlinked, -⟩ := h.linked
  obtain ⟨hsend, -⟩ := hlinked.timeout_emits hq
  have hout := h.act (a := .timeoutReTransmitter) (h.armed.timer (by simp [hq])) rfl
  obtain ⟨p₁, hp₁, hbuf⟩ := (hout.sound h).bring hsend
  exact ⟨p₁, hout.trans hp₁, hbuf⟩

/-! ## What can be achieved -/

/-- An end in ESTABLISHED has its SYN acknowledged. -/
theorem connected {c : TcpController} (hst : c.state = .established) :
    c.inConnectingState = false := by
  simp [TcpController.inConnectingState, hst]

/-- **An end handles an acknowledgement**: it takes over what the acknowledgement says. -/
theorem Sound.learn (h : Sound cfg b p) (hbuf : p.near.con.pktRecvBuffer = pkt :: rest)
    (hkind : pkt.kind = .ack) : ∃ p', Leads cfg b p p' ∧
      p'.near.con.sendWindow.capacity = pkt.tcpHeader.windowSize.toUInt32 ∧
      (p.near.con.sendWindow.sendBase.toNat < pkt.tcpHeader.ackNum.toNat →
        p'.near.con.sendWindow.sendBase = pkt.tcpHeader.ackNum) := by
  obtain ⟨g', e', hrun, -, hleads⟩ := h.handle hbuf
  obtain ⟨c, hc, rfl⟩ := Endpoint.handleNext_cons hbuf hrun
  obtain ⟨hcap, hbase⟩ := TcpController.handleACK_sets hkind hc
  exact ⟨_, hleads, hcap, fun hlt => hbase (UInt32.lt_iff_toNat_lt.mpr hlt)⟩

/-- **The oldest packet can be acknowledged.** The timeout sends it again, the other end answers
beyond its start, and the answer moves the send base. -/
theorem Sound.acked (h : Sound cfg b p) (hst : p.near.con.state = .established)
    (hq : p.near.con.sendWindow.pktsToAck ≠ []) : ∃ p', Leads cfg b p p' ∧
      p.near.con.sendWindow.sendBase.toNat < p'.near.con.sendWindow.sendBase.toNat := by
  obtain ⟨node, nodes, hnode⟩ := List.exists_cons_of_ne_nil hq
  obtain ⟨s₁, s₂, hlinked, hready⟩ := h.linked
  have hend := hlinked.out.sends.offset_lt_of_open h.near_open h.near_small
  have hno := hlinked.out.sends.noFin_of_open (by simp [h.near_open.1, h.near_open.2])
  obtain ⟨-, hseq, hhead⟩ := hlinked.timeout_emits hnode
  obtain ⟨hkind, hsize⟩ := hlinked.out.sends.history.data_of_pos hno
    (hready.opened (.inl (connected hst))) hhead
  have hle := hlinked.out.sendBase_le_recvBase hend
  -- the packet is the next one to be handled
  obtain ⟨p₁, hto, hbuf₁⟩ := h.resend hnode
  have hfar := (hto.sound h).swap
  obtain ⟨t₁, t₂, hlinked₁, -⟩ := hfar.linked
  obtain ⟨g', e', hrun, -, hans⟩ := hfar.handle hbuf₁
  obtain ⟨q, hpkt, hack, hnum, hlt⟩ := hlinked₁.answers
    (hlinked₁.inn.sends.offset_lt_of_open hfar.far_open hfar.far_small) hbuf₁ hkind hsize
    (by rw [hseq]; exact hle.trans hto.far.recvBase) hrun
  -- the answer comes back
  obtain ⟨p₂, hp₂, hbuf₂⟩ := (hans.sound hfar).bring hpkt
  have hback := (hans.trans hp₂).swap
  rw [Bool.not_not] at hback
  have hto₂ := hto.trans hback
  obtain ⟨p₃, hp₃, -, hbase⟩ := (hto₂.sound h).learn hbuf₂ hack
  refine ⟨p₃, hto₂.trans hp₃, ?_⟩
  have hnear := hto₂.near.sendBase
  have hnear₃ := hp₃.near.sendBase
  rw [hseq] at hlt
  rw [hnum] at hbase
  by_cases hnew : p₂.swap.near.con.sendWindow.sendBase.toNat < e'.con.recvWindow.recvBase.toNat
  · rw [hbase hnew]
    exact hlt
  · omega

/-- **A window with a capacity and nothing in it takes bytes from the send buffer.** -/
theorem Sound.packed (h : Sound cfg b p) (hst : p.near.con.state = .established)
    (hbytes : p.near.con.sendBuffer.bytes ≠ []) (hq : p.near.con.sendWindow.pktsToAck = [])
    (hcap : p.near.con.sendWindow.capacity ≠ 0) : ∃ p', Leads cfg b p p' ∧
      p'.near.con.sendBuffer.size < p.near.con.sendBuffer.size := by
  obtain ⟨s₁, s₂, hlinked, hready⟩ := h.linked
  have hno := hlinked.out.sends.noFin_of_open (by simp [h.near_open.1, h.near_open.2])
  obtain ⟨c, hc, hlt⟩ := hlinked.sendBufferListener_sends (hready.opened (.inl (connected hst))) hno h.armed
    h.calm.1.shutdown (connected hst) hbytes hq hcap p.globals.clock
  have hrun : p.near.step p.globals .sendBufferListener
      = .ok (p.globals, { p.near with con := c }) := by
    rw [Endpoint.step, hc]
    rfl
  exact ⟨_, h.act (a := .sendBufferListener) trivial hrun, hlt⟩

/-- The prober runs while the window is closed. -/
theorem Sound.prober (h : Sound cfg b p) (hst : p.near.con.state = .established)
    (hbytes : p.near.con.sendBuffer.bytes ≠ []) (hcap : p.near.con.sendWindow.capacity = 0) :
    ∃ p', Leads cfg b p p' ∧ p'.near.con.proberTimer.isStarted ∧
      p'.near.con.sendWindow.capacity = 0 ∧ p'.far = p.far := by
  by_cases hprober : p.near.con.proberTimer.isStarted
  · exact ⟨p, .refl cfg b p, hprober, hcap, rfl⟩
  · have hc := TcpController.sendBufferListener_probes h.calm.1.shutdown (connected hst) hbytes hcap
      hprober p.globals.clock
    have hrun : p.near.step p.globals .sendBufferListener
        = .ok (p.globals, { p.near with con :=
            { p.near.con with sending := true, proberTimer := p.near.con.proberTimer.restart } }) := by
      rw [Endpoint.step, hc]
      rfl
    exact ⟨_, h.act (a := .sendBufferListener) trivial hrun, Timer.isStarted_restart _, hcap, rfl⟩

/-- An open end at which no FIN has arrived. -/
theorem Sound.pipe (h : Sound cfg b p) : p.near.con.pipeState = .opened := by
  obtain ⟨s₁, s₂, hlinked, -⟩ := h.linked
  exact hlinked.inn.opened h.far_open

/-- **The application reads everything that has arrived.** -/
theorem Sound.readAll (h : Sound cfg b p) : ∃ p', Leads cfg b p p' ∧
    p'.near.readOut = p.near.readOut ++ p.near.con.recvBuffer.bytes ∧
    p'.near.con.recvBuffer.bytes = [] ∧
    p'.near.con.pktRecvBuffer = p.near.con.pktRecvBuffer ∧ p'.far = p.far := by
  obtain ⟨bu, hnil, hcap, hread⟩ := Endpoint.readAll h.pipe h.calm.1.shutdown
  have hrun : p.near.step p.globals (.readData p.near.con.recvBuffer.size)
      = .ok (p.globals, { p.near with
        con := { p.near.con with recvBuffer := bu }
        readOut := p.near.readOut ++ p.near.con.recvBuffer.bytes }) := by
    rw [Endpoint.step, hread]
    rfl
  exact ⟨_, h.act (a := .readData p.near.con.recvBuffer.size) trivial hrun, rfl, hnil, rfl, rfl⟩

/-- The receive buffers keep their sizes. -/
theorem Sound.capacity_pos (h : Sound cfg b p)
    (hroom : 0 < cfg.clientRecvBuffer ∧ 0 < cfg.serverRecvBuffer) :
    0 < p.near.con.recvBuffer.capacity := by
  obtain ⟨g, evs, hrun⟩ := h.reached
  obtain ⟨hc, hv⟩ := Net.recvBuffer_capacity hrun
  cases b with
  | true =>
    have : p.near.con.recvBuffer.capacity = cfg.clientRecvBuffer := hc
    omega
  | false =>
    have : p.near.con.recvBuffer.capacity = cfg.serverRecvBuffer := hv
    omega

/-- **An end that has read everything answers a probe with a window.** -/
theorem Sound.reports (h : Sound cfg b p) (hbuf : p.near.con.pktRecvBuffer = [pkt])
    (hkind : pkt.kind = .data) (hsize : pkt.payloadSize = 0)
    (hnil : p.near.con.recvBuffer.bytes = [])
    (hroom : 0 < cfg.clientRecvBuffer ∧ 0 < cfg.serverRecvBuffer) : ∃ p' l q, Leads cfg b p p' ∧
      p'.near.con.pktSendBuffer = l ++ [q] ∧ q.kind = .ack ∧ q.tcpHeader.windowSize.toNat ≠ 0 := by
  obtain ⟨g', e', hrun, -, hleads⟩ := h.handle hbuf
  obtain ⟨c, hc, rfl⟩ := Endpoint.handleNext_cons hbuf hrun
  rw [TcpController.probe_answered hkind hsize hc] at hleads
  refine ⟨_, _, _, hleads, rfl, TcpController.makeAckPacket_kind _ _, ?_⟩
  obtain ⟨s₁, s₂, hlinked, -⟩ := h.linked
  have hpos := h.capacity_pos hroom
  have hsmall := hlinked.inn.small
  have hfree := p.near.con.recvBuffer.size_add_freeSpace
  rw [hnil, List.length_nil] at hfree
  show (UInt16.ofNat p.near.con.recvBuffer.freeSpace).toNat ≠ 0
  rw [UInt16.toNat_ofNat_of_lt' (by simp only [UInt16.size]; omega)]
  omega

/-- **A closed window can be opened.** The prober asks, the application at the other end has read
everything, and the answer says so. -/
theorem Sound.opened (h : Sound cfg b p) (hst : p.near.con.state = .established)
    (hbytes : p.near.con.sendBuffer.bytes ≠ [])
    (hroom : 0 < cfg.clientRecvBuffer ∧ 0 < cfg.serverRecvBuffer) :
    ∃ p', Leads cfg b p p' ∧ p'.near.con.sendWindow.capacity ≠ 0 := by
  by_cases hcap : p.near.con.sendWindow.capacity = 0
  · obtain ⟨p₁, hp₁, hprober, hcap₁, -⟩ := h.prober hst hbytes hcap
    have h₁ := hp₁.sound h
    -- the probe goes out and is the next packet to be handled
    set seqNum := p₁.near.con.sendWindow.nextSeqNumberToSend
    have hsend : p₁.near.con.probeWindowSize.pktSendBuffer
        = p₁.near.con.pktSendBuffer ++ [p₁.near.con.makeDataPacket seqNum [] 0] := by
      have hcopy : (p₁.near.con.makeDataPacket seqNum [] 0).copy
          = p₁.near.con.makeDataPacket seqNum [] 0 := Packet.Copyable.copy_eq (Or.inl rfl)
      rw [TcpController.probeWindowSize, if_pos hcap₁, hcopy]
      rfl
    have hout := h₁.act (a := .probeWindowSize) hprober rfl
    obtain ⟨p₂, hp₂, hbuf₂⟩ := (hout.sound h₁).bring hsend
    have hto := hp₁.trans (hout.trans hp₂)
    -- the other end reads before it answers
    have hfar := (hto.sound h).swap
    obtain ⟨p₃, hp₃, -, hnil, hsame, -⟩ := hfar.readAll
    obtain ⟨p₄, l, q, hp₄, hpkt, hack, hwin⟩ := (hp₃.sound hfar).reports (hsame.trans hbuf₂) rfl rfl
      hnil hroom
    have hback := hp₃.trans hp₄
    obtain ⟨p₅, hp₅, hbuf₅⟩ := (hback.sound hfar).bring hpkt
    have hto₅ := (hback.trans hp₅).swap
    rw [Bool.not_not] at hto₅
    have hleads := hto.trans hto₅
    obtain ⟨p₆, hp₆, hcap₆, -⟩ := (hleads.sound h).learn hbuf₅ hack
    refine ⟨p₆, hleads.trans hp₆, fun h0 => hwin ?_⟩
    rw [hcap₆] at h0
    have := congrArg UInt32.toNat h0
    rwa [UInt16.toNat_toUInt32] at this
  · exact ⟨p, .refl cfg b p, hcap⟩

/-! ## Everything is brought over -/

/-- Nothing is left to send. -/
def Drained (p : Pair) : Prop :=
  p.near.con.sendBuffer.bytes = [] ∧ p.near.con.sendWindow.pktsToAck = []

/-- What is left to do: bytes to send, and sequence numbers to be acknowledged. -/
def left (p : Pair) : ℕ :=
  p.near.con.sendBuffer.size + (2 ^ 32 - p.near.con.sendWindow.sendBase.toNat)

theorem Leads.left_le (h : Leads cfg b p p') : p'.left ≤ p.left := by
  have h₁ := h.near.sendBuffer
  have h₂ := h.near.sendBase
  rw [left, left]
  omega

/-- **As long as something is left to send, less can be left.** -/
theorem Sound.less (h : Sound cfg b p) (hst : p.near.con.state = .established)
    (hroom : 0 < cfg.clientRecvBuffer ∧ 0 < cfg.serverRecvBuffer) (hne : ¬ p.Drained) :
    ∃ p', Leads cfg b p p' ∧ p'.left < p.left := by
  have hacked : ∀ {p : Pair}, Sound cfg b p → p.near.con.state = .established →
      p.near.con.sendWindow.pktsToAck ≠ [] → ∃ p', Leads cfg b p p' ∧ p'.left < p.left := by
    intro p h hst hq
    obtain ⟨p', hp', hlt⟩ := h.acked hst hq
    refine ⟨p', hp', ?_⟩
    have h₁ := hp'.near.sendBuffer
    have h₂ := p'.near.con.sendWindow.sendBase.toNat_lt
    rw [left, left]
    omega
  by_cases hq : p.near.con.sendWindow.pktsToAck = []
  · have hbytes : p.near.con.sendBuffer.bytes ≠ [] := fun hnil => hne ⟨hnil, hq⟩
    -- the window is opened, and then used
    obtain ⟨p₁, hp₁, hcap⟩ := h.opened hst hbytes hroom
    have h₁ := hp₁.sound h
    have hst₁ := hp₁.near.established hst
    have hle := hp₁.left_le
    by_cases hq₁ : p₁.near.con.sendWindow.pktsToAck = []
    · by_cases hbytes₁ : p₁.near.con.sendBuffer.bytes = []
      · refine ⟨p₁, hp₁, ?_⟩
        have hpos : 0 < p.near.con.sendBuffer.size := by
          rw [RingBuffer.size_eq]
          exact List.length_pos_iff.mpr hbytes
        have h₂ := hp₁.near.sendBase
        have hzero : p₁.near.con.sendBuffer.size = 0 := by
          rw [RingBuffer.size_eq, hbytes₁, List.length_nil]
        rw [left, left]
        omega
      · obtain ⟨p₂, hp₂, hlt⟩ := h₁.packed hst₁ hbytes₁ hq₁ hcap
        refine ⟨p₂, hp₁.trans hp₂, ?_⟩
        have h₂ := hp₂.near.sendBase
        rw [left, left] at hle ⊢
        omega
    · obtain ⟨p₂, hp₂, hlt⟩ := hacked h₁ hst₁ hq₁
      exact ⟨p₂, hp₁.trans hp₂, by omega⟩
  · exact hacked h hst hq

/-- **Everything that was written can be acknowledged.** -/
theorem Sound.drain (h : Sound cfg b p) (hst : p.near.con.state = .established)
    (hroom : 0 < cfg.clientRecvBuffer ∧ 0 < cfg.serverRecvBuffer) :
    ∃ p', Leads cfg b p p' ∧ p'.Drained := by
  have hless : ∀ p, Sound cfg b p ∧ p.near.con.state = .established → ¬ p.Drained →
      ∃ p', Leads cfg b p p' ∧ (Sound cfg b p' ∧ p'.near.con.state = .established) ∧
        p'.left < p.left := by
    intro p ⟨h, hst⟩ hne
    obtain ⟨p', hp', hlt⟩ := h.less hst hroom hne
    exact ⟨p', hp', ⟨hp'.sound h, hp'.near.established hst⟩, hlt⟩
  obtain ⟨p', hp', -, hd⟩ := exists_of_measure (.refl cfg b) .trans left hless ⟨h, hst⟩
  exact ⟨p', hp', hd⟩

/-- What was acknowledged has arrived. -/
theorem Sound.arrived (h : Sound cfg b p) (hd : p.Drained) :
    p.far.readOut ++ p.far.con.recvBuffer.bytes = p.near.written := by
  obtain ⟨s₁, s₂, hlinked, -⟩ := h.linked
  have huna := hlinked.out.sends.window.queue_eq_nil_iff.mp hd.2
  have hur := hlinked.out.inv.una_le_rcvd
  have hall : s₁.hist.take s₁.rcvd = s₁.hist := List.take_of_length_le (by omega)
  rw [hlinked.out.receives.delivered, hall, ← hlinked.out.sends.written, hd.1, List.append_nil]

/-- **Everything that was written can be read.** -/
theorem Sound.deliver (h : Sound cfg b p) (hst : p.near.con.state = .established)
    (hroom : 0 < cfg.clientRecvBuffer ∧ 0 < cfg.serverRecvBuffer) :
    ∃ p', Leads cfg b p p' ∧ p'.far.readOut = p.near.written := by
  obtain ⟨p₁, hp₁, hd⟩ := h.drain hst hroom
  have h₁ := hp₁.sound h
  obtain ⟨p₂, hp₂, hread, -⟩ := h₁.swap.readAll
  have hback := hp₂.swap
  rw [Bool.not_not] at hback
  refine ⟨p₂.swap, hp₁.trans hback, ?_⟩
  exact hread.trans ((h₁.arrived hd).trans hp₁.near.written)

/-- What was read once is not unread. -/
theorem Sound.stays (h : Sound cfg b p) (hread : p.far.readOut = p.near.written)
    (hp : Leads cfg b p p') : p'.far.readOut = p'.near.written := by
  obtain ⟨s₁, s₂, hlinked, -⟩ := (hp.sound h).linked
  refine hlinked.out.readOut_prefix.eq_of_length_le ?_
  rw [hp.near.written, ← hread]
  exact hp.far.readOut.length_le

/-- **Both directions.** -/
theorem Sound.deliver_both (h : Sound cfg b p) (hst : p.near.con.state = .established)
    (hst' : p.far.con.state = .established)
    (hroom : 0 < cfg.clientRecvBuffer ∧ 0 < cfg.serverRecvBuffer) :
    ∃ p', Leads cfg b p p' ∧ p'.far.readOut = p'.near.written ∧ p'.near.readOut = p'.far.written := by
  obtain ⟨p₁, hp₁, hread⟩ := h.deliver hst hroom
  have h₁ := hp₁.sound h
  obtain ⟨p₂, hp₂, hread₂⟩ := h₁.swap.deliver (hp₁.far.established hst') hroom
  have hback := hp₂.swap
  rw [Bool.not_not] at hback
  have hfirst : p₁.far.readOut = p₁.near.written := hread.trans hp₁.near.written.symm
  exact ⟨p₂.swap, hp₁.trans hback, h₁.stays hfirst hback, hread₂.trans hp₂.near.written.symm⟩

end Pair

end NetStack
