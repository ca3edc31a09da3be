import TcpStack.Proofs.OpenEnds
import TcpStack.Proofs.Timers

/-!
# TcpStack — the stack at work

What the stack does for two applications that do not close: its threads run, its timers fire when
they are started, the network delivers. Nothing of it undoes what was achieved before.

* **`Endpoint.Due`** / **`Net.Serves`** — the steps that are due.
* **`Endpoint.Grows`** — what a step that is due moves forward.
* **`Net.intact_run`** — at an open end the retransmission timer runs as long as a packet waits for
  its acknowledgement, and the handshake is at one of its stages.
-/

namespace NetStack

open Tiling Transition SlidingWindow

variable [HyLib]

/-! ## Steps that are due -/

/-- The stack's threads run, and its timers fire when they are started. The application reads. -/
def Endpoint.Due (e : Endpoint) : Action → Prop
  | .writeData _ => False
  | .shutDown => False
  | .close => False
  | .timeoutReTransmitter => e.con.timer.isStarted
  | .probeWindowSize => e.con.proberTimer.isStarted
  | _ => True

/-- A step that is due at one end, or a packet that moves. Nothing is lost. -/
def Net.Serves (n : Net) : Event → Prop
  | .client a => n.client.Due a
  | .server a => ∀ v, n.server = some v → v.Due a
  | .dropToServer _ => False
  | .dropToClient _ => False
  | .environment _ => False
  | _ => True

/-- What a step that is due moves forward, and what it leaves alone. -/
structure Endpoint.Grows (e e' : Endpoint) : Prop where
  written : e'.written = e.written
  readOut : e.readOut <+: e'.readOut
  handled : e.handled <+: e'.handled
  shutDown : e'.shutDown = e.shutDown
  closed : e'.closed = e.closed
  sendBase : e.con.sendWindow.sendBase.toNat ≤ e'.con.sendWindow.sendBase.toNat
  recvBase : e.con.recvWindow.recvBase.toNat ≤ e'.con.recvWindow.recvBase.toNat
  sendBuffer : e'.con.sendBuffer.size ≤ e.con.sendBuffer.size
  established : e.con.state = .established → e'.con.state = .established

namespace Endpoint

variable {e e' e'' : Endpoint} {g g' : Globals} {a : Action}

theorem Grows.refl (e : Endpoint) : e.Grows e :=
  ⟨rfl, List.prefix_refl _, List.prefix_refl _, rfl, rfl, le_rfl, le_rfl, le_rfl, id⟩

theorem Grows.trans (h : e.Grows e') (h' : e'.Grows e'') : e.Grows e'' :=
  ⟨h'.written.trans h.written, h.readOut.trans h'.readOut, h.handled.trans h'.handled,
    h'.shutDown.trans h.shutDown, h'.closed.trans h.closed, h.sendBase.trans h'.sendBase,
    h.recvBase.trans h'.recvBase, h'.sendBuffer.trans h.sendBuffer,
    fun hst => h'.established (h.established hst)⟩

theorem Grows.open_ (h : e.Grows e') (ho : e.Open) : e'.Open :=
  ⟨h.shutDown.trans ho.1, h.closed.trans ho.2⟩

/-- A read appends what it returns. -/
theorem readData_appends {size : ℕ} (h : e.readData size = .ok e') :
    e.readOut <+: e'.readOut ∧ e'.written = e.written ∧ e'.shutDown = e.shutDown ∧
      e'.closed = e.closed := by
  unfold readData at h
  obtain ⟨r, -, h⟩ := bind_eq_ok.mp h
  split at h
  · cases h
    exact ⟨List.prefix_refl _, rfl, rfl, rfl⟩
  · cases h
    exact ⟨List.prefix_append _ _, rfl, rfl, rfl⟩

/-- A step that is due leaves the application's side alone, but for its reads. -/
theorem due_keeps (hdue : e.Due a) (h : e.step g a = .ok (g', e')) :
    e.readOut <+: e'.readOut ∧ e'.written = e.written ∧ e'.shutDown = e.shutDown ∧
      e'.closed = e.closed := by
  by_cases hread : ∃ size, a = .readData size
  · obtain ⟨size, rfl⟩ := hread
    obtain ⟨e₁, h₁, heq⟩ := map_eq_ok.mp h
    cases heq
    exact readData_appends h₁
  · have ha : a.isCall = false := by
      cases a with
      | readData size => exact absurd ⟨size, rfl⟩ hread
      | writeData buf => exact hdue.elim
      | shutDown => exact hdue.elim
      | close => exact hdue.elim
      | _ => rfl
    have hk := step_kept ha h
    exact ⟨hk.readOut ▸ List.prefix_refl _, hk.written, hk.shutDown, hk.closed⟩

/-- What was handled stays handled. -/
theorem handled_prefix (h : e.step g a = .ok (g', e')) : e.handled <+: e'.handled := by
  by_cases ha : a = .handlePacket
  · subst ha
    replace h : e.handleNext g = .ok (g', e') := h
    cases hbuf : e.con.pktRecvBuffer with
    | nil =>
      simp only [handleNext, hbuf] at h
      cases h
      exact List.prefix_refl _
    | cons pkt rest =>
      obtain ⟨c, -, rfl⟩ := handleNext_cons hbuf h
      exact List.prefix_append _ _
  · rw [(step_quiet ha h).handled]

/-- The states of an end that has begun the handshake, before any FIN. -/
def Begun (e : Endpoint) : Prop :=
  e.con.state = .synSent ∨ e.con.state = .synRcvd ∨ e.con.state = .established

/-- Without a FIN to send, only a packet changes the state. -/
theorem state_of_no_fin (h0 : e.finTasks = 0) (ha : a ≠ .handlePacket)
    (h : e.step g a = .ok (g', e')) : e'.con.state = e.con.state := by
  rcases step_registers ha h with ⟨hs, -⟩ | ⟨-, hdue, -⟩
  · exact hs
  · simp [finDue, h0] at hdue

/-- **Without FINs the handshake is all that changes the state.** -/
theorem handlePacket_begun {c c' : TcpController} {pkt : Packet}
    (h : c.handlePacket g pkt = .ok (g', c')) (hfin : pkt.kind ≠ .fin)
    (hc : c.state = .synSent ∨ c.state = .synRcvd ∨ c.state = .established) :
    (c'.state = .synSent ∨ c'.state = .synRcvd ∨ c'.state = .established) ∧
      (pkt.kind ≠ .syn → c.state = .established → c'.state = .established) ∧
      (pkt.kind = .ack → c'.state ≠ .synRcvd) := by
  cases TcpController.handlePacket_outcome h with
  | syn kind state _ _ _ _ =>
    refine ⟨?_, fun hk => absurd kind hk, fun hk => by simp [kind] at hk⟩
    rcases state with hs | hs
    · rwa [hs]
    · exact Or.inr (Or.inl hs)
  | synAck kind state _ _ _ _ _ =>
    refine ⟨?_, fun _ hst => ?_, fun hk => by simp [kind] at hk⟩
    · rcases state with hs | ⟨-, hs⟩
      · rwa [hs]
      · exact Or.inr (Or.inr hs)
    · rcases state with hs | ⟨-, hs⟩
      · exact hs.trans hst
      · exact hs
  | fin kind _ => exact absurd kind hfin
  | ack _ c₁ empty _ _ _ _ _ _ state _ _ _ result =>
    rw [result]
    rcases hc with hst | hst | hst
    · have hst₁ : c₁.state = .synSent := state.trans hst
      simp [TcpController.handleACKState, hst₁, hst]
    · have hst₁ : c₁.state = .synRcvd := state.trans hst
      simp [TcpController.handleACKState, hst₁]
    · have hst₁ : c₁.state = .established := state.trans hst
      simp [TcpController.handleACKState, hst₁]
  | rst kind result =>
    rw [result]
    exact ⟨hc, fun _ => id, fun hk => by simp [kind] at hk⟩
  | probe kind _ state _ _ _ _ =>
    rw [state]
    exact ⟨hc, fun _ => id, fun hk => by simp [kind] at hk⟩
  | data kind _ takes =>
    rw [takes.state]
    exact ⟨hc, fun _ => id, fun hk => by simp [kind] at hk⟩

theorem Begun.step (hb : e.Begun) (h0 : e.finTasks = 0)
    (hfin : ∀ pkt ∈ e.con.pktRecvBuffer, pkt.kind ≠ .fin) (h : e.step g a = .ok (g', e')) :
    e'.Begun := by
  by_cases ha : a = .handlePacket
  · subst ha
    replace h : e.handleNext g = .ok (g', e') := h
    cases hbuf : e.con.pktRecvBuffer with
    | nil =>
      simp only [handleNext, hbuf] at h
      cases h
      exact hb
    | cons pkt rest =>
      obtain ⟨c, hc, rfl⟩ := handleNext_cons hbuf h
      exact (handlePacket_begun hc (hfin pkt (by simp [hbuf])) hb).1
  · rw [Begun, state_of_no_fin h0 ha h]
    exact hb

/-- An end to which no SYN and no FIN is on its way stays in ESTABLISHED. -/
theorem established_step (hst : e.con.state = .established) (h0 : e.finTasks = 0)
    (hsyn : ∀ pkt ∈ e.con.pktRecvBuffer, pkt.kind ≠ .syn)
    (hfin : ∀ pkt ∈ e.con.pktRecvBuffer, pkt.kind ≠ .fin) (h : e.step g a = .ok (g', e')) :
    e'.con.state = .established := by
  by_cases ha : a = .handlePacket
  · subst ha
    replace h : e.handleNext g = .ok (g', e') := h
    cases hbuf : e.con.pktRecvBuffer with
    | nil =>
      simp only [handleNext, hbuf] at h
      cases h
      exact hst
    | cons pkt rest =>
      obtain ⟨c, hc, rfl⟩ := handleNext_cons hbuf h
      exact (handlePacket_begun hc (hfin pkt (by simp [hbuf])) (Or.inr (Or.inr hst))).2.1
        (hsyn pkt (by simp [hbuf])) hst
  · exact (state_of_no_fin h0 ha h).trans hst

end Endpoint

/-! ## The windows only move forward -/

section Windows

variable {e e' f f' : Endpoint} {wo wi wo' wi' : List Packet} {s s' s₁ s₂ s₁' s₂' : State Packet}

theorem Sends.sendBase_toNat (h : Sends e s) (hend : offset s.hist s.hist.length < 2 ^ 32) :
    e.con.sendWindow.sendBase.toNat = offset s.hist s.una := by
  have hle := offset_mono s.hist h.window.una_le
  rw [h.window.base, UInt32.toNat_ofNat_of_lt']
  simp only [UInt32.size]
  omega

theorem Receives.recvBase_toNat (h : Receives e s) (hfit : offset s.hist s.rcvd < 2 ^ 32) :
    e.con.recvWindow.recvBase.toNat = offset s.hist s.rcvd := by
  rw [h.base, UInt32.toNat_ofNat_of_lt']
  exact hfit

omit [HyLib] in
/-- Positions do not change when the history grows. -/
theorem offset_le_of_prefix {l l' : List Packet} (h : l <+: l') {i j : ℕ} (hi : i ≤ l.length)
    (hij : i ≤ j) : offset l i ≤ offset l' j := by
  obtain ⟨m, rfl⟩ := h
  rw [← offset_append m hi]
  exact offset_mono _ hij

/-- The send base of one end moves with what the other end has told it. -/
theorem Sends.sendBase_le (h : Sends e s) (h' : Sends e' s') (hi : Inv s) (hs : Steps s s')
    (hend : offset s.hist s.hist.length < 2 ^ 32) (hend' : offset s'.hist s'.hist.length < 2 ^ 32) :
    e.con.sendWindow.sendBase.toNat ≤ e'.con.sendWindow.sendBase.toNat := by
  rw [h.sendBase_toNat hend, h'.sendBase_toNat hend']
  exact offset_le_of_prefix hs.hist_prefix h.window.una_le (hi.una_le_of_steps hs)

/-- The receive base moves with what has arrived. -/
theorem Receives.recvBase_le (h : Receives e s) (h' : Receives e' s') (hi : Inv s)
    (hs : Steps s s') (hend : offset s.hist s.hist.length < 2 ^ 32)
    (hend' : offset s'.hist s'.hist.length < 2 ^ 32) :
    e.con.recvWindow.recvBase.toNat ≤ e'.con.recvWindow.recvBase.toNat := by
  have hr := offset_mono s.hist hi.rcvd_le
  have hr' := offset_mono s'.hist (hi.steps hs).rcvd_le
  rw [h.recvBase_toNat (by omega), h'.recvBase_toNat (by omega)]
  exact offset_le_of_prefix hs.hist_prefix hi.rcvd_le hs.rcvd_le

/-- What was packed does not come back to the send buffer. -/
theorem Sends.sendBuffer_le (h : Sends e s) (h' : Sends e' s') (hs : Steps s s')
    (hw : e'.written = e.written) : e'.con.sendBuffer.size ≤ e.con.sendBuffer.size := by
  have hlen := congrArg List.length h.written
  have hlen' := congrArg List.length h'.written
  obtain ⟨m, hm⟩ := hs.hist_prefix
  rw [hw, ← hm, stream_append] at hlen'
  simp only [List.length_append] at hlen hlen'
  rw [RingBuffer.size_eq, RingBuffer.size_eq]
  omega

/-- The send base is not ahead of the receive base. -/
theorem Direction.sendBase_le_recvBase (h : Direction e f s)
    (hend : offset s.hist s.hist.length < 2 ^ 32) :
    e.con.sendWindow.sendBase.toNat ≤ f.con.recvWindow.recvBase.toNat := by
  have hr := offset_mono s.hist h.inv.rcvd_le
  rw [h.sends.sendBase_toNat hend, h.receives.recvBase_toNat (by omega)]
  exact offset_mono _ h.inv.una_le_rcvd

/-- No FIN is on its way from an open end. -/
theorem Linked.no_fin (h : Linked e f wo wi s₁ s₂) (ho : f.Open) :
    ∀ pkt ∈ e.con.pktRecvBuffer, pkt.kind ≠ .fin := by
  intro pkt hpkt
  have hmem : pkt ∈ flight f e wi := by simp [flight, hpkt]
  rcases h.fromPeer.mem_cases hmem with hp | hk | ⟨hk, -⟩
  · intro hfin
    have hno := h.inn.sends.noFin_of_open (by simp [ho.1, ho.2]) pkt hp
    simp [Packet.fin_of_kind_fin hfin] at hno
  · simp [hk]
  · simp [hk]

/-- An open end is far from the end of its sequence numbers. -/
theorem Sends.offset_lt_of_open (h : Sends e s) (ho : e.Open)
    (hw : e.written.length < 2 ^ 32 - 3) : offset s.hist s.hist.length < 2 ^ 32 := by
  refine h.offset_lt_of_leavesRoom ?_ fun hsh _ => ?_
  · rw [Endpoint.carried]
    omega
  · rw [ho.1] at hsh
    cases hsh

/-- **A step that is due moves both windows forward.** -/
theorem Linked.grows (h : Linked e f wo wi s₁ s₂) (hready : Ready e s₁) (ho : e.Open)
    (ho' : f.Open) (hw : e.written.length < 2 ^ 32 - 3) (hw' : f.written.length < 2 ^ 32 - 3)
    (hest : e.con.state = .established → e'.con.state = .established) {g g' : Globals} {a : Action}
    (hdue : e.Due a) (hrun : e.step g a = .ok (g', e')) : e.Grows e' := by
  obtain ⟨hread, hwritten, hshut, hclosed⟩ := Endpoint.due_keeps hdue hrun
  have hend₁ := h.out.sends.offset_lt_of_open ho hw
  have hend₂ := h.inn.sends.offset_lt_of_open ho' hw'
  obtain ⟨s₁', s₂', hs₁, hs₂, h'⟩ := h.step hready hend₁.le hend₂.le hrun
  have hend₁' := h'.out.sends.offset_lt_of_open ⟨hshut.trans ho.1, hclosed.trans ho.2⟩
    (by rwa [hwritten])
  have hend₂' := h'.inn.sends.offset_lt_of_open ho' hw'
  exact ⟨hwritten, hread, Endpoint.handled_prefix hrun, hshut, hclosed,
    h.out.sends.sendBase_le h'.out.sends h.out.inv hs₁ hend₁ hend₁',
    h.inn.receives.recvBase_le h'.inn.receives h.inn.inv hs₂ hend₂ hend₂',
    h.out.sends.sendBuffer_le h'.out.sends hs₁ hwritten, hest⟩

end Windows

/-! ## The timer at an open end -/

namespace TcpController

variable {c c' : TcpController} {g g' : Globals} {pkt : Packet}

theorem Armed.receiveAndAck (h : c.Armed) (hrun : c.receiveAndAck pkt = .ok c') : c'.Armed := by
  obtain ⟨_, _, _, _, _, _, -, -, -, -, rfl⟩ := receiveAndAck_frame hrun
  exact ⟨h.timer, h.size⟩

/-- **No packet stops the timer of a queue that is not empty.** -/
theorem Armed.handlePacket (h : c.Armed) (hrun : c.handlePacket g pkt = .ok (g', c')) :
    c'.Armed := by
  unfold TcpController.handlePacket at hrun
  split at hrun
  · obtain ⟨c₁, h₁, heq⟩ := map_eq_ok.mp hrun
    cases heq
    exact h.handleSYN h₁
  · exact h.handleACKSYN hrun
  · obtain ⟨c₁, h₁, heq⟩ := map_eq_ok.mp hrun
    cases heq
    have hfin : c.handleFINState.Armed := by
      obtain ⟨st, k, hst⟩ := c.handleFINState_frame
      rw [hst]
      exact ⟨h.timer, h.size⟩
    exact hfin.receiveAndAck h₁
  · exact h.handleACK hrun
  · cases hrun
    exact ⟨h.timer, h.size⟩
  · obtain ⟨c₁, h₁, heq⟩ := map_eq_ok.mp hrun
    cases heq
    unfold handleDataPacket at h₁
    split at h₁
    · cases h₁
      exact ⟨h.timer, h.size⟩
    · exact h.receiveAndAck h₁

end TcpController

/-- **An end without a FIN to send keeps its timer running.** -/
theorem Endpoint.armed_step {e e' : Endpoint} {g g' : Globals} {a : Action} (h : e.con.Armed)
    (h0 : e.finTasks = 0) (hrun : e.step g a = .ok (g', e')) : e'.con.Armed := by
  cases a with
  | writeData buf =>
    cases hrun
    obtain ⟨b, l, hw, -⟩ := e.writeData_frame buf
    rw [hw]
    exact ⟨h.timer, h.size⟩
  | readData size =>
    obtain ⟨e₁, h₁, heq⟩ := map_eq_ok.mp hrun
    cases heq
    obtain ⟨b, ps, r, rfl, -, -⟩ := readData_frame h₁
    exact ⟨h.timer, h.size⟩
  | shutDown =>
    cases hrun
    obtain ⟨b, k, hs, -⟩ := e.shutDownSocket_frame
    rw [hs]
    exact h
  | close =>
    cases hrun
    obtain ⟨b, k, hs, -⟩ := e.closeSocket_frame
    rw [hs]
    exact h
  | sendFIN =>
    obtain ⟨e₁, h₁, heq⟩ := map_eq_ok.mp hrun
    cases heq
    rw [runSendFIN, if_pos (by simp [h0])] at h₁
    cases h₁
    exact h
  | sendBufferListener =>
    obtain ⟨c, h₁, heq⟩ := map_eq_ok.mp hrun
    cases heq
    exact h.sendBufferListener h₁
  | receiveBufferListener =>
    cases hrun
    obtain ⟨b, o, hb, -⟩ := e.con.receiveBufferListener_frame
    rw [hb]
    exact ⟨h.timer, h.size⟩
  | timeoutReTransmitter =>
    cases hrun
    exact h.timeoutReTransmitter
  | probeWindowSize =>
    cases hrun
    unfold TcpController.probeWindowSize
    split
    · exact ⟨h.timer, h.size⟩
    · exact h
  | handlePacket =>
    replace hrun : e.handleNext g = .ok (g', e') := hrun
    cases hbuf : e.con.pktRecvBuffer with
    | nil =>
      simp only [handleNext, hbuf] at hrun
      cases hrun
      exact h
    | cons pkt rest =>
      obtain ⟨c, hc, rfl⟩ := handleNext_cons hbuf hrun
      have h₁ : ({ e.con with pktRecvBuffer := rest } : TcpController).Armed := ⟨h.timer, h.size⟩
      exact h₁.handlePacket hc

/-! ## Along a run -/

namespace Net

variable {cfg : Config} {g : Globals} {evs : List Event} {n n' : Net} {ev : Event}

/-- What is kept until the applications close. -/
structure Intact (cfg : Config) (n : Net) : Prop where
  /-- No FIN comes before the handshake is over. -/
  stage : (n.peer cfg).Open → n.Stage cfg
  client : n.client.Open → n.client.con.Armed
  server : (n.peer cfg).Open → (n.peer cfg).con.Armed
  /-- No FIN comes at all. -/
  begun : n.client.Open → (n.peer cfg).Open → n.client.Begun ∧
    ((n.peer cfg).Begun ∨ (n.peer cfg).con.state = .closed ∧ (n.peer cfg).handled = [])

theorem intact_init (cfg : Config) (g : Globals) :
    Intact cfg { globals := g, client := connecting cfg g.clock } where
  stage _ := stage_init cfg g
  client _ := ⟨fun _ => Timer.isStarted_restart _, rfl⟩
  server _ := ⟨fun hne => absurd rfl hne, rfl⟩
  begun _ _ := ⟨Or.inl rfl, Or.inr ⟨rfl, rfl⟩⟩

/-- A server that has handled nothing waits for the SYN. -/
theorem server_begun {v v' : Endpoint} {g g' : Globals} {a : Action} (hv : n.server = some v)
    (hstage : n.Stage cfg) (h0 : v.finTasks = 0) (hst : v.con.state = .closed)
    (hnil : v.handled = []) (h : v.step g a = .ok (g', v')) :
    v'.Begun ∨ v'.con.state = .closed ∧ v'.handled = [] := by
  have hpeer : n.peer cfg = v := peer_of_some hv
  rw [Stage, hpeer] at hstage
  by_cases ha : a = .handlePacket
  · subst ha
    replace h : v.handleNext g = .ok (g', v') := h
    cases hbuf : v.con.pktRecvBuffer with
    | nil =>
      simp only [Endpoint.handleNext, hbuf] at h
      cases h
      exact Or.inr ⟨hst, hnil⟩
    | cons pkt rest =>
      cases hstage with
      | listening client server hdown =>
        have hmem : pkt ∈ n.up cfg := by simp [Net.up, flight, hpeer, hbuf]
        have hrecv := (server.handle hbuf h (client.up pkt hmem)).1
        exact Or.inl (Or.inr (Or.inl hrecv.state))
      | synRcvd _ server _ => exact absurd hnil server.met.handled_ne
      | half _ _ server _ _ _ _ => exact absurd hnil server.met.handled_ne
      | opened _ server _ _ _ => exact absurd hnil server.met.handled_ne
  · exact Or.inr ⟨(Endpoint.state_of_no_fin h0 ha h).trans hst,
      (Endpoint.step_quiet ha h).handled.trans hnil⟩

/-- One step. An open end has no FIN to send, and none comes from the other one. -/
theorem intact_step {s₁ s₂ : State Packet} (h : n.Intact cfg) (hgood : Good cfg n s₁ s₂)
    (hc : n.client.Calm) (hv : (n.peer cfg).Calm) (hstep : step cfg n ev = .ok n') :
    n'.Intact cfg := by
  rcases step_cases hstep with ⟨a, g, c, rfl, hrun, rfl⟩ | ⟨a, v, g, v', rfl, hs, hrun, rfl⟩ |
    hm | ⟨pkt, rest, hs, hw, -, rfl⟩
  · have hopen := fun ho => (Endpoint.step_open hrun ho).1
    refine ⟨fun ho => stage_client (h.stage ho) hrun, fun ho => ?_, h.server, fun ho ho' => ?_⟩
    · exact Endpoint.armed_step (h.client (hopen ho)) (hc (hopen ho)).2 hrun
    · obtain ⟨hbc, hbv⟩ := h.begun (hopen ho) ho'
      exact ⟨hbc.step (hc (hopen ho)).2 (hgood.linked.no_fin ho') hrun, hbv⟩
  · have hpeer : n.peer cfg = v := peer_of_some hs
    have hopen := fun ho => (Endpoint.step_open hrun ho).1
    have hlinked := hgood.linked.symm
    rw [hpeer] at hv hlinked
    refine ⟨fun ho => ?_, h.client, fun ho => ?_, fun ho ho' => ?_⟩
    · refine stage_server (h.stage (hpeer ▸ hopen ho)) hs (fun _ _ => ?_) hrun
      simp [Endpoint.finDue, (hv (hopen ho)).2]
    · have harmed := h.server (hpeer ▸ hopen ho)
      rw [hpeer] at harmed
      exact Endpoint.armed_step harmed (hv (hopen ho)).2 hrun
    · obtain ⟨hbc, hbv⟩ := h.begun ho (hpeer ▸ hopen ho')
      rw [hpeer] at hbv
      refine ⟨hbc, ?_⟩
      rcases hbv with hb | ⟨hst, hnil⟩
      · exact Or.inl (hb.step (hv (hopen ho')).2 (hlinked.no_fin ho) hrun)
      · exact server_begun hs (h.stage (hpeer ▸ hopen ho')) (hv (hopen ho')).2 hst hnil hrun
  · obtain ⟨r, s, hc'⟩ := hm.client
    obtain ⟨r', s', hp'⟩ := hm.server
    refine ⟨fun ho => stage_moves (h.stage ?_) hm, fun ho => ?_, fun ho => ?_, fun ho ho' => ?_⟩
    · rw [hp'] at ho
      exact ho
    · rw [hc'] at ho ⊢
      exact ⟨(h.client ho).timer, (h.client ho).size⟩
    · rw [hp'] at ho ⊢
      exact ⟨(h.server ho).timer, (h.server ho).size⟩
    · rw [hc'] at ho ⊢
      rw [hp'] at ho' ⊢
      exact h.begun ho ho'
  · have hopen : (n.peer cfg).Open := by
      rw [peer, hs]
      exact ⟨rfl, rfl⟩
    refine ⟨fun _ => stage_accepted (h.stage hopen) hs hw, h.client, fun _ => ?_, fun ho _ => ?_⟩
    · exact ⟨fun hne => absurd rfl hne, rfl⟩
    · exact ⟨(h.begun ho hopen).1, Or.inr ⟨rfl, rfl⟩⟩

/-- **Until the applications close, the connection is intact.** -/
theorem intact_run (hrun : run cfg g evs = .ok n) (hfit : n.Fits cfg) : n.Intact cfg := by
  rw [run, init_eq, ok_bind] at hrun
  refine (run_induction (step cfg) (P := fun m => (∃ pre, run cfg g pre = .ok m) ∧
    (m.Fits cfg → m.Intact cfg)) ?_ ?_ hrun).2 hfit
  · rintro m ev m' ⟨⟨pre, hpre⟩, hm⟩ hstep
    refine ⟨⟨pre ++ [ev], run_concat hpre hstep⟩, fun hfit' => ?_⟩
    have hfit := hfit'.of_step hstep
    obtain ⟨s₁, s₂, hgood⟩ := good_run hpre hfit
    obtain ⟨hc, hv⟩ := calm_run hpre hfit
    exact intact_step (hm hfit) hgood hc hv hstep
  · exact ⟨⟨[], by rw [run, init_eq]; rfl⟩, fun _ => intact_init cfg g⟩

end Net

end NetStack
