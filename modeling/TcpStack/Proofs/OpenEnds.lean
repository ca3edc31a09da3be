import TcpStack.Model.Echo
import TcpStack.Proofs.Closing
import TcpStack.Proofs.Delivery
import TcpStack.Proofs.SingleFin
import TcpStack.Proofs.WindowAgreement

/-!
# TcpStack — an end that its application has not closed

What an application finds as long as neither it nor the application at the other end has closed.

* **`Net.calm_run`** — an end that was not closed is not closing.
* **`Linked.step_ok`** — what the stack does by itself never fails.
* **`Direction.opened`** — no end of the stream before the other application closes.
* **`Endpoint.write_cases`** / **`Endpoint.read_cases`** — what the calls return at such an end.
-/

namespace NetStack

open Tiling Transition SlidingWindow

variable [HyLib]

/-! ## Calm ends -/

namespace TcpController

variable {c c' : TcpController} {g g' : Globals} {pkt : Packet}

/-- The connection is not shut down, and not about to be. -/
structure Calm (c : TcpController) : Prop where
  shutdown : c.shutdown = false
  state : c.inClosingState = false

/-- Taking in a packet does not concern the state. -/
theorem Calm.receiveAndAck (hc : c.Calm) (h : c.receiveAndAck pkt = .ok c') : c'.Calm := by
  obtain ⟨_, _, _, _, _, _, -, -, -, -, rfl⟩ := receiveAndAck_frame h
  exact ⟨hc.shutdown, hc.state⟩

/-- A FIN at a calm end moves it to CLOSE_WAIT at most. -/
theorem Calm.handleFINState (hc : c.Calm) : c.handleFINState.Calm := by
  have hstate := hc.state
  rcases c.handleFINState_cases with ⟨-, hf⟩ | ⟨hst, -⟩ | ⟨hst, -⟩ | ⟨-, hf⟩
  · rw [hf]
    exact ⟨hc.shutdown, by simp [inClosingState]⟩
  · simp [inClosingState, hst] at hstate
  · simp [inClosingState, hst] at hstate
  · rw [hf]
    exact hc

theorem Calm.handleACKState (hc : c.Calm) (empty : Bool) : (c.handleACKState empty).Calm := by
  have hstate := hc.state
  unfold TcpController.handleACKState
  split
  · exact ⟨hc.shutdown, by simp [inClosingState]⟩
  · split
    · next hst => simp [inClosingState, hst.1] at hstate
    · split
      · next hst => simp [inClosingState, hst.1] at hstate
      · split
        · next hst => simp [inClosingState, hst] at hstate
        · exact hc

theorem Calm.handleSYN (hc : c.Calm) (h : c.handleSYN g pkt = .ok c') : c'.Calm := by
  obtain ⟨⟨ackNum, chain, w⟩, -, h⟩ := bind_eq_ok.mp h
  simp only at h
  split at h
  · cases h
  · split at h
    · obtain ⟨b, ps, hre, -⟩ := resendBase_frame { c with recvWindow := w }
      rw [hre] at h
      cases h
      exact ⟨hc.shutdown, hc.state⟩
    · obtain ⟨⟨sent, w'⟩, -, h⟩ := bind_eq_ok.mp h
      cases sent with
      | true =>
        cases h
        exact ⟨hc.shutdown, by simp [inClosingState, TcpController.sendPacket]⟩
      | false =>
        cases h
        exact ⟨hc.shutdown, hc.state⟩

theorem Calm.handleACKSYN (hc : c.Calm) (h : c.handleACKSYN g pkt = .ok (g', c')) : c'.Calm := by
  unfold TcpController.handleACKSYN at h
  split at h
  · obtain ⟨⟨g₁, c₁⟩, hconn, h⟩ := bind_eq_ok.mp h
    obtain ⟨⟨res, w, g₂⟩, -, hconn⟩ := bind_eq_ok.mp hconn
    cases hconn
    cases h
    exact ⟨hc.shutdown, by simp [inClosingState, TcpController.sendPacket]⟩
  · cases h
    exact ⟨hc.shutdown, hc.state⟩

/-- **Without an RST, no packet disturbs a calm end.** -/
theorem Calm.handlePacket (hc : c.Calm) (hk : pkt.kind ≠ .rst)
    (h : c.handlePacket g pkt = .ok (g', c')) : c'.Calm := by
  unfold TcpController.handlePacket at h
  split at h
  · obtain ⟨c₁, h₁, heq⟩ := map_eq_ok.mp h
    cases heq
    exact hc.handleSYN h₁
  · exact hc.handleACKSYN h
  · obtain ⟨c₁, h₁, heq⟩ := map_eq_ok.mp h
    cases heq
    exact hc.handleFINState.receiveAndAck h₁
  · obtain ⟨⟨b, g₁, c₁⟩, hwin, h⟩ := bind_eq_ok.mp h
    obtain ⟨_, _, w, t, pt, ps, -, -, -, -, rfl⟩ := handleACKWindow_frame hwin
    cases h
    apply Calm.handleACKState
    exact ⟨hc.shutdown, hc.state⟩
  · next hrst => exact absurd hrst hk
  · obtain ⟨c₁, h₁, heq⟩ := map_eq_ok.mp h
    cases heq
    unfold handleDataPacket at h₁
    split at h₁
    · cases h₁
      exact ⟨hc.shutdown, hc.state⟩
    · exact hc.receiveAndAck h₁

end TcpController

namespace Endpoint

/-- The application has not closed the end, in either way. -/
def Open (e : Endpoint) : Prop := e.shutDown = false ∧ e.closed = false

/-- An open end is calm and has no FIN to send. -/
def Calm (e : Endpoint) : Prop := e.Open → e.con.Calm ∧ e.finTasks = 0

theorem step_open {e e' : Endpoint} {g g' : Globals} {a : Action}
    (h : e.step g a = .ok (g', e')) (ho : e'.Open) :
    e.Open ∧ (e.finTasks = 0 → e'.finTasks = 0) := by
  cases step_requests h with
  | same shutDown closed tasks _ =>
    exact ⟨⟨shutDown ▸ ho.1, closed ▸ ho.2⟩, fun h0 => tasks.trans h0⟩
  | shutDown _ _ shutDown _ _ => simp [Open, shutDown] at ho
  | close _ _ _ closed _ => simp [Open, closed] at ho
  | sendFIN _ due shutDown closed _ =>
    exact ⟨⟨shutDown ▸ ho.1, closed ▸ ho.2⟩, fun h0 => absurd h0 due.1⟩

/-- **An action keeps an end calm**, as long as no RST arrives. -/
theorem Calm.step {e e' : Endpoint} {g g' : Globals} {a : Action} (hcalm : e.Calm)
    (hk : ∀ pkt ∈ e.con.pktRecvBuffer, pkt.kind ≠ .rst) (h : e.step g a = .ok (g', e')) :
    e'.Calm := by
  intro ho
  obtain ⟨ho', htasks⟩ := step_open h ho
  obtain ⟨hcon, h0⟩ := hcalm ho'
  refine ⟨?_, htasks h0⟩
  by_cases ha : a = .handlePacket
  · subst ha
    replace h : e.handleNext g = .ok (g', e') := h
    cases hbuf : e.con.pktRecvBuffer with
    | nil =>
      simp only [handleNext, hbuf] at h
      cases h
      exact hcon
    | cons pkt rest =>
      obtain ⟨c, hc, rfl⟩ := handleNext_cons hbuf h
      refine TcpController.Calm.handlePacket ?_ (hk pkt (by simp [hbuf])) hc
      exact ⟨hcon.shutdown, hcon.state⟩
  · have hq := step_quiet ha h
    refine ⟨hq.shutdown.trans hcon.shutdown, ?_⟩
    rcases step_registers ha h with ⟨hst, -⟩ | ⟨-, hdue, -⟩
    · rw [TcpController.inClosingState, hst]
      exact hcon.state
    · -- there is no FIN to send
      simp [finDue, h0] at hdue

/-- What the stack leaves to the application. -/
structure Kept (e e' : Endpoint) : Prop where
  written : e'.written = e.written := by rfl
  readOut : e'.readOut = e.readOut := by rfl
  shutDown : e'.shutDown = e.shutDown := by rfl
  closed : e'.closed = e.closed := by rfl
  pipe : e.con.pipeState ≠ .eofConsumed → e'.con.pipeState ≠ .eofConsumed := by exact id

theorem Kept.refl (e : Endpoint) : e.Kept e := {}

/-- Handling a packet may find the end of the stream, but does not consume it. -/
theorem handlePacket_pipe {c c' : TcpController} {g g' : Globals} {pkt : Packet}
    (h : c.handlePacket g pkt = .ok (g', c')) (hp : c.pipeState ≠ .eofConsumed) :
    c'.pipeState ≠ .eofConsumed := by
  have htakes : ∀ {c : TcpController}, c.pipeState ≠ .eofConsumed → c.Takes c' pkt →
      c'.pipeState ≠ .eofConsumed := by
    intro c hp takes
    obtain ⟨_, _, _, -, -, ⟨hsame, -⟩ | ⟨heof, -⟩⟩ := takes.result
    · rw [hsame]
      exact hp
    · simp [heof]
  cases TcpController.handlePacket_outcome h with
  | syn _ _ pipe => rwa [pipe]
  | synAck _ _ pipe => rwa [pipe]
  | fin _ takes =>
    obtain ⟨st, k, hst⟩ := c.handleFINState_frame
    rw [hst] at takes
    exact htakes (c := { c with state := st, killArmed := k }) hp takes
  | ack _ c₁ empty _ _ _ _ _ _ _ pipe _ _ result => rwa [result, (c₁.handleACKState_same empty).1, pipe]
  | rst _ result => rwa [result]
  | probe _ _ _ pipe => rwa [pipe]
  | data _ _ takes => exact htakes hp takes

/-- **What the stack does by itself is not seen by the application.** -/
theorem step_kept {e e' : Endpoint} {g g' : Globals} {a : Action} (ha : a.isCall = false)
    (h : e.step g a = .ok (g', e')) : e.Kept e' := by
  cases a with
  | writeData buf => cases ha
  | readData size => cases ha
  | shutDown => cases ha
  | close => cases ha
  | sendFIN =>
    obtain ⟨e₁, h₁, heq⟩ := map_eq_ok.mp h
    cases heq
    unfold runSendFIN at h₁
    split at h₁
    · cases h₁
      exact .refl e
    · obtain ⟨c, hc, h₁⟩ := bind_eq_ok.mp h₁
      cases h₁
      unfold TcpController.sendFIN at hc
      split at hc
      · cases hc
        exact {}
      · obtain ⟨⟨p, c₁⟩, hwin, hc⟩ := bind_eq_ok.mp hc
        cases hc
        obtain ⟨-, w, watch, rfl, -⟩ := TcpController.sendFINWindow_frame hwin
        unfold TcpController.sendFINState
        split <;> exact {}
  | sendBufferListener =>
    obtain ⟨c, h₁, heq⟩ := map_eq_ok.mp h
    cases heq
    rcases TcpController.sendBufferListener_frame h₁ with
      rfl | ⟨-, c₁, rfl, rfl | ⟨_, -, rfl⟩ | hsend⟩
    · exact .refl e
    · exact {}
    · exact {}
    · obtain ⟨w, b, t, ps, new, rfl, -⟩ := hsend
      exact {}
  | receiveBufferListener =>
    cases h
    obtain ⟨b, o, hb, -⟩ := e.con.receiveBufferListener_frame
    rw [hb]
    exact {}
  | timeoutReTransmitter =>
    cases h
    unfold TcpController.timeoutReTransmitter
    simp only
    split
    · obtain ⟨b, ps, hre, -⟩ := e.con.resendBase_frame
      rw [hre]
      exact {}
    · exact {}
  | probeWindowSize =>
    cases h
    unfold TcpController.probeWindowSize
    split
    · exact {}
    · exact .refl e
  | handlePacket =>
    replace h : e.handleNext g = .ok (g', e') := h
    cases hbuf : e.con.pktRecvBuffer with
    | nil =>
      simp only [handleNext, hbuf] at h
      cases h
      exact .refl e
    | cons pkt rest =>
      obtain ⟨c, hc, rfl⟩ := handleNext_cons hbuf h
      exact ⟨rfl, rfl, rfl, rfl, fun hp => handlePacket_pipe hc hp⟩

end Endpoint

/-! ## What the connection guarantees -/

section Linked

variable {e f : Endpoint} {wo wi : List Packet} {s₁ s₂ : State Packet}

/-- No RST is on its way. -/
theorem Linked.no_rst (h : Linked e f wo wi s₁ s₂) :
    ∀ pkt ∈ e.con.pktRecvBuffer, pkt.kind ≠ .rst := by
  intro pkt hpkt
  have hmem : pkt ∈ flight f e wi := by simp [flight, hpkt]
  rcases h.fromPeer.mem_cases hmem with hp | hk | ⟨hk, -⟩
  · exact (h.inn.sends.history.regular pkt hp).kind_ne_rst
  · simp [hk]
  · simp [hk]

/-- **What the stack does by itself never fails** before the end of the sequence space. -/
theorem Linked.step_ok (h : Linked e f wo wi s₁ s₂) (hready : Ready e s₁)
    (hend₁ : offset s₁.hist s₁.hist.length ≤ 2 ^ 32)
    (hend₂ : offset s₂.hist s₂.hist.length ≤ 2 ^ 32) (hfit : offset s₂.hist s₂.rcvd < 2 ^ 32)
    (g : Globals) {a : Action} (ha : a.isCall = false) : ∃ r, e.step g a = .ok r := by
  cases hrun : e.step g a with
  | ok r => exact ⟨r, rfl⟩
  | error x =>
    -- the only failure left is that of a `ReadData`
    exfalso
    have hx := h.step_error hready hend₁ hend₂ hfit hrun
    subst hx
    cases a with
    | writeData buf => cases ha
    | readData size => cases ha
    | shutDown => cases ha
    | close => cases ha
    | sendFIN =>
      obtain ⟨e₁, he₁, -⟩ := h.runSendFIN (fun hopen => hready.opened (Or.inl hopen)) g.clock
      simp [Endpoint.step, he₁, Except.map] at hrun
    | sendBufferListener =>
      obtain ⟨c, hc, -⟩ := h.sendBufferListener hready.opened g.clock
      simp [Endpoint.step, hc, Except.map] at hrun
    | handlePacket =>
      replace hrun : e.handleNext g = .error _ := hrun
      unfold Endpoint.handleNext at hrun
      split at hrun
      · cases hrun
      · next pkt rest hbuf =>
        obtain ⟨r, hr⟩ := (h.handlePacket hready hend₁ hend₂ hbuf g).1 hfit
        rw [hr] at hrun
        cases hrun
    | _ => cases hrun

/-- **No end of the stream before the other application closes.** -/
theorem Direction.opened {s : State Packet} (h : Direction e f s) (ho : e.Open) :
    f.con.pipeState = .opened := by
  have hfins := h.sends.fins
  rw [ho.1, ho.2] at hfins
  have hno : NoFin s.hist := by
    intro p hp
    have h0 : s.hist.countP (·.tcpHeader.fin) = 0 := by
      simp only [Bool.toNat_false] at hfins
      omega
    simpa using List.countP_eq_zero.mp h0 p hp
  by_contra hne
  exact h.receives.eof.mp hne fun p hp => hno p (List.mem_of_mem_take hp)

/-- What has arrived, read or not, is a part of what was written, from the start on. -/
theorem Direction.arrived_prefix {s : State Packet} (h : Direction e f s) :
    f.readOut ++ f.con.recvBuffer.bytes <+: e.written := by
  rw [h.receives.delivered, ← h.sends.written]
  refine List.IsPrefix.trans ?_ (List.prefix_append _ _)
  conv_rhs => rw [← List.take_append_drop s.rcvd s.hist, stream_append]
  exact List.prefix_append _ _

end Linked

namespace Net

variable {cfg : Config} {g : Globals} {evs : List Event} {n n' : Net} {ev : Event}

theorem run_concat (hrun : run cfg g evs = .ok n) (hstep : step cfg n ev = .ok n') :
    run cfg g (evs ++ [ev]) = .ok n' := by
  obtain ⟨m, hm, hrun⟩ := bind_eq_ok.mp hrun
  rw [run, hm, ok_bind, run_append, hrun, ok_bind, Transition.run, hstep]
  rfl

/-- Moving packets disturbs nobody. -/
theorem calm_requeue {e : Endpoint} (h : e.Calm) (r s : List Packet) : (e.requeue r s).Calm := by
  intro ho
  obtain ⟨hcon, h0⟩ := h ho
  exact ⟨⟨hcon.shutdown, hcon.state⟩, h0⟩

/-- **An end that was not closed is not closing**, in every reachable state. -/
theorem calm_run (hrun : run cfg g evs = .ok n) (hfit : n.Fits cfg) :
    n.client.Calm ∧ (n.peer cfg).Calm := by
  rw [run, init_eq, ok_bind] at hrun
  have hnew : ∀ con : TcpController, con.Calm → Endpoint.Calm { con } := fun con hc _ => ⟨hc, rfl⟩
  refine (run_induction (step cfg) (P := fun m => m.Fits cfg → (∃ s₁ s₂, Good cfg m s₁ s₂) ∧
    m.client.Calm ∧ (m.peer cfg).Calm) ?_ ?_ hrun hfit).2
  · intro m ev m' hm hstep hfit'
    have hfit := hfit'.of_step hstep
    obtain ⟨hgood, hc, hv⟩ := hm hfit
    refine ⟨good_step hgood hfit hstep, ?_⟩
    obtain ⟨s₁, s₂, hgood⟩ := hgood
    rcases step_cases hstep with ⟨a, g, c, rfl, hrun, rfl⟩ | ⟨a, v, g, v', rfl, hs, hrun, rfl⟩ |
      hmoves | ⟨pkt, rest, hs, hw, hsync, rfl⟩
    · exact ⟨hc.step hgood.linked.no_rst hrun, hv⟩
    · have hrst := hgood.linked.symm.no_rst
      rw [peer_of_some hs] at hv hrst
      exact ⟨hc, hv.step hrst hrun⟩
    · obtain ⟨r, s, hc'⟩ := hmoves.client
      obtain ⟨r', s', hp'⟩ := hmoves.server
      rw [hc', hp']
      exact ⟨calm_requeue hc r s, calm_requeue hv r' s'⟩
    · exact ⟨hc, hnew _ ⟨rfl, rfl⟩⟩
  · exact fun _ => ⟨good_init cfg g, hnew _ ⟨rfl, rfl⟩, hnew _ ⟨rfl, rfl⟩⟩

/-- **The stack and the network never fail** before the end of the sequence space. -/
theorem step_ok (hrun : run cfg g evs = .ok n) (hc : n.client.carried < 2 ^ 32 - 3)
    (hv : (n.peer cfg).carried < 2 ^ 32 - 3) (hev : ev.isCall = false) :
    ∃ n', step cfg n ev = .ok n' := by
  obtain ⟨s₁, s₂, h⟩ := good_run hrun ⟨by omega, by omega⟩
  have h₁ := h.linked.out.sends.offset_lt_of_leavesRoom (by omega) fun _ _ => hc
  have h₂ := h.linked.inn.sends.offset_lt_of_leavesRoom (by omega) fun _ _ => hv
  have hr₁ := offset_mono s₁.hist h.linked.out.inv.rcvd_le
  have hr₂ := offset_mono s₂.hist h.linked.inn.inv.rcvd_le
  cases ev with
  | client a =>
    obtain ⟨⟨g', c⟩, hr⟩ := h.linked.step_ok h.ready_client h₁.le h₂.le (by omega) n.globals hev
    rw [step, hr]
    exact ⟨_, rfl⟩
  | server a =>
    cases hs : n.server with
    | none => exact ⟨n, by simp [step, hs]⟩
    | some v =>
      have hready := h.ready_server
      have hlinked := h.linked
      rw [peer_of_some hs] at hready hlinked
      obtain ⟨⟨g', v'⟩, hr⟩ :=
        hlinked.symm.step_ok hready h₂.le h₁.le (by omega) n.globals hev
      rw [step, hs]
      simp only [hr, ok_bind]
      exact ⟨_, rfl⟩
  | sendToClient =>
    rw [step]
    split <;> exact ⟨_, rfl⟩
  | deliverToServer =>
    rw [step]
    split <;> exact ⟨_, rfl⟩
  | deliverToClient =>
    rw [step]
    split <;> exact ⟨_, rfl⟩
  | _ => exact ⟨_, rfl⟩

/-- **The stack and the network leave the application's side of both ends alone.** -/
theorem step_kept (hev : ev.isCall = false) (h : step cfg n ev = .ok n') :
    n.client.Kept n'.client ∧ (n.peer cfg).Kept (n'.peer cfg) := by
  rcases step_cases h with ⟨a, g, c, rfl, hrun, rfl⟩ | ⟨a, v, g, v', rfl, hs, hrun, rfl⟩ |
    hmoves | ⟨pkt, rest, hs, -, -, rfl⟩
  · exact ⟨Endpoint.step_kept hev hrun, .refl _⟩
  · rw [peer_of_some hs]
    exact ⟨.refl _, Endpoint.step_kept hev hrun⟩
  · obtain ⟨r, s, hc⟩ := hmoves.client
    obtain ⟨r', s', hp⟩ := hmoves.server
    rw [hc, hp]
    exact ⟨{}, {}⟩
  · refine ⟨.refl _, ?_⟩
    rw [peer, hs]
    exact {}

end Net

/-! ## Calls -/

namespace Endpoint

variable {e : Endpoint}

/-- **`Write` at an open end** waits, or accepts a first part of the buffer. -/
theorem write_cases (ho : e.Open) (hcalm : e.Calm) {buf : List UInt8} (hbuf : buf ≠ []) :
    e.write buf = none ∨ ∃ l con, l ≠ [] ∧ l <+: buf ∧ con.pipeState = e.con.pipeState ∧
      e.write buf = some ((l.length : Int), { e with con, written := e.written ++ l }) ∧
      e.writeData buf = { e with con, written := e.written ++ l } := by
  obtain ⟨hcon, -⟩ := hcalm ho
  have hclosing : ¬ e.con.inClosingState = true := by simp [hcon.state]
  have hdown : ¬ e.con.shutdown = true := by simp [hcon.shutdown]
  have hclosed : ¬ e.closed = true := by simp [ho.2]
  have hshut : ¬ e.shutDown = true := by simp [ho.1]
  by_cases hfull : e.con.sendBuffer.full = true
  · left
    have hwait : e.con.writeData buf = none := by
      rw [TcpController.writeData, if_neg hclosing, if_pos (by simp [hdown, hfull])]
    rw [write, if_neg hclosed, if_neg hshut, hwait]
  · -- there is room for one byte at least
    right
    have hfree : 0 < e.con.sendBuffer.freeSpace := by
      simp only [RingBuffer.full_eq, beq_iff_eq] at hfull
      omega
    have hlen : 0 < buf.length := List.length_pos_iff.mpr hbuf
    have hwrite : e.con.writeData buf = some (((e.con.sendBuffer.write buf).1 : Int),
        { e.con with sendBuffer := (e.con.sendBuffer.write buf).2 }) := by
      rw [TcpController.writeData, if_neg hclosing, if_neg (by simp [hfull]), if_neg hdown]
    have hopen : ¬ (e.shutDown || e.closed) = true := by simp [hshut, hclosed]
    refine ⟨buf.take (min buf.length e.con.sendBuffer.freeSpace),
      { e.con with sendBuffer := (e.con.sendBuffer.write buf).2 }, ?_, List.take_prefix _ _, rfl,
      ?_, ?_⟩
    · apply List.ne_nil_of_length_pos
      rw [List.length_take]
      omega
    · rw [write, if_neg hclosed, if_neg hshut, hwrite, RingBuffer.write_fst, List.length_take,
        Nat.min_eq_left (Nat.min_le_left _ _)]
      rfl
    · rw [writeData, if_neg hopen, hwrite, RingBuffer.write_fst]
      rfl

/-- **`Read` at an open end** waits, reports the end of the stream, or returns bytes. -/
theorem read_cases (ho : e.Open) (hcalm : e.Calm) (hp : e.con.pipeState ≠ .eofConsumed)
    {size : ℕ} (hsize : 0 < size) :
    e.read size = .ok none ∨
    (∃ con, e.con.pipeState = .eofNotConsumed ∧ e.con.readData size = .ok (some (0, [], con)) ∧
      e.read size = .ok (some (0, [], { e with con })) ∧
      e.readData size = .ok { e with con }) ∨
    ∃ l con, l ≠ [] ∧ con.pipeState = e.con.pipeState ∧
      e.read size = .ok (some ((l.length : Int), l, { e with con, readOut := e.readOut ++ l })) ∧
      e.readData size = .ok { e with con, readOut := e.readOut ++ l } := by
  obtain ⟨hcon, -⟩ := hcalm ho
  have hclosed := ho.2
  rcases e.con.readData_cases size with hr | hr | hr | ⟨heof, -, hr⟩ | ⟨hne, hr⟩
  · -- the end of the stream was not read yet
    exfalso
    unfold TcpController.readData at hr
    rw [if_neg hp] at hr
    repeat' split at hr
    all_goals cases hr
  · exact Or.inl (by simp [read, hclosed, hr])
  · -- only a connection that is shut down returns -1
    exfalso
    unfold TcpController.readData at hr
    rw [if_neg hp, if_neg (by simp [hcon.shutdown] : ¬ e.con.shutdown = true)] at hr
    split at hr
    · cases hr
    · next hwait =>
      split at hr
      · next hnone => exact hwait (by simp [hcon.shutdown, hnone.1, hnone.2])
      · split at hr
        · cases hr
        · simp only [Except.ok.injEq, Option.some.injEq, Prod.mk.injEq] at hr
          omega
  · refine Or.inr (Or.inl ⟨_, heof, hr, ?_, ?_⟩)
    · simp [read, hclosed, hr]
    · simp [readData, hr]
  · refine Or.inr (Or.inr ⟨(e.con.recvBuffer.read size).1,
      { e.con with recvBuffer := (e.con.recvBuffer.read size).2 }, ?_, rfl, ?_, ?_⟩)
    · apply List.ne_nil_of_length_pos
      simp only [RingBuffer.read_fst, List.length_take]
      have := List.length_pos_iff.mpr hne
      omega
    · simp [read, hclosed, hr]
    · simp [readData, hr]

end Endpoint

end NetStack
