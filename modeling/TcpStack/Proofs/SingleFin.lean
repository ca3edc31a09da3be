import TcpStack.Proofs.Closing

/-!
# TcpStack — how many FINs a connection sends

`Process::ShutDown` and `Process::Close` both ask the controller for a FIN. `TryShutDown` looks at
the state when it is asked, and the `SendFIN` task moves the state only when it runs.

* **`at_most_one_fin`** — one FIN is placed in the send window over the life of a controller, as
  long as a socket that was shut down is closed only after the state has moved.
-/

namespace NetStack

open Transition

section

variable [HyLib]

/-! ## Counting FINs -/

/-- The FINs in the send window. -/
def TcpController.finCount (c : TcpController) : ℕ :=
  c.sendWindow.pktsToAck.countP (·.pkt.tcpHeader.fin)

/-- The FINs that a step places in the send window. -/
def Solo.newFins (s : Solo) (i : Input) : ℕ :=
  match s.step i with
  | .ok s' => s'.endpoint.con.finCount - s.endpoint.con.finCount
  | .error _ => 0

theorem TcpController.finCount_append {c c' : TcpController} {new : List SendWindowNode}
    (hq : c'.sendWindow.pktsToAck = c.sendWindow.pktsToAck ++ new) :
    c'.finCount = c.finCount + new.countP (·.pkt.tcpHeader.fin) := by
  rw [finCount, hq, List.countP_append, finCount]

/-- Handling a packet places no FIN. -/
theorem TcpController.Outcome.finCount_le {c c' : TcpController} {g : Globals} {pkt : Packet}
    (h : c.Outcome g c' pkt) : c'.finCount ≤ c.finCount := by
  obtain ⟨kept, new, hqueue, hkept, hnew⟩ := h.queue_cases
  have hnone : new.countP (·.pkt.tcpHeader.fin) = 0 :=
    List.countP_eq_zero.mpr fun node hn => by simp [(hnew node hn).1]
  rw [finCount, hqueue, List.countP_append, hnone, Nat.add_zero]
  exact hkept.sublist.countP_le

/-- Handling a packet does not revive a controller. -/
theorem TcpController.handlePacket_shutdown {c c' : TcpController} {g g' : Globals} {pkt : Packet}
    (h : c.handlePacket g pkt = .ok (g', c')) (hdown : c.shutdown = true) :
    c'.shutdown = true := by
  have hrecv : ∀ {c c' : TcpController}, c.receiveAndAck pkt = .ok c' →
      c'.shutdown = c.shutdown := by
    intro c c' h
    obtain ⟨_, _, _, _, _, _, -, -, -, -, rfl⟩ := receiveAndAck_frame h
    rfl
  -- only LAST_ACK and an RST write `shutdown_`, and they set it
  unfold handlePacket at h
  split at h
  · obtain ⟨c₁, h₁, heq⟩ := map_eq_ok.mp h
    cases heq
    obtain ⟨⟨ackNum, chain, w⟩, -, h₁⟩ := bind_eq_ok.mp h₁
    simp only at h₁
    split at h₁
    · cases h₁
    · split at h₁
      · obtain ⟨b, ps, hre, -⟩ := resendBase_frame { c with recvWindow := w }
        rw [hre] at h₁
        cases h₁
        exact hdown
      · obtain ⟨⟨sent, w'⟩, -, h₁⟩ := bind_eq_ok.mp h₁
        cases sent with
        | true =>
          cases h₁
          exact hdown
        | false =>
          cases h₁
          exact hdown
  · unfold handleACKSYN at h
    split at h
    · obtain ⟨⟨g₁, c₁⟩, hconn, h⟩ := bind_eq_ok.mp h
      obtain ⟨⟨res, w, g₂⟩, -, hconn⟩ := bind_eq_ok.mp hconn
      cases hconn
      cases h
      exact hdown
    · cases h
      exact hdown
  · obtain ⟨c₁, h₁, heq⟩ := map_eq_ok.mp h
    cases heq
    obtain ⟨st, k, hst⟩ := c.handleFINState_frame
    rw [handleFIN, hst] at h₁
    rw [hrecv h₁]
    exact hdown
  · obtain ⟨⟨b, g₁, c₁⟩, hwin, h⟩ := bind_eq_ok.mp h
    obtain ⟨_, _, w, t, pt, ps, -, -, -, -, rfl⟩ := handleACKWindow_frame hwin
    cases h
    unfold handleACKState
    split
    · exact hdown
    · split
      · exact hdown
      · split
        · rfl
        · split
          · exact hdown
          · exact hdown
  · cases h
    rfl
  · obtain ⟨c₁, h₁, heq⟩ := map_eq_ok.mp h
    cases heq
    unfold handleDataPacket at h₁
    split at h₁
    · cases h₁
      exact hdown
    · rw [hrecv h₁]
      exact hdown

/-! ## The requests for a FIN -/

/-- What a step does with the requests of the socket: `ShutDown` and `Close` may each queue a
`SendFIN` task once, and a task that does not have to wait is taken from the queue. -/
inductive Endpoint.Requests (e e' : Endpoint) (a : Action) : Prop where
  | same (shutDown : e'.shutDown = e.shutDown) (closed : e'.closed = e.closed)
      (tasks : e'.finTasks = e.finTasks)
      (idle : a = .sendFIN → e.finTasks = 0 ∨ e.con.sendFINWait = false)
  | shutDown (act : a = .shutDown) (fresh : e.shutDown = false ∧ e.closed = false)
      (shutDown : e'.shutDown = true) (closed : e'.closed = e.closed)
      (tasks : e'.finTasks = e.finTasks + e.con.tryShutDown.toNat)
  | close (act : a = .close) (fresh : e.closed = false) (shutDown : e'.shutDown = e.shutDown)
      (closed : e'.closed = true) (tasks : e'.finTasks = e.finTasks + e.con.tryShutDown.toNat)
  | sendFIN (act : a = .sendFIN) (due : e.finTasks ≠ 0 ∧ e.con.sendFINWait = true)
      (shutDown : e'.shutDown = e.shutDown) (closed : e'.closed = e.closed)
      (tasks : e'.finTasks = e.finTasks - 1)

theorem Endpoint.step_requests {e e' : Endpoint} {g g' : Globals} {a : Action}
    (h : e.step g a = .ok (g', e')) : e.Requests e' a := by
  cases a with
  | writeData buf =>
    cases h
    obtain ⟨b, l, hw, -⟩ := e.writeData_frame buf
    rw [hw]
    exact .same rfl rfl rfl (by simp)
  | readData size =>
    obtain ⟨e₁, h₁, heq⟩ := map_eq_ok.mp h
    cases heq
    obtain ⟨b, ps, r, rfl, -⟩ := readData_frame h₁
    exact .same rfl rfl rfl (by simp)
  | shutDown =>
    cases h
    unfold shutDownSocket
    split
    · exact .same rfl rfl rfl (by simp)
    · next hopen =>
      simp only [Bool.or_eq_true, not_or, Bool.not_eq_true] at hopen
      exact .shutDown rfl ⟨hopen.2, hopen.1⟩ rfl rfl rfl
  | close =>
    cases h
    unfold closeSocket
    split
    · exact .same rfl rfl rfl (by simp)
    · next hopen => exact .close rfl (by simpa using hopen) rfl rfl rfl
  | sendFIN =>
    obtain ⟨e₁, h₁, heq⟩ := map_eq_ok.mp h
    cases heq
    unfold runSendFIN at h₁
    split at h₁
    · next hwait =>
      cases h₁
      -- the task is not there or waits
      exact .same rfl rfl rfl fun _ => by simpa using hwait
    · next hwait =>
      obtain ⟨c, -, h₁⟩ := bind_eq_ok.mp h₁
      cases h₁
      simp only [Bool.or_eq_true, decide_eq_true_eq, not_or, Bool.not_eq_true',
        Bool.not_eq_false] at hwait
      exact .sendFIN rfl hwait rfl rfl rfl
  | sendBufferListener =>
    obtain ⟨c, h₁, heq⟩ := map_eq_ok.mp h
    cases heq
    exact .same rfl rfl rfl (by simp)
  | receiveBufferListener =>
    cases h
    exact .same rfl rfl rfl (by simp)
  | timeoutReTransmitter =>
    cases h
    exact .same rfl rfl rfl (by simp)
  | probeWindowSize =>
    cases h
    exact .same rfl rfl rfl (by simp)
  | handlePacket =>
    simp only [step, handleNext] at h
    split at h
    · cases h
      exact .same rfl rfl rfl (by simp)
    · obtain ⟨⟨g₁, c⟩, -, h⟩ := bind_eq_ok.mp h
      cases h
      exact .same rfl rfl rfl (by simp)

/-- With `k` FINs placed so far, the tasks that may still place one are at most as many as the
requests. -/
structure FinBudget (k : ℕ) (e : Endpoint) : Prop where
  placed : k ≤ 1
  pending : e.con.shutdown = false → k + e.finTasks ≤ 1
  asked : e.con.shutdown = false → e.shutDown = false → e.closed = false → k + e.finTasks = 0

namespace Solo

/-- A socket that was shut down is closed only when the controller is in a closing state, so that
`TryShutDown` queues no second task, or is being torn down. -/
def CloseAfterFin (s : Solo) (i : Input) : Prop :=
  i = .act .close → s.endpoint.shutDown = true → s.endpoint.closed = false →
    s.endpoint.con.inClosingState = true ∨ s.endpoint.con.shutdown = true

instance (s : Solo) (i : Input) : Decidable (CloseAfterFin s i) :=
  inferInstanceAs (Decidable (_ → _ → _ → _ ∨ _))

/-- How many FINs an action of the controller places. -/
theorem newFins_act {s s' : Solo} {a : Action} (h : s.step (.act a) = .ok s') :
    s.newFins (.act a) = 0 ∨
      s.newFins (.act a) = 1 ∧ a = .sendFIN ∧ s.endpoint.finDue = true := by
  have hfins : s.newFins (.act a) = s'.endpoint.con.finCount - s.endpoint.con.finCount := by
    simp only [newFins, h]
  cases step_moves h with
  | still i r p same => simp [hfins, same, TcpController.finCount]
  | act a ne quiet step =>
    rcases Endpoint.step_registers ne step with ⟨-, new, hq, hnew⟩ | ⟨ha, hdue, node, hq, hfin⟩
    · rw [hfins, TcpController.finCount_append hq,
        List.countP_eq_zero.mpr fun node hn => by simp [hnew node hn]]
      exact Or.inl (by omega)
    · refine Or.inr ⟨?_, ha, hdue⟩
      rw [hfins, TcpController.finCount_append hq]
      simp [hfin]
  | handle pkt rest head outcome =>
    have hle := outcome.finCount_le
    rw [hfins]
    exact Or.inl (Nat.sub_eq_zero_of_le hle)

/-- A step keeps to the budget. -/
theorem budget_step {k : ℕ} {s s' : Solo} {i : Input} (h : FinBudget k s.endpoint)
    (hclose : CloseAfterFin s i) (hstep : s.step i = .ok s') :
    FinBudget (k + s.newFins i) s'.endpoint := by
  have hother : s'.endpoint.con.finCount = s.endpoint.con.finCount → s.newFins i = 0 := by
    intro hcount
    simp only [newFins, hstep, hcount, Nat.sub_self]
  cases i with
  | act a =>
    have hfins := newFins_act hstep
    obtain ⟨⟨g, e⟩, he, heq⟩ := bind_eq_ok.mp hstep
    cases heq
    simp only at *
    have hdown : e.con.shutdown = false → s.endpoint.con.shutdown = false := by
      intro hd
      by_cases ha : a = .handlePacket
      · subst ha
        simp only [Endpoint.step, Endpoint.handleNext] at he
        split at he
        · cases he
          exact hd
        · obtain ⟨⟨g₁, c⟩, hc, he⟩ := bind_eq_ok.mp he
          cases he
          by_contra hne
          rw [TcpController.handlePacket_shutdown hc (by simpa using hne)] at hd
          cases hd
      · rw [← (Endpoint.step_quiet ha he).shutdown]
        exact hd
    cases Endpoint.step_requests he with
    | same shutDown closed tasks idle =>
      have hzero : s.newFins (.act a) = 0 := by
        rcases hfins with h0 | ⟨-, rfl, hdue⟩
        · exact h0
        · simp only [Endpoint.finDue, Bool.and_eq_true, decide_eq_true_eq] at hdue
          rcases idle rfl with hi | hi
          · simp [hi] at hdue
          · simp [hi] at hdue
      rw [hzero, Nat.add_zero]
      exact ⟨h.placed, fun hd => tasks ▸ h.pending (hdown hd), fun hd h₁ h₂ => by
        rw [tasks]
        exact h.asked (hdown hd) (shutDown ▸ h₁) (closed ▸ h₂)⟩
    | shutDown act fresh shutDown closed tasks =>
      have hzero : s.newFins (.act a) = 0 := by
        rcases hfins with h0 | ⟨-, ha, -⟩
        · exact h0
        · simp [act] at ha
      rw [hzero, Nat.add_zero]
      refine ⟨h.placed, fun hd => ?_, fun _ h₁ => by simp [shutDown] at h₁⟩
      have := h.asked (hdown hd) fresh.1 fresh.2
      have := Bool.toNat_le s.endpoint.con.tryShutDown
      omega
    | close act fresh shutDown closed tasks =>
      have hzero : s.newFins (.act a) = 0 := by
        rcases hfins with h0 | ⟨-, ha, -⟩
        · exact h0
        · simp [act] at ha
      rw [hzero, Nat.add_zero]
      refine ⟨h.placed, fun hd => ?_, fun _ _ h₁ => by simp [closed] at h₁⟩
      cases hs : s.endpoint.shutDown with
      | false =>
        have := h.asked (hdown hd) hs fresh
        have := Bool.toNat_le s.endpoint.con.tryShutDown
        omega
      | true =>
        -- the request comes too late to queue a task
        rcases hclose (by rw [act]) hs fresh with hc | hc
        · have hno : s.endpoint.con.tryShutDown = false := by
            simp [TcpController.tryShutDown, hc]
          have := h.pending (hdown hd)
          rw [tasks, hno, Bool.toNat_false]
          omega
        · simp [hdown hd] at hc
    | sendFIN act due shutDown closed tasks =>
      have hone : s.newFins (.act a) ≤ 1 := by
        rcases hfins with h0 | ⟨h1, -⟩
        · omega
        · omega
      have hpos := Nat.pos_of_ne_zero due.1
      refine ⟨?_, fun hd => ?_, fun hd h₁ h₂ => ?_⟩
      · rcases hfins with h0 | ⟨h1, -, hdue⟩
        · rw [h0]
          exact h.placed
        · have hd : s.endpoint.con.shutdown = false := by
            simp only [Endpoint.finDue, Bool.and_eq_true, Bool.not_eq_true'] at hdue
            exact hdue.2
          have := h.pending hd
          omega
      · have := h.pending (hdown hd)
        omega
      · have := h.asked (hdown hd) (shutDown ▸ h₁) (closed ▸ h₂)
        omega
  | receive pkt =>
    cases hstep
    rw [hother rfl]
    exact ⟨h.placed, h.pending, h.asked⟩
  | transmit =>
    cases hstep
    rw [hother rfl]
    exact ⟨h.placed, h.pending, h.asked⟩
  | environment g =>
    cases hstep
    rw [hother rfl]
    exact ⟨h.placed, h.pending, h.asked⟩

end Solo

/-- **At most one FIN.** If a socket that was shut down is closed only after the controller has
moved to a closing state, then at most one FIN is placed in its send window over the whole
run. -/
theorem at_most_one_fin {s₀ s : Solo} {is : List Input} (hstart : s₀.Start)
    (hclose : Meets Solo.step Solo.CloseAfterFin s₀ is) (hrun : run Solo.step s₀ is = .ok s) :
    tally Solo.step Solo.newFins s₀ is ≤ 1 := by
  have h₀ : FinBudget 0 s₀.endpoint := by
    cases hstart with
    | server g key options => exact ⟨by omega, fun _ => Nat.zero_le 1, fun _ _ _ => rfl⟩
    | client g key options hconn => exact ⟨by omega, fun _ => Nat.zero_le 1, fun _ _ _ => rfl⟩
  have h := run_induction_tally Solo.step (P := fun k s => FinBudget k s.endpoint)
    (fun _ _ _ _ h hcond hstep => Solo.budget_step h hcond hstep) h₀ hclose hrun
  rw [Nat.zero_add] at h
  exact h.placed

end

section

open scoped Reference

/-- The socket is shut down, and closed when the FIN is on its way. -/
def shutDownThenClose : List Input :=
  accept ++ [.act .shutDown, .act .sendFIN, .act .close, .act .sendFIN]

theorem at_most_one_fin_shutDownThenClose : ∃ s, run Solo.step newSolo shutDownThenClose = .ok s ∧
    s.endpoint.con.finCount = 1 ∧ tally Solo.step Solo.newFins newSolo shutDownThenClose ≤ 1 := by
  have hrun : (run Solo.step newSolo shutDownThenClose).map (·.endpoint.con.finCount) = .ok 1 := by
    decide +kernel
  obtain ⟨s, hs, hcount⟩ := map_eq_ok.mp hrun
  exact ⟨s, hs, hcount, at_most_one_fin (.server _ _ _) (by decide +kernel) hs⟩

/-- The socket is shut down and closed before the first task has run. -/
def shutDownAndClose : List Input :=
  accept ++ [.act .shutDown, .act .close, .act .sendFIN, .act .sendFIN]

theorem not_at_most_one_fin : ¬ ∀ (s₀ s : Solo) (is : List Input), s₀.Start →
    run Solo.step s₀ is = .ok s → tally Solo.step Solo.newFins s₀ is ≤ 1 := by
  intro h
  have hrun : (run Solo.step newSolo shutDownAndClose).map (·.endpoint.con.finCount) = .ok 2 := by
    decide +kernel
  obtain ⟨s, hs, -⟩ := map_eq_ok.mp hrun
  have htwo : tally Solo.step Solo.newFins newSolo shutDownAndClose = 2 := by decide +kernel
  have := h newSolo s shutDownAndClose (.server _ _ _) hs
  omega

end

end NetStack
