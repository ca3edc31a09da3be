import TcpStack.Model.Solo
import TcpStack.Proofs.Closing

/-!
# TcpStack — the sections of `HandleACK` and `SendFIN`

`HandleACK` tests whether the send window is empty under one mutex and looks at the state under
another, and `SendFIN` registers its FIN and moves the state in the same two sections. Here these
sections run in any order, those of several `SendFIN`s and of the other tasks in between.

* **`Solo.step_sections`** — the atomic handlers are their sections run back to back.
* **`ack_of_fin`** — an ACK is taken for the ACK of the FIN only when it is, as long as
  `SendFIN` does not overtake a `HandleACK` that has found the window empty.
-/

namespace NetStack

open Transition

section

variable [HyLib]

/-! ## Atomic handlers as sections -/

/-- A controller between two handlers. -/
def Racing.ofSolo (s : Solo) : Racing := { globals := s.globals, endpoint := s.endpoint }

/-- The sections of an input. -/
def Solo.sections (s : Solo) : Input → List Section
  | .act .handlePacket =>
    match s.endpoint.con.pktRecvBuffer with
    | [] => []
    | pkt :: _ => if pkt.kind = .ack then [.ackWindow, .ackState] else [.handleOther]
  | .act .sendFIN => [.finWindow 0, .finState 0]
  | .act a => [.act a]
  | .receive pkt => [.receive pkt]
  | .transmit => [.transmit]
  | .environment g => [.environment g]

theorem Solo.handle_sections {s s' : Solo} (h : s.step (.act .handlePacket) = .ok s') :
    run Racing.step (.ofSolo s) (s.sections (.act .handlePacket)) = .ok (.ofSolo s') := by
  obtain ⟨⟨g, e⟩, hstep, h⟩ := bind_eq_ok.mp h
  cases h
  simp only [Endpoint.step] at hstep
  unfold Solo.sections
  cases hbuf : s.endpoint.con.pktRecvBuffer with
  | nil =>
    simp only [Endpoint.handleNext, hbuf] at hstep
    cases hstep
    rfl
  | cons pkt rest =>
    by_cases hkind : pkt.kind = .ack
    · simp only [Endpoint.handleNext, hbuf, TcpController.handlePacket, hkind] at hstep
      obtain ⟨⟨g₁, c⟩, hack, hstep⟩ := bind_eq_ok.mp hstep
      obtain ⟨⟨b, g₂, c₂⟩, hwin, hack⟩ := bind_eq_ok.mp hack
      cases hack
      cases hstep
      simp only [hkind, if_true, run, Racing.step, Racing.ofSolo, hbuf, hwin, ok_bind]
    · simp only [hkind, if_false, run, Racing.step, Racing.ofSolo, hbuf, hstep, ok_bind]

theorem Solo.sendFIN_sections {s s' : Solo} (h : s.step (.act .sendFIN) = .ok s') :
    run Racing.step (.ofSolo s) [.finWindow 0, .finState 0] = .ok (.ofSolo s') := by
  obtain ⟨⟨g, e⟩, hstep, h⟩ := bind_eq_ok.mp h
  cases h
  obtain ⟨e₁, h₁, heq⟩ := map_eq_ok.mp hstep
  cases heq
  unfold Endpoint.runSendFIN at h₁
  -- nothing comes between the two sections
  have hrun : ∀ r, (Racing.ofSolo s).step (.finWindow 0) = .ok r →
      run Racing.step (.ofSolo s) [.finWindow 0, .finState 0] = r.step (.finState 0) := by
    intro r hr
    simp only [run, hr, ok_bind]
    cases r.step (.finState 0) <;> rfl
  split at h₁
  · next hwait =>
    cases h₁
    have hw : ((Racing.ofSolo s).midFin 0 ≠ none || s.endpoint.finTasks = 0 ||
        !s.endpoint.con.sendFINWait) = true := by
      simpa [Racing.ofSolo] using hwait
    rw [hrun (.ofSolo s) (if_pos hw)]
    rfl
  · next hwait =>
    have hw : ¬ ((Racing.ofSolo s).midFin 0 ≠ none || s.endpoint.finTasks = 0 ||
        !s.endpoint.con.sendFINWait) = true := by
      simpa [Racing.ofSolo] using hwait
    have hdue : (Racing.ofSolo s).step (.finWindow 0) =
        if s.endpoint.con.shutdown then _ else _ := if_neg hw
    obtain ⟨c, hc, h₁⟩ := bind_eq_ok.mp h₁
    cases h₁
    unfold TcpController.sendFIN at hc
    split at hc
    · next hshut =>
      cases hc
      rw [hrun _ (hdue.trans (if_pos hshut))]
      rfl
    · next hshut =>
      obtain ⟨⟨p, c₁⟩, hwin, hc⟩ := bind_eq_ok.mp hc
      cases hc
      have hwin' : (Racing.ofSolo s).endpoint.con.sendFINWindow (Racing.ofSolo s).globals.clock =
          .ok (p, c₁) := hwin
      rw [if_neg hshut, hwin', ok_bind] at hdue
      rw [hrun _ hdue]
      simp only [Racing.step, Racing.ofSolo, Function.update_self, Function.update_idem,
        Function.update_eq_self]

/-- **The atomic handlers are their sections run back to back.** -/
theorem Solo.step_sections {s s' : Solo} {i : Input} (h : s.step i = .ok s') :
    run Racing.step (.ofSolo s) (s.sections i) = .ok (.ofSolo s') := by
  have hact : ∀ a : Action, a ≠ .handlePacket → a ≠ .sendFIN → s.step (.act a) = .ok s' →
      run Racing.step (.ofSolo s) [.act a] = .ok (.ofSolo s') := by
    intro a h₁ h₂ h
    obtain ⟨⟨g, e⟩, hstep, h⟩ := bind_eq_ok.mp h
    cases h
    simp only [run, Racing.step, Racing.ofSolo, h₁, h₂, or_self, if_false, hstep, ok_bind]
  cases i with
  | act a =>
    cases a with
    | handlePacket => exact handle_sections h
    | sendFIN => exact sendFIN_sections h
    | writeData buf => exact hact _ (by simp) (by simp) h
    | readData size => exact hact _ (by simp) (by simp) h
    | shutDown => exact hact _ (by simp) (by simp) h
    | close => exact hact _ (by simp) (by simp) h
    | sendBufferListener => exact hact _ (by simp) (by simp) h
    | receiveBufferListener => exact hact _ (by simp) (by simp) h
    | timeoutReTransmitter => exact hact _ (by simp) (by simp) h
    | probeWindowSize => exact hact _ (by simp) (by simp) h
  | receive pkt =>
    cases h
    rfl
  | transmit =>
    cases h
    rfl
  | environment g =>
    cases h
    rfl

/-! ## The ACK of the FIN -/

namespace Racing

/-- Runs start with a new controller and no section under way. -/
def Start (s : Racing) : Prop := ∃ s₀ : Solo, s₀.Start ∧ s = ofSolo s₀

/-- The states in which an empty window means that the FIN is acknowledged. -/
def awaitsAck (c : TcpController) : Prop := c.state = .finWait1 ∨ c.state = .lastAck

instance (c : TcpController) : Decidable (awaitsAck c) :=
  inferInstanceAs (Decidable (_ ∨ _))

/-- While a `HandleACK` that has found the window empty is between its sections, no `SendFIN`
registers a FIN in a state that waits for the ACK of a FIN, and none moves the state to one
with a FIN still in the window. -/
def NotOvertaken (s : Racing) : Section → Prop
  | .finWindow thread => s.midAck = some true → s.midFin thread = none →
    s.endpoint.finDue = true → ¬ awaitsAck s.endpoint.con
  | .finState thread => s.midAck = some true → s.midFin thread ≠ none →
    s.endpoint.con.FinQueued →
      s.endpoint.con.state ≠ .established ∧ s.endpoint.con.state ≠ .closeWait
  | _ => True

instance (s : Racing) : (i : Section) → Decidable (NotOvertaken s i)
  | .finWindow _ => inferInstanceAs (Decidable (_ → _ → _ → _))
  | .finState _ => inferInstanceAs (Decidable (_ → _ → _ → _))
  | .ackWindow | .ackState | .rstClear | .rstState | .closeAndDelete | .handleOther | .act _
  | .receive _ | .transmit | .environment _ => .isTrue trivial

/-- The answer of the window section still holds when the state section uses it. -/
def Current (s : Racing) : Prop :=
  s.midAck = some true → awaitsAck s.endpoint.con → ¬ s.endpoint.con.FinQueued

theorem current_step {s s' : Racing} {i : Section} (hcond : NotOvertaken s i) (h : Current s)
    (hstep : s.step i = .ok s') : Current s' := by
  cases i with
  | ackWindow =>
    simp only [step] at hstep
    split at hstep
    · next pkt rest hmid hbuf =>
      split at hstep
      · obtain ⟨⟨b, g, c⟩, hwin, hstep⟩ := bind_eq_ok.mp hstep
        cases hstep
        obtain ⟨res, w₀, w, t, pt, ps, -, -, hb, -, rfl⟩ :=
          TcpController.handleACKWindow_frame hwin
        -- the answer is about this very window
        rintro hmid' - ⟨node, hn, -⟩
        have hempty : (w.pktsToAck.length == 0) = true := by
          rw [← hb]
          simpa using hmid'
        have hnil : w.pktsToAck = [] := by simpa using hempty
        rw [hnil] at hn
        simp at hn
      · cases hstep
        exact h
    · cases hstep
      exact h
  | ackState =>
    simp only [step] at hstep
    split at hstep
    · cases hstep
      intro hmid
      simp at hmid
    · cases hstep
      exact h
  | finWindow thread =>
    simp only [step] at hstep
    split at hstep
    · cases hstep
      exact h
    · next hwait =>
      simp only [Bool.or_eq_true, decide_eq_true_eq, not_or, Bool.not_eq_true', not_not,
        Bool.not_eq_false] at hwait
      split at hstep
      · cases hstep
        exact h
      · next hshut =>
        obtain ⟨⟨p, c⟩, hwin, hstep⟩ := bind_eq_ok.mp hstep
        cases hstep
        obtain ⟨-, w, watch, rfl, -⟩ := TcpController.sendFINWindow_frame hwin
        have hdue : s.endpoint.finDue = true := by
          simp [Endpoint.finDue, hwait.1.2, hwait.2, hshut]
        intro hmid hawaits
        exact absurd hawaits (hcond hmid hwait.1.1 hdue)
  | finState thread =>
    simp only [step] at hstep
    split at hstep
    · next p hmidFin =>
      cases hstep
      intro hmid hawaits
      have hmoved := hcond hmid (by simp [hmidFin])
      have hold := h hmid
      simp only [TcpController.sendFINState] at hawaits ⊢
      split at hawaits
      · next hst => exact fun hq => (hmoved hq).1 hst
      · next hst => exact fun hq => (hmoved hq).2 hst
      · exact hold hawaits
    · cases hstep
      exact h
  | rstClear =>
    simp only [step] at hstep
    split at hstep
    · cases hstep
      exact h
    · cases hstep
      exact h
  | rstState =>
    simp only [step] at hstep
    split at hstep
    · cases hstep
      -- the state is CLOSED now, and waits for nothing
      intro hmid hawaits
      simp [awaitsAck, TcpController.sendRSTForClosedConnection, TcpController.sendPacket] at hawaits
    · cases hstep
      exact h
  | closeAndDelete =>
    simp only [step] at hstep
    split at hstep
    · cases hstep
      exact h
    · cases hstep
      exact h
  | handleOther =>
    simp only [step] at hstep
    split at hstep
    · next hmid hbuf =>
      split at hstep
      · cases hstep
        exact h
      · obtain ⟨⟨g, e⟩, -, hstep⟩ := bind_eq_ok.mp hstep
        cases hstep
        intro hmid'
        simp [hmid] at hmid'
    · cases hstep
      exact h
  | act a =>
    simp only [step] at hstep
    split at hstep
    · cases hstep
      exact h
    · next hne =>
      obtain ⟨⟨g, e⟩, he, hstep⟩ := bind_eq_ok.mp hstep
      cases hstep
      rcases Endpoint.step_registers (fun ha => hne (Or.inl ha)) he with
        ⟨hst, new, hq, hnew⟩ | ⟨ha, -⟩
      · intro hmid hawaits
        rw [TcpController.finQueued_append hq hnew]
        refine h hmid ?_
        simpa only [awaitsAck, hst] using hawaits
      · exact absurd (Or.inr ha) hne
  | receive pkt =>
    cases hstep
    exact h
  | transmit =>
    cases hstep
    exact h
  | environment g =>
    cases hstep
    exact h

end Racing

/-- **An ACK is taken for the ACK of the FIN only if it is.** In every interleaving in which
`SendFIN` does not overtake a `HandleACK` that has found the window empty, no FIN is in the send
window when `HandleACK` leaves FIN_WAIT_1 or LAST_ACK. -/
theorem ack_of_fin {s₀ s s' : Racing} {is : List Section} (hstart : s₀.Start)
    (hcond : Meets Racing.step Racing.NotOvertaken s₀ is) (hrun : run Racing.step s₀ is = .ok s)
    (hstep : s.step .ackState = .ok s')
    (hmove : s.endpoint.con.state = .finWait1 ∧ s'.endpoint.con.state = .finWait2 ∨
      s.endpoint.con.state = .lastAck ∧ s'.endpoint.con.state = .closed) :
    ¬ s.endpoint.con.FinQueued ∧ ¬ s'.endpoint.con.FinQueued := by
  have hcurrent : Racing.Current s := by
    refine run_induction_of_meets Racing.step (P := Racing.Current)
      (fun _ _ _ h hc hstep => Racing.current_step hc h hstep) ?_ hcond hrun
    obtain ⟨t, -, rfl⟩ := hstart
    intro hmid
    simp [Racing.ofSolo] at hmid
  have hawaits : Racing.awaitsAck s.endpoint.con := hmove.imp And.left And.left
  simp only [Racing.step] at hstep
  split at hstep
  · next empty hmid =>
    cases hstep
    -- both moves are made only where the window was found empty
    have hempty : empty = true := by
      rcases s.endpoint.con.handleACKState_cases empty with
        ⟨-, ⟨hst, -⟩ | ⟨hst, -⟩ | ⟨-, he, -⟩ | ⟨-, he, -⟩⟩ | ⟨hst, -⟩
      · rcases hmove with ⟨h₁, h₂⟩ | ⟨h₁, h₂⟩
        · simp only [hst, h₁] at h₂
          cases h₂
        · simp only [hst, h₁] at h₂
          cases h₂
      · rcases hmove with ⟨h₁, -⟩ | ⟨h₁, -⟩
        · simp [hst] at h₁
        · simp [hst] at h₁
      · exact he
      · exact he
      · rcases hmove with ⟨h₁, -⟩ | ⟨h₁, -⟩
        · simp [hst] at h₁
        · simp [hst] at h₁
    have hno := hcurrent (by rw [hmid, hempty]) hawaits
    refine ⟨hno, fun hq => hno (hq.mono fun node hn _ => ?_)⟩
    rwa [(s.endpoint.con.handleACKState_same empty).2.2] at hn
  · cases hstep
    rcases hmove with ⟨h₁, h₂⟩ | ⟨h₁, h₂⟩
    · simp [h₁] at h₂
    · simp [h₁] at h₂

end

section

open scoped Reference

/-- The peer connects, and the controller sends three bytes. -/
def sendThree : List Section :=
  [.receive (signal { sync := true }), .handleOther,
    .receive (signal { ack := true, ackNum := 1, windowSize := 100 }), .ackWindow, .ackState,
    .act (.writeData [1, 2, 3]), .act .sendBufferListener]

/-- Then it closes, and the acknowledgement of everything is handled up to its last section. -/
def closeThenAck : List Section :=
  sendThree ++ [.act .shutDown, .finWindow 0, .finState 0,
    .receive (signal { ack := true, ackNum := 5, windowSize := 100 }), .ackWindow]

theorem ack_of_fin_closeThenAck : ∃ s s', run Racing.step (.ofSolo newSolo) closeThenAck = .ok s ∧
    s.step .ackState = .ok s' ∧ s.endpoint.con.state = .finWait1 ∧
    s'.endpoint.con.state = .finWait2 ∧
    ¬ s.endpoint.con.FinQueued ∧ ¬ s'.endpoint.con.FinQueued := by
  have hrun : (run Racing.step (.ofSolo newSolo) closeThenAck).map
      (fun s => (s.endpoint.con.state, (s.step .ackState).map (·.endpoint.con.state)))
      = .ok (.finWait1, .ok .finWait2) := by decide +kernel
  obtain ⟨s, hs, heq⟩ := map_eq_ok.mp hrun
  obtain ⟨hst, hnext⟩ := Prod.mk.inj heq
  obtain ⟨s', hs', hst'⟩ := map_eq_ok.mp hnext
  exact ⟨s, s', hs, hs', hst, hst', ack_of_fin ⟨newSolo, .server _ _ _, rfl⟩ (by decide +kernel)
    hs hs' (Or.inl ⟨hst, hst'⟩)⟩

/-- The acknowledgement of the data empties the window, and `SendFIN` runs before `HandleACK`
looks at the state. -/
def overtaken : List Section :=
  sendThree ++ [.receive (signal { ack := true, ackNum := 4, windowSize := 100 }), .ackWindow,
    .act .shutDown, .finWindow 0, .finState 0]

theorem not_ack_of_fin : ¬ ∀ (s₀ s s' : Racing) (is : List Section), s₀.Start →
    run Racing.step s₀ is = .ok s → s.step .ackState = .ok s' →
    s.endpoint.con.state = .finWait1 ∧ s'.endpoint.con.state = .finWait2 ∨
      s.endpoint.con.state = .lastAck ∧ s'.endpoint.con.state = .closed →
    ¬ s'.endpoint.con.FinQueued := by
  intro h
  have hrun : (run Racing.step (.ofSolo newSolo) overtaken).map
      (fun s => (s.endpoint.con.state, (s.step .ackState).map fun s' =>
        (s'.endpoint.con.state, decide s'.endpoint.con.FinQueued)))
      = .ok (.finWait1, .ok (.finWait2, true)) := by decide +kernel
  obtain ⟨s, hs, heq⟩ := map_eq_ok.mp hrun
  obtain ⟨hst, hnext⟩ := Prod.mk.inj heq
  obtain ⟨s', hs', heq⟩ := map_eq_ok.mp hnext
  obtain ⟨hst', hq⟩ := Prod.mk.inj heq
  exact h _ s s' overtaken ⟨newSolo, .server _ _ _, rfl⟩ hs hs' (Or.inl ⟨hst, hst'⟩)
    (by simpa using hq)

end

end NetStack
