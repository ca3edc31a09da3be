import TcpStack.Proofs.Closing
import TcpStack.Proofs.Headers

/-!
# TcpStack — packets that come before `TryConnect`

`SocketConnect` puts the new controller into the connection map before it calls `TryConnect`, and
the controller's threads are running by then. A packet of the connection that arrives in between is
handled by a controller that is still CLOSED.

* **`Unopened`** — no SYN has come: `TryConnect` sends one.
* **`Opened`** — a SYN was answered: `TryConnect` refuses.
* **`handleReceivedPackets_early`** — a new controller is the one or the other.
-/

namespace NetStack

open Transition

variable [HyLib]

/-- An ACK leaves an unused window as it is: a number above the send base fails the
`SANITY_CHECK`, since there is nothing to take. -/
theorem SendWindow.newAckedPacket_of_nil {w w' : SendWindow} {g g' : Globals} {ackNum : UInt32}
    {res : AckResult} (hq : w.pktsToAck = []) (hbase : w.sendBase = 0)
    (h : w.newAckedPacket g ackNum = .ok (res, w', g')) :
    w'.pktsToAck = [] ∧ w'.size = w.size ∧ w'.sendBase = 0 := by
  unfold newAckedPacket at h
  split at h
  · next hadv =>
    have hne : ackNum ≠ 0 + 0 := by
      rintro rfl
      rw [ackAdvances, ackOverflow, hbase] at hadv
      simp at hadv
    obtain ⟨l, hpop, h⟩ := bind_eq_ok.mp h
    rw [hq, popAcked] at hpop
    cases hpop
    dsimp only at h
    rw [if_pos rfl, if_pos hne] at h
    cases h
  · split at h
    · dsimp only at h
      split at h
      · cases h
        exact ⟨hq, rfl, hbase⟩
      · cases h
        exact ⟨hq, rfl, hbase⟩
    · cases h
      exact ⟨hq, rfl, hbase⟩

namespace TcpController

variable {c c' : TcpController} {g g' : Globals} {pkt : Packet} {early : List Packet}

/-- The controller is CLOSED and its send window has not been used. -/
structure Unopened (c : TcpController) : Prop where
  state : c.state = .closed
  queue : c.sendWindow.pktsToAck = []
  size : c.sendWindow.size = 0
  base : c.sendWindow.sendBase = 0

/-- The states that packets alone lead to from a SYN on. -/
def Opened (c : TcpController) : Prop :=
  c.state = .synRcvd ∨ c.state = .established ∨ c.state = .closeWait

theorem unopened_new (key : TcpControllerKey) :
    (TcpController.new key getDefaultOptions).Unopened := ⟨rfl, rfl, rfl, rfl⟩

/-! ## `TryConnect` -/

/-- An empty window has room for the SYN, or its capacity is zero, which waives the check. -/
theorem Unopened.sendPacket (hc : c.Unopened) {clock : ℕ} {p : Packet} (hsize : p.payloadSize = 1)
    (hseq : p.tcpHeader.seqNum = c.sendWindow.sendBase) :
    c.sendWindow.sendPacket clock p = .ok (true, c.sendWindow.enqueue clock p) := by
  have hroom : ¬ (c.sendWindow.freeSpace < p.payloadSize ∧ c.sendWindow.capacity > 0) := by
    rintro ⟨hfree, hcap⟩
    rw [SendWindow.freeSpace, hc.size, if_pos hcap, hsize, UInt32.sub_zero] at hfree
    rw [UInt32.lt_iff_toNat_lt] at hfree
    rw [gt_iff_lt, UInt32.lt_iff_toNat_lt] at hcap
    simp only [UInt32.toNat_zero, UInt32.toNat_one] at hcap hfree
    omega
  rw [SendWindow.sendPacket, if_neg hroom, hc.queue, List.getLast?_nil]
  simp only [hseq]
  rw [if_neg (not_not_intro rfl)]

theorem Unopened.tryConnect (hc : c.Unopened) (g : Globals) :
    ∃ c', c.tryConnect g = .ok (true, c') := by
  have hsent : c.sendWindow.sendPacket g.clock (c.makeSyncPacket c.sendWindow.sendBase) =
      .ok (true, _) := hc.sendPacket rfl rfl
  unfold TcpController.tryConnect
  rw [if_neg (not_not_intro hc.state)]
  simp only [hsent, ok_bind]
  exact ⟨_, rfl⟩

theorem Opened.tryConnect (hc : c.Opened) (g : Globals) : c.tryConnect g = .ok (false, c) := by
  have hstate : c.state ≠ .closed := by
    rcases hc with hst | hst | hst
    · rw [hst]
      decide
    · rw [hst]
      decide
    · rw [hst]
      decide
  rw [TcpController.tryConnect, if_pos hstate]

/-! ## One packet -/

/-- Without a SYN the controller stays as it is, as far as `TryConnect` can see. -/
theorem Unopened.handlePacket (hc : c.Unopened) (hkind : pkt.kind ≠ .syn)
    (h : c.handlePacket g pkt = .ok (g', c')) : c'.Unopened := by
  have htakes : ∀ {c' : TcpController}, c.Takes c' pkt → c'.Unopened := by
    intro c' ht
    have hw := ht.sendWindow
    exact ⟨ht.state.trans hc.state, by rw [hw, hc.queue], by rw [hw, hc.size], by rw [hw, hc.base]⟩
  unfold TcpController.handlePacket at h
  split at h
  · next kind => exact absurd kind hkind
  · -- the receive base is set, and that is all
    have hne : c.state ≠ .synSent := by
      rw [hc.state]
      decide
    rw [handleACKSYN, if_neg hne] at h
    cases h
    exact ⟨hc.state, hc.queue, hc.size, hc.base⟩
  · obtain ⟨c₁, h₁, heq⟩ := map_eq_ok.mp h
    cases heq
    have hfin : c.handleFINState = c := by rw [handleFINState, hc.state]
    rw [handleFIN, hfin] at h₁
    exact htakes (receiveAndAck_takes h₁)
  · obtain ⟨⟨b, g₁, c₁⟩, hwin, h⟩ := bind_eq_ok.mp h
    cases h
    have h₁ : c₁.Unopened := by
      obtain ⟨⟨res, w, g₂⟩, hack, hwin⟩ := bind_eq_ok.mp hwin
      obtain ⟨hq, hsize, hbase⟩ := SendWindow.newAckedPacket_of_nil hc.queue hc.base hack
      rw [hc.size] at hsize
      dsimp only at hwin
      split at hwin
      · obtain ⟨f, ps, hre, -⟩ := resendBase_frame { c with sendWindow := w }
        rw [hre] at hwin
        cases hwin
        exact ⟨hc.state, hq, hsize, hbase⟩
      · cases hwin
        exact ⟨hc.state, hq, hsize, hbase⟩
    have hack : c₁.handleACKState b = c₁ := by
      rw [handleACKState, h₁.state]
      rfl
    rw [hack]
    exact h₁
  · cases h
    exact ⟨hc.state, hc.queue, hc.size, hc.base⟩
  · obtain ⟨c₁, h₁, heq⟩ := map_eq_ok.mp h
    cases heq
    unfold handleDataPacket at h₁
    split at h₁
    · cases h₁
      exact ⟨hc.state, hc.queue, hc.size, hc.base⟩
    · exact htakes (receiveAndAck_takes h₁)

/-- The first SYN is answered by a SYN-ACK. -/
theorem Unopened.handleSYN (hc : c.Unopened) (h : c.handleSYN g pkt = .ok c') : c'.Opened := by
  obtain ⟨⟨ackNum, chain, r⟩, -, h⟩ := bind_eq_ok.mp h
  have hr : { c with recvWindow := r }.Unopened := ⟨hc.state, hc.queue, hc.size, hc.base⟩
  have hfresh : ¬ c.sendWindow.size > 0 := by
    rw [hc.size]
    decide
  dsimp only at h
  split at h
  · cases h
  · have hsent : c.sendWindow.sendPacket g.clock
        (makeSyncAckPacket { c with recvWindow := r } 0 ackNum) = .ok (true, _) :=
      hr.sendPacket rfl hc.base.symm
    simp only [hsent, ok_bind] at h
    cases h
    exact Or.inl rfl

/-- From there packets do not lead back to CLOSED. -/
theorem Opened.handlePacket (hc : c.Opened) (h : c.handlePacket g pkt = .ok (g', c')) :
    c'.Opened := by
  have hsame : ∀ {c' : TcpController}, c'.state = c.state → c'.Opened := by
    intro c' hst
    rw [Opened, hst]
    exact hc
  cases handlePacket_outcome h with
  | syn kind state =>
    rcases state with hst | hst
    · exact hsame hst
    · exact Or.inl hst
  | synAck kind state =>
    rcases state with hst | ⟨-, hst⟩
    · exact hsame hst
    · exact Or.inr (Or.inl hst)
  | fin kind takes =>
    rcases c.handleFINState_cases with ⟨-, heq⟩ | ⟨hst, -⟩ | ⟨hst, -⟩ | ⟨-, heq⟩
    · have hst := takes.state
      rw [heq] at hst
      exact Or.inr (Or.inr hst)
    · rw [Opened, hst] at hc
      simp at hc
    · rw [Opened, hst] at hc
      simp at hc
    · have hst := takes.state
      rw [heq] at hst
      exact hsame hst
  | ack kind c₁ empty res w g₁ acked queue isEmpty state pipe kill pkts result =>
    have h₁ : c₁.Opened := hsame state
    subst result
    rw [Opened] at h₁ ⊢
    rcases h₁ with hst | hst | hst
    · simp [handleACKState, hst]
    · simp [handleACKState, hst]
    · simp [handleACKState, hst]
  | rst kind result =>
    rw [result]
    exact hsame rfl
  | probe kind size state => exact hsame state
  | data kind size takes => exact hsame takes.state

/-! ## All of them -/

theorem Opened.handleReceivedPackets (hc : c.Opened)
    (h : c.handleReceivedPackets g early = .ok (g', c')) : c'.Opened := by
  induction early generalizing c g with
  | nil =>
    cases h
    exact hc
  | cons pkt rest ih =>
    obtain ⟨⟨g₁, c₁⟩, h₁, h⟩ := bind_eq_ok.mp h
    exact ih (hc.handlePacket h₁) h

/-- **`TryConnect` after the early packets**: without a SYN among them the controller is ready for
it, with one it refuses. Induction on the packets, up to the first SYN. -/
theorem Unopened.handleReceivedPackets (hc : c.Unopened)
    (h : c.handleReceivedPackets g early = .ok (g', c')) :
    ((∀ pkt ∈ early, pkt.kind ≠ .syn) ∧ c'.Unopened) ∨
      ((∃ pkt ∈ early, pkt.kind = .syn) ∧ c'.Opened) := by
  induction early generalizing c g with
  | nil =>
    cases h
    exact Or.inl ⟨by simp, hc⟩
  | cons pkt rest ih =>
    obtain ⟨⟨g₁, c₁⟩, h₁, h⟩ := bind_eq_ok.mp h
    by_cases hkind : pkt.kind = .syn
    · rw [TcpController.handlePacket, hkind] at h₁
      obtain ⟨c₂, h₂, heq⟩ := map_eq_ok.mp h₁
      cases heq
      exact Or.inr ⟨⟨pkt, List.mem_cons_self .., hkind⟩,
        (hc.handleSYN h₂).handleReceivedPackets h⟩
    · rcases ih (hc.handlePacket hkind h₁) h with ⟨hnone, hun⟩ | ⟨⟨q, hq, hk⟩, hop⟩
      · exact Or.inl ⟨List.forall_mem_cons.mpr ⟨hkind, hnone⟩, hun⟩
      · exact Or.inr ⟨⟨q, List.mem_cons_of_mem _ hq, hk⟩, hop⟩

/-- The keys of the controller and of what it sends stay. -/
theorem Addressed.handleReceivedPackets {key : TcpControllerKey} (hc : c.Addressed key)
    (h : c.handleReceivedPackets g early = .ok (g', c')) : c'.Addressed key := by
  induction early generalizing c g with
  | nil =>
    cases h
    exact hc
  | cons pkt rest ih =>
    obtain ⟨⟨g₁, c₁⟩, h₁, h⟩ := bind_eq_ok.mp h
    exact ih (hc.handlePacket h₁) h

end TcpController

end NetStack
