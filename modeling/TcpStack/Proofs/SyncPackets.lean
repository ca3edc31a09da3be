import TcpStack.Proofs.Closing
import TcpStack.Proofs.Duplicates

/-!
# TcpStack — sync packets and the loop that streams a chain

The loop of `StreamDataToReceiveBuffer` does not advance on a packet with the sync flag. Only
`HandleSYN` gives such packets to the receive window, and it does not stream what it gets back; so
the loop ends if no sync packet is ever kept. `HandleSYN` checks the answer of `ReceivePacket`
against the number behind the SYN.

* **`receivePacket_error`** … **`handlePacket_error`** — which failure comes from where: everything
  but the spinning loop is a check.
* **`handleSYN_pkts`** — the check lets one SYN pass that is kept: the one with the largest
  sequence number, if the receive base is 0.
* **`no_sync_packet_kept`** — runs without this SYN are the runs in which no sync packet is kept and
  every loop ends.
-/

namespace NetStack

open Transition

section

variable [HyLib]

/-! ## Where a run stops -/

theorem SendWindow.sendPacket_error {w : SendWindow} {clock : ℕ} {p : Packet} {x : Fatal}
    (h : w.sendPacket clock p = .error x) : x = .lastUnackedMismatch := by
  unfold SendWindow.sendPacket at h
  split at h
  · cases h
  · split at h
    · split at h
      · cases h
      · cases h
    · simp only at h
      split at h
      · cases h
        rfl
      · split at h
        · cases h
        · cases h

/-- Induction on the queue. -/
theorem SendWindow.popAcked_error {clock : ℕ} {sendBase ackNum : UInt32} {ov : Bool}
    {nodes : List SendWindowNode} {l : AckLoop} {x : Fatal}
    (h : popAcked clock sendBase ackNum ov nodes l = .error x) : x = .ackOverlap := by
  induction nodes generalizing l with
  | nil => cases h
  | cons node rest ih =>
    rw [popAcked] at h
    split at h
    · split at h
      · exact ih h
      · cases h
        rfl
    · cases h

theorem SendWindow.newAckedPacket_error {w : SendWindow} {g : Globals} {ackNum : UInt32} {x : Fatal}
    (h : w.newAckedPacket g ackNum = .error x) : x = .ackOverlap ∨ x = .ackMismatch := by
  unfold SendWindow.newAckedPacket at h
  split at h
  · rcases bind_eq_error.mp h with hpop | ⟨l, -, hrest⟩
    · exact Or.inl (popAcked_error hpop)
    · by_cases hexp : ackNum =
          if l.pktsToAck = [] then l.crtSeqNum + l.crtPktLength else l.crtSeqNum
      · rw [if_neg (not_not.mpr hexp)] at hrest
        cases hrest
      · rw [if_pos hexp] at hrest
        cases hrest
        exact Or.inr rfl
  · split at h
    · simp only at h
      split at h
      · cases h
      · cases h
    · cases h

omit [HyLib] in
theorem RecvWindow.receivePacket_error {w : RecvWindow} {p : Packet} {x : Fatal}
    (h : w.receivePacket p = .error x) : x = .rangesOverlap ∨ x = .notAtHead := by
  unfold RecvWindow.receivePacket at h
  split at h
  · cases h
  · rcases bind_eq_error.mp h with hwalk | ⟨⟨before, after⟩, -, hrest⟩
    · exact Or.inl (insertWalk_error_eq hwalk)
    · simp only at hrest
      split at hrest
      · cases hrest
        exact Or.inl rfl
      · split at hrest
        · split at hrest
          · cases hrest
            exact Or.inr rfl
          · cases hrest
        · cases hrest

namespace TcpController

variable {c c' : TcpController} {g : Globals} {pkt : Packet} {x : Fatal} {clock : ℕ}

/-- The loop spins only on a sync packet of its chain. Induction on the chain. -/
theorem streamLoop_error {chain : List Packet} (h : streamLoop chain c = .error x) :
    ∃ q ∈ chain, q.tcpHeader.sync = true := by
  induction chain generalizing c with
  | nil => cases h
  | cons p rest ih =>
    have hrest : ∀ {c₁ : TcpController}, streamLoop rest c₁ = .error x →
        ∃ q ∈ p :: rest, q.tcpHeader.sync = true := by
      intro c₁ h₁
      obtain ⟨q, hq, hsync⟩ := ih h₁
      exact ⟨q, List.mem_cons_of_mem _ hq, hsync⟩
    rw [streamLoop] at h
    split at h
    · next hsync => exact ⟨p, List.mem_cons_self .., hsync⟩
    · split at h
      · cases h
      · split at h
        · simp only at h
          split at h
          · exact hrest h
          · exact hrest h
        · exact hrest h

theorem receiveAndAck_error (h : c.receiveAndAck pkt = .error x) :
    x.isSanityCheck = true ∨ ∃ ackNum chain w,
      c.recvWindow.receivePacket pkt = .ok (ackNum, chain, w) ∧
      ∃ q ∈ chain, q.tcpHeader.sync = true := by
  rcases bind_eq_error.mp h with hrecv | ⟨⟨ackNum, chain, w⟩, hrecv, hrest⟩
  · rcases RecvWindow.receivePacket_error hrecv with rfl | rfl
    · exact Or.inl rfl
    · exact Or.inl rfl
  · rcases bind_eq_error.mp hrest with hstream | ⟨c₁, -, hok⟩
    · exact Or.inr ⟨ackNum, chain, w, hrecv, streamLoop_error hstream⟩
    · cases hok

/-- `HandleSYN` stops at a check. -/
theorem handleSYN_error (h : c.handleSYN g pkt = .error x) : x.isSanityCheck = true := by
  rcases bind_eq_error.mp h with hrecv | ⟨⟨ackNum, chain, w⟩, -, hrest⟩
  · rcases RecvWindow.receivePacket_error hrecv with rfl | rfl
    · rfl
    · rfl
  · simp only at hrest
    split at hrest
    · cases hrest
      rfl
    · split at hrest
      · cases hrest
      · rcases bind_eq_error.mp hrest with hsend | ⟨⟨sent, w'⟩, -, hend⟩
        · rw [SendWindow.sendPacket_error hsend]
          rfl
        · simp only at hend
          split at hend
          · cases hend
          · cases hend

theorem isSanityCheck_of_newAckedPacket {ackNum : UInt32}
    (h : c.sendWindow.newAckedPacket g ackNum = .error x) : x.isSanityCheck = true := by
  rcases SendWindow.newAckedPacket_error h with rfl | rfl
  · rfl
  · rfl

/-- **A packet that is handled without a check failing** makes the loop spin only if it completes a
chain with a sync packet in it; the packet itself has no sync flag then. -/
theorem handlePacket_error (h : c.handlePacket g pkt = .error x) :
    x.isSanityCheck = true ∨ pkt.tcpHeader.sync = false ∧ ∃ ackNum chain w,
      c.recvWindow.receivePacket pkt = .ok (ackNum, chain, w) ∧
      ∃ q ∈ chain, q.tcpHeader.sync = true := by
  unfold handlePacket at h
  split at h
  · exact Or.inl (handleSYN_error (map_eq_error.mp h))
  · -- a SYN-ACK
    unfold handleACKSYN at h
    split at h
    · rcases bind_eq_error.mp h with hconn | ⟨⟨g₁, c₁⟩, -, hok⟩
      · rcases bind_eq_error.mp hconn with hack | ⟨⟨res, w, g₂⟩, -, hok⟩
        · exact Or.inl (isSanityCheck_of_newAckedPacket hack)
        · cases hok
      · cases hok
    · cases h
  · next hkind =>
    -- a FIN: the state section leaves the receive window alone
    have hfin := receiveAndAck_error (map_eq_error.mp h)
    obtain ⟨st, k, hframe⟩ := c.handleFINState_frame
    rw [hframe] at hfin
    exact hfin.imp_right fun hsync => ⟨Packet.not_sync_of_kind (by simp [hkind]) (by simp [hkind]), hsync⟩
  · -- an ACK
    rcases bind_eq_error.mp h with hwin | ⟨⟨b, g₁, c₁⟩, -, hok⟩
    · rcases bind_eq_error.mp hwin with hack | ⟨⟨res, w, g₂⟩, -, hok⟩
      · exact Or.inl (isSanityCheck_of_newAckedPacket hack)
      · cases hok
    · cases hok
  · cases h
  · next hkind =>
    have hdata := map_eq_error.mp h
    unfold handleDataPacket at hdata
    split at hdata
    · cases hdata
    · exact (receiveAndAck_error hdata).imp_right fun hsync =>
        ⟨Packet.not_sync_of_kind (by simp [hkind]) (by simp [hkind]), hsync⟩

/-- The send pipeline stops at a check, or at the `LogFATAL` of `SendFIN`. -/
theorem sendDataPacket_error {size : UInt32} {restart : Bool}
    (h : c.sendDataPacket clock size restart = .error x) : x = .lastUnackedMismatch := by
  unfold sendDataPacket at h
  simp only at h
  rcases bind_eq_error.mp h with hsend | ⟨⟨sent, w⟩, -, hok⟩
  · exact SendWindow.sendPacket_error hsend
  · simp only at hok
    split at hok
    · cases hok
    · cases hok

theorem sendFullPackets_error {numPkts : ℕ} (h : sendFullPackets clock numPkts c = .error x) :
    x = .lastUnackedMismatch := by
  induction numPkts generalizing c with
  | zero => cases h
  | succ numPkts ih =>
    rcases bind_eq_error.mp h with hsend | ⟨c₁, -, hrest⟩
    · exact sendDataPacket_error hsend
    · exact ih hrest

theorem sendBufferListener_error (h : c.sendBufferListener clock = .error x) :
    x = .lastUnackedMismatch := by
  unfold sendBufferListener at h
  split at h
  · cases h
  unfold sendBufferListenerLoop sendBufferListenerBody packetise at h
  split at h
  · cases h
  · split at h
    · cases h
    · split at h
      · cases h
      · rcases bind_eq_error.mp h with hfull | ⟨c₁, -, hrest⟩
        · exact sendFullPackets_error hfull
        · split at hrest
          · exact sendDataPacket_error hrest
          · cases hrest

theorem sendFIN_error (h : c.sendFIN clock = .error x) :
    x = .lastUnackedMismatch ∨ x = .finRefused := by
  unfold sendFIN at h
  split at h
  · cases h
  · rcases bind_eq_error.mp h with hwin | ⟨⟨p, c₁⟩, -, hok⟩
    · rcases bind_eq_error.mp hwin with hsend | ⟨⟨sent, w⟩, -, hrest⟩
      · exact Or.inl (SendWindow.sendPacket_error hsend)
      · simp only at hrest
        split at hrest
        · cases hrest
          exact Or.inr rfl
        · cases hrest
    · cases hok

end TcpController

/-- Only the handling of a packet can spin. -/
theorem Endpoint.step_error {e : Endpoint} {g : Globals} {a : Action} {x : Fatal}
    (ha : a ≠ .handlePacket) (h : e.step g a = .error x) : x ≠ .syncSpin := by
  cases a with
  | writeData buf => cases h
  | readData size =>
    rcases bind_eq_error.mp (map_eq_error.mp h) with hread | ⟨r, -, hrest⟩
    · rcases e.con.readData_cases size with hd | hd | hd | ⟨-, -, hd⟩ | ⟨-, hd⟩
      · rw [hd] at hread
        cases hread
        decide
      -- the call returns
      all_goals
        rw [hd] at hread
        cases hread
    · split at hrest
      · cases hrest
      · cases hrest
  | shutDown => cases h
  | close => cases h
  | sendFIN =>
    have hfin := map_eq_error.mp h
    unfold Endpoint.runSendFIN at hfin
    split at hfin
    · cases hfin
    · rcases bind_eq_error.mp hfin with hsend | ⟨c, -, hok⟩
      · rcases TcpController.sendFIN_error hsend with rfl | rfl
        · decide
        · decide
      · cases hok
  | sendBufferListener =>
    rw [TcpController.sendBufferListener_error (map_eq_error.mp h)]
    decide
  | receiveBufferListener => cases h
  | timeoutReTransmitter => cases h
  | probeWindowSize => cases h
  | handlePacket => exact absurd rfl ha

/-! ## Sync packets that are kept -/

/-- No sync packet is kept, and none is in a chain that a packet without the sync flag completes. -/
structure RecvWindow.SyncFree (w : RecvWindow) : Prop where
  kept : ∀ q ∈ w.pkts, q.tcpHeader.sync = false
  streamed : ∀ pkt ackNum chain w', pkt.tcpHeader.sync = false →
    w.receivePacket pkt = .ok (ackNum, chain, w') → ∀ q ∈ chain, q.tcpHeader.sync = false

omit [HyLib] in
theorem RecvWindow.SyncFree.of_kept {w : RecvWindow} (h : ∀ q ∈ w.pkts, q.tcpHeader.sync = false) :
    w.SyncFree := by
  refine ⟨h, fun pkt ackNum chain w' hpkt hrecv q hq => ?_⟩
  rcases (RecvWindow.receivePacket_mem hrecv).1 q hq with rfl | hold
  · exact hpkt
  · exact h q hold

/-- A SYN whose number is the last one before the wrap, for a receive window that starts behind
it. -/
def BehindWrap (w : RecvWindow) (pkt : Packet) : Prop :=
  pkt.tcpHeader.seqNum = 4294967295 ∧ w.recvBase = 0

instance (w : RecvWindow) (pkt : Packet) : Decidable (BehindWrap w pkt) :=
  inferInstanceAs (Decidable (_ ∧ _))

/-- **What the check of `HandleSYN` lets pass.** A SYN beyond the receive base is kept, and the
answer is the receive base; that is the number behind the SYN only if the number wraps to 0. -/
theorem TcpController.handleSYN_pkts {c c' : TcpController} {g : Globals} {pkt : Packet}
    (h : c.handleSYN g pkt = .ok c') :
    (BehindWrap c.recvWindow pkt → pkt ∈ c'.recvWindow.pkts) ∧
      (¬ BehindWrap c.recvWindow pkt → ∀ q ∈ c'.recvWindow.pkts, q ∈ c.recvWindow.pkts) := by
  obtain ⟨⟨ackNum, chain, w⟩, hrecv, hrest⟩ := bind_eq_ok.mp h
  simp only at hrest
  split at hrest
  · cases hrest
  · next hack =>
    -- the rest of the handler leaves the receive window alone
    have hw : c'.recvWindow = w := by
      split at hrest
      · obtain ⟨b, ps, hre, -⟩ := resendBase_frame { c with recvWindow := w }
        rw [hre] at hrest
        cases hrest
        rfl
      · obtain ⟨⟨sent, w'⟩, -, hend⟩ := bind_eq_ok.mp hrest
        simp only at hend
        split at hend
        · cases hend
          rfl
        · cases hend
          rfl
    rw [hw]
    rcases RecvWindow.receivePacket_cases hrecv with ⟨hold, -, -, rfl⟩ |
      ⟨before, after, -, -, hbeyond, rfl, -, rfl⟩ | ⟨-, -, hbase, -, -, rfl⟩
    · -- an old number
      refine ⟨fun hwrap => ?_, fun _ q hq => hq⟩
      rw [hwrap.2] at hold
      exact absurd hold (UInt32.not_lt.mpr UInt32.zero_le)
    · -- a number beyond the base passes the check only at the wrap
      have hwrap : BehindWrap c.recvWindow pkt := by
        have hnext : c.recvWindow.recvBase = pkt.tcpHeader.seqNum + 1 := not_not.mp hack
        rw [hnext, UInt32.lt_iff_toNat_lt, UInt32.toNat_add, UInt32.toNat_one] at hbeyond
        have hlt := pkt.tcpHeader.seqNum.toNat_lt
        have hseq : pkt.tcpHeader.seqNum = 4294967295 := by
          rw [← UInt32.toNat_inj]
          show _ = 4294967295
          omega
        refine ⟨hseq, ?_⟩
        rw [hnext, hseq]
        rfl
      exact ⟨fun _ => by simp, fun hno => absurd hwrap hno⟩
    · -- the number at the base
      refine ⟨fun ⟨hseq, hzero⟩ => ?_, fun _ q hq => ?_⟩
      · rw [hseq, hzero] at hbase
        cases hbase
      · rw [← RecvWindow.chainWalk_append pkt c.recvWindow.pkts]
        exact List.mem_append_right _ hq

/-! ## Runs -/

namespace Solo

variable {s s' : Solo} {i : Input}

/-- The step does not handle a SYN behind the wrap. -/
def SynBeforeWrap : Solo → Input → Prop :=
  OnPacket fun e pkt => pkt.kind = .syn → ¬ BehindWrap e.con.recvWindow pkt

instance (s : Solo) (i : Input) : Decidable (SynBeforeWrap s i) :=
  inferInstanceAs (Decidable (OnPacket _ s i))

/-- Handling a packet is a call of `HandleReceivedPackets`' dispatch. -/
theorem step_handlePacket {pkt : Packet} {rest : List Packet}
    (hhead : s.endpoint.con.pktRecvBuffer = pkt :: rest) :
    s.step (.act .handlePacket) =
      (TcpController.handlePacket { s.endpoint.con with pktRecvBuffer := rest } s.globals pkt).map
        fun r =>
          { globals := r.1
            endpoint := { s.endpoint with con := r.2, handled := s.endpoint.handled ++ [pkt] } } := by
  simp only [step, Endpoint.step, Endpoint.handleNext, hhead]
  cases TcpController.handlePacket _ s.globals pkt with
  | error x => rfl
  | ok r => rfl

/-- A step that handles no SYN keeps nothing but packets without the sync flag. -/
theorem syncFree_of_moves (h : s.endpoint.con.recvWindow.SyncFree)
    (hsyn : OnPacket (fun _ pkt => pkt.kind ≠ .syn) s i) (hstep : s.step i = .ok s') :
    s'.endpoint.con.recvWindow.SyncFree := by
  have htakes : ∀ {c c' : TcpController} {pkt : Packet}, c.recvWindow.SyncFree →
      pkt.tcpHeader.sync = false → c.Takes c' pkt → c'.recvWindow.SyncFree := by
    intro c c' pkt hfree hpkt htakes
    obtain ⟨ackNum, chain, w, hrecv, rfl, -⟩ := htakes.result
    refine .of_kept fun q hq => ?_
    rcases (RecvWindow.receivePacket_mem hrecv).2 q hq with rfl | hold
    · exact hpkt
    · exact hfree.kept q hold
  cases step_moves hstep with
  | act a ne quiet step =>
    rw [quiet.recvWindow]
    exact h
  | still i r p same idle =>
    rw [same]
    exact h
  | handle pkt rest head outcome handled =>
    cases outcome with
    | syn kind state pipe kill pkts queue => exact absurd kind (hsyn.head head)
    | synAck kind state pipe kill pkts window suffix =>
      refine .of_kept fun q hq => h.kept q ?_
      rw [pkts] at hq
      exact hq
    | fin kind takes =>
      obtain ⟨st, k, hframe⟩ := TcpController.handleFINState_frame
        { s.endpoint.con with pktRecvBuffer := rest }
      rw [hframe] at takes
      refine htakes ?_ (Packet.not_sync_of_kind (by simp [kind]) (by simp [kind])) takes
      exact h
    | ack kind c₁ empty res w g' acked queue isEmpty state pipe kill pkts result =>
      rw [result, (c₁.handleACKState_same empty).2.1, pkts]
      exact h
    | rst kind result =>
      rw [result]
      exact h
    | probe kind size state pipe kill recv window =>
      rw [recv]
      exact h
    | data kind size takes =>
      refine htakes ?_ (Packet.not_sync_of_kind (by simp [kind]) (by simp [kind])) takes
      exact h

/-- A step of a controller that keeps no sync packet does not spin. -/
theorem step_ne_syncSpin (h : s.endpoint.con.recvWindow.SyncFree) : s.step i ≠ .error .syncSpin := by
  intro herr
  cases i with
  | act a =>
    by_cases ha : a = .handlePacket
    · subst ha
      cases hq : s.endpoint.con.pktRecvBuffer with
      | nil =>
        simp only [step, Endpoint.step, Endpoint.handleNext, hq] at herr
        cases herr
      | cons pkt rest =>
        rw [step_handlePacket hq] at herr
        rcases TcpController.handlePacket_error (map_eq_error.mp herr) with hcheck |
          ⟨hpkt, ackNum, chain, w, hrecv, q, hmem, hsync⟩
        · cases hcheck
        · -- the chain holds the packet and packets that were kept
          rw [h.streamed pkt ackNum chain w hpkt hrecv q hmem] at hsync
          cases hsync
    · rcases bind_eq_error.mp herr with hact | ⟨r, -, hok⟩
      · exact Endpoint.step_error ha hact rfl
      · cases hok
  | receive pkt => cases herr
  | transmit => cases herr
  | environment g => cases herr

/-- **The condition on one step.** Where no check fails, a step keeps no sync packet and does not
spin exactly if it handles no SYN behind the wrap. -/
theorem synBeforeWrap_iff (h : s.endpoint.con.recvWindow.SyncFree)
    (hcheck : ∀ x, s.step i = .error x → ¬ x.isSanityCheck = true) :
    SynBeforeWrap s i ↔ (∀ s', s.step i = .ok s' → s'.endpoint.con.recvWindow.SyncFree) ∧
      ∀ x, s.step i = .error x → ¬ x = .syncSpin := by
  have hspin : ∀ x, s.step i = .error x → ¬ x = .syncSpin := by
    rintro x herr rfl
    exact step_ne_syncSpin h herr
  rw [and_iff_left hspin]
  by_cases hsyn : OnPacket (fun _ pkt => pkt.kind ≠ .syn) s i
  · -- no SYN is handled: both sides hold
    exact ⟨fun _ s' hstep => syncFree_of_moves h hsyn hstep,
      fun _ hi pkt hhead hkind => absurd hkind (hsyn hi pkt hhead)⟩
  · -- a SYN is handled
    simp only [OnPacket, not_forall, not_not] at hsyn
    obtain ⟨rfl, pkt, hhead, hkind⟩ := hsyn
    obtain ⟨rest, hq⟩ : ∃ rest, s.endpoint.con.pktRecvBuffer = pkt :: rest :=
      List.head?_eq_some_iff.mp hhead
    have hrun := step_handlePacket hq
    have hdispatch : ∀ c : TcpController, c.handlePacket s.globals pkt =
        (c.handleSYN s.globals pkt).map (s.globals, ·) := by
      intro c
      rw [TcpController.handlePacket, hkind]
    rw [hdispatch] at hrun
    cases hsyn : TcpController.handleSYN { s.endpoint.con with pktRecvBuffer := rest } s.globals
        pkt with
    | error x =>
      rw [hsyn] at hrun
      exact absurd (TcpController.handleSYN_error hsyn) (hcheck x hrun)
    | ok c' =>
      rw [hsyn] at hrun
      obtain ⟨hkept, hnot⟩ := TcpController.handleSYN_pkts hsyn
      constructor
      · intro hcond s' hstep
        rw [hrun] at hstep
        cases hstep
        refine .of_kept fun q hmem => h.kept q ?_
        exact hnot (hcond.head hq hkind) q hmem
      · rintro hfree - pkt' hhead' - hwrap
        rw [hq] at hhead'
        cases hhead'
        have hsync := (hfree _ hrun).kept pkt (hkept hwrap)
        rw [Packet.sync_of_kind_syn hkind] at hsync
        cases hsync

end Solo

/-- **When every chain is streamed to its end.** In a run in which no `SANITY_CHECK` aborts, no sync
packet is ever kept or streamed and no loop spins, exactly if no SYN with the sequence number
`2^32 - 1` is handled while the receive base is 0. -/
theorem no_sync_packet_kept {s₀ : Solo} {is : List Input} (hstart : s₀.Start)
    (hchecks : ∀ x, run Solo.step s₀ is = .error x → ¬ x.isSanityCheck = true) :
    (∀ pre, pre <+: is →
      (∀ s, run Solo.step s₀ pre = .ok s → s.endpoint.con.recvWindow.SyncFree) ∧
        ∀ x, run Solo.step s₀ pre = .error x → ¬ x = .syncSpin) ↔
      Meets Solo.step Solo.SynBeforeWrap s₀ is := by
  have hfree : s₀.endpoint.con.recvWindow.SyncFree := by
    refine .of_kept fun q hq => ?_
    rw [hstart.fresh.2.1] at hq
    cases hq
  exact forall_prefix_iff_meets_of_failures Solo.step
    (P := fun s => s.endpoint.con.recvWindow.SyncFree)
    (fun _ _ h hcheck => Solo.synBeforeWrap_iff h hcheck) hfree hchecks

end

section

open scoped Reference

/-- A SYN is delivered twice, as `DemultiplexPacketsToTcps` does. -/
def twice (pkt : Packet) : List Input :=
  [.receive pkt, .receive pkt, .act .handlePacket, .act .handlePacket]

/-- The options of `HandleNewConnection` for a SYN with this sequence number. -/
def synOptions (seqNum : UInt32) : TcpControllerOptions :=
  { TcpController.getDefaultOptions with recvWindowBase := seqNum }

/-- The server's controller for this SYN. -/
def serverOf (seqNum : UInt32) : Solo :=
  { endpoint := { con := TcpController.new {} (synOptions seqNum) } }

theorem no_sync_packet_kept_twice : ∃ s,
    run Solo.step (serverOf 7) (twice (signal { sync := true, seqNum := 7 })) = .ok s ∧
    s.endpoint.con.recvWindow.SyncFree := by
  have hrun : (run Solo.step (serverOf 7) (twice (signal { sync := true, seqNum := 7 }))).isOk =
      true := by
    decide +kernel
  have hmeets : Meets Solo.step Solo.SynBeforeWrap (serverOf 7)
      (twice (signal { sync := true, seqNum := 7 })) := by
    decide +kernel
  cases hs : run Solo.step (serverOf 7) (twice (signal { sync := true, seqNum := 7 })) with
  | error x =>
    rw [hs] at hrun
    cases hrun
  | ok s =>
    have hstart : (serverOf 7).Start := .server _ _ _
    have h := (no_sync_packet_kept hstart fun x hx => by rw [hs] at hx; cases hx).mpr hmeets
    exact ⟨s, rfl, (h _ (List.prefix_refl _)).1 s hs⟩

/-- The client's SYN has the last number before the wrap. The first copy moves the receive base to
0, the second one is kept. -/
theorem not_no_sync_packet_kept : ∃ s, (serverOf 4294967295).Start ∧
    run Solo.step (serverOf 4294967295)
      (twice (signal { sync := true, seqNum := 4294967295 })) = .ok s ∧
    ¬ ∀ q ∈ s.endpoint.con.recvWindow.pkts, q.tcpHeader.sync = false := by
  have hrun : (run Solo.step (serverOf 4294967295)
      (twice (signal { sync := true, seqNum := 4294967295 }))).map
        (fun s => s.endpoint.con.recvWindow.pkts) =
      .ok [signal { sync := true, seqNum := 4294967295 }] := by
    decide +kernel
  obtain ⟨s, hs, hpkts⟩ := map_eq_ok.mp hrun
  refine ⟨s, .server _ _ _, hs, fun h => ?_⟩
  rw [hpkts] at h
  cases h _ (List.mem_singleton.mpr rfl)

end

end NetStack
