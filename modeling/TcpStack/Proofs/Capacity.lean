import TcpStack.Proofs.Acknowledging

/-!
# TcpStack — the advertised window and acknowledgements

`HandleACK` sets the capacity of the send window to what the peer advertises, which may be less
than what is in flight. `NewAckedPacket` reads the capacity in one place, the test for an
acknowledgement number behind `2^32`: `ack_num <= send_base_ + capacity_`.

* **`newAckedPacket_setCapacity`** — two capacities that give the same answer to this test give the
  same acknowledgement.
* **`ackOverflow_iff`** — the answer in terms of sizes: the number has wrapped, and the window does
  not end between the wrap and the number.
* **`Contiguous.newAckedPacket_ok`** — the end of a prefix of the queue aborts under no capacity.
* **`acked_under_both`** — when two capacities treat an acknowledgement alike.
-/

namespace NetStack

open Tiling Transition

section

variable [HyLib]

namespace SendWindow

variable {w : SendWindow}

/-! ## Where the capacity is read -/

@[simp] theorem setCapacity_packets (c : UInt32) : (w.setCapacity c).packets = w.packets := rfl

@[simp] theorem setCapacity_sendBase (c : UInt32) : (w.setCapacity c).sendBase = w.sendBase := rfl

/-- The capacity is read in the test of `ack_overflow` only. -/
theorem newAckedPacket_setCapacity (g : Globals) {ackNum c₁ c₂ : UInt32}
    (hov : (w.setCapacity c₁).ackOverflow ackNum = (w.setCapacity c₂).ackOverflow ackNum) :
    (w.setCapacity c₂).newAckedPacket g ackNum = ((w.setCapacity c₁).newAckedPacket g ackNum).map
      fun r => (r.1, r.2.1.setCapacity c₂, r.2.2) := by
  have hadv : (w.setCapacity c₁).ackAdvances ackNum = (w.setCapacity c₂).ackAdvances ackNum := by
    rw [ackAdvances, ackAdvances, hov]
    rfl
  unfold newAckedPacket
  rw [hadv, hov]
  split
  · -- the loop and the check behind it are the same
    simp only [setCapacity]
    cases popAcked g.clock w.sendBase ackNum _ w.pktsToAck
        { pktsToAck := w.pktsToAck, size := w.size } with
    | error x => rfl
    | ok l =>
      simp only [ok_bind]
      by_cases hexp : ackNum =
          if l.pktsToAck = [] then l.crtSeqNum + l.crtPktLength else l.crtSeqNum
      · rw [if_neg (not_not.mpr hexp), if_neg (not_not.mpr hexp)]
        rfl
      · rw [if_pos hexp, if_pos hexp]
        rfl
  · simp only [setCapacity]
    by_cases hdup : ackNum = w.sendBase
    · by_cases hmax : w.duplicatedAcks + 1 ≥ g.maxDuplicatedAcks
      · simp only [hdup, hmax, if_true]
        rfl
      · simp only [hdup, hmax, if_true, if_false]
        rfl
    · simp only [hdup, if_false]
      rfl

/-- A number that does not move the send base aborts nothing. -/
theorem newAckedPacket_ok_of_not_advances (g : Globals) {ackNum : UInt32}
    (hadv : w.ackAdvances ackNum = false) :
    ∃ r, w.newAckedPacket g ackNum = .ok r ∧ r.1.ackRefreshed = false := by
  unfold newAckedPacket
  simp only [hadv, Bool.false_eq_true, if_false]
  split
  · split
    · exact ⟨_, rfl, rfl⟩
    · exact ⟨_, rfl, rfl⟩
  · exact ⟨_, rfl, rfl⟩

/-- A number that does is reported as such. -/
theorem ackRefreshed_of_advances {g : Globals} {ackNum : UInt32}
    {r : AckResult × SendWindow × Globals} (hadv : w.ackAdvances ackNum = true)
    (h : w.newAckedPacket g ackNum = .ok r) : r.1.ackRefreshed = true := by
  obtain ⟨res, w', g'⟩ := r
  rcases newAckedPacket_cases h with ⟨-, l, -, -, rfl, -⟩ | ⟨hno, -⟩ | ⟨hno, -⟩
  · rfl
  · rw [hadv] at hno
    cases hno
  · rw [hadv] at hno
    cases hno

/-! ## The test in terms of sizes -/

/-- A window of capacity `c` ends behind the wrap of the sequence numbers, before the end of the
first `d` bytes of the queue. -/
def EndsBetween (w : SendWindow) (c : UInt32) (d : ℕ) : Prop :=
  2 ^ 32 ≤ w.sendBase.toNat + c.toNat ∧ c.toNat < d

instance (w : SendWindow) (c : UInt32) (d : ℕ) : Decidable (w.EndsBetween c d) :=
  inferInstanceAs (Decidable (_ ∧ _))

/-- An acknowledgement of `d` bytes is taken for an overflow if it has wrapped, unless the window
ends between the wrap and the number. -/
theorem ackOverflow_iff (c : UInt32) {d : ℕ} (hd : d < 2 ^ 32) :
    (w.setCapacity c).ackOverflow (w.sendBase + UInt32.ofNat d) = true ↔
      2 ^ 32 ≤ w.sendBase.toNat + d ∧ ¬ w.EndsBetween c d := by
  have hbase := w.sendBase.toNat_lt
  have hcap := c.toNat_lt
  simp only [ackOverflow, setCapacity, EndsBetween, Bool.and_eq_true, decide_eq_true_eq,
    UInt32.lt_iff_toNat_lt, UInt32.le_iff_toNat_le, UInt32.toNat_add, UInt32.toNat_ofNat']
  omega

theorem Contiguous.setCapacity (h : w.Contiguous) (c : UInt32) : (w.setCapacity c).Contiguous :=
  ⟨fun {_ _} hp => h.seq hp, h.total⟩

/-- A capacity of `size_` leaves room for the whole queue, so it never stands in the way of an
acknowledgement. -/
theorem Contiguous.not_endsBetween_size (h : w.Contiguous) (j : ℕ) :
    ¬ w.EndsBetween w.size (offset w.packets j) := by
  intro hends
  have hle := h.offset_le j
  exact absurd hends.2 (by omega)

/-- **The end of a prefix of the queue aborts under no capacity.** Where it moves the send base it
does so as under a capacity of `size_`. -/
theorem Contiguous.newAckedPacket_ok (h : w.Contiguous) (g : Globals) {j : ℕ}
    (hj : j ≤ w.packets.length) :
    ∃ r, w.newAckedPacket g (w.sendBase + UInt32.ofNat (offset w.packets j)) = .ok r := by
  have hfit : offset w.packets j < 2 ^ 32 := (h.offset_le j).trans_lt w.size.toNat_lt
  cases hadv : w.ackAdvances (w.sendBase + UInt32.ofNat (offset w.packets j)) with
  | false =>
    obtain ⟨r, hr, -⟩ := newAckedPacket_ok_of_not_advances g hadv
    exact ⟨r, hr⟩
  | true =>
    have hpos : 0 < offset w.packets j := by
      rw [Nat.pos_iff_ne_zero]
      intro h0
      simp [h0, ackAdvances, ackOverflow] at hadv
    -- the overflow test gives the same answer
    have hov : (w.setCapacity w.size).ackOverflow (w.sendBase + UInt32.ofNat (offset w.packets j)) =
        (w.setCapacity w.capacity).ackOverflow
          (w.sendBase + UInt32.ofNat (offset w.packets j)) := by
      rw [Bool.eq_iff_iff, ackOverflow_iff _ hfit, ackOverflow_iff _ hfit]
      refine and_congr_right fun hwrap =>
        ⟨fun _ hends => ?_, fun _ => h.not_endsBetween_size j⟩
      have hno : (w.setCapacity w.capacity).ackOverflow
          (w.sendBase + UInt32.ofNat (offset w.packets j)) ≠ true :=
        fun htrue => ((ackOverflow_iff _ hfit).mp htrue).2 hends
      have hlt : ¬ w.sendBase < w.sendBase + UInt32.ofNat (offset w.packets j) := by
        have hbase := w.sendBase.toNat_lt
        rw [UInt32.lt_iff_toNat_lt, toNat_add_ofNat _ hfit, if_neg (by omega)]
        omega
      rw [ackAdvances, Bool.or_eq_true, decide_eq_true_eq] at hadv
      exact hadv.elim hlt hno
    obtain ⟨k, hk, hkj, heq, hiff⟩ := exists_boundary w.packets hpos
    have hbefore : ∀ i < k, offset w.packets i < offset w.packets k := by
      intro i hik
      by_contra hge
      have := (hiff i).mp (by omega)
      omega
    obtain ⟨rtt, hrun⟩ := (h.setCapacity w.size).newAckedPacket (UInt32.le_refl _) g hk
      (hkj.trans hj) hbefore
    have hmap := newAckedPacket_setCapacity g hov
    simp only [setCapacity_packets, setCapacity_sendBase, heq] at hrun
    rw [hrun] at hmap
    exact ⟨_, hmap⟩

/-! ## Two capacities -/

/-- `NewAckedPacket` gives the same flags, queue, size and base under two capacities. -/
def AckedAlike (w : SendWindow) (g : Globals) (ackNum c₁ c₂ : UInt32) : Prop :=
  ∃ r₁ r₂, (w.setCapacity c₁).newAckedPacket g ackNum = .ok r₁ ∧
    (w.setCapacity c₂).newAckedPacket g ackNum = .ok r₂ ∧
    r₁.1.ackRefreshed = r₂.1.ackRefreshed ∧ r₁.1.dupAck = r₂.1.dupAck ∧
    r₁.1.reTransmit = r₂.1.reTransmit ∧ r₁.2.1.pktsToAck = r₂.2.1.pktsToAck ∧
    r₁.2.1.size = r₂.2.1.size ∧ r₁.2.1.sendBase = r₂.2.1.sendBase

/-- Two capacities that disagree on the overflow test disagree on whether the base moves. -/
theorem AckedAlike.ackOverflow_eq {g : Globals} {ackNum c₁ c₂ : UInt32}
    (h : w.AckedAlike g ackNum c₁ c₂) :
    (w.setCapacity c₁).ackOverflow ackNum = true → (w.setCapacity c₂).ackOverflow ackNum = true := by
  intro h₁
  obtain ⟨r₁, r₂, hr₁, hr₂, href, -⟩ := h
  have hadv : (w.setCapacity c₁).ackAdvances ackNum = true := by
    rw [ackAdvances, h₁, Bool.or_true]
  have hlt : ackNum < w.sendBase := by
    rw [ackOverflow, Bool.and_eq_true, decide_eq_true_eq] at h₁
    exact h₁.1
  have hle : ¬ w.sendBase < ackNum := UInt32.not_lt.mpr (UInt32.le_of_lt hlt)
  by_contra h₂
  have hno : (w.setCapacity c₂).ackAdvances ackNum = false := by
    rw [Bool.not_eq_true] at h₂
    simp [ackAdvances, h₂, hle]
  -- the second call reports no progress, the first one does
  obtain ⟨r, hr, hfalse⟩ := newAckedPacket_ok_of_not_advances g hno
  rw [hr₂] at hr
  cases hr
  rw [ackRefreshed_of_advances hadv hr₁, hfalse] at href
  cases href

theorem AckedAlike.symm {g : Globals} {ackNum c₁ c₂ : UInt32} (h : w.AckedAlike g ackNum c₁ c₂) :
    w.AckedAlike g ackNum c₂ c₁ := by
  obtain ⟨r₁, r₂, hr₁, hr₂, href, hdup, hre, hqueue, hsize, hbase⟩ := h
  exact ⟨r₂, r₁, hr₂, hr₁, href.symm, hdup.symm, hre.symm, hqueue.symm, hsize.symm, hbase.symm⟩

end SendWindow

/-- **When the advertised window does not matter.** The end of a prefix of the queue is
acknowledged alike under two capacities exactly if both or none of the two windows end between the
wrap of the sequence numbers and the acknowledgement number. -/
theorem acked_under_both (w : SendWindow) (h : w.Contiguous) (g : Globals) {j : ℕ}
    (hlen : j ≤ w.packets.length) (c₁ c₂ : UInt32) :
    w.AckedAlike g (w.sendBase + UInt32.ofNat (offset w.packets j)) c₁ c₂ ↔
      (w.EndsBetween c₁ (offset w.packets j) ↔ w.EndsBetween c₂ (offset w.packets j)) := by
  have hfit : offset w.packets j < 2 ^ 32 := (h.offset_le j).trans_lt w.size.toNat_lt
  have hiff₁ := SendWindow.ackOverflow_iff (w := w) c₁ hfit
  have hiff₂ := SendWindow.ackOverflow_iff (w := w) c₂ hfit
  constructor
  · intro halike
    by_cases hwrap : 2 ^ 32 ≤ w.sendBase.toNat + offset w.packets j
    · -- the number has wrapped: the overflow test says where the window ends
      have h₁ := halike.ackOverflow_eq
      have h₂ := halike.symm.ackOverflow_eq
      rw [hiff₁, hiff₂] at h₁ h₂
      tauto
    · -- no window ends between a wrap and a number that has not wrapped
      unfold SendWindow.EndsBetween
      omega
  · intro hends
    have hov : (w.setCapacity c₁).ackOverflow (w.sendBase + UInt32.ofNat (offset w.packets j)) =
        (w.setCapacity c₂).ackOverflow (w.sendBase + UInt32.ofNat (offset w.packets j)) := by
      rw [Bool.eq_iff_iff, hiff₁, hiff₂, hends]
    obtain ⟨r, hr⟩ := (h.setCapacity c₁).newAckedPacket_ok g hlen
    have hmap := SendWindow.newAckedPacket_setCapacity g hov
    simp only [SendWindow.setCapacity_packets, SendWindow.setCapacity_sendBase] at hr
    rw [hr] at hmap
    exact ⟨_, _, hr, hmap, rfl, rfl, rfl, rfl, rfl, rfl⟩

end

section

open scoped Reference

/-- The window before the wrap, with the end of its queue acknowledged: capacities of 100 and of 15
bytes do not cut it. -/
theorem acked_under_both_wrap : wrapWindow.AckedAlike {} 8 100 15 :=
  (acked_under_both wrapWindow wrapWindow_contiguous {} (j := 3) (by decide) 100 15).mpr
    (by decide)

/-- The peer has acknowledged all 15 bytes and advertises 10: the window ends at 3, behind the wrap,
and the acknowledgement number 8 is ignored. -/
theorem not_acked_under_both_wrap :
    wrapWindow.Contiguous ∧ wrapWindow.size.toNat < 2 ^ 31 ∧
    (8 : UInt32) = wrapWindow.sendBase + UInt32.ofNat (offset wrapWindow.packets 3) ∧
    ¬ wrapWindow.AckedAlike {} 8 100 10 := by
  refine ⟨wrapWindow_contiguous, by decide, by decide, ?_⟩
  rintro ⟨r₁, r₂, hr₁, hr₂, href, -⟩
  have h₁ : ((wrapWindow.setCapacity 100).newAckedPacket {} 8).map (·.1.ackRefreshed) =
      .ok true := by
    decide +kernel
  have h₂ : ((wrapWindow.setCapacity 10).newAckedPacket {} 8).map (·.1.ackRefreshed) =
      .ok false := by
    decide +kernel
  rw [hr₁] at h₁
  rw [hr₂] at h₂
  cases (Except.ok.inj h₁).symm.trans (href.trans (Except.ok.inj h₂))

end

end NetStack
