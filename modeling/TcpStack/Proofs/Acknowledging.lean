import TcpStack.Proofs.SendWindow

/-!
# TcpStack — what an acknowledgement number means to a send window

A send window on its own, at any place of the sequence space.

* **`cumulative_ack`** — the end of a prefix of the queue acknowledges exactly this prefix, also
  across `2^32`.
* **`stale_ack_ignored`** — an acknowledgement behind the send base is ignored only if the send
  base plus the capacity has wrapped to a number behind it.
* **`windows_independent`** — two windows of one process share `max_duplicated_acks`; one does
  not see the other as long as this number is left alone.
-/

namespace NetStack

open Tiling Transition

section

variable [HyLib]

namespace SendWindow

/-! ## Cumulative acknowledgements -/

omit [HyLib] in
/-- A sequence number `n` behind another one wraps at most once. -/
theorem toNat_add_ofNat (b : UInt32) {n : ℕ} (h : n < 2 ^ 32) :
    (b + UInt32.ofNat n).toNat = if b.toNat + n < 2 ^ 32 then b.toNat + n
      else b.toNat + n - 2 ^ 32 := by
  have := b.toNat_lt
  rw [UInt32.toNat_add, UInt32.toNat_ofNat_of_lt' h]
  split
  · exact Nat.mod_eq_of_lt ‹_›
  · omega

/-- The packets of the queue. -/
def packets (w : SendWindow) : List Packet := w.pktsToAck.map (·.pkt)

/-- The queue is contiguous from the send base on, modulo `2^32`, and `size_` is its true size. -/
structure Contiguous (w : SendWindow) : Prop where
  seq : ∀ {i p}, w.packets[i]? = some p →
    p.tcpHeader.seqNum = w.sendBase + UInt32.ofNat (offset w.packets i)
  total : w.size.toNat = offset w.packets w.packets.length

variable {w : SendWindow}

theorem Contiguous.offset_le (h : w.Contiguous) (i : ℕ) : offset w.packets i ≤ w.size.toNat := by
  rw [h.total]
  rcases Nat.le_total i w.packets.length with hi | hi
  · exact offset_mono _ hi
  · rw [offset, offset, List.take_of_length_le hi, List.take_of_length_le le_rfl]

/-- Where a packet of the queue ends. -/
theorem Contiguous.end_eq (h : w.Contiguous) {i : ℕ} {p : Packet} (hp : w.packets[i]? = some p) :
    p.tcpHeader.seqNum + p.payloadSize = w.sendBase + UInt32.ofNat (offset w.packets (i + 1)) := by
  rw [h.seq hp, offset_succ hp, UInt32.ofNat_add, Packet.ofNat_len, UInt32.add_assoc]

omit [HyLib] in
/-- The first packet at an offset of at least `d`. -/
theorem exists_boundary (l : List Packet) {j : ℕ} (hpos : 0 < offset l j) :
    ∃ k, 0 < k ∧ k ≤ j ∧ offset l k = offset l j ∧ ∀ i, offset l j ≤ offset l i ↔ k ≤ i := by
  classical
  have hex : ∃ k, offset l j ≤ offset l k := ⟨j, le_rfl⟩
  have hkj : Nat.find hex ≤ j := Nat.find_min' hex le_rfl
  refine ⟨Nat.find hex, ?_, hkj, ?_, fun i => ⟨fun hi => Nat.find_min' hex hi, fun hi => ?_⟩⟩
  · rw [Nat.pos_iff_ne_zero]
    intro h0
    have := Nat.find_spec hex
    rw [h0, offset_zero] at this
    omega
  · exact le_antisymm (offset_mono l hkj) (Nat.find_spec hex)
  · exact (Nat.find_spec hex).trans (offset_mono l hi)

/-- How the end of a non-empty prefix looks to `NewAckedPacket`: it is larger than the send base,
or the sequence numbers wrap before it. -/
theorem ack_cases (hcap : w.size ≤ w.capacity) {d : ℕ}
    (hpos : 0 < d) (hd : d ≤ w.size.toNat) :
    (w.sendBase.toNat + d < 2 ^ 32 ∧ w.sendBase < w.sendBase + UInt32.ofNat d ∧
        w.ackOverflow (w.sendBase + UInt32.ofNat d) = false) ∨
      (2 ^ 32 ≤ w.sendBase.toNat + d ∧ w.sendBase + UInt32.ofNat d < w.sendBase ∧
        w.ackOverflow (w.sendBase + UInt32.ofNat d) = true) := by
  have hbase := w.sendBase.toNat_lt
  have hsize := w.size.toNat_lt
  have hcapacity := w.capacity.toNat_lt
  have hcap' := UInt32.le_iff_toNat_le.mp hcap
  simp only [ackOverflow, Bool.and_eq_false_iff, Bool.and_eq_true, decide_eq_false_iff_not,
    decide_eq_true_eq, UInt32.lt_iff_toNat_lt, UInt32.le_iff_toNat_le, UInt32.toNat_add,
    UInt32.toNat_ofNat']
  omega

/-- Every packet before index `k` passes both tests of the loop. -/
theorem Contiguous.popped (h : w.Contiguous) (hcap : w.size ≤ w.capacity) {k : ℕ}
    (hbefore : ∀ i < k, offset w.packets i < offset w.packets k) {i : ℕ} {p : Packet} (hik : i < k)
    (hget : w.packets[i]? = some p) :
    StartsAcked w.sendBase (w.sendBase + UInt32.ofNat (offset w.packets k))
        (w.ackOverflow (w.sendBase + UInt32.ofNat (offset w.packets k))) p ∧
      EndsAcked (w.sendBase + UInt32.ofNat (offset w.packets k))
        (w.ackOverflow (w.sendBase + UInt32.ofNat (offset w.packets k))) p := by
  have hsize := w.size.toNat_lt
  have hlt := hbefore i hik
  have hle : offset w.packets (i + 1) ≤ offset w.packets k := offset_mono _ hik
  have hfit := h.offset_le k
  have hpkt := toNat_add_ofNat w.sendBase (n := offset w.packets i) (by omega)
  have hend := toNat_add_ofNat w.sendBase (n := offset w.packets (i + 1)) (by omega)
  have hnum := toNat_add_ofNat w.sendBase (n := offset w.packets k) (by omega)
  rw [StartsAcked, EndsAcked, h.end_eq hget, h.seq hget]
  rcases ack_cases hcap (show 0 < offset w.packets k by omega) hfit with
    ⟨hnowrap, -, -⟩ | ⟨hwrap, -, hov⟩
  · rw [if_pos (by omega)] at hpkt hend hnum
    refine ⟨Or.inl ?_, Or.inl ?_⟩
    · rw [UInt32.lt_iff_toNat_lt, hpkt, hnum]
      omega
    · rw [UInt32.le_iff_toNat_le, hend, hnum]
      omega
  · -- a packet before the wrap is beyond the send base, one behind it below the number
    refine ⟨?_, ?_⟩
    · rw [if_neg (by omega)] at hnum
      rw [UInt32.lt_iff_toNat_lt, ge_iff_le, UInt32.le_iff_toNat_le, hpkt, hnum]
      split
      · exact Or.inr ⟨hov, by omega⟩
      · exact Or.inl (by omega)
    · rw [hov]
      rcases UInt32.le_total (w.sendBase + UInt32.ofNat (offset w.packets (i + 1)))
        (w.sendBase + UInt32.ofNat (offset w.packets k)) with hle' | hge
      · exact Or.inl hle'
      · rcases UInt32.lt_or_eq_of_le hge with hgt | heq
        · exact Or.inr ⟨rfl, hgt⟩
        · exact Or.inl (heq ▸ UInt32.le_refl _)

/-- An acknowledgement of the packets before index `k`. -/
theorem Contiguous.newAckedPacket (h : w.Contiguous) (hcap : w.size ≤ w.capacity) (g : Globals)
    {k : ℕ} (hk : 0 < k) (hlen : k ≤ w.packets.length)
    (hbefore : ∀ i < k, offset w.packets i < offset w.packets k) :
    ∃ rtt, w.newAckedPacket g (w.sendBase + UInt32.ofNat (offset w.packets k)) = .ok
      (⟨true, false, false, rtt⟩,
        { w with
          pktsToAck := w.pktsToAck.drop k
          size := w.size - UInt32.ofNat (offset w.packets k)
          sendBase := w.sendBase + UInt32.ofNat (offset w.packets k)
          lastAckedNum := w.sendBase + UInt32.ofNat (offset w.packets k)
          duplicatedAcks := 0
          hasRetransmittedPkt :=
            if w.pktsToAck.drop k = [] then false else w.hasRetransmittedPkt },
        { g with maxDuplicatedAcks := kMaxDuplicatedAcksOrigin }) := by
  have hpos : 0 < offset w.packets k := by
    have := hbefore 0 hk
    omega
  have hcases := ack_cases hcap hpos (h.offset_le k)
  have hadv : w.ackAdvances (w.sendBase + UInt32.ofNat (offset w.packets k)) = true := by
    rcases hcases with ⟨-, hlt, -⟩ | ⟨-, -, hov⟩
    · simp [ackAdvances, hlt]
    · simp [ackAdvances, hov]
  apply newAckedPacket_of_popped g hadv hk (by rwa [packets, List.length_map] at hlen)
  · exact fun i p hik hget => h.popped hcap hbefore hik hget
  · intro p hget
    refine ⟨?_, h.seq hget⟩
    rw [StartsAcked, h.seq hget]
    -- the packet starts at the number, which is not behind the send base unless it has wrapped
    rcases hcases with ⟨-, -, hov⟩ | ⟨-, hlt, -⟩
    · simp [hov]
    · rintro (hself | ⟨-, hge⟩)
      · exact UInt32.lt_irrefl _ hself
      · exact UInt32.not_le.mpr hlt hge
  · intro hall p hget
    rw [h.end_eq hget, show k - 1 + 1 = k by omega]

end SendWindow

/-- **A cumulative ACK removes exactly the acknowledged packets.** If `d` is the size of a prefix
of the queue, then the acknowledgement of `send_base + d` leaves the packets at an offset of at
least `d`. -/
theorem cumulative_ack (w : SendWindow) (g : Globals) (h : w.Contiguous)
    (hcap : w.size ≤ w.capacity) {j d : ℕ} (hj : j ≤ w.packets.length)
    (hd : d = offset w.packets j) (hpos : 0 < d) :
    ∃ k res w' g', (∀ i, d ≤ offset w.packets i ↔ k ≤ i) ∧
      w.newAckedPacket g (w.sendBase + UInt32.ofNat d) = .ok (res, w', g') ∧
      res.ackRefreshed = true ∧ res.dupAck = false ∧ res.reTransmit = false ∧
      w'.pktsToAck = w.pktsToAck.drop k ∧ w'.sendBase = w.sendBase + UInt32.ofNat d ∧
      w'.size.toNat = w.size.toNat - d ∧ w'.duplicatedAcks = 0 := by
  subst hd
  obtain ⟨k, hk, hkj, heq, hiff⟩ := SendWindow.exists_boundary w.packets hpos
  have hbefore : ∀ i < k, offset w.packets i < offset w.packets k := by
    intro i hik
    rw [heq]
    by_contra hge
    have := (hiff i).mp (by omega)
    omega
  obtain ⟨rtt, hrun⟩ := h.newAckedPacket hcap g hk (hkj.trans hj) hbefore
  rw [heq] at hrun
  refine ⟨k, _, _, _, hiff, hrun, rfl, rfl, rfl, rfl, rfl, ?_, rfl⟩
  have hle := h.offset_le j
  have hsize := w.size.toNat_lt
  simp only [UInt32.toNat_sub, UInt32.toNat_ofNat']
  omega

/-- Five bytes at a sequence number, as the tests of the send window use them. -/
def hello (seqNum : UInt32) : Packet :=
  { ipHeader := {}, tcpHeader := { seqNum }, payload := [104, 101, 108, 108, 111], payloadSize := 5 }

end

section

open scoped Reference

/-- A window just before `2^32`: the second packet ends behind the wrap. -/
def wrapWindow : SendWindow where
  sendBase := 4294967289
  capacity := 25
  size := 15
  pktsToAck := [⟨hello 4294967289, .start 0⟩, ⟨hello 4294967294, .start 0⟩, ⟨hello 3, .start 0⟩]

theorem wrapWindow_contiguous : wrapWindow.Contiguous := by
  refine ⟨fun {i p} hp => ?_, by decide⟩
  have hi : i < 3 := (List.getElem?_eq_some_iff.mp hp).1
  interval_cases i
  · cases hp
    decide
  · cases hp
    decide
  · cases hp
    decide

theorem cumulative_ack_wrap : ∃ k res w' g',
    (∀ i, 10 ≤ offset wrapWindow.packets i ↔ k ≤ i) ∧
    wrapWindow.newAckedPacket {} 3 = .ok (res, w', g') ∧
    res.ackRefreshed = true ∧ res.dupAck = false ∧ res.reTransmit = false ∧
    w'.pktsToAck = wrapWindow.pktsToAck.drop k ∧ w'.sendBase = 3 ∧
    w'.size.toNat = wrapWindow.size.toNat - 10 ∧ w'.duplicatedAcks = 0 :=
  cumulative_ack wrapWindow {} wrapWindow_contiguous (by decide) (j := 2) (d := 10) (by decide)
    (by decide) (by decide)

end

section

variable [HyLib]

/-! ## Stale acknowledgements -/

/-- The acknowledgement is ignored: no check fails, no flag is set, and the window keeps its
queue, its size, its base and its count of duplicates. -/
def SendWindow.Ignores (w : SendWindow) (g : Globals) (ackNum : UInt32) : Prop :=
  ∃ res w' g', w.newAckedPacket g ackNum = .ok (res, w', g') ∧
    res.ackRefreshed = false ∧ res.dupAck = false ∧ res.reTransmit = false ∧
    w'.pktsToAck = w.pktsToAck ∧ w'.size = w.size ∧ w'.sendBase = w.sendBase ∧
    w'.duplicatedAcks = w.duplicatedAcks

/-- **When a stale ACK is ignored.** An acknowledgement that lies behind the send base is ignored
exactly if the send base plus the capacity has wrapped, to a number behind the
acknowledgement. -/
theorem stale_ack_ignored (w : SendWindow) (g : Globals) (ackNum : UInt32)
    (hstale : 0 < (w.sendBase - ackNum).toNat ∧ (w.sendBase - ackNum).toNat < 2 ^ 31) :
    w.Ignores g ackNum ↔ w.sendBase + w.capacity < ackNum ∧ ackNum < w.sendBase := by
  have hne : ackNum ≠ w.sendBase := by
    rintro rfl
    simp at hstale
  constructor
  · rintro ⟨res, w', g', hrun, hno, -⟩
    have hadv : w.ackAdvances ackNum = false := by
      rcases SendWindow.newAckedPacket_cases hrun with ⟨-, l, -, -, rfl, -⟩ | ⟨hadv, -⟩ | ⟨hadv, -⟩
      · cases hno
      · exact hadv
      · exact hadv
    simp only [SendWindow.ackAdvances, SendWindow.ackOverflow, Bool.or_eq_false_iff,
      Bool.and_eq_false_iff, decide_eq_false_iff_not] at hadv
    obtain ⟨hle, hov⟩ := hadv
    have hlt : ackNum < w.sendBase := by
      rcases UInt32.lt_or_eq_of_le (UInt32.not_lt.mp hle) with hlt | heq
      · exact hlt
      · exact absurd heq hne
    exact ⟨UInt32.not_le.mp (hov.resolve_left (not_not.mpr hlt)), hlt⟩
  · rintro ⟨hwrap, hlt⟩
    have hadv : w.ackAdvances ackNum = false := by
      simp only [SendWindow.ackAdvances, SendWindow.ackOverflow, Bool.or_eq_false_iff,
        Bool.and_eq_false_iff, decide_eq_false_iff_not]
      exact ⟨UInt32.not_lt.mpr (UInt32.le_of_lt hlt), Or.inr (UInt32.not_le.mpr hwrap)⟩
    refine ⟨⟨false, false, false, some 0⟩, w, g, ?_, rfl, rfl, rfl, rfl, rfl, rfl, rfl⟩
    unfold SendWindow.newAckedPacket
    rw [if_neg (by simp [hadv]), if_neg hne]

end

section

open scoped Reference

/-- One packet is in a window whose right edge has wrapped. -/
def edgeWindow : SendWindow where
  sendBase := 4294967289
  capacity := 100
  size := 5
  pktsToAck := [⟨hello 4294967289, .start 0⟩]

theorem stale_ack_ignored_wrapped : edgeWindow.Ignores {} 4294967279 :=
  (stale_ack_ignored edgeWindow {} 4294967279 (by decide)).mpr (by decide)

/-- The window of the test of duplicated ACKs: three packets were sent and acknowledged. -/
def ackedWindow : Except Fatal SendWindow := do
  let (_, w) ← SendWindow.sendPacket { sendBase := 0, capacity := 100 } 0 (hello 0)
  let (_, w) ← w.sendPacket 0 (hello 5)
  let (_, w) ← w.sendPacket 0 (hello 10)
  let (_, w, _) ← w.newAckedPacket {} 15
  .ok w

theorem not_stale_ack_ignored : ¬ ∀ (w : SendWindow) (ackNum : UInt32), ackedWindow = .ok w →
    0 < (w.sendBase - ackNum).toNat ∧ (w.sendBase - ackNum).toNat < 2 ^ 31 →
    w.Ignores {} ackNum := by
  intro h
  have hrun : ackedWindow.map (fun w =>
      (decide (0 < (w.sendBase - 5).toNat ∧ (w.sendBase - 5).toNat < 2 ^ 31),
        (w.newAckedPacket {} 5).map (·.1))) = .ok (true, .error .ackMismatch) := by
    decide +kernel
  obtain ⟨w, hw, heq⟩ := map_eq_ok.mp hrun
  obtain ⟨hstale, herr⟩ := Prod.mk.inj heq
  obtain ⟨res, w', g', hok, -⟩ := h w 5 hw (by simpa using hstale)
  rw [hok] at herr
  cases herr

end

section

variable [HyLib]

/-! ## Two windows in one process -/

/-- A call on a send window, with the time at which it is made. -/
inductive Call where
  | sendPacket (clock : ℕ) (newPkt : Packet)
  | newAckedPacket (clock : ℕ) (ackNum : UInt32)
  | getBasePakcketToReSend
  | setCapacity (capacity : UInt32)
deriving DecidableEq, Repr

/-- The flags of an `AckResult`. -/
def AckResult.flags (res : AckResult) : Bool × Bool × Bool :=
  (res.ackRefreshed, res.dupAck, res.reTransmit)

/-- A call with the flags it returns, none for the calls that return no `AckResult`. -/
def Call.exec (w : SendWindow) (maxDuplicatedAcks : UInt32) :
    Call → Except Fatal (List (Bool × Bool × Bool) × SendWindow × UInt32)
  | .sendPacket clock newPkt => do
    let (_, w) ← w.sendPacket clock newPkt
    .ok ([], w, maxDuplicatedAcks)
  | .newAckedPacket clock ackNum => do
    let (res, w, g) ← w.newAckedPacket { maxDuplicatedAcks, clock } ackNum
    .ok ([res.flags], w, g.maxDuplicatedAcks)
  | .getBasePakcketToReSend => .ok ([], w.getBasePakcketToReSend.2, maxDuplicatedAcks)
  | .setCapacity capacity => .ok ([], w.setCapacity capacity, maxDuplicatedAcks)

/-- A process with one window, and the flags its calls have returned. -/
structure Alone where
  window : SendWindow
  maxDuplicatedAcks : UInt32 := kMaxDuplicatedAcksOrigin
  flags : List (Bool × Bool × Bool) := []
deriving DecidableEq, Repr

def Alone.step (s : Alone) (call : Call) : Except Fatal Alone := do
  let (flags, window, maxDuplicatedAcks) ← call.exec s.window s.maxDuplicatedAcks
  .ok { window, maxDuplicatedAcks, flags := s.flags ++ flags }

/-- A process with a second window. -/
structure Shared extends Alone where
  other : SendWindow
deriving DecidableEq, Repr

/-- A call on the first window (left) or on the second one (right). -/
def Shared.step (s : Shared) : Call ⊕ Call → Except Fatal Shared
  | .inl call => do
    let alone ← s.toAlone.step call
    .ok { s with toAlone := alone }
  | .inr call => do
    let (_, other, maxDuplicatedAcks) ← call.exec s.other s.maxDuplicatedAcks
    .ok { s with other, maxDuplicatedAcks }

/-- An acknowledgement on the second window leaves `max_duplicated_acks` alone: a new one resets
it to the value it has, and a repeated one does not reach it. -/
def Shared.Undisturbed (s : Shared) (ev : Call ⊕ Call) : Prop :=
  match ev with
  | .inr (.newAckedPacket _ ackNum) =>
    (s.other.ackAdvances ackNum = true → s.maxDuplicatedAcks = kMaxDuplicatedAcksOrigin) ∧
      (s.other.ackAdvances ackNum = false → ackNum = s.other.sendBase →
        ¬ s.other.duplicatedAcks + 1 ≥ s.maxDuplicatedAcks)
  | _ => True

instance (s : Shared) : (ev : Call ⊕ Call) → Decidable (s.Undisturbed ev)
  | .inl _ => .isTrue trivial
  | .inr (.sendPacket _ _) => .isTrue trivial
  | .inr (.newAckedPacket _ _) => inferInstanceAs (Decidable ((_ → _) ∧ (_ → _ → _)))
  | .inr .getBasePakcketToReSend => .isTrue trivial
  | .inr (.setCapacity _) => .isTrue trivial

/-- A step of the second window that leaves `max_duplicated_acks` alone is not seen by the
first. -/
theorem Shared.step_inr {s s' : Shared} {call : Call} (hcond : s.Undisturbed (.inr call))
    (h : s.step (.inr call) = .ok s') : s'.toAlone = s.toAlone := by
  obtain ⟨⟨flags, other, m⟩, hexec, h⟩ := bind_eq_ok.mp h
  cases h
  have hm : m = s.maxDuplicatedAcks := by
    cases call with
    | sendPacket clock newPkt =>
      obtain ⟨⟨sent, w⟩, -, hexec⟩ := bind_eq_ok.mp hexec
      cases hexec
      rfl
    | newAckedPacket clock ackNum =>
      obtain ⟨⟨res, w, g⟩, hack, hexec⟩ := bind_eq_ok.mp hexec
      cases hexec
      rcases SendWindow.newAckedPacket_cases hack with ⟨hadv, l, -, -, -, -, rfl⟩ |
        ⟨hadv, hdup, ⟨hmax, -, -, -⟩ | ⟨-, -, -, rfl⟩⟩ | ⟨-, -, -, -, rfl⟩
      · exact (hcond.1 hadv).symm
      · exact absurd hmax (hcond.2 hadv hdup)
      · rfl
      · rfl
    | getBasePakcketToReSend =>
      cases hexec
      rfl
    | setCapacity capacity =>
      cases hexec
      rfl
  simp [hm]

/-- **Two windows do not influence each other** as long as the calls on the second leave
`max_duplicated_acks` alone: the first window's calls return the same flags as in a process of
its own. -/
theorem windows_independent {s s' : Shared} {evs : List (Call ⊕ Call)}
    (hcond : Meets Shared.step Shared.Undisturbed s evs)
    (hrun : run Shared.step s evs = .ok s') :
    ∃ t, run Alone.step s.toAlone (evs.filterMap Sum.getLeft?) = .ok t ∧ t.flags = s'.flags := by
  -- the first component is the process of the first window alone
  suffices h : run Alone.step s.toAlone (evs.filterMap Sum.getLeft?) = .ok s'.toAlone from
    ⟨s'.toAlone, h, rfl⟩
  induction evs generalizing s with
  | nil =>
    cases hrun
    rfl
  | cons ev evs ih =>
    obtain ⟨t, ht, hrest⟩ := (run_cons_eq_ok _).mp hrun
    have hind := ih (hcond.2 t ht) hrest
    cases ev with
    | inl call =>
      obtain ⟨alone, halone, heq⟩ := bind_eq_ok.mp ht
      cases heq
      exact (run_cons_eq_ok _).mpr ⟨alone, halone, hind⟩
    | inr call =>
      rw [Shared.step_inr hcond.1 ht] at hind
      exact hind

end

section

open scoped Reference

/-- Two windows with one packet in each. -/
def twoWindows : Shared where
  window := { sendBase := 0, capacity := 100, size := 5, pktsToAck := [⟨hello 0, .start 0⟩] }
  other := { sendBase := 0, capacity := 100, size := 5, pktsToAck := [⟨hello 0, .start 0⟩] }

/-- The first window sees three duplicates, the second one in between. -/
def oneDuplicate : List (Call ⊕ Call) :=
  [.inl (.newAckedPacket 0 0), .inr (.newAckedPacket 0 0), .inl (.newAckedPacket 0 0),
    .inl (.newAckedPacket 0 0)]

theorem windows_independent_oneDuplicate : ∃ s' t,
    run Shared.step twoWindows oneDuplicate = .ok s' ∧
    run Alone.step twoWindows.toAlone (oneDuplicate.filterMap Sum.getLeft?) = .ok t ∧
    t.flags = s'.flags := by
  have hrun : (run Shared.step twoWindows oneDuplicate).map (fun _ => ()) = .ok () := by
    decide +kernel
  obtain ⟨s', hs', -⟩ := map_eq_ok.mp hrun
  obtain ⟨t, ht, hflags⟩ := windows_independent (by decide +kernel) hs'
  exact ⟨s', t, hs', ht, hflags⟩

/-- The second window sees three duplicates, then the first. -/
def threeDuplicates : List (Call ⊕ Call) :=
  List.replicate 3 (.inr (.newAckedPacket 0 0)) ++ List.replicate 3 (.inl (.newAckedPacket 0 0))

theorem not_windows_independent : ¬ ∀ (s s' : Shared) (evs : List (Call ⊕ Call)) (t : Alone),
    run Shared.step s evs = .ok s' →
    run Alone.step s.toAlone (evs.filterMap Sum.getLeft?) = .ok t → t.flags = s'.flags := by
  intro h
  have hshared : (run Shared.step twoWindows threeDuplicates).map (·.flags) =
      .ok [(false, true, false), (false, true, false), (false, true, false)] := by
    decide +kernel
  have halone : (run Alone.step twoWindows.toAlone (threeDuplicates.filterMap Sum.getLeft?)).map
      (·.flags) = .ok [(false, true, false), (false, true, false), (false, true, true)] := by
    decide +kernel
  obtain ⟨s', hs', hflags'⟩ := map_eq_ok.mp hshared
  obtain ⟨t, ht, hflags⟩ := map_eq_ok.mp halone
  have := h _ _ _ _ hs' ht
  rw [hflags, hflags'] at this
  simp at this

end

end NetStack
