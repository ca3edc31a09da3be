import TcpStack.Proofs.Closing
import TcpStack.Proofs.RecvWindow

/-!
# TcpStack — a second copy of a packet that is kept

A copy of a packet behind the receive base is answered with the base again. A copy of a packet
beyond it goes through the insertion: the walk stops right before the first copy, and the check
there compares the end of one with the start of the other.

* **`Sorted`** — the packets kept are in order and beyond the receive base, in every state.
* **`second_copy_harmless`** — the second copy passes the check only if its range ends with the
  sequence space, where `seq_num + payload_size` wraps to 0.
-/

namespace NetStack

open Tiling Transition

/-- The range of sequence numbers of a packet: where it starts and its size. -/
def Packet.range (p : Packet) : UInt32 × UInt32 := (p.tcpHeader.seqNum, p.payloadSize)

namespace RecvWindow

/-- One call of `ReceivePacket`, for the window it leaves behind. -/
def receive (w : RecvWindow) (pkt : Packet) : Except Fatal RecvWindow :=
  (w.receivePacket pkt).map (·.2.2)

variable {w w' : RecvWindow} {p : Packet} {ackNum : UInt32} {chain before after : List Packet}

/-! ## The list is in order -/

/-- A packet starts and ends, as `uint32`, at most where another one starts. -/
def Precedes (p q : Packet) : Prop :=
  p.tcpHeader.seqNum ≤ q.tcpHeader.seqNum ∧ endOf p ≤ q.tcpHeader.seqNum

/-- The packets kept are in order and beyond the receive base. -/
structure Sorted (w : RecvWindow) : Prop where
  ordered : w.pkts.Pairwise Precedes
  ahead : ∀ p ∈ w.pkts, w.recvBase < p.tcpHeader.seqNum

/-- In an ordered list, what precedes the first packet precedes all of them. -/
theorem precedes_of_head {l : List Packet} (hl : l.Pairwise Precedes)
    (hhead : ∀ q ∈ l.head?, Precedes p q) : ∀ q ∈ l, Precedes p q := by
  cases l with
  | nil => simp
  | cons a rest =>
    intro q hq
    obtain ⟨hle, hend⟩ := hhead a rfl
    rcases List.mem_cons.mp hq with rfl | hq
    · exact ⟨hle, hend⟩
    · have haq := ((List.pairwise_cons.mp hl).1 q hq).1
      exact ⟨UInt32.le_trans hle haq, UInt32.le_trans hend haq⟩

/-- What the two checks of the insertion say about the packets behind the insertion point. -/
theorem precedes_after (hl : after.Pairwise Precedes)
    (hle : ∀ q ∈ after.head?, p.tcpHeader.seqNum ≤ q.tcpHeader.seqNum)
    (hover : overlapsNext p after = false) : ∀ q ∈ after, Precedes p q := by
  refine precedes_of_head hl fun q hq => ⟨hle q hq, ?_⟩
  cases after with
  | nil => simp at hq
  | cons a rest =>
    cases hq
    simpa [overlapsNext, endOf] using hover

/-- The packets that the delivery walk leaves start beyond its end. Induction on the window. -/
theorem endOf_lt_of_left {l : List Packet} (hl : (p :: l).Pairwise Precedes) {q : Packet}
    (hq : q ∈ (chainWalk p l).2) :
    endOf ((chainWalk p l).1.getLast?.getD p) < q.tcpHeader.seqNum := by
  induction l generalizing p with
  | nil => simp [chainWalk] at hq
  | cons next rest ih =>
    obtain ⟨hp, hrest⟩ := List.pairwise_cons.mp hl
    rw [chainWalk] at hq ⊢
    split at hq
    · next heq =>
      rw [if_pos heq, List.getLast?_cons, Option.getD_some]
      exact ih hrest hq
    · next hne =>
      rw [if_neg hne]
      show endOf p < q.tcpHeader.seqNum
      have hlt : endOf p < next.tcpHeader.seqNum :=
        UInt32.lt_of_le_of_ne (hp next (by simp)).2 hne
      rcases List.mem_cons.mp hq with rfl | hq
      · exact hlt
      · exact UInt32.lt_of_lt_of_le hlt ((List.pairwise_cons.mp hrest).1 q hq).1

/-- **One call** keeps the order. -/
theorem Sorted.receivePacket (hw : w.Sorted) (h : w.receivePacket p = .ok (ackNum, chain, w')) :
    w'.Sorted := by
  rcases receivePacket_cases h with ⟨-, -, -, rfl⟩ | ⟨before, after, hwalk, hover, hlt, -, -, rfl⟩ |
    ⟨hwalk, hover, -, -, rfl, rfl⟩
  · exact hw
  · -- the packet fits between the two parts of the list
    obtain ⟨hbefore, hle⟩ := insertWalk_bounds hwalk
    have hsplit := insertWalk_mem hwalk
    have hordered := hw.ordered
    rw [← hsplit] at hordered
    obtain ⟨hb, ha, hba⟩ := List.pairwise_append.mp hordered
    have hpre : ∀ q ∈ before, Precedes q p := fun q hq =>
      ⟨UInt32.le_of_lt (hbefore q hq).1, (hbefore q hq).2⟩
    constructor
    · refine List.pairwise_append.mpr
        ⟨hb, List.pairwise_cons.mpr ⟨precedes_after ha hle hover, ha⟩, fun q hq r hr => ?_⟩
      rcases List.mem_cons.mp hr with rfl | hr
      · exact hpre q hq
      · exact hba q hq r hr
    · intro q hq
      rcases List.mem_append.mp hq with hq | hq
      · exact hw.ahead q (by rw [← hsplit]; exact List.mem_append_left _ hq)
      · rcases List.mem_cons.mp hq with rfl | hq
        · exact hlt
        · exact hw.ahead q (by rw [← hsplit]; exact List.mem_append_right _ hq)
  · have hpre := precedes_after hw.ordered (insertWalk_bounds hwalk).2 hover
    have hleft : (chainWalk p w.pkts).2.Sublist w.pkts := by
      nth_rewrite 2 [← chainWalk_append p w.pkts]
      exact List.sublist_append_right ..
    constructor
    · exact hw.ordered.sublist hleft
    · exact fun q hq => endOf_lt_of_left (List.pairwise_cons.mpr ⟨hpre, hw.ordered⟩) hq

/-- The order is kept by every run of calls. -/
theorem Sorted.run {ps : List Packet} (hw : w.Sorted) (hr : run receive w ps = .ok w') :
    w'.Sorted := by
  refine run_induction receive (fun w p w' h hstep => ?_) hw hr
  obtain ⟨⟨ackNum, chain, w₁⟩, hrecv, rfl⟩ := map_eq_ok.mp hstep
  exact h.receivePacket hrecv

/-! ## The second copy -/

/-- A packet that starts where `p` does is a copy of it. -/
def SameStart (p q : Packet) : Prop :=
  q.tcpHeader.seqNum = p.tcpHeader.seqNum → q.range = p.range

/-- A packet of the chain ends where `p` starts. -/
def ReachesStart (p : Packet) (chain : List Packet) : Prop :=
  ∃ x ∈ chain, endOf x = p.tcpHeader.seqNum

/-- A call that treats the packet as a copy of one that is kept: the answer is the receive base, and
the same ranges are kept as before. Of the later calls none hands the range over twice or loses it.
The one that fills the gap in front of the packet hands it over, if no other range that starts there
has arrived. -/
def Harmless (w : RecvWindow) (p : Packet) : Prop :=
  ∃ w', w.receivePacket p = .ok (w.recvBase, [], w') ∧ w'.recvBase = w.recvBase ∧
    (∀ r, r ∈ w'.pkts.map Packet.range ↔ r ∈ w.pkts.map Packet.range) ∧
    ∀ ps w₁ q ackNum chain w₂, run receive w' ps = .ok w₁ →
      w₁.receivePacket q = .ok (ackNum, chain, w₂) →
      (chain.map Packet.range).count p.range ≤ 1 ∧
      (p.range ∈ w₁.pkts.map Packet.range →
        p.range ∈ chain.map Packet.range ∨ p.range ∈ w₂.pkts.map Packet.range) ∧
      ((∀ x ∈ ps, SameStart p x) → p.range ∈ w₁.pkts.map Packet.range → ReachesStart p chain →
        (chain.map Packet.range).count p.range = 1)

theorem insertWalk_error_eq {l : List Packet} {e : Fatal} (h : insertWalk p l = .error e) :
    e = .rangesOverlap := by
  induction l with
  | nil => cases h
  | cons next rest ih =>
    rw [insertWalk] at h
    split at h
    · split at h
      · cases hrec : insertWalk p rest with
        | error e' =>
          rw [hrec] at h
          cases h
          exact ih hrec
        | ok r =>
          rw [hrec] at h
          cases h
      · cases h
        rfl
    · cases h

/-- The walk does not fail if every packet that starts before the new one also ends there. -/
theorem exists_insertWalk {l : List Packet}
    (h : ∀ q ∈ l, q.tcpHeader.seqNum < p.tcpHeader.seqNum → endOf q ≤ p.tcpHeader.seqNum) :
    ∃ before after, insertWalk p l = .ok (before, after) := by
  induction l with
  | nil => exact ⟨[], [], rfl⟩
  | cons next rest ih =>
    rw [insertWalk]
    split
    · next hgt =>
      have hge : p.tcpHeader.seqNum ≥ next.tcpHeader.seqNum + next.payloadSize :=
        h next (by simp) hgt
      rw [if_pos hge]
      obtain ⟨before, after, hrec⟩ := ih fun q hq => h q (by simp [hq])
      exact ⟨next :: before, after, by rw [hrec]; rfl⟩
    · exact ⟨[], next :: rest, rfl⟩

/-- **The second copy fails the check** if the packet does not end where it starts or before, as
`uint32`: the walk stops at the first copy. -/
theorem Sorted.second_copy_error (hw : w.Sorted) (hp : p.range ∈ w.pkts.map Packet.range)
    (hend : p.tcpHeader.seqNum < endOf p) : w.receivePacket p = .error .rangesOverlap := by
  obtain ⟨q, hq, hrange⟩ := List.mem_map.mp hp
  have hseq : q.tcpHeader.seqNum = p.tcpHeader.seqNum := congrArg Prod.fst hrange
  have hbase : w.recvBase < p.tcpHeader.seqNum := hseq ▸ hw.ahead q hq
  rw [RecvWindow.receivePacket, if_neg (UInt32.not_lt.mpr (UInt32.le_of_lt hbase))]
  cases hwalk : insertWalk p w.pkts with
  | error e =>
    rw [insertWalk_error_eq hwalk]
    rfl
  | ok r =>
    obtain ⟨before, after⟩ := r
    have hover : overlapsNext p after = true := by
      by_contra hover
      rw [Bool.not_eq_true] at hover
      obtain ⟨hbefore, hle⟩ := insertWalk_bounds hwalk
      have hordered := hw.ordered
      rw [← insertWalk_mem hwalk] at hq hordered
      -- the first copy is not passed, so the new one would have to end before it
      rcases List.mem_append.mp hq with hq | hq
      · have hlt := (hbefore q hq).1
        rw [hseq] at hlt
        exact UInt32.lt_irrefl _ hlt
      · have hend' := (precedes_after (List.pairwise_append.mp hordered).2.1 hle hover q hq).2
        rw [hseq] at hend'
        exact UInt32.not_le.mpr hend hend'
    rw [ok_bind]
    simp only [hover, if_true]

/-- A packet that ends with the sequence space ends the chain. Induction on the window. -/
theorem count_chainWalk_le {l : List Packet} {r : UInt32 × UInt32} (hr : r.1 + r.2 = 0)
    (hl : ∀ x ∈ l, 0 < x.tcpHeader.seqNum) :
    ((p :: (chainWalk p l).1).map Packet.range).count r ≤ 1 := by
  induction l generalizing p with
  | nil =>
    show [p.range].count r ≤ 1
    exact List.count_le_length
  | cons next rest ih =>
    rw [chainWalk]
    split
    · next heq =>
      have hne : p.range ≠ r := by
        rintro rfl
        have hpos := hl next (by simp)
        rw [← heq] at hpos
        exact absurd hr.symm (UInt32.ne_of_lt hpos)
      rw [List.map_cons, List.count_cons_of_ne hne]
      exact ih fun x hx => hl x (by simp [hx])
    · show [p.range].count r ≤ 1
      exact List.count_le_length

/-- The ranges kept are ranges of packets that arrived. -/
theorem range_mem_of_run {R : UInt32 × UInt32 → Prop} {ps : List Packet}
    (hw : ∀ q ∈ w.pkts, R q.range) (hps : ∀ q ∈ ps, R q.range) (hr : run receive w ps = .ok w') :
    ∀ q ∈ w'.pkts, R q.range := by
  have hmeets : Meets receive (fun _ q => R q.range) w ps := Meets.of_forall receive hps
  refine run_induction_of_meets receive (P := fun w => ∀ q ∈ w.pkts, R q.range)
    (fun w x w' h hx hstep q hq => ?_) hw hmeets hr
  obtain ⟨⟨ackNum, chain, w₁⟩, hrecv, rfl⟩ := map_eq_ok.mp hstep
  rcases (receivePacket_mem hrecv).2 q hq with rfl | hq
  · exact hx
  · exact h q hq

/-- A call hands over or keeps what was kept. -/
theorem receivePacket_keeps (h : w.receivePacket p = .ok (ackNum, chain, w')) {r : UInt32 × UInt32}
    (hr : r ∈ w.pkts.map Packet.range) :
    r ∈ chain.map Packet.range ∨ r ∈ w'.pkts.map Packet.range := by
  rcases receivePacket_cases h with ⟨-, -, -, rfl⟩ | ⟨before, after, hwalk, -, -, -, -, rfl⟩ |
    ⟨-, -, -, rfl, -, rfl⟩
  · exact Or.inr hr
  · right
    rw [← insertWalk_mem hwalk] at hr
    simp only [List.map_append, List.map_cons, List.mem_append, List.mem_cons] at hr ⊢
    exact hr.imp_right Or.inr
  · rw [← chainWalk_append p w.pkts, List.map_append, List.mem_append] at hr
    exact hr.imp_left (List.mem_cons_of_mem _)

/-- A chain that gets to the start of a packet behind it takes one that starts there. Induction on
the window. -/
theorem exists_mem_chainWalk {l : List Packet} {x q : Packet} (hl : (x :: l).Pairwise Precedes)
    (hq : q ∈ l) (hreach : ReachesStart q (x :: (chainWalk x l).1)) :
    ∃ y ∈ (chainWalk x l).1, y.tcpHeader.seqNum = q.tcpHeader.seqNum := by
  induction l generalizing x with
  | nil => cases hq
  | cons next rest ih =>
    obtain ⟨hx, hrest⟩ := List.pairwise_cons.mp hl
    have hnext : next.tcpHeader.seqNum ≤ q.tcpHeader.seqNum := by
      rcases List.mem_cons.mp hq with rfl | hq
      · exact UInt32.le_refl _
      · exact ((List.pairwise_cons.mp hrest).1 q hq).1
    obtain ⟨y, hy, hend⟩ := hreach
    rw [chainWalk] at hy ⊢
    split at hy
    · next heq =>
      rw [if_pos heq]
      by_cases hsame : next.tcpHeader.seqNum = q.tcpHeader.seqNum
      · exact ⟨next, List.mem_cons_self, hsame⟩
      · have hq' : q ∈ rest := (List.mem_cons.mp hq).resolve_left fun h => hsame (by rw [h])
        have hy' : y ∈ next :: (chainWalk next rest).1 := by
          rcases List.mem_cons.mp hy with rfl | hy
          · exact absurd (heq.symm.trans hend) hsame
          · exact hy
        obtain ⟨z, hz, hstart⟩ := ih hrest hq' ⟨y, hy', hend⟩
        exact ⟨z, List.mem_cons_of_mem _ hz, hstart⟩
    · next hne =>
      -- the packet starts where the chain ends, so nothing can lie between the two
      obtain rfl := List.mem_singleton.mp hy
      rw [← hend] at hnext
      exact absurd (UInt32.le_antisymm (hx next List.mem_cons_self).2 hnext) hne

/-- **The call that fills the gap** in front of a packet that is kept hands its range over. -/
theorem Sorted.gap_filled (hw : w.Sorted) {q : Packet} (hsame : ∀ x ∈ w.pkts, SameStart p x)
    (hp : p.range ∈ w.pkts.map Packet.range) (h : w.receivePacket q = .ok (ackNum, chain, w'))
    (hreach : ReachesStart p chain) : p.range ∈ chain.map Packet.range := by
  obtain ⟨t, ht, hrange⟩ := List.mem_map.mp hp
  have hseq : t.tcpHeader.seqNum = p.tcpHeader.seqNum := congrArg Prod.fst hrange
  rcases receivePacket_cases h with ⟨-, -, rfl, -⟩ | ⟨_, _, -, -, -, -, rfl, -⟩ |
    ⟨hwalk, hover, -, rfl, -, -⟩
  · simp [ReachesStart] at hreach
  · simp [ReachesStart] at hreach
  · have hpre := precedes_after hw.ordered (insertWalk_bounds hwalk).2 hover
    obtain ⟨y, hy, hstart⟩ := exists_mem_chainWalk (List.pairwise_cons.mpr ⟨hpre, hw.ordered⟩) ht
      (by rwa [ReachesStart, hseq])
    have hmem : y ∈ w.pkts := by
      rw [← chainWalk_append q w.pkts]
      exact List.mem_append_left _ hy
    rw [← hsame y hmem (hstart.trans hseq)]
    exact List.mem_map_of_mem (List.mem_cons_of_mem _ hy)

/-- **The second copy passes the check** if the packet ends with the sequence space: its end is
0 then. -/
theorem Sorted.second_copy_kept (hw : w.Sorted) (hp : p.range ∈ w.pkts.map Packet.range)
    (hend : endOf p = 0) (hsame : ∀ q ∈ w.pkts, SameStart p q)
    (hbefore : ∀ q ∈ w.pkts, q.tcpHeader.seqNum < p.tcpHeader.seqNum →
      endOf q ≤ p.tcpHeader.seqNum) : w.Harmless p := by
  obtain ⟨q, hq, hrange⟩ := List.mem_map.mp hp
  have hseq : q.tcpHeader.seqNum = p.tcpHeader.seqNum := congrArg Prod.fst hrange
  have hbase : w.recvBase < p.tcpHeader.seqNum := hseq ▸ hw.ahead q hq
  obtain ⟨before, after, hwalk⟩ := exists_insertWalk hbefore
  have hover : overlapsNext p after = false := by
    cases after with
    | nil => rfl
    | cons a rest =>
      replace hend : p.tcpHeader.seqNum + p.payloadSize = 0 := hend
      simp [overlapsNext, hend]
  have hrecv : w.receivePacket p =
      .ok (w.recvBase, [], { w with pkts := before ++ p :: after }) := by
    rw [RecvWindow.receivePacket, if_neg (UInt32.not_lt.mpr (UInt32.le_of_lt hbase)), hwalk, ok_bind]
    simp only [hover, Bool.false_eq_true, if_false]
    rw [if_neg (UInt32.ne_of_lt hbase).symm]
  refine ⟨_, hrecv, rfl, fun r => ?_, ?_⟩
  · rw [← insertWalk_mem hwalk] at hp ⊢
    simp only [List.map_append, List.map_cons, List.mem_append, List.mem_cons] at hp ⊢
    constructor
    · rintro (hr | rfl | hr)
      · exact Or.inl hr
      · exact hp
      · exact Or.inr hr
    · exact fun hr => hr.imp_right Or.inr
  · intro ps w₁ x ackNum chain w₂ hrun hx
    have hw₁ := (hw.receivePacket hrecv).run hrun
    have hcount : (chain.map Packet.range).count p.range ≤ 1 := by
      rcases receivePacket_cases hx with ⟨-, -, rfl, -⟩ | ⟨_, _, -, -, -, -, rfl, -⟩ |
        ⟨-, -, -, rfl, -, -⟩
      · simp
      · simp
      · refine count_chainWalk_le hend fun y hy => ?_
        exact UInt32.lt_of_le_of_lt UInt32.zero_le (hw₁.ahead y hy)
    refine ⟨hcount, receivePacket_keeps hx, fun hps hkept hreach => ?_⟩
    have hsame₁ : ∀ y ∈ w₁.pkts, SameStart p y := by
      refine range_mem_of_run (R := fun r => r.1 = p.tcpHeader.seqNum → r = p.range) ?_ hps hrun
      intro y hy
      rcases (receivePacket_mem hrecv).2 y hy with rfl | hy
      · exact fun _ => rfl
      · exact hsame y hy
    have hone := List.one_le_count_iff.mpr (hw₁.gap_filled hsame₁ hkept hx hreach)
    omega

/-! ## Ranges of a tiling -/

section Placed

variable {b : ℕ} {s : List Packet} (hs : Placed b s)
include hs

/-- A packet of the tiling ends beyond its start, or with the sequence space. -/
theorem lt_endOf {i : ℕ} (hp : s[i]? = some p) (hend : endOf p ≠ 0) :
    p.tcpHeader.seqNum < endOf p := by
  have hi : i < s.length := (List.getElem?_eq_some_iff.mp hp).1
  have hlt := offset_lt hs.pos (Nat.lt_add_one i) hi
  have hle : offset s (i + 1) ≤ offset s s.length := offset_mono s hi
  have hfits := hs.fits
  have hne : b + offset s (i + 1) ≠ 2 ^ 32 := by
    intro heq
    rw [endOf_eq hs hp, heq] at hend
    exact hend rfl
  have hsize : b + offset s (i + 1) < UInt32.size := by
    simp only [UInt32.size]
    omega
  rw [endOf_eq hs hp, hs.seq hp, UInt32.ofNat_lt_iff_lt (start_lt hs hp) hsize]
  omega

/-- Two packets of the tiling that start at the same place are the same. -/
theorem range_eq_of_seq {i j : ℕ} {q : Packet} (hp : s[i]? = some p) (hq : s[j]? = some q)
    (hseq : p.tcpHeader.seqNum = q.tcpHeader.seqNum) : p.range = q.range := by
  rcases lt_trichotomy i j with hlt | rfl | hlt
  · have := (seq_lt_iff hs hp hq).mpr hlt
    rw [hseq] at this
    exact absurd this (UInt32.lt_irrefl _)
  · rw [Option.some_inj.mp (hp.symm.trans hq)]
  · have := (seq_lt_iff hs hq hp).mpr hlt
    rw [hseq] at this
    exact absurd this (UInt32.lt_irrefl _)

end Placed

end RecvWindow

/-- **When a second copy of a packet that is kept is harmless.** Packets with the ranges of a
tiling arrive in any order and number, at a window with any base. A packet with the range of one
that is kept out of order is answered with the receive base and changes nothing exactly if its
range ends with the sequence space. Every other second copy ends the process. -/
theorem second_copy_harmless {b : ℕ} {s : List Packet} (hs : Placed b s)
    {recvBase capacity : UInt32} {ps : List Packet} (hps : ∀ q ∈ ps, q.range ∈ s.map Packet.range)
    {w : RecvWindow} (hrun : run RecvWindow.receive ⟨recvBase, capacity, []⟩ ps = .ok w)
    {p : Packet} (hp : p.range ∈ w.pkts.map Packet.range) :
    (w.Harmless p ↔ p.tcpHeader.seqNum + p.payloadSize = 0) ∧
      (p.tcpHeader.seqNum + p.payloadSize ≠ 0 → w.receivePacket p = .error .rangesOverlap) := by
  have hw : w.Sorted := RecvWindow.Sorted.run ⟨.nil, by simp⟩ hrun
  have htile : ∀ q ∈ w.pkts, q.range ∈ s.map Packet.range :=
    RecvWindow.range_mem_of_run (R := fun r => r ∈ s.map Packet.range) (by simp) hps hrun
  have hptile : ∃ (i : ℕ) (t : Packet), s[i]? = some t ∧ t.range = p.range := by
    obtain ⟨q, hq, hrange⟩ := List.mem_map.mp hp
    obtain ⟨t, ht, heq⟩ := List.mem_map.mp (htile q hq)
    obtain ⟨i, hi⟩ := List.mem_iff_getElem?.mp ht
    exact ⟨i, t, hi, heq.trans hrange⟩
  obtain ⟨i, t, ht, hrange⟩ := hptile
  obtain ⟨hseq, hsize⟩ := Prod.mk.inj hrange
  -- unless it wraps to 0, the end lies beyond the start, and the check fails
  have herror : p.tcpHeader.seqNum + p.payloadSize ≠ 0 →
      w.receivePacket p = .error .rangesOverlap := by
    intro hend
    refine hw.second_copy_error hp ?_
    have hlt := RecvWindow.lt_endOf hs ht (by rw [RecvWindow.endOf, hseq, hsize]; exact hend)
    rw [RecvWindow.endOf, hseq, hsize] at hlt
    exact hlt
  refine ⟨⟨?_, ?_⟩, herror⟩
  · rintro ⟨w', hrecv, -⟩
    by_contra hend
    rw [herror hend] at hrecv
    cases hrecv
  · intro hend
    -- a packet that starts before this one also ends before it starts, as they are tiles
    refine hw.second_copy_kept hp hend (fun q hq hstart => ?_) fun q hq hlt => ?_
    · obtain ⟨u, hu, heq⟩ := List.mem_map.mp (htile q hq)
      obtain ⟨j, hj⟩ := List.mem_iff_getElem?.mp hu
      obtain ⟨hqseq, -⟩ := Prod.mk.inj heq
      rw [← heq, ← hrange]
      exact RecvWindow.range_eq_of_seq hs hj ht ((hqseq.trans hstart).trans hseq.symm)
    · obtain ⟨u, hu, heq⟩ := List.mem_map.mp (htile q hq)
      obtain ⟨j, hj⟩ := List.mem_iff_getElem?.mp hu
      obtain ⟨hqseq, hqsize⟩ := Prod.mk.inj heq
      rw [← hqseq, ← hseq] at hlt
      rw [RecvWindow.endOf, ← hqseq, ← hqsize, ← hseq]
      exact RecvWindow.end_le hs hj ht ((RecvWindow.seq_lt_iff hs hj ht).mp hlt)

/-- A packet by its range. -/
def packetAt (seqNum payloadSize : UInt32) : Packet :=
  { ipHeader := {}, tcpHeader := { seqNum }, payloadSize }

/-- Two packets at the end of the sequence space. -/
def lastTwo : List Packet := [packetAt 4294967288 5, packetAt 4294967293 3]

theorem lastTwo_placed : Placed 4294967288 lastTwo where
  pos := by decide
  seq := by
    intro i p hp
    rcases i with _ | _ | i
    · cases hp; rfl
    · cases hp; rfl
    · cases hp
  fits := by decide

theorem second_copy_harmless_lastTwo : ∃ w,
    run RecvWindow.receive ⟨4294967288, 65536, []⟩ (lastTwo.drop 1) = .ok w ∧
      w.Harmless (packetAt 4294967293 3) :=
  ⟨⟨4294967288, 65536, lastTwo.drop 1⟩, by decide,
    (@second_copy_harmless _ _ lastTwo_placed 4294967288 65536 (lastTwo.drop 1) (by decide) _
      (by decide) _ (by decide)).1.mpr (by decide)⟩

/-- The packet behind a gap arrives twice, and the second copy fails the check. -/
theorem not_second_copy_harmless : ¬ ∀ (b : ℕ) (s : List Packet), Placed b s →
    ∀ (ps : List Packet), (∀ q ∈ ps, q.range ∈ s.map Packet.range) → ∀ w : RecvWindow,
      run RecvWindow.receive ⟨UInt32.ofNat b, 65536, []⟩ ps = .ok w →
      ∀ p, p.range ∈ w.pkts.map Packet.range → w.Harmless p := by
  intro h
  have hs : Placed 7 [packetAt 7 5, packetAt 12 3] :=
    { pos := by decide
      seq := by
        intro i p hp
        rcases i with _ | _ | i
        · cases hp; rfl
        · cases hp; rfl
        · cases hp
      fits := by decide }
  obtain ⟨w', hrecv, -⟩ := h 7 _ hs [packetAt 12 3] (by decide) ⟨7, 65536, [packetAt 12 3]⟩
    (by decide) (packetAt 12 3) (by decide)
  have herror : RecvWindow.receivePacket ⟨7, 65536, [packetAt 12 3]⟩ (packetAt 12 3) =
      .error .rangesOverlap := by decide
  rw [herror] at hrecv
  cases hrecv

end NetStack
