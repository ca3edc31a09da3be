import TcpStack.Model.RecvWindow
import TcpStack.Proofs.SendWindow

/-!
# TcpStack — the receive window against a history of packets

The receiver's side of a history: the first `rcvd` packets were handed over in order, the
packets `ooo` are kept out of order (`RecvWindow.HoldsFrom`). The history is laid out from a
position `b` on (`Placed`). A packet that arrives is one of three kinds, and `ReceivePacket`
treats them as the protocol does:

* **`HoldsFrom.receive_old`** — behind the receive base: acknowledged again;
* **`HoldsFrom.receive_between`** — beyond it: kept in its place;
* **`HoldsFrom.receive_next`** — at the receive base: handed over with the run behind it.

A connection's history starts at position zero (`RecvWindow.Holds`). What a call can do
without a history is in **`receivePacket_cases`**.
-/

namespace NetStack

open Tiling Transition

/-- The packets lie end to end from position `b` on, and end below the wrap-around. -/
structure Placed (b : ℕ) (hist : List Packet) : Prop where
  pos : ∀ p ∈ hist, 0 < len p
  seq : ∀ {i : ℕ} {p : Packet}, hist[i]? = some p →
    p.tcpHeader.seqNum = UInt32.ofNat (b + offset hist i)
  fits : b + offset hist hist.length ≤ 2 ^ 32

theorem Tiled.placed {hist : List Packet} (ht : Tiled hist)
    (hend : offset hist hist.length ≤ 2 ^ 32) : Placed 0 hist :=
  ⟨ht.pos, fun hp => by rw [ht.seq hp, Nat.zero_add], by rwa [Nat.zero_add]⟩

namespace RecvWindow

/-! ### What a call can do -/

theorem insertWalk_mem {p : Packet} {l before after : List Packet}
    (h : insertWalk p l = .ok (before, after)) : before ++ after = l := by
  induction l generalizing before after with
  | nil =>
    cases h
    rfl
  | cons next rest ih =>
    rw [insertWalk] at h
    split at h
    · split at h
      · obtain ⟨⟨b, a⟩, hrec, heq⟩ := bind_eq_ok.mp h
        cases heq
        rw [List.cons_append, ih hrec]
      · cases h
    · cases h
      rfl

theorem chainWalk_append (p : Packet) (l : List Packet) :
    (chainWalk p l).1 ++ (chainWalk p l).2 = l := by
  induction l generalizing p with
  | nil => rfl
  | cons next rest ih =>
    rw [chainWalk]
    split
    · simp [ih next]
    · rfl

/-- The walk passes the packets that start and end before the new one, and stops at one that
does not start before it. -/
theorem insertWalk_bounds {p : Packet} {l before after : List Packet}
    (h : insertWalk p l = .ok (before, after)) :
    (∀ q ∈ before, q.tcpHeader.seqNum < p.tcpHeader.seqNum ∧ endOf q ≤ p.tcpHeader.seqNum) ∧
      ∀ q ∈ after.head?, p.tcpHeader.seqNum ≤ q.tcpHeader.seqNum := by
  induction l generalizing before after with
  | nil =>
    cases h
    simp
  | cons next rest ih =>
    rw [insertWalk] at h
    split at h
    · next hgt =>
      split at h
      · next hge =>
        obtain ⟨⟨b, a⟩, hrec, heq⟩ := bind_eq_ok.mp h
        cases heq
        obtain ⟨hbefore, hafter⟩ := ih hrec
        refine ⟨fun q hq => ?_, hafter⟩
        rcases List.mem_cons.mp hq with rfl | hq
        · exact ⟨hgt, hge⟩
        · exact hbefore q hq
      · cases h
    · next hle =>
      cases h
      simpa using hle

/-- A call that returns: the packet is old, it is kept, or it is at the receive base and handed
over with the chain behind it. -/
theorem receivePacket_cases {w w' : RecvWindow} {p : Packet} {ackNum : UInt32}
    {chain : List Packet} (h : w.receivePacket p = .ok (ackNum, chain, w')) :
    (p.tcpHeader.seqNum < w.recvBase ∧ ackNum = w.recvBase ∧ chain = [] ∧ w' = w) ∨
    (∃ before after, insertWalk p w.pkts = .ok (before, after) ∧ overlapsNext p after = false ∧
      w.recvBase < p.tcpHeader.seqNum ∧ ackNum = w.recvBase ∧ chain = [] ∧
      w' = { w with pkts := before ++ p :: after }) ∨
    (insertWalk p w.pkts = .ok ([], w.pkts) ∧ overlapsNext p w.pkts = false ∧
      p.tcpHeader.seqNum = w.recvBase ∧ chain = p :: (chainWalk p w.pkts).1 ∧
      ackNum = endOf ((chainWalk p w.pkts).1.getLast?.getD p) ∧
      w' = { w with recvBase := ackNum, pkts := (chainWalk p w.pkts).2 }) := by
  unfold receivePacket at h
  split at h
  · next hold =>
    cases h
    exact Or.inl ⟨hold, rfl, rfl, rfl⟩
  · next hnew =>
    obtain ⟨⟨before, after⟩, hwalk, h⟩ := bind_eq_ok.mp h
    simp only at h
    split at h
    · cases h
    · next hover =>
      rw [Bool.not_eq_true] at hover
      split at h
      · next hseq =>
        split at h
        · cases h
        · next hhead =>
          obtain rfl : before = [] := not_not.mp hhead
          obtain rfl : after = w.pkts := by simpa using insertWalk_mem hwalk
          cases h
          exact Or.inr (Or.inr ⟨hwalk, hover, hseq, rfl, rfl, rfl⟩)
      · next hne =>
        cases h
        have hlt : w.recvBase < p.tcpHeader.seqNum :=
          UInt32.lt_of_le_of_ne (UInt32.not_lt.mp hnew) (Ne.symm hne)
        exact Or.inr (Or.inl ⟨before, after, hwalk, hover, hlt, rfl, rfl, rfl⟩)

/-! ### A window and a history -/

/-- The window expects packet `rcvd` and keeps the packets `ooo`. -/
structure Holds (w : RecvWindow) (hist : List Packet) (rcvd : ℕ) (ooo : List ℕ) : Prop where
  base : w.recvBase = UInt32.ofNat (offset hist rcvd)
  pkts : List.Forall₂ (fun p i => hist[i]? = some p) w.pkts ooo

/-- The same for packets that are laid out from position `b` on. -/
structure HoldsFrom (w : RecvWindow) (b : ℕ) (hist : List Packet) (rcvd : ℕ) (ooo : List ℕ) :
    Prop where
  base : w.recvBase = UInt32.ofNat (b + offset hist rcvd)
  pkts : List.Forall₂ (fun p i => hist[i]? = some p) w.pkts ooo

variable {w : RecvWindow} {b : ℕ} {hist : List Packet} {rcvd : ℕ} {ooo : List ℕ}

theorem holds_iff : w.Holds hist rcvd ooo ↔ w.HoldsFrom 0 hist rcvd ooo :=
  ⟨fun h => ⟨by rw [h.base, Nat.zero_add], h.pkts⟩, fun h => ⟨by rw [h.base, Nat.zero_add], h.pkts⟩⟩

/-- Every packet kept is a packet of the history. -/
theorem exists_index {pkts : List Packet}
    (h : List.Forall₂ (fun p i => hist[i]? = some p) pkts ooo) {p : Packet} (hp : p ∈ pkts) :
    ∃ i ∈ ooo, hist[i]? = some p := by
  obtain ⟨n, hn⟩ := List.mem_iff_getElem?.mp hp
  have hn' : n < ooo.length := by
    rw [← h.length_eq]
    exact (List.getElem?_eq_some_iff.mp hn).1
  refine ⟨ooo[n], List.getElem_mem hn', ?_⟩
  obtain ⟨hlt, rfl⟩ := List.getElem?_eq_some_iff.mp hn
  exact h.get hlt hn'

/-- Every index kept is that of a packet kept. -/
theorem exists_pkt {pkts : List Packet}
    (h : List.Forall₂ (fun p i => hist[i]? = some p) pkts ooo) {i : ℕ} (hi : i ∈ ooo) :
    ∃ p ∈ pkts, hist[i]? = some p := by
  obtain ⟨n, hn, rfl⟩ := List.getElem_of_mem hi
  have hn' : n < pkts.length := by
    rw [h.length_eq]
    exact hn
  exact ⟨pkts[n], List.getElem_mem hn', h.get hn' hn⟩

theorem Holds.exists_index (h : w.Holds hist rcvd ooo) {p : Packet} (hp : p ∈ w.pkts) :
    ∃ i ∈ ooo, hist[i]? = some p :=
  RecvWindow.exists_index h.pkts hp

/-- A packet is inserted behind those that start before it. -/
theorem insertWalk_between {newPkt : Packet} {before after : List Packet}
    (hbefore : ∀ p ∈ before, newPkt.tcpHeader.seqNum > p.tcpHeader.seqNum ∧
      newPkt.tcpHeader.seqNum ≥ p.tcpHeader.seqNum + p.payloadSize)
    (hafter : ∀ p ∈ after, ¬ newPkt.tcpHeader.seqNum > p.tcpHeader.seqNum) :
    insertWalk newPkt (before ++ after) = .ok (before, after) := by
  induction before with
  | nil =>
    cases after with
    | nil => rfl
    | cons p rest => rw [List.nil_append, insertWalk, if_neg (hafter p (by simp))]
  | cons p rest ih =>
    obtain ⟨hgt, hge⟩ := hbefore p (by simp)
    rw [List.cons_append, insertWalk, if_pos hgt, if_pos hge,
      ih fun q hq => hbefore q (by simp [hq])]
    rfl

/-! ## Positions of packets -/

section Placed

variable (ht : Placed b hist)
include ht

/-- Where a packet of the history ends. -/
theorem endOf_eq {i : ℕ} {p : Packet} (hp : hist[i]? = some p) :
    endOf p = UInt32.ofNat (b + offset hist (i + 1)) := by
  rw [endOf, ht.seq hp, ← Packet.ofNat_len, ← UInt32.ofNat_add, offset_succ hp, Nat.add_assoc]

/-- Starts of packets are below the wrap-around. -/
theorem start_lt {i : ℕ} {p : Packet} (hp : hist[i]? = some p) :
    b + offset hist i < UInt32.size := by
  have hi : i < hist.length := (List.getElem?_eq_some_iff.mp hp).1
  have hlt := offset_lt ht.pos hi le_rfl
  have hfits := ht.fits
  simp only [UInt32.size]
  omega

/-- Starts of packets compare as their indices do. -/
theorem seq_lt_iff {i j : ℕ} {p q : Packet} (hp : hist[i]? = some p) (hq : hist[j]? = some q) :
    p.tcpHeader.seqNum < q.tcpHeader.seqNum ↔ i < j := by
  have hj : j < hist.length := (List.getElem?_eq_some_iff.mp hq).1
  rw [ht.seq hp, ht.seq hq, UInt32.ofNat_lt_iff_lt (start_lt ht hp) (start_lt ht hq)]
  constructor
  · intro hlt
    by_contra hge
    have := offset_mono hist (not_lt.mp hge)
    omega
  · intro hlt
    have := offset_lt ht.pos hlt hj.le
    omega

/-- A packet ends before a later one starts. -/
theorem end_le {i j : ℕ} {p q : Packet} (hp : hist[i]? = some p) (hq : hist[j]? = some q)
    (hij : i < j) : p.tcpHeader.seqNum + p.payloadSize ≤ q.tcpHeader.seqNum := by
  have hle : offset hist (i + 1) ≤ offset hist j := offset_mono _ hij
  have hstart := start_lt ht hq
  have hpe : p.tcpHeader.seqNum + p.payloadSize = UInt32.ofNat (b + offset hist (i + 1)) :=
    endOf_eq ht hp
  rw [hpe, ht.seq hq, UInt32.ofNat_le_iff_le (by omega) hstart]
  omega

/-- A packet ends exactly where another one starts only if they are neighbours. -/
theorem end_eq_iff {i j : ℕ} {p q : Packet} (hp : hist[i]? = some p) (hq : hist[j]? = some q)
    (hij : i < j) : p.tcpHeader.seqNum + p.payloadSize = q.tcpHeader.seqNum ↔ j = i + 1 := by
  have hj : j < hist.length := (List.getElem?_eq_some_iff.mp hq).1
  have hle : offset hist (i + 1) ≤ offset hist j := offset_mono _ hij
  have hstart := start_lt ht hq
  have hpe : p.tcpHeader.seqNum + p.payloadSize = UInt32.ofNat (b + offset hist (i + 1)) :=
    endOf_eq ht hp
  rw [hpe, ht.seq hq]
  constructor
  · intro heq
    have hnat := congrArg UInt32.toNat heq
    rw [UInt32.toNat_ofNat_of_lt' (by omega), UInt32.toNat_ofNat_of_lt' hstart] at hnat
    exact (offset_inj ht.pos (by omega) (by omega) (by omega)).symm
  · intro heq
    rw [heq]

/-- **A packet behind the receive base** is acknowledged again and not kept. -/
theorem HoldsFrom.receive_old (h : w.HoldsFrom b hist rcvd ooo) {i : ℕ} {p : Packet}
    (hp : hist[i]? = some p) (hi : i < rcvd) (hr : rcvd ≤ hist.length)
    (hfit : b + offset hist rcvd < 2 ^ 32) :
    w.receivePacket p = .ok (w.recvBase, [], w) := by
  have hlt : offset hist i < offset hist rcvd := offset_lt ht.pos hi hr
  have hold : p.tcpHeader.seqNum < w.recvBase := by
    rw [ht.seq hp, h.base, UInt32.ofNat_lt_iff_lt (start_lt ht hp) hfit]
    omega
  rw [receivePacket, if_pos hold]

/-- A packet that does not run into the kept packets behind it. -/
theorem overlapsNext_of_lt {pkts : List Packet}
    (hpkts : List.Forall₂ (fun p i => hist[i]? = some p) pkts ooo) {i : ℕ} {p : Packet}
    (hp : hist[i]? = some p) (hooo : ∀ j ∈ ooo, i < j) : overlapsNext p pkts = false := by
  cases pkts with
  | nil => rfl
  | cons q rest =>
    obtain ⟨j, hj, hqj⟩ := exists_index hpkts (List.mem_cons_self ..)
    have := end_le ht hp hqj (hooo j hj)
    simp [overlapsNext, this]

/-- **A packet beyond the receive base** is kept, in its place among the others. -/
theorem HoldsFrom.receive_between {before after : List ℕ}
    (h : w.HoldsFrom b hist rcvd (before ++ after)) {i : ℕ} {p : Packet} (hp : hist[i]? = some p)
    (hi : rcvd < i) (hbefore : ∀ j ∈ before, j < i) (hafter : ∀ j ∈ after, i < j) :
    ∃ w', w.receivePacket p = .ok (w.recvBase, [], w') ∧
      w'.HoldsFrom b hist rcvd (before ++ i :: after) ∧ w'.capacity = w.capacity := by
  have hilt : i < hist.length := (List.getElem?_eq_some_iff.mp hp).1
  have hlt : offset hist rcvd < offset hist i := offset_lt ht.pos hi hilt.le
  have hstart := start_lt ht hp
  have hbase : w.recvBase < p.tcpHeader.seqNum := by
    rw [ht.seq hp, h.base, UInt32.ofNat_lt_iff_lt (by omega) hstart]
    omega
  -- the kept packets split at the place of the new one
  have hpkts₁ := List.forall₂_take_append _ _ _ h.pkts
  have hpkts₂ := List.forall₂_drop_append _ _ _ h.pkts
  have hsplit := (List.take_append_drop before.length w.pkts).symm
  have hwalk : insertWalk p w.pkts =
      .ok (w.pkts.take before.length, w.pkts.drop before.length) := by
    nth_rewrite 1 [hsplit]
    refine insertWalk_between (fun q hq => ?_) fun q hq hgt => ?_
    · obtain ⟨k, hk, hqk⟩ := exists_index hpkts₁ hq
      have hki := hbefore k hk
      exact ⟨(seq_lt_iff ht hqk hp).mpr hki, end_le ht hqk hp hki⟩
    · obtain ⟨k, hk, hqk⟩ := exists_index hpkts₂ hq
      have hki := (seq_lt_iff ht hqk hp).mp hgt
      have := hafter k hk
      omega
  refine ⟨{ w with pkts := w.pkts.take before.length ++ p :: w.pkts.drop before.length }, ?_,
    ⟨h.base, List.rel_append hpkts₁ (.cons hp hpkts₂)⟩, rfl⟩
  rw [receivePacket, if_neg (UInt32.not_lt.mpr (UInt32.le_of_lt hbase)), hwalk, ok_bind]
  simp only [overlapsNext_of_lt ht hpkts₂ hp hafter, Bool.false_eq_true, if_false]
  rw [if_neg (UInt32.ne_of_lt hbase).symm]

/-- The delivery walk from packet `i` on takes the run of kept packets behind it. Induction
on the kept packets. -/
theorem chainWalk_eq {pkts : List Packet}
    (hpkts : List.Forall₂ (fun p i => hist[i]? = some p) pkts ooo)
    (hsorted : ooo.Pairwise (· < ·)) {i : ℕ} {p : Packet} (hp : hist[i]? = some p)
    (hooo : ∀ j ∈ ooo, i < j) :
    ∃ k left, ooo = List.range' (i + 1) k ++ left ∧ i + k + 1 ∉ left ∧
      (chainWalk p pkts).1 = (hist.drop (i + 1)).take k ∧
      List.Forall₂ (fun p i => hist[i]? = some p) (chainWalk p pkts).2 left ∧
      endOf ((chainWalk p pkts).1.getLast?.getD p) =
        UInt32.ofNat (b + offset hist (i + k + 1)) := by
  induction hpkts generalizing i p with
  | nil => exact ⟨0, [], rfl, by simp, rfl, .nil, endOf_eq ht hp⟩
  | @cons next j rest js hnext hrest ih =>
    have hij : i < j := hooo j (by simp)
    obtain ⟨hjs, hsorted'⟩ := List.pairwise_cons.mp hsorted
    by_cases hj : j = i + 1
    · -- the next kept packet continues the chain
      subst hj
      obtain ⟨k, left, hrun, hgap, hchain, hleft, hlast⟩ := ih hsorted' hnext hjs
      have hwalk : chainWalk p (next :: rest) =
          (next :: (chainWalk next rest).1, (chainWalk next rest).2) := by
        rw [chainWalk, if_pos ((end_eq_iff ht hp hnext hij).mpr rfl)]
      have hdrop : hist.drop (i + 1) = next :: hist.drop (i + 2) := by
        obtain ⟨hlt, rfl⟩ := List.getElem?_eq_some_iff.mp hnext
        exact List.drop_eq_getElem_cons hlt
      refine ⟨k + 1, left, ?_, ?_, ?_, ?_, ?_⟩
      · rw [hrun, List.range'_succ, List.cons_append]
      · rwa [show i + (k + 1) + 1 = i + 1 + k + 1 by omega]
      · rw [hwalk, hdrop, List.take_succ_cons, hchain]
      · rw [hwalk]
        exact hleft
      · rw [hwalk, List.getLast?_cons, Option.getD_some, hlast,
          show i + (k + 1) + 1 = i + 1 + k + 1 by omega]
    · -- a gap: the walk stops at once
      have hwalk : chainWalk p (next :: rest) = ([], next :: rest) := by
        rw [chainWalk, if_neg fun he => hj ((end_eq_iff ht hp hnext hij).mp he)]
      refine ⟨0, j :: js, by simp, ?_, by simp [hwalk], ?_, ?_⟩
      · simp only [Nat.add_zero, List.mem_cons, not_or]
        refine ⟨Ne.symm hj, fun hmem => ?_⟩
        have := hjs _ hmem
        omega
      · rw [hwalk]
        exact .cons hnext hrest
      · rw [hwalk]
        exact endOf_eq ht hp

/-- **The packet at the receive base** is handed over together with the run behind it. -/
theorem HoldsFrom.receive_next (h : w.HoldsFrom b hist rcvd ooo) {p : Packet}
    (hp : hist[rcvd]? = some p) (hsorted : ooo.Pairwise (· < ·)) (hooo : ∀ j ∈ ooo, rcvd < j) :
    ∃ k left w', ooo = List.range' (rcvd + 1) k ++ left ∧ rcvd + k + 1 ∉ left ∧
      w.receivePacket p = .ok (w'.recvBase, (hist.drop rcvd).take (k + 1), w') ∧
      w'.HoldsFrom b hist (rcvd + k + 1) left ∧ w'.capacity = w.capacity := by
  obtain ⟨k, left, hrun, hgap, hchain, hleft, hlast⟩ := chainWalk_eq ht h.pkts hsorted hp hooo
  have hbase : p.tcpHeader.seqNum = w.recvBase := by rw [ht.seq hp, h.base]
  have hwalk : insertWalk p w.pkts = .ok ([], w.pkts) := by
    rw [← List.nil_append w.pkts]
    refine insertWalk_between (by simp) fun q hq hgt => ?_
    obtain ⟨j, hj, hqj⟩ := exists_index h.pkts hq
    have := (seq_lt_iff ht hqj hp).mp hgt
    have := hooo j hj
    omega
  have hdrop : hist.drop rcvd = p :: hist.drop (rcvd + 1) := by
    obtain ⟨hlt, rfl⟩ := List.getElem?_eq_some_iff.mp hp
    exact List.drop_eq_getElem_cons hlt
  refine ⟨k, left,
    { w with
      recvBase := endOf ((chainWalk p w.pkts).1.getLast?.getD p)
      pkts := (chainWalk p w.pkts).2 }, hrun, hgap, ?_, ⟨hlast, hleft⟩, rfl⟩
  rw [receivePacket, if_neg (by rw [hbase]; exact UInt32.lt_irrefl _), hwalk, ok_bind]
  simp only [overlapsNext_of_lt ht h.pkts hp hooo, Bool.false_eq_true, if_false]
  rw [if_pos hbase, if_neg (by simp), hdrop, List.take_succ_cons, ← hchain]

end Placed

/-! ## The history of a connection -/

section Fits

variable (ht : Tiled hist) (hend : offset hist hist.length ≤ 2 ^ 32)
include ht hend

theorem Holds.receive_old (h : w.Holds hist rcvd ooo) {i : ℕ} {p : Packet}
    (hp : hist[i]? = some p) (hi : i < rcvd) (hr : rcvd ≤ hist.length)
    (hfit : offset hist rcvd < 2 ^ 32) :
    w.receivePacket p = .ok (w.recvBase, [], w) :=
  (holds_iff.mp h).receive_old (ht.placed hend) hp hi hr (by rwa [Nat.zero_add])

/-- A packet beyond everything kept is kept as the last one. -/
theorem Holds.receive_ahead (h : w.Holds hist rcvd ooo) {i : ℕ} {p : Packet}
    (hp : hist[i]? = some p) (hi : rcvd < i) (hooo : ∀ j ∈ ooo, j < i) :
    ∃ w', w.receivePacket p = .ok (w.recvBase, [], w') ∧ w'.Holds hist rcvd (ooo ++ [i]) ∧
      w'.capacity = w.capacity := by
  have hfrom := holds_iff.mp h
  rw [← List.append_nil ooo] at hfrom
  obtain ⟨w', hrecv, hholds, hcap⟩ :=
    hfrom.receive_between (ht.placed hend) hp hi hooo (by simp)
  exact ⟨w', hrecv, holds_iff.mpr hholds, hcap⟩

theorem Holds.receive_next (h : w.Holds hist rcvd ooo) {p : Packet}
    (hp : hist[rcvd]? = some p) (hsorted : ooo.Pairwise (· < ·)) (hooo : ∀ j ∈ ooo, rcvd < j) :
    ∃ k left w', ooo = List.range' (rcvd + 1) k ++ left ∧ rcvd + k + 1 ∉ left ∧
      w.receivePacket p = .ok (w'.recvBase, (hist.drop rcvd).take (k + 1), w') ∧
      w'.Holds hist (rcvd + k + 1) left ∧ w'.capacity = w.capacity := by
  obtain ⟨k, left, w', hrun, hgap, hrecv, hholds, hcap⟩ :=
    (holds_iff.mp h).receive_next (ht.placed hend) hp hsorted hooo
  exact ⟨k, left, w', hrun, hgap, hrecv, holds_iff.mpr hholds, hcap⟩

end Fits

end RecvWindow

end NetStack
