import TcpStack.Proofs.LinkedRecvWindow
import TcpStack.Proofs.RecvWindow

/-!
# TcpStack — packets that arrive in any order

A receive window gets packets that tile an interval of sequence numbers, in any order, some
never and some more than once. After every call it has handed over exactly the packets up to
the first one that is missing, and keeps exactly the others that arrived (`Arrived`).

* **`Arrived.receive`** — one call: behind, at or beyond the packet that is missing;
* **`Splits.returned`** — chains handed over before are not touched by later calls;
* **`delivered_in_order`** — any sequence of calls, over the pointers of the source.
-/

namespace NetStack

open LinkedList Tiling Transition

/-- A receive window and what its calls have returned so far. -/
structure Receiver where
  window : LinkedRecvWindow
  returned : List (UInt32 × Option ℕ) := []
deriving DecidableEq, Repr

namespace Receiver

/-- A receiver that has not received anything. -/
def new (recvBase : UInt32) : Receiver := { window := .new recvBase }

/-- One call of `ReceivePacket`. -/
def receive (r : Receiver) (pkt : Packet) : Except Fault Receiver := do
  let (ackNum, chain, window) ← r.window.receivePacket pkt
  .ok { window, returned := r.returned ++ [(ackNum, chain)] }

/-- No copy of the packet is in the window's list. -/
def NotBuffered (r : Receiver) (pkt : Packet) : Prop := pkt ∉ r.window.packets

instance (r : Receiver) (pkt : Packet) : Decidable (r.NotBuffered pkt) :=
  inferInstanceAs (Decidable (pkt ∉ r.window.packets))

end Receiver

/-! ## Packets in order of their sequence numbers -/

section Placed

variable {b : ℕ} {s : List Packet} (hs : Placed b s)
include hs

theorem Placed.index_inj {i j : ℕ} {p : Packet} (hi : s[i]? = some p) (hj : s[j]? = some p) :
    i = j := by
  have hlt := RecvWindow.seq_lt_iff hs hi hj
  have hgt := RecvWindow.seq_lt_iff hs hj hi
  have hirrefl := UInt32.lt_irrefl p.tcpHeader.seqNum
  rcases lt_trichotomy i j with h | h | h
  · exact absurd (hlt.mpr h) hirrefl
  · exact h
  · exact absurd (hgt.mpr h) hirrefl

theorem Placed.sorted : s.Pairwise (fun p q => p.tcpHeader.seqNum < q.tcpHeader.seqNum) := by
  refine List.pairwise_iff_getElem.mpr fun i j hi hj hij => ?_
  exact (RecvWindow.seq_lt_iff hs (List.getElem?_eq_getElem hi) (List.getElem?_eq_getElem hj)).mpr hij

/-- Packets with increasing indices have increasing sequence numbers. -/
theorem Placed.sorted_of_indices {pkts : List Packet} {ooo : List ℕ}
    (hpkts : List.Forall₂ (fun p i => s[i]? = some p) pkts ooo) (hooo : ooo.Pairwise (· < ·)) :
    pkts.Pairwise (fun p q => p.tcpHeader.seqNum < q.tcpHeader.seqNum) := by
  induction hpkts with
  | nil => exact .nil
  | @cons p j rest js hp hrest ih =>
    obtain ⟨hj, hsorted⟩ := List.pairwise_cons.mp hooo
    refine List.pairwise_cons.mpr ⟨fun q hq => ?_, ih hsorted⟩
    obtain ⟨i, hi, hqi⟩ := RecvWindow.exists_index hrest hq
    exact (RecvWindow.seq_lt_iff hs hp hqi).mpr (hj i hi)

end Placed

/-- A sorted list is cut in two at a number that is not in it. -/
theorem exists_cut {l : List ℕ} (hl : l.Pairwise (· < ·)) {i : ℕ} (hi : i ∉ l) :
    ∃ before after, l = before ++ after ∧ (∀ j ∈ before, j < i) ∧ ∀ j ∈ after, i < j := by
  induction l with
  | nil => exact ⟨[], [], rfl, by simp, by simp⟩
  | cons j rest ih =>
    obtain ⟨hj, hrest⟩ := List.pairwise_cons.mp hl
    rw [List.mem_cons, not_or] at hi
    rcases lt_or_gt_of_ne hi.1 with hlt | hgt
    · refine ⟨[], j :: rest, rfl, by simp, fun n hn => ?_⟩
      rcases List.mem_cons.mp hn with rfl | hn
      · exact hlt
      · exact hlt.trans (hj n hn)
    · obtain ⟨before, after, rfl, hbefore, hafter⟩ := ih hrest hi.2
      refine ⟨j :: before, after, rfl, fun n hn => ?_, hafter⟩
      rcases List.mem_cons.mp hn with rfl | hn
      · exact hgt
      · exact hbefore n hn

/-! ## What has arrived -/

/-- The packets `ps` of `s` have arrived: the first `k` were handed over, packet `k` is
missing, the others that arrived are kept in the places `ooo`. -/
structure Arrived (b : ℕ) (s ps : List Packet) (w : RecvWindow) (k : ℕ) (ooo : List ℕ) :
    Prop where
  holds : w.HoldsFrom b s k ooo
  le : k ≤ s.length
  all : ∀ p ∈ s.take k, p ∈ ps
  missing : ∀ p, s[k]? = some p → p ∉ ps
  sorted : ooo.Pairwise (· < ·)
  mem : ∀ {j p}, s[j]? = some p → (j ∈ ooo ↔ k < j ∧ p ∈ ps)

variable {b k : ℕ} {s ps : List Packet} {w : RecvWindow} {ooo : List ℕ}

/-- The number of packets handed over is the longest run that arrived. -/
theorem Arrived.isGreatest (h : Arrived b s ps w k ooo) :
    IsGreatest {n | n ≤ s.length ∧ ∀ p ∈ s.take n, p ∈ ps} k := by
  refine ⟨⟨h.le, h.all⟩, fun n hn => ?_⟩
  obtain ⟨hle, hall⟩ := hn
  by_contra hlt
  have hk : k < s.length := by omega
  refine h.missing s[k] (List.getElem?_eq_getElem hk) (hall _ ?_)
  exact List.mem_take_iff_getElem.mpr ⟨k, by omega, rfl⟩

theorem Arrived.bounds (h : Arrived b s ps w k ooo) {j : ℕ} (hj : j ∈ ooo) : k < j := by
  obtain ⟨p, -, hp⟩ := RecvWindow.exists_pkt h.holds.pkts hj
  exact ((h.mem hp).mp hj).1

theorem nodup_of_sorted {l : List Packet}
    (hl : l.Pairwise (fun p q => p.tcpHeader.seqNum < q.tcpHeader.seqNum)) : l.Nodup := by
  refine List.Pairwise.imp (fun {p q} hlt => ?_) hl
  rintro rfl
  exact UInt32.lt_irrefl _ hlt

/-- The packets kept are the arrived ones behind the missing one, in order. -/
theorem Arrived.pkts_eq (hs : Placed b s) (h : Arrived b s ps w k ooo) :
    w.pkts = (s.drop (k + 1)).filter (· ∈ ps) := by
  have hsorted₁ := hs.sorted_of_indices h.holds.pkts h.sorted
  have hsorted₂ : ((s.drop (k + 1)).filter (· ∈ ps)).Pairwise
      (fun p q => p.tcpHeader.seqNum < q.tcpHeader.seqNum) :=
    hs.sorted.sublist ((List.filter_sublist ..).trans (List.drop_sublist ..))
  -- two lists in order with the same packets are the same list
  refine List.Perm.eq_of_pairwise (fun p q _ _ hpq hqp => absurd hqp (UInt32.lt_asymm hpq))
    hsorted₁ hsorted₂ ((List.perm_ext_iff_of_nodup (nodup_of_sorted hsorted₁)
      (nodup_of_sorted hsorted₂)).mpr fun p => ?_)
  rw [List.mem_filter, List.mem_drop_iff_getElem, decide_eq_true_eq]
  constructor
  · intro hp
    obtain ⟨j, hj, hpj⟩ := RecvWindow.exists_index h.holds.pkts hp
    obtain ⟨hkj, hps⟩ := (h.mem hpj).mp hj
    obtain ⟨hlt, hget⟩ := List.getElem?_eq_some_iff.mp hpj
    refine ⟨⟨j - (k + 1), by omega, ?_⟩, hps⟩
    rw [← hget]
    congr 1
    omega
  · rintro ⟨⟨j, hlt, hget⟩, hps⟩
    have hpj : s[k + 1 + j]? = some p := List.getElem?_eq_some_iff.mpr ⟨by omega, hget⟩
    obtain ⟨q, hq, hqj⟩ := RecvWindow.exists_pkt h.holds.pkts ((h.mem hpj).mpr ⟨by omega, hps⟩)
    rw [hpj, Option.some_inj] at hqj
    rwa [hqj]

/-- A packet that was handed over before arrives again. -/
theorem Arrived.again (h : Arrived b s ps w k ooo) {p : Packet} (hp : p ∈ s.take k) :
    Arrived b s (ps ++ [p]) w k ooo := by
  have hps : ∀ q, q ∈ ps ++ [p] ↔ q ∈ ps := by
    intro q
    rw [List.mem_append, List.mem_singleton]
    constructor
    · rintro (hq | rfl)
      · exact hq
      · exact h.all q hp
    · exact Or.inl
  exact
    { holds := h.holds
      le := h.le
      all := fun q hq => (hps q).mpr (h.all q hq)
      missing := fun q hq hmem => h.missing q hq ((hps q).mp hmem)
      sorted := h.sorted
      mem := fun hq => by rw [hps, h.mem hq] }

/-- Which packets have arrived when packet `i` has, too. -/
theorem Placed.mem_concat (hs : Placed b s) {i j : ℕ} {p q : Packet} (hp : s[i]? = some p)
    (hq : s[j]? = some q) : q ∈ ps ++ [p] ↔ q ∈ ps ∨ j = i := by
  rw [List.mem_append, List.mem_singleton]
  refine or_congr_right ⟨?_, ?_⟩
  · rintro rfl
    exact hs.index_inj hq hp
  · rintro rfl
    rw [hp, Option.some_inj] at hq
    exact hq.symm

/-- A packet beyond the missing one arrives. -/
theorem Arrived.ahead (hs : Placed b s) {before after : List ℕ} {w' : RecvWindow}
    (h : Arrived b s ps w k (before ++ after)) {i : ℕ} {p : Packet} (hp : s[i]? = some p)
    (hi : k < i) (hbefore : ∀ j ∈ before, j < i) (hafter : ∀ j ∈ after, i < j)
    (hw : w'.HoldsFrom b s k (before ++ i :: after)) :
    Arrived b s (ps ++ [p]) w' k (before ++ i :: after) := by
  obtain ⟨hsb, hsa, hba⟩ := List.pairwise_append.mp h.sorted
  exact
    { holds := hw
      le := h.le
      all := fun q hq => List.mem_append_left _ (h.all q hq)
      missing := fun q hq hmem => by
        rcases (hs.mem_concat hp hq).mp hmem with hmem | heq
        · exact h.missing q hq hmem
        · omega
      sorted := by
        refine List.pairwise_append.mpr ⟨hsb, List.pairwise_cons.mpr ⟨hafter, hsa⟩, ?_⟩
        intro j hj n hn
        rcases List.mem_cons.mp hn with rfl | hn
        · exact hbefore j hj
        · exact hba j hj n hn
      mem := fun {j q} hq => by
        have hmem := h.mem hq
        rw [List.mem_append] at hmem
        rw [List.mem_append, List.mem_cons, hs.mem_concat hp hq]
        constructor
        · rintro (hj | rfl | hj)
          · exact ⟨(hmem.mp (Or.inl hj)).1, Or.inl (hmem.mp (Or.inl hj)).2⟩
          · exact ⟨hi, Or.inr rfl⟩
          · exact ⟨(hmem.mp (Or.inr hj)).1, Or.inl (hmem.mp (Or.inr hj)).2⟩
        · rintro ⟨hkj, hq | rfl⟩
          · exact (hmem.mpr ⟨hkj, hq⟩).imp_right Or.inr
          · exact Or.inr (Or.inl rfl) }

/-- The missing packet arrives, and with it the `n` packets behind it that were kept. -/
theorem Arrived.next (hs : Placed b s) (h : Arrived b s ps w k ooo) {p : Packet}
    (hp : s[k]? = some p) {n : ℕ} {left : List ℕ} {w' : RecvWindow}
    (hrun : ooo = List.range' (k + 1) n ++ left) (hgap : k + n + 1 ∉ left)
    (hw : w'.HoldsFrom b s (k + n + 1) left) :
    Arrived b s (ps ++ [p]) w' (k + n + 1) left := by
  subst hrun
  obtain ⟨-, hleft, hlt⟩ := List.pairwise_append.mp h.sorted
  have hkept : ∀ {j}, k < j → j ≤ k + n → j ∈ List.range' (k + 1) n := fun h₁ h₂ =>
    List.mem_range'_1.mpr ⟨by omega, by omega⟩
  -- what is left lies behind the run, and not right behind it
  have hbeyond : ∀ j ∈ left, k + n + 1 < j := by
    intro j hj
    have hne : j ≠ k + n + 1 := fun heq => hgap (heq ▸ hj)
    have hkj := h.bounds (List.mem_append_right _ hj)
    rcases Nat.eq_zero_or_pos n with rfl | hn
    · omega
    · have := hlt (k + n) (hkept (by omega) le_rfl) j hj
      omega
  have hlen : k + n < s.length := by
    rcases Nat.eq_zero_or_pos n with rfl | hn
    · exact (List.getElem?_eq_some_iff.mp hp).1
    · obtain ⟨q, -, hq⟩ := RecvWindow.exists_pkt h.holds.pkts
        (List.mem_append_left _ (hkept (by omega) le_rfl))
      exact (List.getElem?_eq_some_iff.mp hq).1
  exact
    { holds := hw
      le := hlen
      all := fun q hq => by
        obtain ⟨j, hj, hget⟩ := List.mem_take_iff_getElem.mp hq
        have hqj : s[j]? = some q := List.getElem?_eq_some_iff.mpr ⟨by omega, hget⟩
        rw [hs.mem_concat hp hqj]
        rcases lt_trichotomy j k with hjk | hjk | hjk
        · exact Or.inl (h.all q (List.mem_take_iff_getElem.mpr ⟨j, by omega, hget⟩))
        · exact Or.inr hjk
        · exact Or.inl ((h.mem hqj).mp (List.mem_append_left _ (hkept hjk (by omega)))).2
      missing := fun q hq hmem => by
        rcases (hs.mem_concat hp hq).mp hmem with hmem | heq
        · rcases List.mem_append.mp ((h.mem hq).mpr ⟨by omega, hmem⟩) with hrun | hrun
          · have := (List.mem_range'_1.mp hrun).2
            omega
          · exact hgap hrun
        · omega
      sorted := hleft
      mem := fun {j q} hq => by
        rw [hs.mem_concat hp hq]
        constructor
        · intro hj
          exact ⟨hbeyond j hj, Or.inl ((h.mem hq).mp (List.mem_append_right _ hj)).2⟩
        · rintro ⟨hkj, hmem | rfl⟩
          · rcases List.mem_append.mp ((h.mem hq).mpr ⟨by omega, hmem⟩) with hrun | hrun
            · have := (List.mem_range'_1.mp hrun).2
              omega
            · exact hrun
          · omega }

/-- **One call.** The packets handed over are the next ones up to the first that is missing
now. -/
theorem Arrived.receive (hs : Placed b s) (hfit : b + offset s s.length < 2 ^ 32)
    (h : Arrived b s ps w k ooo) {p : Packet} (hp : p ∈ s) (hnot : p ∉ w.pkts) :
    ∃ ackNum chain w' k' ooo', w.receivePacket p = .ok (ackNum, chain, w') ∧
      Arrived b s (ps ++ [p]) w' k' ooo' ∧ ackNum = w'.recvBase ∧
      s.take k' = s.take k ++ chain := by
  obtain ⟨i, hi⟩ := List.mem_iff_getElem?.mp hp
  rcases lt_trichotomy i k with hik | rfl | hik
  · have hmem : p ∈ s.take k := by
      obtain ⟨hlt, hget⟩ := List.getElem?_eq_some_iff.mp hi
      exact List.mem_take_iff_getElem.mpr ⟨i, by omega, hget⟩
    have hle := offset_mono s h.le
    exact ⟨_, _, w, k, ooo, h.holds.receive_old hs hi hik h.le (by omega), h.again hmem, rfl,
      (List.append_nil _).symm⟩
  · obtain ⟨n, left, w', hrun, hgap, hrecv, hw, -⟩ :=
      h.holds.receive_next hs hi h.sorted fun j hj => h.bounds hj
    refine ⟨_, _, w', i + n + 1, left, hrecv, h.next hs hi hrun hgap hw, rfl, ?_⟩
    rw [Nat.add_assoc, List.take_add]
  · -- the packet is not kept yet, so the kept ones split at its place
    have hnotMem : i ∉ ooo := by
      intro hmem
      obtain ⟨q, hq, hqi⟩ := RecvWindow.exists_pkt h.holds.pkts hmem
      rw [hi, Option.some_inj] at hqi
      exact hnot (hqi ▸ hq)
    obtain ⟨before, after, rfl, hbefore, hafter⟩ := exists_cut h.sorted hnotMem
    obtain ⟨w', hrecv, hw, -⟩ := h.holds.receive_between hs hi hik hbefore hafter
    exact ⟨_, _, w', k, _, hrecv, h.ahead hs hi hik hbefore hafter hw,
      h.holds.base.trans hw.base.symm, (List.append_nil _).symm⟩

/-! ## Chains handed over -/

namespace LinkedRecvWindow

/-- The pointer leads to the packets `pkts`, linked in both directions with null at both
ends. -/
def Detached (heap : Heap (Option Packet)) (first : Option ℕ) (pkts : List Packet) : Prop :=
  ∃ given : List (ℕ × Packet), given.map Prod.snd = pkts ∧
    first = firstOr (packed given) none ∧ Chain heap none (packed given) none

/-- The nodes `given` were handed over, and the window has no part in them any more. -/
structure Returned (l : LinkedRecvWindow) (cells : List (ℕ × Packet)) (first : Option ℕ)
    (given : List (ℕ × Packet)) : Prop where
  first : first = firstOr (packed given) none
  chain : Chain l.heap none (packed given) none
  apart : ∀ a ∈ addrs (packed given), a ∉ addrs ((l.head, none) :: packed cells)

variable {l l' : LinkedRecvWindow} {cells cells' given : List (ℕ × Packet)}

/-- What a call hands over. -/
theorem Splits.handed (h : Splits l l' cells cells' given) :
    Returned l' cells' (firstOr (packed given) none) given := by
  refine ⟨rfl, h.chain, fun a ha hmem => ?_⟩
  have hnd := h.nodup
  rw [packed_append, ← List.cons_append, addrs_append, List.nodup_append'] at hnd
  exact hnd.2.2 hmem ha

/-- What an earlier call handed over is not touched. -/
theorem Splits.returned (h : Splits l l' cells cells' given) {first : Option ℕ}
    {given' : List (ℕ × Packet)} (hr : Returned l cells first given') :
    Returned l' cells' first given' := by
  have hapart : ∀ {a}, a ∈ addrs (packed given') → a ≠ l.head ∧ a ∉ addrs (packed cells) := by
    intro a ha
    have hnot := hr.apart a ha
    rw [addrs_cons, List.mem_cons, not_or] at hnot
    exact hnot
  refine ⟨hr.first, ?_, fun a ha hmem => ?_⟩
  · refine hr.chain.frame fun a ha => ?_
    exact h.frame a (hr.chain.lt_length ha) (hapart ha).1 (hapart ha).2
  · rw [addrs_cons, List.mem_cons, h.head] at hmem
    rcases hmem with rfl | hmem
    · exact (hapart ha).1 rfl
    · have hin : a ∈ addrs (packed (cells' ++ given)) := by
        rw [packed_append, addrs_append]
        exact List.mem_append_left _ hmem
      rcases h.owned a hin with hold | rfl
      · exact (hapart ha).2 hold
      · exact (hr.chain.lt_length ha).ne rfl

/-- Following the pointers finds the packets of a chain. Induction on its nodes. -/
theorem packetsFrom_eq {heap : Heap (Option Packet)} {p : Option ℕ}
    {cs : List (ℕ × Option Packet)} (hc : Chain heap p cs none) {fuel : ℕ}
    (hfuel : cs.length ≤ fuel) :
    packetsFrom heap fuel (firstOr cs none) = cs.flatMap fun c => c.2.toList := by
  induction cs generalizing p fuel with
  | nil => cases fuel <;> rfl
  | cons c rest ih =>
    obtain ⟨fuel, rfl⟩ := Nat.exists_eq_add_one.mpr (Nat.lt_of_lt_of_le (Nat.zero_lt_succ _) hfuel)
    have hlen : rest.length ≤ fuel := by simpa using hfuel
    simp only [firstOr_cons, packetsFrom, hc.1, List.flatMap_cons, ih hc.2 hlen]

theorem Kept.packets_eq (h : l.Kept cells) : l.packets = cells.map Prod.snd := by
  have heq := packetsFrom_eq h.chain (h.chain.length_le h.nodup)
  rw [firstOr_cons] at heq
  rw [packets, heq, List.flatMap_cons, Option.toList_none, List.nil_append, packed,
    List.flatMap_map, List.map_eq_flatMap]
  rfl

end LinkedRecvWindow

/-! ## Sequences of calls -/

open LinkedRecvWindow

/-- After the packets `ps` arrived: what the receiver holds, and the chains it has returned. -/
structure Receiver.After (b : ℕ) (s ps : List Packet) (r : Receiver) (w : RecvWindow) (k : ℕ)
    (ooo : List ℕ) (cells : List (ℕ × Packet)) (chains : List (List (ℕ × Packet))) : Prop where
  arrived : Arrived b s ps w k ooo
  represents : r.window.Represents w cells
  returned : List.Forall₂ (fun ret given => Returned r.window cells ret.2 given) r.returned chains
  delivered : (chains.map (List.map Prod.snd)).flatten = s.take k
  acked : ∀ ret ∈ r.returned.getLast?, ret.1 = r.window.recvBase

/-- A fresh receiver: nothing arrived. -/
theorem Receiver.after_new (b₀ : UInt32) (s : List Packet) :
    (Receiver.new b₀).After b₀.toNat s [] ⟨b₀, 65536, []⟩ 0 [] [] [] where
  arrived :=
    { holds := ⟨by simp, .nil⟩
      le := Nat.zero_le _
      all := by simp
      missing := by simp
      sorted := .nil
      mem := by simp }
  represents :=
    { base := rfl
      capacity := rfl
      pkts := rfl
      kept := ⟨by simp [Receiver.new, LinkedRecvWindow.new, Chain], by simp [addrs]⟩ }
  returned := .nil
  delivered := rfl
  acked := by simp [Receiver.new]

/-- One more packet. -/
theorem Receiver.After.receive {r : Receiver} {cells : List (ℕ × Packet)}
    {chains : List (List (ℕ × Packet))} (hs : Placed b s)
    (hfit : b + offset s s.length < 2 ^ 32) (h : r.After b s ps w k ooo cells chains) {p : Packet}
    (hp : p ∈ s) (hnot : r.NotBuffered p) :
    ∃ r' w' k' ooo' cells' chains', r.receive p = .ok r' ∧
      r'.After b s (ps ++ [p]) w' k' ooo' cells' chains' := by
  have hpkts : p ∉ w.pkts := by
    rwa [NotBuffered, h.represents.kept.packets_eq, h.represents.pkts] at hnot
  obtain ⟨ackNum, chain, w', k', ooo', hrecv, harrived, hack, htake⟩ :=
    h.arrived.receive hs hfit hp hpkts
  obtain ⟨l', cells', given, hlinked, hrep, hgiven, hsplits⟩ :=
    h.represents.receivePacket_ok hrecv
  refine ⟨_, w', k', ooo', cells', chains ++ [given], by rw [Receiver.receive, hlinked]; rfl, ?_⟩
  exact
    { arrived := harrived
      represents := hrep
      returned := List.rel_append (h.returned.imp fun _ _ hr => hsplits.returned hr)
        (.cons hsplits.handed .nil)
      delivered := by
        rw [List.map_append, List.flatten_append, h.delivered, htake, List.map_singleton,
          List.flatten_singleton, hgiven]
      acked := by simp [hack, hrep.base] }

/-- **RecvWindow delivers exactly the contiguous prefix.** Packets of at least one byte tile
`[b₀, b₀ + L)` below `2 ^ 32`; they arrive in any order, with any omissions and repeats, but
no copy of a packet arrives while another one is in the window's list. Then no check fails,
no null pointer is followed and every loop ends. The chains returned are detached lists of
nodes and make up the longest run of packets that have all arrived; the last call returned
`recv_base`, which is where that run ends; the window keeps the other packets that arrived,
in a sorted, consistently linked list. Nothing of that depends on the order of arrival. -/
theorem delivered_in_order {b₀ : UInt32} {s : List Packet} (hsize : ∀ p ∈ s, 1 ≤ p.payloadSize)
    (htile : ∀ {i p}, s[i]? = some p → p.tcpHeader.seqNum.toNat = b₀.toNat + offset s i)
    (hfit : b₀.toNat + offset s s.length < 2 ^ 32) {ps : List Packet} (hps : ∀ p ∈ ps, p ∈ s)
    (hcopies : Meets Receiver.receive Receiver.NotBuffered (.new b₀) ps) :
    ∃ r k, run Receiver.receive (.new b₀) ps = .ok r ∧
      IsGreatest {n | n ≤ s.length ∧ ∀ p ∈ s.take n, p ∈ ps} k ∧
      (∃ chains, List.Forall₂ (fun ret pkts => Detached r.window.heap ret.2 pkts) r.returned chains ∧
        chains.flatten = s.take k) ∧
      (∀ ret ∈ r.returned.getLast?, ret.1 = r.window.recvBase) ∧
      r.window.recvBase.toNat = b₀.toNat + offset s k ∧
      (∃ cells, r.window.Kept cells ∧
        cells.map Prod.snd = (s.drop (k + 1)).filter (· ∈ ps) ∧
        (cells.map Prod.snd).Pairwise (fun p q => p.tcpHeader.seqNum < q.tcpHeader.seqNum)) ∧
      ∀ ps' r', (∀ p, p ∈ ps' ↔ p ∈ ps) →
        Meets Receiver.receive Receiver.NotBuffered (.new b₀) ps' →
        run Receiver.receive (.new b₀) ps' = .ok r' →
        r'.window.recvBase = r.window.recvBase ∧ r'.window.packets = r.window.packets := by
  have hs : Placed b₀.toNat s :=
    { pos := fun p hp => by
        have := UInt32.le_iff_toNat_le.mp (hsize p hp)
        exact this
      seq := fun hp => by rw [← htile hp, UInt32.ofNat_toNat]
      fits := hfit.le }
  -- any sequence of the packets, as far as the statement speaks of one
  have hafter : ∀ ps, (∀ p ∈ ps, p ∈ s) →
      Meets Receiver.receive Receiver.NotBuffered (.new b₀) ps →
      ∃ r, run Receiver.receive (.new b₀) ps = .ok r ∧
        ∃ w k ooo cells chains, r.After b₀.toNat s ps w k ooo cells chains := by
    intro ps hps hm
    refine run_total_of_meets Receiver.receive
      (P := fun ps r => ∃ w k ooo cells chains, r.After b₀.toNat s ps w k ooo cells chains)
      ⟨_, _, _, _, _, Receiver.after_new b₀ s⟩ ?_ hm
    rintro pre p r hpre ⟨w, k, ooo, cells, chains, h⟩ hnot
    obtain ⟨r', w', k', ooo', cells', chains', hr, h'⟩ :=
      h.receive hs hfit (hps p (hpre.subset (by simp))) hnot
    exact ⟨r', hr, w', k', ooo', cells', chains', h'⟩
  obtain ⟨r, hrun, w, k, ooo, cells, chains, h⟩ := hafter ps hps hcopies
  have hbase : r.window.recvBase = UInt32.ofNat (b₀.toNat + offset s k) :=
    h.represents.base.trans h.arrived.holds.base
  have hpkts : cells.map Prod.snd = (s.drop (k + 1)).filter (· ∈ ps) :=
    h.represents.pkts.trans (h.arrived.pkts_eq hs)
  refine ⟨r, k, hrun, h.arrived.isGreatest, ⟨chains.map (List.map Prod.snd), ?_, h.delivered⟩,
    h.acked, ?_, ⟨cells, h.represents.kept, hpkts, ?_⟩, ?_⟩
  · refine List.forall₂_map_right_iff.mpr (h.returned.imp fun ret given hr => ?_)
    exact ⟨given, rfl, hr.first, hr.chain⟩
  · have hle := offset_mono s h.arrived.le
    rw [hbase, UInt32.toNat_ofNat_of_lt' (by simp only [UInt32.size]; omega)]
  · rw [hpkts]
    exact hs.sorted.sublist ((List.filter_sublist ..).trans (List.drop_sublist ..))
  · -- the same packets in another order
    intro ps' r' hsame hm' hrun'
    obtain ⟨r'', hrun'', w', k', ooo', cells', chains', h'⟩ :=
      hafter ps' (fun p hp => hps p ((hsame p).mp hp)) hm'
    rw [hrun', Except.ok.injEq] at hrun''
    subst hrun''
    have hset : {n | n ≤ s.length ∧ ∀ p ∈ s.take n, p ∈ ps'} =
        {n | n ≤ s.length ∧ ∀ p ∈ s.take n, p ∈ ps} := by simp only [hsame]
    obtain rfl : k' = k := h'.arrived.isGreatest.unique (hset ▸ h.arrived.isGreatest)
    constructor
    · rw [hbase, h'.represents.base, h'.arrived.holds.base]
    · rw [h.represents.kept.packets_eq, hpkts, h'.represents.kept.packets_eq, h'.represents.pkts,
        h'.arrived.pkts_eq hs]
      simp only [hsame]

/-- Three packets from sequence number 7 on. -/
def threePackets : List Packet :=
  [{ ipHeader := {}, tcpHeader := { seqNum := 7 }, payloadSize := 5 },
   { ipHeader := {}, tcpHeader := { seqNum := 12 }, payloadSize := 3 },
   { ipHeader := {}, tcpHeader := { seqNum := 15 }, payloadSize := 4 }]

/-- The last packet arrives first, the first one twice, the one in between never. -/
def oneMissing : List Packet :=
  threePackets.drop 2 ++ threePackets.take 1 ++ threePackets.take 1

theorem delivered_in_order_oneMissing : ∃ r k, run Receiver.receive (.new 7) oneMissing = .ok r ∧
    IsGreatest {n | n ≤ threePackets.length ∧ ∀ p ∈ threePackets.take n, p ∈ oneMissing} k ∧
    r.window.recvBase.toNat = 7 + offset threePackets k := by
  have htile : ∀ {i p}, threePackets[i]? = some p →
      p.tcpHeader.seqNum.toNat = (7 : UInt32).toNat + offset threePackets i := by
    intro i p hp
    rcases i with _ | _ | _ | i
    · cases hp; rfl
    · cases hp; rfl
    · cases hp; rfl
    · cases hp
  obtain ⟨r, k, hrun, hk, -, -, hbase, -⟩ := @delivered_in_order 7 threePackets (by decide) htile
    (by decide) oneMissing (by decide) (by decide +kernel)
  exact ⟨r, k, hrun, hk, hbase⟩

end NetStack
