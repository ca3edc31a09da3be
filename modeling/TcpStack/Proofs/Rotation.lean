import TcpStack.Proofs.Duplicates
import TcpStack.Proofs.RecvBase
import TcpStack.Proofs.Reordering

/-!
# TcpStack — the receive window across the end of the sequence space

Two runs of the same packets, at two places of the sequence space. The adjacency test of
`ReceivePacket` is modular, but its old-packet test, its insertion and its overlap checks compare
`uint32` values directly.

* **`RecvWindow.receivePacket_shift`** — a call commutes with a rotation that leaves everything it
  compares on one side of the wrap-around;
* **`Recorder.Follows.receive`** — one call of a rotated run;
* **`rotation_invariant`** — runs are rotations of each other exactly if at every call the direct
  comparison of `seq_num` with `recv_base` is the one in serial-number order.
-/

namespace NetStack

open Tiling Transition

/-! ## Rotations -/

/-- The packet, moved by `d` in the sequence space. -/
def Packet.shift (d : UInt32) (p : Packet) : Packet :=
  { p with tcpHeader := { p.tcpHeader with seqNum := p.tcpHeader.seqNum + d } }

/-- The window, moved by `d` with its packets. -/
def RecvWindow.shift (d : UInt32) (w : RecvWindow) : RecvWindow :=
  { w with recvBase := w.recvBase + d, pkts := w.pkts.map (Packet.shift d) }

/-- What a call returns, moved by `d`. -/
def shiftReturned (d : UInt32) (ret : UInt32 × List Packet) : UInt32 × List Packet :=
  (ret.1 + d, ret.2.map (Packet.shift d))

/-- A receive window and what its calls have returned so far. -/
structure Recorder where
  window : RecvWindow
  returned : List (UInt32 × List Packet) := []
deriving DecidableEq, Repr

namespace Recorder

/-- `RecvWindow(recv_base)`, with nothing received. -/
def new (recvBase : UInt32) : Recorder := { window := ⟨recvBase, 65536, []⟩ }

/-- One call of `ReceivePacket`. -/
def receive (r : Recorder) (pkt : Packet) : Except Fatal Recorder := do
  let (ackNum, chain, window) ← r.window.receivePacket pkt
  .ok { window, returned := r.returned ++ [(ackNum, chain)] }

def shift (d : UInt32) (r : Recorder) : Recorder :=
  { window := r.window.shift d, returned := r.returned.map (shiftReturned d) }

end Recorder

section Shift

variable (d : UInt32) (p : Packet)

@[simp] theorem Packet.shift_seqNum : (p.shift d).tcpHeader.seqNum = p.tcpHeader.seqNum + d := rfl

@[simp] theorem Packet.shift_payloadSize : (p.shift d).payloadSize = p.payloadSize := rfl

theorem Packet.shift_shift (e : UInt32) : (p.shift d).shift e = p.shift (d + e) := by
  simp [Packet.shift, UInt32.add_assoc]

theorem Packet.shift_injective : Function.Injective (Packet.shift d) := by
  intro p q h
  have hseq := congrArg (fun p => p.tcpHeader.seqNum) h
  simp only [Packet.shift_seqNum, UInt32.add_left_inj] at hseq
  cases p with
  | mk ip tcp payload size =>
    cases q with
    | mk ip' tcp' payload' size' =>
      cases tcp
      cases tcp'
      simp_all [Packet.shift]

@[simp] theorem RecvWindow.endOf_shift : endOf (p.shift d) = endOf p + d := by
  simp only [endOf, Packet.shift_seqNum, Packet.shift_payloadSize]
  grind

theorem shiftReturned_comp (e : UInt32) :
    shiftReturned e ∘ shiftReturned d = shiftReturned (d + e) := by
  funext ret
  simp [shiftReturned, Function.comp_def, Packet.shift_shift, UInt32.add_assoc]

end Shift

/-- A rotation by `d` carries both numbers across the wrap-around, or none of them. -/
def SameSide (d x y : UInt32) : Prop := x.toNat + d.toNat < 2 ^ 32 ↔ y.toNat + d.toNat < 2 ^ 32

namespace SameSide

variable {d x y z : UInt32}

theorem symm (h : SameSide d x y) : SameSide d y x := Iff.symm h

theorem trans (h₁ : SameSide d x y) (h₂ : SameSide d y z) : SameSide d x z := Iff.trans h₁ h₂

/-- On one side of the wrap-around the order is kept. -/
theorem lt_iff (h : SameSide d x y) : x + d < y + d ↔ x < y := by
  rw [UInt32.lt_iff_toNat_lt, UInt32.lt_iff_toNat_lt, UInt32.toNat_add, UInt32.toNat_add]
  have hx := x.toNat_lt
  have hy := y.toNat_lt
  have hd := d.toNat_lt
  unfold SameSide at h
  omega

theorem le_iff (h : SameSide d x y) : x + d ≤ y + d ↔ x ≤ y := by
  rw [← UInt32.not_lt, ← UInt32.not_lt, h.symm.lt_iff]

/-- What lies between two numbers is on their side. -/
theorem of_le_of_le (h : SameSide d x y) (hxz : x ≤ z) (hzy : z ≤ y) : SameSide d z y := by
  rw [UInt32.le_iff_toNat_le] at hxz hzy
  unfold SameSide at h ⊢
  omega

/-- If a larger number stays the larger one, then both are on one side. -/
theorem of_le (hxy : x ≤ y) (h : x + d ≤ y + d) : SameSide d x y := by
  rw [UInt32.le_iff_toNat_le, UInt32.toNat_add, UInt32.toNat_add] at h
  rw [UInt32.le_iff_toNat_le] at hxy
  have hx := x.toNat_lt
  have hy := y.toNat_lt
  have hd := d.toNat_lt
  unfold SameSide
  omega

end SameSide

/-! ## A call commutes with a rotation -/

namespace RecvWindow

variable {w w' : RecvWindow} {p : Packet} {ackNum d : UInt32} {chain : List Packet}

/-- The delivery walk compares modulo `2^32`, so it commutes with every rotation. -/
theorem chainWalk_shift (d : UInt32) (p : Packet) (l : List Packet) :
    chainWalk (p.shift d) (l.map (Packet.shift d)) =
      ((chainWalk p l).1.map (Packet.shift d), (chainWalk p l).2.map (Packet.shift d)) := by
  induction l generalizing p with
  | nil => rfl
  | cons next rest ih =>
    have hiff : (p.shift d).tcpHeader.seqNum + (p.shift d).payloadSize =
        (next.shift d).tcpHeader.seqNum ↔
        p.tcpHeader.seqNum + p.payloadSize = next.tcpHeader.seqNum := by
      show endOf (p.shift d) = _ ↔ endOf p = _
      rw [endOf_shift, Packet.shift_seqNum, UInt32.add_left_inj]
    rw [List.map_cons, chainWalk, chainWalk]
    by_cases heq : p.tcpHeader.seqNum + p.payloadSize = next.tcpHeader.seqNum
    · rw [if_pos (hiff.mpr heq), if_pos heq, ih]
      rfl
    · rw [if_neg (mt hiff.mp heq), if_neg heq]
      rfl

/-- Where a chain ends. -/
theorem endOf_last_shift (d : UInt32) (p : Packet) (l : List Packet) :
    endOf ((l.map (Packet.shift d)).getLast?.getD (p.shift d)) =
      endOf (l.getLast?.getD p) + d := by
  rw [List.getLast?_map, Option.getD_map, endOf_shift]

/-- The insertion, where everything it compares is on one side of the wrap-around. -/
theorem insertWalk_shift {before after : List Packet} (hw : w.Sorted)
    (hwalk : insertWalk p w.pkts = .ok (before, after)) (hover : overlapsNext p after = false)
    (hside : ∀ q ∈ w.pkts, SameSide d p.tcpHeader.seqNum q.tcpHeader.seqNum)
    (hends : ∀ q ∈ w.pkts, q.tcpHeader.seqNum ≤ endOf q) (hend : p.tcpHeader.seqNum ≤ endOf p) :
    insertWalk (p.shift d) (w.shift d).pkts =
      .ok (before.map (Packet.shift d), after.map (Packet.shift d)) ∧
    overlapsNext (p.shift d) (after.map (Packet.shift d)) = false := by
  obtain ⟨hbefore, hle⟩ := insertWalk_bounds hwalk
  have hsplit := insertWalk_mem hwalk
  have hordered := hw.ordered
  rw [← hsplit] at hordered hside hends
  have hafter := precedes_after (List.pairwise_append.mp hordered).2.1 hle hover
  constructor
  · show insertWalk (p.shift d) (w.pkts.map (Packet.shift d)) = _
    rw [← hsplit, List.map_append]
    refine insertWalk_between (fun q' hq' => ?_) fun q' hq' => ?_
    · obtain ⟨q, hq, rfl⟩ := List.mem_map.mp hq'
      have hqp := (hside q (List.mem_append_left _ hq)).symm
      obtain ⟨hlt, hendle⟩ := hbefore q hq
      refine ⟨hqp.lt_iff.mpr hlt, ?_⟩
      -- the end of a packet passed lies between its start and the new packet
      show endOf (q.shift d) ≤ (p.shift d).tcpHeader.seqNum
      rw [endOf_shift, Packet.shift_seqNum]
      exact (hqp.of_le_of_le (hends q (List.mem_append_left _ hq)) hendle).le_iff.mpr hendle
    · obtain ⟨q, hq, rfl⟩ := List.mem_map.mp hq'
      have hqp := (hside q (List.mem_append_right _ hq)).symm
      show ¬ (q.tcpHeader.seqNum + d < p.tcpHeader.seqNum + d)
      rw [hqp.lt_iff, UInt32.not_lt]
      exact (hafter q hq).1
  · cases after with
    | nil => rfl
    | cons a rest =>
      have hpa := hside a (List.mem_append_right _ (by simp))
      have hle' : endOf (p.shift d) ≤ (a.shift d).tcpHeader.seqNum := by
        rw [endOf_shift, Packet.shift_seqNum]
        have hae := (hafter a (by simp)).2
        exact (hpa.of_le_of_le hend hae).le_iff.mpr hae
      show (!decide (endOf (p.shift d) ≤ (a.shift d).tcpHeader.seqNum)) = false
      rw [decide_eq_true hle', Bool.not_true]

/-- **A call commutes with a rotation** that leaves the base, the packet and the packets kept on
one side of the wrap-around. A packet that is old stays old. -/
theorem receivePacket_shift (hw : w.Sorted) (h : w.receivePacket p = .ok (ackNum, chain, w'))
    (hold : p.tcpHeader.seqNum + d < w.recvBase + d ↔ p.tcpHeader.seqNum < w.recvBase)
    (hside : w.recvBase ≤ p.tcpHeader.seqNum →
      ∀ q ∈ w.pkts, SameSide d p.tcpHeader.seqNum q.tcpHeader.seqNum)
    (hends : ∀ q ∈ w.pkts, q.tcpHeader.seqNum ≤ endOf q) (hend : p.tcpHeader.seqNum ≤ endOf p) :
    (w.shift d).receivePacket (p.shift d) =
      .ok (ackNum + d, chain.map (Packet.shift d), w'.shift d) := by
  have hbase : (p.shift d).tcpHeader.seqNum < (w.shift d).recvBase ↔
      p.tcpHeader.seqNum < w.recvBase := hold
  have heq : (p.shift d).tcpHeader.seqNum = (w.shift d).recvBase ↔
      p.tcpHeader.seqNum = w.recvBase := UInt32.add_left_inj d
  rcases receivePacket_cases h with ⟨hlt, rfl, rfl, rfl⟩ |
    ⟨before, after, hwalk, hover, hlt, rfl, rfl, rfl⟩ | ⟨hwalk, hover, hseq, rfl, rfl, rfl⟩
  · rw [receivePacket, if_pos (hbase.mpr hlt)]
    rfl
  · obtain ⟨hwalk', hover'⟩ :=
      insertWalk_shift hw hwalk hover (hside (UInt32.le_of_lt hlt)) hends hend
    rw [receivePacket, if_neg (mt hbase.mp (UInt32.not_lt.mpr (UInt32.le_of_lt hlt))), hwalk',
      ok_bind]
    simp only [hover', Bool.false_eq_true, if_false]
    rw [if_neg (mt heq.mp (UInt32.ne_of_lt hlt).symm)]
    simp [shift]
  · obtain ⟨hwalk', hover'⟩ :=
      insertWalk_shift hw hwalk hover (hside (UInt32.le_of_eq hseq.symm)) hends hend
    rw [receivePacket, if_neg (mt hbase.mp (hseq ▸ UInt32.lt_irrefl _)), hwalk', ok_bind]
    simp only [hover', Bool.false_eq_true, if_false]
    rw [if_pos (heq.mpr hseq), if_neg (by simp), chainWalk_shift]
    simp only [endOf_last_shift]
    rfl

end RecvWindow

/-! ## Serial-number order -/

/-- Rotations keep the serial-number order. -/
theorem serialLE_shift (x y d : UInt32) : SerialLE (x + d) (y + d) ↔ SerialLE x y := by
  have hsub : y + d - (x + d) = y - x := by grind
  rw [SerialLE, SerialLE, hsub]

/-- Below `2^31` it is the order of numbers. -/
theorem serialLE_iff_le {x y : UInt32} (hx : x.toNat < 2 ^ 31) (hy : y.toNat < 2 ^ 31) :
    SerialLE x y ↔ x ≤ y := by
  rw [SerialLE, UInt32.le_iff_toNat_le, UInt32.toNat_sub]
  omega

namespace Recorder

/-- The `uint32` comparison of the packet with the receive base is the one in serial-number
order: there is no wrap-around between them. -/
def InSerialOrder (r : Recorder) (p : Packet) : Prop :=
  p.tcpHeader.seqNum < r.window.recvBase ↔ ¬ SerialLE r.window.recvBase p.tcpHeader.seqNum

instance (r : Recorder) (p : Packet) : Decidable (r.InSerialOrder p) :=
  inferInstanceAs (Decidable (_ ↔ _))

/-- The call returns; a packet entirely behind the receive base in serial-number order is not
buffered, and one that is not behind it is not taken for one that was received before. -/
def Judged (r : Recorder) (p : Packet) : Prop :=
  ∃ ackNum chain w', r.window.receivePacket p = .ok (ackNum, chain, w') ∧
    (SerialLE (RecvWindow.endOf p) r.window.recvBase → p ∉ w'.pkts) ∧
    (SerialLE r.window.recvBase p.tcpHeader.seqNum → p ∈ chain ∨ p ∈ w'.pkts)

/-- After the packets `pre`, a recorder `r` is the rotation by `d` of one that started at 0. -/
structure Follows (d : UInt32) (s pre : List Packet) (r r₀ : Recorder) (k : ℕ) (ooo : List ℕ) :
    Prop where
  ran : run receive (.new 0) pre = .ok r₀
  arrived : Arrived 0 s pre r₀.window k ooo
  sorted : r₀.window.Sorted
  rotated : r = r₀.shift d
  side : ∀ q ∈ r₀.window.pkts, SameSide d r₀.window.recvBase q.tcpHeader.seqNum

theorem follows_new (d : UInt32) (s : List Packet) :
    Follows d s [] (.new d) (.new 0) 0 [] where
  ran := rfl
  arrived :=
    { holds := ⟨by simp [new], .nil⟩
      le := Nat.zero_le _
      all := by simp
      missing := by simp
      sorted := .nil
      mem := by simp }
  sorted := ⟨.nil, by simp [new]⟩
  rotated := by simp [new, shift, RecvWindow.shift]
  side := by simp [new]

section Call

variable {d : UInt32} {s pre : List Packet} {r r₀ : Recorder} {k i : ℕ} {ooo : List ℕ} {p : Packet}

/-- Where the receive base is. -/
theorem Follows.toNat_base (h : Follows d s pre r r₀ k ooo)
    (hfit : offset s s.length < 2 ^ 31) :
    r₀.window.recvBase.toNat = offset s k ∧ offset s k < 2 ^ 31 := by
  have hle := offset_mono s h.arrived.le
  have hlt : offset s k < 2 ^ 31 := Nat.lt_of_le_of_lt hle hfit
  rw [h.arrived.holds.base, Nat.zero_add,
    UInt32.toNat_ofNat_of_lt' (by simp only [UInt32.size]; omega)]
  exact ⟨rfl, hlt⟩

/-- A packet that repeats a delivered one, or none, is not kept. -/
theorem Follows.not_kept (h : Follows d s pre r r₀ k ooo) (hs : Placed 0 s)
    (hrep : p ∈ pre → ∃ n, p ∈ s.take n ∧ ∀ q ∈ s.take n, q ∈ pre) : p ∉ r₀.window.pkts := by
  intro hmem
  obtain ⟨j, hj, hpj⟩ := RecvWindow.exists_index h.arrived.holds.pkts hmem
  obtain ⟨hkj, hpre⟩ := (h.arrived.mem hpj).mp hj
  obtain ⟨n, hn, hall⟩ := hrep hpre
  -- packet `k` is missing, so the packets delivered are not more than `k`
  obtain ⟨l, hl, hget⟩ := List.mem_take_iff_getElem.mp hn
  have hlj : l = j := hs.index_inj (List.getElem?_eq_some_iff.mpr ⟨by omega, hget⟩) hpj
  have hk : k < s.length := by omega
  exact h.arrived.missing s[k] (List.getElem?_eq_getElem hk)
    (hall _ (List.mem_take_iff_getElem.mpr ⟨k, by omega, rfl⟩))

variable (hs : Placed 0 s) (hfit : offset s s.length < 2 ^ 31)
include hs hfit

/-- Where a packet starts. -/
theorem toNat_seqNum (hp : s[i]? = some p) :
    p.tcpHeader.seqNum.toNat = offset s i ∧ offset s i < 2 ^ 31 := by
  have hi : i ≤ s.length := (List.getElem?_eq_some_iff.mp hp).1.le
  have hle := offset_mono s hi
  have hlt : offset s i < 2 ^ 31 := Nat.lt_of_le_of_lt hle hfit
  rw [hs.seq hp, Nat.zero_add, UInt32.toNat_ofNat_of_lt' (by simp only [UInt32.size]; omega)]
  exact ⟨rfl, hlt⟩

/-- Where a packet ends. -/
theorem toNat_endOf (hp : s[i]? = some p) :
    (RecvWindow.endOf p).toNat = offset s (i + 1) ∧ offset s (i + 1) < 2 ^ 31 := by
  have hi : i + 1 ≤ s.length := (List.getElem?_eq_some_iff.mp hp).1
  have hle := offset_mono s hi
  have hlt : offset s (i + 1) < 2 ^ 31 := Nat.lt_of_le_of_lt hle hfit
  rw [RecvWindow.endOf_eq hs hp, Nat.zero_add,
    UInt32.toNat_ofNat_of_lt' (by simp only [UInt32.size]; omega)]
  exact ⟨rfl, hlt⟩

theorem le_endOf (hp : p ∈ s) : p.tcpHeader.seqNum ≤ RecvWindow.endOf p := by
  obtain ⟨i, hi⟩ := List.mem_iff_getElem?.mp hp
  rw [UInt32.le_iff_toNat_le, (toNat_seqNum hs hfit hi).1, (toNat_endOf hs hfit hi).1]
  exact offset_mono s (Nat.le_succ i)

/-- A packet is not behind the rotated base if it does not start below the base. -/
theorem Follows.ahead_iff (h : Follows d s pre r r₀ k ooo) (hp : p ∈ s) :
    SerialLE r.window.recvBase (p.shift d).tcpHeader.seqNum ↔
      ¬ p.tcpHeader.seqNum < r₀.window.recvBase := by
  obtain ⟨i, hi⟩ := List.mem_iff_getElem?.mp hp
  obtain ⟨hseq, hseqlt⟩ := toNat_seqNum hs hfit hi
  obtain ⟨hbase, hbaselt⟩ := h.toNat_base hfit
  rw [h.rotated, UInt32.not_lt]
  show SerialLE (r₀.window.recvBase + d) (p.tcpHeader.seqNum + d) ↔ _
  rw [serialLE_shift, serialLE_iff_le (by omega) (by omega)]

/-- A packet ends before the rotated base if it starts below the base: the base is not inside a
packet. -/
theorem Follows.behind_iff (h : Follows d s pre r r₀ k ooo) (hp : p ∈ s) :
    SerialLE (RecvWindow.endOf (p.shift d)) r.window.recvBase ↔
      p.tcpHeader.seqNum < r₀.window.recvBase := by
  obtain ⟨i, hi⟩ := List.mem_iff_getElem?.mp hp
  obtain ⟨hseq, hseqlt⟩ := toNat_seqNum hs hfit hi
  obtain ⟨hend, hendlt⟩ := toNat_endOf hs hfit hi
  obtain ⟨hbase, hbaselt⟩ := h.toNat_base hfit
  have hgrow := offset_lt hs.pos (Nat.lt_add_one i) (List.getElem?_eq_some_iff.mp hi).1
  rw [h.rotated, RecvWindow.endOf_shift]
  show SerialLE (RecvWindow.endOf p + d) (r₀.window.recvBase + d) ↔ _
  rw [serialLE_shift, serialLE_iff_le (by omega) (by omega), UInt32.le_iff_toNat_le,
    UInt32.lt_iff_toNat_lt, hend, hseq, hbase]
  constructor
  · omega
  · intro hlt
    have hik : i < k := by
      by_contra hge
      have := offset_mono s (not_lt.mp hge)
      omega
    exact offset_mono s hik

/-- What the comparison of the rotated numbers says about the others. -/
theorem Follows.inSerialOrder_iff (h : Follows d s pre r r₀ k ooo) (hp : p ∈ s) :
    r.InSerialOrder (p.shift d) ↔
      ((p.shift d).tcpHeader.seqNum < r.window.recvBase ↔
        p.tcpHeader.seqNum < r₀.window.recvBase) := by
  rw [InSerialOrder, h.ahead_iff hs hfit hp, not_not]

/-- **One call of a rotated run.** -/
theorem Follows.receive (h : Follows d s pre r r₀ k ooo) (hp : p ∈ s)
    (hrep : p ∈ pre → ∃ n, p ∈ s.take n ∧ ∀ q ∈ s.take n, q ∈ pre)
    (hcond : r.InSerialOrder (p.shift d)) :
    ∃ r' r₀' k' ooo', r.receive (p.shift d) = .ok r' ∧
      Follows d s (pre ++ [p]) r' r₀' k' ooo' := by
  -- the run that starts at 0 never wraps, so what this call does there is known
  have hnot := h.not_kept hs hrep
  obtain ⟨ackNum, chain, w', k', ooo', hrecv, harrived, -, htake⟩ :=
    h.arrived.receive hs (by omega) hp hnot
  have hold : p.tcpHeader.seqNum + d < r₀.window.recvBase + d ↔
      p.tcpHeader.seqNum < r₀.window.recvBase := by
    have hiff := (h.inSerialOrder_iff hs hfit hp).mp hcond
    rw [h.rotated] at hiff
    exact hiff
  have hmem : ∀ q ∈ r₀.window.pkts, q ∈ s := fun q hq => by
    obtain ⟨j, -, hqj⟩ := RecvWindow.exists_index h.arrived.holds.pkts hq
    exact List.mem_of_getElem? hqj
  -- the new packet and those kept lie on the same side of the wrap-around as the base, so that
  -- every comparison of the insertion comes out the same
  have hpside : r₀.window.recvBase ≤ p.tcpHeader.seqNum →
      SameSide d r₀.window.recvBase p.tcpHeader.seqNum := fun hle =>
    .of_le hle (UInt32.not_lt.mp (mt hold.mp (UInt32.not_lt.mpr hle)))
  have hrotated := RecvWindow.receivePacket_shift h.sorted hrecv hold
    (fun hle q hq => (hpside hle).symm.trans (h.side q hq))
    (fun q hq => le_endOf hs hfit (hmem q hq)) (le_endOf hs hfit hp)
  have hsorted' := h.sorted.receivePacket hrecv
  set r₀' : Recorder := ⟨w', r₀.returned ++ [(ackNum, chain)]⟩ with hr₀'
  have hran : run Recorder.receive (.new 0) (pre ++ [p]) = .ok r₀' := by
    rw [run_append, h.ran, ok_bind, run, Recorder.receive, hrecv]
    rfl
  refine ⟨r₀'.shift d, r₀', k', ooo', ?_, hran, harrived, hsorted', rfl, fun q hq => ?_⟩
  · rw [h.rotated, Recorder.receive]
    show (r₀.window.shift d).receivePacket (p.shift d) >>= _ = _
    rw [hrotated, ok_bind]
    simp [hr₀', Recorder.shift, shiftReturned]
  · -- the base has not moved beyond what is kept
    have hk : k ≤ k' := by
      have hlen := congrArg List.length htake
      rw [List.length_append, List.length_take_of_le harrived.le,
        List.length_take_of_le h.arrived.le] at hlen
      omega
    have hbase : r₀.window.recvBase ≤ w'.recvBase := by
      have hle := offset_mono s harrived.le
      have hkk := offset_mono s hk
      rw [h.arrived.holds.base, harrived.holds.base,
        UInt32.ofNat_le_iff_le (by simp only [UInt32.size]; omega)
          (by simp only [UInt32.size]; omega)]
      omega
    have hlt := UInt32.le_of_lt (hsorted'.ahead q hq)
    have hside : SameSide d r₀.window.recvBase q.tcpHeader.seqNum := by
      rcases (RecvWindow.receivePacket_mem hrecv).2 q hq with rfl | hq
      · exact hpside (UInt32.le_trans hbase hlt)
      · exact h.side q hq
    exact hside.of_le_of_le hbase hlt

/-- The comparison decides how the packet is treated. -/
theorem Follows.inSerialOrder_iff_judged (h : Follows d s pre r r₀ k ooo) (hp : p ∈ s)
    (hrep : p ∈ pre → ∃ n, p ∈ s.take n ∧ ∀ q ∈ s.take n, q ∈ pre) :
    r.InSerialOrder (p.shift d) ↔ r.Judged (p.shift d) := by
  have hiff := h.inSerialOrder_iff hs hfit hp
  have hnot : p.shift d ∉ (r₀.window.shift d).pkts := fun hmem =>
    h.not_kept hs hrep ((List.mem_map_of_injective (Packet.shift_injective d)).mp hmem)
  have hbehind := h.behind_iff hs hfit hp
  have hahead := h.ahead_iff hs hfit hp
  have hpkts : r.window.pkts = (r₀.window.shift d).pkts := by
    rw [h.rotated]
    rfl
  constructor
  · intro hcond
    obtain ⟨r', -, -, -, hr', -⟩ := h.receive hs hfit hp hrep hcond
    rw [hiff] at hcond
    obtain ⟨⟨ackNum, chain, w'⟩, hrecv, -⟩ := bind_eq_ok.mp hr'
    refine ⟨ackNum, chain, w', hrecv, fun hb => ?_, fun ha => ?_⟩
    · rw [RecvWindow.receivePacket, if_pos (hcond.mpr (hbehind.mp hb))] at hrecv
      cases hrecv
      rwa [hpkts]
    · -- a packet ahead is not taken for an old one: it is kept or handed over
      have hnew := mt hcond.mp (hahead.mp ha)
      rcases RecvWindow.receivePacket_cases hrecv with ⟨hold, -⟩ | ⟨_, _, -, -, -, -, -, rfl⟩ |
        ⟨-, -, -, rfl, -⟩
      · exact absurd hold hnew
      · simp
      · simp
  · rintro ⟨ackNum, chain, w', hrecv, hb, ha⟩
    rw [hiff]
    rcases RecvWindow.receivePacket_cases hrecv with ⟨hold, -, rfl, rfl⟩ |
      ⟨before, after, -, -, hnew, -, -, rfl⟩ | ⟨-, -, heq, -⟩
    · -- dropped as old: then it is not ahead
      refine iff_of_true hold ?_
      by_contra hnew
      rcases ha (hahead.mpr hnew) with hmem | hmem
      · simp at hmem
      · rw [hpkts] at hmem
        exact hnot hmem
    · -- kept: then it is not behind
      refine iff_of_false (UInt32.lt_asymm hnew) fun hold => ?_
      exact hb (hbehind.mpr hold) (by simp)
    · -- at the base: neither comparison says that it is old
      have heq' : p.tcpHeader.seqNum = r₀.window.recvBase := by
        rw [h.rotated] at heq
        exact (UInt32.add_left_inj d).mp heq
      rw [heq, heq']
      exact iff_of_false (UInt32.lt_irrefl _) (UInt32.lt_irrefl _)

/-- **A rotated run.** If every call compares in serial-number order, the run is the rotation of
the one that starts at 0; and that is when every packet is judged rightly. -/
theorem run_rotated {ps : List Packet} (hps : ∀ p ∈ ps, p ∈ s)
    (hrep : ∀ pre p, pre ++ [p] <+: ps → p ∈ pre →
      ∃ n, p ∈ s.take n ∧ ∀ q ∈ s.take n, q ∈ pre) (d : UInt32) :
    (Meets receive Judged (.new d) (ps.map (Packet.shift d)) ↔
      Meets receive InSerialOrder (.new d) (ps.map (Packet.shift d))) ∧
    (Meets receive InSerialOrder (.new d) (ps.map (Packet.shift d)) →
      ∃ r₀, run receive (.new 0) ps = .ok r₀ ∧
        run receive (.new d) (ps.map (Packet.shift d)) = .ok (r₀.shift d)) := by
  rw [meets_map, meets_map, run_map]
  have hin : ∀ {pre p}, pre ++ [p] <+: ps → p ∈ s := fun hpre => hps _ (hpre.subset (by simp))
  have hnew : ∃ r₀ k ooo, Follows d s [] (.new d) r₀ k ooo := ⟨_, _, _, follows_new d s⟩
  constructor
  · refine (Meets.iff_of_history _ (P := fun pre r => ∃ r₀ k ooo, Follows d s pre r r₀ k ooo)
      hnew ?_ ?_).symm
    · rintro pre p r hpre ⟨r₀, k, ooo, h⟩
      exact h.inSerialOrder_iff_judged hs hfit (hin hpre) (hrep pre p hpre)
    · rintro pre p r r' hpre ⟨r₀, k, ooo, h⟩ hcond hr'
      obtain ⟨r'', r₀', k', ooo', hr'', h'⟩ :=
        h.receive hs hfit (hin hpre) (hrep pre p hpre) hcond
      rw [hr'] at hr''
      cases hr''
      exact ⟨r₀', k', ooo', h'⟩
  · intro hm
    obtain ⟨r, hrun, r₀, k, ooo, h⟩ := run_total_of_meets _
      (P := fun pre r => ∃ r₀ k ooo, Follows d s pre r r₀ k ooo) hnew
      (fun pre p r hpre ⟨r₀, k, ooo, h⟩ hcond => by
        obtain ⟨r', r₀', k', ooo', hr', h'⟩ :=
          h.receive hs hfit (hin hpre) (hrep pre p hpre) hcond
        exact ⟨r', hr', r₀', k', ooo', h'⟩) hm
    exact ⟨r₀, h.ran, by rw [hrun, h.rotated]⟩

end Call

/-- Two runs of the same packets, one moved by `k`: every packet is judged rightly in both, and
the second run returns what the first one does, call by call, moved by `k`. -/
def Rotates (b k : UInt32) (ps : List Packet) : Prop :=
  Meets receive Judged (.new b) ps ∧
  Meets receive Judged (.new (b + k)) (ps.map (Packet.shift k)) ∧
  ∃ r r', run receive (.new b) ps = .ok r ∧
    run receive (.new (b + k)) (ps.map (Packet.shift k)) = .ok r' ∧
    r'.returned = r.returned.map (shiftReturned k)

end Recorder

/-- **When the receive window is invariant under rotation.** Packets whose ranges, relative to
`b`, tile `[0, L)` with `L < 2^31` arrive in any order, with omissions and with repeats of
packets that were delivered. Moving the base and all packets by `k` moves what every call
returns, and no packet is judged wrongly, exactly if in both runs every call compares `seq_num`
with `recv_base` as serial-number order does. -/
theorem rotation_invariant {s ps : List Packet} (hs : Placed 0 s)
    (hfit : offset s s.length < 2 ^ 31) (hps : ∀ p ∈ ps, p ∈ s)
    (hrep : ∀ pre p, pre ++ [p] <+: ps → p ∈ pre → ∃ n, p ∈ s.take n ∧ ∀ q ∈ s.take n, q ∈ pre)
    (b k : UInt32) :
    Recorder.Rotates b k (ps.map (Packet.shift b)) ↔
      Meets Recorder.receive Recorder.InSerialOrder (.new b) (ps.map (Packet.shift b)) ∧
      Meets Recorder.receive Recorder.InSerialOrder (.new (b + k))
        ((ps.map (Packet.shift b)).map (Packet.shift k)) := by
  have hmap : (ps.map (Packet.shift b)).map (Packet.shift k) = ps.map (Packet.shift (b + k)) := by
    rw [List.map_map]
    exact List.map_congr_left fun p _ => p.shift_shift b k
  obtain ⟨hjudged, hrun⟩ := Recorder.run_rotated hs hfit hps hrep b
  obtain ⟨hjudged', hrun'⟩ := Recorder.run_rotated hs hfit hps hrep (b + k)
  rw [Recorder.Rotates, hmap, hjudged, hjudged']
  constructor
  · exact fun h => ⟨h.1, h.2.1⟩
  · rintro ⟨h, h'⟩
    obtain ⟨r₀, hran, hr⟩ := hrun h
    obtain ⟨r₀', hran', hr'⟩ := hrun' h'
    rw [hran] at hran'
    cases hran'
    refine ⟨h, h', _, _, hr, hr', ?_⟩
    show r₀.returned.map (shiftReturned (b + k)) = (r₀.returned.map (shiftReturned b)).map _
    rw [List.map_map, shiftReturned_comp]

/-- Three packets, relative to the start of the stream. -/
def relativeThree : List Packet := [packetAt 0 5, packetAt 5 3, packetAt 8 4]

theorem relativeThree_placed : Placed 0 relativeThree where
  pos := by decide
  seq := by
    intro i p hp
    rcases i with _ | _ | _ | i
    · cases hp; rfl
    · cases hp; rfl
    · cases hp; rfl
    · cases hp
  fits := by decide

/-- Without repeats there is nothing to show about them. -/
theorem repeats_of_nodup {s ps : List Packet} (hps : ps.Nodup) (pre : List Packet) (p : Packet)
    (hpre : pre ++ [p] <+: ps) (hp : p ∈ pre) : ∃ n, p ∈ s.take n ∧ ∀ q ∈ s.take n, q ∈ pre := by
  have hnodup := hps.sublist hpre.sublist
  rw [List.nodup_append'] at hnodup
  exact absurd (hnodup.2.2 hp) (by simp)

/-- The second packet arrives first; the third one starts where the sequence numbers wrap. -/
def acrossTheEnd : List Packet := [packetAt 5 3, packetAt 0 5, packetAt 8 4]

theorem rotation_invariant_acrossTheEnd :
    Recorder.Rotates 7 4294967281 (acrossTheEnd.map (Packet.shift 7)) :=
  (@rotation_invariant _ acrossTheEnd relativeThree_placed (by decide) (by decide)
    (repeats_of_nodup (by decide)) 7 4294967281).mpr ⟨by decide +kernel, by decide +kernel⟩

/-- Moved to 3 below the end of the sequence space, the second packet starts at 2: it is dropped
as old when it arrives first, and missing when the first one arrives. -/
theorem not_rotation_invariant : ¬ ∀ s ps : List Packet, Placed 0 s →
    offset s s.length < 2 ^ 31 → (∀ p ∈ ps, p ∈ s) →
    (∀ pre p, pre ++ [p] <+: ps → p ∈ pre → ∃ n, p ∈ s.take n ∧ ∀ q ∈ s.take n, q ∈ pre) →
    ∀ b k : UInt32, Recorder.Rotates b k (ps.map (Packet.shift b)) := by
  intro h
  obtain ⟨-, -, r, r', hr, hr', heq⟩ := h relativeThree [packetAt 5 3, packetAt 0 5]
    relativeThree_placed (by decide) (by decide) (repeats_of_nodup (by decide)) 0 4294967293
  have hruns : (run Recorder.receive (.new 0)
        ([packetAt 5 3, packetAt 0 5].map (Packet.shift 0))).map (·.returned.map Prod.fst) =
      .ok [0, 8] ∧
      (run Recorder.receive (.new (0 + 4294967293))
        (([packetAt 5 3, packetAt 0 5].map (Packet.shift 0)).map
          (Packet.shift 4294967293))).map (·.returned.map Prod.fst) = .ok [4294967293, 2] := by
    decide +kernel
  rw [hr, hr'] at hruns
  have hfst : r.returned.map Prod.fst = [0, 8] := Except.ok.inj hruns.1
  have hfst' : r'.returned.map Prod.fst = [4294967293, 2] := Except.ok.inj hruns.2
  -- the last acknowledgement would be 8 - 3
  have hlast : (r.returned.map Prod.fst).map (· + 4294967293) = [4294967293, 2] := by
    rw [heq, List.map_map] at hfst'
    rw [List.map_map]
    exact hfst'
  rw [hfst] at hlast
  exact absurd hlast (by decide)

end NetStack
