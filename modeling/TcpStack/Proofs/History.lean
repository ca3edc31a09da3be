import TcpStack.Proofs.SendWindow
import TcpStack.Model.TcpController

/-!
# TcpStack — what a history of packets carries

The packets an endpoint registers are of three shapes: SYN and FIN take one sequence number
and carry nothing, a data packet takes as many as it carries (`Packet.Regular`). A history
is made of such packets in a fixed order (`History`).

* **`offset_eq`** — the sequence numbers of a history are its bytes plus its control packets.
* **`streamLoop_eq`** — streaming a chain of packets into a buffer with enough room appends
  exactly the bytes they carry, and ends at the first FIN.
-/

namespace NetStack

open Tiling Transition

/-! ## Packets -/

/-- SYN and FIN packets. -/
def Packet.control (p : Packet) : Bool := p.tcpHeader.sync || p.tcpHeader.fin

/-- The shape of a registered packet. -/
structure Packet.Regular (p : Packet) : Prop where
  rst : p.tcpHeader.rst = false
  ack : p.tcpHeader.ack = true → p.tcpHeader.sync = true
  sync : p.tcpHeader.sync = true → p.tcpHeader.fin = false
  control : p.control = true → p.payload = [] ∧ p.payloadSize = 1
  data : p.control = false → p.payload.length = len p ∧ 0 < len p ∧ len p ≤ 10

namespace Packet.Regular

variable {p : Packet}

theorem len_control (h : p.Regular) (hc : p.control = true) : len p = 1 := by
  show p.payloadSize.toNat = 1
  rw [(h.control hc).2]
  rfl

/-- A regular packet takes its bytes, or one sequence number. -/
theorem len_eq (h : p.Regular) : len p = p.payload.length + p.control.toNat := by
  cases hc : p.control with
  | true => simp [h.len_control hc, (h.control hc).1]
  | false => simp [(h.data hc).1]

theorem len_pos (h : p.Regular) : 0 < len p := by
  cases hc : p.control with
  | true => simp [h.len_control hc]
  | false => exact (h.data hc).2.1

theorem len_le (h : p.Regular) : len p ≤ 10 := by
  cases hc : p.control with
  | true => simp [h.len_control hc]
  | false => exact (h.data hc).2.2

theorem copy_eq (h : p.Regular) : p.copy = p := by
  apply Packet.Copyable.copy_eq
  cases hc : p.control with
  | true => exact Or.inl (h.control hc).1
  | false =>
    obtain ⟨hlen, hpos, hle⟩ := h.data hc
    exact Or.inr ⟨hlen, hpos, by omega⟩

theorem payloadSize_ne_zero (h : p.Regular) : p.payloadSize ≠ 0 := by
  intro h0
  have hpos := h.len_pos
  have hlen : len p = 0 := by
    show p.payloadSize.toNat = 0
    rw [h0]
    rfl
  omega

/-- What `HandleReceivedPackets` does with a regular packet that is no SYN. -/
theorem kind_eq (h : p.Regular) (hs : p.tcpHeader.sync = false) :
    p.kind = if p.tcpHeader.fin then .fin else .data := by
  have hack : p.tcpHeader.ack = false := by
    by_contra hne
    simp only [Bool.not_eq_false] at hne
    simp [h.ack hne] at hs
  simp [Packet.kind, hs, hack, h.rst]

end Packet.Regular

/-! ## Histories -/

/-- The bytes carried by a list of packets. -/
def stream (l : List Packet) : List UInt8 := l.flatMap (·.payload)

@[simp] theorem stream_nil : stream [] = [] := rfl

@[simp] theorem stream_cons (p : Packet) (l : List Packet) :
    stream (p :: l) = p.payload ++ stream l := rfl

@[simp] theorem stream_append (l m : List Packet) : stream (l ++ m) = stream l ++ stream m := by
  simp [stream]

/-- There is no FIN among the packets. -/
def NoFin (l : List Packet) : Prop := ∀ p ∈ l, p.tcpHeader.fin = false

/-- The order of the packets of a history: a SYN is the first packet, and behind a FIN there
are only FINs. -/
structure History (hist : List Packet) : Prop where
  tiled : Tiled hist
  regular : ∀ p ∈ hist, p.Regular
  sync_first : ∀ {i p}, hist[i]? = some p → p.tcpHeader.sync = true → i = 0
  fin_last : hist.Pairwise fun p q => p.tcpHeader.fin = true → q.tcpHeader.fin = true

/-- The sequence numbers up to a packet are the bytes before it and one for each SYN and
FIN. Induction on the index. -/
theorem offset_eq {hist : List Packet} (h : ∀ p ∈ hist, p.Regular) (i : ℕ) :
    offset hist i = (stream (hist.take i)).length + (hist.take i).countP Packet.control := by
  induction i with
  | zero => simp
  | succ i ih =>
    rcases hp : hist[i]? with _ | p
    · have hi := List.getElem?_eq_none_iff.mp hp
      rw [List.take_of_length_le hi] at ih
      rw [List.take_of_length_le (by omega), ← ih, offset, offset,
        List.take_of_length_le (by omega), List.take_of_length_le hi]
    · have hreg := h p (List.mem_of_getElem? hp)
      rw [offset_succ hp, ih, hreg.len_eq, List.take_add_one, hp]
      simp only [Option.toList_some, stream_append, stream_cons, stream_nil, List.append_nil,
        List.length_append, List.countP_append, List.countP_cons, List.countP_nil]
      cases p.control <;> simp <;> omega

theorem offset_length_eq {hist : List Packet} (h : ∀ p ∈ hist, p.Regular) :
    offset hist hist.length = (stream hist).length + hist.countP Packet.control := by
  rw [offset_eq h, List.take_length]

namespace History

variable {hist : List Packet}

theorem nil : History [] where
  tiled := ⟨by simp, by simp⟩
  regular := by simp
  sync_first := by simp
  fin_last := .nil

/-- A history goes on with a packet at its end, a SYN only if it is the first one. -/
theorem concat (h : History hist) {p : Packet} (hreg : p.Regular)
    (hseq : p.tcpHeader.seqNum = UInt32.ofNat (offset hist hist.length))
    (hsync : p.tcpHeader.sync = true → hist = [])
    (hfin : p.tcpHeader.fin = false → NoFin hist) : History (hist ++ [p]) where
  tiled := h.tiled.concat hseq hreg.len_pos
  regular := by
    intro q hq
    rcases List.mem_append.mp hq with hq | hq
    · exact h.regular q hq
    · rw [List.mem_singleton.mp hq]
      exact hreg
  sync_first := by
    intro i q hq hs
    rcases Nat.lt_or_ge i hist.length with hi | hi
    · rw [List.getElem?_append_left hi] at hq
      exact h.sync_first hq hs
    · rw [List.getElem?_append_right hi] at hq
      obtain ⟨hlt, heq⟩ := List.getElem?_eq_some_iff.mp hq
      simp only [List.length_singleton, Nat.lt_one_iff, List.getElem_singleton] at hlt heq
      have hnil := hsync (heq ▸ hs)
      rw [hnil] at hlt
      simpa using hlt
  fin_last := by
    refine List.pairwise_append.mpr ⟨h.fin_last, by simp, fun q hq r hr hqf => ?_⟩
    rw [List.mem_singleton.mp hr]
    by_contra hne
    simp [hfin (by simpa using hne) q hq] at hqf

/-- The first packets of a history are one. -/
theorem take (h : History hist) (k : ℕ) : History (hist.take k) where
  tiled := by
    refine ⟨fun {i p} hp => ?_, fun p hp => h.tiled.pos p (List.mem_of_mem_take hp)⟩
    have hi := (List.getElem?_eq_some_iff.mp hp).1
    have hoff : offset hist i = offset (hist.take k) i := by
      conv_lhs => rw [← List.take_append_drop k hist]
      exact offset_append _ hi.le
    rw [← hoff]
    refine h.tiled.seq ?_
    rwa [List.getElem?_take_of_lt (by rw [List.length_take] at hi; omega)] at hp
  regular := fun p hp => h.regular p (List.mem_of_mem_take hp)
  sync_first := by
    intro i p hp hs
    have hi := (List.getElem?_eq_some_iff.mp hp).1
    refine h.sync_first (i := i) (p := p) ?_ hs
    rwa [List.getElem?_take_of_lt (by rw [List.length_take] at hi; omega)] at hp
  fin_last := h.fin_last.sublist (List.take_sublist k hist)

/-- At most one control packet is not a FIN. -/
theorem countP_control_le (h : History hist) :
    hist.countP Packet.control ≤ 1 + hist.countP (·.tcpHeader.fin) := by
  cases hist with
  | nil => simp
  | cons p rest =>
    have hrest : rest.countP Packet.control = rest.countP (·.tcpHeader.fin) := by
      refine List.countP_congr fun q hq => ?_
      obtain ⟨i, hi⟩ := List.mem_iff_getElem?.mp hq
      have hs : q.tcpHeader.sync = false := by
        by_contra hne
        have := h.sync_first (i := i + 1) (p := q) (by simpa using hi) (by simpa using hne)
        omega
      simp [Packet.control, hs]
    rw [List.countP_cons, List.countP_cons, hrest]
    split <;> split <;> omega

/-- The sequence numbers of a history: its bytes, a SYN, and its FINs. -/
theorem offset_length_le (h : History hist) :
    offset hist hist.length ≤ 1 + (stream hist).length + hist.countP (·.tcpHeader.fin) := by
  rw [offset_length_eq h.regular]
  have := h.countP_control_le
  omega

/-- Before the first FIN, data starts at sequence number 1. -/
theorem offset_eq_of_noFin (h : History hist) (hno : NoFin hist) {p : Packet}
    (hp : hist[0]? = some p) (hs : p.tcpHeader.sync = true) {i : ℕ} (hi : 1 ≤ i) :
    offset hist i = 1 + (stream (hist.take i)).length := by
  have hcount : (hist.take i).countP Packet.control = 1 := by
    cases hist with
    | nil => simp at hp
    | cons q rest =>
      simp only [List.getElem?_cons_zero, Option.some.injEq] at hp
      subst hp
      obtain ⟨k, rfl⟩ : ∃ k, i = k + 1 := ⟨i - 1, by omega⟩
      have hrest : (rest.take k).countP Packet.control = 0 := by
        refine List.countP_eq_zero.mpr fun r hr => ?_
        have hr' := List.mem_of_mem_take hr
        obtain ⟨j, hj⟩ := List.mem_iff_getElem?.mp hr'
        have hfin := hno r (List.mem_cons_of_mem _ hr')
        have hsync : r.tcpHeader.sync = false := by
          by_contra hne
          have := h.sync_first (i := j + 1) (p := r) (by simpa using hj) (by simpa using hne)
          omega
        simp [Packet.control, hfin, hsync]
      simp [Packet.control, hs, hrest]
  rw [offset_eq h.regular, hcount, Nat.add_comm]

/-- Up to a packet that is no FIN there is one control packet at most, the SYN. -/
theorem offset_succ_le (h : History hist) {i : ℕ} {p : Packet} (hp : hist[i]? = some p)
    (hfin : p.tcpHeader.fin = false) : offset hist (i + 1) ≤ 1 + (stream hist).length := by
  have hno : (hist.take (i + 1)).countP (·.tcpHeader.fin) = 0 := by
    refine List.countP_eq_zero.mpr fun q hq hqf => ?_
    obtain ⟨j, hj, rfl⟩ := List.mem_take_iff_getElem.mp hq
    obtain ⟨hi, rfl⟩ := List.getElem?_eq_some_iff.mp hp
    rcases Nat.lt_or_ge j i with hji | hji
    · simp [List.pairwise_iff_getElem.mp h.fin_last j i (by omega) hi hji hqf] at hfin
    · obtain rfl : j = i := by omega
      simp [hqf] at hfin
  have hcount := (h.take (i + 1)).countP_control_le
  have hle : (stream (hist.take (i + 1))).length ≤ (stream hist).length := by
    conv_rhs => rw [← List.take_append_drop (i + 1) hist, stream_append, List.length_append]
    exact Nat.le_add_right _ _
  rw [offset_eq h.regular]
  omega

/-- If there is a FIN, the last packet is one. -/
theorem last_fin (h : History hist) (hfin : ¬ NoFin hist) {p : Packet}
    (hp : hist[hist.length - 1]? = some p) : p.tcpHeader.fin = true := by
  simp only [NoFin, not_forall, Bool.not_eq_false] at hfin
  obtain ⟨q, hq, hqf⟩ := hfin
  obtain ⟨i, hi, rfl⟩ := List.mem_iff_getElem.mp hq
  obtain ⟨hlt, rfl⟩ := List.getElem?_eq_some_iff.mp hp
  rcases Nat.lt_or_ge i (hist.length - 1) with hlast | hlast
  · exact List.pairwise_iff_getElem.mp h.fin_last i (hist.length - 1) hi hlt hlast hqf
  · obtain rfl : i = hist.length - 1 := by omega
    exact hqf

/-- Once a FIN is among the first `i` packets, they carry everything. -/
theorem stream_take_of_fin (h : History hist) {i : ℕ}
    (hfin : ∃ p ∈ hist.take i, p.tcpHeader.fin = true) : stream (hist.take i) = stream hist := by
  obtain ⟨p, hp, hpf⟩ := hfin
  have hrest : stream (hist.drop i) = [] := by
    have hpair := h.fin_last
    rw [← List.take_append_drop i hist] at hpair
    have hall := (List.pairwise_append.mp hpair).2.2 p hp
    rw [stream, List.flatMap_eq_nil_iff]
    intro q hq
    have hqf := hall q hq hpf
    exact ((h.regular q (List.mem_of_mem_drop hq)).control (by simp [Packet.control, hqf])).1
  rw [← List.take_append_drop i hist, stream_append, hrest, List.append_nil,
    List.take_append_drop]

end History

variable [HyLib]

/-! ## Streaming a chain into the receive buffer -/

namespace RingBuffer

theorem size_add_freeSpace (b : RingBuffer) : b.bytes.length + b.freeSpace = b.capacity := by
  have := b.size_le
  rw [freeSpace_eq]
  omega

/-- Writing what fits. -/
theorem write_bytes {b : RingBuffer} {data : List UInt8} (h : data.length ≤ b.freeSpace) :
    (b.write data).1 = data.length ∧ (b.write data).2.bytes = b.bytes ++ data := by
  rw [write_fst, bytes_write, List.take_of_length_le h]
  exact ⟨Nat.min_eq_left h, rfl⟩

end RingBuffer

namespace TcpController

/-- With nothing in the overflow queue there is nothing to push. -/
theorem pushOverflowed_of_nil {c : TcpController} (h : c.overflowPkts = []) :
    c.pushOverflowedPacketsToSocketBuffer = c := by
  simp only [pushOverflowedPacketsToSocketBuffer, h, pushOverflowedLoop]
  rw [← h]

/-- **Streaming a chain that fits.** Nothing goes to the overflow queue, and the loop ends at
the first FIN. Induction on the chain. -/
theorem streamLoop_eq {chain : List Packet} (hreg : ∀ p ∈ chain, p.Regular)
    (hsync : ∀ p ∈ chain, p.tcpHeader.sync = false)
    (hlast : chain.Pairwise fun p q => p.tcpHeader.fin = true → q.tcpHeader.fin = true)
    {c : TcpController} (hroom : (stream chain).length ≤ c.recvBuffer.freeSpace) :
    ∃ b, streamLoop chain c = .ok { c with
        recvBuffer := b
        pipeState :=
          if chain.any (·.tcpHeader.fin) then .eofNotConsumed else c.pipeState } ∧
      b.bytes = c.recvBuffer.bytes ++ stream chain ∧ b.capacity = c.recvBuffer.capacity := by
  induction chain generalizing c with
  | nil => exact ⟨c.recvBuffer, rfl, by simp, rfl⟩
  | cons p rest ih =>
    have hp := hreg p (by simp)
    have hps := hsync p (by simp)
    obtain ⟨hprest, hlast'⟩ := List.pairwise_cons.mp hlast
    rw [streamLoop, if_neg (by simp [hps])]
    by_cases hpf : p.tcpHeader.fin = true
    · -- behind a FIN the chain carries nothing
      have hnil : stream (p :: rest) = [] := by
        rw [stream, List.flatMap_eq_nil_iff]
        intro q hq
        have hqf : q.tcpHeader.fin = true := by
          rcases List.mem_cons.mp hq with rfl | hq
          · exact hpf
          · exact hprest q hq hpf
        exact ((hreg q hq).control (by simp [Packet.control, hqf])).1
      rw [if_pos hpf]
      exact ⟨c.recvBuffer, by simp [hpf], by simp [hnil], rfl⟩
    · have hpf' : p.tcpHeader.fin = false := by simpa using hpf
      obtain ⟨hlen, hpos, -⟩ := hp.data (by simp [Packet.control, hps, hpf'])
      have htake : p.payload.take p.payloadSize.toNat = p.payload :=
        List.take_of_length_le hlen.le
      have hsize : p.payloadSize.toNat = p.payload.length := hlen.symm
      rw [stream_cons, List.length_append] at hroom
      have hfits : p.payload.length ≤ c.recvBuffer.freeSpace := by omega
      obtain ⟨hwn, hwb⟩ := RingBuffer.write_bytes hfits
      rw [if_neg hpf, if_pos (by rw [hsize]; exact hfits), htake]
      simp only
      rw [if_neg (by rw [hwn]; omega)]
      -- the room that is left is enough for the rest
      have hroom' : (stream rest).length ≤ (c.recvBuffer.write p.payload).2.freeSpace := by
        have hcap : (c.recvBuffer.write p.payload).2.capacity = c.recvBuffer.capacity :=
          RingBuffer.capacity_write ..
        have h₁ := c.recvBuffer.size_add_freeSpace
        have h₂ := (c.recvBuffer.write p.payload).2.size_add_freeSpace
        rw [hwb, List.length_append, hcap] at h₂
        omega
      obtain ⟨b, hb, hbytes, hcap⟩ := ih (fun q hq => hreg q (by simp [hq]))
        (fun q hq => hsync q (by simp [hq])) hlast'
        (c := { c with recvBuffer := (c.recvBuffer.write p.payload).2 }) hroom'
      refine ⟨b, ?_, ?_, hcap.trans (RingBuffer.capacity_write ..)⟩
      · rw [hb]
        simp [hpf']
      · rw [hbytes, hwb, List.append_assoc, stream_cons]

end TcpController

end NetStack
