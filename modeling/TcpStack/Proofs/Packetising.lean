import TcpStack.Proofs.RefusedFin
import TcpStack.Proofs.Sending

/-!
# TcpStack — from the send buffer to the send window

An iteration of `SendBufferListener` takes bytes out of the send buffer before it asks the send
window for room. This is one controller on its own: its send window is any window that satisfies
its representation invariant.

* **`Packs`** — a controller has moved bytes of its buffer into its window and handed them on for
  transmission, as these packets.
* **`Packs.sendDataPacket`** / **`Packs.sendFullPackets`** — one packet, and the loop over the full
  packets. After each packet the window has room for the rest (`SendWindow.freeSpace_enqueue`).
* **`send_buffer_packetised`** — the whole iteration, and the registration of the FIN.
-/

namespace NetStack

open Tiling Transition

/-- Two queues that follow each other. -/
theorem SendWindow.EndToEnd.append {seqNum : UInt32} {p₁ p₂ : List Packet}
    (h₁ : EndToEnd seqNum p₁)
    (h₂ : EndToEnd (seqNum + UInt32.ofNat ((p₁.map fun p => len p).sum)) p₂) :
    EndToEnd seqNum (p₁ ++ p₂) := by
  induction p₁ generalizing seqNum with
  | nil => simpa using h₂
  | cons p rest ih =>
    refine ⟨h₁.1, ih h₁.2 ?_⟩
    rw [List.map_cons, List.sum_cons, UInt32.ofNat_add, Packet.ofNat_len, ← UInt32.add_assoc] at h₂
    exact h₂

namespace TcpController

variable [HyLib] {c c₁ c' : TcpController} {pkts pkts₁ pkts₂ : List Packet} {clock n : ℕ}

/-! ## Bytes that move -/

/-- The packets `pkts` have left the send buffer of `c` and are registered and handed on in `c'`. -/
structure Packs (c c' : TcpController) (pkts : List Packet) : Prop where
  buffer : c.sendBuffer.bytes = pkts.flatMap (·.payload) ++ c'.sendBuffer.bytes
  queue : c'.sendWindow.packets = c.sendWindow.packets ++ pkts
  sendBase : c'.sendWindow.sendBase = c.sendWindow.sendBase
  size : c'.sendWindow.size = c.sendWindow.size + UInt32.ofNat ((pkts.map fun p => len p).sum)
  seq : SendWindow.EndToEnd c.sendWindow.nextSeqNumberToSend pkts
  payload : ∀ p ∈ pkts, p.payload.length = len p
  transmitted : c'.pktSendBuffer = c.pktSendBuffer ++ pkts

theorem Packs.refl (c : TcpController) : Packs c c [] where
  buffer := rfl
  queue := (List.append_nil _).symm
  sendBase := rfl
  size := by simp
  seq := trivial
  payload := by simp
  transmitted := (List.append_nil _).symm

theorem Packs.next (h : Packs c c' pkts) : c'.sendWindow.nextSeqNumberToSend =
    c.sendWindow.nextSeqNumberToSend + UInt32.ofNat ((pkts.map fun p => len p).sum) := by
  rw [SendWindow.nextSeqNumberToSend, SendWindow.nextSeqNumberToSend, h.sendBase, h.size,
    UInt32.add_assoc]

theorem Packs.trans (h₁ : Packs c c₁ pkts₁) (h₂ : Packs c₁ c' pkts₂) :
    Packs c c' (pkts₁ ++ pkts₂) where
  buffer := by rw [h₁.buffer, h₂.buffer, List.flatMap_append, List.append_assoc]
  queue := by rw [h₂.queue, h₁.queue, List.append_assoc]
  sendBase := h₂.sendBase.trans h₁.sendBase
  size := by
    rw [h₂.size, h₁.size, List.map_append, List.sum_append, UInt32.ofNat_add, UInt32.add_assoc]
  seq := h₁.seq.append (h₁.next ▸ h₂.seq)
  payload := fun p hp => (List.mem_append.mp hp).elim (h₁.payload p) (h₂.payload p)
  transmitted := by rw [h₂.transmitted, h₁.transmitted, List.append_assoc]

/-- The bytes of the packets are the first bytes of the buffer. -/
theorem Packs.take_drop (h : Packs c c' pkts) :
    pkts.flatMap (·.payload) = c.sendBuffer.bytes.take ((pkts.map fun p => len p).sum) ∧
      c'.sendBuffer.bytes = c.sendBuffer.bytes.drop ((pkts.map fun p => len p).sum) := by
  have hlen : (pkts.flatMap (·.payload)).length = (pkts.map fun p => len p).sum := by
    rw [List.length_flatMap]
    exact congrArg List.sum (List.map_congr_left h.payload)
  rw [h.buffer, ← hlen, List.take_left, List.drop_left]
  exact ⟨rfl, rfl⟩

/-! ## One packet and the loop -/

/-- **A packet that fits is taken**, and leaves the room behind it. -/
theorem Packs.sendDataPacket (hv : c.sendWindow.Valid) (hpos : 0 < n) (hn : n ≤ 10)
    (hsize : n ≤ c.sendBuffer.size) (hfree : n ≤ c.sendWindow.freeSpace.toNat) (clock : ℕ)
    (restartTimer : Bool) :
    ∃ c', c.sendDataPacket clock (UInt32.ofNat n) restartTimer = .ok c' ∧
      Packs c c' [c.dataPacket n] ∧ c'.sendWindow.Valid ∧
      c'.sendBuffer.size = c.sendBuffer.size - n ∧
      c'.sendWindow.freeSpace.toNat = c.sendWindow.freeSpace.toNat - n := by
  have hmake := makeDataPacketFromBuffer_eq hpos hn hsize
  have hlen : len (c.dataPacket n) = n := len_dataPacket hn
  have hroom : ¬ (c.sendWindow.freeSpace < (c.dataPacket n).payloadSize ∧
      c.sendWindow.capacity > 0) := by
    rintro ⟨hlt, -⟩
    have hlt' := UInt32.lt_iff_toNat_lt.mp hlt
    have hpkt : (c.dataPacket n).payloadSize.toNat = n := hlen
    omega
  have hsent := hv.sendPacket_next clock (p := c.dataPacket n) rfl hroom
  refine ⟨{ c with
      sendBuffer := (c.sendBuffer.read n).2
      sendWindow := c.sendWindow.enqueue clock (c.dataPacket n)
      timer := if restartTimer then c.timer.restart else c.timer
      pktSendBuffer := c.pktSendBuffer ++ [c.dataPacket n] }, ?_, ?_, hv.sendPacket hsent, ?_, ?_⟩
  · rw [TcpController.sendDataPacket, hmake]
    simp only [hsent, ok_bind, Bool.not_true, Bool.false_eq_true, if_false,
      TcpController.sendPacket, (dataPacket_regular hpos hn hsize).copy_eq]
  · refine ⟨?_, ?_, rfl, ?_, ⟨rfl, trivial⟩, ?_, rfl⟩
    · show c.sendBuffer.bytes = [c.dataPacket n].flatMap _ ++ (c.sendBuffer.read n).2.bytes
      simp [dataPacket]
    · show (c.sendWindow.pktsToAck ++ [_]).map _ = _
      rw [List.map_append]
      rfl
    · show c.sendWindow.size + _ = _
      rw [List.map_singleton, List.sum_singleton, Packet.ofNat_len]
    · intro p hp
      rw [List.mem_singleton.mp hp, hlen]
      exact dataPacket_payload hsize
  · show (c.sendBuffer.read n).2.size = _
    rw [RingBuffer.size_eq, RingBuffer.bytes_read, RingBuffer.size_eq, List.length_drop]
  · show (c.sendWindow.enqueue clock (c.dataPacket n)).freeSpace.toNat = _
    rw [SendWindow.freeSpace_enqueue (by rw [hlen]; exact hfree), hlen]

/-- **The loop over the full packets.** Induction on their number: each of them leaves a valid
window with room for those behind it. -/
theorem Packs.sendFullPackets (clock : ℕ) (numPkts : ℕ) (hv : c.sendWindow.Valid)
    (hsize : 10 * numPkts ≤ c.sendBuffer.size)
    (hfree : 10 * numPkts ≤ c.sendWindow.freeSpace.toNat) :
    ∃ c' pkts, TcpController.sendFullPackets clock numPkts c = .ok c' ∧ Packs c c' pkts ∧
      pkts.map (fun p => len p) = List.replicate numPkts 10 ∧ c'.sendWindow.Valid ∧
      c'.sendBuffer.size = c.sendBuffer.size - 10 * numPkts ∧
      c'.sendWindow.freeSpace.toNat = c.sendWindow.freeSpace.toNat - 10 * numPkts := by
  induction numPkts generalizing c with
  | zero => exact ⟨c, [], rfl, .refl c, rfl, hv, rfl, rfl⟩
  | succ numPkts ih =>
    obtain ⟨c₁, hrun, hpacks, hv₁, hsize₁, hfree₁⟩ := Packs.sendDataPacket hv
      (show 0 < 10 by omega) le_rfl (by omega) (by omega) clock (c.sendWindow.numPacketsToAck == 0)
    obtain ⟨c', pkts, hrest, hpacks', hlens, hv', hsize', hfree'⟩ :=
      ih hv₁ (by rw [hsize₁]; omega) (by rw [hfree₁]; omega)
    refine ⟨c', c.dataPacket 10 :: pkts, ?_, hpacks.trans hpacks', ?_, hv', ?_, ?_⟩
    · rw [TcpController.sendFullPackets]
      show c.sendDataPacket clock (UInt32.ofNat 10) _ >>= _ = _
      rw [hrun, ok_bind]
      exact hrest
    · rw [List.map_cons, hlens, len_dataPacket le_rfl, List.replicate_succ]
    · rw [hsize', hsize₁]
      omega
    · rw [hfree', hfree₁]
      omega

/-- The sizes of the packets that `n` bytes are sent in. -/
def packetSizes (n : ℕ) : List ℕ :=
  List.replicate (n / 10) 10 ++ if n % 10 > 0 then [n % 10] else []

omit [HyLib] in
theorem sum_packetSizes (n : ℕ) : (packetSizes n).sum = n := by
  have hdiv := Nat.div_add_mod n 10
  unfold packetSizes
  split
  · simp only [List.sum_append, List.sum_replicate, List.sum_singleton, smul_eq_mul]
    omega
  · simp only [List.sum_append, List.sum_replicate, List.sum_nil, smul_eq_mul]
    omega

/-- What the window has room for leaves the buffer. -/
theorem Packs.packetise (hv : c.sendWindow.Valid)
    (hn : n = min c.sendWindow.freeSpace.toNat c.sendBuffer.size) (clock : ℕ) :
    ∃ c' pkts, c.packetise clock = .ok c' ∧ Packs c c' pkts ∧
      pkts.map (fun p => len p) = packetSizes n := by
  have hdiv := Nat.div_add_mod n 10
  have hmod : n % 10 < 10 := Nat.mod_lt _ (by omega)
  have hfree : n ≤ c.sendWindow.freeSpace.toNat := hn ▸ Nat.min_le_left ..
  have hsize : n ≤ c.sendBuffer.size := hn ▸ Nat.min_le_right ..
  obtain ⟨c₁, pkts, hrun, hpacks, hlens, hv₁, hsize₁, hfree₁⟩ :=
    Packs.sendFullPackets clock (n / 10) hv (by omega) (by omega)
  have hk : kDefaultDataPacketSize.toNat = 10 := rfl
  unfold TcpController.packetise
  simp only [← hn, hk]
  rw [hrun, ok_bind]
  by_cases hlast : n % 10 > 0
  · -- the rest goes into a shorter packet
    obtain ⟨c', hrun', hpacks', -, -, -⟩ := Packs.sendDataPacket hv₁ hlast (by omega)
      (by rw [hsize₁]; omega) (by rw [hfree₁]; omega) clock (c₁.sendWindow.size == 0)
    rw [if_pos hlast]
    refine ⟨c', _, hrun', hpacks.trans hpacks', ?_⟩
    rw [List.map_append, hlens, List.map_singleton, len_dataPacket (by omega), packetSizes,
      if_pos hlast]
  · rw [if_neg hlast]
    refine ⟨c₁, pkts, rfl, hpacks, ?_⟩
    rw [hlens, packetSizes, if_neg hlast, List.append_nil]

/-- **The body of `SendBufferListener`.** It packs only where the window has room; otherwise there
is nothing to pack. -/
theorem Packs.sendBufferListenerBody (hv : c.sendWindow.Valid)
    (hn : n = min c.sendWindow.freeSpace.toNat c.sendBuffer.size) (clock : ℕ) :
    ∃ c' pkts, c.sendBufferListenerBody clock = .ok c' ∧ Packs c c' pkts ∧
      pkts.map (fun p => len p) = packetSizes n := by
  unfold TcpController.sendBufferListenerBody
  split
  · next hfull =>
    have hzero : c.sendWindow.freeSpace.toNat = 0 := by
      have := UInt32.le_iff_toNat_le.mp hfull.1
      simpa using this
    refine ⟨c, [], rfl, .refl c, ?_⟩
    rw [hn, hzero, Nat.zero_min]
    rfl
  · split
    · next hcap =>
      have hzero : c.sendWindow.freeSpace.toNat = 0 := by
        rw [SendWindow.freeSpace_toNat, hcap, UInt32.toNat_zero, Nat.zero_sub]
      have hpacks (t : Timer) : Packs c { c with proberTimer := t } [] :=
        ⟨rfl, (List.append_nil _).symm, rfl, by simp, trivial, by simp, (List.append_nil _).symm⟩
      refine ⟨_, [], rfl, hpacks _, ?_⟩
      rw [hn, hzero, Nat.zero_min]
      rfl
    · exact Packs.packetise hv hn clock

/-- The FIN is registered behind everything else. -/
theorem sendFINWindow_queue {p : Packet} (h : c.sendFINWindow clock = .ok (p, c')) :
    p = c.makeFinPacket c.sendWindow.nextSeqNumberToSend ∧
      c'.sendWindow.packets = c.sendWindow.packets ++ [p] := by
  obtain ⟨⟨sent, w⟩, hsend, hrest⟩ := bind_eq_ok.mp h
  rcases SendWindow.sendPacket_cases hsend with ⟨rfl, -⟩ | ⟨rfl, rfl⟩
  · cases hrest
  · cases hrest
    refine ⟨rfl, ?_⟩
    show (c.sendWindow.pktsToAck ++ [_]).map _ = _
    rw [List.map_append]
    rfl

end TcpController

/-- **No byte is lost between the send buffer and the send window.** From any valid window and any
buffer whose size is an `int`, an iteration of `SendBufferListener` moves the first
`n = min(free_space, size)` bytes, in full packets and a shorter one, and hands each of them on
once. `SendFIN` registers its FIN. -/
theorem send_buffer_packetised [HyLib] (c : TcpController) (hv : c.sendWindow.Valid) {n : ℕ}
    (hn : n = min c.sendWindow.freeSpace.toNat c.sendBuffer.size)
    (hbuffer : c.sendBuffer.size ≤ 2 ^ 31 - 1) (clock : ℕ) :
    -- `size_to_send` is an `int`
    n ≤ 2 ^ 31 - 1 ∧
    (∃ c' pkts, c.sendBufferListenerBody clock = .ok c' ∧
      pkts.map (fun p => p.payloadSize.toNat) =
        List.replicate (n / 10) 10 ++ (if n % 10 > 0 then [n % 10] else []) ∧
      (∀ p ∈ pkts, p.payload.length = p.payloadSize.toNat) ∧
      SendWindow.EndToEnd c.sendWindow.nextSeqNumberToSend pkts ∧
      pkts.flatMap (·.payload) = c.sendBuffer.bytes.take n ∧
      c'.sendBuffer.bytes = c.sendBuffer.bytes.drop n ∧
      c'.sendWindow.packets = c.sendWindow.packets ++ pkts ∧
      c'.sendWindow.sendBase = c.sendWindow.sendBase ∧
      c'.sendWindow.size = c.sendWindow.size + UInt32.ofNat n ∧
      c'.pktSendBuffer = c.pktSendBuffer ++ pkts) ∧
    ∃ p c', c.sendFINWindow clock = .ok (p, c') ∧ p.tcpHeader.fin = true ∧
      p.tcpHeader.seqNum = c.sendWindow.nextSeqNumberToSend ∧
      c'.sendWindow.packets = c.sendWindow.packets ++ [p] := by
  have hint : n ≤ 2 ^ 31 - 1 := (hn ▸ Nat.min_le_right ..).trans hbuffer
  refine ⟨hint, ?_, ?_⟩
  · obtain ⟨c', pkts, hrun, hpacks, hlens⟩ := TcpController.Packs.sendBufferListenerBody hv hn clock
    have hsum : (pkts.map fun p => len p).sum = n := by
      rw [hlens, TcpController.sum_packetSizes]
    obtain ⟨htake, hdrop⟩ := hpacks.take_drop
    have hsize := hpacks.size
    rw [hsum] at htake hdrop hsize
    exact ⟨c', pkts, hrun, hlens, hpacks.payload, hpacks.seq, htake, hdrop, hpacks.queue,
      hpacks.sendBase, hsize, hpacks.transmitted⟩
  · obtain ⟨p, c', hrun⟩ := TcpController.sendFINWindow_registers hv clock
    obtain ⟨rfl, hqueue⟩ := TcpController.sendFINWindow_queue hrun
    exact ⟨_, c', hrun, rfl, rfl, hqueue⟩

section

open scoped Reference

/-- A controller with 23 bytes to send and a window of 25 bytes that starts 7 before the wrap. -/
def beforeTheWrap : TcpController :=
  { TcpController.new {} TcpController.getDefaultOptions with
    sendBuffer := ((RingBuffer.new 100).write (List.replicate 23 7)).2
    sendWindow := { sendBase := 4294967289, capacity := 25 } }

theorem send_buffer_packetised_beforeTheWrap : ∃ c' pkts,
    beforeTheWrap.sendBufferListenerBody 0 = .ok c' ∧
    pkts.map (fun p => p.payloadSize.toNat) = [10, 10, 3] ∧
    SendWindow.EndToEnd 4294967289 pkts ∧
    pkts.flatMap (·.payload) = List.replicate 23 7 ∧ c'.sendBuffer.bytes = [] ∧
    c'.sendWindow.packets = pkts ∧ c'.pktSendBuffer = pkts := by
  obtain ⟨-, ⟨c', pkts, hrun, hlens, -, hseq, htake, hdrop, hqueue, -, -, hsent⟩, -⟩ :=
    send_buffer_packetised beforeTheWrap (.new _ _) (n := 23) (by decide) (by decide) 0
  exact ⟨c', pkts, hrun, hlens, hseq, htake, hdrop, hqueue, hsent⟩

end

end NetStack
