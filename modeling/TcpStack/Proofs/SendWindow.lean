import TcpStack.Lib.Run
import TcpStack.Lib.Tiling
import TcpStack.Model.SendWindow

/-!
# TcpStack — the send window against a history of packets

Over its life a send window registers a list of packets, `hist`. Their sequence numbers
tile the sequence space from 0 on, and the window's queue is what is left of `hist` once the
first `una` packets are acknowledged (`SendWindow.Holds`).

* **`Holds.sendPacket`** — registering the packet that continues `hist`.
* **`Holds.newAckedPacket`** — an acknowledgement of a packet boundary pops exactly the
  packets before it. The end of `hist` may be `2^32` itself, whose sequence number is 0.
* **`newAckedPacket_suffix`** — whatever the acknowledgement, the queue only loses packets at
  its front.
* **`popAcked_splits`** / **`newAckedPacket_of_popped`** — what the loop of `NewAckedPacket` does
  if it succeeds, and when it does.
-/

namespace NetStack

open Tiling Transition

/-! ## Packets as segments -/

/-- A packet takes `payload_size` sequence numbers. The offset of a packet in a history is
its sequence number before it is cut to 32 bits. -/
instance : Segment Packet := ⟨fun p => p.payloadSize.toNat⟩

theorem Packet.ofNat_len (p : Packet) : UInt32.ofNat (len p) = p.payloadSize :=
  UInt32.ofNat_toNat

/-- A history of packets that tile the sequence space from 0 on. -/
structure Tiled (hist : List Packet) : Prop where
  seq : ∀ {i p}, hist[i]? = some p → p.tcpHeader.seqNum = UInt32.ofNat (offset hist i)
  pos : ∀ p ∈ hist, 0 < len p

/-- Copying a packet gives the same packet: it has no payload, or as much as it says. -/
def Packet.Copyable (p : Packet) : Prop :=
  p.payload = [] ∨ (p.payload.length = len p ∧ 0 < len p ∧ len p < 2 ^ 31)

theorem Packet.Copyable.copy_eq {p : Packet} (h : p.Copyable) : p.copy = p := by
  unfold Packet.copy Packet.injectPayload
  rcases h with h | ⟨hlen, hpos, hlt⟩
  · rw [if_pos (Or.inl h)]
    cases p
    subst h
    rfl
  · have hint : p.payloadSize.toInt32 = Int32.ofNat (len p) := by
      rw [← UInt32.toInt32_ofNat', Packet.ofNat_len]
    have hne : ¬ (p.payload = [] ∨ p.payloadSize.toInt32 ≤ 0) := by
      rintro (hnil | hle)
      · simp only [hnil, List.length_nil] at hlen
        omega
      · rw [Int32.le_iff_toInt_le, hint, Int32.toInt_ofNat_of_lt hlt] at hle
        simp only [Int32.toInt_zero] at hle
        omega
    rw [if_neg hne]
    have hclamp : p.payloadSize.toInt32.toNatClampNeg = len p := by
      rw [hint, Int32.toNatClampNeg_ofNat_of_lt hlt]
    simp only [hclamp, ← hlen, List.take_length, UInt32.toUInt32_toInt32]

variable [HyLib]

/-! ## Any window, any acknowledgement -/

namespace SendWindow

/-- `SendPacket` refuses and changes nothing, or enqueues. -/
theorem sendPacket_cases {w w' : SendWindow} {clock : ℕ} {p : Packet} {sent : Bool}
    (h : w.sendPacket clock p = .ok (sent, w')) :
    (sent = false ∧ w' = w) ∨ (sent = true ∧ w' = w.enqueue clock p) := by
  unfold sendPacket at h
  split at h
  · cases h
    exact Or.inl ⟨rfl, rfl⟩
  · split at h
    · split at h
      · cases h
        exact Or.inl ⟨rfl, rfl⟩
      · cases h
        exact Or.inr ⟨rfl, rfl⟩
    · simp only at h
      split at h
      · cases h
      · split at h
        · cases h
          exact Or.inl ⟨rfl, rfl⟩
        · cases h
          exact Or.inr ⟨rfl, rfl⟩

/-- What the loop pops, it pops from the front of the queue and takes from the size; where it
stops, it leaves the sequence number of the packet behind. Induction on the queue. -/
theorem popAcked_splits {clock : ℕ} {sendBase ackNum : UInt32} {ov : Bool}
    {nodes : List SendWindowNode} {l l' : AckLoop}
    (h : popAcked clock sendBase ackNum ov nodes l = .ok l') :
    ∃ front, nodes = front ++ l'.pktsToAck ∧
      l'.size = l.size - UInt32.ofNat ((front.map fun node => len node.pkt).sum) ∧
      ∀ node ∈ l'.pktsToAck.head?, l'.crtSeqNum = node.pkt.tcpHeader.seqNum := by
  induction nodes generalizing l with
  | nil =>
    cases h
    exact ⟨[], rfl, by simp, by simp⟩
  | cons node rest ih =>
    rw [popAcked] at h
    split at h
    · split at h
      · obtain ⟨front, hqueue, hsize, hhead⟩ := ih h
        refine ⟨node :: front, by rw [List.cons_append, ← hqueue], ?_, hhead⟩
        rw [hsize, List.map_cons, List.sum_cons, UInt32.ofNat_add, Packet.ofNat_len]
        grind
      · cases h
    · cases h
      refine ⟨[], rfl, by simp, ?_⟩
      rintro _ ⟨⟩
      rfl

/-- **The three branches of `NewAckedPacket`**: a number that moves the send base, a repeated
one, and one that is ignored. -/
theorem newAckedPacket_cases {w w' : SendWindow} {g g' : Globals} {ackNum : UInt32}
    {res : AckResult} (h : w.newAckedPacket g ackNum = .ok (res, w', g')) :
    (w.ackAdvances ackNum = true ∧ ∃ l, popAcked g.clock w.sendBase ackNum (w.ackOverflow ackNum)
        w.pktsToAck { pktsToAck := w.pktsToAck, size := w.size } = .ok l ∧
      ackNum = (if l.pktsToAck = [] then l.crtSeqNum + l.crtPktLength else l.crtSeqNum) ∧
      res = ⟨true, false, false, if !w.hasRetransmittedPkt then l.rtt else some 0⟩ ∧
      w' = { w with
        pktsToAck := l.pktsToAck, size := l.size, sendBase := ackNum, lastAckedNum := ackNum
        duplicatedAcks := 0
        hasRetransmittedPkt := if l.pktsToAck = [] then false else w.hasRetransmittedPkt } ∧
      g' = { g with maxDuplicatedAcks := kMaxDuplicatedAcksOrigin }) ∨
    (w.ackAdvances ackNum = false ∧ ackNum = w.sendBase ∧
      (w.duplicatedAcks + 1 ≥ g.maxDuplicatedAcks ∧ res = ⟨false, true, true, some 0⟩ ∧
          w' = { w with duplicatedAcks := 0 } ∧
          g' = { g with
            maxDuplicatedAcks := UInt32.ofNat (g.maxDuplicatedAcks.toNat * 3 / 2) } ∨
        ¬ w.duplicatedAcks + 1 ≥ g.maxDuplicatedAcks ∧ res = ⟨false, true, false, some 0⟩ ∧
          w' = { w with duplicatedAcks := w.duplicatedAcks + 1 } ∧ g' = g)) ∨
    (w.ackAdvances ackNum = false ∧ ackNum ≠ w.sendBase ∧ res = ⟨false, false, false, some 0⟩ ∧
      w' = w ∧ g' = g) := by
  unfold newAckedPacket at h
  split at h
  · next hadv =>
    obtain ⟨l, hl, hrest⟩ := bind_eq_ok.mp h
    replace hrest : (if ackNum ≠ _ then _ else _) = _ := hrest
    by_cases hexp : ackNum =
        if l.pktsToAck = [] then l.crtSeqNum + l.crtPktLength else l.crtSeqNum
    · rw [if_neg (not_not.mpr hexp)] at hrest
      cases hrest
      exact Or.inl ⟨hadv, l, hl, hexp, rfl, rfl, rfl⟩
    · rw [if_pos hexp] at hrest
      cases hrest
  · next hadv =>
    simp only [Bool.not_eq_true] at hadv
    split at h
    · next hdup =>
      simp only at h
      split at h
      · next hmax =>
        cases h
        exact Or.inr (Or.inl ⟨hadv, hdup, Or.inl ⟨hmax, rfl, rfl, rfl⟩⟩)
      · next hmax =>
        cases h
        exact Or.inr (Or.inl ⟨hadv, hdup, Or.inr ⟨hmax, rfl, rfl, rfl⟩⟩)
    · next hne =>
      cases h
      exact Or.inr (Or.inr ⟨hadv, hne, rfl, rfl, rfl⟩)

/-- **Whatever is acknowledged, the queue only loses packets at its front**, and the capacity
stays. -/
theorem newAckedPacket_suffix {w w' : SendWindow} {g g' : Globals} {ackNum : UInt32}
    {res : AckResult} (h : w.newAckedPacket g ackNum = .ok (res, w', g')) :
    w'.pktsToAck <:+ w.pktsToAck ∧ w'.capacity = w.capacity := by
  rcases newAckedPacket_cases h with ⟨-, l, hl, -, -, rfl, -⟩ |
    ⟨-, -, ⟨-, -, rfl, -⟩ | ⟨-, -, rfl, -⟩⟩ | ⟨-, -, -, rfl, -⟩
  · obtain ⟨front, hqueue, -, -⟩ := popAcked_splits hl
    exact ⟨⟨front, hqueue.symm⟩, rfl⟩
  · exact ⟨List.suffix_refl _, rfl⟩
  · exact ⟨List.suffix_refl _, rfl⟩
  · exact ⟨List.suffix_refl _, rfl⟩

/-- An acknowledgement that moves the send base, and not to a packet of the queue, empties the
queue. -/
theorem newAckedPacket_nil {w w' : SendWindow} {g g' : Globals} {ackNum : UInt32}
    {res : AckResult} (h : w.newAckedPacket g ackNum = .ok (res, w', g'))
    (hadv : w.ackAdvances ackNum = true)
    (hno : ∀ node ∈ w.pktsToAck, node.pkt.tcpHeader.seqNum ≠ ackNum) : w'.pktsToAck = [] := by
  rcases newAckedPacket_cases h with ⟨-, l, hl, hexp, -, rfl, -⟩ | ⟨hno', -⟩ | ⟨hno', -⟩
  · obtain ⟨front, hqueue, -, hhead⟩ := popAcked_splits hl
    by_contra hne
    -- something is left, so the number is that of its first packet
    obtain ⟨node, rest, heq⟩ := List.exists_cons_of_ne_nil hne
    have heq' : l.pktsToAck = node :: rest := heq
    have hmem : node ∈ w.pktsToAck := by rw [hqueue, heq']; simp
    rw [if_neg hne, hhead node (by rw [heq']; rfl)] at hexp
    exact hno node hmem hexp.symm
  · simp [hadv] at hno'
  · simp [hadv] at hno'

end SendWindow

/-! ## What the window holds -/

/-- The window's queue is `hist` without its first `una` packets. -/
structure SendWindow.Holds (w : SendWindow) (hist : List Packet) (una : ℕ) : Prop where
  queue : w.pktsToAck.map (·.pkt) = hist.drop una
  base : w.sendBase = UInt32.ofNat (offset hist una)
  size : w.size = UInt32.ofNat (offset hist hist.length - offset hist una)
  una_le : una ≤ hist.length

namespace SendWindow

variable {w : SendWindow} {hist : List Packet} {una : ℕ}

theorem Holds.nextSeqNumberToSend (h : w.Holds hist una) :
    w.nextSeqNumberToSend = UInt32.ofNat (offset hist hist.length) := by
  rw [SendWindow.nextSeqNumberToSend, h.base, h.size, ← UInt32.ofNat_add,
    Nat.add_sub_cancel' (offset_mono _ h.una_le)]

/-- The queue is empty exactly when everything is acknowledged. -/
theorem Holds.queue_eq_nil_iff (h : w.Holds hist una) :
    w.pktsToAck = [] ↔ una = hist.length := by
  rw [← List.map_eq_nil_iff (f := (·.pkt)), h.queue, List.drop_eq_nil_iff]
  have := h.una_le
  omega

/-- The front of the queue is the oldest unacknowledged packet. -/
theorem Holds.head (h : w.Holds hist una) {node : SendWindowNode} {rest : List SendWindowNode}
    (hq : w.pktsToAck = node :: rest) : hist[una]? = some node.pkt := by
  have hqueue := h.queue
  rw [hq, List.map_cons] at hqueue
  rw [← List.head?_drop, ← hqueue, List.head?_cons]

theorem Holds.setCapacity (h : w.Holds hist una) (capacity : UInt32) :
    (w.setCapacity capacity).Holds hist una :=
  ⟨h.queue, h.base, h.size, h.una_le⟩

/-- The last packet of the queue ends where the next one is to start. -/
theorem Holds.getLast?_end (h : w.Holds hist una) (ht : Tiled hist) {last : SendWindowNode}
    (hlast : w.pktsToAck.getLast? = some last) :
    last.pkt.tcpHeader.seqNum + last.pkt.payloadSize = w.sendBase + w.size := by
  have hne : w.pktsToAck ≠ [] := by
    rintro hnil
    simp [hnil] at hlast
  have hlt : una < hist.length := by
    have := (not_congr h.queue_eq_nil_iff).mp hne
    have := h.una_le
    omega
  have hget : hist[hist.length - 1]? = some last.pkt := by
    have := congrArg List.getLast? h.queue
    rw [List.getLast?_map, hlast, List.getLast?_drop, if_neg (by omega)] at this
    rw [← List.getLast?_eq_getElem?, ← this, Option.map_some]
  have hend : offset hist hist.length = offset hist (hist.length - 1) + len last.pkt := by
    rw [← offset_succ hget, Nat.sub_add_cancel (by omega)]
  calc last.pkt.tcpHeader.seqNum + last.pkt.payloadSize
      = UInt32.ofNat (offset hist (hist.length - 1)) + UInt32.ofNat (len last.pkt) := by
        rw [ht.seq hget, Packet.ofNat_len]
    _ = w.nextSeqNumberToSend := by rw [h.nextSeqNumberToSend, hend, UInt32.ofNat_add]

/-- Registering the packet that continues the history. The window may refuse it only for
lack of room. -/
theorem Holds.sendPacket (h : w.Holds hist una) (ht : Tiled hist) (clock : ℕ) {p : Packet}
    (hseq : p.tcpHeader.seqNum = w.nextSeqNumberToSend)
    (hroom : ¬ (w.freeSpace < p.payloadSize ∧ w.capacity > 0)) :
    w.sendPacket clock p = .ok (true, w.enqueue clock p) := by
  unfold SendWindow.sendPacket
  rw [if_neg hroom]
  split
  · next hnil =>
    have hq := List.getLast?_eq_none_iff.mp hnil
    have huna := h.queue_eq_nil_iff.mp hq
    have hbase : p.tcpHeader.seqNum = w.sendBase := by
      rw [hseq, h.nextSeqNumberToSend, h.base, huna]
    rw [if_neg (not_not.mpr hbase)]
  · next last hlast =>
    have hend := h.getLast?_end ht hlast
    have hnext : p.tcpHeader.seqNum = last.pkt.tcpHeader.seqNum + last.pkt.payloadSize := by
      rw [hseq, hend, SendWindow.nextSeqNumberToSend]
    simp only
    rw [if_neg (not_not.mpr hend), if_neg (not_not.mpr hnext)]

/-- The window after registering a packet holds the longer history. -/
theorem Holds.enqueue (h : w.Holds hist una) (clock : ℕ) (p : Packet) :
    (w.enqueue clock p).Holds (hist ++ [p]) una := by
  have hmono : offset hist una ≤ offset hist hist.length := offset_mono _ h.una_le
  refine ⟨?_, ?_, ?_, ?_⟩
  · simp only [SendWindow.enqueue, List.map_append, h.queue, List.map_cons, List.map_nil]
    rw [List.drop_append_of_le_length h.una_le]
  · rw [SendWindow.enqueue, h.base, offset_append _ h.una_le]
  · rw [SendWindow.enqueue, h.size, offset_concat, offset_append _ h.una_le,
      Nat.sub_add_comm hmono, UInt32.ofNat_add, Packet.ofNat_len]
  · have := h.una_le
    simp only [List.length_append, List.length_singleton]
    omega

end SendWindow

omit [HyLib] in
/-- A history that continues with a further packet is still a tiling. -/
theorem Tiled.concat {hist : List Packet} (ht : Tiled hist) {p : Packet}
    (hseq : p.tcpHeader.seqNum = UInt32.ofNat (offset hist hist.length)) (hpos : 0 < len p) :
    Tiled (hist ++ [p]) := by
  refine ⟨fun {i q} hq => ?_, fun q hq => ?_⟩
  · rcases Nat.lt_or_ge i hist.length with hi | hi
    · rw [List.getElem?_append_left hi] at hq
      rw [ht.seq hq, offset_append _ hi.le]
    · rw [List.getElem?_append_right hi] at hq
      obtain ⟨hlt, heq⟩ := List.getElem?_eq_some_iff.mp hq
      simp only [List.length_singleton, Nat.lt_one_iff] at hlt
      have hi' : i = hist.length := by omega
      simp only [List.getElem_singleton] at heq
      rw [← heq, hseq, hi', offset_append _ le_rfl]
  · rcases List.mem_append.mp hq with hq | hq
    · exact ht.pos q hq
    · rw [List.mem_singleton.mp hq]
      exact hpos

/-! ## Acknowledgements -/

namespace SendWindow

variable {w : SendWindow} {hist : List Packet} {una : ℕ}

/-- The first test of the loop: the packet starts before the acknowledgement number. -/
def StartsAcked (sendBase ackNum : UInt32) (ov : Bool) (p : Packet) : Prop :=
  p.tcpHeader.seqNum < ackNum ∨ (ov ∧ p.tcpHeader.seqNum ≥ sendBase)

/-- The second one: it ends there at the latest. -/
def EndsAcked (ackNum : UInt32) (ov : Bool) (p : Packet) : Prop :=
  p.tcpHeader.seqNum + p.payloadSize ≤ ackNum ∨
    (ov ∧ p.tcpHeader.seqNum + p.payloadSize > ackNum)

/-- The loop pops the packets of `front` if they pass both tests, and stops at one that does not
pass the first. Induction on `front`, for any values of the loop's variables. -/
theorem popAcked_append (clock : ℕ) {sendBase ackNum : UInt32} {ov : Bool}
    {front back : List SendWindowNode}
    (hpop : ∀ node ∈ front, StartsAcked sendBase ackNum ov node.pkt ∧ EndsAcked ackNum ov node.pkt)
    (hstop : ∀ node ∈ back.head?, ¬ StartsAcked sendBase ackNum ov node.pkt) (l : AckLoop) :
    ∃ l', popAcked clock sendBase ackNum ov (front ++ back) l = .ok l' ∧ l'.pktsToAck = back ∧
      l'.size = l.size - UInt32.ofNat ((front.map fun node => len node.pkt).sum) ∧
      (∀ node ∈ back.head?, l'.crtSeqNum = node.pkt.tcpHeader.seqNum) ∧
      (back = [] → l'.crtSeqNum + l'.crtPktLength =
        (front.getLast?.map fun node => node.pkt.tcpHeader.seqNum + node.pkt.payloadSize).getD
          (l.crtSeqNum + l.crtPktLength)) := by
  induction front generalizing l with
  | nil =>
    cases back with
    | nil => exact ⟨_, rfl, rfl, by simp, by simp, by simp⟩
    | cons node rest =>
      refine ⟨_, by rw [List.nil_append, popAcked]; exact if_neg (hstop node rfl), rfl, by simp,
        ?_, by simp⟩
      rintro _ ⟨⟩
      rfl
  | cons node rest ih =>
    obtain ⟨hstart, hend⟩ := hpop node (List.mem_cons_self ..)
    obtain ⟨l', hl', hqueue, hsize, hhead, hlast⟩ := ih
      (fun node' hmem => hpop node' (List.mem_cons_of_mem _ hmem))
      { pktsToAck := rest ++ back, size := l.size - node.pkt.payloadSize,
        crtSeqNum := node.pkt.tcpHeader.seqNum, crtPktLength := node.pkt.payloadSize,
        rtt := some (node.rttWatch.pause clock).elapsedTime }
    refine ⟨l', ?_, hqueue, ?_, hhead, fun hback => ?_⟩
    · rw [List.cons_append, popAcked]
      exact (if_pos hstart).trans ((if_pos hend).trans hl')
    · rw [hsize, List.map_cons, List.sum_cons, UInt32.ofNat_add, Packet.ofNat_len]
      grind
    · rw [hlast hback, List.getLast?_cons, Option.map_some, Option.getD_some]
      cases rest.getLast? with
      | none => rfl
      | some last => rfl

/-- **An acknowledgement of the packets before index `k`**: they pass the tests, the packet at `k`
does not, and the number is where that packet starts, or where the last one ends. -/
theorem newAckedPacket_of_popped (g : Globals) {ackNum : UInt32}
    (hadv : w.ackAdvances ackNum = true) {k : ℕ} (hk : 0 < k) (hlen : k ≤ w.pktsToAck.length)
    (hpop : ∀ i p, i < k → (w.pktsToAck.map (·.pkt))[i]? = some p →
      StartsAcked w.sendBase ackNum (w.ackOverflow ackNum) p ∧
        EndsAcked ackNum (w.ackOverflow ackNum) p)
    (hstop : ∀ p, (w.pktsToAck.map (·.pkt))[k]? = some p →
      ¬ StartsAcked w.sendBase ackNum (w.ackOverflow ackNum) p ∧ p.tcpHeader.seqNum = ackNum)
    (hlast : k = w.pktsToAck.length → ∀ p, (w.pktsToAck.map (·.pkt))[k - 1]? = some p →
      p.tcpHeader.seqNum + p.payloadSize = ackNum) :
    ∃ rtt, w.newAckedPacket g ackNum = .ok (⟨true, false, false, rtt⟩,
      { w with
        pktsToAck := w.pktsToAck.drop k
        size := w.size - UInt32.ofNat (offset (w.pktsToAck.map (·.pkt)) k)
        sendBase := ackNum
        lastAckedNum := ackNum
        duplicatedAcks := 0
        hasRetransmittedPkt := if w.pktsToAck.drop k = [] then false else w.hasRetransmittedPkt },
      { g with maxDuplicatedAcks := kMaxDuplicatedAcksOrigin }) := by
  have hfront : ∀ node ∈ w.pktsToAck.take k,
      StartsAcked w.sendBase ackNum (w.ackOverflow ackNum) node.pkt ∧
        EndsAcked ackNum (w.ackOverflow ackNum) node.pkt := by
    intro node hmem
    obtain ⟨i, hi⟩ := List.mem_iff_getElem?.mp hmem
    rw [List.getElem?_take] at hi
    split at hi
    · next hik =>
      exact hpop i node.pkt hik (by rw [List.getElem?_map, hi]; rfl)
    · cases hi
  have hback : ∀ node ∈ (w.pktsToAck.drop k).head?,
      (w.pktsToAck.map (·.pkt))[k]? = some node.pkt := by
    intro node hmem
    rw [List.head?_drop] at hmem
    rw [List.getElem?_map, hmem]
    rfl
  obtain ⟨l, hl, hqueue, hsize, hhead, hend⟩ := popAcked_append g.clock hfront
    (fun node hmem => (hstop node.pkt (hback node hmem)).1)
    { pktsToAck := w.pktsToAck, size := w.size }
  rw [List.take_append_drop] at hl
  -- the check behind the loop
  have hexp : ackNum = if l.pktsToAck = [] then l.crtSeqNum + l.crtPktLength else l.crtSeqNum := by
    rw [hqueue]
    split
    · next hnil =>
      have hall : k = w.pktsToAck.length := le_antisymm hlen (List.drop_eq_nil_iff.mp hnil)
      rw [hend hnil, hall, List.take_length, List.getLast?_eq_getElem?]
      have hlt : w.pktsToAck.length - 1 < w.pktsToAck.length := by omega
      rw [List.getElem?_eq_getElem hlt]
      refine (hlast hall _ ?_).symm
      rw [List.getElem?_map, hall, List.getElem?_eq_getElem hlt]
      rfl
    · next hne =>
      obtain ⟨node, rest, heq⟩ := List.exists_cons_of_ne_nil hne
      have hnode : node ∈ (w.pktsToAck.drop k).head? := by rw [heq]; rfl
      rw [hhead node hnode]
      exact (hstop node.pkt (hback node hnode)).2.symm
  have hsum : offset (w.pktsToAck.map (·.pkt)) k =
      ((w.pktsToAck.take k).map fun node => len node.pkt).sum := by
    rw [offset, ← List.map_take, List.map_map]
    rfl
  refine ⟨if !w.hasRetransmittedPkt then l.rtt else some 0, ?_⟩
  unfold SendWindow.newAckedPacket
  rw [if_pos hadv, hl]
  show (if ackNum ≠ _ then _ else _) = _
  rw [if_neg (not_not.mpr hexp), hqueue, hsize, hsum]

omit [HyLib] in
/-- The boundary `2^32` has the sequence number 0. -/
theorem ofNat_eq_zero_of_full {n : ℕ} (h : n = 2 ^ 32) : UInt32.ofNat n = 0 := by
  rw [h]
  rfl

/-- How a boundary beyond the send base looks to `NewAckedPacket`: it is larger than the send
base, or it is the boundary `2^32` and taken for an overflow. -/
theorem Holds.ack_cases (h : w.Holds hist una) (ht : Tiled hist) {j : ℕ} (hlt : una < j)
    (hj : j ≤ hist.length) (hend : offset hist hist.length ≤ 2 ^ 32)
    (hwrap : una = 0 → offset hist j < 2 ^ 32) :
    (offset hist j < 2 ^ 32 ∧ w.sendBase < UInt32.ofNat (offset hist j) ∧
        w.ackOverflow (UInt32.ofNat (offset hist j)) = false) ∨
      (offset hist j = 2 ^ 32 ∧ w.ackOverflow (UInt32.ofNat (offset hist j)) = true) := by
  have hoff : offset hist una < offset hist j := offset_lt ht.pos hlt hj
  have hjend : offset hist j ≤ offset hist hist.length := offset_mono _ hj
  rcases Nat.lt_or_ge (offset hist j) (2 ^ 32) with hfit | hfull
  · refine Or.inl ⟨hfit, ?_, ?_⟩
    · rw [h.base, UInt32.ofNat_lt_iff_lt (by simp only [UInt32.size]; omega) hfit]
      exact hoff
    · rw [ackOverflow, h.base, Bool.and_eq_false_iff]
      left
      rw [decide_eq_false_iff_not, UInt32.ofNat_lt_iff_lt hfit (by simp only [UInt32.size]; omega)]
      omega
  · -- the acknowledgement number is 0, which is behind every send base
    have hj32 : offset hist j = 2 ^ 32 := by omega
    refine Or.inr ⟨hj32, ?_⟩
    have hpos : una ≠ 0 := fun h0 => absurd (hwrap h0) (by omega)
    have hbase := le_offset ht.pos h.una_le
    have hbehind : (0 : UInt32) < w.sendBase := by
      rw [h.base, UInt32.lt_iff_toNat_lt, UInt32.toNat_ofNat_of_lt' (by simp only [UInt32.size]; omega)]
      simp only [UInt32.toNat_zero]
      omega
    rw [ofNat_eq_zero_of_full hj32, ackOverflow]
    simp [hbehind]

/-- Every packet before the boundary passes both tests. -/
theorem Holds.popped (h : w.Holds hist una) (ht : Tiled hist) {j : ℕ} (hlt : una < j)
    (hj : j ≤ hist.length) (hend : offset hist hist.length ≤ 2 ^ 32)
    (hwrap : una = 0 → offset hist j < 2 ^ 32) {i : ℕ} {p : Packet} (hui : una ≤ i) (hij : i < j)
    (hget : hist[i]? = some p) :
    StartsAcked w.sendBase (UInt32.ofNat (offset hist j))
        (w.ackOverflow (UInt32.ofNat (offset hist j))) p ∧
      EndsAcked (UInt32.ofNat (offset hist j)) (w.ackOverflow (UInt32.ofNat (offset hist j))) p := by
  have hoff : offset hist (i + 1) = offset hist i + len p := offset_succ hget
  have hnext : p.tcpHeader.seqNum + p.payloadSize = UInt32.ofNat (offset hist (i + 1)) := by
    rw [ht.seq hget, ← Packet.ofNat_len, ← UInt32.ofNat_add, hoff]
  have hij' : offset hist i < offset hist j := offset_lt ht.pos hij hj
  have hij'' : offset hist (i + 1) ≤ offset hist j := offset_mono _ hij
  have hui' : offset hist una ≤ offset hist i := offset_mono _ hui
  rw [StartsAcked, EndsAcked, hnext, ht.seq hget]
  rcases h.ack_cases ht hlt hj hend hwrap with ⟨hfit, -, hov⟩ | ⟨hfull, hov⟩
  · rw [UInt32.ofNat_lt_iff_lt (by simp only [UInt32.size]; omega) hfit,
      UInt32.ofNat_le_iff_le (by simp only [UInt32.size]; omega) hfit]
    exact ⟨Or.inl hij', Or.inl hij''⟩
  · rw [hov]
    refine ⟨Or.inr ⟨rfl, ?_⟩, ?_⟩
    · rw [h.base, ge_iff_le, UInt32.ofNat_le_iff_le (by simp only [UInt32.size]; omega)
        (by simp only [UInt32.size]; omega)]
      exact hui'
    · -- the last packet ends at 0, every other one before the overflow
      rw [ofNat_eq_zero_of_full hfull]
      rcases Nat.lt_or_ge (offset hist (i + 1)) (2 ^ 32) with hlt' | hge
      · refine Or.inr ⟨rfl, ?_⟩
        have hpos := le_offset ht.pos (show i + 1 ≤ hist.length by omega)
        rw [gt_iff_lt, UInt32.lt_iff_toNat_lt, UInt32.toNat_ofNat_of_lt' hlt', UInt32.toNat_zero]
        omega
      · rw [ofNat_eq_zero_of_full (show offset hist (i + 1) = 2 ^ 32 by omega)]
        exact Or.inl UInt32.zero_le

/-- The packet at the boundary does not. -/
theorem Holds.not_startsAcked (h : w.Holds hist una) (ht : Tiled hist) {j : ℕ} (hlt : una < j)
    (hj : j ≤ hist.length) (hend : offset hist hist.length ≤ 2 ^ 32)
    (hwrap : una = 0 → offset hist j < 2 ^ 32) {p : Packet} (hget : hist[j]? = some p) :
    ¬ StartsAcked w.sendBase (UInt32.ofNat (offset hist j))
      (w.ackOverflow (UInt32.ofNat (offset hist j))) p := by
  have hjlt : j < hist.length := (List.getElem?_eq_some_iff.mp hget).1
  have hjend : offset hist j < offset hist hist.length := offset_lt ht.pos hjlt le_rfl
  rcases h.ack_cases ht hlt hj hend hwrap with ⟨-, -, hov⟩ | ⟨hfull, -⟩
  · rw [StartsAcked, hov, ht.seq hget]
    simp
  · omega

/-- **An acknowledgement of boundary `j` leaves the packets from `j` on.** The one boundary
that does not fit in 32 bits is the end of a history of exactly `2^32` sequence numbers. -/
theorem Holds.newAckedPacket (h : w.Holds hist una) (ht : Tiled hist) (g : Globals) {j : ℕ}
    (huj : una ≤ j) (hj : j ≤ hist.length) (hend : offset hist hist.length ≤ 2 ^ 32)
    (hwrap : una = 0 → offset hist j < 2 ^ 32) :
    ∃ res w' g', w.newAckedPacket g (UInt32.ofNat (offset hist j)) = .ok (res, w', g') ∧
      w'.Holds hist j ∧ w'.capacity = w.capacity := by
  rcases Nat.eq_or_lt_of_le huj with rfl | hlt
  · -- a repeated acknowledgement
    have hadv : w.ackAdvances (UInt32.ofNat (offset hist una)) = false := by
      simp [ackAdvances, ackOverflow, h.base]
    unfold SendWindow.newAckedPacket
    simp only [hadv, Bool.false_eq_true, if_false, h.base, if_true]
    split
    · exact ⟨_, _, _, rfl, ⟨h.queue, rfl, h.size, h.una_le⟩, rfl⟩
    · exact ⟨_, _, _, rfl, ⟨h.queue, rfl, h.size, h.una_le⟩, rfl⟩
  · have hadv : w.ackAdvances (UInt32.ofNat (offset hist j)) = true := by
      rcases h.ack_cases ht hlt hj hend hwrap with ⟨-, hlt', -⟩ | ⟨-, hov⟩
      · simp [ackAdvances, hlt']
      · simp [ackAdvances, hov]
    have hlen : w.pktsToAck.length = hist.length - una := by
      rw [← List.length_map (·.pkt), h.queue, List.length_drop]
    -- packet `i` of the queue is packet `una + i` of the history
    obtain ⟨rtt, hrun⟩ := newAckedPacket_of_popped g hadv (show 0 < j - una by omega) (by omega)
      (fun i p hi hget => by
        rw [h.queue, List.getElem?_drop] at hget
        exact h.popped ht hlt hj hend hwrap (by omega) (by omega) hget)
      (fun p hget => by
        rw [h.queue, List.getElem?_drop, show una + (j - una) = j by omega] at hget
        exact ⟨h.not_startsAcked ht hlt hj hend hwrap hget, ht.seq hget⟩)
      (fun hall p hget => by
        rw [h.queue, List.getElem?_drop, show una + (j - una - 1) = j - 1 by omega] at hget
        rw [ht.seq hget, ← Packet.ofNat_len, ← UInt32.ofNat_add, ← offset_succ hget,
          show j - 1 + 1 = j by omega])
    refine ⟨_, _, _, hrun, ⟨?_, rfl, ?_, hj⟩, rfl⟩
    · rw [List.map_drop, h.queue, List.drop_drop, show una + (j - una) = j by omega]
    · -- the size goes down by what lies between the two boundaries
      have hsplit := offset_add hist una (j - una)
      rw [show una + (j - una) = j by omega] at hsplit
      have hjend : offset hist j ≤ offset hist hist.length := offset_mono _ hj
      show w.size - _ = _
      rw [h.size, h.queue, ← UInt32.ofNat_sub (by omega)]
      congr 1
      omega

end SendWindow

end NetStack
