import TcpStack.Proofs.Acknowledging
import TcpStack.Proofs.Timers

/-!
# TcpStack — the representation invariant of the send window

A send window under any calls of its interface: packets of any content are offered, numbers of
any value are acknowledged, the capacity is set to any value.

* **`SendWindow.Valid`** — the invariant: the queue lies end to end from `send_base` on, modulo
  `2^32`, and `size_` is the size of what is queued.
* **`Valid.apply`** — every call that does not abort keeps it. `NewAckedPacket` overwrites
  `send_base` with the peer's number; the check of the expected number is what saves the
  invariant there.
* **`send_window_representation`** — any sequence of calls.
-/

namespace NetStack

open Tiling Transition

section

variable [HyLib]

namespace SendWindow

/-! ## The calls -/

/-- The calls of a send window. The clock and the globals are whatever they are at the time. -/
inductive Call where
  | sendPacket (clock : ℕ) (newPkt : Packet)
  | newAckedPacket (g : Globals) (ackNum : UInt32)
  | getBasePakcketToReSend
  | setCapacity (capacity : UInt32)
deriving DecidableEq, Repr

/-- The window after a call; what the call returns is dropped. -/
def apply (w : SendWindow) : Call → Except Fatal SendWindow
  | .sendPacket clock newPkt => (w.sendPacket clock newPkt).map Prod.snd
  | .newAckedPacket g ackNum => (w.newAckedPacket g ackNum).map fun r => r.2.1
  | .getBasePakcketToReSend => .ok w.getBasePakcketToReSend.2
  | .setCapacity capacity => .ok (w.setCapacity capacity)

/-! ## The invariant -/

/-- The packets lie end to end from a sequence number on, modulo `2^32`. -/
def EndToEnd : UInt32 → List Packet → Prop
  | _, [] => True
  | seqNum, pkt :: rest =>
    pkt.tcpHeader.seqNum = seqNum ∧ EndToEnd (seqNum + pkt.payloadSize) rest

/-- The sequence number behind the last packet of a queue that starts at `seqNum`. -/
def endOfQueue (seqNum : UInt32) (pkts : List Packet) : UInt32 :=
  match pkts.getLast? with
  | none => seqNum
  | some last => last.tcpHeader.seqNum + last.payloadSize

/-- The representation invariant. -/
structure Valid (w : SendWindow) : Prop where
  endToEnd : EndToEnd w.sendBase w.packets
  size : w.size = queued w.pktsToAck

/-- A queue that lies end to end ends as far behind its start as it is long. -/
theorem EndToEnd.endOfQueue_eq {seqNum : UInt32} {nodes : List SendWindowNode}
    (h : EndToEnd seqNum (nodes.map (·.pkt))) :
    endOfQueue seqNum (nodes.map (·.pkt)) = seqNum + queued nodes := by
  induction nodes generalizing seqNum with
  | nil => simp [endOfQueue, queued]
  | cons node rest ih =>
    obtain ⟨hseq, hrest⟩ := h
    have hend := ih hrest
    rw [queued, ← UInt32.add_assoc, ← hend]
    -- the last packet is that of the rest, unless the rest is empty
    cases hlast : (rest.map (·.pkt)).getLast? with
    | none =>
      rw [List.getLast?_eq_none_iff] at hlast
      simp [endOfQueue, hlast, hseq]
    | some last =>
      simp [endOfQueue, List.getLast?_cons, hlast]

omit [HyLib] in
/-- Another packet at the end of the queue. -/
theorem EndToEnd.concat {seqNum : UInt32} {pkts : List Packet} (h : EndToEnd seqNum pkts)
    {pkt : Packet} (hseq : pkt.tcpHeader.seqNum = endOfQueue seqNum pkts) :
    EndToEnd seqNum (pkts ++ [pkt]) := by
  induction pkts generalizing seqNum with
  | nil => exact ⟨hseq, trivial⟩
  | cons p rest ih =>
    refine ⟨h.1, ih h.2 ?_⟩
    rw [hseq]
    cases hlast : rest.getLast? with
    | none =>
      rw [List.getLast?_eq_none_iff] at hlast
      simp [endOfQueue, hlast, h.1]
    | some last =>
      simp [endOfQueue, List.getLast?_cons, hlast]

omit [HyLib] in
/-- What is left of a queue without its first packets starts where its own first packet does. -/
theorem EndToEnd.of_append {seqNum : UInt32} {front back : List Packet}
    (h : EndToEnd seqNum (front ++ back)) {pkt : Packet} (hhead : pkt ∈ back.head?) :
    EndToEnd pkt.tcpHeader.seqNum back := by
  induction front generalizing seqNum with
  | nil =>
    cases back with
    | nil => cases hhead
    | cons p rest =>
      cases hhead
      exact ⟨rfl, h.1 ▸ h.2⟩
  | cons p rest ih => exact ih h.2

variable {w w' : SendWindow}

theorem Valid.new (sendBase capacity : UInt32) : Valid { sendBase, capacity } := ⟨trivial, rfl⟩

theorem Valid.endOfQueue_eq (h : w.Valid) :
    endOfQueue w.sendBase w.packets = w.nextSeqNumberToSend := by
  rw [packets, EndToEnd.endOfQueue_eq h.endToEnd, ← h.size, nextSeqNumberToSend]

/-- The last packet of the queue ends at `send_base + size`: the `SANITY_CHECK` of `SendPacket`. -/
theorem Valid.last_end (h : w.Valid) {last : SendWindowNode}
    (hlast : w.pktsToAck.getLast? = some last) :
    last.pkt.tcpHeader.seqNum + last.pkt.payloadSize = w.sendBase + w.size := by
  have hend := h.endOfQueue_eq
  rw [endOfQueue, packets, List.getLast?_map, hlast] at hend
  exact hend

/-! ## What the calls do to it -/

/-- `SendPacket` takes a packet only at the end of the queue. -/
theorem sendPacket_seqNum {clock : ℕ} {p : Packet} (hw : w.Valid)
    (h : w.sendPacket clock p = .ok (true, w')) :
    p.tcpHeader.seqNum = w.nextSeqNumberToSend := by
  unfold sendPacket at h
  split at h
  · cases h
  · split at h
    · next hnil =>
      have hsize : w.size = 0 := by
        rw [hw.size, List.getLast?_eq_none_iff.mp hnil]
        rfl
      split at h
      · cases h
      · next hseq => rw [not_not.mp hseq, nextSeqNumberToSend, hsize, UInt32.add_zero]
    · next last hlast =>
      simp only [hw.last_end hlast, ne_eq, not_true_eq_false, if_false] at h
      split at h
      · cases h
      · next hseq => exact not_not.mp hseq

/-- `SendPacket` does not abort. -/
theorem Valid.sendPacket_ok (h : w.Valid) (clock : ℕ) (p : Packet) :
    ∃ r, w.sendPacket clock p = .ok r := by
  unfold sendPacket
  split
  · exact ⟨_, rfl⟩
  · split
    · split
      · exact ⟨_, rfl⟩
      · exact ⟨_, rfl⟩
    · next last hlast =>
      simp only
      rw [if_neg (not_not.mpr (h.last_end hlast))]
      split
      · exact ⟨_, rfl⟩
      · exact ⟨_, rfl⟩

/-- The packet that continues the queue is refused only for lack of room. -/
theorem Valid.sendPacket_next (h : w.Valid) (clock : ℕ) {p : Packet}
    (hseq : p.tcpHeader.seqNum = w.nextSeqNumberToSend)
    (hroom : ¬ (w.freeSpace < p.payloadSize ∧ w.capacity > 0)) :
    w.sendPacket clock p = .ok (true, w.enqueue clock p) := by
  unfold SendWindow.sendPacket
  rw [if_neg hroom]
  split
  · next hnil =>
    have hsize : w.size = 0 := by
      rw [h.size, List.getLast?_eq_none_iff.mp hnil]
      rfl
    rw [nextSeqNumberToSend, hsize, UInt32.add_zero] at hseq
    rw [if_neg (not_not.mpr hseq)]
  · next last hlast =>
    have hend := h.last_end hlast
    simp only
    rw [if_neg (not_not.mpr hend), if_neg]
    rw [hseq, hend, nextSeqNumberToSend]
    exact not_not.mpr rfl

theorem Valid.sendPacket (h : w.Valid) {clock : ℕ} {p : Packet} {sent : Bool}
    (hrun : w.sendPacket clock p = .ok (sent, w')) : w'.Valid := by
  rcases sendPacket_cases hrun with ⟨-, rfl⟩ | ⟨rfl, rfl⟩
  · exact h
  · have hseq : p.tcpHeader.seqNum = endOfQueue w.sendBase w.packets := by
      rw [sendPacket_seqNum h hrun, h.endOfQueue_eq]
    refine ⟨?_, ?_⟩
    · show EndToEnd w.sendBase ((w.pktsToAck ++ [_]).map SendWindowNode.pkt)
      rw [List.map_append]
      exact h.endToEnd.concat hseq
    · show w.size + p.payloadSize = queued (w.pktsToAck ++ [_])
      rw [queued_append, h.size]
      simp [queued]

theorem Valid.newAckedPacket (h : w.Valid) {g g' : Globals} {ackNum : UInt32} {res : AckResult}
    (hrun : w.newAckedPacket g ackNum = .ok (res, w', g')) : w'.Valid := by
  have hsize := newAckedPacket_size hrun h.size
  rcases newAckedPacket_cases hrun with ⟨-, l, hl, hexp, -, rfl, -⟩ |
    ⟨-, -, ⟨-, -, rfl, -⟩ | ⟨-, -, rfl, -⟩⟩ | ⟨-, -, -, rfl, -⟩
  · refine ⟨?_, hsize⟩
    show EndToEnd ackNum (l.pktsToAck.map (·.pkt))
    obtain ⟨front, hqueue, -, hhead⟩ := popAcked_splits hl
    cases hleft : l.pktsToAck with
    | nil => trivial
    | cons node rest =>
      -- something is left, and the check compared the number with where it starts
      have hnode : node ∈ l.pktsToAck.head? := by rw [hleft]; rfl
      have hnum : ackNum = node.pkt.tcpHeader.seqNum := by
        rw [if_neg (by rw [hleft]; exact List.cons_ne_nil _ _), hhead node hnode] at hexp
        exact hexp
      have hend := h.endToEnd
      rw [packets, hqueue, List.map_append, hleft] at hend
      rw [hnum]
      exact hend.of_append rfl
  · exact ⟨h.endToEnd, hsize⟩
  · exact ⟨h.endToEnd, hsize⟩
  · exact h

/-- `GetBasePakcketToReSend` only sets a flag. -/
theorem Valid.getBasePakcketToReSend (h : w.Valid) : w.getBasePakcketToReSend.2.Valid := by
  unfold SendWindow.getBasePakcketToReSend
  split
  · exact h
  · exact ⟨h.endToEnd, h.size⟩

/-- **Every call keeps the invariant.** -/
theorem Valid.apply (h : w.Valid) {call : Call} (hrun : w.apply call = .ok w') : w'.Valid := by
  cases call with
  | sendPacket clock p =>
    obtain ⟨⟨sent, w₁⟩, hsend, rfl⟩ := map_eq_ok.mp hrun
    exact h.sendPacket hsend
  | newAckedPacket g ackNum =>
    obtain ⟨⟨res, w₁, g'⟩, hack, rfl⟩ := map_eq_ok.mp hrun
    exact h.newAckedPacket hack
  | getBasePakcketToReSend =>
    cases hrun
    exact h.getBasePakcketToReSend
  | setCapacity capacity =>
    cases hrun
    exact ⟨h.endToEnd, h.size⟩

/-- The packet to send again is a copy of the one at `send_base`. -/
theorem Valid.base_packet (h : w.Valid) (hne : w.pktsToAck ≠ []) :
    ∃ p, w.packets.head? = some p ∧ p.tcpHeader.seqNum = w.sendBase ∧
      w.getBasePakcketToReSend.1 = some p.copy := by
  cases hq : w.pktsToAck with
  | nil => exact absurd hq hne
  | cons node rest =>
    have hqueue := h.endToEnd
    rw [packets, hq] at hqueue
    exact ⟨node.pkt, by simp [packets, hq], hqueue.1, by
      simp [SendWindow.getBasePakcketToReSend, hq]⟩

/-- The invariant holds after any calls. -/
theorem Valid.run (h : w.Valid) {calls : List Call}
    (hrun : Transition.run SendWindow.apply w calls = .ok w') : w'.Valid :=
  run_induction SendWindow.apply (P := Valid) (fun _ _ _ h hstep => h.apply hstep) h hrun

end SendWindow

/-- **The representation of the send window.** After any calls that did not abort the queue lies
end to end from `send_base` on, `size_` is the sum of the queued sizes modulo `2^32`, the next
packet goes to the end of the queue, `SendPacket` passes its check whatever it is offered, and
what is sent again is a copy of the packet at `send_base`. -/
theorem send_window_representation {sendBase capacity : UInt32} {calls : List SendWindow.Call}
    {w : SendWindow} (hrun : run SendWindow.apply { sendBase, capacity } calls = .ok w) :
    SendWindow.EndToEnd w.sendBase w.packets ∧
      w.size.toNat = (w.packets.map fun p => p.payloadSize.toNat).sum % 2 ^ 32 ∧
      w.nextSeqNumberToSend = SendWindow.endOfQueue w.sendBase w.packets ∧
      (∀ clock p, ∃ r, w.sendPacket clock p = .ok r) ∧
      (w.pktsToAck ≠ [] → ∃ p, w.packets.head? = some p ∧ p.tcpHeader.seqNum = w.sendBase ∧
        w.getBasePakcketToReSend.1 = some p.copy) := by
  have h : w.Valid := (SendWindow.Valid.new sendBase capacity).run hrun
  refine ⟨h.endToEnd, ?_, h.endOfQueue_eq.symm, h.sendPacket_ok, h.base_packet⟩
  rw [h.size, queued_eq_ofNat, UInt32.toNat_ofNat', SendWindow.packets, List.map_map]
  rfl

end

section

open scoped Reference

/-- Two packets up to `2^32` and one behind it are sent, the first two are acknowledged while
the capacity is 0, and what is left is sent again. -/
def acrossTheWrap : List SendWindow.Call :=
  [.sendPacket 0 (hello 4294967286), .sendPacket 0 (hello 4294967291), .sendPacket 0 (hello 7),
    .setCapacity 0, .sendPacket 0 (hello 0), .newAckedPacket {} 0, .getBasePakcketToReSend]

theorem send_window_representation_acrossTheWrap : ∃ w,
    run SendWindow.apply { sendBase := 4294967286, capacity := 100 } acrossTheWrap = .ok w ∧
    w.packets = [hello 0] ∧ SendWindow.EndToEnd w.sendBase w.packets ∧
    w.nextSeqNumberToSend = 5 := by
  have hrun : (run SendWindow.apply { sendBase := 4294967286, capacity := 100 }
      acrossTheWrap).map (fun w => (w.packets, w.sendBase)) = .ok ([hello 0], 0) := by
    decide +kernel
  obtain ⟨w, hw, heq⟩ := map_eq_ok.mp hrun
  obtain ⟨hpkts, hbase⟩ := Prod.mk.inj heq
  obtain ⟨hqueue, -, hnext, -⟩ := send_window_representation hw
  refine ⟨w, hw, hpkts, hqueue, ?_⟩
  rw [hnext, hpkts, hbase]
  rfl

end

end NetStack
