import TcpStack.Proofs.SendQueue

/-!
# TcpStack — round-trip times and retransmissions

`SendWindow` keeps one flag for all its packets, `has_retransmitted_pkt_`. It is set when the
packet at the front is sent again, and cleared when an acknowledgement empties the queue. An
acknowledgement reports a round-trip time only while the flag is down.

* **`Recorded`** — a send window with the record of every packet it took, of how many of them were
  acknowledged, and of which were sent again. The record changes no call (`Recorded.apply_window`).
* **`Recorded.Inv`** — what the flag stands for: while it is down, everything that was sent again
  is acknowledged.
* **`popAcked_rtt`** — the time the loop of `NewAckedPacket` leaves is that of the last packet it
  popped.
* **`rtt_of_packets_sent_once`** — a time that is reported was measured on a packet that was sent
  once, and so was every other packet of that acknowledgement.
-/

namespace NetStack

open Transition

section

variable [HyLib]

namespace SendWindow

/-! ## The record -/

/-- A send window and the history of its packets. -/
structure Recorded where
  window : SendWindow
  /-- Every packet the window took, in this order. -/
  registered : List SendWindowNode := []
  /-- How many of them were removed by acknowledgements. -/
  removed : ℕ := 0
  /-- The positions in `registered` of the packets that `GetBasePakcketToReSend` returned. -/
  resent : List ℕ := []
deriving DecidableEq, Repr

namespace Recorded

/-- A call of the window, and what it adds to the record: `SendPacket` a packet, `NewAckedPacket`
the packets that left the queue, `GetBasePakcketToReSend` the packet at the front, if there is
one. -/
def apply (t : Recorded) : Call → Except Fatal Recorded
  | .sendPacket clock newPkt =>
    (t.window.sendPacket clock newPkt).map fun r =>
      { t with
        window := r.2
        registered :=
          if r.1 then t.registered ++ [⟨newPkt, StopWatch.start clock⟩] else t.registered }
  | .newAckedPacket g ackNum =>
    (t.window.newAckedPacket g ackNum).map fun r =>
      { t with
        window := r.2.1
        removed := t.removed + (t.window.pktsToAck.length - r.2.1.pktsToAck.length) }
  | .getBasePakcketToReSend =>
    .ok { t with
      window := t.window.getBasePakcketToReSend.2
      resent :=
        if t.window.getBasePakcketToReSend.1.isSome then t.resent ++ [t.removed] else t.resent }
  | .setCapacity capacity => .ok { t with window := t.window.setCapacity capacity }

/-- The record changes nothing of what the window does. -/
theorem apply_window (t : Recorded) (call : Call) :
    (t.apply call).map Recorded.window = t.window.apply call := by
  cases call with
  | sendPacket clock newPkt =>
    show (Except.map _ (t.window.sendPacket clock newPkt)).map _ = Except.map _ _
    cases t.window.sendPacket clock newPkt with
    | error x => rfl
    | ok r => rfl
  | newAckedPacket g ackNum =>
    show (Except.map _ (t.window.newAckedPacket g ackNum)).map _ = Except.map _ _
    cases t.window.newAckedPacket g ackNum with
    | error x => rfl
    | ok r => rfl
  | getBasePakcketToReSend => rfl
  | setCapacity capacity => rfl

/-! ## What the flag stands for -/

/-- The queue is what is left of the registered packets; only registered packets were sent again;
and while the flag is down all of these are acknowledged. -/
structure Inv (t : Recorded) : Prop where
  queue : t.window.pktsToAck = t.registered.drop t.removed
  removed_le : t.removed ≤ t.registered.length
  resent_lt : ∀ i ∈ t.resent, i < t.registered.length
  flag : t.window.hasRetransmittedPkt = false → ∀ i ∈ t.resent, i < t.removed

variable {t t' : Recorded}

theorem Inv.new (sendBase capacity : UInt32) : Inv { window := { sendBase, capacity } } :=
  ⟨rfl, le_rfl, by simp, by simp⟩

theorem Inv.length_eq (h : t.Inv) : t.registered.length = t.removed + t.window.pktsToAck.length := by
  have hle := h.removed_le
  rw [h.queue, List.length_drop]
  omega

/-- A packet that is taken is not among those that were sent again. -/
theorem Inv.enqueue (h : t.Inv) (clock : ℕ) (newPkt : Packet) :
    Inv { t with
      window := t.window.enqueue clock newPkt
      registered := t.registered ++ [⟨newPkt, StopWatch.start clock⟩] } := by
  have hle := h.removed_le
  refine ⟨?_, ?_, fun i hi => ?_, h.flag⟩
  · show t.window.pktsToAck ++ _ = _
    rw [h.queue, List.drop_append_of_le_length hle]
  · show t.removed ≤ (t.registered ++ [_]).length
    rw [List.length_append]
    omega
  · have hlt := h.resent_lt i hi
    show i < (t.registered ++ [_]).length
    rw [List.length_append]
    omega

/-- An acknowledgement takes the first packets of the queue. Where it takes all of them it may
clear the flag, as nothing that was sent again is left. -/
theorem Inv.newAckedPacket (h : t.Inv) {g g' : Globals} {ackNum : UInt32} {res : AckResult}
    {w' : SendWindow} (hack : t.window.newAckedPacket g ackNum = .ok (res, w', g')) :
    Inv { t with
      window := w'
      removed := t.removed + (t.window.pktsToAck.length - w'.pktsToAck.length) } := by
  have hlen := h.length_eq
  obtain ⟨front, hfront⟩ := (newAckedPacket_suffix hack).1
  have hsum : front.length + w'.pktsToAck.length = t.window.pktsToAck.length := by
    rw [← hfront, List.length_append]
  refine ⟨?_, ?_, h.resent_lt, fun hflag i hi => ?_⟩
  · show w'.pktsToAck = t.registered.drop _
    rw [show t.window.pktsToAck.length - w'.pktsToAck.length = front.length by omega,
      ← List.drop_drop, ← h.queue, ← hfront, List.drop_left]
  · show t.removed + _ ≤ t.registered.length
    omega
  · show i < t.removed + _
    have hlt := h.resent_lt i hi
    by_cases hnil : w'.pktsToAck = []
    · -- everything is removed
      rw [hnil, List.length_nil]
      omega
    · -- the flag is what it was
      have hold : t.window.hasRetransmittedPkt = false := by
        rcases newAckedPacket_cases hack with ⟨-, l, -, -, -, rfl, -⟩ |
          ⟨-, -, ⟨-, -, rfl, -⟩ | ⟨-, -, rfl, -⟩⟩ | ⟨-, -, -, rfl, -⟩
        · replace hnil : ¬ l.pktsToAck = [] := hnil
          replace hflag : (if l.pktsToAck = [] then false else _) = false := hflag
          rwa [if_neg hnil] at hflag
        · exact hflag
        · exact hflag
        · exact hflag
      have := h.flag hold i hi
      omega

/-- The packet at the front is not acknowledged, and the flag goes up with it. -/
theorem Inv.getBasePakcketToReSend (h : t.Inv) :
    Inv { t with
      window := t.window.getBasePakcketToReSend.2
      resent := if t.window.getBasePakcketToReSend.1.isSome then t.resent ++ [t.removed]
        else t.resent } := by
  have hlen := h.length_eq
  cases hq : t.window.pktsToAck with
  | nil =>
    have heq : t.window.getBasePakcketToReSend = (none, t.window) := by
      simp [SendWindow.getBasePakcketToReSend, hq]
    rw [heq]
    exact h
  | cons node rest =>
    have heq : t.window.getBasePakcketToReSend =
        (some node.pkt.copy, { t.window with hasRetransmittedPkt := true }) := by
      simp [SendWindow.getBasePakcketToReSend, hq]
    rw [heq]
    refine ⟨h.queue, h.removed_le, fun i hi => ?_, fun hflag => ?_⟩
    · show i < t.registered.length
      rw [hq, List.length_cons] at hlen
      rcases List.mem_append.mp hi with hold | hnew
      · exact h.resent_lt i hold
      · have hi' : i = t.removed := List.mem_singleton.mp hnew
        omega
    · cases hflag

/-- **Every call keeps the invariant.** -/
theorem Inv.apply (h : t.Inv) {call : Call} (hstep : t.apply call = .ok t') : t'.Inv := by
  cases call with
  | sendPacket clock newPkt =>
    obtain ⟨⟨sent, w⟩, hsend, rfl⟩ := map_eq_ok.mp hstep
    rcases sendPacket_cases hsend with ⟨rfl, rfl⟩ | ⟨rfl, rfl⟩
    · exact h
    · exact h.enqueue clock newPkt
  | newAckedPacket g ackNum =>
    obtain ⟨⟨res, w, g'⟩, hack, rfl⟩ := map_eq_ok.mp hstep
    exact h.newAckedPacket hack
  | getBasePakcketToReSend =>
    cases hstep
    exact h.getBasePakcketToReSend
  | setCapacity capacity =>
    cases hstep
    exact ⟨h.queue, h.removed_le, h.resent_lt, h.flag⟩

end Recorded

/-! ## The time of an acknowledgement -/

/-- The loop pops nothing, or the time it leaves is that of the last packet it popped. Induction
on the queue. -/
theorem popAcked_rtt {clock : ℕ} {sendBase ackNum : UInt32} {ov : Bool}
    {nodes : List SendWindowNode} {l l' : AckLoop}
    (h : popAcked clock sendBase ackNum ov nodes l = .ok l') :
    (l'.pktsToAck = nodes ∧ l'.rtt = l.rtt) ∨
      ∃ front last, nodes = front ++ last :: l'.pktsToAck ∧
        l'.rtt = some (last.rttWatch.pause clock).elapsedTime := by
  induction nodes generalizing l with
  | nil =>
    cases h
    exact Or.inl ⟨rfl, rfl⟩
  | cons node rest ih =>
    rw [popAcked] at h
    split at h
    · split at h
      · right
        rcases ih h with ⟨hqueue, hrtt⟩ | ⟨front, last, hqueue, hrtt⟩
        · -- this packet is the last one
          exact ⟨[], node, by rw [hqueue, List.nil_append], hrtt⟩
        · exact ⟨node :: front, last, by rw [hqueue, List.cons_append], hrtt⟩
      · cases h
    · cases h
      exact Or.inl ⟨rfl, rfl⟩

/-- **An acknowledgement that removes packets and reports a time**: the flag was down, and the time
is that of the last packet that left. -/
theorem newAckedPacket_rtt {w w' : SendWindow} {g g' : Globals} {ackNum : UInt32} {res : AckResult}
    (h : w.newAckedPacket g ackNum = .ok (res, w', g'))
    (hremoved : w'.pktsToAck.length < w.pktsToAck.length) (hrtt : res.rtt ≠ some 0) :
    w.hasRetransmittedPkt = false ∧ ∃ front last, w.pktsToAck = front ++ last :: w'.pktsToAck ∧
      res.rtt = some (last.rttWatch.pause g.clock).elapsedTime := by
  rcases newAckedPacket_cases h with ⟨-, l, hl, -, rfl, rfl, -⟩ |
    ⟨-, -, ⟨-, -, rfl, -⟩ | ⟨-, -, rfl, -⟩⟩ | ⟨-, -, -, rfl, -⟩
  · -- the branch that moves the send base
    have hflag : w.hasRetransmittedPkt = false := by
      cases hr : w.hasRetransmittedPkt with
      | false => rfl
      | true => simp [hr] at hrtt
    refine ⟨hflag, ?_⟩
    rcases popAcked_rtt hl with ⟨hqueue, -⟩ | ⟨front, last, hqueue, htime⟩
    · replace hremoved : l.pktsToAck.length < _ := hremoved
      rw [hqueue] at hremoved
      exact absurd hremoved (lt_irrefl _)
    · refine ⟨front, last, hqueue, ?_⟩
      simp only [hflag, Bool.not_false, if_true]
      exact htime
  -- the other branches leave the queue alone
  · exact absurd hremoved (lt_irrefl _)
  · exact absurd hremoved (lt_irrefl _)
  · exact absurd hremoved (lt_irrefl _)

end SendWindow

/-- **Karn's rule.** Take any calls of a send window, and an acknowledgement after them that removes
packets and reports a time that is not 0. By the record of the calls it removes the registered
packets from position `removed` to `removed + front.length`; none of them was sent again, and the
time is what the stopwatch of the last of them says. -/
theorem rtt_of_packets_sent_once {sendBase capacity : UInt32} {calls : List SendWindow.Call}
    {w w' : SendWindow} {g g' : Globals} {ackNum : UInt32} {res : AckResult}
    (hrun : run SendWindow.apply { sendBase, capacity } calls = .ok w)
    (hack : w.newAckedPacket g ackNum = .ok (res, w', g'))
    (hremoved : w'.pktsToAck.length < w.pktsToAck.length) (hrtt : res.rtt ≠ some 0) :
    ∃ t front last,
      run SendWindow.Recorded.apply { window := { sendBase, capacity } } calls = .ok t ∧
      t.window = w ∧ t.registered.drop t.removed = w.pktsToAck ∧
      w.pktsToAck = front ++ last :: w'.pktsToAck ∧
      (∀ i ∈ t.resent, ¬ (t.removed ≤ i ∧ i ≤ t.removed + front.length)) ∧
      res.rtt = some (last.rttWatch.pause g.clock).elapsedTime := by
  have hmap := map_run SendWindow.apply SendWindow.Recorded.apply_window
    { window := { sendBase, capacity } } calls
  rw [hrun] at hmap
  obtain ⟨t, ht, rfl⟩ := map_eq_ok.mp hmap
  have hinv : t.Inv := run_induction SendWindow.Recorded.apply (P := SendWindow.Recorded.Inv)
    (fun _ _ _ h hstep => h.apply hstep) (SendWindow.Recorded.Inv.new sendBase capacity) ht
  obtain ⟨hflag, front, last, hqueue, htime⟩ := SendWindow.newAckedPacket_rtt hack hremoved hrtt
  refine ⟨t, front, last, ht, rfl, hinv.queue.symm, hqueue, fun i hi hrange => ?_, htime⟩
  have := hinv.flag hflag i hi
  omega

/-- The first of three packets is sent again before they are acknowledged together; a fourth and a
fifth packet follow. -/
def resentThenFresh : List SendWindow.Call :=
  [.sendPacket 1 (hello 0), .sendPacket 2 (hello 5), .sendPacket 3 (hello 10),
    .getBasePakcketToReSend, .newAckedPacket { clock := 9 } 5, .newAckedPacket { clock := 10 } 15,
    .sendPacket 20 (hello 15), .sendPacket 22 (hello 20)]

end

section

open scoped Reference

theorem rtt_of_packets_sent_once_resentThenFresh : ∃ w res w' g',
    run SendWindow.apply { sendBase := 0, capacity := 100 } resentThenFresh = .ok w ∧
    w.newAckedPacket { clock := 30 } 25 = .ok (res, w', g') ∧
    res.rtt = some 8 ∧ ∃ t,
      run SendWindow.Recorded.apply { window := { sendBase := 0, capacity := 100 } }
        resentThenFresh = .ok t ∧ t.resent = [0] ∧ t.removed = 3 ∧ 3 ∉ t.resent := by
  have hrun : (run SendWindow.apply { sendBase := 0, capacity := 100 } resentThenFresh >>= fun w =>
      (w.newAckedPacket { clock := 30 } 25).map fun r =>
        (w.pktsToAck.length, r.2.1.pktsToAck.length, r.1.rtt)) = .ok (2, 0, some 8) := by
    decide +kernel
  obtain ⟨w, hw, hrest⟩ := bind_eq_ok.mp hrun
  obtain ⟨⟨res, w', g'⟩, hack, heq⟩ := map_eq_ok.mp hrest
  simp only [Prod.mk.injEq] at heq
  obtain ⟨hlen, hlen', hrtt⟩ := heq
  obtain ⟨t, front, last, ht, -, -, -, hnot, -⟩ :=
    rtt_of_packets_sent_once hw hack (by omega) (by rw [hrtt]; decide)
  have hrec : (run SendWindow.Recorded.apply { window := { sendBase := 0, capacity := 100 } }
      resentThenFresh).map (fun t => (t.resent, t.removed)) = .ok ([0], 3) := by
    decide +kernel
  rw [ht] at hrec
  obtain ⟨hresent, hremoved⟩ := Prod.mk.inj (Except.ok.inj hrec)
  refine ⟨w, res, w', g', hw, hack, hrtt, t, ht, hresent, hremoved, fun hmem => ?_⟩
  exact hnot 3 hmem ⟨by omega, by omega⟩

end

end NetStack
