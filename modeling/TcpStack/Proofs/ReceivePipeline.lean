import TcpStack.Model.ReceivePipeline
import TcpStack.Proofs.Frames
import TcpStack.Proofs.History

/-!
# TcpStack — bytes through the receive buffer and the overflow queue

A packet that does not fit in `recv_buffer_` goes to `overflow_pkts_`, and a later one that is
smaller may still fit.

* **`read_in_order`** — bytes come out in the order they were streamed, if no packet finds room
  while an earlier one waits.
* **`eof_after_data`** — the end of the stream is reported behind all bytes, if behind a FIN the
  packets of the queue are moved between a read that empties the buffer and the next read.
-/

namespace NetStack

open Transition ReceivePipeline

section

variable [HyLib]

namespace ReceivePipeline

/-- A packet with data: no SYN or FIN, and as many bytes of payload as it says. -/
structure IsData (p : Packet) : Prop where
  sync : p.tcpHeader.sync = false
  fin : p.tcpHeader.fin = false
  payload : p.payload.length = p.payloadSize.toNat
  pos : 1 ≤ p.payloadSize.toNat

instance (p : Packet) : Decidable (IsData p) :=
  decidable_of_iff (p.tcpHeader.sync = false ∧ p.tcpHeader.fin = false ∧
      p.payload.length = p.payloadSize.toNat ∧ 1 ≤ p.payloadSize.toNat)
    ⟨fun h => ⟨h.1, h.2.1, h.2.2.1, h.2.2.2⟩, fun h => ⟨h.sync, h.fin, h.payload, h.pos⟩⟩

/-! ## Overtaking -/

/-- None of the packets finds room. -/
def NoneFits (free : Nat) (chain : List Packet) : Prop :=
  ∀ p ∈ chain, free < p.payloadSize.toNat

/-- With nothing waiting: packets are taken as long as they fit, and behind the first one that
does not, none fits. -/
def InTurn : Nat → List Packet → Prop
  | _, [] => True
  | free, p :: chain =>
    if p.payloadSize.toNat ≤ free then InTurn (free - p.payloadSize.toNat) chain
    else NoneFits free chain

/-- The waiting packets are taken first, as long as they fit. If one is left waiting, no packet of
the chain fits. -/
def NoOvertaking : Nat → List Packet → List Packet → Prop
  | free, [], chain => InTurn free chain
  | free, p :: waiting, chain =>
    if p.payloadSize.toNat ≤ free then NoOvertaking (free - p.payloadSize.toNat) waiting chain
    else NoneFits free chain

instance (free : Nat) (chain : List Packet) : Decidable (NoneFits free chain) :=
  inferInstanceAs (Decidable (∀ _ ∈ _, _))

instance InTurn.decidable : (free : Nat) → (chain : List Packet) → Decidable (InTurn free chain)
  | _, [] => .isTrue trivial
  | free, p :: chain =>
    have := InTurn.decidable (free - p.payloadSize.toNat) chain
    inferInstanceAs (Decidable (if p.payloadSize.toNat ≤ free then
      InTurn (free - p.payloadSize.toNat) chain else NoneFits free chain))

instance NoOvertaking.decidable : (free : Nat) → (waiting chain : List Packet) →
    Decidable (NoOvertaking free waiting chain)
  | free, [], chain => inferInstanceAs (Decidable (InTurn free chain))
  | free, p :: waiting, chain =>
    have := NoOvertaking.decidable (free - p.payloadSize.toNat) waiting chain
    inferInstanceAs (Decidable (if p.payloadSize.toNat ≤ free then
      NoOvertaking (free - p.payloadSize.toNat) waiting chain else NoneFits free chain))

/-- A step that streams data does not let any of it overtake. -/
def KeepsOrder (p : ReceivePipeline) : PipelineStep → Prop
  | .streamData chain => NoOvertaking p.con.recvBuffer.freeSpace p.con.overflowPkts chain
  | .listener => True
  | .readData _ => True

instance (p : ReceivePipeline) : (e : PipelineStep) → Decidable (p.KeepsOrder e)
  | .streamData chain =>
    inferInstanceAs (Decidable (NoOvertaking p.con.recvBuffer.freeSpace p.con.overflowPkts chain))
  | .listener => .isTrue trivial
  | .readData _ => .isTrue trivial

/-! ## The two loops -/

section Loops

variable {b : RingBuffer} {c c' : TcpController} {p : Packet} {l chain : List Packet}

/-- A data packet that fits is written as a whole. -/
theorem write_data (hp : IsData p) (hfit : p.payloadSize.toNat ≤ b.freeSpace) :
    0 < (b.write (p.payload.take p.payloadSize.toNat)).1 ∧
      (b.write (p.payload.take p.payloadSize.toNat)).2.bytes = b.bytes ++ p.payload ∧
      (b.write (p.payload.take p.payloadSize.toNat)).2.freeSpace =
        b.freeSpace - p.payloadSize.toNat := by
  have htake : p.payload.take p.payloadSize.toNat = p.payload :=
    List.take_of_length_le hp.payload.le
  have hfit' : p.payload.length ≤ b.freeSpace := hp.payload.trans_le hfit
  obtain ⟨hn, hb⟩ := RingBuffer.write_bytes hfit'
  have hcap := RingBuffer.capacity_write b p.payload
  have h₁ := b.size_add_freeSpace
  have h₂ := (b.write p.payload).2.size_add_freeSpace
  rw [hb, List.length_append, hcap, hp.payload] at h₂
  have hpos := hp.pos
  rw [htake, hn, hp.payload]
  exact ⟨hpos, hb, by omega⟩

/-- Pushing moves packets from the front of the queue to the end of the buffer, as long as they
fit. Induction on the queue. -/
theorem pushOverflowedLoop_held (hl : ∀ p ∈ l, IsData p) :
    (TcpController.pushOverflowedLoop l b).2.bytes ++
        stream (TcpController.pushOverflowedLoop l b).1 = b.bytes ++ stream l ∧
      (TcpController.pushOverflowedLoop l b).1 <:+ l := by
  induction l generalizing b with
  | nil => exact ⟨rfl, List.suffix_refl _⟩
  | cons p rest ih =>
    rw [TcpController.pushOverflowedLoop]
    split
    · next hfit =>
      obtain ⟨hn, hb, -⟩ := write_data (hl p (by simp)) hfit
      simp only [gt_iff_lt, if_pos hn]
      obtain ⟨hheld, hsuffix⟩ := ih fun q hq => hl q (by simp [hq])
      refine ⟨?_, hsuffix.trans (List.suffix_cons p rest)⟩
      rw [hheld, hb, stream_cons, List.append_assoc]
    · exact ⟨rfl, List.suffix_refl _⟩

/-- Where no packet of the chain overtakes, pushing leaves a queue that is empty, or that none of
them can pass. -/
theorem pushOverflowedLoop_noOvertaking (hl : ∀ p ∈ l, IsData p)
    (h : NoOvertaking b.freeSpace l chain) :
    NoneFits (TcpController.pushOverflowedLoop l b).2.freeSpace chain ∨
      (TcpController.pushOverflowedLoop l b).1 = [] ∧
        InTurn (TcpController.pushOverflowedLoop l b).2.freeSpace chain := by
  induction l generalizing b with
  | nil => exact Or.inr ⟨rfl, h⟩
  | cons p rest ih =>
    rw [NoOvertaking] at h
    rw [TcpController.pushOverflowedLoop]
    split at h
    · next hfit =>
      obtain ⟨hn, -, hfree⟩ := write_data (hl p (by simp)) hfit
      rw [if_pos hfit]
      simp only [gt_iff_lt, if_pos hn]
      exact ih (fun q hq => hl q (by simp [hq])) (by rwa [hfree])
    · next hfull =>
      rw [if_neg hfull]
      exact Or.inl h

/-- A chain of which nothing fits goes to the queue as it is. Induction on the chain. -/
theorem streamLoop_noneFits (hl : ∀ p ∈ chain, IsData p) (h : NoneFits c.recvBuffer.freeSpace chain) :
    TcpController.streamLoop chain c = .ok { c with overflowPkts := c.overflowPkts ++ chain } := by
  induction chain generalizing c with
  | nil => simp [TcpController.streamLoop]
  | cons p rest ih =>
    have hp := hl p (by simp)
    have hfull : ¬ c.recvBuffer.freeSpace ≥ p.payloadSize.toNat := Nat.not_le.mpr (h p (by simp))
    have hrec := ih (c := { c with overflowPkts := c.overflowPkts ++ [p] })
      (fun q hq => hl q (by simp [hq])) fun q hq => h q (by simp [hq])
    rw [TcpController.streamLoop, if_neg (by simp [hp.sync]), if_neg (by simp [hp.fin]),
      if_neg hfull, hrec]
    simp

/-- With an empty queue, a chain in turn goes to the buffer and then to the queue. -/
theorem streamLoop_inTurn (hl : ∀ p ∈ chain, IsData p) (hempty : c.overflowPkts = [])
    (h : InTurn c.recvBuffer.freeSpace chain) :
    ∃ b o, TcpController.streamLoop chain c = .ok { c with recvBuffer := b, overflowPkts := o } ∧
      b.bytes ++ stream o = c.recvBuffer.bytes ++ stream chain ∧ ∀ p ∈ o, IsData p := by
  induction chain generalizing c with
  | nil => exact ⟨c.recvBuffer, [], by rw [TcpController.streamLoop, ← hempty], rfl, by simp⟩
  | cons p rest ih =>
    have hp := hl p (by simp)
    have hrest : ∀ q ∈ rest, IsData q := fun q hq => hl q (by simp [hq])
    rw [TcpController.streamLoop, if_neg (by simp [hp.sync]), if_neg (by simp [hp.fin])]
    rw [InTurn] at h
    split at h
    · next hfit =>
      obtain ⟨hn, hb, hfree⟩ := write_data hp hfit
      rw [if_pos hfit]
      simp only [if_neg hn.ne']
      obtain ⟨b, o, hrun, hheld, ho⟩ := ih
        (c := { c with recvBuffer := (c.recvBuffer.write (p.payload.take p.payloadSize.toNat)).2 })
        hrest hempty (by rwa [hfree])
      refine ⟨b, o, hrun, ?_, ho⟩
      rw [hheld, hb, stream_cons, List.append_assoc]
    · next hfull =>
      have hrec := streamLoop_noneFits (c := { c with overflowPkts := c.overflowPkts ++ [p] }) hrest h
      refine ⟨c.recvBuffer, p :: rest, ?_, rfl, hl⟩
      rw [if_neg hfull, hrec]
      simp [hempty]

/-- A chain of data packets, possibly with a FIN behind them. -/
def DataChain (chain : List Packet) : Prop :=
  ∀ p ∈ chain, p.tcpHeader.sync = false ∧ (p.tcpHeader.fin = false → IsData p)

/-- Whatever fits where, streaming loses and duplicates nothing. Induction on the chain. -/
theorem streamLoop_perm (hchain : DataChain chain) (hdata : ∀ p ∈ c.overflowPkts, IsData p) :
    ∃ b o st, TcpController.streamLoop chain c =
        .ok { c with recvBuffer := b, overflowPkts := o, pipeState := st } ∧
      (b.bytes ++ stream o).Perm
        (c.recvBuffer.bytes ++ stream c.overflowPkts ++ chainPayload chain) ∧
      ∀ p ∈ o, IsData p := by
  induction chain generalizing c with
  | nil =>
    exact ⟨c.recvBuffer, c.overflowPkts, c.pipeState, rfl, by simp [chainPayload], hdata⟩
  | cons p rest ih =>
    obtain ⟨hsync, hp⟩ := hchain p (by simp)
    have hrest : DataChain rest := fun q hq => hchain q (by simp [hq])
    rw [TcpController.streamLoop, if_neg (by simp [hsync])]
    split
    · next hfin =>
      have hnil : chainPayload (p :: rest) = [] := by simp [chainPayload, hfin]
      exact ⟨c.recvBuffer, c.overflowPkts, _, rfl, by simp [hnil], hdata⟩
    · next hfin =>
      have hfin' : p.tcpHeader.fin = false := by simpa using hfin
      have hpayload : chainPayload (p :: rest) = p.payload ++ chainPayload rest := by
        simp [chainPayload, hfin']
      have hqueue : ∀ q ∈ c.overflowPkts ++ [p], IsData q := by
        intro q hq
        rcases List.mem_append.mp hq with hq | hq
        · exact hdata q hq
        · rw [List.mem_singleton.mp hq]
          exact hp hfin'
      split
      · next hfit =>
        obtain ⟨hn, hb, -⟩ := write_data (hp hfin') hfit
        simp only [if_neg hn.ne']
        obtain ⟨b, o, st, hrun, hperm, ho⟩ := ih
          (c := { c with recvBuffer := (c.recvBuffer.write (p.payload.take p.payloadSize.toNat)).2 })
          hrest hdata
        refine ⟨b, o, st, hrun, hperm.trans ?_, ho⟩
        -- the packet passes the queue
        rw [hb, hpayload]
        simp only [List.append_assoc]
        refine List.Perm.append_left _ ?_
        rw [← List.append_assoc, ← List.append_assoc]
        exact List.Perm.append_right _ List.perm_append_comm
      · obtain ⟨b, o, st, hrun, hperm, ho⟩ := ih
          (c := { c with overflowPkts := c.overflowPkts ++ [p] }) hrest hqueue
        refine ⟨b, o, st, hrun, ?_, ho⟩
        simpa [hpayload] using hperm

/-- **Streaming where nothing overtakes** appends the chain to what is held. -/
theorem streamDataToReceiveBuffer_inOrder (hdata : ∀ p ∈ c.overflowPkts, IsData p)
    (hchain : ∀ p ∈ chain, IsData p)
    (h : NoOvertaking c.recvBuffer.freeSpace c.overflowPkts chain) :
    ∃ b o, c.streamDataToReceiveBuffer chain = .ok { c with recvBuffer := b, overflowPkts := o } ∧
      b.bytes ++ stream o = c.recvBuffer.bytes ++ stream c.overflowPkts ++ stream chain ∧
      ∀ p ∈ o, IsData p := by
  obtain ⟨hheld, hsuffix⟩ := pushOverflowedLoop_held (b := c.recvBuffer) hdata
  have hqueue : ∀ q ∈ c.pushOverflowedPacketsToSocketBuffer.overflowPkts, IsData q :=
    fun q hq => hdata q (hsuffix.subset hq)
  rcases pushOverflowedLoop_noOvertaking hdata h with hnone | ⟨hempty, hturn⟩
  · have hrun := streamLoop_noneFits (c := c.pushOverflowedPacketsToSocketBuffer) hchain hnone
    refine ⟨_, _, hrun, ?_, fun q hq => ?_⟩
    · rw [stream_append, ← List.append_assoc, ← hheld]
      rfl
    · rcases List.mem_append.mp hq with hq | hq
      · exact hqueue q hq
      · exact hchain q hq
  · obtain ⟨b, o, hrun, hheld', ho⟩ :=
      streamLoop_inTurn (c := c.pushOverflowedPacketsToSocketBuffer) hchain hempty hturn
    refine ⟨b, o, hrun, ?_, ho⟩
    rw [hempty, stream_nil, List.append_nil] at hheld
    rw [hheld', ← hheld]
    rfl

/-- **Streaming in general** adds the bytes of the chain to what is held. -/
theorem streamDataToReceiveBuffer_perm (hdata : ∀ p ∈ c.overflowPkts, IsData p)
    (hchain : DataChain chain) :
    ∃ b o st, c.streamDataToReceiveBuffer chain =
        .ok { c with recvBuffer := b, overflowPkts := o, pipeState := st } ∧
      (b.bytes ++ stream o).Perm
        (c.recvBuffer.bytes ++ stream c.overflowPkts ++ chainPayload chain) ∧
      ∀ p ∈ o, IsData p := by
  obtain ⟨hheld, hsuffix⟩ := pushOverflowedLoop_held (b := c.recvBuffer) hdata
  obtain ⟨b, o, st, hrun, hperm, ho⟩ :=
    streamLoop_perm (c := c.pushOverflowedPacketsToSocketBuffer) hchain
      fun q hq => hdata q (hsuffix.subset hq)
  refine ⟨b, o, st, hrun, ?_, ho⟩
  rw [← hheld]
  exact hperm

/-- The listener moves bytes from the queue to the buffer, or does nothing. -/
theorem receiveBufferListener_held (hdata : ∀ p ∈ c.overflowPkts, IsData p) :
    ∃ b o, c.receiveBufferListener = { c with recvBuffer := b, overflowPkts := o } ∧
      b.bytes ++ stream o = c.recvBuffer.bytes ++ stream c.overflowPkts ∧ ∀ p ∈ o, IsData p := by
  unfold TcpController.receiveBufferListener
  split
  · exact ⟨c.recvBuffer, c.overflowPkts, rfl, rfl, hdata⟩
  · obtain ⟨hheld, hsuffix⟩ := pushOverflowedLoop_held (b := c.recvBuffer) hdata
    exact ⟨_, _, rfl, hheld, fun q hq => hdata q (hsuffix.subset hq)⟩

end Loops

section Steps

variable {p p' : ReceivePipeline} {size : ℕ}

theorem step_streamData {chain : List Packet} {con : TcpController}
    (h : p.con.streamDataToReceiveBuffer chain = .ok con) : p.step (.streamData chain) =
      .ok { p with con, streamed := p.streamed ++ chainPayload chain } := by
  rw [step, h, ok_bind]

/-- A read takes bytes from the front of the buffer, or none; it may see the end. -/
theorem step_readData (h : p.step (.readData size) = .ok p') :
    ∃ b st data, p' = { p with
        con := { p.con with recvBuffer := b, pipeState := st }, readOut := p.readOut ++ data } ∧
      data ++ b.bytes = p.con.recvBuffer.bytes := by
  rw [step] at h
  rcases p.con.readData_cases size with hr | hr | hr | ⟨-, -, hr⟩ | ⟨-, hr⟩
  · rw [hr] at h
    cases h
  · rw [hr] at h
    cases h
    exact ⟨p.con.recvBuffer, p.con.pipeState, [], by simp, rfl⟩
  · rw [hr] at h
    cases h
    exact ⟨p.con.recvBuffer, p.con.pipeState, [], rfl, rfl⟩
  · rw [hr] at h
    cases h
    exact ⟨p.con.recvBuffer, _, [], rfl, rfl⟩
  · rw [hr] at h
    cases h
    refine ⟨_, p.con.pipeState, _, rfl, ?_⟩
    rw [RingBuffer.read_fst, RingBuffer.bytes_read, List.take_append_drop]

/-- Before the end was read, a read returns. -/
theorem exists_step_readData (h : p.con.pipeState ≠ .eofConsumed) (size : ℕ) :
    ∃ p', p.step (.readData size) = .ok p' ∧ (p.con.pipeState = .opened →
      p'.con.pipeState = .opened) := by
  rw [step]
  rcases p.con.readData_cases size with hr | hr | hr | ⟨heof, -, hr⟩ | ⟨-, hr⟩
  · unfold TcpController.readData at hr
    rw [if_neg h] at hr
    split_ifs at hr
  · exact ⟨p, by rw [hr, ok_bind], id⟩
  · exact ⟨{ p with readOut := p.readOut ++ [] }, by rw [hr, ok_bind], id⟩
  · exact ⟨_, by rw [hr, ok_bind], fun hopen => by simp [hopen] at heof⟩
  · exact ⟨{ p with
      con := { p.con with recvBuffer := (p.con.recvBuffer.read size).2 }
      readOut := p.readOut ++ (p.con.recvBuffer.read size).1 }, by rw [hr, ok_bind], id⟩

end Steps

/-! ## Order -/

omit [HyLib] in
/-- A chain of data packets carries all its payloads. -/
theorem chainPayload_eq {chain : List Packet} (h : ∀ p ∈ chain, IsData p) :
    chainPayload chain = stream chain := by
  have hall : chain.takeWhile (!·.tcpHeader.fin) = chain :=
    List.takeWhile_eq_self_iff.mpr fun p hp => by simp [(h p hp).fin]
  rw [chainPayload, hall, stream]

/-- As long as only data is streamed: what was read, what is in the buffer and what waits, one
behind the other, is what was streamed. -/
structure InOrder (p : ReceivePipeline) : Prop where
  opened : p.con.pipeState = .opened
  data : ∀ q ∈ p.con.overflowPkts, IsData q
  order : p.readOut ++ p.con.recvBuffer.bytes ++ stream p.con.overflowPkts = p.streamed

/-- The steps that stream only data, in packets of at most `n` bytes. -/
def DataOnly (n : ℕ) : PipelineStep → Prop
  | .streamData chain => ∀ p ∈ chain, IsData p ∧ p.payloadSize.toNat ≤ n
  | .listener => True
  | .readData _ => True

instance (n : ℕ) : (e : PipelineStep) → Decidable (DataOnly n e)
  | .streamData chain =>
    inferInstanceAs (Decidable (∀ p ∈ chain, IsData p ∧ p.payloadSize.toNat ≤ n))
  | .listener => .isTrue trivial
  | .readData _ => .isTrue trivial

variable {p p' : ReceivePipeline}

/-- **One step** that lets nothing overtake. -/
theorem InOrder.step (h : InOrder p) {n : ℕ} {e : PipelineStep} (hdata : DataOnly n e)
    (hcond : p.KeepsOrder e) : ∃ p', p.step e = .ok p' ∧ InOrder p' := by
  cases e with
  | streamData chain =>
    have hchain : ∀ q ∈ chain, IsData q := fun q hq => (hdata q hq).1
    obtain ⟨b, o, hrun, hheld, ho⟩ := streamDataToReceiveBuffer_inOrder h.data hchain hcond
    refine ⟨_, step_streamData hrun, h.opened, ho, ?_⟩
    show p.readOut ++ b.bytes ++ stream o = p.streamed ++ chainPayload chain
    rw [chainPayload_eq hchain, ← h.order, List.append_assoc, hheld]
    simp only [List.append_assoc]
  | listener =>
    obtain ⟨b, o, hrun, hheld, ho⟩ := receiveBufferListener_held h.data
    refine ⟨_, rfl, ?_⟩
    rw [hrun]
    refine ⟨h.opened, ho, ?_⟩
    show p.readOut ++ b.bytes ++ stream o = p.streamed
    rw [← h.order, List.append_assoc, hheld, List.append_assoc]
  | readData size =>
    obtain ⟨p', hrun, hopen⟩ := exists_step_readData (p := p) (by simp [h.opened]) size
    obtain ⟨b, st, data, rfl, hbytes⟩ := step_readData hrun
    refine ⟨_, hrun, hopen h.opened, h.data, ?_⟩
    show p.readOut ++ data ++ b.bytes ++ stream p.con.overflowPkts = p.streamed
    rw [← h.order, List.append_assoc p.readOut, hbytes]

end ReceivePipeline

/-- **When bytes are read in the order they were streamed.** Data packets are streamed in chains,
the listener runs and bytes are read, in any order and with a buffer of any size. If no packet
finds room while an earlier one has to wait, then at every point what was read, what is in
`recv_buffer_` and what waits in `overflow_pkts_` is what was streamed, in this order. -/
theorem read_in_order (key : TcpControllerKey) (options : TcpControllerOptions)
    {es : List PipelineStep} (hdata : ∀ e ∈ es, DataOnly options.recvBufferSize e)
    (hcond : Meets ReceivePipeline.step KeepsOrder (.new key options) es) :
    ∃ p, run ReceivePipeline.step (.new key options) es = .ok p ∧
      p.readOut ++ p.con.recvBuffer.bytes ++ stream p.con.overflowPkts = p.streamed := by
  have hnew : InOrder (.new key options) :=
    { opened := rfl
      data := by simp [ReceivePipeline.new, TcpController.new]
      order := by simp [ReceivePipeline.new, TcpController.new] }
  obtain ⟨p, hrun, hp⟩ := run_total_of_meets ReceivePipeline.step (P := fun _ p => InOrder p) hnew
    (fun pre e p hpre h hc => h.step (hdata e (hpre.subset (by simp))) hc) hcond
  exact ⟨p, hrun, hp.order⟩

end

section

open scoped Reference

/-- A data packet with `n` bytes of value `n`. -/
def bytesOf (n : ℕ) : Packet :=
  { ipHeader := {}, tcpHeader := {}, payload := List.replicate n (UInt8.ofNat n)
    payloadSize := UInt32.ofNat n }

/-- A controller with a receive buffer of 10 bytes. -/
def tenBytes : TcpControllerOptions := { TcpController.getDefaultOptions with recvBufferSize := 10 }

/-- A packet has to wait, and so does the one streamed behind it. -/
def inTurn : List PipelineStep :=
  [.streamData [bytesOf 8, bytesOf 5], .readData 8, .streamData [bytesOf 6], .listener, .readData 10]

theorem read_in_order_inTurn : ∃ p, run ReceivePipeline.step (.new {} tenBytes) inTurn = .ok p ∧
    p.readOut ++ p.con.recvBuffer.bytes ++ stream p.con.overflowPkts = p.streamed :=
  read_in_order {} tenBytes (by decide) (by decide +kernel)

/-- Of three packets of 8, 5 and 2 bytes the second does not fit in 10 bytes, but the third
does. -/
theorem not_read_in_order : ¬ ∀ (options : TcpControllerOptions) (es : List PipelineStep)
    (p : ReceivePipeline), 1 ≤ options.recvBufferSize →
    (∀ e ∈ es, DataOnly options.recvBufferSize e) →
    run ReceivePipeline.step (.new {} options) es = .ok p →
    p.readOut ++ p.con.recvBuffer.bytes ++ stream p.con.overflowPkts = p.streamed := by
  intro h
  have hrun : (run ReceivePipeline.step (.new {} tenBytes)
      [.streamData [bytesOf 8, bytesOf 5, bytesOf 2]]).map (fun p =>
        (p.readOut ++ p.con.recvBuffer.bytes ++ stream p.con.overflowPkts, p.streamed)) =
      .ok (stream [bytesOf 8, bytesOf 2, bytesOf 5], stream [bytesOf 8, bytesOf 5, bytesOf 2]) := by
    decide +kernel
  obtain ⟨p, hp, heq⟩ := map_eq_ok.mp hrun
  obtain ⟨hheld, hstreamed⟩ := Prod.mk.inj heq
  have horder := h tenBytes _ p (by decide) (by decide) hp
  rw [hheld, hstreamed] at horder
  exact absurd horder (by decide)

end

section

variable [HyLib]

/-! ## The end of the stream -/

namespace ReceivePipeline

variable {p p' : ReceivePipeline}

/-- Nothing is lost and nothing duplicated, whatever the order. -/
structure Conserved (p : ReceivePipeline) : Prop where
  running : p.con.shutdown = false
  data : ∀ q ∈ p.con.overflowPkts, IsData q
  bytes : (p.readOut ++ (p.con.recvBuffer.bytes ++ stream p.con.overflowPkts)).Perm p.streamed

/-- The steps that stream data, possibly with a FIN behind it. -/
def DataAndFin : PipelineStep → Prop
  | .streamData chain => DataChain chain
  | .listener => True
  | .readData _ => True

instance (chain : List Packet) : Decidable (DataChain chain) :=
  inferInstanceAs (Decidable (∀ _ ∈ _, _))

instance : (e : PipelineStep) → Decidable (DataAndFin e)
  | .streamData chain => inferInstanceAs (Decidable (DataChain chain))
  | .listener => .isTrue trivial
  | .readData _ => .isTrue trivial

/-- **One step**, whatever overtakes what. -/
theorem Conserved.step (h : Conserved p) {e : PipelineStep} (he : DataAndFin e)
    (hstep : p.step e = .ok p') : Conserved p' := by
  cases e with
  | streamData chain =>
    obtain ⟨b, o, st, hrun, hperm, ho⟩ := streamDataToReceiveBuffer_perm h.data he
    rw [step_streamData hrun] at hstep
    cases hstep
    refine ⟨h.running, ho, (List.Perm.append_left p.readOut hperm).trans ?_⟩
    rw [← List.append_assoc]
    exact List.Perm.append_right _ h.bytes
  | listener =>
    obtain ⟨b, o, hrun, hheld, ho⟩ := receiveBufferListener_held h.data
    cases hstep
    rw [hrun]
    refine ⟨h.running, ho, ?_⟩
    show (p.readOut ++ (b.bytes ++ stream o)).Perm p.streamed
    rw [hheld]
    exact h.bytes
  | readData size =>
    obtain ⟨b, st, data, rfl, hbytes⟩ := step_readData hstep
    refine ⟨h.running, h.data, ?_⟩
    show (p.readOut ++ data ++ (b.bytes ++ stream p.con.overflowPkts)).Perm p.streamed
    rw [List.append_assoc, ← List.append_assoc data, hbytes]
    exact h.bytes

/-- A `ReadData` of the given size that returns 0 is behind all data: every byte streamed has been
read, and both the buffer and the queue are empty. -/
def EofAfterData (p : ReceivePipeline) (size : ℕ) : Prop :=
  ∀ data con, p.con.readData size = .ok (some (0, data, con)) →
    p.con.recvBuffer.bytes = [] ∧ p.con.overflowPkts = [] ∧ p.readOut.Perm p.streamed

/-- What a single read depends on: it returns 0 too early in front of an empty buffer with packets
in the queue behind it. -/
theorem Conserved.eofAfterData_iff (hp : Conserved p) {size : ℕ} (hsize : 0 < size) :
    p.EofAfterData size ↔ ¬ (p.con.pipeState = .eofNotConsumed ∧ p.con.recvBuffer.bytes = [] ∧
      p.con.overflowPkts ≠ []) := by
  constructor
  · rintro h ⟨heof, hnil, hwaiting⟩
    -- the buffer is empty, so the read returns 0 while the packets still wait
    have hread : p.con.readData size =
        .ok (some (0, [], { p.con with pipeState := .eofConsumed })) := by
      simp [TcpController.readData, heof, RingBuffer.empty_eq, hnil, hp.running]
    exact hwaiting (h _ _ hread).2.1
  · intro hno data con hread
    rcases p.con.readData_cases size with hr | hr | hr | ⟨heof, hnil, hr⟩ | ⟨hne, hr⟩
    · rw [hr] at hread
      cases hread
    · rw [hr] at hread
      cases hread
    · rw [hr] at hread
      cases hread
    · -- the end of the stream is read: nothing is left in either place, so all bytes were read
      have hempty : p.con.overflowPkts = [] := by
        by_contra hwaiting
        exact hno ⟨heof, hnil, hwaiting⟩
      refine ⟨hnil, hempty, ?_⟩
      have hbytes := hp.bytes
      rw [hnil, hempty] at hbytes
      simpa using hbytes
    · -- with bytes in the buffer at least one is returned
      rw [hr] at hread
      simp only [Except.ok.injEq, Option.some.injEq, Prod.mk.injEq] at hread
      have hlen : (p.con.recvBuffer.read size).1.length = 0 := by exact_mod_cast hread.1
      have hpos := List.length_pos_of_ne_nil hne
      rw [RingBuffer.read_fst, List.length_take] at hlen
      omega

/-! ### Moving what waits -/

/-- The packets of the queue fit in the whole buffer, and none waits in front of an empty one. -/
structure Movable (n : ℕ) (c : TcpController) : Prop where
  capacity : c.recvBuffer.capacity = n
  fits : ∀ q ∈ c.overflowPkts, IsData q ∧ q.payloadSize.toNat ≤ n
  ready : c.recvBuffer.bytes = [] → c.overflowPkts = []

section Moving

variable {b : RingBuffer} {c c' : TcpController} {l chain : List Packet} {n : ℕ}

/-- A packet that fits in the whole buffer is only kept out by bytes in it. -/
theorem bytes_ne_nil_of_full {q : Packet} (hfit : q.payloadSize.toNat ≤ b.capacity)
    (hfull : ¬ b.freeSpace ≥ q.payloadSize.toNat) : b.bytes ≠ [] := by
  intro hnil
  apply hfull
  have := b.size_add_freeSpace
  rw [hnil, List.length_nil] at this
  omega

/-- Pushing leaves no packet in front of an empty buffer. Induction on the queue. -/
theorem pushOverflowedLoop_ready (hl : ∀ q ∈ l, IsData q ∧ q.payloadSize.toNat ≤ b.capacity)
    (hnil : (TcpController.pushOverflowedLoop l b).2.bytes = []) :
    (TcpController.pushOverflowedLoop l b).1 = [] := by
  induction l generalizing b with
  | nil => rfl
  | cons q rest ih =>
    obtain ⟨hq, hfit⟩ := hl q (by simp)
    rw [TcpController.pushOverflowedLoop] at hnil ⊢
    by_cases hroom : b.freeSpace ≥ q.payloadSize.toNat
    · have hn := (write_data hq hroom).1
      simp only [if_pos hroom, gt_iff_lt, if_pos hn] at hnil ⊢
      refine ih (fun r hr => ?_) hnil
      rw [RingBuffer.capacity_write]
      exact hl r (by simp [hr])
    · rw [if_neg hroom] at hnil
      exact absurd hnil (bytes_ne_nil_of_full hfit hroom)

/-- Pushing makes a queue movable, whatever the buffer was. -/
theorem movable_pushOverflowed (hcap : c.recvBuffer.capacity = n)
    (hfits : ∀ q ∈ c.overflowPkts, IsData q ∧ q.payloadSize.toNat ≤ n) :
    Movable n c.pushOverflowedPacketsToSocketBuffer := by
  obtain ⟨-, hsuffix⟩ := pushOverflowedLoop_held (b := c.recvBuffer) fun q hq => (hfits q hq).1
  refine ⟨?_, fun q hq => hfits q (hsuffix.subset hq), pushOverflowedLoop_ready (hcap ▸ hfits)⟩
  show (TcpController.pushOverflowedLoop c.overflowPkts c.recvBuffer).2.capacity = n
  rw [TcpController.pushOverflowedLoop_capacity]
  exact hcap

/-- Streaming keeps a queue movable. Induction on the chain. -/
theorem Movable.streamLoop (h : Movable n c) (hchain : DataChain chain)
    (hfit : ∀ q ∈ chain, q.tcpHeader.fin = false → q.payloadSize.toNat ≤ n)
    (hrun : TcpController.streamLoop chain c = .ok c') : Movable n c' := by
  induction chain generalizing c with
  | nil =>
    cases hrun
    exact h
  | cons q rest ih =>
    obtain ⟨hsync, hq⟩ := hchain q (by simp)
    have hrest : DataChain rest := fun r hr => hchain r (by simp [hr])
    have hfits : ∀ r ∈ rest, r.tcpHeader.fin = false → r.payloadSize.toNat ≤ n :=
      fun r hr => hfit r (by simp [hr])
    rw [TcpController.streamLoop, if_neg (by simp [hsync])] at hrun
    split at hrun
    · cases hrun
      exact ⟨h.capacity, h.fits, h.ready⟩
    · next hfin =>
      have hfin' : q.tcpHeader.fin = false := by simpa using hfin
      have hsize := hfit q (by simp) hfin'
      by_cases hroom : c.recvBuffer.freeSpace ≥ q.payloadSize.toNat
      · obtain ⟨hn, hb, -⟩ := write_data (hq hfin') hroom
        simp only [if_pos hroom, if_neg hn.ne'] at hrun
        refine ih ?_ hrest hfits hrun
        refine ⟨(RingBuffer.capacity_write _ _).trans h.capacity, h.fits, fun hnil => ?_⟩
        -- the payload is in the buffer
        rw [hb, List.append_eq_nil_iff] at hnil
        have hlen := (hq hfin').payload
        have hpos := (hq hfin').pos
        rw [hnil.2, List.length_nil] at hlen
        omega
      · rw [if_neg hroom] at hrun
        refine ih ?_ hrest hfits hrun
        refine ⟨h.capacity, fun r hr => ?_, fun hnil => ?_⟩
        · rcases List.mem_append.mp hr with hr | hr
          · exact h.fits r hr
          · rw [List.mem_singleton.mp hr]
            exact ⟨hq hfin', hsize⟩
        · exact absurd hnil (bytes_ne_nil_of_full (h.capacity ▸ hsize) hroom)

/-- The listener makes a queue movable: it does nothing in front of a full buffer only. -/
theorem movable_receiveBufferListener (hcap : c.recvBuffer.capacity = n)
    (hfits : ∀ q ∈ c.overflowPkts, IsData q ∧ q.payloadSize.toNat ≤ n) :
    Movable n c.receiveBufferListener := by
  unfold TcpController.receiveBufferListener
  split
  · next hfull =>
    refine ⟨hcap, hfits, fun hnil => List.eq_nil_iff_forall_not_mem.mpr fun q hq => ?_⟩
    have hzero : c.recvBuffer.freeSpace = 0 := by simpa [RingBuffer.full_eq] using hfull
    have hsize := c.recvBuffer.size_add_freeSpace
    have hpos := (hfits q hq).1.pos
    have hle := (hfits q hq).2
    rw [hnil, List.length_nil] at hsize
    omega
  · exact movable_pushOverflowed hcap hfits

end Moving

/-! ### Watching the reads -/

/-- A read of this size empties the buffer behind a FIN, and packets are left in the queue. -/
def Drains (p : ReceivePipeline) (size : ℕ) : Prop :=
  p.con.pipeState = .eofNotConsumed ∧ p.con.recvBuffer.bytes ≠ [] ∧
    p.con.recvBuffer.bytes.length ≤ size ∧ p.con.overflowPkts ≠ []

instance (p : ReceivePipeline) (size : ℕ) : Decidable (p.Drains size) :=
  inferInstanceAs (Decidable (_ ∧ _ ∧ _ ∧ _))

/-- A pipeline, and whether its last step was a read that emptied the buffer behind a FIN. -/
structure Watched where
  pipeline : ReceivePipeline
  drained : Bool := false
deriving DecidableEq, Repr

namespace Watched

/-- One step of the pipeline. -/
def step (w : Watched) (e : PipelineStep) : Except Fatal Watched := do
  let pipeline ← w.pipeline.step e
  let drained := match e with
    | .readData size => decide (w.pipeline.Drains size)
    | .streamData _ => false
    | .listener => false
  .ok { pipeline, drained }

/-- Watching changes no run. -/
theorem run_pipeline (w : Watched) (es : List PipelineStep) :
    (run Watched.step w es).map (·.pipeline) = run ReceivePipeline.step w.pipeline es := by
  refine map_run (f := pipeline) _ (fun w e => ?_) w es
  unfold Watched.step
  cases w.pipeline.step e <;> rfl

/-- After a read that empties the buffer behind a FIN, with packets in the queue, the listener runs
or a chain is streamed before the next read, and no packet that is streamed is larger than the
whole buffer. -/
def Timely (n : ℕ) (w : Watched) : PipelineStep → Prop
  | .streamData chain => ∀ q ∈ chain, q.tcpHeader.fin = false → q.payloadSize.toNat ≤ n
  | .listener => True
  | .readData _ => w.drained = false

instance (n : ℕ) (w : Watched) : (e : PipelineStep) → Decidable (Timely n w e)
  | .streamData chain =>
    inferInstanceAs (Decidable (∀ q ∈ chain, q.tcpHeader.fin = false → q.payloadSize.toNat ≤ n))
  | .listener => .isTrue trivial
  | .readData _ => inferInstanceAs (Decidable (_ = _))

variable {w w' : Watched} {n : ℕ}

theorem step_pipeline {e : PipelineStep} (h : w.step e = .ok w') :
    w.pipeline.step e = .ok w'.pipeline := by
  obtain ⟨p, hp, h⟩ := bind_eq_ok.mp h
  cases h
  exact hp

/-- No packet waits in front of an empty buffer behind a FIN, but where the last step was the read
that emptied it. -/
structure Kept (n : ℕ) (w : Watched) : Prop where
  conserved : Conserved w.pipeline
  capacity : w.pipeline.con.recvBuffer.capacity = n
  fits : ∀ q ∈ w.pipeline.con.overflowPkts, IsData q ∧ q.payloadSize.toNat ≤ n
  ready : w.drained = false → w.pipeline.con.pipeState = .eofNotConsumed →
    w.pipeline.con.recvBuffer.bytes = [] → w.pipeline.con.overflowPkts = []

theorem Kept.of_movable (hc : Conserved w.pipeline) (h : Movable n w.pipeline.con) : Kept n w :=
  ⟨hc, h.capacity, h.fits, fun _ _ => h.ready⟩

/-- **One step in time.** -/
theorem Kept.step (h : Kept n w) {e : PipelineStep} (he : DataAndFin e) (hcond : Timely n w e)
    (hstep : w.step e = .ok w') : Kept n w' := by
  have hrun := step_pipeline hstep
  have hconserved := h.conserved.step he hrun
  cases e with
  | streamData chain =>
    obtain ⟨con, hcon, hrun⟩ := bind_eq_ok.mp hrun
    have hmovable : Movable n con :=
      (movable_pushOverflowed h.capacity h.fits).streamLoop he hcond hcon
    have heq : w'.pipeline.con = con := by rw [← Except.ok.inj hrun]
    exact .of_movable hconserved (heq ▸ hmovable)
  | listener =>
    have heq : w'.pipeline.con = w.pipeline.con.receiveBufferListener := by
      rw [← Except.ok.inj hrun]
    exact .of_movable hconserved (heq ▸ movable_receiveBufferListener h.capacity h.fits)
  | readData size =>
    obtain ⟨p, hp, hstep⟩ := bind_eq_ok.mp hstep
    cases hstep
    rw [ReceivePipeline.step] at hp
    rcases w.pipeline.con.readData_cases size with hr | hr | hr | ⟨-, -, hr⟩ | ⟨hne, hr⟩
    · rw [hr] at hp
      cases hp
    · rw [hr] at hp
      cases hp
      exact ⟨hconserved, h.capacity, h.fits, fun _ => h.ready hcond⟩
    · rw [hr] at hp
      cases hp
      exact ⟨hconserved, h.capacity, h.fits, fun _ => h.ready hcond⟩
    · -- the end of the stream was read
      rw [hr] at hp
      cases hp
      exact ⟨hconserved, h.capacity, h.fits, fun _ heof => by cases heof⟩
    · rw [hr] at hp
      cases hp
      refine ⟨hconserved, (RingBuffer.capacity_read _ _).trans h.capacity, h.fits,
        fun hdrained heof hnil => ?_⟩
      -- a read that empties the buffer and leaves packets behind is noticed
      by_contra hwaiting
      have hle : w.pipeline.con.recvBuffer.bytes.length ≤ size :=
        List.drop_eq_nil_iff.mp ((RingBuffer.bytes_read _ _).symm.trans hnil)
      exact of_decide_eq_false hdrained ⟨heof, hne, hle, hwaiting⟩

/-- What is noticed is true: packets wait in front of an empty buffer behind a FIN. -/
structure Noticed (w : Watched) : Prop where
  conserved : Conserved w.pipeline
  waiting : w.drained = true → w.pipeline.con.pipeState = .eofNotConsumed ∧
    w.pipeline.con.recvBuffer.bytes = [] ∧ w.pipeline.con.overflowPkts ≠ []

theorem Noticed.step (h : Noticed w) {e : PipelineStep} (he : DataAndFin e)
    (hstep : w.step e = .ok w') : Noticed w' := by
  refine ⟨h.conserved.step he (step_pipeline hstep), fun hdrained => ?_⟩
  obtain ⟨p, hp, hstep⟩ := bind_eq_ok.mp hstep
  cases hstep
  cases e with
  | streamData chain => cases hdrained
  | listener => cases hdrained
  | readData size =>
    obtain ⟨heof, hne, hle, hwaiting⟩ := of_decide_eq_true hdrained
    have hread : w.pipeline.con.readData size = .ok (some
        ((w.pipeline.con.recvBuffer.read size).1.length, (w.pipeline.con.recvBuffer.read size).1,
          { w.pipeline.con with recvBuffer := (w.pipeline.con.recvBuffer.read size).2 })) := by
      simp [TcpController.readData, heof, RingBuffer.empty_eq, hne, h.conserved.running]
    rw [ReceivePipeline.step, hread] at hp
    cases hp
    exact ⟨heof, (RingBuffer.bytes_read _ _).trans (List.drop_eq_nil_iff.mpr hle), hwaiting⟩

/-- Every read of the run that returns 0 is behind all data. -/
def EofsAfterData (w : Watched) (es : List PipelineStep) : Prop :=
  ∀ pre size t, pre ++ [.readData size] <+: es → 0 < size → run Watched.step w pre = .ok t →
    t.pipeline.EofAfterData size

/-- The packets that are streamed fit in the whole buffer, and reads ask for something. -/
def Fits (n : ℕ) : PipelineStep → Prop
  | .streamData chain => ∀ q ∈ chain, q.tcpHeader.fin = false → q.payloadSize.toNat ≤ n
  | .listener => True
  | .readData size => 0 < size

instance (n : ℕ) : (e : PipelineStep) → Decidable (Fits n e)
  | .streamData chain =>
    inferInstanceAs (Decidable (∀ q ∈ chain, q.tcpHeader.fin = false → q.payloadSize.toNat ≤ n))
  | .listener => .isTrue trivial
  | .readData size => inferInstanceAs (Decidable (0 < size))

end Watched

end ReceivePipeline

/-- **When the end of the stream is reported behind all data.** In every run of the steps, in any
order and with buffers and packets of any size: every `ReadData` of a positive size that returns 0
is behind all data, if no packet is larger than the buffer and after a read that empties the buffer
behind a FIN, with packets left in the queue, the listener or another chain comes before the next
read. Where packets do fit, this is exact. -/
theorem eof_after_data (key : TcpControllerKey) (options : TcpControllerOptions)
    {es : List PipelineStep} (hes : ∀ e ∈ es, DataAndFin e) :
    (Meets Watched.step (Watched.Timely options.recvBufferSize) ⟨.new key options, false⟩ es →
      Watched.EofsAfterData ⟨.new key options, false⟩ es) ∧
    ((∀ e ∈ es, Watched.Fits options.recvBufferSize e) →
      Watched.EofsAfterData ⟨.new key options, false⟩ es →
      Meets Watched.step (Watched.Timely options.recvBufferSize) ⟨.new key options, false⟩ es) := by
  set w₀ : Watched := ⟨.new key options, false⟩
  have hconserved : Conserved w₀.pipeline :=
    ⟨rfl, by simp [w₀, ReceivePipeline.new, TcpController.new],
      by simp [w₀, ReceivePipeline.new, TcpController.new]⟩
  have hkept : Watched.Kept options.recvBufferSize w₀ :=
    ⟨hconserved, by simp [w₀, ReceivePipeline.new, TcpController.new],
      by simp [w₀, ReceivePipeline.new, TcpController.new], fun _ _ _ => rfl⟩
  have hmeets : ∀ {pre}, pre <+: es → Meets Watched.step (fun _ e => DataAndFin e) w₀ pre :=
    fun hpre => Meets.of_forall _ fun e he => hes e (hpre.subset he)
  constructor
  · rintro hcond pre size t ⟨rest, rfl⟩ hsize ht
    have hcond' := hcond.of_append
    have hdata := hmeets (List.prefix_append (pre ++ [.readData size]) rest)
    have hk : Watched.Kept options.recvBufferSize t :=
      run_induction_of_meets Watched.step (P := Watched.Kept options.recvBufferSize)
        (fun _ _ _ h hc hstep => h.step hc.1 hc.2 hstep) hkept
        (hdata.of_append.and _ hcond'.of_append) ht
    refine (hk.conserved.eofAfterData_iff hsize).mpr fun ⟨heof, hnil, hwaiting⟩ => ?_
    exact hwaiting (hk.ready (hcond'.last _ ht) heof hnil)
  · intro hfits h
    refine meets_of_forall_prefix _ fun pre e t hpre ht => ?_
    have he : e ∈ es := hpre.subset (by simp)
    cases e with
    | streamData chain => exact hfits _ he
    | listener => trivial
    | readData size =>
      have hpre' : pre <+: es := (List.prefix_append pre _).trans hpre
      have hn : Watched.Noticed t := run_induction_of_meets Watched.step (P := Watched.Noticed)
        (fun _ _ _ h hc hstep => h.step hc hstep) ⟨hconserved, fun h => by cases h⟩ (hmeets hpre') ht
      -- the next read would not be behind all data
      have hread := (hn.conserved.eofAfterData_iff (hfits _ he)).mp (h pre size t hpre (hfits _ he) ht)
      exact Bool.eq_false_iff.mpr fun hdrained => hread (hn.waiting hdrained)

end

section

open scoped Reference

/-- A FIN behind data. -/
def finBehind (chain : List Packet) : List Packet :=
  chain ++ [{ ipHeader := {}, tcpHeader := { fin := true }, payloadSize := 1 }]

/-- Bytes that do not fit at once arrive with the FIN; the listener moves them in time. -/
def listenerFirst : List PipelineStep :=
  [.streamData (finBehind [bytesOf 10, bytesOf 5]), .readData 10, .listener, .readData 10, .readData 1]

theorem eof_after_data_listenerFirst :
    Watched.EofsAfterData ⟨.new {} tenBytes, false⟩ listenerFirst ∧
      Meets Watched.step (Watched.Timely 10) ⟨.new {} tenBytes, false⟩ listenerFirst := by
  have hes : ∀ e ∈ listenerFirst, DataAndFin e := by decide
  have htimely : Meets Watched.step (Watched.Timely 10) ⟨.new {} tenBytes, false⟩ listenerFirst := by
    decide +kernel
  have heofs := (eof_after_data {} tenBytes hes).1 htimely
  exact ⟨heofs, (eof_after_data {} tenBytes hes).2 (by decide) heofs⟩

/-- The buffer is read before the listener has run: the next read returns 0 with 5 bytes
waiting. -/
theorem not_eof_after_data : ¬ ∀ (options : TcpControllerOptions) (es : List PipelineStep),
    (∀ e ∈ es, DataAndFin e) → Watched.EofsAfterData ⟨.new {} options, false⟩ es := by
  intro h
  have hrun : (run Watched.step ⟨.new {} tenBytes, false⟩
      [.streamData (finBehind [bytesOf 10, bytesOf 5]), .readData 10]).map (fun t =>
        ((t.pipeline.con.readData 1).map (Option.map Prod.fst), t.pipeline.con.overflowPkts)) =
      .ok (.ok (some 0), [bytesOf 5]) := by decide +kernel
  obtain ⟨t, ht, heq⟩ := map_eq_ok.mp hrun
  obtain ⟨hread, hwaiting⟩ := Prod.mk.inj heq
  obtain ⟨r, hr, hzero⟩ := map_eq_ok.mp hread
  obtain ⟨⟨n, data, con⟩, rfl, rfl⟩ := Option.map_eq_some_iff.mp hzero
  have hempty := (h tenBytes
    [.streamData (finBehind [bytesOf 10, bytesOf 5]), .readData 10, .readData 1] (by decide)
    [.streamData (finBehind [bytesOf 10, bytesOf 5]), .readData 10] 1 t (List.prefix_refl _)
    Nat.one_pos ht data con hr).2.1
  rw [hwaiting] at hempty
  cases hempty

end

end NetStack
