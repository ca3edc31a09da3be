import TcpStack.Proofs.Frames
import TcpStack.Proofs.Refinement

/-!
# TcpStack — the send pipeline refines the protocol

* **`Linked.writeData`** — accepted bytes go to the send buffer, and only before a FIN.
* **`Linked.sendBufferListener`** — the bytes leave the send buffer in packets that fit in the
  send window; the window refuses none of them.
* **`Linked.runSendFIN`** — a FIN goes behind the last byte.
* **`Linked.timeoutReTransmitter`**, **`Linked.probeWindowSize`** — the timers.
-/

namespace NetStack

open Tiling Transition SlidingWindow

variable [HyLib]

variable {e f : Endpoint} {wo wi : List Packet} {s₁ s₂ : State Packet}

/-! ## Room in the send window -/

/-- `free_space` is a truncated difference. -/
theorem SendWindow.freeSpace_toNat (w : SendWindow) :
    w.freeSpace.toNat = w.capacity.toNat - w.size.toNat := by
  unfold SendWindow.freeSpace
  split
  · next hlt => rw [UInt32.toNat_sub_of_le _ _ (UInt32.le_of_lt hlt)]
  · next hge =>
    have := UInt32.le_iff_toNat_le.mp (UInt32.not_lt.mp hge)
    rw [UInt32.toNat_zero]
    omega

/-- Registering a packet that fits takes its length from the free space. -/
theorem SendWindow.freeSpace_enqueue {w : SendWindow} {clock : ℕ} {p : Packet}
    (h : len p ≤ w.freeSpace.toNat) :
    (w.enqueue clock p).freeSpace.toNat = w.freeSpace.toNat - len p := by
  rw [freeSpace_toNat] at h
  have hcap : w.capacity.toNat < 2 ^ 32 := w.capacity.toNat_lt
  have hlen : p.payloadSize.toNat = len p := rfl
  have hsize : (w.size + p.payloadSize).toNat = w.size.toNat + len p ∨ len p = 0 := by
    rcases Nat.eq_zero_or_pos (len p) with h0 | hpos
    · exact Or.inr h0
    · rw [UInt32.toNat_add, hlen, Nat.mod_eq_of_lt (by omega)]
      exact Or.inl rfl
  rw [freeSpace_toNat, freeSpace_toNat]
  show w.capacity.toNat - (w.size + p.payloadSize).toNat = _
  rcases hsize with hsize | h0
  · rw [hsize]
    omega
  · have hzero : p.payloadSize = 0 := UInt32.toNat_inj.mp (by rw [hlen, h0, UInt32.toNat_zero])
    rw [hzero, UInt32.add_zero, h0]
    omega

/-- Before the first FIN the size of the window does not wrap. -/
theorem Sends.size_toNat {s : State Packet} (h : Sends e s) (hno : NoFin s.hist) (hu : 1 ≤ s.una) :
    e.con.sendWindow.size.toNat + offset s.hist s.una = offset s.hist s.hist.length := by
  have hcap := e.con.sendWindow.capacity.toNat_lt
  have hedge := h.edge hno
  have hcredit := h.credit hno hu
  have hmono : offset s.hist s.una ≤ offset s.hist s.hist.length :=
    offset_mono _ h.window.una_le
  rw [h.window.size, UInt32.toNat_ofNat_of_lt' (by simp only [UInt32.size]; omega)]
  omega

/-- **Flow control.** What may be sent fits in the receive buffer. -/
theorem Direction.room_of_edge (h : Direction e f s₁) (hu : 1 ≤ s₁.una) {hist : List Packet}
    (hpre : s₁.hist <+: hist) (hhist : History hist) (hno : NoFin hist)
    (hedge : offset hist hist.length ≤ s₁.credit) :
    (stream hist).length ≤ f.readOut.length + f.con.recvBuffer.capacity := by
  have hr : 1 ≤ s₁.rcvd := hu.trans h.inv.una_le_rcvd
  have hlen : 1 ≤ s₁.hist.length := hr.trans h.inv.rcvd_le
  have hno₁ : NoFin s₁.hist := fun p hp => hno p (hpre.subset hp)
  -- both histories start with the SYN
  obtain ⟨p, hp⟩ : ∃ p, s₁.hist[0]? = some p := ⟨_, List.getElem?_eq_getElem (by omega)⟩
  have hsync : p.tcpHeader.sync = true := by
    have hc := h.sends.first p hp
    simpa [Packet.control, hno₁ p (List.mem_of_getElem? hp)] using hc
  have hp' : hist[0]? = some p := by
    obtain ⟨m, rfl⟩ := hpre
    rw [List.getElem?_append_left (by omega), hp]
  have hend := hhist.offset_eq_of_noFin hno hp' hsync
    (show 1 ≤ hist.length from hlen.trans hpre.length_le)
  have hrcvd := h.sends.history.offset_eq_of_noFin hno₁ hp hsync hr
  have hlimit := h.inv.credit_le_limit
  rw [h.receives.limit] at hlimit
  have hbuf := f.con.recvBuffer.size_add_freeSpace
  rw [List.take_length] at hend
  have hdel := congrArg List.length h.receives.delivered
  rw [List.length_append] at hdel
  omega

/-! ## Data packets -/

/-- The packet made of the first `n` bytes of the send buffer. -/
def TcpController.dataPacket (c : TcpController) (n : ℕ) : Packet where
  ipHeader := c.ipHeader
  tcpHeader := { c.tcpHeader with seqNum := c.sendWindow.nextSeqNumberToSend }
  payload := c.sendBuffer.bytes.take n
  payloadSize := UInt32.ofNat n

section DataPacket

variable {c : TcpController} {n : ℕ} (hpos : 0 < n) (hn : n ≤ 10) (hsize : n ≤ c.sendBuffer.size)

theorem TcpController.dataPacket_noFin : (c.dataPacket n).tcpHeader.fin = false := rfl

include hn in
theorem TcpController.len_dataPacket : len (c.dataPacket n) = n :=
  UInt32.toNat_ofNat_of_lt' (by simp only [UInt32.size]; omega)

include hsize in
theorem TcpController.dataPacket_payload : (c.dataPacket n).payload.length = n := by
  rw [TcpController.dataPacket, List.length_take, Nat.min_eq_left]
  rwa [← RingBuffer.size_eq]

include hpos hn hsize

theorem TcpController.dataPacket_regular : (c.dataPacket n).Regular where
  rst := rfl
  ack := by simp [TcpController.dataPacket, TcpController.tcpHeader]
  sync := by simp [TcpController.dataPacket, TcpController.tcpHeader]
  control := by simp [Packet.control, TcpController.dataPacket, TcpController.tcpHeader]
  data := fun _ => by
    rw [TcpController.len_dataPacket hn, TcpController.dataPacket_payload hsize]
    exact ⟨rfl, hpos, hn⟩

theorem TcpController.makeDataPacketFromBuffer_eq :
    c.makeDataPacketFromBuffer c.sendWindow.nextSeqNumberToSend c.sendBuffer (UInt32.ofNat n)
      = (c.dataPacket n, (c.sendBuffer.read n).2) := by
  have hnat : (UInt32.ofNat n).toNat = n :=
    UInt32.toNat_ofNat_of_lt' (by simp only [UInt32.size]; omega)
  have hn0 : UInt32.ofNat n ≠ 0 := by
    intro h0
    rw [h0, UInt32.toNat_zero] at hnat
    omega
  have htake := TcpController.dataPacket_payload hsize
  simp only [TcpController.dataPacket] at htake
  simp only [TcpController.makeDataPacketFromBuffer, Packet.injectPayloadFromBuffer, if_neg hn0,
    RingBuffer.read_fst, hnat, htake, TcpController.dataPacket]

end DataPacket

/-- The sender after registering `n` bytes that fit in the window, before the first FIN. -/
theorem Sends.dataPacket {s : State Packet} (h : Sends e s) (hu : 1 ≤ s.una) (hno : NoFin s.hist)
    {n : ℕ} (hpos : 0 < n) (hn : n ≤ 10) (hsize : n ≤ e.con.sendBuffer.size)
    (hfree : n ≤ e.con.sendWindow.freeSpace.toNat) (clock : ℕ) :
    Sends { e with con := { e.con with
        sendWindow := e.con.sendWindow.enqueue clock (e.con.dataPacket n)
        sendBuffer := (e.con.sendBuffer.read n).2 } }
      { s with hist := s.hist ++ [e.con.dataPacket n] } ∧
    NoFin (s.hist ++ [e.con.dataPacket n]) := by
  set p := e.con.dataPacket n with hp
  have hreg : p.Regular := TcpController.dataPacket_regular hpos hn hsize
  have hlen : len p = n := TcpController.len_dataPacket hn
  have hno' : NoFin (s.hist ++ [p]) := by
    intro q hq
    rcases List.mem_append.mp hq with hq | hq
    · exact hno q hq
    · rw [List.mem_singleton.mp hq]
      exact TcpController.dataPacket_noFin
  have hne : s.hist ≠ [] := List.ne_nil_of_length_pos (by have := h.window.una_le; omega)
  -- the packet does not go beyond the right edge
  have hedge : offset (s.hist ++ [p]) (s.hist ++ [p]).length ≤ s.credit := by
    have h₁ := h.size_toNat hno hu
    have h₂ := h.credit hno hu
    rw [SendWindow.freeSpace_toNat] at hfree
    rw [offset_concat, hlen]
    omega
  refine ⟨⟨h.window.enqueue clock p, ?_, ?_, ?_, ?_, fun hfin => absurd hno' hfin, ?_, ?_, ?_⟩,
    hno'⟩
  · exact h.history.concat hreg h.window.nextSeqNumberToSend
      (by simp [hp, TcpController.dataPacket, TcpController.tcpHeader]) (fun _ => hno)
  · intro q hq
    rw [List.getElem?_append_left (List.length_pos_iff.mpr hne)] at hq
    exact h.first q hq
  · rw [← h.written, stream_append, List.append_assoc]
    simp [hp, TcpController.dataPacket]
  · rw [List.countP_append]
    simpa [hp, TcpController.dataPacket_noFin] using h.fins
  · intro hu0
    simp only at hu0
    omega
  · intro _ _
    rw [offset_append _ h.window.una_le]
    exact h.credit hno hu
  · exact fun _ => max_le ((le_max_left _ _).trans (h.edge hno)) hedge

/-- Registering and transmitting `n` bytes of the send buffer. -/
theorem Linked.sendDataPacket (h : Linked e f wo wi s₁ s₂) (hu : 1 ≤ s₁.una)
    (hno : NoFin s₁.hist) {n : ℕ} (hpos : 0 < n) (hn : n ≤ 10)
    (hsize : n ≤ e.con.sendBuffer.size) (hfree : n ≤ e.con.sendWindow.freeSpace.toNat)
    (clock : ℕ) (restartTimer : Bool) :
    ∃ c', e.con.sendDataPacket clock (UInt32.ofNat n) restartTimer = .ok c' ∧
      c'.sendBuffer.size = e.con.sendBuffer.size - n ∧
      c'.sendWindow.freeSpace.toNat = e.con.sendWindow.freeSpace.toNat - n ∧
      ∃ s₁', Steps s₁ s₁' ∧ 1 ≤ s₁'.una ∧ NoFin s₁'.hist ∧
        Linked { e with con := c' } f wo wi s₁' s₂ := by
  obtain ⟨hsends, hno'⟩ := h.out.sends.dataPacket hu hno hpos hn hsize hfree clock
  have hmake := TcpController.makeDataPacketFromBuffer_eq hpos hn hsize
  have hreg := TcpController.dataPacket_regular hpos hn hsize
  have hlen := TcpController.len_dataPacket (c := e.con) hn
  set p := e.con.dataPacket n with hp
  have hroom : ¬ (e.con.sendWindow.freeSpace < p.payloadSize ∧ e.con.sendWindow.capacity > 0) := by
    rintro ⟨hlt, -⟩
    have := UInt32.lt_iff_toNat_lt.mp hlt
    have hpn : p.payloadSize.toNat = n := hlen
    omega
  have hsent := h.out.sends.window.sendPacket h.out.sends.history.tiled clock (p := p) rfl hroom
  have hne : s₁.hist ≠ [] := List.ne_nil_of_length_pos (by have := h.out.inv.una_le; omega)
  have hedge := (le_max_right _ _).trans (hsends.edge hno')
  obtain ⟨s₁', hsteps, hh, hun, -, hlinked⟩ := h.enqueue [p] hsends
    (h.out.room_of_edge hu (List.prefix_append _ [p]) hsends.history hno' hedge)
    (h.greets.concat hne p) (Or.inr ⟨rfl, Or.inr hu⟩)
  refine ⟨{ e.con with
      sendBuffer := (e.con.sendBuffer.read n).2
      sendWindow := e.con.sendWindow.enqueue clock p
      timer := if restartTimer then e.con.timer.restart else e.con.timer
      pktSendBuffer := e.con.pktSendBuffer ++ [p] }, ?_, ?_, ?_, s₁', hsteps, hun ▸ hu,
    hh ▸ hno', hlinked.similar {}⟩
  · rw [TcpController.sendDataPacket, hmake]
    simp only [hsent, ok_bind, Bool.not_true, Bool.false_eq_true, if_false,
      TcpController.sendPacket, hreg.copy_eq]
  · simp [RingBuffer.size_eq]
  · rw [← hlen]
    exact SendWindow.freeSpace_enqueue (by rw [hlen]; exact hfree)

/-- The loop over the full packets. Induction on their number. -/
theorem Linked.sendFullPackets (clock : ℕ) (numPkts : ℕ) (e : Endpoint) (s₁ : State Packet)
    (h : Linked e f wo wi s₁ s₂) (hu : 1 ≤ s₁.una) (hno : NoFin s₁.hist)
    (hsize : 10 * numPkts ≤ e.con.sendBuffer.size)
    (hfree : 10 * numPkts ≤ e.con.sendWindow.freeSpace.toNat) :
    ∃ c', TcpController.sendFullPackets clock numPkts e.con = .ok c' ∧
      c'.sendBuffer.size = e.con.sendBuffer.size - 10 * numPkts ∧
      c'.sendWindow.freeSpace.toNat = e.con.sendWindow.freeSpace.toNat - 10 * numPkts ∧
      ∃ s₁', Steps s₁ s₁' ∧ 1 ≤ s₁'.una ∧ NoFin s₁'.hist ∧
        Linked { e with con := c' } f wo wi s₁' s₂ := by
  induction numPkts generalizing e s₁ with
  | zero => exact ⟨e.con, rfl, rfl, rfl, s₁, .refl, hu, hno, h⟩
  | succ numPkts ih =>
    obtain ⟨c, hc, hcs, hcf, s₁', hsteps, hu', hno', hlinked⟩ := h.sendDataPacket hu hno
      (show 0 < 10 by omega) le_rfl (by omega) (by omega) clock
      (e.con.sendWindow.numPacketsToAck == 0)
    obtain ⟨c', hc', hcs', hcf', s₁'', hsteps', hu'', hno'', hlinked'⟩ :=
      ih { e with con := c } s₁' hlinked hu' hno' (by rw [hcs]; omega) (by rw [hcf]; omega)
    refine ⟨c', ?_, ?_, ?_, s₁'', hsteps.trans hsteps', hu'', hno'', hlinked'⟩
    · rw [TcpController.sendFullPackets]
      show e.con.sendDataPacket clock (UInt32.ofNat 10) _ >>= _ = _
      rw [hc, ok_bind]
      exact hc'
    · rw [hcs', hcs]
      omega
    · rw [hcf', hcf]
      omega

/-- **An iteration of `SendBufferListener`** packs what the window has room for. -/
theorem Linked.sendBufferListenerLoop (h : Linked e f wo wi s₁ s₂) (hu : 1 ≤ s₁.una) (clock : ℕ) :
    ∃ c', e.con.sendBufferListenerLoop clock = .ok c' ∧
      ∃ s₁', Steps s₁ s₁' ∧ Linked { e with con := c' } f wo wi s₁' s₂ := by
  unfold TcpController.sendBufferListenerLoop
  split
  · exact ⟨e.con, rfl, s₁, .refl, h⟩
  · next hwait =>
    simp only [Bool.or_eq_true, not_or, Bool.not_eq_true] at hwait
    obtain ⟨-, hempty⟩ := hwait
    -- a FIN would have waited for the buffer to drain
    have hno : NoFin s₁.hist := by
      by_contra hfin
      simp [RingBuffer.empty_eq, h.out.sends.drained hfin] at hempty
    unfold TcpController.sendBufferListenerBody
    split
    · exact ⟨e.con, rfl, s₁, .refl, h⟩
    · split
      · exact ⟨_, rfl, s₁, .refl, h.similar {}⟩
      · unfold TcpController.packetise
        have hk : kDefaultDataPacketSize.toNat = 10 := rfl
        simp only [hk]
        set sizeToSend := min e.con.sendWindow.freeSpace.toNat e.con.sendBuffer.size with hmin
        have hdiv := Nat.div_add_mod sizeToSend 10
        have hmod : sizeToSend % 10 < 10 := Nat.mod_lt _ (by omega)
        have hfree : sizeToSend ≤ e.con.sendWindow.freeSpace.toNat := Nat.min_le_left _ _
        have hsize : sizeToSend ≤ e.con.sendBuffer.size := Nat.min_le_right _ _
        obtain ⟨c, hc, hcs, hcf, s₁', hsteps, hu', hno', hlinked⟩ :=
          Linked.sendFullPackets clock (sizeToSend / 10) e s₁ h hu hno (by omega) (by omega)
        rw [hc, ok_bind]
        split
        · next hlast =>
          obtain ⟨c', hc', -, -, s₁'', hsteps', -, -, hlinked'⟩ := hlinked.sendDataPacket hu' hno'
            hlast (by omega) (by rw [hcs]; omega) (by rw [hcf]; omega) clock
            (c.sendWindow.size == 0)
          exact ⟨c', hc', s₁'', hsteps.trans hsteps', hlinked'⟩
        · exact ⟨c, rfl, s₁', hsteps, hlinked⟩

theorem Linked.sendBufferListener (h : Linked e f wo wi s₁ s₂)
    (hopen : e.con.MaySend → 1 ≤ s₁.una) (clock : ℕ) :
    ∃ c', e.con.sendBufferListener clock = .ok c' ∧
      ∃ s₁', Steps s₁ s₁' ∧ Linked { e with con := c' } f wo wi s₁' s₂ := by
  unfold TcpController.sendBufferListener
  split
  · exact ⟨e.con, rfl, s₁, .refl, h⟩
  · next hwait =>
    have hpassed : Linked { e with con := { e.con with sending := true } } f wo wi s₁ s₂ :=
      h.similar {}
    exact hpassed.sendBufferListenerLoop (hopen (TcpController.maySend_of_not_wait hwait)) clock

/-! ## Writing and closing -/

/-- Once a FIN is registered the application has asked for it. -/
theorem Sends.noFin_of_open {s : State Packet} (h : Sends e s)
    (hopen : (e.shutDown || e.closed) = false) : NoFin s.hist := by
  have hfins := h.fins
  simp only [Bool.or_eq_false_iff] at hopen
  rw [hopen.1, hopen.2] at hfins
  simp only [Bool.toNat_false, Nat.add_zero, Nat.le_zero, Nat.add_eq_zero_iff] at hfins
  intro p hp
  simpa using List.countP_eq_zero.mp hfins.1 p hp

/-- **`WriteData`** appends what it accepts to the send buffer, and accepts nothing once a FIN
may be registered. -/
theorem Linked.writeData (h : Linked e f wo wi s₁ s₂) (buf : List UInt8) :
    Linked (e.writeData buf) f wo wi s₁ s₂ := by
  by_cases hopen : (e.shutDown || e.closed) = true
  · rw [Endpoint.writeData, if_pos hopen]
    exact h
  · have hno := h.out.sends.noFin_of_open (by simpa using hopen)
    obtain ⟨b, l, hw, hb⟩ := e.writeData_frame buf
    rw [hw]
    refine ⟨{ h.out with sends := { h.out.sends with
        written := ?_, drained := fun hfin => absurd hno hfin } },
      { h.inn with receives := { h.inn.receives with } }, h.toPeer, h.fromPeer, h.greets,
      h.greeted⟩
    rw [hb, ← List.append_assoc, h.out.sends.written]

/-- A request to close queues at most one `SendFIN` task. -/
theorem Linked.requestFIN (h : Linked e f wo wi s₁ s₂) {shutDown closed : Bool} {k : ℕ}
    (hflags : e.shutDown.toNat + e.closed.toNat + k ≤ shutDown.toNat + closed.toNat) :
    Linked { e with shutDown, closed, finTasks := e.finTasks + k } f wo wi s₁ s₂ := by
  have hfins := h.out.sends.fins
  refine ⟨{ h.out with sends := { h.out.sends with fins := ?_ } },
    { h.inn with receives := { h.inn.receives with } }, h.toPeer, h.fromPeer, h.greets, h.greeted⟩
  show _ + (e.finTasks + k) ≤ shutDown.toNat + closed.toNat
  omega

theorem Linked.shutDownSocket (h : Linked e f wo wi s₁ s₂) :
    Linked e.shutDownSocket f wo wi s₁ s₂ := by
  obtain ⟨b, k, hs, hflag⟩ := e.shutDownSocket_frame
  rw [hs]
  exact h.requestFIN (by omega)

theorem Linked.closeSocket (h : Linked e f wo wi s₁ s₂) : Linked e.closeSocket f wo wi s₁ s₂ := by
  obtain ⟨b, k, hs, hflag⟩ := e.closeSocket_frame
  rw [hs]
  exact h.requestFIN (by omega)

theorem TcpController.makeSyncAckPacket_regular (c : TcpController) (seqNum ackNum : UInt32) :
    (c.makeSyncAckPacket seqNum ackNum).Regular where
  rst := rfl
  ack := fun _ => rfl
  sync := fun _ => rfl
  control := fun _ => ⟨rfl, rfl⟩
  data := by simp [Packet.control, TcpController.makeSyncAckPacket, TcpController.makeSyncPacket]

/-- The FIN packet `SendFIN` makes. -/
def TcpController.finPacket (c : TcpController) : Packet :=
  c.makeFinPacket c.sendWindow.nextSeqNumberToSend

theorem TcpController.finPacket_regular (c : TcpController) : c.finPacket.Regular where
  rst := rfl
  ack := by simp [finPacket, TcpController.makeFinPacket, TcpController.tcpHeader]
  sync := by simp [finPacket, TcpController.makeFinPacket, TcpController.tcpHeader]
  control := fun _ => ⟨rfl, rfl⟩
  data := by simp [finPacket, Packet.control, TcpController.makeFinPacket]

/-- The window takes the FIN whatever its capacity was: the capacity is raised for it, unless
it wraps to zero, which waives the check. -/
theorem TcpController.sendFINWindow_eq {c : TcpController} {hist : List Packet} {una : ℕ}
    (h : c.sendWindow.Holds hist una) (ht : Tiled hist) (clock : ℕ) :
    c.sendFINWindow clock = .ok (c.finPacket, { c with
      sendWindow :=
        (c.sendWindow.setCapacity (c.sendWindow.size + 1)).enqueue clock c.finPacket }) := by
  have hroom : ¬ ((c.sendWindow.setCapacity (c.sendWindow.size + 1)).freeSpace
        < c.finPacket.payloadSize ∧
      (c.sendWindow.setCapacity (c.sendWindow.size + 1)).capacity > 0) := by
    rintro ⟨hlt, hcap⟩
    have hlt' := UInt32.lt_iff_toNat_lt.mp hlt
    have hcap' := UInt32.lt_iff_toNat_lt.mp hcap
    rw [SendWindow.freeSpace_toNat] at hlt'
    simp only [SendWindow.setCapacity, UInt32.toNat_add, UInt32.toNat_one,
      UInt32.toNat_zero] at hlt' hcap'
    have hsz := c.sendWindow.size.toNat_lt
    have hp1 : c.finPacket.payloadSize.toNat = 1 := rfl
    omega
  have hsent := (h.setCapacity (c.sendWindow.size + 1)).sendPacket ht clock
    (p := c.finPacket) rfl hroom
  unfold TcpController.sendFINWindow
  simp only
  rw [show c.makeFinPacket
    (c.sendWindow.setCapacity (c.sendWindow.size + 1)).nextSeqNumberToSend = c.finPacket from rfl,
    hsent, ok_bind]
  rfl

/-- The sender after registering a FIN. -/
theorem Sends.finPacket {s : State Packet} (h : Sends e s) (hdrained : e.con.sendBuffer.bytes = [])
    (htask : e.finTasks ≠ 0) (clock : ℕ) :
    Sends { e with
        con := { e.con with
          sendWindow := (e.con.sendWindow.setCapacity (e.con.sendWindow.size + 1)).enqueue clock
            e.con.finPacket }
        finTasks := e.finTasks - 1 }
      { s with hist := s.hist ++ [e.con.finPacket] } := by
  set p := e.con.finPacket with hp
  have hreg : p.Regular := e.con.finPacket_regular
  have hpfin : p.tcpHeader.fin = true := rfl
  have hpay : p.payload = [] := rfl
  have hfin : ¬ NoFin (s.hist ++ [p]) := by
    intro hno
    simp [hno p (by simp)] at hpfin
  refine ⟨(h.window.setCapacity _).enqueue clock p, ?_, ?_, ?_, ?_, fun _ => hdrained, ?_,
    fun hno => absurd hno hfin, fun hno => absurd hno hfin⟩
  · refine h.history.concat hreg h.window.nextSeqNumberToSend (fun hs => ?_) (by simp [hpfin])
    simp [hreg.sync hs] at hpfin
  · intro q hq
    rcases hnil : s.hist with _ | ⟨r, rest⟩
    · simp only [hnil, List.nil_append, List.getElem?_cons_zero, Option.some.injEq] at hq
      rw [← hq, Packet.control, hpfin, Bool.or_true]
    · refine h.first q ?_
      simpa [hnil] using hq
  · simp [hpay, h.written]
  · have := h.fins
    rw [List.countP_append]
    simp only [List.countP_cons, hpfin, if_true, List.countP_nil]
    omega
  · intro hu
    obtain ⟨-, hquiet⟩ := h.opening hu
    refine ⟨?_, by simp [hquiet, hpay]⟩
    -- a handful of sequence numbers do not wrap
    have hle := h.offset_le_of_opening hu
    show e.con.sendWindow.size + 1 ≠ 0
    intro h0
    have hnat := congrArg UInt32.toNat h0
    rw [h.window.size, UInt32.toNat_add, UInt32.toNat_ofNat_of_lt' (by
      simp only [UInt32.size]; omega)] at hnat
    simp only [UInt32.toNat_one, UInt32.toNat_zero] at hnat
    omega

/-- A FIN is no greeting. -/
theorem Greets.finPacket (h : Greets e s₁ s₂) :
    Greets e { s₁ with hist := s₁.hist ++ [e.con.finPacket] } s₂ := by
  by_cases hnil : s₁.hist = []
  · intro q hq hs
    simp only [hnil, List.nil_append, List.getElem?_cons_zero, Option.some.injEq] at hq
    rw [← hq] at hs
    simp [TcpController.finPacket, TcpController.makeFinPacket, TcpController.tcpHeader] at hs
  · exact h.concat hnil _

/-- Registering the FIN and, in ESTABLISHED and CLOSE_WAIT only, transmitting it: there the
SYN is acknowledged. -/
theorem Linked.sendFINState (h : Linked e f wo wi s₁ s₂)
    (hopen : e.con.inConnectingState = false → 1 ≤ s₁.una)
    (hempty : e.con.sendBuffer.bytes = []) (htask : e.finTasks ≠ 0) (clock : ℕ) :
    ∃ s₁', Steps s₁ s₁' ∧
      Linked { e with
        con := TcpController.sendFINState { e.con with
          sendWindow := (e.con.sendWindow.setCapacity (e.con.sendWindow.size + 1)).enqueue clock
            e.con.finPacket } e.con.finPacket
        finTasks := e.finTasks - 1 } f wo wi s₁' s₂ := by
  have hsends := h.out.sends.finPacket hempty htask clock
  have hroom : (stream (s₁.hist ++ [e.con.finPacket])).length
      ≤ f.readOut.length + f.con.recvBuffer.capacity := by
    rw [stream_append, List.length_append]
    exact h.out.room
  have hsent : 1 ≤ s₁.una → _ := fun hu => h.enqueue [e.con.finPacket] hsends hroom
    h.greets.finPacket (Or.inr ⟨rfl, Or.inr hu⟩)
  have hcopy := e.con.finPacket_regular.copy_eq
  unfold TcpController.sendFINState
  split
  · next hst =>
    have hst' : e.con.state = .established := hst
    obtain ⟨s₁', hsteps, -, -, -, hlinked⟩ :=
      hsent (hopen (by simp [TcpController.inConnectingState, hst']))
    rw [hcopy]
    exact ⟨s₁', hsteps, hlinked.similar {}⟩
  · next hst =>
    have hst' : e.con.state = .closeWait := hst
    obtain ⟨s₁', hsteps, -, -, -, hlinked⟩ :=
      hsent (hopen (by simp [TcpController.inConnectingState, hst']))
    rw [hcopy]
    exact ⟨s₁', hsteps, hlinked.similar {}⟩
  · obtain ⟨s₁', hsteps, -, -, -, hlinked⟩ :=
      h.enqueue [] hsends hroom h.greets.finPacket (Or.inl rfl)
    exact ⟨s₁', hsteps, hlinked.similar { pktSendBuffer := by simp }⟩

/-- **`SendFIN`** registers a FIN behind the last byte, unless the controller is shutting
down. -/
theorem Linked.runSendFIN (h : Linked e f wo wi s₁ s₂)
    (hopen : e.con.inConnectingState = false → 1 ≤ s₁.una) (clock : ℕ) :
    ∃ e', e.runSendFIN clock = .ok e' ∧ ∃ s₁', Steps s₁ s₁' ∧ Linked e' f wo wi s₁' s₂ := by
  unfold Endpoint.runSendFIN
  split
  · exact ⟨e, rfl, s₁, .refl, h⟩
  · next hwait =>
    simp only [Bool.or_eq_true, decide_eq_true_eq, Bool.not_eq_true', not_or,
      Bool.not_eq_false] at hwait
    obtain ⟨htask, hdrain⟩ := hwait
    unfold TcpController.sendFIN
    split
    · refine ⟨_, rfl, s₁, .refl, ?_⟩
      refine ⟨{ h.out with sends := { h.out.sends with fins := ?_ } },
        { h.inn with receives := { h.inn.receives with } }, h.toPeer, h.fromPeer, h.greets,
        h.greeted⟩
      have := h.out.sends.fins
      show _ + (e.finTasks - 1) ≤ e.shutDown.toNat + e.closed.toNat
      omega
    · next hshut =>
      have hempty : e.con.sendBuffer.bytes = [] := by
        simpa [TcpController.sendFINWait, hshut, RingBuffer.empty_eq] using hdrain
      rw [TcpController.sendFINWindow_eq h.out.sends.window h.out.sends.history.tiled]
      exact ⟨_, rfl, h.sendFINState hopen hempty htask clock⟩

/-! ## Timers -/

theorem Linked.timeoutReTransmitter (h : Linked e f wo wi s₁ s₂) :
    ∃ s₁', Steps s₁ s₁' ∧
      Linked { e with con := e.con.timeoutReTransmitter } f wo wi s₁' s₂ := by
  unfold TcpController.timeoutReTransmitter
  simp only
  split
  · obtain ⟨s₁', hsteps, hlinked⟩ := h.resendBase
    exact ⟨s₁', hsteps, hlinked.similar {}⟩
  · exact ⟨s₁, .refl, h.similar {}⟩

/-- A probe is sent only after the peer closed its window, so the SYN is acknowledged. -/
theorem Linked.probeWindowSize (h : Linked e f wo wi s₁ s₂) :
    Linked { e with con := e.con.probeWindowSize } f wo wi s₁ s₂ := by
  unfold TcpController.probeWindowSize
  split
  · next hcap =>
    have hu : 1 ≤ s₁.una := by
      by_contra hu
      exact (h.out.sends.opening (by omega)).1 hcap
    have hcopy : (e.con.makeDataPacket e.con.sendWindow.nextSeqNumberToSend [] 0).copy
        = e.con.makeDataPacket e.con.sendWindow.nextSeqNumberToSend [] 0 :=
      Packet.Copyable.copy_eq (Or.inl rfl)
    rw [hcopy]
    refine ⟨{ h.out with sends := { h.out.sends with } },
      { h.inn with receives := { h.inn.receives with } }, ?_, h.fromPeer, h.greets, h.greeted⟩
    have := h.toPeer.append (.probe
      (p := e.con.makeDataPacket e.con.sendWindow.nextSeqNumberToSend [] 0) rfl rfl hu .nil)
    simpa [flight, List.append_assoc, TcpController.sendPacket] using this
  · exact h

end NetStack
