import TcpStack.Model.PacketPath

/-!
# TcpStack — the packet path is FIFO

A packet that a controller sends goes through the queues and batches of seven threads, merged
with the packets of all other controllers of its host, and is routed by its header. The
queues on the way from a controller to the one with the mirrored key, put one behind the
other, are one long queue, and every step moves packets along it or drops some.

* **`outbound`**, **`inbound`** — the part of the way on the host of the sender and the part on
  the host of the receiver.
* **`heads`** — a packet that is routed to a controller.
* **`OnPath`** — the invariant: what has been dequeued and what is on its way is, in this order,
  a subsequence of what was sent.
* **`Clean`** — the connection does not exist yet and nothing is on its way to it.
* **`packet_path_fifo`** — in every interleaving, a controller dequeues a subsequence of what its
  peer sent, as long as no key of another sender has the same header.
* **`not_packet_path_fifo`** — ports that differ by 65536.
-/

namespace NetStack

/-- The packet was sent and is routed to the controller of the key. -/
def TracedPacket.heads (key : TcpControllerKey) (t : TracedPacket) : Bool :=
  t.isSent && t.pkt.tcpKey = key

/-! ## Headers -/

theorem Packet.tcpKey_copy (pkt : Packet) : pkt.copy.tcpKey = pkt.tcpKey := by
  rw [Packet.copy, Packet.injectPayload]
  split
  · rfl
  · rfl

/-- What a controller makes carries the header fields of its key. -/
theorem TcpController.stamp_makePacket [HyLib] (c : TcpController) (num : UInt32) (data : List UInt8)
    (size : Int32) : c.key.stamp (c.makeDataPacket num data size) = c.makeDataPacket num data size ∧
      c.key.stamp (c.makeAckPacket num) = c.makeAckPacket num ∧
      c.key.stamp (c.makeSyncPacket num) = c.makeSyncPacket num ∧
      c.key.stamp (c.makeFinPacket num) = c.makeFinPacket num := by
  refine ⟨?_, rfl, rfl, rfl⟩
  rw [TcpController.makeDataPacket, Packet.injectPayload]
  split
  · rfl
  · rfl

/-- The key that the packets of a controller are routed to on the other host: the mirrored key,
with ports cut to 16 bits. -/
def TcpControllerKey.wire (key : TcpControllerKey) : TcpControllerKey where
  sourceIp := key.destIp
  sourcePort := key.destPort.toUInt32.toUInt16.toUInt32.toInt32
  destIp := key.sourceIp
  destPort := key.sourcePort.toUInt32.toUInt16.toUInt32.toInt32

theorem Packet.tcpKey_stamp (key : TcpControllerKey) (pkt : Packet) :
    (key.stamp pkt).tcpKey = key.wire := rfl

/-! ## The queues -/

/-- What is on its way from a controller to the queue of its host. -/
def PacketEnds.outgoing (c : PacketEnds) : List TracedPacket := c.packetsToSend ++ c.pktSendBuffer

/-- What the host has handed to a controller. -/
def PacketEnds.incoming (c : PacketEnds) : List TracedPacket := c.dequeued ++ c.pktRecvBuffer

/-- The channel keeps the order of what it does not lose. -/
theorem survivors_sublist {α : Type*} (pkts : List α) (dropped : List Bool) :
    (survivors pkts dropped).Sublist pkts := by
  induction pkts generalizing dropped with
  | nil => exact List.Sublist.refl _
  | cons pkt pkts ih =>
    cases dropped with
    | nil => exact List.Sublist.refl _
    | cons drop dropped =>
      rw [survivors]
      split
      · exact (ih dropped).cons pkt
      · exact (ih dropped).cons_cons pkt

namespace Station

variable {h h' : Station} {key k : TcpControllerKey} {t : TracedPacket}

/-- The queues from the send queue of the host to the other host, the farthest first. -/
def departing (h : Station) : List TracedPacket :=
  h.waiting ++ (h.pktBuffer ++ (h.packetsToSend ++ h.sendPktQueue))

/-- The queues from the other host to the controllers, the farthest first. -/
def arriving (h : Station) : List TracedPacket := h.newPackets ++ h.recvPktQueue

/-- The way out of a controller. -/
def outbound (h : Station) (key : TcpControllerKey) : List TracedPacket :=
  h.departing ++ (h.ends key).outgoing

/-- The way into a controller. -/
def inbound (h : Station) (key : TcpControllerKey) : List TracedPacket :=
  (h.ends key).incoming ++ h.arriving

/-- No other controller of the host has a packet that is routed like those of `k`. -/
def Apart (h : Station) (k : TcpControllerKey) : Prop :=
  ∀ key, key ≠ k → ∀ t ∈ (h.ends key).outgoing, ¬ t.heads k.mirror

/-- What was handed to a controller was routed to it. -/
def Routed (h : Station) (key : TcpControllerKey) : Prop :=
  ∀ t ∈ (h.ends key).incoming, t.pkt.tcpKey = key

/-! ## Writing to a controller -/

theorem modifyEnds_of_none (hc : h.connections key = none) (f : PacketEnds → PacketEnds) :
    h.modifyEnds key f = h := by
  rw [modifyEnds, hc, Option.map_none, ← hc, Function.update_eq_self]

theorem ends_of_some {c : PacketEnds} (hc : h.connections key = some c) : h.ends key = c := by
  rw [ends, hc]
  rfl

theorem ends_modifyEnds_self {c : PacketEnds} (hc : h.connections key = some c)
    (f : PacketEnds → PacketEnds) : (h.modifyEnds key f).ends key = f c := by
  rw [modifyEnds, ends]
  simp only [Function.update_self, hc]
  rfl

theorem ends_modifyEnds_of_ne (hne : k ≠ key) (f : PacketEnds → PacketEnds) :
    (h.modifyEnds key f).ends k = h.ends k := by
  rw [modifyEnds, ends, ends]
  simp only [Function.update_of_ne hne]

/-- What a write to a controller keeps. -/
theorem ends_modifyEnds_field {α : Type*} (field : PacketEnds → α) (h : Station)
    (key k : TcpControllerKey) (f : PacketEnds → PacketEnds) (hf : ∀ c, field (f c) = field c) :
    field ((h.modifyEnds key f).ends k) = field (h.ends k) := by
  by_cases hk : k = key
  · subst hk
    cases hc : h.connections k with
    | none => rw [modifyEnds_of_none hc]
    | some c => rw [ends_modifyEnds_self hc, hf, ends_of_some hc]
  · rw [ends_modifyEnds_of_ne hk]

@[simp] theorem ends_emplaceConnection (h : Station) (key k : TcpControllerKey) :
    (h.emplaceConnection key).ends k = h.ends k := by
  rw [emplaceConnection, ends, ends, emplace]
  split
  · rfl
  · rename_i hnone
    by_cases hk : k = key
    · subst hk
      simp only [Bool.not_eq_true, Option.isSome_eq_false_iff, Option.isNone_iff_eq_none] at hnone
      simp [hnone]
    · simp [Function.update_of_ne hk]

theorem emplaceConnection_isSome (h : Station) (key : TcpControllerKey) :
    ((h.emplaceConnection key).connections key).isSome := by
  rw [emplaceConnection, emplace]
  split
  · assumption
  · simp

/-- A packet that is handed to a controller. -/
theorem incoming_receiveNewPacket (hc : (h.connections t.pkt.tcpKey).isSome)
    (key : TcpControllerKey) : ((h.receiveNewPacket t).ends key).incoming =
      if key = t.pkt.tcpKey then (h.ends key).incoming ++ [t] else (h.ends key).incoming := by
  rw [receiveNewPacket]
  by_cases hk : key = t.pkt.tcpKey
  · obtain ⟨c, hc⟩ := Option.isSome_iff_exists.mp hc
    rw [if_pos hk, hk, ends_modifyEnds_self hc, ends_of_some hc]
    simp only [PacketEnds.incoming, List.append_assoc]
  · rw [if_neg hk, ends_modifyEnds_of_ne hk]

theorem outgoing_receiveNewPacket (h : Station) (t : TracedPacket) (key : TcpControllerKey) :
    ((h.receiveNewPacket t).ends key).outgoing = (h.ends key).outgoing ∧
      ((h.receiveNewPacket t).ends key).sent = (h.ends key).sent := by
  rw [receiveNewPacket]
  constructor
  · exact ends_modifyEnds_field PacketEnds.outgoing h _ key _ fun _ => rfl
  · exact ends_modifyEnds_field PacketEnds.sent h _ key _ fun _ => rfl

theorem receiveNewPacket_isSome (h : Station) (t : TracedPacket) (key : TcpControllerKey) :
    ((h.receiveNewPacket t).connections key).isSome = (h.connections key).isSome := by
  rw [receiveNewPacket, modifyEnds]
  by_cases hk : key = t.pkt.tcpKey
  · subst hk
    simp
  · simp only [Function.update_of_ne hk]

/-! ## Demultiplexing -/

/-- A connection is refused, or it is created with a copy of the SYN. -/
theorem handleNewConnection_spec {pkt : Packet} {accepted : Bool}
    (hnew : h.handleNewConnection pkt = (accepted, h')) :
    (h'.departing = h.departing ∧ h'.recvPktQueue = h.recvPktQueue ∧ h'.newPackets = h.newPackets) ∧
      (∀ key, (h'.ends key).outgoing = (h.ends key).outgoing ∧
        (h'.ends key).sent = (h.ends key).sent) ∧
      (accepted → (h'.connections pkt.tcpKey).isSome) ∧
      ∀ key, (h'.ends key).incoming = if accepted ∧ key = pkt.tcpKey then
        (h.ends key).incoming ++ [⟨pkt.copy, .copy⟩] else (h.ends key).incoming := by
  have hrefuse : ∀ pool, h' = { h with openFileIdPool := pool } → accepted = false →
      (h'.departing = h.departing ∧ h'.recvPktQueue = h.recvPktQueue ∧
        h'.newPackets = h.newPackets) ∧
      (∀ key, (h'.ends key).outgoing = (h.ends key).outgoing ∧
        (h'.ends key).sent = (h.ends key).sent) ∧
      (accepted → (h'.connections pkt.tcpKey).isSome) ∧
      ∀ key, (h'.ends key).incoming = if accepted ∧ key = pkt.tcpKey then
        (h.ends key).incoming ++ [⟨pkt.copy, .copy⟩] else (h.ends key).incoming := by
    rintro pool rfl rfl
    refine ⟨⟨rfl, rfl, rfl⟩, fun key => ⟨rfl, rfl⟩, fun hacc => absurd hacc Bool.false_ne_true,
      fun key => ?_⟩
    rw [if_neg fun hacc => Bool.false_ne_true hacc.1]
    rfl
  rw [handleNewConnection] at hnew
  split at hnew
  · cases hnew
    exact hrefuse h.openFileIdPool rfl rfl
  split at hnew
  · cases hnew
    exact hrefuse h.openFileIdPool rfl rfl
  cases halloc : h.openFileIdPool.allocate with
  | mk id pool =>
    rw [halloc] at hnew
    dsimp only at hnew
    split at hnew
    · cases hnew
      exact hrefuse pool rfl rfl
    · cases hnew
      -- the controller is there before its copy of the SYN is delivered
      have hcopy := Packet.tcpKey_copy pkt
      have hsome := emplaceConnection_isSome { h with openFileIdPool := pool } pkt.tcpKey
      refine ⟨⟨rfl, rfl, rfl⟩, fun key => ?_, fun _ => ?_, fun key => ?_⟩
      · obtain ⟨hout, hsent⟩ := outgoing_receiveNewPacket
          ({ h with openFileIdPool := pool }.emplaceConnection pkt.tcpKey) ⟨pkt.copy, .copy⟩ key
        rw [ends_emplaceConnection] at hout hsent
        exact ⟨hout, hsent⟩
      · rw [receiveNewPacket_isSome]
        exact hsome
      · rw [incoming_receiveNewPacket (by rw [hcopy]; exact hsome), ends_emplaceConnection, hcopy]
        simp only [true_and]
        rfl

/-- What one iteration of the loop does: it drops packets and may send RSTs, or it hands the
first packet to its controller, behind a copy if the controller is new. -/
theorem demultiplexNext_spec (h : Station) :
    (∃ rsts, (∀ r ∈ rsts, ¬ r.isSent) ∧
      h.demultiplexNext.departing = h.departing ++ rsts) ∧
    h.demultiplexNext.recvPktQueue = h.recvPktQueue ∧
    (∀ key, (h.demultiplexNext.ends key).outgoing = (h.ends key).outgoing ∧
      (h.demultiplexNext.ends key).sent = (h.ends key).sent) ∧
    ((h.demultiplexNext.newPackets.Sublist h.newPackets ∧
        ∀ key, (h.demultiplexNext.ends key).incoming = (h.ends key).incoming) ∨
      ∃ t copies, h.newPackets = t :: h.demultiplexNext.newPackets ∧
        (∀ c ∈ copies, ¬ c.isSent ∧ c.pkt.tcpKey = t.pkt.tcpKey) ∧
        ∀ key, (h.demultiplexNext.ends key).incoming = if key = t.pkt.tcpKey then
          (h.ends key).incoming ++ (copies ++ [t]) else (h.ends key).incoming) := by
  have hkeep : ∀ h' : Station, h'.departing = h.departing → ∃ rsts : List TracedPacket,
      (∀ r ∈ rsts, ¬ r.isSent) ∧ h'.departing = h.departing ++ rsts := fun h' heq =>
    ⟨[], fun r hr => absurd hr List.not_mem_nil, heq.trans (List.append_nil _).symm⟩
  rw [demultiplexNext]
  split
  · exact ⟨hkeep _ rfl, rfl, fun key => ⟨rfl, rfl⟩, Or.inl ⟨List.nil_sublist _, fun key => rfl⟩⟩
  · exact ⟨hkeep _ rfl, rfl, fun key => ⟨rfl, rfl⟩, Or.inl ⟨List.Sublist.refl _, fun key => rfl⟩⟩
  · rename_i left t newPackets _ hnew
    split
    · -- there is a controller for the key
      rename_i hsome
      refine ⟨hkeep _ rfl, rfl, outgoing_receiveNewPacket _ t, Or.inr ⟨t, [], hnew, ?_, ?_⟩⟩
      · exact fun c hc => absurd hc List.not_mem_nil
      · exact incoming_receiveNewPacket hsome
    · split
      · -- accepted: the controller is there when the packet follows its copy
        rename_i h₁ heq
        obtain ⟨⟨hdep, hqueue, -⟩, hout, hsome, hinc⟩ := handleNewConnection_spec heq
        refine ⟨hkeep _ hdep, hqueue, fun key => ?_,
          Or.inr ⟨t, [⟨t.pkt.copy, .copy⟩], hnew, fun c hc => ?_, fun key => ?_⟩⟩
        · obtain ⟨hout', hsent'⟩ := outgoing_receiveNewPacket { h₁ with left, newPackets } t key
          exact ⟨hout'.trans (hout key).1, hsent'.trans (hout key).2⟩
        · rw [List.mem_singleton.mp hc]
          exact ⟨Bool.false_ne_true, Packet.tcpKey_copy t.pkt⟩
        · have hstep := incoming_receiveNewPacket (h := { h₁ with left, newPackets }) (hsome rfl) key
          have hkey := hinc key
          simp only [true_and] at hkey
          rw [hstep]
          change (if key = t.pkt.tcpKey then (h₁.ends key).incoming ++ [t] else
            (h₁.ends key).incoming) = _
          rw [hkey]
          split
          · rw [List.append_assoc]
          · rfl
      · -- rejected: the packet stays where it is
        rename_i h₁ heq
        obtain ⟨⟨hdep, hqueue, hpkts⟩, hout, -, hinc⟩ := handleNewConnection_spec heq
        have hinc' : ∀ key, (h₁.ends key).incoming = (h.ends key).incoming := fun key => by
          rw [hinc key, if_neg (by simp)]
        split
        · exact ⟨hkeep _ hdep, hqueue, hout, Or.inl ⟨hpkts ▸ List.Sublist.refl _, hinc'⟩⟩
        · refine ⟨⟨[⟨t.pkt.tcpKey.stamp { ipHeader := {}, tcpHeader := { rst := true } }, .rst⟩],
            fun r hr => ?_, ?_⟩, hqueue, hout, Or.inl ⟨hpkts ▸ List.Sublist.refl _, hinc'⟩⟩
          · rw [List.mem_singleton.mp hr]
            exact Bool.false_ne_true
          · rw [← hdep]
            simp only [departing, sendBackRST, List.append_assoc]

/-! ## What a step does to the way out -/

/-- Packets of `k` are moved along or lost, and no other packet gets among them. -/
structure SendsLess (h h' : Station) (k : TcpControllerKey) : Prop where
  out : ((h'.outbound k).filter (·.heads k.mirror)).Sublist
    ((h.outbound k).filter (·.heads k.mirror))
  sent : (h'.ends k).sent = (h.ends k).sent
  apart : h'.Apart k

/-- The queues of the host lose packets, and the controllers have what they had. -/
theorem SendsLess.of_departing (hap : h.Apart k)
    (hdep : (h'.departing.filter (·.heads k.mirror)).Sublist
      (h.departing.filter (·.heads k.mirror)))
    (hends : ∀ key, (h'.ends key).outgoing = (h.ends key).outgoing ∧
      (h'.ends key).sent = (h.ends key).sent) : SendsLess h h' k := by
  refine ⟨?_, (hends k).2, fun key hne => ?_⟩
  · rw [outbound, outbound, List.filter_append, List.filter_append, (hends k).1]
    exact hdep.append_right _
  · rw [(hends key).1]
    exact hap key hne

theorem heads_of_isSent {key : TcpControllerKey} (ht : t.heads key) : t.isSent ∧ t.pkt.tcpKey = key := by
  rw [TracedPacket.heads, Bool.and_eq_true, decide_eq_true_eq] at ht
  exact ht

theorem SendsLess.packetSendBufferListener (hap : h.Apart k) (key : TcpControllerKey) :
    SendsLess h (h.packetSendBufferListener key) k := by
  refine .of_departing hap (List.Sublist.refl _) fun key' => ⟨?_, ?_⟩
  · -- the batch was empty, so batch and queue together stay the same list
    refine ends_modifyEnds_field PacketEnds.outgoing h key key' _ fun c => ?_
    split
    · rename_i hnil
      rw [PacketEnds.outgoing, PacketEnds.outgoing, hnil, List.nil_append, List.append_nil]
    · rfl
  · refine ends_modifyEnds_field PacketEnds.sent h key key' _ fun c => ?_
    split
    · rfl
    · rfl

theorem SendsLess.multiplexPacketsFromTcp (hap : h.Apart k) (key : TcpControllerKey) :
    SendsLess h (h.multiplexPacketsFromTcp key) k := by
  have hother : ∀ key', key' ≠ key →
      (h.multiplexPacketsFromTcp key).ends key' = h.ends key' := fun key' hne =>
    ends_modifyEnds_of_ne hne _
  have hself : ((h.multiplexPacketsFromTcp key).ends key).outgoing = (h.ends key).pktSendBuffer := by
    change ((h.modifyEnds key fun c => { c with packetsToSend := [] }).ends key).outgoing = _
    cases hc : h.connections key with
    | none =>
      rw [modifyEnds_of_none hc, ends, hc]
      rfl
    | some c =>
      rw [ends_modifyEnds_self hc, ends_of_some hc]
      rfl
  have hdep : (h.multiplexPacketsFromTcp key).departing =
      h.departing ++ (h.ends key).packetsToSend := by
    rw [departing, departing]
    simp only [List.append_assoc]
    rfl
  refine ⟨?_, ?_, fun key' hne => ?_⟩
  · rw [outbound, hdep, outbound]
    by_cases hk : k = key
    · rw [hk, hself, List.append_assoc]
      exact List.Sublist.refl _
    · -- what another controller hands over is routed elsewhere
      have hnone : (h.ends key).packetsToSend.filter (·.heads k.mirror) = [] :=
        List.filter_eq_nil_iff.mpr fun t ht =>
          hap key (Ne.symm hk) t (List.mem_append_left _ ht)
      rw [hother k hk, List.filter_append, List.filter_append, hnone, List.append_nil,
        List.filter_append]
  · exact ends_modifyEnds_field PacketEnds.sent _ key k _ fun _ => rfl
  · by_cases hk : key' = key
    · subst hk
      rw [hself]
      exact fun t ht => hap key' hne t (List.mem_append_right _ ht)
    · rw [hother key' hk]
      exact hap key' hne

theorem SendsLess.deleteTcpConnection (hap : h.Apart k) (hne : key ≠ k) :
    SendsLess h (h.deleteTcpConnection key) k := by
  have hother : ∀ key', key' ≠ key → (h.deleteTcpConnection key).ends key' = h.ends key' := by
    intro key' hk
    rw [Station.deleteTcpConnection, ends, ends]
    simp only [Function.update_of_ne hk]
  refine ⟨?_, by rw [hother k (Ne.symm hne)], fun key' hk t ht => ?_⟩
  · rw [outbound, hother k (Ne.symm hne)]
    exact List.Sublist.refl _
  · by_cases hkey : key' = key
    · subst hkey
      rw [Station.deleteTcpConnection, ends] at ht
      simp only [Function.update_self] at ht
      cases ht
    · rw [hother key' hkey] at ht
      exact hap key' hk t ht

/-- **The step lemma of the way out.** Only `SendPacket` puts packets of `k` on their way. -/
theorem sendsLess_step (hap : h.Apart k) (a : Action) (hsend : ∀ key pkt, a ≠ .sendPacket key pkt)
    (hdel : a ≠ .deleteTcpConnection k) : SendsLess h (h.step a) k := by
  cases a with
  | sendPacket key pkt => exact absurd rfl (hsend key pkt)
  | packetSendBufferListener key => exact .packetSendBufferListener hap key
  | multiplexPacketsFromTcp key => exact .multiplexPacketsFromTcp hap key
  | packetsSendListener =>
    refine .of_departing hap ?_ fun key => ?_
    · rw [step, Station.packetsSendListener]
      split
      · rename_i hnil
        rw [departing, departing, hnil, List.nil_append, List.append_nil]
      · exact List.Sublist.refl _
    · rw [step, Station.packetsSendListener]
      split
      · exact ⟨rfl, rfl⟩
      · exact ⟨rfl, rfl⟩
  | channelSend dropped =>
    refine .of_departing hap (List.Sublist.filter _ ?_) fun key => ⟨rfl, rfl⟩
    rw [step, Station.channelSend, departing, departing]
    simp only [List.nil_append, List.append_assoc]
    -- the channel drops packets, but keeps the order of the others
    exact ((((survivors_sublist h.packetsToSend dropped).append_right _).append_left _).append_left _)
  | waitingForPackets =>
    refine .of_departing hap ?_ fun key => ?_
    · rw [step, Station.waitingForPackets]
      split
      · rename_i hnil
        rw [departing, departing, hnil]
        exact List.Sublist.refl _
      · exact List.Sublist.refl _
    · rw [step, Station.waitingForPackets]
      split
      · exact ⟨rfl, rfl⟩
      · exact ⟨rfl, rfl⟩
  | packetsReceiveListener =>
    rw [step, Station.packetsReceiveListener]
    split
    · exact .of_departing hap (List.Sublist.refl _) fun key => ⟨rfl, rfl⟩
    · exact .of_departing hap (List.Sublist.refl _) fun key => ⟨rfl, rfl⟩
  | demultiplexNext =>
    obtain ⟨⟨rsts, hrsts, hdep⟩, -, hout, -⟩ := h.demultiplexNext_spec
    refine .of_departing hap ?_ hout
    -- the RSTs that it may send are no packets of a controller
    have hnone : rsts.filter (·.heads k.mirror) = [] :=
      List.filter_eq_nil_iff.mpr fun r hr ht => hrsts r hr (heads_of_isSent ht).1
    rw [step, hdep, List.filter_append, hnone, List.append_nil]
  | packetReceiveBufferListener key =>
    refine .of_departing hap (List.Sublist.refl _) fun key' => ⟨?_, ?_⟩
    · exact ends_modifyEnds_field PacketEnds.outgoing h key key' _ fun _ => rfl
    · exact ends_modifyEnds_field PacketEnds.sent h key key' _ fun _ => rfl
  | emplaceConnection key =>
    refine .of_departing hap (List.Sublist.refl _) fun key' => ?_
    rw [step, ends_emplaceConnection]
    exact ⟨rfl, rfl⟩
  | listen key => exact .of_departing hap (List.Sublist.refl _) fun key => ⟨rfl, rfl⟩
  | createNewSocket => exact .of_departing hap (List.Sublist.refl _) fun key => ⟨rfl, rfl⟩
  | deleteTcpConnection key => exact .deleteTcpConnection hap fun heq => hdel (by rw [heq])

/-- `SendPacket` of `k` appends to its way out what it appends to its record; that of another
controller, whose packets are routed elsewhere, changes nothing for `k`. -/
theorem sendPacket_cases (hap : h.Apart k) (pkt : Packet) (hwire : key ≠ k → key.wire ≠ k.mirror) :
    SendsLess h (h.sendPacket key pkt) k ∨ ∃ t : TracedPacket,
      t.origin = .sent k (h.ends k).sent.length ∧
      (h.sendPacket key pkt).outbound k = h.outbound k ++ [t] ∧
      ((h.sendPacket key pkt).ends k).sent = (h.ends k).sent ++ [t] ∧
      (h.sendPacket key pkt).Apart k := by
  rw [sendPacket]
  cases hc : h.connections key with
  | none =>
    rw [modifyEnds_of_none hc]
    exact Or.inl ⟨List.Sublist.refl _, rfl, hap⟩
  | some c =>
    by_cases hk : key = k
    · subst hk
      refine Or.inr ⟨⟨key.stamp pkt, .sent key c.sent.length⟩, ?_, ?_, ?_, fun key' hne => ?_⟩
      · rw [ends_of_some hc]
      · rw [outbound, ends_modifyEnds_self hc, outbound, ends_of_some hc]
        simp only [PacketEnds.outgoing, List.append_assoc]
        rfl
      · rw [ends_modifyEnds_self hc, ends_of_some hc]
      · rw [ends_modifyEnds_of_ne hne]
        exact hap key' hne
    · refine Or.inl ⟨?_, ?_, fun key' hne => ?_⟩
      · rw [outbound, ends_modifyEnds_of_ne (Ne.symm hk), outbound]
        exact List.Sublist.refl _
      · rw [ends_modifyEnds_of_ne (Ne.symm hk)]
      · by_cases hkey : key' = key
        · subst hkey
          rw [ends_modifyEnds_self hc]
          intro t ht
          rw [PacketEnds.outgoing, ← List.append_assoc] at ht
          rcases List.mem_append.mp ht with ht | ht
          · refine hap key' hne t ?_
            rw [ends_of_some hc]
            exact ht
          · rw [List.mem_singleton.mp ht]
            exact fun hheads => hwire hk (heads_of_isSent hheads).2
        · rw [ends_modifyEnds_of_ne hkey]
          exact hap key' hne

/-! ## What a step does to the way in -/

/-- Packets for `key` are moved along or lost, and no other sent packet gets among them. -/
structure ReceivesLess (h h' : Station) (key : TcpControllerKey) : Prop where
  inn : ((h'.inbound key).filter (·.heads key)).Sublist ((h.inbound key).filter (·.heads key))
  routed : h.Routed key → h'.Routed key

/-- The queues of the host lose packets, and the controller has what it had. -/
theorem ReceivesLess.of_arriving (harr : h'.arriving.Sublist h.arriving)
    (hends : (h'.ends key).incoming = (h.ends key).incoming) : ReceivesLess h h' key := by
  refine ⟨?_, fun hr => ?_⟩
  · rw [inbound, inbound, hends]
    exact (harr.append_left _).filter _
  · rw [Routed, hends]
    exact hr

theorem ReceivesLess.demultiplexNext (h : Station) (key : TcpControllerKey) :
    ReceivesLess h h.demultiplexNext key := by
  obtain ⟨-, hqueue, -, ⟨hpkts, hinc⟩ | ⟨t, copies, hnew, hcopies, hinc⟩⟩ := h.demultiplexNext_spec
  · refine .of_arriving ?_ (hinc key)
    rw [arriving, arriving, hqueue]
    exact hpkts.append_right _
  · have hnone : copies.filter (·.heads key) = [] :=
      List.filter_eq_nil_iff.mpr fun c hc ht => (hcopies c hc).1 (heads_of_isSent ht).1
    refine ⟨?_, fun hr => ?_⟩
    · rw [inbound, hinc key, inbound, arriving, arriving, hqueue, hnew]
      split
      · -- the packet moves from the front of the batch to the end of the queue
        have hcons : t :: h.demultiplexNext.newPackets = [t] ++ h.demultiplexNext.newPackets := rfl
        rw [hcons]
        simp only [List.filter_append, hnone, List.nil_append, List.append_assoc]
        exact List.Sublist.refl _
      · refine List.Sublist.filter _ (List.Sublist.append_left ?_ _)
        exact (List.sublist_cons_self t _).append_right _
    · rw [Routed, hinc key]
      split
      · rename_i heq
        intro c hc
        rcases List.mem_append.mp hc with hc | hc
        · exact hr c hc
        · rcases List.mem_append.mp hc with hc | hc
          · rw [(hcopies c hc).2, heq]
          · rw [List.mem_singleton.mp hc, heq]
      · exact hr

/-- **The step lemma of the way in.** -/
theorem receivesLess_step (h : Station) (a : Action) (hdel : a ≠ .deleteTcpConnection key) :
    ReceivesLess h (h.step a) key := by
  cases a with
  | sendPacket key' pkt =>
    exact .of_arriving (List.Sublist.refl _)
      (ends_modifyEnds_field PacketEnds.incoming h key' key _ fun _ => rfl)
  | packetSendBufferListener key' =>
    refine .of_arriving (List.Sublist.refl _)
      (ends_modifyEnds_field PacketEnds.incoming h key' key _ fun c => ?_)
    split
    · rfl
    · rfl
  | multiplexPacketsFromTcp key' =>
    exact .of_arriving (List.Sublist.refl _)
      (ends_modifyEnds_field PacketEnds.incoming _ key' key _ fun _ => rfl)
  | packetsSendListener =>
    rw [step, Station.packetsSendListener]
    split
    · exact .of_arriving (List.Sublist.refl _) rfl
    · exact .of_arriving (List.Sublist.refl _) rfl
  | channelSend dropped => exact .of_arriving (List.Sublist.refl _) rfl
  | waitingForPackets =>
    rw [step, Station.waitingForPackets]
    split
    · exact .of_arriving (List.Sublist.refl _) rfl
    · exact .of_arriving (List.Sublist.refl _) rfl
  | packetsReceiveListener =>
    rw [step, Station.packetsReceiveListener]
    split
    · rename_i hnil
      -- the queue becomes the next batch, which was empty
      refine .of_arriving ?_ rfl
      rw [arriving, arriving, hnil, List.nil_append, List.append_nil]
    · exact .of_arriving (List.Sublist.refl _) rfl
  | demultiplexNext => exact .demultiplexNext h key
  | packetReceiveBufferListener key' =>
    refine .of_arriving (List.Sublist.refl _)
      (ends_modifyEnds_field PacketEnds.incoming h key' key _ fun c => ?_)
    rw [PacketEnds.incoming, PacketEnds.incoming, List.append_nil]
  | emplaceConnection key' =>
    refine .of_arriving (List.Sublist.refl _) ?_
    rw [step, ends_emplaceConnection]
  | listen key' => exact .of_arriving (List.Sublist.refl _) rfl
  | createNewSocket => exact .of_arriving (List.Sublist.refl _) rfl
  | deleteTcpConnection key' =>
    refine .of_arriving (List.Sublist.refl _) ?_
    have hne : key ≠ key' := fun heq => hdel (by rw [heq])
    rw [step, Station.deleteTcpConnection, ends, ends]
    simp only [Function.update_of_ne hne]

end Station

/-! ## Two hosts -/

namespace PacketPath

variable {n n' : PacketPath} {side x : Bool} {k : TcpControllerKey}

/-- The packets from `k` on side `x` that its peer has dequeued: all but copies of SYNs and RSTs
of the hosts. -/
def delivered (n : PacketPath) (x : Bool) (k : TcpControllerKey) : List TracedPacket :=
  ((n !x).ends k.mirror).dequeued.filter (·.isSent)

/-- The peer has dequeued a subsequence of what `k` sent, each packet once and no packet of another
controller. -/
structure Fifo (n : PacketPath) (x : Bool) (k : TcpControllerKey) : Prop where
  subsequence : (n.delivered x k).Sublist ((n x).ends k).sent
  once : (n.delivered x k).Nodup
  own : ∀ t ∈ n.delivered x k, ∃ i, t.origin = .sent k i

/-- The invariant of a connection. -/
structure OnPath (n : PacketPath) (x : Bool) (k : TcpControllerKey) : Prop where
  order : (((n !x).inbound k.mirror).filter (·.heads k.mirror) ++
    ((n x).outbound k).filter (·.heads k.mirror)).Sublist ((n x).ends k).sent
  apart : (n x).Apart k
  routed : (n !x).Routed k.mirror
  numbered : ((n x).ends k).sent.map (·.origin) =
    (List.range ((n x).ends k).sent.length).map (.sent k)

theorem OnPath.fifo (ho : OnPath n x k) : Fifo n x k := by
  have hsub : (n.delivered x k).Sublist ((n x).ends k).sent := by
    refine List.Sublist.trans ?_ ((List.sublist_append_left _ _).trans ho.order)
    -- everything dequeued was routed here, so `heads` asks for a sent packet only
    have hcongr : n.delivered x k =
        ((n !x).ends k.mirror).dequeued.filter (·.heads k.mirror) := by
      refine List.filter_congr fun t ht => ?_
      rw [TracedPacket.heads, ho.routed t (List.mem_append_left _ ht), decide_eq_true rfl,
        Bool.and_true]
    rw [hcongr, Station.inbound, PacketEnds.incoming, List.append_assoc]
    exact (List.sublist_append_left _ _).filter _
  have hnodup : ((n x).ends k).sent.Nodup := by
    refine List.Nodup.of_map (·.origin) ?_
    rw [ho.numbered]
    refine List.Nodup.map (fun i j heq => ?_) List.nodup_range
    exact (Origin.sent.inj heq).2
  refine ⟨hsub, hnodup.sublist hsub, fun t ht => ?_⟩
  have hmem : t.origin ∈ ((n x).ends k).sent.map (·.origin) :=
    List.mem_map_of_mem (hsub.subset ht)
  rw [ho.numbered] at hmem
  obtain ⟨i, -, hi⟩ := List.mem_map.mp hmem
  exact ⟨i, hi.symm⟩

/-- No controller of the connection is deleted. -/
def Event.keeps (x : Bool) (k : TcpControllerKey) : Event → Bool
  | .station side (.deleteTcpConnection key) =>
    !((side = x && key = k) || (side = !x && key = k.mirror))
  | _ => true

/-- What another controller sends is not routed like the packets of `k`. -/
def Event.apart (x : Bool) (k : TcpControllerKey) : Event → Bool
  | .station side (.sendPacket key _) => side ≠ x || key = k || key.wire ≠ k.mirror
  | _ => true

/-- A step of the sending host. -/
theorem OnPath.sender {a : Station.Action} (ho : OnPath n x k)
    (hdel : a ≠ .deleteTcpConnection k)
    (hwire : ∀ key pkt, a = .sendPacket key pkt → key ≠ k → key.wire ≠ k.mirror) :
    OnPath (Function.update n x ((n x).step a)) x k := by
  have hrecv : Function.update n x ((n x).step a) (!x) = n !x :=
    Function.update_of_ne (by simp) ..
  have hself : Function.update n x ((n x).step a) x = (n x).step a := Function.update_self ..
  have hless : Station.SendsLess (n x) ((n x).step a) k →
      OnPath (Function.update n x ((n x).step a)) x k := by
    intro hl
    refine ⟨?_, ?_, ?_, ?_⟩
    · rw [hrecv, hself, hl.sent]
      exact (hl.out.append_left _).trans ho.order
    · rw [hself]
      exact hl.apart
    · rw [hrecv]
      exact ho.routed
    · rw [hself, hl.sent]
      exact ho.numbered
  by_cases hsend : ∃ key pkt, a = .sendPacket key pkt
  · obtain ⟨key, pkt, rfl⟩ := hsend
    rcases Station.sendPacket_cases ho.apart pkt (hwire key pkt rfl) with hl | ⟨t, horigin, hout, hsent, hap⟩
    · exact hless hl
    · refine ⟨?_, ?_, ?_, ?_⟩
      · rw [hrecv, hself, Station.step, hout, hsent, List.filter_append, ← List.append_assoc]
        exact ho.order.append List.filter_sublist
      · rw [hself]
        exact hap
      · rw [hrecv]
        exact ho.routed
      · rw [hself, Station.step, hsent, List.map_append, ho.numbered, List.length_append,
          List.length_singleton, List.range_succ, List.map_append, List.map_singleton,
          List.map_singleton, horigin]
  · exact hless (Station.sendsLess_step ho.apart a (fun key pkt heq => hsend ⟨key, pkt, heq⟩) hdel)

/-- A step of the receiving host. -/
theorem OnPath.receiver {a : Station.Action} (ho : OnPath n x k)
    (hdel : a ≠ .deleteTcpConnection k.mirror) :
    OnPath (Function.update n (!x) ((n !x).step a)) x k := by
  have hsend : Function.update n (!x) ((n !x).step a) x = n x :=
    Function.update_of_ne (by simp) ..
  have hself : Function.update n (!x) ((n !x).step a) (!x) = (n !x).step a :=
    Function.update_self ..
  have hl := Station.receivesLess_step (n !x) a hdel
  refine ⟨?_, ?_, ?_, ?_⟩
  · rw [hsend, hself]
    exact (hl.inn.append_right _).trans ho.order
  · rw [hsend]
    exact ho.apart
  · rw [hself]
    exact hl.routed ho.routed
  · rw [hsend]
    exact ho.numbered

/-- The channel of the sender hands over its batch. -/
theorem OnPath.moveOut (ho : OnPath n x k)
    (hstep : n.step (.movePacketsFromChannel x) = .ok n') : OnPath n' x k := by
  cases hstep
  have hself : Function.update (Function.update n (!x)
      { n !x with recvPktQueue := (n !x).recvPktQueue ++ (n x).waiting }) x
      { n x with waiting := [] } x = { n x with waiting := [] } := Function.update_self ..
  have hrecv : Function.update (Function.update n (!x)
      { n !x with recvPktQueue := (n !x).recvPktQueue ++ (n x).waiting }) x
      { n x with waiting := [] } (!x) =
      { n !x with recvPktQueue := (n !x).recvPktQueue ++ (n x).waiting } := by
    rw [Function.update_of_ne (by simp), Function.update_self]
  refine ⟨?_, ?_, ?_, ?_⟩
  · -- the two parts of the way are the same list when they are put together
    rw [hself, hrecv]
    have hin : Station.inbound
        { n !x with recvPktQueue := (n !x).recvPktQueue ++ (n x).waiting } k.mirror =
        (n !x).inbound k.mirror ++ (n x).waiting := by
      simp only [Station.inbound, Station.arriving, List.append_assoc]
      rfl
    have hout : (n x).outbound k =
        (n x).waiting ++ Station.outbound { n x with waiting := [] } k := by
      simp only [Station.outbound, Station.departing, List.append_assoc, List.nil_append]
      rfl
    have horder := ho.order
    rw [hout, List.filter_append] at horder
    rw [hin, List.filter_append, List.append_assoc]
    exact horder
  · rw [hself]
    exact ho.apart
  · rw [hrecv]
    exact ho.routed
  · rw [hself]
    exact ho.numbered

/-- The channel of the receiver hands over its batch, which goes the other way. -/
theorem OnPath.moveIn (ho : OnPath n x k)
    (hstep : n.step (.movePacketsFromChannel !x) = .ok n') : OnPath n' x k := by
  cases hstep
  rw [Bool.not_not]
  have hself : Function.update (Function.update n x
      { n x with recvPktQueue := (n x).recvPktQueue ++ (n !x).waiting }) (!x)
      { n !x with waiting := [] } (!x) = { n !x with waiting := [] } := Function.update_self ..
  have hsend : Function.update (Function.update n x
      { n x with recvPktQueue := (n x).recvPktQueue ++ (n !x).waiting }) (!x)
      { n !x with waiting := [] } x =
      { n x with recvPktQueue := (n x).recvPktQueue ++ (n !x).waiting } := by
    rw [Function.update_of_ne (by simp), Function.update_self]
  refine ⟨?_, ?_, ?_, ?_⟩
  · rw [hself, hsend]
    exact ho.order
  · rw [hsend]
    exact ho.apart
  · rw [hself]
    exact ho.routed
  · rw [hsend]
    exact ho.numbered

/-- A step keeps the order of the packets of a connection. -/
theorem OnPath.step {e : Event} (ho : OnPath n x k) (hkeeps : e.keeps x k) (hapart : e.apart x k)
    (hstep : n.step e = .ok n') : OnPath n' x k := by
  cases e with
  | station side a =>
    cases hstep
    by_cases hside : side = x
    · subst hside
      refine ho.sender (fun heq => ?_) (fun key pkt heq hne => ?_)
      · subst heq
        simp [Event.keeps] at hkeeps
      · subst heq
        simpa [Event.apart, hne] using hapart
    · obtain rfl : side = !x := Bool.eq_not.mpr hside
      refine ho.receiver fun heq => ?_
      subst heq
      simp [Event.keeps] at hkeeps
  | movePacketsFromChannel side =>
    by_cases hside : side = x
    · subst hside
      exact ho.moveOut hstep
    · obtain rfl : side = !x := Bool.eq_not.mpr hside
      exact ho.moveIn hstep

/-! ## The result -/

/-- The connection does not exist, and no sent packet that is routed to its end is on its way. -/
structure Clean (n : PacketPath) (x : Bool) (k : TcpControllerKey) : Prop where
  noSender : (n x).connections k = none
  noReceiver : (n !x).connections k.mirror = none
  noPackets : ∀ t ∈ (n !x).arriving ++ (n x).departing, ¬ t.heads k.mirror
  noOthers : ∀ key, ∀ t ∈ ((n x).ends key).outgoing, ¬ t.heads k.mirror

theorem Clean.init (x : Bool) (k : TcpControllerKey) : Clean init x k := by
  refine ⟨rfl, rfl, fun t ht => ?_, fun key t ht => ?_⟩
  · cases ht
  · cases ht

theorem Clean.onPath (hc : Clean n x k) : OnPath n x k := by
  have hsend : (n x).ends k = {} := by
    rw [Station.ends, hc.noSender]
    rfl
  have hrecv : (n !x).ends k.mirror = {} := by
    rw [Station.ends, hc.noReceiver]
    rfl
  have hin : ((n !x).inbound k.mirror).filter (·.heads k.mirror) = [] := by
    rw [Station.inbound, hrecv]
    exact List.filter_eq_nil_iff.mpr fun t ht => hc.noPackets t (List.mem_append_left _ ht)
  have hout : ((n x).outbound k).filter (·.heads k.mirror) = [] := by
    refine List.filter_eq_nil_iff.mpr fun t ht => ?_
    rcases List.mem_append.mp ht with ht | ht
    · exact hc.noPackets t (List.mem_append_right _ ht)
    · exact hc.noOthers k t ht
  refine ⟨?_, fun key _ => hc.noOthers key, fun t ht => ?_, ?_⟩
  · rw [hin, hout]
    exact List.nil_sublist _
  · rw [hrecv] at ht
    cases ht
  · rw [hsend]
    rfl

/-- **The packet path is FIFO and free of duplicates.** Start from any state of the two hosts and
their channels in which a connection does not exist yet and nothing is on its way to it, and
take any steps in which neither of its controllers is deleted and no other controller sends
packets with the same header. Then the packets that the peer of the controller `k` has dequeued
are a subsequence of those that `k` sent, each of them once, and none of them is a packet of
another controller. -/
theorem packet_path_fifo (es : List Event) (x : Bool) (k : TcpControllerKey) {n₀ n : PacketPath}
    (hclean : n₀.Clean x k) (hkeeps : ∀ e ∈ es, e.keeps x k) (hapart : ∀ e ∈ es, e.apart x k)
    (hrun : Transition.run PacketPath.step n₀ es = .ok n) : n.Fifo x k := by
  have hmeets : Transition.Meets PacketPath.step (fun _ e => e.keeps x k ∧ e.apart x k) n₀ es :=
    Transition.Meets.of_forall PacketPath.step fun e he => ⟨hkeeps e he, hapart e he⟩
  have ho : OnPath n x k := Transition.run_induction_of_meets PacketPath.step
    (P := fun n => OnPath n x k)
    (fun s e s' ho hcond hstep => ho.step hcond.1 hcond.2 hstep) hclean.onPath hmeets hrun
  exact ho.fifo

/-- A client at 10.0.0.1 port 5 and a server at 10.0.0.2 port 80. -/
def clientKey : TcpControllerKey := ⟨"10.0.0.2", 80, "10.0.0.1", 5⟩

/-- The same client, connected to port 65616. -/
def wrappedKey : TcpControllerKey := ⟨"10.0.0.2", 65616, "10.0.0.1", 5⟩

/-- A packet with the given sequence number. -/
def numbered (seqNum : UInt32) (sync : Bool) : Packet :=
  { ipHeader := {}, tcpHeader := { seqNum, sync }, payloadSize := 1 }

/-- All packets of the client reach the server, but for those that the channel drops. -/
def transfer (dropped : List Bool) : List Event :=
  [.station false (.packetSendBufferListener clientKey),
    .station false (.packetSendBufferListener wrappedKey),
    .station false (.multiplexPacketsFromTcp clientKey),
    .station false (.multiplexPacketsFromTcp wrappedKey), .station false .packetsSendListener,
    .station false (.channelSend dropped), .station false .waitingForPackets,
    .movePacketsFromChannel false, .station true .packetsReceiveListener,
    .station true .demultiplexNext, .station true .demultiplexNext, .station true .demultiplexNext,
    .station true .demultiplexNext, .station true (.packetReceiveBufferListener clientKey.mirror)]

/-- A client opens a connection and sends three packets, of which the second is lost. -/
def lossyRun : List Event :=
  [.station true (.listen ⟨"10.0.0.2", 80⟩), .station false (.emplaceConnection clientKey),
    .station false (.sendPacket clientKey (numbered 0 true)),
    .station false (.sendPacket clientKey (numbered 1 false)),
    .station false (.sendPacket clientKey (numbered 2 false))] ++ transfer [false, true]

theorem packet_path_fifo_lossy : ∃ n, Transition.run PacketPath.step init lossyRun = .ok n ∧
    (n.delivered false clientKey).map (·.origin) = [.sent clientKey 0, .sent clientKey 2] ∧
    n.Fifo false clientKey := by
  have hrun : (Transition.run PacketPath.step init lossyRun).map
      (fun n => (n.delivered false clientKey).map (·.origin)) =
      .ok [.sent clientKey 0, .sent clientKey 2] := by decide +kernel
  obtain ⟨n, hrun, hdel⟩ := Transition.map_eq_ok.mp hrun
  exact ⟨n, hrun, hdel, packet_path_fifo lossyRun false clientKey (Clean.init false clientKey)
    (by decide) (by decide) hrun⟩

/-- Two connections of one socket whose remote ports differ by 65536 have the same header: the
server gets the packets of both in one controller. -/
theorem not_packet_path_fifo : ¬ ∀ (es : List Event) (x : Bool) (k : TcpControllerKey)
    (n : PacketPath), (∀ e ∈ es, e.keeps x k) →
    Transition.run PacketPath.step init es = .ok n → n.Fifo x k := by
  intro hall
  have hrun : (Transition.run PacketPath.step init
      ([.station true (.listen ⟨"10.0.0.2", 80⟩), .station false (.emplaceConnection clientKey),
        .station false (.emplaceConnection wrappedKey),
        .station false (.sendPacket clientKey (numbered 0 true)),
        .station false (.sendPacket wrappedKey (numbered 0 true))] ++ transfer [])).map
      (fun n => (n.delivered false clientKey).map (·.origin)) =
      .ok [.sent clientKey 0, .sent wrappedKey 0] := by decide +kernel
  obtain ⟨n, hrun, hdel⟩ := Transition.map_eq_ok.mp hrun
  have hfifo := hall _ false clientKey n (by decide) hrun
  have hmem : Origin.sent wrappedKey 0 ∈ (n.delivered false clientKey).map (·.origin) := by
    rw [hdel]
    decide
  obtain ⟨t, ht, horigin⟩ := List.mem_map.mp hmem
  obtain ⟨i, hi⟩ := hfifo.own t ht
  rw [horigin] at hi
  exact absurd (Origin.sent.inj hi).1 (by decide)

end PacketPath

end NetStack
