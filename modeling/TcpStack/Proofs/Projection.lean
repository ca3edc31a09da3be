import TcpStack.Model.Stack
import TcpStack.Proofs.Headers

/-!
# TcpStack — one connection among many

What a host does, seen by one of its connections: among the batches and queues of the host there
are packets of that connection, and each step moves them along, loses some of them, or concerns
the endpoint. Packets of other connections and RSTs never get among them.

* **`View`** — what a host shows of one of its connections.
* **`View.Step`** — what a step of the host can do to it.
* **`Machine.step_tidy`** — what the controllers of a host hold goes to their peers.
* **`Machine.step_view`** — every step of a host is a step of the view.
-/

namespace NetStack

open Transition

/-! ## Keys -/

/-- The ports have 16 bits, so that the packets of the other end come back. -/
def TcpControllerKey.Routable (key : TcpControllerKey) : Prop := key.wire.wire = key

instance (key : TcpControllerKey) : Decidable key.Routable := inferInstanceAs (Decidable (_ = _))

/-- A port of a packet. -/
theorem port_roundTrip (port : UInt16) :
    port.toUInt32.toInt32.toUInt32.toUInt16.toUInt32.toInt32 = port.toUInt32.toInt32 := by
  rw [UInt32.toUInt32_toInt32, UInt16.toUInt16_toUInt32]

theorem TcpControllerKey.routable_wire (key : TcpControllerKey) : key.wire.Routable := by
  show key.wire.wire.wire = key.wire
  simp only [TcpControllerKey.wire, port_roundTrip]

theorem Packet.routable_tcpKey (p : Packet) : p.tcpKey.Routable := by
  show p.tcpKey.wire.wire = p.tcpKey
  simp only [TcpControllerKey.wire, Packet.tcpKey, port_roundTrip]

/-- Packets of different controllers are told apart. -/
theorem TcpControllerKey.Routable.wire_inj {k k' : TcpControllerKey} (h : k.Routable)
    (h' : k'.Routable) (hw : k.wire = k'.wire) : k = k' := by
  rw [← h, ← h', hw]

variable [HyLib]

namespace Stack

/-! ## What a host shows of a connection -/

/-- What a host shows of one of its connections: the endpoint, the packets that left it and are
still on the host or in its channel, and the packets on the host that are for it. -/
@[ext] structure View where
  endpoint : Option Endpoint := none
  out : List Packet := []
  inn : List Packet := []

/-- The endpoint that `Host::HandleNewConnection` makes for a SYN, with both copies of it. -/
def accepted (pkt : Packet) : Endpoint where
  con := ((TcpController.new pkt.tcpKey (Host.acceptOptions pkt)).receiveNewPacket
    pkt.copy).receiveNewPacket pkt

/-- What a step of the host can do to a connection. -/
inductive View.Step (k : TcpControllerKey) (v : View) (g : Globals) : View → Globals → Prop where
  /-- Packets move on or get lost. -/
  | carries {out inn : List Packet} (g' : Globals) (ho : out.Sublist v.out)
      (hi : inn.Sublist v.inn) : Step k v g { v with out, inn } g'
  /-- The endpoint takes a step. -/
  | acts {e e' : Endpoint} {g' : Globals} (a : NetStack.Action) (he : v.endpoint = some e)
      (hrun : e.step g a = .ok (g', e')) : Step k v g { v with endpoint := some e' } g'
  /-- Packets leave the endpoint. -/
  | flushes {e : Endpoint} (he : v.endpoint = some e) : Step k v g { v with
      endpoint := some { e with con := { e.con with pktSendBuffer := [] } }
      out := v.out ++ e.con.pktSendBuffer } g
  /-- A packet is handed to the endpoint. -/
  | receives {e : Endpoint} {pkt : Packet} {inn : List Packet} (he : v.endpoint = some e)
      (hi : v.inn = pkt :: inn) : Step k v g { v with
        endpoint := some { e with con := e.con.receiveNewPacket pkt }, inn } g
  /-- A SYN creates the endpoint. -/
  | accepts {pkt : Packet} {inn : List Packet} (he : v.endpoint = none) (hi : v.inn = pkt :: inn)
      (hsync : pkt.tcpHeader.sync = true) (hkey : pkt.tcpKey = k) :
      Step k v g { v with endpoint := some (accepted pkt), inn } g

/-- `Host::SocketConnect` creates the endpoint. -/
def View.Connects (k : TcpControllerKey) (v : View) (g : Globals) (v' : View) : Prop :=
  v.endpoint = none ∧ ∃ con sent,
    (TcpController.new k TcpController.getDefaultOptions).tryConnect g = .ok (sent, con) ∧
      v' = { v with endpoint := some { con } }

namespace Machine

variable {h h' : Machine} {g g' : Globals} {k key : TcpControllerKey} {a : Action}

/-- The batch of a controller. -/
def batch (h : Machine) (key : TcpControllerKey) : List Packet :=
  ((h.connections key).map (·.packetsToSend)).getD []

/-- The queues from the send queue of the host to the other host, the farthest first. -/
def departing (h : Machine) : List Packet :=
  h.waiting ++ (h.pktBuffer ++ (h.packetsToSend ++ h.sendPktQueue))

/-- The queues from the other host to the controllers, the farthest first. -/
def arriving (h : Machine) : List Packet := h.newPackets ++ h.recvPktQueue

def view (h : Machine) (k : TcpControllerKey) : View where
  endpoint := (h.connections k).map (·.endpoint)
  out := (h.departing ++ h.batch k).filter (·.tcpKey = k.wire)
  inn := h.arriving.filter (·.tcpKey = k)

/-- What the controllers of a host hold goes to their peers. -/
def Tidy (h : Machine) : Prop :=
  ∀ key c, h.connections key = some c → key.Routable ∧ c.endpoint.con.Addressed key ∧
    ∀ p ∈ c.packetsToSend, p.tcpKey = key.wire

/-! ## Writing to a controller -/

theorem connections_modify_of_ne (hne : k ≠ key) (f : Controller → Controller) :
    (h.modify key f).connections k = h.connections k := by
  rw [modify]
  exact Function.update_of_ne hne ..

theorem connections_modify_self (f : Controller → Controller) :
    (h.modify key f).connections key = (h.connections key).map f := by
  rw [modify]
  exact Function.update_self ..

/-- A write that keeps what a controller holds for its peer. -/
theorem Tidy.modify (ht : h.Tidy) {f : Controller → Controller}
    (hf : ∀ c, h.connections key = some c → c.endpoint.con.Addressed key →
      (∀ p ∈ c.packetsToSend, p.tcpKey = key.wire) →
      (f c).endpoint.con.Addressed key ∧ ∀ p ∈ (f c).packetsToSend, p.tcpKey = key.wire) :
    (h.modify key f).Tidy := by
  intro k c hc
  by_cases hk : k = key
  · subst hk
    rw [connections_modify_self] at hc
    obtain ⟨c₀, hc₀, rfl⟩ := Option.map_eq_some_iff.mp hc
    obtain ⟨hr, haddr, hbatch⟩ := ht k c₀ hc₀
    exact ⟨hr, hf c₀ hc₀ haddr hbatch⟩
  · rw [connections_modify_of_ne hk] at hc
    exact ht k c hc

/-- Only the controllers matter. -/
theorem Tidy.congr (ht : h.Tidy) (hc : h'.connections = h.connections) : h'.Tidy := by
  intro k c hk
  rw [hc] at hk
  exact ht k c hk

/-- Another controller at a key, or none. -/
theorem Tidy.update (ht : h.Tidy) {o : Option Controller}
    (ho : ∀ c, o = some c → key.Routable ∧ c.endpoint.con.Addressed key ∧
      ∀ p ∈ c.packetsToSend, p.tcpKey = key.wire)
    (hc : h'.connections = Function.update h.connections key o) : h'.Tidy := by
  intro k c hk
  rw [hc] at hk
  by_cases hkey : k = key
  · subst hkey
    rw [Function.update_self] at hk
    exact ho c hk
  · rw [Function.update_of_ne hkey] at hk
    exact ht k c hk

/-! ## Demultiplexing -/

/-- The listener and the open file that a new connection needs. -/
def Admits (h : Machine) (key : TcpControllerKey) : Prop :=
  h.listeners ⟨key.destIp, key.destPort⟩ = true ∧ ¬ h.openFileIdPool.allocate.1 < 0

instance (h : Machine) (key : TcpControllerKey) : Decidable (h.Admits key) :=
  inferInstanceAs (Decidable (_ ∧ _))

/-- A packet for a controller that is there. -/
theorem receiveNewPacket_eq {pkt : Packet} {c : Controller}
    (hc : h.connections pkt.tcpKey = some c) : h.receiveNewPacket pkt = { h with
      connections := Function.update h.connections pkt.tcpKey (some { c with
        endpoint := { c.endpoint with con := c.endpoint.con.receiveNewPacket pkt } }) } := by
  rw [receiveNewPacket, modify, hc]
  rfl

/-- A new connection is refused, or it is created with a copy of the SYN. -/
theorem handleNewConnection_cases {pkt : Packet} (hnone : h.connections pkt.tcpKey = none) :
    (∃ pool, h.handleNewConnection pkt = (false, { h with openFileIdPool := pool }) ∧
      ¬ (pkt.tcpHeader.sync = true ∧ h.Admits pkt.tcpKey)) ∨
    (∃ pool, pkt.tcpHeader.sync = true ∧ h.handleNewConnection pkt = (true, { h with
      openFileIdPool := pool
      connections := Function.update h.connections pkt.tcpKey (some {
        endpoint := {
          con := (TcpController.new pkt.tcpKey (Host.acceptOptions pkt)).receiveNewPacket pkt.copy
        } }) })) := by
  rw [handleNewConnection]
  split
  · next hsync =>
    refine Or.inl ⟨h.openFileIdPool, rfl, fun hacc => ?_⟩
    simp [hacc.1] at hsync
  · next hsync =>
    split
    · next hlisten =>
      refine Or.inl ⟨h.openFileIdPool, rfl, fun hacc => ?_⟩
      have hl := hacc.2.1
      rw [Packet.tcpKey] at hl
      simp [hl] at hlisten
    · cases halloc : h.openFileIdPool.allocate with
      | mk id pool =>
        dsimp only
        split
        · next hid =>
          refine Or.inl ⟨pool, rfl, fun hacc => hacc.2.2 ?_⟩
          rw [halloc]
          exact hid
        · -- the entry is new, and the copy goes to it
          refine Or.inr ⟨pool, by simpa using hsync, ?_⟩
          have hemp : ∀ c : Controller, NetStack.emplace h.connections pkt.tcpKey c =
              Function.update h.connections pkt.tcpKey (some c) := fun c => by
            rw [NetStack.emplace, hnone]
            rfl
          rw [hemp, receiveNewPacket_eq (by rw [Packet.tcpKey_copy]; exact Function.update_self ..),
            Packet.tcpKey_copy, Function.update_idem]

/-- **What one iteration of the loop does.** -/
theorem demultiplexNext_cases (h : Machine) :
    (∃ pkts l, pkts.Sublist h.newPackets ∧
      h.demultiplexNext = { h with newPackets := pkts, left := l }) ∨
    (∃ pkt rest l c, h.newPackets = pkt :: rest ∧ h.connections pkt.tcpKey = some c ∧
      h.demultiplexNext = { h with
        newPackets := rest, left := l
        connections := Function.update h.connections pkt.tcpKey (some { c with
          endpoint := { c.endpoint with con := c.endpoint.con.receiveNewPacket pkt } }) }) ∨
    (∃ pkt rest l pool, h.newPackets = pkt :: rest ∧ h.connections pkt.tcpKey = none ∧
      pkt.tcpHeader.sync = true ∧ h.demultiplexNext = { h with
        newPackets := rest, left := l, openFileIdPool := pool
        connections :=
          Function.update h.connections pkt.tcpKey (some { endpoint := accepted pkt }) }) ∨
    (∃ pkt rest l pool rsts, h.newPackets = pkt :: rest ∧ h.connections pkt.tcpKey = none ∧
      ¬ (pkt.tcpHeader.sync = true ∧ h.Admits pkt.tcpKey) ∧
      (∀ r ∈ rsts, r.tcpKey = pkt.tcpKey.wire) ∧ h.demultiplexNext = { h with
        left := l, openFileIdPool := pool, sendPktQueue := h.sendPktQueue ++ rsts }) := by
  rw [demultiplexNext]
  split
  · exact Or.inl ⟨[], h.left, List.nil_sublist _, rfl⟩
  · exact Or.inl ⟨h.newPackets, 0, List.Sublist.refl _, rfl⟩
  · next left pkt rest hleft hpkts =>
    split
    · next hsome =>
      -- there is a controller for the key
      obtain ⟨c, hc⟩ := Option.isSome_iff_exists.mp hsome
      refine Or.inr (Or.inl ⟨pkt, rest, left, c, hpkts, hc, ?_⟩)
      have hc' : { h with left := left, newPackets := rest }.connections pkt.tcpKey = some c := hc
      rw [receiveNewPacket_eq hc']
    · next hnone =>
      rw [Bool.not_eq_true, Option.isSome_eq_false_iff, Option.isNone_iff_eq_none] at hnone
      rcases handleNewConnection_cases hnone with ⟨pool, heq, hadm⟩ | ⟨pool, hsync, heq⟩
      · -- refused: the packet stays where it is
        rw [heq]
        refine Or.inr (Or.inr (Or.inr ⟨pkt, rest, left, pool, ?_⟩))
        by_cases hrst : pkt.tcpHeader.rst = true
        · refine ⟨[], hpkts, hnone, hadm, fun r hr => absurd hr List.not_mem_nil, ?_⟩
          simp only [hrst, if_true, List.append_nil]
        · refine ⟨[pkt.tcpKey.stamp { ipHeader := {}, tcpHeader := { rst := true } }], hpkts, hnone,
            hadm, fun r hr => ?_, ?_⟩
          · rw [List.mem_singleton.mp hr, Packet.tcpKey_stamp]
          · simp only [hrst, sendBackRST]
            rfl
      · -- accepted: the packet follows its copy
        rw [heq]
        refine Or.inr (Or.inr (Or.inl ⟨pkt, rest, left, pool, hpkts, hnone, hsync, ?_⟩))
        dsimp only
        rw [receiveNewPacket_eq (Function.update_self ..), Function.update_idem]
        rfl

/-! ## The steps of a host -/

theorem socketConnect_cases (hrun : h.socketConnect g key = .ok h') :
    (∃ con sent, h.connections key = none ∧
      (TcpController.new key TcpController.getDefaultOptions).tryConnect g = .ok (sent, con) ∧
      h' = { h with
        connections := Function.update h.connections key (some { endpoint := { con } }) }) ∨
    (h.connections key).isSome ∧ h' = h := by
  unfold socketConnect at hrun
  cases hc : h.connections key with
  | none =>
    simp only [hc] at hrun
    obtain ⟨⟨sent, con⟩, hcon, hrun⟩ := bind_eq_ok.mp hrun
    cases hrun
    exact Or.inl ⟨con, sent, rfl, hcon, rfl⟩
  | some c =>
    simp only [hc] at hrun
    cases hrun
    exact Or.inr ⟨rfl, rfl⟩

theorem controller_cases {a : NetStack.Action} (hrun : h.controller g key a = .ok (g', h')) :
    (h.connections key = none ∧ g' = g ∧ h' = h) ∨
      ∃ c e, h.connections key = some c ∧ c.endpoint.step g a = .ok (g', e) ∧ h' = { h with
        connections := Function.update h.connections key (some { c with endpoint := e }) } := by
  unfold controller at hrun
  split at hrun
  · next hnone =>
    cases hrun
    exact Or.inl ⟨hnone, rfl, rfl⟩
  · next c hc =>
    obtain ⟨⟨g₁, e⟩, he, hrun⟩ := bind_eq_ok.mp hrun
    cases hrun
    exact Or.inr ⟨c, e, hc, he, rfl⟩

/-- **What the controllers hold goes to their peers, whatever the host does.** -/
theorem step_tidy (ht : h.Tidy) (hkey : ∀ key, a = .socketConnect key → key.Routable)
    (hrun : h.step g a = .ok (g', h')) : h'.Tidy := by
  cases a with
  | socketConnect key =>
    obtain ⟨h₁, h₁run, heq⟩ := map_eq_ok.mp hrun
    cases heq
    rcases socketConnect_cases h₁run with ⟨con, sent, -, hcon, rfl⟩ | ⟨-, rfl⟩
    · refine ht.update (fun c heq => ?_) rfl
      cases heq
      exact ⟨hkey key rfl, (TcpController.addressed_new key _).tryConnect hcon,
        fun p hp => absurd hp List.not_mem_nil⟩
    · exact ht
  | controller key a =>
    rcases controller_cases hrun with ⟨-, -, rfl⟩ | ⟨c, e, hc, he, rfl⟩
    · exact ht
    · refine ht.update (fun c' heq => ?_) rfl
      cases heq
      obtain ⟨hr, haddr, hbatch⟩ := ht key c hc
      exact ⟨hr, Endpoint.addressed_step haddr he, hbatch⟩
  | packetSendBufferListener key =>
    cases hrun
    refine ht.modify fun c _ haddr hbatch => ?_
    split
    · -- the batch is the send queue of the controller
      exact ⟨⟨haddr.owner, fun p hp => absurd hp List.not_mem_nil, haddr.queue⟩, haddr.sent⟩
    · exact ⟨haddr, hbatch⟩
  | multiplexPacketsFromTcp key =>
    cases hrun
    unfold multiplexPacketsFromTcp
    split
    · exact ht
    · next c hc =>
      refine ht.update (fun c' heq => ?_) rfl
      cases heq
      obtain ⟨hr, haddr, -⟩ := ht key c hc
      exact ⟨hr, haddr, fun p hp => absurd hp List.not_mem_nil⟩
  | packetsSendListener =>
    cases hrun
    unfold packetsSendListener
    split
    · exact ht.congr rfl
    · exact ht
  | channelSend dropped =>
    cases hrun
    exact ht.congr rfl
  | waitingForPackets =>
    cases hrun
    unfold waitingForPackets
    split
    · exact ht.congr rfl
    · exact ht
  | packetsReceiveListener =>
    cases hrun
    unfold packetsReceiveListener
    split
    · exact ht.congr rfl
    · exact ht
  | demultiplexNext =>
    cases hrun
    rcases h.demultiplexNext_cases with ⟨pkts, l, -, heq⟩ | ⟨pkt, rest, l, c, -, hc, heq⟩ |
      ⟨pkt, rest, l, pool, -, -, -, heq⟩ | ⟨pkt, rest, l, pool, rsts, -, -, -, -, heq⟩
    · rw [heq]
      exact ht.congr rfl
    · rw [heq]
      refine ht.update (fun c' hc' => ?_) rfl
      cases hc'
      obtain ⟨hr, haddr, hbatch⟩ := ht _ c hc
      exact ⟨hr, haddr.congr rfl rfl (List.Subset.refl _), hbatch⟩
    · rw [heq]
      refine ht.update (fun c' hc' => ?_) rfl
      cases hc'
      exact ⟨pkt.routable_tcpKey, (TcpController.addressed_new pkt.tcpKey _).congr rfl rfl
        (List.Subset.refl _), fun p hp => absurd hp List.not_mem_nil⟩
    · rw [heq]
      exact ht.congr rfl
  | listen key =>
    cases hrun
    exact ht.congr rfl
  | createNewSocket =>
    cases hrun
    exact ht.congr rfl
  | deleteTcpConnection key =>
    cases hrun
    exact ht.update (fun c heq => by cases heq) rfl

/-! ## The steps of a host, seen by a connection -/

/-- The connection is not concerned: its packets move on or get lost. -/
theorem quiet (hc : h'.connections k = h.connections k)
    (hd : (h'.departing.filter (·.tcpKey = k.wire)).Sublist
      (h.departing.filter (·.tcpKey = k.wire)))
    (ha : (h'.arriving.filter (·.tcpKey = k)).Sublist (h.arriving.filter (·.tcpKey = k))) :
    View.Step k (h.view k) g (h'.view k) g' := by
  have hview : h'.view k = { h.view k with
      out := (h'.departing ++ h'.batch k).filter (·.tcpKey = k.wire)
      inn := h'.arriving.filter (·.tcpKey = k) } := by
    simp only [view, hc]
  rw [hview]
  refine .carries g' ?_ ha
  have hb : h'.batch k = h.batch k := by rw [batch, batch, hc]
  have hout : (h.view k).out = h.departing.filter (·.tcpKey = k.wire) ++
      (h.batch k).filter (·.tcpKey = k.wire) := List.filter_append ..
  rw [hb, List.filter_append, hout]
  exact hd.append_right _

/-- Nothing that the connection can see has changed. -/
theorem unseen (hc : h'.connections k = h.connections k) (hd : h'.departing = h.departing)
    (ha : h'.arriving = h.arriving) : View.Step k (h.view k) g (h'.view k) g' :=
  quiet hc (by rw [hd]) (by rw [ha])

/-- What another controller hands over is routed elsewhere. -/
theorem Tidy.filter_batch (ht : h.Tidy) (hk : k.Routable) (hne : key ≠ k) {c : Controller}
    (hc : h.connections key = some c) : c.packetsToSend.filter (·.tcpKey = k.wire) = [] := by
  obtain ⟨hr, -, hbatch⟩ := ht key c hc
  refine List.filter_eq_nil_iff.mpr fun p hp heads => hne ?_
  rw [decide_eq_true_eq, hbatch p hp] at heads
  exact hr.wire_inj hk heads

/-- The step leaves the connection alone, as far as its deletion, a second `Connect` and a refused
packet are concerned. -/
structure Spares (h : Machine) (k : TcpControllerKey) (a : Action) : Prop where
  connects : a = .socketConnect k → h.connections k = none
  deletes : a ≠ .deleteTcpConnection k
  refuses : a = .demultiplexNext → h.connections k = none → ∀ pkt rest, h.newPackets = pkt :: rest →
    pkt.tcpKey = k → pkt.tcpHeader.sync = true ∧ h.Admits k

theorem view_multiplexPacketsFromTcp (ht : h.Tidy) (hk : k.Routable) (key : TcpControllerKey) :
    View.Step k (h.view k) g ((h.multiplexPacketsFromTcp key).view k) g := by
  unfold multiplexPacketsFromTcp
  split
  · exact unseen rfl rfl rfl
  · next c hc =>
    by_cases hkey : key = k
    · -- the own batch goes to the end of the queue of the host
      subst hkey
      have hview : view { h with
          sendPktQueue := h.sendPktQueue ++ c.packetsToSend
          connections :=
            Function.update h.connections key (some { c with packetsToSend := [] }) } key =
          h.view key := by
        simp only [view, departing, arriving, batch, Function.update_self, hc, Option.map_some,
          Option.getD_some, List.append_nil, List.append_assoc]
      rw [hview]
      exact .carries g (List.Sublist.refl _) (List.Sublist.refl _)
    · refine quiet (Function.update_of_ne (Ne.symm hkey) ..) ?_ (List.Sublist.refl _)
      have hdep : departing { h with
          sendPktQueue := h.sendPktQueue ++ c.packetsToSend
          connections :=
            Function.update h.connections key (some { c with packetsToSend := [] }) } =
          h.departing ++ c.packetsToSend := by
        simp only [departing, List.append_assoc]
      rw [hdep, List.filter_append, ht.filter_batch hk hkey hc, List.append_nil]

theorem view_packetSendBufferListener (ht : h.Tidy) (key : TcpControllerKey) :
    View.Step k (h.view k) g ((h.packetSendBufferListener key).view k) g := by
  by_cases hkey : key = k
  · subst hkey
    cases hc : h.connections key with
    | none =>
      refine unseen ?_ rfl rfl
      rw [packetSendBufferListener, connections_modify_self, hc]
      rfl
    | some c =>
      have hstep : (h.modify key _).connections key = _ := connections_modify_self fun c =>
        if c.packetsToSend = [] then
          { endpoint := { c.endpoint with con := { c.endpoint.con with pktSendBuffer := [] } }
            packetsToSend := c.endpoint.con.pktSendBuffer }
        else c
      rw [hc, Option.map_some] at hstep
      by_cases hnil : c.packetsToSend = []
      · -- the send queue of the controller becomes the batch
        rw [if_pos hnil] at hstep
        have hsent : c.endpoint.con.pktSendBuffer.filter (·.tcpKey = key.wire) =
            c.endpoint.con.pktSendBuffer :=
          List.filter_eq_self.mpr fun p hp => decide_eq_true ((ht key c hc).2.1.sent p hp)
        have hflush := View.Step.flushes (k := key) (v := h.view key) (g := g) (e := c.endpoint)
          (by rw [view, hc]; rfl)
        have hview : (h.packetSendBufferListener key).view key = { h.view key with
            endpoint := some { c.endpoint with con := { c.endpoint.con with pktSendBuffer := [] } }
            out := (h.view key).out ++ c.endpoint.con.pktSendBuffer } := by
          have hout : (h.view key).out = h.departing.filter (·.tcpKey = key.wire) := by
            rw [view, batch, hc]
            show List.filter _ (h.departing ++ c.packetsToSend) = _
            rw [hnil, List.append_nil]
          rw [hout, ← hsent, ← List.filter_append]
          simp only [view, batch, packetSendBufferListener, hstep, Option.map_some,
            Option.getD_some]
          rfl
        rw [hview]
        exact hflush
      · rw [if_neg hnil] at hstep
        refine unseen ?_ rfl rfl
        rw [packetSendBufferListener, hstep, hc]
  · refine unseen ?_ rfl rfl
    rw [packetSendBufferListener, connections_modify_of_ne (Ne.symm hkey)]

theorem view_demultiplexNext (hk : k.Routable) (hspare : h.Spares k .demultiplexNext) :
    View.Step k (h.view k) g (h.demultiplexNext.view k) g := by
  -- the packets for the connection are the first one, or are behind it
  have hfront : ∀ pkt rest, h.newPackets = pkt :: rest → pkt.tcpKey = k →
      (h.view k).inn = pkt :: (rest ++ h.recvPktQueue).filter (·.tcpKey = k) := by
    intro pkt rest hpkts hkey
    show List.filter _ (h.newPackets ++ h.recvPktQueue) = _
    rw [hpkts, List.cons_append, List.filter_cons_of_pos (by simp [hkey])]
  have hbehind : ∀ pkt rest, h.newPackets = pkt :: rest →
      ((rest ++ h.recvPktQueue).filter (·.tcpKey = k)).Sublist
        (h.arriving.filter (·.tcpKey = k)) := by
    intro pkt rest hpkts
    rw [arriving, hpkts]
    exact ((List.sublist_cons_self pkt rest).append_right _).filter _
  rcases h.demultiplexNext_cases with ⟨pkts, l, hpkts, heq⟩ | ⟨pkt, rest, l, c, hpkts, hc, heq⟩ |
    ⟨pkt, rest, l, pool, hpkts, hnone, hsync, heq⟩ |
    ⟨pkt, rest, l, pool, rsts, hpkts, hnone, hadm, hrsts, heq⟩
  · rw [heq]
    exact quiet rfl (List.Sublist.refl _) ((hpkts.append_right _).filter _)
  · rw [heq]
    by_cases hkey : pkt.tcpKey = k
    · have hview : view { h with
          newPackets := rest, left := l
          connections := Function.update h.connections pkt.tcpKey (some { c with
            endpoint := { c.endpoint with con := c.endpoint.con.receiveNewPacket pkt } }) } k =
          { h.view k with
            endpoint := some { c.endpoint with con := c.endpoint.con.receiveNewPacket pkt }
            inn := (rest ++ h.recvPktQueue).filter (·.tcpKey = k) } := by
        rw [hkey] at hc ⊢
        simp only [view, departing, arriving, batch, Function.update_self, hc, Option.map_some,
          Option.getD_some]
      rw [hview]
      refine .receives ?_ (hfront pkt rest hpkts hkey)
      rw [view, ← hkey, hc]
      rfl
    · exact quiet (Function.update_of_ne (Ne.symm hkey) ..) (List.Sublist.refl _)
        (hbehind pkt rest hpkts)
  · rw [heq]
    by_cases hkey : pkt.tcpKey = k
    · have hview : view { h with
          newPackets := rest, left := l, openFileIdPool := pool
          connections :=
            Function.update h.connections pkt.tcpKey (some { endpoint := accepted pkt }) } k =
          { h.view k with
            endpoint := some (accepted pkt)
            inn := (rest ++ h.recvPktQueue).filter (·.tcpKey = k) } := by
        rw [hkey] at hnone ⊢
        simp only [view, departing, arriving, batch, Function.update_self, hnone, Option.map_some,
          Option.map_none, Option.getD_some, Option.getD_none]
      rw [hview]
      refine .accepts ?_ (hfront pkt rest hpkts hkey) hsync hkey
      rw [view, ← hkey, hnone]
      rfl
    · exact quiet (Function.update_of_ne (Ne.symm hkey) ..) (List.Sublist.refl _)
        (hbehind pkt rest hpkts)
  · rw [heq]
    by_cases hkey : pkt.tcpKey = k
    · -- no packet of the connection is refused
      rw [hkey] at hnone hadm
      exact absurd (hspare.refuses rfl hnone pkt rest hpkts hkey) hadm
    · refine quiet rfl ?_ (List.Sublist.refl _)
      have hdep : departing { h with
          left := l, openFileIdPool := pool, sendPktQueue := h.sendPktQueue ++ rsts } =
          h.departing ++ rsts := by
        simp only [departing, List.append_assoc]
      have hnil : rsts.filter (·.tcpKey = k.wire) = [] := by
        refine List.filter_eq_nil_iff.mpr fun r hr heads => hkey ?_
        rw [decide_eq_true_eq, hrsts r hr] at heads
        exact pkt.routable_tcpKey.wire_inj hk heads
      rw [hdep, List.filter_append, hnil, List.append_nil]

/-- **Every step of a host but the `Connect` is one that the connection can follow.** -/
theorem step_view (ht : h.Tidy) (hk : k.Routable) (hspare : h.Spares k a)
    (hrun : h.step g a = .ok (g', h')) : View.Step k (h.view k) g (h'.view k) g' ∨
      a = .socketConnect k ∧ g' = g ∧ View.Connects k (h.view k) g (h'.view k) := by
  by_cases hconn : a = .socketConnect k
  · subst hconn
    obtain ⟨h₁, h₁run, heq⟩ := map_eq_ok.mp hrun
    cases heq
    rcases socketConnect_cases h₁run with ⟨con, sent, hnone, hcon, rfl⟩ | ⟨hc, -⟩
    · have hview : view { h with
          connections := Function.update h.connections k (some { endpoint := { con } }) } k =
          { h.view k with endpoint := some { con } } := by
        simp only [view, departing, arriving, batch, Function.update_self, hnone,
          Option.map_some, Option.map_none, Option.getD_some, Option.getD_none]
      rw [hview]
      refine Or.inr ⟨rfl, rfl, ?_, con, sent, hcon, rfl⟩
      rw [view, hnone]
      rfl
    · -- a second `Connect`
      rw [hspare.connects rfl] at hc
      cases hc
  refine Or.inl ?_
  cases a with
  | socketConnect key =>
    obtain ⟨h₁, h₁run, heq⟩ := map_eq_ok.mp hrun
    cases heq
    have hkey : key ≠ k := fun heq => hconn (by rw [heq])
    rcases socketConnect_cases h₁run with ⟨con, sent, -, -, rfl⟩ | ⟨-, rfl⟩
    · exact unseen (Function.update_of_ne (Ne.symm hkey) ..) rfl rfl
    · exact unseen rfl rfl rfl
  | controller key a =>
    rcases controller_cases hrun with ⟨-, -, rfl⟩ | ⟨c, e, hc, he, rfl⟩
    · exact unseen rfl rfl rfl
    · by_cases hkey : key = k
      · subst hkey
        have hview : view { h with
            connections := Function.update h.connections key (some { c with endpoint := e }) } key =
            { h.view key with endpoint := some e } := by
          simp only [view, departing, arriving, batch, Function.update_self, hc, Option.map_some,
            Option.getD_some]
        rw [hview]
        exact .acts a (by rw [view, hc]; rfl) he
      · exact unseen (Function.update_of_ne (Ne.symm hkey) ..) rfl rfl
  | packetSendBufferListener key =>
    cases hrun
    exact view_packetSendBufferListener ht key
  | multiplexPacketsFromTcp key =>
    cases hrun
    exact view_multiplexPacketsFromTcp ht hk key
  | packetsSendListener =>
    cases hrun
    unfold packetsSendListener
    split
    · next hnil =>
      refine unseen rfl ?_ rfl
      simp only [departing, hnil, List.nil_append, List.append_nil]
    · exact unseen rfl rfl rfl
  | channelSend dropped =>
    cases hrun
    -- the channel drops packets, but keeps the order of the others
    refine quiet rfl (List.Sublist.filter _ ?_) (List.Sublist.refl _)
    simp only [channelSend, departing, List.nil_append, List.append_assoc]
    exact (((survivors_sublist h.packetsToSend dropped).append_right _).append_left _).append_left _
  | waitingForPackets =>
    cases hrun
    unfold waitingForPackets
    split
    · next hnil =>
      refine unseen rfl ?_ rfl
      simp only [departing, hnil, List.nil_append]
    · exact unseen rfl rfl rfl
  | packetsReceiveListener =>
    cases hrun
    unfold packetsReceiveListener
    split
    · next hnil =>
      refine unseen rfl rfl ?_
      simp only [arriving, hnil, List.nil_append, List.append_nil]
    · exact unseen rfl rfl rfl
  | demultiplexNext =>
    cases hrun
    exact view_demultiplexNext hk hspare
  | listen key =>
    cases hrun
    exact unseen rfl rfl rfl
  | createNewSocket =>
    cases hrun
    exact unseen rfl rfl rfl
  | deleteTcpConnection key =>
    cases hrun
    exact unseen (Function.update_of_ne (fun heq => hspare.deletes (by rw [heq])) ..) rfl rfl

end Machine

end Stack

end NetStack
