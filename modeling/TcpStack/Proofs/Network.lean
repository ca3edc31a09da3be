import TcpStack.Proofs.Frames
import TcpStack.Proofs.Refinement

/-!
# TcpStack — the steps of the connection

What a step of `Net` does, said once. Invariants of the connection are stated about the two
endpoints and the two flights between them, so that moving packets from one queue to the next
is not seen at all.

* **`Net.peer`** — the server's endpoint, also before the first SYN has created it.
* **`Net.up`** / **`Net.down`** — the packets on their way to the server and to the client.
* **`Net.step_cases`** — a step is an action of one end, a move of packets, or the creation of
  the server's connection.
-/

namespace NetStack

open Transition Tiling

variable [HyLib]

/-- A fresh window holds the empty history. -/
theorem SendWindow.Holds.fresh (capacity : UInt32) :
    SendWindow.Holds { sendBase := 0, capacity } [] 0 :=
  ⟨rfl, rfl, rfl, le_rfl⟩

theorem TcpController.makeSyncPacket_regular (c : TcpController) (seqNum : UInt32) :
    (c.makeSyncPacket seqNum).Regular where
  rst := rfl
  ack := by simp [TcpController.makeSyncPacket, TcpController.tcpHeader]
  sync := fun _ => rfl
  control := fun _ => ⟨rfl, rfl⟩
  data := by simp [Packet.control, TcpController.makeSyncPacket]

/-- The endpoint with other packet buffers. -/
def Endpoint.requeue (e : Endpoint) (r s : List Packet) : Endpoint :=
  { e with con := { e.con with pktRecvBuffer := r, pktSendBuffer := s } }

namespace Net

/-- The server's endpoint; before the first SYN arrives, the one the server starts with. -/
def peer (cfg : Config) (n : Net) : Endpoint := n.server.getD { con := newServer cfg {} 0 }

/-- The packets on their way to the server. -/
def up (cfg : Config) (n : Net) : List Packet := flight n.client (n.peer cfg) n.toServer

/-- The packets on their way to the client. -/
def down (cfg : Config) (n : Net) : List Packet := flight (n.peer cfg) n.client n.toClient

/-- Packets move from queue to queue, and some of them are lost. -/
structure Moves (cfg : Config) (n n' : Net) : Prop where
  client : ∃ r s, n'.client = n.client.requeue r s
  server : ∃ r s, n'.peer cfg = (n.peer cfg).requeue r s
  none_iff : n'.server = none ↔ n.server = none
  up : (n'.up cfg).Sublist (n.up cfg)
  down : (n'.down cfg).Sublist (n.down cfg)

/-- The connection `Host::HandleNewConnection` creates, with both copies of the SYN. -/
def accepted (cfg : Config) (pkt : Packet) : Endpoint where
  con := ((newServer cfg pkt.tcpKey pkt.tcpHeader.seqNum).receiveNewPacket
    pkt.copy).receiveNewPacket pkt

variable {cfg : Config} {n n' : Net}

theorem peer_of_some {v : Endpoint} (h : n.server = some v) : n.peer cfg = v := by
  simp [peer, h]

theorem Moves.refl (cfg : Config) (n : Net) : Moves cfg n n :=
  ⟨⟨_, _, rfl⟩, ⟨_, _, rfl⟩, Iff.rfl, List.Sublist.refl _, List.Sublist.refl _⟩

/-- Taking packets out of a channel. -/
theorem Moves.lose {wo wi : List Packet} (ho : wo.Sublist n.toServer)
    (hi : wi.Sublist n.toClient) : Moves cfg n { n with toServer := wo, toClient := wi } :=
  ⟨⟨_, _, rfl⟩, ⟨_, _, rfl⟩, Iff.rfl, (ho.append_left _).append_right _,
    (hi.append_left _).append_right _⟩

/-- Packets of the client enter the channel. -/
theorem Moves.sendToServer : Moves cfg n { n with
    client := { n.client with con := { n.client.con with pktSendBuffer := [] } }
    toServer := n.toServer ++ n.client.con.pktSendBuffer } :=
  ⟨⟨_, [], rfl⟩, ⟨_, _, rfl⟩, Iff.rfl, by simp [Net.up, peer, flight], List.Sublist.refl _⟩

theorem Moves.sendToClient {e : Endpoint} (hs : n.server = some e) : Moves cfg n { n with
    server := some { e with con := { e.con with pktSendBuffer := [] } }
    toClient := n.toClient ++ e.con.pktSendBuffer } :=
  ⟨⟨_, _, rfl⟩, ⟨_, [], by rw [peer_of_some hs]; rfl⟩, by simp [hs], by simp [Net.up, peer, flight, hs],
    by simp [Net.down, peer, flight, hs]⟩

/-- The host hands a packet to the server's connection. -/
theorem Moves.deliverToServer {e : Endpoint} {pkt : Packet} {rest : List Packet}
    (hs : n.server = some e) (hw : n.toServer = pkt :: rest) : Moves cfg n { n with
      server := some { e with con := e.con.receiveNewPacket pkt }, toServer := rest } :=
  ⟨⟨_, _, rfl⟩, ⟨_, _, by rw [peer_of_some hs]; rfl⟩, by simp [hs],
    by simp [Net.up, peer, flight, hs, hw, TcpController.receiveNewPacket],
    by simp [Net.down, peer, flight, hs, TcpController.receiveNewPacket]⟩

theorem Moves.deliverToClient {pkt : Packet} {rest : List Packet} (hw : n.toClient = pkt :: rest) :
    Moves cfg n { n with
      client := { n.client with con := n.client.con.receiveNewPacket pkt }, toClient := rest } :=
  ⟨⟨_, _, rfl⟩, ⟨_, _, rfl⟩, Iff.rfl,
    by simp [Net.up, peer, flight, TcpController.receiveNewPacket],
    by simp [Net.down, peer, flight, hw, TcpController.receiveNewPacket]⟩

/-- **What a step can do.** -/
theorem step_cases {ev : Event} (h : step cfg n ev = .ok n') :
    (∃ a g c, ev = .client a ∧ n.client.step n.globals a = .ok (g, c) ∧
      n' = { n with globals := g, client := c }) ∨
    (∃ a v g v', ev = .server a ∧ n.server = some v ∧ v.step n.globals a = .ok (g, v') ∧
      n' = { n with globals := g, server := some v' }) ∨
    Moves cfg n n' ∨
    (∃ pkt rest, n.server = none ∧ n.toServer = pkt :: rest ∧ pkt.tcpHeader.sync = true ∧
      n' = { n with server := some (accepted cfg pkt), toServer := rest }) := by
  cases ev with
  | client a =>
    obtain ⟨⟨g, c⟩, hc, heq⟩ := bind_eq_ok.mp h
    cases heq
    exact Or.inl ⟨a, g, c, rfl, hc, rfl⟩
  | server a =>
    simp only [step] at h
    split at h
    · cases h
      exact Or.inr (Or.inr (Or.inl (.refl cfg n)))
    · next v hv =>
      obtain ⟨⟨g, v'⟩, hv', heq⟩ := bind_eq_ok.mp h
      cases heq
      exact Or.inr (Or.inl ⟨a, v, g, v', rfl, hv, hv', rfl⟩)
  | sendToServer =>
    cases h
    exact Or.inr (Or.inr (Or.inl .sendToServer))
  | sendToClient =>
    simp only [step] at h
    split at h
    · cases h
      exact Or.inr (Or.inr (Or.inl (.refl cfg n)))
    · next v hv =>
      cases h
      exact Or.inr (Or.inr (Or.inl (.sendToClient hv)))
  | dropToServer i =>
    cases h
    exact Or.inr (Or.inr (Or.inl (.lose (List.eraseIdx_sublist _ _) (List.Sublist.refl _))))
  | dropToClient i =>
    cases h
    exact Or.inr (Or.inr (Or.inl (.lose (List.Sublist.refl _) (List.eraseIdx_sublist _ _))))
  | deliverToServer =>
    simp only [step] at h
    split at h
    · cases h
      exact Or.inr (Or.inr (Or.inl (.refl cfg n)))
    · next pkt rest hw =>
      cases h
      cases hs : n.server with
      | some e => exact Or.inr (Or.inr (Or.inl (.deliverToServer hs hw)))
      | none =>
        by_cases hsync : pkt.tcpHeader.sync = true
        · -- the first SYN creates the server's controller
          refine Or.inr (Or.inr (Or.inr ⟨pkt, rest, rfl, hw, hsync, ?_⟩))
          simp only [demultiplexToServer, hsync, if_true]
          rfl
        · -- nobody listens for a packet that is no SYN
          have hm : Moves cfg n { n with toServer := rest, toClient := n.toClient } :=
            .lose (hw ▸ List.sublist_cons_self pkt rest) (List.Sublist.refl _)
          rw [hs] at hm
          simp only [demultiplexToServer, hsync]
          exact Or.inr (Or.inr (Or.inl hm))
  | deliverToClient =>
    simp only [step] at h
    split at h
    · cases h
      exact Or.inr (Or.inr (Or.inl (.refl cfg n)))
    · next pkt rest hw =>
      cases h
      exact Or.inr (Or.inr (Or.inl (.deliverToClient hw)))
  | environment g =>
    cases h
    exact Or.inr (Or.inr (Or.inl ⟨⟨_, _, rfl⟩, ⟨_, _, rfl⟩, Iff.rfl, List.Sublist.refl _,
      List.Sublist.refl _⟩))

/-- Only an action of one end can fail. -/
theorem step_error {ev : Event} {x : Fatal} (h : step cfg n ev = .error x) :
    (∃ a, n.client.step n.globals a = .error x) ∨
      ∃ a v, n.server = some v ∧ v.step n.globals a = .error x := by
  cases ev with
  | client a =>
    rcases Transition.bind_eq_error.mp h with herr | ⟨r, -, hok⟩
    · exact Or.inl ⟨a, herr⟩
    · cases hok
  | server a =>
    simp only [step] at h
    split at h
    · cases h
    · next v hv =>
      rcases Transition.bind_eq_error.mp h with herr | ⟨r, -, hok⟩
      · exact Or.inr ⟨a, v, hv, herr⟩
      · cases hok
  | sendToClient =>
    simp only [step] at h
    split at h <;> cases h
  | deliverToServer =>
    simp only [step] at h
    split at h <;> cases h
  | deliverToClient =>
    simp only [step] at h
    split at h <;> cases h
  | _ => cases h

/-! ## Actions and flights

A property `P` of an endpoint and the two flights is followed through an action of that
endpoint: what it sends is appended to one flight, the packet it handles is the front of the
other. -/

theorem lift_client {P : Endpoint → List Packet → List Packet → Prop} {a : Action} {g : Globals}
    {c : Endpoint} (h : P n.client (n.up cfg) (n.down cfg))
    (hrun : n.client.step n.globals a = .ok (g, c))
    (hstep : a ≠ .handlePacket → ∃ ps, c.con.pktSendBuffer = n.client.con.pktSendBuffer ++ ps ∧
      P c (n.up cfg ++ ps) (n.down cfg))
    (hhandle : ∀ pkt rest down, n.client.con.pktRecvBuffer = pkt :: rest →
      n.client.handleNext n.globals = .ok (g, c) → P n.client (n.up cfg) (pkt :: down) →
      c.con.pktRecvBuffer = rest ∧ ∃ ps, c.con.pktSendBuffer = n.client.con.pktSendBuffer ++ ps ∧
        P c (n.up cfg ++ ps) down) :
    P c (up cfg { n with globals := g, client := c })
      (down cfg { n with globals := g, client := c }) := by
  by_cases ha : a = .handlePacket
  · subst ha
    replace hrun : n.client.handleNext n.globals = .ok (g, c) := hrun
    cases hbuf : n.client.con.pktRecvBuffer with
    | nil =>
      simp only [Endpoint.handleNext, hbuf] at hrun
      cases hrun
      exact h
    | cons pkt rest =>
      have hdown : n.down cfg = pkt :: (rest ++ n.toClient ++ (n.peer cfg).con.pktSendBuffer) := by
        simp [Net.down, flight, hbuf]
      rw [hdown] at h
      obtain ⟨hrest, ps, hps, h'⟩ := hhandle _ _ _ hbuf hrun h
      rw [← hrest] at h'
      simpa [Net.up, Net.down, peer, flight, hps, List.append_assoc] using h'
  · have hq := Endpoint.step_quiet ha hrun
    obtain ⟨ps, hps, h'⟩ := hstep ha
    simpa [Net.up, Net.down, peer, flight, hps, hq.pktRecvBuffer, List.append_assoc] using h'

theorem lift_server {P : Endpoint → List Packet → List Packet → Prop} {a : Action} {g : Globals}
    {v v' : Endpoint} (hv : n.server = some v) (h : P v (n.up cfg) (n.down cfg))
    (hrun : v.step n.globals a = .ok (g, v'))
    (hstep : a ≠ .handlePacket → ∃ ps, v'.con.pktSendBuffer = v.con.pktSendBuffer ++ ps ∧
      P v' (n.up cfg) (n.down cfg ++ ps))
    (hhandle : ∀ pkt rest up, v.con.pktRecvBuffer = pkt :: rest →
      v.handleNext n.globals = .ok (g, v') → P v (pkt :: up) (n.down cfg) →
      v'.con.pktRecvBuffer = rest ∧ ∃ ps, v'.con.pktSendBuffer = v.con.pktSendBuffer ++ ps ∧
        P v' up (n.down cfg ++ ps)) :
    P v' (up cfg { n with globals := g, server := some v' })
      (down cfg { n with globals := g, server := some v' }) := by
  by_cases ha : a = .handlePacket
  · subst ha
    replace hrun : v.handleNext n.globals = .ok (g, v') := hrun
    cases hbuf : v.con.pktRecvBuffer with
    | nil =>
      simp only [Endpoint.handleNext, hbuf] at hrun
      cases hrun
      simpa [Net.up, Net.down, peer, hv] using h
    | cons pkt rest =>
      have hup : n.up cfg = pkt :: (rest ++ n.toServer ++ n.client.con.pktSendBuffer) := by
        simp [Net.up, peer, hv, flight, hbuf]
      rw [hup] at h
      obtain ⟨hrest, ps, hps, h'⟩ := hhandle _ _ _ hbuf hrun h
      rw [← hrest] at h'
      simpa [Net.up, Net.down, peer, hv, flight, hps, List.append_assoc] using h'
  · have hq := Endpoint.step_quiet ha hrun
    obtain ⟨ps, hps, h'⟩ := hstep ha
    simpa [Net.up, Net.down, peer, hv, flight, hps, hq.pktRecvBuffer, List.append_assoc] using h'

/-! ## The start -/

/-- The SYN of `TryConnect`. -/
def clientSyn (cfg : Config) : Packet := (newClient cfg).makeSyncPacket 0

/-- The client after `TryConnect`. -/
def connecting (cfg : Config) (clock : ℕ) : Endpoint where
  con := { newClient cfg with
    sendWindow := (newClient cfg).sendWindow.enqueue clock (clientSyn cfg)
    state := .synSent, timer := (newClient cfg).timer.restart, synTimer := (newClient cfg).synTimer.restart
    pktSendBuffer := [clientSyn cfg] }

theorem init_eq (cfg : Config) (g : Globals) :
    init cfg g = .ok { globals := g, client := connecting cfg g.clock } := by
  have hsend : (newClient cfg).sendWindow.sendPacket g.clock (clientSyn cfg)
      = .ok (true, (newClient cfg).sendWindow.enqueue g.clock (clientSyn cfg)) :=
    (SendWindow.Holds.fresh kDefaultWindowSize).sendPacket ⟨by simp, by simp⟩ g.clock rfl
      (show ¬ ((if kDefaultWindowSize > 0 then kDefaultWindowSize - 0 else 0) < (1 : UInt32) ∧
        kDefaultWindowSize > 0) by decide)
  have hcopy : (clientSyn cfg).copy = clientSyn cfg :=
    ((newClient cfg).makeSyncPacket_regular 0).copy_eq
  have hcon : (newClient cfg).tryConnect g = .ok (true, (connecting cfg g.clock).con) := by
    unfold TcpController.tryConnect
    rw [if_neg (by simp [newClient, TcpController.new])]
    change ((newClient cfg).sendWindow.sendPacket g.clock (clientSyn cfg) >>= _) = _
    rw [hsend, ok_bind]
    change Except.ok (true, TcpController.sendPacket _ (some (clientSyn cfg).copy)) = _
    rw [hcopy]
    rfl
  rw [init, hcon]
  rfl

end Net

end NetStack
