import TcpStack.Proofs.HostTables
import TcpStack.Proofs.PacketPath

/-!
# TcpStack — a host with traced packets is a host

The packet path follows every packet with its origin (`Station`), while the system calls of a
host have packets without (`Host`). Both have the loop of `Host::DemultiplexPacketsToTcps`; this
module shows that they are the same loop.

* **`Traces`** — a station is a host when origins are forgotten.
* **`Traces.handleNewConnection`**, **`Traces.demultiplexNext`** — the two agree on a new connection
  and on one iteration.
* **`Traces.demultiplexPacketsToTcps`** — the two agree on a whole batch.
-/

namespace NetStack

/-- The packets without their origins. -/
def forget (ts : List TracedPacket) : List Packet := ts.map TracedPacket.pkt

theorem forget_append (ts us : List TracedPacket) : forget (ts ++ us) = forget ts ++ forget us :=
  List.map_append

/-! ## The send queue of a host -/

variable [HyLib]

namespace Host

variable {h : Host}

@[simp] theorem receiveNewPacket_sendPktQueue (key : TcpControllerKey) (pkt : Packet) :
    (h.receiveNewPacket key pkt).sendPktQueue = h.sendPktQueue := by
  rw [receiveNewPacket]
  split
  · rfl
  · rfl

@[simp] theorem emplaceConnection_sendPktQueue (key : TcpControllerKey) (socket : Int32)
    (options : TcpControllerOptions) :
    (h.emplaceConnection key socket options).2.sendPktQueue = h.sendPktQueue := by
  rw [emplaceConnection]
  split
  · rfl
  · rfl

@[simp] theorem attach_sendPktQueue (id : Int32) (key : TcpControllerKey) :
    (h.attach id key).sendPktQueue = h.sendPktQueue := by
  rw [attach]
  split
  · rfl
  · rfl

/-- **The loop, from one iteration.** What agrees with a host for one iteration, as long as its batch
is not over, agrees with it for all that are left. Induction on these. -/
theorem demultiplexLoop_simulates {σ : Type*} {R : σ → Host → Prop} {next : σ → σ} {left : σ → ℕ}
    (batch : σ → List Packet)
    (hnext : ∀ s h n pkt rest, R s h → left s = n + 1 → batch s = pkt :: rest →
      ∃ h', R (next s) h' ∧ left (next s) = n ∧ (batch s).length ≤ (batch (next s)).length + 1 ∧
        demultiplexLoop (n + 1) h (batch s) = demultiplexLoop n h' (batch (next s)))
    (n : ℕ) {s : σ} (hs : R s h) (hleft : left s = n) (hlen : n ≤ (batch s).length) :
    R (next^[n] s) (demultiplexLoop n h (batch s)).1 ∧
      batch (next^[n] s) = (demultiplexLoop n h (batch s)).2 := by
  induction n generalizing s h with
  | zero =>
    rw [Function.iterate_zero, demultiplexLoop]
    exact ⟨hs, rfl⟩
  | succ n ih =>
    cases hbatch : batch s with
    | nil =>
      rw [hbatch, List.length_nil] at hlen
      omega
    | cons pkt rest =>
      obtain ⟨h', hs', hleft', hlen', hloop⟩ := hnext s h n pkt rest hs hleft hbatch
      rw [← hbatch, hloop, Function.iterate_succ_apply]
      apply ih hs' hleft'
      omega

end Host

namespace Station

variable {s s' : Station} {h h' : Host} {key : TcpControllerKey}

/-- The same controllers with the same packets to handle, the same listeners, free ids and packets
to send. -/
structure Traces (s : Station) (h : Host) : Prop where
  connections : ∀ key, (s.connections key).map (fun c => forget c.pktRecvBuffer) =
    (h.connections key).map fun c => c.con.pktRecvBuffer
  listeners : ∀ key, s.listeners key = (h.listeners key).isSome
  openFileIdPool : s.openFileIdPool = h.openFileIdPool
  sendPktQueue : forget s.sendPktQueue = h.sendPktQueue

theorem Traces.isSome (ht : Traces s h) (key : TcpControllerKey) :
    (s.connections key).isSome = (h.connections key).isSome := by
  have hmap := congrArg Option.isSome (ht.connections key)
  rwa [Option.isSome_map, Option.isSome_map] at hmap

/-- The batch of the listener thread is not part of a host. -/
theorem Traces.withBatch (ht : Traces s h) (left : ℕ) (newPackets : List TracedPacket) :
    Traces { s with left, newPackets } h :=
  ⟨ht.connections, ht.listeners, ht.openFileIdPool, ht.sendPktQueue⟩

/-! ## One packet -/

/-- The two maps of connections after a packet is put behind the others of its controller. -/
theorem Traces.receiveNewPacket (ht : Traces s h) (t : TracedPacket) :
    Traces (s.receiveNewPacket t) (h.receiveNewPacket t.pkt.tcpKey t.pkt) := by
  refine ⟨fun key => ?_, ?_, ?_, ?_⟩
  · have hself := ht.connections key
    by_cases hkey : key = t.pkt.tcpKey
    · -- the controller of the packet: both queues grow by it, if it exists
      subst hkey
      rw [Station.receiveNewPacket, modifyEnds, Host.receiveNewPacket]
      cases hs : s.connections t.pkt.tcpKey with
      | none =>
        rw [hs] at hself
        cases hh : h.connections t.pkt.tcpKey with
        | none => simp [hh]
        | some d =>
          rw [hh] at hself
          cases hself
      | some c =>
        rw [hs] at hself
        cases hh : h.connections t.pkt.tcpKey with
        | none =>
          rw [hh] at hself
          cases hself
        | some d =>
          rw [hh] at hself
          have hqueue : forget c.pktRecvBuffer = d.con.pktRecvBuffer := Option.some_inj.mp hself
          simp only [Function.update_self, Option.map_some, Host.setCon_connections_self,
            TcpController.receiveNewPacket, forget_append, hqueue]
          rfl
    · -- any other controller keeps its queue
      rw [Host.receiveNewPacket_connections_of_ne hkey, Station.receiveNewPacket, modifyEnds]
      simp only [Function.update_of_ne hkey]
      exact hself
  · rw [(Host.SameFiles.receiveNewPacket h t.pkt.tcpKey t.pkt).listeners]
    exact ht.listeners
  · rw [(Host.SameFiles.receiveNewPacket h t.pkt.tcpKey t.pkt).openFileIdPool]
    exact ht.openFileIdPool
  · rw [Host.receiveNewPacket_sendPktQueue]
    exact ht.sendPktQueue

theorem Traces.sendBackRST (ht : Traces s h) (key : TcpControllerKey) :
    Traces (s.sendBackRST key) (h.sendBackRST key) := by
  refine ⟨ht.connections, ht.listeners, ht.openFileIdPool, ?_⟩
  show forget (s.sendPktQueue ++ [_]) = h.sendPktQueue ++ [_]
  rw [forget_append, ht.sendPktQueue]
  rfl

/-! ## A new connection -/

/-- A controller that neither has is created in both. -/
theorem Traces.emplaceConnection (ht : Traces s h) (hnone : h.connections key = none) (id : Int32)
    (options : TcpControllerOptions) :
    Traces (s.emplaceConnection key) ((h.emplaceConnection key id options).2.attach id key) := by
  have hnone' : s.connections key = none := by
    have hsome := ht.isSome key
    rw [hnone] at hsome
    simpa using hsome
  have hsame := (Host.SameFiles.emplaceConnection h key id options).trans
    (.attach (h.emplaceConnection key id options).2 id key)
  refine ⟨fun key' => ?_, fun key' => ?_, ?_, ?_⟩
  · rw [Host.attach_connections, Station.emplaceConnection, emplace_of_none hnone']
    by_cases hkey : key' = key
    · -- the new controllers have no packets
      subst hkey
      rw [Host.emplaceConnection_connections_self hnone]
      simp only [Function.update_self]
      rfl
    · rw [Host.emplaceConnection_connections_of_ne hkey]
      simp only [Function.update_of_ne hkey]
      exact ht.connections key'
  · rw [hsame.listeners]
    exact ht.listeners key'
  · rw [hsame.openFileIdPool]
    exact ht.openFileIdPool
  · rw [Host.attach_sendPktQueue, Host.emplaceConnection_sendPktQueue]
    exact ht.sendPktQueue

/-- Both take the same id out of the pool. -/
theorem Traces.createNewSocket (ht : Traces s h) :
    Traces s.createNewSocket h.createNewSocket.2 ∧
      (s.openFileIdPool.allocate.1 < 0 ↔ h.createNewSocket.1 < 0) := by
  rw [Station.createNewSocket, ht.openFileIdPool, Host.createNewSocket]
  dsimp only
  split
  · rename_i hneg
    have hminus : (-1 : Int32) < 0 := by decide
    exact ⟨⟨ht.connections, ht.listeners, rfl, ht.sendPktQueue⟩, fun _ => hminus, fun _ => hneg⟩
  · exact ⟨⟨ht.connections, ht.listeners, rfl, ht.sendPktQueue⟩, Iff.rfl⟩

/-- `HandleNewConnection` accepts the same packets. -/
theorem Traces.handleNewConnection {pkt : Packet} (ht : Traces s h)
    (hnone : h.connections pkt.tcpKey = none) :
    (s.handleNewConnection pkt).1 = (h.handleNewConnection pkt).1 ∧
      Traces (s.handleNewConnection pkt).2 (h.handleNewConnection pkt).2 := by
  rw [Station.handleNewConnection, Host.handleNewConnection, ht.listeners]
  by_cases hsync : !pkt.tcpHeader.sync
  · -- not a SYN
    rw [if_pos hsync, if_pos hsync]
    exact ⟨rfl, ht⟩
  rw [if_neg hsync, if_neg hsync]
  dsimp only
  cases hkey : h.listeners ⟨pkt.ipHeader.sourceIp, pkt.tcpHeader.sourcePort.toUInt32.toInt32⟩ with
  | none =>
    -- nobody listens
    exact ⟨rfl, ht⟩
  | some tcpSockets =>
    rw [Option.isSome_some, Bool.not_true, if_neg Bool.false_ne_true]
    dsimp only
    obtain ⟨hnew, hneg⟩ := ht.createNewSocket
    have hfresh : h.createNewSocket.2.connections pkt.tcpKey = none := by
      rw [Host.createNewSocket_connections, hnone]
    by_cases hid : h.createNewSocket.1 < 0
    · -- no open file id is left
      rw [if_pos (hneg.mpr hid), if_pos hid]
      exact ⟨rfl, hnew⟩
    · rw [if_neg (mt hneg.mp hid), if_neg hid]
      have hcopy := (hnew.emplaceConnection hfresh h.createNewSocket.1
        (Host.acceptOptions pkt)).receiveNewPacket ⟨pkt.copy, .copy⟩
      rw [show (⟨pkt.copy, .copy⟩ : TracedPacket).pkt.tcpKey = pkt.tcpKey from
        Packet.tcpKey_copy pkt] at hcopy
      refine ⟨rfl, hcopy.connections, fun key => ?_, hcopy.openFileIdPool, hcopy.sendPktQueue⟩
      by_cases hlocal :
          key = ⟨pkt.ipHeader.sourceIp, pkt.tcpHeader.sourcePort.toUInt32.toInt32⟩
      · -- the listener has one more connection, but it was there before
        refine (ht.listeners key).trans ?_
        dsimp only
        rw [hlocal, hkey, Function.update_self]
        rfl
      · refine (hcopy.listeners key).trans ?_
        dsimp only
        rw [Function.update_of_ne hlocal]

/-! ## The loop -/

/-- One iteration, for a batch that is not over. -/
theorem Traces.demultiplexNext {t : TracedPacket} {rest : List TracedPacket} {n : ℕ}
    (ht : Traces s h) (hleft : s.left = n + 1) (hnew : s.newPackets = t :: rest) :
    ∃ h', Traces s.demultiplexNext h' ∧ s.demultiplexNext.left = n ∧
      s.demultiplexNext.newPackets.length + 1 ≥ s.newPackets.length ∧
      Host.demultiplexLoop (n + 1) h (forget s.newPackets) =
        Host.demultiplexLoop n h' (forget s.demultiplexNext.newPackets) := by
  have hloop : forget s.newPackets = t.pkt :: forget rest := by
    rw [hnew]
    rfl
  rw [hloop, Host.demultiplexLoop, Station.demultiplexNext, hleft, hnew]
  dsimp only
  by_cases hsome : (h.connections t.pkt.tcpKey).isSome
  · -- the controller exists
    rw [if_pos hsome, if_pos ((ht.isSome _).trans hsome)]
    exact ⟨h.receiveNewPacket t.pkt.tcpKey t.pkt, (ht.withBatch n rest).receiveNewPacket t, rfl,
      le_rfl, rfl⟩
  · have hnone : h.connections t.pkt.tcpKey = none := by simpa using hsome
    obtain ⟨haccept, hconn⟩ := ht.handleNewConnection hnone
    rw [if_neg hsome, if_neg (by rwa [ht.isSome])]
    cases hs : s.handleNewConnection t.pkt with
    | mk accepted s₁ =>
      cases hh : h.handleNewConnection t.pkt with
      | mk accepted' h₁ =>
        rw [hs, hh] at haccept hconn
        obtain rfl : accepted = accepted' := haccept
        cases accepted with
        | true =>
          -- a new controller
          exact ⟨h₁.receiveNewPacket t.pkt.tcpKey t.pkt, (hconn.withBatch n rest).receiveNewPacket t,
            rfl, le_rfl, rfl⟩
        | false =>
          -- rejected: the packet is looked at again
          have hpkts : s₁.newPackets = t :: rest := by
            rw [← hnew]
            exact (handleNewConnection_spec hs).1.2.2
          dsimp only
          by_cases hrst : t.pkt.tcpHeader.rst
          · rw [if_pos hrst, if_pos hrst]
            show ∃ h', _ ∧ _ ∧ s₁.newPackets.length + 1 ≥ _ ∧ _ = Host.demultiplexLoop n h'
              (forget s₁.newPackets)
            rw [hpkts]
            exact ⟨h₁, hconn.withBatch n _, rfl, Nat.le_succ _, rfl⟩
          · rw [if_neg hrst, if_neg hrst]
            show ∃ h', _ ∧ _ ∧ s₁.newPackets.length + 1 ≥ _ ∧ _ = Host.demultiplexLoop n h'
              (forget s₁.newPackets)
            rw [hpkts]
            exact ⟨h₁.sendBackRST t.pkt.tcpKey, (hconn.sendBackRST t.pkt.tcpKey).withBatch n _, rfl,
              Nat.le_succ _, rfl⟩

/-- **The traced loop is the loop of the host.** After the iterations that are left, the station
has the packets, controllers and RSTs that `Host.demultiplexLoop` has, and the same packets are
left over. -/
theorem Traces.demultiplexLoop (n : ℕ) (ht : Traces s h) (hleft : s.left = n)
    (hlen : n ≤ s.newPackets.length) :
    Traces (Station.demultiplexNext^[n] s) (Host.demultiplexLoop n h (forget s.newPackets)).1 ∧
      forget (Station.demultiplexNext^[n] s).newPackets =
        (Host.demultiplexLoop n h (forget s.newPackets)).2 := by
  refine Host.demultiplexLoop_simulates (fun s : Station => forget s.newPackets)
    (fun s h n pkt rest ht hleft hbatch => ?_) n ht hleft (by rwa [forget, List.length_map])
  cases hnew : s.newPackets with
  | nil =>
    rw [hnew] at hbatch
    cases hbatch
  | cons t rest =>
    obtain ⟨h', ht', hleft', hlen', hloop⟩ := ht.demultiplexNext hleft hnew
    rw [hnew] at hlen' hloop
    exact ⟨h', ht', hleft', by simpa [forget] using hlen', hloop⟩

/-- A batch that `PacketsReceiveListener` fetches goes through `DemultiplexPacketsToTcps`. -/
theorem Traces.demultiplexPacketsToTcps (ht : Traces s h) (hnil : s.newPackets = []) :
    Traces (Station.demultiplexNext^[s.recvPktQueue.length] s.packetsReceiveListener)
      (h.demultiplexPacketsToTcps (forget s.recvPktQueue)).1 := by
  have hfetch : s.packetsReceiveListener =
      { s with newPackets := s.recvPktQueue, recvPktQueue := [], left := s.recvPktQueue.length } := by
    rw [Station.packetsReceiveListener, if_pos hnil]
  rw [hfetch, Host.demultiplexPacketsToTcps, forget, List.length_map]
  have hfetched : Traces { s with
      newPackets := s.recvPktQueue, recvPktQueue := [], left := s.recvPktQueue.length } h :=
    ⟨ht.connections, ht.listeners, ht.openFileIdPool, ht.sendPktQueue⟩
  exact (hfetched.demultiplexLoop _ rfl le_rfl).1

end Station

end NetStack
