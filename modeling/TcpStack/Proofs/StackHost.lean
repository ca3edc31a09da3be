import TcpStack.Proofs.Projection
import TcpStack.Proofs.TracedHost

/-!
# TcpStack — a machine of the stack is a host

The machines of the stack have whole controllers with their applications, but no sockets
(`Stack.Machine`); a host has sockets and processes, and lets a controller do what it likes
(`Host`). Where both have the same function, this module shows that it is the same.

* **`Models`** — a machine is a host when sockets, processes and applications are forgotten.
* **`Models.socketConnect`** — `Connect` inserts the same controller, or comes back in neither.
* **`Models.controller`** — a controller that acts is replaced in the host.
* **`Models.demultiplexPacketsToTcps`** — the two agree on a whole batch of received packets.
* **`Models.deleteTcpConnection`** — and on the end of a connection.
-/

namespace NetStack

open Transition

variable [HyLib]

namespace Stack

namespace Machine

variable {m m' : Machine} {h h' : Host} {key : TcpControllerKey} {g g' : Globals} {pkt : Packet}

/-- The same controllers, listeners, free ids and packets to send. -/
structure Models (m : Machine) (h : Host) : Prop where
  connections : ∀ key, (m.connections key).map (·.endpoint.con) =
    (h.connections key).map Connection.con
  listeners : ∀ key, m.listeners key = (h.listeners key).isSome
  openFileIdPool : m.openFileIdPool = h.openFileIdPool
  sendPktQueue : m.sendPktQueue = h.sendPktQueue

theorem Models.new (ip : String) : Models .new (Host.new ip) :=
  ⟨fun _ => rfl, fun _ => rfl, rfl, rfl⟩

theorem Models.isSome (hm : Models m h) (key : TcpControllerKey) :
    (m.connections key).isSome = (h.connections key).isSome := by
  have hmap := congrArg Option.isSome (hm.connections key)
  rwa [Option.isSome_map, Option.isSome_map] at hmap

theorem Models.eq_none (hm : Models m h) (hnone : h.connections key = none) :
    m.connections key = none := by
  have hsome := hm.isSome key
  rw [hnone] at hsome
  simpa using hsome

/-- The batches of the threads are not part of a host. -/
theorem Models.withBatch (hm : Models m h) (left : ℕ) (newPackets : List Packet) :
    Models { m with left, newPackets } h :=
  ⟨hm.connections, hm.listeners, hm.openFileIdPool, hm.sendPktQueue⟩

/-- Both write the same controller under the same key. -/
theorem Models.update {c : Controller} {d : Connection} (hm : Models m h)
    (hconn : m'.connections = Function.update m.connections key (some c))
    (hconn' : h'.connections = Function.update h.connections key (some d))
    (hcon : c.endpoint.con = d.con) (hlisten : m'.listeners = m.listeners)
    (hlisten' : h'.listeners = h.listeners) (hpool : m'.openFileIdPool = h'.openFileIdPool)
    (hsend : m'.sendPktQueue = h'.sendPktQueue) : Models m' h' := by
  refine ⟨fun key' => ?_, fun key' => ?_, hpool, hsend⟩
  · rw [hconn, hconn']
    by_cases hkey : key' = key
    · subst hkey
      rw [Function.update_self, Function.update_self, Option.map_some, Option.map_some, hcon]
    · rw [Function.update_of_ne hkey, Function.update_of_ne hkey]
      exact hm.connections key'
  · rw [hlisten, hlisten']
    exact hm.listeners key'

/-! ## Controllers -/

/-- **`Connect`**, with no packet before `TryConnect`. -/
theorem Models.socketConnect (hm : Models m h) {id : Int32} {localEnd : LocalLayerThreeKey}
    {re : Option Bool} (hrun : m.socketConnect h.globals key = .ok m')
    (hrun' : h.connectFromReturns id localEnd key [] = .ok (re, h')) : Models m' h' := by
  rcases Host.connectFromReturns_cases hrun' with ⟨hsome, -, rfl⟩ | ⟨hnone, globals, con, con', hearly, hend⟩
  · -- a key that is taken: the host only writes to the socket
    rcases socketConnect_cases hrun with ⟨_, _, hnone, -, -⟩ | ⟨-, rfl⟩
    · rw [← hm.isSome, hnone] at hsome
      cases hsome
    · exact ⟨hm.connections, hm.listeners, hm.openFileIdPool, hm.sendPktQueue⟩
  · cases hearly
    rcases socketConnect_cases hrun with ⟨con, sent, -, htry, rfl⟩ | ⟨hsome, -⟩
    · rcases hend with ⟨htry', -, rfl⟩ | ⟨htry', -, rfl⟩
      · cases htry.symm.trans htry'
        exact hm.update rfl rfl rfl rfl rfl hm.openFileIdPool hm.sendPktQueue
      · cases htry.symm.trans htry'
        exact hm.update rfl rfl rfl rfl rfl hm.openFileIdPool hm.sendPktQueue
    · rw [hm.eq_none hnone] at hsome
      cases hsome

/-- **What a controller does on its own.** -/
theorem Models.controller (hm : Models m h) {a : NetStack.Action}
    (hrun : m.controller g key a = .ok (g', m')) :
    m' = m ∨ ∃ c, h.connections key = some c ∧ ∃ con, Models m' (h.setCon key { c with con }) := by
  rcases controller_cases hrun with ⟨-, -, rfl⟩ | ⟨c, e, hc, -, rfl⟩
  · exact Or.inl rfl
  · have hsome := hm.isSome key
    rw [hc, Option.isSome_some] at hsome
    obtain ⟨d, hd⟩ := Option.isSome_iff_exists.mp hsome.symm
    exact Or.inr ⟨d, hd, e.con, hm.update rfl rfl rfl rfl rfl hm.openFileIdPool hm.sendPktQueue⟩

/-- **The end of a connection.** -/
theorem Models.deleteTcpConnection (hm : Models m h) (key : TcpControllerKey) :
    Models (m.deleteTcpConnection key) (h.deleteTcpConnection key) := by
  have herase : Models (m.deleteTcpConnection key)
      { h with connections := Function.update h.connections key none } := by
    refine ⟨fun key' => ?_, hm.listeners, hm.openFileIdPool, hm.sendPktQueue⟩
    rw [Machine.deleteTcpConnection]
    by_cases hkey : key' = key
    · subst hkey
      simp only [Function.update_self, Option.map_none]
    · simp only [Function.update_of_ne hkey]
      exact hm.connections key'
  rw [Host.deleteTcpConnection]
  cases hc : h.connections key with
  | none =>
    have hsame : Function.update h.connections key none = h.connections := by
      rw [← hc, Function.update_eq_self]
    rw [hsame] at herase
    exact herase
  | some c =>
    -- `TearDown` writes to the socket and the port pool
    dsimp only
    rw [Host.tearDown]
    split
    · exact ⟨herase.connections, herase.listeners, herase.openFileIdPool, herase.sendPktQueue⟩
    · exact ⟨herase.connections, herase.listeners, herase.openFileIdPool, herase.sendPktQueue⟩

/-! ## Received packets -/

theorem Models.receiveNewPacket (hm : Models m h) (pkt : Packet) :
    Models (m.receiveNewPacket pkt) (h.receiveNewPacket pkt.tcpKey pkt) := by
  have hcon := hm.connections pkt.tcpKey
  cases hc : m.connections pkt.tcpKey with
  | none =>
    rw [hc, Option.map_none] at hcon
    have hd : h.connections pkt.tcpKey = none := Option.map_eq_none_iff.mp hcon.symm
    have hsame : m.receiveNewPacket pkt = m := by
      rw [Machine.receiveNewPacket, modify, hc, Option.map_none, ← hc, Function.update_eq_self]
    rw [hsame, Host.receiveNewPacket, hd]
    exact hm
  | some c =>
    rw [hc, Option.map_some] at hcon
    obtain ⟨d, hd, hcd⟩ := Option.map_eq_some_iff.mp hcon.symm
    rw [receiveNewPacket_eq hc, Host.receiveNewPacket, hd]
    refine hm.update rfl rfl ?_ rfl rfl hm.openFileIdPool hm.sendPktQueue
    dsimp only
    rw [hcd]

theorem Models.sendBackRST (hm : Models m h) (key : TcpControllerKey) :
    Models (m.sendBackRST key) (h.sendBackRST key) := by
  refine ⟨hm.connections, hm.listeners, hm.openFileIdPool, ?_⟩
  show m.sendPktQueue ++ [_] = h.sendPktQueue ++ [_]
  rw [hm.sendPktQueue]
  rfl

/-- Both take the same id out of the pool. -/
theorem Models.createNewSocket (hm : Models m h) :
    Models m.createNewSocket h.createNewSocket.2 ∧
      (m.openFileIdPool.allocate.1 < 0 ↔ h.createNewSocket.1 < 0) := by
  rw [Machine.createNewSocket, hm.openFileIdPool, Host.createNewSocket]
  dsimp only
  split
  · next hneg =>
    have hminus : (-1 : Int32) < 0 := by decide
    exact ⟨⟨hm.connections, hm.listeners, rfl, hm.sendPktQueue⟩, fun _ => hminus, fun _ => hneg⟩
  · exact ⟨⟨hm.connections, hm.listeners, rfl, hm.sendPktQueue⟩, Iff.rfl⟩

/-- A controller that neither has is created in both. -/
theorem Models.emplaceConnection (hm : Models m h) (hnone : h.connections key = none) (id : Int32)
    (options : TcpControllerOptions) :
    Models { m with
        connections := emplace m.connections key { endpoint := { con := .new key options } } }
      ((h.emplaceConnection key id options).2.attach id key) := by
  rw [emplace_of_none (hm.eq_none hnone), Host.emplaceConnection, hnone]
  dsimp only
  rw [Host.attach]
  simp only [Function.update_self]
  exact hm.update rfl rfl rfl rfl rfl hm.openFileIdPool hm.sendPktQueue

/-- `HandleNewConnection` accepts the same packets. -/
theorem Models.handleNewConnection (hm : Models m h) (hnone : h.connections pkt.tcpKey = none) :
    (m.handleNewConnection pkt).1 = (h.handleNewConnection pkt).1 ∧
      Models (m.handleNewConnection pkt).2 (h.handleNewConnection pkt).2 := by
  rw [Machine.handleNewConnection, Host.handleNewConnection, hm.listeners]
  by_cases hsync : !pkt.tcpHeader.sync
  · rw [if_pos hsync, if_pos hsync]
    exact ⟨rfl, hm⟩
  rw [if_neg hsync, if_neg hsync]
  dsimp only
  cases hkey : h.listeners ⟨pkt.ipHeader.sourceIp, pkt.tcpHeader.sourcePort.toUInt32.toInt32⟩ with
  | none => exact ⟨rfl, hm⟩
  | some tcpSockets =>
    rw [Option.isSome_some, Bool.not_true, if_neg Bool.false_ne_true]
    dsimp only
    obtain ⟨hnew, hneg⟩ := hm.createNewSocket
    have hfresh : h.createNewSocket.2.connections pkt.tcpKey = none := by
      rw [Host.createNewSocket_connections, hnone]
    by_cases hid : h.createNewSocket.1 < 0
    · rw [if_pos (hneg.mpr hid), if_pos hid]
      exact ⟨rfl, hnew⟩
    · rw [if_neg (mt hneg.mp hid), if_neg hid]
      have hcopy := (hnew.emplaceConnection hfresh h.createNewSocket.1
        (Host.acceptOptions pkt)).receiveNewPacket pkt.copy
      rw [Packet.tcpKey_copy] at hcopy
      refine ⟨rfl, hcopy.connections, fun key => ?_, hcopy.openFileIdPool, hcopy.sendPktQueue⟩
      by_cases hlocal : key = ⟨pkt.ipHeader.sourceIp, pkt.tcpHeader.sourcePort.toUInt32.toInt32⟩
      · -- the listener was there before
        refine (hm.listeners key).trans ?_
        dsimp only
        rw [hlocal, hkey, Function.update_self]
        rfl
      · refine (hcopy.listeners key).trans ?_
        dsimp only
        rw [Function.update_of_ne hlocal]

/-! ## The loop -/

/-- One iteration, for a batch that is not over. -/
theorem Models.demultiplexNext {rest : List Packet} {n : ℕ} (hm : Models m h) (hleft : m.left = n + 1)
    (hnew : m.newPackets = pkt :: rest) :
    ∃ h', Models m.demultiplexNext h' ∧ m.demultiplexNext.left = n ∧
      m.newPackets.length ≤ m.demultiplexNext.newPackets.length + 1 ∧
      Host.demultiplexLoop (n + 1) h m.newPackets =
        Host.demultiplexLoop n h' m.demultiplexNext.newPackets := by
  rw [hnew, Host.demultiplexLoop, Machine.demultiplexNext, hleft, hnew]
  dsimp only
  by_cases hsome : (h.connections pkt.tcpKey).isSome
  · rw [if_pos hsome, if_pos ((hm.isSome _).trans hsome)]
    exact ⟨_, (hm.withBatch n rest).receiveNewPacket pkt, rfl, le_rfl, rfl⟩
  · have hnone : h.connections pkt.tcpKey = none := by simpa using hsome
    obtain ⟨haccept, hconn⟩ := hm.handleNewConnection hnone
    rw [if_neg hsome, if_neg (by rwa [hm.isSome])]
    rcases handleNewConnection_cases (hm.eq_none hnone) with ⟨pool, heq, -⟩ | ⟨pool, -, heq⟩
    · -- rejected: the packet is looked at again
      rw [heq] at haccept hconn ⊢
      obtain ⟨accepted, h₁⟩ : ∃ h₁, h.handleNewConnection pkt = (false, h₁) :=
        ⟨_, Prod.ext haccept.symm rfl⟩
      rw [h₁] at hconn ⊢
      dsimp only
      by_cases hrst : pkt.tcpHeader.rst
      · rw [if_pos hrst, if_pos hrst]
        exact ⟨_, hconn.withBatch n _, rfl, by simp [hnew], by rw [← hnew]⟩
      · rw [if_neg hrst, if_neg hrst]
        exact ⟨_, (hconn.sendBackRST pkt.tcpKey).withBatch n _, rfl, by simp [Machine.sendBackRST, hnew],
          by simp [Machine.sendBackRST, hnew]⟩
    · -- accepted: a new controller
      rw [heq] at haccept hconn ⊢
      obtain ⟨h₁, hh⟩ : ∃ h₁, h.handleNewConnection pkt = (true, h₁) :=
        ⟨_, Prod.ext haccept.symm rfl⟩
      rw [hh] at hconn ⊢
      exact ⟨_, (hconn.withBatch n rest).receiveNewPacket pkt, rfl, le_rfl, rfl⟩

/-- **A batch that `PacketsReceiveListener` fetches goes through `DemultiplexPacketsToTcps`.** -/
theorem Models.demultiplexPacketsToTcps (hm : Models m h) (hnil : m.newPackets = []) :
    Models (Machine.demultiplexNext^[m.recvPktQueue.length] m.packetsReceiveListener)
      (h.demultiplexPacketsToTcps m.recvPktQueue).1 := by
  have hfetch : m.packetsReceiveListener =
      { m with newPackets := m.recvPktQueue, recvPktQueue := [], left := m.recvPktQueue.length } := by
    rw [Machine.packetsReceiveListener, if_pos hnil]
  rw [hfetch, Host.demultiplexPacketsToTcps]
  have hfetched : Models { m with
      newPackets := m.recvPktQueue, recvPktQueue := [], left := m.recvPktQueue.length } h :=
    ⟨hm.connections, hm.listeners, hm.openFileIdPool, hm.sendPktQueue⟩
  exact (Host.demultiplexLoop_simulates Machine.newPackets
    (fun s h n pkt rest hs hleft hbatch => hs.demultiplexNext hleft hbatch) _ hfetched rfl le_rfl).1

end Machine

end Stack

end NetStack
