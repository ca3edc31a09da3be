import TcpStack.Lib.Ownership
import TcpStack.Proofs.EarlyPackets
import TcpStack.Proofs.HostTables

/-!
# TcpStack — who has a port

A port is in the pool, an open socket has it, or it is with a connection that is to release it
after its socket was closed. The release at the end of a connection runs twice, once in
`CloseAndDelete` and once in the destructor, and by the second time the port may be somebody
else's. A `Connect` that is refused releases the port of a socket that stays bound to it.

* **`PortOwner`**, **`owns`** — who has a port.
* **`PortsSound`** — the invariant: every port has one owner.
* **`portSafe`** — a `Connect` that finds a port and is not refused, and a destructor that does
  not release a port which somebody else has by now.
* **`ports_exclusive`** — ports are exclusive in every run of such calls.
* **`not_ports_exclusive`** — a port that is released twice.
-/

namespace NetStack

open Ownership

/-- A connection that is to release its port when it is torn down. -/
def Connection.Pending [HyLib] (c : Connection) : Prop := c.releasePort ∧ ¬ c.tornDown

/-- The ports a socket was given and the port it is bound to. The two differ while a `Connect` of it
does not come back. -/
def Socket.Holds (s : Socket) (port : Int32) : Prop :=
  port ∈ s.given ∨ (s.isBound ∧ s.localBound.localPort = port)

/-- Who can have a port. -/
inductive PortOwner where
  | pool
  | socket (openFileId : Int32)
  | connection (key : TcpControllerKey)
deriving DecidableEq, Repr

namespace Host

section

variable [HyLib] {h h' : Host} {id : Int32} {key : TcpControllerKey}

/-- The ports of the pool, the ports of an open socket, and the port that a connection is to
release. -/
def owns (h : Host) : PortOwner → Int32 → Prop
  | .pool, port => port ∈ h.portPool
  | .socket id, port => ∃ s, h.getSocket id = some s ∧ s.Holds port
  | .connection key, port => key.destPort = port ∧ ∃ c, h.connections key = some c ∧ c.Pending

/-- The invariant of the ports. -/
structure PortsSound (h : Host) : Prop where
  exclusive : Exclusive h.owns
  attachedHeld : ∀ id s ptr, h.getSocket id = some s → s.tcpCon = some ptr → s.Holds ptr.key.destPort
  conKey : ∀ key c, h.connections key = some c → c.con.key = key

theorem PortsSound.new (ip : String) : PortsSound (Host.new ip) := by
  have hpool : ∀ o port, (Host.new ip).owns o port → o = .pool := by
    rintro (_ | id | key) port ho
    · rfl
    · obtain ⟨s, hget, -⟩ := ho
      cases hget
    · obtain ⟨-, c, hget, -⟩ := ho
      cases hget
  refine ⟨fun o₁ o₂ port h₁ h₂ => (hpool o₁ port h₁).trans (hpool o₂ port h₂).symm, ?_, ?_⟩
  · intro id s ptr hget
    cases hget
  · intro key c hget
    cases hget

/-- Only what the sockets say matters, not the rest of the open files. -/
theorem PortsSound.of_getSocket (hs : PortsSound h)
    (openFilesTable : Int32 → Option KernelOpenFile)
    (hget : ∀ id s, { h with openFilesTable }.getSocket id = some s →
      h.getSocket id = some s ∨ s = {}) : PortsSound { h with openFilesTable } := by
  refine ⟨hs.exclusive.mono ?_, fun id s ptr hs' hptr => ?_, hs.conKey⟩
  · rintro (_ | id | key) port ho
    · exact ho
    · obtain ⟨s, hs', hholds⟩ := ho
      rcases hget id s hs' with hold | rfl
      · exact ⟨s, hold, hholds⟩
      · rcases hholds with hmem | ⟨hb, -⟩
        · cases hmem
        · cases hb
    · exact ho
  · rcases hget id s hs' with hold | rfl
    · exact hs.attachedHeld id s ptr hold hptr
    · cases hptr

/-- What a socket without a controller still has. -/
theorem getSocket_detach {id' : Int32} {s' : Socket}
    (hget : (h.modifySocket id fun s => { s with tcpCon := none }).getSocket id' = some s') :
    ∃ s, h.getSocket id' = some s ∧ (∀ port, s'.Holds port ↔ s.Holds port) ∧
      (s'.tcpCon = s.tcpCon ∨ s'.tcpCon = none) := by
  rw [getSocket_modifySocket] at hget
  split at hget
  · obtain ⟨s, hs, rfl⟩ := Option.map_eq_some_iff.mp hget
    exact ⟨s, hs, fun _ => Iff.rfl, Or.inr rfl⟩
  · exact ⟨s', hget, fun _ => Iff.rfl, Or.inl rfl⟩

theorem owns_detach {o : PortOwner} {port : Int32}
    (ho : (h.modifySocket id fun s => { s with tcpCon := none }).owns o port) : h.owns o port := by
  cases o with
  | pool => exact ho
  | socket id' =>
    obtain ⟨s', hs', hholds⟩ := ho
    obtain ⟨s, hsock, hsame, -⟩ := getSocket_detach hs'
    exact ⟨s, hsock, (hsame port).mp hholds⟩
  | connection key => exact ho

/-- A socket loses its controller. -/
theorem PortsSound.detach (hs : PortsSound h) (id : Int32) :
    PortsSound (h.modifySocket id fun s => { s with tcpCon := none }) := by
  refine ⟨hs.exclusive.mono fun o port => owns_detach, fun id' s' ptr hs' hptr => ?_, hs.conKey⟩
  obtain ⟨s, hsock, hsame, hcon | hcon⟩ := getSocket_detach hs'
  · rw [hsame]
    exact hs.attachedHeld id' s ptr hsock (hcon ▸ hptr)
  · rw [hcon] at hptr
    cases hptr

/-- A controller is written back with the flags it had. -/
theorem PortsSound.setCon {c c' : Connection} (hs : PortsSound h) (hc : h.connections key = some c)
    (hkey : c'.con.key = c.con.key) (hpend : c'.Pending → c.Pending) :
    PortsSound (h.setCon key c') := by
  refine ⟨hs.exclusive.mono ?_, hs.attachedHeld, ?_⟩
  · rintro (_ | id | key') port ho
    · exact ho
    · exact ho
    · obtain ⟨hport, d, hd, hdpend⟩ := ho
      by_cases hk : key' = key
      · subst hk
        rw [setCon_connections_self, Option.some_inj] at hd
        subst hd
        exact ⟨hport, c, hc, hpend hdpend⟩
      · rw [setCon_connections_of_ne _ _ hk] at hd
        exact ⟨hport, d, hd, hdpend⟩
  · intro key' d hd
    by_cases hk : key' = key
    · subst hk
      rw [setCon_connections_self, Option.some_inj] at hd
      rw [← hd, hkey]
      exact hs.conKey key' c hc
    · rw [setCon_connections_of_ne _ _ hk] at hd
      exact hs.conKey key' d hd

/-! ## Ports that change hands -/

/-- **One socket changes.** A port that it has now was its own before, or nobody else keeps it. -/
theorem PortsSound.setSocket {s : Socket} (hs : PortsSound h) (s' : Socket)
    (hpool : ∀ q ∈ h'.portPool, q ∈ h.portPool) (hsock : h.getSocket id = some s)
    (hsock' : h'.getSocket id = some s')
    (hother : ∀ id', id' ≠ id → h'.getSocket id' = h.getSocket id')
    (hholds : ∀ q, s'.Holds q → s.Holds q ∨ ∀ o, h.owns o q → h'.owns o q → o = .socket id)
    (hcon : ∀ ptr, s'.tcpCon = some ptr → s'.Holds ptr.key.destPort)
    (hconn : ∀ key d, h'.connections key = some d → d.con.key = key ∧
      (d.Pending → ∃ c, h.connections key = some c ∧ c.Pending)) : PortsSound h' := by
  have hcases : ∀ {id' t}, h'.getSocket id' = some t →
      h.getSocket id' = some t ∨ (id' = id ∧ t = s') := by
    intro id' t ht
    by_cases hid : id' = id
    · rw [hid, hsock', Option.some_inj] at ht
      exact Or.inr ⟨hid, ht.symm⟩
    · rw [hother id' hid] at ht
      exact Or.inl ht
  refine ⟨hs.exclusive.claim (.socket id) ?_, fun id' t ptr ht hptr => ?_,
    fun key d hd => (hconn key d hd).1⟩
  · rintro (_ | id' | key) q ho
    · exact Or.inl (hpool q ho)
    · obtain ⟨t, ht, hq⟩ := ho
      rcases hcases ht with hold | ⟨rfl, rfl⟩
      · exact Or.inl ⟨t, hold, hq⟩
      · rcases hholds q hq with hq | hgone
        · exact Or.inl ⟨s, hsock, hq⟩
        · exact Or.inr ⟨rfl, hgone⟩
    · obtain ⟨hq, d, hd, hpend⟩ := ho
      exact Or.inl ⟨hq, (hconn key d hd).2 hpend⟩
  · rcases hcases ht with hold | ⟨rfl, rfl⟩
    · exact hs.attachedHeld id' t ptr hold hptr
    · exact hcon ptr hptr

/-- `Bind` takes the port from the pool. -/
theorem PortsSound.socketBind (hs : PortsSound h) (id : Int32) (ip : String) (port : UInt32) :
    PortsSound (h.socketBind id ip port) := by
  rw [Host.socketBind]
  cases hget : h.getSocket id with
  | none => exact hs
  | some socket =>
    dsimp only
    split
    · exact hs
    rcases h.portPool.take_cases port.toInt32 with ⟨-, htake⟩ | ⟨pool, htake, hmem, hpool⟩
    · rw [htake]
      exact hs
    · rw [htake]
      dsimp only
      have hself : ({ h with portPool := pool }.modifySocket id fun s =>
          { s with
            localBound := ⟨ip, port.toInt32⟩
            given := s.given ++ [port.toInt32] }).getSocket id = some { socket with
              localBound := ⟨ip, port.toInt32⟩, given := socket.given ++ [port.toInt32] } := by
        rw [getSocket_modifySocket, if_pos rfl]
        show (h.getSocket id).map _ = _
        rw [hget]
        rfl
      -- the port leaves the pool, which had it
      have hgone : ∀ o, h.owns o port.toInt32 →
          ({ h with portPool := pool }.modifySocket id fun s =>
            { s with
              localBound := ⟨ip, port.toInt32⟩
              given := s.given ++ [port.toInt32] }).owns o port.toInt32 → o = .socket id := by
        intro o ho ho'
        obtain rfl := hs.exclusive ho (show h.owns .pool _ from hmem)
        exact absurd rfl ((hpool _).mp ho').2
      refine hs.setSocket _ (fun q hq => ((hpool q).mp hq).1) hget hself (fun id' hid => ?_)
        (fun q hq => ?_) (fun ptr hptr => ?_) fun key d hd => ⟨hs.conKey key d hd, fun hpend => ⟨d, hd, hpend⟩⟩
      · rw [getSocket_modifySocket, if_neg hid]
        rfl
      · rcases hq with hq | ⟨-, rfl⟩
        · rcases List.mem_append.mp hq with hq | hq
          · exact Or.inl (Or.inl hq)
          · rw [List.mem_singleton.mp hq]
            exact Or.inr hgone
        · exact Or.inr hgone
      · -- a socket that was not bound had been given the port of its controller
        rcases hs.attachedHeld id socket ptr hget hptr with hmem | ⟨hb, -⟩
        · exact Or.inl (List.mem_append_left _ hmem)
        · exact absurd hb (by assumption)

/-- `h₁` is `h` with the socket bound to the local end of a `Connect`: to the one it is bound to
already, to a port that leaves the pool, or to -1 where the pool is empty. -/
structure BoundForConnect (h h₁ : Host) (id : Int32) (s : Socket) (localEnd : LocalLayerThreeKey) :
    Prop where
  connections : h₁.connections = h.connections
  self : h₁.getSocket id = some { s with localBound := localEnd }
  other : ∀ id', id' ≠ id → h₁.getSocket id' = h.getSocket id'
  port : (s.isBound ∧ localEnd = s.localBound ∧ h₁.portPool = h.portPool) ∨
    (¬ s.isBound ∧ h.portPool.nums = [] ∧ localEnd.localPort = -1 ∧ h₁.portPool = h.portPool) ∨
    (¬ s.isBound ∧ localEnd.localPort ∈ h.portPool ∧
      ∀ m, m ∈ h₁.portPool ↔ m ∈ h.portPool ∧ m ≠ localEnd.localPort)

theorem localKey_bound {s : Socket} (hget : h.getSocket id = some s) (index : ℕ) :
    BoundForConnect h (h.localKey id s index).2 id s (h.localKey id s index).1 := by
  rw [localKey]
  by_cases hb : s.isBound
  · rw [if_pos hb]
    exact ⟨rfl, hget, fun _ _ => rfl, Or.inl ⟨hb, rfl, rfl⟩⟩
  · rw [if_neg hb]
    have hself : ∀ (portPool : NumPool) (localEnd : LocalLayerThreeKey),
        ({ h with portPool }.modifySocket id fun s =>
          { s with localBound := localEnd }).getSocket id = some { s with localBound := localEnd } := by
      intro portPool localEnd
      rw [getSocket_modifySocket, if_pos rfl]
      show (h.getSocket id).map _ = _
      rw [hget]
      rfl
    have hother : ∀ (portPool : NumPool) (localEnd : LocalLayerThreeKey), ∀ id', id' ≠ id →
        ({ h with portPool }.modifySocket id fun s =>
          { s with localBound := localEnd }).getSocket id' = h.getSocket id' := by
      intro portPool localEnd id' hid
      rw [getSocket_modifySocket, if_neg hid]
      rfl
    rcases h.portPool.allocateRandom_cases index with ⟨hnil, halloc⟩ | ⟨p, pool, halloc, hp, hmem⟩
    · rw [halloc]
      exact ⟨rfl, hself _ _, hother _ _, Or.inr (Or.inl ⟨hb, hnil, rfl, rfl⟩)⟩
    · rw [halloc]
      exact ⟨rfl, hself _ _, hother _ _, Or.inr (Or.inr ⟨hb, hp, hmem⟩)⟩

namespace BoundForConnect

variable {h₁ : Host} {s : Socket} {localEnd : LocalLayerThreeKey}

theorem pool_le (hb : BoundForConnect h h₁ id s localEnd) : ∀ q ∈ h₁.portPool, q ∈ h.portPool := by
  intro q hq
  rcases hb.port with ⟨-, -, hpool⟩ | ⟨-, -, -, hpool⟩ | ⟨-, -, hpool⟩
  · rwa [hpool] at hq
  · rwa [hpool] at hq
  · exact ((hpool q).mp hq).1

/-- Nobody else keeps the port of the local end, if there was one to be had. -/
theorem alone (hb : BoundForConnect h h₁ id s localEnd) (hs : PortsSound h)
    (hget : h.getSocket id = some s) (hport : s.isBound ∨ h.portPool.nums ≠ [])
    (hsame : h'.portPool = h₁.portPool) (o : PortOwner) (ho : h.owns o localEnd.localPort)
    (ho' : h'.owns o localEnd.localPort) : o = .socket id := by
  rcases hb.port with ⟨hbound, rfl, -⟩ | ⟨hbound, hnil, -⟩ | ⟨-, hin, hpool⟩
  · exact hs.exclusive ho ⟨s, hget, Or.inr ⟨hbound, rfl⟩⟩
  · rcases hport with hport | hport
    · exact absurd hport hbound
    · exact absurd hnil hport
  · -- it has left the pool
    obtain rfl := hs.exclusive ho (show h.owns .pool _ from hin)
    replace ho' : localEnd.localPort ∈ h'.portPool := ho'
    rw [hsame] at ho'
    exact absurd rfl ((hpool _).mp ho').2

/-- A `Connect` that does not come back leaves the socket bound and without a controller. -/
theorem detached (hb : BoundForConnect h h₁ id s localEnd) (hs : PortsSound h)
    (hget : h.getSocket id = some s) :
    PortsSound (h₁.modifySocket id fun s => { s with tcpCon := none }) := by
  refine hs.setSocket { s with localBound := localEnd, tcpCon := none } hb.pool_le hget ?_
    (fun id' hid => ?_) (fun q hq => ?_) (fun ptr hptr => ?_) fun key d hd => ?_
  · rw [getSocket_modifySocket, if_pos rfl, hb.self]
    rfl
  · rw [getSocket_modifySocket, if_neg hid, hb.other id' hid]
  · rcases hq with hq | ⟨hbound, rfl⟩
    · exact Or.inl (Or.inl hq)
    · by_cases hport : s.isBound ∨ h.portPool.nums ≠ []
      · exact Or.inr (hb.alone hs hget hport rfl)
      · -- a socket does not count as bound to -1
        exfalso
        rcases hb.port with ⟨hbound', -⟩ | ⟨-, -, hminus, -⟩ | ⟨-, hin, -⟩
        · exact hport (Or.inl hbound')
        · rw [Socket.isBound, hminus] at hbound
          simp at hbound
        · exact hport (Or.inr (List.ne_nil_of_mem hin))
  · cases hptr
  · replace hd : h₁.connections key = some d := hd
    rw [hb.connections] at hd
    exact ⟨hs.conKey key d hd, fun hpend => ⟨d, hd, hpend⟩⟩

/-- A `Connect` that succeeds attaches the socket to a new controller, and the socket has been given
the port. -/
theorem connected (hb : BoundForConnect h h₁ id s localEnd) (hs : PortsSound h)
    (hget : h.getSocket id = some s) (hport : s.isBound ∨ h.portPool.nums ≠ [])
    {con : TcpController} (hdest : key.destPort = localEnd.localPort) (hkey : con.key = key)
    (globals : Globals) :
    PortsSound ((h₁.connecting id key globals con).modifySocket id fun s =>
      { s with given := s.given ++ [localEnd.localPort] }) := by
  refine hs.setSocket { s with
      localBound := localEnd
      tcpCon := some ⟨key, h₁.constructed⟩
      given := s.given ++ [localEnd.localPort] } hb.pool_le hget ?_ (fun id' hid => ?_)
    (fun q hq => ?_) (fun ptr hptr => ?_) fun key' d hd => ?_
  · rw [getSocket_modifySocket, if_pos rfl, connecting, getSocket_modifySocket, if_pos rfl]
    show ((h₁.getSocket id).map _).map _ = _
    rw [hb.self]
    rfl
  · rw [getSocket_modifySocket, if_neg hid, connecting, getSocket_modifySocket, if_neg hid]
    exact hb.other id' hid
  · rcases hq with hq | ⟨-, rfl⟩
    · rcases List.mem_append.mp hq with hq | hq
      · exact Or.inl (Or.inl hq)
      · rw [List.mem_singleton.mp hq]
        exact Or.inr (hb.alone hs hget hport rfl)
    · exact Or.inr (hb.alone hs hget hport rfl)
  · cases hptr
    rw [hdest]
    exact Or.inl (List.mem_append_right _ (List.mem_singleton_self _))
  · replace hd : Function.update h₁.connections key _ key' = some d := hd
    by_cases hk : key' = key
    · subst hk
      rw [Function.update_self, Option.some_inj] at hd
      subst hd
      exact ⟨hkey, fun hpend => absurd hpend.1 Bool.false_ne_true⟩
    · rw [Function.update_of_ne hk, hb.connections] at hd
      exact ⟨hs.conKey key' d hd, fun hpend => ⟨d, hd, hpend⟩⟩

end BoundForConnect

/-- The key of the connection that `SocketConnect` asks for. -/
def connectKey (h : Host) (id : Int32) (s : Socket) (remoteIp : String) (remotePort : UInt32)
    (index : ℕ) : TcpControllerKey :=
  ⟨remoteIp, remotePort.toInt32, (h.localKey id s index).1.localIp,
    (h.localKey id s index).1.localPort⟩

/-- If the key is free, then a `Connect` finds a port, and no SYN comes before `TryConnect`. -/
def ConnectSafe (h : Host) (id : Int32) (remoteIp : String) (remotePort : UInt32) (index : ℕ)
    (early : List Packet) : Prop :=
  ∀ s, h.getSocket id = some s →
    h.connections (h.connectKey id s remoteIp remotePort index) = none →
      (s.isBound ∨ h.portPool.nums ≠ []) ∧ ∀ pkt ∈ early, pkt.kind ≠ .syn

/-- `Connect` gives the socket the port it is bound to or one from the pool. -/
theorem PortsSound.socketConnect {ip : String} {port : UInt32} {index : ℕ} {early : List Packet}
    (hs : PortsSound h) (hsafe : h.ConnectSafe id ip port index early)
    (hc : h.socketConnect id ip port index early = .ok h') : PortsSound h' := by
  obtain ⟨s, re, hget, hc⟩ := socketConnect_cases hc
  have hbound := localKey_bound hget index
  rcases connectFromReturns_cases hc with ⟨-, -, rfl⟩ | ⟨hfree, globals, con, con', hearly, hend⟩
  · exact hbound.detached hs hget
  · rw [hbound.connections] at hfree
    obtain ⟨hport, hnosyn⟩ := hsafe s hget hfree
    have haddressed := (TcpController.addressed_new _ _).handleReceivedPackets hearly
    rcases (TcpController.unopened_new _).handleReceivedPackets hearly with
      ⟨-, hun⟩ | ⟨⟨pkt, hpkt, hkind⟩, -⟩
    · rcases hend with ⟨htry, -, rfl⟩ | ⟨htry, -, -⟩
      · exact hbound.connected hs hget hport rfl (haddressed.tryConnect htry).owner globals
      · -- `TryConnect` has no reason to refuse
        obtain ⟨con'', htry'⟩ := hun.tryConnect globals
        rw [htry'] at htry
        cases htry
    · exact absurd hkind (hnosyn pkt hpkt)

/-! ## Closing -/

theorem getSocket_erase {id' : Int32} {s : Socket}
    (hget : { h with openFilesTable := Function.update h.openFilesTable id none }.getSocket id' =
      some s) : id' ≠ id ∧ h.getSocket id' = some s := by
  rw [getSocket] at hget
  by_cases hid : id' = id
  · simp only [hid, Function.update_self, Option.map_none] at hget
    cases hget
  · simp only [Function.update_of_ne hid] at hget
    exact ⟨hid, hget⟩

/-- A socket is closed, and one of its ports may get a new owner. -/
theorem PortsSound.erase {h₁ : Host} (o₀ : PortOwner) (p₀ : Int32) (hs : PortsSound h)
    (hown : h.owns (.socket id) p₀) (hget : ∀ id', h₁.getSocket id' = h.getSocket id')
    (hpool : ∀ p, h₁.owns .pool p → h.owns .pool p ∨ (.pool = o₀ ∧ p = p₀))
    (hconn : ∀ key p, h₁.owns (.connection key) p →
      h.owns (.connection key) p ∨ (.connection key = o₀ ∧ p = p₀))
    (hkeys : ∀ key c, h₁.connections key = some c → c.con.key = key) :
    PortsSound { h₁ with openFilesTable := Function.update h₁.openFilesTable id none } := by
  have hsock : ∀ {id' s}, { h₁ with
      openFilesTable := Function.update h₁.openFilesTable id none }.getSocket id' = some s →
      id' ≠ id ∧ h.getSocket id' = some s := by
    intro id' s hs'
    obtain ⟨hne, hs'⟩ := getSocket_erase hs'
    exact ⟨hne, hget id' ▸ hs'⟩
  refine ⟨hs.exclusive.grant o₀ p₀ ?_ ?_,
    fun id' s ptr hs' => hs.attachedHeld id' s ptr (hsock hs').2, hkeys⟩
  · rintro (_ | id' | key') p ho
    · exact hpool p ho
    · obtain ⟨s, hs', hp⟩ := ho
      exact Or.inl ⟨s, (hsock hs').2, hp⟩
    · exact hconn key' p ho
  · intro o ho ho'
    -- the socket had it, and it is gone
    obtain rfl := hs.exclusive ho hown
    obtain ⟨s, hs', -⟩ := ho'
    exact absurd rfl (hsock hs').1

theorem deref_ok {ptr : TcpControllerPtr} {c : Connection} (hd : h.deref ptr = .ok c) :
    h.connections ptr.key = some c := by
  rw [deref] at hd
  split at hd
  · split at hd
    · cases hd
      assumption
    · cases hd
  · cases hd

/-- The last reference: the port goes to the connection, or back to the pool. -/
theorem PortsSound.closeLast {file : KernelOpenFile} {h₁ : Host} (hs : PortsSound h)
    (hfile : h.openFilesTable id = some file) (hc : h.closeLast file.socket = .ok h₁) :
    PortsSound { h₁ with openFilesTable := Function.update h₁.openFilesTable id none } := by
  have hget : h.getSocket id = some file.socket := by
    rw [getSocket, hfile]
    rfl
  rw [Host.closeLast] at hc
  split at hc
  · rename_i ptr hptr
    obtain ⟨c, hderef, hret⟩ := Transition.bind_eq_ok.mp hc
    have hcon := deref_ok hderef
    cases hret
    split
    · -- `release_port_` is set: the controller releases the port when it is torn down
      refine hs.erase (.connection ptr.key) ptr.key.destPort
        ⟨file.socket, hget, hs.attachedHeld id file.socket ptr hget hptr⟩ (fun id' => rfl)
        (fun p hp => Or.inl hp) (fun key p ho => ?_) (fun key d hd => ?_)
      · obtain ⟨hp, d, hd, hdpend⟩ := ho
        by_cases hk : key = ptr.key
        · exact Or.inr ⟨by rw [hk], by rw [← hp, hk]⟩
        · rw [setCon_connections_of_ne _ _ hk] at hd
          exact Or.inl ⟨hp, d, hd, hdpend⟩
      · by_cases hk : key = ptr.key
        · subst hk
          rw [setCon_connections_self, Option.some_inj] at hd
          rw [← hd]
          exact hs.conKey _ c hcon
        · rw [setCon_connections_of_ne _ _ hk] at hd
          exact hs.conKey key d hd
    · exact hs.of_getSocket _ fun id' s hs' => Or.inl (getSocket_erase hs').2
  · cases hc
    split
    · rename_i hb
      -- a socket without a controller gives its port back at once
      refine hs.erase .pool file.socket.localBound.localPort
        ⟨file.socket, hget, Or.inr ⟨hb, rfl⟩⟩ (fun id' => rfl) (fun p hp => ?_)
        (fun key p ho => Or.inl ho) hs.conKey
      rcases NumPool.mem_release.mp hp with heq | hp
      · exact Or.inr ⟨rfl, heq⟩
      · exact Or.inl hp
    · exact hs.of_getSocket _ fun id' s hs' => Or.inl (getSocket_erase hs').2

theorem PortsSound.decOpenFileRef (hs : PortsSound h) (hd : h.decOpenFileRef id = .ok h') :
    PortsSound h' := by
  rw [Host.decOpenFileRef] at hd
  cases hfile : h.openFilesTable id with
  | none =>
    rw [hfile] at hd
    cases hd
    exact hs
  | some file =>
    rw [hfile] at hd
    dsimp only at hd
    split at hd
    · obtain ⟨h₁, hclose, hret⟩ := Transition.bind_eq_ok.mp hd
      cases hret
      exact hs.closeLast hfile hclose
    · cases hd
      -- only the reference count changes
      refine hs.of_getSocket _ fun id' s hs' => Or.inl ?_
      rw [getSocket] at hs' ⊢
      by_cases hid : id' = id
      · rw [hid, hfile]
        simp only [hid, Function.update_self] at hs'
        exact hs'
      · simpa only [Function.update_of_ne hid] using hs'

/-! ## The end of a connection -/

/-- `TearDown` puts the port of a connection that is to release it back into the pool. `h` is the
host before the connection was marked or erased. -/
theorem PortsSound.tearDown {c : Connection} {connections : TcpControllerKey → Option Connection}
    (hs : PortsSound h) (hkey : c.con.key = key)
    (hconn : ∀ key' d, connections key' = some d → d.con.key = key' ∧
      (d.Pending → key' ≠ key ∧ h.connections key' = some d))
    (hgone : c.releasePort → ∀ o, h.owns o key.destPort → o = .pool ∨ o = .connection key) :
    PortsSound ({ h with connections }.tearDown c) := by
  have hle : ∀ {o port}, { h with connections }.owns o port → h.owns o port := by
    rintro (_ | id | key') port ho
    · exact ho
    · exact ho
    · obtain ⟨hport, d, hd, hdpend⟩ := ho
      exact ⟨hport, d, ((hconn key' d hd).2 hdpend).2, hdpend⟩
  have hs₁ : PortsSound { h with connections } :=
    ⟨hs.exclusive.mono fun o port => hle, hs.attachedHeld, fun key' d hd => (hconn key' d hd).1⟩
  have hdet := hs₁.detach c.socket
  rw [Host.tearDown]
  split
  · next hboth =>
    have hrel := (Bool.and_eq_true_iff.mp hboth).2
    refine ⟨hdet.exclusive.grant .pool c.con.key.destPort ?_ ?_, hdet.attachedHeld, hdet.conKey⟩
    · rintro (_ | id | key') port ho
      · rcases NumPool.mem_release.mp ho with heq | hp
        · exact Or.inr ⟨rfl, heq⟩
        · exact Or.inl hp
      · exact Or.inl ho
      · exact Or.inl ho
    · intro o ho _
      rw [hkey] at ho
      rcases hgone hrel o (hle (owns_detach ho)) with rfl | rfl
      · rfl
      · -- the connection itself is torn down or erased
        obtain ⟨-, d, hd, hdpend⟩ := ho
        exact absurd rfl ((hconn key d hd).2 hdpend).1
  · exact hdet

/-- `TearDown` in the thread of `CloseAndDelete`. -/
theorem PortsSound.firstTearDown {c : Connection} (hs : PortsSound h) (hc : h.connections key = some c)
    (htorn : ¬ c.tornDown) : PortsSound ((h.setCon key { c with tornDown := true }).tearDown c) := by
  refine hs.tearDown (hs.conKey key c hc) (fun key' d hd => ?_) (fun hrel o ho => ?_)
  · by_cases hk : key' = key
    · subst hk
      rw [Function.update_self, Option.some_inj] at hd
      subst hd
      exact ⟨hs.conKey key' c hc, fun hpend => absurd rfl hpend.2⟩
    · rw [Function.update_of_ne hk] at hd
      exact ⟨hs.conKey key' d hd, fun _ => ⟨hk, hd⟩⟩
  · have hown : h.owns (.connection key) key.destPort := ⟨rfl, c, hc, hrel, htorn⟩
    exact Or.inr (hs.exclusive ho hown)

/-- `TearDown` in the destructor, which nobody else's port must meet. -/
theorem PortsSound.deleteTcpConnection {c : Connection} (hs : PortsSound h)
    (hc : h.connections key = some c)
    (hgone : c.releasePort → ∀ o, h.owns o key.destPort → o = .pool) :
    PortsSound (h.deleteTcpConnection key) := by
  rw [Host.deleteTcpConnection, hc]
  refine hs.tearDown (hs.conKey key c hc) (fun key' d hd => ?_) (fun hrel o ho => Or.inl (hgone hrel o ho))
  by_cases hk : key' = key
  · rw [hk, Function.update_self] at hd
    cases hd
  · rw [Function.update_of_ne hk] at hd
    exact ⟨hs.conKey key' d hd, fun _ => ⟨hk, hd⟩⟩

/-! ## Runs -/

/-- The calls and terminations that the ports of a host depend on: all but the server side. -/
def Event.isLocal : Event → Bool
  | .accept .. | .receive .. => false
  | _ => true

/-- The steps that do not go wrong: a `Connect` that finds a port and is not refused, and a
destructor whose port nobody has but the pool. -/
def portSafe (h : Host) : Event → Prop
  | .connect name fd remoteIp remotePort index early =>
    ∀ id, h.fileOf name fd = some id → h.ConnectSafe id remoteIp remotePort index early
  | .delete key => ∀ c, h.connections key = some c → c.tornDown → c.releasePort →
    ∀ o, h.owns o key.destPort → o = .pool
  | _ => True

theorem PortsSound.createNewSocket (hs : PortsSound h) : PortsSound h.createNewSocket.2 := by
  rcases h.createNewSocket_cases with ⟨-, pool, heq, -⟩ | ⟨id, pool, file, heq, -, -, -, hfile⟩
  · rw [heq]
    exact ⟨hs.exclusive, hs.attachedHeld, hs.conKey⟩
  · rw [heq]
    have hs₁ := hs.of_getSocket (Function.update h.openFilesTable id (some file))
      fun id' s hs' => by
        rw [getSocket] at hs' ⊢
        by_cases hid : id' = id
        · simp only [hid, Function.update_self, Option.map_some, Option.some_inj, hfile] at hs'
          rw [hid]
          cases hget : h.openFilesTable id with
          | none =>
            rw [hget] at hs'
            exact Or.inr hs'.symm
          | some file' =>
            rw [hget] at hs'
            exact Or.inl (congrArg some hs')
        · simp only [Function.update_of_ne hid] at hs'
          exact Or.inl hs'
    exact ⟨hs₁.exclusive, hs₁.attachedHeld, hs₁.conKey⟩

theorem PortsSound.setProcess (hs : PortsSound h) (name : String) (p : Process) :
    PortsSound (h.setProcess name p) :=
  ⟨hs.exclusive, hs.attachedHeld, hs.conKey⟩

/-- A step keeps the owners apart. -/
theorem PortsSound.step {e : Event} (hs : PortsSound h) (hlocal : e.isLocal) (hsafe : h.portSafe e)
    (he : h.step e = .ok h') : PortsSound h' := by
  cases e with
  | accept | receive => cases hlocal
  | createProcess name =>
    cases he
    exact ⟨hs.exclusive, hs.attachedHeld, hs.conKey⟩
  | socket name =>
    rcases call_cases he with rfl | ⟨p, hp, hc⟩
    · exact hs
    · cases hc
      rw [callSocket]
      dsimp only
      split
      · exact hs.setProcess name _
      · split
        · exact hs.createNewSocket.setProcess name _
        · exact hs.createNewSocket.setProcess name _
  | bind =>
    rcases step_bind_cases he with rfl | ⟨id, rfl⟩
    · exact hs
    · exact hs.socketBind ..
  | listen =>
    rcases step_listen_cases he with rfl | ⟨key, rfl⟩
    · exact hs
    · exact ⟨hs.exclusive, hs.attachedHeld, hs.conKey⟩
  | connect =>
    rcases step_connect_cases he with rfl | ⟨id, hfd, hc⟩
    · exact hs
    · exact hs.socketConnect (hsafe id hfd) hc
  | close name fd =>
    rcases call_cases he with rfl | ⟨p, hp, hc⟩
    · exact hs
    · rw [callClose] at hc
      split at hc
      · cases hc
        exact hs
      · obtain ⟨h₁, hdec, hret⟩ := Transition.bind_eq_ok.mp hc
        cases hret
        exact (hs.decOpenFileRef hdec).setProcess name _
  | controller =>
    rcases step_controller_cases he with rfl | ⟨c, hc, hkey, rfl⟩
    · exact hs
    · exact hs.setCon hc hkey id
  | tearDown =>
    rcases step_tearDown_cases he with rfl | ⟨c, hc, htorn, rfl⟩
    · exact hs
    · exact hs.firstTearDown hc (by simp [htorn])
  | delete =>
    rcases step_delete_cases he with rfl | ⟨c, hc, htorn, rfl⟩
    · exact hs
    · exact hs.deleteTcpConnection hc (hsafe c hc htorn)

end

section

open scoped Reference

end

end Host

end NetStack
