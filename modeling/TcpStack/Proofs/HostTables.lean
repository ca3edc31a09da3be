import TcpStack.Proofs.Demultiplex

/-!
# TcpStack — pools and tables of a host

What the system calls do to the pools and tables, said once for each function:

* **`NumPool.allocate_cases`** / **`take_cases`** / **`allocateRandom_cases`** — a number that is
  handed out was in the pool and is not any more; **`mem_release`** — any number can be put
  back.
* **`createNewSocket_cases`** — a new open file has an id of its own.
* **`SameFiles`** — the calls and steps that leave the tables of files as they are.
* **`decOpenFileRef_cases`**, **`deleteSocketAndConnection_cases`** — how a file is closed;
  **`socketAccept_cases`** — how one is handed out.
* **`handleNewConnection_cases`**, **`demultiplexLoop_induction`** — received packets.
* **`step_bind_cases`** and its like — what an event does, if it does anything.
-/

namespace NetStack

namespace NumPool

variable {p p' : NumPool} {n m : Int32}

@[simp] theorem mem_release : m ∈ p.release n ↔ m = n ∨ m ∈ p := mem_insertNum

theorem nodup (p : NumPool) : p.nums.Nodup := by
  refine List.Pairwise.imp (fun {m n} hlt => ?_) p.sorted
  rintro rfl
  exact Int32.lt_irrefl hlt

theorem mem_erase {hs : (p.nums.erase n).Pairwise (· < ·)} :
    m ∈ (⟨p.nums.erase n, hs⟩ : NumPool) ↔ m ∈ p ∧ m ≠ n := by
  have h : m ∈ p.nums.erase n ↔ m ≠ n ∧ m ∈ p.nums := p.nodup.mem_erase_iff
  rw [and_comm] at h
  exact h

/-- The members of a new pool. -/
theorem mem_new {min max : ℤ} :
    m ∈ new min max ↔ ∃ i < (max + 1 - min).toNat, m = Int32.ofInt (min + i) := by
  have hfold : ∀ is : List ℕ, m ∈ is.foldr (fun i p => p.release (Int32.ofInt (min + i)))
      (⟨[], .nil⟩ : NumPool) ↔ ∃ i ∈ is, m = Int32.ofInt (min + i) := by
    intro is
    induction is with
    | nil =>
      change m ∈ [] ↔ _
      simp
    | cons i is ih =>
      rw [List.foldr_cons, mem_release, ih, List.exists_mem_cons_iff]
  rw [new, hfold]
  simp only [List.mem_range]

/-- `Allocate` hands out a member, unless the pool is empty. -/
theorem allocate_cases (p : NumPool) : (p.nums = [] ∧ p.allocate = (-1, p)) ∨
    ∃ n p', p.allocate = (n, p') ∧ n ∈ p ∧ ∀ m, m ∈ p' ↔ m ∈ p ∧ m ≠ n := by
  obtain ⟨nums, hs⟩ := p
  cases nums with
  | nil => exact Or.inl ⟨rfl, rfl⟩
  | cons n rest =>
    refine Or.inr ⟨n, ⟨rest, (List.pairwise_cons.mp hs).2⟩, rfl, List.mem_cons_self .., fun m => ?_⟩
    obtain ⟨hn, -⟩ := List.pairwise_cons.mp hs
    change m ∈ rest ↔ m ∈ n :: rest ∧ m ≠ n
    rw [List.mem_cons]
    constructor
    · intro hm
      exact ⟨Or.inr hm, fun heq => Int32.lt_irrefl (heq ▸ hn m hm)⟩
    · rintro ⟨rfl | hm, hne⟩
      · exact absurd rfl hne
      · exact hm

/-- `Take` hands out the number asked for, if it is a member. -/
theorem take_cases (p : NumPool) (n : Int32) : (n ∉ p ∧ p.take n = (false, p)) ∨
    ∃ p', p.take n = (true, p') ∧ n ∈ p ∧ ∀ m, m ∈ p' ↔ m ∈ p ∧ m ≠ n := by
  by_cases hn : n ∈ p
  · exact Or.inr ⟨_, by rw [take, if_pos hn], hn, fun m => mem_erase⟩
  · exact Or.inl ⟨hn, by rw [take, if_neg hn]⟩

/-- `AllocateRandom` hands out a member, unless the pool is empty. -/
theorem allocateRandom_cases (p : NumPool) (index : ℕ) :
    (p.nums = [] ∧ p.allocateRandom index = (-1, p)) ∨
      ∃ n p', p.allocateRandom index = (n, p') ∧ n ∈ p ∧ ∀ m, m ∈ p' ↔ m ∈ p ∧ m ≠ n := by
  cases hget : p.nums[index % p.nums.length]? with
  | none =>
    refine Or.inl ⟨?_, by rw [allocateRandom, hget]⟩
    by_contra hne
    have hpos := List.length_pos_iff.mpr hne
    exact absurd (List.getElem?_eq_none_iff.mp hget) (not_le.mpr (Nat.mod_lt _ hpos))
  | some n =>
    exact Or.inr ⟨n, _, by rw [allocateRandom, hget], List.mem_of_getElem? hget, fun m => mem_erase⟩

end NumPool

/-! ## Maps -/

theorem emplace_apply {α β : Type*} [DecidableEq α] (m : α → Option β) (k : α) (v : β) (k' : α) :
    emplace m k v k' = if k' = k then some ((m k).getD v) else m k' := by
  rw [emplace]
  by_cases hk : k' = k
  · subst hk
    cases hm : m k' with
    | none => simp
    | some v' => simp [hm]
  · rw [if_neg hk]
    split
    · rfl
    · rw [Function.update_of_ne hk]

theorem emplace_of_none {α β : Type*} [DecidableEq α] {m : α → Option β} {k : α}
    (h : m k = none) (v : β) : emplace m k v = Function.update m k (some v) := by
  rw [emplace, h]
  rfl

namespace Host

variable [HyLib] {h h' : Host} {id : Int32}

/-! ## New files -/

/-- A new open file takes an id out of the pool; everything else stays. -/
theorem createNewSocket_cases (h : Host) :
    (h.createNewSocket.1 < 0 ∧ ∃ openFileIdPool, h.createNewSocket.2 = { h with openFileIdPool } ∧
      ∀ m ∈ openFileIdPool, m ∈ h.openFileIdPool) ∨
    ∃ id openFileIdPool file, h.createNewSocket = (id, { h with
        openFileIdPool, openFilesTable := Function.update h.openFilesTable id (some file) }) ∧
      ¬ id < 0 ∧ id ∈ h.openFileIdPool ∧ (∀ m, m ∈ openFileIdPool ↔ m ∈ h.openFileIdPool ∧ m ≠ id) ∧
      file = { (h.openFilesTable id).getD {} with refs := ((h.openFilesTable id).getD {}).refs + 1 } := by
  have hminus : (-1 : Int32) < 0 := by decide
  rw [createNewSocket]
  rcases h.openFileIdPool.allocate_cases with ⟨-, heq⟩ | ⟨n, p', heq, hn, hmem⟩
  · rw [heq]
    exact Or.inl ⟨hminus, h.openFileIdPool, rfl, fun m hm => hm⟩
  · rw [heq]
    simp only
    by_cases hneg : n < 0
    · rw [if_pos hneg]
      exact Or.inl ⟨hminus, p', rfl, fun m hm => ((hmem m).mp hm).1⟩
    · rw [if_neg hneg]
      exact Or.inr ⟨n, p', _, rfl, hneg, hn, hmem, rfl⟩

/-! ## Descriptors and sockets -/

/-- The open file that a file descriptor of a process is mapped to. -/
def fileOf (h : Host) (name : String) (fd : Int32) : Option Int32 :=
  (h.processes name).bind fun p => p.fdTable fd

theorem fileOf_setProcess (h : Host) (name : String) (p : Process) (name' : String)
    (fd : Int32) : (h.setProcess name p).fileOf name' fd =
      if name' = name then p.fdTable fd else h.fileOf name' fd := by
  rw [fileOf, setProcess]
  by_cases hname : name' = name
  · subst hname
    simp
  · simp [hname, fileOf]

theorem fileOf_of_processes {name : String} {p : Process} (hp : h.processes name = some p)
    (fd : Int32) : h.fileOf name fd = p.fdTable fd := by
  rw [fileOf, hp]
  rfl

theorem getSocket_modifySocket (h : Host) (id : Int32) (f : Socket → Socket) (id' : Int32) :
    (h.modifySocket id f).getSocket id' =
      if id' = id then (h.getSocket id').map f else h.getSocket id' := by
  rw [getSocket, modifySocket]
  by_cases hid : id' = id
  · subst hid
    rw [if_pos rfl, getSocket]
    simp only [Function.update_self, Option.map_map]
    rfl
  · rw [if_neg hid, getSocket]
    simp only [Function.update_of_ne hid]

@[simp] theorem getSocket_setCon (h : Host) (key : TcpControllerKey) (c : Connection) (id : Int32) :
    (h.setCon key c).getSocket id = h.getSocket id := rfl

/-! ## `Connect` -/

/-- The host while `SocketConnect` asks the controller that it has put under a free key, and that
the socket is attached to. -/
def connecting (h : Host) (id : Int32) (key : TcpControllerKey) (globals : Globals)
    (con : TcpController) : Host :=
  { h with
    globals
    connections := Function.update h.connections key
      (some { con, socket := id, serial := h.constructed })
    constructed := h.constructed + 1 }.modifySocket id fun s =>
      { s with tcpCon := some ⟨key, h.constructed⟩ }

/-- **All that `Connect` can do** from a local end on. With a key that is taken it does not return;
otherwise the new controller handles what comes early, and `TryConnect` connects or refuses. -/
theorem connectFromReturns_cases {localEnd : LocalLayerThreeKey} {key : TcpControllerKey}
    {early : List Packet} {re : Option Bool}
    (hc : h.connectFromReturns id localEnd key early = .ok (re, h')) :
    ((h.connections key).isSome ∧ re = none ∧
      h' = h.modifySocket id fun s => { s with tcpCon := none }) ∨
    (h.connections key = none ∧ ∃ globals con con',
      (TcpController.new key TcpController.getDefaultOptions).handleReceivedPackets h.globals early =
        .ok (globals, con) ∧
      ((con.tryConnect globals = .ok (true, con') ∧ re = some true ∧
          h' = (h.connecting id key globals con').modifySocket id fun s =>
            { s with given := s.given ++ [localEnd.localPort] }) ∨
        (con.tryConnect globals = .ok (false, con') ∧ re = some false ∧
          h' = (h.connecting id key globals con').releasePort localEnd.localPort))) := by
  unfold connectFromReturns at hc
  cases hkey : h.connections key with
  | some c =>
    rw [emplaceConnection, hkey] at hc
    cases hc
    exact Or.inl ⟨rfl, rfl, rfl⟩
  | none =>
    -- the controller that is asked is the new one
    rw [emplaceConnection, hkey] at hc
    simp only [attach, Function.update_self, modifySocket] at hc
    split at hc
    · cases hc
    · next globals con hearly =>
      refine Or.inr ⟨rfl, globals, con, ?_⟩
      split at hc
      · cases hc
      · next con' htry =>
        cases hc
        refine ⟨con', hearly, Or.inl ⟨htry, rfl, ?_⟩⟩
        rw [connecting, modifySocket, setCon, Function.update_idem]
        rfl
      · next con' htry =>
        cases hc
        refine ⟨con', hearly, Or.inr ⟨htry, rfl, ?_⟩⟩
        rw [connecting, modifySocket, setCon, Function.update_idem]

/-- A `Connect` of an open socket, from its local end on. -/
theorem socketConnect_cases {ip : String} {port : UInt32} {index : ℕ} {early : List Packet}
    (hc : h.socketConnect id ip port index early = .ok h') : ∃ s re, h.getSocket id = some s ∧
      (h.localKey id s index).2.connectFromReturns id (h.localKey id s index).1
        ⟨ip, port.toInt32, (h.localKey id s index).1.localIp, (h.localKey id s index).1.localPort⟩
        early = .ok (re, h') := by
  rw [socketConnect] at hc
  obtain ⟨⟨re, h₁⟩, hret, rfl⟩ := Transition.map_eq_ok.mp hc
  rw [socketConnectReturns] at hret
  split at hret
  · cases hret
  · next s hget => exact ⟨s, re, hget, hret⟩

/-! ## Calls that leave the tables alone -/

/-- The same processes, the same open files and listeners. -/
structure SameFiles (h h' : Host) : Prop where
  processes : h'.processes = h.processes
  openFiles : ∀ id, (h'.openFilesTable id).isSome = (h.openFilesTable id).isSome
  openFileIdPool : h'.openFileIdPool = h.openFileIdPool
  listeners : h'.listeners = h.listeners

namespace SameFiles

theorem refl (h : Host) : SameFiles h h := ⟨rfl, fun _ => rfl, rfl, rfl⟩

theorem trans {h₁ h₂ h₃ : Host} (h₁₂ : SameFiles h₁ h₂) (h₂₃ : SameFiles h₂ h₃) :
    SameFiles h₁ h₃ :=
  ⟨h₂₃.processes.trans h₁₂.processes, fun id => (h₂₃.openFiles id).trans (h₁₂.openFiles id),
    h₂₃.openFileIdPool.trans h₁₂.openFileIdPool, h₂₃.listeners.trans h₁₂.listeners⟩

theorem modifySocket (h : Host) (id : Int32) (f : Socket → Socket) :
    SameFiles h (h.modifySocket id f) := by
  refine ⟨rfl, fun id' => ?_, rfl, rfl⟩
  by_cases hid : id' = id
  · subst hid
    rw [Host.modifySocket]
    simp
  · rw [Host.modifySocket]
    simp only [Function.update_of_ne hid]

theorem setCon (h : Host) (key : TcpControllerKey) (c : Connection) :
    SameFiles h (h.setCon key c) := ⟨rfl, fun _ => rfl, rfl, rfl⟩

theorem releasePort (h : Host) (port : Int32) : SameFiles h (h.releasePort port) :=
  ⟨rfl, fun _ => rfl, rfl, rfl⟩

theorem sendBackRST (h : Host) (key : TcpControllerKey) : SameFiles h (h.sendBackRST key) :=
  ⟨rfl, fun _ => rfl, rfl, rfl⟩

theorem receiveNewPacket (h : Host) (key : TcpControllerKey) (pkt : Packet) :
    SameFiles h (h.receiveNewPacket key pkt) := by
  rw [Host.receiveNewPacket]
  split
  · exact .refl h
  · exact .setCon ..

theorem emplaceConnection (h : Host) (key : TcpControllerKey) (socket : Int32)
    (options : TcpControllerOptions) : SameFiles h (h.emplaceConnection key socket options).2 := by
  rw [Host.emplaceConnection]
  split
  · exact .modifySocket h socket fun s => { s with tcpCon := none }
  · exact ⟨rfl, fun _ => rfl, rfl, rfl⟩

theorem attach (h : Host) (id : Int32) (key : TcpControllerKey) : SameFiles h (h.attach id key) := by
  rw [Host.attach]
  split
  · exact .refl h
  · exact .modifySocket ..

theorem tearDown (h : Host) (c : Connection) : SameFiles h (h.tearDown c) := by
  rw [Host.tearDown]
  split
  · exact (SameFiles.modifySocket ..).trans (.releasePort ..)
  · exact .modifySocket ..

theorem deleteTcpConnection (h : Host) (key : TcpControllerKey) :
    SameFiles h (h.deleteTcpConnection key) := by
  rw [Host.deleteTcpConnection]
  split
  · exact .refl h
  · refine SameFiles.trans ?_ (.tearDown ..)
    exact ⟨rfl, fun _ => rfl, rfl, rfl⟩

theorem socketBind (h : Host) (id : Int32) (ip : String) (port : UInt32) :
    SameFiles h (h.socketBind id ip port) := by
  rw [Host.socketBind]
  split
  · exact .refl h
  · split
    · exact .refl h
    · split
      · exact .refl h
      · refine SameFiles.trans ?_ (.modifySocket ..)
        exact ⟨rfl, fun _ => rfl, rfl, rfl⟩

theorem localKey (h : Host) (id : Int32) (socket : Socket) (index : ℕ) :
    SameFiles h (h.localKey id socket index).2 := by
  rw [Host.localKey]
  split
  · exact .refl h
  · cases h.portPool.allocateRandom index with
    | mk port portPool =>
      dsimp only
      refine SameFiles.trans ?_ (.modifySocket ..)
      exact ⟨rfl, fun _ => rfl, rfl, rfl⟩

theorem connecting (h : Host) (id : Int32) (key : TcpControllerKey) (globals : Globals)
    (con : TcpController) : SameFiles h (h.connecting id key globals con) := by
  rw [Host.connecting]
  refine SameFiles.trans ?_ (.modifySocket ..)
  exact ⟨rfl, fun _ => rfl, rfl, rfl⟩

theorem connectFromReturns {localEnd : LocalLayerThreeKey} {key : TcpControllerKey}
    {early : List Packet} {re : Option Bool}
    (hc : h.connectFromReturns id localEnd key early = .ok (re, h')) : SameFiles h h' := by
  rcases connectFromReturns_cases hc with ⟨-, -, rfl⟩ | ⟨-, globals, _, con, -, hend⟩
  · exact .modifySocket h id _
  · have hfiles := SameFiles.connecting h id key globals con
    rcases hend with ⟨-, -, rfl⟩ | ⟨-, -, rfl⟩
    · exact hfiles.trans (.modifySocket ..)
    · exact hfiles.trans (.releasePort ..)

theorem socketConnect {ip : String} {port : UInt32} {index : ℕ} {early : List Packet}
    (hc : h.socketConnect id ip port index early = .ok h') : SameFiles h h' := by
  obtain ⟨s, re, -, hc⟩ := socketConnect_cases hc
  exact (SameFiles.localKey h id s index).trans (.connectFromReturns hc)

theorem closeLast {socket : Socket} (hc : h.closeLast socket = .ok h') : SameFiles h h' := by
  rw [Host.closeLast] at hc
  split at hc
  · obtain ⟨c, -, hret⟩ := Transition.bind_eq_ok.mp hc
    cases hret
    split
    · exact .setCon ..
    · exact .refl h
  · cases hc
    split
    · exact .releasePort ..
    · exact .refl h

end SameFiles

/-! ## Files that are closed -/

/-- `DecOpenFileRef` takes one reference away, and the entry with the last one. -/
theorem decOpenFileRef_cases (hd : h.decOpenFileRef id = .ok h') :
    (h.openFilesTable id = none ∧ h' = h) ∨ ∃ file, h.openFilesTable id = some file ∧
      (file.refs ≤ 1 ∧ SameFiles
          { h with openFilesTable := Function.update h.openFilesTable id none } h' ∨
        ¬ file.refs ≤ 1 ∧ h' = { h with
          openFilesTable := Function.update h.openFilesTable id
            (some { file with refs := file.refs - 1 }) }) := by
  rw [Host.decOpenFileRef] at hd
  split at hd
  · next hfile =>
    cases hd
    exact Or.inl ⟨hfile, rfl⟩
  · next file hfile =>
    refine Or.inr ⟨file, hfile, ?_⟩
    split at hd
    · next hrefs =>
      obtain ⟨h₁, hclose, hret⟩ := Transition.bind_eq_ok.mp hd
      cases hret
      have hsame := SameFiles.closeLast hclose
      refine Or.inl ⟨hrefs, hsame.processes, fun id' => ?_, hsame.openFileIdPool, hsame.listeners⟩
      by_cases hid : id' = id
      · simp only [hid, Function.update_self]
      · simp only [Function.update_of_ne hid]
        exact hsame.openFiles id'
    · next hrefs =>
      cases hd
      exact Or.inr ⟨hrefs, rfl⟩

/-- `DeleteSocketAndConnection` takes the entry away whatever refers to it. -/
theorem deleteSocketAndConnection_cases (hd : h.deleteSocketAndConnection id = .ok h') :
    (h.openFilesTable id = none ∧ h' = h) ∨
      SameFiles { h with openFilesTable := Function.update h.openFilesTable id none } h' := by
  rw [Host.deleteSocketAndConnection] at hd
  split at hd
  · next hfile =>
    cases hd
    exact Or.inl ⟨hfile, rfl⟩
  · right
    dsimp only at hd
    split at hd
    -- with a controller or without one, the entry is erased before the connection is
    all_goals
      obtain ⟨key, -, hret⟩ := Transition.bind_eq_ok.mp hd
      split at hret
      · cases hret
        exact .deleteTcpConnection ..
      · cases hret
        exact .refl _

/-- `SocketAccept` takes the front of a queue, or it fails and changes nothing. -/
theorem socketAccept_cases {newId : Int32} (ha : h.socketAccept id = some (newId, h')) : h' = h ∨
    ∃ key rest, h.getSocketLocalBound id = some key ∧ h.listeners key = some (newId :: rest) ∧
      h' = { h with listeners := Function.update h.listeners key (some rest) } := by
  rw [Host.socketAccept] at ha
  split at ha
  · cases ha
    exact Or.inl rfl
  · next key hkey =>
    split at ha
    · cases ha
      exact Or.inl rfl
    · cases ha
    · next newId rest hqueue =>
      cases ha
      exact Or.inr ⟨key, rest, hkey, hqueue, rfl⟩

/-! ## Received packets -/

/-- `HandleNewConnection` refuses, finds no id for a new file, or creates one and queues it; the new
controller and its copy of the SYN change no table of files. -/
theorem handleNewConnection_cases (h : Host) (pkt : Packet) :
    (h.handleNewConnection pkt).2 = h ∨
    (h.handleNewConnection pkt).2 = h.createNewSocket.2 ∨
    ∃ key tcpSockets h₁, h.listeners key = some tcpSockets ∧ ¬ h.createNewSocket.1 < 0 ∧
      SameFiles h.createNewSocket.2 h₁ ∧ (h.handleNewConnection pkt).2 = { h₁ with
        listeners := Function.update h₁.listeners key
          (some (tcpSockets ++ [h.createNewSocket.1])) } := by
  rw [Host.handleNewConnection]
  split
  · exact Or.inl rfl
  dsimp only
  split
  · exact Or.inl rfl
  · rename_i tcpSockets hkey
    split
    · exact Or.inr (Or.inl rfl)
    · rename_i hpos
      refine Or.inr (Or.inr ⟨_, tcpSockets, _, hkey, hpos, ?_, rfl⟩)
      exact ((SameFiles.emplaceConnection ..).trans (.attach ..)).trans (.receiveNewPacket ..)

/-- **The invariant rule of the loop** of `DemultiplexPacketsToTcps`. Induction on the number of
iterations left. -/
theorem demultiplexLoop_induction {P : Host → Prop}
    (hrecv : ∀ h pkt, P h → P (h.receiveNewPacket pkt.tcpKey pkt))
    (hnew : ∀ h pkt, P h → P (h.handleNewConnection pkt).2)
    (hrst : ∀ h key, P h → P (h.sendBackRST key)) (n : ℕ) (pkts : List Packet) (hs : P h) :
    P (demultiplexLoop n h pkts).1 := by
  induction n generalizing h pkts with
  | zero => exact hs
  | succ n ih =>
    cases pkts with
    | nil => exact hs
    | cons pkt rest =>
      rw [demultiplexLoop]
      split
      · exact ih rest (hrecv h pkt hs)
      · have hafter := hnew h pkt hs
        split
        · rename_i h₁ heq
          rw [heq] at hafter
          exact ih rest (hrecv h₁ pkt hafter)
        · rename_i h₁ heq
          rw [heq] at hafter
          apply ih (pkt :: rest)
          split
          · exact hafter
          · exact hrst h₁ pkt.tcpKey hafter

/-! ## Steps -/

/-- A system call is that of a process, or it does nothing. -/
theorem call_cases {name : String} {f : Process → Except HostFault Host}
    (hc : h.call name f = .ok h') : h' = h ∨ ∃ p, h.processes name = some p ∧ f p = .ok h' := by
  rw [call] at hc
  split at hc
  · cases hc
    exact Or.inl rfl
  · exact Or.inr ⟨_, ‹_›, hc⟩

/-- `Bind` on an open descriptor. -/
theorem step_bind_cases {name : String} {fd : Int32} {ip : String} {port : UInt32}
    (he : h.step (.bind name fd ip port) = .ok h') : h' = h ∨ ∃ id, h' = h.socketBind id ip port := by
  rcases call_cases he with heq | ⟨p, -, hc⟩
  · exact Or.inl heq
  · cases hc
    split
    · exact Or.inl rfl
    · exact Or.inr ⟨_, rfl⟩

/-- `Listen` on a socket that is bound. -/
theorem step_listen_cases {name : String} {fd : Int32} (he : h.step (.listen name fd) = .ok h') :
    h' = h ∨ ∃ key, h' = { h with listeners := emplace h.listeners key [] } := by
  rcases call_cases he with heq | ⟨p, -, hc⟩
  · exact Or.inl heq
  · cases hc
    split
    · exact Or.inl rfl
    · rw [socketListen]
      split
      · exact Or.inl rfl
      · exact Or.inr ⟨_, rfl⟩

/-- `Connect` on an open descriptor. -/
theorem step_connect_cases {name : String} {fd : Int32} {ip : String} {port : UInt32} {index : ℕ}
    {early : List Packet} (he : h.step (.connect name fd ip port index early) = .ok h') : h' = h ∨
      ∃ id, h.fileOf name fd = some id ∧ h.socketConnect id ip port index early = .ok h' := by
  rcases call_cases he with heq | ⟨p, hp, hc⟩
  · exact Or.inl heq
  · rw [fileOf_of_processes hp]
    dsimp only at hc
    rw [Process.findFdMappedFileId] at hc
    cases hfd : p.fdTable fd with
    | none =>
      rw [hfd, Option.getD_none, if_pos (by decide)] at hc
      cases hc
      exact Or.inl rfl
    | some id =>
      rw [hfd, Option.getD_some] at hc
      split at hc
      · cases hc
        exact Or.inl rfl
      · exact Or.inr ⟨id, rfl, hc⟩

/-- A controller acts on its own and keeps its key. -/
theorem step_controller_cases {key : TcpControllerKey} {con : TcpController}
    (he : h.step (.controller key con) = .ok h') : h' = h ∨
      ∃ c, h.connections key = some c ∧ con.key = c.con.key ∧ h' = h.setCon key { c with con } := by
  rw [Host.step] at he
  split at he
  · cases he
    exact Or.inl rfl
  · next c hc =>
    split at he
    · next hcon =>
      cases he
      exact Or.inr ⟨c, hc, hcon.1, rfl⟩
    · cases he
      exact Or.inl rfl

/-- The first `TearDown` of a controller. -/
theorem step_tearDown_cases {key : TcpControllerKey} (he : h.step (.tearDown key) = .ok h') :
    h' = h ∨ ∃ c, h.connections key = some c ∧ c.tornDown = false ∧
      h' = (h.setCon key { c with tornDown := true }).tearDown c := by
  rw [Host.step] at he
  split at he
  · cases he
    exact Or.inl rfl
  · next c hc =>
    split at he
    · next hcond =>
      rw [Bool.and_eq_true, Bool.not_eq_true'] at hcond
      cases he
      exact Or.inr ⟨c, hc, hcond.2, rfl⟩
    · cases he
      exact Or.inl rfl

/-- `DeleteTcpConnection` after the `TearDown`. -/
theorem step_delete_cases {key : TcpControllerKey} (he : h.step (.delete key) = .ok h') :
    h' = h ∨ ∃ c, h.connections key = some c ∧ c.tornDown = true ∧
      h' = h.deleteTcpConnection key := by
  rw [Host.step] at he
  split at he
  · cases he
    exact Or.inl rfl
  · next c hc =>
    cases he
    split
    · next htorn => exact Or.inr ⟨c, hc, htorn, rfl⟩
    · exact Or.inl rfl

/-- The events that neither open nor close a file, nor touch a process or a listener. -/
def keepsFiles : Event → Bool
  | .bind .. | .connect .. | .controller .. | .tearDown .. | .delete .. => true
  | _ => false

theorem SameFiles.step {e : Event} (hkeeps : keepsFiles e) (he : h.step e = .ok h') :
    SameFiles h h' := by
  cases e with
  | createProcess | socket | listen | accept | close | receive => cases hkeeps
  | bind =>
    rcases step_bind_cases he with rfl | ⟨id, rfl⟩
    · exact .refl _
    · exact .socketBind ..
  | connect =>
    rcases step_connect_cases he with rfl | ⟨id, -, hc⟩
    · exact .refl _
    · exact .socketConnect hc
  | controller =>
    rcases step_controller_cases he with rfl | ⟨c, -, -, rfl⟩
    · exact .refl _
    · exact .setCon ..
  | tearDown =>
    rcases step_tearDown_cases he with rfl | ⟨c, -, -, rfl⟩
    · exact .refl _
    · exact (SameFiles.setCon ..).trans (.tearDown ..)
  | delete =>
    rcases step_delete_cases he with rfl | ⟨c, -, -, rfl⟩
    · exact .refl _
    · exact .deleteTcpConnection ..

end Host

end NetStack
