import TcpStack.Model.Listening
import TcpStack.Proofs.Descriptors
import TcpStack.Proofs.OpenFileIds

/-!
# TcpStack — listeners and the sockets they belong to

`Listen` puts an entry with an empty queue under the local end of a socket into the map of
listeners, and keeps an entry that is there. A SYN for an entry is a new socket at the end of its
queue, and `Accept` takes sockets from the front.

* **`Serves`** — what every step but a `Listen` does to sockets and queues: open sockets stay bound
  to what they are bound to, entries stay, and only sockets that are new are queued.
* **`step_listeners`** / **`step_removedFile`** — every step is a `Listen` or serves, and it keeps
  all open files or removes one.
-/

namespace NetStack

open Transition

variable [HyLib]

namespace Host

variable {h h' h₁ : Host} {id : Int32} {name : String} {p : Process} {fd : Int32}
  {key : LocalLayerThreeKey}

/-! ## Sockets that stay bound -/

theorem getSocketLocalBound_eq_some : h.getSocketLocalBound id = some key ↔
    ∃ s, h.getSocket id = some s ∧ s.isBound = true ∧ s.localBound = key := by
  rw [getSocketLocalBound]
  cases hs : h.getSocket id with
  | none => simp
  | some s =>
    by_cases hb : s.isBound = true
    · simp [hb]
    · simp [hb]

theorem openFile_of_bound (hb : h.getSocketLocalBound id = some key) :
    (h.openFilesTable id).isSome := by
  obtain ⟨s, hsocket, -⟩ := getSocketLocalBound_eq_some.mp hb
  obtain ⟨file, hfile, -⟩ := Option.map_eq_some_iff.mp hsocket
  rw [hfile]
  rfl

/-- The same sockets with the same ends, or fewer; what is new has an id out of the pool, also in
the queues. -/
structure Serves (h h' : Host) : Prop where
  pool : ∀ id ∈ h'.openFileIdPool, id ∈ h.openFileIdPool
  bound : ∀ id s', id ∉ h.openFileIdPool → h'.getSocket id = some s' →
    ∃ s, h.getSocket id = some s ∧ (s.isBound = true → s'.localBound = s.localBound)
  keys : ∀ key, (h'.listeners key).isSome = (h.listeners key).isSome
  queue : ∀ key x, x ∈ h'.queueOf key →
    x ∈ h.queueOf key ∨ x ∈ h.openFileIdPool ∧ x ∉ h'.openFileIdPool

namespace Serves

/-- Neither the pool nor the listeners change. -/
theorem of_sockets (hpool : h'.openFileIdPool = h.openFileIdPool) (hlist : h'.listeners = h.listeners)
    (hsock : ∀ id s', h'.getSocket id = some s' →
      ∃ s, h.getSocket id = some s ∧ (s.isBound = true → s'.localBound = s.localBound)) :
    Serves h h' where
  pool id hid := by rwa [hpool] at hid
  bound id s' _ hs' := hsock id s' hs'
  keys key := by rw [hlist]
  queue key x hx := by
    rw [queueOf, hlist] at hx
    exact Or.inl hx

/-- Nothing changes. -/
theorem of_eq (hpool : h'.openFileIdPool = h.openFileIdPool) (hlist : h'.listeners = h.listeners)
    (htable : h'.openFilesTable = h.openFilesTable) : Serves h h' := by
  refine .of_sockets hpool hlist fun id s' hs' => ⟨s', ?_, fun _ => rfl⟩
  rw [getSocket, htable] at hs'
  exact hs'

theorem refl (h : Host) : Serves h h := .of_eq rfl rfl rfl

theorem trans (h₁₂ : Serves h h₁) (h₂₃ : Serves h₁ h') : Serves h h' where
  pool id hid := h₁₂.pool id (h₂₃.pool id hid)
  bound id s' hout hs' := by
    obtain ⟨s₁, hs₁, hb₁⟩ := h₂₃.bound id s' (fun hin => hout (h₁₂.pool id hin)) hs'
    obtain ⟨s, hs, hb⟩ := h₁₂.bound id s₁ hout hs₁
    refine ⟨s, hs, fun hbound => ?_⟩
    have hsame := hb hbound
    -- the end is the same, so the socket in between is bound too
    have hbound₁ : s₁.isBound = true := by
      rw [Socket.isBound, hsame]
      exact hbound
    rw [hb₁ hbound₁, hsame]
  keys key := (h₂₃.keys key).trans (h₁₂.keys key)
  queue key x hx := by
    rcases h₂₃.queue key x hx with hold | ⟨hin, hout⟩
    · rcases h₁₂.queue key x hold with hold | ⟨hin, hout⟩
      · exact Or.inl hold
      · exact Or.inr ⟨hin, fun hx' => hout (h₂₃.pool x hx')⟩
    · exact Or.inr ⟨h₁₂.pool x hin, hout⟩

theorem pool_ne_nil (hs : Serves h h') (hne : h'.openFileIdPool.nums ≠ []) :
    h.openFileIdPool.nums ≠ [] := by
  obtain ⟨id, hid⟩ := List.exists_mem_of_ne_nil _ hne
  exact List.ne_nil_of_mem (hs.pool id hid)

/-- A socket is written to, and its end only if it is not bound. -/
theorem modifySocket (h : Host) (id : Int32) {f : Socket → Socket}
    (hf : ∀ s, h.getSocket id = some s → s.isBound = true → (f s).localBound = s.localBound) :
    Serves h (h.modifySocket id f) := by
  refine .of_sockets rfl rfl fun id' s' hs' => ?_
  rw [getSocket_modifySocket] at hs'
  split at hs'
  · next heq =>
    subst heq
    obtain ⟨s, hs, rfl⟩ := Option.map_eq_some_iff.mp hs'
    exact ⟨s, hs, hf s hs⟩
  · exact ⟨s', hs', fun _ => rfl⟩

theorem receiveNewPacket (h : Host) (key : TcpControllerKey) (pkt : Packet) :
    Serves h (h.receiveNewPacket key pkt) := by
  rw [Host.receiveNewPacket]
  split
  · exact .refl h
  · exact .of_eq rfl rfl rfl

theorem emplaceConnection (h : Host) (key : TcpControllerKey) (socket : Int32)
    (options : TcpControllerOptions) : Serves h (h.emplaceConnection key socket options).2 := by
  rw [Host.emplaceConnection]
  split
  · exact .modifySocket h socket (f := fun s => { s with tcpCon := none }) fun _ _ _ => rfl
  · exact .of_eq rfl rfl rfl

theorem attach (h : Host) (id : Int32) (key : TcpControllerKey) : Serves h (h.attach id key) := by
  rw [Host.attach]
  split
  · exact .refl h
  · exact .modifySocket h id fun _ _ _ => rfl

theorem tearDown (h : Host) (c : Connection) : Serves h (h.tearDown c) := by
  rw [Host.tearDown]
  have hdetach : Serves h (h.modifySocket c.socket fun s => { s with tcpCon := none }) :=
    .modifySocket h c.socket fun _ _ _ => rfl
  split
  · exact hdetach.trans (.of_eq rfl rfl rfl)
  · exact hdetach

theorem deleteTcpConnection (h : Host) (key : TcpControllerKey) :
    Serves h (h.deleteTcpConnection key) := by
  rw [Host.deleteTcpConnection]
  split
  · exact .refl h
  · refine Serves.trans ?_ (.tearDown ..)
    exact .of_eq rfl rfl rfl

theorem socketBind (h : Host) (id : Int32) (ip : String) (port : UInt32) :
    Serves h (h.socketBind id ip port) := by
  rw [Host.socketBind]
  split
  · exact .refl h
  · next socket hsocket =>
    split
    · exact .refl h
    · next hunbound =>
      split
      · exact .refl h
      · next portPool _ =>
        -- the socket is not bound yet
        refine (Serves.of_eq rfl rfl rfl : Serves h { h with portPool }).trans
          (.modifySocket _ id fun s hs hbound => ?_)
        replace hs : h.getSocket id = some s := hs
        rw [hsocket] at hs
        cases hs
        exact absurd hbound hunbound

theorem localKey {socket : Socket} (hsocket : h.getSocket id = some socket) (index : ℕ) :
    Serves h (h.localKey id socket index).2 := by
  rw [Host.localKey]
  split
  · exact .refl h
  · next hunbound =>
    cases h.portPool.allocateRandom index with
    | mk port portPool =>
      dsimp only
      refine (Serves.of_eq rfl rfl rfl : Serves h { h with portPool }).trans
        (.modifySocket _ id fun s hs hbound => ?_)
      replace hs : h.getSocket id = some s := hs
      rw [hsocket] at hs
      cases hs
      exact absurd hbound hunbound

theorem connecting (h : Host) (id : Int32) (key : TcpControllerKey) (globals : Globals)
    (con : TcpController) : Serves h (h.connecting id key globals con) := by
  rw [Host.connecting]
  refine Serves.trans ?_ (.modifySocket _ id fun _ _ _ => rfl)
  exact .of_eq rfl rfl rfl

theorem connectFromReturns {localEnd : LocalLayerThreeKey} {key : TcpControllerKey}
    {early : List Packet} {re : Option Bool}
    (hc : h.connectFromReturns id localEnd key early = .ok (re, h')) : Serves h h' := by
  rcases connectFromReturns_cases hc with ⟨-, -, rfl⟩ | ⟨-, globals, _, con, -, hend⟩
  · exact .modifySocket h id fun _ _ _ => rfl
  · have hserves := Serves.connecting h id key globals con
    rcases hend with ⟨-, -, rfl⟩ | ⟨-, -, rfl⟩
    · exact hserves.trans (.modifySocket _ id fun _ _ _ => rfl)
    · exact hserves.trans (.of_eq rfl rfl rfl)

theorem socketConnect {ip : String} {port : UInt32} {index : ℕ} {early : List Packet}
    (hc : h.socketConnect id ip port index early = .ok h') : Serves h h' := by
  obtain ⟨s, re, hsocket, hc⟩ := socketConnect_cases hc
  exact (Serves.localKey hsocket index).trans (.connectFromReturns hc)

theorem closeLast {socket : Socket} (hc : h.closeLast socket = .ok h') : Serves h h' := by
  rw [Host.closeLast] at hc
  split at hc
  · obtain ⟨c, -, hret⟩ := bind_eq_ok.mp hc
    cases hret
    split
    · exact .of_eq rfl rfl rfl
    · exact .refl h
  · cases hc
    split
    · exact .of_eq rfl rfl rfl
    · exact .refl h

/-- An entry of the table is replaced by one with the same socket, or erased. -/
theorem updateFile (h : Host) (id : Int32) {file : Option KernelOpenFile}
    (hfile : ∀ f', file = some f' → ∃ f, h.openFilesTable id = some f ∧ f'.socket = f.socket) :
    Serves h { h with openFilesTable := Function.update h.openFilesTable id file } := by
  refine .of_sockets rfl rfl fun id' s' hs' => ?_
  obtain ⟨f', hf', rfl⟩ := Option.map_eq_some_iff.mp hs'
  replace hf' : Function.update h.openFilesTable id file id' = some f' := hf'
  by_cases hid : id' = id
  · subst hid
    rw [Function.update_self] at hf'
    obtain ⟨f, hf, hsocket⟩ := hfile f' hf'
    exact ⟨f.socket, by rw [getSocket, hf]; rfl, fun _ => by rw [hsocket]⟩
  · rw [Function.update_of_ne hid] at hf'
    exact ⟨f'.socket, by rw [getSocket, hf']; rfl, fun _ => rfl⟩

theorem decOpenFileRef (hd : h.decOpenFileRef id = .ok h') : Serves h h' := by
  rw [Host.decOpenFileRef] at hd
  split at hd
  · cases hd
    exact .refl h
  · next file hfile =>
    split at hd
    · obtain ⟨h₁, hclose, hret⟩ := bind_eq_ok.mp hd
      cases hret
      exact (Serves.closeLast hclose).trans (.updateFile h₁ id (by simp))
    · cases hd
      refine .updateFile h id fun f' hf' => ⟨file, hfile, ?_⟩
      cases hf'
      rfl

theorem deleteSocketAndConnection (hd : h.deleteSocketAndConnection id = .ok h') : Serves h h' := by
  have herase : Serves h { h with openFilesTable := Function.update h.openFilesTable id none } :=
    .updateFile h id (by simp)
  rw [Host.deleteSocketAndConnection] at hd
  split at hd
  · cases hd
    exact .refl h
  · dsimp only at hd
    split at hd
    all_goals
      obtain ⟨key, -, hret⟩ := bind_eq_ok.mp hd
      split at hret
      · cases hret
        exact herase.trans (.deleteTcpConnection ..)
      · cases hret
        exact herase

/-- A new socket has an id out of the pool. -/
theorem createNewSocket (h : Host) : Serves h h.createNewSocket.2 := by
  rcases h.createNewSocket_cases with ⟨-, pool, heq, hsub⟩ | ⟨new, pool, file, heq, -, hnew, hmem, -⟩
  · rw [heq]
    exact ⟨hsub, fun id s' _ hs' => ⟨s', hs', fun _ => rfl⟩, fun _ => rfl, fun _ _ hx => Or.inl hx⟩
  · rw [heq]
    refine ⟨fun id hid => ((hmem id).mp hid).1, fun id s' hout hs' => ?_, fun _ => rfl,
      fun _ _ hx => Or.inl hx⟩
    have hid : id ≠ new := fun heq => hout (heq ▸ hnew)
    replace hs' : (Function.update h.openFilesTable new (some file) id).map KernelOpenFile.socket =
      some s' := hs'
    rw [Function.update_of_ne hid] at hs'
    exact ⟨s', hs', fun _ => rfl⟩

/-- A queue is replaced: what is in it was in it before, or is new. -/
theorem setListener {queue : List Int32} (hs : Serves h h₁) (hentry : (h.listeners key).isSome)
    (hqueue : ∀ x ∈ queue, x ∈ h.queueOf key ∨ x ∈ h.openFileIdPool ∧ x ∉ h₁.openFileIdPool) :
    Serves h { h₁ with listeners := Function.update h₁.listeners key (some queue) } where
  pool := hs.pool
  bound := hs.bound
  keys key' := by
    show (Function.update h₁.listeners key (some queue) key').isSome = _
    by_cases hkey : key' = key
    · rw [hkey, Function.update_self, hentry]
      rfl
    · rw [Function.update_of_ne hkey, hs.keys]
  queue key' x hx := by
    rw [queueOf_update] at hx
    split at hx
    · next hkey =>
      rw [hkey]
      exact hqueue x hx
    · exact hs.queue key' x hx

/-- A new connection is queued with the id of its new socket. -/
theorem handleNewConnection (h : Host) (pkt : Packet) : Serves h (h.handleNewConnection pkt).2 := by
  have hcreate := Serves.createNewSocket h
  rw [Host.handleNewConnection]
  split
  · exact .refl h
  dsimp only
  split
  · exact .refl h
  · next tcpSockets hlistener =>
    rcases h.createNewSocket_cases with ⟨hneg, -⟩ | ⟨new, pool, file, heq, hpos, hnew, hmem, -⟩
    · rw [if_pos hneg]
      exact hcreate
    · rw [if_neg (by rw [heq]; exact hpos)]
      refine Serves.setListener (hcreate.trans
        (((Serves.emplaceConnection ..).trans (.attach ..)).trans (.receiveNewPacket ..)))
        (by rw [hlistener]; rfl) fun x hx => ?_
      rcases List.mem_append.mp hx with hold | hlast
      · left
        rw [queueOf, hlistener]
        exact hold
      · -- the id has left the pool
        have hx' : x = new := by
          rw [List.mem_singleton.mp hlast, heq]
        refine Or.inr ⟨hx' ▸ hnew, fun hin => ?_⟩
        rw [(((SameFiles.emplaceConnection ..).trans (.attach ..)).trans
          (.receiveNewPacket ..)).openFileIdPool, heq] at hin
        exact ((hmem x).mp hin).2 hx'

theorem demultiplexLoop (n : ℕ) (h : Host) (pkts : List Packet) :
    Serves h (Host.demultiplexLoop n h pkts).1 :=
  demultiplexLoop_induction (P := Serves h)
    (fun _ _ hs => hs.trans (.receiveNewPacket ..)) (fun _ _ hs => hs.trans (.handleNewConnection ..))
    (fun _ _ hs => hs.trans (.of_eq rfl rfl rfl)) n pkts (.refl h)

theorem callSocket (h : Host) (name : String) (p : Process) : Serves h (h.callSocket name p) := by
  rw [Host.callSocket]
  cases p.fdPool.allocate with
  | mk fd fdPool =>
    dsimp only
    split
    · exact .of_eq rfl rfl rfl
    · split
      · exact (Serves.createNewSocket h).trans (.of_eq rfl rfl rfl)
      · exact (Serves.createNewSocket h).trans (.of_eq rfl rfl rfl)

/-- What `Accept` takes, it takes from the front of a queue. -/
theorem socketAccept {newId : Int32} (ha : h.socketAccept id = some (newId, h')) :
    Serves h h' := by
  rcases socketAccept_cases ha with rfl | ⟨key, rest, -, hentry, rfl⟩
  · exact .refl _
  · refine .setListener (.refl h) (by rw [hentry]; rfl) fun x hx => Or.inl ?_
    rw [queueOf, hentry]
    exact List.mem_cons_of_mem _ hx

theorem callAccept (hc : h.callAccept name p fd = .ok h') : Serves h h' := by
  rw [Host.callAccept] at hc
  dsimp only at hc
  split at hc
  · cases hc
    exact .refl h
  · split at hc
    · cases hc
      exact .refl h
    · next newId h₁ haccept =>
      have hserves := Serves.socketAccept haccept
      cases hpool : p.fdPool.allocate with
      | mk newFd fdPool =>
        rw [hpool] at hc
        dsimp only at hc
        split at hc
        · refine (hserves.trans ?_).trans (.deleteSocketAndConnection hc)
          exact .of_eq rfl rfl rfl
        · cases hc
          exact hserves.trans (.of_eq rfl rfl rfl)

theorem callClose (hc : h.callClose name p fd = .ok h') : Serves h h' := by
  rw [Host.callClose] at hc
  split at hc
  · cases hc
    exact .refl h
  · obtain ⟨h₁, hdec, hret⟩ := bind_eq_ok.mp hc
    cases hret
    exact (Serves.decOpenFileRef hdec).trans (.of_eq rfl rfl rfl)

/-- A socket that is still open is bound to what it was bound to. -/
theorem stays (hs : Serves h h') (ht : IdsTidy h) (hopen : (h'.openFilesTable id).isSome)
    (hb : h.getSocketLocalBound id = some key) : h'.getSocketLocalBound id = some key := by
  obtain ⟨s, hsocket, hbound, rfl⟩ := getSocketLocalBound_eq_some.mp hb
  have hout : id ∉ h.openFileIdPool := (ht.opened id (openFile_of_bound hb)).2
  obtain ⟨file', hfile'⟩ := Option.isSome_iff_exists.mp hopen
  have hsocket' : h'.getSocket id = some file'.socket := by
    rw [getSocket, hfile']
    rfl
  obtain ⟨s₁, hs₁, hsame⟩ := hs.bound id file'.socket hout hsocket'
  cases hsocket.symm.trans hs₁
  refine getSocketLocalBound_eq_some.mpr ⟨file'.socket, hsocket', ?_, hsame hbound⟩
  rw [Socket.isBound, hsame hbound]
  exact hbound

/-- A socket that was bound if it was open was bound to what it is bound to now. -/
theorem back (hs : Serves h h') (hout : id ∉ h.openFileIdPool)
    (hbound : ∀ s, h.getSocket id = some s → s.isBound = true)
    (hb : h'.getSocketLocalBound id = some key) : h.getSocketLocalBound id = some key := by
  obtain ⟨s', hs', -, rfl⟩ := getSocketLocalBound_eq_some.mp hb
  obtain ⟨s, hsocket, hsame⟩ := hs.bound id s' hout hs'
  exact getSocketLocalBound_eq_some.mpr
    ⟨s, hsocket, hbound s hsocket, (hsame (hbound s hsocket)).symm⟩

end Serves

/-! ## New connections -/

/-- `HandleNewConnection` creates a connection for a SYN, if there is an entry and an id. -/
theorem handleNewConnection_fst {pkt : Packet} : (h.handleNewConnection pkt).1 = true ↔
    pkt.tcpHeader.sync = true ∧
      (h.listeners ⟨pkt.ipHeader.sourceIp, pkt.tcpHeader.sourcePort.toUInt32.toInt32⟩).isSome ∧
        ¬ h.createNewSocket.1 < 0 := by
  rw [Host.handleNewConnection]
  by_cases hsync : pkt.tcpHeader.sync = true
  · rw [if_neg (by rw [hsync]; decide)]
    dsimp only
    cases hentry : h.listeners ⟨pkt.ipHeader.sourceIp, pkt.tcpHeader.sourcePort.toUInt32.toInt32⟩ with
    | none => simp
    | some tcpSockets =>
      by_cases hneg : h.createNewSocket.1 < 0
      · simp [hneg]
      · simp [hneg, hsync]
  · simp [hsync]

/-- `Accept` returns the front of the queue of its end. -/
theorem socketAccept_of_queueOf {x : Int32} {rest : List Int32}
    (hb : h.getSocketLocalBound id = some key) (hqueue : h.queueOf key = x :: rest) :
    ∃ h', h.socketAccept id = some (x, h') := by
  rw [queueOf] at hqueue
  cases hentry : h.listeners key with
  | none =>
    rw [hentry] at hqueue
    cases hqueue
  | some queue =>
    rw [hentry, Option.getD_some] at hqueue
    rw [socketAccept, hb]
    dsimp only
    rw [hentry, hqueue]
    exact ⟨_, rfl⟩

/-! ## Steps of the host -/

/-- **What a step does to listeners.** It is a `Listen` that returns true, or it serves. -/
theorem step_listeners {e : Event} (he : h.step e = .ok h') :
    (h.listensOn e = none ∧ Serves h h') ∨ ∃ id key, h.listensOn e = some id ∧
      h.getSocketLocalBound id = some key ∧
        h' = { h with listeners := emplace h.listeners key [] } := by
  cases e with
  | listen name fd =>
    cases hp : h.processes name with
    | none =>
      rw [Host.step, call, hp] at he
      cases he
      exact Or.inl ⟨by rw [listensOn, hp]; rfl, .refl h⟩
    | some p =>
      rw [Host.step, call, hp] at he
      cases he
      rw [listensOn, hp, Option.bind_some]
      dsimp only
      split
      · exact Or.inl ⟨rfl, .refl h⟩
      · rw [socketListen]
        split
        · next hunbound => exact Or.inl ⟨by rw [hunbound]; rfl, .refl h⟩
        · next key hbound => exact Or.inr ⟨_, key, by rw [hbound]; rfl, hbound, rfl⟩
  | createProcess name =>
    cases he
    exact Or.inl ⟨rfl, .of_eq rfl rfl rfl⟩
  | socket name =>
    refine Or.inl ⟨rfl, ?_⟩
    rcases call_cases he with rfl | ⟨p, -, hc⟩
    · exact .refl _
    · cases hc
      exact .callSocket h name p
  | bind =>
    refine Or.inl ⟨rfl, ?_⟩
    rcases step_bind_cases he with rfl | ⟨id, rfl⟩
    · exact .refl _
    · exact .socketBind ..
  | accept name fd =>
    refine Or.inl ⟨rfl, ?_⟩
    rcases call_cases he with rfl | ⟨p, -, hc⟩
    · exact .refl _
    · exact .callAccept hc
  | connect =>
    refine Or.inl ⟨rfl, ?_⟩
    rcases step_connect_cases he with rfl | ⟨id, -, hc⟩
    · exact .refl _
    · exact .socketConnect hc
  | close name fd =>
    refine Or.inl ⟨rfl, ?_⟩
    rcases call_cases he with rfl | ⟨p, -, hc⟩
    · exact .refl _
    · exact .callClose hc
  | receive pkts =>
    cases he
    exact Or.inl ⟨rfl, .demultiplexLoop pkts.length h pkts⟩
  | controller =>
    refine Or.inl ⟨rfl, ?_⟩
    rcases step_controller_cases he with rfl | ⟨c, -, -, rfl⟩
    · exact .refl _
    · exact .of_eq rfl rfl rfl
  | tearDown =>
    refine Or.inl ⟨rfl, ?_⟩
    rcases step_tearDown_cases he with rfl | ⟨c, -, -, rfl⟩
    · exact .refl _
    · refine Serves.trans ?_ (.tearDown ..)
      exact .of_eq rfl rfl rfl
  | delete =>
    refine Or.inl ⟨rfl, ?_⟩
    rcases step_delete_cases he with rfl | ⟨c, -, -, rfl⟩
    · exact .refl _
    · exact .deleteTcpConnection ..

/-- **What a step does to open files.** It keeps them, or it removes one. -/
theorem step_removedFile {e : Event} (ht : IdsTidy h) (he : h.step e = .ok h') :
    (h.removedFile e = none ∧ IdsKept h h') ∨
      ∃ id, h.removedFile e = some id ∧ IdRemoved h h' id := by
  cases hrem : h.removes e with
  | false =>
    refine Or.inl ⟨?_, .step ht hrem he⟩
    rw [removedFile, hrem]
    rfl
  | true => exact Or.inr (IdRemoved.step hrem he)

end Host

end NetStack
