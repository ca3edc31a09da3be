import TcpStack.Lib.Ownership
import TcpStack.Proofs.HostTables

/-!
# TcpStack — what file descriptors denote

An open file id is in one of three places: in the pool, in the queue of a listener, or in the
file descriptor table of a process. `Accept` moves it from a queue to a table, but puts
whatever `SocketAccept` returns into the table, its error codes included, and when there is
no file descriptor left it deletes the listening socket.

* **`IdPlace`**, **`holds`** — where an id is.
* **`Sound`** — the invariant: every id that is in use is open and is in one place only.
* **`Fresh`** — an open file that is in neither a queue nor a table.
* **`acceptSafe`** — calls of `Accept` on a socket that listens, with a descriptor left.
* **`fds_live_unshared`** — descriptors denote live, unshared sockets in every run of such
  calls.
* **`not_fds_live_unshared`** — `Accept` on a socket that is not bound.
-/

namespace NetStack

open Ownership

namespace Host

section

variable [HyLib] {h h' : Host} {id : Int32} {name : String} {fd : Int32} {p : Process}
  {key : LocalLayerThreeKey}

/-- The sockets that wait to be accepted. -/
def queueOf (h : Host) (key : LocalLayerThreeKey) : List Int32 := (h.listeners key).getD []

/-- Every entry of every `fd_table_` is an open file. -/
def FdsLive (h : Host) : Prop :=
  ∀ name fd id, h.fileOf name fd = some id → (h.openFilesTable id).isSome

/-- No two entries are the same open file. -/
def FdsUnshared (h : Host) : Prop :=
  ∀ name₁ fd₁ name₂ fd₂ id, h.fileOf name₁ fd₁ = some id → h.fileOf name₂ fd₂ = some id →
    name₁ = name₂ ∧ fd₁ = fd₂

/-- Where an open file id can be. -/
inductive IdPlace where
  | pool
  | queue (key : LocalLayerThreeKey)
  | descriptor (name : String) (fd : Int32)
deriving DecidableEq

/-- The ids of the pool, of the queue of a listener, and the one of a descriptor. -/
def holds (h : Host) : IdPlace → Int32 → Prop
  | .pool, id => id ∈ h.openFileIdPool
  | .queue key, id => id ∈ h.queueOf key
  | .descriptor name fd, id => h.fileOf name fd = some id

/-- The invariant of the tables: an id is in one place, and it is open unless it is in the
pool. -/
structure Sound (h : Host) : Prop where
  exclusive : Exclusive h.holds
  openIff : ∀ o id, h.holds o id → ((h.openFilesTable id).isSome ↔ o ≠ .pool)
  queuedOnce : ∀ key, (h.queueOf key).Nodup
  freeFd : ∀ name p fd, h.processes name = some p → fd ∈ p.fdPool → p.fdTable fd = none
  fdPos : ∀ name p fd, h.processes name = some p → fd ∈ p.fdPool ∨ (p.fdTable fd).isSome →
    ¬ fd < 0

/-- An open file that is nowhere yet. -/
structure Fresh (h : Host) (id : Int32) : Prop where
  isOpen : (h.openFilesTable id).isSome
  unheld : ∀ o, ¬ h.holds o id

theorem Sound.live (hs : Sound h) : h.FdsLive := fun name fd id hf =>
  (hs.openIff (.descriptor name fd) id hf).mpr (by simp)

theorem Sound.unshared (hs : Sound h) : h.FdsUnshared := by
  intro name₁ fd₁ name₂ fd₂ id h₁ h₂
  have hheld₁ : h.holds (.descriptor name₁ fd₁) id := h₁
  have hheld₂ : h.holds (.descriptor name₂ fd₂) id := h₂
  exact IdPlace.descriptor.inj (hs.exclusive hheld₁ hheld₂)

/-! ## The same files -/

theorem SameFiles.holds (hsame : SameFiles h h') (o : IdPlace) (id : Int32) :
    h'.holds o id ↔ h.holds o id := by
  cases o with
  | pool => rw [Host.holds, hsame.openFileIdPool, Host.holds]
  | queue key => rw [Host.holds, queueOf, hsame.listeners, Host.holds, queueOf]
  | descriptor name fd => rw [Host.holds, fileOf, hsame.processes, Host.holds, fileOf]

theorem Sound.of_sameFiles (hs : Sound h) (hsame : SameFiles h h') : Sound h' := by
  refine ⟨hs.exclusive.mono fun o id => (hsame.holds o id).mp, fun o id ho => ?_, fun key => ?_, ?_, ?_⟩
  · rw [hsame.openFiles]
    exact hs.openIff o id ((hsame.holds o id).mp ho)
  · rw [queueOf, hsame.listeners]
    exact hs.queuedOnce key
  · rw [hsame.processes]
    exact hs.freeFd
  · rw [hsame.processes]
    exact hs.fdPos

theorem Fresh.of_sameFiles (hf : Fresh h id) (hsame : SameFiles h h') : Fresh h' id := by
  refine ⟨?_, fun o ho => hf.unheld o ((hsame.holds o id).mp ho)⟩
  rw [hsame.openFiles]
  exact hf.isOpen

/-! ## An id moves -/

/-- A new open file is fresh. -/
theorem Sound.createNewSocket (hs : Sound h) :
    Sound h.createNewSocket.2 ∧ (¬ h.createNewSocket.1 < 0 →
      Fresh h.createNewSocket.2 h.createNewSocket.1) := by
  rcases h.createNewSocket_cases with
    ⟨hneg, pool, heq, hpool⟩ | ⟨id, pool, file, heq, hpos, hid, hpool, -⟩
  · rw [heq]
    have hle : ∀ o id, { h with openFileIdPool := pool }.holds o id → h.holds o id := by
      rintro (_ | key | ⟨name, fd⟩) id ho
      · exact hpool id ho
      · exact ho
      · exact ho
    exact ⟨⟨hs.exclusive.mono hle, fun o id ho => hs.openIff o id (hle o id ho), hs.queuedOnce,
      hs.freeFd, hs.fdPos⟩, fun hpos => absurd hneg hpos⟩
  · rw [heq]
    dsimp only
    have hle : ∀ o id', { h with
        openFileIdPool := pool
        openFilesTable := Function.update h.openFilesTable id (some file) }.holds o id' →
        id' ≠ id ∧ h.holds o id' := by
      rintro (_ | key | ⟨name, fd⟩) id' ho
      · exact ⟨((hpool id').mp ho).2, ((hpool id').mp ho).1⟩
      · refine ⟨?_, ho⟩
        rintro rfl
        cases hs.exclusive (show h.holds (.queue key) _ from ho) (show h.holds .pool _ from hid)
      · refine ⟨?_, ho⟩
        rintro rfl
        cases hs.exclusive (show h.holds (.descriptor name fd) _ from ho)
          (show h.holds .pool _ from hid)
    refine ⟨⟨hs.exclusive.mono fun o id' ho => (hle o id' ho).2, fun o id' ho => ?_, hs.queuedOnce,
      hs.freeFd, hs.fdPos⟩, fun _ => ⟨by simp, fun o ho => absurd rfl (hle o id ho).1⟩⟩
    obtain ⟨hne, hold⟩ := hle o id' ho
    dsimp only
    rw [Function.update_of_ne hne]
    exact hs.openIff o id' hold

/-- A listener that is replaced. -/
theorem queueOf_update (h : Host) (key : LocalLayerThreeKey) (queue : List Int32)
    (key' : LocalLayerThreeKey) :
    { h with listeners := Function.update h.listeners key (some queue) }.queueOf key' =
      if key' = key then queue else h.queueOf key' := by
  rw [queueOf]
  by_cases hkey : key' = key
  · subst hkey
    simp
  · simp [hkey, queueOf]

/-- A listener is replaced: its queue has old ids, or a fresh one. -/
theorem Sound.setListener {queue : List Int32} (hs : Sound h) (id : Int32)
    (hqueue : ∀ id' ∈ queue, id' ∈ h.queueOf key ∨ (id' = id ∧ Fresh h id)) (hnodup : queue.Nodup) :
    Sound { h with listeners := Function.update h.listeners key (some queue) } := by
  have hcases : ∀ o id', { h with
      listeners := Function.update h.listeners key (some queue) }.holds o id' →
      h.holds o id' ∨ (o = .queue key ∧ id' = id ∧ Fresh h id) := by
    rintro (_ | key' | ⟨name, fd⟩) id' ho
    · exact Or.inl ho
    · rw [holds, queueOf_update] at ho
      split at ho
      · rename_i hkey
        rcases hqueue id' ho with hold | hnew
        · exact Or.inl (hkey ▸ hold)
        · exact Or.inr ⟨by rw [hkey], hnew⟩
      · exact Or.inl ho
    · exact Or.inl ho
  refine ⟨hs.exclusive.acquire (.queue key) id fun o id' ho => ?_, fun o id' ho => ?_,
    fun key' => ?_, hs.freeFd, hs.fdPos⟩
  · rcases hcases o id' ho with hold | ⟨heq, hid, hfresh⟩
    · exact Or.inl hold
    · exact Or.inr ⟨heq, hid, hfresh.unheld⟩
  · rcases hcases o id' ho with hold | ⟨rfl, rfl, hfresh⟩
    · exact hs.openIff o id' hold
    · exact ⟨fun _ => by simp, fun _ => hfresh.isOpen⟩
  · rw [queueOf_update]
    split
    · exact hnodup
    · exact hs.queuedOnce key'

/-- A new connection is queued. -/
theorem Sound.enqueue {queue : List Int32} (hs : Sound h) (hf : Fresh h id)
    (hkey : h.listeners key = some queue) :
    Sound { h with listeners := Function.update h.listeners key (some (queue ++ [id])) } := by
  have hqueue : h.queueOf key = queue := by
    rw [queueOf, hkey]
    rfl
  refine hs.setListener id (fun id' hid => ?_) ?_
  · rw [hqueue]
    exact (List.mem_append.mp hid).imp_right fun hid => ⟨List.mem_singleton.mp hid, hf⟩
  · refine List.nodup_append.mpr ⟨hqueue ▸ hs.queuedOnce key, List.nodup_singleton id, ?_⟩
    rintro a ha b hb rfl
    rw [List.mem_singleton.mp hb, ← hqueue] at ha
    exact hf.unheld (.queue key) ha

/-- The first connection of a queue is taken out. -/
theorem Sound.dequeue {rest : List Int32} (hs : Sound h)
    (hkey : h.listeners key = some (id :: rest)) :
    Sound { h with listeners := Function.update h.listeners key (some rest) } ∧
      Fresh { h with listeners := Function.update h.listeners key (some rest) } id := by
  have hqueue : h.queueOf key = id :: rest := by
    rw [queueOf, hkey]
    rfl
  have hid : h.holds (.queue key) id := by
    rw [holds, hqueue]
    exact List.mem_cons_self ..
  have hnodup := hs.queuedOnce key
  rw [hqueue, List.nodup_cons] at hnodup
  have hsound := hs.setListener id
    (fun id' hid' => Or.inl (hqueue ▸ List.mem_cons_of_mem _ hid')) hnodup.2
  refine ⟨hsound, (hs.openIff _ id hid).mpr (by simp), fun o ho => ?_⟩
  -- the id was in no other place, and once in this queue
  rcases o with _ | key' | ⟨name, fd⟩
  · cases hs.exclusive (show h.holds .pool id from ho) hid
  · rw [holds, queueOf_update] at ho
    split at ho
    · exact hnodup.1 ho
    · rename_i hne
      exact hne (IdPlace.queue.inj (hs.exclusive (show h.holds (.queue key') id from ho) hid))
  · cases hs.exclusive (show h.holds (.descriptor name fd) id from ho) hid

/-- `Listen` starts with an empty queue. -/
theorem Sound.listen (hs : Sound h) (key : LocalLayerThreeKey) :
    Sound { h with listeners := emplace h.listeners key [] } := by
  rw [emplace]
  split
  · exact hs
  · exact hs.setListener 0 (fun id' hid => absurd hid (List.not_mem_nil)) List.nodup_nil

/-- A process is written back: its entries are old ones, or a fresh file under a descriptor. -/
theorem Sound.setProcess (hs : Sound h) (fd id : Int32)
    (hfile : ∀ fd' id', p.fdTable fd' = some id' →
      h.fileOf name fd' = some id' ∨ (fd' = fd ∧ id' = id ∧ Fresh h id))
    (hfree : ∀ fd' ∈ p.fdPool, p.fdTable fd' = none)
    (hpos : ∀ fd', fd' ∈ p.fdPool ∨ (p.fdTable fd').isSome → ¬ fd' < 0) :
    Sound (h.setProcess name p) := by
  -- only the places of this process can hold something else than before
  have hcases : ∀ o id', (h.setProcess name p).holds o id' →
      h.holds o id' ∨ (o = .descriptor name fd ∧ id' = id ∧ Fresh h id) := by
    rintro (_ | key | ⟨name', fd'⟩) id' ho
    · exact Or.inl ho
    · exact Or.inl ho
    · rw [holds, fileOf_setProcess] at ho
      split at ho
      · rename_i hname
        rcases hfile fd' id' ho with hold | ⟨hfd, hnew⟩
        · exact Or.inl (hname ▸ hold)
        · exact Or.inr ⟨by rw [hname, hfd], hnew⟩
      · exact Or.inl ho
  have hproc : ∀ name' p', (h.setProcess name p).processes name' = some p' →
      (h.processes name' = some p') ∨ p' = p := by
    intro name' p' hp'
    by_cases hname : name' = name
    · rw [hname, Host.setProcess] at hp'
      simp only [Function.update_self, Option.some_inj] at hp'
      exact Or.inr hp'.symm
    · rw [Host.setProcess] at hp'
      simp only [Function.update_of_ne hname] at hp'
      exact Or.inl hp'
  refine ⟨hs.exclusive.acquire (.descriptor name fd) id fun o id' ho => ?_, fun o id' ho => ?_,
    hs.queuedOnce, fun name' p' fd' hp' hmem => ?_, fun name' p' fd' hp' hmem => ?_⟩
  · rcases hcases o id' ho with hold | ⟨heq, hid, hfresh⟩
    · exact Or.inl hold
    · exact Or.inr ⟨heq, hid, hfresh.unheld⟩
  · rcases hcases o id' ho with hold | ⟨rfl, rfl, hfresh⟩
    · exact hs.openIff o id' hold
    · exact ⟨fun _ => by simp, fun _ => hfresh.isOpen⟩
  · rcases hproc name' p' hp' with hold | rfl
    · exact hs.freeFd name' p' fd' hold hmem
    · exact hfree fd' hmem
  · rcases hproc name' p' hp' with hold | rfl
    · exact hs.fdPos name' p' fd' hold hmem
    · exact hpos fd' hmem

/-- A fresh file gets a descriptor from the pool. -/
theorem Sound.install {fdPool : NumPool} (hs : Sound h) (hf : Fresh h id)
    (hp : h.processes name = some p) (hfd : fd ∈ p.fdPool)
    (hpool : ∀ m, m ∈ fdPool ↔ m ∈ p.fdPool ∧ m ≠ fd) :
    Sound (h.setProcess name { p with fdPool, fdTable := emplace p.fdTable fd id }) := by
  rw [emplace_of_none (hs.freeFd name p fd hp hfd)]
  refine hs.setProcess fd id (fun fd' id' hfile => ?_) (fun fd' hmem => ?_) (fun fd' hmem => ?_)
  · by_cases hfd' : fd' = fd
    · subst hfd'
      simp only [Function.update_self, Option.some_inj] at hfile
      exact Or.inr ⟨rfl, hfile.symm, hf⟩
    · simp only [Function.update_of_ne hfd'] at hfile
      exact Or.inl ((fileOf_of_processes hp fd').trans hfile)
  · obtain ⟨hmem, hne⟩ := (hpool fd').mp hmem
    simp only [Function.update_of_ne hne]
    exact hs.freeFd name p fd' hp hmem
  · refine hs.fdPos name p fd' hp ?_
    by_cases hfd' : fd' = fd
    · exact Or.inl (hfd' ▸ hfd)
    · simp only [Function.update_of_ne hfd', hpool] at hmem
      exact hmem.imp_left And.left

/-- A descriptor is lost. -/
theorem Sound.shrinkPool {fdPool : NumPool} (hs : Sound h) (hp : h.processes name = some p)
    (hpool : ∀ m ∈ fdPool, m ∈ p.fdPool) : Sound (h.setProcess name { p with fdPool }) := by
  refine hs.setProcess 0 0 (fun fd' id' hfile => ?_) (fun fd' hmem => ?_)
    (fun fd' hmem => ?_)
  · exact Or.inl ((fileOf_of_processes hp fd').trans hfile)
  · exact hs.freeFd name p fd' hp (hpool fd' hmem)
  · exact hs.fdPos name p fd' hp (hmem.imp_left (hpool fd'))

/-- A descriptor goes back to the pool, and its file is fresh again. -/
theorem Sound.uninstall (hs : Sound h) (hp : h.processes name = some p)
    (hfd : p.fdTable fd = some id) :
    Sound (h.setProcess name
        { fdPool := p.fdPool.release fd, fdTable := Function.update p.fdTable fd none }) ∧
      Fresh (h.setProcess name
        { fdPool := p.fdPool.release fd, fdTable := Function.update p.fdTable fd none }) id := by
  have hheld : h.holds (.descriptor name fd) id := (fileOf_of_processes hp fd).trans hfd
  -- what is left in the table was there before, under another descriptor
  have hold : ∀ {fd' id'}, Function.update p.fdTable fd none fd' = some id' →
      fd' ≠ fd ∧ p.fdTable fd' = some id' := by
    intro fd' id' hf
    by_cases hfd' : fd' = fd
    · rw [hfd', Function.update_self] at hf
      cases hf
    · rw [Function.update_of_ne hfd'] at hf
      exact ⟨hfd', hf⟩
  refine ⟨hs.setProcess fd id (fun fd' id' hf => ?_) (fun fd' hmem => ?_) (fun fd' hmem => ?_),
    (hs.openIff _ id hheld).mpr (by simp), fun o ho => ?_⟩
  · exact Or.inl ((fileOf_of_processes hp fd').trans (hold hf).2)
  · by_cases hfd' : fd' = fd
    · simp only [hfd', Function.update_self]
    · simp only [Function.update_of_ne hfd']
      rcases NumPool.mem_release.mp hmem with heq | hmem
      · exact absurd heq hfd'
      · exact hs.freeFd name p fd' hp hmem
  · refine hs.fdPos name p fd' hp ?_
    rcases hmem with hmem | hsome
    · rcases NumPool.mem_release.mp hmem with rfl | hmem
      · exact Or.inr (by rw [hfd]; rfl)
      · exact Or.inl hmem
    · obtain ⟨id', hf⟩ := Option.isSome_iff_exists.mp hsome
      exact Or.inr (by rw [(hold hf).2]; rfl)
  · rcases o with _ | key | ⟨name', fd'⟩
    · cases hs.exclusive (show h.holds .pool id from ho) hheld
    · cases hs.exclusive (show h.holds (.queue key) id from ho) hheld
    · rw [holds, fileOf_setProcess] at ho
      split at ho
      · obtain ⟨hne, hf⟩ := hold ho
        have hheld' : h.holds (.descriptor name fd') id := (fileOf_of_processes hp fd').trans hf
        exact hne (IdPlace.descriptor.inj (hs.exclusive hheld' hheld)).2
      · rename_i hname
        have hheld' : h.holds (.descriptor name' fd') id := ho
        exact hname (IdPlace.descriptor.inj (hs.exclusive hheld' hheld)).1

/-- A fresh file is closed. -/
theorem Sound.remove (hs : Sound h) (hf : Fresh h id) :
    Sound { h with openFilesTable := Function.update h.openFilesTable id none } := by
  refine ⟨hs.exclusive, fun o id' ho => ?_, hs.queuedOnce, hs.freeFd, hs.fdPos⟩
  have hne : id' ≠ id := by
    rintro rfl
    exact hf.unheld o ho
  dsimp only
  rw [Function.update_of_ne hne]
  exact hs.openIff o id' ho

/-! ## Received packets -/

theorem Sound.handleNewConnection (hs : Sound h) (pkt : Packet) :
    Sound (h.handleNewConnection pkt).2 := by
  obtain ⟨hcreated, hfresh⟩ := hs.createNewSocket
  have hlisteners : h.createNewSocket.2.listeners = h.listeners := by
    rcases h.createNewSocket_cases with ⟨-, pool, heq, -⟩ | ⟨id, pool, file, heq, -⟩
    · rw [heq]
    · rw [heq]
  rcases h.handleNewConnection_cases pkt with heq | heq | ⟨key, queue, h₁, hkey, hpos, hsame, heq⟩
  · rw [heq]
    exact hs
  · rw [heq]
    exact hcreated
  · rw [heq]
    exact (hcreated.of_sameFiles hsame).enqueue ((hfresh hpos).of_sameFiles hsame)
      (by rw [hsame.listeners, hlisteners, hkey])

theorem Sound.demultiplexLoop (n : ℕ) (pkts : List Packet) (hs : Sound h) :
    Sound (Host.demultiplexLoop n h pkts).1 :=
  demultiplexLoop_induction (fun _ _ hs => hs.of_sameFiles (.receiveNewPacket ..))
    (fun _ pkt hs => hs.handleNewConnection pkt) (fun _ _ hs => hs.of_sameFiles (.sendBackRST ..))
    n pkts hs

/-! ## System calls -/

theorem Sound.callSocket (hs : Sound h) (hp : h.processes name = some p) :
    Sound (h.callSocket name p) := by
  rw [Host.callSocket]
  rcases p.fdPool.allocate_cases with ⟨-, heq⟩ | ⟨fd, fdPool, heq, hfd, hpool⟩
  · rw [heq]
    exact hs.shrinkPool hp fun m hm => hm
  · rw [heq]
    dsimp only
    rw [if_neg (hs.fdPos name p fd hp (Or.inl hfd))]
    obtain ⟨hcreated, hfresh⟩ := hs.createNewSocket
    have hproc : h.createNewSocket.2.processes name = some p := by
      rcases h.createNewSocket_cases with ⟨-, pool, heq, -⟩ | ⟨id, pool, file, heq, -⟩
      · rw [heq]
        exact hp
      · rw [heq]
        exact hp
    cases hnew : h.createNewSocket with
    | mk openFileId h₁ =>
      rw [hnew] at hcreated hfresh hproc
      dsimp only
      split
      · exact hcreated.shrinkPool hproc fun m hm => ((hpool m).mp hm).1
      · rename_i hpos
        exact hcreated.install (hfresh hpos) hproc hfd hpool

/-- The last reference to a file goes away with the file. -/
theorem SameFiles.decOpenFileRef (hd : h.decOpenFileRef id = .ok h') :
    SameFiles h h' ∨
      SameFiles { h with openFilesTable := Function.update h.openFilesTable id none } h' := by
  rw [Host.decOpenFileRef] at hd
  split at hd
  · cases hd
    exact Or.inl (.refl h)
  · rename_i file hfile
    split at hd
    · obtain ⟨h₁, hclose, hret⟩ := Transition.bind_eq_ok.mp hd
      cases hret
      obtain ⟨hproc, hopen, hpool, hlist⟩ := SameFiles.closeLast hclose
      refine Or.inr ⟨hproc, fun id' => ?_, hpool, hlist⟩
      by_cases hid : id' = id
      · simp only [hid, Function.update_self]
      · simp only [Function.update_of_ne hid]
        exact hopen id'
    · cases hd
      refine Or.inl ⟨rfl, fun id' => ?_, rfl, rfl⟩
      by_cases hid : id' = id
      · simp only [hid, Function.update_self, hfile]
        rfl
      · simp only [Function.update_of_ne hid]

theorem SameFiles.setProcess (hsame : SameFiles h h') (name : String) (p : Process) :
    SameFiles (h.setProcess name p) (h'.setProcess name p) := by
  refine ⟨?_, hsame.openFiles, hsame.openFileIdPool, hsame.listeners⟩
  rw [Host.setProcess, Host.setProcess, hsame.processes]

theorem Sound.callClose (hs : Sound h) (hp : h.processes name = some p)
    (hc : h.callClose name p fd = .ok h') : Sound h' := by
  rw [Host.callClose] at hc
  split at hc
  · cases hc
    exact hs
  · rename_i hpos
    obtain ⟨h₁, hdec, hret⟩ := Transition.bind_eq_ok.mp hc
    cases hret
    obtain ⟨id, hfd⟩ : ∃ id, p.fdTable fd = some id := by
      rw [Process.findFdMappedFileId] at hpos
      cases hfd : p.fdTable fd with
      | none =>
        rw [hfd] at hpos
        exact absurd (by decide) hpos
      | some id => exact ⟨id, rfl⟩
    rw [Process.findFdMappedFileId, hfd, Option.getD_some] at hdec
    obtain ⟨hun, hfresh⟩ := hs.uninstall hp hfd
    rcases SameFiles.decOpenFileRef hdec with hsame | hsame
    · exact hun.of_sameFiles (hsame.setProcess name _)
    · exact (hun.remove hfresh).of_sameFiles (hsame.setProcess name _)

/-- A call of `Accept` does not meet an error path: the descriptor is not open, or it is a
socket that listens and there is a descriptor left for the connection that waits. -/
def acceptSafe (h : Host) : Event → Bool
  | .accept name fd =>
    match (h.processes name).bind fun p => (p.fdTable fd).map fun id => (p, id) with
    | none => true
    | some (p, id) =>
      match (h.getSocketLocalBound id).bind h.listeners with
      | none => false
      | some [] => true
      | some (_ :: _) => !p.fdPool.nums.isEmpty
  | _ => true

theorem Sound.callAccept (hs : Sound h) (hp : h.processes name = some p)
    (hsafe : h.acceptSafe (.accept name fd)) (hc : h.callAccept name p fd = .ok h') :
    Sound h' := by
  rw [Host.callAccept, Process.findFdMappedFileId] at hc
  rw [acceptSafe, hp] at hsafe
  simp only [Option.bind_some] at hsafe
  cases hfd : p.fdTable fd with
  | none =>
    rw [hfd, Option.getD_none, if_pos (by decide)] at hc
    cases hc
    exact hs
  | some id =>
    rw [hfd, Option.getD_some] at hc
    rw [hfd] at hsafe
    dsimp only [Option.map_some] at hsafe
    split at hc
    · cases hc
      exact hs
    rw [socketAccept] at hc
    cases hbound : h.getSocketLocalBound id with
    | none =>
      rw [hbound] at hsafe
      cases hsafe
    | some key =>
      rw [hbound] at hsafe hc
      dsimp only [Option.bind_some] at hsafe hc
      cases hkey : h.listeners key with
      | none =>
        rw [hkey] at hsafe
        cases hsafe
      | some queue =>
        rw [hkey] at hsafe hc
        cases queue with
        | nil =>
          cases hc
          exact hs
        | cons newId rest =>
          obtain ⟨hde, hfresh⟩ := hs.dequeue hkey
          dsimp only at hc hsafe
          -- there is a descriptor, so the listening socket is not deleted
          rcases p.fdPool.allocate_cases with ⟨hnil, -⟩ | ⟨newFd, fdPool, heq, hmem, hpool⟩
          · rw [hnil] at hsafe
            cases hsafe
          · rw [heq] at hc
            dsimp only at hc
            rw [if_neg (hs.fdPos name p newFd hp (Or.inl hmem))] at hc
            cases hc
            exact hde.install hfresh hp hmem hpool

/-! ## Runs -/

theorem Sound.new (ip : String) : Sound (Host.new ip) := by
  have hpool : ∀ o id, (Host.new ip).holds o id → o = .pool := by
    rintro (_ | key | ⟨name, fd⟩) id ho
    · rfl
    · cases ho
    · cases ho
  refine ⟨fun o₁ o₂ id h₁ h₂ => (hpool o₁ id h₁).trans (hpool o₂ id h₂).symm, fun o id ho => ?_,
    fun key => List.nodup_nil, ?_, ?_⟩
  · rw [hpool o id ho]
    exact ⟨fun hsome => absurd hsome (by simp [Host.new]), fun hne => absurd rfl hne⟩
  · intro name p fd hp
    cases hp
  · intro name p fd hp
    cases hp

omit [HyLib] in
/-- The file descriptors of a new process are not negative. -/
theorem fdPool_new_pos : ∀ fd ∈ Process.new.fdPool, ¬ fd < 0 := by
  intro fd hfd
  obtain ⟨i, hi, rfl⟩ := NumPool.mem_new.mp hfd
  have hall : ∀ i < (63 + 1 - 3 : ℤ).toNat, ¬ Int32.ofInt (3 + i) < 0 := by decide
  exact hall i hi

theorem Sound.createProcess (hs : Sound h) (name : String) :
    Sound { h with processes := emplace h.processes name Process.new } := by
  rw [emplace]
  split
  · exact hs
  · refine hs.setProcess 0 0 (fun fd' id' hf => ?_) (fun fd' _ => rfl) (fun fd' hmem => ?_)
    · cases hf
    · rcases hmem with hmem | hsome
      · exact fdPool_new_pos fd' hmem
      · cases hsome

/-- A step keeps the tables sound, if `Accept` meets no error path. -/
theorem Sound.step {e : Event} (hs : Sound h) (hsafe : h.acceptSafe e)
    (he : h.step e = .ok h') : Sound h' := by
  cases e with
  | bind | connect | controller | tearDown | delete => exact hs.of_sameFiles (.step rfl he)
  | createProcess name =>
    cases he
    exact hs.createProcess name
  | socket name =>
    rcases call_cases he with rfl | ⟨p, hp, hc⟩
    · exact hs
    · cases hc
      exact hs.callSocket hp
  | listen name fd =>
    rcases step_listen_cases he with rfl | ⟨key, rfl⟩
    · exact hs
    · exact hs.listen key
  | accept name fd =>
    rcases call_cases he with rfl | ⟨p, hp, hc⟩
    · exact hs
    · exact hs.callAccept hp hsafe hc
  | close name fd =>
    rcases call_cases he with rfl | ⟨p, hp, hc⟩
    · exact hs
    · exact hs.callClose hp hc
  | receive pkts =>
    cases he
    exact hs.demultiplexLoop pkts.length pkts

/-- **File descriptors denote live, unshared sockets.** In every run in which `Accept` is called on
listening sockets only and never without a descriptor for the connection it takes, every
entry of every `fd_table_` is an open file, and no two entries are the same one. -/
theorem fds_live_unshared (ip : String) (es : List Event)
    (hsafe : Transition.Meets Host.step (fun h e => h.acceptSafe e) (Host.new ip) es) {h : Host}
    (hrun : Transition.run Host.step (Host.new ip) es = .ok h) : h.FdsLive ∧ h.FdsUnshared := by
  have hs : Sound h := Transition.run_induction_of_meets Host.step
    (fun s e s' hs hsafe he => hs.step hsafe he) (Sound.new ip) hsafe hrun
  exact ⟨hs.live, hs.unshared⟩

end

section

open scoped Reference

/-- A server that listens, gets a SYN and accepts the connection. -/
def acceptingRun : List Event :=
  [.createProcess "server", .socket "server", .bind "server" 3 "10.0.0.2" 90, .listen "server" 3,
    .receive [synPkt], .accept "server" 3, .close "server" 3]

theorem fds_live_unshared_accepting :
    ∃ h, Transition.run Host.step (Host.new "10.0.0.2") acceptingRun = .ok h ∧
      h.fileOf "server" 4 = some 1 ∧ h.FdsLive ∧ h.FdsUnshared := by
  have hrun : (Transition.run Host.step (Host.new "10.0.0.2") acceptingRun).map
      (fun h => h.fileOf "server" 4) = .ok (some 1) := by decide +kernel
  obtain ⟨h, hrun, hfd⟩ := Transition.map_eq_ok.mp hrun
  exact ⟨h, hrun, hfd, fds_live_unshared "10.0.0.2" acceptingRun (by decide +kernel) hrun⟩

/-- `Accept` on a socket that is not bound returns a second descriptor of open file 0: the
`false` that `SocketAccept` returns is taken for an open file id. -/
theorem not_fds_live_unshared : ¬ ∀ (ip : String) (es : List Event) (h : Host),
    Transition.run Host.step (Host.new ip) es = .ok h → h.FdsLive ∧ h.FdsUnshared := by
  intro hall
  have hrun : (Transition.run Host.step (Host.new "10.0.0.2")
      [.createProcess "server", .socket "server", .accept "server" 3]).map
      (fun h => (h.fileOf "server" 3, h.fileOf "server" 4)) = .ok (some 0, some 0) := by
    decide +kernel
  obtain ⟨h, hrun, hfds⟩ := Transition.map_eq_ok.mp hrun
  obtain ⟨h₃, h₄⟩ := Prod.mk.inj hfds
  obtain ⟨-, heq⟩ := (hall _ _ h hrun).2 _ _ _ _ _ h₃ h₄
  exact absurd heq (by decide)

end

end Host

end NetStack
