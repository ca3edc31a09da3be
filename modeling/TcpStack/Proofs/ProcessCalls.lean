import TcpStack.Model.ProcessCalls
import TcpStack.Proofs.HostTables

/-!
# TcpStack — the file descriptors of a process

A process hands out the numbers from 3 to 63. `Socket` takes one before it asks the host for a
socket, `Accept` afterwards, `Close` gives one back.

* **`Host.run_process`** — what a run of the host does to a process, calls of it do.
* **`InRange`** — no other number is ever in the pool or in the table.
* **`Conserved`** — every descriptor is free or in use, and not both.
* **`keepsDescriptor_iff`** — the one call that loses a descriptor: `Socket`, when the host fails.
* **`descriptors_conserved`** — descriptors are conserved in exactly the runs without such calls.
-/

namespace NetStack

open Transition

/-! ## The calls of a process of a host -/

namespace Host

variable [HyLib] {h h' : Host} {name : String} {p : Process} {fd : Int32}

@[simp] theorem setProcess_self : (h.setProcess name p).processes name = some p :=
  Function.update_self ..

theorem setProcess_of_ne {name' : String} (hname : name' ≠ name) :
    (h.setProcess name p).processes name' = h.processes name' :=
  Function.update_of_ne hname ..

/-- The host creates a socket and leaves its processes alone. -/
theorem createNewSocket_processes (h : Host) : h.createNewSocket.2.processes = h.processes := by
  rcases h.createNewSocket_cases with ⟨-, pool, heq, -⟩ | ⟨id, pool, file, heq, -⟩
  · rw [heq]
  · rw [heq]

/-- `Process::Socket`, with what `CreateNewSocket` returned. -/
theorem callSocket_process (h : Host) (name : String) (p : Process) :
    (h.callSocket name p).processes name = some (p.socket h.createNewSocket.1).2 := by
  rw [callSocket, Process.socket]
  cases p.fdPool.allocate with
  | mk fd fdPool =>
    dsimp only
    split
    · exact setProcess_self
    · split
      · exact setProcess_self
      · exact setProcess_self

theorem callSocket_other {name' : String} (hname : name' ≠ name) :
    (h.callSocket name p).processes name' = h.processes name' := by
  have hcreate := congrFun h.createNewSocket_processes name'
  rw [callSocket]
  cases p.fdPool.allocate with
  | mk fd fdPool =>
    dsimp only
    split
    · exact setProcess_of_ne hname
    · split
      · exact (setProcess_of_ne hname).trans hcreate
      · exact (setProcess_of_ne hname).trans hcreate

theorem deleteSocketAndConnection_processes {id : Int32}
    (hd : h.deleteSocketAndConnection id = .ok h') : h'.processes = h.processes := by
  rcases deleteSocketAndConnection_cases hd with ⟨-, rfl⟩ | hsame
  · rfl
  · exact hsame.processes

theorem decOpenFileRef_processes {id : Int32} (hd : h.decOpenFileRef id = .ok h') :
    h'.processes = h.processes := by
  rcases decOpenFileRef_cases hd with ⟨-, rfl⟩ | ⟨file, -, ⟨-, hsame⟩ | ⟨-, rfl⟩⟩
  · rfl
  · exact hsame.processes
  · rfl

theorem socketAccept_processes {id newId : Int32}
    (ha : h.socketAccept id = some (newId, h')) : h'.processes = h.processes := by
  rcases socketAccept_cases ha with rfl | ⟨key, rest, -, -, rfl⟩
  · rfl
  · rfl

/-- `Process::Accept`, with what `SocketAccept` returned, or nothing while it blocks. -/
theorem callAccept_process (hp : h.processes name = some p)
    (hc : h.callAccept name p fd = .ok h') :
    (h'.processes name = some p ∨
      ∃ newOpenFileId, h'.processes name = some (p.accept fd newOpenFileId).2) ∧
    ∀ name', name' ≠ name → h'.processes name' = h.processes name' := by
  rw [callAccept] at hc
  dsimp only at hc
  split at hc
  · cases hc
    exact ⟨Or.inl hp, fun _ _ => rfl⟩
  · next hfile =>
    split at hc
    · -- the call waits
      cases hc
      exact ⟨Or.inl hp, fun _ _ => rfl⟩
    · next newOpenFileId h₁ haccept =>
      have hsame := socketAccept_processes haccept
      suffices hset : ∃ q, h'.processes = (h₁.setProcess name q).processes ∧
          q = (p.accept fd newOpenFileId).2 by
        obtain ⟨q, hq, rfl⟩ := hset
        refine ⟨Or.inr ⟨newOpenFileId, by rw [hq]; exact setProcess_self⟩, fun name' hne => ?_⟩
        rw [hq, setProcess_of_ne hne, hsame]
      rw [Process.accept, if_neg hfile]
      cases hpool : p.fdPool.allocate with
      | mk newFd fdPool =>
        rw [hpool] at hc
        dsimp only at hc ⊢
        split at hc
        · next hneg =>
          rw [if_pos hneg]
          exact ⟨_, deleteSocketAndConnection_processes hc, rfl⟩
        · next hpos =>
          cases hc
          rw [if_neg hpos]
          exact ⟨_, rfl, rfl⟩

/-- `Process::Close`. -/
theorem callClose_process (hp : h.processes name = some p) (hc : h.callClose name p fd = .ok h') :
    h'.processes name = some (p.close fd).2 ∧
    ∀ name', name' ≠ name → h'.processes name' = h.processes name' := by
  rw [callClose] at hc
  rw [Process.close]
  split at hc
  · next hneg =>
    cases hc
    rw [if_pos hneg]
    exact ⟨hp, fun _ _ => rfl⟩
  · next hpos =>
    obtain ⟨h₁, hdec, hrest⟩ := bind_eq_ok.mp hc
    cases hrest
    have hsame := decOpenFileRef_processes hdec
    rw [if_neg hpos]
    refine ⟨?_, fun name' hne => by rw [setProcess_of_ne hne, hsame]⟩
    cases hentry : p.fdTable fd with
    | none =>
      -- a descriptor without an entry is mapped to -1
      rw [Process.findFdMappedFileId, hentry] at hpos
      exact absurd (show (-1 : Int32) < 0 by decide) hpos
    | some id => exact setProcess_self

/-- **Every step of the host is a call of a process, or leaves it alone.** -/
theorem step_process {e : Event} (hp : h.processes name = some p) (hstep : h.step e = .ok h') :
    h'.processes name = some p ∨
      ∃ call p', p.apply call = .ok p' ∧ h'.processes name = some p' := by
  by_cases hkeeps : keepsFiles e = true
  · left
    rw [(SameFiles.step hkeeps hstep).processes]
    exact hp
  cases e with
  | bind | connect | controller | tearDown | delete => exact absurd rfl hkeeps
  | createProcess name' =>
    cases hstep
    left
    show emplace h.processes name' Process.new name = some p
    rw [emplace]
    split
    · exact hp
    · next hnone =>
      by_cases hname : name = name'
      · subst hname
        rw [hp] at hnone
        exact absurd rfl hnone
      · rw [Function.update_of_ne hname]
        exact hp
  | socket name' =>
    rcases call_cases hstep with rfl | ⟨q, hq, hc⟩
    · exact Or.inl hp
    · cases hc
      by_cases hname : name = name'
      · subst hname
        cases hp.symm.trans hq
        exact Or.inr ⟨.socket h.createNewSocket.1, _, rfl, h.callSocket_process name p⟩
      · exact Or.inl ((callSocket_other hname).trans hp)
  | listen name' fd =>
    rcases step_listen_cases hstep with rfl | ⟨key, rfl⟩
    · exact Or.inl hp
    · exact Or.inl hp
  | accept name' fd =>
    rcases call_cases hstep with rfl | ⟨q, hq, hc⟩
    · exact Or.inl hp
    · obtain ⟨hself, hother⟩ := callAccept_process hq hc
      by_cases hname : name = name'
      · subst hname
        cases hp.symm.trans hq
        rcases hself with hsame | ⟨newOpenFileId, hnew⟩
        · exact Or.inl hsame
        · exact Or.inr ⟨.accept fd newOpenFileId, _, rfl, hnew⟩
      · exact Or.inl ((hother name hname).trans hp)
  | close name' fd =>
    rcases call_cases hstep with rfl | ⟨q, hq, hc⟩
    · exact Or.inl hp
    · obtain ⟨hself, hother⟩ := callClose_process hq hc
      by_cases hname : name = name'
      · subst hname
        cases hp.symm.trans hq
        exact Or.inr ⟨.close fd, _, rfl, hself⟩
      · exact Or.inl ((hother name hname).trans hp)
  | receive newPackets =>
    cases hstep
    left
    show (demultiplexLoop _ h newPackets).1.processes name = some p
    refine demultiplexLoop_induction (P := fun h => h.processes name = some p) ?_ ?_ ?_ _ _ hp
    · intro h pkt hp
      rw [(SameFiles.receiveNewPacket h _ pkt).processes]
      exact hp
    · intro h pkt hp
      have hcreate : h.createNewSocket.2.processes name = some p := by
        rw [h.createNewSocket_processes]
        exact hp
      rcases h.handleNewConnection_cases pkt with heq | heq | ⟨key, tcpSockets, h₁, -, -, hsame, heq⟩
      · rw [heq]
        exact hp
      · rw [heq]
        exact hcreate
      · rw [heq]
        show h₁.processes name = some p
        rw [hsame.processes]
        exact hcreate
    · intro h key hp
      exact hp

/-- **A process of a host is a process.** Whatever its host does in a run, the process makes calls
that the host answers. -/
theorem run_process {es : List Event} (hp : h.processes name = some p)
    (hrun : run Host.step h es = .ok h') :
    ∃ calls p', run Process.apply p calls = .ok p' ∧ h'.processes name = some p' := by
  induction es generalizing h p with
  | nil =>
    cases hrun
    exact ⟨[], p, rfl, hp⟩
  | cons e es ih =>
    obtain ⟨h₁, hstep, hrest⟩ := (run_cons_eq_ok Host.step).mp hrun
    rcases step_process hp hstep with hsame | ⟨call, p₁, hcall, hp₁⟩
    · exact ih hsame hrest
    · obtain ⟨calls, p', hcalls, hp'⟩ := ih hp₁ hrest
      exact ⟨call :: calls, p', (run_cons_eq_ok Process.apply).mpr ⟨p₁, hcall, hcalls⟩, hp'⟩

end Host

/-! ## Descriptors -/

namespace Process

variable {p p' : Process} {fd openFileId : Int32}

/-- A number from `kMinFd` to `kMaxFd`. -/
def IsFd (fd : Int32) : Prop := 3 ≤ fd ∧ fd ≤ 63

instance (fd : Int32) : Decidable (IsFd fd) := inferInstanceAs (Decidable (_ ∧ _))

theorem IsFd.not_neg (h : IsFd fd) : ¬ fd < 0 := by
  obtain ⟨hmin, -⟩ := h
  rw [Int32.le_iff_toInt_le] at hmin
  rw [Int32.lt_iff_toInt_lt]
  have h3 : (3 : Int32).toInt = 3 := rfl
  have h0 : (0 : Int32).toInt = 0 := rfl
  omega

/-- Only descriptors are in the pool or in the table. -/
structure InRange (p : Process) : Prop where
  pool : ∀ fd ∈ p.fdPool, IsFd fd
  table : ∀ fd, p.fdTable fd ≠ none → IsFd fd

/-- **Every descriptor is free or in use, and not both.** -/
def Conserved (p : Process) : Prop := ∀ fd, IsFd fd → (fd ∈ p.fdPool ↔ p.fdTable fd = none)

theorem mem_fdPool_new : fd ∈ Process.new.fdPool ↔ IsFd fd := by
  show fd ∈ NumPool.new 3 63 ↔ _
  rw [NumPool.mem_new]
  have h3 : (3 : Int32).toInt = 3 := rfl
  have h63 : (63 : Int32).toInt = 63 := rfl
  constructor
  · rintro ⟨i, hi, rfl⟩
    have hint : (Int32.ofInt (3 + i)).toInt = 3 + i :=
      Int32.toInt_ofInt_of_le (by simp; omega) (by simp; omega)
    rw [IsFd, Int32.le_iff_toInt_le, Int32.le_iff_toInt_le, hint, h3, h63]
    omega
  · rintro ⟨hmin, hmax⟩
    rw [Int32.le_iff_toInt_le] at hmin hmax
    refine ⟨(fd.toInt - 3).toNat, by omega, ?_⟩
    rw [show (3 : ℤ) + ((fd.toInt - 3).toNat : ℤ) = fd.toInt by omega, Int32.ofInt_toInt]

theorem InRange.new : InRange Process.new :=
  ⟨fun _ hfd => mem_fdPool_new.mp hfd, fun _ hfd => absurd rfl hfd⟩

theorem Conserved.new : Conserved Process.new :=
  fun _ hfd => ⟨fun _ => rfl, fun _ => mem_fdPool_new.mpr hfd⟩

/-! ### A descriptor that is taken -/

/-- A descriptor is taken out of the pool and not put into the table. -/
theorem InRange.take (h : InRange p) {fdPool : NumPool}
    (hpool : ∀ m, m ∈ fdPool ↔ m ∈ p.fdPool ∧ m ≠ fd) : InRange { p with fdPool } :=
  ⟨fun m hm => h.pool m ((hpool m).mp hm).1, h.table⟩

/-- Then it is lost. -/
theorem not_conserved_of_take (h : InRange p) (hc : Conserved p) (hfd : fd ∈ p.fdPool)
    {fdPool : NumPool} (hpool : ∀ m, m ∈ fdPool ↔ m ∈ p.fdPool ∧ m ≠ fd) :
    ¬ Conserved { p with fdPool } := by
  intro hc'
  have hfree : p.fdTable fd = none := (hc fd (h.pool fd hfd)).mp hfd
  have hmem := (hc' fd (h.pool fd hfd)).mpr hfree
  exact ((hpool fd).mp hmem).2 rfl

/-- A descriptor moves from the pool into the table. -/
theorem InRange.install (h : InRange p) (hfd : fd ∈ p.fdPool) {fdPool : NumPool}
    (hpool : ∀ m, m ∈ fdPool ↔ m ∈ p.fdPool ∧ m ≠ fd) :
    InRange { fdPool, fdTable := emplace p.fdTable fd openFileId } := by
  refine ⟨fun m hm => h.pool m ((hpool m).mp hm).1, fun m hm => ?_⟩
  replace hm : emplace p.fdTable fd openFileId m ≠ none := hm
  rw [emplace] at hm
  split at hm
  · exact h.table m hm
  · by_cases hm' : m = fd
    · rw [hm']
      exact h.pool fd hfd
    · rw [Function.update_of_ne hm'] at hm
      exact h.table m hm

theorem Conserved.install (h : InRange p) (hc : Conserved p) (hfd : fd ∈ p.fdPool)
    {fdPool : NumPool} (hpool : ∀ m, m ∈ fdPool ↔ m ∈ p.fdPool ∧ m ≠ fd) :
    Conserved { fdPool, fdTable := emplace p.fdTable fd openFileId } := by
  intro m hm
  show m ∈ fdPool ↔ emplace p.fdTable fd openFileId m = none
  rw [emplace_of_none ((hc fd (h.pool fd hfd)).mp hfd), hpool]
  by_cases hm' : m = fd
  · simp [hm']
  · rw [Function.update_of_ne hm', hc m hm]
    simp [hm']

/-! ### The calls -/

/-- What `Socket` does: nothing, lose a descriptor, or install one. -/
theorem socket_cases (h : InRange p) (openFileId : Int32) :
    (p.fdPool.nums = [] ∧ p.socket openFileId = (-1, p)) ∨
    ∃ fd fdPool, fd ∈ p.fdPool ∧ (∀ m, m ∈ fdPool ↔ m ∈ p.fdPool ∧ m ≠ fd) ∧
      (openFileId < 0 ∧ p.socket openFileId = (-1, { p with fdPool }) ∨
        ¬ openFileId < 0 ∧ p.socket openFileId =
          (fd, { fdPool, fdTable := emplace p.fdTable fd openFileId })) := by
  rw [Process.socket]
  rcases p.fdPool.allocate_cases with ⟨hnil, heq⟩ | ⟨fd, fdPool, heq, hfd, hpool⟩
  · rw [heq]
    exact Or.inl ⟨hnil, rfl⟩
  · refine Or.inr ⟨fd, fdPool, hfd, hpool, ?_⟩
    rw [heq]
    dsimp only
    rw [if_neg (h.pool fd hfd).not_neg]
    by_cases hneg : openFileId < 0
    · exact Or.inl ⟨hneg, if_pos hneg⟩
    · exact Or.inr ⟨hneg, if_neg hneg⟩

/-- What `Accept` does: nothing, or install a descriptor. -/
theorem accept_cases (h : InRange p) (fd openFileId : Int32) :
    (p.accept fd openFileId).2 = p ∨
    ∃ newFd fdPool, newFd ∈ p.fdPool ∧ (∀ m, m ∈ fdPool ↔ m ∈ p.fdPool ∧ m ≠ newFd) ∧
      (p.accept fd openFileId).2 = { fdPool, fdTable := emplace p.fdTable newFd openFileId } := by
  rw [Process.accept]
  split
  · exact Or.inl rfl
  · rcases p.fdPool.allocate_cases with ⟨-, heq⟩ | ⟨newFd, fdPool, heq, hfd, hpool⟩
    · rw [heq]
      exact Or.inl rfl
    · refine Or.inr ⟨newFd, fdPool, hfd, hpool, ?_⟩
      rw [heq]
      dsimp only
      rw [if_neg (h.pool newFd hfd).not_neg]

/-- What `Close` does: nothing, or put a descriptor back. -/
theorem close_cases (p : Process) (fd : Int32) :
    (p.close fd).2 = p ∨ p.fdTable fd ≠ none ∧ (p.close fd).2 =
      { fdPool := p.fdPool.release fd, fdTable := Function.update p.fdTable fd none } := by
  rw [Process.close]
  split
  · exact Or.inl rfl
  · split
    · exact Or.inl rfl
    · next id hentry => exact Or.inr ⟨by rw [hentry]; exact Option.some_ne_none id, rfl⟩

theorem apply_ok (p : Process) (call : Call) : ∃ p', p.apply call = .ok p' := by
  cases call with
  | socket openFileId => exact ⟨_, rfl⟩
  | accept fd openFileId => exact ⟨_, rfl⟩
  | close fd => exact ⟨_, rfl⟩

theorem InRange.apply (h : InRange p) {call : Call} (hcall : p.apply call = .ok p') :
    InRange p' := by
  cases call with
  | socket openFileId =>
    cases hcall
    rcases socket_cases h openFileId with
      ⟨-, heq⟩ | ⟨fd, fdPool, hfd, hpool, ⟨-, heq⟩ | ⟨-, heq⟩⟩
    · rw [heq]
      exact h
    · rw [heq]
      exact h.take hpool
    · rw [heq]
      exact h.install hfd hpool
  | accept fd openFileId =>
    cases hcall
    rcases accept_cases h fd openFileId with heq | ⟨newFd, fdPool, hfd, hpool, heq⟩
    · rw [heq]
      exact h
    · rw [heq]
      exact h.install hfd hpool
  | close fd =>
    cases hcall
    rcases close_cases p fd with heq | ⟨hentry, heq⟩
    · rw [heq]
      exact h
    · rw [heq]
      refine ⟨fun m hm => ?_, fun m hm => ?_⟩
      · rcases NumPool.mem_release.mp hm with rfl | hold
        · exact h.table _ hentry
        · exact h.pool m hold
      · refine h.table m fun hnone => hm ?_
        show Function.update p.fdTable fd none m = none
        by_cases hm' : m = fd
        · rw [hm', Function.update_self]
        · rw [Function.update_of_ne hm', hnone]

/-- The host does not fail to create a socket for a descriptor that was allocated. -/
def KeepsDescriptor (p : Process) : Call → Prop
  | .socket openFileId => p.fdPool.nums ≠ [] → ¬ openFileId < 0
  | _ => True

instance (p : Process) : (call : Call) → Decidable (p.KeepsDescriptor call)
  | .socket openFileId => inferInstanceAs (Decidable (p.fdPool.nums ≠ [] → ¬ openFileId < 0))
  | .accept .. => isTrue trivial
  | .close _ => isTrue trivial

/-- **The condition on one call.** -/
theorem keepsDescriptor_iff (h : InRange p) (hc : Conserved p) (call : Call) :
    p.KeepsDescriptor call ↔ ∃ p', p.apply call = .ok p' ∧ InRange p' ∧ Conserved p' := by
  suffices hiff : p.KeepsDescriptor call ↔ ∀ p', p.apply call = .ok p' → Conserved p' by
    rw [hiff]
    constructor
    · intro hall
      obtain ⟨p', hp'⟩ := p.apply_ok call
      exact ⟨p', hp', h.apply hp', hall p' hp'⟩
    · rintro ⟨p', hp', -, hc'⟩ q hq
      cases hp'.symm.trans hq
      exact hc'
  cases call with
  | socket openFileId =>
    rcases socket_cases h openFileId with
      ⟨hnil, heq⟩ | ⟨fd, fdPool, hfd, hpool, ⟨hneg, heq⟩ | ⟨hpos, heq⟩⟩
    · -- no descriptor is left
      refine iff_of_true (fun hne => absurd hnil hne) fun p' hp' => ?_
      cases hp'
      rw [heq]
      exact hc
    · -- the host fails
      have hne : p.fdPool.nums ≠ [] := List.ne_nil_of_mem hfd
      refine iff_of_false (fun hkeeps => hkeeps hne hneg) fun hall => ?_
      have hlost := hall _ rfl
      rw [heq] at hlost
      exact not_conserved_of_take h hc hfd hpool hlost
    · refine iff_of_true (fun _ => hpos) fun p' hp' => ?_
      cases hp'
      rw [heq]
      exact .install h hc hfd hpool
  | accept fd openFileId =>
    refine iff_of_true trivial fun p' hp' => ?_
    cases hp'
    rcases accept_cases h fd openFileId with heq | ⟨newFd, fdPool, hfd, hpool, heq⟩
    · rw [heq]
      exact hc
    · rw [heq]
      exact .install h hc hfd hpool
  | close fd =>
    refine iff_of_true trivial fun p' hp' => ?_
    cases hp'
    rcases close_cases p fd with heq | ⟨hentry, heq⟩
    · rw [heq]
      exact hc
    · rw [heq]
      intro m hm
      show m ∈ p.fdPool.release fd ↔ Function.update p.fdTable fd none m = none
      rw [NumPool.mem_release]
      by_cases hm' : m = fd
      · simp [hm']
      · rw [Function.update_of_ne hm', hc m hm]
        simp [hm']

end Process

/-- **When descriptors are conserved.** Along any calls of a new process, with any answers of the
host, every number from 3 to 63 is in exactly one of the pool and the table, and a `Socket` that
returns -1 changes neither, exactly if the host never fails to create a socket for a descriptor that
was allocated. -/
theorem descriptors_conserved (calls : List Process.Call) :
    (∀ pre, pre <+: calls → ∃ p, run Process.apply Process.new pre = .ok p ∧
      (∀ fd : Int32, 3 ≤ fd ∧ fd ≤ 63 → (fd ∈ p.fdPool ↔ p.fdTable fd = none)) ∧
      ∀ openFileId, pre ++ [.socket openFileId] <+: calls → (p.socket openFileId).1 = -1 →
        (p.socket openFileId).2 = p) ↔
      Meets Process.apply Process.KeepsDescriptor Process.new calls := by
  have hiff : (∀ pre, pre <+: calls → ∃ p, run Process.apply Process.new pre = .ok p ∧
      p.InRange ∧ p.Conserved) ↔ Meets Process.apply Process.KeepsDescriptor Process.new calls :=
    forall_prefix_iff_meets Process.apply (P := fun p => p.InRange ∧ p.Conserved)
      (fun p call h => Process.keepsDescriptor_iff h.1 h.2 call) ⟨.new, .new⟩
  rw [← hiff]
  constructor
  · intro h pre hpre
    obtain ⟨p, hrun, hc, -⟩ := h pre hpre
    exact ⟨p, hrun, run_induction Process.apply (P := Process.InRange)
      (fun _ _ _ h hcall => h.apply hcall) .new hrun, hc⟩
  · intro h pre hpre
    obtain ⟨p, hrun, hr, hc⟩ := h pre hpre
    refine ⟨p, hrun, hc, fun openFileId hnext hfail => ?_⟩
    have hkeeps : p.KeepsDescriptor (.socket openFileId) := by
      have hmeets := hiff.mp h
      obtain ⟨rest, rfl⟩ := hnext
      exact Meets.last Process.apply (hmeets.of_append Process.apply) hrun
    rcases Process.socket_cases hr openFileId with
      ⟨-, heq⟩ | ⟨fd, fdPool, hfd, hpool, ⟨hneg, -⟩ | ⟨-, heq⟩⟩
    · rw [heq]
    · exact absurd hneg (hkeeps (List.ne_nil_of_mem hfd))
    · -- the descriptor is returned
      rw [heq] at hfail
      have hfd' := (hr.pool fd hfd).not_neg
      rw [show fd = -1 from hfail] at hfd'
      exact absurd (show (-1 : Int32) < 0 by decide) hfd'

/-- The first `Socket` of a process on a host whose open file ids are used up: it returns -1, and
descriptor 3 is neither in the pool nor in the table. -/
theorem not_descriptors_conserved :
    ∃ p, run Process.apply Process.new [.socket (-1)] = .ok p ∧
      (Process.new.socket (-1)).1 = -1 ∧ (Process.new.socket (-1)).2 = p ∧
      p.fdPool ≠ Process.new.fdPool ∧ (3 : Int32) ∉ p.fdPool ∧ p.fdTable 3 = none := by
  have hlost : (3 : Int32) ∉ (Process.new.socket (-1)).2.fdPool := by decide +kernel
  have hfirst : (3 : Int32) ∈ Process.new.fdPool := by decide +kernel
  refine ⟨_, rfl, by decide +kernel, rfl, fun hpool => ?_, hlost, by decide +kernel⟩
  rw [hpool] at hlost
  exact hlost hfirst

end NetStack
