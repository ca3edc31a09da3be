import TcpStack.Proofs.HostTables

/-!
# TcpStack — the ids of open files

An id of an open file is taken from the pool when a socket is created. A socket is removed from
the table by `DecOpenFileRef` and by `DeleteSocketAndConnection`, and neither of them puts its id
back.

* **`IdsKept`** — steps that lose no id: what leaves the pool is in the table afterwards.
* **`IdRemoved`** — a file is removed and its id is nowhere.
* **`IdsKept.step`** / **`IdRemoved.step`** — every step is one or the other, by what it finds.
* **`ids_conserved`** — the pool and the table are a partition of the ids exactly as long as no
  open file has been removed.
-/

namespace NetStack

open Transition

namespace Host

/-- The ids a host has: 0 to 255. -/
def IsFileId (id : Int32) : Prop := 0 ≤ id ∧ id ≤ 255

instance (id : Int32) : Decidable (IsFileId id) := inferInstanceAs (Decidable (_ ∧ _))

theorem isFileId_ofNat : ∀ i < 256, IsFileId (Int32.ofNat i) := by decide +kernel

theorem isFileId_iff {id : Int32} : IsFileId id ↔ ∃ i < 256, id = Int32.ofNat i := by
  constructor
  · rintro ⟨hlo, hhi⟩
    have hlo' : (0 : Int32).toInt ≤ id.toInt := Int32.le_iff_toInt_le.mp hlo
    have hhi' : id.toInt ≤ (255 : Int32).toInt := Int32.le_iff_toInt_le.mp hhi
    have h0 : (0 : Int32).toInt = 0 := by decide
    have h255 : (255 : Int32).toInt = 255 := by decide
    refine ⟨id.toInt.toNat, by omega, ?_⟩
    rw [← Int32.ofInt_eq_ofNat, Int.toNat_of_nonneg (by omega), Int32.ofInt_toInt]
  · rintro ⟨i, hi, rfl⟩
    exact isFileId_ofNat i hi

section

variable [HyLib] {h h' h₁ : Host} {id : Int32} {name : String} {p : Process} {fd : Int32}

/-- The number of open files. -/
def openFiles (h : Host) : ℕ :=
  (List.range 256).countP fun i => (h.openFilesTable (Int32.ofNat i)).isSome

/-- Every id is in the pool or in the table, and not in both. -/
def IdsPartition (h : Host) : Prop :=
  ∀ id, IsFileId id → (id ∈ h.openFileIdPool ↔ h.openFilesTable id = none)

/-- The pool and the table are a partition, and with fewer than 256 open files another one can be
created. -/
structure IdsConserved (h : Host) : Prop where
  partition : IdsPartition h
  creates : h.openFiles < 256 → 0 ≤ h.createNewSocket.1

/-- What holds whether ids are lost or not. -/
structure IdsTidy (h : Host) : Prop where
  pool : ∀ id ∈ h.openFileIdPool, IsFileId id
  opened : ∀ id, (h.openFilesTable id).isSome → IsFileId id ∧ id ∉ h.openFileIdPool

/-- The pool only gets smaller, and what it loses is open afterwards. -/
structure IdsKept (h h' : Host) : Prop where
  pool : ∀ id, id ∈ h'.openFileIdPool → id ∈ h.openFileIdPool
  opened : ∀ id, (h'.openFilesTable id).isSome ↔
    (h.openFilesTable id).isSome ∨ (id ∈ h.openFileIdPool ∧ id ∉ h'.openFileIdPool)

/-- The file `id` is removed, and the pool stays as it is. -/
structure IdRemoved (h h' : Host) (id : Int32) : Prop where
  before : (h.openFilesTable id).isSome
  pool : h'.openFileIdPool = h.openFileIdPool
  opened : ∀ id', (h'.openFilesTable id').isSome ↔ (h.openFilesTable id').isSome ∧ id' ≠ id

/-- An id is nowhere. -/
def IdLost (h : Host) : Prop :=
  ∃ id, IsFileId id ∧ id ∉ h.openFileIdPool ∧ h.openFilesTable id = none

namespace IdsKept

theorem of_eq (hpool : h'.openFileIdPool = h.openFileIdPool)
    (hopened : ∀ id, (h'.openFilesTable id).isSome = (h.openFilesTable id).isSome) :
    IdsKept h h' := by
  refine ⟨fun id hid => by rwa [hpool] at hid, fun id => ?_⟩
  rw [hopened, hpool]
  constructor
  · exact Or.inl
  · rintro (hsome | ⟨hin, hout⟩)
    · exact hsome
    · exact absurd hin hout

theorem refl (h : Host) : IdsKept h h := .of_eq rfl fun _ => rfl

theorem of_sameFiles (hs : SameFiles h h') : IdsKept h h' := .of_eq hs.openFileIdPool hs.openFiles

theorem trans (h₁₂ : IdsKept h h₁) (h₂₃ : IdsKept h₁ h') : IdsKept h h' := by
  refine ⟨fun id hid => h₁₂.pool id (h₂₃.pool id hid), fun id => ?_⟩
  rw [h₂₃.opened, h₁₂.opened]
  constructor
  · rintro ((hsome | ⟨hin, hout⟩) | ⟨hin, hout⟩)
    · exact Or.inl hsome
    · exact Or.inr ⟨hin, fun hid => hout (h₂₃.pool id hid)⟩
    · exact Or.inr ⟨h₁₂.pool id hin, hout⟩
  · rintro (hsome | ⟨hin, hout⟩)
    · exact Or.inl (Or.inl hsome)
    · by_cases hmid : id ∈ h₁.openFileIdPool
      · exact Or.inr ⟨hmid, hout⟩
      · exact Or.inl (Or.inr ⟨hin, hmid⟩)

theorem tidy (hk : IdsKept h h') (ht : IdsTidy h) : IdsTidy h' := by
  refine ⟨fun id hid => ht.pool id (hk.pool id hid), fun id hsome => ?_⟩
  rcases (hk.opened id).mp hsome with hsome | ⟨hin, hout⟩
  · obtain ⟨hrange, hout⟩ := ht.opened id hsome
    exact ⟨hrange, fun hid => hout (hk.pool id hid)⟩
  · exact ⟨ht.pool id hin, hout⟩

theorem lost (hk : IdsKept h h') (hl : IdLost h) : IdLost h' := by
  obtain ⟨id, hrange, hout, hnone⟩ := hl
  refine ⟨id, hrange, fun hid => hout (hk.pool id hid), ?_⟩
  rw [← Option.not_isSome_iff_eq_none, hk.opened]
  rintro (hsome | ⟨hin, -⟩)
  · rw [hnone] at hsome
    cases hsome
  · exact hout hin

/-- No id is lost: a partition stays one. -/
theorem partition (hk : IdsKept h h') (hpart : IdsPartition h) : IdsPartition h' := by
  intro id hrange
  rw [← Option.not_isSome_iff_eq_none, hk.opened]
  have hbefore := hpart id hrange
  rw [← Option.not_isSome_iff_eq_none] at hbefore
  constructor
  · rintro hin (hsome | ⟨-, hout⟩)
    · exact hbefore.mp (hk.pool id hin) hsome
    · exact hout hin
  · intro hno
    by_contra hout
    exact hno (Or.inr ⟨hbefore.mpr fun hsome => hno (Or.inl hsome), hout⟩)

end IdsKept

namespace IdRemoved

theorem tidy (hr : IdRemoved h h' id) (ht : IdsTidy h) : IdsTidy h' := by
  refine ⟨fun id' hid => ht.pool id' (hr.pool ▸ hid), fun id' hsome => ?_⟩
  rw [hr.pool]
  exact ht.opened id' ((hr.opened id').mp hsome).1

theorem stays_lost (hr : IdRemoved h h' id) (hl : IdLost h) : IdLost h' := by
  obtain ⟨id', hrange, hout, hnone⟩ := hl
  refine ⟨id', hrange, by rwa [hr.pool], ?_⟩
  rw [← Option.not_isSome_iff_eq_none, hr.opened, hnone]
  exact fun h => absurd h.1 (by simp)

/-- The id of the file that is removed is lost. -/
theorem lost (hr : IdRemoved h h' id) (ht : IdsTidy h) : IdLost h' := by
  obtain ⟨hrange, hout⟩ := ht.opened id hr.before
  refine ⟨id, hrange, by rwa [hr.pool], ?_⟩
  rw [← Option.not_isSome_iff_eq_none, hr.opened]
  exact fun h => h.2 rfl

/-- What changes neither the pool nor which files are open may come before and behind. -/
theorem of_eq {k k' : Host} (hr : IdRemoved k k' id) (hpool : k.openFileIdPool = h.openFileIdPool)
    (hopen : ∀ id, (k.openFilesTable id).isSome = (h.openFilesTable id).isSome)
    (hpool' : h'.openFileIdPool = k'.openFileIdPool)
    (hopen' : ∀ id, (h'.openFilesTable id).isSome = (k'.openFilesTable id).isSome) :
    IdRemoved h h' id where
  before := by
    rw [← hopen]
    exact hr.before
  pool := by rw [hpool', hr.pool, hpool]
  opened := fun id' => by rw [hopen', hr.opened, hopen]

end IdRemoved

/-! ## Creating and removing -/

/-- A socket can be created as long as there are ids. -/
theorem IdsTidy.createNewSocket_neg (ht : IdsTidy h) :
    h.createNewSocket.1 < 0 ↔ h.openFileIdPool.nums = [] := by
  have hminus : (-1 : Int32) < 0 := by decide
  rw [Host.createNewSocket]
  rcases h.openFileIdPool.allocate_cases with ⟨hnil, heq⟩ | ⟨n, pool, heq, hn, -⟩
  · rw [heq]
    exact iff_of_true hminus hnil
  · have hpos : ¬ n < 0 := Int32.not_lt.mpr (ht.pool n hn).1
    rw [heq]
    dsimp only
    rw [if_neg hpos]
    exact iff_of_false hpos (List.ne_nil_of_mem hn)

/-- A new socket takes its id out of the pool into the table. -/
theorem IdsKept.createNewSocket (ht : IdsTidy h) : IdsKept h h.createNewSocket.2 := by
  rw [Host.createNewSocket]
  rcases h.openFileIdPool.allocate_cases with ⟨-, heq⟩ | ⟨n, pool, heq, hn, hmem⟩
  · -- the pool is empty
    rw [heq]
    exact .refl h
  · have hpos : ¬ n < 0 := Int32.not_lt.mpr (ht.pool n hn).1
    rw [heq]
    dsimp only
    rw [if_neg hpos]
    refine ⟨fun id hid => ((hmem id).mp hid).1, fun id => ?_⟩
    show (Function.update h.openFilesTable n _ id).isSome ↔ _ ∨ (_ ∧ ¬ id ∈ pool)
    rw [hmem]
    by_cases hid : id = n
    · subst hid
      simp [hn]
    · rw [Function.update_of_ne hid]
      simp only [hid, not_false_eq_true, and_true, and_not_self, or_false, ne_eq]

/-- A packet for a listener opens a file. -/
theorem IdsKept.handleNewConnection (ht : IdsTidy h) (pkt : Packet) :
    IdsKept h (h.handleNewConnection pkt).2 := by
  have hcreated := IdsKept.createNewSocket ht
  rcases h.handleNewConnection_cases pkt with heq | heq | ⟨key, queue, h₁, -, -, hsame, heq⟩
  · rw [heq]
    exact .refl h
  · rw [heq]
    exact hcreated
  · rw [heq]
    exact hcreated.trans (.of_eq hsame.openFileIdPool hsame.openFiles)

theorem IdsKept.demultiplexLoop (n : ℕ) (pkts : List Packet) (ht : IdsTidy h) :
    IdsKept h (Host.demultiplexLoop n h pkts).1 :=
  demultiplexLoop_induction (P := IdsKept h)
    (fun _ _ hk => hk.trans (.of_sameFiles (.receiveNewPacket ..)))
    (fun _ pkt hk => hk.trans (.handleNewConnection (hk.tidy ht) pkt))
    (fun _ _ hk => hk.trans (.of_sameFiles (.sendBackRST ..))) n pkts (.refl h)

theorem IdsKept.callSocket (ht : IdsTidy h) (name : String) (p : Process) :
    IdsKept h (h.callSocket name p) := by
  rw [Host.callSocket]
  cases p.fdPool.allocate with
  | mk fd fdPool =>
    dsimp only
    split
    · exact .of_eq rfl fun _ => rfl
    · have hcreated := IdsKept.createNewSocket ht
      cases hnew : h.createNewSocket with
      | mk openFileId h₁ =>
        rw [hnew] at hcreated
        dsimp only
        split
        · exact hcreated.trans (.of_eq rfl fun _ => rfl)
        · exact hcreated.trans (.of_eq rfl fun _ => rfl)

/-- Erasing the entry of an open file, before or behind calls that erase nothing. -/
theorem IdRemoved.erase {file : KernelOpenFile} (hfile : h.openFilesTable id = some file)
    (hsame : SameFiles { h with openFilesTable := Function.update h.openFilesTable id none } h') :
    IdRemoved h h' id := by
  refine ⟨by rw [hfile]; rfl, hsame.openFileIdPool, fun id' => ?_⟩
  rw [hsame.openFiles]
  by_cases hid : id' = id
  · simp [hid]
  · simp [hid]

/-- `DecOpenFileRef` removes the file with its last reference. -/
theorem IdRemoved.decOpenFileRef {file : KernelOpenFile} (hfile : h.openFilesTable id = some file)
    (hrefs : file.refs ≤ 1) (hd : h.decOpenFileRef id = .ok h') : IdRemoved h h' id := by
  rcases decOpenFileRef_cases hd with ⟨hnone, -⟩ | ⟨file', hfile', ⟨-, hsame⟩ | ⟨hmore, -⟩⟩
  · rw [hfile] at hnone
    cases hnone
  · exact .erase hfile hsame
  · rw [hfile] at hfile'
    cases hfile'
    exact absurd hrefs hmore

theorem IdsKept.decOpenFileRef (hno : ∀ file, h.openFilesTable id = some file → ¬ file.refs ≤ 1)
    (hd : h.decOpenFileRef id = .ok h') : IdsKept h h' := by
  rcases decOpenFileRef_cases hd with ⟨-, rfl⟩ | ⟨file, hfile, ⟨hlast, -⟩ | ⟨-, rfl⟩⟩
  · exact .refl _
  · exact absurd hlast (hno file hfile)
  · refine .of_eq rfl fun id' => ?_
    by_cases hid : id' = id
    · simp [hid, hfile]
    · simp [hid]

/-- `DeleteSocketAndConnection` removes the file whatever refers to it. -/
theorem IdRemoved.deleteSocketAndConnection {file : KernelOpenFile}
    (hfile : h.openFilesTable id = some file) (hd : h.deleteSocketAndConnection id = .ok h') :
    IdRemoved h h' id := by
  rcases deleteSocketAndConnection_cases hd with ⟨hnone, -⟩ | hsame
  · rw [hfile] at hnone
    cases hnone
  · exact .erase hfile hsame

/-! ## Steps -/

/-- The step removes an open file: `Close` of the last reference to it, or `Accept` that finds no
file descriptor for the connection and deletes the socket it was called on. -/
def removes (h : Host) : Event → Bool
  | .close name fd =>
    match h.processes name with
    | none => false
    | some p =>
      let openFileId := p.findFdMappedFileId fd
      !decide (openFileId < 0) && (h.openFilesTable openFileId).any fun file => file.refs ≤ 1
  | .accept name fd =>
    match h.processes name with
    | none => false
    | some p =>
      let openFileId := p.findFdMappedFileId fd
      !decide (openFileId < 0) && (h.socketAccept openFileId).isSome &&
        p.fdPool.allocate.1 < 0 && (h.openFilesTable openFileId).isSome
  | _ => false

/-- The open file that `Close` or `Accept` is called on. -/
def calledOn (h : Host) : Event → Option Int32
  | .close name fd | .accept name fd =>
    (h.processes name).map fun p => p.findFdMappedFileId fd
  | _ => none

/-- The open file that the step removes. -/
def removedFile (h : Host) (e : Event) : Option Int32 :=
  if h.removes e then h.calledOn e else none

theorem IdsKept.callClose (hp : h.processes name = some p)
    (hno : h.removes (.close name fd) = false) (hc : h.callClose name p fd = .ok h') :
    IdsKept h h' := by
  rw [removes, hp] at hno
  dsimp only at hno
  rw [Host.callClose] at hc
  split at hc
  · cases hc
    exact .refl h
  · rename_i hpos
    obtain ⟨h₁, hdec, hret⟩ := bind_eq_ok.mp hc
    cases hret
    have hrefs : ∀ file, h.openFilesTable (p.findFdMappedFileId fd) = some file →
        ¬ file.refs ≤ 1 := by
      intro file hfile
      simpa [hpos, hfile] using hno
    exact (IdsKept.decOpenFileRef hrefs hdec).trans (.of_eq rfl fun _ => rfl)

theorem IdRemoved.callClose (hp : h.processes name = some p) (hyes : h.removes (.close name fd))
    (hc : h.callClose name p fd = .ok h') : IdRemoved h h' (p.findFdMappedFileId fd) := by
  rw [removes, hp] at hyes
  simp only [Bool.and_eq_true, Bool.not_eq_true', decide_eq_false_iff_not, Option.any_eq_true,
    decide_eq_true_eq] at hyes
  obtain ⟨hpos, file, hfile, hrefs⟩ := hyes
  rw [Host.callClose] at hc
  rw [if_neg hpos] at hc
  obtain ⟨h₁, hdec, hret⟩ := bind_eq_ok.mp hc
  cases hret
  exact (IdRemoved.decOpenFileRef hfile hrefs hdec).of_eq rfl (fun _ => rfl) rfl fun _ => rfl

/-- `Accept` leaves the ids alone up to the deletion of the socket. -/
theorem socketAccept_ids {newId : Int32} (hacc : h.socketAccept id = some (newId, h')) :
    h'.openFileIdPool = h.openFileIdPool ∧ h'.openFilesTable = h.openFilesTable := by
  rcases socketAccept_cases hacc with rfl | ⟨key, rest, -, -, rfl⟩
  · exact ⟨rfl, rfl⟩
  · exact ⟨rfl, rfl⟩

theorem IdsKept.callAccept (hp : h.processes name = some p)
    (hno : h.removes (.accept name fd) = false) (hc : h.callAccept name p fd = .ok h') :
    IdsKept h h' := by
  rw [removes, hp] at hno
  dsimp only at hno
  rw [Host.callAccept] at hc
  dsimp only at hc
  split at hc
  · cases hc
    exact .refl h
  · rename_i hpos
    cases hacc : h.socketAccept (p.findFdMappedFileId fd) with
    | none =>
      rw [hacc] at hc
      cases hc
      exact .refl h
    | some r =>
      obtain ⟨newId, h₁⟩ := r
      obtain ⟨hpool, htable⟩ := socketAccept_ids hacc
      rw [hacc] at hc hno
      dsimp only at hc
      split at hc
      · rename_i hneg
        -- there is no descriptor, so the file is not open
        have hnone : h₁.openFilesTable (p.findFdMappedFileId fd) = none := by
          rw [htable]
          simpa [hpos, hneg] using hno
        rw [Host.deleteSocketAndConnection, Host.setProcess] at hc
        dsimp only at hc
        rw [hnone] at hc
        cases hc
        exact .of_eq hpool fun _ => by rw [htable]
      · cases hc
        -- only the table of the process changes
        exact .of_eq hpool fun _ => by rw [Host.setProcess, htable]

theorem IdRemoved.callAccept (hp : h.processes name = some p) (hyes : h.removes (.accept name fd))
    (hc : h.callAccept name p fd = .ok h') : IdRemoved h h' (p.findFdMappedFileId fd) := by
  rw [removes, hp] at hyes
  simp only [Bool.and_eq_true, Bool.not_eq_true', decide_eq_true_eq, decide_eq_false_iff_not] at hyes
  obtain ⟨⟨⟨hpos, hacc⟩, hneg⟩, hopen⟩ := hyes
  obtain ⟨⟨newId, h₁⟩, hacc⟩ := Option.isSome_iff_exists.mp hacc
  obtain ⟨file, hfile⟩ := Option.isSome_iff_exists.mp hopen
  obtain ⟨hpool, htable⟩ := socketAccept_ids hacc
  rw [Host.callAccept] at hc
  dsimp only at hc
  rw [if_neg hpos, hacc] at hc
  dsimp only at hc
  rw [if_pos hneg] at hc
  have hfile₁ : (h₁.setProcess name { p with fdPool := p.fdPool.allocate.2 }).openFilesTable
      (p.findFdMappedFileId fd) = some file := by
    show h₁.openFilesTable _ = _
    rw [htable, hfile]
  refine (IdRemoved.deleteSocketAndConnection hfile₁ hc).of_eq hpool (fun id => ?_) rfl
    fun _ => rfl
  show (h₁.openFilesTable id).isSome = _
  rw [htable]

/-- Without a removal, a step keeps the ids. -/
theorem IdsKept.step {e : Event} (ht : IdsTidy h) (hno : h.removes e = false)
    (he : h.step e = .ok h') : IdsKept h h' := by
  cases e with
  | bind | connect | controller | tearDown | delete => exact .of_sameFiles (.step rfl he)
  | createProcess name =>
    cases he
    exact .of_eq rfl fun _ => rfl
  | socket name =>
    rcases call_cases he with rfl | ⟨p, hp, hc⟩
    · exact .refl _
    · cases hc
      exact .callSocket ht name p
  | listen name fd =>
    rcases step_listen_cases he with rfl | ⟨key, rfl⟩
    · exact .refl _
    · exact .of_eq rfl fun _ => rfl
  | accept name fd =>
    rcases call_cases he with rfl | ⟨p, hp, hc⟩
    · exact .refl _
    · exact .callAccept hp hno hc
  | close name fd =>
    rcases call_cases he with rfl | ⟨p, hp, hc⟩
    · exact .refl _
    · exact .callClose hp hno hc
  | receive pkts =>
    cases he
    exact .demultiplexLoop pkts.length pkts ht

/-- A removal loses the id of one file. -/
theorem IdRemoved.step {e : Event} (hyes : h.removes e) (he : h.step e = .ok h') :
    ∃ id, h.removedFile e = some id ∧ IdRemoved h h' id := by
  rw [removedFile, if_pos hyes]
  cases e with
  | createProcess | socket | bind | listen | connect | receive | controller | tearDown | delete =>
    cases hyes
  | accept name fd =>
    cases hp : h.processes name with
    | none =>
      rw [removes, hp] at hyes
      cases hyes
    | some p =>
      rw [Host.step, call, hp] at he
      exact ⟨_, by rw [calledOn, hp]; rfl, IdRemoved.callAccept hp hyes he⟩
  | close name fd =>
    cases hp : h.processes name with
    | none =>
      rw [removes, hp] at hyes
      cases hyes
    | some p =>
      rw [Host.step, call, hp] at he
      exact ⟨_, by rw [calledOn, hp]; rfl, IdRemoved.callClose hp hyes he⟩

theorem IdsTidy.step {e : Event} (ht : IdsTidy h) (he : h.step e = .ok h') : IdsTidy h' := by
  cases hrem : h.removes e with
  | false => exact (IdsKept.step ht hrem he).tidy ht
  | true =>
    obtain ⟨id, -, hr⟩ := IdRemoved.step hrem he
    exact hr.tidy ht

/-! ## Runs -/

/-- A new host has all of the ids in its pool. -/
theorem mem_openFileIdPool_new (ip : String) : id ∈ (Host.new ip).openFileIdPool ↔ IsFileId id := by
  rw [Host.new, NumPool.mem_new, isFileId_iff]
  simp only [zero_add, Int32.ofInt_eq_ofNat]
  rfl

theorem IdsTidy.new (ip : String) : IdsTidy (Host.new ip) := by
  refine ⟨fun id hid => (mem_openFileIdPool_new ip).mp hid, fun id hsome => ?_⟩
  cases hsome

/-- Fewer than 256 open files leave an id that is not open. -/
theorem exists_notOpen (hfew : h.openFiles < 256) : ∃ id, IsFileId id ∧ h.openFilesTable id = none := by
  by_contra hall
  have hfull : h.openFiles = (List.range 256).length := by
    rw [openFiles, List.countP_eq_length]
    intro i hi
    rw [Option.isSome_iff_ne_none]
    exact fun hnone => hall ⟨_, isFileId_ofNat i (List.mem_range.mp hi), hnone⟩
  rw [hfull, List.length_range] at hfew
  exact absurd hfew (lt_irrefl _)

/-- With no open files, no id is open. -/
theorem IdsTidy.notOpen (ht : IdsTidy h) (hnone : h.openFiles = 0) (id : Int32) :
    h.openFilesTable id = none := by
  by_contra hopen
  have hsome := Option.ne_none_iff_isSome.mp hopen
  obtain ⟨i, hi, rfl⟩ := isFileId_iff.mp (ht.opened id hsome).1
  exact List.countP_eq_zero.mp hnone i (List.mem_range.mpr hi) hsome

/-- With a partition, the pool has an id for another file. -/
theorem IdsConserved.of_partition (ht : IdsTidy h) (hpart : IdsPartition h) : IdsConserved h := by
  refine ⟨hpart, fun hfew => ?_⟩
  obtain ⟨free, hrange, hnone⟩ := exists_notOpen hfew
  have hfree : free ∈ h.openFileIdPool := (hpart free hrange).mpr hnone
  exact Int32.not_lt.mp (ht.createNewSocket_neg.not.mpr (List.ne_nil_of_mem hfree))

/-- **Open file ids are conserved exactly as long as no open file is removed.** In the state a run
ends in, every id is either in the pool or in the table and a host with fewer than 256 open files
can create another, if and only if no step of the run was a `Close` of the last reference to a file
or an `Accept` that deleted its socket. -/
theorem ids_conserved (ip : String) (es : List Event) (h : Host)
    (hrun : run Host.step (Host.new ip) es = .ok h) :
    IdsConserved h ↔ ¬ Happens Host.step (fun h e => h.removes e) (Host.new ip) es := by
  have htidy : ∀ s e s', IdsTidy s → s.step e = .ok s' → IdsTidy s' :=
    fun s e s' ht he => ht.step he
  constructor
  · -- an id that is lost once is lost at the end
    intro hc hh
    have hlost : IdLost h := by
      refine run_of_happens_of_invariant Host.step htidy (fun s e s' ht he hrem => ?_)
        (fun s e s' ht hl he => ?_) (IdsTidy.new ip) hrun hh
      · obtain ⟨id, -, hr⟩ := IdRemoved.step hrem he
        exact hr.lost ht
      · cases hrem : s.removes e with
        | false => exact (IdsKept.step ht hrem he).lost hl
        | true =>
          obtain ⟨id, -, hr⟩ := IdRemoved.step hrem he
          exact hr.stays_lost hl
    obtain ⟨id, hrange, hout, hnone⟩ := hlost
    exact hout ((hc.partition id hrange).mpr hnone)
  · intro hno
    by_contra hc
    have hbad : ¬ (IdsTidy h ∧ IdsPartition h) := fun hp => hc (.of_partition hp.1 hp.2)
    have hnew : IdsTidy (Host.new ip) ∧ IdsPartition (Host.new ip) :=
      ⟨IdsTidy.new ip, fun id hrange => iff_of_true ((mem_openFileIdPool_new ip).mpr hrange) rfl⟩
    -- some step ended the partition, and it was a removal
    have hstep : ∀ s e s', s.step e = .ok s' → ¬ (IdsTidy s' ∧ IdsPartition s') →
        ¬ (IdsTidy s ∧ IdsPartition s) ∨ s.removes e := by
      intro s e s' he hbad
      cases hrem : s.removes e with
      | true => exact Or.inr rfl
      | false =>
        refine Or.inl fun hp => hbad ?_
        have hk := IdsKept.step hp.1 hrem he
        exact ⟨hk.tidy hp.1, hk.partition hp.2⟩
    rcases happens_of_run Host.step hstep hrun hbad with hbad | hh
    · exact hbad hnew
    · exact hno hh

end

section

open scoped Reference

/-- Opened and not closed. -/
theorem ids_conserved_opened : ∃ h, run Host.step (Host.new "10.0.0.2")
    [.createProcess "p", .socket "p", .socket "p"] = .ok h ∧ (h.openFilesTable 1).isSome ∧
      IdsConserved h := by
  have hrun : (run Host.step (Host.new "10.0.0.2")
      [.createProcess "p", .socket "p", .socket "p"]).map
      (fun h => (h.openFilesTable 1).isSome) = .ok true := by decide +kernel
  obtain ⟨h, hrun, hopen⟩ := map_eq_ok.mp hrun
  refine ⟨h, hrun, hopen, (ids_conserved _ _ h hrun).mpr ?_⟩
  simp [Happens, removes]

/-- A socket is opened and closed: its id is neither in the pool nor in the table. -/
theorem not_ids_conserved : ¬ ∀ (ip : String) (es : List Event) (h : Host),
    run Host.step (Host.new ip) es = .ok h → IdsConserved h := by
  intro hall
  have hrun : (run Host.step (Host.new "10.0.0.2")
      [.createProcess "p", .socket "p", .close "p" 3]).map
      (fun h => (decide (0 ∈ h.openFileIdPool), (h.openFilesTable 0).isSome)) =
      .ok (false, false) := by decide +kernel
  obtain ⟨h, hrun, hid⟩ := map_eq_ok.mp hrun
  obtain ⟨hpool, htable⟩ := Prod.mk.inj hid
  have hin := (hall _ _ h hrun).partition 0 (by decide)
  exact of_decide_eq_false hpool (hin.mpr (by simpa using htable))

end

end Host

end NetStack
