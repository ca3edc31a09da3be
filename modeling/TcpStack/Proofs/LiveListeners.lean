import TcpStack.Proofs.Listeners

/-!
# TcpStack — live listeners

Nothing ever takes an entry out of the map of listeners: neither the `Close` of the socket, nor
`Accept`, which deletes the socket it is called on when it finds no descriptor. So an entry may be
left without a socket, and a socket may find an entry with connections of another one.

* **`Listening.OnlyLive`** / **`Listening.AcceptsFresh`** — what listeners should do: a SYN is
  answered only for an open socket that listens, and `Accept` returns what has arrived after the
  `Listen`.
* **`Listening.KeepsListener`** / **`Listening.StartsEmpty`** — the steps that leave no entry
  without a socket, and let no socket find connections of another one.
* **`Listening.Inv`** — what is recorded fits the tables of the host in every run.
* **`only_live_listeners`** — the runs in which listeners do what they should are those of such
  steps.
-/

namespace NetStack

open Transition

section

variable [HyLib]

namespace Listening

variable {s s' : Listening} {e : Host.Event} {id : Int32} {key : LocalLayerThreeKey}

/-! ## What listeners should do -/

/-- Also in the middle of a batch, `HandleNewConnection` creates a connection only if an open socket
is bound to where the SYN goes to and has called `Listen`. -/
def OnlyLive (s : Listening) : Prop :=
  ∀ (n : ℕ) (newPackets : List Packet) (pkt : Packet),
    ((Host.demultiplexLoop n s.host newPackets).1.handleNewConnection pkt).1 = true →
      ∃ openFileId, (Host.demultiplexLoop n s.host newPackets).1.getSocketLocalBound openFileId =
          some ⟨pkt.ipHeader.sourceIp, pkt.tcpHeader.sourcePort.toUInt32.toInt32⟩ ∧
        (s.listenedAt openFileId).isSome

/-- `Accept` on a socket that has called `Listen` returns only connections whose SYN has arrived
after that. -/
def AcceptsFresh (s : Listening) : Prop :=
  ∀ (openFileId newOpenFileId : Int32) (key : LocalLayerThreeKey) (listened : ℕ) (h : Host),
    s.host.getSocketLocalBound openFileId = some key → s.listenedAt openFileId = some listened →
      s.host.socketAccept openFileId = some (newOpenFileId, h) →
        ∃ arrived, s.createdAt newOpenFileId = some arrived ∧ listened < arrived

/-- The step does not remove the last socket that listens to its end while there are ids for
connections to this end. -/
def KeepsListener (s : Listening) (e : Host.Event) : Prop :=
  ∀ (openFileId : Int32) (ip : String) (port : UInt16),
    s.host.removedFile e = some openFileId → s.host.openFileIdPool.nums ≠ [] →
      s.Listens openFileId ⟨ip, port.toUInt32.toInt32⟩ →
        ∃ other, other ≠ openFileId ∧ s.Listens other ⟨ip, port.toUInt32.toInt32⟩

/-- The step is not the first `Listen` of a socket whose end has connections queued. -/
def StartsEmpty (s : Listening) (e : Host.Event) : Prop :=
  ∀ openFileId ∈ s.host.listensOn e, s.listenedAt openFileId = none →
    ∀ key ∈ s.host.getSocketLocalBound openFileId, s.host.queueOf key = []

instance (s : Listening) (e : Host.Event) : Decidable (s.StartsEmpty e) :=
  -- not over all of `Int32`
  have := fun openFileId => Option.decidableForallMem
    (p := fun key => s.host.queueOf key = []) (s.host.getSocketLocalBound openFileId)
  Option.decidableForallMem (s.host.listensOn e)

/-! ## The record -/

/-- What is recorded fits the tables of the host. -/
structure Inv (s : Listening) : Prop where
  tidy : s.host.IdsTidy
  /-- What has called `Listen` is bound as long as it is open. -/
  bound : ∀ id, (s.listenedAt id).isSome →
    id ∉ s.host.openFileIdPool ∧ ∀ socket, s.host.getSocket id = some socket → socket.isBound = true
  entry : ∀ id key, s.Listens id key → (s.host.listeners key).isSome
  queued : ∀ key, ∀ x ∈ s.host.queueOf key, x ∉ s.host.openFileIdPool
  listenedBefore : ∀ id listened, s.listenedAt id = some listened → listened < s.now
  createdBefore : ∀ id created, s.createdAt id = some created → created < s.now

theorem Inv.new (ip : String) : Inv (Listening.new ip) where
  tidy := .new ip
  bound id hsome := by cases hsome
  entry id key hl := by cases hl.2
  queued key x hx := by cases hx
  listenedBefore id listened hl := by cases hl
  createdBefore id created hc := by cases hc

theorem record_listenedAt_of_none (hnone : s.host.listensOn e = none) (h : Host) :
    (s.record e h).listenedAt = s.listenedAt := by
  rw [record, hnone]

theorem record_listenedAt_of_some (hsome : s.host.listensOn e = some id) (h : Host) :
    (s.record e h).listenedAt = emplace s.listenedAt id s.now := by
  rw [record, hsome]

theorem record_createdAt_of_notMem (hout : id ∉ s.host.openFileIdPool) (h : Host) :
    (s.record e h).createdAt id = s.createdAt id :=
  if_neg fun htaken => hout htaken.1

theorem record_createdAt_of_taken {h : Host} (hin : id ∈ s.host.openFileIdPool)
    (hout : id ∉ h.openFileIdPool) : (s.record e h).createdAt id = some s.now :=
  if_pos ⟨hin, hout⟩

/-- A socket that has called `Listen` was bound to what it is bound to after the step. -/
theorem Inv.listens_of_serves {h : Host} (hi : Inv s) (hnone : s.host.listensOn e = none)
    (hs : s.host.Serves h) (hl : (s.record e h).Listens id key) : s.Listens id key := by
  obtain ⟨hb, hl⟩ := hl
  rw [record_listenedAt_of_none hnone] at hl
  obtain ⟨hout, hbound⟩ := hi.bound id hl
  exact ⟨hs.back hout hbound hb, hl⟩

/-- The times of the step, for both records. -/
theorem Inv.created_record (hi : Inv s) (h : Host) {created : ℕ}
    (hc : (s.record e h).createdAt id = some created) : created < s.now + 1 := by
  replace hc : (if id ∈ s.host.openFileIdPool ∧ id ∉ h.openFileIdPool then some s.now
    else s.createdAt id) = some created := hc
  split at hc
  · cases hc
    exact Nat.lt_succ_self _
  · exact (hi.createdBefore id created hc).trans (Nat.lt_succ_self _)

theorem Inv.serves {h : Host} (hi : Inv s) (ht : h.IdsTidy) (hnone : s.host.listensOn e = none)
    (hs : s.host.Serves h) : Inv (s.record e h) where
  tidy := ht
  bound id hsome := by
    rw [record_listenedAt_of_none hnone] at hsome
    obtain ⟨hout, hbound⟩ := hi.bound id hsome
    refine ⟨fun hin => hout (hs.pool id hin), fun socket' hsocket' => ?_⟩
    obtain ⟨socket, hsocket, hsame⟩ := hs.bound id socket' hout hsocket'
    have hbefore := hbound socket hsocket
    rw [Socket.isBound, hsame hbefore]
    exact hbefore
  entry id key hl := by
    show (h.listeners key).isSome
    rw [hs.keys]
    exact hi.entry id key (hi.listens_of_serves hnone hs hl)
  queued key x hx := by
    rcases hs.queue key x hx with hold | ⟨-, hout⟩
    · exact fun hin => hi.queued key x hold (hs.pool x hin)
    · exact hout
  listenedBefore id listened hl := by
    rw [record_listenedAt_of_none hnone] at hl
    exact (hi.listenedBefore id listened hl).trans (Nat.lt_succ_self _)
  createdBefore id created hc := hi.created_record h hc

/-- A `Listen` that returns true. -/
theorem listens_listen (hsome : s.host.listensOn e = some id) (id' : Int32)
    (key' : LocalLayerThreeKey) :
    (s.record e { s.host with listeners := emplace s.host.listeners key [] }).Listens id' key' ↔
      s.host.getSocketLocalBound id' = some key' ∧ (id' = id ∨ (s.listenedAt id').isSome) := by
  rw [Listens, record_listenedAt_of_some hsome, emplace_apply]
  show s.host.getSocketLocalBound id' = some key' ∧ _ ↔ _
  by_cases hid : id' = id
  · simp [hid]
  · simp [hid]

/-- A new entry has nothing queued. -/
theorem queueOf_listen (h : Host) (key key' : LocalLayerThreeKey) :
    { h with listeners := emplace h.listeners key [] }.queueOf key' = h.queueOf key' := by
  rw [Host.queueOf, Host.queueOf]
  show (emplace h.listeners key [] key').getD [] = _
  rw [emplace_apply]
  by_cases hkey : key' = key
  · rw [if_pos hkey, hkey, Option.getD_some]
  · rw [if_neg hkey]

theorem Inv.listen (hi : Inv s) (hsome : s.host.listensOn e = some id)
    (hb : s.host.getSocketLocalBound id = some key) :
    Inv (s.record e { s.host with listeners := emplace s.host.listeners key [] }) where
  tidy := ⟨hi.tidy.pool, hi.tidy.opened⟩
  bound id' hsome' := by
    rw [record_listenedAt_of_some hsome, emplace_apply] at hsome'
    by_cases hid : id' = id
    · obtain ⟨socket, hsocket, hbound, -⟩ := Host.getSocketLocalBound_eq_some.mp hb
      obtain ⟨file, hfile, -⟩ := Option.map_eq_some_iff.mp hsocket
      rw [hid]
      refine ⟨(hi.tidy.opened id (by rw [hfile]; rfl)).2, fun socket' hsocket' => ?_⟩
      replace hsocket' : s.host.getSocket id = some socket' := hsocket'
      cases hsocket.symm.trans hsocket'
      exact hbound
    · rw [if_neg hid] at hsome'
      exact hi.bound id' hsome'
  entry id' key' hl := by
    obtain ⟨hb', hor⟩ := (listens_listen hsome id' key').mp hl
    show (emplace s.host.listeners key [] key').isSome
    rw [emplace_apply]
    split
    · rfl
    · next hkey =>
      rcases hor with rfl | hl
      · -- the socket is bound to one end only
        cases hb.symm.trans hb'
        exact absurd rfl hkey
      · exact hi.entry id' key' ⟨hb', hl⟩
  queued key' x hx := by
    have hold : x ∈ s.host.queueOf key' := queueOf_listen s.host key key' ▸ hx
    exact hi.queued key' x hold
  listenedBefore id' listened hl := by
    rw [record_listenedAt_of_some hsome, emplace_apply] at hl
    by_cases hid : id' = id
    · rw [if_pos hid] at hl
      cases hold : s.listenedAt id with
      | none =>
        rw [hold] at hl
        cases hl
        exact Nat.lt_succ_self _
      | some listened' =>
        rw [hold] at hl
        cases hl
        exact (hi.listenedBefore id _ hold).trans (Nat.lt_succ_self _)
    · rw [if_neg hid] at hl
      exact (hi.listenedBefore id' listened hl).trans (Nat.lt_succ_self _)
  createdBefore id' created hc := hi.created_record _ hc

theorem Inv.step (hi : Inv s) (he : s.step e = .ok s') : Inv s' := by
  obtain ⟨h, hstep, rfl⟩ := map_eq_ok.mp he
  rcases Host.step_listeners hstep with ⟨hnone, hs⟩ | ⟨id, key, hsome, hb, rfl⟩
  · exact hi.serves (hi.tidy.step hstep) hnone hs
  · exact hi.listen hsome hb

/-! ## Entries with a socket -/

/-- Every entry a SYN may be for has a socket that listens, while there are ids for connections. -/
def Live (s : Listening) : Prop :=
  ∀ (ip : String) (port : UInt16), (s.host.listeners ⟨ip, port.toUInt32.toInt32⟩).isSome →
    s.host.openFileIdPool.nums ≠ [] →
      ∃ openFileId, s.Listens openFileId ⟨ip, port.toUInt32.toInt32⟩

/-- A socket that is still open listens to what it listened to. -/
theorem Inv.listens_record {h : Host} (hi : Inv s) (hnone : s.host.listensOn e = none)
    (hs : s.host.Serves h) (hopen : (h.openFilesTable id).isSome) (hl : s.Listens id key) :
    (s.record e h).Listens id key := by
  refine ⟨hs.stays hi.tidy hopen hl.1, ?_⟩
  rw [record_listenedAt_of_none hnone]
  exact hl.2

/-- Listeners answer for open sockets only, exactly if there is one for every entry. -/
theorem Inv.onlyLive_iff (hi : Inv s) : s.OnlyLive ↔ s.Live := by
  constructor
  · intro honly ip port hentry hpool
    -- a SYN that arrives now
    have hnew := honly 0 [] { ipHeader := { sourceIp := ip }
                              tcpHeader := { sourcePort := port, sync := true } }
    refine hnew (Host.handleNewConnection_fst.mpr ⟨rfl, hentry, ?_⟩)
    exact (hi.tidy.createNewSocket_neg).not.mpr hpool
  · intro hlive n pkts pkt hnew
    have hs := Host.Serves.demultiplexLoop n s.host pkts
    have hk := Host.IdsKept.demultiplexLoop n pkts hi.tidy
    obtain ⟨-, hentry, hpos⟩ := Host.handleNewConnection_fst.mp hnew
    have hpool := hs.pool_ne_nil ((hk.tidy hi.tidy).createNewSocket_neg.not.mp hpos)
    rw [hs.keys] at hentry
    obtain ⟨id, hb, hl⟩ := hlive _ _ hentry hpool
    refine ⟨id, hs.stays hi.tidy ?_ hb, hl⟩
    exact (hk.opened id).mpr (Or.inl (Host.openFile_of_bound hb))

theorem Live.step (hi : Inv s) (hlive : s.Live) (hkeeps : s.KeepsListener e)
    (he : s.step e = .ok s') : s'.Live := by
  obtain ⟨h, hstep, rfl⟩ := map_eq_ok.mp he
  rcases Host.step_listeners hstep with ⟨hnone, hs⟩ | ⟨id, key, hsome, hb, rfl⟩
  · intro ip port hentry hpool
    replace hentry : (h.listeners ⟨ip, port.toUInt32.toInt32⟩).isSome := hentry
    rw [hs.keys] at hentry
    have hpool := hs.pool_ne_nil hpool
    obtain ⟨id, hl⟩ := hlive ip port hentry hpool
    have hopen := Host.openFile_of_bound hl.1
    rcases Host.step_removedFile hi.tidy hstep with ⟨-, hk⟩ | ⟨removed, hremoved, hr⟩
    · exact ⟨id, hi.listens_record hnone hs ((hk.opened id).mpr (Or.inl hopen)) hl⟩
    · by_cases hid : id = removed
      · -- another socket is left
        subst hid
        obtain ⟨other, hother, hl'⟩ := hkeeps id ip port hremoved hpool hl
        have hopen' := (hr.opened other).mpr ⟨Host.openFile_of_bound hl'.1, hother⟩
        exact ⟨other, hi.listens_record hnone hs hopen' hl'⟩
      · exact ⟨id, hi.listens_record hnone hs ((hr.opened id).mpr ⟨hopen, hid⟩) hl⟩
  · intro ip port hentry hpool
    replace hentry : (emplace s.host.listeners key [] ⟨ip, port.toUInt32.toInt32⟩).isSome := hentry
    rw [emplace_apply] at hentry
    split at hentry
    · next hkey =>
      -- the socket that calls
      exact ⟨id, (listens_listen hsome id _).mpr ⟨hkey ▸ hb, Or.inl rfl⟩⟩
    · obtain ⟨id', hb', hl'⟩ := hlive ip port hentry hpool
      exact ⟨id', (listens_listen hsome id' _).mpr ⟨hb', Or.inr hl'⟩⟩

/-- A step after which every entry has a socket did not remove the last one. -/
theorem Inv.keepsListener (hi : Inv s) (he : s.step e = .ok s') (hlive : s'.Live) :
    s.KeepsListener e := by
  obtain ⟨h, hstep, rfl⟩ := map_eq_ok.mp he
  intro id ip port hremoved hpool hl
  rcases Host.step_removedFile hi.tidy hstep with ⟨hnone, -⟩ | ⟨id', hremoved', hr⟩
  · rw [hnone] at hremoved
    cases hremoved
  cases hremoved.symm.trans hremoved'
  rcases Host.step_listeners hstep with ⟨hnone, hs⟩ | ⟨id', key, hsome, hb, rfl⟩
  · have hentry : (h.listeners ⟨ip, port.toUInt32.toInt32⟩).isSome := by
      rw [hs.keys]
      exact hi.entry id _ hl
    obtain ⟨other, hl'⟩ := hlive ip port hentry (by show h.openFileIdPool.nums ≠ []; rwa [hr.pool])
    refine ⟨other, ?_, hi.listens_of_serves hnone hs hl'⟩
    exact ((hr.opened other).mp (Host.openFile_of_bound hl'.1)).2
  · -- `Listen` removes nothing
    exact absurd rfl ((hr.opened id).mp hr.before).2

/-! ## What is queued -/

/-- What is queued for a socket has arrived after its `Listen`. -/
def Late (s : Listening) : Prop :=
  ∀ (openFileId x : Int32) (key : LocalLayerThreeKey) (listened : ℕ),
    s.host.getSocketLocalBound openFileId = some key → s.listenedAt openFileId = some listened →
      x ∈ s.host.queueOf key → ∃ arrived, s.createdAt x = some arrived ∧ listened < arrived

/-- `Accept` returns what is queued. -/
theorem Inv.acceptsFresh (hi : Inv s) (hlate : s.Late) : s.AcceptsFresh := by
  intro id new key listened h hb hl haccept
  obtain ⟨queue, hentry⟩ := Option.isSome_iff_exists.mp (hi.entry id key ⟨hb, by rw [hl]; rfl⟩)
  rw [Host.socketAccept, hb] at haccept
  dsimp only at haccept
  rw [hentry] at haccept
  cases queue with
  | nil => cases haccept
  | cons x rest =>
    cases haccept
    refine hlate id new key listened hb hl ?_
    rw [Host.queueOf, hentry]
    exact List.mem_cons_self ..

theorem Late.step (hi : Inv s) (hlate : s.Late) (hempty : s.StartsEmpty e)
    (he : s.step e = .ok s') : s'.Late := by
  obtain ⟨h, hstep, rfl⟩ := map_eq_ok.mp he
  rcases Host.step_listeners hstep with ⟨hnone, hs⟩ | ⟨id, key, hsome, hb, rfl⟩
  · intro id x key listened hb hl hx
    obtain ⟨hb', -⟩ := hi.listens_of_serves hnone hs ⟨hb, by rw [hl]; rfl⟩
    rw [record_listenedAt_of_none hnone] at hl
    rcases hs.queue key x hx with hold | ⟨hin, hout⟩
    · rw [record_createdAt_of_notMem (hi.queued key x hold)]
      exact hlate id x key listened hb' hl hold
    · -- the connection arrives with this step
      exact ⟨s.now, record_createdAt_of_taken hin hout, hi.listenedBefore id listened hl⟩
  · intro id' x key' listened hb' hl hx
    replace hb' : s.host.getSocketLocalBound id' = some key' := hb'
    replace hx : x ∈ s.host.queueOf key' := queueOf_listen s.host key key' ▸ hx
    rw [record_createdAt_of_notMem (hi.queued key' x hx)]
    refine hlate id' x key' listened hb' ?_ hx
    rw [record_listenedAt_of_some hsome, emplace_apply] at hl
    by_cases hid : id' = id
    · subst hid
      rw [if_pos rfl] at hl
      cases hold : s.listenedAt id' with
      | none =>
        -- it listens now for the first time, and finds nothing queued
        have hnil := hempty id' hsome hold key' hb'
        rw [hnil] at hx
        cases hx
      | some listened' =>
        rw [hold] at hl
        exact hl
    · rwa [if_neg hid] at hl

/-- A step after which `Accept` returns only what has arrived after the `Listen` found nothing
queued. -/
theorem Inv.startsEmpty (hi : Inv s) (he : s.step e = .ok s') (hfresh : s'.AcceptsFresh) :
    s.StartsEmpty e := by
  obtain ⟨h, hstep, rfl⟩ := map_eq_ok.mp he
  intro id hid hfirst key hkey
  rcases Host.step_listeners hstep with ⟨hnone, -⟩ | ⟨id', key', hsome, hb, rfl⟩
  · rw [hnone] at hid
    cases hid
  cases hsome.symm.trans hid
  cases hb.symm.trans hkey
  cases hqueue : s.host.queueOf key with
  | nil => rfl
  | cons x rest =>
    exfalso
    -- `Accept` would return the front of the queue, which is older
    have hb' : Host.getSocketLocalBound
        { s.host with listeners := emplace s.host.listeners key [] } id = some key := hb
    obtain ⟨h, haccept⟩ := Host.socketAccept_of_queueOf hb'
      ((queueOf_listen s.host key key).trans hqueue)
    have hlistened : (s.record e
        { s.host with listeners := emplace s.host.listeners key [] }).listenedAt id =
        some s.now := by
      rw [record_listenedAt_of_some hsome, emplace_apply, if_pos rfl, hfirst, Option.getD_none]
    obtain ⟨arrived, harrived, hlt⟩ := hfresh id x key s.now h hb hlistened haccept
    have := hi.created_record _ harrived
    omega

/-! ## Runs -/

/-- The record changes no step of the host. -/
theorem map_step (s : Listening) (e : Host.Event) : (s.step e).map host = s.host.step e := by
  rw [step]
  cases s.host.step e with
  | error f => rfl
  | ok h => rfl

theorem Inv.run {ip : String} {es : List Host.Event}
    (hr : Transition.run Listening.step (Listening.new ip) es = .ok s) : Inv s :=
  run_induction Listening.step (fun _ _ _ hi he => hi.step he) (.new ip) hr

theorem Live.new (ip : String) : (Listening.new ip).Live := by
  intro ip' port hentry
  cases hentry

theorem Late.new (ip : String) : (Listening.new ip).Late := by
  intro id x key listened hb hl
  cases hl

end Listening

/-- **Only live listeners accept connections.** In all states of a run of a host, a SYN is answered
only for an open socket that is bound to where it goes to and has called `Listen`, and `Accept`
returns only connections whose SYN has arrived after the `Listen` of its socket, exactly if no step
removes the last socket that listens to an end while open file ids are left, and no socket finds
connections queued when it first calls `Listen`. -/
theorem only_live_listeners (ip : String) (es : List Host.Event) (h : Host)
    (hrun : run Host.step (Host.new ip) es = .ok h) :
    (∀ pre s, pre <+: es → run Listening.step (Listening.new ip) pre = .ok s →
      s.OnlyLive ∧ s.AcceptsFresh) ↔
    Meets Listening.step (fun s e => s.KeepsListener e ∧ s.StartsEmpty e) (Listening.new ip) es := by
  constructor
  · intro hall
    obtain ⟨last, hlast, -⟩ := map_eq_ok.mp ((map_run Host.step Listening.map_step
      (Listening.new ip) es).trans hrun)
    refine meets_of_forall_prefix Listening.step fun pre e s hpre hs => ?_
    obtain ⟨s', he, hs'⟩ := step_of_run_prefix Listening.step hlast hpre hs
    have hi := Listening.Inv.run hs
    obtain ⟨honly, hfresh⟩ := hall (pre ++ [e]) s' hpre hs'
    exact ⟨hi.keepsListener he ((hi.step he).onlyLive_iff.mp honly), hi.startsEmpty he hfresh⟩
  · intro hm pre s hpre hs
    obtain ⟨rest, rfl⟩ := hpre
    have hinv : s.Inv ∧ s.Live ∧ s.Late :=
      run_induction_of_meets Listening.step (P := fun s => s.Inv ∧ s.Live ∧ s.Late)
        (fun s e s' hP hc he => ⟨hP.1.step he, hP.2.1.step hP.1 hc.1 he, hP.2.2.step hP.1 hc.2 he⟩)
        ⟨.new ip, .new ip, .new ip⟩ (hm.of_append Listening.step) hs
    obtain ⟨hi, hlive, hlate⟩ := hinv
    exact ⟨hi.onlyLive_iff.mpr hlive, hi.acceptsFresh hlate⟩

/-- A step that removes no open file leaves every entry its sockets. -/
theorem Listening.keepsListener_of_not_removes {s : Listening} {e : Host.Event}
    (hno : s.host.removes e = false) : s.KeepsListener e := by
  intro id ip port hremoved
  rw [Host.removedFile, hno] at hremoved
  cases hremoved

end

section

open scoped Reference

/-- A server that listens, gets a SYN and accepts the connection. -/
def servingRun : List Host.Event :=
  [.createProcess "server", .socket "server", .bind "server" 3 "10.0.0.2" 90, .listen "server" 3,
    .receive [Host.synPkt], .accept "server" 3]

theorem only_live_listeners_serving :
    ∃ h, run Host.step (Host.new "10.0.0.2") servingRun = .ok h ∧ h.fileOf "server" 4 = some 1 ∧
      ∀ pre s, pre <+: servingRun → run Listening.step (Listening.new "10.0.0.2") pre = .ok s →
        s.OnlyLive ∧ s.AcceptsFresh := by
  have hrun : (run Host.step (Host.new "10.0.0.2") servingRun).map
      (fun h => h.fileOf "server" 4) = .ok (some 1) := by decide +kernel
  obtain ⟨h, hrun, hfd⟩ := map_eq_ok.mp hrun
  refine ⟨h, hrun, hfd, (only_live_listeners "10.0.0.2" servingRun h hrun).mpr ?_⟩
  have hmeets : Meets Listening.step (fun s e => s.host.removes e = false ∧ s.StartsEmpty e)
      (Listening.new "10.0.0.2") servingRun := by decide +kernel
  exact hmeets.imp_of_invariant Listening.step (P := fun _ => True) (fun _ _ _ _ _ _ _ => trivial)
    (fun s e _ hc => ⟨Listening.keepsListener_of_not_removes hc.1, hc.2⟩) trivial

/-- A server that listens and closes its socket. -/
def closedRun : List Host.Event :=
  [.createProcess "server", .socket "server", .bind "server" 3 "10.0.0.2" 90, .listen "server" 3,
    .close "server" 3]

/-- A SYN arrives, and then the server listens to the same end again. -/
def reopenedRun : List Host.Event :=
  closedRun ++ [.receive [Host.synPkt], .socket "server", .bind "server" 3 "10.0.0.2" 90,
    .listen "server" 3]

/-- After the `Close` no file is open, and a SYN is answered. After the second `Listen` (step 8)
`Accept` returns the connection of the SYN, which came before it (step 5). -/
theorem not_only_live_listeners :
    (∃ s, run Listening.step (Listening.new "10.0.0.2") closedRun = .ok s ∧ ¬ s.OnlyLive) ∧
      ∃ s, run Listening.step (Listening.new "10.0.0.2") reopenedRun = .ok s ∧
        ¬ s.AcceptsFresh := by
  constructor
  · have hrun : (run Listening.step (Listening.new "10.0.0.2") closedRun).map
        (fun s => (s.host.openFiles, (s.host.handleNewConnection Host.synPkt).1)) =
        .ok (0, true) := by decide +kernel
    obtain ⟨s, hrun, hs⟩ := map_eq_ok.mp hrun
    obtain ⟨hfiles, hnew⟩ := Prod.mk.inj hs
    refine ⟨s, hrun, fun honly => ?_⟩
    obtain ⟨id, hb, -⟩ := honly 0 [] Host.synPkt hnew
    have hopen := Host.openFile_of_bound hb
    rw [Host.demultiplexLoop, (Listening.Inv.run hrun).tidy.notOpen hfiles id] at hopen
    cases hopen
  · have hrun : (run Listening.step (Listening.new "10.0.0.2") reopenedRun).map
        (fun s => (s.host.getSocketLocalBound 2, s.listenedAt 2,
          (s.host.socketAccept 2).map Prod.fst, s.createdAt 1)) =
        .ok (some ⟨"10.0.0.2", 90⟩, some 8, some 1, some 5) := by decide +kernel
    obtain ⟨s, hrun, hs⟩ := map_eq_ok.mp hrun
    simp only [Prod.mk.injEq, Option.map_eq_some_iff] at hs
    obtain ⟨hb, hl, ⟨⟨new, h⟩, haccept, rfl : new = 1⟩, hc⟩ := hs
    refine ⟨s, hrun, fun hfresh => ?_⟩
    obtain ⟨arrived, harrived, hlt⟩ := hfresh 2 1 _ 8 h hb hl haccept
    rw [hc] at harrived
    cases harrived
    exact absurd hlt (by decide)

end

end NetStack
