import TcpStack.Model.Host

/-!
# TcpStack — what happens to a batch of received packets

`Host.handleEach` says what demultiplexing is for: every packet of a batch is handled once, in
order. `Host::DemultiplexPacketsToTcps` does that exactly when every packet of the batch
belongs to a connection that exists (`handles_each_once`):

* a packet that is rejected is not taken from the queue, so that the loop comes back to it and
  the packets behind it are not handled (**`demultiplexLoop_reject`**);
* a SYN that opens a connection is delivered to it twice (**`handleNewConnection_accept`**).
-/

namespace NetStack

open Transition

namespace Host

section

variable [HyLib]

/-! ## One packet at a time -/

/-- Set the receive queue of a connection. -/
def setRecvBuffer (h : Host) (key : TcpControllerKey) (pkts : List Packet) : Host :=
  match h.connections key with
  | none => h
  | some c => h.setCon key { c with con := { c.con with pktRecvBuffer := pkts } }

/-- What is to be done with one packet: a connection gets it, or it is a SYN to a listening
key and opens a connection that has it in its queue once, or it is dropped and answered with
one RST, unless it is an RST. -/
def handleOne (h : Host) (pkt : Packet) : Host :=
  if (h.connections pkt.tcpKey).isSome then h.receiveNewPacket pkt.tcpKey pkt
  else
    match h.handleNewConnection pkt with
    | (true, h) => h.setRecvBuffer pkt.tcpKey [pkt]
    | (false, h) => if pkt.tcpHeader.rst then h else h.sendBackRST pkt.tcpKey

/-- All packets of a batch, one at a time in order. -/
def handleEach (h : Host) (pkts : List Packet) : Host := pkts.foldl handleOne h

theorem handleEach_cons (h : Host) (pkt : Packet) (pkts : List Packet) :
    h.handleEach (pkt :: pkts) = (h.handleOne pkt).handleEach pkts := rfl

theorem handleEach_append (h : Host) (xs ys : List Packet) :
    h.handleEach (xs ++ ys) = (h.handleEach xs).handleEach ys := List.foldl_append

/-- Demultiplexing a batch handles every packet once, leaves the queue empty and does not
depend on how the packets are split into batches. -/
def HandledOnce (h : Host) (pkts : List Packet) : Prop :=
  h.demultiplexPacketsToTcps pkts = (h.handleEach pkts, []) ∧
    ∀ xs ys, pkts = xs ++ ys →
      h.demultiplexPacketsToTcps pkts = (h.demultiplexPacketsToTcps xs).1.demultiplexPacketsToTcps ys

/-! ## The queue of a connection -/

/-- The number of packets a connection has to handle. -/
def queueLen (h : Host) (key : TcpControllerKey) : ℕ :=
  match h.connections key with
  | none => 0
  | some c => c.con.pktRecvBuffer.length

variable {h h' : Host} {key key' : TcpControllerKey} {pkt : Packet} {pkts : List Packet}

@[simp] theorem modifySocket_connections (h : Host) (id : Int32) (f : Socket → Socket) :
    (h.modifySocket id f).connections = h.connections := rfl

@[simp] theorem sendBackRST_connections (h : Host) (key : TcpControllerKey) :
    (h.sendBackRST key).connections = h.connections := rfl

@[simp] theorem attach_connections (h : Host) (id : Int32) (key : TcpControllerKey) :
    (h.attach id key).connections = h.connections := by
  rw [attach]
  split
  · rfl
  · rfl

@[simp] theorem createNewSocket_connections (h : Host) :
    h.createNewSocket.2.connections = h.connections := by
  simp only [createNewSocket]
  split
  · rfl
  · rfl

theorem receiveNewPacket_of_some {c : Connection} (hc : h.connections key = some c)
    (pkt : Packet) :
    h.receiveNewPacket key pkt = h.setCon key { c with con := c.con.receiveNewPacket pkt } := by
  rw [receiveNewPacket, hc]

theorem setCon_connections_self (h : Host) (key : TcpControllerKey) (c : Connection) :
    (h.setCon key c).connections key = some c := Function.update_self ..

theorem setCon_connections_of_ne (h : Host) (c : Connection) (hne : key' ≠ key) :
    (h.setCon key c).connections key' = h.connections key' := Function.update_of_ne hne ..

/-- A packet makes the queue of its connection longer by one. -/
theorem queueLen_receiveNewPacket_self (hsome : (h.connections key).isSome) (pkt : Packet) :
    (h.receiveNewPacket key pkt).queueLen key = h.queueLen key + 1 := by
  obtain ⟨c, hc⟩ := Option.isSome_iff_exists.mp hsome
  rw [receiveNewPacket_of_some hc, queueLen, setCon_connections_self, queueLen, hc]
  simp [TcpController.receiveNewPacket]

/-- A packet does not touch other connections. -/
theorem receiveNewPacket_connections_of_ne (hne : key' ≠ key) (pkt : Packet) :
    (h.receiveNewPacket key pkt).connections key' = h.connections key' := by
  rw [receiveNewPacket]
  split
  · rfl
  · exact setCon_connections_of_ne _ _ hne

theorem receiveNewPacket_isSome :
    ((h.receiveNewPacket key pkt).connections key').isSome = (h.connections key').isSome := by
  by_cases hne : key' = key
  · subst hne
    rw [receiveNewPacket]
    split
    · rfl
    · rename_i c hc
      rw [setCon_connections_self, hc]
      rfl
  · rw [receiveNewPacket_connections_of_ne hne]

theorem emplaceConnection_connections_of_ne (hne : key' ≠ key) (socket : Int32)
    (options : TcpControllerOptions) :
    (h.emplaceConnection key socket options).2.connections key' = h.connections key' := by
  rw [emplaceConnection]
  split
  · rfl
  · exact Function.update_of_ne hne ..

theorem emplaceConnection_connections_self (hnone : h.connections key = none) (socket : Int32)
    (options : TcpControllerOptions) : (h.emplaceConnection key socket options).2.connections key =
      some { con := TcpController.new key options, socket, serial := h.constructed } := by
  rw [emplaceConnection, hnone]
  exact Function.update_self ..

/-- A new connection does not touch the others. -/
theorem handleNewConnection_connections_of_ne (hne : key ≠ pkt.tcpKey) :
    (h.handleNewConnection pkt).2.connections key = h.connections key := by
  rw [handleNewConnection]
  split
  · rfl
  simp only
  split
  · rfl
  · split
    · simp
    · rw [receiveNewPacket_connections_of_ne hne, attach_connections,
        emplaceConnection_connections_of_ne hne, createNewSocket_connections]

/-- **A SYN that opens a connection** is in its queue, as a copy, before the packet itself is
delivered. -/
theorem handleNewConnection_accept (hnone : h.connections pkt.tcpKey = none)
    (haccept : h.handleNewConnection pkt = (true, h')) :
    (h'.connections pkt.tcpKey).isSome ∧ h'.queueLen pkt.tcpKey = 1 := by
  rw [handleNewConnection] at haccept
  split at haccept
  · cases haccept
  simp only at haccept
  split at haccept
  · cases haccept
  · split at haccept
    · cases haccept
    · obtain ⟨-, rfl⟩ := Prod.mk.inj haccept
      have hfresh : h.createNewSocket.2.connections pkt.tcpKey = none := by
        rw [createNewSocket_connections, hnone]
      have hnew := emplaceConnection_connections_self hfresh h.createNewSocket.1 (acceptOptions pkt)
      rw [← attach_connections _ h.createNewSocket.1 pkt.tcpKey] at hnew
      constructor
      · simp only [receiveNewPacket_isSome, hnew, Option.isSome_some]
      · rw [queueLen, receiveNewPacket_of_some hnew]
        simp only [setCon_connections_self]
        rfl

/-! ## The loop -/

/-- An iteration takes at most one packet from the queue. -/
theorem length_le_demultiplexLoop (n : ℕ) (h : Host) (pkts : List Packet) :
    pkts.length ≤ (demultiplexLoop n h pkts).2.length + n := by
  induction n generalizing h pkts with
  | zero => exact le_rfl
  | succ n ih =>
    cases pkts with
    | nil => exact Nat.zero_le _
    | cons pkt rest =>
      rw [demultiplexLoop]
      split
      · have := ih (h.receiveNewPacket pkt.tcpKey pkt) rest
        rw [List.length_cons]
        omega
      · split
        · rename_i h' _
          have := ih (h'.receiveNewPacket pkt.tcpKey pkt) rest
          rw [List.length_cons]
          omega
        · rename_i h' _
          have := ih (if pkt.tcpHeader.rst then h' else h'.sendBackRST pkt.tcpKey) (pkt :: rest)
          omega

/-- **A packet that is rejected** costs an iteration and stays in the queue, so the queue is
not empty at the end. -/
theorem demultiplexLoop_reject {n : ℕ} {rest : List Packet} (hn : n ≤ rest.length)
    (hnone : h.connections pkt.tcpKey = none)
    (hreject : h.handleNewConnection pkt = (false, h')) :
    (demultiplexLoop (n + 1) h (pkt :: rest)).2 ≠ [] := by
  rw [demultiplexLoop, if_neg (by simp [hnone]), hreject]
  intro hempty
  have hle := length_le_demultiplexLoop n
    (if pkt.tcpHeader.rst then h' else h'.sendBackRST pkt.tcpKey) (pkt :: rest)
  simp only at hempty
  rw [hempty, List.length_cons, List.length_nil] at hle
  omega

/-- Packets of connections that exist are handled one after the other. Induction on the
packets; a delivery does not change which connections exist. -/
theorem demultiplexLoop_deliver (n : ℕ) (rest : List Packet)
    (hsome : ∀ pkt ∈ pkts, (h.connections pkt.tcpKey).isSome) :
    demultiplexLoop (pkts.length + n) h (pkts ++ rest) =
        demultiplexLoop n (h.handleEach pkts) rest ∧
      ∀ key, ((h.handleEach pkts).connections key).isSome = (h.connections key).isSome := by
  induction pkts generalizing h with
  | nil => exact ⟨by rw [List.length_nil, Nat.zero_add]; rfl, fun _ => rfl⟩
  | cons pkt pkts ih =>
    have hpkt := hsome pkt (by simp)
    have hone : h.handleOne pkt = h.receiveNewPacket pkt.tcpKey pkt := by
      rw [handleOne, if_pos hpkt]
    obtain ⟨hloop, hkeys⟩ := @ih (h.receiveNewPacket pkt.tcpKey pkt) fun q hq => by
      rw [receiveNewPacket_isSome]
      exact hsome q (by simp [hq])
    constructor
    · rw [List.length_cons, Nat.add_right_comm, List.cons_append, demultiplexLoop, if_pos hpkt,
        hloop, handleEach_cons, hone]
    · intro key
      rw [handleEach_cons, hone]
      exact (hkeys key).trans receiveNewPacket_isSome

/-- The whole batch. -/
theorem demultiplex_of_isSome (hsome : ∀ pkt ∈ pkts, (h.connections pkt.tcpKey).isSome) :
    h.demultiplexPacketsToTcps pkts = (h.handleEach pkts, []) := by
  have hloop := (demultiplexLoop_deliver 0 [] hsome).1
  rw [List.append_nil] at hloop
  rw [demultiplexPacketsToTcps]
  exact hloop

/-! ## Counting the packets of a connection -/

/-- Where every packet is taken from the queue, a connection that exists gets its packets. -/
theorem queueLen_demultiplexLoop (hsome : (h.connections key).isSome)
    (hempty : (demultiplexLoop pkts.length h pkts).2 = []) :
    (demultiplexLoop pkts.length h pkts).1.queueLen key =
      h.queueLen key + pkts.countP (fun pkt => pkt.tcpKey = key) := by
  induction pkts generalizing h with
  | nil => rfl
  | cons pkt rest ih =>
    rw [List.length_cons, demultiplexLoop] at hempty ⊢
    by_cases hkey : pkt.tcpKey = key
    · -- a packet of this connection
      subst hkey
      rw [if_pos hsome] at hempty ⊢
      rw [ih (by rwa [receiveNewPacket_isSome]) hempty, queueLen_receiveNewPacket_self hsome,
        List.countP_cons_of_pos (by simp)]
      omega
    · rw [List.countP_cons_of_neg (by simpa using hkey)]
      have hother : ∀ {h' : Host}, h'.connections key = h.connections key →
          ((h'.receiveNewPacket pkt.tcpKey pkt).connections key).isSome ∧
            (h'.receiveNewPacket pkt.tcpKey pkt).queueLen key = h.queueLen key := by
        intro h' heq
        have hsame := receiveNewPacket_connections_of_ne (h := h') (Ne.symm hkey) pkt
        rw [queueLen, queueLen, hsame, heq]
        exact ⟨hsome, rfl⟩
      split at hempty
      · rename_i hex
        rw [if_pos hex]
        rw [ih (hother rfl).1 hempty, (hother rfl).2]
      · rename_i hex
        rw [if_neg hex]
        split at hempty
        · rename_i h' hnew
          have heq : h'.connections key = h.connections key := by
            have := handleNewConnection_connections_of_ne (h := h) (Ne.symm hkey)
            rwa [hnew] at this
          rw [ih (hother heq).1 hempty, (hother heq).2]
        · rename_i h' hnew
          -- a rejected packet would still be in the queue
          have hnone : h.connections pkt.tcpKey = none := by simpa using hex
          have hstays := demultiplexLoop_reject (le_refl rest.length) hnone hnew
          rw [demultiplexLoop, if_neg hex, hnew] at hstays
          exact absurd hempty hstays

/-- Handled one at a time, a connection that exists gets its packets. -/
theorem queueLen_handleEach (hsome : (h.connections key).isSome) :
    (h.handleEach pkts).queueLen key =
      h.queueLen key + pkts.countP (fun pkt => pkt.tcpKey = key) := by
  induction pkts generalizing h with
  | nil => rfl
  | cons pkt rest ih =>
    rw [handleEach_cons, handleOne]
    by_cases hkey : pkt.tcpKey = key
    · subst hkey
      rw [if_pos hsome, ih (by rwa [receiveNewPacket_isSome]),
        queueLen_receiveNewPacket_self hsome, List.countP_cons_of_pos (by simp)]
      omega
    · rw [List.countP_cons_of_neg (by simpa using hkey)]
      have hother : ∀ {h' : Host}, h'.connections key = h.connections key →
          (h'.handleEach rest).queueLen key =
            h.queueLen key + rest.countP (fun pkt => pkt.tcpKey = key) := by
        intro h' heq
        rw [ih (by rwa [heq]), queueLen, heq, ← queueLen]
      have hnew := handleNewConnection_connections_of_ne (h := h) (Ne.symm hkey)
      split
      · exact hother (receiveNewPacket_connections_of_ne (Ne.symm hkey) pkt)
      · split
        · rename_i h' heq
          rw [heq] at hnew
          refine hother (Eq.trans ?_ hnew)
          rw [setRecvBuffer]
          split
          · rfl
          · exact setCon_connections_of_ne _ _ (Ne.symm hkey)
        · rename_i h' heq
          rw [heq] at hnew
          refine hother (Eq.trans ?_ hnew)
          split
          · rfl
          · rfl

/-! ## The result -/

/-- **Demultiplexing handles every packet of a batch exactly once if and only if all of them
belong to connections that exist.** Otherwise the first one that does not is either left in
the queue or delivered twice. -/
theorem handles_each_once (h : Host) (pkts : List Packet) :
    h.HandledOnce pkts ↔ ∀ pkt ∈ pkts, (h.connections pkt.tcpKey).isSome := by
  constructor
  · intro honce
    by_contra hnot
    -- the first packet without a connection
    obtain ⟨pre, pkt, post, rfl, hpre, hpkt⟩ : ∃ pre pkt post, pkts = pre ++ pkt :: post ∧
        (∀ q ∈ pre, (h.connections q.tcpKey).isSome) ∧ ¬ (h.connections pkt.tcpKey).isSome := by
      have hne : pkts.dropWhile (fun q => (h.connections q.tcpKey).isSome) ≠ [] := fun hnil =>
        hnot fun q hq => List.dropWhile_eq_nil_iff.mp hnil q hq
      obtain ⟨pkt, post, hdrop⟩ := List.exists_cons_of_ne_nil hne
      refine ⟨pkts.takeWhile fun q => (h.connections q.tcpKey).isSome, pkt, post, ?_,
        fun q hq => List.mem_takeWhile_imp (p := fun q : Packet => (h.connections q.tcpKey).isSome)
          hq, ?_⟩
      · rw [← hdrop, List.takeWhile_append_dropWhile]
      · have hhead := List.head_dropWhile_not
          (fun q : Packet => (h.connections q.tcpKey).isSome) hne
        simpa [hdrop] using hhead
    have hresult := honce.1
    obtain ⟨hloop, hkeys⟩ := demultiplexLoop_deliver (post.length + 1) (pkt :: post) hpre
    rw [demultiplexPacketsToTcps, List.length_append, List.length_cons, hloop, handleEach_append,
      handleEach_cons] at hresult
    have hnone : (h.handleEach pre).connections pkt.tcpKey = none := by
      have := hkeys pkt.tcpKey
      rw [Bool.not_eq_true] at hpkt
      rw [hpkt] at this
      simpa using this
    generalize h.handleEach pre = h₁ at hresult hnone
    cases hnew : h₁.handleNewConnection pkt with
    | mk accepted h₂ =>
      cases accepted with
      | false =>
        -- rejected: the queue is not empty
        exact demultiplexLoop_reject le_rfl hnone hnew (by rw [hresult])
      | true =>
        -- accepted: the connection has one packet too many
        obtain ⟨hsome, hlen⟩ := handleNewConnection_accept hnone hnew
        rw [demultiplexLoop, if_neg (by simp [hnone]), handleOne, if_neg (by simp [hnone]), hnew]
          at hresult
        simp only at hresult
        have hsome' : ((h₂.receiveNewPacket pkt.tcpKey pkt).connections pkt.tcpKey).isSome := by
          rwa [receiveNewPacket_isSome]
        have hcode := queueLen_demultiplexLoop hsome' (by rw [hresult])
        rw [hresult, queueLen_receiveNewPacket_self hsome, hlen] at hcode
        obtain ⟨c, hc⟩ := Option.isSome_iff_exists.mp hsome
        have hset : (h₂.setRecvBuffer pkt.tcpKey [pkt]).connections pkt.tcpKey =
            some { c with con := { c.con with pktRecvBuffer := [pkt] } } := by
          rw [setRecvBuffer, hc]
          exact setCon_connections_self ..
        rw [queueLen_handleEach (by rw [hset]; rfl), queueLen, hset] at hcode
        simp only [List.length_singleton] at hcode
        omega
  · intro hsome
    refine ⟨demultiplex_of_isSome hsome, ?_⟩
    rintro xs ys rfl
    have hxs : ∀ pkt ∈ xs, (h.connections pkt.tcpKey).isSome := fun pkt hp =>
      hsome pkt (List.mem_append_left _ hp)
    have hys : ∀ pkt ∈ ys, ((h.handleEach xs).connections pkt.tcpKey).isSome := fun pkt hp => by
      rw [(demultiplexLoop_deliver 0 [] hxs).2]
      exact hsome pkt (List.mem_append_right _ hp)
    rw [demultiplex_of_isSome hsome, demultiplex_of_isSome hxs, demultiplex_of_isSome hys,
      handleEach_append]

end

section

open scoped Reference

/-- A packet that belongs to no connection. -/
def strayPkt : Packet :=
  { ipHeader := { sourceIp := "10.0.0.2", destIp := "10.0.0.1" }
    tcpHeader := { sourcePort := 80, destPort := 5 } }

/-- A SYN to the port that is listened on. -/
def synPkt : Packet :=
  { ipHeader := { sourceIp := "10.0.0.2", destIp := "10.0.0.1" }
    tcpHeader := { sourcePort := 90, destPort := 6, sync := true }
    payloadSize := 1 }

/-- A host that listens on port 90. -/
def listeningHost : Host :=
  { Host.new "10.0.0.2" with
    listeners := Function.update (fun _ => none) ⟨"10.0.0.2", 90⟩ (some []) }

/-- The SYN behind the stray packet is not handled, and two RSTs are sent for one packet. -/
theorem not_handles_each_once : ¬ listeningHost.HandledOnce [strayPkt, synPkt] := by
  intro honce
  have hqueue := congrArg Prod.snd honce.1
  have hcode : (listeningHost.demultiplexPacketsToTcps [strayPkt, synPkt]).2 =
      [strayPkt, synPkt] := by decide
  rw [hcode] at hqueue
  cases hqueue

end

end Host

end NetStack
