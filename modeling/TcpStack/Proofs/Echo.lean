import TcpStack.Proofs.OpenEnds

/-!
# TcpStack — the programs of `main.cc` do what they are for

The programs and their ends of the connection are kept together by an invariant. Every step of
the programs, the stack and the network succeeds from a state that has it, and keeps it.

* **`Inv`** — the invariant; **`Inv.step`** — the step lemma, **`inv_run`** — the run lemma.
* **`echo_never_aborts`** — no step of any run stops the process.
* **`echo_correct`** — what the two programs read, and what their checks find.
* **`echo_no_reset`** — no closed end has anything to reset its connection for.
-/

namespace NetStack

open Tiling Transition SlidingWindow

namespace Echo

/-! ## Buffers -/

namespace Block

theorem take_all (b : Block) : b.bytes.take kTestDataSize = b.bytes := by
  rw [← b.size_eq]
  exact List.take_length

theorem ext {b b' : Block} (h : b.bytes = b'.bytes) : b = b' := by
  cases b
  cases b'
  cases h
  rfl

/-- Storing behind what was stored before. -/
theorem put_eq (b : Block) {offset : ℕ} {l : List UInt8} (h : offset + l.length ≤ kTestDataSize) :
    ∃ b', b.put offset l = some b' ∧
      b'.bytes.take (offset + l.length) = b.bytes.take offset ++ l := by
  refine ⟨_, dif_pos h, ?_⟩
  have hlen : (b.bytes.take offset ++ l).length = offset + l.length := by
    rw [List.length_append, List.length_take, b.size_eq]
    omega
  exact List.take_left' hlen

/-- Bytes are stored where they fit. -/
theorem store_eq (b : Block) {offset : ℕ} {l : List UInt8} (h : offset + l.length ≤ kTestDataSize) :
    ∃ b', store b offset l = .ok b' ∧
      b'.bytes.take (offset + l.length) = b.bytes.take offset ++ l := by
  obtain ⟨b', hput, htake⟩ := b.put_eq h
  exact ⟨b', by rw [store, hput], htake⟩

theorem store_nil (b : Block) {offset : ℕ} (h : offset ≤ kTestDataSize) :
    store b offset [] = .ok b := by
  rw [store, put, dif_pos (by simpa using h)]
  simp

/-- The next part of a block, behind its first `n` bytes. -/
theorem take_append (b : Block) {n : ℕ} {l : List UInt8} (hn : n ≤ kTestDataSize)
    (hl : l <+: (b.bytes.drop n).take (kTestDataSize - n)) :
    b.bytes.take n ++ l = b.bytes.take (n + l.length) ∧ n + l.length ≤ kTestDataSize := by
  have hle := hl.length_le
  rw [List.length_take] at hle
  refine ⟨?_, by omega⟩
  rw [List.take_add, List.prefix_iff_eq_take.mp (hl.trans (List.take_prefix _ _))]
  simp

theorem receivedDataCorrect_self (b : Block) : b.receivedDataCorrect b = true := by
  rw [receivedDataCorrect, List.all_eq_true]
  intro p hp
  obtain ⟨i, hi, rfl⟩ := List.mem_iff_getElem.mp hp
  simp

/-- A flipped byte passes the client's check unless it is 0. -/
theorem flip_byte (x : UInt8) : ((UInt8.ofNat (256 - x.toNat)).toNat == 256 - x.toNat) = (x != 0) := by
  rw [Bool.eq_iff_iff, beq_iff_eq, bne_iff_ne, UInt8.toNat_ofNat', ne_eq, ← UInt8.toNat_inj]
  have := x.toNat_lt
  simp only [UInt8.toNat_zero]
  omega

/-- The client's check of the right answer. Its `256 - data[i]` is no byte if `data[i]` is 0. -/
theorem flipCorrect_flip (b : Block) : b.flip.flipCorrect b = !b.bytes.contains 0 := by
  rw [flipCorrect, flip]
  simp only
  induction b.bytes with
  | nil => rfl
  | cons x l ih =>
    rw [List.map_cons, List.zip_cons_cons, List.all_cons, ih, List.contains_cons, Bool.not_or,
      flip_byte]
    simp [bne, Bool.beq_comm]

end Block

section

variable [HyLib]

/-! ## The invariant -/

/-- The client has got the answer. -/
structure Client.Answered (data : Block) (c : Client) (v : Endpoint) : Prop where
  writen : c.writen = kTestDataSize
  readn : c.readn = kTestDataSize
  buffer : c.clientBuffer = data.flip
  peer : v.closed = true

/-- What the client knows where it is. -/
def Client.Stage (data : Block) (c : Client) (e v : Endpoint) : Prop :=
  match c.pc with
  | .writing => c.readn = 0 ∧ e.con.pipeState ≠ .eofConsumed ∧ e.closed = false
  | .reading => c.writen = kTestDataSize ∧ e.con.pipeState ≠ .eofConsumed ∧ e.closed = false
  | .checking => c.Answered data v ∧ e.closed = false
  | .closing =>
    c.Answered data v ∧ e.closed = false ∧ c.flipCorrect = some (!data.bytes.contains 0)
  | .returned =>
    c.Answered data v ∧ e.closed = true ∧ c.flipCorrect = some (!data.bytes.contains 0)

/-- The client's variables and its end of the connection. -/
structure Client.Follows (data : Block) (c : Client) (e v : Endpoint) : Prop where
  shutDown : e.shutDown = false
  written : e.written = data.bytes.take c.writen
  writen_le : c.writen ≤ kTestDataSize
  readOut : e.readOut = c.clientBuffer.bytes.take c.readn
  readn_le : c.readn ≤ kTestDataSize
  stage : c.Stage data e v

/-- The server has the data and sends the answer. -/
structure Server.Answers (data : Block) (s : Server) (v : Endpoint) : Prop where
  dataCorrect : s.dataCorrect = some true
  buffer : s.receiveBuffer = data.flip
  readOut : v.readOut = data.bytes
  written : v.written = data.flip.bytes.take s.writen
  writen_le : s.writen ≤ kTestDataSize

/-- What the server knows where it is. -/
def Server.Stage (data : Block) (s : Server) (v : Endpoint) : Prop :=
  match s.pc with
  | .accepting =>
    s.accepted = false ∧ v.readOut = [] ∧ v.written = [] ∧ v.closed = false ∨
      s.accepted = true ∧ s.Answers data v ∧ s.writen = kTestDataSize ∧ v.closed = true
  | .reading =>
    v.readOut = s.receiveBuffer.bytes.take s.readn ∧ s.readn ≤ kTestDataSize ∧ v.written = [] ∧
      v.closed = false
  | .checking =>
    s.readn = kTestDataSize ∧ s.receiveBuffer = data ∧ v.readOut = data.bytes ∧ v.written = [] ∧
      v.closed = false
  | .writing => s.Answers data v ∧ v.closed = false
  | .closing => s.Answers data v ∧ s.writen = kTestDataSize ∧ v.closed = false
  | .leaving | .returned => False

structure Server.Follows (data : Block) (s : Server) (v : Endpoint) : Prop where
  shutDown : v.shutDown = false
  pipe : v.con.pipeState ≠ .eofConsumed
  accepted : s.pc ≠ .accepting → s.accepted = true
  verdict : s.dataCorrect ≠ some false
  stage : s.Stage data v

/-- A reachable connection with no more in it than the programs write. -/
structure Bounded (cfg : Config) (n : Net) : Prop where
  reached : ∃ g evs, Net.run cfg g evs = .ok n
  client : n.client.written.length ≤ kTestDataSize
  server : (n.peer cfg).written.length ≤ kTestDataSize

namespace Bounded

variable {cfg : Config} {n : Net}

theorem carried_le (h : Bounded cfg n) :
    n.client.carried ≤ kTestDataSize ∧ (n.peer cfg).carried ≤ kTestDataSize :=
  ⟨(Nat.sub_le _ _).trans h.client, (Nat.sub_le _ _).trans h.server⟩

/-- The programs do not come near the end of the sequence space. -/
theorem fits (h : Bounded cfg n) : n.Fits cfg := by
  obtain ⟨hc, hv⟩ := h.carried_le
  simp only [kTestDataSize] at hc hv
  exact ⟨by omega, by omega⟩

theorem linked (h : Bounded cfg n) : ∃ s₁ s₂, Linked n.client (n.peer cfg) n.toServer n.toClient s₁ s₂ := by
  obtain ⟨g, evs, hrun⟩ := h.reached
  obtain ⟨s₁, s₂, hgood⟩ := Net.good_run hrun h.fits
  exact ⟨s₁, s₂, hgood.linked⟩

theorem calm (h : Bounded cfg n) : n.client.Calm ∧ (n.peer cfg).Calm := by
  obtain ⟨g, evs, hrun⟩ := h.reached
  exact Net.calm_run hrun h.fits

/-- A call at the client's end is a step of the connection. -/
theorem call_client (h : Bounded cfg n) {a : Action} {e : Endpoint}
    (hstep : n.client.step n.globals a = .ok (n.globals, e))
    (hw : e.written.length ≤ kTestDataSize) : Bounded cfg { n with client := e } := by
  obtain ⟨g, evs, hrun⟩ := h.reached
  refine ⟨⟨g, evs ++ [.client a], Net.run_concat hrun ?_⟩, hw, h.server⟩
  rw [Net.step, hstep]
  rfl

theorem call_server (h : Bounded cfg n) {a : Action} {v v' : Endpoint} (hs : n.server = some v)
    (hstep : v.step n.globals a = .ok (n.globals, v'))
    (hw : v'.written.length ≤ kTestDataSize) : Bounded cfg { n with server := some v' } := by
  obtain ⟨g, evs, hrun⟩ := h.reached
  refine ⟨⟨g, evs ++ [.server a], Net.run_concat hrun ?_⟩, h.client, hw⟩
  rw [Net.step, hs]
  simp only [hstep, ok_bind]

end Bounded

/-- **The invariant**: both programs are where their ends of a connection say. -/
structure Inv (cfg : Config) (data : Block) (s : State) : Prop where
  bounded : Bounded cfg s.net
  client : s.client.Follows data s.net.client (s.net.peer cfg)
  server : s.server.Follows data (s.net.peer cfg)

/-! ## The steps -/

section Steps

variable {cfg : Config} {data : Block} {n : Net} {c : Client} {s : Server} {e v : Endpoint}
  {st : State}

/-- A server that has closed has sent the whole answer. -/
theorem Server.Follows.answered (h : s.Follows data v) (hc : v.closed = true) :
    v.written = data.flip.bytes := by
  have hstage := h.stage
  cases hpc : s.pc with
  | accepting =>
    simp only [Stage, hpc] at hstage
    rcases hstage with ⟨-, -, -, hopen⟩ | ⟨-, hans, hall, -⟩
    · simp [hopen] at hc
    · rw [hans.written, hall, Block.take_all]
  | reading => simp [Stage, hpc, hc] at hstage
  | checking => simp [Stage, hpc, hc] at hstage
  | writing => simp [Stage, hpc, hc] at hstage
  | closing => simp [Stage, hpc, hc] at hstage
  | leaving => simp [Stage, hpc] at hstage
  | returned => simp [Stage, hpc] at hstage

/-- **A step of the client** succeeds and keeps the invariant. -/
theorem Client.Follows.step (hn : Bounded cfg n) (h : c.Follows data n.client (n.peer cfg))
    (hs : s.Follows data (n.peer cfg)) :
    ∃ c' e, c.step data n.client = .ok (c', e) ∧ Bounded cfg { n with client := e } ∧
      c'.Follows data e (n.peer cfg) := by
  have hstage := h.stage
  cases hpc : c.pc with
  | writing =>
    simp only [Stage, hpc] at hstage
    obtain ⟨hread, hp, hopen⟩ := hstage
    simp only [Client.step, hpc]
    by_cases hlt : c.writen < kTestDataSize
    · rw [if_pos hlt]
      have hbuf : (data.bytes.drop c.writen).take (kTestDataSize - c.writen) ≠ [] := by
        apply List.ne_nil_of_length_pos
        rw [List.length_take, List.length_drop, data.size_eq]
        omega
      rcases Endpoint.write_cases ⟨h.shutDown, hopen⟩ hn.calm.1 hbuf with hwait |
        ⟨l, con, hne, hl, hpipe, hwrite, hact⟩
      · rw [hwait]
        exact ⟨c, n.client, rfl, hn, h⟩
      · rw [hwrite]
        obtain ⟨htake, hle⟩ := data.take_append h.writen_le hl
        have hpos : (l.length : Int) > 0 := by
          have := List.length_pos_iff.mpr hne
          omega
        have hw : n.client.written ++ l = data.bytes.take (c.writen + l.length) := by
          rw [h.written, htake]
        simp only [if_pos hpos, Int.toNat_natCast]
        refine ⟨_, _, rfl, hn.call_client (a := .writeData _) (by rw [← hact]; rfl) ?_, ?_⟩
        · rw [hw, List.length_take]
          omega
        · refine ⟨h.shutDown, hw, hle, h.readOut, h.readn_le, ?_⟩
          simp only [Stage]
          exact ⟨hread, by rw [hpipe]; exact hp, hopen⟩
    · rw [if_neg hlt]
      refine ⟨_, _, rfl, hn, ⟨h.shutDown, h.written, h.writen_le, h.readOut, h.readn_le, ?_⟩⟩
      have hall : c.writen = kTestDataSize := le_antisymm h.writen_le (not_lt.mp hlt)
      exact ⟨hall, hp, hopen⟩
  | reading =>
    simp only [Stage, hpc] at hstage
    obtain ⟨hall, hp, hopen⟩ := hstage
    obtain ⟨s₁, s₂, hlinked⟩ := hn.linked
    simp only [Client.step, hpc]
    rcases Endpoint.read_cases ⟨h.shutDown, hopen⟩ hn.calm.1 hp
      (by decide : 0 < kTestDataSize) with hwait | ⟨con, heof, hdata, hread, hact⟩ | ⟨l, con, hne, hpipe, hread, hact⟩
    · rw [hwait]
      exact ⟨c, n.client, rfl, hn, h⟩
    · -- the end of the stream: the server has closed, and has sent the whole answer
      rw [hread]
      have hclosed : (n.peer cfg).closed = true := by
        by_contra hne
        have hpeer := hlinked.inn.opened ⟨hs.shutDown, by simpa using hne⟩
        simp [heof] at hpeer
      have hwhole := hlinked.inn.eof (by decide) hdata
      rw [List.append_nil, hs.answered hclosed, h.readOut] at hwhole
      have hlen := congrArg List.length hwhole
      rw [List.length_take, c.clientBuffer.size_eq, data.flip.size_eq] at hlen
      have hreadn : c.readn = kTestDataSize := by
        have := h.readn_le
        omega
      rw [hreadn, Block.take_all] at hwhole
      simp only [Except.mapError, ok_bind, Block.store_nil _ h.readn_le]
      refine ⟨_, _, rfl, hn.call_client (a := .readData kTestDataSize) ?_ hn.client, ?_⟩
      · rw [Endpoint.step, hact]
        rfl
      · exact ⟨h.shutDown, h.written, h.writen_le, h.readOut, h.readn_le,
          ⟨hall, hreadn, Block.ext hwhole, hclosed⟩, hopen⟩
    · rw [hread]
      have hb : Bounded cfg { n with client := { n.client with con, readOut := n.client.readOut ++ l } } := by
        refine hn.call_client (a := .readData kTestDataSize) ?_ hn.client
        rw [Endpoint.step, hact]
        rfl
      -- the bytes are some that the server has written
      obtain ⟨t₁, t₂, hlinked'⟩ := hb.linked
      have hle := hlinked'.inn.readOut_prefix.length_le.trans hb.server
      replace hle : (n.client.readOut ++ l).length ≤ kTestDataSize := hle
      rw [List.length_append, h.readOut, List.length_take, c.clientBuffer.size_eq,
        Nat.min_eq_left h.readn_le] at hle
      obtain ⟨b, hstore, htake⟩ := Block.store_eq c.clientBuffer hle
      have hpos : (l.length : Int) > 0 := by
        have := List.length_pos_iff.mpr hne
        omega
      simp only [Except.mapError, ok_bind, hstore, if_pos hpos, Int.toNat_natCast]
      refine ⟨_, _, rfl, hb, ⟨h.shutDown, h.written, h.writen_le, ?_, hle, ?_⟩⟩
      · show n.client.readOut ++ l = b.bytes.take (c.readn + l.length)
        rw [htake, h.readOut]
      · simp only [Stage]
        exact ⟨hall, by rw [hpipe]; exact hp, hopen⟩
  | checking =>
    simp only [Stage, hpc] at hstage
    obtain ⟨hans, hopen⟩ := hstage
    simp only [Client.step, hpc]
    rw [if_neg (by simp [hans.readn])]
    refine ⟨_, _, rfl, hn, ⟨h.shutDown, h.written, h.writen_le, h.readOut, h.readn_le, ?_⟩⟩
    refine ⟨⟨hans.writen, hans.readn, hans.buffer, hans.peer⟩, hopen, ?_⟩
    rw [hans.buffer, Block.flipCorrect_flip]
  | closing =>
    simp only [Stage, hpc] at hstage
    obtain ⟨hans, hopen, hflip⟩ := hstage
    simp only [Client.step, hpc]
    have hclose : n.client.closeSocket = { n.client with closed := true }.queueFIN := by
      rw [Endpoint.closeSocket, if_neg (by simp [hopen])]
    refine ⟨_, _, rfl, hn.call_client (a := .close) rfl ?_, ?_⟩
    · rw [hclose]
      exact hn.client
    · rw [hclose]
      exact ⟨h.shutDown, h.written, h.writen_le, h.readOut, h.readn_le,
        ⟨hans.writen, hans.readn, hans.buffer, hans.peer⟩, rfl, hflip⟩
  | returned =>
    simp only [Client.step, hpc]
    exact ⟨c, n.client, rfl, hn, h⟩

/-- The client only looks at whether the server has closed. -/
theorem Client.Follows.mono {v' : Endpoint} (h : c.Follows data e v)
    (hv : v.closed = true → v'.closed = true) : c.Follows data e v' := by
  refine ⟨h.shutDown, h.written, h.writen_le, h.readOut, h.readn_le, ?_⟩
  have hans : c.Answered data v → c.Answered data v' := fun ha => { ha with peer := hv ha.peer }
  have hstage := h.stage
  unfold Stage at hstage ⊢
  split
  · next hpc => simpa only [hpc] using hstage
  · next hpc => simpa only [hpc] using hstage
  · next hpc =>
    simp only [hpc] at hstage
    exact ⟨hans hstage.1, hstage.2⟩
  · next hpc =>
    simp only [hpc] at hstage
    exact ⟨hans hstage.1, hstage.2⟩
  · next hpc =>
    simp only [hpc] at hstage
    exact ⟨hans hstage.1, hstage.2⟩

/-- The client closes after the server. -/
theorem Client.Follows.isOpen (h : c.Follows data e v) (hv : v.closed = false) : e.Open := by
  have hno : ¬ c.Answered data v := fun ha => by simp [ha.peer] at hv
  refine ⟨h.shutDown, ?_⟩
  have hstage := h.stage
  unfold Stage at hstage
  split at hstage
  · exact hstage.2.2
  · exact hstage.2.2
  · exact hstage.2
  · exact absurd hstage.1 hno
  · exact absurd hstage.1 hno

/-- **A step of the server** succeeds and keeps the invariant. -/
theorem Server.Follows.serve (hn : Bounded cfg n) (hsome : n.server = some v)
    (hc : c.Follows data n.client v) (h : s.Follows data v) :
    ∃ s' v', s.serve data v = .ok (s', v') ∧ Bounded cfg { n with server := some v' } ∧
      s'.Follows data v' ∧ (v.closed = true → v'.closed = true) := by
  have hstage := h.stage
  have hpeer : n.peer cfg = v := Net.peer_of_some hsome
  have hsame : Bounded cfg { n with server := some v } := by
    rw [← hsome]
    exact hn
  have hcalm := hn.calm.2
  have hvle := hn.server
  rw [hpeer] at hcalm hvle
  cases hpc : s.pc with
  | accepting =>
    simp only [Stage, hpc] at hstage
    simp only [Server.serve, hpc]
    rcases hstage with ⟨hacc, hread, hwritten, hopen⟩ | ⟨hacc, hans, hall, hclosed⟩
    · rw [if_neg (by simp [hacc])]
      refine ⟨_, v, rfl, hsame, ⟨h.shutDown, h.pipe, fun _ => rfl, h.verdict, ?_⟩, id⟩
      exact ⟨by simpa using hread, Nat.zero_le _, hwritten, hopen⟩
    · rw [if_pos hacc]
      exact ⟨s, v, rfl, hsame, h, id⟩
  | reading =>
    have hacc := h.accepted (by simp [hpc])
    simp only [Stage, hpc] at hstage
    obtain ⟨hread, hle, hwritten, hopen⟩ := hstage
    simp only [Server.serve, hpc]
    by_cases hlt : s.readn < kTestDataSize
    · rw [if_pos hlt]
      rcases Endpoint.read_cases ⟨h.shutDown, hopen⟩ hcalm h.pipe
        (by decide : 0 < kTestDataSize) with hwait | ⟨con, heof, -, -, -⟩ | ⟨l, con, hne, hpipe, hres, hact⟩
      · rw [hwait]
        exact ⟨s, v, rfl, hsame, h, id⟩
      · -- the client has not closed
        obtain ⟨s₁, s₂, hlinked⟩ := hn.linked
        have hp := hlinked.out.opened (hc.isOpen hopen)
        rw [hpeer, heof] at hp
        cases hp
      · rw [hres]
        have hb : Bounded cfg { n with
            server := some { v with con, readOut := v.readOut ++ l } } := by
          refine hn.call_server (a := .readData kTestDataSize) hsome ?_ hvle
          rw [Endpoint.step, hact]
          rfl
        -- the bytes are some that the client has written
        obtain ⟨t₁, t₂, hlinked⟩ := hb.linked
        have hfits := hlinked.out.readOut_prefix.length_le.trans hb.client
        replace hfits : (v.readOut ++ l).length ≤ kTestDataSize := hfits
        rw [List.length_append, hread, List.length_take, s.receiveBuffer.size_eq,
          Nat.min_eq_left hle] at hfits
        obtain ⟨b, hstore, htake⟩ := Block.store_eq s.receiveBuffer hfits
        have hpos : (l.length : Int) > 0 := by
          have := List.length_pos_iff.mpr hne
          omega
        simp only [Except.mapError, ok_bind, hstore, if_pos hpos, Int.toNat_natCast]
        refine ⟨_, _, rfl, hb, ⟨h.shutDown, by rw [hpipe]; exact h.pipe, fun _ => hacc, h.verdict, ?_⟩, id⟩
        exact ⟨by rw [htake, hread], hfits, hwritten, hopen⟩
    · rw [if_neg hlt]
      have hall : s.readn = kTestDataSize := le_antisymm hle (not_lt.mp hlt)
      obtain ⟨s₁, s₂, hlinked⟩ := hn.linked
      have hpre := hlinked.out.readOut_prefix
      rw [hall, Block.take_all] at hread
      rw [hpeer, hread, hc.written] at hpre
      have heq : s.receiveBuffer.bytes = data.bytes :=
        (hpre.trans (List.take_prefix _ _)).eq_of_length (by
          rw [s.receiveBuffer.size_eq, data.size_eq])
      refine ⟨_, v, rfl, hsame, ⟨h.shutDown, h.pipe, fun _ => hacc, h.verdict, ?_⟩, id⟩
      exact ⟨hall, Block.ext heq, hread.trans heq, hwritten, hopen⟩
  | checking =>
    have hacc := h.accepted (by simp [hpc])
    simp only [Stage, hpc] at hstage
    obtain ⟨hall, hbuf, hread, hwritten, hopen⟩ := hstage
    simp only [Server.serve, hpc]
    rw [if_neg (by simp [hall])]
    rw [hbuf, Block.receivedDataCorrect_self]
    refine ⟨_, v, rfl, hsame, ⟨h.shutDown, h.pipe, fun _ => hacc, by simp, ?_, hopen⟩, id⟩
    exact ⟨rfl, rfl, hread, by simpa using hwritten, Nat.zero_le _⟩
  | writing =>
    have hacc := h.accepted (by simp [hpc])
    simp only [Stage, hpc] at hstage
    obtain ⟨hans, hopen⟩ := hstage
    simp only [Server.serve, hpc]
    by_cases hlt : s.writen < kTestDataSize
    · rw [if_pos hlt]
      have hbuf : (s.receiveBuffer.bytes.drop s.writen).take (kTestDataSize - s.writen) ≠ [] := by
        apply List.ne_nil_of_length_pos
        rw [List.length_take, List.length_drop, s.receiveBuffer.size_eq]
        omega
      rcases Endpoint.write_cases ⟨h.shutDown, hopen⟩ hcalm hbuf with hwait |
        ⟨l, con, hne, hl, hpipe, hwrite, hact⟩
      · rw [hwait]
        exact ⟨s, v, rfl, hsame, h, id⟩
      · rw [hwrite]
        rw [hans.buffer] at hl
        obtain ⟨htake, hle⟩ := data.flip.take_append hans.writen_le hl
        have hpos : (l.length : Int) > 0 := by
          have := List.length_pos_iff.mpr hne
          omega
        have hw : v.written ++ l = data.flip.bytes.take (s.writen + l.length) := by
          rw [hans.written, htake]
        simp only [if_pos hpos, Int.toNat_natCast]
        refine ⟨_, _, rfl, hn.call_server (a := .writeData _) hsome (by rw [← hact]; rfl) ?_,
          ⟨h.shutDown, by rw [hpipe]; exact h.pipe, fun _ => hacc, h.verdict, ?_⟩, id⟩
        · rw [hw, List.length_take]
          omega
        · simp only [Stage]
          exact ⟨⟨hans.dataCorrect, hans.buffer, hans.readOut, hw, hle⟩, hopen⟩
    · rw [if_neg hlt]
      have hall : s.writen = kTestDataSize := le_antisymm hans.writen_le (not_lt.mp hlt)
      exact ⟨_, v, rfl, hsame, ⟨h.shutDown, h.pipe, fun _ => hacc, h.verdict, { hans with }, hall, hopen⟩, id⟩
  | closing =>
    have hacc := h.accepted (by simp [hpc])
    simp only [Stage, hpc] at hstage
    obtain ⟨hans, hall, hopen⟩ := hstage
    simp only [Server.serve, hpc]
    have hclose : v.closeSocket = { v with closed := true }.queueFIN := by
      rw [Endpoint.closeSocket, if_neg (by simp [hopen])]
    refine ⟨_, _, rfl, hn.call_server (a := .close) hsome rfl ?_, ?_⟩
    · rw [hclose]
      exact hvle
    · rw [hclose]
      refine ⟨⟨h.shutDown, h.pipe, fun hne => absurd rfl hne, h.verdict, Or.inr ⟨hacc, ?_, hall, rfl⟩⟩,
        fun _ => rfl⟩
      exact { hans with }
  | leaving => simp [Stage, hpc] at hstage
  | returned => simp [Stage, hpc] at hstage

/-- What the stack does by itself leaves the client where it is. -/
theorem Client.Follows.kept {e' v' : Endpoint} (h : c.Follows data e v) (he : e.Kept e')
    (hv : v.Kept v') : c.Follows data e' v' := by
  refine Client.Follows.mono (v := v) ?_ fun hc => hv.closed.trans hc
  refine ⟨he.shutDown.trans h.shutDown, he.written.trans h.written, h.writen_le,
    he.readOut.trans h.readOut, h.readn_le, ?_⟩
  have hstage := h.stage
  unfold Stage at hstage ⊢
  rw [he.closed]
  split
  · next hpc =>
    simp only [hpc] at hstage
    exact ⟨hstage.1, he.pipe hstage.2.1, hstage.2.2⟩
  · next hpc =>
    simp only [hpc] at hstage
    exact ⟨hstage.1, he.pipe hstage.2.1, hstage.2.2⟩
  · next hpc => simpa only [hpc] using hstage
  · next hpc => simpa only [hpc] using hstage
  · next hpc => simpa only [hpc] using hstage

theorem Server.Follows.kept {v' : Endpoint} (h : s.Follows data v) (hv : v.Kept v') :
    s.Follows data v' := by
  refine ⟨hv.shutDown.trans h.shutDown, hv.pipe h.pipe, h.accepted, h.verdict, ?_⟩
  have hans : s.Answers data v → s.Answers data v' := fun ha =>
    { ha with readOut := hv.readOut.trans ha.readOut, written := hv.written.trans ha.written }
  have hstage := h.stage
  unfold Stage at hstage ⊢
  rw [hv.closed, hv.readOut, hv.written]
  split
  · next hpc =>
    simp only [hpc] at hstage
    exact hstage.imp_right fun hr => ⟨hr.1, hans hr.2.1, hr.2.2⟩
  · next hpc => simpa only [hpc] using hstage
  · next hpc => simpa only [hpc] using hstage
  · next hpc =>
    simp only [hpc] at hstage
    exact ⟨hans hstage.1, hstage.2⟩
  · next hpc =>
    simp only [hpc] at hstage
    exact ⟨hans hstage.1, hstage.2⟩
  · next hpc => simp only [hpc] at hstage
  · next hpc => simp only [hpc] at hstage

/-- **A step of the stack or the network** succeeds and keeps the invariant. -/
theorem Inv.stack (h : Inv cfg data st) {ev : NetStack.Event} (hev : ev.isCall = false) :
    ∃ n', Net.step cfg st.net ev = .ok n' ∧ Inv cfg data { st with net := n' } := by
  obtain ⟨g, evs, hrun⟩ := h.bounded.reached
  obtain ⟨hc, hv⟩ := h.bounded.carried_le
  simp only [kTestDataSize] at hc hv
  obtain ⟨n', hstep⟩ := Net.step_ok hrun (by omega) (by omega) hev
  obtain ⟨hclient, hserver⟩ := Net.step_kept hev hstep
  refine ⟨n', hstep, ⟨⟨g, evs ++ [ev], Net.run_concat hrun hstep⟩, ?_, ?_⟩,
    h.client.kept hclient hserver, h.server.kept hserver⟩
  · rw [hclient.written]
    exact h.bounded.client
  · rw [hserver.written]
    exact h.bounded.server

/-- **No step fails**, and every step keeps the invariant. -/
theorem Inv.step (h : Inv cfg data st) (ev : Event) :
    ∃ st', step cfg data st ev = .ok st' ∧ Inv cfg data st' := by
  cases ev with
  | client =>
    obtain ⟨c', e, hstep, hb, hc⟩ := h.client.step h.bounded h.server
    refine ⟨{ st with client := c', net := { st.net with client := e } }, ?_, hb, hc, h.server⟩
    rw [Echo.step, hstep]
    rfl
  | server =>
    cases hs : st.net.server with
    | none =>
      refine ⟨st, ?_, h⟩
      rw [Echo.step, hs]
      simp only [Server.step, ok_bind, ← hs]
    | some v =>
      have hpeer : st.net.peer cfg = v := Net.peer_of_some hs
      have hc := h.client
      have hsrv := h.server
      rw [hpeer] at hc hsrv
      obtain ⟨s', v', hstep, hb, hs', hclosed⟩ := hsrv.serve h.bounded hs hc
      refine ⟨{ st with server := s', net := { st.net with server := some v' } }, ?_, hb,
        hc.mono hclosed, hs'⟩
      rw [Echo.step, hs]
      simp only [Server.step, hstep, ok_bind]
  | stack ev =>
    obtain ⟨n', hstep, hinv⟩ := h.stack ev.2
    refine ⟨{ st with net := n' }, ?_, hinv⟩
    rw [Echo.step, hstep]
    rfl

/-- The client has connected, and nothing was written. -/
theorem Inv.start (cfg : Config) (data : Block) (g : Globals) (clientBuffer receiveBuffer : Block) :
    ∃ st, init cfg g clientBuffer receiveBuffer = .ok st ∧ Inv cfg data st := by
  refine ⟨⟨{ globals := g, client := Net.connecting cfg g.clock }, { clientBuffer },
    { receiveBuffer }⟩, ?_, ⟨⟨g, [], ?_⟩, ?_, ?_⟩, ?_, ?_⟩
  · rw [init, Net.init_eq]
    rfl
  · rw [Net.run, Net.init_eq]
    rfl
  · exact Nat.zero_le _
  · exact Nat.zero_le _
  · exact ⟨rfl, rfl, Nat.zero_le _, rfl, Nat.zero_le _, rfl, PipeState.noConfusion, rfl⟩
  · exact ⟨rfl, PipeState.noConfusion, fun hne => absurd rfl hne, by simp,
      Or.inl ⟨rfl, rfl, rfl, rfl⟩⟩

/-- **The invariant holds in every run**, and every run succeeds. -/
theorem inv_run (cfg : Config) (data : Block) (g : Globals) (clientBuffer receiveBuffer : Block)
    (evs : List Event) :
    ∃ st, run cfg data g clientBuffer receiveBuffer evs = .ok st ∧ Inv cfg data st := by
  obtain ⟨st₀, hinit, hinv⟩ := Inv.start cfg data g clientBuffer receiveBuffer
  rw [run, hinit, ok_bind]
  exact run_total (step cfg data) (fun st ev h => h.step ev) hinv evs

end Steps

end

/-! ## What the programs find -/

section Outcome

variable [HyLib] {cfg : Config} {data : Block} {g : Globals} {clientBuffer receiveBuffer : Block}
  {evs : List Event} {st : State} {c : Client} {s : Server} {e f v : Endpoint}

/-- The server only writes the answer. -/
theorem Server.Follows.written_prefix (h : s.Follows data v) : v.written <+: data.flip.bytes := by
  have hstage := h.stage
  unfold Stage at hstage
  have hans : s.Answers data v → v.written <+: data.flip.bytes := fun ha => by
    rw [ha.written]
    exact List.take_prefix _ _
  split at hstage
  · rcases hstage with ⟨-, -, hnil, -⟩ | ⟨-, ha, -⟩
    · rw [hnil]
      exact List.nil_prefix
    · exact hans ha
  · rw [hstage.2.2.1]
    exact List.nil_prefix
  · rw [hstage.2.2.2.1]
    exact List.nil_prefix
  · exact hans hstage.1
  · exact hans hstage.1
  · exact hstage.elim
  · exact hstage.elim

/-- A server that has closed has read all there was. -/
theorem Server.Follows.closed (h : s.Follows data v) (hc : v.closed = true) :
    s.dataCorrect = some true ∧ v.readOut = data.bytes := by
  have hstage := h.stage
  unfold Stage at hstage
  rw [hc] at hstage
  split at hstage
  · rcases hstage with ⟨-, -, -, hopen⟩ | ⟨-, ha, -⟩
    · cases hopen
    · exact ⟨ha.dataCorrect, ha.readOut⟩
  · cases hstage.2.2.2
  · cases hstage.2.2.2.2
  · cases hstage.2
  · cases hstage.2.2
  · exact hstage.elim
  · exact hstage.elim

/-- A client that has closed has got the answer. -/
theorem Client.Follows.closed (h : c.Follows data e v) (hc : e.closed = true) :
    c.Answered data v := by
  have hstage := h.stage
  unfold Stage at hstage
  rw [hc] at hstage
  split at hstage
  · cases hstage.2.2
  · cases hstage.2.2
  · exact hstage.1
  · exact hstage.1
  · exact hstage.1

/-- An end that has read as much as the other has written has nothing left to read. -/
theorem drained {d : SlidingWindow.State Packet} (h : Direction e f d)
    (hle : e.written.length ≤ f.readOut.length) : f.con.recvBuffer.bytes = [] := by
  have hlen := h.arrived_prefix.length_le
  rw [List.length_append] at hlen
  exact List.eq_nil_of_length_eq_zero (by omega)

/-- What the two programs make of what they read. -/
structure Correct (data : Block) (st : State) : Prop where
  /-- The server reads the data, from its start on, and finds it correct. -/
  received : st.server.pc = .reading →
    st.server.receiveBuffer.bytes.take st.server.readn <+: data.bytes
  dataCorrect : st.server.dataCorrect ≠ some false
  /-- It never returns: the client does not close first, and no call fails. -/
  serving : st.server.pc ≠ .leaving ∧ st.server.pc ≠ .returned
  /-- The client reads the flipped data, from its start on. -/
  answered : st.client.clientBuffer.bytes.take st.client.readn <+: data.flip.bytes
  /-- When it returns, it has found all of it correct, as far as its check can tell. -/
  finished : st.client.pc = .returned → st.client.readn = kTestDataSize ∧
    st.client.clientBuffer = data.flip ∧
    st.client.flipCorrect = some (!data.bytes.contains 0) ∧ st.server.dataCorrect = some true

/-- **The programs never stop the process.** Whatever the network loses, whatever the buffers hold
and however the steps interleave, no `SANITY_CHECK` fails, nobody reads behind the end of the
stream, and neither `Read` with the size of the whole buffer writes behind its end. -/
theorem echo_never_aborts (cfg : Config) (data : Block) (g : Globals)
    (clientBuffer receiveBuffer : Block) (evs : List Event) :
    ∃ st, run cfg data g clientBuffer receiveBuffer evs = .ok st := by
  obtain ⟨st, hrun, -⟩ := inv_run cfg data g clientBuffer receiveBuffer evs
  exact ⟨st, hrun⟩

/-- **The programs work.** In every state of every run the server has a first part of the data
and the client a first part of the flipped data; the server finds the data correct and serves on,
and a client that returns has the flipped data. Only a data byte 0 fails its check. -/
theorem echo_correct (hrun : run cfg data g clientBuffer receiveBuffer evs = .ok st) :
    Correct data st := by
  obtain ⟨st', hrun', h⟩ := inv_run cfg data g clientBuffer receiveBuffer evs
  cases hrun.symm.trans hrun'
  obtain ⟨s₁, s₂, hlinked⟩ := h.bounded.linked
  refine ⟨fun hpc => ?_, h.server.verdict, ?_, ?_, fun hpc => ?_⟩
  · have hstage := h.server.stage
    simp only [Server.Stage, hpc] at hstage
    rw [← hstage.1]
    exact (h.client.written ▸ hlinked.out.readOut_prefix).trans (List.take_prefix _ _)
  · have hstage := h.server.stage
    constructor
    · intro hpc
      simp [Server.Stage, hpc] at hstage
    · intro hpc
      simp [Server.Stage, hpc] at hstage
  · rw [← h.client.readOut]
    exact hlinked.inn.readOut_prefix.trans h.server.written_prefix
  · have hstage := h.client.stage
    simp only [Client.Stage, hpc] at hstage
    obtain ⟨hans, -, hflip⟩ := hstage
    exact ⟨hans.readn, hans.buffer, hflip, (h.server.closed hans.peer).1⟩

end Outcome

section

open scoped Reference

/-- The bytes 1 to 100. -/
def testData : Block := ⟨(List.range' 1 100).map UInt8.ofNat, by decide⟩

/-- A buffer before anything was stored. -/
def Block.zero : Block := ⟨List.replicate kTestDataSize 0, by decide⟩

/-- A step of the stack or the network. -/
def stack (ev : NetStack.Event) (h : ev.isCall = false := by rfl) : Event := .stack ⟨ev, h⟩

/-- What the client has sent arrives. -/
def up : List Event := [stack .sendToServer] ++
  (List.replicate 4 [stack .deliverToServer, stack (.server .handlePacket)]).flatten ++
  [stack (.server .handlePacket)]

/-- What the server has sent arrives. -/
def down : List Event := [stack .sendToClient] ++
  (List.replicate 4 [stack .deliverToClient, stack (.client .handlePacket)]).flatten

/-- The handshake, the data, the answer, and both closes. -/
def echoRun : List Event :=
  up ++ down ++ up ++ [.server, .client, .client] ++
    (List.replicate 5 ([stack (.client .sendBufferListener)] ++ up ++ down)).flatten ++
    List.replicate 6 .server ++
    (List.replicate 5 ([stack (.server .sendBufferListener)] ++ down ++ up)).flatten ++
    [stack (.server .sendFIN)] ++ down ++ List.replicate 4 .client ++ up ++
    [stack (.client .sendFIN)] ++ up ++ down

theorem echo_correct_testData : ∃ st, run {} testData {} .zero .zero echoRun = .ok st ∧
    st.client.pc = .returned ∧ Correct testData st := by
  have hrun : (run {} testData {} .zero .zero echoRun).map (·.client.pc) = .ok .returned := by
    decide +kernel
  obtain ⟨st, hst, hpc⟩ := map_eq_ok.mp hrun
  exact ⟨st, hst, hpc, echo_correct hst⟩

end

section Closed

variable [HyLib] {cfg : Config} {data : Block} {g : Globals} {clientBuffer receiveBuffer : Block}
  {evs : List Event} {st : State}

/-- **No RST.** After `Close`, nothing arrives at either end any more, so
`SendRSTForClosedConnection` never gets past its wait. -/
theorem echo_no_reset (hrun : run cfg data g clientBuffer receiveBuffer evs = .ok st) :
    (st.net.client.closed = true → st.net.client.con.recvBuffer.bytes = []) ∧
      ∀ v, st.net.server = some v → v.closed = true → v.con.recvBuffer.bytes = [] := by
  obtain ⟨st', hrun', h⟩ := inv_run cfg data g clientBuffer receiveBuffer evs
  cases hrun.symm.trans hrun'
  obtain ⟨s₁, s₂, hlinked⟩ := h.bounded.linked
  constructor
  · intro hc
    have hans := h.client.closed hc
    refine drained hlinked.inn (h.bounded.server.trans ?_)
    rw [h.client.readOut, hans.readn, Block.take_all, st.client.clientBuffer.size_eq]
  · intro v hv hc
    have hpeer : st.net.peer cfg = v := Net.peer_of_some hv
    rw [← hpeer] at hc ⊢
    refine drained hlinked.out (h.bounded.client.trans ?_)
    rw [(h.server.closed hc).2, data.size_eq]

end Closed

section

open scoped Reference

theorem echo_no_reset_testData : ∃ st, run {} testData {} .zero .zero echoRun = .ok st ∧
    st.net.client.closed = true ∧ st.net.client.con.recvBuffer.bytes = [] := by
  have hrun : (run {} testData {} .zero .zero echoRun).map (·.net.client.closed) = .ok true := by
    decide +kernel
  obtain ⟨st, hst, hclosed⟩ := map_eq_ok.mp hrun
  exact ⟨st, hst, hclosed, (echo_no_reset hst).1 hclosed⟩

end

end Echo

end NetStack
