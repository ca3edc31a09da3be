import TcpStack.Lib.Reaches
import TcpStack.Proofs.Projection
import TcpStack.Proofs.Agreement

/-!
# TcpStack — the whole stack refines its connections

The whole stack, seen by one of its connections, is the connection alone: two endpoints with a
channel in each direction that loses packets. The packets of the connection that are anywhere
between its two controllers are the contents of its channel.

* **`View.Step.client`**, **`View.Step.server`** — the connection follows the steps of its hosts.
* **`Tracks`** — the stack shows a reachable state of the connection.
* **`stack_refines_net`** — a run of the stack is a run of each of its connections.
-/

namespace NetStack

open Transition

namespace Stack

section

variable [HyLib]

/-! ## The connection follows -/

section Follow

variable {cfg : Config} {k : TcpControllerKey} {g g' : Globals} {c c' v v' : View} {e : Endpoint}

/-- The system of one connection, put together from what its two hosts show. -/
def net (g : Globals) (client : Endpoint) (c v : View) : Net where
  globals := g
  client := client
  server := v.endpoint
  toServer := v.inn ++ c.out
  toClient := c.inn ++ v.out

/-- Packets get lost, and the globals change. -/
theorem reaches_losses {n : Net} {wo wi : List Packet} (g : Globals) (ho : wo.Sublist n.toServer)
    (hi : wi.Sublist n.toClient) :
    Reaches (Net.step cfg) n { n with globals := g, toServer := wo, toClient := wi } := by
  have hserver : ∀ (is : List ℕ) (n : Net), Reaches (Net.step cfg) n
      { n with toServer := is.foldl List.eraseIdx n.toServer } := by
    intro is
    induction is with
    | nil => exact fun n => .refl n
    | cons i is ih => exact fun n => (Reaches.single (e := .dropToServer i) rfl).trans (ih _)
  have hclient : ∀ (is : List ℕ) (n : Net), Reaches (Net.step cfg) n
      { n with toClient := is.foldl List.eraseIdx n.toClient } := by
    intro is
    induction is with
    | nil => exact fun n => .refl n
    | cons i is ih => exact fun n => (Reaches.single (e := .dropToClient i) rfl).trans (ih _)
  obtain ⟨is, rfl⟩ := exists_eraseIdx_of_sublist ho
  obtain ⟨js, rfl⟩ := exists_eraseIdx_of_sublist hi
  exact ((Reaches.single (e := .environment g) rfl).trans (hserver is _)).trans (hclient js _)

/-- A step of the client's host. -/
theorem View.Step.client (h : View.Step k c g c' g') (he : c.endpoint = some e) (v : View) :
    ∃ e', c'.endpoint = some e' ∧ Reaches (Net.step cfg) (net g e c v) (net g' e' c' v) := by
  cases h with
  | carries g' ho hi =>
    exact ⟨e, he, reaches_losses g' (ho.append_left v.inn) (hi.append_right v.out)⟩
  | acts a he₁ hrun =>
    cases he.symm.trans he₁
    refine ⟨_, rfl, .single (e := .client a) ?_⟩
    rw [Net.step]
    show ((e.step g a) >>= _) = _
    rw [hrun]
    rfl
  | flushes he₁ =>
    cases he.symm.trans he₁
    refine ⟨_, rfl, .single (e := .sendToServer) ?_⟩
    simp only [Net.step, net, List.append_assoc]
  | receives he₁ hi =>
    cases he.symm.trans he₁
    refine ⟨_, rfl, .single (e := .deliverToClient) ?_⟩
    simp only [Net.step, net, hi, List.cons_append]
  | accepts he₁ =>
    rw [he] at he₁
    cases he₁

/-- A step of the server's host. -/
theorem View.Step.server (h : View.Step k v g v' g') (hkey : cfg = { key := cfg.key }) (e : Endpoint)
    (c : View) : Reaches (Net.step cfg) (net g e c v) (net g' e c v') := by
  cases h with
  | carries g' ho hi => exact reaches_losses g' (hi.append_right c.out) (ho.append_left c.inn)
  | acts a he hrun =>
    refine .single (e := .server a) ?_
    simp only [Net.step, net, he, hrun, ok_bind]
  | flushes he =>
    refine .single (e := .sendToClient) ?_
    simp only [Net.step, net, he, List.append_assoc]
  | receives he hi =>
    refine .single (e := .deliverToServer) ?_
    simp only [Net.step, net, he, hi, List.cons_append, Net.demultiplexToServer]
  | accepts he hi hsync hk =>
    refine .single (e := .deliverToServer) ?_
    simp only [Net.step, net, he, hi, List.cons_append, Net.demultiplexToServer, hsync, if_true]
    rw [hkey]
    rfl

/-- Before the server's connection exists, everything on the way to it is the client's SYN. -/
theorem sync_of_no_server {cfg : Config} {g : Globals} {n₀ n : Net}
    (h₀ : Net.init cfg g = .ok n₀) (hreach : Reaches (Net.step cfg) n₀ n) (hs : n.server = none) :
    ∀ p ∈ n.toServer, p.tcpHeader.sync = true := by
  have hstage : n.server = none → Net.Stage cfg n := by
    rw [Net.init_eq] at h₀
    cases h₀
    refine hreach.invariant (P := fun n => n.server = none → Net.Stage cfg n) ?_
      fun _ => Net.stage_init cfg g
    intro n ev n' hn hstep hs'
    rcases Net.step_cases hstep with ⟨a, g, c, -, hrun, rfl⟩ | ⟨a, v, g, v', -, -, -, rfl⟩ | hm |
      ⟨pkt, rest, -, -, -, rfl⟩
    · exact Net.stage_client (hn hs') hrun
    · cases hs'
    · exact Net.stage_moves (hn (hm.none_iff.mp hs')) hm
    · cases hs'
  have hhandled : (n.peer cfg).handled = [] := by simp [Net.peer, hs]
  intro p hp
  have hup : p ∈ n.up cfg := List.mem_append_left _ (List.mem_append_right _ hp)
  have hphase := hstage hs
  -- only a server that has handled nothing can be missing
  cases hphase with
  | listening client server hdown => exact Packet.sync_of_kind_syn (client.up p hup).1
  | synRcvd _ server _ => exact absurd hhandled server.met.handled_ne
  | half _ _ server _ _ _ _ => exact absurd hhandled server.met.handled_ne
  | opened _ server _ _ _ => exact absurd hhandled server.met.handled_ne

/-- A connection that nobody has opened yet stays so. -/
theorem View.Step.of_empty (h : View.Step k {} g v' g') : v' = {} := by
  cases h with
  | carries g' ho hi =>
    have hout := List.sublist_nil.mp ho
    have hinn := List.sublist_nil.mp hi
    rw [hout, hinn]
  | acts a he => cases he
  | flushes he => cases he
  | receives he => cases he
  | accepts he hi => cases hi

end Follow

/-! ## Runs of the stack -/

variable {s s' : Stack} {ev : Event} {x : Bool} {k : TcpControllerKey}

/-- The packets of a controller of side `x` that are somewhere between it and its peer. -/
def between (s : Stack) (x : Bool) (k : TcpControllerKey) : List Packet :=
  ((s.machines !x).arriving ++ ((s.machines x).departing ++ (s.machines x).batch k)).filter
    (·.tcpKey = k.wire)

/-- What the connection of `k`, opened by side `x`, asks of a step: it is opened once and from one
side, its controllers are not deleted, and a listener and an open file are there for its SYN. All
other connections have ports of 16 bits. -/
def Keeps (x : Bool) (k : TcpControllerKey) (s : Stack) : Event → Prop
  | .machine side (.socketConnect key) =>
    key.Routable ∧ (side = x → key = k → (s.machines x).connections k = none) ∧
      (side = !x → key ≠ k.wire)
  | .machine side (.deleteTcpConnection key) => (side = x → key ≠ k) ∧ (side = !x → key ≠ k.wire)
  | .machine side .demultiplexNext => side = !x → (s.machines !x).connections k.wire = none →
    (s.machines !x).newPackets.head?.map (·.tcpKey) = some k.wire → (s.machines !x).Admits k.wire
  | _ => True

instance (x : Bool) (k : TcpControllerKey) (s : Stack) : (ev : Event) → Decidable (Keeps x k s ev)
  | .machine _ (.socketConnect _) => inferInstanceAs (Decidable (_ ∧ _ ∧ _))
  | .machine _ (.deleteTcpConnection _) => inferInstanceAs (Decidable (_ ∧ _))
  | .machine side .demultiplexNext => inferInstanceAs (Decidable (side = !x → _ → _ → _))
  | .machine _ (.controller ..) | .machine _ (.packetSendBufferListener _)
  | .machine _ (.multiplexPacketsFromTcp _) | .machine _ .packetsSendListener
  | .machine _ (.channelSend _) | .machine _ .waitingForPackets
  | .machine _ .packetsReceiveListener | .machine _ (.listen _) | .machine _ .createNewSocket
  | .movePacketsFromChannel _ | .tick _ => .isTrue trivial

/-- The stack shows a reachable state of the connection, or nothing of it yet. -/
inductive Tracks (x : Bool) (k : TcpControllerKey) (s : Stack) : Prop where
  | before (client : (s.machines x).view k = {}) (server : (s.machines !x).view k.wire = {})
  | connected {e : Endpoint} {g : Globals} {n₀ : Net}
      (client : ((s.machines x).view k).endpoint = some e)
      (init : Net.init { key := k } g = .ok n₀)
      (reached : Reaches (Net.step { key := k }) n₀
        (net s.globals e ((s.machines x).view k) ((s.machines !x).view k.wire)))

/-- A step of the side that opens the connection. -/
theorem Tracks.client (h : Tracks x k s) (hk : k.Routable) (ht : (s.machines x).Tidy)
    {a : Machine.Action} (hkeep : Keeps x k s (.machine x a)) {g : Globals} {m : Machine}
    (hrun : (s.machines x).step s.globals a = .ok (g, m)) :
    Tracks x k { globals := g, machines := Function.update s.machines x m } := by
  have hspare : (s.machines x).Spares k a := by
    refine ⟨fun heq => ?_, fun heq => ?_, fun heq hnone pkt rest hpkts hkey => ?_⟩
    · subst heq
      exact hkeep.2.1 rfl rfl
    · subst heq
      exact hkeep.1 rfl rfl
    · -- without a controller there is no packet for it
      exfalso
      cases h with
      | before client _ =>
        have hinn : ((s.machines x).view k).inn = [] := by rw [client]
        refine List.filter_eq_nil_iff.mp hinn pkt ?_ (decide_eq_true hkey)
        rw [Machine.arriving, hpkts]
        exact List.mem_cons_self ..
      | connected client _ _ =>
        rw [Machine.view, hnone] at client
        cases client
  have hother : Stack.machines ⟨g, Function.update s.machines x m⟩ (!x) = s.machines !x :=
    Function.update_of_ne (by simp) ..
  have hself : Stack.machines ⟨g, Function.update s.machines x m⟩ x = m := Function.update_self ..
  rcases Machine.step_view ht hk hspare hrun with hstep | ⟨rfl, rfl, hnone, con, sent, hcon, hview⟩
  · cases h with
    | before client server =>
      rw [client] at hstep
      refine .before ?_ ?_
      · rw [hself]
        exact hstep.of_empty
      · rw [hother]
        exact server
    | connected client init reached =>
      obtain ⟨e', he', hreach⟩ := hstep.client client ((s.machines !x).view k.wire)
      refine .connected (e := e') ?_ init ?_
      · rw [hself]
        exact he'
      · rw [hself, hother]
        exact reached.trans hreach
  · cases h with
    | before client server =>
      -- the connection begins
      rw [client] at hview
      have hinit : Net.init { key := k } s.globals =
          .ok (net s.globals { con } { endpoint := some { con } } {}) := by
        rw [Net.init]
        show ((TcpController.new k TcpController.getDefaultOptions).tryConnect s.globals >>= _) = _
        rw [hcon]
        rfl
      refine .connected (e := { con }) ?_ hinit ?_
      · rw [hself, hview]
      · rw [hself, hother, hview, server]
    | connected client _ _ =>
      rw [hnone] at client
      cases client

/-- A step of the other side. -/
theorem Tracks.server (h : Tracks x k s) (ht : (s.machines !x).Tidy)
    {a : Machine.Action} (hkeep : Keeps x k s (.machine (!x) a)) {g : Globals} {m : Machine}
    (hrun : (s.machines !x).step s.globals a = .ok (g, m)) :
    Tracks x k { globals := g, machines := Function.update s.machines (!x) m } := by
  have hspare : (s.machines !x).Spares k.wire a := by
    refine ⟨fun heq => ?_, fun heq => ?_, fun heq hnone pkt rest hpkts hkey => ?_⟩
    · subst heq
      exact absurd rfl (hkeep.2.2 rfl)
    · subst heq
      exact hkeep.2 rfl rfl
    · subst heq
      refine ⟨?_, hkeep rfl hnone (by rw [hpkts, List.head?_cons, Option.map_some, hkey])⟩
      have hmem : pkt ∈ ((s.machines !x).view k.wire).inn := by
        refine List.mem_filter.mpr ⟨?_, decide_eq_true hkey⟩
        rw [Machine.arriving, hpkts]
        exact List.mem_cons_self ..
      cases h with
      | before _ server =>
        rw [server] at hmem
        cases hmem
      | connected _ init reached =>
        -- a packet for a controller that does not exist yet
        refine sync_of_no_server init reached ?_ pkt (List.mem_append_left _ hmem)
        show ((s.machines !x).view k.wire).endpoint = none
        rw [Machine.view, hnone]
        rfl
  have hother : Stack.machines ⟨g, Function.update s.machines (!x) m⟩ x = s.machines x :=
    Function.update_of_ne (by simp) ..
  have hself : Stack.machines ⟨g, Function.update s.machines (!x) m⟩ (!x) = m :=
    Function.update_self ..
  rcases Machine.step_view ht k.routable_wire hspare hrun with hstep | ⟨rfl, -, -⟩
  · cases h with
    | before client server =>
      rw [server] at hstep
      refine .before ?_ ?_
      · rw [hother]
        exact client
      · rw [hself]
        exact hstep.of_empty
    | @connected e _ _ client init reached =>
      refine .connected (e := e) ?_ init ?_
      · rw [hother]
        exact client
      · rw [hself, hother]
        exact reached.trans (hstep.server rfl e _)
  · exact absurd rfl (hkeep.2.2 rfl)

/-! ### The channels -/

section Move

variable (s : Stack) (y : Bool)

theorem machines_move_self :
    (s.movePacketsFromChannel y).machines y = { s.machines y with waiting := [] } :=
  Function.update_self ..

theorem machines_move_other : (s.movePacketsFromChannel y).machines (!y) =
    { s.machines !y with
      recvPktQueue := (s.machines !y).recvPktQueue ++ (s.machines y).waiting } := by
  show Function.update (Function.update s.machines _ _) _ _ _ = _
  rw [Function.update_of_ne (by simp), Function.update_self]

/-- What one host hands to the other stays on its way. -/
theorem view_move {key key' : TcpControllerKey} (hkey : key.wire = key') :
    (((s.movePacketsFromChannel y).machines !y).view key').inn ++
        (((s.movePacketsFromChannel y).machines y).view key).out =
      ((s.machines !y).view key').inn ++ ((s.machines y).view key).out := by
  rw [machines_move_self, machines_move_other, ← hkey]
  simp only [Machine.view, Machine.arriving, Machine.departing, Machine.batch, List.nil_append]
  simp only [List.filter_append, List.append_assoc]

/-- The way back is another one. -/
theorem view_move_back (key key' : TcpControllerKey) :
    (((s.movePacketsFromChannel y).machines y).view key).inn ++
        (((s.movePacketsFromChannel y).machines !y).view key').out =
      ((s.machines y).view key).inn ++ ((s.machines !y).view key').out := by
  rw [machines_move_self, machines_move_other]
  rfl

theorem connections_move (z : Bool) :
    ((s.movePacketsFromChannel y).machines z).connections = (s.machines z).connections := by
  by_cases hz : z = y
  · rw [hz, machines_move_self]
  · rw [Bool.eq_not.mpr hz, machines_move_other]

end Move

theorem Tracks.move (h : Tracks x k s) (hk : k.Routable) (y : Bool) :
    Tracks x k (s.movePacketsFromChannel y) := by
  -- both ways hold what they held, whichever of them the step is about
  have hways : (((s.movePacketsFromChannel y).machines !x).view k.wire).inn ++
        (((s.movePacketsFromChannel y).machines x).view k).out =
      ((s.machines !x).view k.wire).inn ++ ((s.machines x).view k).out ∧
      (((s.movePacketsFromChannel y).machines x).view k).inn ++
        (((s.movePacketsFromChannel y).machines !x).view k.wire).out =
      ((s.machines x).view k).inn ++ ((s.machines !x).view k.wire).out := by
    by_cases hy : y = x
    · subst hy
      exact ⟨view_move s y rfl, view_move_back s y k k.wire⟩
    · rw [Bool.eq_not.mpr hy]
      have hto := view_move s (!x) hk
      have hback := view_move_back s (!x) k.wire k
      rw [Bool.not_not] at hto hback
      exact ⟨hback, hto⟩
  have hends : ∀ z key, (((s.movePacketsFromChannel y).machines z).view key).endpoint =
      ((s.machines z).view key).endpoint := by
    intro z key
    rw [Machine.view, connections_move]
    rfl
  cases h with
  | before client server =>
    rw [client, server] at hways
    obtain ⟨hto, hback⟩ := hways
    obtain ⟨hi, ho⟩ := List.append_eq_nil_iff.mp hto
    obtain ⟨hi', ho'⟩ := List.append_eq_nil_iff.mp hback
    have hc := hends x k
    have hv := hends (!x) k.wire
    rw [client] at hc
    rw [server] at hv
    refine .before ?_ ?_
    · exact View.ext hc ho hi'
    · exact View.ext hv ho' hi
  | @connected e _ _ client init reached =>
    refine .connected (e := e) (by rw [hends]; exact client) init ?_
    have hnet : net (s.movePacketsFromChannel y).globals e
        (((s.movePacketsFromChannel y).machines x).view k)
        (((s.movePacketsFromChannel y).machines !x).view k.wire) =
        net s.globals e ((s.machines x).view k) ((s.machines !x).view k.wire) := by
      rw [net, net, hways.1, hways.2, hends]
      rfl
    rw [hnet]
    exact reached

/-- **The step lemma.** -/
theorem Tracks.step (h : Tracks x k s) (hk : k.Routable) (ht : ∀ side, (s.machines side).Tidy)
    (hkeep : Keeps x k s ev) (hstep : step s ev = .ok s') : Tracks x k s' := by
  cases ev with
  | machine side a =>
    obtain ⟨⟨g, m⟩, hrun, hstep⟩ := bind_eq_ok.mp hstep
    cases hstep
    by_cases hside : side = x
    · subst hside
      exact h.client hk (ht side) hkeep hrun
    · rw [Bool.eq_not.mpr hside] at hkeep hrun ⊢
      exact h.server (ht !x) hkeep hrun
  | movePacketsFromChannel y =>
    cases hstep
    exact h.move hk y
  | tick clock =>
    cases hstep
    cases h with
    | before client server => exact .before client server
    | @connected e _ _ client init reached =>
      refine .connected (e := e) client init (reached.trans ?_)
      exact .single (e := .environment { s.globals with clock }) rfl

/-- What the controllers hold goes to their peers. -/
theorem tidy_step (ht : ∀ side, (s.machines side).Tidy)
    (hkey : ∀ side key, ev = .machine side (.socketConnect key) → key.Routable)
    (hstep : step s ev = .ok s') : ∀ side, (s'.machines side).Tidy := by
  cases ev with
  | machine side a =>
    obtain ⟨⟨g, m⟩, hrun, hstep⟩ := bind_eq_ok.mp hstep
    cases hstep
    intro z
    by_cases hz : z = side
    · rw [hz]
      show (Function.update s.machines side m side).Tidy
      rw [Function.update_self]
      exact Machine.step_tidy (ht side) (fun key heq => hkey side key (by rw [heq])) hrun
    · show (Function.update s.machines side m z).Tidy
      rw [Function.update_of_ne hz]
      exact ht z
  | movePacketsFromChannel y =>
    cases hstep
    exact fun z => (ht z).congr (connections_move s y z)
  | tick clock =>
    cases hstep
    exact ht

/-- Two hosts that were just started. -/
def init (g : Globals) : Stack := { globals := g }

theorem Keeps.routable (hkeep : Keeps x k s ev) (side : Bool) (key : TcpControllerKey)
    (hev : ev = .machine side (.socketConnect key)) : key.Routable := by
  subst hev
  exact hkeep.1

/-- **The run lemma.** -/
theorem tracks_run {g : Globals} {evs : List Event} (hk : k.Routable)
    (hkeep : Meets step (Keeps x k) (init g) evs) (hrun : run step (init g) evs = .ok s) :
    Tracks x k s := by
  refine (run_induction_of_meets step
    (P := fun s => (∀ side, (s.machines side).Tidy) ∧ Tracks x k s) ?_ ⟨?_, ?_⟩ hkeep hrun).2
  · rintro s ev s' ⟨ht, htrack⟩ hc hstep
    exact ⟨tidy_step ht hc.routable hstep, htrack.step hk ht hc hstep⟩
  · intro side key c hc
    cases hc
  · exact .before rfl rfl

/-- **The stack refines each of its connections.** In a run that keeps the connection, whatever
else goes on in the two hosts, the two endpoints and the packets between them are those of a run
of the connection alone. -/
theorem stack_refines_net {g : Globals} {evs : List Event} {c : Controller} (hk : k.Routable)
    (hkeep : Meets step (Keeps x k) (init g) evs) (hrun : run step (init g) evs = .ok s)
    (hc : (s.machines x).connections k = some c) :
    ∃ g₀ evs' n, Net.run { key := k } g₀ evs' = .ok n ∧ n.globals = s.globals ∧
      n.client = c.endpoint ∧
      n.server = ((s.machines !x).connections k.wire).map (·.endpoint) ∧
      n.toServer = s.between x k ∧ n.toClient = s.between (!x) k.wire := by
  cases tracks_run hk hkeep hrun with
  | before client _ =>
    have hnone := congrArg View.endpoint client
    rw [Machine.view, hc] at hnone
    cases hnone
  | @connected e g₀ n₀ client init reached =>
    obtain ⟨evs', hevs'⟩ := reached
    refine ⟨g₀, evs', net s.globals e ((s.machines x).view k) ((s.machines !x).view k.wire), ?_,
      rfl, ?_, rfl, ?_, ?_⟩
    · rw [Net.run, init, ok_bind]
      exact hevs'
    · rw [Machine.view, hc] at client
      exact (Option.some.inj client).symm
    · rw [between, List.filter_append]
      rfl
    · have hwire : k.wire.wire = k := hk
      rw [between, List.filter_append, Bool.not_not, hwire]
      show ((s.machines x).view k).inn ++ ((s.machines !x).view k.wire).out = _
      rw [Machine.view, Machine.view, hwire]

end

section

open scoped Reference

/-- A connection from `port` to port 20 of the other host. -/
def clientKey (port : Int32) : TcpControllerKey := ⟨"127.0.0.2", 20, "127.0.0.1", port⟩

/-- What the controllers of one side have sent goes over to the other, but what is dropped. -/
def carry (side : Bool) (keys : List TcpControllerKey) (dropped : List Bool) (count : ℕ) :
    List Event :=
  keys.flatMap (fun key => [.machine side (.packetSendBufferListener key),
    .machine side (.multiplexPacketsFromTcp key)]) ++
  [.machine side .packetsSendListener, .machine side (.channelSend dropped),
    .machine side .waitingForPackets, .movePacketsFromChannel side,
    .machine (!side) .packetsReceiveListener] ++
  List.replicate count (.machine (!side) .demultiplexNext)

/-- Two connections share the hosts. The SYN-ACK of the second one is lost; the first one
transfers three bytes, two of them are read. -/
def sharedRun : List Event :=
  [.machine true (.listen ⟨"127.0.0.2", 20⟩), .machine false (.socketConnect (clientKey 10)),
    .machine false (.socketConnect (clientKey 11))] ++
  carry false [clientKey 11, clientKey 10] [] 2 ++
  [.machine true (.controller (clientKey 10).wire .handlePacket),
    .machine true (.controller (clientKey 11).wire .handlePacket)] ++
  carry true [(clientKey 10).wire, (clientKey 11).wire] [false, true] 1 ++
  [.machine false (.controller (clientKey 10) .handlePacket),
    .machine false (.controller (clientKey 10) (.writeData [1, 2, 3])),
    .machine false (.controller (clientKey 10) .sendBufferListener),
    .machine false (.controller (clientKey 11) .timeoutReTransmitter)] ++
  carry false [clientKey 11, clientKey 10] [] 3 ++
  [.machine true (.controller (clientKey 10).wire .handlePacket),
    .machine true (.controller (clientKey 10).wire .handlePacket),
    .machine true (.controller (clientKey 10).wire .handlePacket),
    .machine true (.controller (clientKey 10).wire (.readData 2))]

theorem stack_refines_net_shared : ∃ g₀ evs' n, Net.run { key := clientKey 10 } g₀ evs' = .ok n ∧
    n.client.written = [1, 2, 3] := by
  have hrun : (run step (init {}) sharedRun).map (fun s =>
      ((s.machines false).connections (clientKey 10)).map (·.endpoint.written)) =
      .ok (some [1, 2, 3]) := by
    decide +kernel
  obtain ⟨s, hs, heq⟩ := map_eq_ok.mp hrun
  obtain ⟨c, hc, hwritten⟩ := Option.map_eq_some_iff.mp heq
  obtain ⟨g₀, evs', n, hn, -, hclient, -⟩ := stack_refines_net (x := false) (k := clientKey 10)
    (by decide +kernel) (by decide +kernel) hs hc
  refine ⟨g₀, evs', n, hn, ?_⟩
  rw [hclient]
  exact hwritten

end

end Stack

end NetStack
