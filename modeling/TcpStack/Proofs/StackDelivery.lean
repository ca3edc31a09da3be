import TcpStack.Proofs.Delivery
import TcpStack.Proofs.StackRefinement
import TcpStack.Proofs.WindowAgreement

/-!
# TcpStack — what the whole stack does for its connections

What holds for a connection alone holds for each connection of the stack, since the stack refines
it.

* **`stack_delivery`** — what the applications of a connection get, through the whole stack.
* **`stack_never_aborts`** — no `SANITY_CHECK` of any controller fails.
-/

namespace NetStack

open Transition SlidingWindow Tiling

namespace Stack

section

variable [HyLib] {s s' : Stack} {ev : Event} {x : Bool} {k key : TcpControllerKey} {g : Globals}
  {evs : List Event} {c v : Controller}

/-! ## Delivery -/

/-- What the application at one end has got of what the one at the other end has written: a part
from the start, all of it at the end of the stream, and nothing had to wait for room. -/
structure Delivers (e f : Endpoint) : Prop where
  order : f.readOut <+: e.written
  whole : ∀ size data con, 0 < size → f.con.readData size = .ok (some (0, data, con)) →
    f.readOut ++ data = e.written
  overflow : f.con.overflowPkts = []

/-- **Delivery through the whole stack.** Any number of connections share the hosts, their queues
and the channels that lose packets. -/
theorem stack_delivery (hk : k.Routable) (hkeep : Meets step (Keeps x k) (init g) evs)
    (hrun : run step (init g) evs = .ok s) (hc : (s.machines x).connections k = some c)
    (hv : (s.machines !x).connections k.wire = some v)
    (hcfit : c.endpoint.carried < 2 ^ 32 - 2) (hvfit : v.endpoint.carried < 2 ^ 32 - 2) :
    Delivers c.endpoint v.endpoint ∧ Delivers v.endpoint c.endpoint := by
  obtain ⟨g₀, evs', n, hn, -, hclient, hserver, -, -⟩ := stack_refines_net hk hkeep hrun hc
  have hpeer : n.peer { key := k } = v.endpoint := by
    apply Net.peer_of_some
    rw [hserver, hv]
    rfl
  rw [← hclient, ← hpeer]
  rw [← hclient] at hcfit
  rw [← hpeer] at hvfit
  obtain ⟨s₁, s₂, hgood⟩ := Net.good_run hn ⟨hcfit, hvfit⟩
  have hout := hgood.linked.out
  have hinn := hgood.linked.inn
  exact ⟨⟨hout.readOut_prefix, fun _ _ _ hsize => hout.eof hsize, hout.receives.overflow⟩,
    ⟨hinn.readOut_prefix, fun _ _ _ hsize => hinn.eof hsize, hinn.receives.overflow⟩⟩

end

section

open scoped Reference

theorem stack_delivery_shared : ∃ s c v, run step (init {}) sharedRun = .ok s ∧
    (s.machines false).connections (clientKey 10) = some c ∧
    (s.machines true).connections (clientKey 10).wire = some v ∧ v.endpoint.readOut = [1, 2] ∧
    Delivers c.endpoint v.endpoint := by
  have hrun : (run step (init {}) sharedRun).map (fun s =>
      (((s.machines false).connections (clientKey 10)).map (·.endpoint.carried),
        ((s.machines true).connections (clientKey 10).wire).map fun v =>
          (v.endpoint.carried, v.endpoint.readOut))) = .ok (some 3, some (0, [1, 2])) := by
    decide +kernel
  obtain ⟨s, hs, heq⟩ := map_eq_ok.mp hrun
  obtain ⟨hcs, hvs⟩ := Prod.mk.inj heq
  obtain ⟨c, hc, hcarried⟩ := Option.map_eq_some_iff.mp hcs
  obtain ⟨v, hv, heq⟩ := Option.map_eq_some_iff.mp hvs
  obtain ⟨hvcarried, hread⟩ := Prod.mk.inj heq
  exact ⟨s, c, v, hs, hc, hv, hread, (stack_delivery (x := false) (k := clientKey 10)
    (by decide +kernel) (by decide +kernel) hs hc hv (by omega) (by omega)).1⟩

end

section

variable [HyLib] {s s' : Stack} {ev : Event} {x : Bool} {k key : TcpControllerKey} {g : Globals}
  {evs : List Event} {c v : Controller}

/-! ## No abort -/

/-- Every connection of the stack is opened once and from one side, with ports of 16 bits, no
controller is deleted, and every SYN finds a listener and an open file. -/
def KeepsAll (s : Stack) : Event → Prop
  | .machine side (.socketConnect key) => key.Routable ∧
    (s.machines side).connections key = none ∧ (s.machines !side).connections key.wire = none
  | .machine _ (.deleteTcpConnection _) => False
  | .machine side .demultiplexNext =>
    ∀ key ∈ (s.machines side).newPackets.head?.map (·.tcpKey),
      (s.machines side).connections key = none → (s.machines side).Admits key
  | _ => True

instance (s : Stack) : (ev : Event) → Decidable (KeepsAll s ev)
  | .machine _ (.socketConnect _) => inferInstanceAs (Decidable (_ ∧ _ ∧ _))
  | .machine _ (.deleteTcpConnection _) => .isFalse id
  | .machine side .demultiplexNext =>
    inferInstanceAs (Decidable (∀ key ∈ (s.machines side).newPackets.head?.map (·.tcpKey),
      (s.machines side).connections key = none → (s.machines side).Admits key))
  | .machine _ (.controller ..) | .machine _ (.packetSendBufferListener _)
  | .machine _ (.multiplexPacketsFromTcp _) | .machine _ .packetsSendListener
  | .machine _ (.channelSend _) | .machine _ .waitingForPackets
  | .machine _ .packetsReceiveListener | .machine _ (.listen _) | .machine _ .createNewSocket
  | .movePacketsFromChannel _ | .tick _ => .isTrue trivial

/-- The connection is tracked from the side that opened it. -/
def TracksAll (s : Stack) : Prop :=
  ∀ x k, k.Routable → Tracks x k s ∨ Tracks (!x) k.wire s

theorem view_of_some (hc : (s.machines x).connections k = some c) :
    ((s.machines x).view k).endpoint = some c.endpoint := by
  rw [Machine.view, hc]
  rfl

theorem connections_of_view {e : Endpoint} (h : ((s.machines x).view k).endpoint = some e) :
    ∃ c, (s.machines x).connections k = some c := by
  obtain ⟨c, hc, -⟩ := Option.map_eq_some_iff.mp h
  exact ⟨c, hc⟩

/-- A connection that is open is kept. -/
theorem KeepsAll.keeps (h : KeepsAll s ev) {e : Endpoint}
    (hc : ((s.machines x).view k).endpoint = some e) (hk : k.Routable) : Keeps x k s ev := by
  obtain ⟨c, hc⟩ := connections_of_view hc
  cases ev with
  | machine side a =>
    cases a with
    | socketConnect key =>
      obtain ⟨hr, hnone, hpeer⟩ := h
      refine ⟨hr, fun hside hkey => ?_, fun hside hkey => ?_⟩
      · rw [hside, hkey] at hnone
        exact hnone
      · -- the peer would have to be missing
        have hwire : k.wire.wire = k := hk
        rw [hside, hkey, Bool.not_not, hwire, hc] at hpeer
        cases hpeer
    | deleteTcpConnection key => exact h.elim
    | demultiplexNext =>
      intro hside hnone hhead
      subst hside
      exact h k.wire hhead hnone
    | _ => trivial
  | _ => trivial

/-- A connection that the other side does not open now. -/
theorem KeepsAll.keeps_before (h : KeepsAll s ev)
    (hev : ev ≠ .machine (!x) (.socketConnect k.wire)) : Keeps x k s ev := by
  cases ev with
  | machine side a =>
    cases a with
    | socketConnect key =>
      obtain ⟨hr, hnone, -⟩ := h
      refine ⟨hr, fun hside hkey => ?_, fun hside hkey => hev (by rw [hside, hkey])⟩
      rw [hside, hkey] at hnone
      exact hnone
    | deleteTcpConnection key => exact h.elim
    | demultiplexNext =>
      intro hside hnone hhead
      subst hside
      exact h k.wire hhead hnone
    | _ => trivial
  | _ => trivial

/-- **Every connection stays tracked.** -/
theorem TracksAll.step (h : TracksAll s) (ht : ∀ side, (s.machines side).Tidy)
    (hkeep : KeepsAll s ev) (hstep : step s ev = .ok s') : TracksAll s' := by
  intro x k hk
  have hkw := k.routable_wire
  have hwire : k.wire.wire = k := hk
  have hone : ∀ {x k}, k.Routable → Tracks x k s → Tracks x k s' ∨ Tracks (!x) k.wire s' := by
    intro x k hk htrack
    have hwire : k.wire.wire = k := hk
    cases htrack with
    | connected client init reached =>
      exact Or.inl ((Tracks.connected client init reached).step hk ht (hkeep.keeps client hk) hstep)
    | before client server =>
      by_cases hev : ev = .machine (!x) (.socketConnect k.wire)
      · -- the other side opens it
        refine Or.inr (Tracks.step (.before server ?_) k.routable_wire ht ?_ hstep)
        · rw [Bool.not_not, hwire]
          exact client
        · refine hkeep.keeps_before ?_
          rw [hev, Bool.not_not]
          intro heq
          cases x <;> simp at heq
      · exact Or.inl ((Tracks.before client server).step hk ht
          (hkeep.keeps_before hev) hstep)
  rcases h x k hk with htrack | htrack
  · exact hone hk htrack
  · have hsym := hone hkw htrack
    rw [Bool.not_not, hwire] at hsym
    exact hsym.symm

/-- A controller that is there is one end of a connection in a reachable state. -/
theorem TracksAll.connected (h : TracksAll s) (ht : ∀ side, (s.machines side).Tidy)
    (hc : (s.machines x).connections key = some c) :
    ∃ k g₀ evs' n, Net.run { key := k } g₀ evs' = .ok n ∧ n.globals = s.globals ∧
      (n.client = c.endpoint ∧ n.server = ((s.machines !x).view key.wire).endpoint ∨
        n.server = some c.endpoint ∧
          ((s.machines !x).view key.wire).endpoint = some n.client) := by
  obtain ⟨hr, -, -⟩ := ht x key c hc
  have hview := view_of_some hc
  rcases h x key hr with htrack | htrack
  · cases htrack with
    | before client _ =>
      rw [client] at hview
      cases hview
    | @connected e g₀ n₀ client init reached =>
      obtain ⟨evs', hevs'⟩ := reached
      rw [hview] at client
      cases client
      refine ⟨key, g₀, evs', net s.globals c.endpoint ((s.machines x).view key)
        ((s.machines !x).view key.wire), ?_, rfl, Or.inl ⟨rfl, rfl⟩⟩
      rw [Net.run, init, ok_bind]
      exact hevs'
  · have hwire : key.wire.wire = key := hr
    cases htrack with
    | before _ server =>
      rw [Bool.not_not, hwire] at server
      rw [server] at hview
      cases hview
    | @connected e g₀ n₀ client init reached =>
      obtain ⟨evs', hevs'⟩ := reached
      rw [Bool.not_not, hwire] at hevs'
      refine ⟨key.wire, g₀, evs', net s.globals e ((s.machines !x).view key.wire)
        ((s.machines x).view key), ?_, rfl, Or.inr ⟨hview, client⟩⟩
      rw [Net.run, init, ok_bind]
      exact hevs'

/-- An end of a connection that has not used up its sequence numbers fails in one way only. -/
theorem step_error_of_run {cfg : Config} {g : Globals} {evs : List NetStack.Event} {n : Net}
    (hrun : Net.run cfg g evs = .ok n) (hc : n.client.carried < 2 ^ 32 - 3)
    (hv : (n.peer cfg).carried < 2 ^ 32 - 3) {a : NetStack.Action} {f : Fatal} :
    (n.client.step n.globals a = .error f → f = .dataAfterEof) ∧
      ∀ v, n.server = some v → v.step n.globals a = .error f → f = .dataAfterEof := by
  obtain ⟨s₁, s₂, h⟩ := Net.good_run hrun ⟨by omega, by omega⟩
  have h₁ := h.linked.out.sends.offset_lt_of_leavesRoom (by omega) fun _ _ => hc
  have h₂ := h.linked.inn.sends.offset_lt_of_leavesRoom (by omega) fun _ _ => hv
  have hr₁ : offset s₁.hist s₁.rcvd ≤ offset s₁.hist s₁.hist.length :=
    offset_mono _ h.linked.out.inv.rcvd_le
  have hr₂ : offset s₂.hist s₂.rcvd ≤ offset s₂.hist s₂.hist.length :=
    offset_mono _ h.linked.inn.inv.rcvd_le
  constructor
  · exact h.linked.step_error h.ready_client h₁.le h₂.le (by omega)
  · intro v hs
    have hready := h.ready_server
    have hlinked := h.linked
    rw [Net.peer_of_some hs] at hready hlinked
    exact hlinked.symm.step_error hready h₂.le h₁.le (by omega)

/-- A controller that was just constructed can connect. -/
theorem tryConnect_new (key : TcpControllerKey) (g : Globals) : ∃ r,
    (TcpController.new key TcpController.getDefaultOptions).tryConnect g = .ok r := by
  obtain ⟨r, hr, -⟩ := bind_eq_ok.mp (Net.init_eq { key } g)
  exact ⟨r, hr⟩

/-! ## Where controllers come from -/

/-- A controller is put into the map by a `Connect` or by the packet at the front of the batch. -/
theorem Machine.connections_isSome {h h' : Machine} {g' : Globals} {a : Machine.Action}
    (hrun : h.step g a = .ok (g', h')) (hsome : (h'.connections key).isSome) :
    (h.connections key).isSome ∨ a = .socketConnect key ∨
      a = .demultiplexNext ∧ key ∈ h.newPackets.head?.map (·.tcpKey) := by
  -- a map that is written at one key
  have hupdate : ∀ {key' : TcpControllerKey} {o : Option Controller},
      h'.connections = Function.update h.connections key' o → key ≠ key' →
        (h.connections key).isSome := by
    intro key' o heq hne
    rwa [heq, Function.update_of_ne hne] at hsome
  cases a with
  | socketConnect key' =>
    obtain ⟨h₁, h₁run, heq⟩ := map_eq_ok.mp hrun
    cases heq
    rcases Machine.socketConnect_cases h₁run with ⟨con, sent, -, -, rfl⟩ | ⟨-, rfl⟩
    · by_cases hkey : key = key'
      · exact Or.inr (Or.inl (by rw [hkey]))
      · exact Or.inl (hupdate rfl hkey)
    · exact Or.inl hsome
  | controller key' a =>
    rcases Machine.controller_cases hrun with ⟨-, -, rfl⟩ | ⟨c, e, hc, -, rfl⟩
    · exact Or.inl hsome
    · refine Or.inl ?_
      by_cases hkey : key = key'
      · rw [hkey, hc]
        rfl
      · exact hupdate rfl hkey
  | packetSendBufferListener key' =>
    cases hrun
    refine Or.inl ?_
    by_cases hkey : key = key'
    · subst hkey
      simpa [Machine.packetSendBufferListener, Machine.modify] using hsome
    · exact hupdate rfl hkey
  | multiplexPacketsFromTcp key' =>
    cases hrun
    refine Or.inl ?_
    unfold Machine.multiplexPacketsFromTcp at hsome
    split at hsome
    · exact hsome
    · next c hc =>
      by_cases hkey : key = key'
      · rw [hkey, hc]
        rfl
      · simp only [Function.update_of_ne hkey] at hsome
        exact hsome
  | packetsSendListener =>
    cases hrun
    refine Or.inl ?_
    unfold Machine.packetsSendListener at hsome
    split at hsome
    · exact hsome
    · exact hsome
  | waitingForPackets =>
    cases hrun
    refine Or.inl ?_
    unfold Machine.waitingForPackets at hsome
    split at hsome
    · exact hsome
    · exact hsome
  | packetsReceiveListener =>
    cases hrun
    refine Or.inl ?_
    unfold Machine.packetsReceiveListener at hsome
    split at hsome
    · exact hsome
    · exact hsome
  | demultiplexNext =>
    cases hrun
    rcases h.demultiplexNext_cases with ⟨pkts, l, -, heq⟩ | ⟨pkt, rest, l, c, hpkts, -, heq⟩ |
      ⟨pkt, rest, l, pool, hpkts, -, -, heq⟩ | ⟨pkt, rest, l, pool, rsts, -, -, -, -, heq⟩
    · rw [heq] at hsome
      exact Or.inl hsome
    · by_cases hkey : key = pkt.tcpKey
      · exact Or.inr (Or.inr ⟨rfl, by simp [hpkts, hkey]⟩)
      · exact Or.inl (hupdate (by rw [heq]) hkey)
    · by_cases hkey : key = pkt.tcpKey
      · exact Or.inr (Or.inr ⟨rfl, by simp [hpkts, hkey]⟩)
      · exact Or.inl (hupdate (by rw [heq]) hkey)
    · rw [heq] at hsome
      exact Or.inl hsome
  | deleteTcpConnection key' =>
    cases hrun
    refine Or.inl ?_
    by_cases hkey : key = key'
    · subst hkey
      simp [Machine.deleteTcpConnection] at hsome
    · exact hupdate rfl hkey
  | channelSend | listen | createNewSocket =>
    cases hrun
    exact Or.inl hsome

/-- The connections that a step can open have keys from the list. -/
def OpensAmong (keys : Bool → List TcpControllerKey) (s : Stack) : Event → Prop
  | .machine side (.socketConnect key) => key ∈ keys side
  | .machine side .demultiplexNext =>
    ∀ key ∈ (s.machines side).newPackets.head?.map (·.tcpKey), key ∈ keys side
  | _ => True

instance (keys : Bool → List TcpControllerKey) (s : Stack) :
    (ev : Event) → Decidable (OpensAmong keys s ev)
  | .machine side (.socketConnect key) => inferInstanceAs (Decidable (key ∈ keys side))
  | .machine side .demultiplexNext =>
    inferInstanceAs (Decidable (∀ key ∈ (s.machines side).newPackets.head?.map (·.tcpKey),
      key ∈ keys side))
  | .machine _ (.controller ..) | .machine _ (.packetSendBufferListener _)
  | .machine _ (.multiplexPacketsFromTcp _) | .machine _ .packetsSendListener
  | .machine _ (.channelSend _) | .machine _ .waitingForPackets
  | .machine _ .packetsReceiveListener | .machine _ (.listen _) | .machine _ .createNewSocket
  | .machine _ (.deleteTcpConnection _) | .movePacketsFromChannel _ | .tick _ => .isTrue trivial

/-- Then all controllers have keys from the list. -/
theorem connections_among {keys : Bool → List TcpControllerKey}
    (hopens : Meets step (OpensAmong keys) (init g) evs) (hrun : run step (init g) evs = .ok s) :
    ∀ side key, ((s.machines side).connections key).isSome → key ∈ keys side := by
  refine run_induction_of_meets step (P := fun s => ∀ side key,
    ((s.machines side).connections key).isSome → key ∈ keys side) ?_ ?_ hopens hrun
  · intro s ev s' hs hcond hstep side key hsome
    cases ev with
    | machine side' a =>
      obtain ⟨⟨g', h'⟩, hmachine, heq⟩ := bind_eq_ok.mp hstep
      cases heq
      by_cases hside : side = side'
      · subst hside
        simp only [Function.update_self] at hsome
        rcases Machine.connections_isSome hmachine hsome with hold | rfl | ⟨rfl, hhead⟩
        · exact hs side key hold
        · exact hcond
        · exact hcond key hhead
      · simp only [Function.update_of_ne hside] at hsome
        exact hs side key hsome
    | movePacketsFromChannel side' =>
      cases hstep
      refine hs side key ?_
      rw [movePacketsFromChannel] at hsome
      by_cases hside : side = side'
      · subst hside
        simpa only [Function.update_self] using hsome
      · simp only [Function.update_of_ne hside] at hsome
        by_cases hother : side = !side'
        · subst hother
          simpa only [Function.update_self] using hsome
        · simpa only [Function.update_of_ne hother] using hsome
    | tick clock =>
      cases hstep
      exact hs side key hsome
  · intro side key hsome
    cases hsome

/-- **No abort in the whole stack.** As long as no controller has sent `2^32 - 3` bytes, the one
thing that stops a stack that keeps its connections is an application that reads on behind the
end of the stream. -/
theorem stack_never_aborts (hkeep : Meets step KeepsAll (init g) evs)
    (hrun : run step (init g) evs = .ok s)
    (hfit : ∀ side key c, (s.machines side).connections key = some c →
      c.endpoint.carried < 2 ^ 32 - 3) :
    ∀ ev f, KeepsAll s ev → step s ev = .error f → f = .dataAfterEof := by
  intro ev f hev herr
  obtain ⟨ht, hall⟩ : (∀ side, (s.machines side).Tidy) ∧ TracksAll s := by
    refine run_induction_of_meets step
      (P := fun s => (∀ side, (s.machines side).Tidy) ∧ TracksAll s) ?_ ⟨?_, ?_⟩ hkeep hrun
    · rintro s ev s' ⟨ht, hall⟩ hc hstep
      refine ⟨tidy_step ht (fun side key heq => ?_) hstep, hall.step ht hc hstep⟩
      subst heq
      exact hc.1
    · intro side key c hc
      cases hc
    · exact fun x k _ => Or.inl (.before rfl rfl)
  cases ev with
  | machine side a =>
    have herr : (s.machines side).step s.globals a = .error f := by
      rcases bind_eq_error.mp herr with herr | ⟨r, -, hok⟩
      · exact herr
      · cases hok
    cases a with
    | socketConnect key =>
      -- the controller that connects is a new one
      exfalso
      obtain ⟨-, hnone, -⟩ := hev
      obtain ⟨r, hr⟩ := tryConnect_new key s.globals
      have herr := map_eq_error.mp herr
      rw [Machine.socketConnect, hnone] at herr
      rcases bind_eq_error.mp herr with herr | ⟨r', -, hok⟩
      · rw [hr] at herr
        cases herr
      · cases hok
    | controller key a =>
      have herr : (s.machines side).controller s.globals key a = .error f := herr
      unfold Machine.controller at herr
      split at herr
      · cases herr
      · next c hc =>
        have herr : c.endpoint.step s.globals a = .error f := by
          rcases bind_eq_error.mp herr with herr | ⟨r, -, hok⟩
          · exact herr
          · cases hok
        have hcfit := hfit side key c hc
        obtain ⟨k, g₀, evs', n, hn, hg, hends⟩ := hall.connected ht hc
        rw [← hg] at herr
        rcases hends with ⟨hclient, hserver⟩ | ⟨hserver, hclient⟩
        · refine (step_error_of_run hn (by rw [hclient]; exact hcfit) ?_).1
            (by rw [hclient]; exact herr)
          cases hv : ((s.machines !side).view key.wire).endpoint with
          | none =>
            rw [hv] at hserver
            simp [Net.peer, hserver, Endpoint.carried]
          | some v =>
            rw [hv] at hserver
            obtain ⟨c', hc', hv'⟩ := Option.map_eq_some_iff.mp hv
            rw [Net.peer_of_some hserver, ← hv']
            exact hfit _ _ c' hc'
        · obtain ⟨c', hc', hv'⟩ := Option.map_eq_some_iff.mp hclient
          refine (step_error_of_run hn ?_ ?_).2 _ hserver herr
          · rw [← hv']
            exact hfit _ _ c' hc'
          · rw [Net.peer_of_some hserver]
            exact hcfit
    | _ => cases herr
  | movePacketsFromChannel y => cases herr
  | tick clock => cases herr

end

section

open scoped Reference

/-- The keys of the controllers of the two connections. -/
def sharedKeys : Bool → List TcpControllerKey
  | false => [clientKey 10, clientKey 11]
  | true => [(clientKey 10).wire, (clientKey 11).wire]

theorem stack_never_aborts_shared : ∃ s, run step (init {}) sharedRun = .ok s ∧
    ∀ ev f, KeepsAll s ev → step s ev = .error f → f = .dataAfterEof := by
  have hok : (run step (init {}) sharedRun).map (fun s => decide (∀ side, ∀ key ∈ sharedKeys side,
      ∀ c ∈ (s.machines side).connections key, c.endpoint.carried < 2 ^ 32 - 3)) = .ok true := by
    decide +kernel
  obtain ⟨s, hs, hfit⟩ := map_eq_ok.mp hok
  refine ⟨s, hs, stack_never_aborts (by decide +kernel) hs fun side key c hc => ?_⟩
  have hmem : key ∈ sharedKeys side :=
    connections_among (by decide +kernel) hs side key (by rw [hc]; rfl)
  exact of_decide_eq_true hfit side key hmem c hc

end

end Stack

end NetStack
