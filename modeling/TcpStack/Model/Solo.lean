import TcpStack.Model.Network

/-!
# TcpStack — one controller on its own

A single controller with any peer: packets of any content arrive in any order, its own actions
and timers run at any time. Two granularities:

* **`Solo`** — every handler and every task is one atomic step.
* **`Racing`** — `HandleACK`, `SendFIN` and `SendRSTForClosedConnection` are taken apart. Each holds
  one mutex first and `state_mutex_` afterwards, and between the two sections other threads may run.
  There can be several `SendFIN` tasks, and timers may call `CloseAndDelete`.
-/

namespace NetStack

variable [HyLib]

/-! ## Atomic handlers -/

/-- What happens to a controller. -/
inductive Input where
  /-- A step of its own. -/
  | act (a : Action)
  /-- `Host::DemultiplexPacketsToTcps` hands it a packet. -/
  | receive (pkt : Packet)
  /-- Its packets leave for the network. -/
  | transmit
  /-- Time passes, and other connections of the process share the globals. -/
  | environment (g : Globals)
deriving DecidableEq, Repr

/-- A controller and the globals of its process. -/
structure Solo where
  globals : Globals := {}
  endpoint : Endpoint
deriving DecidableEq, Repr

namespace Solo

/-- One step of the controller. -/
def step (s : Solo) : Input → Except Fatal Solo
  | .act a => do
    let (globals, endpoint) ← s.endpoint.step s.globals a
    .ok { globals, endpoint }
  | .receive pkt =>
    .ok { s with endpoint := { s.endpoint with con := s.endpoint.con.receiveNewPacket pkt } }
  | .transmit =>
    .ok { s with
      endpoint := { s.endpoint with con := { s.endpoint.con with pktSendBuffer := [] } } }
  | .environment globals => .ok { s with globals }

/-- A run starts with a new controller in CLOSED, on the client's side after `TryConnect`. -/
inductive Start : Solo → Prop where
  | server (g : Globals) (key : TcpControllerKey) (options : TcpControllerOptions) :
      Start { globals := g, endpoint := { con := TcpController.new key options } }
  | client (g : Globals) (key : TcpControllerKey) (options : TcpControllerOptions) {b : Bool}
      {con : TcpController} (h : (TcpController.new key options).tryConnect g = .ok (b, con)) :
      Start { globals := g, endpoint := { con } }

end Solo

/-! ## Sections -/

/-- A controller whose threads may be between two sections of what they are doing: the receive
thread in `HandleACK`, threads of the pool in `SendFIN`, and the thread of
`SendRSTForClosedConnection`. -/
structure Racing where
  globals : Globals := {}
  endpoint : Endpoint
  /-- `send_window_empty` of the `HandleACK` under way. -/
  midAck : Option Bool := none
  /-- The FIN of the `SendFIN` that a thread of the pool has under way. -/
  midFin : ℕ → Option Packet := fun _ => none
  /-- `SendRSTForClosedConnection` has cleared the receive buffer. -/
  midRst : Bool := false

/-- The atomic sections. -/
inductive Section where
  /-- The window section of `HandleACK` for the next packet. -/
  | ackWindow
  /-- The state section of `HandleACK`. -/
  | ackState
  /-- The window section of a `SendFIN`. -/
  | finWindow (thread : ℕ)
  /-- The state section of this `SendFIN`, and the sending behind it. -/
  | finState (thread : ℕ)
  /-- `SendRSTForClosedConnection` clears the receive buffer, which is not empty. -/
  | rstClear
  /-- The state section of `SendRSTForClosedConnection`, and the sending behind it. -/
  | rstState
  /-- A timer or the `kill` thread calls `CloseAndDelete`. -/
  | closeAndDelete
  /-- The receive thread handles a packet that is not for `HandleACK`. -/
  | handleOther
  /-- Any other action. -/
  | act (a : Action)
  | receive (pkt : Packet)
  | transmit
  | environment (g : Globals)
deriving DecidableEq, Repr

namespace Racing

/-- One section. A section that is not due changes nothing. -/
def step (s : Racing) : Section → Except Fatal Racing
  | .ackWindow =>
    match s.midAck, s.endpoint.con.pktRecvBuffer with
    | none, pkt :: rest =>
      if pkt.kind = .ack then do
        let (sendWindowEmpty, globals, con) ←
          { s.endpoint.con with pktRecvBuffer := rest }.handleACKWindow s.globals pkt
        .ok { s with
          globals
          endpoint := { s.endpoint with con, handled := s.endpoint.handled ++ [pkt] }
          midAck := some sendWindowEmpty }
      else .ok s
    | _, _ => .ok s
  | .ackState =>
    match s.midAck with
    | some sendWindowEmpty =>
      .ok { s with
        endpoint := { s.endpoint with con := s.endpoint.con.handleACKState sendWindowEmpty }
        midAck := none }
    | none => .ok s
  | .finWindow thread =>
    if s.midFin thread ≠ none || s.endpoint.finTasks = 0 || !s.endpoint.con.sendFINWait then .ok s
    else if s.endpoint.con.shutdown then
      .ok { s with endpoint := { s.endpoint with finTasks := s.endpoint.finTasks - 1 } }
    else do
      let (finPkt, con) ← s.endpoint.con.sendFINWindow s.globals.clock
      .ok { s with
        endpoint := { s.endpoint with con, finTasks := s.endpoint.finTasks - 1 }
        midFin := Function.update s.midFin thread (some finPkt) }
  | .finState thread =>
    match s.midFin thread with
    | some finPkt =>
      .ok { s with
        endpoint := { s.endpoint with con := s.endpoint.con.sendFINState finPkt }
        midFin := Function.update s.midFin thread none }
    | none => .ok s
  | .rstClear =>
    if s.midRst || !s.endpoint.closed || s.endpoint.con.shutdown || s.endpoint.con.recvBuffer.empty then
      .ok s
    else
      .ok { s with
        endpoint := { s.endpoint with con := s.endpoint.con.clearReceiveBuffer }, midRst := true }
  | .rstState =>
    if s.midRst then
      .ok { s with
        endpoint := { s.endpoint with con := s.endpoint.con.sendRSTForClosedConnection }
        midRst := false }
    else .ok s
  | .closeAndDelete =>
    if s.endpoint.con.closeAndDeleteDue then
      .ok { s with endpoint := { s.endpoint with con := s.endpoint.con.closeAndDelete } }
    else .ok s
  | .handleOther =>
    match s.midAck, s.endpoint.con.pktRecvBuffer with
    | none, pkt :: _ =>
      if pkt.kind = .ack then .ok s
      else do
        let (globals, endpoint) ← s.endpoint.handleNext s.globals
        .ok { s with globals, endpoint }
    | _, _ => .ok s
  | .act a =>
    if a = .handlePacket ∨ a = .sendFIN then .ok s
    else do
      let (globals, endpoint) ← s.endpoint.step s.globals a
      .ok { s with globals, endpoint }
  | .receive pkt =>
    .ok { s with endpoint := { s.endpoint with con := s.endpoint.con.receiveNewPacket pkt } }
  | .transmit =>
    .ok { s with
      endpoint := { s.endpoint with con := { s.endpoint.con with pktSendBuffer := [] } } }
  | .environment globals => .ok { s with globals }

end Racing

end NetStack
