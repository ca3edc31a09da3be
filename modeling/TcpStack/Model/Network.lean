import TcpStack.Lib.Run
import TcpStack.Model.TcpController

/-!
# TcpStack — two controllers and the channels between them

One connection: the client's controller after `TryConnect`, the server's controller that
`Host::HandleNewConnection` creates when the first SYN reaches the server host, and a lossy
FIFO channel in each direction.

* **`Endpoint`** — a controller with the socket-level facts its host keeps about it (shut
  down, closed, queued `SendFIN` tasks) and a record of what happened at its interface: the
  bytes `WriteData` accepted, the bytes `ReadData` returned, the packets handled.
* **`Action`** — the atomic steps of an endpoint.
* **`Net`** — both endpoints and the packets on the wire. The path from `SendPacket` on one
  side to the handler on the other is `pktSendBuffer`, then the channel, then
  `pktRecvBuffer`; only the channel loses packets.

A step that has to wait changes nothing. Tear-down, RST and the timers that lead to them are not part
of this system; `Racing` has them for a single controller.
-/

namespace NetStack

variable [HyLib]

/-- A controller as its host and its application see it. -/
structure Endpoint where
  con : TcpController
  /-- `Socket::SHUTDOWN`. -/
  shutDown : Bool := false
  /-- The socket was closed (`DecOpenFileRef` removed it from the open file table). -/
  closed : Bool := false
  /-- Queued `SendFIN` tasks. -/
  finTasks : Nat := 0
  /-- All bytes accepted by `WriteData`. -/
  written : List UInt8 := []
  /-- All bytes returned by `ReadData`. -/
  readOut : List UInt8 := []
  /-- All packets taken from `pktRecvBuffer`. -/
  handled : List Packet := []
deriving DecidableEq, Repr

/-- The atomic steps of an endpoint. -/
inductive Action where
  | writeData (buf : List UInt8)
  | readData (size : Nat)
  | shutDown
  | close
  | sendFIN
  | sendBufferListener
  | receiveBufferListener
  | timeoutReTransmitter
  | probeWindowSize
  | handlePacket
deriving DecidableEq, Repr

namespace Endpoint

/-- The bytes that left the send buffer as packets. -/
def carried (e : Endpoint) : Nat := e.written.length - e.con.sendBuffer.size

/-- `Host::WriteData`: refused once the socket is shut down or closed. -/
def writeData (e : Endpoint) (buf : List UInt8) : Endpoint :=
  if e.shutDown || e.closed then e
  else
    match e.con.writeData buf with
    | none => e
    | some (n, con) => { e with con, written := e.written ++ buf.take n.toNat }

/-- `Host::ReadData`. -/
def readData (e : Endpoint) (size : Nat) : Except Fatal Endpoint := do
  match ← e.con.readData size with
  | none => .ok e
  | some (_, data, con) => .ok { e with con, readOut := e.readOut ++ data }

/-- `TcpController::TryShutDown` as called by the host: queue the `SendFIN` task. -/
def queueFIN (e : Endpoint) : Endpoint :=
  { e with finTasks := e.finTasks + e.con.tryShutDown.toNat }

/-- `Host::ShutDownSocket`. -/
def shutDownSocket (e : Endpoint) : Endpoint :=
  if e.closed || e.shutDown then e else { e with shutDown := true }.queueFIN

/-- `Host::DecOpenFileRef` on the last reference, up to the RST task that `TryClose` also
starts. -/
def closeSocket (e : Endpoint) : Endpoint :=
  if e.closed then e else { e with closed := true }.queueFIN

/-- Run a queued `SendFIN` task that does not have to wait any more. -/
def runSendFIN (e : Endpoint) (clock : Nat) : Except Fatal Endpoint :=
  if e.finTasks = 0 || !e.con.sendFINWait then .ok e
  else do
    let con ← e.con.sendFIN clock
    .ok { e with con, finTasks := e.finTasks - 1 }

/-- Handle the next received packet. -/
def handleNext (e : Endpoint) (g : Globals) : Except Fatal (Globals × Endpoint) :=
  match e.con.pktRecvBuffer with
  | [] => .ok (g, e)
  | pkt :: rest => do
    let (g, con) ← { e.con with pktRecvBuffer := rest }.handlePacket g pkt
    .ok (g, { e with con, handled := e.handled ++ [pkt] })

/-- One atomic step of an endpoint. -/
def step (e : Endpoint) (g : Globals) : Action → Except Fatal (Globals × Endpoint)
  | .writeData buf => .ok (g, e.writeData buf)
  | .readData size => (e.readData size).map (g, ·)
  | .shutDown => .ok (g, e.shutDownSocket)
  | .close => .ok (g, e.closeSocket)
  | .sendFIN => (e.runSendFIN g.clock).map (g, ·)
  | .sendBufferListener =>
    (e.con.sendBufferListener g.clock).map fun con => (g, { e with con })
  | .receiveBufferListener => .ok (g, { e with con := e.con.receiveBufferListener })
  | .timeoutReTransmitter => .ok (g, { e with con := e.con.timeoutReTransmitter })
  | .probeWindowSize => .ok (g, { e with con := e.con.probeWindowSize })
  | .handlePacket => e.handleNext g

end Endpoint

/-! ## The two-endpoint system -/

/-- `tcp_key` of `Host::DemultiplexPacketsToTcps` and `Host::HandleNewConnection`. -/
def Packet.tcpKey (p : Packet) : TcpControllerKey where
  sourceIp := p.ipHeader.destIp
  sourcePort := p.tcpHeader.destPort.toUInt32.toInt32
  destIp := p.ipHeader.sourceIp
  destPort := p.tcpHeader.sourcePort.toUInt32.toInt32

/-- What the two hosts choose: the client's key and the socket buffer sizes. The window
advertised to the peer has 16 bits, so receive buffers are at most 65535 bytes. All other
options are `GetDefaultOptions`. -/
structure Config where
  key : TcpControllerKey := {}
  clientSendBuffer : Nat := kDefaultSocketBufferSize
  clientRecvBuffer : Nat := kDefaultSocketBufferSize
  serverSendBuffer : Nat := kDefaultSocketBufferSize
  serverRecvBuffer : Nat := kDefaultSocketBufferSize
  client_le : clientRecvBuffer ≤ 65535 := by decide
  server_le : serverRecvBuffer ≤ 65535 := by decide

/-- The state of the connection. `toServer` and `toClient` are the channels. -/
structure Net where
  globals : Globals := {}
  client : Endpoint
  server : Option Endpoint := none
  toServer : List Packet := []
  toClient : List Packet := []
deriving DecidableEq, Repr

/-- The steps of the system. -/
inductive Event where
  /-- A step of the client. -/
  | client (a : Action)
  /-- A step of the server; nothing happens before its connection exists. -/
  | server (a : Action)
  /-- The client's packets enter the channel (`PacketSendBufferListener`, the host's send
  queue, `BaseChannel::Send`). -/
  | sendToServer
  | sendToClient
  /-- The channel drops a packet. -/
  | dropToServer (i : Nat)
  | dropToClient (i : Nat)
  /-- The next packet leaves the channel and the host hands it to the controller. -/
  | deliverToServer
  | deliverToClient
  /-- Time passes, and other connections of the process share the globals. -/
  | environment (g : Globals)
deriving DecidableEq, Repr

namespace Net

/-- The client's controller as `Host::SocketConnect` constructs it. -/
def newClient (cfg : Config) : TcpController :=
  TcpController.new cfg.key { TcpController.getDefaultOptions with
    sendBufferSize := cfg.clientSendBuffer, recvBufferSize := cfg.clientRecvBuffer }

/-- The server's controller as `Host::HandleNewConnection` constructs it for a SYN. -/
def newServer (cfg : Config) (key : TcpControllerKey) (recvWindowBase : UInt32) : TcpController :=
  TcpController.new key { TcpController.getDefaultOptions with
    sendBufferSize := cfg.serverSendBuffer, recvBufferSize := cfg.serverRecvBuffer,
    recvWindowBase }

/-- The system right after the client's `TryConnect`. -/
def init (cfg : Config) (g : Globals) : Except Fatal Net := do
  let (_, con) ← (newClient cfg).tryConnect g
  .ok { globals := g, client := { con } }

/-- The server host takes a packet from the channel: it goes to the connection, or it is a
SYN and creates one. The new controller gets the SYN twice, once from
`HandleNewConnection` and once from `DemultiplexPacketsToTcps`. -/
def demultiplexToServer (cfg : Config) (server : Option Endpoint) (pkt : Packet) :
    Option Endpoint :=
  match server with
  | some e => some { e with con := e.con.receiveNewPacket pkt }
  | none =>
    if pkt.tcpHeader.sync then
      let con := newServer cfg pkt.tcpKey pkt.tcpHeader.seqNum
      some { con := (con.receiveNewPacket pkt.copy).receiveNewPacket pkt }
    else none

/-- One step of the system. -/
def step (cfg : Config) (n : Net) : Event → Except Fatal Net
  | .client a => do
    let (globals, client) ← n.client.step n.globals a
    .ok { n with globals, client }
  | .server a =>
    match n.server with
    | none => .ok n
    | some e => do
      let (globals, e) ← e.step n.globals a
      .ok { n with globals, server := some e }
  | .sendToServer =>
    .ok { n with
      client := { n.client with con := { n.client.con with pktSendBuffer := [] } }
      toServer := n.toServer ++ n.client.con.pktSendBuffer }
  | .sendToClient =>
    match n.server with
    | none => .ok n
    | some e =>
      .ok { n with
        server := some { e with con := { e.con with pktSendBuffer := [] } }
        toClient := n.toClient ++ e.con.pktSendBuffer }
  | .dropToServer i => .ok { n with toServer := n.toServer.eraseIdx i }
  | .dropToClient i => .ok { n with toClient := n.toClient.eraseIdx i }
  | .deliverToServer =>
    match n.toServer with
    | [] => .ok n
    | pkt :: rest =>
      .ok { n with server := demultiplexToServer cfg n.server pkt, toServer := rest }
  | .deliverToClient =>
    match n.toClient with
    | [] => .ok n
    | pkt :: rest =>
      .ok { n with
        client := { n.client with con := n.client.con.receiveNewPacket pkt }
        toClient := rest }
  | .environment g => .ok { n with globals := g }

/-- The state after a run from the client's `TryConnect`. -/
def run (cfg : Config) (g : Globals) (evs : List Event) : Except Fatal Net :=
  init cfg g >>= fun n => Transition.run (step cfg) n evs

end Net

end NetStack
