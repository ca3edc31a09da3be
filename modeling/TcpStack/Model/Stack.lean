import TcpStack.Model.PacketPath

/-!
# TcpStack — two hosts with all their connections

The whole stack of two hosts: any number of controllers on each, the threads that carry packets
between them, and a `BaseChannel` in each direction. Each of these threads holds a batch between
two queues:

* `PacketSendBufferListener` of a controller — from its send queue to that of the host;
* `Host::PacketsSendListener` — on to the channel, where `BaseChannel::Send` may drop packets;
* `BaseChannel::WaitingForPackets` — from the channel to the receive queue of the other host;
* `Host::PacketsReceiveListener` — on to the controllers, one packet at a time.

The controllers are the `Endpoint`s of a connection, with everything they do. All connections
share the globals, since both hosts are in one process. Sockets are seen through their
controllers; tear-down deletes a controller at any time.
-/

namespace NetStack

variable [HyLib]

namespace Stack

/-- A controller with the batch of its `PacketSendBufferListener`. -/
structure Controller where
  endpoint : Endpoint
  packetsToSend : List Packet := []
deriving DecidableEq

/-- A host with its outgoing channel. -/
structure Machine where
  connections : TcpControllerKey → Option Controller := fun _ => none
  listeners : LocalLayerThreeKey → Bool := fun _ => false
  openFileIdPool : NumPool
  sendPktQueue : List Packet := []
  /-- The batch of `PacketsSendListener`. -/
  packetsToSend : List Packet := []
  /-- `pkt_buffer_` of the channel. -/
  pktBuffer : List Packet := []
  /-- The batch of `WaitingForPackets`. -/
  waiting : List Packet := []
  recvPktQueue : List Packet := []
  /-- The batch of `PacketsReceiveListener`, with the iterations that are left. -/
  newPackets : List Packet := []
  left : ℕ := 0

namespace Machine

/-- The constructor and `Host::Initialize`. -/
def new : Machine where
  openFileIdPool := NumPool.new 0 255

/-- Write back a controller, if it is there. -/
def modify (h : Machine) (key : TcpControllerKey) (f : Controller → Controller) : Machine :=
  { h with connections := Function.update h.connections key ((h.connections key).map f) }

/-! ## Controllers -/

/-- `Host::SocketConnect` on a socket with the local end of the key, where `TryConnect` comes before
any packet. With a key that is taken the call does not come back, and the controllers stay. -/
def socketConnect (h : Machine) (g : Globals) (key : TcpControllerKey) : Except Fatal Machine :=
  match h.connections key with
  | some _ => .ok h
  | none => do
    let (_, con) ← (TcpController.new key TcpController.getDefaultOptions).tryConnect g
    .ok { h with connections := Function.update h.connections key (some { endpoint := { con } }) }

/-- A step of a controller; nothing happens where there is none. -/
def controller (h : Machine) (g : Globals) (key : TcpControllerKey) (a : NetStack.Action) :
    Except Fatal (Globals × Machine) :=
  match h.connections key with
  | none => .ok (g, h)
  | some c => do
    let (g, endpoint) ← c.endpoint.step g a
    .ok (g, { h with
      connections := Function.update h.connections key (some { c with endpoint }) })

/-! ## Sending -/

/-- `DeQueueAllTo` in `TcpController::PacketSendBufferListener`. -/
def packetSendBufferListener (h : Machine) (key : TcpControllerKey) : Machine :=
  h.modify key fun c =>
    if c.packetsToSend = [] then
      { endpoint := { c.endpoint with con := { c.endpoint.con with pktSendBuffer := [] } }
        packetsToSend := c.endpoint.con.pktSendBuffer }
    else c

/-- `Host::MultiplexPacketsFromTcp`. -/
def multiplexPacketsFromTcp (h : Machine) (key : TcpControllerKey) : Machine :=
  match h.connections key with
  | none => h
  | some c =>
    { h with
      sendPktQueue := h.sendPktQueue ++ c.packetsToSend
      connections := Function.update h.connections key (some { c with packetsToSend := [] }) }

/-- `DeQueueAllTo` in `Host::PacketsSendListener`. -/
def packetsSendListener (h : Machine) : Machine :=
  if h.packetsToSend = [] then { h with packetsToSend := h.sendPktQueue, sendPktQueue := [] } else h

/-- `BaseChannel::Send`. -/
def channelSend (h : Machine) (dropped : List Bool) : Machine :=
  { h with pktBuffer := h.pktBuffer ++ survivors h.packetsToSend dropped, packetsToSend := [] }

/-- `DeQueueAllTo` in `BaseChannel::WaitingForPackets`. -/
def waitingForPackets (h : Machine) : Machine :=
  if h.waiting = [] then { h with waiting := h.pktBuffer, pktBuffer := [] } else h

/-! ## Receiving -/

/-- `DeQueueAllTo` in `Host::PacketsReceiveListener`. -/
def packetsReceiveListener (h : Machine) : Machine :=
  if h.newPackets = [] then
    { h with newPackets := h.recvPktQueue, recvPktQueue := [], left := h.recvPktQueue.length }
  else h

/-- `ReceiveNewPacket` of the controller that the packet is for. -/
def receiveNewPacket (h : Machine) (pkt : Packet) : Machine :=
  h.modify pkt.tcpKey fun c =>
    { c with endpoint := { c.endpoint with con := c.endpoint.con.receiveNewPacket pkt } }

/-- `Host::HandleNewConnection`. -/
def handleNewConnection (h : Machine) (pkt : Packet) : Bool × Machine :=
  if !pkt.tcpHeader.sync then (false, h)
  else if !h.listeners ⟨pkt.ipHeader.sourceIp, pkt.tcpHeader.sourcePort.toUInt32.toInt32⟩ then
    (false, h)
  else
    match h.openFileIdPool.allocate with
    | (id, openFileIdPool) =>
      let h := { h with openFileIdPool }
      if id < 0 then (false, h)
      else
        let h := { h with
          connections := emplace h.connections pkt.tcpKey
            { endpoint := { con := TcpController.new pkt.tcpKey (Host.acceptOptions pkt) } } }
        (true, h.receiveNewPacket pkt.copy)

/-- `Host::SendBackRST`. -/
def sendBackRST (h : Machine) (key : TcpControllerKey) : Machine :=
  { h with
    sendPktQueue :=
      h.sendPktQueue ++ [key.stamp { ipHeader := {}, tcpHeader := { rst := true } }] }

/-- One iteration of `Host::DemultiplexPacketsToTcps`. A packet that is rejected stays at the
front; what is left when the loop ends is lost with the batch. -/
def demultiplexNext (h : Machine) : Machine :=
  match h.left, h.newPackets with
  | 0, _ => { h with newPackets := [] }
  | _ + 1, [] => { h with left := 0 }
  | left + 1, pkt :: newPackets =>
    if (h.connections pkt.tcpKey).isSome then { h with left, newPackets }.receiveNewPacket pkt
    else
      match h.handleNewConnection pkt with
      | (true, h) => { h with left, newPackets }.receiveNewPacket pkt
      | (false, h) => { (if pkt.tcpHeader.rst then h else h.sendBackRST pkt.tcpKey) with left }

/-! ## Listeners, files and tear-down -/

/-- A new listener. -/
def listen (h : Machine) (key : LocalLayerThreeKey) : Machine :=
  { h with listeners := Function.update h.listeners key true }

/-- A system call creates an open file. -/
def createNewSocket (h : Machine) : Machine :=
  { h with openFileIdPool := h.openFileIdPool.allocate.2 }

/-- `Host::DeleteTcpConnection`. -/
def deleteTcpConnection (h : Machine) (key : TcpControllerKey) : Machine :=
  { h with connections := Function.update h.connections key none }

/-- The steps of a host and its channel. -/
inductive Action where
  | socketConnect (key : TcpControllerKey)
  | controller (key : TcpControllerKey) (a : NetStack.Action)
  | packetSendBufferListener (key : TcpControllerKey)
  | multiplexPacketsFromTcp (key : TcpControllerKey)
  | packetsSendListener
  | channelSend (dropped : List Bool)
  | waitingForPackets
  | packetsReceiveListener
  | demultiplexNext
  | listen (key : LocalLayerThreeKey)
  | createNewSocket
  | deleteTcpConnection (key : TcpControllerKey)
deriving DecidableEq

/-- One step of a host or its channel. -/
def step (h : Machine) (g : Globals) : Action → Except Fatal (Globals × Machine)
  | .socketConnect key => (h.socketConnect g key).map (g, ·)
  | .controller key a => h.controller g key a
  | .packetSendBufferListener key => .ok (g, h.packetSendBufferListener key)
  | .multiplexPacketsFromTcp key => .ok (g, h.multiplexPacketsFromTcp key)
  | .packetsSendListener => .ok (g, h.packetsSendListener)
  | .channelSend dropped => .ok (g, h.channelSend dropped)
  | .waitingForPackets => .ok (g, h.waitingForPackets)
  | .packetsReceiveListener => .ok (g, h.packetsReceiveListener)
  | .demultiplexNext => .ok (g, h.demultiplexNext)
  | .listen key => .ok (g, h.listen key)
  | .createNewSocket => .ok (g, h.createNewSocket)
  | .deleteTcpConnection key => .ok (g, h.deleteTcpConnection key)

end Machine

end Stack

/-! ## The two hosts -/

/-- Two hosts, each with the channel to the other, and what they share. -/
structure Stack where
  globals : Globals := {}
  machines : Bool → Stack.Machine := fun _ => .new

namespace Stack

inductive Event where
  /-- A step of one host or its channel. -/
  | machine (side : Bool) (a : Machine.Action)
  /-- The channel calls `Host::MovePacketsFromChannel` of the other host. -/
  | movePacketsFromChannel (side : Bool)
  /-- Time passes. -/
  | tick (clock : ℕ)
deriving DecidableEq

/-- The channel of one side hands its batch to the other. -/
def movePacketsFromChannel (s : Stack) (side : Bool) : Stack :=
  { s with
    machines := Function.update
      (Function.update s.machines (!side)
        { s.machines !side with
          recvPktQueue := (s.machines !side).recvPktQueue ++ (s.machines side).waiting })
      side { s.machines side with waiting := [] } }

/-- One step of the two hosts and their channels. -/
def step (s : Stack) : Event → Except Fatal Stack
  | .machine side a => do
    let (globals, h) ← (s.machines side).step s.globals a
    .ok { globals, machines := Function.update s.machines side h }
  | .movePacketsFromChannel side => .ok (s.movePacketsFromChannel side)
  | .tick clock => .ok { s with globals := { s.globals with clock } }

end Stack

end NetStack
