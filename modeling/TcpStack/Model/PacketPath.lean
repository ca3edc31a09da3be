import TcpStack.Model.Host

/-!
# TcpStack — the packet path (`PacketQueue.cc`, `BaseChannel.cc`)

The way of a packet from `TcpController::SendPacket` on one host to the receive queue of a
controller on the other. Seven threads move packets along it, each with a batch of its own
between two queues:

* `PacketSendBufferListener` — from the send queue of a controller to that of the host;
* `Host::PacketsSendListener` — on to the channel, where `BaseChannel::Send` may drop them;
* `BaseChannel::WaitingForPackets` — from the channel to the receive queue of the other host;
* `Host::PacketsReceiveListener` — on to the controllers, one packet at a time;
* `PacketReceiveBufferListener` — out of the receive queue of a controller.

What a controller does with packets is not part of this system: it may send any packet at any
time. A packet carries its `Origin`, which is not part of the source and is never looked at.
`kPacketCorruptRatio` is zero, and a batch that a thread fetches is empty before.
-/

namespace NetStack

variable [HyLib]

/-- Who made a packet. -/
inductive Origin where
  /-- The controller of the key passed it to `SendPacket`, as packet number `index`. -/
  | sent (key : TcpControllerKey) (index : ℕ)
  /-- `Host::SendBackRST`. -/
  | rst
  /-- The copy of a SYN that `Host::HandleNewConnection` makes. -/
  | copy
deriving DecidableEq, Repr

/-- A packet and where it comes from. -/
structure TracedPacket where
  pkt : Packet
  origin : Origin
deriving DecidableEq, Repr

/-- The packet was passed to `SendPacket`. -/
def TracedPacket.isSent (t : TracedPacket) : Bool :=
  match t.origin with
  | .sent .. => true
  | _ => false

/-- The header fields that every `Make…Packet` takes from the key of its controller. -/
def TcpControllerKey.stamp (key : TcpControllerKey) (pkt : Packet) : Packet :=
  { pkt with
    ipHeader := { sourceIp := key.sourceIp, destIp := key.destIp }
    tcpHeader := { pkt.tcpHeader with
      sourcePort := key.sourcePort.toUInt32.toUInt16
      destPort := key.destPort.toUInt32.toUInt16 } }

/-- The key of the other end of a connection. -/
def TcpControllerKey.mirror (key : TcpControllerKey) : TcpControllerKey :=
  ⟨key.destIp, key.destPort, key.sourceIp, key.sourcePort⟩

/-- What is left of a batch when the packets with `true` in `dropped` are lost. -/
def survivors {α : Type*} : List α → List Bool → List α
  | [], _ => []
  | pkts, [] => pkts
  | pkt :: pkts, drop :: dropped =>
    if drop then survivors pkts dropped else pkt :: survivors pkts dropped

/-- The two ends of the packet path of a controller. -/
structure PacketEnds where
  /-- `pkt_send_buffer_`. -/
  pktSendBuffer : List TracedPacket := []
  /-- The batch of `PacketSendBufferListener`. -/
  packetsToSend : List TracedPacket := []
  /-- `pkt_recv_buffer_`. -/
  pktRecvBuffer : List TracedPacket := []
  /-- All packets passed to `SendPacket`. -/
  sent : List TracedPacket := []
  /-- All packets taken from `pkt_recv_buffer_`. -/
  dequeued : List TracedPacket := []
deriving DecidableEq, Repr

/-- A host with its outgoing channel, as far as packets are concerned. -/
structure Station where
  connections : TcpControllerKey → Option PacketEnds := fun _ => none
  listeners : LocalLayerThreeKey → Bool := fun _ => false
  openFileIdPool : NumPool
  sendPktQueue : List TracedPacket := []
  /-- The batch of `PacketsSendListener`. -/
  packetsToSend : List TracedPacket := []
  /-- `pkt_buffer_` of the channel. -/
  pktBuffer : List TracedPacket := []
  /-- The batch of `WaitingForPackets`. -/
  waiting : List TracedPacket := []
  recvPktQueue : List TracedPacket := []
  /-- The batch of `PacketsReceiveListener`, with the iterations that are left. -/
  newPackets : List TracedPacket := []
  left : ℕ := 0

namespace Station

/-- The constructor and `Host::Initialize`. -/
def new : Station where
  openFileIdPool := NumPool.new 0 255

/-- The packets of a controller; a controller that is not there has none. -/
def ends (h : Station) (key : TcpControllerKey) : PacketEnds := (h.connections key).getD {}

/-- Write back the packets of a controller, if it is there. -/
def modifyEnds (h : Station) (key : TcpControllerKey) (f : PacketEnds → PacketEnds) : Station :=
  { h with connections := Function.update h.connections key ((h.connections key).map f) }

/-! ## Sending -/

/-- `TcpController::SendPacket`. -/
def sendPacket (h : Station) (key : TcpControllerKey) (pkt : Packet) : Station :=
  h.modifyEnds key fun c =>
    let t : TracedPacket := ⟨key.stamp pkt, .sent key c.sent.length⟩
    { c with pktSendBuffer := c.pktSendBuffer ++ [t], sent := c.sent ++ [t] }

/-- `DeQueueAllTo` in `TcpController::PacketSendBufferListener`. -/
def packetSendBufferListener (h : Station) (key : TcpControllerKey) : Station :=
  h.modifyEnds key fun c =>
    if c.packetsToSend = [] then { c with packetsToSend := c.pktSendBuffer, pktSendBuffer := [] }
    else c

/-- `Host::MultiplexPacketsFromTcp`. -/
def multiplexPacketsFromTcp (h : Station) (key : TcpControllerKey) : Station :=
  { h with sendPktQueue := h.sendPktQueue ++ (h.ends key).packetsToSend }.modifyEnds key fun c =>
    { c with packetsToSend := [] }

/-- `DeQueueAllTo` in `Host::PacketsSendListener`. -/
def packetsSendListener (h : Station) : Station :=
  if h.packetsToSend = [] then { h with packetsToSend := h.sendPktQueue, sendPktQueue := [] } else h

/-- `BaseChannel::Send`. -/
def channelSend (h : Station) (dropped : List Bool) : Station :=
  { h with pktBuffer := h.pktBuffer ++ survivors h.packetsToSend dropped, packetsToSend := [] }

/-- `DeQueueAllTo` in `BaseChannel::WaitingForPackets`. -/
def waitingForPackets (h : Station) : Station :=
  if h.waiting = [] then { h with waiting := h.pktBuffer, pktBuffer := [] } else h

/-! ## Receiving -/

/-- `DeQueueAllTo` in `Host::PacketsReceiveListener`. -/
def packetsReceiveListener (h : Station) : Station :=
  if h.newPackets = [] then
    { h with newPackets := h.recvPktQueue, recvPktQueue := [], left := h.recvPktQueue.length }
  else h

/-- `TcpController::ReceiveNewPacket`. -/
def receiveNewPacket (h : Station) (t : TracedPacket) : Station :=
  h.modifyEnds t.pkt.tcpKey fun c => { c with pktRecvBuffer := c.pktRecvBuffer ++ [t] }

/-- `connections_.emplace`. -/
def emplaceConnection (h : Station) (key : TcpControllerKey) : Station :=
  { h with connections := emplace h.connections key {} }

/-- `Host::HandleNewConnection`. -/
def handleNewConnection (h : Station) (pkt : Packet) : Bool × Station :=
  if !pkt.tcpHeader.sync then (false, h)
  else if !h.listeners ⟨pkt.ipHeader.sourceIp, pkt.tcpHeader.sourcePort.toUInt32.toInt32⟩ then
    (false, h)
  else
    match h.openFileIdPool.allocate with
    | (id, openFileIdPool) =>
      let h := { h with openFileIdPool }
      if id < 0 then (false, h)
      else (true, (h.emplaceConnection pkt.tcpKey).receiveNewPacket ⟨pkt.copy, .copy⟩)

/-- `Host::SendBackRST`. -/
def sendBackRST (h : Station) (key : TcpControllerKey) : Station :=
  { h with
    sendPktQueue := h.sendPktQueue ++ [
      ⟨key.stamp { ipHeader := {}, tcpHeader := { rst := true } }, .rst⟩] }

/-- One iteration of `Host::DemultiplexPacketsToTcps`. A packet that is rejected stays at the
front; what is left when the loop ends is lost with the batch. -/
def demultiplexNext (h : Station) : Station :=
  match h.left, h.newPackets with
  | 0, _ => { h with newPackets := [] }
  | _ + 1, [] => { h with left := 0 }
  | left + 1, t :: newPackets =>
    if (h.connections t.pkt.tcpKey).isSome then { h with left, newPackets }.receiveNewPacket t
    else
      match h.handleNewConnection t.pkt with
      | (true, h) => { h with left, newPackets }.receiveNewPacket t
      | (false, h) =>
        { (if t.pkt.tcpHeader.rst then h else h.sendBackRST t.pkt.tcpKey) with left }

/-- `DeQueueAllTo` in `TcpController::PacketReceiveBufferListener`. -/
def packetReceiveBufferListener (h : Station) (key : TcpControllerKey) : Station :=
  h.modifyEnds key fun c =>
    { c with dequeued := c.dequeued ++ c.pktRecvBuffer, pktRecvBuffer := [] }

/-! ## Controllers, listeners and files -/

/-- A new listener. -/
def listen (h : Station) (key : LocalLayerThreeKey) : Station :=
  { h with listeners := Function.update h.listeners key true }

/-- A system call creates an open file. -/
def createNewSocket (h : Station) : Station :=
  { h with openFileIdPool := h.openFileIdPool.allocate.2 }

/-- `Host::DeleteTcpConnection`. -/
def deleteTcpConnection (h : Station) (key : TcpControllerKey) : Station :=
  { h with connections := Function.update h.connections key none }

/-- The steps of a host and its channel. -/
inductive Action where
  | sendPacket (key : TcpControllerKey) (pkt : Packet)
  | packetSendBufferListener (key : TcpControllerKey)
  | multiplexPacketsFromTcp (key : TcpControllerKey)
  | packetsSendListener
  | channelSend (dropped : List Bool)
  | waitingForPackets
  | packetsReceiveListener
  | demultiplexNext
  | packetReceiveBufferListener (key : TcpControllerKey)
  /-- `Host::SocketConnect` constructs a controller. -/
  | emplaceConnection (key : TcpControllerKey)
  | listen (key : LocalLayerThreeKey)
  | createNewSocket
  | deleteTcpConnection (key : TcpControllerKey)
deriving DecidableEq

/-- One step of a host or its channel. -/
def step (h : Station) : Action → Station
  | .sendPacket key pkt => h.sendPacket key pkt
  | .packetSendBufferListener key => h.packetSendBufferListener key
  | .multiplexPacketsFromTcp key => h.multiplexPacketsFromTcp key
  | .packetsSendListener => h.packetsSendListener
  | .channelSend dropped => h.channelSend dropped
  | .waitingForPackets => h.waitingForPackets
  | .packetsReceiveListener => h.packetsReceiveListener
  | .demultiplexNext => h.demultiplexNext
  | .packetReceiveBufferListener key => h.packetReceiveBufferListener key
  | .emplaceConnection key => h.emplaceConnection key
  | .listen key => h.listen key
  | .createNewSocket => h.createNewSocket
  | .deleteTcpConnection key => h.deleteTcpConnection key

end Station

/-! ## Two hosts -/

/-- The two hosts, each with the channel to the other. -/
abbrev PacketPath : Type := Bool → Station

namespace PacketPath

/-- A step of one side, or its channel calls `Host::MovePacketsFromChannel` of the other. -/
inductive Event where
  | station (side : Bool) (a : Station.Action)
  | movePacketsFromChannel (side : Bool)
deriving DecidableEq

/-- Two hosts that were just started. -/
def init : PacketPath := fun _ => Station.new

/-- One step of the two hosts and their channels. -/
def step (n : PacketPath) : Event → Except Fatal PacketPath
  | .station side a => .ok (Function.update n side ((n side).step a))
  | .movePacketsFromChannel side =>
    .ok (Function.update
      (Function.update n (!side)
        { n !side with recvPktQueue := (n !side).recvPktQueue ++ (n side).waiting })
      side { n side with waiting := [] })

end PacketPath

end NetStack
