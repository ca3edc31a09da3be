import TcpStack.Model.SendWindow
import TcpStack.Model.RecvWindow

/-!
# TcpStack — one TCP endpoint (`TcpController.cc`)

The controller is event driven: its threads wait on condition variables and run short
sections under mutexes. Each such section is a function on the controller's state here.
What a function hands to the network is appended to `pktSendBuffer`, what the host hands
to the controller waits in `pktRecvBuffer`.

* the packet handlers (`handleSYN` … `handleDataPacket`) and their dispatch,
* the receive pipeline (`streamDataToReceiveBuffer`, `readData`),
* the send pipeline (`writeData`, `sendBufferListener`, `sendFIN`),
* the timer callbacks (`timeoutReTransmitter`, `probeWindowSize`).

`HandleACK` and `SendFIN` take two mutexes one after the other. Both are split into their
two sections, so that the sections can also be interleaved.

Log output, the RTT estimate (`UpdateRTT` is never called) and the length of timeouts are
not modelled. `shutdown_` has no initializer in the source and is taken to start false.
-/

namespace NetStack

variable [HyLib]

/-! ## Constants and types -/

def kDefaultDataPacketSize : UInt32 := 10
def kInitialSSThresh : UInt32 := 8 * kDefaultDataPacketSize
def kDefaultWindowBase : UInt32 := 0
def kDefaultWindowSize : UInt32 := 100
def kDefaultSocketBufferSize : Nat := 100
def kEnableCongestionControl : Bool := false

/-- `TcpControllerKey`: the remote end is the "source" part. -/
structure TcpControllerKey where
  sourceIp : String := ""
  sourcePort : Int32 := 0
  destIp : String := ""
  destPort : Int32 := 0
deriving DecidableEq, Repr

structure TcpControllerOptions where
  sendBufferSize : Nat
  sendWindowBase : UInt32
  sendWindowSize : UInt32
  recvBufferSize : Nat
  recvWindowBase : UInt32
  recvWindowSize : UInt32
deriving DecidableEq, Repr

/-- `TcpController::TCP_STATE`. -/
inductive TcpState where
  | closed | synSent | established | listen | synRcvd | finWait1 | finWait2 | timeWait
  | closing | closeWait | lastAck
deriving DecidableEq, Repr

/-- `TcpController::PipeState`; `opened` is the source's `OPEN`. -/
inductive PipeState where
  | opened | eofNotConsumed | eofConsumed
deriving DecidableEq, Repr

/-- `TcpController::CongestionControlState`. -/
inductive CongestionControlState where
  | slowStart | congestionAvoidance | fastRecovery
deriving DecidableEq, Repr

/-- `TcpController`. `killArmed` stands for the detached `kill` thread of TIME_WAIT, which
calls `CloseAndDelete` three seconds later; `sending` says that the thread of `SendBufferListener`
has passed its wait for the connection. -/
structure TcpController where
  key : TcpControllerKey
  -- receive pipeline
  pktRecvBuffer : List Packet := []
  recvWindow : RecvWindow
  recvBuffer : RingBuffer
  pipeState : PipeState := .opened
  overflowPkts : List Packet := []
  -- send pipeline
  sendBuffer : RingBuffer
  sendWindow : SendWindow
  pktSendBuffer : List Packet := []
  sending : Bool := false
  -- timers
  timer : Timer := .new
  synTimer : Timer := .new
  finTimer : Timer := .new
  closeTimer : Timer := .new
  proberTimer : Timer := .new
  killArmed : Bool := false
  -- state machine
  state : TcpState := .closed
  -- congestion control
  ccState : CongestionControlState := .slowStart
  cwnd : UInt32 := kDefaultDataPacketSize
  ssthresh : UInt32 := kInitialSSThresh
  shutdown : Bool := false
deriving DecidableEq, Repr

namespace TcpController

/-- `TcpController::GetDefaultOptions`. -/
def getDefaultOptions : TcpControllerOptions where
  sendBufferSize := kDefaultSocketBufferSize
  sendWindowBase := kDefaultWindowBase
  sendWindowSize := kDefaultWindowSize
  recvBufferSize := kDefaultSocketBufferSize
  recvWindowBase := kDefaultWindowBase
  recvWindowSize := kDefaultWindowSize

/-- The constructor. -/
def new (key : TcpControllerKey) (options : TcpControllerOptions) : TcpController where
  key := key
  recvWindow := { recvBase := options.recvWindowBase, capacity := options.recvWindowSize }
  recvBuffer := RingBuffer.new options.recvBufferSize
  sendBuffer := RingBuffer.new options.sendBufferSize
  sendWindow := { sendBase := options.sendWindowBase, capacity := options.sendWindowSize }

/-- `TcpController::InConnectingState`. -/
def inConnectingState (c : TcpController) : Bool :=
  c.state = .closed || c.state = .synSent || c.state = .synRcvd

/-- `TcpController::InClosingState`. -/
def inClosingState (c : TcpController) : Bool :=
  c.state = .finWait1 || c.state = .finWait2 || c.state = .timeWait || c.state = .closing
    || c.state = .lastAck

/-! ## Making and sending packets -/

/-- The IP header every `Make…Packet` starts from. -/
def ipHeader (c : TcpController) : IPHeader :=
  { sourceIp := c.key.sourceIp, destIp := c.key.destIp }

/-- The TCP header every `Make…Packet` starts from. -/
def tcpHeader (c : TcpController) : TcpHeader :=
  { sourcePort := c.key.sourcePort.toUInt32.toUInt16
    destPort := c.key.destPort.toUInt32.toUInt16 }

/-- The `window_size` of outgoing packets: `recv_buffer_.free_space()` cut to 16 bits. -/
def advertisedWindow (c : TcpController) : UInt16 := UInt16.ofNat c.recvBuffer.freeSpace

/-- `TcpController::MakeDataPacket` from a pointer. -/
def makeDataPacket (c : TcpController) (seqNum : UInt32) (data : List UInt8) (size : Int32) :
    Packet :=
  ({ ipHeader := c.ipHeader, tcpHeader := { c.tcpHeader with seqNum } } : Packet).injectPayload
    data size

/-- `TcpController::MakeDataPacket` from the send buffer. -/
def makeDataPacketFromBuffer (c : TcpController) (seqNum : UInt32) (dataBuffer : RingBuffer)
    (size : UInt32) : Packet × RingBuffer :=
  ({ ipHeader := c.ipHeader
     tcpHeader := { c.tcpHeader with seqNum } } : Packet).injectPayloadFromBuffer dataBuffer size

/-- `TcpController::MakeAckPacket`. -/
def makeAckPacket (c : TcpController) (ackNum : UInt32) : Packet where
  ipHeader := c.ipHeader
  tcpHeader := { c.tcpHeader with ack := true, ackNum, windowSize := c.advertisedWindow }

/-- `TcpController::MakeSyncPacket`. -/
def makeSyncPacket (c : TcpController) (seqNum : UInt32) : Packet where
  ipHeader := c.ipHeader
  tcpHeader := { c.tcpHeader with sync := true, seqNum, windowSize := c.advertisedWindow }
  payloadSize := 1

/-- `TcpController::MakeFinPacket`. -/
def makeFinPacket (c : TcpController) (seqNum : UInt32) : Packet where
  ipHeader := c.ipHeader
  tcpHeader := { c.tcpHeader with fin := true, seqNum }
  payloadSize := 1

/-- `TcpController::MakeRstPacket`. -/
def makeRstPacket (c : TcpController) : Packet where
  ipHeader := c.ipHeader
  tcpHeader := { c.tcpHeader with rst := true }

/-- `TcpController::SendPacket`: a null packet is ignored. -/
def sendPacket (c : TcpController) : Option Packet → TcpController
  | none => c
  | some pkt => { c with pktSendBuffer := c.pktSendBuffer ++ [pkt] }

/-- `SendPacket(send_window_.GetBasePakcketToReSend())`. -/
def resendBase (c : TcpController) : TcpController :=
  let (pkt, sendWindow) := c.sendWindow.getBasePakcketToReSend
  { c with sendWindow }.sendPacket pkt

/-- `TcpController::ReceiveNewPacket`. -/
def receiveNewPacket (c : TcpController) (pkt : Packet) : TcpController :=
  { c with pktRecvBuffer := c.pktRecvBuffer ++ [pkt] }

/-- `TcpController::CloseAndDelete`, up to the tear-down it starts. -/
def closeAndDelete (c : TcpController) : TcpController := { c with shutdown := true }

/-- `TcpController::GetNewSendWindowSize`. -/
def getNewSendWindowSize (c : TcpController) (rwnd : UInt32) : UInt32 :=
  if kEnableCongestionControl then min rwnd c.cwnd else rwnd

/-! ## Connecting -/

/-- `TcpController::TryConnect`. -/
def tryConnect (c : TcpController) (g : Globals) : Except Fatal (Bool × TcpController) :=
  if c.state ≠ .closed then .ok (false, c)
  else do
    let syncPkt := c.makeSyncPacket c.sendWindow.sendBase
    let (sent, sendWindow) ← c.sendWindow.sendPacket g.clock syncPkt
    if !sent then .ok (false, c)
    else
      .ok (true, { c with
        sendWindow, state := .synSent, timer := c.timer.restart, synTimer := c.synTimer.restart }.sendPacket
          (some syncPkt.copy))

/-- The SYN-ACK of `HandleSYN`: a SYN packet that also acknowledges the client's SYN. -/
def makeSyncAckPacket (c : TcpController) (seqNum ackNum : UInt32) : Packet :=
  let pkt := c.makeSyncPacket seqNum
  { pkt with tcpHeader := { pkt.tcpHeader with ack := true, ackNum } }

/-- `TcpController::HandleSYN`. A non-empty send window is taken to mean that the SYN was
seen before. The chain that the receive window returns is not streamed. -/
def handleSYN (c : TcpController) (g : Globals) (pkt : Packet) : Except Fatal TcpController := do
  let clientSeqNum := pkt.tcpHeader.seqNum
  let (ackNum, _, recvWindow) ← c.recvWindow.receivePacket pkt
  if ackNum ≠ clientSeqNum + 1 then .error .synRecvBase
  else
    let c : TcpController := { c with recvWindow }
    if c.sendWindow.size > 0 then .ok c.resendBase
    else
      let serverSeqNum : UInt32 := 0
      let syncAckPkt := c.makeSyncAckPacket serverSeqNum ackNum
      let (sent, sendWindow) ← c.sendWindow.sendPacket g.clock syncAckPkt
      if !sent then .ok c
      else
        .ok ({ c with
          sendWindow, state := .synRcvd, timer := c.timer.restart, synTimer := c.synTimer.restart }.sendPacket
            (some syncAckPkt.copy))

/-- The state section of `TcpController::HandleACKSYN`, entered in SYN_SENT only. -/
def handleACKSYNConnect (c : TcpController) (g : Globals) (pkt : Packet) :
    Except Fatal (Globals × TcpController) := do
  let (_, sendWindow, g) ← c.sendWindow.newAckedPacket g pkt.tcpHeader.ackNum
  let newCapacity := c.getNewSendWindowSize pkt.tcpHeader.windowSize.toUInt32
  .ok (g, { c with
    synTimer := c.synTimer.stop
    timer := if sendWindow.numPacketsToAck = 0 then c.timer.stop else c.timer
    sendWindow := sendWindow.setCapacity newCapacity
    state := .established })

/-- `TcpController::HandleACKSYN`. The receive base is set on every copy of the SYN-ACK. -/
def handleACKSYN (c : TcpController) (g : Globals) (pkt : Packet) :
    Except Fatal (Globals × TcpController) := do
  let (g, c) ← if c.state = .synSent then c.handleACKSYNConnect g pkt else .ok (g, c)
  let recvBase := pkt.tcpHeader.seqNum + 1
  let c := { c with recvWindow := c.recvWindow.setRecvBase recvBase }
  .ok (g, c.sendPacket (some (c.makeAckPacket recvBase)))

/-! ## The receive pipeline -/

/-- The loop of `TcpController::PushOverflowedPacketsToSocketBuffer`. -/
def pushOverflowedLoop : List Packet → RingBuffer → List Packet × RingBuffer
  | [], recvBuffer => ([], recvBuffer)
  | pkt :: rest, recvBuffer =>
    if recvBuffer.freeSpace ≥ pkt.payloadSize.toNat then
      let (writen, recvBuffer) := recvBuffer.write (pkt.payload.take pkt.payloadSize.toNat)
      if writen > 0 then pushOverflowedLoop rest recvBuffer else (pkt :: rest, recvBuffer)
    else (pkt :: rest, recvBuffer)

/-- `TcpController::PushOverflowedPacketsToSocketBuffer`. -/
def pushOverflowedPacketsToSocketBuffer (c : TcpController) : TcpController :=
  let (overflowPkts, recvBuffer) := pushOverflowedLoop c.overflowPkts c.recvBuffer
  { c with overflowPkts, recvBuffer }

/-- The loop of `TcpController::StreamDataToReceiveBuffer`. -/
def streamLoop : List Packet → TcpController → Except Fatal TcpController
  | [], c => .ok c
  | pkt :: rest, c =>
    if pkt.tcpHeader.sync then .error .syncSpin
    else if pkt.tcpHeader.fin then .ok { c with pipeState := .eofNotConsumed }
    else if c.recvBuffer.freeSpace ≥ pkt.payloadSize.toNat then
      let (writen, recvBuffer) := c.recvBuffer.write (pkt.payload.take pkt.payloadSize.toNat)
      if writen = 0 then
        streamLoop rest { c with recvBuffer, overflowPkts := c.overflowPkts ++ [pkt] }
      else streamLoop rest { c with recvBuffer }
    else streamLoop rest { c with overflowPkts := c.overflowPkts ++ [pkt] }

/-- `TcpController::StreamDataToReceiveBuffer`. -/
def streamDataToReceiveBuffer (c : TcpController) (chain : List Packet) :
    Except Fatal TcpController :=
  streamLoop chain c.pushOverflowedPacketsToSocketBuffer

/-- `TcpController::ReceiveBufferListener`, one iteration past its wait. -/
def receiveBufferListener (c : TcpController) : TcpController :=
  if c.recvBuffer.full then c else c.pushOverflowedPacketsToSocketBuffer

/-- Deliver a packet to the receive window, stream the chain it completes and acknowledge:
the common end of `HandleDataPacket` and `HandleFIN`. The ACK is made last, because it
reports the free space that is left. -/
def receiveAndAck (c : TcpController) (pkt : Packet) : Except Fatal TcpController := do
  let (ackNum, chain, recvWindow) ← c.recvWindow.receivePacket pkt
  let c ← { c with recvWindow }.streamDataToReceiveBuffer chain
  .ok (c.sendPacket (some (c.makeAckPacket ackNum)))

/-- `TcpController::HandleDataPacket`. A packet without payload is a window probe. -/
def handleDataPacket (c : TcpController) (pkt : Packet) : Except Fatal TcpController :=
  if pkt.payloadSize = 0 then
    .ok (c.sendPacket (some (c.makeAckPacket c.recvWindow.recvBase)))
  else c.receiveAndAck pkt

/-- The state section of `TcpController::HandleFIN`. -/
def handleFINState (c : TcpController) : TcpController :=
  match c.state with
  | .established => { c with state := .closeWait }
  | .finWait2 => { c with state := .timeWait, killArmed := true }
  | .finWait1 => { c with state := .closing }
  | _ => c

/-- `TcpController::HandleFIN`: the state moves before the receive window is consulted. -/
def handleFIN (c : TcpController) (pkt : Packet) : Except Fatal TcpController :=
  c.handleFINState.receiveAndAck pkt

/-- `TcpController::ReadData`: `none` while the call blocks, otherwise the return value, the
bytes put in the caller's buffer, and the controller afterwards. -/
def readData (c : TcpController) (size : Nat) :
    Except Fatal (Option (Int × List UInt8 × TcpController)) :=
  if c.pipeState = .eofConsumed then .error .dataAfterEof
  else if ¬ (c.shutdown ∨ c.pipeState = .eofNotConsumed ∨ ¬ c.recvBuffer.empty) then .ok none
  else if c.shutdown then .ok (some (-1, [], c))
  else if c.pipeState ≠ .eofNotConsumed ∧ c.recvBuffer.empty then .ok (some (-1, [], c))
  else if c.pipeState = .eofNotConsumed ∧ c.recvBuffer.empty then
    .ok (some (0, [], { c with pipeState := .eofConsumed }))
  else
    let (data, recvBuffer) := c.recvBuffer.read size
    .ok (some (data.length, data, { c with recvBuffer }))

/-! ## Acknowledgements -/

/-- The send-window section of `TcpController::HandleACK`, with its result
`send_window_empty`. -/
def handleACKWindow (c : TcpController) (g : Globals) (pkt : Packet) :
    Except Fatal (Bool × Globals × TcpController) := do
  let (ackRe, sendWindow, g) ← c.sendWindow.newAckedPacket g pkt.tcpHeader.ackNum
  let c := { c with sendWindow }
  let c := if ackRe.reTransmit then c.resendBase else c
  let c := { c with
    timer := if c.sendWindow.numPacketsToAck = 0 then c.timer.stop else c.timer.restart }
  let newCapacity := c.getNewSendWindowSize pkt.tcpHeader.windowSize.toUInt32
  let c := { c with
    sendWindow := c.sendWindow.setCapacity newCapacity
    proberTimer := if newCapacity > 0 then c.proberTimer.stop else c.proberTimer }
  .ok (c.sendWindow.numPacketsToAck == 0, g, c)

/-- The state section of `TcpController::HandleACK`. -/
def handleACKState (c : TcpController) (sendWindowEmpty : Bool) : TcpController :=
  if c.state = .synRcvd then { c with state := .established, synTimer := c.synTimer.stop }
  else if c.state = .finWait1 ∧ sendWindowEmpty then
    { c with state := .finWait2, finTimer := c.finTimer.stop }
  else if c.state = .lastAck ∧ sendWindowEmpty then
    { c with state := .closed, finTimer := c.finTimer.stop }.closeAndDelete
  else if c.state = .closing then { c with state := .timeWait, killArmed := true }
  else c

/-- `TcpController::HandleACK`. -/
def handleACK (c : TcpController) (g : Globals) (pkt : Packet) :
    Except Fatal (Globals × TcpController) := do
  let (sendWindowEmpty, g, c) ← c.handleACKWindow g pkt
  .ok (g, c.handleACKState sendWindowEmpty)

/-! ## Dispatch -/

/-- One round of the loop of `TcpController::HandleReceivedPackets`. -/
def handlePacket (c : TcpController) (g : Globals) (pkt : Packet) :
    Except Fatal (Globals × TcpController) :=
  match pkt.kind with
  | .syn => (c.handleSYN g pkt).map (g, ·)
  | .synAck => c.handleACKSYN g pkt
  | .fin => (c.handleFIN pkt).map (g, ·)
  | .ack => c.handleACK g pkt
  | .rst => .ok (g, c.closeAndDelete)
  | .data => (c.handleDataPacket pkt).map (g, ·)

/-- The loop of `TcpController::HandleReceivedPackets`. -/
def handleReceivedPackets (c : TcpController) (g : Globals) :
    List Packet → Except Fatal (Globals × TcpController)
  | [] => .ok (g, c)
  | pkt :: newPackets => do
    let (g, c) ← c.handlePacket g pkt
    c.handleReceivedPackets g newPackets

/-! ## The send pipeline -/

/-- `TcpController::WriteData`: `none` while the call blocks, otherwise the return value and
the controller afterwards. -/
def writeData (c : TcpController) (buf : List UInt8) : Option (Int × TcpController) :=
  if c.inClosingState then some (-1, c)
  else if ¬ (c.shutdown ∨ ¬ c.sendBuffer.full) then none
  else if c.shutdown then some (-1, c)
  else
    let (writen, sendBuffer) := c.sendBuffer.write buf
    some (writen, { c with sendBuffer })

/-- Take `size` bytes from the send buffer, register them as a packet and send it. When the
window refuses the packet its bytes are already gone from the buffer. -/
def sendDataPacket (c : TcpController) (clock : Nat) (size : UInt32) (restartTimer : Bool) :
    Except Fatal TcpController := do
  let (newDataPkt, sendBuffer) :=
    c.makeDataPacketFromBuffer c.sendWindow.nextSeqNumberToSend c.sendBuffer size
  let c := { c with sendBuffer }
  let (sent, sendWindow) ← c.sendWindow.sendPacket clock newDataPkt
  if !sent then .ok c
  else
    .ok ({ c with
      sendWindow, timer := if restartTimer then c.timer.restart else c.timer }.sendPacket
        (some newDataPkt.copy))

/-- The loop over the full packets of one `SendBufferListener` iteration. -/
def sendFullPackets (clock : Nat) : Nat → TcpController → Except Fatal TcpController
  | 0, c => .ok c
  | numPkts + 1, c => do
    let c ← c.sendDataPacket clock kDefaultDataPacketSize (c.sendWindow.numPacketsToAck == 0)
    sendFullPackets clock numPkts c

/-- The part of a `TcpController::SendBufferListener` iteration that packs and sends data. -/
def packetise (c : TcpController) (clock : Nat) : Except Fatal TcpController := do
  let sizeToSend := min c.sendWindow.freeSpace.toNat c.sendBuffer.size
  let numPkts := sizeToSend / kDefaultDataPacketSize.toNat
  let lastPktSize := sizeToSend % kDefaultDataPacketSize.toNat
  let c ← sendFullPackets clock numPkts c
  if lastPktSize > 0 then
    c.sendDataPacket clock (UInt32.ofNat lastPktSize) (c.sendWindow.size == 0)
  else .ok c

/-- An iteration of the loop of `TcpController::SendBufferListener` past its waits. -/
def sendBufferListenerBody (c : TcpController) (clock : Nat) : Except Fatal TcpController :=
  if c.sendWindow.freeSpace ≤ 0 ∧ c.sendWindow.capacity > 0 then .ok c
  else if c.sendWindow.capacity = 0 then
    .ok { c with
      proberTimer := if c.proberTimer.isStarted then c.proberTimer else c.proberTimer.restart }
  else c.packetise clock

/-- The wait on the send window in `TcpController::SendBufferListener`. -/
def sendWindowWait (c : TcpController) : Bool :=
  c.sendWindow.freeSpace > 0 || (c.sendWindow.capacity ≤ 0 && !c.proberTimer.isStarted)

/-- One iteration of the loop of `TcpController::SendBufferListener`; it changes nothing while one
of its waits is not satisfied. -/
def sendBufferListenerLoop (c : TcpController) (clock : Nat) : Except Fatal TcpController :=
  if !c.sendWindowWait || c.sendBuffer.empty then .ok c else c.sendBufferListenerBody clock

/-- `TcpController::SendBufferListener`. The wait for the connection comes before the loop, and is
made once. -/
def sendBufferListener (c : TcpController) (clock : Nat) : Except Fatal TcpController :=
  if c.shutdown || (!c.sending && c.inConnectingState) then .ok c
  else { c with sending := true }.sendBufferListenerLoop clock

/-- `TcpController::ProbeWindowSize`. -/
def probeWindowSize (c : TcpController) : TcpController :=
  if c.sendWindow.capacity = 0 then
    c.sendPacket (some (c.makeDataPacket c.sendWindow.nextSeqNumberToSend [] 0).copy)
  else c

/-- `TcpController::TimeoutReTransmitter`. -/
def timeoutReTransmitter (c : TcpController) : TcpController :=
  let c := if c.sendWindow.numPacketsToAck > 0 then c.resendBase else c
  { c with
    ssthresh := c.cwnd / 2, cwnd := kDefaultDataPacketSize, ccState := .slowStart }

/-! ## Closing -/

/-- Whether `TcpController::TryShutDown` queues a `SendFIN` task. -/
def tryShutDown (c : TcpController) : Bool := !c.inClosingState

/-- The send-window section of `TcpController::SendFIN`: make room for the FIN and register
it. -/
def sendFINWindow (c : TcpController) (clock : Nat) : Except Fatal (Packet × TcpController) := do
  let sendWindow := c.sendWindow.setCapacity (c.sendWindow.size + 1)
  let finPkt := c.makeFinPacket sendWindow.nextSeqNumberToSend
  let (sent, sendWindow) ← sendWindow.sendPacket clock finPkt
  if !sent then .error .finRefused else .ok (finPkt, { c with sendWindow })

/-- The state section of `TcpController::SendFIN` and the sending after it. In any state but
ESTABLISHED and CLOSE_WAIT the function returns with an error, and the FIN stays registered. -/
def sendFINState (c : TcpController) (finPkt : Packet) : TcpController :=
  let sent (c : TcpController) : TcpController :=
    { c with timer := c.timer.restart, finTimer := c.finTimer.restart }.sendPacket (some finPkt.copy)
  match c.state with
  | .established => sent { c with state := .finWait1 }
  | .closeWait => sent { c with state := .lastAck }
  | _ => c

/-- `TcpController::SendFIN`, past its wait for the send buffer to drain. -/
def sendFIN (c : TcpController) (clock : Nat) : Except Fatal TcpController :=
  if c.shutdown then .ok c
  else do
    let (finPkt, c) ← c.sendFINWindow clock
    .ok (c.sendFINState finPkt)

/-- The wait of `TcpController::SendFIN`. -/
def sendFINWait (c : TcpController) : Bool := c.shutdown || c.sendBuffer.empty

/-- The receive buffer section of a round of `TcpController::SendRSTForClosedConnection`. -/
def clearReceiveBuffer (c : TcpController) : TcpController :=
  { c with recvBuffer := c.recvBuffer.clear }

/-- The state section of a round of `TcpController::SendRSTForClosedConnection`, and the sending
behind it. Whatever the state was, it is CLOSED now. -/
def sendRSTForClosedConnection (c : TcpController) : TcpController :=
  { c with state := .closed, closeTimer := c.closeTimer.restart }.sendPacket (some c.makeRstPacket)

/-- A timer whose callback is `CloseAndDelete` is running: `syn_timer_`, `fin_timer_`,
`close_timer_`, or the `kill` thread of TIME_WAIT. -/
def closeAndDeleteDue (c : TcpController) : Bool :=
  c.synTimer.isStarted || c.finTimer.isStarted || c.closeTimer.isStarted || c.killArmed

end TcpController

end NetStack
