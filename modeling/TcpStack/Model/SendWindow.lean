import TcpStack.Model.Packet

/-!
# TcpStack — the send window (`SendWindow.cc`)

The queue of packets that were registered for sending and not acknowledged yet. Sequence
numbers and sizes are `uint32` and every sum wraps, as in the source. The number of queued
packets is not cut to 32 bits: a queue of `2^32` packets does not fit in memory.
-/

namespace NetStack

variable [HyLib]

/-- `kMaxDuplicatedAcksOrigin`. -/
def kMaxDuplicatedAcksOrigin : UInt32 := 3

/-- `SendWindow::SendWindowNode`. The retransmit counter is never read or written. -/
structure SendWindowNode where
  pkt : Packet
  rttWatch : StopWatch
deriving DecidableEq, Repr

/-- `SendWindow`; `pktsToAck` has its front at the head of the list. -/
structure SendWindow where
  sendBase : UInt32
  capacity : UInt32
  size : UInt32 := 0
  pktsToAck : List SendWindowNode := []
  lastAckedNum : UInt32 := 0
  duplicatedAcks : UInt32 := 0
  hasRetransmittedPkt : Bool := false
deriving DecidableEq, Repr

/-- `SendWindow::AckResult`. The round-trip time is `none` where the source returns its
uninitialised local (no packet was removed). -/
structure AckResult where
  ackRefreshed : Bool
  dupAck : Bool
  reTransmit : Bool
  rtt : Option Nat
deriving DecidableEq, Repr

namespace SendWindow

/-- `SendWindow::free_space`. -/
def freeSpace (w : SendWindow) : UInt32 :=
  if w.capacity > w.size then w.capacity - w.size else 0

/-- `SendWindow::NextSeqNumberToSend`. -/
def nextSeqNumberToSend (w : SendWindow) : UInt32 := w.sendBase + w.size

/-- `SendWindow::NumPacketsToAck`. -/
def numPacketsToAck (w : SendWindow) : Nat := w.pktsToAck.length

def setCapacity (w : SendWindow) (capacity : UInt32) : SendWindow := { w with capacity }

/-- The successful end of `SendWindow::SendPacket`: enqueue and start the stopwatch. -/
def enqueue (w : SendWindow) (clock : Nat) (newPkt : Packet) : SendWindow :=
  { w with
    pktsToAck := w.pktsToAck ++ [⟨newPkt, StopWatch.start clock⟩]
    size := w.size + newPkt.payloadSize }

/-- `SendWindow::SendPacket`. A window of capacity zero waives the room check. -/
def sendPacket (w : SendWindow) (clock : Nat) (newPkt : Packet) :
    Except Fatal (Bool × SendWindow) :=
  if w.freeSpace < newPkt.payloadSize ∧ w.capacity > 0 then .ok (false, w)
  else
    match w.pktsToAck.getLast? with
    | none =>
      if newPkt.tcpHeader.seqNum ≠ w.sendBase then .ok (false, w)
      else .ok (true, w.enqueue clock newPkt)
    | some last =>
      let lastSeqNum := last.pkt.tcpHeader.seqNum
      let lastPktLength := last.pkt.payloadSize
      if lastSeqNum + lastPktLength ≠ w.sendBase + w.size then .error .lastUnackedMismatch
      else if newPkt.tcpHeader.seqNum ≠ lastSeqNum + lastPktLength then .ok (false, w)
      else .ok (true, w.enqueue clock newPkt)

/-- The variables the loop of `SendWindow::NewAckedPacket` leaves behind. -/
structure AckLoop where
  pktsToAck : List SendWindowNode
  size : UInt32
  crtSeqNum : UInt32 := 0
  crtPktLength : UInt32 := 0
  rtt : Option Nat := none
deriving DecidableEq, Repr

/-- The loop of `SendWindow::NewAckedPacket`: pop the acknowledged packets. `sendBase` is
not updated while it runs. -/
def popAcked (clock : Nat) (sendBase ackNum : UInt32) (ackOverflow : Bool) :
    List SendWindowNode → AckLoop → Except Fatal AckLoop
  | [], l => .ok { l with pktsToAck := [] }
  | node :: rest, l =>
    let crtSeqNum := node.pkt.tcpHeader.seqNum
    let crtPktLength := node.pkt.payloadSize
    if crtSeqNum < ackNum ∨ (ackOverflow ∧ crtSeqNum ≥ sendBase) then
      if crtSeqNum + crtPktLength ≤ ackNum ∨
          (ackOverflow ∧ crtSeqNum + crtPktLength > ackNum) then
        popAcked clock sendBase ackNum ackOverflow rest
          { pktsToAck := rest
            size := l.size - crtPktLength
            crtSeqNum := crtSeqNum
            crtPktLength := crtPktLength
            rtt := some (node.rttWatch.pause clock).elapsedTime }
      else .error .ackOverlap
    else
      .ok { l with
        pktsToAck := node :: rest, crtSeqNum := crtSeqNum, crtPktLength := crtPktLength }

/-- `ack_overflow` of `SendWindow::NewAckedPacket`. -/
def ackOverflow (w : SendWindow) (ackNum : UInt32) : Bool :=
  ackNum < w.sendBase && ackNum ≤ w.sendBase + w.capacity

/-- The guard of the first branch of `SendWindow::NewAckedPacket`: the acknowledgement
moves the send base. -/
def ackAdvances (w : SendWindow) (ackNum : UInt32) : Bool :=
  w.sendBase < ackNum || w.ackOverflow ackNum

/-- `SendWindow::NewAckedPacket`. -/
def newAckedPacket (w : SendWindow) (g : Globals) (ackNum : UInt32) :
    Except Fatal (AckResult × SendWindow × Globals) :=
  if w.ackAdvances ackNum then do
    let l ← popAcked g.clock w.sendBase ackNum (w.ackOverflow ackNum) w.pktsToAck
      { pktsToAck := w.pktsToAck, size := w.size }
    let expectedNextAck :=
      if l.pktsToAck = [] then l.crtSeqNum + l.crtPktLength else l.crtSeqNum
    if ackNum ≠ expectedNextAck then .error .ackMismatch
    else
      let validRtt := !w.hasRetransmittedPkt
      .ok (⟨true, false, false, if validRtt then l.rtt else some 0⟩,
        { w with
          pktsToAck := l.pktsToAck
          size := l.size
          sendBase := ackNum
          lastAckedNum := ackNum
          duplicatedAcks := 0
          hasRetransmittedPkt := if l.pktsToAck = [] then false else w.hasRetransmittedPkt },
        { g with maxDuplicatedAcks := kMaxDuplicatedAcksOrigin })
  else if ackNum = w.sendBase then
    let duplicatedAcks := w.duplicatedAcks + 1
    if duplicatedAcks ≥ g.maxDuplicatedAcks then
      -- `max_duplicated_acks *= 1.5` goes through `double` and truncates
      .ok (⟨false, true, true, some 0⟩, { w with duplicatedAcks := 0 },
        { g with maxDuplicatedAcks := UInt32.ofNat (g.maxDuplicatedAcks.toNat * 3 / 2) })
    else
      .ok (⟨false, true, false, some 0⟩, { w with duplicatedAcks }, g)
  else .ok (⟨false, false, false, some 0⟩, w, g)

/-- `SendWindow::GetBasePakcketToReSend`. -/
def getBasePakcketToReSend (w : SendWindow) : Option Packet × SendWindow :=
  match w.pktsToAck with
  | [] => (none, w)
  | node :: _ => (some node.pkt.copy, { w with hasRetransmittedPkt := true })

end SendWindow

end NetStack
