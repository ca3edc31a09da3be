import TcpStack.Model.Packet

/-!
# TcpStack — the receive window (`RecvWindow.cc`)

The source keeps the out-of-order packets in a doubly linked list behind a dummy head; the
list of its packets from `head_->next` on is the state here. A returned chain of nodes is
the list of its packets, a null chain the empty list.
-/

namespace NetStack

/-- `RecvWindow`; `pkts` is the linked list from `head_->next` on. -/
structure RecvWindow where
  recvBase : UInt32
  capacity : UInt32
  pkts : List Packet := []
deriving DecidableEq, Repr

namespace RecvWindow

/-- The insertion walk of `RecvWindow::ReceivePacket`: skip the nodes with a smaller
sequence number, checking that none of them overlaps the new packet. Returns the nodes
before and after the insertion point. -/
def insertWalk (newPkt : Packet) : List Packet → Except Fatal (List Packet × List Packet)
  | [] => .ok ([], [])
  | next :: rest =>
    if newPkt.tcpHeader.seqNum > next.tcpHeader.seqNum then
      if newPkt.tcpHeader.seqNum ≥ next.tcpHeader.seqNum + next.payloadSize then do
        let (before, after) ← insertWalk newPkt rest
        return (next :: before, after)
      else .error .rangesOverlap
    else .ok ([], next :: rest)

/-- The delivery walk of `RecvWindow::ReceivePacket`: follow the nodes behind `pkt` as long
as each continues the one before. Returns the nodes of the chain behind `pkt` and the nodes
that stay in the window. -/
def chainWalk (pkt : Packet) : List Packet → List Packet × List Packet
  | [] => ([], [])
  | next :: rest =>
    if pkt.tcpHeader.seqNum + pkt.payloadSize = next.tcpHeader.seqNum then
      let (chain, left) := chainWalk next rest
      (next :: chain, left)
    else ([], next :: rest)

/-- The sequence number behind a packet. -/
def endOf (pkt : Packet) : UInt32 := pkt.tcpHeader.seqNum + pkt.payloadSize

/-- The check behind the insertion point: the new packet may not run into the next node. -/
def overlapsNext (newPkt : Packet) (after : List Packet) : Bool :=
  match after with
  | [] => false
  | next :: _ => !(newPkt.tcpHeader.seqNum + newPkt.payloadSize ≤ next.tcpHeader.seqNum)

/-- `RecvWindow::ReceivePacket`: the acknowledgement number, the chain to deliver, and the
window afterwards. -/
def receivePacket (w : RecvWindow) (newPkt : Packet) :
    Except Fatal (UInt32 × List Packet × RecvWindow) :=
  if newPkt.tcpHeader.seqNum < w.recvBase then .ok (w.recvBase, [], w)
  else do
    let (before, after) ← insertWalk newPkt w.pkts
    if overlapsNext newPkt after then .error .rangesOverlap
    else if newPkt.tcpHeader.seqNum = w.recvBase then
      if before ≠ [] then .error .notAtHead
      else
        let (chain, left) := chainWalk newPkt after
        let recvBase := endOf (chain.getLast?.getD newPkt)
        .ok (recvBase, newPkt :: chain, { w with recvBase, pkts := left })
    else .ok (w.recvBase, [], { w with pkts := before ++ newPkt :: after })

/-- `set_recv_base`. -/
def setRecvBase (w : RecvWindow) (recvBase : UInt32) : RecvWindow := { w with recvBase }

end RecvWindow

end NetStack
