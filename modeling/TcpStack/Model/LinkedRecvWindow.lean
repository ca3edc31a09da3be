import TcpStack.Lib.LinkedList
import TcpStack.Model.RecvWindow

/-!
# TcpStack — the receive window with its pointers (`RecvWindow.h`, `RecvWindow.cc`)

`RecvWindow` as the source has it: the kept packets are `RecvWindowNode`s of a doubly linked
list behind a dummy head, and `ReceivePacket` walks it, inserts into it and cuts a chain out
of it by writing `prev` and `next`. `Model/RecvWindow.lean` has the same function over the
list of packets; the proofs relate the two.

A `shared_ptr` is an address or null. Nodes are never given back to the heap, so an address
is never used twice. A loop that takes more steps than there are nodes runs in a circle.
-/

namespace NetStack

open LinkedList

/-- What can go wrong in code that follows pointers. -/
inductive Fault where
  /-- A failed `SANITY_CHECK`. -/
  | fatal (f : Fatal)
  /-- A null pointer is followed. -/
  | nullPointer
  /-- A loop follows a circle of pointers. -/
  | endless
deriving DecidableEq, Repr

/-- `RecvWindow` with its `RecvWindowNode`s; the dummy head has a null `pkt`. -/
structure LinkedRecvWindow where
  recvBase : UInt32
  capacity : UInt32
  heap : Heap (Option Packet)
  head : ℕ
deriving DecidableEq, Repr

namespace LinkedRecvWindow

/-- `RecvWindow(recv_base)`, with `TcpWindow::kDefaultWindowSize`. -/
def new (recvBase : UInt32) (capacity : UInt32 := 65536) : LinkedRecvWindow :=
  { recvBase, capacity, heap := [⟨none, none, none⟩], head := 0 }

/-- `*node`. -/
def deref (heap : Heap (Option Packet)) (node : ℕ) : Except Fault (Node (Option Packet)) :=
  match heap[node]? with
  | some n => .ok n
  | none => .error .nullPointer

/-- `*node->pkt`. -/
def derefPkt (heap : Heap (Option Packet)) (node : ℕ) : Except Fault Packet := do
  match (← deref heap node).val with
  | some pkt => .ok pkt
  | none => .error .nullPointer

/-- The first `while` loop of `ReceivePacket`: the node behind which the new packet goes. -/
def insertWalk (heap : Heap (Option Packet)) (newPkt : Packet) : ℕ → ℕ → Except Fault ℕ
  | 0, _ => .error .endless
  | fuel + 1, node => do
    match (← deref heap node).next with
    | none => .ok node
    | some next =>
      let nextPkt ← derefPkt heap next
      if newPkt.tcpHeader.seqNum > nextPkt.tcpHeader.seqNum then
        if newPkt.tcpHeader.seqNum ≥ nextPkt.tcpHeader.seqNum + nextPkt.payloadSize then
          insertWalk heap newPkt fuel next
        else .error (.fatal .rangesOverlap)
      else .ok node

/-- The second `while` loop of `ReceivePacket`: the last node of the chain to deliver. -/
def chainWalk (heap : Heap (Option Packet)) : ℕ → ℕ → Except Fault ℕ
  | 0, _ => .error .endless
  | fuel + 1, node => do
    match (← deref heap node).next with
    | none => .ok node
    | some next =>
      let crtPkt ← derefPkt heap node
      let nextPkt ← derefPkt heap next
      if crtPkt.tcpHeader.seqNum + crtPkt.payloadSize = nextPkt.tcpHeader.seqNum then
        chainWalk heap fuel next
      else .ok node

/-- The middle of `ReceivePacket`: link `newNode` in behind `node`. The second range check
stands between the writes. -/
def insertAfter (heap : Heap (Option Packet)) (newPkt : Packet) (newNode node : ℕ) :
    Except Fault (Heap (Option Packet)) := do
  let next := (← deref heap node).next
  let heap := setPrevAt (setNext heap newNode next) next (some newNode)
  match next with
  | none => .ok (setNext (setPrev heap newNode (some node)) node (some newNode))
  | some next => do
    let nextPkt ← derefPkt heap next
    if !(newPkt.tcpHeader.seqNum + newPkt.payloadSize ≤ nextPkt.tcpHeader.seqNum) then
      .error (.fatal .rangesOverlap)
    else .ok (setNext (setPrev heap newNode (some node)) node (some newNode))

/-- The end of `ReceivePacket`: cut the chain from `newNode` to `node` out of the list. -/
def cutChain (heap : Heap (Option Packet)) (head newNode node : ℕ) :
    Except Fault (Heap (Option Packet)) := do
  let next := (← deref heap node).next
  let heap := setPrevAt (setNext heap head next) next (some head)
  .ok (setNext (setPrev heap newNode none) node none)

/-- `ReceivePacket` for the packet at `recv_base_`: hand over the chain that starts with it. -/
def deliverFrom (w : LinkedRecvWindow) (heap : Heap (Option Packet)) (newNode : ℕ) :
    Except Fault (UInt32 × Option ℕ × LinkedRecvWindow) := do
  let first := (← deref heap w.head).next
  if first ≠ some newNode then .error (.fatal .notAtHead)
  else do
    let node ← chainWalk heap heap.length newNode
    let heap ← cutChain heap w.head newNode node
    let last ← derefPkt heap node
    let recvBase := last.tcpHeader.seqNum + last.payloadSize
    .ok (recvBase, some newNode, { w with recvBase, heap })

/-- `RecvWindow::ReceivePacket`: the acknowledgement number and a pointer to the chain to
deliver. -/
def receivePacket (w : LinkedRecvWindow) (newPkt : Packet) :
    Except Fault (UInt32 × Option ℕ × LinkedRecvWindow) :=
  if newPkt.tcpHeader.seqNum < w.recvBase then .ok (w.recvBase, none, w)
  else do
    let newNode := w.heap.length
    let heap := w.heap ++ [⟨some newPkt, none, none⟩]
    let node ← insertWalk heap newPkt heap.length w.head
    let heap ← insertAfter heap newPkt newNode node
    if newPkt.tcpHeader.seqNum = w.recvBase then w.deliverFrom heap newNode
    else .ok (w.recvBase, none, { w with heap })

/-! ## Reading the window -/

/-- The packets from a pointer on, following `next`. -/
def packetsFrom (heap : Heap (Option Packet)) : ℕ → Option ℕ → List Packet
  | 0, _ => []
  | _ + 1, none => []
  | fuel + 1, some a =>
    match heap[a]? with
    | none => []
    | some n => n.val.toList ++ packetsFrom heap fuel n.next

/-- The packets in the window's list. -/
def packets (w : LinkedRecvWindow) : List Packet :=
  packetsFrom w.heap w.heap.length (some w.head)

end LinkedRecvWindow

end NetStack
