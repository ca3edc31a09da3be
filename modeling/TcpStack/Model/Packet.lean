import TcpStack.Model.HyLib

/-!
# TcpStack — packets (`IPHeader.h`, `TcpHeader.h`, `Packet.cc`)

The low-level network packet: a simplified IP header, a TCP header and a payload. The
source keeps the payload as a pointer plus a `payload_size_`; the two are independent
fields, because `MakeSyncPacket` / `MakeFinPacket` set a size of one on a packet that has
no payload at all, so that SYN and FIN take one sequence number.

`protocol`, `data_offset`, `check_sum` and the `corrupted_` mark are written by nobody and
read by nobody in the modelled code, and are left out.
-/

namespace NetStack

variable [HyLib]

/-- `IPHeader`: only the two addresses are ever read. -/
structure IPHeader where
  sourceIp : String := ""
  destIp : String := ""
deriving DecidableEq, Repr

/-- `TcpHeader` with the source's defaults and field widths. -/
structure TcpHeader where
  sourcePort : UInt16 := 0
  destPort : UInt16 := 0
  seqNum : UInt32 := 0
  ackNum : UInt32 := 0
  ack : Bool := false
  windowSize : UInt16 := 0
  sync : Bool := false
  fin : Bool := false
  rst : Bool := false
deriving DecidableEq, Repr

/-- `Packet`. A null `payload_` is the empty list. -/
structure Packet where
  ipHeader : IPHeader
  tcpHeader : TcpHeader
  payload : List UInt8 := []
  payloadSize : UInt32 := 0
deriving DecidableEq, Repr

namespace Packet

/-- `Packet::InjectPayload`: a null pointer or a non-positive `int` size leaves the packet
as it is. -/
def injectPayload (p : Packet) (data : List UInt8) (size : Int32) : Packet :=
  if data = [] ∨ size ≤ 0 then p
  else { p with payload := data.take size.toNatClampNeg, payloadSize := size.toUInt32 }

/-- `Packet::InjectPayloadFromBuffer`: the payload is what the buffer hands out. -/
def injectPayloadFromBuffer (p : Packet) (srcBuffer : RingBuffer) (size : UInt32) :
    Packet × RingBuffer :=
  if size = 0 then ({ p with payloadSize := 0 }, srcBuffer)
  else
    let (data, srcBuffer) := srcBuffer.read size.toNat
    ({ p with payload := data, payloadSize := UInt32.ofNat data.length }, srcBuffer)

/-- `Packet::Copy`. The size is copied first, then the payload is injected; the `uint32`
size is passed as an `int`. -/
def copy (p : Packet) : Packet :=
  let copied : Packet :=
    { ipHeader := p.ipHeader, tcpHeader := p.tcpHeader, payloadSize := p.payloadSize }
  copied.injectPayload p.payload p.payloadSize.toInt32

/-! ## Dispatch

`TcpController::HandleReceivedPackets` looks at the flags in a fixed order; the class of a
packet is the handler that order picks. -/

/-- The handler a packet is dispatched to. -/
inductive Kind where
  | syn | synAck | fin | ack | rst | data
deriving DecidableEq, Repr

/-- The `if`-chain of `TcpController::HandleReceivedPackets`. -/
def kind (p : Packet) : Kind :=
  if p.tcpHeader.sync && !p.tcpHeader.ack then .syn
  else if p.tcpHeader.sync && p.tcpHeader.ack then .synAck
  else if p.tcpHeader.fin then .fin
  else if p.tcpHeader.ack then .ack
  else if p.tcpHeader.rst then .rst
  else .data

end Packet

end NetStack
