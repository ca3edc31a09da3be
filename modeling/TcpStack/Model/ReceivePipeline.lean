import TcpStack.Model.TcpController

/-!
# TcpStack — the receive pipeline as a system of its own

`StreamDataToReceiveBuffer`, `ReceiveBufferListener` and `ReadData` run in different threads, each
under `recv_buffer_mutex_`, so their steps come in any order. The pipeline is a controller with a
record of the bytes that went in and came out.
-/

namespace NetStack

variable [HyLib]

/-- A controller, the bytes streamed to it and the bytes read from it. -/
structure ReceivePipeline where
  con : TcpController
  streamed : List UInt8 := []
  readOut : List UInt8 := []
deriving DecidableEq, Repr

/-- The steps under `recv_buffer_mutex_`. -/
inductive PipelineStep where
  /-- `StreamDataToReceiveBuffer`. -/
  | streamData (chain : List Packet)
  /-- An iteration of `ReceiveBufferListener`. -/
  | listener
  /-- `ReadData`. -/
  | readData (size : Nat)
deriving DecidableEq, Repr

namespace ReceivePipeline

/-- A new controller. -/
def new (key : TcpControllerKey) (options : TcpControllerOptions) : ReceivePipeline :=
  { con := .new key options }

/-- The payloads of a chain up to its FIN. -/
def chainPayload (chain : List Packet) : List UInt8 :=
  (chain.takeWhile (!·.tcpHeader.fin)).flatMap (·.payload)

def step (p : ReceivePipeline) : PipelineStep → Except Fatal ReceivePipeline
  | .streamData chain => do
    let con ← p.con.streamDataToReceiveBuffer chain
    .ok { p with con, streamed := p.streamed ++ chainPayload chain }
  | .listener => .ok { p with con := p.con.receiveBufferListener }
  | .readData size => do
    match ← p.con.readData size with
    | none => .ok p
    | some (_, data, con) => .ok { p with con, readOut := p.readOut ++ data }

end ReceivePipeline

end NetStack
