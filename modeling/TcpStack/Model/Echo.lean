import TcpStack.Model.Network

/-!
# TcpStack — the two programs of `main.cc`

`Client` and `Server` on the two ends of a connection: the client writes `kTestDataSize` bytes,
the server reads them, flips each of them and writes them back, and both close.

* **`Client.step`** / **`Server.step`** — the programs, one call at a time.
* **`Echo.step`** — the programs, the stack under them and the network.

The client starts right after `Connect`, the server in its `Accept` loop. A call that blocks
changes nothing.
-/

namespace NetStack

variable [HyLib]

/-! ## Calls -/

/-- The actions of an endpoint that its application asks for. -/
def Action.isCall : Action → Bool
  | .writeData _ | .readData _ | .shutDown | .close => true
  | _ => false

def Event.isCall : Event → Bool
  | .client a | .server a => a.isCall
  | _ => false

namespace Endpoint

/-- `Process::Write`: `none` while the call blocks. A closed descriptor gives `false`. -/
def write (e : Endpoint) (buf : List UInt8) : Option (Int × Endpoint) :=
  if e.closed then some (0, e)
  else if e.shutDown then some (-1, e)
  else
    match e.con.writeData buf with
    | none => none
    | some (n, con) => some (n, { e with con, written := e.written ++ buf.take n.toNat })

/-- `Process::Read`: `none` while the call blocks, otherwise its result and the bytes that it
put in the caller's buffer. -/
def read (e : Endpoint) (size : Nat) : Except Fatal (Option (Int × List UInt8 × Endpoint)) :=
  if e.closed then .ok (some (0, [], e))
  else do
    match ← e.con.readData size with
    | none => .ok none
    | some (n, data, con) => .ok (some (n, data, { e with con, readOut := e.readOut ++ data }))

end Endpoint

namespace Echo

/-! ## Buffers -/

def kTestDataSize : Nat := 100

/-- A `byte[kTestDataSize]`. -/
structure Block where
  bytes : List UInt8
  size_eq : bytes.length = kTestDataSize
deriving DecidableEq

namespace Block

/-- Store bytes from an offset on; `none` if this leaves the block. -/
def put (b : Block) (offset : Nat) (data : List UInt8) : Option Block :=
  if h : offset + data.length ≤ kTestDataSize then
    some ⟨b.bytes.take offset ++ data ++ b.bytes.drop (offset + data.length), by
      simp only [List.length_append, List.length_take, List.length_drop, b.size_eq]
      omega⟩
  else none

/-- The server's service: `receive_buffer[i] = 256 - receive_buffer[i]`. -/
def flip (b : Block) : Block :=
  ⟨b.bytes.map fun x => UInt8.ofNat (256 - x.toNat), by simp [b.size_eq]⟩

/-- `ReceivedDataCorrect`. -/
def receivedDataCorrect (receiveBuffer data : Block) : Bool :=
  (receiveBuffer.bytes.zip data.bytes).all fun (x, y) => x == y

/-- The client's check. Its `256 - data[i]` is an `int`. -/
def flipCorrect (clientBuffer data : Block) : Bool :=
  (clientBuffer.bytes.zip data.bytes).all fun (x, y) => x.toNat == 256 - y.toNat

end Block

/-- What stops the process. -/
inductive Abort where
  | fatal (f : Fatal)
  /-- A call writes behind the end of the caller's buffer. -/
  | bufferOverrun
deriving DecidableEq, Repr

/-- Store what `Read` returned in a buffer. -/
def store (b : Block) (offset : Nat) (data : List UInt8) : Except Abort Block :=
  match b.put offset data with
  | none => .error .bufferOverrun
  | some b => .ok b

/-! ## The client -/

inductive ClientPc where
  | writing | reading | checking | closing | returned
deriving DecidableEq, Repr

structure Client where
  pc : ClientPc := .writing
  writen : Nat := 0
  readn : Nat := 0
  clientBuffer : Block
  /-- The outcome of the check, once it was made. -/
  flipCorrect : Option Bool := none
deriving DecidableEq

/-- `Client` from its first `Write` on. `Read` is called with the size of the whole buffer. -/
def Client.step (data : Block) (c : Client) (e : Endpoint) : Except Abort (Client × Endpoint) :=
  match c.pc with
  | .writing =>
    if c.writen < kTestDataSize then
      match e.write ((data.bytes.drop c.writen).take (kTestDataSize - c.writen)) with
      | none => .ok (c, e)
      | some (re, e) =>
        if re > 0 then .ok ({ c with writen := c.writen + re.toNat }, e)
        else .ok ({ c with pc := .reading }, e)
    else .ok ({ c with pc := .reading }, e)
  | .reading => do
    match ← (e.read kTestDataSize).mapError .fatal with
    | none => .ok (c, e)
    | some (re, bytes, e) =>
      let clientBuffer ← store c.clientBuffer c.readn bytes
      if re > 0 then .ok ({ c with clientBuffer, readn := c.readn + re.toNat }, e)
      else .ok ({ c with clientBuffer, pc := .checking }, e)
  | .checking =>
    if c.readn ≠ kTestDataSize then .ok ({ c with pc := .closing }, e)
    else .ok ({ c with flipCorrect := some (c.clientBuffer.flipCorrect data), pc := .closing }, e)
  | .closing => .ok ({ c with pc := .returned }, e.closeSocket)
  | .returned => .ok (c, e)

/-! ## The server -/

inductive ServerPc where
  | accepting | reading | checking | writing | closing
  /-- The `Close` before a `return`. -/
  | leaving
  | returned
deriving DecidableEq, Repr

structure Server where
  pc : ServerPc := .accepting
  /-- The connection was taken from the listener's queue. -/
  accepted : Bool := false
  readn : Nat := 0
  writen : Nat := 0
  receiveBuffer : Block
  /-- The outcome of `ReceivedDataCorrect`, once it was called. -/
  dataCorrect : Option Bool := none
deriving DecidableEq

/-- `Server` from its first `Accept` on, once the connection exists. -/
def Server.serve (data : Block) (s : Server) (e : Endpoint) :
    Except Abort (Server × Endpoint) :=
  match s.pc with
  | .accepting =>
    -- the connection is queued once, so the next `Accept` blocks
    if s.accepted then .ok (s, e)
    else .ok ({ s with accepted := true, readn := 0, pc := .reading }, e)
  | .reading =>
    if s.readn < kTestDataSize then do
      match ← (e.read kTestDataSize).mapError .fatal with
      | none => .ok (s, e)
      | some (re, bytes, e) =>
        let receiveBuffer ← store s.receiveBuffer s.readn bytes
        if re > 0 then .ok ({ s with receiveBuffer, readn := s.readn + re.toNat }, e)
        else if re = 0 then .ok ({ s with receiveBuffer, pc := .leaving }, e)
        else .ok ({ s with receiveBuffer, pc := .checking }, e)
    else .ok ({ s with pc := .checking }, e)
  | .checking =>
    if s.readn ≠ kTestDataSize then .ok ({ s with pc := .leaving }, e)
    else
      .ok ({ s with
        dataCorrect := some (s.receiveBuffer.receivedDataCorrect data)
        receiveBuffer := s.receiveBuffer.flip, writen := 0, pc := .writing }, e)
  | .writing =>
    if s.writen < kTestDataSize then
      match e.write ((s.receiveBuffer.bytes.drop s.writen).take (kTestDataSize - s.writen)) with
      | none => .ok (s, e)
      | some (re, e) =>
        if re > 0 then .ok ({ s with writen := s.writen + re.toNat }, e) else .ok (s, e)
    else .ok ({ s with pc := .closing }, e)
  | .closing => .ok ({ s with pc := .accepting }, e.closeSocket)
  | .leaving => .ok ({ s with pc := .returned }, e.closeSocket)
  | .returned => .ok (s, e)

/-- `Accept` blocks as long as there is no connection. -/
def Server.step (data : Block) (s : Server) :
    Option Endpoint → Except Abort (Server × Option Endpoint)
  | none => .ok (s, none)
  | some e => do
    let (s, e) ← s.serve data e
    .ok (s, some e)

/-! ## The system -/

structure State where
  net : Net
  client : Client
  server : Server
deriving DecidableEq

/-- The steps of the programs, and those of the stack and the network. -/
inductive Event where
  | client
  | server
  | stack (ev : {ev : NetStack.Event // ev.isCall = false})
deriving DecidableEq

/-- The client has called `Connect`. The buffers hold anything. -/
def init (cfg : Config) (g : Globals) (clientBuffer receiveBuffer : Block) :
    Except Abort State := do
  let net ← (Net.init cfg g).mapError .fatal
  .ok { net, client := { clientBuffer }, server := { receiveBuffer } }

/-- One step. -/
def step (cfg : Config) (data : Block) (s : State) : Event → Except Abort State
  | .client => do
    let (client, e) ← s.client.step data s.net.client
    .ok { s with client, net := { s.net with client := e } }
  | .server => do
    let (server, v) ← s.server.step data s.net.server
    .ok { s with server, net := { s.net with server := v } }
  | .stack ev => do
    let net ← (Net.step cfg s.net ev).mapError .fatal
    .ok { s with net }

/-- The state after a run. -/
def run (cfg : Config) (data : Block) (g : Globals) (clientBuffer receiveBuffer : Block)
    (evs : List Event) : Except Abort State :=
  init cfg g clientBuffer receiveBuffer >>= fun s => Transition.run (step cfg data) s evs

end Echo

end NetStack
