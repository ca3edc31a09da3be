import TcpStack.Lib.Run
import TcpStack.Model.Network

/-!
# TcpStack — the host (`NumPool.cc`, `Kernel.cc`, `Host.cc`)

A host owns the open file table, the TCP connections, the listeners and the pools from which
file descriptors, open file ids and ports are handed out; its processes own file descriptor
tables. This module has the system calls of a process, the demultiplexing of received packets
and the end of a connection.

* **`NumPool`** — a set of numbers to hand out.
* **`Socket`**, **`Connection`** — a socket of the open file table and a controller of the
  connection map, which point at each other.
* **`Host.demultiplexPacketsToTcps`** — the loop over a batch of received packets.
* **`Host.step`** — the system calls, arriving packets and connection terminations.

A pointer to a controller is the key under which it is stored, with a serial number that tells
controllers of one key apart. Writing to a socket that is gone has no effect. What a
controller does on its own is a step that replaces it by any other controller of its key.
-/

namespace NetStack

open Transition

/-- `std::map::emplace`: an entry that exists is kept. -/
def emplace {α β : Type*} [DecidableEq α] (m : α → Option β) (k : α) (v : β) : α → Option β :=
  if (m k).isSome then m else Function.update m k (some v)

/-! ## `NumPool` -/

/-- `std::set::insert`, over the sorted list of the members. -/
def insertNum (num : Int32) : List Int32 → List Int32
  | [] => [num]
  | n :: rest =>
    if num < n then num :: n :: rest
    else if num = n then n :: rest
    else n :: insertNum num rest

theorem mem_insertNum {num n : Int32} {nums : List Int32} :
    n ∈ insertNum num nums ↔ n = num ∨ n ∈ nums := by
  induction nums with
  | nil => simp [insertNum]
  | cons m rest ih =>
    rw [insertNum]
    split
    · rw [List.mem_cons]
    · split
      · rename_i heq
        rw [heq, List.mem_cons]
        tauto
      · rw [List.mem_cons, ih, List.mem_cons]
        tauto

theorem insertNum_sorted {num : Int32} {nums : List Int32} (h : nums.Pairwise (· < ·)) :
    (insertNum num nums).Pairwise (· < ·) := by
  induction nums with
  | nil => exact List.pairwise_singleton _ _
  | cons m rest ih =>
    obtain ⟨hm, hrest⟩ := List.pairwise_cons.mp h
    rw [insertNum]
    split
    · rename_i hlt
      refine List.pairwise_cons.mpr ⟨fun n hn => ?_, h⟩
      rcases List.mem_cons.mp hn with rfl | hn
      · exact hlt
      · exact Int32.lt_trans hlt (hm n hn)
    · rename_i hge
      split
      · exact h
      · rename_i hne
        refine List.pairwise_cons.mpr ⟨fun n hn => ?_, ih hrest⟩
        rcases mem_insertNum.mp hn with rfl | hn
        · have hint : n.toInt ≠ m.toInt := fun heq => hne (Int32.toInt_inj.mp heq)
          rw [Int32.lt_iff_toInt_lt] at hge ⊢
          omega
        · exact hm n hn

/-- `NumPool`: the members of `pool_`, in order. -/
structure NumPool where
  nums : List Int32
  sorted : nums.Pairwise (· < ·)
deriving DecidableEq

namespace NumPool

instance : Membership Int32 NumPool := ⟨fun p n => n ∈ p.nums⟩

instance (n : Int32) (p : NumPool) : Decidable (n ∈ p) := inferInstanceAs (Decidable (n ∈ p.nums))

/-- `NumPool::Release`: any number is put into the pool. -/
def release (p : NumPool) (num : Int32) : NumPool :=
  ⟨insertNum num p.nums, insertNum_sorted p.sorted⟩

/-- The constructor: the numbers from `min` to `max`. -/
def new (min max : ℤ) : NumPool :=
  (List.range (max + 1 - min).toNat).foldr (fun (i : ℕ) p => p.release (Int32.ofInt (min + i)))
    ⟨[], .nil⟩

/-- `NumPool::Allocate`: the smallest number. -/
def allocate (p : NumPool) : Int32 × NumPool :=
  match p.nums, p.sorted with
  | [], _ => (-1, p)
  | n :: rest, h => (n, ⟨rest, (List.pairwise_cons.mp h).2⟩)

/-- `NumPool::Take`. -/
def take (p : NumPool) (num : Int32) : Bool × NumPool :=
  if num ∈ p then (true, ⟨p.nums.erase num, p.sorted.sublist List.erase_sublist⟩)
  else (false, p)

/-- `NumPool::AllocateRandom`, where `Utils::RandomNumber` returned `index`. -/
def allocateRandom (p : NumPool) (index : ℕ) : Int32 × NumPool :=
  match p.nums[index % p.nums.length]? with
  | none => (-1, p)
  | some num => (num, ⟨p.nums.erase num, p.sorted.sublist List.erase_sublist⟩)

end NumPool

/-! ## `Kernel.h` -/

variable [HyLib]

/-- `LocalLayerThreeKey`. -/
structure LocalLayerThreeKey where
  localIp : String := ""
  localPort : Int32 := 0
deriving DecidableEq, Repr

/-- A `TcpController*`: the controller that was stored under `key` as number `serial`. -/
structure TcpControllerPtr where
  key : TcpControllerKey
  serial : ℕ
deriving DecidableEq, Repr

/-- `Socket`. `given` records the ports that a successful `Bind` or `Connect` gave it. -/
structure Socket where
  localBound : LocalLayerThreeKey := {}
  tcpCon : Option TcpControllerPtr := none
  given : List Int32 := []
deriving DecidableEq, Repr

/-- `Socket::isBound`. -/
def Socket.isBound (s : Socket) : Bool :=
  s.localBound.localIp ≠ "" && 0 < s.localBound.localPort

/-- `KernelOpenFile`; only sockets are ever created. -/
structure KernelOpenFile where
  refs : ℕ := 0
  socket : Socket := {}
deriving DecidableEq, Repr

/-! ## `Host` and `Process` -/

/-- A `TcpController` of the connection map with the fields the host cares about. -/
structure Connection where
  con : TcpController
  /-- `socket_`: the open file that holds the socket. -/
  socket : Int32
  /-- `release_port_`. -/
  releasePort : Bool := false
  /-- The thread of `CloseAndDelete` is past its `TearDown`. -/
  tornDown : Bool := false
  serial : ℕ
deriving DecidableEq, Repr

/-- `Process`. -/
structure Process where
  fdPool : NumPool
  fdTable : Int32 → Option Int32 := fun _ => none

/-- `Host`. A listener is the queue of its `tcp_sockets`. -/
structure Host where
  localIpAddress : String
  globals : Globals := {}
  processes : String → Option Process := fun _ => none
  openFileIdPool : NumPool
  openFilesTable : Int32 → Option KernelOpenFile := fun _ => none
  connections : TcpControllerKey → Option Connection := fun _ => none
  /-- The number of controllers put into `connections` so far. -/
  constructed : ℕ := 0
  listeners : LocalLayerThreeKey → Option (List Int32) := fun _ => none
  portPool : NumPool
  sendPktQueue : List Packet := []

/-- What ends a host. -/
inductive HostFault where
  /-- A null pointer is followed. -/
  | nullPointer
  /-- A pointer to a controller that was deleted is followed. -/
  | danglingPointer
  /-- A failed `SANITY_CHECK`. -/
  | fatal (f : Fatal)
deriving DecidableEq, Repr

/-- The constructor, with file descriptors from `kMinFd` to `kMaxFd`. -/
def Process.new : Process := { fdPool := NumPool.new 3 63 }

/-- `Process::FindFdMappedFileId`. -/
def Process.findFdMappedFileId (p : Process) (fd : Int32) : Int32 := (p.fdTable fd).getD (-1)

namespace Host

/-- The constructor and `Host::Initialize`. -/
def new (ipAddress : String) : Host where
  localIpAddress := ipAddress
  openFileIdPool := NumPool.new 0 255
  portPool := NumPool.new 0 127

/-! ### Sockets and controllers -/

/-- `Host::GetSocket`. -/
def getSocket (h : Host) (openFileId : Int32) : Option Socket :=
  (h.openFilesTable openFileId).map KernelOpenFile.socket

/-- Write to a socket; one that is gone is not written. -/
def modifySocket (h : Host) (openFileId : Int32) (f : Socket → Socket) : Host :=
  { h with
    openFilesTable := Function.update h.openFilesTable openFileId
      ((h.openFilesTable openFileId).map fun file => { file with socket := f file.socket }) }

/-- The controller a pointer leads to. -/
def deref (h : Host) (ptr : TcpControllerPtr) : Except HostFault Connection :=
  match h.connections ptr.key with
  | some c => if c.serial = ptr.serial then .ok c else .error .danglingPointer
  | none => .error .danglingPointer

/-- `Host::GetSocketLocalBound`. -/
def getSocketLocalBound (h : Host) (openFileId : Int32) : Option LocalLayerThreeKey :=
  match h.getSocket openFileId with
  | none => none
  | some socket => if socket.isBound then some socket.localBound else none

/-- `Host::ReleasePort`. -/
def releasePort (h : Host) (port : Int32) : Host := { h with portPool := h.portPool.release port }

/-- `Host::CreateNewSocket`: the id of the new open file, or -1. -/
def createNewSocket (h : Host) : Int32 × Host :=
  match h.openFileIdPool.allocate with
  | (id, openFileIdPool) =>
    if id < 0 then (-1, { h with openFileIdPool })
    else
      let file := (h.openFilesTable id).getD {}
      (id, { h with
        openFileIdPool
        openFilesTable := Function.update h.openFilesTable id
          (some { file with refs := file.refs + 1 }) })

/-- `connections_.emplace` with a newly constructed controller, and whether it returns. Where the
key is taken, the new controller is destroyed at once: its destructor detaches the socket and then
waits for the controller's threads, which run until `shutdown_` is set, and nobody sets it. -/
def emplaceConnection (h : Host) (key : TcpControllerKey) (socket : Int32)
    (options : TcpControllerOptions) : Bool × Host :=
  match h.connections key with
  | some _ => (false, h.modifySocket socket fun s => { s with tcpCon := none })
  | none =>
    (true, { h with
      connections := Function.update h.connections key
        (some { con := TcpController.new key options, socket, serial := h.constructed })
      constructed := h.constructed + 1 })

/-- `socket->tcp_con = connections_.at(tcp_key).get()`. -/
def attach (h : Host) (openFileId : Int32) (key : TcpControllerKey) : Host :=
  match h.connections key with
  | none => h
  | some c => h.modifySocket openFileId fun s => { s with tcpCon := some ⟨key, c.serial⟩ }

/-- Replace a controller of the connection map. -/
def setCon (h : Host) (key : TcpControllerKey) (c : Connection) : Host :=
  { h with connections := Function.update h.connections key (some c) }

/-! ### The end of a connection -/

/-- `TcpController::TearDown`, as far as the host sees it: detach the socket and release the
port, if the controller is the one to release it. In between it waits for the threads of the
controller, which end only once `shutdown_` is set. -/
def tearDown (h : Host) (c : Connection) : Host :=
  let h := h.modifySocket c.socket fun s => { s with tcpCon := none }
  if c.con.shutdown && c.releasePort then h.releasePort c.con.key.destPort else h

/-- `Host::DeleteTcpConnection`; the destructor of the controller runs `TearDown`, and keeps the
caller waiting if the controller has not been shut down. -/
def deleteTcpConnection (h : Host) (key : TcpControllerKey) : Host :=
  match h.connections key with
  | none => h
  | some c => { h with connections := Function.update h.connections key none }.tearDown c

/-- `Host::DeleteSocketAndConnection`. -/
def deleteSocketAndConnection (h : Host) (openFileId : Int32) : Except HostFault Host :=
  match h.openFilesTable openFileId with
  | none => .ok h
  | some file => do
    let key ← match file.socket.tcpCon with
      | none => .ok {}
      | some ptr => (h.deref ptr).map fun c => c.con.key
    let h := { h with openFilesTable := Function.update h.openFilesTable openFileId none }
    if key.destIp ≠ "" ∧ 0 < key.destPort then .ok (h.deleteTcpConnection key) else .ok h

/-! ### System calls -/

/-- The clean-up of `Host::DecOpenFileRef` for the last reference. `TryClose` only starts
tasks of the controller. -/
def closeLast (h : Host) (socket : Socket) : Except HostFault Host :=
  match socket.tcpCon with
  | some ptr => do
    let c ← h.deref ptr
    .ok (if socket.isBound then h.setCon ptr.key { c with releasePort := true } else h)
  | none => .ok (if socket.isBound then h.releasePort socket.localBound.localPort else h)

/-- `Host::DecOpenFileRef`. -/
def decOpenFileRef (h : Host) (openFileId : Int32) : Except HostFault Host :=
  match h.openFilesTable openFileId with
  | none => .ok h
  | some file =>
    if file.refs ≤ 1 then do
      let h ← h.closeLast file.socket
      .ok { h with openFilesTable := Function.update h.openFilesTable openFileId none }
    else
      .ok { h with
        openFilesTable := Function.update h.openFilesTable openFileId
          (some { file with refs := file.refs - 1 }) }

/-- `Host::SocketBind`. -/
def socketBind (h : Host) (openFileId : Int32) (localIp : String) (localPort : UInt32) : Host :=
  match h.getSocket openFileId with
  | none => h
  | some socket =>
    if socket.isBound then h
    else
      match h.portPool.take localPort.toInt32 with
      | (false, _) => h
      | (true, portPool) =>
        { h with portPool }.modifySocket openFileId fun s =>
          { s with
            localBound := ⟨localIp, localPort.toInt32⟩
            given := s.given ++ [localPort.toInt32] }

/-- `Host::SocketListen`. A listener that exists is kept. -/
def socketListen (h : Host) (openFileId : Int32) : Host :=
  match h.getSocketLocalBound openFileId with
  | none => h
  | some key => { h with listeners := emplace h.listeners key [] }

/-- `Host::SocketAccept`: `none` while the call blocks, otherwise the return value. The
first failure returns `false`. -/
def socketAccept (h : Host) (openFileId : Int32) : Option (Int32 × Host) :=
  match h.getSocketLocalBound openFileId with
  | none => some (0, h)
  | some key =>
    match h.listeners key with
    | none => some (-1, h)
    | some [] => none
    | some (newOpenFileId :: rest) =>
      some (newOpenFileId, { h with listeners := Function.update h.listeners key (some rest) })

/-- The local end of `Host::SocketConnect`: a socket that is not bound is bound to a random
port. -/
def localKey (h : Host) (openFileId : Int32) (socket : Socket) (index : ℕ) :
    LocalLayerThreeKey × Host :=
  if socket.isBound then (socket.localBound, h)
  else
    match h.portPool.allocateRandom index with
    | (port, portPool) =>
      (⟨h.localIpAddress, port⟩, { h with portPool }.modifySocket openFileId fun s =>
        { s with localBound := ⟨h.localIpAddress, port⟩ })

/-- The rest of `Host::SocketConnect`, from a local end on: the return value, `none` if the call
does not return, and the host. The threads of the new controller are running by the time it is in
`connections_`, so it may handle packets before `TryConnect` looks at its state; `early` are those
packets. The clean-up releases the port whenever `TryConnect` fails. -/
def connectFromReturns (h : Host) (openFileId : Int32) (localEnd : LocalLayerThreeKey)
    (key : TcpControllerKey) (early : List Packet) : Except HostFault (Option Bool × Host) :=
  match h.emplaceConnection key openFileId TcpController.getDefaultOptions with
  | (false, h) => .ok (none, h)
  | (true, h) =>
    let h := h.attach openFileId key
    match h.connections key with
    | none => .error .nullPointer
    | some c =>
      match c.con.handleReceivedPackets h.globals early with
      | .error f => .error (.fatal f)
      | .ok (globals, con) =>
        match con.tryConnect globals with
        | .error f => .error (.fatal f)
        | .ok (true, con) =>
          .ok (some true,
            ({ h with globals }.setCon key { c with con }).modifySocket openFileId fun s =>
              { s with given := s.given ++ [localEnd.localPort] })
        | .ok (false, con) =>
          .ok (some false,
            ({ h with globals }.setCon key { c with con }).releasePort localEnd.localPort)

/-- `Host::SocketConnect` with its return value. -/
def socketConnectReturns (h : Host) (openFileId : Int32) (remoteIp : String) (remotePort : UInt32)
    (index : ℕ) (early : List Packet) : Except HostFault (Option Bool × Host) :=
  match h.getSocket openFileId with
  | none => .error .nullPointer
  | some socket =>
    match h.localKey openFileId socket index with
    | (localEnd, h) =>
      h.connectFromReturns openFileId localEnd
        ⟨remoteIp, remotePort.toInt32, localEnd.localIp, localEnd.localPort⟩ early

/-- What `Host::SocketConnect` leaves behind. -/
def socketConnect (h : Host) (openFileId : Int32) (remoteIp : String) (remotePort : UInt32)
    (index : ℕ) (early : List Packet) : Except HostFault Host :=
  (h.socketConnectReturns openFileId remoteIp remotePort index early).map Prod.snd

/-! ### Received packets -/

/-- `Host::SendBackRST`. -/
def sendBackRST (h : Host) (key : TcpControllerKey) : Host :=
  { h with
    sendPktQueue := h.sendPktQueue ++ [
      { ipHeader := { sourceIp := key.sourceIp, destIp := key.destIp }
        tcpHeader :=
          { sourcePort := key.sourcePort.toUInt32.toUInt16
            destPort := key.destPort.toUInt32.toUInt16
            rst := true } }] }

/-- `connections_.at(tcp_key)->ReceiveNewPacket`. -/
def receiveNewPacket (h : Host) (key : TcpControllerKey) (pkt : Packet) : Host :=
  match h.connections key with
  | none => h
  | some c => h.setCon key { c with con := c.con.receiveNewPacket pkt }

/-- The options of the controller that `Host::HandleNewConnection` constructs. -/
def acceptOptions (pkt : Packet) : TcpControllerOptions :=
  { TcpController.getDefaultOptions with recvWindowBase := pkt.tcpHeader.seqNum }

/-- `Host::HandleNewConnection`. The new controller gets a copy of the SYN. -/
def handleNewConnection (h : Host) (pkt : Packet) : Bool × Host :=
  if !pkt.tcpHeader.sync then (false, h)
  else
    let key : LocalLayerThreeKey :=
      ⟨pkt.ipHeader.sourceIp, pkt.tcpHeader.sourcePort.toUInt32.toInt32⟩
    match h.listeners key with
    | none => (false, h)
    | some tcpSockets =>
      match h.createNewSocket with
      | (openFileId, h) =>
        if openFileId < 0 then (false, h)
        else
          -- the caller has found the key free
          let h := (h.emplaceConnection pkt.tcpKey openFileId (acceptOptions pkt)).2
          let h := (h.attach openFileId pkt.tcpKey).receiveNewPacket pkt.tcpKey pkt.copy
          (true, { h with
            listeners := Function.update h.listeners key (some (tcpSockets ++ [openFileId])) })

/-- The loop of `Host::DemultiplexPacketsToTcps`, with the number of iterations left. A
packet that is rejected stays at the front of the queue. -/
def demultiplexLoop : ℕ → Host → List Packet → Host × List Packet
  | 0, h, newPackets => (h, newPackets)
  | _ + 1, h, [] => (h, [])
  | n + 1, h, pkt :: rest =>
    if (h.connections pkt.tcpKey).isSome then
      demultiplexLoop n (h.receiveNewPacket pkt.tcpKey pkt) rest
    else
      match h.handleNewConnection pkt with
      | (true, h) => demultiplexLoop n (h.receiveNewPacket pkt.tcpKey pkt) rest
      | (false, h) =>
        demultiplexLoop n (if pkt.tcpHeader.rst then h else h.sendBackRST pkt.tcpKey)
          (pkt :: rest)

/-- `Host::DemultiplexPacketsToTcps`: the host and the queue afterwards. -/
def demultiplexPacketsToTcps (h : Host) (newPackets : List Packet) : Host × List Packet :=
  demultiplexLoop newPackets.length h newPackets

/-! ### Steps -/

/-- The system calls of the processes, received packets and the end of connections. -/
inductive Event where
  | createProcess (name : String)
  | socket (name : String)
  | bind (name : String) (fd : Int32) (localIp : String) (localPort : UInt32)
  | listen (name : String) (fd : Int32)
  | accept (name : String) (fd : Int32)
  /-- `index` is the random number, if one is needed, and `early` are the packets that a new
  controller handles before `TryConnect`. -/
  | connect (name : String) (fd : Int32) (remoteIp : String) (remotePort : UInt32) (index : ℕ)
    (early : List Packet)
  | close (name : String) (fd : Int32)
  /-- `PacketsReceiveListener` takes a batch from the receive queue. -/
  | receive (newPackets : List Packet)
  /-- A controller handles packets, times out, reads or writes. -/
  | controller (key : TcpControllerKey) (con : TcpController)
  /-- The thread of `CloseAndDelete` runs `TearDown`. -/
  | tearDown (key : TcpControllerKey)
  /-- The thread of `CloseAndDelete` runs `DeleteTcpConnection`. -/
  | delete (key : TcpControllerKey)

/-- Write back a process. -/
def setProcess (h : Host) (name : String) (p : Process) : Host :=
  { h with processes := Function.update h.processes name (some p) }

/-- `Process::Socket`. A file descriptor is lost when the open file ids run out. -/
def callSocket (h : Host) (name : String) (p : Process) : Host :=
  match p.fdPool.allocate with
  | (fd, fdPool) =>
    let p := { p with fdPool }
    if fd < 0 then h.setProcess name p
    else
      match h.createNewSocket with
      | (openFileId, h) =>
        if openFileId < 0 then h.setProcess name p
        else h.setProcess name { p with fdTable := emplace p.fdTable fd openFileId }

/-- `Process::Accept`. Whatever `SocketAccept` returns is put into the table. -/
def callAccept (h : Host) (name : String) (p : Process) (fd : Int32) : Except HostFault Host :=
  let openFileId := p.findFdMappedFileId fd
  if openFileId < 0 then .ok h
  else
    match h.socketAccept openFileId with
    | none => .ok h
    | some (newOpenFileId, h) =>
      match p.fdPool.allocate with
      | (newFd, fdPool) =>
        let p := { p with fdPool }
        if newFd < 0 then (h.setProcess name p).deleteSocketAndConnection openFileId
        else .ok (h.setProcess name { p with fdTable := emplace p.fdTable newFd newOpenFileId })

/-- `Process::Close`. -/
def callClose (h : Host) (name : String) (p : Process) (fd : Int32) : Except HostFault Host :=
  let openFileId := p.findFdMappedFileId fd
  if openFileId < 0 then .ok h
  else do
    let h ← h.decOpenFileRef openFileId
    .ok (h.setProcess name
      { fdPool := p.fdPool.release fd, fdTable := Function.update p.fdTable fd none })

/-- A system call of a process that has been created. -/
def call (h : Host) (name : String) (f : Process → Except HostFault Host) : Except HostFault Host :=
  match h.processes name with
  | none => .ok h
  | some p => f p

/-- One step of the host. -/
def step (h : Host) : Event → Except HostFault Host
  | .createProcess name => .ok { h with processes := emplace h.processes name Process.new }
  | .socket name => h.call name fun p => .ok (h.callSocket name p)
  | .bind name fd localIp localPort => h.call name fun p =>
    let openFileId := p.findFdMappedFileId fd
    .ok (if openFileId < 0 then h else h.socketBind openFileId localIp localPort)
  | .listen name fd => h.call name fun p =>
    let openFileId := p.findFdMappedFileId fd
    .ok (if openFileId < 0 then h else h.socketListen openFileId)
  | .accept name fd => h.call name fun p => h.callAccept name p fd
  | .connect name fd remoteIp remotePort index early => h.call name fun p =>
    let openFileId := p.findFdMappedFileId fd
    if openFileId < 0 then .ok h else h.socketConnect openFileId remoteIp remotePort index early
  | .close name fd => h.call name fun p => h.callClose name p fd
  | .receive newPackets => .ok (h.demultiplexPacketsToTcps newPackets).1
  | .controller key con =>
    match h.connections key with
    | none => .ok h
    | some c =>
      if con.key = c.con.key ∧ (c.con.shutdown → con.shutdown) then .ok (h.setCon key { c with con })
      else .ok h
  | .tearDown key =>
    match h.connections key with
    | none => .ok h
    | some c =>
      if c.con.shutdown && !c.tornDown then
        .ok ((h.setCon key { c with tornDown := true }).tearDown c)
      else .ok h
  | .delete key =>
    match h.connections key with
    | none => .ok h
    | some c => .ok (if c.tornDown then h.deleteTcpConnection key else h)

end Host

end NetStack
