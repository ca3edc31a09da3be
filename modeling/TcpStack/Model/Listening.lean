import TcpStack.Model.Host

/-!
# TcpStack — a host that keeps a record of its listeners

The host does not remember which sockets have called `Listen`, nor when a connection that waits to
be accepted has arrived. This module records both beside the host, in numbers of steps. No step
reads the record.
-/

namespace NetStack

variable [HyLib]

/-- The open file on which the step is a `Listen` that returns true. -/
def Host.listensOn (h : Host) : Host.Event → Option Int32
  | .listen name fd =>
    (h.processes name).bind fun p =>
      let openFileId := p.findFdMappedFileId fd
      if openFileId < 0 then none
      else (h.getSocketLocalBound openFileId).map fun _ => openFileId
  | _ => none

/-- A host and the record. -/
structure Listening where
  host : Host
  /-- The number of steps so far. -/
  now : ℕ := 0
  /-- When an open file has called `Listen` for the first time. -/
  listenedAt : Int32 → Option ℕ := fun _ => none
  /-- When the id of an open file was taken out of the pool. For the socket of a connection that
  is when its SYN arrived. -/
  createdAt : Int32 → Option ℕ := fun _ => none

namespace Listening

/-- A new host, with nothing on record. -/
def new (ipAddress : String) : Listening := { host := Host.new ipAddress }

/-- What a step that leads to `host` adds to the record. -/
def record (s : Listening) (e : Host.Event) (host : Host) : Listening where
  host := host
  now := s.now + 1
  listenedAt :=
    match s.host.listensOn e with
    | none => s.listenedAt
    | some openFileId => emplace s.listenedAt openFileId s.now
  createdAt openFileId :=
    if openFileId ∈ s.host.openFileIdPool ∧ openFileId ∉ host.openFileIdPool then some s.now
    else s.createdAt openFileId

/-- One step of the host, with its record. -/
def step (s : Listening) (e : Host.Event) : Except HostFault Listening :=
  (s.host.step e).map (s.record e)

/-- An open socket that is bound to `key` and has called `Listen`. -/
def Listens (s : Listening) (openFileId : Int32) (key : LocalLayerThreeKey) : Prop :=
  s.host.getSocketLocalBound openFileId = some key ∧ (s.listenedAt openFileId).isSome

end Listening

end NetStack
