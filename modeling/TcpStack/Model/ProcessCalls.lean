import TcpStack.Model.Host

/-!
# TcpStack — a process on its own (`Process` of `Host.cc`)

The system calls of a process that touch its file descriptors. What the host answers is part of the
call, so a host that fails at any point is a call like any other:

* **`Process.socket`** — `CreateNewSocket` answers with an open file id, or with a negative number.
* **`Process.accept`** — whatever `SocketAccept` answers goes into the table.
* **`Process.close`** — `DecOpenFileRef` answers nothing.
-/

namespace NetStack

variable [HyLib]

namespace Process

/-- `Process::Socket`, where `Host::CreateNewSocket` returned `openFileId`. The descriptor is
allocated first and not given back when the host fails. -/
def socket (p : Process) (openFileId : Int32) : Int32 × Process :=
  match p.fdPool.allocate with
  | (fd, fdPool) =>
    let p := { p with fdPool }
    if fd < 0 then (-1, p)
    else if openFileId < 0 then (-1, p)
    else (fd, { p with fdTable := emplace p.fdTable fd openFileId })

/-- `Process::Accept`, where `Host::SocketAccept` returned `newOpenFileId`. A descriptor that is not
open makes it return `false`. -/
def accept (p : Process) (fd newOpenFileId : Int32) : Int32 × Process :=
  if p.findFdMappedFileId fd < 0 then (0, p)
  else
    match p.fdPool.allocate with
    | (newFd, fdPool) =>
      let p := { p with fdPool }
      if newFd < 0 then (-1, p)
      else (newFd, { p with fdTable := emplace p.fdTable newFd newOpenFileId })

/-- `Process::Close`. -/
def close (p : Process) (fd : Int32) : Bool × Process :=
  if p.findFdMappedFileId fd < 0 then (false, p)
  else
    match p.fdTable fd with
    | none => (false, p)
    | some _ =>
      (true, { fdPool := p.fdPool.release fd, fdTable := Function.update p.fdTable fd none })

/-- A call with the answer of the host. -/
inductive Call where
  | socket (openFileId : Int32)
  | accept (fd newOpenFileId : Int32)
  | close (fd : Int32)
deriving DecidableEq, Repr

/-- The process after a call that returned. -/
def apply (p : Process) : Call → Except HostFault Process
  | .socket openFileId => .ok (p.socket openFileId).2
  | .accept fd newOpenFileId => .ok (p.accept fd newOpenFileId).2
  | .close fd => .ok (p.close fd).2

end Process

end NetStack
