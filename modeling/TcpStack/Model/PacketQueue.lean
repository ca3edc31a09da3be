import TcpStack.Lib.Threads
import TcpStack.Model.Packet

/-!
# TcpStack — `PacketQueue` and its threads

The queue between any two threads of the stack, with the threads that push, read and stop it. A
step of a thread is what it does between two points where others can get in: the two mutexes, the
two condition variables, and the atomic `destroy_`, which `Stop` writes with no mutex held.

A `wait` is three steps: the predicate is checked, the mutex is released together with going to
sleep, and the mutex is taken again after waking up. Waking up needs no reason.
-/

namespace NetStack

/-- `PacketQueue`. A mutex holds the thread that owns it. -/
structure PacketQueue where
  packets : List Packet := []
  mutex : Option ℕ := none
  destroy : Bool := false
  numReaders : UInt32 := 0
  numReadersMutex : Option ℕ := none
deriving DecidableEq

namespace PacketQueue

/-- A call of `DeQueue`, or of `DeQueueAllTo` if it is for all packets. -/
structure Read where
  all : Bool
  blocking : Bool := true
  /-- What `receiver_queue` holds at the call. -/
  receiverQueue : List Packet := []
deriving DecidableEq

/-- Where a thread is. -/
inductive Thread where
  | idle
  -- `DeQueue` and `DeQueueAllTo`
  | entering (r : Read)
  | locking (r : Read)
  | checking (r : Read)
  | suspending (r : Read)
  | asleep (r : Read)
  | testing (r : Read)
  | taking (r : Read)
  | leaving (re : List Packet)
  | left (lastReader : Bool) (re : List Packet)
  -- `Push`
  | pushing (pkts : List Packet)
  | pushed
  -- `Stop`
  | stopping
  | storing
  | wakingReaders
  | lockingReaders
  | checkingReaders
  | suspendingReaders
  | asleepReaders
deriving DecidableEq

/-- The condition variables. -/
inductive Cv where
  | cv
  | numReadersCv
deriving DecidableEq

namespace Thread

/-- The thread is in a `wait` on the condition variable. -/
def sleepsOn : Cv → Thread → Bool
  | .cv, .asleep _ | .numReadersCv, .asleepReaders => true
  | _, _ => false

/-- A thread that is woken takes the mutex again. -/
def awake : Thread → Thread
  | .asleep r => .locking r
  | .asleepReaders => .lockingReaders
  | t => t

end Thread

/-- Whom a step notifies. -/
inductive Notification where
  | nobody
  | one (c : Cv)
  /-- All that wait on `cv_`. -/
  | all
deriving DecidableEq

/-- The thread has to wait. -/
inductive Blocked where
  | blocked
deriving DecidableEq

/-- `notify_one` wakes the thread `wakes`, or nobody if nobody sleeps. -/
def notify (wakes : Option ℕ) (threads : List Thread) : Notification → Except Blocked (List Thread)
  | .nobody => .ok threads
  | .one c =>
    match wakes with
    | none => if threads.any (·.sleepsOn c) then .error .blocked else .ok threads
    | some j =>
      match threads[j]? with
      | none => .error .blocked
      | some t => if t.sleepsOn c then .ok (threads.set j t.awake) else .error .blocked
  | .all => .ok (threads.map fun t => if t.sleepsOn .cv then t.awake else t)

/-- The next step of thread `i`. -/
def next (i : ℕ) (q : PacketQueue) : Thread → Except Blocked (PacketQueue × Thread × Notification)
  | .idle => .error .blocked
  -- `IncReaders`
  | .entering r =>
    if q.numReadersMutex.isSome then .error .blocked
    else .ok ({ q with numReaders := q.numReaders + 1 }, .locking r, .nobody)
  | .locking r =>
    if q.mutex.isSome then .error .blocked
    else .ok ({ q with mutex := some i }, .checking r, .nobody)
  | .checking r =>
    if r.blocking then
      .ok (q, if q.destroy || !q.packets.isEmpty then .testing r else .suspending r, .nobody)
    else if q.packets.isEmpty then .ok ({ q with mutex := none }, .leaving [], .nobody)
    else .ok (q, .testing r, .nobody)
  | .suspending r => .ok ({ q with mutex := none }, .asleep r, .nobody)
  | .asleep _ => .error .blocked
  | .testing r =>
    if q.destroy then .ok ({ q with mutex := none }, .leaving [], .nobody)
    else .ok (q, .taking r, .nobody)
  | .taking r =>
    match q.packets with
    | [] => .ok ({ q with mutex := none }, .leaving [], .nobody)
    | pkt :: rest =>
      if r.all then
        .ok ({ q with packets := r.receiverQueue, mutex := none }, .leaving (pkt :: rest), .nobody)
      else .ok ({ q with packets := rest, mutex := none }, .leaving [pkt], .nobody)
  -- `DecReaders`
  | .leaving re =>
    if q.numReadersMutex.isSome then .error .blocked
    else .ok ({ q with numReaders := q.numReaders - 1 }, .left (q.numReaders == 1) re, .nobody)
  | .left lastReader _ =>
    .ok (q, .idle, if q.destroy && lastReader then .one .numReadersCv else .nobody)
  -- `Push`
  | .pushing pkts =>
    if q.mutex.isSome then .error .blocked
    else .ok ({ q with packets := q.packets ++ pkts }, .pushed, .nobody)
  | .pushed => .ok (q, .idle, .one .cv)
  -- `Stop`
  | .stopping => .ok (q, if q.destroy then .idle else .storing, .nobody)
  | .storing => .ok ({ q with destroy := true }, .wakingReaders, .nobody)
  | .wakingReaders => .ok (q, .lockingReaders, .all)
  | .lockingReaders =>
    if q.numReadersMutex.isSome then .error .blocked
    else .ok ({ q with numReadersMutex := some i }, .checkingReaders, .nobody)
  | .checkingReaders =>
    if q.numReaders ≤ 0 then .ok ({ q with numReadersMutex := none }, .idle, .nobody)
    else .ok (q, .suspendingReaders, .nobody)
  | .suspendingReaders => .ok ({ q with numReadersMutex := none }, .asleepReaders, .nobody)
  | .asleepReaders => .error .blocked

/-- A queue and the threads that use it. -/
structure Shared where
  queue : PacketQueue := {}
  threads : List Thread
deriving DecidableEq

namespace Shared

/-- The constructor, before any of `n` threads has made a call. -/
def new (n : ℕ) : Shared where
  threads := List.replicate n .idle

inductive Call where
  | push (pkts : List Packet)
  | read (r : Read)
  | stop
deriving DecidableEq

/-- The first thing the thread does in the call. -/
def Call.start : Call → Thread
  | .push pkts => .pushing pkts
  | .read r => .entering r
  | .stop => .stopping

inductive Event where
  | call (i : ℕ) (c : Call)
  /-- A step of thread `i`; a `notify_one` in it wakes thread `wakes`. -/
  | next (i : ℕ) (wakes : Option ℕ)
  /-- A thread wakes up without being notified. -/
  | wakeUp (i : ℕ)
deriving DecidableEq

/-- One step of a queue with its threads. -/
def step (s : Shared) : Event → Except Blocked Shared
  | .call i c =>
    match s.threads[i]? with
    | some .idle => .ok { s with threads := s.threads.set i c.start }
    | _ => .error .blocked
  | .next i wakes =>
    match s.threads[i]? with
    | none => .error .blocked
    | some t => do
      let (queue, t', n) ← s.queue.next i t
      let threads ← notify wakes (s.threads.set i t') n
      .ok { queue, threads }
  | .wakeUp i =>
    match s.threads[i]? with
    | none => .error .blocked
    | some t =>
      if t.sleepsOn .cv || t.sleepsOn .numReadersCv then
        .ok { s with threads := s.threads.set i t.awake }
      else .error .blocked

end Shared

end PacketQueue

end NetStack
