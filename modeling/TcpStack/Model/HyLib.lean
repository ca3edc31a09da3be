import Mathlib

/-!
# TcpStack — what the sources use of HyLib

`src/Public` points to a library that is not part of the repository. Three of its utilities are
parameters of the development, each with the calls that the stack makes and what it relies on:

* **`RingBufferImpl`** — a bounded FIFO of bytes. `Write` appends as many bytes as fit, `Read`
  removes the oldest bytes; both report how many bytes they moved.
* **`TimerImpl`** — `Restart` makes it running, `Stop` makes it not running.
* **`StopWatchImpl`** — measures the time between `Start` and `Pause`.
* **`HyLib`** — the three together. `Reference.hyLib` is one library that behaves like this; runs on
  fixed inputs use it.

`SANITY_CHECK` and `LogFATAL` abort the process (`Fatal`). `Globals` collects what all controllers of
one process share.
-/

namespace NetStack

/-- The places where the stack gives up: every `SANITY_CHECK` and `LogFATAL` that the
modelled functions contain, and the one loop that can spin forever. -/
inductive Fatal where
  /-- `SendWindow::SendPacket`: "last un-acked pkt mismatch with (send_base + size)". -/
  | lastUnackedMismatch
  /-- `SendWindow::NewAckedPacket`: "ack number %u overlaped with packet %u, size %u". -/
  | ackOverlap
  /-- `SendWindow::NewAckedPacket`: "Ack num %u mismatch with expected ack %u". -/
  | ackMismatch
  /-- `RecvWindow::ReceivePacket`, both insertion checks: "Packet size ranges overlap". -/
  | rangesOverlap
  /-- `RecvWindow::ReceivePacket`: "new node is in-order, must have been inserted to queue
  head". -/
  | notAtHead
  /-- `TcpController::HandleSYN`: "Server's recv_base should be client_seq_num + 1". -/
  | synRecvBase
  /-- `TcpController::SendFIN`, a `LogFATAL`: "Failed to send FIN segment". -/
  | finRefused
  /-- `TcpController::ReadData`, a `LogFATAL`: "There should be no data after EOF." -/
  | dataAfterEof
  /-- `TcpController::StreamDataToReceiveBuffer`: the `continue` on a sync packet does not
  advance `node`, so the loop never ends. -/
  | syncSpin
deriving DecidableEq, Repr

/-- The outcomes that are a failed `SANITY_CHECK`. -/
def Fatal.isSanityCheck : Fatal → Bool
  | .lastUnackedMismatch | .ackOverlap | .ackMismatch | .rangesOverlap | .notAtHead
  | .synRecvBase => true
  | .finRefused | .dataAfterEof | .syncSpin => false

/-! ## The library -/

/-- An implementation of `Utility::RingBuffer`: a bounded FIFO of bytes. `bytes` are its contents,
oldest first. -/
structure RingBufferImpl where
  Buffer : Type
  decEq : DecidableEq Buffer
  new : Nat → Buffer
  size : Buffer → Nat
  freeSpace : Buffer → Nat
  empty : Buffer → Bool
  full : Buffer → Bool
  write : Buffer → List UInt8 → Nat × Buffer
  read : Buffer → Nat → List UInt8 × Buffer
  clear : Buffer → Buffer
  capacity : Buffer → Nat
  bytes : Buffer → List UInt8
  capacity_new (n : Nat) : capacity (new n) = n
  bytes_new (n : Nat) : bytes (new n) = []
  length_le (b : Buffer) : (bytes b).length ≤ capacity b
  size_eq (b : Buffer) : size b = (bytes b).length
  freeSpace_eq (b : Buffer) : freeSpace b = capacity b - (bytes b).length
  empty_eq (b : Buffer) : empty b = (bytes b).isEmpty
  full_eq (b : Buffer) : full b = (freeSpace b == 0)
  write_fst (b : Buffer) (data : List UInt8) : (write b data).1 = min data.length (freeSpace b)
  bytes_write (b : Buffer) (data : List UInt8) :
    bytes (write b data).2 = bytes b ++ data.take (freeSpace b)
  capacity_write (b : Buffer) (data : List UInt8) : capacity (write b data).2 = capacity b
  read_fst (b : Buffer) (n : Nat) : (read b n).1 = (bytes b).take n
  bytes_read (b : Buffer) (n : Nat) : bytes (read b n).2 = (bytes b).drop n
  capacity_read (b : Buffer) (n : Nat) : capacity (read b n).2 = capacity b
  bytes_clear (b : Buffer) : bytes (clear b) = []
  capacity_clear (b : Buffer) : capacity (clear b) = capacity b

/-- An implementation of `Utility::Timer`, as far as the stack looks at it: `isStarted` is
`state() == Timer::STARTED`. -/
structure TimerImpl where
  Timer : Type
  decEq : DecidableEq Timer
  new : Timer
  restart : Timer → Timer
  stop : Timer → Timer
  isStarted : Timer → Bool
  isStarted_new : isStarted new = false
  isStarted_restart (t : Timer) : isStarted (restart t) = true
  isStarted_stop (t : Timer) : isStarted (stop t) = false

/-- An implementation of `Utility::StopWatch`, in nanoseconds of the process clock. -/
structure StopWatchImpl where
  StopWatch : Type
  decEq : DecidableEq StopWatch
  start : Nat → StopWatch
  pause : StopWatch → Nat → StopWatch
  elapsedTime : StopWatch → Nat
  elapsedTime_pause (t₀ t : Nat) : elapsedTime (pause (start t₀) t) = t - t₀

/-- HyLib, as far as the stack uses it. -/
class HyLib where
  ringBuffer : RingBufferImpl
  timer : TimerImpl
  stopWatch : StopWatchImpl

section

variable [HyLib]

/-! ## `RingBuffer` -/

/-- `Utility::RingBuffer`. -/
def RingBuffer : Type := HyLib.ringBuffer.Buffer

instance : DecidableEq RingBuffer := HyLib.ringBuffer.decEq

namespace RingBuffer

/-- A fresh buffer. -/
def new (capacity : Nat) : RingBuffer := HyLib.ringBuffer.new capacity

def size (b : RingBuffer) : Nat := HyLib.ringBuffer.size b

def freeSpace (b : RingBuffer) : Nat := HyLib.ringBuffer.freeSpace b

def empty (b : RingBuffer) : Bool := HyLib.ringBuffer.empty b

def full (b : RingBuffer) : Bool := HyLib.ringBuffer.full b

/-- `Write`: append the bytes that fit; report how many. -/
def write (b : RingBuffer) (data : List UInt8) : Nat × RingBuffer := HyLib.ringBuffer.write b data

/-- `Read`: remove the oldest `n` bytes, or all there are. -/
def read (b : RingBuffer) (n : Nat) : List UInt8 × RingBuffer := HyLib.ringBuffer.read b n

/-- `Clear`: drop all bytes. -/
def clear (b : RingBuffer) : RingBuffer := HyLib.ringBuffer.clear b

def capacity (b : RingBuffer) : Nat := HyLib.ringBuffer.capacity b

/-- The bytes in the buffer, oldest first. -/
def bytes (b : RingBuffer) : List UInt8 := HyLib.ringBuffer.bytes b

instance : Repr RingBuffer := ⟨fun b => reprPrec b.bytes⟩

variable (b : RingBuffer) (data : List UInt8) (n : Nat)

@[simp] theorem capacity_new : (new n).capacity = n := HyLib.ringBuffer.capacity_new n

@[simp] theorem bytes_new : (new n).bytes = [] := HyLib.ringBuffer.bytes_new n

theorem size_le : b.bytes.length ≤ b.capacity := HyLib.ringBuffer.length_le b

theorem size_eq : b.size = b.bytes.length := HyLib.ringBuffer.size_eq b

theorem freeSpace_eq : b.freeSpace = b.capacity - b.bytes.length := HyLib.ringBuffer.freeSpace_eq b

theorem empty_eq : b.empty = b.bytes.isEmpty := HyLib.ringBuffer.empty_eq b

/-- Empty is what has no bytes. -/
theorem empty_iff : b.empty = true ↔ b.bytes = [] := by
  rw [empty_eq, List.isEmpty_iff]

theorem full_eq : b.full = (b.freeSpace == 0) := HyLib.ringBuffer.full_eq b

@[simp] theorem write_fst : (b.write data).1 = min data.length b.freeSpace :=
  HyLib.ringBuffer.write_fst b data

@[simp] theorem bytes_write : (b.write data).2.bytes = b.bytes ++ data.take b.freeSpace :=
  HyLib.ringBuffer.bytes_write b data

@[simp] theorem capacity_write : (b.write data).2.capacity = b.capacity :=
  HyLib.ringBuffer.capacity_write b data

@[simp] theorem read_fst : (b.read n).1 = b.bytes.take n := HyLib.ringBuffer.read_fst b n

@[simp] theorem bytes_read : (b.read n).2.bytes = b.bytes.drop n := HyLib.ringBuffer.bytes_read b n

@[simp] theorem capacity_read : (b.read n).2.capacity = b.capacity :=
  HyLib.ringBuffer.capacity_read b n

@[simp] theorem bytes_clear : b.clear.bytes = [] := HyLib.ringBuffer.bytes_clear b

@[simp] theorem capacity_clear : b.clear.capacity = b.capacity := HyLib.ringBuffer.capacity_clear b

end RingBuffer

/-! ## `Timer` and `StopWatch` -/

/-- `Utility::Timer`. -/
def Timer : Type := HyLib.timer.Timer

instance : DecidableEq Timer := HyLib.timer.decEq

namespace Timer

def new : Timer := HyLib.timer.new

/-- `Restart`. -/
def restart (t : Timer) : Timer := HyLib.timer.restart t

/-- `Stop`. -/
def stop (t : Timer) : Timer := HyLib.timer.stop t

/-- `state() == Timer::STARTED`. -/
def isStarted (t : Timer) : Bool := HyLib.timer.isStarted t

instance : Repr Timer := ⟨fun t => reprPrec t.isStarted⟩

@[simp] theorem isStarted_new : new.isStarted = false := HyLib.timer.isStarted_new

@[simp] theorem isStarted_restart (t : Timer) : t.restart.isStarted = true :=
  HyLib.timer.isStarted_restart t

@[simp] theorem isStarted_stop (t : Timer) : t.stop.isStarted = false := HyLib.timer.isStarted_stop t

end Timer

/-- `Utility::StopWatch`. -/
def StopWatch : Type := HyLib.stopWatch.StopWatch

instance : DecidableEq StopWatch := HyLib.stopWatch.decEq

/-- `StopWatch::Start`. -/
def StopWatch.start (clock : Nat) : StopWatch := HyLib.stopWatch.start clock

/-- `StopWatch::Pause`: the time since `Start` is over. -/
def StopWatch.pause (w : StopWatch) (clock : Nat) : StopWatch := HyLib.stopWatch.pause w clock

def StopWatch.elapsedTime (w : StopWatch) : Nat := HyLib.stopWatch.elapsedTime w

instance : Repr StopWatch := ⟨fun w => reprPrec w.elapsedTime⟩

@[simp] theorem StopWatch.elapsedTime_pause (t₀ t : Nat) :
    ((StopWatch.start t₀).pause t).elapsedTime = t - t₀ :=
  HyLib.stopWatch.elapsedTime_pause t₀ t

end

/-! ## A library that behaves like this -/

namespace Reference

/-- A buffer as its bytes and its capacity. -/
structure Buffer where
  capacity : Nat
  bytes : List UInt8
  size_le : bytes.length ≤ capacity
deriving DecidableEq, Repr

/-- A FIFO of bytes. -/
def ringBuffer : RingBufferImpl where
  Buffer := Buffer
  decEq := inferInstance
  new capacity := ⟨capacity, [], Nat.zero_le _⟩
  size b := b.bytes.length
  freeSpace b := b.capacity - b.bytes.length
  empty b := b.bytes.isEmpty
  full b := b.capacity - b.bytes.length == 0
  write b data := (min data.length (b.capacity - b.bytes.length),
    ⟨b.capacity, b.bytes ++ data.take (b.capacity - b.bytes.length), by
      have := b.size_le
      simp only [List.length_append, List.length_take]
      omega⟩)
  read b n := (b.bytes.take n, ⟨b.capacity, b.bytes.drop n, by
    have := b.size_le
    simp only [List.length_drop]
    omega⟩)
  clear b := ⟨b.capacity, [], Nat.zero_le _⟩
  capacity b := b.capacity
  bytes b := b.bytes
  capacity_new _ := rfl
  bytes_new _ := rfl
  length_le b := b.size_le
  size_eq _ := rfl
  freeSpace_eq _ := rfl
  empty_eq _ := rfl
  full_eq _ := rfl
  write_fst _ _ := rfl
  bytes_write _ _ := rfl
  capacity_write _ _ := rfl
  read_fst _ _ := rfl
  bytes_read _ _ := rfl
  capacity_read _ _ := rfl
  bytes_clear _ := rfl
  capacity_clear _ := rfl

/-- A timer that only knows whether it is running. -/
def timer : TimerImpl where
  Timer := Bool
  decEq := inferInstance
  new := false
  restart _ := true
  stop _ := false
  isStarted t := t
  isStarted_new := rfl
  isStarted_restart _ := rfl
  isStarted_stop _ := rfl

/-- A watch that adds up the times between `Start` and `Pause`. -/
structure Watch where
  startedAt : Nat
  elapsedTime : Nat := 0
deriving DecidableEq, Repr

def stopWatch : StopWatchImpl where
  StopWatch := Watch
  decEq := inferInstance
  start clock := { startedAt := clock }
  pause w clock := { w with elapsedTime := w.elapsedTime + (clock - w.startedAt) }
  elapsedTime w := w.elapsedTime
  elapsedTime_pause _ _ := Nat.zero_add _

/-- The library that runs on fixed inputs use. -/
scoped instance hyLib : HyLib := ⟨ringBuffer, timer, stopWatch⟩

end Reference

/-! ## Process-wide state -/

/-- What every connection of a process shares: the file-level `max_duplicated_acks` of
`SendWindow.cc`, which is one variable for all send windows, and the clock. -/
structure Globals where
  maxDuplicatedAcks : UInt32 := 3
  clock : Nat := 0
deriving DecidableEq, Repr

end NetStack
