/-
# Op.Requests -- one operation, two requests

An operation is asked for its I/O in one of two ways: `poll_poll` makes the system call
itself, `build_completion_entry` describes it in an entry for io_uring.  The two are
written side by side, field by field.

* `Syscall` and `Entry` are the two as the source fills them in; `asks` reads off either
  what is asked of the system.
* `SameRequest`: the entry asks for what the system call asks for.
* `completion_entry_iff`: a receive always does, a send never does, since its header has
  a control length without a control buffer, and a read does unless the capacity of its
  buffer is cut off at 32 bits.
-/
import Vibeio.Fs.File
import Vibeio.Net.SocketAddr

namespace Vibeio.Op

set_option autoImplicit false

open Vibeio.Theory (Endian)
open Vibeio.Net
open Vibeio.Io
open Vibeio.Fs (MAX_RW_COUNT)

def MSG_PEEK : Nat := 2

/-! ## Requests -/

structure Iovec where
  iovBase : Nat
  iovLen : Nat
  deriving DecidableEq, Repr

/-- `libc::msghdr`, with what its pointers point to.  `none` is the null pointer. -/
structure Msghdr where
  msgName : Net.SockaddrStorage
  msgNamelen : Nat
  msgIov : Iovec
  msgIovlen : Nat
  msgControl : Option Nat
  msgControllen : Nat
  msgFlags : Nat
  deriving DecidableEq, Repr

/-- `std::mem::zeroed`. -/
def Msghdr.zeroed : Msghdr := ⟨.zeroed, 0, ⟨0, 0⟩, 0, none, 0, 0⟩

/-- `squeue::Entry`. -/
inductive Entry where
  | sendMsg (fd : Nat) (msg : Msghdr) (flags userData : Nat)
  | recvMsg (fd : Nat) (msg : Msghdr) (flags userData : Nat)
  | read (fd buf len userData : Nat)
  deriving DecidableEq, Repr

inductive Syscall where
  | sendto (fd buf len flags : Nat) (addr : Net.SockaddrStorage) (addrLen : Nat)
  | recvfrom (fd buf len flags : Nat) (addr : Net.SockaddrStorage) (addrLen : Nat)
  | read (fd buf len : Nat)
  deriving DecidableEq, Repr

inductive Action where
  | send
  | receive
  | read
  deriving DecidableEq, Repr

/-- What is asked of the system. -/
structure Asked where
  action : Action
  fd : Nat
  start : Nat
  length : Nat
  address : Option (Net.SockaddrStorage × Nat)
  control : Option Nat × Nat
  flags : Nat
  deriving DecidableEq, Repr

def Msghdr.asks (action : Action) (fd flags : Nat) (msg : Msghdr) : Asked where
  action := action
  fd := fd
  start := msg.msgIov.iovBase
  length := msg.msgIovlen * msg.msgIov.iovLen
  address := some (msg.msgName, msg.msgNamelen)
  control := (msg.msgControl, msg.msgControllen)
  flags := flags ||| msg.msgFlags

def Entry.asks : Entry → Asked
  | .sendMsg fd msg flags _ => msg.asks .send fd flags
  | .recvMsg fd msg flags _ => msg.asks .receive fd flags
  | .read fd buf len _ => ⟨.read, fd, buf, len, none, (none, 0), 0⟩

def Syscall.asks : Syscall → Asked
  | .sendto fd buf len flags addr addrLen => ⟨.send, fd, buf, len, some (addr, addrLen), (none, 0), flags⟩
  | .recvfrom fd buf len flags addr addrLen => ⟨.receive, fd, buf, len, some (addr, addrLen), (none, 0), flags⟩
  | .read fd buf len => ⟨.read, fd, buf, len, none, (none, 0), 0⟩

/-! ## The operations -/

section Operations

variable {B : Type} [IoBuf B]

/-- The buffer of an operation and where it starts. -/
structure OpBuffer (B : Type) where
  asBufPtr : Nat
  inner : B
  deriving DecidableEq, Repr

structure SendtoLinuxCompletion where
  addr : Net.SockaddrStorage
  addrLen : Nat
  iovec : Iovec
  msghdr : Msghdr
  deriving DecidableEq, Repr

structure SendtoOp (B : Type) where
  handle : Nat
  buf : OpBuffer B
  addr : Net.SocketAddr
  completionState : Option SendtoLinuxCompletion
  deriving DecidableEq, Repr

namespace SendtoOp

def new (handle : Nat) (buf : OpBuffer B) (addr : Net.SocketAddr) : SendtoOp B := ⟨handle, buf, addr, none⟩

def pollPoll (T : Target) (op : SendtoOp B) : Syscall :=
  let (rawAddr, rawAddrLen) := Sendto.socketAddrToRaw T op.addr
  .sendto op.handle op.buf.asBufPtr (IoBuf.bufLen op.buf.inner) 0 rawAddr rawAddrLen

/-- What the operation keeps for the request, then the entry. -/
def buildCompletionEntry (T : Target) (op : SendtoOp B) (userData : Nat) : SendtoOp B × Entry :=
  let (rawAddr, rawAddrLen) := Sendto.socketAddrToRaw T op.addr
  let completion := op.completionState.getD ⟨.zeroed, 0, ⟨0, 0⟩, .zeroed⟩
  let completion := { completion with addr := rawAddr, addrLen := rawAddrLen }
  let completion := { completion with iovec := ⟨op.buf.asBufPtr, IoBuf.bufLen op.buf.inner⟩ }
  let msghdr :=
    { Msghdr.zeroed with
      msgName := completion.addr
      msgNamelen := completion.addrLen
      msgIov := completion.iovec
      msgIovlen := 1
      msgControl := none
      msgControllen := 1
      msgFlags := 1 }
  ({ op with completionState := some { completion with msghdr := msghdr } },
    .sendMsg op.handle msghdr 0 userData)

end SendtoOp

structure RecvfromLinuxCompletion where
  addr : Net.SockaddrStorage
  iovec : Iovec
  msghdr : Msghdr
  deriving DecidableEq, Repr

structure RecvfromOp (B : Type) where
  handle : Nat
  buf : OpBuffer B
  completionState : Option RecvfromLinuxCompletion
  peek : Bool
  deriving DecidableEq, Repr

namespace RecvfromOp

def new (handle : Nat) (buf : OpBuffer B) : RecvfromOp B := ⟨handle, buf, none, false⟩

def newPeek (handle : Nat) (buf : OpBuffer B) : RecvfromOp B := ⟨handle, buf, none, true⟩

def pollPoll (op : RecvfromOp B) : Syscall :=
  .recvfrom op.handle op.buf.asBufPtr (bufCapacity op.buf.inner) (if op.peek then MSG_PEEK else 0) .zeroed 128

def buildCompletionEntry (op : RecvfromOp B) (userData : Nat) : RecvfromOp B × Entry :=
  let completion := op.completionState.getD ⟨.zeroed, ⟨0, 0⟩, .zeroed⟩
  let completion := { completion with addr := .zeroed }
  let completion := { completion with iovec := ⟨op.buf.asBufPtr, bufCapacity op.buf.inner⟩ }
  let msghdr :=
    { Msghdr.zeroed with
      msgName := completion.addr
      msgNamelen := 128
      msgIov := completion.iovec
      msgIovlen := 1
      msgControl := none
      msgControllen := 0
      msgFlags := 0 }
  ({ op with completionState := some { completion with msghdr := msghdr } },
    .recvMsg op.handle msghdr (if op.peek then MSG_PEEK else 0) userData)

end RecvfromOp

structure ReadOp (B : Type) where
  handle : Nat
  buf : OpBuffer B
  deriving DecidableEq, Repr

namespace ReadOp

def pollPoll (op : ReadOp B) : Syscall := .read op.handle op.buf.asBufPtr (bufCapacity op.buf.inner)

/-- The length is a `u32`, and the cast keeps the low half. -/
def buildCompletionEntry (op : ReadOp B) (userData : Nat) : Entry :=
  .read op.handle op.buf.asBufPtr (bufCapacity op.buf.inner % 2 ^ 32) userData

end ReadOp

inductive Operation (B : Type) where
  | sendto (op : SendtoOp B)
  | recvfrom (op : RecvfromOp B)
  | read (op : ReadOp B)

namespace Operation

def pollPoll (T : Target) : Operation B → Syscall
  | .sendto op => op.pollPoll T
  | .recvfrom op => op.pollPoll
  | .read op => op.pollPoll

def buildCompletionEntry (T : Target) (userData : Nat) : Operation B → Entry
  | .sendto op => (op.buildCompletionEntry T userData).2
  | .recvfrom op => (op.buildCompletionEntry userData).2
  | .read op => op.buildCompletionEntry userData

/-- The part of the buffer the operation is about. -/
def length : Operation B → Nat
  | .sendto op => IoBuf.bufLen op.buf.inner
  | .recvfrom op => bufCapacity op.buf.inner
  | .read op => bufCapacity op.buf.inner

def peeks : Operation B → Bool
  | .recvfrom op => op.peek
  | _ => false

end Operation

end Operations

/-! ## The comparison -/

/-- The entry asks for what the system call asks for, of a buffer of the given length. -/
structure SameRequest (length : Nat) (peeks : Bool) (call entry : Asked) : Prop where
  action : entry.action = call.action
  fd : entry.fd = call.fd
  start : entry.start = call.start
  within : entry.length ≤ length
  upToLimit : min entry.length MAX_RW_COUNT = min length MAX_RW_COUNT
  address : entry.address = call.address
  noControl : entry.control = (none, 0)
  flags : entry.flags = call.flags
  peek : entry.flags &&& MSG_PEEK ≠ 0 ↔ peeks = true

section Comparison

variable {B : Type} [IoBuf B]

def Operation.SameRequest (op : Operation B) (T : Target) (userData : Nat) : Prop :=
  Op.SameRequest op.length op.peeks (op.pollPoll T).asks (op.buildCompletionEntry T userData).asks

/-- Not a send; and of a read, a capacity that loses nothing of the limit in 32 bits. -/
def Operation.Described : Operation B → Prop
  | .sendto _ => False
  | .recvfrom _ => True
  | .read op => bufCapacity op.buf.inner < 2 ^ 32 ∨ MAX_RW_COUNT ≤ bufCapacity op.buf.inner % 2 ^ 32

theorem SendtoOp.control (T : Target) (op : SendtoOp B) (userData : Nat) :
    (op.buildCompletionEntry T userData).2.asks.control = (none, 1) := rfl

theorem RecvfromOp.sameRequest (T : Target) (op : RecvfromOp B) (userData : Nat) :
    (Operation.recvfrom op).SameRequest T userData where
  action := rfl
  fd := rfl
  start := rfl
  within := by simp [Operation.buildCompletionEntry, buildCompletionEntry, Entry.asks, Msghdr.asks, Operation.length]
  upToLimit := by
    simp [Operation.buildCompletionEntry, buildCompletionEntry, Entry.asks, Msghdr.asks, Operation.length]
  address := rfl
  noControl := rfl
  flags := by
    cases op.peek <;> simp [Operation.buildCompletionEntry, buildCompletionEntry, Entry.asks, Msghdr.asks,
      Operation.pollPoll, pollPoll, Syscall.asks]
  peek := by
    cases peeks : op.peek <;> simp [Operation.buildCompletionEntry, buildCompletionEntry, Entry.asks, Msghdr.asks,
      Operation.peeks, peeks, MSG_PEEK]

theorem ReadOp.asked_length (T : Target) (op : ReadOp B) (userData : Nat) :
    ((Operation.read op).buildCompletionEntry T userData).asks.length = bufCapacity op.buf.inner % 2 ^ 32 := rfl

/-- The low half of a capacity is as good as the capacity, up to the limit, if there is no
high half or the low one reaches the limit by itself. -/
theorem min_low_half (capacity : Nat) :
    min (capacity % 2 ^ 32) MAX_RW_COUNT = min capacity MAX_RW_COUNT ↔
      capacity < 2 ^ 32 ∨ MAX_RW_COUNT ≤ capacity % 2 ^ 32 := by
  unfold MAX_RW_COUNT
  omega

theorem ReadOp.sameRequest_iff (T : Target) (op : ReadOp B) (userData : Nat) :
    (Operation.read op).SameRequest T userData ↔ (Operation.read op).Described := by
  constructor
  · intro same
    exact (min_low_half _).mp same.upToLimit
  · intro described
    refine ⟨rfl, rfl, rfl, Nat.mod_le _ _, (min_low_half _).mpr described, rfl, rfl, rfl, ?_⟩
    simp [Operation.buildCompletionEntry, buildCompletionEntry, Entry.asks, Operation.peeks]

theorem Operation.sameRequest_iff (T : Target) (op : Operation B) (userData : Nat) :
    op.SameRequest T userData ↔ op.Described := by
  cases op with
  | sendto op =>
      refine ⟨fun same => ?_, False.elim⟩
      have lengths := same.noControl
      cases lengths.symm.trans (op.control T userData)
  | recvfrom op => exact ⟨fun _ => trivial, fun _ => op.sameRequest T userData⟩
  | read op => exact op.sameRequest_iff T userData

/-- **The entry is the system call**, with a length that is not zero, for exactly the buffers
that are not empty of the operations that are described in full; and apart from what is said
of the length, for exactly these operations. -/
theorem completion_entry_iff (T : Target) (op : Operation B) (userData : Nat) :
    (op.SameRequest T userData ∧ 0 < (op.buildCompletionEntry T userData).asks.length ↔
      op.Described ∧ 0 < op.length) ∧
    (op.SameRequest T userData ↔ op.Described) := by
  refine ⟨⟨?_, ?_⟩, op.sameRequest_iff T userData⟩
  · rintro ⟨same, positive⟩
    exact ⟨(op.sameRequest_iff T userData).mp same, Nat.lt_of_lt_of_le positive same.within⟩
  · rintro ⟨described, positive⟩
    have same := (op.sameRequest_iff T userData).mpr described
    refine ⟨same, ?_⟩
    have limit := same.upToLimit
    unfold MAX_RW_COUNT at limit
    omega

end Comparison

/-- A byte to an address, and four gigabytes from a stream. -/
theorem requests_differ :
    ¬ (Operation.sendto (.new 3 ⟨4096, ⟨[7], 1, by decide⟩⟩
      (.v4 ⟨⟨⟨[127, 0, 0, 1], rfl⟩⟩, 80⟩) : SendtoOp VecU8)).SameRequest (.linux .little) 0 ∧
    (Operation.read ⟨3, ⟨4096, ⟨List.replicate (2 ^ 32) 0⟩⟩⟩ : Operation BoxedSlice).length = 2 ^ 32 ∧
    ((Operation.read ⟨3, ⟨4096, ⟨List.replicate (2 ^ 32) 0⟩⟩⟩ : Operation BoxedSlice).buildCompletionEntry
      (.linux .little) 0).asks.length = 0 := by
  have capacity : bufCapacity (⟨List.replicate (2 ^ 32) 0⟩ : BoxedSlice) = 2 ^ 32 := List.length_replicate
  refine ⟨fun same => ?_, capacity, ?_⟩
  · cases same.noControl.symm.trans (SendtoOp.control ..)
  · rw [ReadOp.asked_length, capacity, Nat.mod_self]

end Vibeio.Op
