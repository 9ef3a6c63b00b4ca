/-
# Driver.Uring -- the io_uring driver

The driver, function by function, over a model of the ring.

* `Ring` is what the driver and the kernel share: the submission queue, the
  requests the kernel holds, the completion queue, and (as history) the
  completions consumed so far.  A completion carries the submission entry it
  answers, so "one completion per entry, with its `user_data`" is how the ring is
  built.  What the kernel decides is data: an `Enter` is one `io_uring_enter`,
  with what it consumed, what it posted meanwhile and what it returned.
* `UringDriver` and its functions follow the source.  A panic is `none`.
* `outstanding` is every entry pushed whose completion has not been consumed; the
  kernel moves entries about inside it and never adds or loses one.
-/
import Mathlib.Algebra.Order.Group.Multiset
import Vibeio.Driver.Basic

namespace Vibeio.Driver

open Vibeio.Theory

set_option autoImplicit false

/-! ## The ring -/

/-- What a submission entry asks for.  A completion operation is known by the
serial number of its submission. -/
inductive Request where
  | pollAdd (fd : Int) (mask : Nat)
  | interruptRead
  | timeout (nanos : Nat)
  | operation (serial : Nat)
  deriving DecidableEq, Repr

/-- `squeue::Entry`. -/
structure Sqe where
  userData : Nat
  request : Request
  deriving DecidableEq, Repr

/-- `cqueue::Entry`, with the submission entry it answers. -/
structure Cqe where
  sqe : Sqe
  result : Int
  deriving DecidableEq, Repr

def Cqe.userData (cqe : Cqe) : Nat := cqe.sqe.userData

structure Ring where
  capacity : Nat
  sq : List Sqe
  inFlight : List Sqe
  cq : List Cqe
  drained : List Cqe
  deriving DecidableEq, Repr

/-- One `io_uring_enter`: how many entries the kernel took, which of the requests
it holds it completed (by position, with the result), and what it returned. -/
structure Enter where
  consumed : Nat
  posted : List (Nat × Int)
  result : Except IoError Nat

namespace Ring

def isFull (r : Ring) : Bool := r.capacity ≤ r.sq.length

def push (r : Ring) (entry : Sqe) : Option Ring :=
  if r.isFull then none else some { r with sq := r.sq ++ [entry] }

/-- The kernel completes the `i`-th request it holds. -/
def post (r : Ring) (i : Nat) (result : Int) : Ring :=
  match r.inFlight[i]? with
  | some sqe => { r with inFlight := r.inFlight.eraseIdx i, cq := r.cq ++ [⟨sqe, result⟩] }
  | none => r

/-- The kernel takes the first `n` submission entries. -/
def consume (r : Ring) (n : Nat) : Ring :=
  { r with sq := r.sq.drop n, inFlight := r.inFlight ++ r.sq.take n }

def enter (r : Ring) (e : Enter) : Ring :=
  e.posted.foldl (fun r p => r.post p.1 p.2) (r.consume e.consumed)

/-- The driver has read the first completion. -/
def pop (r : Ring) : Ring := { r with cq := r.cq.tail, drained := r.drained ++ r.cq.take 1 }

/-- Pushed, and its completion not consumed yet. -/
def outstanding (r : Ring) : Multiset Sqe := ↑r.sq + ↑r.inFlight + ↑(r.cq.map Cqe.sqe)

end Ring

/-! ## Keys and masks -/

def KEY_KIND_BITS : Nat := 1
def KEY_KIND_MASK : Nat := (1 <<< KEY_KIND_BITS) - 1
def POLL_KEY_KIND : Nat := 0
def COMPLETION_KEY_KIND : Nat := 1
def U64_MAX : Nat := 2 ^ 64 - 1

def encodeCompletionKey (token : Nat) : Nat :=
  asU64 (asU64 token <<< KEY_KIND_BITS) ||| COMPLETION_KEY_KIND

def encodePollKey (token : Nat) : Nat := asU64 (asU64 token <<< KEY_KIND_BITS) ||| POLL_KEY_KIND

def decodeToken (key : Nat) : Nat := key >>> KEY_KIND_BITS

def decodeKeyKind (key : Nat) : Nat := key &&& KEY_KIND_MASK

def POLLIN : Nat := 1
def POLLOUT : Nat := 4

def interestToPollMask (interest : Interest) : Nat :=
  (if interest.isReadable then POLLIN else 0) ||| (if interest.isWritable then POLLOUT else 0)

/-- `mask as i16 & bit != 0`. -/
def maskHas (mask bit : Nat) : Bool := (mask % 2 ^ 16) &&& bit != 0

/-! ## The driver -/

structure PollRegistration where
  fd : Int
  pollMask : Nat
  waiterRead : Option Waker
  pollReadArmed : Bool
  waiterWrite : Option Waker
  pollWriteArmed : Bool
  deriving DecidableEq, Repr

inductive HandleRegistration where
  | completion
  | poll (registration : PollRegistration)
  deriving DecidableEq, Repr

structure UringDriver where
  ring : Ring
  registrations : Slab HandleRegistration
  completions : CompletionTable Unit
  pendingSubmissions : Bool
  extArg : Bool

namespace UringDriver

def submitterCallResult : Except IoError Nat → Except IoError Unit
  | .ok _ => .ok ()
  | .error err =>
      if err.rawOsError = some EBUSY then .ok ()
      else if err.rawOsError = some ETIME then .ok ()
      else .error err

def queueFull : IoError := .custom .other "io_uring submission queue is full"

/-- Submit first if the queue is full, then push: the part `push_entry` and
`collect_completions` share. -/
def makeRoomAndPush (ring : Ring) (entry : Sqe) (submit : Enter) : Except IoError Unit × Ring :=
  let room := if ring.isFull then submitterCallResult submit.result else .ok ()
  let ring := if ring.isFull then ring.enter submit else ring
  match room with
  | .error err => (.error err, ring)
  | .ok () =>
      match ring.push entry with
      | none => (.error queueFull, ring)
      | some ring => (.ok (), ring)

def pushEntry (d : UringDriver) (entry : Sqe) (submit : Enter) : Except IoError Unit × UringDriver :=
  match makeRoomAndPush d.ring entry submit with
  | (.error err, ring) => (.error err, { d with ring := ring })
  | (.ok (), ring) => (.ok (), { d with ring := ring, pendingSubmissions := true })

def pollAddEntry (token : Nat) (fd : Int) (mask : Nat) : Sqe :=
  ⟨encodePollKey token, .pollAdd fd mask⟩

def pushPollAdd (d : UringDriver) (token : Nat) (fd : Int) (mask : Nat) (submit : Enter) :
    Except IoError Unit × UringDriver :=
  d.pushEntry (pollAddEntry token fd mask) submit

/-! ### Draining the completion queue -/

/-- The poll branch of `drain_cq`: what happens to the registration, and who is
woken. -/
def drainPoll (r : PollRegistration) : Option Waker × PollRegistration :=
  let write := maskHas r.pollMask POLLOUT
  let read := maskHas r.pollMask POLLIN
  if write then
    let r := { r with pollWriteArmed := false }
    let r := if read then { r with pollReadArmed := false, waiterRead := none } else r
    (r.waiterWrite, { r with waiterWrite := none })
  else
    (r.waiterRead, { r with pollReadArmed := false, waiterRead := none })

/-- One round of the loop of `drain_cq`: the waker collected, whether it was the
interrupt, and the driver. -/
structure Drained where
  woken : Option Waker
  interrupt : Bool
  driver : UringDriver

def drainCqe (d : UringDriver) (cqe : Cqe) : Drained :=
  let key := cqe.userData
  if key = U64_MAX then ⟨none, true, d⟩
  else if key = U64_MAX - 1 then ⟨none, false, d⟩
  else
    let token := decodeToken key
    if decodeKeyKind key = POLL_KEY_KIND then
      match d.registrations.get token with
      | some (.poll r) =>
          let (waiter, r) := drainPoll r
          ⟨waiter, false, { d with registrations := d.registrations.insert token (.poll r) }⟩
      | _ => ⟨none, false, d⟩
    else
      let (waiter, completions) := d.completions.complete id token cqe.result
      ⟨waiter, false, { d with completions := completions }⟩

/-- Read the first completion and handle it. -/
def drainNext (d : UringDriver) (cqe : Cqe) : Drained := drainCqe { d with ring := d.ring.pop } cqe

/-- The loop of `drain_cq`, over the completions there were when it began. -/
def drainLoop : Nat → UringDriver → List Waker × Bool × UringDriver
  | 0, d => ([], false, d)
  | n + 1, d =>
      match d.ring.cq with
      | [] => ([], false, d)
      | cqe :: _ =>
          let one := d.drainNext cqe
          let (wakers, interrupt, d) := drainLoop n one.driver
          (one.woken.toList ++ wakers, one.interrupt || interrupt, d)

def drainCq (d : UringDriver) : List Waker × Bool × UringDriver := drainLoop d.ring.cq.length d

def interruptEntry : Sqe := ⟨U64_MAX, .interruptRead⟩

def timeoutEntry (nanos : Nat) : Sqe := ⟨U64_MAX - 1, .timeout nanos⟩

/-- `none` is the panic. -/
def submitInterrupt (d : UringDriver) (submit : Enter) : Option UringDriver :=
  match d.pushEntry interruptEntry submit with
  | (.ok (), d) => some d
  | (.error _, _) => none

/-- What the kernel does during one `collect_completions`: the submission that
makes room for a timeout entry, the submission proper, and the one that makes
room for the interrupt entry. -/
structure CollectEnv where
  room : Enter
  submit : Enter
  interrupt : Enter

/-- Before Linux 5.11 the deadline of a wait is an entry of its own. -/
def pushWaitTimeout (d : UringDriver) (waitForOne : Bool) (timeout : Option Nat) (room : Enter) :
    Except IoError Unit × Ring :=
  match waitForOne, timeout, d.extArg with
  | true, some nanos, false => makeRoomAndPush d.ring (timeoutEntry nanos) room
  | _, _, _ => (.ok (), d.ring)

/-- The first block of `collect_completions`. -/
def submitPhase (d : UringDriver) (waitForOne : Bool) (timeout : Option Nat) (env : CollectEnv) :
    Except IoError Unit × UringDriver :=
  if waitForOne || !d.ring.sq.isEmpty then
    match d.pushWaitTimeout waitForOne timeout env.room with
    | (.error err, ring) => (.error err, { d with ring := ring })
    | (.ok (), ring) =>
        let ring := ring.enter env.submit
        match submitterCallResult env.submit.result with
        | .error err => (.error err, { d with ring := ring })
        | .ok () => (.ok (), { d with ring := ring, pendingSubmissions := !ring.sq.isEmpty })
  else (.ok (), { d with pendingSubmissions := false })

structure Collected where
  result : Except IoError Unit
  woken : List Waker
  driver : UringDriver

/-- `none` is the panic of `submit_interrupt`. -/
def collectCompletions (d : UringDriver) (waitForOne : Bool) (timeout : Option Nat)
    (env : CollectEnv) : Option Collected :=
  match d.submitPhase waitForOne timeout env with
  | (.error err, d) => some ⟨.error err, [], d⟩
  | (.ok (), d) =>
      let (wakers, needInterrupt, d) := d.drainCq
      if needInterrupt then
        (d.submitInterrupt env.interrupt).map fun d => ⟨.ok (), wakers, d⟩
      else some ⟨.ok (), wakers, d⟩

/-- `flush` and `wait` swallow an interrupted call and panic on other errors. -/
def Collected.finish (c : Collected) : Option (List Waker × UringDriver) :=
  match c.result with
  | .ok () => some (c.woken, c.driver)
  | .error err => if err.isInterrupted then some (c.woken, c.driver) else none

def flush (d : UringDriver) (env : CollectEnv) : Option (List Waker × UringDriver) :=
  (d.collectCompletions false none env).bind Collected.finish

def shouldFlush (d : UringDriver) : Bool := d.pendingSubmissions

def wait (d : UringDriver) (timeout : Option Nat) (env : CollectEnv) :
    Option (List Waker × UringDriver) :=
  (d.collectCompletions true timeout env).bind Collected.finish

/-! ### Handles -/

/-- `key` is the vacant entry the slab hands out. -/
def registerHandleWithMode (d : UringDriver) (fd : Int) (interest : Interest)
    (mode : RegistrationMode) (key : Nat) : Nat × UringDriver :=
  let registration : HandleRegistration :=
    match mode with
    | .completion => .completion
    | .poll => .poll {
        fd := fd, pollMask := interestToPollMask interest
        waiterRead := none, pollReadArmed := false
        waiterWrite := none, pollWriteArmed := false }
  (key, { d with registrations := d.registrations.insert key registration })

def reregisterHandle (d : UringDriver) (token : Nat) (interest : Interest) :
    Except IoError Unit × UringDriver :=
  match d.registrations.get token with
  | some .completion => (.ok (), d)
  | some (.poll r) =>
      let r := { r with pollMask := interestToPollMask interest }
      (.ok (), { d with registrations := d.registrations.insert token (.poll r) })
  | none => (.error (.notRegistered token), d)

/-- The cancellation it asks the kernel for shows up as completions the kernel
posts; its own result is ignored. -/
def deregisterHandle (d : UringDriver) (token : Nat) : Except IoError Unit × UringDriver :=
  match d.registrations.get token with
  | none => (.error (.notRegistered token), d)
  | some _ => (.ok (), { d with registrations := d.registrations.remove token })

/-- The first block of `submit_poll`: the registration afterwards, and the entry
to push, if one is. -/
def armPoll (r : PollRegistration) (waker : Waker) (interest : Interest) :
    PollRegistration × Option (Int × Nat) :=
  let write := interest.isWritable
  let r := if write then { r with waiterWrite := updateWaiter r.waiterWrite waker }
    else { r with waiterRead := updateWaiter r.waiterRead waker }
  let desiredMask := interestToPollMask interest
  let r := { r with pollMask := desiredMask }
  if (write && r.pollWriteArmed) || (!write && r.pollReadArmed) then (r, none)
  else
    let r := if write then { r with pollWriteArmed := true } else { r with pollReadArmed := true }
    (r, some (r.fd, desiredMask))

/-- What `submit_poll` undoes when the push fails. -/
def disarmPoll (r : PollRegistration) : PollRegistration :=
  let write := maskHas r.pollMask POLLOUT
  let read := maskHas r.pollMask POLLIN
  let r := if write then { r with pollWriteArmed := false, waiterWrite := none } else r
  if read then { r with pollReadArmed := false, waiterRead := none } else r

def setPoll (d : UringDriver) (token : Nat) (r : PollRegistration) : UringDriver :=
  { d with registrations := d.registrations.insert token (.poll r) }

def submitPoll (d : UringDriver) (token : Nat) (waker : Waker) (interest : Interest)
    (submit : Enter) : Except IoError Unit × UringDriver :=
  match d.registrations.get token with
  | some .completion => (.error (.notPollMode token), d)
  | none => (.error (.notRegistered token), d)
  | some (.poll r) =>
      let (armed, spec) := armPoll r waker interest
      let d := d.setPoll token armed
      match spec with
      | none => (.ok (), d)
      | some (fd, mask) =>
          match d.pushPollAdd token fd mask submit with
          | (.ok (), d) => (.ok (), d)
          | (.error err, d) => (.error err, d.setPoll token (disarmPoll armed))

/-! ### Completion operations -/

/-- `key` is the vacant entry, `built` what `build_completion_entry` returns. -/
def submitCompletion (d : UringDriver) (serial : Nat) (waker : Waker) (key : Nat)
    (built : Except IoError Unit) (submit : Enter) : CompletionIoResult × UringDriver :=
  match built with
  | .error err => (.submitErr err, d)
  | .ok () =>
      match d.pushEntry ⟨encodeCompletionKey key, .operation serial⟩ submit with
      | (.error err, d) => (.submitErr err, d)
      | (.ok (), d) =>
          let slot : Completion Unit :=
            { waiter := some waker, completed := none, ignoredData := none, context := () }
          (.retry key, { d with completions := d.completions.insert key slot })

def getCompletionResult (d : UringDriver) (token : Nat) : Option Int × UringDriver :=
  let (result, completions) := d.completions.getCompletionResult token
  (result, { d with completions := completions })

def setCompletionWaker (d : UringDriver) (token : Nat) (waker : Waker) : UringDriver :=
  { d with completions := d.completions.setCompletionWaker token waker }

def ignoreCompletion (d : UringDriver) (token : Nat) (data : IgnoredData) : UringDriver :=
  { d with completions := d.completions.ignoreCompletion token data }

/-- `UringDriver::new` over a ring that was built. -/
def new (entries : Nat) (extArg : Bool) (submit : Enter) : Option UringDriver :=
  submitInterrupt {
    ring := { capacity := entries, sq := [], inFlight := [], cq := [], drained := [] }
    registrations := .empty, completions := .empty
    pendingSubmissions := false, extArg := extArg } submit

end UringDriver

end Vibeio.Driver
