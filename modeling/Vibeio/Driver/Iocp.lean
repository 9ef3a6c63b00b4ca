/-
# Driver.Iocp -- the IOCP driver

The driver of Windows: completion operations over the completion port, and polls
of sockets over the AFD device, whose completions come through the same port.

* `Port` is the completion port with the requests the system holds, the packets
  it has queued and (as history) the packets processed.  A packet carries the
  request it answers; its completion key and the token in the block `lpOverlapped`
  points to are read off it, as `process_entries` does.
* What the system decides is an argument of the function that asks it.  A panic is
  `none`.
-/
import Mathlib.Algebra.Order.Group.Multiset
import Vibeio.Driver.Basic

namespace Vibeio.Driver

open Vibeio.Theory

set_option autoImplicit false

namespace Iocp

def INTERRUPT_KEY : Nat := 2 ^ 64 - 1
def AFD_POLL_COMPLETION_KEY : Nat := 2 ^ 64 - 2
def IOCP_BATCH_SIZE : Nat := 128
def WAIT_TIMEOUT : Nat := 258
def ERROR_ABANDONED_WAIT_0 : Nat := 735
def STATUS_PENDING : Int := 0x00000103

def AFD_POLL_RECEIVE : Nat := 0x0001
def AFD_POLL_RECEIVE_EXPEDITED : Nat := 0x0002
def AFD_POLL_SEND : Nat := 0x0004
def AFD_POLL_DISCONNECT : Nat := 0x0008
def AFD_POLL_ABORT : Nat := 0x0010
def AFD_POLL_LOCAL_CLOSE : Nat := 0x0020
def AFD_POLL_CONNECT : Nat := 0x0040
def AFD_POLL_ACCEPT : Nat := 0x0080
def AFD_POLL_CONNECT_FAIL : Nat := 0x0100

/-! ## The port -/

/-- What a packet answers: an interrupt, an AFD poll (by its poll token), or an
operation on a handle associated under `key`, with the token of its block and the
serial number of its submission. -/
inductive Request where
  | interrupt
  | afdPoll (pollToken : Nat) (events : Nat)
  | operation (key token serial : Nat)
  deriving DecidableEq, Repr

/-- `OVERLAPPED_ENTRY`.  `dosError` is what `RtlNtStatusToDosError` makes of the
status. -/
structure Entry where
  request : Request
  internal : Int
  bytes : Nat
  dosError : Int
  deriving DecidableEq, Repr

namespace Entry

def completionKey (entry : Entry) : Nat :=
  match entry.request with
  | .interrupt => INTERRUPT_KEY
  | .afdPoll _ _ => AFD_POLL_COMPLETION_KEY
  | .operation key _ _ => key

/-- The token in the block `lpOverlapped` points to; `none` is a null pointer. -/
def overlapped (entry : Entry) : Option Nat :=
  match entry.request with
  | .interrupt => none
  | .afdPoll pollToken _ => some pollToken
  | .operation _ token _ => some token

end Entry

structure Port where
  held : List Request
  queue : List Entry
  processed : List Entry
  deriving DecidableEq, Repr

namespace Port

/-- The system completes the `i`-th request it holds. -/
def post (port : Port) (i : Nat) (internal : Int) (bytes : Nat) (dosError : Int) : Port :=
  match port.held[i]? with
  | some request => { port with
      held := port.held.eraseIdx i, queue := port.queue ++ [⟨request, internal, bytes, dosError⟩] }
  | none => port

/-- `PostQueuedCompletionStatus` of an interruptor. -/
def interrupt (port : Port) : Port :=
  { port with queue := port.queue ++ [⟨.interrupt, 0, 0, 0⟩] }

/-- A packet has been taken off the queue. -/
def pop (port : Port) : Port :=
  { port with queue := port.queue.tail, processed := port.processed ++ port.queue.take 1 }

/-- Requests made whose packet has not been processed. -/
def outstanding (port : Port) : Multiset Request := ↑port.held + ↑(port.queue.map Entry.request)

end Port

/-! ## The driver -/

structure OverlappedCtx where
  token : Nat
  deriving DecidableEq, Repr

structure PollOp where
  registrationToken : Nat
  deriving DecidableEq, Repr

structure PollRegistration where
  socket : Nat
  waiter : Option Waker
  interest : Interest
  pollToken : Option Nat
  deriving DecidableEq, Repr

inductive HandleRegistration where
  | completion
  | poll (registration : PollRegistration)
  deriving DecidableEq, Repr

end Iocp

open Iocp

structure IocpDriver where
  port : Port
  afd : Bool
  registrations : Slab Iocp.HandleRegistration
  completions : CompletionTable (Option OverlappedCtx)
  pollOps : Slab PollOp

namespace IocpDriver

def new : IocpDriver where
  port := { held := [], queue := [], processed := [] }
  afd := false
  registrations := .empty
  completions := .empty
  pollOps := .empty

def statusIsSuccess (status : Int) : Bool := 0 ≤ status

def ntstatusToIoError (status dosError : Int) : IoError :=
  .os (if dosError ≠ 0 then dosError.toNat else status.toNat)

/-- `n as i32`. -/
def asI32 (n : Int) : Int := n.bmod (2 ^ 32)

def completionResultFromEntry (entry : Entry) : Int :=
  if entry.internal = 0 then asI32 entry.bytes
  else
    let ntstatus := asI32 entry.internal
    let win32Error := asI32 entry.dosError
    let mappedError := if win32Error = 0 then ntstatus else win32Error
    Int.neg mappedError

def afdClosing : Nat := AFD_POLL_DISCONNECT ||| AFD_POLL_ABORT ||| AFD_POLL_LOCAL_CLOSE

def interestToAfdEvents (interest : Interest) : Nat :=
  let events := afdClosing
  let events := if interest.isReadable then
    events ||| (AFD_POLL_RECEIVE ||| AFD_POLL_RECEIVE_EXPEDITED ||| AFD_POLL_ACCEPT) else events
  let events := if interest.isWritable then
    events ||| (AFD_POLL_SEND ||| AFD_POLL_CONNECT ||| AFD_POLL_CONNECT_FAIL) else events
  if events = afdClosing then
    events ||| (AFD_POLL_RECEIVE ||| AFD_POLL_SEND ||| AFD_POLL_ACCEPT ||| AFD_POLL_CONNECT)
  else events

/-- `opened` is the outcome of opening the device and tying it to the port. -/
def ensureAfdHandle (d : IocpDriver) (opened : Except IoError Unit) : Except IoError Unit × IocpDriver :=
  if d.afd then (.ok (), d)
  else
    match opened with
    | .error err => (.error err, d)
    | .ok () => (.ok (), { d with afd := true })

/-- The system's part in arming a poll: opening the device, the vacant entry of
`poll_ops`, the status of the request and its error code. -/
structure ArmEnv where
  opened : Except IoError Unit
  key : Nat
  status : Int
  dosError : Int

def setPoll (d : IocpDriver) (token : Nat) (r : Iocp.PollRegistration) : IocpDriver :=
  { d with registrations := d.registrations.insert token (.poll r) }

def armPollOperation (d : IocpDriver) (token : Nat) (interest : Interest) (env : ArmEnv) :
    Except IoError Unit × IocpDriver :=
  match d.ensureAfdHandle env.opened with
  | (.error err, d) => (.error err, d)
  | (.ok (), d) =>
      match d.registrations.get token with
      | some .completion => (.error (.notPollMode token), d)
      | none => (.error (.notRegistered token), d)
      | some (.poll r) =>
          if r.pollToken.isSome then (.ok (), d)
          else if statusIsSuccess env.status || env.status = STATUS_PENDING then
            (.ok (), { d.setPoll token { r with pollToken := some env.key } with
              pollOps := d.pollOps.insert env.key ⟨token⟩
              port := { d.port with
                held := d.port.held ++ [.afdPoll env.key (interestToAfdEvents interest)] } })
          else
            -- the entry of `poll_ops` and the poll token are taken back
            (.error (ntstatusToIoError env.status env.dosError),
              { d.setPoll token { r with pollToken := none } with
                pollOps := (d.pollOps.insert env.key ⟨token⟩).remove env.key })

def submitPoll (d : IocpDriver) (token : Nat) (waker : Waker) (interest : Interest) (env : ArmEnv) :
    Except IoError Unit × IocpDriver :=
  match d.registrations.get token with
  | none => (.error (.notRegistered token), d)
  | some .completion => (.error (.notPollMode token), d)
  | some (.poll r) =>
      let d := d.setPoll token { r with interest := interest, waiter := updateWaiter r.waiter waker }
      if r.pollToken.isNone then d.armPollOperation token interest env else (.ok (), d)

/-- One round of the loop of `process_entries`: who is woken, and the driver. -/
def processEntry (d : IocpDriver) (entry : Entry) : Option Waker × IocpDriver :=
  if entry.completionKey = INTERRUPT_KEY then (none, d)
  else if entry.completionKey = AFD_POLL_COMPLETION_KEY then
    match entry.overlapped with
    | none => (none, d)
    | some pollToken =>
        let registrationToken := (d.pollOps.get pollToken).map (·.registrationToken)
        let d := { d with pollOps := d.pollOps.remove pollToken }
        match registrationToken with
        | none => (none, d)
        | some token =>
            match d.registrations.get token with
            | some (.poll r) =>
                let pollToken := if r.pollToken = some pollToken then none else r.pollToken
                (r.waiter, d.setPoll token { r with pollToken := pollToken, waiter := none })
            | _ => (none, d)
  else
    match entry.overlapped with
    | none => (none, d)
    | some token =>
        let (waiter, completions) :=
          d.completions.complete (fun _ => none) token (completionResultFromEntry entry)
        (waiter, { d with completions := completions })

/-- Take the first packet off the queue and process it. -/
def processNext (d : IocpDriver) (entry : Entry) : Option Waker × IocpDriver :=
  { d with port := d.port.pop }.processEntry entry

/-- `process_entries` over the first `n` packets. -/
def processEntries : Nat → IocpDriver → List Waker × IocpDriver
  | 0, d => ([], d)
  | n + 1, d =>
      match d.port.queue with
      | [] => ([], d)
      | entry :: _ =>
          let (woken, d) := d.processNext entry
          let (wakers, d) := processEntries n d
          (woken.toList ++ wakers, d)

/-- What `GetQueuedCompletionStatusEx` answers: a failure, or how many packets it
took off the queue. -/
abbrev Dequeued := Except IoError Nat

def processBatch (d : IocpDriver) (dequeued : Dequeued) :
    Except IoError Nat × List Waker × IocpDriver :=
  match dequeued with
  | .error err =>
      if err.rawOsError = some WAIT_TIMEOUT ∨ err.rawOsError = some ERROR_ABANDONED_WAIT_0 then
        (.ok 0, [], d)
      else (.error err, [], d)
  | .ok n =>
      let removed := min (min n IOCP_BATCH_SIZE) d.port.queue.length
      let (wakers, d) := d.processEntries removed
      (.ok removed, wakers, d)

/-- `while self.process_batch(0)? > 0 {}`; the list holds the answers of the
system, and the loop has ended when they have. -/
def processReadyCompletions : IocpDriver → List Dequeued → Except IoError Unit × List Waker × IocpDriver
  | d, [] => (.ok (), [], d)
  | d, dequeued :: rest =>
      match d.processBatch dequeued with
      | (.error err, wakers, d) => (.error err, wakers, d)
      | (.ok 0, wakers, d) => (.ok (), wakers, d)
      | (.ok (_ + 1), wakers, d) =>
          let (result, more, d) := d.processReadyCompletions rest
          (result, wakers ++ more, d)

def flush (d : IocpDriver) (answers : List Dequeued) : Option (List Waker × IocpDriver) :=
  match d.processReadyCompletions answers with
  | (.ok (), wakers, d) => some (wakers, d)
  | (.error err, wakers, d) => if err.isInterrupted then some (wakers, d) else none

def wait (d : IocpDriver) (first : Dequeued) (answers : List Dequeued) :
    Option (List Waker × IocpDriver) :=
  match d.processBatch first with
  | (.ok 0, wakers, d) => some (wakers, d)
  | (.ok (_ + 1), wakers, d) =>
      match d.processReadyCompletions answers with
      | (.ok (), more, d) => some (wakers ++ more, d)
      | (.error _, _, _) => none
  | (.error err, wakers, d) => if err.isInterrupted then some (wakers, d) else none

/-- The system's part in registering: the vacant entry, the base socket and
whether the steps it takes succeed. -/
structure RegisterEnv where
  key : Nat
  socket : Except IoError Nat
  associated : Except IoError Unit
  opened : Except IoError Unit

def registerHandleWithMode (d : IocpDriver) (interest : Interest) (mode : RegistrationMode)
    (env : RegisterEnv) : Except IoError Nat × IocpDriver :=
  match mode with
  | .completion =>
      let registrations := d.registrations.insert env.key .completion
      match env.associated with
      | .error err => (.error err, { d with registrations := registrations.remove env.key })
      | .ok () => (.ok env.key, { d with registrations := registrations })
  | .poll =>
      match env.socket with
      | .error err => (.error err, d)
      | .ok socket =>
          match d.ensureAfdHandle env.opened with
          | (.error err, d) => (.error err, d)
          | (.ok (), d) => (.ok env.key, d.setPoll env.key
              { socket := socket, waiter := none, interest := interest, pollToken := none })

def reregisterHandle (d : IocpDriver) (token : Nat) (interest : Interest) :
    Except IoError Unit × IocpDriver :=
  match d.registrations.get token with
  | some .completion => (.ok (), d)
  | some (.poll r) => (.ok (), d.setPoll token { r with interest := interest })
  | none => (.error (.notRegistered token), d)

/-- The cancellation or the disassociation it asks for changes no state here: a
cancelled poll completes like any other. -/
def deregisterHandle (d : IocpDriver) (token : Nat) : Except IoError Unit × IocpDriver :=
  match d.registrations.get token with
  | none => (.error (.notRegistered token), d)
  | some _ => (.ok (), { d with registrations := d.registrations.remove token })

/-- The environment of a submission: the vacant slot, the key the operation's
handle is associated under, and what `submit_windows` returns. -/
structure SubmitEnv where
  key : Nat
  handleKey : Nat
  submitted : Except IoError Unit

def submitCompletion (d : IocpDriver) (serial : Nat) (waker : Waker) (env : SubmitEnv) :
    CompletionIoResult × IocpDriver :=
  let slot : Completion (Option OverlappedCtx) :=
    { waiter := some waker, completed := none, ignoredData := none, context := some ⟨env.key⟩ }
  let completions := d.completions.insert env.key slot
  match env.submitted with
  | .error err => (.submitErr err, { d with completions := completions.remove env.key })
  | .ok () => (.retry env.key, { d with
      completions := completions
      port := { d.port with held := d.port.held ++ [.operation env.handleKey env.key serial] } })

def getCompletionResult (d : IocpDriver) (token : Nat) : Option Int × IocpDriver :=
  let (result, completions) := d.completions.getCompletionResult token
  (result, { d with completions := completions })

def setCompletionWaker (d : IocpDriver) (token : Nat) (waker : Waker) : IocpDriver :=
  { d with completions := d.completions.setCompletionWaker token waker }

def ignoreCompletion (d : IocpDriver) (token : Nat) (data : IgnoredData) : IocpDriver :=
  { d with completions := d.completions.ignoreCompletion token data }

end IocpDriver

end Vibeio.Driver
