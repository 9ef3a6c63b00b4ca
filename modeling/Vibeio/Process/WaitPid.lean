/-
# Process.WaitPid -- waiting for a child through its pidfd

`WaitPidOp` opens a pidfd for the child, registers it in poll mode and takes the errno of a
read for its answer: a read that would block leaves it waiting, and every other result is
taken for the exit of the child, which is then reaped.  `poll_poll` reads at once; the first
`poll_completion` submits its readiness poll without a read.

The host is the driver with the descriptors (`PidHost`), shown for mio and for io_uring.  A
run interleaves polls of either kind, the exit of the child and the events of the driver.
The answers of the system are true: `waitpid` finds the child running or gives its status,
and a read of the pidfd does not block once the child has exited.

* `pollPoll_mio`: over mio, `poll_poll` is the operation whose handle and descriptor are
  followed in `Handle.Owners`.
* `waitPid_reports_exit_iff`: the operation reports nothing but the exit of the child exactly
  in the runs in which every read made while the child runs would block.
-/
import Vibeio.Handle.Owners
import Vibeio.Driver.Waiters

namespace Vibeio.Process

set_option autoImplicit false

open Vibeio.Theory
open Vibeio.Driver (IoError MioDriver UringDriver Event Enter Cqe)

/-! ## The host -/

/-- What the operation uses of the driver and the system.  `newWithMode` is
`InnerRawHandle::new_with_mode` for a descriptor, readable and in poll mode; `E` are the
answers it needs. -/
structure PidHost (S H E K : Type) where
  openFd : S → Int → S
  close : S → Int → S
  newWithMode : S → Int → E → Except IoError H × S
  submitPoll : S → H → Waker → E → Except IoError Unit × S
  dropHandle : S → H → S
  event : S → K → Option Waker × S

structure MioEnv where
  key : Nat
  registered : Except IoError Unit
  reregistered : Except IoError Unit

def mioHost : PidHost Handle.System Handle.MioHandle MioEnv Event where
  openFd := .openFd
  close := .close
  newWithMode sys fd env := sys.newWithMode fd .readable .poll env.key env.registered
  submitPoll sys handle waker env :=
    let submitted := sys.driver.submitPoll handle.token waker .readable env.reregistered
    (submitted.1, { sys with driver := submitted.2 })
  dropHandle := .dropHandle
  event sys event :=
    let handled := sys.driver.handleEvent event
    (handled.1, { sys with driver := handled.2 })

structure UringEnv where
  key : Nat
  submit : Enter

/-- `UringDriver::supports_completion`. -/
def uringSupportsCompletion : Bool := true

/-- The descriptors are not followed over io_uring. -/
def uringHost : PidHost UringDriver (Handle.InnerRawHandle uringSupportsCompletion) UringEnv Cqe where
  openFd d _ := d
  close d _ := d
  newWithMode d fd env :=
    let registered := d.registerHandleWithMode fd .readable .poll env.key
    (.ok ⟨fd, registered.1, .readable, .poll, fun _ => rfl⟩, registered.2)
  submitPoll d handle waker env := d.submitPoll handle.token waker .readable env.submit
  dropHandle d handle := (d.deregisterHandle handle.token).2
  event d cqe := ((d.drainCqe cqe).woken, (d.drainCqe cqe).driver)

/-- A host that keeps the last waker accepted for a handle until an event wakes it. -/
structure KeepsReader {S H E K : Type} (api : PidHost S H E K) where
  waiter : S → H → Option Waker
  Inv : S → H → Prop
  registered : ∀ s fd env handle s', api.newWithMode s fd env = (.ok handle, s') → Inv s' handle
  accepted : ∀ s handle waker env s', api.submitPoll s handle waker env = (.ok (), s') →
    waiter s' handle = some waker
  submitted : ∀ s handle waker env, Inv s handle → Inv (api.submitPoll s handle waker env).2 handle
  answered : ∀ s handle waker k, Inv s handle → waiter s handle = some waker →
    (api.event s k).1 = some waker ∨ waiter (api.event s k).2 handle = some waker
  handled : ∀ s handle k, Inv s handle → Inv (api.event s k).2 handle

def mioReader : KeepsReader mioHost where
  waiter sys handle := sys.driver.waiterOf handle.token
  Inv _ _ := True
  registered _ _ _ _ _ _ := trivial
  accepted sys handle waker env sys' accepted := by
    simp only [mioHost, Prod.mk.injEq] at accepted
    obtain ⟨taken, rfl⟩ := accepted
    rcases sys.driver.submitPoll_waiterOf handle.token waker .readable env.reregistered with
      ⟨-, stored⟩ | ⟨err, failed⟩
    · exact stored
    · rw [failed] at taken
      cases taken
  submitted _ _ _ _ _ := trivial
  answered _ _ _ event _ stored := by
    rcases MioDriver.handleEvent_waiterOf stored event with woken | ⟨-, kept⟩
    · exact Or.inl woken
    · exact Or.inr kept
  handled _ _ _ _ := trivial

def uringReader : KeepsReader uringHost where
  waiter d handle := d.waiterOf handle.token .read
  Inv d handle := d.Masked handle.token .read
  registered d fd env handle d' made := by
    cases made
    intro r found waits
    simp only [UringDriver.registerHandleWithMode, Slab.get_insert, if_true] at found
    cases found
    cases waits
  accepted _ _ _ _ _ accepted := UringDriver.submitPoll_accepted accepted
  submitted _ _ waker env masked := masked.submitPoll waker env.submit
  answered _ _ _ cqe masked stored := by
    rcases UringDriver.drainCqe_waiterOf masked stored cqe with woken | ⟨-, kept⟩
    · exact Or.inl woken
    · exact Or.inr kept
  handled _ _ cqe masked := masked.drainCqe cqe

/-! ## The operation -/

inductive WaitPidState (H : Type) where
  | init (pid : Int)
  | polling (pid pidfd : Int) (handle : H)
  | done

/-- What the calls of one poll return: `pidfd_open`, those of the host, the read and
`waitpid`. -/
structure PidEnv (E : Type) where
  pidfd : Int
  openErrno : Nat
  host : E
  read : Except IoError Nat
  waited : Int
  waitErrno : Nat
  status : Int

/-- The read would block. -/
def PidEnv.blocked {E : Type} (env : PidEnv E) : Bool :=
  match env.read with
  | .error err => err.isWouldBlock
  | .ok _ => false

namespace WaitPidOp

variable {S H E K : Type} (api : PidHost S H E K)

/-- `Drop for OwnedPidFd`. -/
def dropPidFd (s : S) (pidfd : Int) : S := if 0 ≤ pidfd then api.close s pidfd else s

/-- Submit a readiness poll and stay in `Polling`. -/
def arm (s : S) (pid pidfd : Int) (handle : H) (waker : Waker) (env : PidEnv E) :
    Vibeio.Poll (Except IoError Int) × WaitPidState H × S :=
  match api.submitPoll s handle waker env.host with
  | (.error err, s) => (.ready (.error err), .polling pid pidfd handle, s)
  | (.ok (), s) => (.pending, .polling pid pidfd handle, s)

/-- The arm `Polling`.  `dropped` is the host after the fields are dropped, in the order of
either method. -/
def pollPolling (s : S) (pid pidfd : Int) (handle : H) (waker : Waker) (env : PidEnv E) (dropped : S) :
    Vibeio.Poll (Except IoError Int) × WaitPidState H × S :=
  if env.blocked then arm api s pid pidfd handle waker env
  else (.ready (Handle.WaitPidOp.reap env.waited env.waitErrno env.status), .done, dropped)

/-- `WaitPidOp::poll_poll`. -/
def pollPoll (s : S) (op : WaitPidState H) (waker : Waker) (env : PidEnv E) :
    Vibeio.Poll (Except IoError Int) × WaitPidState H × S :=
  -- the old state is dropped by the assignment, its fields in the order of declaration
  let polling (s : S) (pid pidfd : Int) (handle : H) :=
    pollPolling api s pid pidfd handle waker env (api.dropHandle (dropPidFd api s pidfd) handle)
  match op with
  | .init pid =>
      match Handle.WaitPidOp.openPidfd env.pidfd env.openErrno with
      | .error err => (.ready (.error err), .init pid, s)
      | .ok fd =>
          match api.newWithMode (api.openFd s fd) fd env.host with
          | (.error err, s) => (.ready (.error err), .init pid, dropPidFd api s fd)
          | (.ok handle, s) => polling s pid fd handle
  | .polling pid pidfd handle => polling s pid pidfd handle
  | .done => (.ready (.error (.custom .other "WaitPidOp already completed")), .done, s)

/-- `WaitPidOp::poll_completion`, which begins by taking the state and leaving `Done`. -/
def pollCompletion (s : S) (op : WaitPidState H) (waker : Waker) (env : PidEnv E) :
    Vibeio.Poll (Except IoError Int) × WaitPidState H × S :=
  match op with
  | .init pid =>
      match Handle.WaitPidOp.openPidfd env.pidfd env.openErrno with
      | .error err => (.ready (.error err), .done, s)
      | .ok fd =>
          match api.newWithMode (api.openFd s fd) fd env.host with
          | (.error err, s) => (.ready (.error err), .done, dropPidFd api s fd)
          | (.ok handle, s) => arm api s pid fd handle waker env
  | .polling pid pidfd handle =>
      pollPolling api s pid pidfd handle waker env (dropPidFd api (api.dropHandle s handle) pidfd)
  | .done => (.ready (.error (.custom .other "WaitPidOp already completed")), .done, s)

end WaitPidOp

inductive Method where
  | pollPoll
  | pollCompletion
  deriving DecidableEq, Repr

/-- The poll of a driver that works by readiness, or by completions. -/
def Method.poll {S H E K : Type} (api : PidHost S H E K) :
    Method → S → WaitPidState H → Waker → PidEnv E → Vibeio.Poll (Except IoError Int) × WaitPidState H × S
  | .pollPoll => WaitPidOp.pollPoll api
  | .pollCompletion => WaitPidOp.pollCompletion api

/-! ## Over mio -/

def WaitPidState.owned : WaitPidState Handle.MioHandle → Handle.WaitPidState
  | .init pid => .init pid
  | .polling pid pidfd handle => .polling pid pidfd handle
  | .done => .done

def PidEnv.owned (env : PidEnv MioEnv) : Handle.WaitEnv where
  pidfd := env.pidfd
  openErrno := env.openErrno
  key := env.host.key
  registered := env.host.registered
  read := env.read
  reregistered := env.host.reregistered
  waited := env.waited
  waitErrno := env.waitErrno
  status := env.status

/-- A result with `Pending` for `none`. -/
def asPolled (polled : Option (Except IoError Int) × Handle.WaitPidState × Handle.System) :
    Vibeio.Poll (Except IoError Int) × Handle.WaitPidState × Handle.System :=
  match polled.1 with
  | none => (.pending, polled.2)
  | some result => (.ready result, polled.2)

theorem pollPolling_mio (sys : Handle.System) (pid pidfd : Int) (handle : Handle.MioHandle) (waker : Waker)
    (env : PidEnv MioEnv) :
    asPolled (Handle.WaitPidOp.pollPolling sys pid pidfd handle waker env.owned) =
      let polled := WaitPidOp.pollPolling mioHost sys pid pidfd handle waker env
        (mioHost.dropHandle (WaitPidOp.dropPidFd mioHost sys pidfd) handle)
      (polled.1, polled.2.1.owned, polled.2.2) := by
  have blocked : env.owned.blocked = env.blocked := rfl
  unfold Handle.WaitPidOp.pollPolling WaitPidOp.pollPolling
  rw [blocked]
  split
  · simp only [WaitPidOp.arm, mioHost, PidEnv.owned]
    rcases sys.driver.submitPoll handle.token waker .readable env.host.reregistered with ⟨_ | ⟨⟨⟩⟩, d⟩ <;> rfl
  · rfl

/-- Over mio, `poll_poll` is the operation whose handle and descriptor have been followed. -/
theorem pollPoll_mio (sys : Handle.System) (op : WaitPidState Handle.MioHandle) (waker : Waker)
    (env : PidEnv MioEnv) :
    asPolled (Handle.WaitPidOp.pollPoll sys op.owned waker env.owned) =
      let polled := WaitPidOp.pollPoll mioHost sys op waker env
      (polled.1, polled.2.1.owned, polled.2.2) := by
  cases op with
  | init pid =>
      simp only [WaitPidState.owned, Handle.WaitPidOp.pollPoll, WaitPidOp.pollPoll, PidEnv.owned]
      cases Handle.WaitPidOp.openPidfd env.pidfd env.openErrno with
      | error err => rfl
      | ok fd =>
          simp only [mioHost]
          rcases (sys.openFd fd).newWithMode fd .readable .poll env.host.key env.host.registered with
            ⟨err | handle, sys'⟩
          · rfl
          · exact pollPolling_mio sys' pid fd handle waker env
  | polling pid pidfd handle => exact pollPolling_mio sys pid pidfd handle waker env
  | done => rfl

/-! ## A child that is waited for -/

/-- `child` is its wait status once it has exited, `waits` the waker of the latest poll if
that returned `Pending`, `woken` whether it has been woken since, `answer` what the operation
has resolved with. -/
structure Waited (S H : Type) where
  sys : S
  op : WaitPidState H
  child : Option Int
  waits : Option Waker
  woken : Bool
  answer : Option (Except IoError Int)

inductive WaitStep (E K : Type) where
  | poll (method : Method) (waker : Waker) (env : PidEnv E)
  | exit (status : Int)
  | event (k : K)

/-- The system tells the truth about the child: `waitpid` returns 0 while it runs and its
status afterwards, and the pidfd is readable once it has exited. -/
def PidEnv.Truthful {E : Type} (env : PidEnv E) : Option Int → Prop
  | none => env.waited = 0
  | some status => 0 < env.waited ∧ env.status = status ∧ env.blocked = false

instance {E : Type} (env : PidEnv E) : (child : Option Int) → Decidable (env.Truthful child)
  | none => inferInstanceAs (Decidable (env.waited = 0))
  | some status => inferInstanceAs (Decidable (0 < env.waited ∧ env.status = status ∧ env.blocked = false))

namespace Waited

variable {S H E K : Type} (api : PidHost S H E K)

def accepts (s : S) (handle : H) (waker : Waker) (env : PidEnv E) : Bool :=
  match (api.submitPoll s handle waker env.host).1 with
  | .ok () => true
  | .error _ => false

/-- `pidfd_open`, the registration and `submit_poll` succeed where the poll calls them. -/
def callsSucceed (s : S) (method : Method) (waker : Waker) (env : PidEnv E) : WaitPidState H → Bool
  | .init _ =>
      decide (0 ≤ env.pidfd) &&
        match api.newWithMode (api.openFd s env.pidfd) env.pidfd env.host with
        | (.ok handle, s) => (method == .pollPoll && !env.blocked) || accepts api s handle waker env
        | (.error _, _) => false
  | .polling _ _ handle => !env.blocked || accepts api s handle waker env
  | .done => false

def afterPoll (s : Waited S H) (waker : Waker)
    (polled : Vibeio.Poll (Except IoError Int) × WaitPidState H × S) : Waited S H :=
  let s := { s with op := polled.2.1, sys := polled.2.2 }
  match polled.1 with
  | .pending => { s with waits := some waker, woken := false }
  | .ready answer => { s with waits := none, answer := some answer }

/-- A future is not polled after it has resolved. -/
def step (s : Waited S H) : WaitStep E K → Option (Waited S H)
  | .poll method waker env =>
      if s.answer.isNone ∧ env.Truthful s.child ∧ callsSucceed api s.sys method waker env s.op then
        some (s.afterPoll waker (method.poll api s.sys s.op waker env))
      else none
  | .exit status =>
      match s.child with
      | none => some { s with child := some status }
      | some _ => none
  | .event k =>
      let event := api.event s.sys k
      some { s with
        sys := event.2
        woken := s.woken || (event.1.isSome && event.1 == s.waits) }

/-- A new operation, and the child runs. -/
structure Fresh (s : Waited S H) : Prop where
  op : ∃ pid, s.op = .init pid
  child : s.child = none
  waits : s.waits = none
  answer : s.answer = none

/-- The operation has its descriptor and its handle. -/
def Registered (s : Waited S H) : Prop := ∃ pid pidfd handle, s.op = .polling pid pidfd handle

/-- **What the operation reports is the exit of the child.**  `honest`: it resolves with the
status of a child that has exited, and with nothing else.  `armed`: while it is pending, a
readiness poll is submitted for the waker of its latest poll, unless that has been woken.
`due`: once the child has exited, a poll resolves it, or registers it so that the next does. -/
structure ReportsExit (keeps : KeepsReader api) (s : Waited S H) : Prop where
  honest : ∀ answer, s.answer = some answer → ∃ status, s.child = some status ∧ answer = .ok status
  armed : s.answer = none → ∀ waker, s.waits = some waker → s.woken = true ∨
    ∃ pid pidfd handle, s.op = .polling pid pidfd handle ∧ keeps.waiter s.sys handle = some waker
  due : ∀ status method waker env t, s.child = some status → s.answer = none →
    s.step api (.poll method waker env) = some t →
      t.answer = some (.ok status) ∨ (¬ s.Registered ∧ method = .pollCompletion ∧ t.Registered)
  alive : s.answer = none → s.op ≠ .done

/-- The poll reads the pidfd. -/
def Reads (s : Waited S H) (method : Method) : Prop := method = .pollPoll ∨ s.Registered

/-- A read of the pidfd made while the child runs would block. -/
def Blocks (s : Waited S H) : WaitStep E K → Prop
  | .poll method _ env => s.child = none → s.Reads method → env.blocked = true
  | _ => True

end Waited

def waitMachine {S H E K : Type} (api : PidHost S H E K) : Machine (Waited S H) (WaitStep E K) where
  start := Waited.Fresh
  step := Waited.step api

/-! ## One poll -/

namespace Waited

variable {S H E K : Type} {api : PidHost S H E K} {keeps : KeepsReader api}

/-- What a poll that may happen does: it submits a readiness poll for its waker and is
pending, or it takes the read for an exit and resolves with what `waitpid` says. -/
inductive Polled (keeps : KeepsReader api) (waker : Waker) (env : PidEnv E) (reads : Prop) :
    Vibeio.Poll (Except IoError Int) × WaitPidState H × S → Prop where
  | armed (pid pidfd : Int) (handle : H) (s : S) (stored : keeps.waiter s handle = some waker)
      (sound : keeps.Inv s handle) (blocked : reads → env.blocked = true) :
      Polled keeps waker env reads (.pending, .polling pid pidfd handle, s)
  | reaped (s : S) (exited : env.blocked = false) (read : reads) :
      Polled keeps waker env reads (.ready (Handle.WaitPidOp.reap env.waited env.waitErrno env.status), .done, s)

theorem arm_polled {s : S} {handle : H} {waker : Waker} {env : PidEnv E} {reads : Prop}
    (sound : keeps.Inv s handle) (accepted : accepts api s handle waker env = true)
    (blocked : reads → env.blocked = true) (pid pidfd : Int) :
    Polled keeps waker env reads (WaitPidOp.arm api s pid pidfd handle waker env) := by
  unfold accepts at accepted
  unfold WaitPidOp.arm
  have kept := keeps.submitted s handle waker env.host sound
  split
  · rename_i err s' submitted
    rw [submitted] at accepted
    cases accepted
  · rename_i s' submitted
    rw [submitted] at kept
    exact .armed pid pidfd handle s' (keeps.accepted _ _ _ _ _ submitted) kept blocked

theorem pollPolling_polled {s : S} {handle : H} {waker : Waker} {env : PidEnv E}
    (sound : keeps.Inv s handle) (succeed : (!env.blocked || accepts api s handle waker env) = true)
    (pid pidfd : Int) (dropped : S) :
    Polled keeps waker env True (WaitPidOp.pollPolling api s pid pidfd handle waker env dropped) := by
  unfold WaitPidOp.pollPolling
  cases read : env.blocked with
  | true =>
      rw [read] at succeed
      exact arm_polled sound succeed (fun _ => read) pid pidfd
  | false => exact .reaped dropped read trivial

/-- **One poll**, of either kind. -/
theorem poll_polled {s : Waited S H} {method : Method} {waker : Waker} {env : PidEnv E}
    (sound : ∀ pid pidfd handle, s.op = .polling pid pidfd handle → keeps.Inv s.sys handle)
    (succeed : callsSucceed api s.sys method waker env s.op = true) :
    Polled keeps waker env (s.Reads method) (method.poll api s.sys s.op waker env) := by
  cases op : s.op with
  | init pid =>
      rw [op] at succeed
      simp only [callsSucceed, Bool.and_eq_true, decide_eq_true_eq] at succeed
      obtain ⟨opened, succeed⟩ := succeed
      have descriptor : Handle.WaitPidOp.openPidfd env.pidfd env.openErrno = .ok env.pidfd := by
        rw [Handle.WaitPidOp.openPidfd, if_neg (by omega)]
      cases made : api.newWithMode (api.openFd s.sys env.pidfd) env.pidfd env.host with
      | mk result s' =>
          rw [made] at succeed
          cases result with
          | error err => cases succeed
          | ok handle =>
              have fresh := keeps.registered _ _ _ _ _ made
              cases method with
              | pollPoll =>
                  have reads : s.Reads .pollPoll = True := eq_true (Or.inl rfl)
                  simp only [Method.poll, WaitPidOp.pollPoll, descriptor, made, reads]
                  exact pollPolling_polled fresh succeed pid env.pidfd _
              | pollCompletion =>
                  -- nothing is read yet
                  have unread : ¬ s.Reads .pollCompletion := by
                    rintro (⟨⟨⟩⟩ | ⟨pid', pidfd', handle', polling⟩)
                    rw [op] at polling
                    cases polling
                  simp only [Method.poll, WaitPidOp.pollCompletion, descriptor, made]
                  exact arm_polled fresh succeed (fun reads => absurd reads unread) pid env.pidfd
  | polling pid pidfd handle =>
      rw [op] at succeed
      have reads : s.Reads method = True := eq_true (Or.inr ⟨pid, pidfd, handle, op⟩)
      rw [reads]
      cases method with
      | pollPoll => exact pollPolling_polled (sound pid pidfd handle op) succeed pid pidfd _
      | pollCompletion => exact pollPolling_polled (sound pid pidfd handle op) succeed pid pidfd _
  | done =>
      rw [op] at succeed
      cases succeed

/-- What `waitpid` says of a child that has exited, and of one that runs. -/
theorem reap_truthful {env : PidEnv E} {child : Option Int} (truthful : env.Truthful child) :
    (∀ status, child = some status →
        Handle.WaitPidOp.reap env.waited env.waitErrno env.status = .ok status) ∧
      (child = none → Handle.WaitPidOp.reap env.waited env.waitErrno env.status =
        .error (.custom .wouldBlock "child has not exited yet")) := by
  constructor
  · rintro status rfl
    obtain ⟨positive, same, -⟩ := truthful
    rw [Handle.WaitPidOp.reap, if_neg (by omega), if_neg (by omega), same]
  · rintro rfl
    have running : env.waited = 0 := truthful
    rw [Handle.WaitPidOp.reap, if_neg (by omega), if_pos running]

theorem step_poll {s t : Waited S H} {method : Method} {waker : Waker} {env : PidEnv E}
    (stepped : s.step api (.poll (K := K) method waker env) = some t) :
    s.answer = none ∧ env.Truthful s.child ∧ callsSucceed api s.sys method waker env s.op = true ∧
      t = s.afterPoll waker (method.poll api s.sys s.op waker env) := by
  simp only [step] at stepped
  split at stepped
  · rename_i may
    cases stepped
    exact ⟨by simpa using may.1, may.2.1, may.2.2, rfl⟩
  · cases stepped

/-! ## Runs -/

/-- What holds after every step of a run whose reads block. -/
structure Good (keeps : KeepsReader api) (s : Waited S H) : Prop where
  sound : s.answer = none → ∀ pid pidfd handle, s.op = .polling pid pidfd handle → keeps.Inv s.sys handle
  honest : ∀ answer, s.answer = some answer → ∃ status, s.child = some status ∧ answer = .ok status
  armed : s.answer = none → ∀ waker, s.waits = some waker → s.woken = true ∨
    ∃ pid pidfd handle, s.op = .polling pid pidfd handle ∧ keeps.waiter s.sys handle = some waker
  alive : s.answer = none → s.op ≠ .done

theorem Fresh.good {s : Waited S H} (fresh : s.Fresh) : s.Good keeps := by
  obtain ⟨pid, op⟩ := fresh.op
  constructor
  · intro _ pid' pidfd handle polling
    rw [op] at polling
    cases polling
  · intro answer resolved
    rw [fresh.answer] at resolved
    cases resolved
  · intro _ waker waits
    rw [fresh.waits] at waits
    cases waits
  · intro _ finished
    rw [op] at finished
    cases finished

/-- A poll after the exit resolves the operation or is the first `poll_completion`. -/
theorem Good.due {s t : Waited S H} (good : s.Good keeps) {status : Int} {method : Method} {waker : Waker}
    {env : PidEnv E} (exited : s.child = some status)
    (stepped : s.step api (.poll (K := K) method waker env) = some t) :
    t.answer = some (.ok status) ∨ (¬ s.Registered ∧ method = .pollCompletion ∧ t.Registered) := by
  obtain ⟨pending, truthful, succeed, rfl⟩ := step_poll stepped
  have readable : env.blocked = false := by
    rw [exited] at truthful
    exact truthful.2.2
  have reaps := (reap_truthful truthful).1 status exited
  have polled := poll_polled (good.sound pending) succeed
  generalize method.poll api s.sys s.op waker env = result at polled
  cases polled with
  | armed pid pidfd handle s' stored sound blocked =>
      right
      have unread : ¬ s.Reads method := by
        intro reads
        rw [blocked reads] at readable
        cases readable
      refine ⟨fun registered => unread (Or.inr registered), ?_, pid, pidfd, handle, rfl⟩
      cases method with
      | pollPoll => exact absurd (Or.inl rfl) unread
      | pollCompletion => rfl
  | reaped s' _ _ =>
      left
      simp only [afterPoll, reaps]

theorem Good.reports {s : Waited S H} (good : s.Good keeps) : s.ReportsExit (K := K) api keeps where
  honest := good.honest
  armed := good.armed
  due _ _ _ _ _ exited _ stepped := good.due exited stepped
  alive := good.alive

theorem Good.poll {s t : Waited S H} {method : Method} {waker : Waker} {env : PidEnv E} (good : s.Good keeps)
    (blocks : s.Blocks (.poll (K := K) method waker env))
    (stepped : s.step api (.poll (K := K) method waker env) = some t) : t.Good keeps := by
  obtain ⟨pending, truthful, succeed, rfl⟩ := step_poll stepped
  have reaps := (reap_truthful truthful).1
  have polled := poll_polled (good.sound pending) succeed
  generalize method.poll api s.sys s.op waker env = result at polled
  cases polled with
  | armed pid pidfd handle s' stored sound blocked =>
      constructor
      · rintro _ pid' pidfd' handle' ⟨⟩
        exact sound
      · intro answer resolved
        exact good.honest answer resolved
      · rintro _ waker' ⟨⟩
        exact Or.inr ⟨pid, pidfd, handle, rfl, stored⟩
      · rintro _ ⟨⟩
  | reaped s' readable read =>
      refine ⟨by rintro ⟨⟩, ?_, by rintro ⟨⟩, by rintro ⟨⟩⟩
      rintro answer ⟨⟩
      cases child : s.child with
      | none =>
          -- a read made while the child runs would have blocked
          rw [blocks child read] at readable
          cases readable
      | some status => exact ⟨status, child, reaps status child⟩

theorem Good.exit {s t : Waited S H} {status : Int} (good : s.Good keeps)
    (stepped : s.step api (.exit (E := E) (K := K) status) = some t) : t.Good keeps := by
  simp only [step] at stepped
  split at stepped
  · rename_i runs
    cases stepped
    refine ⟨good.sound, fun answer resolved => ?_, good.armed, good.alive⟩
    obtain ⟨status', exited, -⟩ := good.honest answer resolved
    rw [runs] at exited
    cases exited
  · cases stepped

theorem Good.event {s t : Waited S H} {k : K} (good : s.Good keeps)
    (stepped : s.step api (.event (E := E) k) = some t) : t.Good keeps := by
  cases stepped
  constructor
  · intro pending pid pidfd handle polling
    exact keeps.handled _ _ _ (good.sound pending pid pidfd handle polling)
  · exact good.honest
  · intro pending waker waits
    change s.waits = some waker at waits
    rcases good.armed pending waker waits with woken | ⟨pid, pidfd, handle, polling, stored⟩
    · left
      simp only [woken, Bool.true_or]
    · rcases keeps.answered _ _ _ k (good.sound pending pid pidfd handle polling) stored with wakes | still
      · left
        simp [wakes, waits]
      · exact Or.inr ⟨pid, pidfd, handle, polling, still⟩
  · exact good.alive

theorem Good.step {s t : Waited S H} {label : WaitStep E K} (good : s.Good keeps) (blocks : s.Blocks label)
    (stepped : s.step api label = some t) : t.Good keeps := by
  cases label with
  | poll method waker env => exact good.poll blocks stepped
  | exit status => exact good.exit stepped
  | event k => exact good.event stepped

/-- A read that does not block while the child runs is taken for its exit, and `waitpid`
denies that. -/
theorem Good.broken {s t : Waited S H} {label : WaitStep E K} (good : s.Good keeps) (unblocked : ¬ s.Blocks label)
    (stepped : s.step api label = some t) : ¬ t.ReportsExit (K := K) api keeps := by
  cases label with
  | poll method waker env =>
      simp only [Blocks, Classical.not_imp] at unblocked
      obtain ⟨runs, reads, readable⟩ := unblocked
      obtain ⟨pending, truthful, succeed, rfl⟩ := step_poll stepped
      have polled := poll_polled (good.sound pending) succeed
      generalize method.poll api s.sys s.op waker env = result at polled
      cases polled with
      | armed pid pidfd handle s' stored sound blocked => exact absurd (blocked reads) readable
      | reaped s' _ _ =>
          intro reports
          obtain ⟨status, exited, -⟩ := reports.honest _ rfl
          change s.child = some status at exited
          rw [runs] at exited
          cases exited
  | exit status => exact absurd trivial unblocked
  | event k => exact absurd trivial unblocked

end Waited

/-- **When a `WaitPidOp` reports the exit of its child and nothing else.**  On any host that
keeps the waker it accepted, for any interleaving of polls by either method, the exit and
events, where the calls it is assumed to make succeed: if and only if every read of the
pidfd made while the child runs would block. -/
theorem waitPid_reports_exit_iff {S H E K : Type} {api : PidHost S H E K} (keeps : KeepsReader api)
    {s t : Waited S H} {labels : List (WaitStep E K)} (fresh : s.Fresh)
    (ran : (waitMachine api).exec s labels = some t) :
    (waitMachine api).Throughout (Waited.ReportsExit (K := K) api keeps) s labels ↔
      (waitMachine api).AllSteps Waited.Blocks s labels :=
  Machine.throughout_iff_allSteps
    (fun _ _ _ good blocks stepped => Waited.Good.step good blocks stepped)
    (fun _ good => good.reports)
    (fun _ _ _ good unblocked stepped => Waited.Good.broken good unblocked stepped)
    fresh.good ran

/-- A new operation on a system without handles. -/
def Waited.onMio : Waited Handle.System Handle.MioHandle :=
  ⟨⟨MioDriver.new, ∅, ∅⟩, .init 100, none, none, false, none⟩

/-- The answers to a poll whose read fails with `errno`, for a child that runs or that has
exited with `status`. -/
def mioAnswers (errno : Nat) (child : Option Int) : PidEnv MioEnv :=
  ⟨6, 0, ⟨0, .ok (), .ok ()⟩, .error (.os errno), if child.isSome then 100 else 0, 0, child.getD 0⟩

/-- A read that would block, the exit, its event, and a poll that reads something else. -/
theorem waitPid_reports_exit :
    ∃ t, (waitMachine mioHost).exec .onMio
        [.poll .pollPoll ⟨7⟩ (mioAnswers 11 none), .exit 9, .event ⟨0, .readable⟩,
          .poll .pollPoll ⟨7⟩ (mioAnswers 22 (some 9))] = some t ∧ t.answer = some (.ok 9) ∧
      ((waitMachine mioHost).Throughout (Waited.ReportsExit mioHost mioReader) .onMio
          [.poll .pollPoll ⟨7⟩ (mioAnswers 11 none), .exit 9, .event ⟨0, .readable⟩,
            .poll .pollPoll ⟨7⟩ (mioAnswers 22 (some 9))] ↔
        (waitMachine mioHost).AllSteps Waited.Blocks .onMio
          [.poll .pollPoll ⟨7⟩ (mioAnswers 11 none), .exit 9, .event ⟨0, .readable⟩,
            .poll .pollPoll ⟨7⟩ (mioAnswers 22 (some 9))]) :=
  ⟨_, rfl, rfl, waitPid_reports_exit_iff mioReader ⟨⟨100, rfl⟩, rfl, rfl, rfl⟩ rfl⟩

/-- A pidfd cannot be read: the first `poll_poll` gets `EINVAL` and fails while the child
runs. -/
theorem first_poll_fails :
    ∃ t, (waitMachine mioHost).start .onMio ∧
      (waitMachine mioHost).exec .onMio [.poll .pollPoll ⟨7⟩ (mioAnswers 22 none)] = some t ∧
      t.child = none ∧ t.answer = some (.error (.custom .wouldBlock "child has not exited yet")) ∧
      ¬ t.ReportsExit (K := Event) mioHost mioReader := by
  refine ⟨_, ⟨⟨100, rfl⟩, rfl, rfl, rfl⟩, rfl, rfl, rfl, fun reports => ?_⟩
  obtain ⟨status, exited, -⟩ := reports.honest _ rfl
  cases exited

end Vibeio.Process
