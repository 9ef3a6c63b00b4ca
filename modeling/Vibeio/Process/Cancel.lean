/-
# Process.Cancel -- what a dropped future takes with it

`Child::wait`, `ChildStdin::write`, `ChildStdin::flush` and `Command::status` are given
`&mut self` and take the value out of their `Option` before they await.  The future may be
dropped wherever it is suspended; what it had put back by then is what the owner has left.

* `PoolCall` is a call that moves the inner value to the blocking pool and puts it back
  after the await.  `write` goes to the pool only if the pipe is not registered with the
  driver, otherwise nothing is moved.
* `WaitCall` is a call of `Child::wait`: the child goes to the reaper, which may have to be
  started first.
* `SuspensionPoint`: any state of any of the three in which the future is suspended.
* `loses_nothing_iff`: dropping the future is harmless while a write waits for its
  registered pipe, and nowhere else.
-/
import Vibeio.Driver.Basic
import Vibeio.Theory.Machine

namespace Vibeio.Process

set_option autoImplicit false

open Vibeio.Theory
open Vibeio.Driver (IoError)

def stdioClosedError : IoError := .custom .brokenPipe "child stdio is closed"

def commandConsumedError : IoError := .custom .invalidInput "command has been consumed"

def childConsumedError : IoError := .custom .invalidInput "child process has been consumed"

def blockingPoolIoError : IoError := .custom .other "can't spawn blocking task for process I/O"

/-! ## Calls that use the blocking pool -/

section Pool

variable {I R : Type}

/-- Where a call is.  At the positions without a name of their own it is being polled. -/
inductive PoolPc (R : Type) where
  | start
  /-- In the operation on the registered pipe. -/
  | operating
  | suspendedOperating
  /-- Outside a runtime: on this thread. -/
  | blocking
  /-- At the receiver of `spawn_blocking`. -/
  | receiving
  | suspendedReceiving
  | returned (result : Except IoError R)
  | panicked
  | dropped
  deriving DecidableEq, Repr

def PoolPc.suspended : PoolPc R → Bool
  | .suspendedOperating | .suspendedReceiving => true
  | _ => false

/-- The closure given to the pool. -/
inductive Closure (I R : Type) where
  | none
  | queued
  | running (inner : I)
  /-- It has sent what it returned. -/
  | sent (result : Except IoError R) (inner : I)
  /-- The pool has dropped it. -/
  | discarded
  deriving DecidableEq, Repr

/-- What the methods differ in: what one returns at once, whether its pipe is registered, and
what it makes of a missing inner value, in a runtime and outside. -/
structure PoolMethod (R : Type) where
  atOnce : Option R
  handle : Bool
  closed : IoError
  expects : Bool

/-- `inner` is the field of the owner, `shared` the cell the future shares with the closure. -/
structure PoolCall (I R : Type) where
  inner : Option I
  pc : PoolPc R
  shared : Option I
  closure : Closure I R
  deriving DecidableEq, Repr

inductive PoolLabel (R : Type) where
  /-- `driver` is `current_driver().is_some()`. -/
  | poll (driver : Bool)
  /-- The operation on the pipe is polled; `none` is `Pending`. -/
  | operated (result : Option (Except IoError R))
  | blocked (result : Except IoError R)
  | receive
  /-- The pool, on another thread. -/
  | run
  | finish (result : Except IoError R)
  | discard
  /-- The future is dropped. -/
  | drop
  deriving DecidableEq, Repr

namespace PoolCall

/-- A call not yet polled. -/
def fresh (inner : Option I) : PoolCall I R := ⟨inner, .start, none, .none⟩

/-- The first poll up to its first await. -/
def begin (m : PoolMethod R) (driver : Bool) (s : PoolCall I R) : PoolCall I R :=
  match m.atOnce with
  | some result => { s with pc := .returned (.ok result) }
  | none =>
      if m.handle then { s with pc := .operating }
      else if driver then
        match s.inner with
        | some inner => { s with inner := none, shared := some inner, closure := .queued, pc := .receiving }
        | none => { s with pc := .returned (.error m.closed) }
      else if s.inner.isSome then { s with pc := .blocking }
      else if m.expects then { s with pc := .panicked }
      else { s with pc := .returned (.error m.closed) }

/-- The poll of the receiver, and what follows the await. -/
def receive (s : PoolCall I R) : PoolCall I R :=
  match s.closure with
  | .sent result inner => { s with inner := some inner, closure := .none, pc := .returned result }
  | .discarded =>
      match s.shared with
      | some inner =>
          { s with inner := some inner, shared := none, pc := .returned (.error blockingPoolIoError) }
      | none => { s with pc := .panicked }
  | _ => { s with pc := .suspendedReceiving }

def step (m : PoolMethod R) (s : PoolCall I R) : PoolLabel R → Option (PoolCall I R)
  | .poll driver =>
      match s.pc with
      | .start => some (s.begin m driver)
      | .suspendedOperating => some { s with pc := .operating }
      | .suspendedReceiving => some { s with pc := .receiving }
      | _ => none
  | .operated result =>
      match s.pc with
      | .operating => some { s with pc := result.elim .suspendedOperating .returned }
      | _ => none
  | .blocked result =>
      match s.pc with
      | .blocking => some { s with pc := .returned result }
      | _ => none
  | .receive =>
      match s.pc with
      | .receiving => some s.receive
      | _ => none
  | .run =>
      match s.closure, s.shared with
      | .queued, some inner => some { s with shared := none, closure := .running inner }
      | _, _ => none
  | .finish result =>
      match s.closure with
      | .running inner => some { s with closure := .sent result inner }
      | _ => none
  | .discard =>
      match s.closure with
      | .queued => some { s with closure := .discarded }
      | _ => none
  | .drop =>
      match s.pc with
      | .start | .suspendedOperating | .suspendedReceiving => some { s with pc := .dropped }
      | _ => none

end PoolCall

def poolMachine (I : Type) (m : PoolMethod R) : Machine (PoolCall I R) (PoolLabel R) where
  start s := ∃ inner, s = .fresh inner
  step := PoolCall.step m

/-- A call begun with this inner value can fail for its want. -/
def PoolMethod.Refuses (m : PoolMethod R) (inner : Option I) : Prop :=
  ∃ driver, ((PoolCall.fresh inner).begin m driver).pc = .returned (.error m.closed) ∨
    ((PoolCall.fresh inner).begin m driver).pc = .panicked

/-- The inner value is away for the time of the await, unless the pipe is registered. -/
def PoolCall.Lent (m : PoolMethod R) (s : PoolCall I R) : Prop :=
  match s.pc with
  | .start => s.closure = .none
  | .operating | .suspendedOperating => m.handle = true ∧ s.closure = .none
  | .receiving | .suspendedReceiving => m.handle = false ∧ s.inner = none
  | _ => True

theorem PoolCall.lent_begin (m : PoolMethod R) (driver : Bool) {s : PoolCall I R} (idle : s.closure = .none) :
    (s.begin m driver).Lent m := by
  unfold PoolCall.begin
  cases m.atOnce with
  | some result => trivial
  | none =>
      by_cases handle : m.handle = true
      · simp only [if_pos handle]
        exact ⟨handle, idle⟩
      · simp only [if_neg handle]
        cases driver with
        | true =>
            cases s.inner with
            | some inner => exact ⟨Bool.eq_false_iff.mpr handle, rfl⟩
            | none => trivial
        | false =>
            show PoolCall.Lent m (if s.inner.isSome = true then _ else if m.expects = true then _ else _)
            split
            · trivial
            · split <;> trivial

theorem PoolCall.lent_receive (m : PoolMethod R) {s : PoolCall I R} (lent : m.handle = false ∧ s.inner = none) :
    s.receive.Lent m := by
  unfold PoolCall.receive
  cases s.closure with
  | sent result inner => trivial
  | discarded =>
      cases s.shared with
      | some inner => trivial
      | none => trivial
  | none | queued | running => exact lent

/-- The pool goes on with the closure. -/
theorem PoolCall.lent_closure {m : PoolMethod R} {s t : PoolCall I R} (lent : s.Lent m)
    (busy : s.closure ≠ .none) (pc : t.pc = s.pc) (inner : t.inner = s.inner) : t.Lent m := by
  unfold PoolCall.Lent at *
  rw [pc, inner]
  cases here : s.pc <;> simp only [here] at lent ⊢
  · exact absurd lent busy
  · exact absurd lent.2 busy
  · exact absurd lent.2 busy
  · exact lent
  · exact lent

/-- What one step preserves. -/
theorem PoolCall.lent_step (m : PoolMethod R) {s s' : PoolCall I R} {label : PoolLabel R} (lent : s.Lent m)
    (stepped : s.step m label = some s') : s'.Lent m := by
  cases label with
  | poll driver =>
      unfold PoolCall.Lent at lent
      cases pc : s.pc <;> simp only [PoolCall.step, pc, Option.some.injEq, reduceCtorEq] at stepped lent <;>
        subst stepped
      · exact lent_begin m driver lent
      · exact lent
      · exact lent
  | operated result =>
      unfold PoolCall.Lent at lent
      cases pc : s.pc <;> simp only [PoolCall.step, pc, Option.some.injEq, reduceCtorEq] at stepped lent
      subst stepped
      cases result with
      | none => exact lent
      | some result => trivial
  | blocked result =>
      cases pc : s.pc <;> simp only [PoolCall.step, pc, Option.some.injEq, reduceCtorEq] at stepped
      subst stepped
      trivial
  | receive =>
      unfold PoolCall.Lent at lent
      cases pc : s.pc <;> simp only [PoolCall.step, pc, Option.some.injEq, reduceCtorEq] at stepped lent
      subst stepped
      exact lent_receive m lent
  | run =>
      cases closure : s.closure <;> cases shared : s.shared <;>
        simp only [PoolCall.step, closure, shared, Option.some.injEq, reduceCtorEq] at stepped
      subst stepped
      exact lent_closure lent (by simp [closure]) rfl rfl
  | finish result =>
      cases closure : s.closure <;>
        simp only [PoolCall.step, closure, Option.some.injEq, reduceCtorEq] at stepped
      subst stepped
      exact lent_closure lent (by simp [closure]) rfl rfl
  | discard =>
      cases closure : s.closure <;>
        simp only [PoolCall.step, closure, Option.some.injEq, reduceCtorEq] at stepped
      subst stepped
      exact lent_closure lent (by simp [closure]) rfl rfl
  | drop =>
      cases pc : s.pc <;> simp only [PoolCall.step, pc, Option.some.injEq, reduceCtorEq] at stepped <;>
        subst stepped <;> trivial

theorem PoolCall.lent_of_reachable {m : PoolMethod R} {s : PoolCall I R}
    (reachable : (poolMachine I m).Reachable s) : s.Lent m := by
  refine Machine.invariant (I := PoolCall.Lent m) ?_ ?_ reachable
  · rintro s ⟨inner, rfl⟩
    exact rfl
  · intro s label s' lent stepped
    exact PoolCall.lent_step m lent stepped

end Pool

/-! ## `ChildStdin` and `Command` -/

/-- `ChildIo`. -/
inductive ChildIo where
  | async
  | blocking
  deriving DecidableEq, Repr

def ChildIo.registered : ChildIo → Bool
  | .async => true
  | .blocking => false

/-- A write of `len` bytes. -/
def ChildStdin.write (io : ChildIo) (len : Nat) : PoolMethod Nat where
  atOnce := if len = 0 then some 0 else none
  handle := io.registered
  closed := stdioClosedError
  expects := false

def ChildStdin.flush (io : ChildIo) : PoolMethod Unit where
  atOnce := if io.registered then some () else none
  handle := false
  closed := stdioClosedError
  expects := false

/-- Exit statuses are integers. -/
def Command.status : PoolMethod Int where
  atOnce := none
  handle := false
  closed := commandConsumedError
  expects := true

/-- `spawn` up to the spawn itself. -/
def Command.spawn {I : Type} (inner : Option I) : Except IoError I :=
  match inner with
  | some inner => .ok inner
  | none => .error commandConsumedError

/-! ## `Child::wait` -/

inductive WaitPc where
  | start
  /-- In `current_zombie_reaper`. -/
  | lookup (child : Nat)
  /-- The reaper is being started; at its join handle. -/
  | joining (child : Nat)
  | suspendedJoining (child : Nat)
  | sending (child : Nat)
  /-- At the receiver of the answer. -/
  | receiving
  | suspendedReceiving
  /-- No runtime: `child.wait()` on this thread. -/
  | blocking (child : Nat)
  | returned (result : Except IoError Int)
  | dropped
  deriving DecidableEq, Repr

def WaitPc.suspended : WaitPc → Bool
  | .suspendedJoining _ | .suspendedReceiving => true
  | _ => false

/-- What `current_zombie_reaper` finds. -/
inductive Lookup where
  | outside
  | missing
  | running
  deriving DecidableEq, Repr

/-- A `Child` during a call of `wait`.  A process is known by its id, and `reaped` are those
sent to the reaper. -/
structure WaitCall where
  id : Nat
  inner : Option Nat
  stdin : Bool
  pc : WaitPc
  reaped : List Nat
  deriving DecidableEq, Repr

inductive WaitLabel where
  | poll
  | lookup (found : Lookup)
  /-- The join handle is polled. -/
  | joined (ready : Bool)
  /-- Whether the channel is open. -/
  | send (opened : Bool)
  /-- `none` is `Pending`, and without an answer the sender is gone. -/
  | receive (answer : Option (Option (Except IoError Int)))
  | waited (result : Except IoError Int)
  | drop
  deriving DecidableEq, Repr

namespace Child

def innerMut (inner : Option Nat) : Except IoError Nat :=
  match inner with
  | some child => .ok child
  | none => .error childConsumedError

/-- The process that is killed. -/
def kill (inner : Option Nat) : Except IoError Nat := innerMut inner

/-- The process that is looked at. -/
def tryWait (inner : Option Nat) : Except IoError Nat := innerMut inner

/-- The process that is waited for. -/
def takeInner (inner : Option Nat) : Except IoError Nat := innerMut inner

end Child

namespace WaitCall

def fresh (id : Nat) (inner : Option Nat) (stdin : Bool) : WaitCall := ⟨id, inner, stdin, .start, []⟩

def step (s : WaitCall) : WaitLabel → Option WaitCall
  | .poll =>
      match s.pc with
      | .start =>
          match Child.takeInner s.inner with
          | .ok child => some { s with stdin := false, inner := none, pc := .lookup child }
          | .error err => some { s with stdin := false, pc := .returned (.error err) }
      | .suspendedJoining child => some { s with pc := .joining child }
      | .suspendedReceiving => some { s with pc := .receiving }
      | _ => none
  | .lookup found =>
      match s.pc, found with
      | .lookup child, .outside => some { s with pc := .blocking child }
      | .lookup child, .missing => some { s with pc := .joining child }
      | .lookup child, .running => some { s with pc := .sending child }
      | _, _ => none
  | .joined ready =>
      match s.pc with
      | .joining child => some { s with pc := if ready then .sending child else .suspendedJoining child }
      | _ => none
  | .send opened =>
      match s.pc with
      | .sending child => some { s with pc := .receiving, reaped := if opened then child :: s.reaped else s.reaped }
      | _ => none
  | .receive answer =>
      match s.pc, answer with
      | .receiving, none => some { s with pc := .suspendedReceiving }
      | .receiving, some none => some { s with pc := .returned (.error (.custom .other "zombie reaper error")) }
      | .receiving, some (some result) => some { s with pc := .returned result }
      | _, _ => none
  | .waited result =>
      match s.pc with
      | .blocking _ => some { s with pc := .returned result }
      | _ => none
  | .drop =>
      match s.pc with
      | .start | .suspendedJoining _ | .suspendedReceiving => some { s with pc := .dropped }
      | _ => none

end WaitCall

def waitCallMachine : Machine WaitCall WaitLabel where
  start s := ∃ id inner stdin, s = .fresh id inner stdin ∧ (inner = none ∨ inner = some id)
  step := WaitCall.step

/-- From the first poll on the child is not in its field. -/
def WaitCall.Taken (s : WaitCall) : Prop := s.pc ≠ .start → s.pc ≠ .dropped → s.inner = none

/-- A step that leaves the field as it is. -/
theorem WaitCall.Taken.later {s t : WaitCall} {pc : WaitPc} (taken : s.Taken) (here : s.pc = pc)
    (begun : pc ≠ .start) (alive : pc ≠ .dropped) (same : t.inner = s.inner) : t.inner = none := by
  rw [same]
  exact taken (here ▸ begun) (here ▸ alive)

theorem WaitCall.taken_step {s s' : WaitCall} {label : WaitLabel} (taken : s.Taken)
    (stepped : s.step label = some s') : s'.Taken := by
  intro begun alive
  cases label with
  | poll =>
      cases pc : s.pc <;> simp only [WaitCall.step, pc, Option.some.injEq, reduceCtorEq] at stepped
      · cases inner : s.inner <;>
          simp only [inner, Child.takeInner, Child.innerMut, Option.some.injEq] at stepped <;>
          subst stepped <;> rfl
      · subst stepped
        exact taken.later pc WaitPc.noConfusion WaitPc.noConfusion rfl
      · subst stepped
        exact taken.later pc WaitPc.noConfusion WaitPc.noConfusion rfl
  | lookup found =>
      cases pc : s.pc <;> cases found <;>
        simp only [WaitCall.step, pc, reduceCtorEq] at stepped <;> cases stepped <;>
        exact taken.later pc WaitPc.noConfusion WaitPc.noConfusion rfl
  | joined ready =>
      cases pc : s.pc <;> simp only [WaitCall.step, pc, Option.some.injEq, reduceCtorEq] at stepped
      subst stepped
      exact taken.later pc WaitPc.noConfusion WaitPc.noConfusion rfl
  | send opened =>
      cases pc : s.pc <;> simp only [WaitCall.step, pc, Option.some.injEq, reduceCtorEq] at stepped
      subst stepped
      exact taken.later pc WaitPc.noConfusion WaitPc.noConfusion rfl
  | receive answer =>
      cases pc : s.pc <;> simp only [WaitCall.step, pc, reduceCtorEq] at stepped
      obtain _ | _ | result := answer <;> cases stepped <;>
        exact taken.later pc WaitPc.noConfusion WaitPc.noConfusion rfl
  | waited result =>
      cases pc : s.pc <;> simp only [WaitCall.step, pc, Option.some.injEq, reduceCtorEq] at stepped
      subst stepped
      exact taken.later pc WaitPc.noConfusion WaitPc.noConfusion rfl
  | drop =>
      cases pc : s.pc <;> simp only [WaitCall.step, pc, Option.some.injEq, reduceCtorEq] at stepped <;>
        subst stepped <;> exact absurd rfl alive

theorem WaitCall.taken_of_reachable {s : WaitCall} (reachable : waitCallMachine.Reachable s) : s.Taken := by
  refine Machine.invariant (I := WaitCall.Taken) ?_ ?_ reachable
  · rintro s ⟨id, inner, stdin, rfl, -⟩ begun
    exact absurd rfl begun
  · intro s label s' taken stepped
    exact WaitCall.taken_step taken stepped

/-! ## Dropping the future -/

/-- Nothing but the receiver has it: the closure has handed it back. -/
def PoolCall.OnlyFuture {I R : Type} (s : PoolCall I R) : Prop :=
  s.inner = none ∧ s.shared = none ∧ ∃ result inner, s.closure = .sent result inner

/-- The child is in a variable of the future. -/
def WaitCall.OnlyFuture (s : WaitCall) : Prop := ∃ child, s.pc = .suspendedJoining child

/-- A state of a call in which its future is suspended. -/
inductive SuspensionPoint (I C : Type) where
  | wait (s : WaitCall) (reachable : waitCallMachine.Reachable s) (suspended : s.pc.suspended = true)
  | write (io : ChildIo) (len : Nat) (s : PoolCall I Nat)
      (reachable : (poolMachine I (ChildStdin.write io len)).Reachable s) (suspended : s.pc.suspended = true)
  | status (s : PoolCall C Int) (reachable : (poolMachine C Command.status).Reachable s)
      (suspended : s.pc.suspended = true)

namespace SuspensionPoint

variable {I C : Type}

/-- What is asked: dropped here, the future leaves an owner that can go on, and it is not the
only one to have the inner value. -/
def LosesNothing : SuspensionPoint I C → Prop
  | .wait s _ _ =>
      (∀ t, s.step .drop = some t →
        Child.kill t.inner = .ok s.id ∧ Child.tryWait t.inner = .ok s.id ∧ Child.takeInner t.inner = .ok s.id) ∧
      ¬ s.OnlyFuture
  | .write io len s _ _ =>
      (∀ t, s.step (ChildStdin.write io len) .drop = some t →
        (∀ later, ¬ (ChildStdin.write io later).Refuses t.inner) ∧ ¬ (ChildStdin.flush io).Refuses t.inner) ∧
      ¬ s.OnlyFuture
  | .status s _ _ =>
      (∀ t, s.step Command.status .drop = some t →
        Command.spawn t.inner ≠ .error commandConsumedError ∧ ¬ Command.status.Refuses t.inner) ∧
      ¬ s.OnlyFuture

/-- A write that waits for its registered pipe. -/
def Registered : SuspensionPoint I C → Prop
  | .write io .. => io = .async
  | _ => False

end SuspensionPoint

section Drop

variable {I C R : Type}

theorem WaitCall.drop_suspended {s : WaitCall} (suspended : s.pc.suspended = true) :
    s.step .drop = some { s with pc := .dropped } := by
  cases pc : s.pc <;> simp only [pc, WaitPc.suspended, Bool.false_eq_true] at suspended <;>
    simp only [WaitCall.step, pc]

theorem WaitCall.inner_suspended {s : WaitCall} (reachable : waitCallMachine.Reachable s)
    (suspended : s.pc.suspended = true) : s.inner = none := by
  have taken := taken_of_reachable reachable
  cases pc : s.pc <;> simp only [pc, WaitPc.suspended, Bool.false_eq_true] at suspended <;>
    exact taken.later pc WaitPc.noConfusion WaitPc.noConfusion rfl

theorem PoolCall.drop_suspended (m : PoolMethod R) {s : PoolCall I R} (suspended : s.pc.suspended = true) :
    s.step m .drop = some { s with pc := .dropped } := by
  cases pc : s.pc <;> simp only [pc, PoolPc.suspended, Bool.false_eq_true] at suspended <;>
    simp only [PoolCall.step, pc]

/-- A suspended call is on its registered pipe, or the pool has its inner value. -/
theorem PoolCall.lent_suspended {m : PoolMethod R} {s : PoolCall I R} (reachable : (poolMachine I m).Reachable s)
    (suspended : s.pc.suspended = true) :
    m.handle = true ∧ s.closure = .none ∨ m.handle = false ∧ s.inner = none := by
  have lent := lent_of_reachable reachable
  unfold PoolCall.Lent at lent
  cases pc : s.pc <;> simp only [pc, PoolPc.suspended, Bool.false_eq_true] at suspended lent
  · exact .inl lent
  · exact .inr lent

/-- Without its inner value a call that has something to do on the pool fails. -/
theorem PoolMethod.refuses_none {m : PoolMethod R} (works : m.atOnce = none) (handle : m.handle = false) :
    m.Refuses (none : Option I) := by
  refine ⟨true, .inl ?_⟩
  simp [PoolCall.begin, PoolCall.fresh, works, handle]

/-- A registered pipe does not look for it. -/
theorem PoolMethod.not_refuses_handle {m : PoolMethod R} (handle : m.handle = true) (inner : Option I) :
    ¬ m.Refuses inner := by
  rintro ⟨driver, refused⟩
  cases works : m.atOnce <;> simp [PoolCall.begin, PoolCall.fresh, works, handle] at refused

theorem PoolMethod.not_refuses_atOnce {m : PoolMethod R} {result : R} (works : m.atOnce = some result)
    (inner : Option I) : ¬ m.Refuses inner := by
  rintro ⟨driver, refused⟩
  simp [PoolCall.begin, PoolCall.fresh, works] at refused

end Drop

/-- **A dropped future takes the inner value with it.**  Of all points at which a wait, a write
or a status can be suspended, those at which the future may be dropped without loss are those
of a write on a registered pipe: at none of `wait` and `status`, and at none of a write on the
thread pool. -/
theorem loses_nothing_iff {I C : Type} (point : SuspensionPoint I C) :
    point.LosesNothing ↔ point.Registered := by
  cases point with
  | wait s reachable suspended =>
      refine ⟨fun harmless => ?_, False.elim⟩
      obtain ⟨killed, -, -⟩ := harmless.1 _ (s.drop_suspended suspended)
      rw [s.inner_suspended reachable suspended] at killed
      cases killed
  | write io len s reachable suspended =>
      have lent := s.lent_suspended reachable suspended
      cases io with
      | async =>
          refine ⟨fun _ => rfl, fun _ => ⟨fun t _ => ⟨fun later => ?_, ?_⟩, ?_⟩⟩
          · exact PoolMethod.not_refuses_handle rfl t.inner
          · exact @PoolMethod.not_refuses_atOnce I Unit (ChildStdin.flush .async) () rfl t.inner
          · rintro ⟨-, -, result, inner, sent⟩
            obtain ⟨-, idle⟩ | ⟨unregistered, -⟩ := lent
            · cases idle.symm.trans sent
            · cases unregistered
      | blocking =>
          refine ⟨fun harmless => ?_, fun registered => by cases registered⟩
          obtain ⟨registered, -⟩ | ⟨-, gone⟩ := lent
          · cases registered
          · refine absurd ?_ ((harmless.1 _ (s.drop_suspended _ suspended)).1 1)
            rw [gone]
            exact PoolMethod.refuses_none rfl rfl
  | status s reachable suspended =>
      refine ⟨fun harmless => ?_, False.elim⟩
      obtain ⟨registered, -⟩ | ⟨-, gone⟩ := s.lent_suspended reachable suspended
      · cases registered
      · refine absurd ?_ (harmless.1 _ (s.drop_suspended _ suspended)).1
        rw [gone]
        rfl

/-- The first `wait` of a runtime, dropped while the reaper is being started: no later call
acts on the process, and nobody else has it.  A write that waits for the pool. -/
theorem wait_dropped :
    (∃ s reachable suspended,
      ¬ @SuspensionPoint.LosesNothing Unit Unit (.wait s reachable suspended) ∧
        s.OnlyFuture ∧ Child.kill s.inner = .error childConsumedError ∧ s.reaped = []) ∧
    ∃ s reachable suspended,
      ¬ @SuspensionPoint.LosesNothing Unit Unit (.write .blocking 5 s reachable suspended) := by
  constructor
  · let s : WaitCall := ⟨7, none, false, .suspendedJoining 7, []⟩
    have reachable : waitCallMachine.Reachable s :=
      ⟨.fresh 7 (some 7) true, [.poll, .lookup .missing, .joined false],
        ⟨7, some 7, true, rfl, .inr rfl⟩, rfl⟩
    refine ⟨s, reachable, rfl, fun harmless => ?_, ⟨7, rfl⟩, rfl, rfl⟩
    exact harmless.2 ⟨7, rfl⟩
  · let s : PoolCall Unit Nat := ⟨none, .suspendedReceiving, some (), .queued⟩
    have reachable : (poolMachine Unit (ChildStdin.write .blocking 5)).Reachable s :=
      ⟨.fresh (some ()), [.poll true, .receive], ⟨some (), rfl⟩, rfl⟩
    refine ⟨s, reachable, rfl, fun harmless => ?_⟩
    exact (harmless.1 _ rfl).2 ⟨true, .inl rfl⟩

end Vibeio.Process
