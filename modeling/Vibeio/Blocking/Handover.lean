/-
# Blocking.Handover -- a buffer lent to the blocking pool

The functions that take a buffer to the blocking pool share one protocol.  The buffer goes
into a cell behind a mutex, which the future and the closure share; the closure takes it out
with `try_lock`, makes the blocking call and sends what it got, with the buffer, through a
oneshot channel.  A pool that drops the closure closes the channel, and the future then takes
the buffer back out of the cell.  Either side panics if it finds the mutex locked or the cell
empty.

* `Offload`: what the functions differ in, the blocking call and the answer to a closure
  that never ran.  `Offload.atomic` is the function as its callers see it.
* The machine is the future and the pool's thread, one lock, take, send or poll at a time, in
  any order.  `spawn` may run the closure where it stands.
* `Held`: where the buffer is, by the position of the closure and that of the future.
* `handover_refines_atomic`: every run that returns is a run of the atomic function, and the
  other way round; nobody finds the mutex locked or the cell empty, unless the blocking call
  has panicked.
-/
import Vibeio.Fs.Write
import Vibeio.Process.Cancel

namespace Vibeio.Blocking

open Vibeio.Theory Vibeio.Driver Vibeio.Io

set_option autoImplicit false

/-- `answer : A` is what the system decides during the blocking call. -/
structure Offload (B A X : Type) where
  perform : B → A → X
  refuse : B → X

/-- The function without the pool. -/
def Offload.atomic {B A X : Type} (o : Offload B A X) (buf : B) : Option A → X
  | some answer => o.perform buf answer
  | none => o.refuse buf

/-! ## The protocol -/

inductive Side where
  | caller
  | job
  deriving DecidableEq, Repr

/-- Where the future is. -/
inductive CallerPc (B X : Type) where
  | start (buf : B)
  /-- In `spawn` of the pool. -/
  | spawning
  | awaiting
  /-- The channel is closed: `try_lock` is next. -/
  | failed
  | locked
  /-- The guard is gone; `expect` is next. -/
  | taken (found : Option B)
  | returned (result : X)
  | panicked
  | dropped
  deriving DecidableEq, Repr

def CallerPc.isDropped {B X : Type} : CallerPc B X → Bool
  | .dropped => true
  | _ => false

/-- Where the closure is. -/
inductive JobPc (B X : Type) where
  | absent
  /-- The pool has it. -/
  | held
  | locked
  | taken (found : Option B)
  | operating (buf : B)
  | sending (result : X)
  | done
  /-- The pool has dropped it. -/
  | discarded
  /-- The blocking call has panicked. -/
  | panicked
  /-- Its `expect` has panicked. -/
  | unexpected
  deriving DecidableEq, Repr

/-- How many steps the closure still has to take. -/
def JobPc.left {B X : Type} : JobPc B X → Nat
  | .held => 5
  | .locked => 4
  | .taken _ => 3
  | .operating _ => 2
  | .sending _ => 1
  | _ => 0

inductive Channel (X : Type) where
  | empty
  | sent (result : X)
  | closed
  deriving DecidableEq, Repr

structure Handover (B A X : Type) where
  caller : CallerPc B X
  cell : Option B
  mutex : Option Side
  job : JobPc B X
  channel : Channel X
  /-- The blocking calls that were made. -/
  performed : List (B × A)

inductive HandoverLabel (A : Type) where
  /-- Up to and into `spawn` of the pool. -/
  | submit
  | spawned
  /-- The receiver is polled. -/
  | receive
  | callerLock
  | callerTake
  | callerExpect
  /-- The future is dropped. -/
  | drop
  | discard
  | jobLock
  | jobTake
  | jobExpect
  | operate (answer : A)
  | jobPanic
  | send
  deriving DecidableEq, Repr

namespace Handover

variable {B A X : Type}

def step (o : Offload B A X) (s : Handover B A X) : HandoverLabel A → Option (Handover B A X)
  | .submit =>
      match s.caller with
      | .start buf => some { s with caller := .spawning, cell := some buf, job := .held }
      | _ => none
  | .spawned =>
      match s.caller with
      | .spawning => some { s with caller := .awaiting }
      | _ => none
  | .receive =>
      match s.caller, s.channel with
      | .awaiting, .empty => some s
      | .awaiting, .sent result => some { s with caller := .returned result, channel := .closed }
      | .awaiting, .closed => some { s with caller := .failed }
      | _, _ => none
  | .callerLock =>
      match s.caller, s.mutex with
      | .failed, none => some { s with caller := .locked, mutex := some .caller }
      | .failed, some _ => some { s with caller := .taken none }
      | _, _ => none
  | .callerTake =>
      match s.caller with
      | .locked => some { s with caller := .taken s.cell, cell := none, mutex := none }
      | _ => none
  | .callerExpect =>
      match s.caller with
      | .taken (some buf) => some { s with caller := .returned (o.refuse buf) }
      | .taken none => some { s with caller := .panicked }
      | _ => none
  | .drop =>
      match s.caller with
      -- what was sent goes with the receiver
      | .awaiting => some { s with caller := .dropped, channel := .closed }
      | .start _ => some { s with caller := .dropped }
      | _ => none
  | .discard =>
      match s.job with
      | .held => some { s with job := .discarded, channel := .closed }
      | _ => none
  | .jobLock =>
      match s.job, s.mutex with
      | .held, none => some { s with job := .locked, mutex := some .job }
      | .held, some _ => some { s with job := .taken none }
      | _, _ => none
  | .jobTake =>
      match s.job with
      | .locked => some { s with job := .taken s.cell, cell := none, mutex := none }
      | _ => none
  | .jobExpect =>
      match s.job with
      | .taken (some buf) => some { s with job := .operating buf }
      | .taken none => some { s with job := .unexpected, channel := .closed }
      | _ => none
  | .operate answer =>
      match s.job with
      | .operating buf =>
          some { s with job := .sending (o.perform buf answer), performed := (buf, answer) :: s.performed }
      | _ => none
  | .jobPanic =>
      match s.job with
      | .operating _ => some { s with job := .panicked, channel := .closed }
      | _ => none
  | .send =>
      match s.job with
      | .sending result =>
          some { s with job := .done, channel := if s.caller.isDropped then .closed else .sent result }
      | _ => none

/-- A call not polled yet. -/
def fresh (buf : B) : Handover B A X := ⟨.start buf, none, none, .absent, .empty, []⟩

end Handover

def handoverMachine {B A X : Type} (o : Offload B A X) : Machine (Handover B A X) (HandoverLabel A) where
  start s := ∃ buf, s = .fresh buf
  step := Handover.step o

namespace Handover

variable {B A X : Type}

/-! ## Where the buffer is -/

/-- Nothing has come of the call yet. -/
def Waits (s : Handover B A X) : Prop :=
  (s.caller = .spawning ∨ s.caller = .awaiting) ∧ s.channel = .empty ∨ s.caller = .dropped ∧ s.channel = .closed

/-- The closure has answered. -/
def Answered (s : Handover B A X) (result : X) : Prop :=
  (s.caller = .spawning ∨ s.caller = .awaiting) ∧ s.channel = .sent result ∨
    (s.caller = .returned result ∨ s.caller = .dropped) ∧ s.channel = .closed

/-- The closure is gone and has left this to the future. -/
def Closes (o : Offload B A X) (left : Option B) (s : Handover B A X) : Prop :=
  s.channel = .closed ∧
    match s.caller with
    | .start _ => False
    | .spawning | .awaiting | .failed => s.cell = left ∧ s.mutex = none
    | .locked | .dropped => s.cell = left
    | .taken found => found = left ∧ s.cell = none
    | .returned result => s.cell = none ∧ ∃ buf, left = some buf ∧ result = o.refuse buf
    | .panicked => s.cell = none ∧ left = none

/-- The buffer of the call, by the position of the closure. -/
def Held (o : Offload B A X) (buf : B) (s : Handover B A X) : Prop :=
  match s.job with
  | .absent => s.performed = [] ∧ s.cell = none ∧ s.mutex = none ∧ s.channel = .empty ∧
      (s.caller = .start buf ∨ s.caller = .dropped)
  | .held => s.performed = [] ∧ s.cell = some buf ∧ s.mutex = none ∧ s.Waits
  | .locked => s.performed = [] ∧ s.cell = some buf ∧ s.Waits
  | .taken found => found = some buf ∧ s.performed = [] ∧ s.cell = none ∧ s.mutex = none ∧ s.Waits
  | .operating lent => lent = buf ∧ s.performed = [] ∧ s.cell = none ∧ s.mutex = none ∧ s.Waits
  | .sending result =>
      ∃ answer, result = o.perform buf answer ∧ s.performed = [(buf, answer)] ∧ s.cell = none ∧ s.Waits
  | .done => ∃ answer, s.performed = [(buf, answer)] ∧ s.cell = none ∧ s.Answered (o.perform buf answer)
  | .discarded => s.performed = [] ∧ s.Closes o (some buf)
  | .panicked => s.performed = [] ∧ s.Closes o none
  | .unexpected => False

/-- The closure goes while the future waits. -/
theorem Waits.closes {o : Offload B A X} {left : Option B} {s : Handover B A X} {job : JobPc B X}
    (waits : s.Waits) (cell : s.cell = left) (mutex : s.mutex = none) :
    Closes o left { s with job := job, channel := .closed } := by
  rcases waits with ⟨waiting | waiting, -⟩ | ⟨gone, -⟩ <;> simp [Closes, *]

/-- The closure is gone without an answer, and the cell holds `left`. -/
def Lost (o : Offload B A X) (buf : B) (left : Option B) (s : Handover B A X) : Prop :=
  (s.job = .discarded ∧ left = some buf ∨ s.job = .panicked ∧ left = none) ∧ s.performed = [] ∧ s.Closes o left

theorem Lost.held {o : Offload B A X} {buf : B} {left : Option B} {s : Handover B A X}
    (lost : s.Lost o buf left) :
    s.Held o buf := by
  obtain ⟨⟨job, rfl⟩ | ⟨job, rfl⟩, performed, closes⟩ := lost
  · simp only [Held, job]
    exact ⟨performed, closes⟩
  · simp only [Held, job]
    exact ⟨performed, closes⟩

theorem Held.start {o : Offload B A X} {buf b : B} {s : Handover B A X} (held : s.Held o buf)
    (caller : s.caller = .start b) : s.job = .absent ∧ b = buf ∧ s.performed = [] ∧ s.cell = none ∧
    s.mutex = none ∧
      s.channel = .empty := by
  cases job : s.job <;> simp [Held, Waits, Answered, Closes, job, caller] at held
  obtain ⟨performed, cell, mutex, channel, same⟩ := held
  exact ⟨rfl, same, performed, cell, mutex, channel⟩

/-- Past the channel, the future knows that the closure is gone. -/
theorem Held.lost {o : Offload B A X} {buf : B} {s : Handover B A X} (held : s.Held o buf)
    (caller : s.caller = .failed ∨ s.caller = .locked ∨ ∃ found, s.caller = .taken found) :
    ∃ left, s.Lost o buf left := by
  cases job : s.job with
  | discarded =>
      simp only [Held, job] at held
      exact ⟨some buf, .inl ⟨job, rfl⟩, held⟩
  | panicked =>
      simp only [Held, job] at held
      exact ⟨none, .inr ⟨job, rfl⟩, held⟩
  | _ =>
      rcases caller with caller | caller | ⟨found, caller⟩ <;>
        simp [Held, Waits, Answered, job, caller] at held

theorem Held.step {o : Offload B A X} {buf : B} {s s' : Handover B A X} {label : HandoverLabel A}
    (held : s.Held o buf) (stepped : s.step o label = some s') : s'.Held o buf := by
  cases label with
  | discard =>
      cases job : s.job <;> simp only [Handover.step, job, reduceCtorEq, Option.some.injEq] at stepped
      subst stepped
      simp only [Held, job] at held
      obtain ⟨performed, cell, mutex, waits⟩ := held
      exact ⟨performed, waits.closes cell mutex⟩
  | jobLock =>
      cases job : s.job <;> simp only [Handover.step, job, reduceCtorEq] at stepped
      simp only [Held, job] at held
      obtain ⟨performed, cell, mutex, waits⟩ := held
      simp only [mutex, Option.some.injEq] at stepped
      subst stepped
      exact ⟨performed, cell, waits⟩
  | jobTake =>
      cases job : s.job <;> simp only [Handover.step, job, reduceCtorEq, Option.some.injEq] at stepped
      subst stepped
      simp only [Held, job] at held
      obtain ⟨performed, cell, waits⟩ := held
      exact ⟨cell, performed, rfl, rfl, waits⟩
  | jobExpect =>
      cases job : s.job <;> simp only [Handover.step, job, reduceCtorEq] at stepped
      simp only [Held, job] at held
      obtain ⟨rfl, performed, cell, mutex, waits⟩ := held
      simp only [Option.some.injEq] at stepped
      subst stepped
      exact ⟨rfl, performed, cell, mutex, waits⟩
  | operate answer =>
      cases job : s.job <;> simp only [Handover.step, job, reduceCtorEq, Option.some.injEq] at stepped
      subst stepped
      simp only [Held, job] at held
      obtain ⟨rfl, performed, cell, mutex, waits⟩ := held
      exact ⟨answer, rfl, by rw [performed], cell, waits⟩
  | jobPanic =>
      cases job : s.job <;> simp only [Handover.step, job, reduceCtorEq, Option.some.injEq] at stepped
      subst stepped
      simp only [Held, job] at held
      obtain ⟨-, performed, cell, mutex, waits⟩ := held
      exact ⟨performed, waits.closes cell mutex⟩
  | send =>
      cases job : s.job <;> simp only [Handover.step, job, reduceCtorEq, Option.some.injEq] at stepped
      subst stepped
      simp only [Held, job] at held
      obtain ⟨answer, rfl, performed, cell, waits⟩ := held
      refine ⟨answer, performed, cell, ?_⟩
      rcases waits with ⟨waiting | waiting, -⟩ | ⟨gone, -⟩ <;> simp [Answered, CallerPc.isDropped, *]
  | submit =>
      cases caller : s.caller <;> simp only [Handover.step, caller, reduceCtorEq, Option.some.injEq] at stepped
      subst stepped
      obtain ⟨-, rfl, performed, cell, mutex, channel⟩ := held.start caller
      exact ⟨performed, rfl, mutex, .inl ⟨.inl rfl, channel⟩⟩
  | spawned =>
      cases caller : s.caller <;> simp only [Handover.step, caller, reduceCtorEq, Option.some.injEq] at stepped
      subst stepped
      cases job : s.job <;> simp_all [Held, Waits, Answered, Closes]
  | receive =>
      cases caller : s.caller <;> simp only [Handover.step, caller, reduceCtorEq] at stepped
      cases channel : s.channel <;> simp only [channel, Option.some.injEq] at stepped <;> subst stepped
      · exact held
      · -- only a closure that is done has sent
        cases job : s.job <;> simp [Held, Waits, Answered, Closes, job, caller, channel] at held ⊢
        exact held
      · cases job : s.job <;> simp [Held, Waits, Answered, Closes, job, caller, channel] at held ⊢
        · exact held
        · exact held
  | callerLock =>
      cases caller : s.caller <;> simp only [Handover.step, caller, reduceCtorEq] at stepped
      obtain ⟨left, job, performed, channel, closes⟩ := held.lost (.inl caller)
      simp only [caller] at closes
      simp only [closes.2, Option.some.injEq] at stepped
      subst stepped
      exact Lost.held ⟨job, performed, channel, closes.1⟩
  | callerTake =>
      cases caller : s.caller <;> simp only [Handover.step, caller, reduceCtorEq, Option.some.injEq] at stepped
      subst stepped
      obtain ⟨left, job, performed, channel, closes⟩ := held.lost (.inr (.inl caller))
      simp only [caller] at closes
      exact Lost.held ⟨job, performed, channel, closes, rfl⟩
  | callerExpect =>
      cases caller : s.caller <;> simp only [Handover.step, caller, reduceCtorEq] at stepped
      rename_i found
      obtain ⟨left, job, performed, channel, closes⟩ := held.lost (.inr (.inr ⟨found, caller⟩))
      simp only [caller] at closes
      cases found <;> cases stepped
      · exact Lost.held ⟨job, performed, channel, closes.2, closes.1.symm⟩
      · exact Lost.held ⟨job, performed, channel, closes.2, _, closes.1.symm, rfl⟩
  | drop =>
      cases caller : s.caller <;>
        simp only [Handover.step, caller, reduceCtorEq, Option.some.injEq] at stepped <;>
        subst stepped
      · obtain ⟨job, -, performed, cell, mutex, channel⟩ := held.start caller
        simp only [Held, job]
        exact ⟨performed, cell, mutex, channel, .inr trivial⟩
      · cases job : s.job with
        | sending result =>
            simp only [Held, job] at held ⊢
            obtain ⟨answer, rfl, performed, cell, -⟩ := held
            exact ⟨answer, rfl, performed, cell, .inr ⟨rfl, rfl⟩⟩
        | done =>
            simp only [Held, job] at held ⊢
            obtain ⟨answer, performed, cell, -⟩ := held
            exact ⟨answer, performed, cell, .inr ⟨.inr rfl, rfl⟩⟩
        | _ => simp_all [Held, Waits, Closes]

theorem held_fresh (o : Offload B A X) (buf : B) : Held o buf (.fresh buf) := ⟨rfl, rfl, rfl, rfl, .inl rfl⟩

theorem held_of_exec {o : Offload B A X} {buf : B} {s : Handover B A X} {labels : List (HandoverLabel A)}
    (ran : (handoverMachine o).exec (.fresh buf) labels = some s) : s.Held o buf :=
  Machine.exec_invariant (M := handoverMachine o) (I := Held o buf)
    (fun _ _ _ held stepped => held.step stepped)
    (held_fresh o buf) ran

/-! ## What becomes of a call -/

/-- Who has the buffer, or what is made of it. -/
def places (s : Handover B A X) : Nat :=
  (match s.caller with
    | .start _ | .taken (some _) | .returned _ => 1
    | _ => 0) +
  s.cell.toList.length +
  (match s.job with
    | .taken (some _) | .operating _ | .sending _ => 1
    | _ => 0) +
  (match s.channel with
    | .sent _ => 1
    | _ => 0)

theorem Held.returned {o : Offload B A X} {buf : B} {s : Handover B A X} {result : X} (held : s.Held o buf)
    (caller : s.caller = .returned result) :
    ∃ decided : Option A, result = o.atomic buf decided ∧
      s.performed = decided.toList.map fun answer => (buf, answer) := by
  cases job : s.job with
  | done =>
      simp [Held, Answered, job, caller] at held
      obtain ⟨answer, performed, -, rfl, -⟩ := held
      exact ⟨some answer, rfl, performed⟩
  | discarded =>
      simp [Held, Closes, job, caller] at held
      obtain ⟨performed, -, -, rfl⟩ := held
      exact ⟨none, rfl, performed⟩
  | _ => simp [Held, Waits, Closes, job, caller] at held

/-- Nobody is surprised, unless the blocking call has panicked. -/
structure Orderly (s : Handover B A X) : Prop where
  job_lock : s.job = .held → s.mutex = none
  caller_lock : s.caller = .failed → s.mutex = none
  expected : s.job ≠ .unexpected
  panicked : s.caller = .panicked → s.job = .panicked
  once : s.performed.length ≤ 1
  /-- The buffer is in one place, unless it went down with the blocking call or the future. -/
  one : s.places ≤ 1
  kept : s.job ≠ .panicked → s.caller ≠ .dropped → s.places = 1

theorem places_of_waits {s : Handover B A X} (waits : s.Waits) : s.places = s.cell.toList.length +
    (match s.job with
      | .taken (some _) | .operating _ | .sending _ => 1
      | _ => 0) := by
  rcases waits with ⟨waiting | waiting, channel⟩ | ⟨gone, channel⟩ <;> simp [places, *]

theorem Waits.not_late {s : Handover B A X} (waits : s.Waits) : s.caller ≠ .failed ∧ s.caller ≠ .panicked := by
  rcases waits with ⟨waiting | waiting, -⟩ | ⟨gone, -⟩ <;> simp [*]

theorem places_of_closes {o : Offload B A X} {left : Option B} {s : Handover B A X} (closes : s.Closes o left)
    (gone : s.job = .discarded ∨ s.job = .panicked) : s.places = left.toList.length := by
  obtain ⟨channel, closes⟩ := closes
  have closed : s.places = s.cell.toList.length +
      (match s.caller with
        | .start _ | .taken (some _) | .returned _ => 1
        | _ => 0) := by
    rcases gone with job | job <;> simp [places, channel, job, Nat.add_comm]
  rw [closed]
  cases caller : s.caller <;> simp only [caller] at closes ⊢
  case taken found =>
      obtain ⟨rfl, cell⟩ := closes
      cases found <;> simp [cell]
  case returned result =>
      obtain ⟨cell, buf, rfl, -⟩ := closes
      simp [cell]
  all_goals simp [closes]

theorem Held.orderly {o : Offload B A X} {buf : B} {s : Handover B A X} (held : s.Held o buf) : s.Orderly := by
  cases job : s.job <;> simp only [Held, job] at held
  case absent =>
      obtain ⟨performed, cell, mutex, channel, caller | caller⟩ := held <;>
        constructor <;> simp [places, *]
  case held =>
      obtain ⟨performed, cell, mutex, waits⟩ := held
      constructor <;> simp [places_of_waits waits, waits.not_late, *]
  case locked =>
      obtain ⟨performed, cell, waits⟩ := held
      constructor <;> simp [places_of_waits waits, waits.not_late, *]
  case taken found =>
      obtain ⟨rfl, performed, cell, mutex, waits⟩ := held
      constructor <;> simp [places_of_waits waits, waits.not_late, *]
  case operating lent =>
      obtain ⟨-, performed, cell, mutex, waits⟩ := held
      constructor <;> simp [places_of_waits waits, waits.not_late, *]
  case sending result =>
      obtain ⟨answer, -, performed, cell, waits⟩ := held
      constructor <;> simp [places_of_waits waits, waits.not_late, *]
  case done =>
      obtain ⟨answer, performed, cell, ⟨caller | caller, channel⟩ | ⟨caller | caller, channel⟩⟩ := held <;>
        constructor <;> simp [places, *]
  case discarded =>
      obtain ⟨performed, closes⟩ := held
      have places := places_of_closes closes (.inl job)
      have late : s.caller = .failed → s.mutex = none := by
        intro caller
        simp only [Closes, caller] at closes
        exact closes.2.2
      have calm : s.caller ≠ .panicked := by
        intro caller
        simp [Closes, caller] at closes
      exact ⟨by simp [job], late, by simp [job], fun caller => absurd caller calm, by simp [performed],
        by simp [places], fun _ _ => places⟩
  case panicked =>
      obtain ⟨performed, closes⟩ := held
      have places := places_of_closes closes (.inr job)
      have late : s.caller = .failed → s.mutex = none := by
        intro caller
        simp only [Closes, caller] at closes
        exact closes.2.2
      exact ⟨by simp [job], late, by simp [job], fun _ => job, by simp [performed], by simp [places],
        fun alive => absurd job alive⟩

/-- While the future waits on an open channel, the closure has a step to take, which brings
it nearer to its end. -/
theorem Held.goesOn {o : Offload B A X} {buf : B} {s : Handover B A X} (held : s.Held o buf) (answer : A)
    (caller : s.caller = .awaiting) (channel : s.channel = .empty) :
    ∃ label ∈ [HandoverLabel.jobLock, .jobTake, .jobExpect, .operate answer, .send], ∃ s',
      s.step o label = some s' ∧ s'.job.left < s.job.left := by
  cases job : s.job <;> simp only [Held, job] at held
  case absent => simp [caller] at held
  case held => exact ⟨.jobLock, by simp, _, by simp [Handover.step, job, held.2.2.1]; rfl, by simp [JobPc.left]⟩
  case locked => exact ⟨.jobTake, by simp, _, by simp [Handover.step, job]; rfl, by simp [JobPc.left]⟩
  case taken found =>
      obtain ⟨rfl, -⟩ := held
      exact ⟨.jobExpect, by simp, _, by simp [Handover.step, job]; rfl, by simp [JobPc.left]⟩
  case operating lent =>
      exact ⟨.operate answer, by simp, _, by simp [Handover.step, job]; rfl, by simp [JobPc.left]⟩
  case sending result => exact ⟨.send, by simp, _, by simp [Handover.step, job]; rfl, by simp [JobPc.left]⟩
  case done =>
      obtain ⟨_, -, -, answered⟩ := held
      simp [Answered, caller, channel] at answered
  case discarded | panicked =>
      obtain ⟨-, closed, -⟩ := held
      cases channel.symm.trans closed

end Handover

section Protocol

variable {B A X : Type}

/-- The atomic function can be had from the pool. -/
theorem returns_atomic (o : Offload B A X) (buf : B) (decided : Option A) :
    ∃ labels s, (handoverMachine o).exec (.fresh buf) labels = some s ∧
      s.caller = .returned (o.atomic buf decided) := by
  cases decided with
  | some answer =>
      exact ⟨[.submit, .spawned, .jobLock, .jobTake, .jobExpect, .operate answer, .send, .receive], _, rfl, rfl⟩
  | none =>
      exact ⟨[.submit, .spawned, .discard, .receive, .callerLock, .callerTake, .callerExpect], _, rfl, rfl⟩

theorem returns_iff (o : Offload B A X) (buf : B) (result : X) :
    (∃ labels s, (handoverMachine o).exec (.fresh buf) labels = some s ∧ s.caller = .returned result) ↔
      ∃ decided, result = o.atomic buf decided := by
  constructor
  · rintro ⟨labels, s, ran, returned⟩
    obtain ⟨decided, atomic, -⟩ := (Handover.held_of_exec ran).returned returned
    exact ⟨decided, atomic⟩
  · rintro ⟨decided, rfl⟩
    exact returns_atomic o buf decided

/-- **A buffer lent to the pool.**  In every interleaving of the future and the pool's thread,
with the closure run, dropped or overtaken by the end of the future: nobody finds the mutex
locked or the cell empty, unless the blocking call itself has panicked; there is at most one
blocking call, and the buffer is in one place throughout.  While the future waits on an open
channel, the closure has a step to take that brings it nearer to its end.  A call that returns
has the result of the one blocking call made with its buffer, or is refused without any; and
the future can return every one of these results. -/
theorem handover_refines_atomic (o : Offload B A X) (buf : B) :
    (∀ labels s, (handoverMachine o).exec (.fresh buf) labels = some s →
      s.Orderly ∧
      (∀ result, s.caller = .returned result → ∃ decided, result = o.atomic buf decided ∧
        s.performed = decided.toList.map fun answer => (buf, answer)) ∧
      ∀ answer, s.caller = .awaiting → s.channel = .empty →
        ∃ label ∈ [HandoverLabel.jobLock, .jobTake, .jobExpect, .operate answer, .send], ∃ s',
          s.step o label = some s' ∧ s'.job.left < s.job.left) ∧
      ∀ decided, ∃ labels s, (handoverMachine o).exec (.fresh buf) labels = some s ∧
        s.caller = .returned (o.atomic buf decided) := by
  constructor
  · intro labels s ran
    have held := Handover.held_of_exec ran
    exact ⟨held.orderly, fun result caller => held.returned caller, fun answer caller channel =>
      held.goesOn answer caller channel⟩
  · exact returns_atomic o buf

/-- The pool drops the closure of a call that has been waiting for it. -/
theorem handover_refines_atomic_refused : ∃ s,
    (handoverMachine
        ⟨fun (buf : Nat) (answer : Nat) => (some answer, buf), fun buf => (none, buf)⟩).exec (.fresh 7)
      [.submit, .spawned, .receive, .discard, .receive, .callerLock, .callerTake, .callerExpect] = some s ∧
    s.caller = .returned (none, 7) ∧ s.Orderly := by
  refine ⟨_, rfl, rfl, ?_⟩
  exact ((handover_refines_atomic ⟨fun (buf : Nat) (answer : Nat) => (some answer, buf),
    fun buf => (none, buf)⟩ 7).1
    [.submit, .spawned, .receive, .discard, .receive, .callerLock, .callerTake, .callerExpect] _ rfl).1

end Protocol

/-! ## The functions -/

section Functions

open IoBuf IoBufMut

variable {B : Type}

def Stdio.blockingPoolIoError : IoError := .custom .other "can't spawn blocking task for stdio I/O"

/-- `answer` is an error code or the bytes there are to read. -/
def Stdio.readInBlockingPool [IoBufMut B] : Offload B (Except Nat (List UInt8)) (Except IoError Nat × B) where
  perform buf answer :=
    match answer with
    | .error code => (.error (.os code), buf)
    | .ok data => (.ok (data.take (bufLen buf)).length, store buf (data.take (bufLen buf)))
  refuse buf := (.error blockingPoolIoError, buf)

/-- A `write(2)` that takes at most `limit` bytes. -/
def writeBlocking [IoBuf B] (buf : B) : Except Nat Nat → Except IoError Nat
  | .error code => .error (.os code)
  | .ok limit => .ok (min limit (content buf).length)

def Stdio.writeStdoutInBlockingPool [IoBuf B] : Offload B (Except Nat Nat) (Except IoError Nat × B) where
  perform buf answer := (writeBlocking buf answer, buf)
  refuse buf := (.error blockingPoolIoError, buf)

def Stdio.writeStderrInBlockingPool [IoBuf B] : Offload B (Except Nat Nat) (Except IoError Nat × B) where
  perform buf answer := (writeBlocking buf answer, buf)
  refuse buf := (.error blockingPoolIoError, buf)

/-- The pipe of the child goes with the buffer. -/
def Process.readInBlockingPool {I : Type} [IoBufMut B] :
    Offload (I × B) (Except Nat (List UInt8)) (Except IoError Nat × I × B) where
  perform lent answer :=
    match answer with
    | .error code => (.error (.os code), lent)
    | .ok data => (.ok (data.take (bufLen lent.2)).length, lent.1, store lent.2 (data.take (bufLen lent.2)))
  refuse lent := (.error Vibeio.Process.blockingPoolIoError, lent)

def Process.writeInBlockingPool {I : Type} [IoBuf B] : Offload (I × B) (Except Nat Nat)
    (Except IoError Nat × I × B) where
  perform lent answer := (writeBlocking lent.2 answer, lent)
  refuse lent := (.error Vibeio.Process.blockingPoolIoError, lent)

/-- The file has been cloned for the closure. -/
def File.readAtInBlockingPool [IoBufMut B] (bytes : List UInt8) (offset : Nat) :
    Offload B (Except Nat Nat) (Except IoError Nat × B) where
  perform buf answer := Fs.readAtBlocking bytes buf offset answer
  refuse buf := (.error Fs.blockingPoolIoError, buf)

def File.writeAtInBlockingPool [IoBuf B] (offset : Nat) : Offload B (Except Nat Nat) (Fs.WriteOutcome B) where
  perform buf answer := Fs.writeAtBlocking buf offset answer
  refuse buf := ⟨.error Fs.blockingPoolIoError, buf, []⟩

/-- The reads of a file over the pool are those of the model of files. -/
theorem readAt_over_pool [IoBufMut B] (bytes : List UInt8) (buf : B) (offset : Nat)
    (result : Except IoError Nat × B) :
    (∃ labels s, (handoverMachine (File.readAtInBlockingPool bytes offset)).exec (.fresh buf) labels = some s ∧
        s.caller = .returned result) ↔
      ∃ env, env.cloned = .ok () ∧ result = Fs.readAtInBlockingPool bytes buf offset env := by
  rw [returns_iff]
  constructor
  · rintro ⟨decided, rfl⟩
    cases decided with
    | some answer => exact ⟨⟨answer, .ok (), true⟩, rfl, rfl⟩
    | none => exact ⟨⟨.ok 0, .ok (), false⟩, rfl, rfl⟩
  · rintro ⟨⟨answer, cloned, spawned⟩, rfl, rfl⟩
    cases spawned with
    | true => exact ⟨some answer, rfl⟩
    | false => exact ⟨none, rfl⟩

theorem writeAt_over_pool [IoBuf B] (buf : B) (offset : Nat) (outcome : Fs.WriteOutcome B) :
    (∃ labels s, (handoverMachine (File.writeAtInBlockingPool offset)).exec (.fresh buf) labels = some s ∧
        s.caller = .returned outcome) ↔
      ∃ env, env.cloned = .ok () ∧ outcome = Fs.writeAtInBlockingPool buf offset env := by
  rw [returns_iff]
  constructor
  · rintro ⟨decided, rfl⟩
    cases decided with
    | some answer => exact ⟨⟨answer, .ok (), true⟩, rfl, rfl⟩
    | none => exact ⟨⟨.ok 0, .ok (), false⟩, rfl, rfl⟩
  · rintro ⟨⟨answer, cloned, spawned⟩, rfl, rfl⟩
    cases spawned with
    | true => exact ⟨some answer, rfl⟩
    | false => exact ⟨none, rfl⟩

/-- What a write is given comes back as it was, in any run. -/
theorem writes_return_buffer [IoBuf B] {I : Type} (buf : B) (inner : I) :
    (∀ labels s result back,
      (handoverMachine Stdio.writeStdoutInBlockingPool).exec (.fresh buf) labels = some s →
      s.caller = .returned (result, back) → back = buf) ∧
    (∀ labels s result back,
      (handoverMachine Stdio.writeStderrInBlockingPool).exec (.fresh buf) labels = some s →
      s.caller = .returned (result, back) → back = buf) ∧
    ∀ labels s result back,
      (handoverMachine Process.writeInBlockingPool).exec (.fresh (inner, buf)) labels = some s →
      s.caller = .returned (result, back) → back = (inner, buf) := by
  refine ⟨?_, ?_, ?_⟩ <;> intro labels s result back ran returned
  all_goals
    obtain ⟨decided, atomic⟩ := (returns_iff _ _ _).mp ⟨labels, s, ran, returned⟩
    cases decided <;> cases atomic <;> rfl

/-- What a read is given comes back with its length and its capacity, and as it was if the
read has failed. -/
theorem reads_return_buffer {I : Type} (buf : Buffer) (inner : I) :
    (∀ labels s result back, (handoverMachine Stdio.readInBlockingPool).exec (.fresh buf) labels = some s →
      s.caller = .returned (result, back) →
      bufLen back = bufLen buf ∧ bufCapacity back = bufCapacity buf ∧
        (∀ err, result = .error err → back = buf)) ∧
    ∀ labels s result pipe back,
      (handoverMachine Process.readInBlockingPool).exec (.fresh (inner, buf)) labels = some s →
      s.caller = .returned (result, pipe, back) →
      pipe = inner ∧ bufLen back = bufLen buf ∧ bufCapacity back = bufCapacity buf ∧
        ∀ err, result = .error err → back = buf := by
  constructor
  · intro labels s result back ran returned
    obtain ⟨decided, atomic⟩ := (returns_iff _ _ _).mp ⟨labels, s, ran, returned⟩
    rcases decided with - | code | data <;> cases atomic
    · exact ⟨rfl, rfl, fun _ _ => rfl⟩
    · exact ⟨rfl, rfl, fun _ _ => rfl⟩
    · exact ⟨Buffer.bufLen_store _ _, Buffer.bufCapacity_store _ _, nofun⟩
  · intro labels s result pipe back ran returned
    obtain ⟨decided, atomic⟩ := (returns_iff _ _ _).mp ⟨labels, s, ran, returned⟩
    rcases decided with - | code | data <;> cases atomic
    · exact ⟨rfl, rfl, rfl, fun _ _ => rfl⟩
    · exact ⟨rfl, rfl, rfl, fun _ _ => rfl⟩
    · exact ⟨rfl, Buffer.bufLen_store _ _, Buffer.bufCapacity_store _ _, nofun⟩

end Functions

end Vibeio.Blocking
