/-
# Executor.Driven -- a runtime and what its driver wakes

A flush or a wait collects wakers while it handles what has happened, and wakes them before
it returns.  The machine of this module is the runtime over any driver that says what it has
collected: the loop goes on from a call of the driver only when everything is woken, and in
between anything else may happen.  (io_uring wakes when it has handled everything, the others
as they go; a wake touches nothing that the handling reads.)

* `Coupled`: the driver's own invariant, and that the loop has wakers in its hands only where
  it has called the driver.
* `Request`: what a driver promises about a waker that was left with it: it is kept until the
  call that collects it.
* `Request.throughout`: the rule.  From such a promise about single calls, the waker is with
  the driver, in the hands of the loop, or has had its effect, in every state of a run.
-/
import Vibeio.Executor.Wakes

namespace Vibeio.Executor

open Vibeio.Theory

set_option autoImplicit false

variable {D : DriverApi}

/-! ## The machine -/

structure DrivenRuntime (D : DriverApi) where
  runtime : State D
  /-- What a flush or a wait has collected and not woken yet. -/
  toWake : List Waker

inductive DrivenLabel (D : DriverApi) where
  | runtime (l : Label D)
  /-- The driver wakes the next of the wakers. -/
  | wake

def Label.callsDriver : Label D → Bool
  | .flush .. | .wait .. => true
  | _ => false

/-- The loop goes on. -/
def Label.advances : Label D → Bool
  | .advance => true
  | _ => false

namespace DrivenRuntime

variable (collected : D.State → List Waker) (target : Waker → Target)

/-- A call of the driver returns when it has woken everything. -/
def Allows (s : DrivenRuntime D) (l : Label D) : Prop :=
  l.advances = true → s.runtime.pc = .flushed ∨ s.runtime.pc = .waited → s.toWake = []

instance (s : DrivenRuntime D) (l : Label D) : Decidable (s.Allows l) :=
  inferInstanceAs (Decidable (_ → _ → _))

/-- The runtime has moved to `next`.  A panic in a waker leaves the rest of them unwoken. -/
def follow (s : DrivenRuntime D) (l : Label D) (next : State D) : DrivenRuntime D where
  runtime := next
  toWake :=
    match l with
    | .flush .. | .wait .. => collected next.driver
    | .unwind => []
    | _ => s.toWake

def wakeNext (s : DrivenRuntime D) : Option (DrivenRuntime D) :=
  match s.toWake with
  | [] => none
  | waker :: rest => (s.runtime.wakeOne target waker).map fun next => ⟨next, rest⟩

def step (s : DrivenRuntime D) : DrivenLabel D → Option (DrivenRuntime D)
  | .runtime l => if s.Allows l then (s.runtime.step l).map (s.follow collected l) else none
  | .wake => s.wakeNext target

end DrivenRuntime

/-- A runtime over a driver in a state it may begin with. -/
def drivenMachine (collected : D.State → List Waker) (begins : D.State → Prop) (target : Waker → Target) :
    Machine (DrivenRuntime D) (DrivenLabel D) where
  start s := ∃ driver batchSize, begins driver ∧ s = ⟨.withOptions driver batchSize, []⟩
  step := DrivenRuntime.step collected target

/-! ## What every step keeps -/

/-- A property of the driver that nothing breaks. -/
structure DriverInvariant (D : DriverApi) (begins holds : D.State → Prop) : Prop where
  start : ∀ d, begins d → holds d
  call : ∀ d c d', holds d → D.call d c = some d' → holds d'
  kernel : ∀ d k d', holds d → D.kernel d k = some d' → holds d'
  flush : ∀ d env d', holds d → D.flush d env = some d' → holds d'
  wait : ∀ d timeout env d', holds d → D.wait d timeout env = some d' → holds d'

/-- What a step of the runtime can do to the driver. -/
inductive DriverMoves (s s' : State D) (l : Label D) : Prop where
  | same (driver : s'.driver = s.driver) (away : l.callsDriver = false)
  | call (c : D.Call) (label : l = .call c) (called : D.call s.driver c = some s'.driver)
  | kernel (k : D.Kernel) (label : l = .kernel k) (moved : D.kernel s.driver k = some s'.driver)
  | flush (env : D.Env) (consumed : Bool) (label : l = .flush env consumed)
      (flushed : D.flush s.driver env = some s'.driver) (here : s.pc = .checkFlush) (there : s'.pc = .flushed)
  | wait (timeout : Option Nat) (env : D.Env) (consumed : Bool) (label : l = .wait timeout env consumed)
      (waited : D.wait s.driver timeout env = some s'.driver) (here : s.pc = .wait) (there : s'.pc = .waited)

theorem driverMoves {s s' : State D} {l : Label D} (stepped : s.step l = some s') : DriverMoves s s' l := by
  cases State.step_cases stepped with
  | call c driver foreign called => exact .call c rfl called
  | kernel k driver moved => exact .kernel k rfl moved
  | flush env consumed driver here flushed => exact .flush env consumed rfl flushed here rfl
  | wait timeout env consumed driver here waited => exact .wait timeout env consumed rfl waited here rfl
  | waker pc =>
      refine .same ?_ rfl
      cases pc <;> rfl
  | localPush task =>
      refine .same ?_ rfl
      unfold State.pushLocal
      split <;> rfl
  | advance s' advances => exact .same (advance_frame advances).1 rfl
  | wakeTask | wakeRoot | localWake | localWakeRoot | spawn | enter | rootPending | rootDone | taskPolled
  | timersFired | blocks | unwind => exact .same rfl rfl

/-- Where the driver was called, only the return of the call leaves. -/
theorem stays_called {s s' : State D} {l : Label D} (stepped : s.step l = some s')
    (here : s.pc = .flushed ∨ s.pc = .waited) (inside : l ≠ .advance) (calm : l ≠ .unwind) : s'.pc = s.pc := by
  have elsewhere : ∀ {pc : Pc}, s.pc = pc → pc ≠ .flushed → pc ≠ .waited → False := by
    rintro pc rfl flushed waited
    exact here.elim flushed waited
  cases State.step_cases stepped with
  | waker pc => exact (wakerStep_frame s pc).1
  | localPush task => exact (keeps_pushLocal s task).2.2.1
  | wakeTask | wakeRoot | kernel | localWake | localWakeRoot | spawn | call => rfl
  | enter there | rootPending there | rootDone there | taskPolled _ _ there | timersFired there | blocks there
  | wait _ _ _ _ there | flush _ _ _ there => exact (elsewhere there Pc.noConfusion Pc.noConfusion).elim
  | advance => exact absurd rfl inside
  | unwind => exact absurd rfl calm

structure Coupled (holds : D.State → Prop) (s : DrivenRuntime D) : Prop where
  runtime : (machine D).Reachable s.runtime
  driver : holds s.runtime.driver
  calling : s.toWake ≠ [] → s.runtime.pc = .flushed ∨ s.runtime.pc = .waited

variable {collected : D.State → List Waker} {begins holds : D.State → Prop} {target : Waker → Target}

theorem DriverInvariant.moves (invariant : DriverInvariant D begins holds) {s s' : State D} {l : Label D}
    (before : holds s.driver) (moves : DriverMoves s s' l) : holds s'.driver := by
  cases moves with
  | same driver => exact driver ▸ before
  | call c label called => exact invariant.call _ _ _ before called
  | kernel k label moved => exact invariant.kernel _ _ _ before moved
  | flush env consumed label flushed => exact invariant.flush _ _ _ before flushed
  | wait timeout env consumed label waited => exact invariant.wait _ _ _ _ before waited

namespace Coupled

variable {s s' : DrivenRuntime D}

/-- A step of the runtime while there are wakers in the hands of the loop. -/
theorem calling_follow {l : Label D} {next : State D} (coupled : Coupled holds s) (allowed : s.Allows l)
    (stepped : s.runtime.step l = some next) (inHand : (s.follow collected l next).toWake ≠ []) :
    next.pc = .flushed ∨ next.pc = .waited := by
  cases l with
  | unwind => exact absurd rfl inHand
  | advance => exact absurd (allowed rfl (coupled.calling inHand)) inHand
  | flush env consumed =>
      cases driverMoves stepped with
      | same _ away => cases away
      | call _ label | kernel _ label | wait _ _ _ label => cases label
      | flush _ _ _ _ _ there => exact .inl there
  | wait timeout env consumed =>
      cases driverMoves stepped with
      | same _ away => cases away
      | call _ label | kernel _ label | flush _ _ label => cases label
      | wait _ _ _ _ _ _ there => exact .inr there
  | _ =>
      have place := coupled.calling inHand
      rw [stays_called stepped place (by rintro ⟨⟩) (by rintro ⟨⟩)]
      exact place

/-- **One step keeps the loop and its driver together.** -/
theorem step (invariant : DriverInvariant D begins holds) {l : DrivenLabel D} (coupled : Coupled holds s)
    (stepped : s.step collected target l = some s') : Coupled holds s' := by
  cases l with
  | runtime l =>
      simp only [DrivenRuntime.step, Option.ite_none_right_eq_some, Option.map_eq_some_iff] at stepped
      obtain ⟨allowed, next, stepped, rfl⟩ := stepped
      exact ⟨.next (machine D) coupled.runtime stepped, invariant.moves coupled.driver (driverMoves stepped),
        calling_follow coupled allowed stepped⟩
  | wake =>
      simp only [DrivenRuntime.step, DrivenRuntime.wakeNext] at stepped
      split at stepped
      · cases stepped
      · rename_i waker rest inHand
        obtain ⟨next, woke, rfl⟩ := Option.map_eq_some_iff.mp stepped
        have wakes := wakes_of_wakeOne coupled.runtime woke
        have driver : next.driver = s.runtime.driver := wakes.driver
        have pc : next.pc = s.runtime.pc := wakes.pc
        refine ⟨wakes.reachable coupled.runtime, ?_, fun _ => ?_⟩
        · show holds next.driver
          rw [driver]
          exact coupled.driver
        · show next.pc = .flushed ∨ next.pc = .waited
          rw [pc]
          exact coupled.calling (by simp [inHand])

end Coupled

theorem coupled_of_reachable (invariant : DriverInvariant D begins holds) {s : DrivenRuntime D}
    (reachable : (drivenMachine collected begins target).Reachable s) : Coupled holds s := by
  refine Machine.invariant (M := drivenMachine collected begins target) ?_
    (fun _ _ _ coupled stepped => coupled.step invariant stepped) reachable
  rintro s ⟨driver, batchSize, ready, rfl⟩
  exact ⟨.of_start (machine D) ⟨driver, batchSize, rfl⟩, invariant.start driver ready, absurd rfl⟩

/-! ## A waker left with the driver -/

/-- What the driver promises about `waker`.  While nobody makes another call than those `lets`
allows, `stands` stays; and `runs` stays as well until a flush or a wait that collects the waker. -/
structure Request (D : DriverApi) (collected : D.State → List Waker) (holds stands runs : D.State → Prop)
    (lets : D.Call → Prop) (waker : Waker) : Prop where
  call : ∀ d c d', holds d → stands d → lets c → D.call d c = some d' → stands d' ∧ (runs d → runs d')
  kernel : ∀ d k d', holds d → stands d → D.kernel d k = some d' → stands d' ∧ (runs d → runs d')
  flush : ∀ d env d', holds d → stands d → D.flush d env = some d' →
    stands d' ∧ (runs d → runs d' ∨ waker ∈ collected d')
  wait : ∀ d timeout env d', holds d → stands d → D.wait d timeout env = some d' →
    stands d' ∧ (runs d → runs d' ∨ waker ∈ collected d')

/-- Nobody makes another call, no poll begins that the waker has asked for, and no waker panics
in the hands of the loop. -/
structure LetsRun (target : Waker → Target) (lets : D.Call → Prop) (waker : Waker) (s : DrivenRuntime D)
    (l : DrivenLabel D) : Prop where
  calls : ∀ c, l = .runtime (.call c) → lets c
  calm : l = .runtime .unwind → s.toWake = []
  leaves : ∀ k, l = .runtime k → (target waker).Leaves s.runtime k

/-- The waker is with the driver, in the hands of the loop, or has had its effect; the loop
does not block with it in its hands. -/
structure Awaited (target : Waker → Target) (stands runs : D.State → Prop) (waker : Waker)
    (s : DrivenRuntime D) : Prop where
  stands : stands s.runtime.driver
  answer : runs s.runtime.driver ∨ waker ∈ s.toWake ∨ (target waker).Reached s.runtime

namespace Awaited

variable {stands runs : D.State → Prop} {lets : D.Call → Prop} {waker : Waker} {s s' : DrivenRuntime D}

/-- What is in the hands of the loop stays there until it is woken. -/
theorem inHand_follow {l : Label D} {next : State D} (coupled : Coupled holds s)
    (stepped : s.runtime.step l = some next) (run : LetsRun target lets waker s (.runtime l))
    (inHand : waker ∈ s.toWake) : waker ∈ (s.follow collected l next).toWake := by
  have place := coupled.calling (List.ne_nil_of_mem inHand)
  have elsewhere : ∀ {pc : Pc}, s.runtime.pc = pc → pc ≠ .flushed → pc ≠ .waited → False := by
    rintro pc rfl flushed waited
    exact place.elim flushed waited
  cases l with
  | unwind =>
      rw [run.calm rfl] at inHand
      cases inHand
  | flush env consumed =>
      cases driverMoves stepped with
      | same _ away => cases away
      | call _ label | kernel _ label | wait _ _ _ label => cases label
      | flush _ _ _ _ here => exact (elsewhere here Pc.noConfusion Pc.noConfusion).elim
  | wait timeout env consumed =>
      cases driverMoves stepped with
      | same _ away => cases away
      | call _ label | kernel _ label | flush _ _ label => cases label
      | wait _ _ _ _ _ here => exact (elsewhere here Pc.noConfusion Pc.noConfusion).elim
  | _ => exact inHand

/-- What becomes of a waker that is with the driver. -/
theorem request_follow (request : Request D collected holds stands runs lets waker) {l : Label D} {next : State D}
    (stood : stands s.runtime.driver) (coupled : Coupled holds s) (stepped : s.runtime.step l = some next)
    (run : LetsRun target lets waker s (.runtime l)) :
    stands next.driver ∧ (runs s.runtime.driver → runs next.driver ∨ waker ∈ (s.follow collected l next).toWake) := by
  cases driverMoves stepped with
  | same driver =>
      rw [driver]
      exact ⟨stood, .inl⟩
  | call c label called =>
      obtain ⟨stays, keeps⟩ := request.call _ _ _ coupled.driver stood (run.calls c (by rw [label])) called
      exact ⟨stays, fun running => .inl (keeps running)⟩
  | kernel k label moved =>
      obtain ⟨stays, keeps⟩ := request.kernel _ _ _ coupled.driver stood moved
      exact ⟨stays, fun running => .inl (keeps running)⟩
  | flush env consumed label flushed =>
      subst label
      exact request.flush _ _ _ coupled.driver stood flushed
  | wait timeout env consumed label waited =>
      subst label
      exact request.wait _ _ _ _ coupled.driver stood waited

theorem step (request : Request D collected holds stands runs lets waker) {l : DrivenLabel D}
    (awaited : Awaited target stands runs waker s) (coupled : Coupled holds s)
    (run : LetsRun target lets waker s l) (stepped : s.step collected target l = some s') :
    Awaited target stands runs waker s' := by
  have batched := State.batched_of_reachable coupled.runtime
  cases l with
  | runtime l =>
      simp only [DrivenRuntime.step, Option.ite_none_right_eq_some, Option.map_eq_some_iff] at stepped
      obtain ⟨-, next, stepped, rfl⟩ := stepped
      obtain ⟨stays, keeps⟩ := request_follow request awaited.stands coupled stepped run
      refine ⟨stays, ?_⟩
      rcases awaited.answer with running | inHand | reached
      · exact (keeps running).imp_right .inl
      · exact .inr (.inl (inHand_follow coupled stepped run inHand))
      · exact .inr (.inr (reached.step batched (run.leaves l rfl) stepped))
  | wake =>
      simp only [DrivenRuntime.step, DrivenRuntime.wakeNext] at stepped
      split at stepped
      · cases stepped
      · rename_i first rest inHand
        obtain ⟨next, woke, rfl⟩ := Option.map_eq_some_iff.mp stepped
        have wakes := wakes_of_wakeOne coupled.runtime woke
        have same : next.driver = s.runtime.driver := wakes.driver
        refine ⟨same ▸ awaited.stands, ?_⟩
        rcases awaited.answer with running | waiting | reached
        · exact .inl (same ▸ running)
        · rw [inHand] at waiting
          rcases List.mem_cons.mp waiting with rfl | later
          · exact .inr (.inr wakes.reached)
          · exact .inr (.inl later)
        · exact .inr (.inr (wakes.keeps batched reached))

end Awaited

/-- **The rule for a waker that is left with the driver.** -/
theorem Request.throughout {stands runs : D.State → Prop} {lets : D.Call → Prop} {waker : Waker}
    (invariant : DriverInvariant D begins holds) (request : Request D collected holds stands runs lets waker)
    {s : DrivenRuntime D} {labels : List (DrivenLabel D)}
    (reachable : (drivenMachine collected begins target).Reachable s) (stood : stands s.runtime.driver)
    (running : runs s.runtime.driver)
    (run : (drivenMachine collected begins target).AllSteps (LetsRun target lets waker) s labels) :
    (drivenMachine collected begins target).Throughout (fun u => Coupled holds u ∧
      Awaited target stands runs waker u ∧
      (u.runtime.pc = .wait → runs u.runtime.driver ∨ (target waker).Reached u.runtime)) s labels := by
  refine Machine.throughout_of_allSteps (M := drivenMachine collected begins target)
    (I := fun u => Coupled holds u ∧ Awaited target stands runs waker u)
    (fun u l next both lets stepped => ?_) (fun u ⟨coupled, awaited⟩ => ⟨coupled, awaited, fun blocked => ?_⟩)
    ⟨coupled_of_reachable invariant reachable, stood, .inl running⟩ run
  · exact ⟨both.1.step invariant stepped, both.2.step request both.1 lets stepped⟩
  · refine awaited.answer.imp_right fun done => done.resolve_left fun inHand => ?_
    have place := coupled.calling (List.ne_nil_of_mem inHand)
    rw [blocked] at place
    rcases place with place | place <;> cases place

/-- A step that nobody takes amiss: no call, no panic, and no poll of the task. -/
theorem letsRun_of_bystander {lets : D.Call → Prop} {waker : Waker} {s : DrivenRuntime D} {l : DrivenLabel D}
    {t : Task} (aim : target waker = .task t) (plain : ∀ c, l ≠ .runtime (.call c)) (calm : l ≠ .runtime .unwind)
    (unbegun : ∀ k, l = .runtime k → ¬ s.runtime.Begins t k) : LetsRun target lets waker s l := by
  refine ⟨fun c same => absurd same (plain c), fun same => absurd same calm, fun k same => ?_⟩
  rw [aim]
  exact ⟨unbegun k same, fun drops => calm (same.trans (congrArg _ drops.1))⟩

end Vibeio.Executor
