/-
# Executor.Model -- block_on, its tasks and its wakers as one interleaving

The scheduler thread, the wakers on other threads and the kernel take turns in any
order; one label is one atomic access, one push or one pop.

* `Pc` is where the scheduler thread stands in `Runtime::block_on`; `drain_ready`,
  `stop_waiting` and `should_skip_wait` are unfolded into it.
* At the points where code of the futures runs on the scheduler thread (`Pc.foreign`)
  it may wake tasks and the root future, spawn, and call the driver, as often as it
  likes.  A poll, a spin of the timer and the wakers a driver wakes are of this kind.
* `WakerPc` is where a call of `Task::enqueue_if_needed` or of
  `BlockOnNotify::wake_by_ref` stands on another thread.  Any number of them are
  under way, so only their positions are kept.
* The driver is a parameter.  Of its interruptor the model has `posted`: an interrupt
  that was posted and that no wait or flush has consumed.
* `Step` and `Advance` list everything a step can do (`step_cases`, `advance_cases`);
  every invariant is proved from them.

A panic in code of the futures unwinds `block_on`, which may then be called again; a
panic of the driver ends the run.  Wakers of a runtime that was dropped are left out:
the weak references of a task upgrade.
-/
import Mathlib.Logic.Function.Basic
import Vibeio.Theory.Machine

namespace Vibeio.Executor

open Vibeio.Theory

set_option autoImplicit false

/-- A task is known by the serial number of its spawn. -/
abbrev Task := Nat

def NEXT_TASK_INLINE_CAP : Nat := 8

/-- What the runtime and its futures use of a driver.  `Call` is what a future may ask
for, `Kernel` what the kernel does on its own, `Env` what it decides during a flush or
a wait.  `none` is a panic, or what cannot happen. -/
structure DriverApi where
  State : Type
  Call : Type
  Kernel : Type
  Env : Type
  call : State → Call → Option State
  kernel : State → Kernel → Option State
  shouldFlush : State → Bool
  flush : State → Env → Option State
  wait : State → Option Nat → Env → Option State

/-! ## Where a thread stands -/

/-- The queue `drain_ready` is at. -/
inductive Stage where
  | nextTask
  | remoteQueue
  | queue
  deriving DecidableEq, Repr

/-- Which of its three calls of `stop_waiting` the scheduler is in: there was something
to do after all, a timer fired, or the wait is over. -/
inductive Site where
  | skipped
  | timers
  | waited
  deriving DecidableEq, Repr

inductive Pc where
  /-- Not inside `block_on`. -/
  | outside
  | takeReady
  /-- Inside `poll` of the root future. -/
  | pollRoot
  /-- Inside the first `spin_and_get_deadline`. -/
  | spinTimer
  | drain (stage : Stage) (budget : Nat)
  /-- `drain_ready` has popped `task`. -/
  | markDequeued (task : Task) (stage : Stage) (budget : Nat)
  /-- The batch is empty: the first `is_ready`. -/
  | checkReady
  | resetPending
  | setWaiting
  /-- The second `is_ready`. -/
  | recheckReady
  | skipWait
  | spinDeadline
  /-- The second spin has fired timers and wakes them. -/
  | timersWoken
  /-- Blocked in `driver.wait`. -/
  | wait
  /-- `driver.wait` wakes what it has collected. -/
  | waited
  /-- `stop_waiting`: both stores are ahead. -/
  | stopWaiting (site : Site)
  /-- `stop_waiting`: the store to `interrupt_pending` is ahead. -/
  | clearPending (site : Site)
  | pollTasks
  /-- Inside `poll` of `task`. -/
  | pollTask (task : Task)
  | checkFlush
  /-- `driver.flush` wakes what it has collected. -/
  | flushed
  deriving DecidableEq, Repr

/-- Code of the futures runs on the scheduler thread. -/
def Pc.foreign : Pc → Bool
  | .outside | .pollRoot | .spinTimer | .timersWoken | .waited | .pollTask _ | .flushed => true
  | _ => false

/-- A wake on another thread, after its first access. -/
inductive WakerPc where
  /-- `queued.swap` returned `false`. -/
  | push (task : Task)
  | loadWaiting
  | swapPending
  | interrupt
  deriving DecidableEq, Repr

/-- The push or store of the wake is made, or there is none to make because the task
was queued already. -/
def WakerPc.pastPush : WakerPc → Bool
  | .push _ => false
  | .loadWaiting | .swapPending | .interrupt => true

structure State (D : DriverApi) where
  batchSize : Nat
  queue : List Task
  nextTask : List Task
  remoteQueue : List Task
  /-- `Task::queued`, for each task. -/
  queued : Task → Bool
  /-- `Task::future` is `Some`. -/
  hasFuture : Task → Bool
  /-- How many tasks were spawned. -/
  spawned : Nat
  /-- `BlockOnNotify::ready`. -/
  ready : Bool
  waiting : Bool
  interruptPending : Bool
  /-- An interrupt was posted and not consumed. -/
  posted : Bool
  pc : Pc
  /-- The scheduler thread is in `enqueue_if_needed`, between its swap and its push. -/
  localWake : Option Task
  batch : List Task
  wakers : List WakerPc
  driver : D.State

inductive Label (D : DriverApi) where
  /-- Another thread wakes a task: `queued.swap`. -/
  | wakeTask (task : Task)
  /-- Another thread wakes the root future of this `block_on`, or of an earlier one:
  `ready.store`. -/
  | wakeRoot (current : Bool)
  /-- A wake under way that stands at `pc` takes its next step. -/
  | waker (pc : WakerPc)
  | kernel (k : D.Kernel)
  /-- Code of the futures, on the scheduler thread. -/
  | localWake (task : Task)
  | localPush
  | localWakeRoot
  | spawn
  | call (c : D.Call)
  /-- `block_on` is called. -/
  | enter
  /-- The poll under way returns. -/
  | polled (pending : Bool)
  /-- The second spin of the timer, and whether it fired any. -/
  | spun (wokenUp : Bool)
  /-- `driver.wait` stops blocking. -/
  | wait (timeout : Option Nat) (env : D.Env) (consumed : Bool)
  | flush (env : D.Env) (consumed : Bool)
  /-- The other steps of `block_on`. -/
  | advance
  /-- The code of a future panics. -/
  | unwind

namespace State

variable {D : DriverApi}

/-! ## Wakes on other threads -/

/-- `enqueue_if_needed` on another thread, up to its swap of `queued`. -/
def enqueueIfNeededRemote (s : State D) (task : Task) : State D :=
  { s with
    queued := Function.update s.queued task true
    wakers := (if s.queued task then .loadWaiting else .push task) :: s.wakers }

/-- `wake_by_ref` on another thread, up to its store to `ready`. -/
def wakeByRefRemote (s : State D) (current : Bool) : State D :=
  { s with ready := s.ready || current, wakers := .loadWaiting :: s.wakers }

/-- The wake that stood at `pc` goes on to `next`, or is over. -/
def moveWaker (s : State D) (pc : WakerPc) (next : Option WakerPc) : State D :=
  { s with wakers := next.toList ++ s.wakers.erase pc }

def wakerStep (s : State D) (pc : WakerPc) : State D :=
  match pc with
  | .push task => { s.moveWaker pc (some .loadWaiting) with remoteQueue := s.remoteQueue ++ [task] }
  | .loadWaiting => s.moveWaker pc (if s.waiting then some .swapPending else none)
  | .swapPending =>
      { s.moveWaker pc (if s.interruptPending then none else some .interrupt) with interruptPending := true }
  | .interrupt => { s.moveWaker pc none with posted := true }

/-! ## Code of the futures -/

/-- `enqueue_if_needed` on the scheduler thread, up to its swap of `queued`. -/
def enqueueIfNeededLocal (s : State D) (task : Task) : State D :=
  { s with
    queued := Function.update s.queued task true
    localWake := if s.queued task then none else some task }

/-- The rest of it. -/
def pushLocal (s : State D) (task : Task) : State D :=
  if s.nextTask.length < NEXT_TASK_INLINE_CAP then
    { s with nextTask := s.nextTask ++ [task], localWake := none }
  else { s with queue := s.queue ++ [task], localWake := none }

/-- `spawn` and `spawn_detached`: nobody else knows the task before it is queued. -/
def spawn (s : State D) : State D :=
  { s with
    spawned := s.spawned + 1
    queued := Function.update s.queued s.spawned true
    hasFuture := Function.update s.hasFuture s.spawned true
    queue := s.queue ++ [s.spawned] }

/-! ## block_on -/

/-- Pop the queue of a stage. -/
def pop (s : State D) : Stage → Option (Task × State D)
  | .nextTask =>
      match s.nextTask with
      | [] => none
      | task :: rest => some (task, { s with nextTask := rest })
  | .remoteQueue =>
      match s.remoteQueue with
      | [] => none
      | task :: rest => some (task, { s with remoteQueue := rest })
  | .queue =>
      match s.queue with
      | [] => none
      | task :: rest => some (task, { s with queue := rest })

/-- `drain_ready` returns. -/
def endDrain (s : State D) : State D :=
  { s with pc := if s.batch.isEmpty then .checkReady else .pollTasks }

/-- The queue is empty: on to the next one. -/
def nextStage (s : State D) (budget : Nat) : Stage → State D
  | .nextTask => { s with pc := .drain .remoteQueue budget }
  | .remoteQueue => { s with pc := .drain .queue budget }
  | .queue => s.endDrain

def drainReadyStep (s : State D) (stage : Stage) : Nat → State D
  | 0 => s.endDrain
  | budget + 1 =>
      match s.pop stage with
      | some (task, popped) => { popped with pc := .markDequeued task stage budget }
      | none => s.nextStage (budget + 1) stage

def markDequeued (s : State D) (task : Task) (stage : Stage) (budget : Nat) : State D :=
  { s with
    queued := Function.update s.queued task false
    batch := s.batch ++ [task]
    pc := .drain stage budget }

def shouldSkipWait (s : State D) : Bool :=
  !s.nextTask.isEmpty || !s.remoteQueue.isEmpty || !s.queue.isEmpty

/-- The head of the loop over the batch.  A task that has no future is skipped. -/
def pollNext (s : State D) : State D :=
  match s.batch with
  | [] => { s with pc := .checkFlush }
  | task :: rest =>
      if s.hasFuture task then
        { s with
          batch := rest
          hasFuture := Function.update s.hasFuture task false
          pc := .pollTask task }
      else { s with batch := rest }

/-- The steps of `block_on` that nothing outside it decides. -/
def advance (s : State D) : Option (State D) :=
  match s.pc with
  | .takeReady => some { s with ready := false, pc := if s.ready then .pollRoot else .spinTimer }
  | .spinTimer => some { s with batch := [], pc := .drain .nextTask s.batchSize }
  | .drain stage budget => some (s.drainReadyStep stage budget)
  | .markDequeued task stage budget => some (s.markDequeued task stage budget)
  | .checkReady => some { s with pc := if s.ready then .takeReady else .resetPending }
  | .resetPending => some { s with interruptPending := false, pc := .setWaiting }
  | .setWaiting => some { s with waiting := true, pc := .recheckReady }
  | .recheckReady => some { s with pc := if s.ready then .stopWaiting .skipped else .skipWait }
  | .skipWait => some { s with pc := if s.shouldSkipWait then .stopWaiting .skipped else .spinDeadline }
  | .timersWoken => some { s with pc := .stopWaiting .timers }
  | .waited => some { s with pc := .stopWaiting .waited }
  | .stopWaiting site => some { s with waiting := false, pc := .clearPending site }
  | .clearPending _ => some { s with interruptPending := false, pc := .takeReady }
  | .pollTasks => some s.pollNext
  | .checkFlush => if D.shouldFlush s.driver then none else some { s with pc := .takeReady }
  | .flushed => some { s with pc := .takeReady }
  | _ => none

/-- A poll returns: the root future's, or a task's. -/
def polled (s : State D) (pending : Bool) : Option (State D) :=
  match s.pc with
  | .pollRoot => some { s with pc := if pending then .spinTimer else .outside }
  | .pollTask task =>
      some { s with hasFuture := Function.update s.hasFuture task pending, pc := .pollTasks }
  | _ => none

def endWait (s : State D) (timeout : Option Nat) (env : D.Env) (consumed : Bool) : Option (State D) :=
  (D.wait s.driver timeout env).map fun driver =>
    { s with driver := driver, posted := s.posted && !consumed, pc := .waited }

def flush (s : State D) (env : D.Env) (consumed : Bool) : Option (State D) :=
  (D.flush s.driver env).map fun driver =>
    { s with driver := driver, posted := s.posted && !consumed, pc := .flushed }

/-- The scheduler thread is free to take a step of its own. -/
def Free (s : State D) : Prop := s.localWake = none

instance (s : State D) : Decidable s.Free := inferInstanceAs (Decidable (s.localWake = none))

def step (s : State D) : Label D → Option (State D)
  | .wakeTask task => if task < s.spawned then some (s.enqueueIfNeededRemote task) else none
  | .wakeRoot current => some (s.wakeByRefRemote current)
  | .waker pc => if pc ∈ s.wakers then some (s.wakerStep pc) else none
  | .kernel k => (D.kernel s.driver k).map fun driver => { s with driver := driver }
  | .localWake task =>
      if s.Free ∧ s.pc.foreign ∧ task < s.spawned then some (s.enqueueIfNeededLocal task) else none
  | .localPush => s.localWake.map s.pushLocal
  | .localWakeRoot => if s.Free ∧ s.pc.foreign then some { s with ready := true } else none
  | .spawn => if s.Free ∧ s.pc.foreign then some s.spawn else none
  | .call c =>
      if s.Free ∧ s.pc.foreign then
        (D.call s.driver c).map fun driver => { s with driver := driver }
      else none
  | .enter =>
      if s.Free ∧ s.pc = .outside then some { s with ready := true, pc := .takeReady } else none
  | .polled pending => if s.Free then s.polled pending else none
  | .spun wokenUp =>
      if s.Free ∧ s.pc = .spinDeadline then
        some { s with pc := if wokenUp then .timersWoken else .wait }
      else none
  | .wait timeout env consumed =>
      if s.Free ∧ s.pc = .wait then s.endWait timeout env consumed else none
  | .flush env consumed =>
      if s.Free ∧ s.pc = .checkFlush ∧ D.shouldFlush s.driver then s.flush env consumed else none
  | .advance => if s.Free then s.advance else none
  | .unwind =>
      if s.Free ∧ s.pc.foreign ∧ s.pc ≠ .outside then some { s with batch := [], pc := .outside }
      else none

/-! ## What a step can do -/

/-- The steps of `block_on` that nothing outside decides, branch by branch. -/
inductive Advance (s : State D) : State D → Prop where
  | rootTaken (here : s.pc = .takeReady) (up : s.ready = true) :
      Advance s { s with ready := false, pc := .pollRoot }
  | rootIdle (here : s.pc = .takeReady) (down : s.ready = false) :
      Advance s { s with ready := false, pc := .spinTimer }
  | spinTimer (here : s.pc = .spinTimer) : Advance s { s with batch := [], pc := .drain .nextTask s.batchSize }
  | drain {stage : Stage} {budget : Nat} (here : s.pc = .drain stage budget) :
      Advance s (s.drainReadyStep stage budget)
  | markDequeued {task : Task} {stage : Stage} {budget : Nat} (here : s.pc = .markDequeued task stage budget) :
      Advance s (s.markDequeued task stage budget)
  | readyAgain (here : s.pc = .checkReady) (up : s.ready = true) : Advance s { s with pc := .takeReady }
  | notReady (here : s.pc = .checkReady) (down : s.ready = false) : Advance s { s with pc := .resetPending }
  | resetPending (here : s.pc = .resetPending) :
      Advance s { s with interruptPending := false, pc := .setWaiting }
  | setWaiting (here : s.pc = .setWaiting) : Advance s { s with waiting := true, pc := .recheckReady }
  | readyLate (here : s.pc = .recheckReady) (up : s.ready = true) :
      Advance s { s with pc := .stopWaiting .skipped }
  | stillNotReady (here : s.pc = .recheckReady) (down : s.ready = false) : Advance s { s with pc := .skipWait }
  | skips (here : s.pc = .skipWait) (skips : s.shouldSkipWait = true) :
      Advance s { s with pc := .stopWaiting .skipped }
  | stays (here : s.pc = .skipWait) (stays : s.shouldSkipWait = false) : Advance s { s with pc := .spinDeadline }
  | timersWoken (here : s.pc = .timersWoken) : Advance s { s with pc := .stopWaiting .timers }
  | waited (here : s.pc = .waited) : Advance s { s with pc := .stopWaiting .waited }
  | stopWaiting {site : Site} (here : s.pc = .stopWaiting site) :
      Advance s { s with waiting := false, pc := .clearPending site }
  | clearPending {site : Site} (here : s.pc = .clearPending site) :
      Advance s { s with interruptPending := false, pc := .takeReady }
  | pollTasks (here : s.pc = .pollTasks) : Advance s s.pollNext
  | noFlush (here : s.pc = .checkFlush) (calm : D.shouldFlush s.driver = false) :
      Advance s { s with pc := .takeReady }
  | flushed (here : s.pc = .flushed) : Advance s { s with pc := .takeReady }

theorem advance_cases {s s' : State D} (stepped : s.advance = some s') : Advance s s' := by
  -- at the positions where something outside decides, the hypothesis is absurd
  cases here : s.pc <;> simp only [advance, here, reduceCtorEq, Option.some.injEq] at stepped
  case takeReady =>
    subst stepped
    split
    · rename_i up
      exact .rootTaken here up
    · rename_i down
      exact .rootIdle here (Bool.eq_false_iff.mpr down)
  case spinTimer => exact stepped ▸ .spinTimer here
  case drain stage budget => exact stepped ▸ .drain here
  case markDequeued task stage budget => exact stepped ▸ .markDequeued here
  case checkReady =>
    subst stepped
    split
    · rename_i up
      exact .readyAgain here up
    · rename_i down
      exact .notReady here (Bool.eq_false_iff.mpr down)
  case resetPending => exact stepped ▸ .resetPending here
  case setWaiting => exact stepped ▸ .setWaiting here
  case recheckReady =>
    subst stepped
    split
    · rename_i up
      exact .readyLate here up
    · rename_i down
      exact .stillNotReady here (Bool.eq_false_iff.mpr down)
  case skipWait =>
    subst stepped
    split
    · rename_i skips
      exact .skips here skips
    · rename_i stays
      exact .stays here (Bool.eq_false_iff.mpr stays)
  case timersWoken => exact stepped ▸ .timersWoken here
  case waited => exact stepped ▸ .waited here
  case stopWaiting site => exact stepped ▸ .stopWaiting here
  case clearPending site => exact stepped ▸ .clearPending here
  case pollTasks => exact stepped ▸ .pollTasks here
  case checkFlush =>
    split at stepped
    · cases stepped
    · rename_i calm
      cases stepped
      exact .noFlush here (Bool.eq_false_iff.mpr calm)
  case flushed => exact stepped ▸ .flushed here

/-- All steps of the system, with what each takes for granted. -/
inductive Step (s : State D) : Label D → State D → Prop where
  | wakeTask (task : Task) (known : task < s.spawned) : Step s (.wakeTask task) (s.enqueueIfNeededRemote task)
  | wakeRoot (current : Bool) : Step s (.wakeRoot current) (s.wakeByRefRemote current)
  | waker (pc : WakerPc) (here : pc ∈ s.wakers) : Step s (.waker pc) (s.wakerStep pc)
  | kernel (k : D.Kernel) (driver : D.State) (moved : D.kernel s.driver k = some driver) :
      Step s (.kernel k) { s with driver := driver }
  | localWake (task : Task) (free : s.Free) (foreign : s.pc.foreign = true) (known : task < s.spawned) :
      Step s (.localWake task) (s.enqueueIfNeededLocal task)
  | localPush (task : Task) (held : s.localWake = some task) : Step s .localPush (s.pushLocal task)
  | localWakeRoot (foreign : s.pc.foreign = true) : Step s .localWakeRoot { s with ready := true }
  | spawn (foreign : s.pc.foreign = true) : Step s .spawn s.spawn
  | call (c : D.Call) (driver : D.State) (foreign : s.pc.foreign = true)
      (called : D.call s.driver c = some driver) : Step s (.call c) { s with driver := driver }
  | enter (here : s.pc = .outside) : Step s .enter { s with ready := true, pc := .takeReady }
  | rootPending (here : s.pc = .pollRoot) : Step s (.polled true) { s with pc := .spinTimer }
  | rootDone (here : s.pc = .pollRoot) : Step s (.polled false) { s with pc := .outside }
  | taskPolled (task : Task) (pending : Bool) (here : s.pc = .pollTask task) :
      Step s (.polled pending)
        { s with hasFuture := Function.update s.hasFuture task pending, pc := .pollTasks }
  | timersFired (here : s.pc = .spinDeadline) : Step s (.spun true) { s with pc := .timersWoken }
  | blocks (here : s.pc = .spinDeadline) : Step s (.spun false) { s with pc := .wait }
  | wait (timeout : Option Nat) (env : D.Env) (consumed : Bool) (driver : D.State) (here : s.pc = .wait)
      (waits : D.wait s.driver timeout env = some driver) :
      Step s (.wait timeout env consumed)
        { s with driver := driver, posted := s.posted && !consumed, pc := .waited }
  | flush (env : D.Env) (consumed : Bool) (driver : D.State) (here : s.pc = .checkFlush)
      (flushes : D.flush s.driver env = some driver) :
      Step s (.flush env consumed)
        { s with driver := driver, posted := s.posted && !consumed, pc := .flushed }
  | advance (s' : State D) (advances : Advance s s') : Step s .advance s'
  | unwind (foreign : s.pc.foreign = true) (inside : s.pc ≠ .outside) :
      Step s .unwind { s with batch := [], pc := .outside }

theorem polled_cases {s s' : State D} {pending : Bool} (stepped : s.polled pending = some s') :
    Step s (.polled pending) s' := by
  unfold polled at stepped
  split at stepped
  · rename_i here
    cases stepped
    cases pending
    · exact .rootDone here
    · exact .rootPending here
  · rename_i task here
    cases stepped
    exact .taskPolled task pending here
  · cases stepped

/-- **Everything a step can do.** -/
theorem step_cases {s s' : State D} {l : Label D} (stepped : s.step l = some s') : Step s l s' := by
  cases l <;> simp only [step, endWait, flush, Option.ite_none_right_eq_some, Option.map_eq_some_iff,
    Option.some.injEq] at stepped
  case wakeTask task =>
    obtain ⟨known, rfl⟩ := stepped
    exact .wakeTask task known
  case wakeRoot current => exact stepped ▸ .wakeRoot current
  case waker pc =>
    obtain ⟨here, rfl⟩ := stepped
    exact .waker pc here
  case kernel k =>
    obtain ⟨driver, moved, rfl⟩ := stepped
    exact .kernel k driver moved
  case localWake task =>
    obtain ⟨⟨free, foreign, known⟩, rfl⟩ := stepped
    exact .localWake task free foreign known
  case localPush =>
    obtain ⟨task, held, rfl⟩ := stepped
    exact .localPush task held
  case localWakeRoot =>
    obtain ⟨⟨-, foreign⟩, rfl⟩ := stepped
    exact .localWakeRoot foreign
  case spawn =>
    obtain ⟨⟨-, foreign⟩, rfl⟩ := stepped
    exact .spawn foreign
  case call c =>
    obtain ⟨⟨-, foreign⟩, driver, called, rfl⟩ := stepped
    exact .call c driver foreign called
  case enter =>
    obtain ⟨⟨-, here⟩, rfl⟩ := stepped
    exact .enter here
  case polled pending => exact polled_cases stepped.2
  case spun wokenUp =>
    obtain ⟨⟨-, here⟩, rfl⟩ := stepped
    cases wokenUp
    · exact .blocks here
    · exact .timersFired here
  case wait timeout env consumed =>
    obtain ⟨⟨-, here⟩, driver, waits, rfl⟩ := stepped
    exact .wait timeout env consumed driver here waits
  case flush env consumed =>
    obtain ⟨⟨-, here, -⟩, driver, flushes, rfl⟩ := stepped
    exact .flush env consumed driver here flushes
  case advance => exact .advance s' (advance_cases stepped.2)
  case unwind =>
    obtain ⟨⟨-, foreign, inside⟩, rfl⟩ := stepped
    exact .unwind foreign inside

/-- `Runtime::with_options`. -/
def withOptions (driver : D.State) (batchSize : Nat) : State D where
  batchSize := batchSize
  queue := []
  nextTask := []
  remoteQueue := []
  queued := fun _ => false
  hasFuture := fun _ => false
  spawned := 0
  ready := false
  waiting := false
  interruptPending := false
  posted := false
  pc := .outside
  localWake := none
  batch := []
  wakers := []
  driver := driver

end State

/-- The runtime from its construction on, over any driver. -/
def machine (D : DriverApi) : Machine (State D) (Label D) where
  start s := ∃ driver batchSize, s = .withOptions driver batchSize
  step := State.step

/-- `MockDriver`: it parks the thread, and no handle or operation is supported. -/
def mockDriver : DriverApi where
  State := Unit
  Call := Empty
  Kernel := Empty
  Env := Unit
  call := fun _ c => nomatch c
  kernel := fun _ k => nomatch k
  shouldFlush := fun _ => true
  flush := fun d _ => some d
  wait := fun d _ _ => some d

end Vibeio.Executor
