/-
# Executor.Starvation -- how long the loop passes its driver by

An iteration of the loop of `block_on` goes from its head back to its head.  `Watched`
runs the loop with two ghosts beside it: whether this iteration has flushed or waited
so far, and how many iterations in a row came round without either while the driver
had something to be served (for io_uring: entries in the submission or in the
completion queue).

* `passesBy` reads off the state at which an iteration goes round whether it has
  passed the driver by.  The exits that do are: the root flag is found set after an
  empty drain, `stop_waiting` for something other than a finished wait, and
  `should_flush` saying no after a polled batch.
* `starved_le_two_iff`: over every run, the count stays within two if and only if no
  three iterations in a row leave like that.
* `self_waking_root_starves`: a root future that wakes itself on every poll makes
  them.
-/
import Vibeio.Theory.Streak
import Vibeio.Executor.Model
import Vibeio.Driver.UringPoll

namespace Vibeio.Executor

open Vibeio.Theory
open Vibeio.Driver

set_option autoImplicit false

/-- Where the current iteration has flushed or waited. -/
def Pc.serviced : Pc → Bool
  | .waited | .stopWaiting .waited | .clearPending .waited | .flushed => true
  | _ => false

section Loop

variable {D : DriverApi} (backlog : D.State → Bool)

def Label.serves : Label D → Bool
  | .wait .. | .flush .. => true
  | _ => false

/-- Whether the step ends an iteration, and if so, whether that iteration has passed
the driver by although it had something to be served.  A call of `block_on` starts
afresh. -/
def passesBy (s : State D) (l : Label D) : Option Bool :=
  match l, s.pc with
  | .enter, _ => some false
  | .advance, .checkReady => if s.ready then some (backlog s.driver) else none
  | .advance, .clearPending .waited => some false
  | .advance, .clearPending _ => some (backlog s.driver)
  | .advance, .checkFlush => some (backlog s.driver)
  | .advance, .flushed => some false
  | _, _ => none

structure Watched (D : DriverApi) where
  runtime : State D
  served : Bool
  starved : Nat

/-- The ghosts beside a step of the runtime. -/
def Watched.step (w : Watched D) (l : Label D) : Option (Watched D) :=
  (w.runtime.step l).map fun next =>
    if w.runtime.pc = .outside ∧ next.pc = .takeReady then ⟨next, false, 0⟩
    else if w.runtime.pc ≠ .takeReady ∧ next.pc = .takeReady then
      ⟨next, false, if !w.served && backlog next.driver then w.starved + 1 else 0⟩
    else ⟨next, w.served || l.serves, w.starved⟩

def watchedMachine : Machine (Watched D) (Label D) where
  start w := (machine D).start w.runtime ∧ w.served = false ∧ w.starved = 0
  step := Watched.step backlog

/-- The ghosts only watch. -/
theorem Watched.step_runtime (w : Watched D) (l : Label D) :
    (w.step backlog l).map (·.runtime) = w.runtime.step l := by
  simp only [Watched.step, Option.map_map]
  cases w.runtime.step l with
  | none => rfl
  | some next =>
      simp only [Option.map_some, Function.comp]
      split
      · rfl
      · split <;> rfl

theorem watched_exec (w : Watched D) (labels : List (Label D)) :
    (machine D).exec w.runtime labels = ((watchedMachine backlog).exec w labels).map (·.runtime) := by
  have mirrored := (watchedMachine backlog).exec_map (N := machine D) (f := Watched.runtime) (g := id)
    (fun w l => (w.step_runtime backlog l).symm) w labels
  rwa [List.map_id] at mirrored

/-! ## Iterations -/

/-- Where a step can lead, as far as iterations go. -/
inductive LoopStep (s : State D) (l : Label D) (s' : State D) : Prop where
  | begins (verdict : passesBy backlog s l = some false) (before : s.pc = .outside) (here : s'.pc = .takeReady)
  | within (verdict : passesBy backlog s l = none) (stays : s'.pc = .takeReady → s.pc = .takeReady)
      (served : s'.pc ≠ .outside → s.pc ≠ .outside ∧ s'.pc.serviced = (s.pc.serviced || l.serves))
  | round (verdict : passesBy backlog s l = some (!s.pc.serviced && backlog s.driver))
      (inside : s.pc ≠ .outside ∧ s.pc ≠ .takeReady) (here : s'.pc = .takeReady)
      (driver : s'.driver = s.driver)

/-- A step that leaves the scheduler thread where it is. -/
theorem LoopStep.elsewhere {s s' : State D} {l : Label D} (verdict : passesBy backlog s l = none)
    (idle : l.serves = false) (pc : s'.pc = s.pc) : LoopStep backlog s l s' := by
  refine .within verdict (fun here => pc.symm.trans here) (fun inside => ⟨?_, ?_⟩)
  · rw [← pc]
    exact inside
  · rw [pc, idle, Bool.or_false]

/-- A step from one position of the loop to another one of the same iteration. -/
theorem LoopStep.onward {s s' : State D} {l : Label D} (verdict : passesBy backlog s l = none)
    (inside : s.pc ≠ .outside) (stays : s'.pc ≠ .takeReady)
    (served : s'.pc ≠ .outside → s'.pc.serviced = (s.pc.serviced || l.serves)) : LoopStep backlog s l s' :=
  .within verdict (fun here => absurd here stays) (fun on => ⟨inside, served on⟩)

theorem drainReadyStep_positions (s : State D) (stage : Stage) (budget : Nat) :
    (s.drainReadyStep stage budget).pc ≠ .takeReady ∧ (s.drainReadyStep stage budget).pc.serviced = false := by
  have ended : s.endDrain.pc ≠ .takeReady ∧ s.endDrain.pc.serviced = false := by
    unfold State.endDrain
    cases s.batch <;> exact ⟨Pc.noConfusion, rfl⟩
  cases budget with
  | zero => exact ended
  | succ budget =>
      simp only [State.drainReadyStep]
      cases s.pop stage with
      | some result => exact ⟨Pc.noConfusion, rfl⟩
      | none =>
          cases stage with
          | nextTask => exact ⟨Pc.noConfusion, rfl⟩
          | remoteQueue => exact ⟨Pc.noConfusion, rfl⟩
          | queue => exact ended

theorem pollNext_positions {s : State D} (here : s.pc = .pollTasks) :
    s.pollNext.pc ≠ .takeReady ∧ s.pollNext.pc.serviced = false := by
  unfold State.pollNext
  split
  · exact ⟨Pc.noConfusion, rfl⟩
  · split
    · exact ⟨Pc.noConfusion, rfl⟩
    · show s.pc ≠ .takeReady ∧ s.pc.serviced = false
      rw [here]
      exact ⟨Pc.noConfusion, rfl⟩

theorem loopStep_advance {s s' : State D} (advances : State.Advance s s') : LoopStep backlog s .advance s' := by
  cases advances with
  | drain here =>
      obtain ⟨stays, unserved⟩ := drainReadyStep_positions s _ _
      refine .onward _ (by simp [passesBy, here]) (by simp [here]) stays (fun _ => ?_)
      rw [unserved, here]
      rfl
  | pollTasks here =>
      obtain ⟨stays, unserved⟩ := pollNext_positions here
      refine .onward _ (by simp [passesBy, here]) (by simp [here]) stays (fun _ => ?_)
      rw [unserved, here]
      rfl
  | rootTaken here | rootIdle here | spinTimer here | markDequeued here | resetPending here | setWaiting here
  | readyLate here | stillNotReady here | skips here | stays here | timersWoken here | waited here =>
      refine .onward _ (by simp [passesBy, here]) (by simp [here]) Pc.noConfusion (fun _ => ?_)
      rw [here]
      rfl
  | notReady here down =>
      refine .onward _ (by simp [passesBy, here, down]) (by simp [here]) Pc.noConfusion (fun _ => ?_)
      rw [here]
      rfl
  | stopWaiting here =>
      rename_i site
      refine .onward _ (by simp [passesBy, here]) (by simp [here]) Pc.noConfusion (fun _ => ?_)
      rw [here]
      cases site <;> rfl
  | readyAgain here up =>
      refine .round ?_ (by simp [here]) rfl rfl
      simp [passesBy, here, up, Pc.serviced]
  | clearPending here =>
      rename_i site
      refine .round ?_ (by simp [here]) rfl rfl
      cases site <;> simp [passesBy, here, Pc.serviced]
  | noFlush here | flushed here =>
      refine .round ?_ (by simp [here]) rfl rfl
      simp [passesBy, here, Pc.serviced]

theorem loopStep_step {s s' : State D} {l : Label D} (stepped : s.step l = some s') :
    LoopStep backlog s l s' := by
  cases State.step_cases stepped with
  | wakeTask | wakeRoot | kernel | localWake | localWakeRoot | spawn | call => exact .elsewhere _ rfl rfl rfl
  | waker pc =>
      refine .elsewhere _ rfl rfl ?_
      cases pc <;> rfl
  | localPush task =>
      refine .elsewhere _ rfl rfl ?_
      unfold State.pushLocal
      split <;> rfl
  | enter here => exact .begins rfl here rfl
  | rootDone here => exact .onward _ rfl (by simp [here]) Pc.noConfusion (fun on => absurd rfl on)
  | rootPending here | taskPolled _ _ here | timersFired here | blocks here | wait _ _ _ _ here
  | flush _ _ _ here =>
      refine .onward _ rfl (by simp [here]) Pc.noConfusion (fun _ => ?_)
      rw [here]
      rfl
  | advance s' advances => exact loopStep_advance backlog advances
  | unwind foreign inside => exact .onward _ rfl inside Pc.noConfusion (fun on => absurd rfl on)

/-! ## The ghosts -/

/-- Inside the loop, whether the iteration was served can be read off the position. -/
def Watched.Tracked (w : Watched D) : Prop := w.runtime.pc ≠ .outside → w.served = w.runtime.pc.serviced

/-- The counter is the tally of what `passesBy` says, and the other ghost stays tied to
the position. -/
theorem Watched.step_tally {w w' : Watched D} {l : Label D} (tracked : w.Tracked)
    (stepped : w.step backlog l = some w') :
    w'.Tracked ∧ w'.starved = tally w.starved (passesBy backlog w.runtime l) := by
  simp only [Watched.step, Option.map_eq_some_iff] at stepped
  obtain ⟨next, moved, rfl⟩ := stepped
  cases loopStep_step backlog moved with
  | begins verdict before here =>
      rw [if_pos ⟨before, here⟩, verdict]
      refine ⟨fun _ => ?_, rfl⟩
      show false = next.pc.serviced
      rw [here]
      rfl
  | within verdict stays served =>
      have notBegin : ¬ (w.runtime.pc = .outside ∧ next.pc = .takeReady) := by
        rintro ⟨before, here⟩
        cases before.symm.trans (stays here)
      have notRound : ¬ (w.runtime.pc ≠ .takeReady ∧ next.pc = .takeReady) := by
        rintro ⟨away, here⟩
        exact away (stays here)
      rw [if_neg notBegin, if_neg notRound, verdict]
      refine ⟨fun inside => ?_, rfl⟩
      obtain ⟨before, position⟩ := served inside
      show (w.served || l.serves) = next.pc.serviced
      rw [position, tracked before]
  | round verdict inside here driver =>
      rw [if_neg fun begins => inside.1 begins.1, if_pos ⟨inside.2, here⟩, verdict, driver,
        tracked inside.1]
      refine ⟨fun _ => ?_, ?_⟩
      · show false = next.pc.serviced
        rw [here]
        rfl
      · cases !w.runtime.pc.serviced && backlog w.runtime.driver <;> rfl

theorem Watched.tracked_start {w : Watched D} (starts : (watchedMachine backlog).start w) : w.Tracked := by
  obtain ⟨⟨driver, batchSize, fresh⟩, -, -⟩ := starts
  intro inside
  rw [fresh] at inside
  exact absurd rfl inside

end Loop

/-! ## The io_uring driver -/

/-- What a future asks of the driver. -/
inductive UringCall where
  | registerHandleWithMode (fd : Int) (interest : Interest) (mode : RegistrationMode) (key : Nat)
  | reregisterHandle (token : Nat) (interest : Interest)
  | deregisterHandle (token : Nat)
  | submitPoll (token : Nat) (waker : Waker) (interest : Interest) (submit : Enter)
  | submitCompletion (serial : Nat) (waker : Waker) (key : Nat) (built : Except IoError Unit) (submit : Enter)
  | getCompletionResult (token : Nat)
  | setCompletionWaker (token : Nat) (waker : Waker)
  | ignoreCompletion (token : Nat) (data : IgnoredData)

/-- The driver's state after the call.  A slab hands out vacant keys. -/
def uringCall (d : UringDriver) : UringCall → Option UringDriver
  | .registerHandleWithMode fd interest mode key =>
      if (d.registrations.get key).isNone then some (d.registerHandleWithMode fd interest mode key).2 else none
  | .reregisterHandle token interest => some (d.reregisterHandle token interest).2
  | .deregisterHandle token => some (d.deregisterHandle token).2
  | .submitPoll token waker interest submit => some (d.submitPoll token waker interest submit).2
  | .submitCompletion serial waker key built submit =>
      if (d.completions.get key).isNone then some (d.submitCompletion serial waker key built submit).2 else none
  | .getCompletionResult token => some (d.getCompletionResult token).2
  | .setCompletionWaker token waker => some (d.setCompletionWaker token waker)
  | .ignoreCompletion token data => some (d.ignoreCompletion token data)

/-- `UringDriver` as the runtime uses it.  On its own the kernel completes requests it
holds; it takes submission entries only when it is entered. -/
def uringDriver : DriverApi where
  State := UringDriver
  Call := UringCall
  Kernel := Nat × Int
  Env := UringDriver.CollectEnv
  call := uringCall
  kernel := fun d posted => some { d with ring := d.ring.post posted.1 posted.2 }
  shouldFlush := UringDriver.shouldFlush
  flush := fun d env => (d.flush env).map Prod.snd
  wait := fun d timeout env => (d.wait timeout env).map Prod.snd

/-- Unsubmitted entries in the submission queue, or undrained ones in the completion
queue. -/
def uringBacklog (d : UringDriver) : Bool := !d.ring.sq.isEmpty || !d.ring.cq.isEmpty

/-- `block_on` over the io_uring driver, watched. -/
def uringWatched : Machine (Watched uringDriver) (Label uringDriver) := watchedMachine (D := uringDriver) uringBacklog

/-- The verdicts on the iterations of a run. -/
def uringPasses (w : Watched uringDriver) (l : Label uringDriver) : Option Bool :=
  passesBy (D := uringDriver) uringBacklog w.runtime l

/-- A runtime with the default batch size over a new driver with one handle. -/
def uringRuntime : Watched uringDriver := ⟨.withOptions UringDriver.oneHandle 256, false, 0⟩

theorem start_uringRuntime : uringWatched.start uringRuntime := ⟨⟨UringDriver.oneHandle, 256, rfl⟩, rfl, rfl⟩

def submitRead : Label uringDriver := .call (.submitPoll 0 ⟨1⟩ .readable UringDriver.idleEnter)

/-- The root future asks for a read and is pending; the scheduler waits for it. -/
def readAndWait : List (Label uringDriver) :=
  [.enter, .advance, submitRead, .polled true, .advance, .advance, .advance, .advance, .advance,
    .advance, .advance, .advance, .advance, .spun false,
    .wait none ⟨UringDriver.idleEnter, ⟨2, [(1, 1)], .ok 2⟩, UringDriver.idleEnter⟩ false,
    .advance, .advance, .advance]

/-- An iteration in which the root future makes some calls and wakes itself, while no
task is ready. -/
def selfWakingPoll (calls : List (Label uringDriver)) : List (Label uringDriver) :=
  .advance :: (calls ++ [.localWakeRoot, .polled true, .advance, .advance, .advance, .advance, .advance])

/-- At the head of the loop, with the root flag up and no task. -/
def taskless (driver : UringDriver) (starved : Nat) : Watched uringDriver where
  runtime := { State.withOptions (D := uringDriver) driver 256 with ready := true, pc := .takeReady }
  served := false
  starved := starved

/-- Such an iteration comes back to where it was, and the driver was not served. -/
theorem selfWakingPoll_starves (driver : UringDriver) (k : Nat) (busy : uringBacklog driver = true) :
    uringWatched.exec (taskless driver k) (selfWakingPoll []) = some (taskless driver (k + 1)) := by
  simp [selfWakingPoll, Machine.exec, uringWatched, watchedMachine, Watched.step, State.step, taskless,
    State.withOptions, State.Free, State.advance, State.polled, State.drainReadyStep, State.pop, State.nextStage,
    State.endDrain, Pc.foreign, Label.serves, busy]

/-- **The driver is starved for as long as the root future likes.** -/
theorem selfWakingPolls_starve (driver : UringDriver) (busy : uringBacklog driver = true) (n k : Nat) :
    uringWatched.exec (taskless driver k) (List.replicate n (selfWakingPoll [])).flatten =
      some (taskless driver (k + n)) := by
  induction n generalizing k with
  | zero => rfl
  | succ n ih =>
      rw [List.replicate_succ, List.flatten_cons, Machine.exec_append]
      refine ⟨taskless driver (k + 1), selfWakingPoll_starves driver k busy, ?_⟩
      rw [ih (k + 1)]
      congr 2
      omega

/-- The driver after the root future has asked for a read. -/
def readSubmitted : UringDriver := (UringDriver.oneHandle.submitPoll 0 ⟨1⟩ .readable UringDriver.idleEnter).2

theorem first_poll_starves :
    uringWatched.exec uringRuntime (.enter :: selfWakingPoll [submitRead]) = some (taskless readSubmitted 1) := by
  rfl

end Vibeio.Executor
