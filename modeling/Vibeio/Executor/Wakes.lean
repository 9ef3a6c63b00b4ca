/-
# Executor.Wakes -- wakers that are taken out first and woken afterwards

A spin of the timer and a call of the driver collect wakers, and wake them one by one at the
place of the loop where they stand.  `target` says what each waker wakes.

* `Target.Reached`: the task of a waker is on its way to a poll, or the root future is flagged.
* `Target.Leaves`: a step that does not begin the poll which the wake has asked for, nor takes
  the wake back.  `Reached.step`: no other step undoes a wake.
* `wakeOne`: one waker of a collection.
-/
import Vibeio.Core
import Vibeio.Executor.Delivery

namespace Vibeio.Executor

open Vibeio.Theory

set_option autoImplicit false

/-- What a waker wakes: a task or the root future of this runtime, or something else. -/
inductive Target where
  | task (t : Task)
  | root
  | elsewhere
  deriving DecidableEq, Repr

variable {D : DriverApi}

/-- The loop on its own calls no driver, and only its head takes the flag of the root future
down. -/
theorem advance_frame {s s' : State D} (advances : State.Advance s s') :
    s'.driver = s.driver ∧ (s.pc ≠ .takeReady → s'.ready = s.ready) := by
  cases advances with
  | rootTaken here | rootIdle here => exact ⟨rfl, absurd here⟩
  | drain here =>
      rename_i stage budget
      cases budget with
      | zero => exact ⟨rfl, fun _ => rfl⟩
      | succ budget =>
          cases stage with
          | nextTask =>
              simp only [State.drainReadyStep, State.pop]
              cases s.nextTask <;> exact ⟨rfl, fun _ => rfl⟩
          | remoteQueue =>
              simp only [State.drainReadyStep, State.pop]
              cases s.remoteQueue <;> exact ⟨rfl, fun _ => rfl⟩
          | queue =>
              simp only [State.drainReadyStep, State.pop]
              cases s.queue <;> exact ⟨rfl, fun _ => rfl⟩
  | pollTasks here =>
      unfold State.pollNext
      split
      · exact ⟨rfl, fun _ => rfl⟩
      · split <;> exact ⟨rfl, fun _ => rfl⟩
  | _ => exact ⟨rfl, fun _ => rfl⟩

namespace Target

/-- A wake has had its effect. -/
def Reached (s : State D) : Target → Prop
  | .task t => s.Slated t
  | .root => s.ready = true
  | .elsewhere => True

/-- The step leaves what a wake has had for an effect. -/
def Leaves (s : State D) (l : Label D) : Target → Prop
  | .task t => s.Leaves t l
  | .root => ¬ (l = .advance ∧ s.pc = .takeReady)
  | .elsewhere => True

theorem ready_step {s s' : State D} {l : Label D} (ready : s.ready = true)
    (away : ¬ (l = .advance ∧ s.pc = .takeReady)) (stepped : s.step l = some s') : s'.ready = true := by
  cases State.step_cases stepped with
  | waker pc => cases pc <;> exact ready
  | localPush task =>
      unfold State.pushLocal
      split <;> exact ready
  | wakeRoot current =>
      show (s.ready || current) = true
      rw [ready, Bool.true_or]
  | localWakeRoot | enter => rfl
  | wakeTask | kernel | localWake | spawn | call | rootPending | rootDone | taskPolled | timersFired | blocks
  | wait | flush | unwind => exact ready
  | advance s' advances => exact ((advance_frame advances).2 fun here => away ⟨rfl, here⟩).trans ready

/-- **One step leaves a wake as it is**, unless it answers or revokes it. -/
theorem Reached.step {aim : Target} {s s' : State D} {l : Label D} (reached : aim.Reached s)
    (batched : s.Batched) (leaves : aim.Leaves s l) (stepped : s.step l = some s') : aim.Reached s' := by
  cases aim with
  | task t => exact State.Slated.step reached batched leaves stepped
  | root => exact ready_step reached leaves stepped
  | elsewhere => trivial

/-- Away from the head of the loop and its batch, every step does. -/
theorem leaves_of_unbatched {s : State D} (away : s.pc ≠ .takeReady) (unpolled : s.pc ≠ .pollTasks)
    (batch : s.batch = []) (l : Label D) (aim : Target) : aim.Leaves s l := by
  cases aim with
  | task t =>
      refine ⟨fun begins => unpolled begins.2.1, fun drops => ?_⟩
      have member := drops.2
      rw [batch] at member
      cases member
  | root => exact fun head => away head.2
  | elsewhere => trivial

end Target

/-- Wake one of the wakers. -/
def State.wakeOne (target : Waker → Target) (s : State D) (waker : Waker) : Option (State D) :=
  match target waker with
  | .task t => s.step (.localWake t)
  | .root => s.step .localWakeRoot
  | .elsewhere => some s

/-- What that does: nothing to this runtime, or the first half of a wake. -/
structure Wakes (target : Waker → Target) (s s' : State D) (waker : Waker) : Prop where
  moved : s' = s ∨ ∃ l, s.step l = some s' ∧ s.pc.foreign = true ∧ ∀ aim : Target, aim.Leaves s l
  pc : s'.pc = s.pc
  driver : s'.driver = s.driver
  reached : (target waker).Reached s'

variable {target : Waker → Target}

theorem wakes_of_wakeOne {s s' : State D} {waker : Waker} (reachable : (machine D).Reachable s)
    (woke : s.wakeOne target waker = some s') : Wakes target s s' waker := by
  unfold State.wakeOne at woke
  have bystander : ∀ {l : Label D}, l ≠ .advance → l ≠ .unwind → ∀ aim : Target, aim.Leaves s l := by
    intro l advances unwinds aim
    cases aim with
    | task t => exact ⟨fun begins => advances begins.1, fun drops => unwinds drops.1⟩
    | root => exact fun head => advances head.1
    | elsewhere => trivial
  cases aim : target waker with
  | task t =>
      simp only [aim] at woke
      have reached : s'.Slated t :=
        State.slated_of_calls (l := .localWake t) (State.balanced_of_reachable reachable) (.inl rfl) woke
      have leaves : ∀ aim : Target, aim.Leaves s (.localWake t) := bystander (by rintro ⟨⟩) (by rintro ⟨⟩)
      cases State.step_cases woke with
      | localWake t free foreign => exact ⟨.inr ⟨_, woke, foreign, leaves⟩, rfl, rfl, aim ▸ reached⟩
  | root =>
      simp only [aim] at woke
      have leaves : ∀ aim : Target, aim.Leaves s .localWakeRoot := bystander (by rintro ⟨⟩) (by rintro ⟨⟩)
      cases State.step_cases woke with
      | localWakeRoot foreign =>
          have reached : Target.root.Reached { s with ready := true } := rfl
          exact ⟨.inr ⟨_, woke, foreign, leaves⟩, rfl, rfl, aim ▸ reached⟩
  | elsewhere =>
      simp only [aim, Option.some.injEq] at woke
      subst woke
      have reached : Target.elsewhere.Reached s := trivial
      exact ⟨.inl rfl, rfl, rfl, aim ▸ reached⟩

/-- A wake that was there stays there while another waker is woken. -/
theorem Wakes.keeps {s s' : State D} {waker : Waker} (wakes : Wakes target s s' waker) (batched : s.Batched)
    {aim : Target} (reached : aim.Reached s) : aim.Reached s' := by
  rcases wakes.moved with rfl | ⟨l, stepped, -, leaves⟩
  · exact reached
  · exact reached.step batched (leaves aim) stepped

theorem Wakes.reachable {s s' : State D} {waker : Waker} (wakes : Wakes target s s' waker)
    (reachable : (machine D).Reachable s) : (machine D).Reachable s' := by
  rcases wakes.moved with rfl | ⟨l, stepped, -⟩
  · exact reachable
  · exact .next (machine D) reachable stepped

end Vibeio.Executor
