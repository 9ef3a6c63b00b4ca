/-
# Executor.MainQueue -- who gets to the main queue

`drain_ready` fills a batch from the inline queue first and from the main queue last, and
every task it polls may put itself back into the inline queue.  What is left of a batch
for the main queue depends on how the batch size and the capacity of the inline queue
compare.

* `QueueWatch` runs the runtime with ghosts beside it: for how many drains in a row the
  main queue had a head that stayed there, how many drains there were, and which tasks
  were polled.
* `Fair`: with a batch larger than the inline queue, and tasks woken on the thread of the
  scheduler only, no drain passes the main queue by.
* `Awaits`: so a task in the main queue is polled at the latest in the second drain after
  as many as there are tasks before it.
* `Crowd`: with a smaller batch, as many tasks that wake themselves keep everybody else
  out for good.
* `no_starvation_iff`: the capacity of the inline queue is the exact bound.
-/
import Vibeio.Executor.ReadyQueue

namespace Vibeio.Executor

open Vibeio.Theory

set_option autoImplicit false

section Watch

variable {D : DriverApi}

/-- The ghosts: `contended` and `served` are about the latest drain, whether the main queue
had a head at its beginning and whether that was drained.  `polls` has the latest first. -/
structure QueueWatch (D : DriverApi) where
  runtime : State D
  contended : Bool
  served : Bool
  passed : Nat
  drains : Nat
  polls : List Task

namespace QueueWatch

def new (driver : D.State) (batchSize : Nat) : QueueWatch D :=
  ⟨.withOptions driver batchSize, false, false, 0, 0, []⟩

/-- The ghosts beside a step of the runtime to `next`. -/
def watch (w : QueueWatch D) (l : Label D) (next : State D) : QueueWatch D :=
  match l, w.runtime.pc with
  | .advance, .spinTimer =>
      { w with runtime := next, contended := !w.runtime.queue.isEmpty, served := false, drains := w.drains + 1 }
  | .advance, .drain _ _ =>
      match next.pc with
      | .markDequeued _ .queue _ => { w with runtime := next, served := true }
      | .markDequeued _ _ _ | .drain _ _ => { w with runtime := next }
      | _ => { w with runtime := next, passed := if w.contended && !w.served then w.passed + 1 else 0 }
  | .advance, .pollTasks =>
      match next.pc with
      | .pollTask task => { w with runtime := next, polls := task :: w.polls }
      | _ => { w with runtime := next }
  | _, _ => { w with runtime := next }

def step (w : QueueWatch D) (l : Label D) : Option (QueueWatch D) := (w.runtime.step l).map (w.watch l)

end QueueWatch

/-- The runtime of a builder with this batch size, over any driver. -/
def queueMachine (D : DriverApi) (batchSize : Nat) : Machine (QueueWatch D) (Label D) where
  start w := ∃ driver, w = .new driver batchSize
  step := QueueWatch.step

/-- Tasks are woken on the thread of the scheduler. -/
def Label.isLocal : Label D → Bool
  | .wakeTask _ => false
  | _ => true

/-- Nor does a future panic, which would end the call of `block_on`. -/
def Label.isCalm : Label D → Bool
  | .wakeTask _ | .unwind => false
  | _ => true

/-- **What is asked of a batch size**: while all wakes are local, the main queue is passed by
at most as often in a row as the inline queue has places, and once more; and a task in the
main queue that is not being polled is polled soon, later the more there are before it. -/
def NoStarvation (batchSize : Nat) : Prop :=
  ∀ (D : DriverApi) (first : QueueWatch D) (labels : List (Label D)) (w : QueueWatch D),
    (queueMachine D batchSize).start first → (∀ l ∈ labels, l.isLocal = true) →
    (queueMachine D batchSize).exec first labels = some w →
    w.passed ≤ NEXT_TASK_INLINE_CAP + 1 ∧
      ∀ (task : Task) (ahead behind : List Task) (later : List (Label D)) (w' : QueueWatch D),
        w.runtime.queue = ahead ++ task :: behind → w.runtime.hasFuture task = true →
        w.runtime.pc ≠ .pollTask task → (∀ l ∈ later, l.isCalm = true) →
        (queueMachine D batchSize).exec w later = some w' → w.drains + ahead.length + 2 ≤ w'.drains →
        ∃ recent, w'.polls = recent ++ w.polls ∧ task ∈ recent

/-! ## A batch larger than the inline queue -/

/-- The scheduler is in `drain_ready`. -/
def Pc.draining : Pc → Bool
  | .drain .. | .markDequeued .. => true
  | _ => false

/-- There may be tasks in the batch. -/
def Pc.batching : Pc → Bool
  | .drain .. | .markDequeued .. | .pollTasks | .pollTask _ => true
  | _ => false

namespace QueueWatch

/-- The main queue has not had its turn, and stands as it stood at the beginning. -/
def Waits (w : QueueWatch D) : Prop := w.served = false ∧ w.contended = !w.runtime.queue.isEmpty

/-- What is left of the budget is more than the inline queue holds, until the main queue has
had its turn. -/
def Budgeted (w : QueueWatch D) : Prop :=
  match w.runtime.pc with
  | .drain .nextTask budget | .markDequeued _ .nextTask budget => w.runtime.nextTask.length < budget ∧ w.Waits
  | .drain .remoteQueue budget => 0 < budget ∧ w.Waits
  | .markDequeued _ .remoteQueue _ => False
  | .drain .queue budget => w.served = true ∨ 0 < budget ∧ w.Waits
  | .markDequeued _ .queue _ => w.served = true
  | _ => True

end QueueWatch

structure Fair (w : QueueWatch D) : Prop where
  large : NEXT_TASK_INLINE_CAP < w.runtime.batchSize
  remote : w.runtime.remoteQueue = []
  pushes : ∀ task, .push task ∉ w.runtime.wakers
  inline : w.runtime.nextTask.length ≤ NEXT_TASK_INLINE_CAP
  held : w.runtime.pc.foreign = false → w.runtime.localWake = none
  budgeted : w.Budgeted
  batch : w.runtime.pc.batching = false → w.runtime.batch = []
  passed : w.passed = 0

theorem Fair.new (driver : D.State) {batchSize : Nat} (large : NEXT_TASK_INLINE_CAP < batchSize) :
    Fair (QueueWatch.new driver batchSize) where
  large := large
  remote := rfl
  pushes _ := List.not_mem_nil
  inline := Nat.zero_le _
  held _ := rfl
  budgeted := trivial
  batch _ := rfl
  passed := rfl

theorem QueueWatch.budgeted_plain {w : QueueWatch D} (plain : w.runtime.pc.draining = false) : w.Budgeted := by
  unfold QueueWatch.Budgeted
  split
  case h_7 => trivial
  all_goals
    rename_i here
    rw [here] at plain
    cases plain

/-! ### What a step leaves alone -/

/-- The labels of the scheduler thread that find no wake half done. -/
def Label.isOwn : Label D → Bool
  | .wakeTask _ | .wakeRoot _ | .waker _ | .kernel _ | .localPush => false
  | _ => true

theorem State.free_of_step {s s' : State D} {l : Label D} (own : l.isOwn = true) (stepped : s.step l = some s') :
    s.localWake = none := by
  cases l <;> simp only [Label.isOwn, Bool.false_eq_true] at own <;>
    simp only [State.step, Option.ite_none_right_eq_some] at stepped
  case localWake | localWakeRoot | spawn | call | enter | spun | wait | flush | unwind => exact stepped.1.1
  case polled | advance => exact stepped.1

/-- While wakes are local. -/
structure Keeps (s s' : State D) : Prop where
  batchSize : s'.batchSize = s.batchSize
  remote : s.remoteQueue = [] → s'.remoteQueue = []
  pushes : (∀ task, .push task ∉ s.wakers) → ∀ task, .push task ∉ s'.wakers

theorem keeps_drainReadyStep (s : State D) (stage : Stage) (budget : Nat) :
    Keeps s (s.drainReadyStep stage budget) ∧ (s.drainReadyStep stage budget).localWake = s.localWake ∧
      (s.drainReadyStep stage budget).batch = s.batch := by
  cases budget with
  | zero => exact ⟨⟨rfl, id, id⟩, rfl, rfl⟩
  | succ budget =>
      cases stage with
      | nextTask =>
          simp only [State.drainReadyStep, State.pop]
          cases s.nextTask with
          | nil => exact ⟨⟨rfl, id, id⟩, rfl, rfl⟩
          | cons task rest => exact ⟨⟨rfl, id, id⟩, rfl, rfl⟩
      | remoteQueue =>
          simp only [State.drainReadyStep, State.pop]
          cases here : s.remoteQueue with
          | nil => exact ⟨⟨rfl, id, id⟩, rfl, rfl⟩
          | cons task rest => exact ⟨⟨rfl, fun empty => by (rw [here] at empty; cases empty), id⟩, rfl, rfl⟩
      | queue =>
          simp only [State.drainReadyStep, State.pop]
          cases s.queue with
          | nil => exact ⟨⟨rfl, id, id⟩, rfl, rfl⟩
          | cons task rest => exact ⟨⟨rfl, id, id⟩, rfl, rfl⟩

theorem keeps_pollNext (s : State D) : Keeps s s.pollNext ∧ s.pollNext.localWake = s.localWake := by
  unfold State.pollNext
  split
  · exact ⟨⟨rfl, id, id⟩, rfl⟩
  · split <;> exact ⟨⟨rfl, id, id⟩, rfl⟩

theorem keeps_advance {s s' : State D} (advances : State.Advance s s') :
    Keeps s s' ∧ s'.localWake = s.localWake := by
  cases advances with
  | drain here =>
      obtain ⟨keeps, held, -⟩ := keeps_drainReadyStep s _ _
      exact ⟨keeps, held⟩
  | pollTasks here => exact keeps_pollNext s
  | _ => exact ⟨⟨rfl, id, id⟩, rfl⟩

theorem keeps_wakerStep (s : State D) {pc : WakerPc} (here : pc ∈ s.wakers)
    (pushes : ∀ task, .push task ∉ s.wakers) :
    Keeps s (s.wakerStep pc) ∧ (s.wakerStep pc).localWake = s.localWake := by
  have kept : ∀ (next : Option WakerPc) task, (∀ task, some (.push task) ≠ next) →
      .push task ∉ next.toList ++ s.wakers.erase pc := by
    intro next task other member
    rcases List.mem_append.mp member with front | back
    · exact other task (Option.mem_toList.mp front).symm
    · exact pushes task (List.mem_of_mem_erase back)
  cases pc with
  | push task => exact absurd here (pushes task)
  | loadWaiting =>
      refine ⟨⟨rfl, id, fun _ task => kept _ task ?_⟩, rfl⟩
      intro other
      split <;> simp
  | swapPending =>
      refine ⟨⟨rfl, id, fun _ task => kept _ task ?_⟩, rfl⟩
      intro other
      split <;> simp
  | interrupt => exact ⟨⟨rfl, id, fun _ task => kept _ task (by simp)⟩, rfl⟩

/-- A wake on another thread moves nothing of the scheduler's. -/
theorem wakerStep_frame (s : State D) (pc : WakerPc) :
    (s.wakerStep pc).pc = s.pc ∧ (s.wakerStep pc).nextTask = s.nextTask ∧ (s.wakerStep pc).queue = s.queue ∧
      (s.wakerStep pc).batch = s.batch ∧ (s.wakerStep pc).hasFuture = s.hasFuture := by
  cases pc <;> exact ⟨rfl, rfl, rfl, rfl, rfl⟩

theorem keeps_pushLocal (s : State D) (task : Task) :
    Keeps s (s.pushLocal task) ∧ (s.pushLocal task).localWake = none ∧ (s.pushLocal task).pc = s.pc ∧
      (s.pushLocal task).batch = s.batch := by
  unfold State.pushLocal
  split <;> exact ⟨⟨rfl, id, id⟩, rfl, rfl, rfl⟩

theorem keeps_step {s s' : State D} {l : Label D} (islocal : l.isLocal = true) (stepped : s.step l = some s')
    (pushes : ∀ task, .push task ∉ s.wakers) : Keeps s s' := by
  cases State.step_cases stepped with
  | wakeTask => cases islocal
  | wakeRoot current => exact ⟨rfl, id, fun _ task => by simpa [State.wakeByRefRemote] using pushes task⟩
  | waker pc here => exact (keeps_wakerStep s here pushes).1
  | localPush task held => exact (keeps_pushLocal s task).1
  | advance s' advances => exact (keeps_advance advances).1
  | _ => exact ⟨rfl, id, id⟩

/-- A wake half done keeps the scheduler where it is, in code of the futures. -/
theorem held_step {s s' : State D} {l : Label D} (stepped : s.step l = some s')
    (pushes : ∀ task, .push task ∉ s.wakers) (islocal : l.isLocal = true)
    (held : s.pc.foreign = false → s.localWake = none) : s'.pc.foreign = false → s'.localWake = none := by
  cases State.step_cases stepped with
  | wakeTask => cases islocal
  | wakeRoot | kernel => exact held
  | waker pc here =>
      obtain ⟨-, same⟩ := keeps_wakerStep s here pushes
      rw [(wakerStep_frame s pc).1, same]
      exact held
  | localWake task free foreign known =>
      intro away
      have same : s.pc.foreign = false := away
      rw [foreign] at same
      cases same
  | localPush task half => exact fun _ => (keeps_pushLocal s task).2.1
  | advance s' advances =>
      intro _
      rw [(keeps_advance advances).2]
      exact State.free_of_step rfl stepped
  | _ => exact fun _ => State.free_of_step (s := s) rfl stepped

theorem inline_step {s s' : State D} {l : Label D} (stepped : s.step l = some s') : State.Inline s s' := by
  cases State.step_tokens stepped with
  | moved _ _ _ _ inline => exact inline
  | popped _ _ _ _ _ _ inline => exact inline
  | raised _ _ _ _ _ _ _ inline => exact inline
  | marked _ _ _ _ _ _ inline => exact inline

/-! ### Every step is fair -/

/-- What remains to be shown of a step: the budget, the batch and the count. -/
theorem Fair.next {w g : QueueWatch D} {l : Label D} (fair : Fair w) (islocal : l.isLocal = true)
    (stepped : w.runtime.step l = some g.runtime) (budgeted : g.Budgeted)
    (batch : g.runtime.pc.batching = false → g.runtime.batch = []) (passed : g.passed = 0) : Fair g := by
  have keeps := keeps_step islocal stepped fair.pushes
  refine ⟨?_, keeps.remote fair.remote, keeps.pushes fair.pushes, inline_step stepped fair.inline,
    held_step stepped fair.pushes islocal fair.held, budgeted, batch, passed⟩
  rw [keeps.batchSize]
  exact fair.large

/-- A step that leaves the scheduler and its queues where they are. -/
theorem Fair.still {w : QueueWatch D} {l : Label D} {next : State D} (fair : Fair w) (islocal : l.isLocal = true)
    (stepped : w.runtime.step l = some next) (pc : next.pc = w.runtime.pc)
    (nextTask : next.nextTask = w.runtime.nextTask) (queue : next.queue = w.runtime.queue)
    (batch : next.batch = w.runtime.batch) : Fair { w with runtime := next } := by
  refine fair.next islocal stepped ?_ ?_ fair.passed
  · have budgeted := fair.budgeted
    unfold QueueWatch.Budgeted QueueWatch.Waits at budgeted ⊢
    simp only [pc, nextTask, queue]
    exact budgeted
  · simp only [pc, batch]
    exact fair.batch

/-- A step to a place outside the drain. -/
theorem Fair.plain {w : QueueWatch D} {l : Label D} {next : State D} (fair : Fair w) (islocal : l.isLocal = true)
    (stepped : w.runtime.step l = some next) (plain : next.pc.draining = false)
    (batch : next.pc.batching = false → next.batch = []) : Fair { w with runtime := next } :=
  fair.next islocal stepped (QueueWatch.budgeted_plain plain) batch fair.passed

theorem Pc.draining_of_foreign {pc : Pc} (foreign : pc.foreign = true) : pc.draining = false := by
  cases pc <;> first | rfl | cases foreign

/-- Nothing is in the batch at a place where there cannot be anything, and a step to another
such place leaves it so. -/
theorem Fair.batch_same {w : QueueWatch D} {next : State D} (fair : Fair w) (away : w.runtime.pc.batching = false)
    (batch : next.batch = w.runtime.batch) : next.pc.batching = false → next.batch = [] :=
  fun _ => batch.trans (fair.batch away)

/-- `drain_ready` returns to one of two places, and an empty batch goes to the first. -/
theorem endDrain_place (s : State D) :
    s.endDrain.pc = .checkReady ∧ s.endDrain.batch = [] ∨ s.endDrain.pc = .pollTasks := by
  unfold State.endDrain
  cases s.batch with
  | nil => exact .inl ⟨rfl, rfl⟩
  | cons task rest => exact .inr rfl

theorem watch_endDrain {w : QueueWatch D} {stage : Stage} {budget : Nat}
    (here : w.runtime.pc = .drain stage budget) :
    w.watch .advance w.runtime.endDrain = { w with
      runtime := w.runtime.endDrain
      passed := if w.contended && !w.served then w.passed + 1 else 0 } := by
  rcases endDrain_place w.runtime with ⟨place, -⟩ | place <;> simp only [QueueWatch.watch, here, place]

/-- The drain ends after the main queue had its turn, or had nothing to give. -/
theorem Fair.endDrain {w : QueueWatch D} (fair : Fair w) {stage : Stage} {budget : Nat}
    (here : w.runtime.pc = .drain stage budget) (stepped : w.runtime.step .advance = some w.runtime.endDrain)
    (turn : w.served = true ∨ w.contended = false) : Fair (w.watch .advance w.runtime.endDrain) := by
  have place := endDrain_place w.runtime
  rw [watch_endDrain here]
  refine fair.next rfl stepped (QueueWatch.budgeted_plain ?_) ?_ ?_
  · rcases place with ⟨place, -⟩ | place <;> simp only [place] <;> rfl
  · rcases place with ⟨-, empty⟩ | place
    · exact fun _ => empty
    · intro away
      simp only [place] at away
      cases away
  · rcases turn with served | calm
    · simp [served]
    · simp [calm]

/-- A step of the drain: the main queue is reached before the budget is used up. -/
theorem Fair.drain {w : QueueWatch D} (fair : Fair w) {stage : Stage} {budget : Nat}
    (here : w.runtime.pc = .drain stage budget)
    (stepped : w.runtime.step .advance = some (w.runtime.drainReadyStep stage budget)) :
    Fair (w.watch .advance (w.runtime.drainReadyStep stage budget)) := by
  have budgeted := fair.budgeted
  unfold QueueWatch.Budgeted at budgeted
  rw [here] at budgeted
  cases stage with
  | nextTask =>
      obtain ⟨room, waits⟩ := budgeted
      cases budget with
      | zero => exact absurd room (Nat.not_lt_zero _)
      | succ budget =>
          simp only [State.drainReadyStep, State.pop] at stepped ⊢
          cases queued : w.runtime.nextTask with
          | nil =>
              simp only [queued, QueueWatch.watch, here, State.nextStage] at stepped ⊢
              exact fair.next rfl stepped ⟨Nat.succ_pos _, waits⟩ (fun away => by cases away) fair.passed
          | cons task rest =>
              simp only [queued, QueueWatch.watch, here] at stepped ⊢
              rw [queued, List.length_cons] at room
              have less := Nat.lt_of_succ_lt_succ room
              exact fair.next rfl stepped ⟨less, waits⟩ (fun away => by cases away) fair.passed
  | remoteQueue =>
      obtain ⟨room, waits⟩ := budgeted
      cases budget with
      | zero => exact absurd room (Nat.not_lt_zero _)
      | succ budget =>
          simp only [State.drainReadyStep, State.pop, fair.remote, QueueWatch.watch, here, State.nextStage]
            at stepped ⊢
          exact fair.next rfl stepped (.inr ⟨room, waits⟩) (fun away => by cases away) fair.passed
  | queue =>
      cases budget with
      | zero =>
          rcases budgeted with served | ⟨room, -⟩
          · exact fair.endDrain here stepped (.inl served)
          · exact absurd room (Nat.not_lt_zero _)
      | succ budget =>
          simp only [State.drainReadyStep, State.pop] at stepped ⊢
          cases queued : w.runtime.queue with
          | nil =>
              simp only [queued, State.nextStage] at stepped ⊢
              refine fair.endDrain here stepped ?_
              rcases budgeted with served | ⟨-, -, contended⟩
              · exact .inl served
              · exact .inr (contended.trans (by rw [queued]; rfl))
          | cons task rest =>
              simp only [queued, QueueWatch.watch, here] at stepped ⊢
              exact fair.next rfl stepped rfl (fun away => by cases away) fair.passed

theorem Fair.markDequeued {w : QueueWatch D} (fair : Fair w) {task : Task} {stage : Stage} {budget : Nat}
    (here : w.runtime.pc = .markDequeued task stage budget)
    (stepped : w.runtime.step .advance = some (w.runtime.markDequeued task stage budget)) :
    Fair (w.watch .advance (w.runtime.markDequeued task stage budget)) := by
  have budgeted := fair.budgeted
  unfold QueueWatch.Budgeted at budgeted
  rw [here] at budgeted
  have watched : w.watch .advance (w.runtime.markDequeued task stage budget) =
      { w with runtime := w.runtime.markDequeued task stage budget } := by
    simp only [QueueWatch.watch, here]
  rw [watched]
  refine fair.next rfl stepped ?_ (fun away => by cases away) fair.passed
  cases stage with
  | nextTask => exact budgeted
  | remoteQueue => exact absurd budgeted id
  | queue => exact .inl budgeted

theorem Fair.pollNext {w : QueueWatch D} (fair : Fair w) (here : w.runtime.pc = .pollTasks)
    (stepped : w.runtime.step .advance = some w.runtime.pollNext) :
    Fair (w.watch .advance w.runtime.pollNext) := by
  unfold State.pollNext at stepped ⊢
  cases batched : w.runtime.batch with
  | nil =>
      simp only [batched, QueueWatch.watch, here] at stepped ⊢
      exact fair.plain rfl stepped rfl (fun _ => rfl)
  | cons task rest =>
      simp only [batched] at stepped ⊢
      by_cases hasFuture : w.runtime.hasFuture task = true
      · simp only [if_pos hasFuture, QueueWatch.watch, here] at stepped ⊢
        exact fair.next rfl stepped (QueueWatch.budgeted_plain rfl) (fun away => by cases away) fair.passed
      · simp only [if_neg hasFuture, QueueWatch.watch, here] at stepped ⊢
        exact fair.plain rfl stepped rfl (fun away => by cases away)

theorem Fair.advance {w : QueueWatch D} {next : State D} (fair : Fair w)
    (stepped : w.runtime.step .advance = some next) (advances : State.Advance w.runtime next) :
    Fair (w.watch .advance next) := by
  cases advances with
  | spinTimer here =>
      simp only [QueueWatch.watch, here]
      refine fair.next rfl stepped ⟨?_, rfl, rfl⟩ (fun away => by cases away) fair.passed
      exact Nat.lt_of_le_of_lt fair.inline fair.large
  | drain here => exact fair.drain here stepped
  | markDequeued here => exact fair.markDequeued here stepped
  | pollTasks here => exact fair.pollNext here stepped
  | rootTaken here | rootIdle here | readyAgain here | notReady here | resetPending here | setWaiting here
  | readyLate here | stillNotReady here | skips here | stays here | timersWoken here | waited here
  | stopWaiting here | clearPending here | noFlush here | flushed here =>
      simp only [QueueWatch.watch, here]
      exact fair.plain rfl stepped rfl (fair.batch_same (by simp only [here]; rfl) rfl)

/-- What one step preserves. -/
theorem Fair.step {w w' : QueueWatch D} {l : Label D} (fair : Fair w) (islocal : l.isLocal = true)
    (stepped : w.step l = some w') : Fair w' := by
  obtain ⟨next, moved, rfl⟩ := Option.map_eq_some_iff.mp stepped
  cases State.step_cases moved with
  | wakeTask => cases islocal
  | wakeRoot | kernel | localWake | localWakeRoot | call => exact fair.still rfl moved rfl rfl rfl rfl
  | waker pc here =>
      obtain ⟨pcs, nextTask, queue, batch, -⟩ := wakerStep_frame w.runtime pc
      exact fair.still rfl moved pcs nextTask queue batch
  | localPush task held =>
      obtain ⟨-, -, pc, batch⟩ := keeps_pushLocal w.runtime task
      have foreign : w.runtime.pc.foreign = true := by
        by_contra away
        rw [fair.held (Bool.eq_false_iff.mpr away)] at held
        cases held
      refine fair.plain rfl moved ?_ ?_
      · rw [pc]
        exact Pc.draining_of_foreign foreign
      · rw [pc, batch]
        exact fair.batch
  | spawn foreign => exact fair.plain rfl moved (Pc.draining_of_foreign foreign) fair.batch
  | enter here | rootPending here | rootDone here | timersFired here | blocks here | wait _ _ _ _ here
  | flush _ _ _ here => exact fair.plain rfl moved rfl (fair.batch_same (by rw [here]; rfl) rfl)
  | taskPolled task pending here => exact fair.plain rfl moved rfl (fun away => by cases away)
  | unwind => exact fair.plain rfl moved rfl (fun _ => rfl)
  | advance s' advances => exact fair.advance moved advances

/-- What a whole run preserves. -/
theorem Fair.exec {batchSize : Nat} {w w' : QueueWatch D} {labels : List (Label D)} (fair : Fair w)
    (islocal : ∀ l ∈ labels, l.isLocal = true) (ran : (queueMachine D batchSize).exec w labels = some w') :
    Fair w' := by
  induction labels generalizing w with
  | nil =>
      cases ran
      exact fair
  | cons l rest ih =>
      obtain ⟨next, stepped, onward⟩ := Machine.exec_cons _ |>.mp ran
      have first := fair.step (islocal l List.mem_cons_self) stepped
      exact ih first (fun k member => islocal k (List.mem_cons_of_mem l member)) onward

/-! ## The turn of a task -/

namespace QueueWatch

/-- The drain under way has yet to take the head of the main queue. -/
def owed (w : QueueWatch D) : Nat := if w.runtime.pc.draining && !w.served then 1 else 0

theorem owed_plain {w : QueueWatch D} (plain : w.runtime.pc.draining = false) : w.owed = 0 := by
  simp [owed, plain]

end QueueWatch

/-- Where a task waits, to be drained in the drain after `bound` at the latest. -/
inductive Place (task : Task) (bound : Nat) (w : QueueWatch D) : Prop where
  | queued (ahead behind : List Task) (here : w.runtime.queue = ahead ++ task :: behind)
      (rank : ahead.length + w.drains ≤ bound + w.owed)
  | held (near : task ∈ w.runtime.batch ∨ w.runtime.pc.popped = some task) (soon : w.drains ≤ bound + 1)

structure Awaits (task : Task) (bound : Nat) (w : QueueWatch D) : Prop where
  idle : w.runtime.hasFuture task = true
  away : w.runtime.pc ≠ .pollTask task
  place : Place task bound w

/-- A step that takes the task no further. -/
theorem Awaits.stay {w w' : QueueWatch D} {task : Task} {bound : Nat} (awaits : Awaits task bound w)
    (idle : w'.runtime.hasFuture task = true) (away : w'.runtime.pc ≠ .pollTask task)
    (queue : w.runtime.queue <+: w'.runtime.queue) (batch : task ∈ w.runtime.batch → task ∈ w'.runtime.batch)
    (popped : w.runtime.pc.popped = some task → w'.runtime.pc.popped = some task) (drains : w'.drains = w.drains)
    (owed : w.owed ≤ w'.owed) : Awaits task bound w' := by
  refine ⟨idle, away, ?_⟩
  cases awaits.place with
  | queued ahead behind here rank =>
      obtain ⟨more, longer⟩ := queue
      refine .queued ahead (behind ++ more) ?_ ?_
      · rw [← longer, here, List.append_assoc, List.cons_append]
      · rw [drains]
        exact Nat.le_trans rank (Nat.add_le_add_left owed bound)
  | held near soon => exact .held (near.imp batch popped) (drains ▸ soon)

/-- A step from a place outside the drain. -/
theorem Awaits.plain {w : QueueWatch D} {next : State D} {task : Task} {bound : Nat} (awaits : Awaits task bound w)
    (plain : w.runtime.pc.draining = false) (idle : next.hasFuture task = true) (away : next.pc ≠ .pollTask task)
    (queue : w.runtime.queue <+: next.queue) (batch : task ∈ w.runtime.batch → task ∈ next.batch) :
    Awaits task bound { w with runtime := next } := by
  refine awaits.stay idle away queue batch ?_ rfl ?_
  · intro popped
    cases here : w.runtime.pc <;> simp [here, Pc.draining, Pc.popped] at plain popped
  · rw [QueueWatch.owed_plain plain]
    exact Nat.zero_le _

/-- A step that leaves the scheduler where it is. -/
theorem Awaits.still {w : QueueWatch D} {next : State D} {task : Task} {bound : Nat} (awaits : Awaits task bound w)
    (pc : next.pc = w.runtime.pc) (hasFuture : next.hasFuture = w.runtime.hasFuture)
    (queue : next.queue = w.runtime.queue) (batch : next.batch = w.runtime.batch) :
    Awaits task bound { w with runtime := next } := by
  refine awaits.stay ?_ ?_ ?_ ?_ ?_ rfl ?_
  · simp only [hasFuture]
    exact awaits.idle
  · simp only [pc]
    exact awaits.away
  · simp only [queue]
    exact List.prefix_rfl
  · simp only [batch]
    exact id
  · simp only [pc]
    exact id
  · simp only [QueueWatch.owed, pc]
    exact Nat.le_refl _

/-- A drain begins: the main queue is owed its turn. -/
theorem Awaits.spinTimer {w : QueueWatch D} {task : Task} {bound : Nat} (awaits : Awaits task bound w)
    (fair : Fair w) (here : w.runtime.pc = .spinTimer) :
    Awaits task bound
      (w.watch .advance { w.runtime with batch := [], pc := .drain .nextTask w.runtime.batchSize }) := by
  simp only [QueueWatch.watch, here]
  refine ⟨awaits.idle, Pc.noConfusion, ?_⟩
  cases awaits.place with
  | queued ahead behind queued rank =>
      refine .queued ahead behind queued ?_
      have before : w.owed = 0 := QueueWatch.owed_plain (by rw [here]; rfl)
      rw [before] at rank
      exact Nat.succ_le_succ rank
  | held near soon =>
      have empty : w.runtime.batch = [] := fair.batch (by rw [here]; rfl)
      rw [empty, here] at near
      rcases near with member | popped
      · cases member
      · cases popped

/-- The drain ends, and the main queue had its turn. -/
theorem Awaits.endDrain {w : QueueWatch D} {task : Task} {bound : Nat} {stage : Stage} {budget : Nat}
    (awaits : Awaits task bound w) (here : w.runtime.pc = .drain stage budget)
    (turn : w.served = true ∨ w.runtime.queue = []) : Awaits task bound (w.watch .advance w.runtime.endDrain) := by
  rw [watch_endDrain here]
  refine ⟨awaits.idle, ?_, ?_⟩
  · rcases endDrain_place w.runtime with ⟨place, -⟩ | place <;> simp only [place] <;> exact Pc.noConfusion
  · cases awaits.place with
    | queued ahead behind queued rank =>
        refine .queued ahead behind queued ?_
        have done : w.owed = 0 := by
          rcases turn with served | empty
          · simp [QueueWatch.owed, served]
          · rw [empty] at queued
            cases ahead <;> cases queued
        rw [done] at rank
        exact Nat.le_trans rank (Nat.le_add_right _ _)
    | held near soon =>
        rw [here] at near
        exact .held (.inl (near.resolve_right (fun popped => by cases popped))) soon

/-- A step of the drain at another queue. -/
theorem Awaits.passing {w : QueueWatch D} {next : State D} {task : Task} {bound : Nat} {stage : Stage}
    {budget : Nat} (awaits : Awaits task bound w) (here : w.runtime.pc = .drain stage budget) (draining : next.pc.draining = true)
    (hasFuture : next.hasFuture = w.runtime.hasFuture) (queue : next.queue = w.runtime.queue)
    (batch : next.batch = w.runtime.batch) : Awaits task bound { w with runtime := next } := by
  refine awaits.stay ?_ ?_ ?_ ?_ ?_ rfl ?_
  · exact (congrFun hasFuture task).trans awaits.idle
  · intro polled
    have elsewhere : next.pc = .pollTask task := polled
    rw [elsewhere] at draining
    cases draining
  · exact queue ▸ List.prefix_rfl
  · exact fun member => batch.symm ▸ member
  · rw [here]
    exact fun popped => by cases popped
  · simp only [QueueWatch.owed, here, draining]
    exact Nat.le_refl _

/-- A step of the drain: the head of the main queue is taken. -/
theorem Awaits.drain {w : QueueWatch D} {task : Task} {bound : Nat} {stage : Stage} {budget : Nat}
    (awaits : Awaits task bound w) (fair : Fair w) (here : w.runtime.pc = .drain stage budget) :
    Awaits task bound (w.watch .advance (w.runtime.drainReadyStep stage budget)) := by
  have unpopped : w.runtime.pc.popped = some task → False := by
    rw [here]
    exact fun popped => by cases popped
  have budgeted := fair.budgeted
  unfold QueueWatch.Budgeted at budgeted
  rw [here] at budgeted
  cases stage with
  | nextTask =>
      cases budget with
      | zero => exact absurd budgeted.1 (Nat.not_lt_zero _)
      | succ budget =>
          simp only [State.drainReadyStep, State.pop]
          cases w.runtime.nextTask with
          | nil =>
              simp only [QueueWatch.watch, here, State.nextStage]
              exact awaits.passing here rfl rfl rfl rfl
          | cons other rest =>
              simp only [QueueWatch.watch, here]
              exact awaits.passing here rfl rfl rfl rfl
  | remoteQueue =>
      cases budget with
      | zero => exact absurd budgeted.1 (Nat.not_lt_zero _)
      | succ budget =>
          simp only [State.drainReadyStep, State.pop, fair.remote, QueueWatch.watch, here, State.nextStage]
          exact awaits.passing here rfl rfl rfl rfl
  | queue =>
      cases budget with
      | zero => exact awaits.endDrain here (.inl (budgeted.resolve_right fun waits => Nat.not_lt_zero _ waits.1))
      | succ budget =>
          simp only [State.drainReadyStep, State.pop]
          cases queued : w.runtime.queue with
          | nil =>
              simp only [State.nextStage]
              exact awaits.endDrain here (.inr queued)
          | cons first rest =>
              simp only [QueueWatch.watch, here]
              refine ⟨awaits.idle, Pc.noConfusion, ?_⟩
              have atMost : w.owed ≤ 1 := by
                unfold QueueWatch.owed
                split <;> decide
              cases awaits.place with
              | held near soon => exact .held (.inl (near.resolve_right unpopped)) soon
              | queued ahead behind split rank =>
                  rw [queued] at split
                  cases ahead with
                  | nil =>
                      cases split
                      refine .held (.inr rfl) ?_
                      rw [List.length_nil, Nat.zero_add] at rank
                      exact Nat.le_trans rank (Nat.add_le_add_left atMost bound)
                  | cons other ahead =>
                      cases split
                      refine .queued ahead behind rfl ?_
                      rw [List.length_cons] at rank
                      show ahead.length + w.drains ≤ bound + _
                      omega

theorem Awaits.markDequeued {w : QueueWatch D} {task other : Task} {bound : Nat} {stage : Stage} {budget : Nat}
    (awaits : Awaits task bound w) (here : w.runtime.pc = .markDequeued other stage budget) :
    Awaits task bound (w.watch .advance (w.runtime.markDequeued other stage budget)) := by
  simp only [QueueWatch.watch, here]
  refine ⟨awaits.idle, Pc.noConfusion, ?_⟩
  cases awaits.place with
  | queued ahead behind queued rank =>
      refine .queued ahead behind queued ?_
      have same : w.owed = (if !w.served then 1 else 0) := by simp [QueueWatch.owed, here, Pc.draining]
      rw [same] at rank
      exact rank
  | held near soon =>
      refine .held (.inl ?_) soon
      rw [here] at near
      rcases near with member | popped
      · exact List.mem_append_left _ member
      · cases popped
        exact List.mem_append_right _ List.mem_cons_self

/-- The batch is polled from its head, and no task of it is left out. -/
theorem Awaits.pollNext {w : QueueWatch D} {task : Task} {bound : Nat} (awaits : Awaits task bound w)
    (here : w.runtime.pc = .pollTasks) :
    (w.watch .advance w.runtime.pollNext).polls = task :: w.polls ∨
      Awaits task bound (w.watch .advance w.runtime.pollNext) := by
  have plain : w.runtime.pc.draining = false := by rw [here]; rfl
  unfold State.pollNext
  cases batched : w.runtime.batch with
  | nil =>
      simp only [QueueWatch.watch, here]
      exact .inr (awaits.plain plain awaits.idle Pc.noConfusion List.prefix_rfl (fun member => batched ▸ member))
  | cons other rest =>
      by_cases hasFuture : w.runtime.hasFuture other = true
      · simp only [if_pos hasFuture, QueueWatch.watch, here]
        by_cases same : other = task
        · exact .inl (by rw [same])
        · refine .inr ⟨?_, ?_, ?_⟩
          · show Function.update w.runtime.hasFuture other false task = true
            rw [Function.update_of_ne (Ne.symm same)]
            exact awaits.idle
          · exact fun polled => same (Pc.pollTask.inj polled)
          · cases awaits.place with
            | queued ahead behind queued rank =>
                refine .queued ahead behind queued ?_
                rw [QueueWatch.owed_plain plain] at rank
                exact Nat.le_trans rank (Nat.le_add_right _ _)
            | held near soon =>
                rw [here, batched] at near
                have member := near.resolve_right (fun popped => by cases popped)
                exact .held (.inl ((List.mem_cons.mp member).resolve_left (Ne.symm same))) soon
      · simp only [if_neg hasFuture, QueueWatch.watch, here]
        have other_task : task ≠ other := by
          rintro rfl
          exact hasFuture awaits.idle
        refine .inr (awaits.plain plain awaits.idle Pc.noConfusion List.prefix_rfl ?_)
        intro member
        rw [batched] at member
        exact (List.mem_cons.mp member).resolve_left other_task

theorem Awaits.advance {w : QueueWatch D} {next : State D} {task : Task} {bound : Nat}
    (awaits : Awaits task bound w) (fair : Fair w) (advances : State.Advance w.runtime next) :
    (w.watch .advance next).polls = task :: w.polls ∨ Awaits task bound (w.watch .advance next) := by
  cases advances with
  | spinTimer here => exact .inr (awaits.spinTimer fair here)
  | drain here => exact .inr (awaits.drain fair here)
  | markDequeued here => exact .inr (awaits.markDequeued here)
  | pollTasks here => exact awaits.pollNext here
  | rootTaken here | rootIdle here | readyAgain here | notReady here | resetPending here | setWaiting here
  | readyLate here | stillNotReady here | skips here | stays here | timersWoken here | waited here
  | stopWaiting here | clearPending here | noFlush here | flushed here =>
      simp only [QueueWatch.watch, here]
      exact .inr (awaits.plain (by rw [here]; rfl) awaits.idle Pc.noConfusion List.prefix_rfl id)

theorem pushLocal_queue (s : State D) (task : Task) :
    s.queue <+: (s.pushLocal task).queue ∧ (s.pushLocal task).hasFuture = s.hasFuture := by
  unfold State.pushLocal
  split
  · exact ⟨List.prefix_rfl, rfl⟩
  · exact ⟨List.prefix_append _ _, rfl⟩

/-- **One step**: the task is polled, or it waits and nobody has got before it. -/
theorem Awaits.step {w w' : QueueWatch D} {l : Label D} {task : Task} {bound : Nat} (awaits : Awaits task bound w)
    (fair : Fair w) (calm : l.isCalm = true) (stepped : w.step l = some w') :
    w'.polls = task :: w.polls ∨ Awaits task bound w' := by
  obtain ⟨next, moved, rfl⟩ := Option.map_eq_some_iff.mp stepped
  cases State.step_cases moved with
  | wakeTask | unwind => cases calm
  | wakeRoot | kernel | localWake | localWakeRoot | call => exact .inr (awaits.still rfl rfl rfl rfl)
  | waker pc here =>
      obtain ⟨pcs, -, queue, batch, hasFuture⟩ := wakerStep_frame w.runtime pc
      exact .inr (awaits.still pcs hasFuture queue batch)
  | localPush other held =>
      obtain ⟨-, -, pc, batch⟩ := keeps_pushLocal w.runtime other
      obtain ⟨queue, hasFuture⟩ := pushLocal_queue w.runtime other
      refine .inr (awaits.stay ?_ ?_ queue ?_ ?_ rfl ?_)
      · exact (congrFun hasFuture task).trans awaits.idle
      · exact fun polled => awaits.away (pc.symm.trans polled)
      · exact fun member => batch.symm ▸ member
      · exact fun popped => (congrArg Pc.popped pc).trans popped
      · show w.owed ≤ if (w.runtime.pushLocal other).pc.draining && !w.served then 1 else 0
        rw [pc]
        exact Nat.le_refl _
  | spawn foreign =>
      refine .inr (awaits.plain (Pc.draining_of_foreign foreign) ?_ awaits.away (List.prefix_append _ _) id)
      show Function.update w.runtime.hasFuture w.runtime.spawned true task = true
      by_cases fresh : task = w.runtime.spawned
      · rw [fresh, Function.update_self]
      · rw [Function.update_of_ne fresh]
        exact awaits.idle
  | enter here | rootPending here | rootDone here | timersFired here | blocks here | wait _ _ _ _ here
  | flush _ _ _ here =>
      exact .inr (awaits.plain (by rw [here]; rfl) awaits.idle Pc.noConfusion List.prefix_rfl id)
  | taskPolled other pending here =>
      refine .inr (awaits.plain (by rw [here]; rfl) ?_ Pc.noConfusion List.prefix_rfl id)
      have different : task ≠ other := by
        rintro rfl
        exact awaits.away here
      show Function.update w.runtime.hasFuture other pending task = true
      rw [Function.update_of_ne different]
      exact awaits.idle
  | advance s' advances => exact awaits.advance fair advances

/-- Polls are only added. -/
theorem QueueWatch.polls_step {w w' : QueueWatch D} {l : Label D} (stepped : w.step l = some w') :
    ∃ recent, w'.polls = recent ++ w.polls := by
  obtain ⟨next, -, rfl⟩ := Option.map_eq_some_iff.mp stepped
  unfold QueueWatch.watch
  split
  · exact ⟨[], rfl⟩
  · split <;> exact ⟨[], rfl⟩
  · split
    · exact ⟨[_], rfl⟩
    · exact ⟨[], rfl⟩
  · exact ⟨[], rfl⟩

theorem QueueWatch.polls_exec {batchSize : Nat} {w w' : QueueWatch D} {labels : List (Label D)}
    (ran : (queueMachine D batchSize).exec w labels = some w') : ∃ recent, w'.polls = recent ++ w.polls := by
  induction labels generalizing w with
  | nil =>
      cases ran
      exact ⟨[], rfl⟩
  | cons l rest ih =>
      obtain ⟨next, stepped, onward⟩ := (Machine.exec_cons _).mp ran
      obtain ⟨latest, added⟩ := QueueWatch.polls_step stepped
      obtain ⟨recent, polls⟩ := ih onward
      exact ⟨recent ++ latest, by rw [polls, added, List.append_assoc]⟩

theorem Label.isLocal_of_isCalm {l : Label D} (calm : l.isCalm = true) : l.isLocal = true := by
  cases l <;> first | rfl | cases calm

/-- **A whole run.** -/
theorem Awaits.exec {batchSize : Nat} {w w' : QueueWatch D} {labels : List (Label D)} {task : Task} {bound : Nat}
    (awaits : Awaits task bound w) (fair : Fair w) (calm : ∀ l ∈ labels, l.isCalm = true)
    (ran : (queueMachine D batchSize).exec w labels = some w') :
    ∃ recent, w'.polls = recent ++ w.polls ∧ (task ∈ recent ∨ Awaits task bound w') := by
  induction labels generalizing w with
  | nil =>
      cases ran
      exact ⟨[], rfl, .inr awaits⟩
  | cons l rest ih =>
      obtain ⟨next, stepped, onward⟩ := (Machine.exec_cons _).mp ran
      have calm_rest : ∀ k ∈ rest, k.isCalm = true := fun k member => calm k (List.mem_cons_of_mem l member)
      have first := calm l List.mem_cons_self
      rcases awaits.step fair first stepped with polled | waits
      · obtain ⟨recent, polls⟩ := QueueWatch.polls_exec onward
        refine ⟨recent ++ [task], ?_, .inl (List.mem_append_right _ List.mem_cons_self)⟩
        rw [polls, polled, List.append_assoc]
        rfl
      · have fair_next := fair.step (Label.isLocal_of_isCalm first) stepped
        obtain ⟨recent, polls, outcome⟩ := ih waits fair_next calm_rest onward
        obtain ⟨latest, added⟩ := QueueWatch.polls_step stepped
        refine ⟨recent ++ latest, ?_, outcome.imp_left (List.mem_append_left _)⟩
        rw [polls, added, List.append_assoc]

/-- The drain in which it is its turn is over. -/
theorem Awaits.soon {w : QueueWatch D} {task : Task} {bound : Nat} (awaits : Awaits task bound w) :
    w.drains ≤ bound + 1 := by
  cases awaits.place with
  | queued ahead behind here rank =>
      have atMost : w.owed ≤ 1 := by
        unfold QueueWatch.owed
        split <;> decide
      omega
  | held near soon => exact soon

/-- **A batch larger than the inline queue is enough.** -/
theorem noStarvation_of_large {batchSize : Nat} (large : NEXT_TASK_INLINE_CAP < batchSize) :
    NoStarvation batchSize := by
  rintro D first labels w ⟨driver, rfl⟩ islocal ran
  have fair := (Fair.new driver large).exec islocal ran
  refine ⟨by rw [fair.passed]; exact Nat.zero_le _, ?_⟩
  intro task ahead behind later w' here idle away calm onward late
  have awaits : Awaits task (w.drains + ahead.length) w := by
    refine ⟨idle, away, .queued ahead behind here ?_⟩
    rw [Nat.add_comm ahead.length]
    exact Nat.le_add_right _ _
  obtain ⟨recent, polls, polled | waits⟩ := awaits.exec fair calm onward
  · exact ⟨recent, polls, polled⟩
  · exact absurd waits.soon (by omega)

end Watch

/-! ## A batch no larger than the inline queue -/

/-- A run without wakes from other threads. -/
def LocalRun (batchSize : Nat) (w w' : QueueWatch mockDriver) : Prop :=
  ∃ labels, (∀ l ∈ labels, l.isLocal = true) ∧ (queueMachine mockDriver batchSize).exec w labels = some w'

theorem LocalRun.refl {batchSize : Nat} (w : QueueWatch mockDriver) : LocalRun batchSize w w :=
  ⟨[], fun _ member => absurd member List.not_mem_nil, rfl⟩

theorem LocalRun.trans {batchSize : Nat} {a b c : QueueWatch mockDriver} (first : LocalRun batchSize a b)
    (second : LocalRun batchSize b c) : LocalRun batchSize a c := by
  obtain ⟨front, local_front, ran_front⟩ := first
  obtain ⟨back, local_back, ran_back⟩ := second
  refine ⟨front ++ back, fun l member => ?_, (Machine.exec_append _).mpr ⟨b, ran_front, ran_back⟩⟩
  exact (List.mem_append.mp member).elim (local_front l) (local_back l)

theorem LocalRun.of_exec {batchSize : Nat} {w w' : QueueWatch mockDriver} (labels : List (Label mockDriver))
    (islocal : ∀ l ∈ labels, l.isLocal = true)
    (ran : (queueMachine mockDriver batchSize).exec w labels = some w') : LocalRun batchSize w w' :=
  ⟨labels, islocal, ran⟩

namespace Crowd

/-- A runtime in which every task that was spawned is still there, the futures wake only
themselves and the root future is pending. -/
def scene (batchSize spawned : Nat) (pc : Pc) (batch nextTask queue : List Task) (queued : Task → Bool) :
    State mockDriver where
  batchSize := batchSize
  queue := queue
  nextTask := nextTask
  remoteQueue := []
  queued := queued
  hasFuture := fun task => decide (task < spawned)
  spawned := spawned
  ready := false
  waiting := false
  interruptPending := false
  posted := false
  pc := pc
  localWake := none
  batch := batch
  wakers := []
  driver := ()

/-- The flags after these tasks are marked as dequeued. -/
def lower : List Task → (Task → Bool) → Task → Bool
  | [], queued => queued
  | task :: rest, queued => lower rest (Function.update queued task false)

theorem lower_not_mem {tasks : List Task} {queued : Task → Bool} {task : Task} (down : queued task = false) :
    lower tasks queued task = false := by
  induction tasks generalizing queued with
  | nil => exact down
  | cons other rest ih =>
      refine ih ?_
      by_cases same : task = other
      · rw [same, Function.update_self]
      · rw [Function.update_of_ne same]
        exact down

theorem lower_mem {tasks : List Task} {queued : Task → Bool} {task : Task} (member : task ∈ tasks) :
    lower tasks queued task = false := by
  induction tasks generalizing queued with
  | nil => cases member
  | cons other rest ih =>
      rcases List.mem_cons.mp member with rfl | later
      · show lower rest (Function.update queued task false) task = false
        exact lower_not_mem (Function.update_self task false queued)
      · exact ih later

variable (batchSize : Nat) {spawned : Nat} (w : QueueWatch mockDriver)

/-- `drain_ready` fills the batch from the inline queue. -/
theorem drain_inline (crew batch queue : List Task) (queued : Task → Bool) :
    LocalRun batchSize
      { w with runtime := scene batchSize spawned (.drain .nextTask crew.length) batch crew queue queued }
      { w with
        runtime := scene batchSize spawned (.drain .nextTask 0) (batch ++ crew) [] queue
          (lower crew queued) } := by
  induction crew generalizing batch queued with
  | nil =>
      rw [List.append_nil]
      exact .refl _
  | cons task rest ih =>
      have taken := ih (batch ++ [task]) (Function.update queued task false)
      rw [List.append_assoc] at taken
      refine .trans (.of_exec [.advance, .advance] (by decide) ?_) taken
      rfl

variable (spawned) in
/-- Nothing is in the inline queue, and it fills the batch from the main queue. -/
theorem drain_queue (crew batch queue : List Task) (queued : Task → Bool) :
    ∃ served, LocalRun batchSize
      { w with runtime := scene batchSize spawned (.drain .queue crew.length) batch [] (crew ++ queue) queued }
      { w with
        runtime := scene batchSize spawned (.drain .queue 0) (batch ++ crew) [] queue (lower crew queued)
        served := served } := by
  induction crew generalizing w batch queued with
  | nil =>
      rw [List.append_nil]
      exact ⟨w.served, .refl _⟩
  | cons task rest ih =>
      obtain ⟨served, taken⟩ := ih { w with served := true } (batch ++ [task]) (Function.update queued task false)
      rw [List.append_assoc] at taken
      refine ⟨served, .trans (.of_exec [.advance, .advance] (by decide) ?_) taken⟩
      rfl

/-- A task of the batch is polled, wakes itself and is pending. -/
theorem poll_one {task : Task} (rest queue : List Task) {nextTask : List Task} {queued : Task → Bool}
    (alive : task < spawned) (down : queued task = false) (room : nextTask.length < NEXT_TASK_INLINE_CAP) :
    LocalRun batchSize
      { w with runtime := scene batchSize spawned .pollTasks (task :: rest) nextTask queue queued }
      { w with
        runtime := scene batchSize spawned .pollTasks rest (nextTask ++ [task]) queue
          (Function.update queued task true)
        polls := task :: w.polls } := by
  have back : Function.update (Function.update (fun t => decide (t < spawned)) task false) task true =
      fun t => decide (t < spawned) := by
    rw [Function.update_idem, Function.update_eq_self_iff]
    exact (decide_eq_true alive).symm
  refine .of_exec [.advance, .localWake task, .localPush, .polled true] (by simp [Label.isLocal]) ?_
  simp [Machine.exec, queueMachine, QueueWatch.step, QueueWatch.watch, scene, State.step, State.Free,
    State.advance, State.pollNext, State.enqueueIfNeededLocal, State.pushLocal, State.polled, Pc.foreign, alive,
    down, room, back]

/-- Everybody in the batch is back in the inline queue. -/
theorem poll_all (queue : List Task) {batch nextTask : List Task} {queued : Task → Bool} (distinct : batch.Nodup)
    (alive : ∀ task ∈ batch, task < spawned) (down : ∀ task ∈ batch, queued task = false)
    (room : nextTask.length + batch.length ≤ NEXT_TASK_INLINE_CAP) :
    ∃ queued', LocalRun batchSize
      { w with runtime := scene batchSize spawned .pollTasks batch nextTask queue queued }
      { w with
        runtime := scene batchSize spawned .pollTasks [] (nextTask ++ batch) queue queued'
        polls := batch.reverse ++ w.polls } := by
  induction batch generalizing w nextTask queued with
  | nil =>
      rw [List.append_nil]
      exact ⟨queued, .refl _⟩
  | cons task rest ih =>
      obtain ⟨apart, distinct_rest⟩ := List.nodup_cons.mp distinct
      rw [List.length_cons] at room
      have first := poll_one batchSize w rest queue (alive task List.mem_cons_self)
        (down task List.mem_cons_self) (Nat.lt_of_lt_of_le (Nat.lt_add_of_pos_right (Nat.succ_pos _)) room)
      have down_rest : ∀ other ∈ rest, Function.update queued task true other = false := by
        intro other member
        have different : other ≠ task := by
          rintro rfl
          exact apart member
        rw [Function.update_of_ne different]
        exact down other (List.mem_cons_of_mem task member)
      have room_rest : (nextTask ++ [task]).length + rest.length ≤ NEXT_TASK_INLINE_CAP := by
        rw [List.length_append, List.length_singleton]
        omega
      obtain ⟨queued', onward⟩ := ih { w with polls := task :: w.polls } distinct_rest
        (fun other member => alive other (List.mem_cons_of_mem task member)) down_rest room_rest
      refine ⟨queued', first.trans ?_⟩
      rw [List.append_assoc] at onward
      rw [List.reverse_cons, List.append_assoc]
      exact onward

/-- From the end of a drain back to the head of the loop, with a batch of tasks that wake
themselves. -/
theorem finish {crew : List Task} (stage : Stage) (queue : List Task) (queued : Task → Bool)
    (distinct : crew.Nodup) (alive : ∀ task ∈ crew, task < spawned) (some_crew : crew ≠ [])
    (room : crew.length ≤ NEXT_TASK_INLINE_CAP) :
    ∃ queued', LocalRun batchSize
      { w with runtime := scene batchSize spawned (.drain stage 0) crew [] queue (lower crew queued) }
      { w with
        runtime := scene batchSize spawned .takeReady [] crew queue queued'
        passed := if w.contended && !w.served then w.passed + 1 else 0
        polls := crew.reverse ++ w.polls } := by
  have ended : LocalRun batchSize
      { w with runtime := scene batchSize spawned (.drain stage 0) crew [] queue (lower crew queued) }
      { w with
        runtime := scene batchSize spawned .pollTasks crew [] queue (lower crew queued)
        passed := if w.contended && !w.served then w.passed + 1 else 0 } := by
    refine .of_exec [.advance] (by decide) ?_
    obtain ⟨task, rest, rfl⟩ := List.exists_cons_of_ne_nil some_crew
    rfl
  have room' : ([] : List Task).length + crew.length ≤ NEXT_TASK_INLINE_CAP := by
    rw [List.length_nil, Nat.zero_add]
    exact room
  obtain ⟨queued', polled⟩ := poll_all batchSize
    { w with passed := if w.contended && !w.served then w.passed + 1 else 0 } queue distinct
    alive (fun task member => lower_mem member) room'
  exact ⟨queued', ended.trans (polled.trans (.of_exec [.advance, .flush () false, .advance] (by decide) rfl))⟩

/-- **An iteration passes the main queue by**: the batch is used up by the tasks that have
woken themselves, and they do it again. -/
theorem round {crew : List Task} (queued : Task → Bool) (last : Task) (waiting : List Task) (distinct : crew.Nodup)
    (alive : ∀ task ∈ crew, task < spawned) (some_crew : crew ≠ []) (room : crew.length ≤ NEXT_TASK_INLINE_CAP) :
    ∃ queued', LocalRun crew.length
      { w with runtime := scene crew.length spawned .takeReady [] crew (last :: waiting) queued }
      { w with
        runtime := scene crew.length spawned .takeReady [] crew (last :: waiting) queued'
        contended := true
        served := false
        passed := w.passed + 1
        drains := w.drains + 1
        polls := crew.reverse ++ w.polls } := by
  let begun : QueueWatch mockDriver := { w with contended := true, served := false, drains := w.drains + 1 }
  have enters : LocalRun crew.length
      { w with runtime := scene crew.length spawned .takeReady [] crew (last :: waiting) queued }
      { begun with
        runtime := scene crew.length spawned (.drain .nextTask crew.length) [] crew (last :: waiting) queued } :=
    .of_exec [.advance, .advance] (by decide) rfl
  obtain ⟨queued', finished⟩ := finish crew.length begun .nextTask (last :: waiting) queued distinct alive
    some_crew room
  exact ⟨queued', enters.trans ((drain_inline crew.length begun crew [] _ queued).trans finished)⟩

/-- **For as long as they like.** -/
theorem rounds {crew : List Task} (queued : Task → Bool) (last : Task) (waiting : List Task) (n : Nat)
    (distinct : crew.Nodup) (alive : ∀ task ∈ crew, task < spawned) (some_crew : crew ≠ [])
    (room : crew.length ≤ NEXT_TASK_INLINE_CAP) :
    ∃ w', LocalRun crew.length
      { w with runtime := scene crew.length spawned .takeReady [] crew (last :: waiting) queued } w' ∧
        w'.passed = w.passed + n := by
  induction n generalizing w queued with
  | zero => exact ⟨_, .refl _, rfl⟩
  | succ n ih =>
      obtain ⟨queued', once⟩ := round w queued last waiting distinct alive some_crew room
      obtain ⟨w', again, passed⟩ := ih { w with
        contended := true
        served := false
        passed := w.passed + 1
        drains := w.drains + 1
        polls := crew.reverse ++ w.polls } queued'
      exact ⟨w', once.trans again, passed.trans (Nat.succ_add_eq_add_succ w.passed n)⟩

/-- The root future spawns a task. -/
theorem spawn_one (n : Nat) (queue : List Task) (queued : Task → Bool) :
    LocalRun batchSize
      { w with runtime := scene batchSize n .pollRoot [] [] queue queued }
      { w with
        runtime := scene batchSize (n + 1) .pollRoot [] [] (queue ++ [n]) (Function.update queued n true) } := by
  have known : Function.update (fun task => decide (task < n)) n true = fun task => decide (task < n + 1) := by
    funext task
    by_cases fresh : task = n
    · rw [fresh, Function.update_self]
      exact (decide_eq_true (Nat.lt_succ_self n)).symm
    · rw [Function.update_of_ne fresh, decide_eq_decide]
      omega
  refine .of_exec [.spawn] (by decide) ?_
  simp [Machine.exec, queueMachine, QueueWatch.step, QueueWatch.watch, scene, State.step, State.Free, State.spawn,
    Pc.foreign, known]

theorem spawn_all (n : Nat) (queued : Task → Bool) :
    ∃ queued', LocalRun batchSize
      { w with runtime := scene batchSize 0 .pollRoot [] [] [] queued }
      { w with runtime := scene batchSize n .pollRoot [] [] (List.range n) queued' } := by
  induction n with
  | zero => exact ⟨queued, .refl _⟩
  | succ n ih =>
      obtain ⟨queued', before⟩ := ih
      rw [List.range_succ]
      exact ⟨_, before.trans (spawn_one batchSize w n _ queued')⟩

/-- The root future of a new runtime spawns one task more than a batch has room for, and the
first batch is taken from the main queue. -/
theorem assemble (n : Nat) :
    ∃ (w : QueueWatch mockDriver) (queued : Task → Bool), LocalRun (n + 1) (.new () (n + 1))
      { w with
        runtime :=
          scene (n + 1) (n + 2) (.drain .queue (n + 1)) [] [] (List.range (n + 1) ++ [n + 1]) queued } := by
  let first : QueueWatch mockDriver := .new () (n + 1)
  have entered : LocalRun (n + 1) first
      { first with runtime := scene (n + 1) 0 .pollRoot [] [] [] (fun _ => false) } := by
    have none_yet : (fun task => decide (task < 0)) = fun _ : Task => false :=
      funext fun task => decide_eq_false (Nat.not_lt_zero task)
    refine .of_exec [.enter, .advance] (by decide) ?_
    rw [scene, none_yet]
    rfl
  obtain ⟨queued, spawned⟩ := spawn_all (n + 1) first (n + 2) (fun _ => false)
  rw [List.range_succ] at spawned
  refine ⟨{ first with contended := !(List.range (n + 1) ++ [n + 1]).isEmpty, drains := 1 }, queued, ?_⟩
  exact entered.trans (spawned.trans (.of_exec [.polled true, .advance, .advance, .advance] (by decide) rfl))

/-- **The task that was left stays in the main queue.** -/
theorem kept_out (n k : Nat) (room : n + 1 ≤ NEXT_TASK_INLINE_CAP) :
    ∃ w, LocalRun (n + 1) (.new () (n + 1)) w ∧ k ≤ w.passed := by
  obtain ⟨w, queued, assembled⟩ := assemble n
  obtain ⟨served, drained⟩ := drain_queue (n + 1) (n + 2) w (List.range (n + 1)) [] [n + 1] queued
  have alive : ∀ task ∈ List.range (n + 1), task < n + 2 :=
    fun task member => Nat.lt_succ_of_lt (List.mem_range.mp member)
  have some_crew : List.range (n + 1) ≠ [] := by simp
  have size : (List.range (n + 1)).length = n + 1 := List.length_range
  obtain ⟨queued', finished⟩ := finish (n + 1) { w with served := served } .queue [n + 1] queued
    List.nodup_range alive some_crew (size.symm ▸ room)
  obtain ⟨w', passing, passed⟩ := rounds { w with
    served := served
    passed := if w.contended && !served then w.passed + 1 else 0
    polls := (List.range (n + 1)).reverse ++ w.polls } queued' (n + 1) [] k List.nodup_range alive some_crew
    (size.symm ▸ room)
  rw [size] at drained passing
  exact ⟨w', assembled.trans (drained.trans (finished.trans passing)), passed ▸ Nat.le_add_left k _⟩

end Crowd

/-- **A batch no larger than the inline queue is not enough.** -/
theorem starvation_of_small {batchSize : Nat} (positive : 1 ≤ batchSize)
    (small : batchSize ≤ NEXT_TASK_INLINE_CAP) : ¬ NoStarvation batchSize := by
  intro never
  obtain ⟨n, rfl⟩ := Nat.exists_eq_add_of_le' positive
  obtain ⟨w, ⟨labels, islocal, ran⟩, passed⟩ := Crowd.kept_out n (NEXT_TASK_INLINE_CAP + 2) small
  have bounded := (never mockDriver _ labels w ⟨(), rfl⟩ islocal ran).1
  exact absurd (Nat.le_trans passed bounded) (by decide)

/-- **The capacity of the inline queue is the exact bound.**  The main queue is not starved, whatever
the tasks do on the thread of the scheduler, if and only if a batch holds more tasks than
the inline queue. -/
theorem no_starvation_iff (batchSize : Nat) (positive : 1 ≤ batchSize) :
    NoStarvation batchSize ↔ NEXT_TASK_INLINE_CAP < batchSize := by
  refine ⟨fun never => ?_, noStarvation_of_large⟩
  by_contra small
  exact starvation_of_small positive (Nat.not_lt.mp small) never

/-- The default batch size. -/
theorem default_batch_never_starves : NoStarvation 256 := (no_starvation_iff 256 (by decide)).mpr (by decide)

/-- Eight tasks that wake themselves use up every batch of eight, and the ninth stays in the main
queue for as many drains as one likes. -/
theorem batch_of_eight_starves :
    ¬ NoStarvation 8 ∧ ∀ k, ∃ w, LocalRun 8 (.new () 8) w ∧ k ≤ w.passed :=
  ⟨starvation_of_small (by decide) (by decide), fun k => Crowd.kept_out 7 k (by decide)⟩

end Vibeio.Executor
