/-
# Executor.Turn -- how many drains a queued task waits for

With a batch larger than the inline queue, every drain has a share of the batch left for
the other two queues, the remote one first.  Nothing else is asked of the run here: tasks
are woken on any thread, and futures may panic.

* `reach`: what the drain under way still takes of the queue a task waits in, and of the
  one before it.
* `Turn`: a queued task with what it may still cost.  A drain that begins is paid with a
  share; a push by another thread sends a task of the main queue back by one place, and no
  other task.
* `served_in_turn`: the bounds this gives for the three queues.
-/
import Vibeio.Executor.Delivery
import Vibeio.Theory.Amortized

namespace Vibeio.Executor

open Vibeio.Theory

set_option autoImplicit false

variable {D : DriverApi}

/-- A drain begins. -/
def drainStart (s : State D) : Label D → Nat
  | .advance => if s.pc = .spinTimer then 1 else 0
  | _ => 0

/-- Another thread pushes a task. -/
def remotePush (_ : State D) : Label D → Nat
  | .waker (.push _) => 1
  | _ => 0

/-- The drain is at the inline queue. -/
def Pc.atInline : Pc → Bool
  | .drain .nextTask _ | .markDequeued _ .nextTask _ => true
  | _ => false

/-- What is left of the budget at the inline queue is at least `needed`. -/
def Pc.Affords (needed : Nat) : Pc → Prop
  | .drain .nextTask budget | .markDequeued _ .nextTask budget => needed ≤ budget
  | _ => True

theorem Pc.affords_elsewhere {pc : Pc} (elsewhere : pc.atInline = false) (needed : Nat) :
    pc.Affords needed := by
  unfold Pc.Affords
  split
  · cases elsewhere
  · cases elsewhere
  · trivial

namespace State

/-- How many tasks the drain under way still takes from the queue at `stage`, which is not
the inline queue, and from those before it. -/
def reach (s : State D) (stage : Stage) : Nat :=
  match s.pc with
  | .drain .nextTask budget | .markDequeued _ .nextTask budget => budget - s.nextTask.length
  | .drain .remoteQueue budget | .markDequeued _ .remoteQueue budget => budget
  | .drain .queue budget | .markDequeued _ .queue budget => if stage = .queue then budget else 0
  | _ => 0

/-- Every drain has `share` places for the other queues when the inline queue is drained. -/
structure Roomy (share : Nat) (s : State D) : Prop where
  size : s.batchSize = NEXT_TASK_INLINE_CAP + share
  inline : s.nextTask.length ≤ NEXT_TASK_INLINE_CAP
  held : s.pc.foreign = false → s.localWake = none
  batched : s.Batched
  affords : s.pc.Affords (s.nextTask.length + share)

/-- Where a task waits, with `cost` left to pay for the drains to come.  Only a task for
which `back` is set may be in the main queue. -/
inductive Turn (share : Nat) (t : Task) (back : Bool) (cost : Nat) (s : State D) : Prop where
  | taken (near : t ∈ s.batch ∨ s.MidDrain t)
  | inline (here : t ∈ s.nextTask) (enough : share ≤ cost ∨ s.pc.atInline = true)
  | remote (ahead behind : List Task) (here : s.remoteQueue = ahead ++ t :: behind)
      (enough : ahead.length + share ≤ cost + s.reach .remoteQueue)
  | main (goes : back = true) (ahead behind : List Task) (here : s.queue = ahead ++ t :: behind)
      (enough : s.remoteQueue.length + ahead.length + share ≤ cost + s.reach .queue)

variable {share : Nat} {t : Task} {back : Bool} {cost : Nat}

/-! ## Room for the other queues -/

/-- What a step can do to the batch size and to a local wake half done. -/
theorem frame_step {s s' : State D} {l : Label D} (stepped : s.step l = some s') :
    s'.batchSize = s.batchSize ∧ ((s.pc.foreign = false → s.localWake = none) →
      s'.pc.foreign = false → s'.localWake = none) := by
  cases step_cases stepped with
  | wakeTask | wakeRoot | kernel => exact ⟨rfl, id⟩
  | waker pc here =>
      have sizes : (s.wakerStep pc).batchSize = s.batchSize ∧ (s.wakerStep pc).localWake = s.localWake := by
        cases pc <;> exact ⟨rfl, rfl⟩
      refine ⟨sizes.1, ?_⟩
      rw [(wakerStep_frame s pc).1, sizes.2]
      exact id
  | localWake task free foreign known =>
      refine ⟨rfl, fun _ away => ?_⟩
      have same : s.pc.foreign = false := away
      rw [foreign] at same
      cases same
  | localPush task half =>
      obtain ⟨keeps, done, -, -⟩ := keeps_pushLocal s task
      exact ⟨keeps.batchSize, fun _ _ => done⟩
  | advance s' advances =>
      obtain ⟨keeps, same⟩ := keeps_advance advances
      refine ⟨keeps.batchSize, fun _ _ => ?_⟩
      rw [same]
      exact free_of_step rfl stepped
  | _ => exact ⟨rfl, fun _ _ => free_of_step (s := s) rfl stepped⟩

theorem endDrain_elsewhere (s : State D) :
    s.endDrain.pc.atInline = false ∧ ∀ stage, s.endDrain.reach stage = 0 := by
  unfold endDrain
  cases s.batch.isEmpty <;> exact ⟨rfl, fun _ => rfl⟩

theorem affords_drainReadyStep {s : State D} {stage : Stage} {budget : Nat} (roomy : s.Roomy share)
    (here : s.pc = .drain stage budget) :
    (s.drainReadyStep stage budget).pc.Affords ((s.drainReadyStep stage budget).nextTask.length + share) := by
  cases budget with
  | zero => exact Pc.affords_elsewhere (endDrain_elsewhere s).1 _
  | succ budget =>
      cases stage with
      | nextTask =>
          have fits := roomy.affords
          simp only [here, Pc.Affords] at fits
          simp only [drainReadyStep, pop]
          cases inlined : s.nextTask with
          | nil => exact Pc.affords_elsewhere rfl _
          | cons task rest =>
              rw [inlined, List.length_cons] at fits
              show rest.length + share ≤ budget
              omega
      | remoteQueue =>
          simp only [drainReadyStep, pop]
          cases s.remoteQueue <;> exact Pc.affords_elsewhere rfl _
      | queue =>
          simp only [drainReadyStep, pop]
          cases s.queue with
          | nil => exact Pc.affords_elsewhere (endDrain_elsewhere s).1 _
          | cons task rest => exact Pc.affords_elsewhere rfl _

theorem affords_advance {s s' : State D} (roomy : s.Roomy share) (advances : Advance s s') :
    s'.pc.Affords (s'.nextTask.length + share) := by
  cases advances with
  | spinTimer here =>
      have fits := roomy.inline
      have same := roomy.size
      show s.nextTask.length + share ≤ s.batchSize
      omega
  | drain here => exact affords_drainReadyStep roomy here
  | markDequeued here =>
      rename_i task stage budget
      have fits := roomy.affords
      rw [here] at fits
      cases stage with
      | nextTask => exact fits
      | remoteQueue | queue => trivial
  | pollTasks here =>
      unfold pollNext
      split
      · trivial
      · split
        · trivial
        · rw [here]
          trivial
  | rootTaken | rootIdle | readyAgain | notReady | resetPending | setWaiting | readyLate | stillNotReady
  | skips | stays | timersWoken | waited | stopWaiting | clearPending | noFlush | flushed =>
      exact Pc.affords_elsewhere rfl _

theorem Roomy.step {s s' : State D} {l : Label D} (roomy : s.Roomy share) (stepped : s.step l = some s') :
    s'.Roomy share := by
  obtain ⟨sizes, held⟩ := frame_step stepped
  refine ⟨sizes.trans roomy.size, inline_step stepped roomy.inline, held roomy.held,
    roomy.batched.step stepped, ?_⟩
  cases step_cases stepped with
  | wakeTask | wakeRoot | kernel | localWake | localWakeRoot | call | spawn => exact roomy.affords
  | waker pc here =>
      obtain ⟨pcs, inlined, -⟩ := wakerStep_frame s pc
      rw [pcs, inlined]
      exact roomy.affords
  | localPush task half =>
      -- code of the futures runs here, and no drain
      have foreign : s.pc.foreign = true := by
        cases place : s.pc.foreign with
        | true => rfl
        | false =>
            rw [roomy.held place] at half
            cases half
      rw [(keeps_pushLocal s task).2.2.1]
      cases here : s.pc <;> rw [here] at foreign <;> trivial
  | enter | rootPending | rootDone | taskPolled | timersFired | blocks | wait | flush | unwind => trivial
  | advance s' advances => exact affords_advance roomy advances

theorem roomy_of_reachable {s : State D} (reachable : (machine D).Reachable s)
    (large : NEXT_TASK_INLINE_CAP < s.batchSize) : s.Roomy (s.batchSize - NEXT_TASK_INLINE_CAP) := by
  have always : NEXT_TASK_INLINE_CAP < s.batchSize → s.Roomy (s.batchSize - NEXT_TASK_INLINE_CAP) := by
    refine Machine.invariant (M := machine D)
      (I := fun u => NEXT_TASK_INLINE_CAP < u.batchSize → u.Roomy (u.batchSize - NEXT_TASK_INLINE_CAP))
      ?_ ?_ reachable
    · rintro u ⟨driver, batchSize, rfl⟩ large
      refine ⟨?_, Nat.zero_le _, fun _ => rfl, fun _ => rfl, trivial⟩
      show batchSize = NEXT_TASK_INLINE_CAP + (batchSize - NEXT_TASK_INLINE_CAP)
      have large : NEXT_TASK_INLINE_CAP < batchSize := large
      omega
    · intro u l u' roomy stepped large
      rw [(frame_step stepped).1] at large ⊢
      exact (roomy large).step stepped
  exact always large

/-! ## One step of a task that waits -/

/-- A step that takes nothing from a queue, and that may put tasks before it. -/
theorem Turn.stay {s : State D} (turn : s.Turn share t back cost) (s' : State D) (pushed : Nat)
    (near : t ∈ s.batch ∨ s.MidDrain t → t ∈ s'.batch ∨ s'.MidDrain t)
    (nextTask : s.nextTask <+: s'.nextTask) (remote : s.remoteQueue <+: s'.remoteQueue)
    (longer : s'.remoteQueue.length ≤ s.remoteQueue.length + pushed) (queue : s.queue <+: s'.queue)
    (inlined : s.pc.atInline = true → s'.pc.atInline = true) (reach : ∀ stage, s.reach stage ≤ s'.reach stage) :
    s'.Turn share t back (cost + if back then pushed else 0) := by
  cases turn with
  | taken place => exact .taken (near place)
  | inline here enough =>
      refine .inline (nextTask.subset here) (enough.imp (fun paid => ?_) inlined)
      exact Nat.le_trans paid (Nat.le_add_right _ _)
  | remote ahead behind here enough =>
      obtain ⟨more, added⟩ := remote
      refine .remote ahead (behind ++ more) ?_ ?_
      · rw [← added, here, List.append_assoc, List.cons_append]
      · have := reach .remoteQueue
        omega
  | main goes ahead behind here enough =>
      obtain ⟨more, added⟩ := queue
      refine .main goes ahead (behind ++ more) ?_ ?_
      · rw [← added, here, List.append_assoc, List.cons_append]
      · have := reach .queue
        rw [if_pos goes]
        omega

theorem Turn.still {s s' : State D} (turn : s.Turn share t back cost) (pc : s'.pc = s.pc)
    (nextTask : s'.nextTask = s.nextTask) (remote : s'.remoteQueue = s.remoteQueue)
    (queue : s'.queue = s.queue) (batch : s'.batch = s.batch) : s'.Turn share t back cost := by
  have same : ∀ stage, s.reach stage = s'.reach stage := fun stage => by simp only [State.reach, pc, nextTask]
  have stays := turn.stay s' 0 (fun place => by simpa only [MidDrain, batch, pc] using place)
    (nextTask ▸ List.prefix_rfl) (remote ▸ List.prefix_rfl) (by rw [remote]; exact Nat.le_refl _)
    (queue ▸ List.prefix_rfl) (by rw [pc]; exact id) (fun stage => Nat.le_of_eq (same stage))
  simpa using stays

/-- From a place outside the drain to another: nothing was within reach. -/
theorem Turn.plain {s s' : State D} (turn : s.Turn share t back cost) (plain : s.pc.draining = false)
    (batch : t ∈ s.batch → t ∈ s'.batch) (nextTask : s.nextTask <+: s'.nextTask)
    (remote : s'.remoteQueue = s.remoteQueue) (queue : s.queue <+: s'.queue) : s'.Turn share t back cost := by
  have nothing : ∀ stage, s.reach stage = 0 := by
    intro stage
    unfold State.reach
    cases here : s.pc <;> rw [here] at plain <;> first | rfl | cases plain
  have outside : s.pc.atInline = false ∧ s.pc.popped = none := by
    cases here : s.pc <;> rw [here] at plain <;> first | exact ⟨rfl, rfl⟩ | cases plain
  have stays := turn.stay s' 0 ?_ nextTask (remote ▸ List.prefix_rfl)
    (by rw [remote]; exact Nat.le_refl _) queue (fun inlined => by rw [outside.1] at inlined; cases inlined)
    (fun stage => by rw [nothing]; exact Nat.zero_le _)
  · simpa using stays
  · rintro (member | drained)
    · exact .inl (batch member)
    · rw [MidDrain, outside.2] at drained
      cases drained

theorem Turn.endDrain {s : State D} {stage : Stage} {budget : Nat} (turn : s.Turn share t back cost)
    (here : s.pc = .drain stage budget) (away : stage ≠ .nextTask)
    (done : budget = 0 ∨ (stage = .queue ∧ s.queue = [])) : s.endDrain.Turn share t back cost := by
  have elsewhere : s.pc.atInline = false := by
    rw [here]
    cases stage with
    | nextTask => exact absurd rfl away
    | remoteQueue | queue => rfl
  have after := (endDrain_elsewhere s).2
  cases turn with
  | taken place =>
      refine .taken (place.imp id fun drained => ?_)
      rw [MidDrain, here] at drained
      cases drained
  | inline member enough =>
      refine .inline member (.inl (enough.resolve_right ?_))
      rw [elsewhere]
      exact Bool.false_ne_true
  | remote ahead behind queued enough =>
      refine .remote ahead behind queued ?_
      have nothing : s.reach .remoteQueue = 0 := by
        unfold State.reach
        rw [here]
        rcases done with rfl | ⟨rfl, -⟩
        · cases stage with
          | nextTask => exact absurd rfl away
          | remoteQueue | queue => rfl
        · rfl
      rw [after]
      omega
  | main goes ahead behind queued enough =>
      refine .main goes ahead behind queued ?_
      have nothing : s.reach .queue = 0 := by
        unfold State.reach
        rw [here]
        rcases done with rfl | ⟨rfl, empty⟩
        · cases stage with
          | nextTask => exact absurd rfl away
          | remoteQueue | queue => rfl
        · rw [empty] at queued
          cases ahead <;> cases queued
      rw [after]
      exact nothing ▸ enough

/-- The drain comes to its next position in a queue, or goes on to the next queue. -/
theorem Turn.drain {s : State D} {stage : Stage} {budget : Nat} (turn : s.Turn share t back cost)
    (roomy : s.Roomy share) (positive : 0 < share) (here : s.pc = .drain stage budget) :
    (s.drainReadyStep stage budget).Turn share t back cost := by
  have undrained : s.MidDrain t → False := by
    rw [MidDrain, here]
    exact fun popped => by cases popped
  have affords := roomy.affords
  rw [here] at affords
  cases stage with
  | nextTask =>
      cases budget with
      | zero =>
          have affords : s.nextTask.length + share ≤ 0 := affords
          omega
      | succ budget =>
          have affords : s.nextTask.length + share ≤ budget + 1 := affords
          simp only [drainReadyStep, pop]
          cases inlined : s.nextTask with
          | nil =>
              have within : ∀ stage, s.reach stage = budget + 1 :=
                fun stage => by simp [State.reach, here, inlined]
              cases turn with
              | taken near => exact .taken (.inl (near.resolve_right undrained))
              | inline member => rw [inlined] at member; cases member
              | remote ahead behind queued enough =>
                  rw [within] at enough
                  exact .remote ahead behind queued enough
              | main goes ahead behind queued enough =>
                  rw [within] at enough
                  exact .main goes ahead behind queued enough
          | cons other rest =>
              rw [inlined, List.length_cons] at affords
              have within : ∀ stage, s.reach stage = budget - rest.length := fun stage => by
                simp only [State.reach, here, inlined, List.length_cons]
                omega
              cases turn with
              | taken near => exact .taken (.inl (near.resolve_right undrained))
              | inline member enough =>
                  rw [inlined] at member
                  rcases List.mem_cons.mp member with rfl | later
                  · exact .taken (.inr rfl)
                  · exact .inline later (.inr rfl)
              | remote ahead behind queued enough =>
                  rw [within] at enough
                  exact .remote ahead behind queued enough
              | main goes ahead behind queued enough =>
                  rw [within] at enough
                  exact .main goes ahead behind queued enough
  | remoteQueue =>
      cases budget with
      | zero => exact turn.endDrain here (by decide) (.inl rfl)
      | succ budget =>
          have within : ∀ stage, s.reach stage = budget + 1 := fun stage => by simp only [State.reach, here]
          have elsewhere : s.pc.atInline ≠ true := by rw [here]; exact Bool.false_ne_true
          simp only [drainReadyStep, pop]
          cases remote : s.remoteQueue with
          | nil =>
              cases turn with
              | taken near => exact .taken (.inl (near.resolve_right undrained))
              | inline member enough => exact .inline member (.inl (enough.resolve_right elsewhere))
              | remote ahead behind queued enough =>
                  rw [remote] at queued
                  cases ahead <;> cases queued
              | main goes ahead behind queued enough =>
                  rw [within] at enough
                  exact .main goes ahead behind queued enough
          | cons other rest =>
              cases turn with
              | taken near => exact .taken (.inl (near.resolve_right undrained))
              | inline member enough => exact .inline member (.inl (enough.resolve_right elsewhere))
              | remote ahead behind queued enough =>
                  rw [within] at enough
                  rw [remote] at queued
                  cases ahead with
                  | nil =>
                      cases queued
                      exact .taken (.inr rfl)
                  | cons first ahead =>
                      cases queued
                      refine .remote ahead behind rfl ?_
                      rw [List.length_cons] at enough
                      show ahead.length + share ≤ cost + budget
                      omega
              | main goes ahead behind queued enough =>
                  rw [within, remote, List.length_cons] at enough
                  refine .main goes ahead behind queued ?_
                  show rest.length + ahead.length + share ≤ cost + budget
                  omega
  | queue =>
      cases budget with
      | zero => exact turn.endDrain here (by decide) (.inl rfl)
      | succ budget =>
          have elsewhere : s.pc.atInline ≠ true := by rw [here]; exact Bool.false_ne_true
          simp only [drainReadyStep, pop]
          cases queues : s.queue with
          | nil => exact turn.endDrain here (by decide) (.inr ⟨rfl, queues⟩)
          | cons other rest =>
              cases turn with
              | taken near => exact .taken (.inl (near.resolve_right undrained))
              | inline member enough => exact .inline member (.inl (enough.resolve_right elsewhere))
              | remote ahead behind queued enough =>
                  have within : s.reach .remoteQueue = 0 := by simp [State.reach, here]
                  rw [within] at enough
                  exact .remote ahead behind queued enough
              | main goes ahead behind queued enough =>
                  have within : s.reach .queue = budget + 1 := by simp [State.reach, here]
                  rw [within] at enough
                  rw [queues] at queued
                  cases ahead with
                  | nil =>
                      cases queued
                      exact .taken (.inr rfl)
                  | cons first ahead =>
                      cases queued
                      refine .main goes ahead behind rfl ?_
                      rw [List.length_cons] at enough
                      show s.remoteQueue.length + ahead.length + share ≤ cost + budget
                      omega

theorem Turn.markDequeued {s : State D} {other : Task} {stage : Stage} {budget : Nat}
    (turn : s.Turn share t back cost) (here : s.pc = .markDequeued other stage budget) :
    (s.markDequeued other stage budget).Turn share t back cost := by
  have same : ∀ place, (s.markDequeued other stage budget).reach place = s.reach place := fun place => by
    cases stage <;> simp only [State.reach, here] <;> rfl
  have stays := turn.stay (s.markDequeued other stage budget) 0 ?_ List.prefix_rfl
    List.prefix_rfl (Nat.le_refl _) List.prefix_rfl ?_ (fun place => Nat.le_of_eq (same place).symm)
  · simpa using stays
  · rintro (member | drained)
    · exact .inl (List.mem_append_left _ member)
    · rw [MidDrain, here] at drained
      cases drained
      exact .inl (List.mem_append_right _ List.mem_cons_self)
  · rw [here]
    cases stage <;> exact id

/-- **A drain begins**, and is paid for. -/
theorem Turn.spinTimer {s : State D} (turn : s.Turn share t back cost) (roomy : s.Roomy share)
    (here : s.pc = .spinTimer) :
    ∃ left, ({ s with batch := [], pc := .drain .nextTask s.batchSize } : State D).Turn share t back left ∧
      left + share ≤ cost := by
  have nothing : ∀ stage, s.reach stage = 0 := fun stage => by simp only [State.reach, here]
  have fits := roomy.inline
  have size := roomy.size
  have within : ∀ stage, share ≤
      ({ s with batch := [], pc := .drain .nextTask s.batchSize } : State D).reach stage := by
    intro stage
    show share ≤ s.batchSize - s.nextTask.length
    omega
  cases turn with
  | taken near =>
      rcases near with member | drained
      · rw [roomy.batched (by rw [here]; rfl)] at member
        cases member
      · rw [MidDrain, here] at drained
        cases drained
  | inline member enough =>
      have paid : share ≤ cost := enough.resolve_right (by rw [here]; exact Bool.false_ne_true)
      exact ⟨cost - share, .inline member (.inr rfl), by omega⟩
  | remote ahead behind queued enough =>
      rw [nothing] at enough
      refine ⟨cost - share, .remote ahead behind queued ?_, by omega⟩
      have := within .remoteQueue
      omega
  | main goes ahead behind queued enough =>
      rw [nothing] at enough
      refine ⟨cost - share, .main goes ahead behind queued ?_, by omega⟩
      have := within .queue
      show s.remoteQueue.length + ahead.length + share ≤ _
      omega

/-- The loop over the batch comes to another task. -/
theorem Turn.pollNext {s : State D} (turn : s.Turn share t back cost) (here : s.pc = .pollTasks)
    (passes : ¬ s.Begins t .advance) : s.pollNext.Turn share t back cost := by
  have plain : s.pc.draining = false := by rw [here]; rfl
  unfold State.pollNext
  cases batched : s.batch with
  | nil => exact turn.plain plain (by rw [batched]; exact id) List.prefix_rfl rfl List.prefix_rfl
  | cons other rest =>
      have later : t ∈ s.batch → t ∈ rest := by
        intro member
        rw [batched] at member
        refine (List.mem_cons.mp member).resolve_left ?_
        rintro rfl
        exact passes ⟨rfl, here, by rw [batched]; rfl⟩
      by_cases hasFuture : s.hasFuture other = true
      · simp only [if_pos hasFuture]
        exact turn.plain plain later List.prefix_rfl rfl List.prefix_rfl
      · simp only [if_neg hasFuture]
        exact turn.plain plain later List.prefix_rfl rfl List.prefix_rfl

theorem pushLocal_queues (s : State D) (other : Task) :
    s.nextTask <+: (s.pushLocal other).nextTask ∧ (s.pushLocal other).remoteQueue = s.remoteQueue := by
  unfold pushLocal
  split
  · exact ⟨List.prefix_append _ _, rfl⟩
  · exact ⟨List.prefix_rfl, rfl⟩

theorem Turn.waker {s : State D} {pc : WakerPc} (turn : s.Turn share t back cost) :
    (s.wakerStep pc).Turn share t back (cost + if back then remotePush s (.waker pc) else 0) := by
  obtain ⟨pcs, nextTask, queue, batch, -⟩ := wakerStep_frame s pc
  have same : ∀ stage, s.reach stage = (s.wakerStep pc).reach stage := fun stage => by
    simp only [State.reach, pcs, nextTask]
  refine turn.stay _ _ ?_ (nextTask ▸ List.prefix_rfl) ?_ ?_ (queue ▸ List.prefix_rfl) (by rw [pcs]; exact id)
    (fun stage => Nat.le_of_eq (same stage))
  · rintro (member | drained)
    · exact .inl (batch ▸ member)
    · exact .inr ((congrArg Pc.popped pcs).trans drained)
  · cases pc with
    | push other => exact List.prefix_append _ _
    | loadWaiting | swapPending | interrupt => exact List.prefix_rfl
  · cases pc with
    | push other =>
        show (s.remoteQueue ++ [other]).length ≤ s.remoteQueue.length + 1
        rw [List.length_append]
        exact Nat.le_refl _
    | loadWaiting | swapPending | interrupt => exact Nat.le_refl _

theorem Turn.advance {s s' : State D} (turn : s.Turn share t back cost) (roomy : s.Roomy share)
    (positive : 0 < share) (passes : ¬ s.Begins t .advance) (advances : Advance s s') :
    ∃ left, s'.Turn share t back left ∧ left + drainStart s .advance * share ≤ cost := by
  have unpaid : ∀ {place : Pc}, s.pc = place → place ≠ .spinTimer →
      cost + drainStart s .advance * share ≤ cost := by
    intro place here other
    simp [drainStart, here, other]
  cases advances with
  | spinTimer here =>
      obtain ⟨left, after, paid⟩ := turn.spinTimer roomy here
      refine ⟨left, after, ?_⟩
      simpa [drainStart, here] using paid
  | drain here => exact ⟨cost, turn.drain roomy positive here, unpaid here (by simp)⟩
  | markDequeued here => exact ⟨cost, turn.markDequeued here, unpaid here (by simp)⟩
  | pollTasks here => exact ⟨cost, turn.pollNext here passes, unpaid here (by simp)⟩
  | rootTaken here | rootIdle here | readyAgain here | notReady here | resetPending here | setWaiting here
  | readyLate here | stillNotReady here | skips here | stays here | timersWoken here | waited here
  | stopWaiting here | clearPending here | noFlush here | flushed here =>
      refine ⟨cost, ?_, unpaid here (by simp)⟩
      exact turn.plain (by rw [here]; rfl) id List.prefix_rfl rfl List.prefix_rfl

/-- **One step pays for the drain it begins.** -/
theorem Turn.step {s s' : State D} {l : Label D} (turn : s.Turn share t back cost) (roomy : s.Roomy share)
    (positive : 0 < share) (leaves : s.Leaves t l) (stepped : s.step l = some s') :
    ∃ left, s'.Turn share t back left ∧
      left + drainStart s l * share ≤ cost + if back then remotePush s l else 0 := by
  have same : ∀ {u : State D} {k : Label D}, u.Turn share t back cost → drainStart s k = 0 →
      ∃ left, u.Turn share t back left ∧
        left + drainStart s k * share ≤ cost + if back then remotePush s k else 0 := by
    intro u k after plain
    refine ⟨cost, after, ?_⟩
    rw [plain, Nat.zero_mul]
    exact Nat.le_add_right _ _
  cases step_cases stepped with
  | wakeTask | wakeRoot | kernel | localWake | localWakeRoot | call =>
      exact same (turn.still rfl rfl rfl rfl rfl) rfl
  | waker pc here => exact ⟨_, turn.waker, by simp [drainStart]⟩
  | localPush other half =>
      have foreign : s.pc.foreign = true := by
        cases place : s.pc.foreign with
        | true => rfl
        | false =>
            rw [roomy.held place] at half
            cases half
      obtain ⟨nextTask, remote⟩ := pushLocal_queues s other
      have batch := (keeps_pushLocal s other).2.2.2
      exact same (turn.plain (Pc.draining_of_foreign foreign) (fun member => batch ▸ member) nextTask remote
        (pushLocal_queue s other).1) rfl
  | spawn foreign =>
      exact same (turn.plain (Pc.draining_of_foreign foreign) id List.prefix_rfl rfl (List.prefix_append _ _)) rfl
  | enter here | rootPending here | rootDone here | timersFired here | blocks here | wait _ _ _ _ here
  | flush _ _ _ here | taskPolled _ _ here =>
      exact same (turn.plain (by rw [here]; rfl) id List.prefix_rfl rfl List.prefix_rfl) rfl
  | unwind foreign inside =>
      have unbatched : t ∈ s.batch → t ∈ [] := fun member => absurd ⟨rfl, member⟩ leaves.2
      exact same (turn.plain (Pc.draining_of_foreign foreign) unbatched List.prefix_rfl rfl List.prefix_rfl) rfl
  | advance s' advances =>
      obtain ⟨left, after, paid⟩ := turn.advance roomy positive leaves.1 advances
      exact ⟨left, after, Nat.le_trans paid (Nat.le_add_right _ _)⟩

/-- A run that leaves the task waiting has paid for all its drains. -/
theorem Turn.exec {s s' : State D} {labels : List (Label D)} (turn : s.Turn share t back cost)
    (roomy : s.Roomy share) (positive : 0 < share) (ran : (machine D).exec s labels = some s')
    (leaves : (machine D).AllSteps (Leaves t) s labels) :
    (machine D).total drainStart s labels * share ≤
      cost + (machine D).total (fun u l => if back then remotePush u l else 0) s labels := by
  obtain ⟨left, -, paid⟩ := Machine.total_le (M := machine D) (C := Leaves t)
    (fun n u => u.Turn share t back n ∧ u.Roomy share)
    (fun u l => drainStart u l * share) (fun u l => if back then remotePush u l else 0)
    (fun n u l u' budget leave stepped => by
      obtain ⟨left, after, paid⟩ := budget.1.step budget.2 positive leave stepped
      exact ⟨left, ⟨after, budget.2.step stepped⟩, paid⟩)
    ⟨turn, roomy⟩ ran leaves
  rw [Machine.total_mul] at paid
  omega

end State

open State

/-- **A queued task waits for boundedly many drains.**  In every run that does not come to
the task in its batch, with a share of the batch left over for the other queues, at most
one drain begins while the task is in the inline queue; in the remote queue every drain
takes it a share forward; and in the main queue too, where each push by another thread
sends it back by one place. -/
theorem served_in_turn {s s' : State D} {labels : List (Label D)} (reachable : (machine D).Reachable s)
    (large : NEXT_TASK_INLINE_CAP < s.batchSize) (t : Task) (ran : (machine D).exec s labels = some s')
    (leaves : (machine D).AllSteps (Leaves t) s labels) :
    (t ∈ s.nextTask → (machine D).total drainStart s labels ≤ 1) ∧
      (∀ ahead behind, s.remoteQueue = ahead ++ t :: behind →
        (machine D).total drainStart s labels * (s.batchSize - NEXT_TASK_INLINE_CAP) ≤
          ahead.length + (s.batchSize - NEXT_TASK_INLINE_CAP)) ∧
      ∀ ahead behind, s.queue = ahead ++ t :: behind →
        (machine D).total drainStart s labels * (s.batchSize - NEXT_TASK_INLINE_CAP) ≤
          s.remoteQueue.length + ahead.length + (s.batchSize - NEXT_TASK_INLINE_CAP) +
            (machine D).total remotePush s labels := by
  have roomy := roomy_of_reachable reachable large
  have positive : 0 < s.batchSize - NEXT_TASK_INLINE_CAP := Nat.sub_pos_of_lt large
  generalize s.batchSize - NEXT_TASK_INLINE_CAP = share at roomy positive ⊢
  refine ⟨fun inlined => ?_, fun ahead behind queued => ?_, fun ahead behind queued => ?_⟩
  · have turn : s.Turn share t false share := .inline inlined (.inl (Nat.le_refl _))
    have paid := turn.exec roomy positive ran leaves
    simp only [Bool.false_eq_true, if_false, Machine.total_zero, Nat.add_zero] at paid
    exact Nat.le_of_mul_le_mul_right (by rw [Nat.one_mul]; exact paid) positive
  · have turn : s.Turn share t false (ahead.length + share) :=
      .remote ahead behind queued (Nat.le_add_right _ _)
    have paid := turn.exec roomy positive ran leaves
    simpa only [Bool.false_eq_true, if_false, Machine.total_zero, Nat.add_zero] using paid
  · have turn : s.Turn share t true (s.remoteQueue.length + ahead.length + share) :=
      .main rfl ahead behind queued (Nat.le_add_right _ _)
    have paid := turn.exec roomy positive ran leaves
    simpa only [if_true] using paid

def justSpawned : State mockDriver := (State.withOptions () 9).spawn

/-- A spawned task sees the drain that takes it begin, and no other before its poll. -/
theorem served_in_turn_spawned :
    ∃ s', (machine mockDriver).exec (.withOptions () 9) [.spawn] = some justSpawned ∧
    (machine mockDriver).exec justSpawned [.enter, .advance, .polled true, .advance] = some s' ∧
    (machine mockDriver).total drainStart justSpawned [.enter, .advance, .polled true, .advance] = 1 ∧
    (machine mockDriver).total drainStart justSpawned [.enter, .advance, .polled true, .advance] * 1 ≤
      0 + 0 + 1 + 0 := by
  have reachable : (machine mockDriver).Reachable justSpawned := ⟨_, [.spawn], ⟨(), 9, rfl⟩, rfl⟩
  refine ⟨_, rfl, rfl, rfl, ?_⟩
  refine (served_in_turn reachable (by decide) 0 rfl ?_).2.2 [] [] rfl
  -- the loop is not at a batch anywhere in this run
  refine ⟨⟨fun begins => (by cases begins.1), fun drops => (by cases drops.1)⟩, ?_⟩
  rintro _ ⟨⟩
  refine ⟨⟨fun begins => (by cases begins.2.1), fun drops => (by cases drops.1)⟩, ?_⟩
  rintro _ ⟨⟩
  refine ⟨⟨fun begins => (by cases begins.1), fun drops => (by cases drops.1)⟩, ?_⟩
  rintro _ ⟨⟩
  refine ⟨⟨fun begins => (by cases begins.2.1), fun drops => (by cases drops.1)⟩, ?_⟩
  rintro _ ⟨⟩
  trivial

end Vibeio.Executor
