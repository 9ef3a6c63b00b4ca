/-
# Executor.ReadyQueue -- every woken task is queued, once

A task has a token wherever the runtime holds it to be polled: in one of the three
queues, with a waker between its swap of `queued` and its push, or with `drain_ready`
between its pop and `mark_dequeued`.

* `TokenStep`, `step_tokens`: a step moves a token, creates one together with raising
  the task's flag, or removes one together with lowering it.
* `Balanced`: the number of tokens is what the flag says.
* `ready_queue_sound`: the results for every reachable state, and for every wake from
  there on.
-/
import Vibeio.Executor.Model

namespace Vibeio.Executor

open Vibeio.Theory

set_option autoImplicit false

/-- The task `drain_ready` has popped and not marked yet. -/
def Pc.popped : Pc → Option Task
  | .markDequeued task _ _ => some task
  | _ => none

/-- The label begins a wake of `task`. -/
def Label.Wakes {D : DriverApi} (task : Task) : Label D → Prop
  | .wakeTask t | .localWake t => t = task
  | _ => False

namespace State

variable {D : DriverApi}

/-- How often a task occurs in the queues. -/
def inQueues (s : State D) (t : Task) : Nat :=
  s.nextTask.count t + s.remoteQueue.count t + s.queue.count t

def InQueue (s : State D) (t : Task) : Prop := t ∈ s.nextTask ∨ t ∈ s.remoteQueue ∨ t ∈ s.queue

/-- A waker is between its swap and its push. -/
def MidPush (s : State D) (t : Task) : Prop := .push t ∈ s.wakers ∨ s.localWake = some t

/-- `drain_ready` is between its pop and `mark_dequeued`. -/
def MidDrain (s : State D) (t : Task) : Prop := s.pc.popped = some t

/-- The step pops `t`. -/
def Pops (t : Task) (s : State D) (l : Label D) : Prop :=
  l = .advance ∧ ∃ stage budget popped, s.pc = .drain stage (budget + 1) ∧ s.pop stage = some (t, popped)

/-! ## Tokens -/

def pushing (s : State D) (t : Task) : Nat :=
  s.wakers.count (.push t) + s.localWake.toList.count t

def tokens (s : State D) (t : Task) : Nat :=
  s.inQueues t + s.pushing t + s.pc.popped.toList.count t

/-- The inline queue stays within its capacity. -/
def Inline (s s' : State D) : Prop :=
  s.nextTask.length ≤ NEXT_TASK_INLINE_CAP → s'.nextTask.length ≤ NEXT_TASK_INLINE_CAP

/-- What a step can do to the flags and the tokens. -/
inductive TokenStep (s : State D) (l : Label D) (s' : State D) : Prop where
  /-- Tokens move, if anything, towards the queues. -/
  | moved (flags : s'.queued = s.queued) (tokens : ∀ t, s'.tokens t = s.tokens t)
      (spawned : s'.spawned = s.spawned) (popped : s'.pc.popped = s.pc.popped) (inline : Inline s s')
  | popped (task : Task) (pops : s.Pops task l) (flags : s'.queued = s.queued)
      (tokens : ∀ t, s'.tokens t = s.tokens t) (spawned : s'.spawned = s.spawned)
      (popped : s'.pc.popped = some task) (inline : Inline s s')
  | raised (task : Task) (clear : s.queued task = false ∨ s.spawned ≤ task)
      (flags : s'.queued = Function.update s.queued task true)
      (tokens : ∀ t, s'.tokens t = s.tokens t + if t = task then 1 else 0)
      (spawned : s.spawned ≤ s'.spawned) (known : task < s'.spawned)
      (popped : s'.pc.popped = s.pc.popped) (inline : Inline s s')
  | marked (task : Task) (held : s.MidDrain task)
      (flags : s'.queued = Function.update s.queued task false)
      (tokens : ∀ t, s'.tokens t + (if t = task then 1 else 0) = s.tokens t)
      (spawned : s'.spawned = s.spawned) (popped : s'.pc.popped = none) (inline : Inline s s')

/-- A step that touches neither a flag, a queue nor a waker. -/
theorem TokenStep.untouched {s s' : State D} {l : Label D} (flags : s'.queued = s.queued)
    (nextTask : s'.nextTask = s.nextTask) (remoteQueue : s'.remoteQueue = s.remoteQueue)
    (queue : s'.queue = s.queue) (wakers : s'.wakers = s.wakers) (localWake : s'.localWake = s.localWake)
    (spawned : s'.spawned = s.spawned) (popped : s'.pc.popped = s.pc.popped) : TokenStep s l s' := by
  refine .moved flags (fun t => ?_) spawned popped ?_
  · simp only [tokens, inQueues, pushing, nextTask, remoteQueue, queue, wakers, localWake, popped]
  · intro fits
    rw [nextTask]
    exact fits

theorem count_front {queue rest : List Task} {task : Task} (front : queue = task :: rest) (t : Task) :
    queue.count t = rest.count t + if t = task then 1 else 0 := by
  simp only [front, List.count_cons, beq_iff_eq, eq_comm (a := task)]

/-- One occurrence leaves a stage's queue, and nothing else changes. -/
theorem pop_tokens {s popped : State D} {stage : Stage} {task : Task}
    (pops : s.pop stage = some (task, popped)) :
    (∀ t, s.inQueues t = popped.inQueues t + if t = task then 1 else 0) ∧
      popped.queued = s.queued ∧ popped.wakers = s.wakers ∧ popped.localWake = s.localWake ∧
      popped.spawned = s.spawned ∧ popped.nextTask.length ≤ s.nextTask.length := by
  cases stage with
  | nextTask =>
      simp only [pop] at pops
      split at pops <;> cases pops
      rename_i rest here
      refine ⟨fun t => ?_, rfl, rfl, rfl, rfl, ?_⟩
      · simp only [inQueues, count_front here t]
        omega
      · simp [here]
  | remoteQueue =>
      simp only [pop] at pops
      split at pops <;> cases pops
      rename_i rest here
      refine ⟨fun t => ?_, rfl, rfl, rfl, rfl, Nat.le_refl _⟩
      simp only [inQueues, count_front here t]
      omega
  | queue =>
      simp only [pop] at pops
      split at pops <;> cases pops
      rename_i rest here
      refine ⟨fun t => ?_, rfl, rfl, rfl, rfl, Nat.le_refl _⟩
      simp only [inQueues, count_front here t]
      omega

/-! ## One step -/

theorem tokens_enqueueIfNeededRemote (s : State D) {task : Task} (known : task < s.spawned) (l : Label D) :
    TokenStep s l (s.enqueueIfNeededRemote task) := by
  cases flag : s.queued task with
  | true =>
      refine .moved ?_ (fun t => ?_) rfl rfl id
      · show Function.update s.queued task true = s.queued
        rw [← flag, Function.update_eq_self]
      · simp [tokens, inQueues, pushing, enqueueIfNeededRemote, flag]
  | false =>
      refine .raised task (.inl flag) rfl (fun t => ?_) (Nat.le_refl _) known rfl id
      simp only [tokens, inQueues, pushing, enqueueIfNeededRemote, flag, Bool.false_eq_true, if_false,
        List.count_cons, beq_iff_eq, WakerPc.push.injEq, eq_comm (a := task)]
      omega

theorem tokens_enqueueIfNeededLocal (s : State D) (free : s.Free) {task : Task} (known : task < s.spawned)
    (l : Label D) : TokenStep s l (s.enqueueIfNeededLocal task) := by
  have idle : s.localWake = none := free
  cases flag : s.queued task with
  | true =>
      refine .moved ?_ (fun t => ?_) rfl rfl id
      · show Function.update s.queued task true = s.queued
        rw [← flag, Function.update_eq_self]
      · simp [tokens, inQueues, pushing, enqueueIfNeededLocal, flag, idle]
  | false =>
      refine .raised task (.inl flag) rfl (fun t => ?_) (Nat.le_refl _) known rfl id
      simp only [tokens, inQueues, pushing, enqueueIfNeededLocal, flag, idle, Bool.false_eq_true, if_false,
        Option.toList, List.count_singleton, List.count_nil, beq_iff_eq, eq_comm (a := task)]
      omega

theorem tokens_pushLocal {s : State D} {task : Task} (here : s.localWake = some task) (l : Label D) :
    TokenStep s l (s.pushLocal task) := by
  unfold pushLocal
  split
  · rename_i room
    refine .moved rfl (fun t => ?_) rfl rfl (fun _ => ?_)
    · simp only [tokens, inQueues, pushing, here, List.count_append, Option.toList, List.count_nil]
      omega
    · show (s.nextTask ++ [task]).length ≤ NEXT_TASK_INLINE_CAP
      rw [List.length_append]
      exact room
  · refine .moved rfl (fun t => ?_) rfl rfl id
    simp only [tokens, inQueues, pushing, here, List.count_append, Option.toList, List.count_nil]
    omega

theorem tokens_spawn (s : State D) (l : Label D) : TokenStep s l s.spawn := by
  refine .raised s.spawned (.inr (Nat.le_refl _)) rfl (fun t => ?_) (Nat.le_succ _)
    (Nat.lt_succ_self _) rfl id
  simp only [tokens, inQueues, pushing, spawn, List.count_append, List.count_singleton, beq_iff_eq,
    eq_comm (a := s.spawned)]
  omega

/-- Past its push a waker holds no token. -/
theorem tokens_moveWaker (s : State D) {pc : WakerPc} {next : Option WakerPc} (past : pc.pastPush = true)
    (onward : ∀ w ∈ next, w.pastPush = true) (t : Task) : (s.moveWaker pc next).tokens t = s.tokens t := by
  have unheld : .push t ≠ pc := by rintro rfl; cases past
  have none_next : next.toList.count (.push t) = 0 := by
    rw [List.count_eq_zero]
    intro member
    have := onward _ (Option.mem_toList.mp member)
    cases this
  simp only [tokens, inQueues, pushing, moveWaker, List.count_append, none_next, List.count_erase_of_ne unheld,
    Nat.zero_add]

theorem tokens_wakerStep {s : State D} {pc : WakerPc} (here : pc ∈ s.wakers) (l : Label D) :
    TokenStep s l (s.wakerStep pc) := by
  cases pc with
  | push task =>
      refine .moved rfl (fun t => ?_) rfl rfl id
      have held : 0 < s.wakers.count (.push task) := List.count_pos_iff.mpr here
      simp only [tokens, inQueues, pushing, wakerStep, moveWaker, Option.toList_some, List.cons_append,
        List.nil_append, List.count_append, List.count_cons, List.count_nil, List.count_erase, beq_iff_eq,
        reduceCtorEq, if_false, WakerPc.push.injEq]
      by_cases same : task = t
      · subst same
        simp only [if_true]
        omega
      · simp only [same, if_false]
        omega
  | loadWaiting =>
      refine .moved rfl (fun t => s.tokens_moveWaker rfl (fun w member => ?_) t) rfl rfl id
      split at member <;> cases member
      rfl
  | swapPending =>
      refine .moved rfl (fun t => s.tokens_moveWaker rfl (fun w member => ?_) t) rfl rfl id
      split at member <;> cases member
      rfl
  | interrupt =>
      exact .moved rfl (s.tokens_moveWaker rfl (by simp)) rfl rfl id

/-- `drain_ready` up to its next store. -/
theorem tokens_drainReadyStep {s : State D} {stage : Stage} {budget : Nat} (here : s.pc = .drain stage budget) :
    TokenStep s .advance (s.drainReadyStep stage budget) := by
  have unpopped : s.pc.popped = none := by rw [here]; rfl
  have ended : TokenStep s .advance s.endDrain := by
    refine .untouched rfl rfl rfl rfl rfl rfl rfl ?_
    rw [unpopped]
    unfold endDrain
    cases s.batch <;> rfl
  cases budget with
  | zero => exact ended
  | succ budget =>
      simp only [drainReadyStep]
      cases pops : s.pop stage with
      | none =>
          cases stage with
          | nextTask => exact .untouched rfl rfl rfl rfl rfl rfl rfl unpopped.symm
          | remoteQueue => exact .untouched rfl rfl rfl rfl rfl rfl rfl unpopped.symm
          | queue => exact ended
      | some result =>
          obtain ⟨task, after⟩ := result
          obtain ⟨counts, flags, wakers, localWake, spawned, shorter⟩ := pop_tokens pops
          refine .popped task ⟨rfl, stage, budget, after, here, pops⟩ flags (fun t => ?_) spawned rfl
            (Nat.le_trans shorter)
          have := counts t
          have held : List.count t (Pc.markDequeued task stage budget).popped.toList = if t = task then 1 else 0 := by
            simp only [Pc.popped, Option.toList_some, List.count_singleton, beq_iff_eq, eq_comm (a := t)]
          simp only [tokens, pushing, inQueues, wakers, localWake, unpopped, held, Option.toList_none,
            List.count_nil] at this ⊢
          omega

theorem tokens_markDequeued {s : State D} {task : Task} {stage : Stage} {budget : Nat}
    (here : s.pc = .markDequeued task stage budget) (l : Label D) :
    TokenStep s l (s.markDequeued task stage budget) := by
  refine .marked task (by rw [MidDrain, here]; rfl) rfl (fun t => ?_) rfl rfl id
  have held : List.count t s.pc.popped.toList = if t = task then 1 else 0 := by
    simp only [here, Pc.popped, Option.toList_some, List.count_singleton, beq_iff_eq, eq_comm (a := t)]
  have let_go : (s.markDequeued task stage budget).pc.popped = none := rfl
  simp only [tokens, held, let_go, Option.toList_none, List.count_nil, Nat.add_zero]
  rfl

theorem tokens_pollNext {s : State D} (here : s.pc = .pollTasks) (l : Label D) : TokenStep s l s.pollNext := by
  unfold pollNext
  split
  · exact .untouched rfl rfl rfl rfl rfl rfl rfl (by rw [here]; rfl)
  · split
    · exact .untouched rfl rfl rfl rfl rfl rfl rfl (by rw [here]; rfl)
    · exact .untouched rfl rfl rfl rfl rfl rfl rfl rfl

theorem tokens_advance {s s' : State D} (advances : Advance s s') : TokenStep s .advance s' := by
  cases advances with
  | drain here => exact tokens_drainReadyStep here
  | markDequeued here => exact tokens_markDequeued here _
  | pollTasks here => exact tokens_pollNext here _
  | rootTaken here | rootIdle here | spinTimer here | readyAgain here | notReady here | resetPending here
  | setWaiting here | readyLate here | stillNotReady here | skips here | stays here | timersWoken here
  | waited here | stopWaiting here | clearPending here | noFlush here | flushed here =>
      -- these go on to another position where nothing is popped
      exact .untouched rfl rfl rfl rfl rfl rfl rfl (by rw [here]; rfl)

/-- **A step moves a token, raises a flag with a new one, or lowers it with the last.** -/
theorem step_tokens {s s' : State D} {l : Label D} (stepped : s.step l = some s') : TokenStep s l s' := by
  cases step_cases stepped with
  | wakeTask task known => exact s.tokens_enqueueIfNeededRemote known _
  | wakeRoot current =>
      refine .moved rfl (fun t => ?_) rfl rfl id
      simp [tokens, inQueues, pushing, wakeByRefRemote]
  | waker pc here => exact tokens_wakerStep here _
  | localWake task free foreign known => exact s.tokens_enqueueIfNeededLocal free known _
  | localPush task held => exact tokens_pushLocal held _
  | spawn => exact s.tokens_spawn _
  | advance s' advances => exact tokens_advance advances
  | kernel | localWakeRoot | call => exact .untouched rfl rfl rfl rfl rfl rfl rfl rfl
  | enter here | rootPending here | rootDone here | taskPolled _ _ here | timersFired here | blocks here
  | wait _ _ _ _ here | flush _ _ _ here =>
      exact .untouched rfl rfl rfl rfl rfl rfl rfl (by rw [here]; rfl)
  | unwind foreign inside =>
      refine .untouched rfl rfl rfl rfl rfl rfl rfl ?_
      revert foreign
      cases s.pc <;> simp [Pc.foreign, Pc.popped]

/-! ## The invariant -/

/-- A task has a token exactly if its flag is set. -/
structure Balanced (s : State D) : Prop where
  balance : ∀ t, s.tokens t = (s.queued t).toNat
  unborn : ∀ t, s.spawned ≤ t → s.queued t = false
  inline : s.nextTask.length ≤ NEXT_TASK_INLINE_CAP

theorem balanced_withOptions (driver : D.State) (batchSize : Nat) : Balanced (withOptions driver batchSize) :=
  ⟨fun _ => rfl, fun _ _ => rfl, Nat.zero_le _⟩

theorem Balanced.same {s s' : State D} (balanced : Balanced s) (flags : s'.queued = s.queued)
    (tokens : ∀ t, s'.tokens t = s.tokens t) (spawned : s'.spawned = s.spawned) (inline : Inline s s') :
    Balanced s' := by
  refine ⟨fun t => ?_, fun t => ?_, inline balanced.inline⟩
  · rw [tokens, flags, balanced.balance]
  · rw [spawned, flags]
    exact balanced.unborn t

theorem Balanced.step {s s' : State D} {l : Label D} (balanced : Balanced s) (stepped : s.step l = some s') :
    Balanced s' := by
  cases step_tokens stepped with
  | moved flags tokens spawned popped inline => exact balanced.same flags tokens spawned inline
  | popped task pops flags tokens spawned popped inline => exact balanced.same flags tokens spawned inline
  | raised task clear flags tokens spawned known popped inline =>
      have down : s.queued task = false := clear.elim id (balanced.unborn task)
      refine ⟨fun t => ?_, fun t unborn => ?_, inline balanced.inline⟩
      · rw [tokens, flags, balanced.balance, Function.update_apply]
        split
        · rename_i same
          rw [same, down]
          rfl
        · rfl
      · have apart : t ≠ task := Nat.ne_of_gt (Nat.lt_of_lt_of_le known unborn)
        rw [flags, Function.update_of_ne apart]
        exact balanced.unborn t (Nat.le_trans spawned unborn)
  | marked task held flags tokens spawned popped inline =>
      have before := balanced.balance
      refine ⟨fun t => ?_, fun t unborn => ?_, inline balanced.inline⟩
      · have less := tokens t
        rw [before] at less
        rw [flags, Function.update_apply]
        split at less
        · -- the token that goes is the only one the flag allows
          rename_i same
          have most := Bool.toNat_le (s.queued t)
          rw [if_pos same]
          show s'.tokens t = 0
          omega
        · rename_i apart
          rw [if_neg apart]
          exact less
      · rw [flags, Function.update_apply]
        split
        · rfl
        · exact balanced.unborn t (spawned ▸ unborn)

theorem balanced_of_reachable {s : State D} (reachable : (machine D).Reachable s) : Balanced s := by
  refine Machine.invariant (M := machine D) ?_ ?_ reachable
  · rintro s ⟨driver, batchSize, rfl⟩
    exact balanced_withOptions driver batchSize
  · intro s l s' balanced stepped
    exact balanced.step stepped

theorem inQueue_of_pos {s : State D} {t : Task} (some_queue : 0 < s.inQueues t) : s.InQueue t := by
  simp only [InQueue, ← List.count_pos_iff]
  unfold inQueues at some_queue
  omega

theorem midPush_of_pos {s : State D} {t : Task} (some_waker : 0 < s.pushing t) : s.MidPush t := by
  unfold pushing at some_waker
  by_cases remote : 0 < s.wakers.count (.push t)
  · exact .inl (List.count_pos_iff.mp remote)
  · have here : 0 < s.localWake.toList.count t := by omega
    exact .inr (Option.mem_toList.mp (List.count_pos_iff.mp here))

theorem Balanced.inQueues_le {s : State D} (balanced : Balanced s) (t : Task) : s.inQueues t ≤ 1 := by
  have total := balanced.balance t
  have most := Bool.toNat_le (s.queued t)
  unfold tokens at total
  omega

theorem Balanced.placed {s : State D} (balanced : Balanced s) {t : Task} (flag : s.queued t = true) :
    s.InQueue t ∨ s.MidPush t ∨ s.MidDrain t := by
  have total := balanced.balance t
  rw [flag] at total
  by_cases queues : 0 < s.inQueues t
  · exact .inl (inQueue_of_pos queues)
  · by_cases wakers : 0 < s.pushing t
    · exact .inr (.inl (midPush_of_pos wakers))
    · have drained : 0 < s.pc.popped.toList.count t := by
        simp only [tokens, Bool.toNat_true] at total
        omega
      exact .inr (.inr (Option.mem_toList.mp (List.count_pos_iff.mp drained)))

/-! ## From a wake on -/

/-- A wake of `t` is owed a poll that `drain_ready` has not begun to pay. -/
structure Owed (t : Task) (s : State D) : Prop where
  balanced : Balanced s
  flag : s.queued t = true
  unpopped : ¬ s.MidDrain t

theorem Owed.placed {t : Task} {s : State D} (owed : Owed t s) : s.InQueue t ∨ s.MidPush t := by
  rcases owed.balanced.placed owed.flag with queued | pushing | drained
  · exact .inl queued
  · exact .inr pushing
  · exact absurd drained owed.unpopped

/-- Only a pop of the task takes it out of the queues. -/
theorem Owed.step {t : Task} {s s' : State D} {l : Label D} (owed : Owed t s) (kept : ¬ s.Pops t l)
    (stepped : s.step l = some s') : Owed t s' := by
  refine ⟨owed.balanced.step stepped, ?_, ?_⟩
  · cases step_tokens stepped with
    | moved flags => rw [flags]; exact owed.flag
    | popped task pops flags => rw [flags]; exact owed.flag
    | raised task clear flags =>
        rw [flags, Function.update_apply]
        split
        · rfl
        · exact owed.flag
    | marked task held flags =>
        have apart : t ≠ task := by
          rintro rfl
          exact owed.unpopped held
        rw [flags, Function.update_of_ne apart]
        exact owed.flag
  · intro drained
    unfold MidDrain at drained
    cases step_tokens stepped with
    | moved _ _ _ popped => exact owed.unpopped (popped.symm.trans drained)
    | popped task pops _ _ _ popped =>
        cases Option.some.inj (popped.symm.trans drained)
        exact kept pops
    | raised _ _ _ _ _ _ popped => exact owed.unpopped (popped.symm.trans drained)
    | marked _ _ _ _ _ popped => cases popped.symm.trans drained

/-- A wake outside the window between pop and `mark_dequeued` is owed its poll. -/
theorem owed_of_wakes {t : Task} {s s' : State D} {l : Label D} (balanced : Balanced s) (wakes : l.Wakes t)
    (unpopped : ¬ s.MidDrain t) (stepped : s.step l = some s') : Owed t s' := by
  have kept := balanced.step stepped
  cases step_cases stepped with
  | wakeTask task =>
      cases wakes
      exact ⟨kept, Function.update_self _ _ _, unpopped⟩
  | localWake task =>
      cases wakes
      exact ⟨kept, Function.update_self _ _ _, unpopped⟩
  | _ => cases wakes

/-- The next step of the waker that holds the task. -/
def PushStep (t : Task) (l : Label D) : Prop := l = .waker (.push t) ∨ l = .localPush

theorem midPush_queues {s : State D} {t : Task} (held : s.MidPush t) :
    ∃ l s', PushStep t l ∧ s.step l = some s' ∧ s'.InQueue t := by
  rcases held with remote | here
  · refine ⟨.waker (.push t), s.wakerStep (.push t), .inl rfl, if_pos remote, .inr (.inl ?_)⟩
    exact List.mem_append_right _ List.mem_cons_self
  · refine ⟨.localPush, s.pushLocal t, .inr rfl, ?_, ?_⟩
    · simp only [State.step, here, Option.map_some]
    · unfold pushLocal
      split
      · exact .inl (List.mem_append_right _ List.mem_cons_self)
      · exact .inr (.inr (List.mem_append_right _ List.mem_cons_self))

end State

open State

/-- **Every woken task is queued, once.**  In every reachable state a task occurs at
most once over the three queues, the inline queue is within its capacity, and a task
whose flag is set is in a queue or in the hands of a waker or of `drain_ready`.  After
a wake that does not fall between a pop of the task and its `mark_dequeued`, the task
is in a queue, or a waker is about to push it, for as long as it is not popped; and
the next step of such a waker does put it in a queue. -/
theorem ready_queue_sound {D : DriverApi} {s : State D} (reachable : (machine D).Reachable s) :
    (∀ t, s.inQueues t ≤ 1) ∧ s.nextTask.length ≤ NEXT_TASK_INLINE_CAP ∧
      (∀ t, s.queued t = true → s.InQueue t ∨ s.MidPush t ∨ s.MidDrain t) ∧
      (∀ t l s' labels, Label.Wakes t l → ¬ s.MidDrain t → s.step l = some s' →
        (machine D).AllSteps (fun u k => ¬ u.Pops t k) s' labels →
        (machine D).Throughout (fun u => u.InQueue t ∨ u.MidPush t) s' labels) ∧
      ∀ t, s.MidPush t → ∃ l s', PushStep t l ∧ s.step l = some s' ∧ s'.InQueue t := by
  have balanced := balanced_of_reachable reachable
  refine ⟨balanced.inQueues_le, balanced.inline, fun t flag => balanced.placed flag, ?_,
    fun t held => midPush_queues held⟩
  intro t l s' labels wakes unpopped stepped kept
  exact Machine.throughout_of_allSteps (M := machine D) (I := Owed t)
    (fun _ _ _ owed unpops again => owed.step unpops again) (fun _ owed => owed.placed)
    (owed_of_wakes balanced wakes unpopped stepped) kept

/-- One task is spawned, drained and marked; then another thread wakes it. -/
def wokenAfterMark : List (Label mockDriver) :=
  [.spawn, .enter, .advance, .polled true, .advance, .advance, .advance, .advance, .advance, .wakeTask 0]

theorem ready_queue_sound_woken : ∃ s, (machine mockDriver).exec (.withOptions () 4) wokenAfterMark = some s ∧
    s.queued 0 = true ∧ (s.InQueue 0 ∨ s.MidPush 0 ∨ s.MidDrain 0) :=
  ⟨_, rfl, rfl, (ready_queue_sound ⟨_, wokenAfterMark, ⟨(), 4, rfl⟩, rfl⟩).2.2.1 0 rfl⟩

end Vibeio.Executor
