/-
# Executor.Delivery -- from a wake to the poll it asks for

A woken task is on its way to a poll: in one of the three queues, with a waker about to
push it, in the hands of `drain_ready`, or in the batch.

* `BatchStep`, `step_batch`: what a step can do to the batch.
* `Slated.step`: only the poll itself, and a panic while the task is in the batch, end
  the way.  `no_wake_is_lost` is this over whole runs, for wakes at any moment, those
  between a pop and its `mark_dequeued` included.
* `Over`: the future of a task is gone for good.  `task_life`: it goes in the step in
  which its poll returns `Ready` or panics, and is polled by nobody afterwards.
-/
import Vibeio.Executor.MainQueue

namespace Vibeio.Executor

open Vibeio.Theory

set_option autoImplicit false

variable {D : DriverApi}

namespace State

/-- A poll of `t` is to come. -/
def Slated (s : State D) (t : Task) : Prop := s.InQueue t ∨ s.MidPush t ∨ s.MidDrain t ∨ t ∈ s.batch

/-- The loop over the batch comes to `t`. -/
def Begins (t : Task) (s : State D) (l : Label D) : Prop :=
  l = .advance ∧ s.pc = .pollTasks ∧ s.batch.head? = some t

/-- A panic of another future finds `t` in the batch. -/
def Drops (t : Task) (s : State D) (l : Label D) : Prop := l = .unwind ∧ t ∈ s.batch

/-- `t` is left where it waits. -/
def Leaves (t : Task) (s : State D) (l : Label D) : Prop := ¬ s.Begins t l ∧ ¬ s.Drops t l

/-- A wake of `t`, the one by its spawn included. -/
def Calls (t : Task) (s : State D) (l : Label D) : Prop := l.Wakes t ∨ (l = .spawn ∧ t = s.spawned)

/-! ## The batch -/

inductive BatchStep (s : State D) (l : Label D) (s' : State D) : Prop where
  | kept (batch : s'.batch = s.batch) (pc : s.pc.batching = true → s'.pc.batching = true)
  | cleared (here : l = .advance ∧ s.pc = .spinTimer) (batch : s'.batch = [])
  | marked (task : Task) (held : s.MidDrain task) (batch : s'.batch = s.batch ++ [task])
      (pc : s'.pc.batching = true)
  /-- `drain_ready` has found nothing, or the batch is done. -/
  | empty (before : s.batch = []) (batch : s'.batch = [])
  | polled (task : Task) (begins : s.Begins task l) (batch : s.batch = task :: s'.batch)
      (pc : s'.pc.batching = true)
  | unwound (panics : l = .unwind) (batch : s'.batch = [])

theorem batch_endDrain (s : State D) (l : Label D) : BatchStep s l s.endDrain := by
  unfold endDrain
  cases batched : s.batch with
  | nil => exact .empty batched rfl
  | cons task rest => exact .kept batched.symm (fun _ => rfl)

theorem batch_drainReadyStep (s : State D) (stage : Stage) (budget : Nat) (l : Label D) :
    BatchStep s l (s.drainReadyStep stage budget) := by
  cases budget with
  | zero => exact batch_endDrain s l
  | succ budget =>
      simp only [drainReadyStep]
      cases pops : s.pop stage with
      | none =>
          cases stage with
          | nextTask | remoteQueue => exact .kept rfl (fun _ => rfl)
          | queue => exact batch_endDrain s l
      | some result =>
          obtain ⟨task, after⟩ := result
          have same : after.batch = s.batch := by
            cases stage <;> simp only [pop] at pops <;> split at pops <;> cases pops <;> rfl
          exact .kept same (fun _ => rfl)

theorem batch_pollNext {s : State D} (here : s.pc = .pollTasks) : BatchStep s .advance s.pollNext := by
  unfold pollNext
  cases batched : s.batch with
  | nil => exact .empty batched rfl
  | cons task rest =>
      have begins : s.Begins task .advance := ⟨rfl, here, by rw [batched]; rfl⟩
      by_cases hasFuture : s.hasFuture task = true
      · simp only [if_pos hasFuture]
        exact .polled task begins batched rfl
      · simp only [if_neg hasFuture]
        exact .polled task begins batched (by rw [here]; rfl)

theorem batch_advance {s s' : State D} (advances : Advance s s') : BatchStep s .advance s' := by
  cases advances with
  | spinTimer here => exact .cleared ⟨rfl, here⟩ rfl
  | drain here => exact batch_drainReadyStep s _ _ _
  | markDequeued here => exact .marked _ (by rw [MidDrain, here]; rfl) rfl rfl
  | pollTasks here => exact batch_pollNext here
  | rootTaken here | rootIdle here | readyAgain here | notReady here | resetPending here | setWaiting here
  | readyLate here | stillNotReady here | skips here | stays here | timersWoken here | waited here
  | stopWaiting here | clearPending here | noFlush here | flushed here =>
      exact .kept rfl (fun batching => by rw [here] at batching; cases batching)

theorem step_batch {s s' : State D} {l : Label D} (stepped : s.step l = some s') : BatchStep s l s' := by
  cases step_cases stepped with
  | waker pc here =>
      obtain ⟨pcs, -, -, batch, -⟩ := wakerStep_frame s pc
      exact .kept batch (fun batching => pcs ▸ batching)
  | localPush task held =>
      obtain ⟨-, -, pcs, batch⟩ := keeps_pushLocal s task
      exact .kept batch (fun batching => pcs ▸ batching)
  | wakeTask | wakeRoot | kernel | localWake | localWakeRoot | call | spawn => exact .kept rfl id
  | enter here | rootPending here | rootDone here | timersFired here | blocks here | wait _ _ _ _ here
  | flush _ _ _ here => exact .kept rfl (fun batching => by rw [here] at batching; cases batching)
  | taskPolled task pending here => exact .kept rfl (fun _ => rfl)
  | advance s' advances => exact batch_advance advances
  | unwind => exact .unwound rfl rfl

/-- Where the batch is neither filled nor polled, it is empty. -/
def Batched (s : State D) : Prop := s.pc.batching = false → s.batch = []

theorem Batched.step {s s' : State D} {l : Label D} (batched : s.Batched) (stepped : s.step l = some s') :
    s'.Batched := by
  intro away
  cases step_batch stepped with
  | kept batch pc =>
      rw [batch]
      apply batched
      cases before : s.pc.batching with
      | false => rfl
      | true => rw [pc before] at away; cases away
  | cleared _ batch | empty _ batch | unwound _ batch => exact batch
  | marked _ _ _ pc | polled _ _ _ pc => rw [pc] at away; cases away

theorem batched_of_reachable {s : State D} (reachable : (machine D).Reachable s) : s.Batched := by
  refine Machine.invariant (M := machine D) ?_ (fun _ _ _ batched stepped => batched.step stepped) reachable
  rintro s ⟨driver, batchSize, rfl⟩
  exact fun _ => rfl

/-! ## Until the poll -/

theorem held_iff {s : State D} {t : Task} : 0 < s.tokens t ↔ s.InQueue t ∨ s.MidPush t ∨ s.MidDrain t := by
  have queues : 0 < s.inQueues t ↔ s.InQueue t := by
    refine ⟨inQueue_of_pos, fun queued => ?_⟩
    simp only [InQueue, ← List.count_pos_iff] at queued
    unfold inQueues
    omega
  have pushes : 0 < s.pushing t ↔ s.MidPush t := by
    refine ⟨midPush_of_pos, fun held => ?_⟩
    simp only [MidPush, ← Option.mem_toList, ← List.count_pos_iff] at held
    unfold pushing
    omega
  have drains : 0 < s.pc.popped.toList.count t ↔ s.MidDrain t := by
    rw [List.count_pos_iff, Option.mem_toList]
    rfl
  rw [← queues, ← pushes, ← drains]
  unfold tokens
  omega

theorem slated_iff {s : State D} {t : Task} : s.Slated t ↔ 0 < s.tokens t ∨ t ∈ s.batch := by
  rw [held_iff, Slated, or_assoc, or_assoc]

/-- A popped task is marked and put into the batch, whatever happens in between. -/
theorem MidDrain.step {s s' : State D} {l : Label D} {t : Task} (drained : s.MidDrain t)
    (stepped : s.step l = some s') : s'.MidDrain t ∨ t ∈ s'.batch := by
  have popped : s.pc.popped = some t := drained
  have at_mark : ∃ stage budget, s.pc = .markDequeued t stage budget := by
    cases here : s.pc <;> rw [here] at popped <;> cases popped
    exact ⟨_, _, rfl⟩
  obtain ⟨stage, budget, here⟩ := at_mark
  cases step_cases stepped with
  | wakeTask | wakeRoot | kernel => exact .inl drained
  | waker pc member =>
      refine .inl ?_
      rw [MidDrain, (wakerStep_frame s pc).1]
      exact popped
  | localPush task held =>
      refine .inl ?_
      rw [MidDrain, (keeps_pushLocal s task).2.2.1]
      exact popped
  | localWake task free foreign known => exact .inl drained
  | localWakeRoot | call | spawn => exact .inl drained
  | advance s' advances =>
      cases advances with
      | markDequeued again =>
          cases here.symm.trans again
          exact .inr (List.mem_append_right _ List.mem_cons_self)
      | drain again | pollTasks again | rootTaken again | rootIdle again | spinTimer again | readyAgain again
      | notReady again | resetPending again | setWaiting again | readyLate again | stillNotReady again
      | skips again | stays again | timersWoken again | waited again | stopWaiting again
      | clearPending again | noFlush again | flushed again => cases here.symm.trans again
  | enter again | rootPending again | rootDone again | taskPolled _ _ again | timersFired again
  | blocks again | wait _ _ _ _ again | flush _ _ _ again => cases here.symm.trans again
  | unwind foreign inside =>
      rw [here] at foreign
      cases foreign

/-- **One step leaves a woken task on its way**, unless it begins the poll or panics. -/
theorem Slated.step {s s' : State D} {l : Label D} {t : Task} (slated : s.Slated t) (batched : s.Batched)
    (leaves : s.Leaves t l) (stepped : s.step l = some s') : s'.Slated t := by
  rw [slated_iff] at slated ⊢
  rcases slated with held | member
  · by_cases drained : s.MidDrain t
    · exact (drained.step stepped).imp_left fun still => held_iff.mpr (.inr (.inr still))
    · refine .inl ?_
      cases step_tokens stepped with
      | moved _ tokens => rw [tokens]; exact held
      | popped _ _ _ tokens => rw [tokens]; exact held
      | raised task _ _ tokens => rw [tokens]; omega
      | marked task middle _ tokens =>
          have apart : t ≠ task := by
            rintro rfl
            exact drained middle
          have same := tokens t
          rw [if_neg apart] at same
          omega
  · refine .inr ?_
    cases step_batch stepped with
    | kept batch => rw [batch]; exact member
    | cleared here =>
        rw [batched (by rw [here.2]; rfl)] at member
        cases member
    | marked _ _ batch =>
        rw [batch]
        exact List.mem_append_left _ member
    | empty before =>
        rw [before] at member
        cases member
    | polled task begins batch =>
        rw [batch] at member
        refine (List.mem_cons.mp member).resolve_left ?_
        rintro rfl
        exact leaves.1 begins
    | unwound panics => exact absurd ⟨panics, member⟩ leaves.2

/-- A wake finds the task on its way, or sends it there. -/
theorem slated_of_calls {s s' : State D} {l : Label D} {t : Task} (balanced : Balanced s) (calls : s.Calls t l)
    (stepped : s.step l = some s') : s'.Slated t := by
  have flag : s'.queued t = true := by
    rcases calls with wakes | ⟨rfl, rfl⟩
    · cases step_cases stepped with
      | wakeTask task =>
          cases wakes
          exact Function.update_self _ _ _
      | localWake task =>
          cases wakes
          exact Function.update_self _ _ _
      | _ => cases wakes
    · cases step_cases stepped with
      | spawn => exact Function.update_self _ _ _
  have kept := (balanced.step stepped).placed flag
  exact slated_iff.mpr (.inl (held_iff.mpr kept))

/-- What a panic leaves of the wakes. -/
theorem slated_unwind {s s' : State D} (balanced : Balanced s) (stepped : s.step .unwind = some s') (t : Task) :
    s'.Slated t ↔ s.queued t = true := by
  cases step_cases stepped with
  | unwind foreign inside =>
      have unpopped : s.pc.popped = none := by
        revert foreign
        cases s.pc <;> simp [Pc.foreign, Pc.popped]
      have same : tokens { s with batch := [], pc := .outside } t = s.tokens t := by
        simp only [tokens, inQueues, pushing, unpopped]
        rfl
      rw [slated_iff, same, balanced.balance]
      cases s.queued t <;> simp

/-! ## The life of a future -/

/-- The future of a spawned task is gone. -/
def Over (s : State D) (t : Task) : Prop := t < s.spawned ∧ s.hasFuture t = false ∧ s.pc ≠ .pollTask t

/-- The step ends a poll of `t`, with `Ready` or by a panic. -/
def Finishes (t : Task) (s : State D) (l : Label D) : Prop :=
  s.pc = .pollTask t ∧ (l = .polled false ∨ l = .unwind)

structure Alive (s : State D) : Prop where
  known : ∀ t, s.hasFuture t = true → t < s.spawned
  polling : ∀ t, s.pc = .pollTask t → t < s.spawned ∧ s.hasFuture t = false

/-- What a step can do to the futures. -/
inductive FutureStep (s : State D) (l : Label D) (s' : State D) : Prop where
  | kept (futures : s'.hasFuture = s.hasFuture) (spawned : s'.spawned = s.spawned)
      (pc : ∀ t, s'.pc = .pollTask t → s.pc = .pollTask t)
      (stays : ∀ t, s.pc = .pollTask t → s'.pc = .pollTask t ∨ s.Finishes t l)
  | spawned (spawns : l = .spawn) (made : s' = s.spawn)
  | taken (task : Task) (begins : s.Begins task l) (had : s.hasFuture task = true)
      (futures : s'.hasFuture = Function.update s.hasFuture task false) (spawned : s'.spawned = s.spawned)
      (pc : s'.pc = .pollTask task)
  | returned (task : Task) (pending : Bool) (polls : l = .polled pending) (here : s.pc = .pollTask task)
      (futures : s'.hasFuture = Function.update s.hasFuture task pending) (spawned : s'.spawned = s.spawned)
      (pc : s'.pc = .pollTasks)

/-- A step from one position that is no poll to another. -/
theorem FutureStep.elsewhere {s s' : State D} {l : Label D} (futures : s'.hasFuture = s.hasFuture)
    (spawned : s'.spawned = s.spawned) (left : ∀ t, s.pc ≠ .pollTask t) (next : ∀ t, s'.pc ≠ .pollTask t) :
    FutureStep s l s' :=
  .kept futures spawned (fun t here => absurd here (next t)) (fun t here => absurd here (left t))

theorem futures_endDrain {s : State D} {stage : Stage} {budget : Nat} (here : s.pc = .drain stage budget)
    (l : Label D) : FutureStep s l s.endDrain := by
  refine .elsewhere rfl rfl (fun t => by rw [here]; exact Pc.noConfusion) (fun t => ?_)
  rcases endDrain_place s with ⟨place, -⟩ | place <;> rw [place] <;> exact Pc.noConfusion

theorem futures_drainReadyStep {s : State D} {stage : Stage} {budget : Nat} (here : s.pc = .drain stage budget)
    (l : Label D) : FutureStep s l (s.drainReadyStep stage budget) := by
  have left : ∀ t, s.pc ≠ .pollTask t := fun t => by rw [here]; exact Pc.noConfusion
  cases budget with
  | zero => exact futures_endDrain here l
  | succ budget =>
      simp only [drainReadyStep]
      cases pops : s.pop stage with
      | none =>
          cases stage with
          | nextTask | remoteQueue => exact .elsewhere rfl rfl left (fun _ => Pc.noConfusion)
          | queue => exact futures_endDrain here l
      | some result =>
          obtain ⟨task, after⟩ := result
          have same : after.hasFuture = s.hasFuture ∧ after.spawned = s.spawned := by
            cases stage <;> simp only [pop] at pops <;> split at pops <;> cases pops <;> exact ⟨rfl, rfl⟩
          exact .elsewhere same.1 same.2 left (fun _ => Pc.noConfusion)

theorem futures_pollNext {s : State D} (here : s.pc = .pollTasks) : FutureStep s .advance s.pollNext := by
  have left : ∀ t, s.pc ≠ .pollTask t := fun t => by rw [here]; exact Pc.noConfusion
  unfold pollNext
  cases batched : s.batch with
  | nil => exact .elsewhere rfl rfl left (fun _ => Pc.noConfusion)
  | cons task rest =>
      by_cases hasFuture : s.hasFuture task = true
      · simp only [if_pos hasFuture]
        exact .taken task ⟨rfl, here, by rw [batched]; rfl⟩ hasFuture rfl rfl rfl
      · simp only [if_neg hasFuture]
        exact .elsewhere rfl rfl left left

theorem step_futures {s s' : State D} {l : Label D} (stepped : s.step l = some s') : FutureStep s l s' := by
  cases step_cases stepped with
  | waker pc here =>
      obtain ⟨pcs, -, -, -, futures⟩ := wakerStep_frame s pc
      have spawned : (s.wakerStep pc).spawned = s.spawned := by cases pc <;> rfl
      exact .kept futures spawned (fun t polled => pcs ▸ polled) (fun t polled => .inl (pcs ▸ polled))
  | localPush task held =>
      obtain ⟨-, -, pcs, -⟩ := keeps_pushLocal s task
      have spawned : (s.pushLocal task).spawned = s.spawned := by unfold pushLocal; split <;> rfl
      exact .kept (pushLocal_queue s task).2 spawned (fun t polled => pcs ▸ polled)
        (fun t polled => .inl (pcs ▸ polled))
  | wakeTask | wakeRoot | kernel | localWake | localWakeRoot | call =>
      exact .kept rfl rfl (fun _ => id) (fun _ => .inl)
  | spawn => exact .spawned rfl rfl
  | enter here | rootPending here | rootDone here | timersFired here | blocks here | wait _ _ _ _ here
  | flush _ _ _ here =>
      exact .elsewhere rfl rfl (fun _ => by rw [here]; exact Pc.noConfusion) (fun _ => Pc.noConfusion)
  | taskPolled task pending here => exact .returned task pending rfl here rfl rfl rfl
  | unwind foreign inside =>
      exact .kept rfl rfl (fun t outside => by cases outside) (fun t here => .inr ⟨here, .inr rfl⟩)
  | advance s' advances =>
      cases advances with
      | drain here => exact futures_drainReadyStep here _
      | pollTasks here => exact futures_pollNext here
      | rootTaken here | rootIdle here | spinTimer here | markDequeued here | readyAgain here | notReady here
      | resetPending here | setWaiting here | readyLate here | stillNotReady here | skips here | stays here
      | timersWoken here | waited here | stopWaiting here | clearPending here | noFlush here | flushed here =>
          exact .elsewhere rfl rfl (fun _ => by rw [here]; exact Pc.noConfusion) (fun _ => Pc.noConfusion)

theorem Alive.step {s s' : State D} {l : Label D} (alive : s.Alive) (stepped : s.step l = some s') :
    s'.Alive := by
  cases step_futures stepped with
  | kept futures spawned pc stays =>
      refine ⟨fun t had => ?_, fun t here => ?_⟩
      · rw [spawned]
        exact alive.known t (futures ▸ had)
      · rw [spawned, futures]
        exact alive.polling t (pc t here)
  | spawned spawns made =>
      subst made
      refine ⟨fun t had => ?_, fun t here => ?_⟩
      · show t < s.spawned + 1
        by_cases fresh : t = s.spawned
        · exact fresh ▸ Nat.lt_succ_self _
        · have before : s.hasFuture t = true := (Function.update_of_ne fresh _ _).symm.trans had
          exact Nat.lt_succ_of_lt (alive.known t before)
      · obtain ⟨known, gone⟩ := alive.polling t here
        refine ⟨Nat.lt_succ_of_lt known, ?_⟩
        exact (Function.update_of_ne (Nat.ne_of_lt known) _ _).trans gone
  | taken task begins had futures spawned pc =>
      refine ⟨fun t has => ?_, fun t here => ?_⟩
      · rw [futures, Function.update_apply] at has
        split at has
        · cases has
        · exact spawned ▸ alive.known t has
      · cases pc.symm.trans here
        rw [spawned, futures, Function.update_self]
        exact ⟨alive.known _ had, rfl⟩
  | returned task pending polls here futures spawned pc =>
      refine ⟨fun t has => ?_, fun t there => by cases pc.symm.trans there⟩
      rw [spawned]
      rw [futures, Function.update_apply] at has
      split at has
      · rename_i same
        exact same ▸ (alive.polling task here).1
      · exact alive.known t has

theorem alive_of_reachable {s : State D} (reachable : (machine D).Reachable s) : s.Alive := by
  refine Machine.invariant (M := machine D) ?_ (fun _ _ _ alive stepped => alive.step stepped) reachable
  rintro s ⟨driver, batchSize, rfl⟩
  exact ⟨fun t had => (by cases had), fun t here => (by cases here)⟩

/-- What is over stays over. -/
theorem Over.step {s s' : State D} {l : Label D} {t : Task} (done : s.Over t) (stepped : s.step l = some s') :
    s'.Over t := by
  obtain ⟨known, gone, away⟩ := done
  cases step_futures stepped with
  | kept futures spawned pc stays =>
      exact ⟨spawned ▸ known, futures ▸ gone, fun here => away (pc t here)⟩
  | spawned spawns made =>
      subst made
      exact ⟨Nat.lt_succ_of_lt known, (Function.update_of_ne (Nat.ne_of_lt known) _ _).trans gone, away⟩
  | taken task begins had futures spawned pc =>
      have apart : t ≠ task := by
        rintro rfl
        rw [gone] at had
        cases had
      refine ⟨spawned ▸ known, ?_, fun here => apart (Pc.pollTask.inj (here.symm.trans pc))⟩
      rw [futures, Function.update_of_ne apart]
      exact gone
  | returned task pending polls here futures spawned pc =>
      have apart : t ≠ task := by
        rintro rfl
        exact away here
      refine ⟨spawned ▸ known, ?_, fun there => by cases pc.symm.trans there⟩
      rw [futures, Function.update_of_ne apart]
      exact gone

/-- A task that is not over becomes so by the end of its poll, and by nothing else. -/
theorem over_iff_finishes {s s' : State D} {l : Label D} {t : Task} (alive : s.Alive)
    (stepped : s.step l = some s') (known : t < s.spawned) (before : ¬ s.Over t) :
    s'.Over t ↔ s.Finishes t l := by
  have standing : s.hasFuture t = true ∨ s.pc = .pollTask t := by
    by_cases here : s.pc = .pollTask t
    · exact .inr here
    · refine .inl ?_
      cases has : s.hasFuture t with
      | true => rfl
      | false => exact absurd ⟨known, has, here⟩ before
  cases step_futures stepped with
  | kept futures spawned pc stays =>
      constructor
      · rintro ⟨-, gone, away⟩
        rcases standing with has | here
        · rw [futures, has] at gone
          cases gone
        · exact (stays t here).resolve_left away
      · rintro ⟨here, ends⟩
        refine ⟨spawned ▸ known, futures ▸ (alive.polling t here).2, ?_⟩
        rcases ends with rfl | rfl
        · cases step_cases stepped with
          | rootDone again => cases here.symm.trans again
          | taskPolled => exact Pc.noConfusion
        · cases step_cases stepped with
          | unwind => exact Pc.noConfusion
  | spawned spawns made =>
      subst made
      constructor
      · rintro ⟨-, gone, away⟩
        have same : s.hasFuture t = false := (Function.update_of_ne (Nat.ne_of_lt known) _ _).symm.trans gone
        rcases standing with has | here
        · rw [has] at same
          cases same
        · exact absurd here away
      · rintro ⟨-, ends⟩
        rw [spawns] at ends
        rcases ends with ends | ends <;> cases ends
  | taken task begins had futures spawned pc =>
      constructor
      · rintro ⟨-, gone, away⟩
        rcases standing with has | here
        · rw [futures, Function.update_apply] at gone
          split at gone
          · rename_i same
            exact absurd (same ▸ pc) away
          · rw [has] at gone
            cases gone
        · cases here.symm.trans begins.2.1
      · rintro ⟨here, -⟩
        cases here.symm.trans begins.2.1
  | returned task pending polls here futures spawned pc =>
      constructor
      · rintro ⟨-, gone, away⟩
        rcases standing with has | there
        · rw [futures, Function.update_apply] at gone
          split at gone
          · rename_i same
            subst same gone
            exact ⟨here, .inl polls⟩
          · rw [has] at gone
            cases gone
        · cases here.symm.trans there
          rw [futures, Function.update_self] at gone
          exact ⟨here, .inl (gone ▸ polls)⟩
      · rintro ⟨there, ends⟩
        cases here.symm.trans there
        subst polls
        rcases ends with same | same
        · cases same
          refine ⟨spawned ▸ known, ?_, fun again => by cases pc.symm.trans again⟩
          rw [futures, Function.update_self]
        · cases same

end State

open State

/-- **No wake is lost on the way to its poll.**  After a wake of a task or its spawn, at
whatever moment it falls, the task is queued, about to be pushed, being drained or in the
batch, for as long as the loop over the batch has not come to it and no panic of another
future has found it there; and where the loop comes to it, a task that has its future is
polled.  A panic leaves on their way exactly the tasks whose flag is set. -/
theorem no_wake_is_lost {s : State D} (reachable : (machine D).Reachable s) (t : Task) :
    (∀ l s' labels, s.Calls t l → s.step l = some s' → (machine D).AllSteps (Leaves t) s' labels →
        (machine D).Throughout (Slated · t) s' labels) ∧
      (∀ l s', s.Begins t l → s.hasFuture t = true → s.step l = some s' → s'.pc = .pollTask t) ∧
      ∀ s', s.step .unwind = some s' → (s'.Slated t ↔ s.queued t = true) := by
  have balanced := balanced_of_reachable reachable
  refine ⟨fun l s' labels calls stepped leaves => ?_, fun l s' begins has stepped => ?_,
    fun s' stepped => slated_unwind balanced stepped t⟩
  · refine Machine.throughout_of_allSteps (M := machine D) (I := fun u => u.Slated t ∧ u.Batched)
      (fun u k u' holds leave again => ?_) (fun _ holds => holds.1) ⟨?_, ?_⟩ leaves
    · exact ⟨holds.1.step holds.2 leave again, holds.2.step again⟩
    · exact slated_of_calls balanced calls stepped
    · exact (batched_of_reachable reachable).step stepped
  · obtain ⟨rfl, here, front⟩ := begins
    obtain ⟨rest, batch⟩ := List.head?_eq_some_iff.mp front
    cases step_cases stepped with
    | advance s' advances =>
        cases advances with
        | pollTasks again =>
            unfold pollNext
            rw [batch]
            simp only [if_pos has]
        | drain again | markDequeued again | rootTaken again | rootIdle again | spinTimer again | readyAgain again
        | notReady again | resetPending again | setWaiting again | readyLate again | stillNotReady again
        | skips again | stays again | timersWoken again | waited again | stopWaiting again
        | clearPending again | noFlush again | flushed again => cases here.symm.trans again

/-- A task is spawned, and `drain_ready` has popped it. -/
def untilPop : List (Label mockDriver) :=
  [.spawn, .enter, .advance, .polled true, .advance, .advance, .advance, .advance]

def poppedTask : State mockDriver :=
    ((machine mockDriver).exec (.withOptions () 4) untilPop).getD (.withOptions () 4)

/-- It is woken on another thread before its `mark_dequeued`. -/
theorem no_wake_is_lost_while_drained :
    (machine mockDriver).exec (.withOptions () 4) untilPop = some poppedTask ∧
    poppedTask.MidDrain 0 ∧ ∃ s', poppedTask.step (.wakeTask 0) = some s' ∧
      (machine mockDriver).Throughout (Slated · 0) s' [] := by
  have reachable : (machine mockDriver).Reachable poppedTask := ⟨_, untilPop, ⟨(), 4, rfl⟩, rfl⟩
  exact ⟨rfl, rfl, _, rfl, (no_wake_is_lost reachable 0).1 (.wakeTask 0) _ [] (.inl rfl) rfl trivial⟩

/-- **The life of a future.**  While a task is being polled its slot is empty, so that
nobody else can begin a poll of it.  Its future is gone after the step in which its poll
returns `Ready` or panics, and only after that one; from then on it is gone in every run,
and no poll of it begins. -/
theorem task_life {s : State D} (reachable : (machine D).Reachable s) (t : Task) :
    (s.pc = .pollTask t → s.hasFuture t = false) ∧
      (∀ l s', s.step l = some s' → t < s.spawned → ¬ s.Over t → (s'.Over t ↔ s.Finishes t l)) ∧
      (∀ l s' labels, s.Finishes t l → s.step l = some s' →
        (machine D).Throughout (fun u => u.Over t ∧ u.pc ≠ .pollTask t) s' labels) := by
  have alive := alive_of_reachable reachable
  refine ⟨fun here => (alive.polling t here).2,
    fun l s' stepped known before => over_iff_finishes alive stepped known before, ?_⟩
  intro l s' labels finishes stepped
  have polled := alive.polling t finishes.1
  have done : s'.Over t :=
    (over_iff_finishes alive stepped polled.1 fun done => done.2.2 finishes.1).mpr finishes
  exact (Machine.throughout_of_kept (M := machine D) (I := fun u => u.Over t)
    (fun _ _ _ holds again => holds.step again) done labels).mono fun _ holds => ⟨holds, holds.2.2⟩

/-- Then the task is polled. -/
def untilPoll : List (Label mockDriver) := untilPop ++ [.advance, .advance, .advance]

def polledTask : State mockDriver :=
    ((machine mockDriver).exec (.withOptions () 4) untilPoll).getD (.withOptions () 4)

/-- Its poll panics, and `block_on` is called again. -/
theorem task_life_panicked : polledTask.pc = .pollTask 0 ∧ ∃ s', polledTask.step .unwind = some s' ∧
    (machine mockDriver).Throughout (fun u => u.Over 0 ∧ u.pc ≠ .pollTask 0) s' [.enter] := by
  have reachable : (machine mockDriver).Reachable polledTask := ⟨_, untilPoll, ⟨(), 4, rfl⟩, rfl⟩
  exact ⟨rfl, _, rfl, (task_life reachable 0).2.2 .unwind _ [.enter] ⟨rfl, .inr rfl⟩ rfl⟩

end Vibeio.Executor
