/-
# Executor.Wakeup -- no wake-up is lost

Before it blocks, `block_on` lowers `interrupt_pending`, raises `waiting`, and then
looks once more at the root flag and at the queues.  A waker on another thread pushes
or stores first and looks at the two flags afterwards.  `Handshake` is what this
gives, position by position:

* from the reset of `interrupt_pending` on, the flag is up only if an interrupt is
  posted or somebody is about to post one;
* from the second look at the root flag on, the flag is up only if the scheduler is
  `Notified`: an interrupt is posted, or a waker past its push or store is under way;
* from the look at the queues on, the same goes for `remote_queue`.

A waker that acts on a `waiting` it read long ago keeps all three, because an
interrupt is consumed only where none of them is asked for.
-/
import Vibeio.Executor.Model

namespace Vibeio.Executor

open Vibeio.Theory

set_option autoImplicit false

/-! ## Positions -/

namespace Pc

/-- `interrupt_pending` was reset, and the wait is not over. -/
def pendingReset : Pc → Bool
  | .setWaiting | .recheckReady | .skipWait | .spinDeadline | .wait => true
  | _ => false

/-- Of these, those after `waiting` was raised. -/
def waitingRaised : Pc → Bool
  | .recheckReady | .skipWait | .spinDeadline | .wait => true
  | _ => false

/-- Of these, those after the second `is_ready`. -/
def rootChecked : Pc → Bool
  | .skipWait | .spinDeadline | .wait => true
  | _ => false

/-- Of these, those after `should_skip_wait`. -/
def queuesChecked : Pc → Bool
  | .spinDeadline | .wait => true
  | _ => false

theorem rootChecked_of_queuesChecked {pc : Pc} (checked : pc.queuesChecked = true) : pc.rootChecked = true := by
  revert checked
  cases pc <;> simp [queuesChecked, rootChecked]

theorem waitingRaised_of_rootChecked {pc : Pc} (checked : pc.rootChecked = true) : pc.waitingRaised = true := by
  revert checked
  cases pc <;> simp [rootChecked, waitingRaised]

theorem pendingReset_of_waitingRaised {pc : Pc} (raised : pc.waitingRaised = true) : pc.pendingReset = true := by
  revert raised
  cases pc <;> simp [waitingRaised, pendingReset]

theorem not_waitingRaised {pc : Pc} (away : pc.pendingReset = false) : pc.waitingRaised ≠ true := by
  intro raised
  rw [pendingReset_of_waitingRaised raised] at away
  cases away

theorem not_rootChecked {pc : Pc} (away : pc.pendingReset = false) : pc.rootChecked ≠ true :=
  fun checked => not_waitingRaised away (waitingRaised_of_rootChecked checked)

theorem not_queuesChecked {pc : Pc} (away : pc.pendingReset = false) : pc.queuesChecked ≠ true :=
  fun checked => not_rootChecked away (rootChecked_of_queuesChecked checked)

/-- No code of the futures runs between the reset and the end of the wait. -/
theorem pendingReset_of_foreign {pc : Pc} (foreign : pc.foreign = true) : pc.pendingReset = false := by
  revert foreign
  cases pc <;> simp [foreign, pendingReset]

end Pc

namespace State

variable {D : DriverApi}

/-- An interrupt is posted, or a waker past its push or store has not finished. -/
def Notified (s : State D) : Prop := s.posted = true ∨ ∃ w ∈ s.wakers, w.pastPush = true

structure Handshake (s : State D) : Prop where
  pending : s.pc.pendingReset = true → s.interruptPending = true → s.posted = true ∨ .interrupt ∈ s.wakers
  waiting : s.pc.waitingRaised = true → s.waiting = true
  root : s.pc.rootChecked = true → s.ready = true → s.Notified
  remote : s.pc.queuesChecked = true → s.remoteQueue ≠ [] → s.Notified

/-- Away from the wait there is nothing to show. -/
theorem Handshake.away {s : State D} (away : s.pc.pendingReset = false) : Handshake s := by
  refine ⟨fun reset => ?_, fun raised => absurd raised (Pc.not_waitingRaised away),
    fun checked => absurd checked (Pc.not_rootChecked away),
    fun checked => absurd checked (Pc.not_queuesChecked away)⟩
  rw [away] at reset
  cases reset

/-- A step that changes none of the shared flags, nor `remote_queue`, nor a waker. -/
theorem Handshake.same {s s' : State D} (handshake : Handshake s) (pc : s'.pc = s.pc)
    (waiting : s'.waiting = s.waiting) (pending : s'.interruptPending = s.interruptPending)
    (posted : s'.posted = s.posted) (ready : s'.ready = s.ready) (remote : s'.remoteQueue = s.remoteQueue)
    (wakers : s'.wakers = s.wakers) : Handshake s' := by
  constructor
  · rw [pc, pending, posted, wakers]
    exact handshake.pending
  · rw [pc, waiting]
    exact handshake.waiting
  · rw [pc, ready, Notified, posted, wakers]
    exact handshake.root
  · rw [pc, remote, Notified, posted, wakers]
    exact handshake.remote

/-! ## Wakers -/

/-- A new waker that is past its push or store notifies. -/
theorem Handshake.wakeByRefRemote {s : State D} (handshake : Handshake s) (current : Bool) :
    Handshake (s.wakeByRefRemote current) := by
  have notified : (s.wakeByRefRemote current).Notified := .inr ⟨.loadWaiting, List.mem_cons_self, rfl⟩
  refine ⟨fun reset raised => ?_, handshake.waiting, fun _ _ => notified, fun _ _ => notified⟩
  rcases handshake.pending reset raised with posted | coming
  · exact .inl posted
  · exact .inr (List.mem_cons_of_mem _ coming)

theorem Notified.cons {s s' : State D} {w : WakerPc} (notified : s.Notified) (posted : s'.posted = s.posted)
    (wakers : s'.wakers = w :: s.wakers) : s'.Notified := by
  rcases notified with done | ⟨v, member, past⟩
  · exact .inl (posted.trans done)
  · refine .inr ⟨v, ?_, past⟩
    rw [wakers]
    exact List.mem_cons_of_mem _ member

theorem Handshake.enqueueIfNeededRemote {s : State D} (handshake : Handshake s) (task : Task) :
    Handshake (s.enqueueIfNeededRemote task) := by
  refine ⟨fun reset raised => ?_, handshake.waiting, fun checked up => ?_, fun checked queued => ?_⟩
  · rcases handshake.pending reset raised with posted | coming
    · exact .inl posted
    · exact .inr (List.mem_cons_of_mem _ coming)
  · exact (handshake.root checked up).cons rfl rfl
  · exact (handshake.remote checked queued).cons rfl rfl

/-- The push: from now on the waker is one that has made it. -/
theorem Handshake.wakerPush {s : State D} (handshake : Handshake s) (task : Task) :
    Handshake (s.wakerStep (.push task)) := by
  have notified : (s.wakerStep (.push task)).Notified := .inr ⟨.loadWaiting, List.mem_cons_self, rfl⟩
  refine ⟨fun reset raised => ?_, handshake.waiting, fun _ _ => notified, fun _ _ => notified⟩
  rcases handshake.pending reset raised with posted | coming
  · exact .inl posted
  · refine .inr (List.mem_cons_of_mem _ ?_)
    exact (List.mem_erase_of_ne WakerPc.noConfusion).mpr coming

/-- The load of `waiting`: where it matters the waker finds it raised. -/
theorem Handshake.wakerLoad {s : State D} (handshake : Handshake s) :
    Handshake (s.wakerStep .loadWaiting) := by
  have notified : s.pc.rootChecked = true → (s.wakerStep .loadWaiting).Notified := by
    intro checked
    have raised : s.waiting = true := handshake.waiting (Pc.waitingRaised_of_rootChecked checked)
    refine .inr ⟨.swapPending, ?_, rfl⟩
    simp [wakerStep, moveWaker, raised]
  refine ⟨fun reset raised => ?_, handshake.waiting, fun checked _ => notified checked,
    fun checked _ => notified (Pc.rootChecked_of_queuesChecked checked)⟩
  rcases handshake.pending reset raised with posted | coming
  · exact .inl posted
  · refine .inr (List.mem_append_right _ ?_)
    exact (List.mem_erase_of_ne (by decide)).mpr coming

/-- The swap of `interrupt_pending`: whoever finds it raised leaves the interrupt to
the one who raised it. -/
theorem Handshake.wakerSwap {s : State D} (handshake : Handshake s) :
    Handshake (s.wakerStep .swapPending) := by
  have coming : s.pc.pendingReset = true →
      (s.wakerStep .swapPending).posted = true ∨ .interrupt ∈ (s.wakerStep .swapPending).wakers := by
    intro reset
    cases raised : s.interruptPending with
    | true =>
        rcases handshake.pending reset raised with posted | coming
        · exact .inl posted
        · refine .inr (List.mem_append_right _ ?_)
          exact (List.mem_erase_of_ne (by decide)).mpr coming
    | false =>
        refine .inr ?_
        simp [wakerStep, moveWaker, raised]
  have notified : s.pc.rootChecked = true → (s.wakerStep .swapPending).Notified := by
    intro checked
    rcases coming (Pc.pendingReset_of_waitingRaised (Pc.waitingRaised_of_rootChecked checked)) with
      posted | member
    · exact .inl posted
    · exact .inr ⟨.interrupt, member, rfl⟩
  exact ⟨fun reset _ => coming reset, handshake.waiting, fun checked _ => notified checked,
    fun checked _ => notified (Pc.rootChecked_of_queuesChecked checked)⟩

theorem Handshake.wakerInterrupt {s : State D} (handshake : Handshake s) :
    Handshake (s.wakerStep .interrupt) :=
  ⟨fun _ _ => .inl rfl, handshake.waiting, fun _ _ => .inl rfl, fun _ _ => .inl rfl⟩

theorem Handshake.wakerStep {s : State D} (handshake : Handshake s) (pc : WakerPc) :
    Handshake (s.wakerStep pc) := by
  cases pc with
  | push task => exact handshake.wakerPush task
  | loadWaiting => exact handshake.wakerLoad
  | swapPending => exact handshake.wakerSwap
  | interrupt => exact handshake.wakerInterrupt

/-! ## The scheduler thread -/

theorem endDrain_away (s : State D) : s.endDrain.pc.pendingReset = false := by
  unfold endDrain
  cases s.batch <;> rfl

theorem drainReadyStep_away (s : State D) (stage : Stage) (budget : Nat) :
    (s.drainReadyStep stage budget).pc.pendingReset = false := by
  cases budget with
  | zero => exact s.endDrain_away
  | succ budget =>
      simp only [drainReadyStep]
      cases s.pop stage with
      | some result => rfl
      | none =>
          cases stage with
          | nextTask => rfl
          | remoteQueue => rfl
          | queue => exact s.endDrain_away

theorem pollNext_away {s : State D} (here : s.pc = .pollTasks) : s.pollNext.pc.pendingReset = false := by
  unfold pollNext
  split
  · rfl
  · split
    · rfl
    · show s.pc.pendingReset = false
      rw [here]
      rfl

theorem remoteQueue_of_shouldSkipWait {s : State D} (stays : s.shouldSkipWait = false) : s.remoteQueue = [] := by
  simp only [shouldSkipWait, Bool.or_eq_false_iff, Bool.not_eq_false', List.isEmpty_iff] at stays
  exact stays.1.2

theorem Handshake.advance {s s' : State D} (handshake : Handshake s) (advances : Advance s s') :
    Handshake s' := by
  cases advances with
  | drain here => exact .away (s.drainReadyStep_away _ _)
  | pollTasks here => exact .away (pollNext_away here)
  | rootTaken | rootIdle | spinTimer | markDequeued | readyAgain | notReady | readyLate | skips | timersWoken
  | waited | stopWaiting | clearPending | noFlush | flushed => exact .away rfl
  | resetPending here =>
      refine ⟨fun _ raised => ?_, fun raised => ?_, fun checked => ?_, fun checked => ?_⟩
      · cases raised
      · cases raised
      · cases checked
      · cases checked
  | setWaiting here =>
      refine ⟨fun _ => ?_, fun _ => rfl, fun checked => ?_, fun checked => ?_⟩
      · exact handshake.pending (by rw [here]; rfl)
      · cases checked
      · cases checked
  | stillNotReady here down =>
      refine ⟨fun _ => ?_, fun _ => ?_, fun _ raised => ?_, fun checked => ?_⟩
      · exact handshake.pending (by rw [here]; rfl)
      · exact handshake.waiting (by rw [here]; rfl)
      · cases down.symm.trans raised
      · cases checked
  | stays here stays =>
      refine ⟨fun _ => ?_, fun _ => ?_, fun _ => ?_, fun _ queued => ?_⟩
      · exact handshake.pending (by rw [here]; rfl)
      · exact handshake.waiting (by rw [here]; rfl)
      · exact handshake.root (by rw [here]; rfl)
      · exact absurd (remoteQueue_of_shouldSkipWait stays) queued

/-- The second spin fired nothing: the scheduler goes on to block. -/
theorem Handshake.blocks {s : State D} (handshake : Handshake s) (here : s.pc = .spinDeadline) :
    Handshake { s with pc := .wait } := by
  refine ⟨fun _ => ?_, fun _ => ?_, fun _ => ?_, fun _ => ?_⟩
  · exact handshake.pending (by rw [here]; rfl)
  · exact handshake.waiting (by rw [here]; rfl)
  · exact handshake.root (by rw [here]; rfl)
  · exact handshake.remote (by rw [here]; rfl)

theorem pushLocal_frame (s : State D) (task : Task) :
    ∃ nextTask queue, s.pushLocal task = { s with nextTask := nextTask, queue := queue, localWake := none } := by
  unfold pushLocal
  split
  · exact ⟨_, _, rfl⟩
  · exact ⟨_, _, rfl⟩

theorem Handshake.step {s s' : State D} {l : Label D} (handshake : Handshake s) (stepped : s.step l = some s') :
    Handshake s' := by
  cases step_cases stepped with
  | wakeTask task => exact handshake.enqueueIfNeededRemote task
  | wakeRoot current => exact handshake.wakeByRefRemote current
  | waker pc => exact handshake.wakerStep pc
  | localPush task =>
      obtain ⟨nextTask, queue, frame⟩ := s.pushLocal_frame task
      rw [frame]
      exact handshake.same rfl rfl rfl rfl rfl rfl rfl
  | kernel | localWake | spawn | call => exact handshake.same rfl rfl rfl rfl rfl rfl rfl
  | localWakeRoot foreign => exact .away (Pc.pendingReset_of_foreign foreign)
  | blocks here => exact handshake.blocks here
  | advance s' advances => exact handshake.advance advances
  | enter | rootPending | rootDone | taskPolled | timersFired | wait | flush | unwind => exact .away rfl

theorem handshake_of_reachable {s : State D} (reachable : (machine D).Reachable s) : Handshake s := by
  refine Machine.invariant (M := machine D) ?_ ?_ reachable
  · rintro s ⟨driver, batchSize, rfl⟩
    exact .away rfl
  · intro s l s' handshake stepped
    exact handshake.step stepped

end State

/-- `block_on` with one task, which its first batch polls; then the scheduler blocks and
another thread wakes the task, up to its push. -/
def wokenWhileBlocked : List (Label mockDriver) :=
  [.spawn, .enter, .advance, .polled true, .advance, .advance, .advance, .advance, .advance, .advance,
    .advance, .polled true, .advance, .flush () false, .advance,
    .advance, .advance, .advance, .advance, .advance, .advance, .advance, .advance, .advance, .advance,
    .spun false, .wakeTask 0, .waker (.push 0)]

end Vibeio.Executor
