/-
# Executor.StoreBuffers -- the handshake when stores are delayed

`Executor.Wakeup` lets every store be seen at once.  Here the stores to `waiting`, to
`interrupt_pending` and to a root flag wait in a buffer of the thread that makes them, first
in first out, until they are committed; a thread sees its own stores and nobody else does.
What reads and writes memory in one access (the swaps, the push and the pop of the remote
queue) has to find the buffer of its thread empty.  Everything else is the code of
`Executor.Model`, run on what its thread sees.

Both sides store first and look afterwards, and nothing empties their buffers in between:
neither the look of the runtime at the root flag and at the queues nor the look of
`BlockOnNotify::wake_by_ref` at `waiting` is a swap.  `wakeup_lost` are two runs that block
with work to do, one for each side.

* `schedule_committed`: with its stores committed at once, a step of the runtime is a step of
  `Executor.Model`.
* `no_lost_wakeup_in_order`: nothing is lost in the runs in which a waker looks at `waiting`
  with its own store of the root flag committed, and, if the runtime has made its last look at
  the root flag, with the stores of the runtime committed.

Each `block_on` has a root flag of its own, so a buffered store carries the number of the call
whose flag it is for.
-/
import Vibeio.Executor.Wakeup

namespace Vibeio.Executor

open Vibeio.Theory

set_option autoImplicit false

/-! ## Flags and stores -/

structure Flags where
  waiting : Bool
  interruptPending : Bool
  ready : Bool
  deriving DecidableEq, Repr

/-- A store on its way.  Nobody stores `true` to `interrupt_pending`, nor `false` to a root flag. -/
inductive Store where
  | waiting (value : Bool)
  | clearPending
  | ready (epoch : Nat)
  deriving DecidableEq, Repr

/-- A store reaches memory, or is seen by its own thread; `epoch` is the `block_on` that runs. -/
def Store.apply (epoch : Nat) (flags : Flags) : Store → Flags
  | .waiting value => { flags with waiting := value }
  | .clearPending => { flags with interruptPending := false }
  | .ready of => { flags with ready := flags.ready || of == epoch }

/-- Accesses of a waker that read and write at once. -/
def WakerPc.forces : WakerPc → Bool
  | .push _ | .swapPending => true
  | .loadWaiting | .interrupt => false

namespace State

variable {D : DriverApi}

def flags (s : State D) : Flags := ⟨s.waiting, s.interruptPending, s.ready⟩

def withFlags (s : State D) (flags : Flags) : State D :=
  { s with waiting := flags.waiting, interruptPending := flags.interruptPending, ready := flags.ready }

/-- A store reaches memory. -/
def commit (s : State D) (epoch : Nat) (store : Store) : State D := s.withFlags (store.apply epoch s.flags)

end State

/-! ## Threads with buffers -/

/-- Another thread: the wake it is in, and its stores on their way, the oldest first. -/
structure Thread where
  pc : Option WakerPc
  buffer : List Store
  deriving DecidableEq, Repr

/-- Memory with what the runtime keeps for itself, the calls of `block_on` so far, and the
buffers.  The wakers of `mem` are in `threads`. -/
structure Buffered (D : DriverApi) where
  mem : State D
  epoch : Nat
  buffer : List Store
  threads : Nat → Thread

inductive Access (D : DriverApi) where
  | wakeTask (thread : Nat) (task : Task)
  /-- The root future of the `epoch`-th `block_on` is woken. -/
  | wakeRoot (thread : Nat) (epoch : Nat)
  | waker (thread : Nat)
  | commit (thread : Nat)
  /-- A step of the scheduler thread, or of the kernel. -/
  | scheduler (l : Label D)
  | commitScheduler

/-- Labels of wakes on other threads. -/
def Label.remote {D : DriverApi} : Label D → Bool
  | .wakeTask _ | .wakeRoot _ | .waker _ => true
  | _ => false

namespace Buffered

variable {D : DriverApi}

/-- The flags as the scheduler thread sees them. -/
def seen (b : Buffered D) : Flags := b.buffer.foldl (Store.apply b.epoch) b.mem.flags

def view (b : Buffered D) : State D := b.mem.withFlags b.seen

/-- Whether a step of the scheduler thread reads and writes at once: `take_ready`, a `pop` of
the remote queue, and `queued.swap`. -/
def forces (b : Buffered D) : Label D → Bool
  | .localWake _ => true
  | .advance =>
      match b.mem.pc with
      | .takeReady | .drain .remoteQueue (_ + 1) => true
      | _ => false
  | _ => false

/-- Whether it leaves its root flag in memory: the swap, and the new flag of a new call. -/
def setsReady (b : Buffered D) : Label D → Bool
  | .enter => true
  | .advance => b.mem.pc = .takeReady
  | _ => false

/-- The stores it makes. -/
def stores (b : Buffered D) : Label D → List Store
  | .localWakeRoot => [.ready b.epoch]
  | .advance =>
      match b.mem.pc with
      | .setWaiting => [.waiting true]
      | .stopWaiting _ => [.waiting false]
      | .resetPending | .clearPending _ => [.clearPending]
      | _ => []
  | _ => []

def nextEpoch (b : Buffered D) : Label D → Nat
  | .enter => b.epoch + 1
  | _ => b.epoch

/-- What a step of the scheduler thread leaves in memory. -/
def written (b : Buffered D) (l : Label D) (after : State D) : State D :=
  after.withFlags
    ⟨b.mem.waiting, b.mem.interruptPending, if b.setsReady l then after.ready else b.mem.ready⟩

def scheduled (b : Buffered D) (l : Label D) (after : State D) : Buffered D :=
  { b with
    mem := b.written l after
    epoch := b.nextEpoch l
    buffer := b.buffer ++ b.stores l }

def schedule (b : Buffered D) (l : Label D) : Option (Buffered D) :=
  if l.remote = false ∧ (b.forces l = true → b.buffer = []) then (b.view.step l).map (b.scheduled l)
  else none

/-- Thread `t` has made an access of the model, alone. -/
def moveThread (b : Buffered D) (t : Nat) (after : State D) (buffer : List Store) : Buffered D :=
  { b with
    mem := { after with wakers := [] }
    threads := Function.update b.threads t ⟨after.wakers.head?, buffer⟩ }

/-- The wake at `pc` on thread `t` takes its next step. -/
def moveWaker (b : Buffered D) (t : Nat) (pc : WakerPc) (buffer : List Store) : Buffered D :=
  b.moveThread t (State.wakerStep { b.mem with wakers := [pc] } pc) buffer

def step (b : Buffered D) : Access D → Option (Buffered D)
  | .wakeTask t task =>
      match b.threads t with
      | ⟨none, []⟩ =>
          if task < b.mem.spawned then
            some (b.moveThread t (State.enqueueIfNeededRemote { b.mem with wakers := [] } task) [])
          else none
      | _ => none
  | .wakeRoot t epoch =>
      match b.threads t with
      | ⟨none, buffer⟩ =>
          if 0 < epoch ∧ epoch ≤ b.epoch then
            some { b with threads := Function.update b.threads t ⟨some .loadWaiting, buffer ++ [.ready epoch]⟩ }
          else none
      | _ => none
  | .waker t =>
      match b.threads t with
      | ⟨some pc, buffer⟩ =>
          if pc.forces = true → buffer = [] then
            some (b.moveWaker t pc buffer)
          else none
      | _ => none
  | .commit t =>
      match b.threads t with
      | ⟨pc, store :: rest⟩ =>
          some { b with
            mem := b.mem.commit b.epoch store
            threads := Function.update b.threads t ⟨pc, rest⟩ }
      | _ => none
  | .scheduler l => b.schedule l
  | .commitScheduler =>
      match b.buffer with
      | store :: rest => some { b with mem := b.mem.commit b.epoch store, buffer := rest }
      | [] => none

def withOptions (driver : D.State) (batchSize : Nat) : Buffered D :=
  ⟨.withOptions driver batchSize, 0, [], fun _ => ⟨none, []⟩⟩

/-- All is committed, every waker has finished, and the runtime is blocked without an interrupt
although there is work. -/
structure Lost (b : Buffered D) : Prop where
  committed : b.buffer = []
  finished : ∀ t, b.threads t = ⟨none, []⟩
  blocked : b.mem.pc = .wait
  silent : b.mem.posted = false
  work : b.mem.remoteQueue ≠ [] ∨ b.mem.ready = true

/-- Nobody looks ahead of the stores: a waker that looks at `waiting` has no store to the root
flag on its way, nor has the runtime any if it will not look at that flag again. -/
def InOrder (b : Buffered D) : Access D → Prop
  | .waker t => (b.threads t).pc = some .loadWaiting →
      .ready b.epoch ∉ (b.threads t).buffer ∧ (b.mem.pc.rootChecked = true → b.buffer = [])
  | _ => True

end Buffered

/-- The runtime with store buffers, over any driver. -/
def bufferedMachine (D : DriverApi) : Machine (Buffered D) (Access D) where
  start b := ∃ driver batchSize, b = .withOptions driver batchSize
  step := Buffered.step

namespace Buffered

variable {D : DriverApi} {b b' : Buffered D}

/-! ## What the scheduler thread sees -/

theorem foldl_waiting (epoch : Nat) (flags : Flags) (buffer : List Store) :
    (buffer ++ [Store.waiting true]).foldl (Store.apply epoch) flags =
      { buffer.foldl (Store.apply epoch) flags with waiting := true } := by
  rw [List.foldl_append]
  rfl

/-- Its own store of the root flag counts. -/
theorem foldl_ready (epoch : Nat) (flags : Flags) (buffer : List Store) :
    (buffer.foldl (Store.apply epoch) flags).ready = true ↔ flags.ready = true ∨ .ready epoch ∈ buffer := by
  induction buffer generalizing flags with
  | nil => simp
  | cons store rest ih =>
      rw [List.foldl_cons, ih]
      cases store with
      | waiting value => simp [Store.apply]
      | clearPending => simp [Store.apply]
      | ready of =>
          simp only [Store.apply, Bool.or_eq_true, beq_iff_eq, List.mem_cons, Store.ready.injEq]
          rw [or_assoc, @eq_comm _ of]

/-- What it sees of one flag does not depend on the others. -/
theorem foldl_waiting_congr (epoch : Nat) (flags flags' : Flags) (same : flags.waiting = flags'.waiting)
    (buffer : List Store) :
    (buffer.foldl (Store.apply epoch) flags).waiting = (buffer.foldl (Store.apply epoch) flags').waiting := by
  induction buffer generalizing flags flags' with
  | nil => exact same
  | cons store rest ih =>
      apply ih
      cases store with
      | waiting value => rfl
      | clearPending => exact same
      | ready of => exact same

theorem ready_of_view (down : b.view.ready = false) : b.mem.ready = false ∧ .ready b.epoch ∉ b.buffer := by
  have unseen : ¬ (b.mem.flags.ready = true ∨ .ready b.epoch ∈ b.buffer) := by
    rw [← foldl_ready]
    exact Bool.eq_false_iff.mp down
  exact ⟨Bool.eq_false_iff.mpr fun up => unseen (.inl up), fun stored => unseen (.inr stored)⟩

/-! ## Stores that are committed at once -/

theorem foldl_commit (epoch : Nat) (s : State D) (buffer : List Store) :
    buffer.foldl (fun s store => s.commit epoch store) s =
      s.withFlags (buffer.foldl (Store.apply epoch) s.flags) := by
  induction buffer generalizing s with
  | nil => rfl
  | cons store rest ih =>
      rw [List.foldl_cons, ih]
      rfl

theorem pop_flags {s popped : State D} {stage : Stage} {task : Task}
    (pops : s.pop stage = some (task, popped)) : popped.flags = s.flags := by
  cases stage <;> simp only [State.pop] at pops <;> split at pops <;> cases pops <;> rfl

theorem drainReadyStep_flags (s : State D) (stage : Stage) (budget : Nat) :
    (s.drainReadyStep stage budget).flags = s.flags := by
  cases budget with
  | zero => rfl
  | succ budget =>
      simp only [State.drainReadyStep]
      split
      · rename_i task popped pops
        show popped.flags = s.flags
        exact pop_flags pops
      · cases stage <;> rfl

theorem pollNext_flags (s : State D) : s.pollNext.flags = s.flags := by
  unfold State.pollNext
  split
  · rfl
  · split <;> rfl

/-- The stores of a step, with what it leaves in memory, are what it does to the flags. -/
theorem flags_of_stores {l : Label D} {after : State D} (scheduler : l.remote = false)
    (stepped : State.Step b.mem l after) :
    (b.stores l).foldl (Store.apply (b.nextEpoch l)) (b.written l after).flags = after.flags := by
  cases stepped with
  | wakeTask | wakeRoot | waker => cases scheduler
  | localPush task held =>
      obtain ⟨nextTask, queue, frame⟩ := b.mem.pushLocal_frame task
      rw [frame]
      rfl
  | localWakeRoot foreign =>
      simp [stores, nextEpoch, written, setsReady, State.flags, State.withFlags, Store.apply]
  | advance after advances =>
      cases advances with
      | drain here =>
          rw [drainReadyStep_flags]
          simp [stores, written, setsReady, here, State.flags, State.withFlags]
      | pollTasks here =>
          rw [pollNext_flags]
          simp [stores, written, setsReady, here, State.flags, State.withFlags]
      | rootTaken | rootIdle | spinTimer | markDequeued | readyAgain | notReady | resetPending | setWaiting
      | readyLate | stillNotReady | skips | stays | timersWoken | waited | stopWaiting | clearPending | noFlush
      | flushed =>
          simp [*, stores, written, setsReady, State.flags, State.withFlags, Store.apply, State.markDequeued]
  | _ => rfl

/-- **A step whose stores are committed at once is a step of the runtime without buffers.** -/
theorem schedule_committed {l : Label D} (empty : b.buffer = []) (stepped : b.schedule l = some b') :
    b.mem.step l = some (b'.buffer.foldl (fun s store => s.commit b'.epoch store) b'.mem) := by
  have sees : b.view = b.mem := by
    unfold view seen
    rw [empty]
    rfl
  simp only [schedule, sees, Option.ite_none_right_eq_some, Option.map_eq_some_iff] at stepped
  obtain ⟨⟨scheduler, -⟩, after, ran, rfl⟩ := stepped
  have same := flags_of_stores scheduler (State.step_cases ran)
  rw [ran, foldl_commit]
  unfold scheduled
  simp only [empty, List.nil_append, same]
  rfl

/-! ## The invariant -/

/-- This waker will see to it that an interrupt is posted, if one is needed. -/
def Notifies (b : Buffered D) (thread : Thread) : Prop :=
  thread.pc = some .interrupt ∨ thread.pc = some .loadWaiting ∨ (thread.pc = some .swapPending ∧ b.buffer = [])

def Notified (b : Buffered D) : Prop := b.mem.posted = true ∨ ∃ t, b.Notifies (b.threads t)

/-- Stores of the other threads are for root flags that exist, and one for the flag of this call
belongs to a wake that has not looked at `waiting` yet. -/
structure Orderly (b : Buffered D) : Prop where
  owned : ∀ t, ∀ store ∈ (b.threads t).buffer, ∃ epoch ≤ b.epoch, store = .ready epoch
  storing : ∀ t, .ready b.epoch ∈ (b.threads t).buffer → (b.threads t).pc = some .loadWaiting

/-- `State.Handshake` with the buffers: the flags of the runtime are as it left them once they
are committed. -/
structure Handshake (b : Buffered D) : Prop where
  pending : b.mem.pc.pendingReset = true → .clearPending ∉ b.buffer → b.mem.interruptPending = true →
    b.mem.posted = true ∨ ∃ t, (b.threads t).pc = some .interrupt
  waiting : b.mem.pc.waitingRaised = true → b.seen.waiting = true
  quiet : b.mem.pc.rootChecked = true → .ready b.epoch ∉ b.buffer
  root : b.mem.pc.rootChecked = true → b.mem.ready = true → b.Notified
  remote : b.mem.pc.queuesChecked = true → b.mem.remoteQueue ≠ [] → b.Notified

/-- Away from the wait there is nothing to show. -/
theorem Handshake.away (away : b.mem.pc.pendingReset = false) : b.Handshake := by
  refine ⟨fun reset => ?_, fun raised => absurd raised (Pc.not_waitingRaised away),
    fun checked => absurd checked (Pc.not_rootChecked away),
    fun checked => absurd checked (Pc.not_rootChecked away),
    fun checked => absurd checked (Pc.not_queuesChecked away)⟩
  rw [away] at reset
  cases reset

/-! ## Threads -/

variable {t : Nat} {thread : Thread}

/-- A thread that moves takes nothing from the others. -/
theorem Notified.update (notified : b.Notified) (posted : b.mem.posted = true → b'.mem.posted = true)
    (buffer : b'.buffer = b.buffer) (threads : b'.threads = Function.update b.threads t thread)
    (still : b.Notifies (b.threads t) → b'.Notified) : b'.Notified := by
  rcases notified with done | ⟨other, notifies⟩
  · exact .inl (posted done)
  · by_cases same : other = t
    · subst same
      exact still notifies
    · refine .inr ⟨other, ?_⟩
      rw [threads, Function.update_of_ne same]
      unfold Notifies
      rw [buffer]
      exact notifies

theorem interrupt_update (coming : b.mem.posted = true ∨ ∃ t, (b.threads t).pc = some .interrupt)
    (still : (b.threads t).pc = some .interrupt → thread.pc = some .interrupt) :
    b.mem.posted = true ∨ ∃ other, (Function.update b.threads t thread other).pc = some .interrupt := by
  rcases coming with posted | ⟨other, interrupts⟩
  · exact .inl posted
  · refine .inr ⟨other, ?_⟩
    by_cases same : other = t
    · subst same
      rw [Function.update_self]
      exact still interrupts
    · rw [Function.update_of_ne same]
      exact interrupts

/-- The flags of the runtime are as they were, and a thread has moved. -/
theorem Handshake.moves (handshake : b.Handshake) (pc : b'.mem.pc = b.mem.pc)
    (waiting : b'.mem.waiting = b.mem.waiting) (pending : b'.mem.interruptPending = b.mem.interruptPending)
    (posted : b'.mem.posted = b.mem.posted) (remote : b'.mem.remoteQueue = b.mem.remoteQueue)
    (buffer : b'.buffer = b.buffer) (epoch : b'.epoch = b.epoch)
    (threads : b'.threads = Function.update b.threads t thread)
    (interrupts : (b.threads t).pc = some .interrupt → thread.pc = some .interrupt)
    (ready : b'.mem.ready = true → b.mem.ready = true ∨ b'.Notified)
    (still : b.mem.pc.rootChecked = true → b.Notifies (b.threads t) → b'.Notified) : b'.Handshake := by
  have kept (checked : b.mem.pc.rootChecked = true) (notified : b.Notified) : b'.Notified :=
    notified.update (fun done => posted.trans done) buffer threads (still checked)
  constructor
  · rw [pc, buffer, pending, posted, threads]
    intro reset clear raised
    exact interrupt_update (handshake.pending reset clear raised) interrupts
  · rw [pc, seen, buffer, epoch]
    intro raised
    rw [foldl_waiting_congr b.epoch b'.mem.flags b.mem.flags waiting]
    exact handshake.waiting raised
  · rw [pc, buffer, epoch]
    exact handshake.quiet
  · rw [pc]
    intro checked up
    rcases ready up with before | notified
    · exact kept checked (handshake.root checked before)
    · exact notified
  · rw [pc, remote]
    intro checked queued
    exact kept (Pc.rootChecked_of_queuesChecked checked) (handshake.remote checked queued)

theorem Orderly.update (orderly : b.Orderly) (epoch : b'.epoch = b.epoch)
    (threads : b'.threads = Function.update b.threads t thread)
    (owned : ∀ store ∈ thread.buffer, ∃ epoch ≤ b.epoch, store = .ready epoch)
    (storing : .ready b.epoch ∈ thread.buffer → thread.pc = some .loadWaiting) : b'.Orderly := by
  constructor <;> intro other
  · rw [epoch, threads]
    by_cases same : other = t
    · subst same
      rw [Function.update_self]
      exact owned
    · rw [Function.update_of_ne same]
      exact orderly.owned other
  · rw [epoch, threads]
    by_cases same : other = t
    · subst same
      rw [Function.update_self]
      exact storing
    · rw [Function.update_of_ne same]
      exact orderly.storing other

/-! ## The steps of a waker -/

variable {buffer : List Store} {task : Task}

theorem not_notifies_idle (idle : b.threads t = ⟨none, buffer⟩) : ¬ b.Notifies (b.threads t) := by
  rw [idle]
  simp [Notifies]

theorem Handshake.wakeTask (handshake : b.Handshake) (idle : b.threads t = ⟨none, []⟩) :
    Handshake (b.moveThread t (State.enqueueIfNeededRemote { b.mem with wakers := [] } task) []) :=
  handshake.moves rfl rfl rfl rfl rfl rfl rfl rfl (by simp [idle]) .inl
    fun _ notifies => absurd notifies (not_notifies_idle idle)

theorem Handshake.wakeRoot (handshake : b.Handshake) (idle : b.threads t = ⟨none, buffer⟩) :
    Handshake { b with threads := Function.update b.threads t thread } :=
  handshake.moves rfl rfl rfl rfl rfl rfl rfl rfl (by simp [idle]) .inl
    fun _ notifies => absurd notifies (not_notifies_idle idle)

/-- The push: from now on the waker is one that has made it. -/
theorem Handshake.push (handshake : b.Handshake) (here : b.threads t = ⟨some (.push task), buffer⟩) :
    Handshake (b.moveWaker t (.push task) buffer) := by
  have notified : (b.moveWaker t (.push task) buffer).Notified := by
    refine .inr ⟨t, .inr (.inl ?_)⟩
    simp [moveWaker, moveThread, State.wakerStep, State.moveWaker]
  refine ⟨fun reset clear raised => ?_, handshake.waiting, handshake.quiet, fun _ _ => notified,
    fun _ _ => notified⟩
  exact interrupt_update (handshake.pending reset clear raised) (by simp [here])

/-- The load of `waiting`: where it matters the waker finds it raised. -/
theorem Handshake.load (handshake : b.Handshake) (here : b.threads t = ⟨some .loadWaiting, buffer⟩)
    (committed : b.mem.pc.rootChecked = true → b.buffer = []) :
    Handshake (b.moveWaker t .loadWaiting buffer) := by
  have notified (checked : b.mem.pc.rootChecked = true) :
      (b.moveWaker t .loadWaiting buffer).Notified := by
    have raised := handshake.waiting (Pc.waitingRaised_of_rootChecked checked)
    rw [seen, committed checked] at raised
    have up : b.mem.waiting = true := raised
    refine .inr ⟨t, .inr (.inr ⟨?_, committed checked⟩)⟩
    simp [moveWaker, moveThread, State.wakerStep, State.moveWaker, up]
  exact handshake.moves rfl rfl rfl rfl rfl rfl rfl rfl (by simp [here]) .inl fun checked _ => notified checked

/-- What a step of a waker leaves alone. -/
theorem moveWaker_frame (b : Buffered D) (t : Nat) (pc : WakerPc) (buffer : List Store) :
    (b.moveWaker t pc buffer).mem.pc = b.mem.pc ∧ (b.moveWaker t pc buffer).mem.ready = b.mem.ready ∧
      (b.moveWaker t pc buffer).mem.waiting = b.mem.waiting ∧ (b.moveWaker t pc buffer).buffer = b.buffer ∧
      (b.moveWaker t pc buffer).epoch = b.epoch := by
  cases pc <;> simp only [moveWaker, moveThread, State.wakerStep, State.moveWaker, and_self]

theorem moveWaker_seen (b : Buffered D) (t : Nat) (pc : WakerPc) (buffer : List Store) :
    (b.moveWaker t pc buffer).seen.waiting = b.seen.waiting := by
  obtain ⟨-, -, waiting, same, epoch⟩ := b.moveWaker_frame t pc buffer
  rw [seen, same, epoch]
  exact foldl_waiting_congr b.epoch (b.moveWaker t pc buffer).mem.flags b.mem.flags waiting b.buffer

/-- The swap of `interrupt_pending`.  Whoever finds it raised leaves the interrupt to the one who
raised it; that is somebody as soon as the reset of the runtime is committed. -/
theorem Handshake.swap (handshake : b.Handshake) (here : b.threads t = ⟨some .swapPending, buffer⟩) :
    Handshake (b.moveWaker t .swapPending buffer) := by
  have coming (reset : b.mem.pc.pendingReset = true) (clear : .clearPending ∉ b.buffer) :
      b.mem.posted = true ∨
        ∃ other, ((b.moveWaker t .swapPending buffer).threads other).pc = some .interrupt := by
    cases raised : b.mem.interruptPending with
    | true => exact interrupt_update (handshake.pending reset clear raised) (by simp [here])
    | false =>
        refine .inr ⟨t, ?_⟩
        simp [moveWaker, moveThread, State.wakerStep, State.moveWaker, raised]
  have still (checked : b.mem.pc.rootChecked = true) (notified : b.Notified) :
      (b.moveWaker t .swapPending buffer).Notified := by
    refine notified.update id rfl rfl fun notifies => ?_
    rw [here] at notifies
    have empty : b.buffer = [] := by simpa [Notifies] using notifies
    have reset := Pc.pendingReset_of_waitingRaised (Pc.waitingRaised_of_rootChecked checked)
    rcases coming reset (by simp [empty]) with posted | ⟨other, interrupts⟩
    · exact .inl posted
    · exact .inr ⟨other, .inl interrupts⟩
  obtain ⟨pc, ready, -, same, epoch⟩ := b.moveWaker_frame t .swapPending buffer
  constructor
  · rw [pc, same]
    exact fun reset clear _ => coming reset clear
  · rw [pc, moveWaker_seen]
    exact handshake.waiting
  · rw [pc, same, epoch]
    exact handshake.quiet
  · rw [pc, ready]
    exact fun checked up => still checked (handshake.root checked up)
  · rw [pc]
    exact fun checked queued => still (Pc.rootChecked_of_queuesChecked checked) (handshake.remote checked queued)

theorem Handshake.interrupt (handshake : b.Handshake) :
    Handshake (b.moveWaker t .interrupt buffer) := by
  obtain ⟨pc, -, -, same, epoch⟩ := b.moveWaker_frame t .interrupt buffer
  have posted : (b.moveWaker t .interrupt buffer).mem.posted = true := rfl
  refine ⟨fun _ _ _ => .inl posted, ?_, ?_, fun _ _ => .inl posted, fun _ _ => .inl posted⟩
  · rw [pc, moveWaker_seen]
    exact handshake.waiting
  · rw [pc, same, epoch]
    exact handshake.quiet

/-- A store of another thread is committed: if it is to the flag of this call, its waker has still
to look at `waiting`. -/
theorem Handshake.commit {pc : Option WakerPc} {epoch : Nat} (handshake : b.Handshake)
    (here : b.threads t = ⟨pc, .ready epoch :: buffer⟩) (storing : epoch = b.epoch → pc = some .loadWaiting) :
    Handshake { b with
      mem := b.mem.commit b.epoch (.ready epoch)
      threads := Function.update b.threads t ⟨pc, buffer⟩ } := by
  refine handshake.moves rfl rfl rfl rfl rfl rfl rfl rfl (by simp [here]) (fun up => ?_) (fun _ notifies => ?_)
  · by_cases current : epoch = b.epoch
    · exact .inr (.inr ⟨t, .inr (.inl (by simp [storing current]))⟩)
    · left
      simpa [State.commit, State.withFlags, Store.apply, State.flags, current] using up
  · refine .inr ⟨t, ?_⟩
    rw [here] at notifies
    simpa [Notifies] using notifies

/-! ## The steps of the scheduler thread -/

/-- Its oldest store is committed; what it sees is the same. -/
theorem Handshake.commitScheduler {store : Store} {rest : List Store} (handshake : b.Handshake)
    (oldest : b.buffer = store :: rest) :
    Handshake { b with mem := b.mem.commit b.epoch store, buffer := rest } := by
  have waiting (raised : b.mem.pc.waitingRaised = true) :
      (rest.foldl (Store.apply b.epoch) (store.apply b.epoch b.mem.flags)).waiting = true := by
    have seen := handshake.waiting raised
    rwa [Buffered.seen, oldest] at seen
  have quiet (checked : b.mem.pc.rootChecked = true) : .ready b.epoch ∉ rest := by
    intro member
    refine handshake.quiet checked ?_
    rw [oldest]
    exact List.mem_cons_of_mem _ member
  have notified (notified : b.Notified) :
      Notified { b with mem := b.mem.commit b.epoch store, buffer := rest } := by
    rcases notified with posted | ⟨t, interrupts | loads | ⟨-, empty⟩⟩
    · exact .inl posted
    · exact .inr ⟨t, .inl interrupts⟩
    · exact .inr ⟨t, .inr (.inl loads)⟩
    · rw [oldest] at empty
      cases empty
  refine ⟨fun reset clear raised => ?_, waiting, quiet, fun checked up => ?_, fun checked queued => ?_⟩
  · cases store with
    | clearPending => cases raised
    | waiting value => exact handshake.pending reset (by simpa [oldest] using clear) raised
    | ready of => exact handshake.pending reset (by simpa [oldest] using clear) raised
  · cases store with
    | clearPending => exact notified (handshake.root checked up)
    | waiting value => exact notified (handshake.root checked up)
    | ready of =>
        have old : of ≠ b.epoch := by
          rintro rfl
          exact handshake.quiet checked (by rw [oldest]; exact List.mem_cons_self)
        refine notified (handshake.root checked ?_)
        simpa [State.commit, State.withFlags, Store.apply, State.flags, old] using up
  · exact notified (handshake.remote checked queued)

/-- The scheduler goes on without a store. -/
theorem Handshake.carry (handshake : b.Handshake) (flags : b'.mem.flags = b.mem.flags)
    (posted : b'.mem.posted = b.mem.posted) (remote : b'.mem.remoteQueue = b.mem.remoteQueue)
    (buffer : b'.buffer = b.buffer) (epoch : b'.epoch = b.epoch) (threads : b'.threads = b.threads)
    (reset : b'.mem.pc.pendingReset = true → b.mem.pc.pendingReset = true)
    (raised : b'.mem.pc.waitingRaised = true → b.mem.pc.waitingRaised = true)
    (quiet : b'.mem.pc.rootChecked = true → .ready b.epoch ∉ b.buffer)
    (root : b'.mem.pc.rootChecked = true → b.mem.ready = true → b.Notified)
    (queues : b'.mem.pc.queuesChecked = true → b.mem.remoteQueue ≠ [] → b.Notified) : b'.Handshake := by
  have notified (notified : b.Notified) : b'.Notified := by
    unfold Notified Notifies at *
    rwa [posted, threads, buffer]
  have pending : b'.mem.interruptPending = b.mem.interruptPending := congrArg Flags.interruptPending flags
  have ready : b'.mem.ready = b.mem.ready := congrArg Flags.ready flags
  constructor
  · rw [buffer, pending, posted, threads]
    intro here
    exact handshake.pending (reset here)
  · rw [seen, buffer, epoch, flags]
    intro here
    exact handshake.waiting (raised here)
  · rw [buffer, epoch]
    exact quiet
  · rw [ready]
    intro here up
    exact notified (root here up)
  · rw [remote]
    intro here queued
    exact notified (queues here queued)

variable {l : Label D} {after : State D}

@[simp] theorem scheduled_buffer : (b.scheduled l after).buffer = b.buffer ++ b.stores l := rfl

@[simp] theorem scheduled_epoch : (b.scheduled l after).epoch = b.nextEpoch l := rfl

theorem written_flags (keeps : b.setsReady l = false) : (b.written l after).flags = b.mem.flags := by
  unfold written
  rw [keeps]
  rfl

theorem Handshake.advance (handshake : b.Handshake) (advances : State.Advance b.view after) :
    Handshake (b.scheduled .advance after) := by
  cases advances with
  | drain here => exact .away (b.view.drainReadyStep_away _ _)
  | pollTasks here => exact .away (State.pollNext_away here)
  | rootTaken | rootIdle | spinTimer | markDequeued | readyAgain | notReady | readyLate | skips | timersWoken
  | waited | stopWaiting | clearPending | noFlush | flushed => exact .away rfl
  | resetPending here =>
      have here : b.mem.pc = .resetPending := here
      refine ⟨fun _ clear => ?_, fun raised => ?_, fun checked => ?_, fun checked => ?_, fun checked => ?_⟩
      · simp [stores, here] at clear
      · cases raised
      · cases checked
      · cases checked
      · cases checked
  | setWaiting here =>
      have here : b.mem.pc = .setWaiting := here
      refine ⟨fun _ clear => ?_, fun _ => ?_, fun checked => ?_, fun checked => ?_, fun checked => ?_⟩
      · refine handshake.pending (by rw [here]; rfl) ?_
        simpa [stores, here] using clear
      · have stored : b.stores .advance = [.waiting true] := by simp [stores, here]
        unfold seen scheduled
        rw [stored]
        exact congrArg Flags.waiting (foldl_waiting _ _ _)
      · cases checked
      · cases checked
      · cases checked
  | stillNotReady here down =>
      have here : b.mem.pc = .recheckReady := here
      obtain ⟨idle, quiet⟩ := ready_of_view down
      refine handshake.carry (written_flags (by simp [setsReady, here])) rfl rfl (by simp [stores, here]) rfl
        rfl (fun _ => by rw [here]; rfl) (fun _ => by rw [here]; rfl) (fun _ => quiet) (fun _ up => ?_)
        (fun checked => ?_)
      · rw [idle] at up
        cases up
      · cases checked
  | stays here stays =>
      have here : b.mem.pc = .skipWait := here
      refine handshake.carry (written_flags (by simp [setsReady, here])) rfl rfl (by simp [stores, here]) rfl
        rfl (fun _ => by rw [here]; rfl) (fun _ => by rw [here]; rfl)
        (fun _ => handshake.quiet (by rw [here]; rfl)) (fun _ => handshake.root (by rw [here]; rfl))
        (fun _ queued => ?_)
      exact absurd (State.remoteQueue_of_shouldSkipWait stays) queued

theorem Handshake.schedule (handshake : b.Handshake) (scheduler : l.remote = false)
    (stepped : State.Step b.view l after) : Handshake (b.scheduled l after) := by
  cases stepped with
  | wakeTask | wakeRoot | waker => cases scheduler
  | kernel k driver moved =>
      exact handshake.carry (written_flags rfl) rfl rfl (List.append_nil _) rfl rfl id id handshake.quiet
        handshake.root handshake.remote
  | localPush task held =>
      obtain ⟨nextTask, queue, frame⟩ := b.view.pushLocal_frame task
      rw [frame]
      exact handshake.carry (written_flags rfl) rfl rfl (List.append_nil _) rfl rfl id id handshake.quiet
        handshake.root handshake.remote
  | blocks here =>
      have here : b.mem.pc = .spinDeadline := here
      exact handshake.carry (written_flags rfl) rfl rfl (List.append_nil _) rfl rfl (fun _ => by rw [here]; rfl)
        (fun _ => by rw [here]; rfl) (fun _ => handshake.quiet (by rw [here]; rfl))
        (fun _ => handshake.root (by rw [here]; rfl)) (fun _ => handshake.remote (by rw [here]; rfl))
  | localWake task free foreign known => exact .away (Pc.pendingReset_of_foreign foreign)
  | localWakeRoot foreign => exact .away (Pc.pendingReset_of_foreign foreign)
  | spawn foreign => exact .away (Pc.pendingReset_of_foreign foreign)
  | call c driver foreign called => exact .away (Pc.pendingReset_of_foreign foreign)
  | advance after advances => exact handshake.advance advances
  | enter | rootPending | rootDone | taskPolled | timersFired | wait | flush | unwind => exact .away rfl

/-! ## Runs -/

structure Calm (b : Buffered D) : Prop where
  orderly : b.Orderly
  handshake : b.Handshake

theorem Calm.schedule (calm : b.Calm) (stepped : b.schedule l = some b') : b'.Calm := by
  unfold Buffered.schedule at stepped
  simp only [Option.ite_none_right_eq_some, Option.map_eq_some_iff] at stepped
  obtain ⟨⟨scheduler, -⟩, after, ran, rfl⟩ := stepped
  refine ⟨?_, calm.handshake.schedule scheduler (State.step_cases ran)⟩
  -- a new call has a new flag, and no store on its way is for that one
  have same_or_next : b.nextEpoch l = b.epoch ∨ b.nextEpoch l = b.epoch + 1 := by
    cases l <;> simp [nextEpoch]
  rcases same_or_next with same | next
  · refine ⟨?_, ?_⟩
    · rw [scheduled_epoch, same]
      exact calm.orderly.owned
    · rw [scheduled_epoch, same]
      exact calm.orderly.storing
  · refine ⟨fun t store member => ?_, fun t member => ?_⟩
    · obtain ⟨epoch, known, rfl⟩ := calm.orderly.owned t store member
      refine ⟨epoch, ?_, rfl⟩
      rw [scheduled_epoch, next]
      omega
    · rw [scheduled_epoch, next] at member
      obtain ⟨epoch, known, same⟩ := calm.orderly.owned t _ member
      cases same
      omega

theorem Calm.waker (calm : b.Calm) {pc : WakerPc} (here : b.threads t = ⟨some pc, buffer⟩)
    (inOrder : b.InOrder (.waker t)) :
    Calm (b.moveWaker t pc buffer) := by
  have owned := calm.orderly.owned t
  rw [here] at owned
  have none_ : pc ≠ .loadWaiting → .ready b.epoch ∉ buffer := by
    intro other member
    have loads := calm.orderly.storing t (by rw [here]; exact member)
    rw [here] at loads
    cases loads
    exact other rfl
  have orderly (clear : .ready b.epoch ∉ buffer) :
      Orderly (b.moveWaker t pc buffer) :=
    calm.orderly.update rfl rfl owned fun member => absurd member clear
  cases pc with
  | push task => exact ⟨orderly (none_ (by simp)), calm.handshake.push here⟩
  | loadWaiting =>
      obtain ⟨clear, committed⟩ := inOrder (by rw [here])
      rw [here] at clear
      exact ⟨orderly clear, calm.handshake.load here committed⟩
  | swapPending => exact ⟨orderly (none_ (by simp)), calm.handshake.swap here⟩
  | interrupt => exact ⟨orderly (none_ (by simp)), calm.handshake.interrupt⟩

theorem Calm.commit {pc : Option WakerPc} {store : Store} (calm : b.Calm)
    (here : b.threads t = ⟨pc, store :: buffer⟩) :
    Calm { b with
      mem := b.mem.commit b.epoch store
      threads := Function.update b.threads t ⟨pc, buffer⟩ } := by
  have owned := calm.orderly.owned t
  have storing := calm.orderly.storing t
  rw [here] at owned storing
  obtain ⟨epoch, -, rfl⟩ := owned store List.mem_cons_self
  refine ⟨?_, calm.handshake.commit here fun current => ?_⟩
  · refine calm.orderly.update rfl rfl (fun other member => ?_) (fun member => ?_)
    · exact owned other (List.mem_cons_of_mem _ member)
    · exact storing (List.mem_cons_of_mem _ member)
  · subst current
    exact storing List.mem_cons_self

theorem Calm.step {access : Access D} (calm : b.Calm) (inOrder : b.InOrder access)
    (stepped : b.step access = some b') : b'.Calm := by
  cases access with
  | wakeTask t task =>
      simp only [Buffered.step] at stepped
      split at stepped
      · rename_i idle
        split at stepped <;> cases stepped
        refine ⟨calm.orderly.update rfl rfl ?_ ?_, calm.handshake.wakeTask idle⟩
        · intro store member
          cases member
        · intro member
          cases member
      · cases stepped
  | wakeRoot t epoch =>
      simp only [Buffered.step] at stepped
      split at stepped
      · rename_i buffer idle
        split at stepped <;> cases stepped
        rename_i known
        refine ⟨calm.orderly.update rfl rfl ?_ (fun _ => rfl), calm.handshake.wakeRoot idle⟩
        intro store member
        rcases List.mem_append.mp member with before | new
        · exact calm.orderly.owned t store (by rw [idle]; exact before)
        · rw [List.mem_singleton.mp new]
          exact ⟨epoch, known.2, rfl⟩
      · cases stepped
  | waker t =>
      simp only [Buffered.step] at stepped
      split at stepped
      · rename_i pc buffer here
        split at stepped <;> cases stepped
        exact calm.waker here inOrder
      · cases stepped
  | commit t =>
      simp only [Buffered.step] at stepped
      split at stepped
      · rename_i pc store rest here
        cases stepped
        exact calm.commit here
      · cases stepped
  | scheduler l => exact calm.schedule stepped
  | commitScheduler =>
      simp only [Buffered.step] at stepped
      split at stepped
      · rename_i store rest oldest
        cases stepped
        exact ⟨⟨calm.orderly.owned, calm.orderly.storing⟩, calm.handshake.commitScheduler oldest⟩
      · cases stepped

theorem withOptions_calm (driver : D.State) (batchSize : Nat) : (withOptions driver batchSize).Calm := by
  refine ⟨⟨fun t store member => ?_, fun t member => ?_⟩, .away rfl⟩
  · cases member
  · cases member

theorem Calm.not_lost (calm : b.Calm) : ¬ b.Lost := by
  intro lost
  have notified : b.Notified := by
    rcases lost.work with queued | up
    · exact calm.handshake.remote (by rw [lost.blocked]; rfl) queued
    · exact calm.handshake.root (by rw [lost.blocked]; rfl) up
  rcases notified with posted | ⟨t, notifies⟩
  · cases lost.silent.symm.trans posted
  · exact not_notifies_idle (lost.finished t) notifies

end Buffered

/-- **No wake-up is lost in order.**  In every run in which a waker looks at `waiting` only with
its own store of the root flag committed, and, once the runtime has made its last look at that
flag, with the stores of the runtime committed, no state has everything done, the runtime blocked
and work left. -/
theorem no_lost_wakeup_in_order {D : DriverApi} {first : Buffered D} {run : List (Access D)}
    (starts : (bufferedMachine D).start first)
    (inOrder : (bufferedMachine D).AllSteps Buffered.InOrder first run) :
    (bufferedMachine D).Throughout (fun b => ¬ b.Lost) first run := by
  obtain ⟨driver, batchSize, rfl⟩ := starts
  have initial := Buffered.withOptions_calm driver batchSize
  refine Machine.throughout_of_allSteps (I := Buffered.Calm) ?_ ?_ initial inOrder
  · intro b access b' calm meets stepped
    exact calm.step meets stepped
  · intro b calm
    exact calm.not_lost

/-- `block_on` up to the first poll of its future, which returns. -/
def rootPolled : List (Access mockDriver) :=
  [.scheduler .enter, .scheduler .advance, .scheduler (.polled true)]

/-- From there to `driver.wait`, with nothing to do: the timers, three empty queues, the first
`is_ready`, the two stores, the second `is_ready`, `should_skip_wait` and the timers again. -/
def goesToWait : List (Access mockDriver) :=
  List.replicate 9 (.scheduler .advance) ++ [.scheduler (.spun false)]

/-- The root future is woken while it is polled, and its store is committed before the look. -/
theorem no_lost_wakeup_committed :
    (bufferedMachine mockDriver).Throughout (fun b => ¬ b.Lost) (.withOptions () 4)
      [.scheduler .enter, .scheduler .advance, .wakeRoot 0 1, .commit 0, .waker 0] := by
  refine no_lost_wakeup_in_order ⟨(), 4, rfl⟩ ⟨trivial, fun b entered => ?_⟩
  cases entered
  refine ⟨trivial, fun b taken => ?_⟩
  cases taken
  refine ⟨trivial, fun b woken => ?_⟩
  cases woken
  refine ⟨trivial, fun b committed => ?_⟩
  cases committed
  exact ⟨fun _ => ⟨by decide, fun checked => by cases checked⟩, fun b looked => trivial⟩

/-- The root flag is raised in the buffer of its waker, which finds `waiting` down and finishes. -/
def rootLooksEarly : List (Access mockDriver) :=
  rootPolled ++ [.wakeRoot 0 1, .waker 0] ++ goesToWait ++ [.commitScheduler, .commitScheduler, .commit 0]

/-- The runtime raises `waiting` in its buffer and finds the queues empty; then a task is woken. -/
def runtimeLooksEarly : List (Access mockDriver) :=
  [.scheduler .spawn] ++ rootPolled ++ List.replicate 7 (.scheduler .advance) ++
    [.scheduler (.polled true), .scheduler .advance, .scheduler (.flush () false)] ++
    List.replicate 2 (.scheduler .advance) ++ goesToWait ++
    [.wakeTask 0 0, .waker 0, .waker 0, .commitScheduler, .commitScheduler]

/-- **Both looks come too early.**  A store of the root flag is committed after its waker has found
`waiting` down and the runtime has blocked; and a task is pushed and its waker finds `waiting` down
while the store that raises it is on its way. -/
theorem wakeup_lost :
    (∃ b, (bufferedMachine mockDriver).Reachable b ∧ b.Lost ∧ b.mem.ready = true) ∧
    (∃ b, (bufferedMachine mockDriver).Reachable b ∧ b.Lost ∧ b.mem.remoteQueue = [0]) := by
  constructor
  · refine ⟨_, ⟨.withOptions () 4, rootLooksEarly, ⟨(), 4, rfl⟩, rfl⟩,
      ⟨rfl, fun t => ?_, rfl, rfl, .inr rfl⟩, rfl⟩
    cases t <;> rfl
  · refine ⟨_, ⟨.withOptions () 4, runtimeLooksEarly, ⟨(), 4, rfl⟩, rfl⟩,
      ⟨rfl, fun t => ?_, rfl, rfl, .inl ?_⟩, rfl⟩
    · cases t <;> rfl
    · exact List.cons_ne_nil 0 []

end Vibeio.Executor
