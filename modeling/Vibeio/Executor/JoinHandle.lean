/-
# Executor.JoinHandle -- the output of a task, handed to whoever awaits it

`spawn` wraps a future into a `SpawnFuture` and returns a `JoinHandle`; the two share a
`JoinState`.  A label is one access to it.  The poll of the inner future is foreign code
and may poll the handle or cancel it, so it is a step of its own that begins and, some
time later, returns; so does every poll of the handle happen at any time, with any waker.

A task is not polled again once it has returned `Ready`: the executor drops its future.
A handle may be polled again after it has delivered.

* `Joining` is the shared state with the history of what was polled, delivered, woken
  and cancelled, the newest first.
* `Tracks` ties the shared state to the history, and is kept by every step.
* `joinHandle_delivers`: at most one delivery, at the first poll that could make it, no
  lost wake, and no poll of a cancelled future.
-/
import Vibeio.Core
import Vibeio.Theory.Machine

namespace Vibeio.Executor

open Vibeio.Theory

set_option autoImplicit false

section Join

variable {T : Type}

structure JoinState (T : Type) where
  output : Option T
  waker : Option Waker
  canceled : Bool
  deriving DecidableEq, Repr

/-- Where the task is. -/
inductive TaskPc where
  | idle
  /-- Inside the poll of the inner future. -/
  | polling
  /-- `SpawnFuture` has returned `Ready`. -/
  | finished
  deriving DecidableEq, Repr

inductive Event (T : Type) where
  | innerPolled
  /-- The completing poll, with the waker it woke. -/
  | completed (output : T) (woken : Option Waker)
  /-- `SpawnFuture` found the flag set. -/
  | stopped
  | handlePolled (waker : Waker) (result : Poll T)
  | canceled
  deriving DecidableEq, Repr

structure Joining (T : Type) where
  state : JoinState T
  task : TaskPc
  /-- `cancel` consumes the handle. -/
  handle : Bool
  history : List (Event T)
  deriving DecidableEq, Repr

inductive JoinLabel (T : Type) where
  | pollTask
  | innerPending
  | innerReady (output : T)
  | pollHandle (waker : Waker)
  | cancel
  deriving DecidableEq, Repr

namespace Joining

def log (s : Joining T) (event : Event T) : Joining T := { s with history := event :: s.history }

/-- `RuntimeInner::spawn`. -/
def spawned : Joining T := ⟨⟨none, none, false⟩, .idle, true, []⟩

/-- `SpawnFuture::poll` up to the poll of the inner future. -/
def pollTask (s : Joining T) : Joining T :=
  if s.state.canceled then { s with task := .finished }.log .stopped
  else { s with task := .polling }.log .innerPolled

/-- `SpawnFuture::poll` from the inner future's `Ready` on. -/
def complete (s : Joining T) (output : T) : Joining T :=
  { s with state := { s.state with output := some output, waker := none }, task := .finished }.log
    (.completed output s.state.waker)

/-- `JoinHandle::poll`. -/
def pollHandle (s : Joining T) (waker : Waker) : Joining T :=
  match s.state.output with
  | some output => { s with state := { s.state with output := none } }.log (.handlePolled waker (.ready output))
  | none =>
      { s with state := { s.state with waker := updateWaiter s.state.waker waker } }.log
        (.handlePolled waker .pending)

def cancel (s : Joining T) : Joining T :=
  { s with state := { s.state with canceled := true }, handle := false }.log .canceled

def step (s : Joining T) : JoinLabel T → Option (Joining T)
  | .pollTask => if s.task = .idle then some s.pollTask else none
  | .innerPending => if s.task = .polling then some { s with task := .idle } else none
  | .innerReady output => if s.task = .polling then some (s.complete output) else none
  | .pollHandle waker => if s.handle then some (s.pollHandle waker) else none
  | .cancel => if s.handle then some s.cancel else none

end Joining

def joinMachine (T : Type) : Machine (Joining T) (JoinLabel T) where
  start s := s = .spawned
  step := Joining.step

/-! ## Reading the history -/

def Event.delivers : Event T → Bool
  | .handlePolled _ (.ready _) => true
  | _ => false

/-- The latest poll of the handle. -/
def latestPoll : List (Event T) → Option (Waker × Poll T)
  | [] => none
  | .handlePolled waker result :: _ => some (waker, result)
  | _ :: earlier => latestPoll earlier

/-- The output of the task, once it has completed. -/
def completedOutput : List (Event T) → Option T
  | [] => none
  | .completed output _ :: _ => some output
  | _ :: earlier => completedOutput earlier

/-- What is asked of a history of a task and its handle. -/
structure Delivers (history : List (Event T)) : Prop where
  atMostOnce : history.countP Event.delivers ≤ 1
  /-- What is delivered is the output, and it is delivered at the first poll that can. -/
  delivered : ∀ later earlier waker result, history = later ++ .handlePolled waker result :: earlier →
    (∀ output, result = .ready output → completedOutput earlier = some output) ∧
    (∀ output, completedOutput earlier = some output → earlier.countP Event.delivers = 0 →
      result = .ready output)
  woken : ∀ later earlier output woken, history = later ++ .completed output woken :: earlier →
    ∀ waker, latestPoll earlier = some (waker, .pending) → woken = some waker
  canceled : ∀ later earlier, history = later ++ .innerPolled :: earlier → .canceled ∉ earlier

/-! ## The shared state and the history -/

/-- Before the task completes nothing was delivered and the slot has the waker of the latest
poll; afterwards the output is there until it is delivered. -/
structure Tracks (s : Joining T) : Prop where
  canceled : .canceled ∈ s.history ↔ s.state.canceled = true
  unfinished : s.task ≠ .finished → completedOutput s.history = none
  before : completedOutput s.history = none →
    s.state.output = none ∧ s.history.countP Event.delivers = 0 ∧
      ∀ waker, latestPoll s.history = some (waker, .pending) → s.state.waker = some waker
  after : ∀ output, completedOutput s.history = some output →
    s.state.output = some output ∧ s.history.countP Event.delivers = 0 ∨
      s.state.output = none ∧ s.history.countP Event.delivers = 1

/-- What is asked of one event, given those before it. -/
def Event.Right (earlier : List (Event T)) : Event T → Prop
  | .handlePolled _ result =>
      (∀ output, result = .ready output →
        completedOutput earlier = some output ∧ earlier.countP Event.delivers = 0) ∧
      (∀ output, completedOutput earlier = some output → earlier.countP Event.delivers = 0 →
        result = .ready output)
  | .completed _ woken => ∀ waker, latestPoll earlier = some (waker, .pending) → woken = some waker
  | .innerPolled => .canceled ∉ earlier
  | _ => True

/-- What is asked, of every event of a history. -/
def Sound : List (Event T) → Prop
  | [] => True
  | event :: earlier => event.Right earlier ∧ Sound earlier

theorem Sound.split {later earlier : List (Event T)} {event : Event T}
    (sound : Sound (later ++ event :: earlier)) : event.Right earlier ∧ Sound earlier := by
  induction later with
  | nil => exact sound
  | cons newer rest ih => exact ih sound.2

/-- A delivery is the first one. -/
theorem Sound.atMostOnce {history : List (Event T)} (sound : Sound history) :
    history.countP Event.delivers ≤ 1 := by
  induction history with
  | nil => exact Nat.zero_le _
  | cons event earlier ih =>
      rw [List.countP_cons]
      split
      · rename_i delivers
        cases event with
        | handlePolled waker result =>
            cases result with
            | ready output => exact Nat.le_of_eq (congrArg (· + 1) (sound.1.1 output rfl).2)
            | pending => cases delivers
        | innerPolled | completed | stopped | canceled => cases delivers
      · exact ih sound.2

theorem Sound.delivers {history : List (Event T)} (sound : Sound history) : Delivers history where
  atMostOnce := sound.atMostOnce
  delivered := by
    rintro later earlier waker result rfl
    obtain ⟨first, prompt⟩ := sound.split.1
    exact ⟨fun output ready => (first output ready).1, prompt⟩
  woken := by
    rintro later earlier output woken rfl
    exact sound.split.1
  canceled := by
    rintro later earlier rfl
    exact sound.split.1

theorem Tracks.spawned : Tracks (Joining.spawned : Joining T) where
  canceled := by simp [Joining.spawned]
  unfinished _ := rfl
  before _ := ⟨rfl, rfl, by simp [Joining.spawned, latestPoll]⟩
  after := by simp [Joining.spawned, completedOutput]

/-- The task starts a poll of the inner future, or finds itself cancelled. -/
theorem Tracks.pollTask {s : Joining T} (tracks : Tracks s) (idle : s.task = .idle) (sound : Sound s.history) :
    Tracks s.pollTask ∧ Sound s.pollTask.history := by
  have running : s.task ≠ .finished := by simp [idle]
  unfold Joining.pollTask
  cases canceled : s.state.canceled with
  | true =>
      refine ⟨⟨?_, ?_, tracks.before, tracks.after⟩, trivial, sound⟩
      · simpa [Joining.log] using tracks.canceled
      · exact fun _ => tracks.unfinished running
  | false =>
      have going : .canceled ∉ s.history := by simp [tracks.canceled, canceled]
      refine ⟨⟨?_, ?_, tracks.before, tracks.after⟩, going, sound⟩
      · simpa [Joining.log] using tracks.canceled
      · exact fun _ => tracks.unfinished running

theorem Tracks.innerPending {s : Joining T} (tracks : Tracks s) (polling : s.task = .polling) :
    Tracks { s with task := .idle } :=
  ⟨tracks.canceled, fun _ => tracks.unfinished (by simp [polling]), tracks.before, tracks.after⟩

/-- The inner future returns: the waker in the slot is that of the latest poll. -/
theorem Tracks.complete {s : Joining T} (tracks : Tracks s) (polling : s.task = .polling)
    (sound : Sound s.history) (output : T) :
    Tracks (s.complete output) ∧ Sound (s.complete output).history := by
  have unfinished : completedOutput s.history = none := tracks.unfinished (by simp [polling])
  obtain ⟨-, undelivered, waits⟩ := tracks.before unfinished
  refine ⟨⟨?_, fun finished => absurd rfl finished, ?_, ?_⟩, waits, sound⟩
  · simpa [Joining.complete, Joining.log] using tracks.canceled
  · intro impossible
    cases impossible
  · intro output' same
    cases same
    exact .inl ⟨rfl, undelivered⟩

/-- A poll of the handle takes the output if it is there, and leaves its waker if not. -/
theorem Tracks.pollHandle {s : Joining T} (tracks : Tracks s) (sound : Sound s.history) (waker : Waker) :
    Tracks (s.pollHandle waker) ∧ Sound (s.pollHandle waker).history := by
  have flag : ∀ result : Poll T, .canceled ∈ Event.handlePolled waker result :: s.history ↔
      s.state.canceled = true := by
    intro result
    simpa using tracks.canceled
  unfold Joining.pollHandle
  cases stored : s.state.output with
  | some output =>
      cases completed : completedOutput s.history with
      | none =>
          have empty := (tracks.before completed).1
          rw [stored] at empty
          cases empty
      | some output' =>
          obtain ⟨same, undelivered⟩ | ⟨empty, -⟩ := tracks.after output' completed
          · cases stored.symm.trans same
            have delivers : (Event.handlePolled waker (.ready output) :: s.history).countP Event.delivers = 1 := by
              rw [List.countP_cons_of_pos rfl, undelivered]
            refine ⟨⟨flag _, tracks.unfinished, ?_, ?_⟩, ⟨?_, ?_⟩, sound⟩
            · intro incomplete
              cases completed.symm.trans incomplete
            · exact fun _ _ => .inr ⟨rfl, delivers⟩
            · intro taken ready
              cases ready
              exact ⟨completed, undelivered⟩
            · intro other same' _
              cases completed.symm.trans same'
              rfl
          · cases stored.symm.trans empty
  | none =>
      have quiet : (Event.handlePolled waker (.pending : Poll T) :: s.history).countP Event.delivers =
          s.history.countP Event.delivers := List.countP_cons_of_neg (by simp [Event.delivers])
      refine ⟨⟨flag _, tracks.unfinished, ?_, ?_⟩, ⟨?_, ?_⟩, sound⟩
      · intro incomplete
        obtain ⟨-, undelivered, -⟩ := tracks.before incomplete
        refine ⟨stored, quiet.trans undelivered, ?_⟩
        intro latest same
        cases same
        exact updateWaiter_eq _ _
      · intro output completed
        obtain ⟨same, -⟩ | ⟨-, delivered⟩ := tracks.after output completed
        · cases stored.symm.trans same
        · exact .inr ⟨stored, quiet.trans delivered⟩
      · intro output ready
        cases ready
      · intro output completed undelivered
        obtain ⟨same, -⟩ | ⟨-, delivered⟩ := tracks.after output completed
        · cases stored.symm.trans same
        · rw [undelivered] at delivered
          cases delivered

theorem Tracks.cancel {s : Joining T} (tracks : Tracks s) (sound : Sound s.history) :
    Tracks s.cancel ∧ Sound s.cancel.history := by
  refine ⟨⟨?_, tracks.unfinished, tracks.before, tracks.after⟩, trivial, sound⟩
  simp [Joining.cancel, Joining.log]

/-- What one step preserves. -/
theorem Tracks.step {s s' : Joining T} {label : JoinLabel T} (tracks : Tracks s) (sound : Sound s.history)
    (stepped : s.step label = some s') : Tracks s' ∧ Sound s'.history := by
  cases label with
  | pollTask =>
      obtain ⟨idle, moved⟩ := Option.ite_none_right_eq_some.mp stepped
      cases moved
      exact tracks.pollTask idle sound
  | innerPending =>
      obtain ⟨polling, moved⟩ := Option.ite_none_right_eq_some.mp stepped
      cases moved
      exact ⟨tracks.innerPending polling, sound⟩
  | innerReady output =>
      obtain ⟨polling, moved⟩ := Option.ite_none_right_eq_some.mp stepped
      cases moved
      exact tracks.complete polling sound output
  | pollHandle waker =>
      obtain ⟨-, moved⟩ := Option.ite_none_right_eq_some.mp stepped
      cases moved
      exact tracks.pollHandle sound waker
  | cancel =>
      obtain ⟨-, moved⟩ := Option.ite_none_right_eq_some.mp stepped
      cases moved
      exact tracks.cancel sound

theorem joined_tracks {s : Joining T} (reachable : (joinMachine T).Reachable s) :
    Tracks s ∧ Sound s.history := by
  refine Machine.invariant (I := fun s => Tracks s ∧ Sound s.history) ?_ ?_ reachable
  · rintro s rfl
    exact ⟨Tracks.spawned, trivial⟩
  · rintro s label s' ⟨tracks, sound⟩ stepped
    exact tracks.step sound stepped

/-- **A handle delivers.**  In every interleaving of the polls of the task, the polls of the
handle with any wakers, and its cancellation: the output is delivered at most once, at the
first poll after the completion; the waker of the latest pending poll is woken by the
completing poll; and once cancelled, the inner future is not polled. -/
theorem joinHandle_delivers {s : Joining T} (reachable : (joinMachine T).Reachable s) : Delivers s.history :=
  (joined_tracks reachable).2.delivers

end Join

/-- Awaited by two tasks in turn, then cancelled. -/
theorem joinHandle_delivers_example : Delivers
    [.canceled, .handlePolled ⟨2⟩ (.ready 21), .completed 21 (some ⟨2⟩), .handlePolled ⟨2⟩ .pending,
      .innerPolled, .handlePolled ⟨1⟩ .pending] :=
  @joinHandle_delivers Nat ⟨⟨none, none, true⟩, .finished, false, _⟩
    ⟨.spawned, [.pollHandle ⟨1⟩, .pollTask, .pollHandle ⟨2⟩, .innerReady 21, .pollHandle ⟨2⟩, .cancel], rfl, by decide⟩

end Vibeio.Executor
