/-
# Executor.Timers -- the loop of block_on and its timer

`block_on` spins the timer twice in an iteration: once before it drains the queues, and once
more before it blocks, for as long as the second spin says.  A spin takes the wakers of due
timers out of the wheel and wakes them where it stands.

The machine of this module is the runtime with its timer: the spins, and the wait that
follows the second one, happen at their places in the loop; code of the futures submits
and cancels timers wherever it runs.

* `SleepsRight`: a timeout that ends no later than the nearest timer, and only with it.
* `timers_drive_the_loop`: the loop blocks with such a timeout, and leaves a spin only
  when everything it took out of the wheel is reached.
-/
import Vibeio.Executor.Wakes
import Vibeio.Timer.Nearest

namespace Vibeio.Executor

open Vibeio.Theory Vibeio.Timer

set_option autoImplicit false

variable {D : DriverApi}

structure TimedRuntime (D : DriverApi) where
  runtime : State D
  timer : Timer
  /-- The latest reading of the clock. -/
  clock : Nat
  /-- The first spin of this iteration is made, and the loop still stands at it. -/
  spun : Bool
  /-- What the latest spin has taken out of the wheel, and what of it is still to be woken. -/
  collected : List Waker
  toWake : List Waker
  /-- What the latest second spin has returned. -/
  timeout : Option Nat

inductive TimedLabel (D : DriverApi) where
  /-- A step of the runtime that is none of the others. -/
  | runtime (l : Label D)
  | spin (now : Nat)
  | spinDeadline (now : Nat)
  /-- A spin wakes the next waker. -/
  | wake
  | wait (env : D.Env) (consumed : Bool)
  /-- Code of the futures, on the scheduler thread. -/
  | submit (deadline : Nat) (waker : Waker) (slabIndex : Nat)
  | cancel (handle : TimerHandle)

namespace TimedRuntime

/-- A spin is left when its wakers are woken; the second spin and the wait have labels of
their own. -/
def Allows (s : TimedRuntime D) : Label D → Prop
  | .spun _ | .wait .. => False
  | .advance =>
      (s.runtime.pc = .spinTimer → s.spun = true ∧ s.toWake = []) ∧
      (s.runtime.pc = .timersWoken → s.toWake = [])
  | _ => True

instance (s : TimedRuntime D) (l : Label D) : Decidable (s.Allows l) := by
  cases l <;> simp only [Allows] <;> infer_instance

/-- The runtime has moved to `next`.  A panic in a waker leaves the rest of them unwoken. -/
def follow (s : TimedRuntime D) (next : State D) : TimedRuntime D :=
  { s with
    runtime := next
    spun := s.spun && next.pc = .spinTimer
    toWake := if next.pc = .spinTimer ∨ next.pc = .timersWoken then s.toWake else [] }

/-- Wake the first of the wakers. -/
def wakeNext (target : Waker → Target) (s : TimedRuntime D) : Option (TimedRuntime D) :=
  match s.toWake with
  | [] => none
  | waker :: rest => (s.runtime.wakeOne target waker).map fun next => { s with runtime := next, toWake := rest }

/-- Code of the futures may use the timer: a spin that wakes holds it borrowed. -/
def Usable (s : TimedRuntime D) : Prop := s.runtime.Free ∧ s.runtime.pc.foreign = true ∧ s.toWake = []

instance (s : TimedRuntime D) : Decidable s.Usable := inferInstanceAs (Decidable (_ ∧ _ ∧ _))

def step (target : Waker → Target) (s : TimedRuntime D) : TimedLabel D → Option (TimedRuntime D)
  | .runtime l => if s.Allows l then (s.runtime.step l).map s.follow else none
  | .spin now =>
      if s.runtime.Free ∧ s.runtime.pc = .spinTimer ∧ s.spun = false ∧ s.clock ≤ now then
        (s.timer.spinAndGetDeadline now).map fun spin =>
          { s with
            timer := spin.1
            clock := now
            spun := true
            collected := spin.2.woken
            toWake := spin.2.woken }
      else none
  | .spinDeadline now =>
      if s.clock ≤ now then
        (s.timer.spinAndGetDeadline now).bind fun spin =>
          (s.runtime.step (.spun spin.2.wokenUp)).map fun next =>
            { runtime := next
              timer := spin.1
              clock := now
              spun := false
              collected := spin.2.woken
              toWake := spin.2.woken
              timeout := spin.2.deadline }
      else none
  | .wake => s.wakeNext target
  | .wait env consumed => (s.runtime.step (.wait s.timeout env consumed)).map s.follow
  | .submit deadline waker slabIndex =>
      if s.Usable ∧ (s.timer.wheel.entries.get slabIndex).isNone then
        (s.timer.submit deadline waker slabIndex).bind fun submitted =>
          -- what is due already is woken where it stands
          match submitted.2.2 with
          | [] => some { s with timer := submitted.1 }
          | woken => wakeNext target { s with timer := submitted.1, toWake := woken }
      else none
  | .cancel handle => if s.Usable then some { s with timer := s.timer.cancel handle } else none

end TimedRuntime

/-- A runtime with its timer enabled, from its construction on. -/
def timedMachine (D : DriverApi) (target : Waker → Target) : Machine (TimedRuntime D) (TimedLabel D) where
  start s := ∃ driver batchSize reading,
    s = ⟨.withOptions driver batchSize, .new reading, reading, false, [], [], none⟩
  step := TimedRuntime.step target

/-- The timeout ends no later than the nearest timer, and only with it. -/
structure SleepsRight (timer : Timer) (timeout : Option Nat) : Prop where
  forever : timeout = none ↔ ∀ index, timer.wheel.entries.get index = none
  within : ∀ index entry, timer.wheel.entries.get index = some entry → ∃ nanos, timeout = some nanos ∧
    nanos ≤ max 1 (entry.expirationTick - timer.wheel.now) * tickNanos
  attained : ∀ nanos, timeout = some nanos → ∃ index entry, timer.wheel.entries.get index = some entry ∧
    nanos = max 1 (entry.expirationTick - timer.wheel.now) * tickNanos

theorem sleepsRight_of_spin {timer after : Timer} {now : Nat} {spin : Timer.Spin} (sound : timer.wheel.Sound)
    (spun : timer.spinAndGetDeadline now = some (after, spin)) : SleepsRight after spin.deadline := by
  have exact' := Timer.spinExact_of_sound sound spun
  have least : ∀ index entry, after.wheel.entries.get index = some entry →
      ∃ tick, IsLeast after.wheel.liveTicks tick := by
    classical
    intro index entry found
    have some_tick : ∃ tick, tick ∈ after.wheel.liveTicks := ⟨_, index, entry, found, rfl⟩
    exact ⟨Nat.find some_tick, Nat.find_spec some_tick, fun tick member => Nat.find_min' some_tick member⟩
  refine ⟨exact'.none_live, fun index entry found => ?_, fun nanos waits => ?_⟩
  · obtain ⟨tick, first⟩ := least index entry found
    refine ⟨_, exact'.remaining tick first, Nat.mul_le_mul_right _ ?_⟩
    have below : tick ≤ entry.expirationTick := first.2 ⟨index, entry, found, rfl⟩
    omega
  · have live : ∃ index entry, after.wheel.entries.get index = some entry := by
      by_contra none
      have vacant : ∀ index, after.wheel.entries.get index = Option.none := by
        intro index
        cases found : after.wheel.entries.get index with
        | none => rfl
        | some entry => exact absurd ⟨index, entry, found⟩ none
      rw [exact'.none_live.mpr vacant] at waits
      cases waits
    obtain ⟨index, entry, found⟩ := live
    obtain ⟨tick, first⟩ := least index entry found
    obtain ⟨nearest, its, there, same⟩ := first.1
    rw [exact'.remaining tick first] at waits
    cases waits
    exact ⟨nearest, its, there, by rw [same]⟩

/-! ## What every step keeps -/

/-- The scheduler stands at a spin whose wakers are in its hands. -/
def TimedRuntime.Waking (s : TimedRuntime D) : Prop :=
  s.runtime.pc = .spinTimer ∧ s.spun = true ∨ s.runtime.pc = .timersWoken

structure Timed (target : Waker → Target) (s : TimedRuntime D) : Prop where
  runtime : (machine D).Reachable s.runtime
  sound : s.timer.wheel.Sound
  blocked : s.runtime.pc = .wait → SleepsRight s.timer s.timeout ∧ s.collected = []
  woken : s.Waking → ∀ waker ∈ s.collected, waker ∈ s.toWake ∨ (target waker).Reached s.runtime
  spun : s.spun = true → s.runtime.pc = .spinTimer

variable {target : Waker → Target}

/-- Nothing that happens at a spin undoes a wake. -/
theorem leaves_of_spin {s : State D} (reachable : (machine D).Reachable s)
    (here : s.pc = .spinTimer ∨ s.pc = .timersWoken) (l : Label D) (aim : Target) : aim.Leaves s l := by
  have batched := State.batched_of_reachable reachable
  refine Target.leaves_of_unbatched ?_ ?_ (batched ?_) l aim
  · rcases here with here | here <;> simp [here]
  · rcases here with here | here <;> simp [here]
  · rcases here with here | here <;> rw [here] <;> rfl

theorem drain_place (s : State D) (stage : Stage) (budget : Nat) :
    (s.drainReadyStep stage budget).pc ≠ .wait ∧ (s.drainReadyStep stage budget).pc ≠ .timersWoken := by
  have left : s.endDrain.pc ≠ .wait ∧ s.endDrain.pc ≠ .timersWoken := by
    rcases endDrain_place s with ⟨place, -⟩ | place <;> simp [place]
  cases budget with
  | zero => exact left
  | succ budget =>
      simp only [State.drainReadyStep]
      cases pops : s.pop stage with
      | some result => exact ⟨Pc.noConfusion, Pc.noConfusion⟩
      | none =>
          cases stage with
          | nextTask | remoteQueue => exact ⟨Pc.noConfusion, Pc.noConfusion⟩
          | queue => exact left

theorem pollNext_place {s : State D} (here : s.pc = .pollTasks) :
    s.pollNext.pc ≠ .wait ∧ s.pollNext.pc ≠ .timersWoken := by
  unfold State.pollNext
  split
  · exact ⟨Pc.noConfusion, Pc.noConfusion⟩
  · split
    · exact ⟨Pc.noConfusion, Pc.noConfusion⟩
    · simp only [here]
      exact ⟨Pc.noConfusion, Pc.noConfusion⟩

/-- Only the second spin leads to where the loop blocks, and to where it wakes again. -/
theorem spun_step {s s' : State D} {l : Label D} (stepped : s.step l = some s')
    (there : s'.pc = .wait ∨ s'.pc = .timersWoken) : s.pc = s'.pc ∨ ∃ wokenUp, l = .spun wokenUp := by
  have elsewhere : s'.pc ≠ .wait ∧ s'.pc ≠ .timersWoken → s.pc = s'.pc ∨ ∃ wokenUp, l = .spun wokenUp :=
    fun ⟨blocked, woken⟩ => (there.elim blocked woken).elim
  cases State.step_cases stepped with
  | waker pc => exact .inl (wakerStep_frame s pc).1.symm
  | localPush task => exact .inl (keeps_pushLocal s task).2.2.1.symm
  | wakeTask | wakeRoot | kernel | localWake | localWakeRoot | call | spawn => exact .inl rfl
  | blocks | timersFired => exact .inr ⟨_, rfl⟩
  | enter | rootPending | rootDone | taskPolled | wait | flush | unwind =>
      exact elsewhere ⟨Pc.noConfusion, Pc.noConfusion⟩
  | advance s' advances =>
      cases advances with
      | drain here => exact elsewhere (drain_place s _ _)
      | pollTasks here => exact elsewhere (pollNext_place here)
      | _ => exact elsewhere ⟨Pc.noConfusion, Pc.noConfusion⟩

/-! ### The timer -/

theorem sound_spin {timer after : Timer} {now : Nat} {spin : Timer.Spin} (sound : timer.wheel.Sound)
    (spun : timer.spinAndGetDeadline now = some (after, spin)) :
    after.wheel.Sound ∧ spin.wokenUp = !spin.woken.isEmpty := by
  constructor
  · rcases Timer.spin_cases spun with ⟨-, same, -⟩ | ⟨advanced, done, same, -⟩
    · rw [same]
      exact sound
    · rw [same]
      exact ⟨(TimingWheel.advance_placed sound.placed done).congr rfl rfl,
        (sound.tracked.advance sound.placed done).refresh⟩
  · simp only [Timer.spinAndGetDeadline] at spun
    split at spun
    · cases spun
      rfl
    · simp only [Option.map_eq_some_iff, Prod.mk.injEq] at spun
      obtain ⟨advanced, -, -, rfl⟩ := spun
      rfl

theorem sound_submit {timer : Timer} {deadline slabIndex : Nat} {waker : Waker}
    {submitted : Timer × Option TimerHandle × List Waker} (sound : timer.wheel.Sound)
    (vacant : (timer.wheel.entries.get slabIndex).isNone = true)
    (submits : timer.submit deadline waker slabIndex = some submitted) : submitted.1.wheel.Sound := by
  have sound' : (⟨timer, 0, 0, []⟩ : Clocked).timer.wheel.Sound := sound
  have applied : ∃ submissions, Clocked.apply ⟨timer, 0, 0, []⟩ (.submit deadline waker slabIndex) =
      some ⟨submitted.1, 0, 0, submissions⟩ :=
    ⟨_, by simp only [Clocked.apply, vacant, if_true, submits, Option.map_some]; rfl⟩
  obtain ⟨submissions, applied⟩ := applied
  exact Clocked.sound_apply sound' applied

theorem sound_cancel {timer : Timer} (sound : timer.wheel.Sound) (handle : TimerHandle) :
    (timer.cancel handle).wheel.Sound :=
  ⟨TimingWheel.remove_placed sound.placed handle, sound.tracked.remove handle⟩

/-! ### The product -/

namespace Timed

theorem wakeNext {s s' : TimedRuntime D} (timed : Timed target s) (wakes : s.wakeNext target = some s') :
    Timed target s' := by
  unfold TimedRuntime.wakeNext at wakes
  split at wakes
  · cases wakes
  · rename_i waker rest head
    obtain ⟨next, woke, rfl⟩ := Option.map_eq_some_iff.mp wakes
    have wakes := wakes_of_wakeOne timed.runtime woke
    refine ⟨wakes.reachable timed.runtime, timed.sound, fun here => ?_, fun waking other member => ?_,
      fun spun => wakes.pc.trans (timed.spun spun)⟩
    · rw [show next.pc = s.runtime.pc from wakes.pc] at here
      exact timed.blocked here
    · have before : s.Waking := by
        unfold TimedRuntime.Waking at waking ⊢
        rw [← wakes.pc]
        exact waking
      rcases timed.woken before other member with waiting | done
      · rw [head] at waiting
        rcases List.mem_cons.mp waiting with rfl | later
        · exact .inr wakes.reached
        · exact .inl later
      · exact .inr (wakes.keeps (State.batched_of_reachable timed.runtime) done)

theorem follow {s : TimedRuntime D} {next : State D} {l : Label D} (timed : Timed target s)
    (stepped : s.runtime.step l = some next) (plain : ∀ wokenUp, l ≠ .spun wokenUp) :
    Timed target (s.follow next) := by
  have stays : ∀ {pc : Pc}, next.pc = pc → pc = .wait ∨ pc = .timersWoken → s.runtime.pc = pc := by
    rintro pc rfl there
    exact (spun_step stepped there).resolve_right fun ⟨wokenUp, spins⟩ => plain wokenUp spins
  refine ⟨.next (machine D) timed.runtime stepped, timed.sound,
    fun here => timed.blocked (stays here (.inl rfl)),
    fun waking waker member => ?_, fun spun => ?_⟩
  · have before : s.Waking ∧ (next.pc = .spinTimer ∨ next.pc = .timersWoken) := by
      rcases waking with ⟨here, spun⟩ | here
      · simp only [TimedRuntime.follow, Bool.and_eq_true] at spun
        exact ⟨.inl ⟨timed.spun spun.1, spun.1⟩, .inl here⟩
      · exact ⟨.inr (stays here (.inr rfl)), .inr here⟩
    have kept : (s.follow next).toWake = s.toWake := if_pos before.2
    rw [kept]
    exact (timed.woken before.1 waker member).imp_right fun reached =>
      reached.step (State.batched_of_reachable timed.runtime)
        (leaves_of_spin timed.runtime (before.1.imp_left And.left) l _) stepped
  · simp only [TimedRuntime.follow, Bool.and_eq_true, decide_eq_true_eq] at spun
    exact spun.2

/-- Only the wheel changes, under code of the futures. -/
theorem retime {s : TimedRuntime D} {timer : Timer} (timed : Timed target s) (usable : s.Usable)
    (sound : timer.wheel.Sound) : Timed target { s with timer := timer } := by
  refine ⟨timed.runtime, sound, fun here => ?_, timed.woken, timed.spun⟩
  have foreign := usable.2.1
  rw [show s.runtime.pc = .wait from here] at foreign
  cases foreign

/-- **One step keeps the loop and the timer together.** -/
theorem step {s s' : TimedRuntime D} {l : TimedLabel D} (timed : Timed target s)
    (stepped : TimedRuntime.step target s l = some s') : Timed target s' := by
  cases l with
  | runtime l =>
      simp only [TimedRuntime.step, Option.ite_none_right_eq_some, Option.map_eq_some_iff] at stepped
      obtain ⟨allowed, next, stepped, rfl⟩ := stepped
      exact timed.follow stepped fun wokenUp spins => by rw [spins] at allowed; exact allowed
  | spin now =>
      simp only [TimedRuntime.step, Option.ite_none_right_eq_some, Option.map_eq_some_iff] at stepped
      obtain ⟨⟨-, here, -, -⟩, ⟨after, spin⟩, spins, rfl⟩ := stepped
      refine ⟨timed.runtime, (sound_spin timed.sound spins).1, fun blocked => ?_, fun _ _ member => .inl member,
        fun _ => here⟩
      cases here.symm.trans blocked
  | spinDeadline now =>
      simp only [TimedRuntime.step, Option.ite_none_right_eq_some, Option.bind_eq_some_iff,
        Option.map_eq_some_iff] at stepped
      obtain ⟨-, ⟨after, spin⟩, spins, next, stepped, rfl⟩ := stepped
      obtain ⟨sound, wokenUp⟩ := sound_spin timed.sound spins
      have reachable : (machine D).Reachable next :=
        .next (machine D) (i := .spun spin.wokenUp) timed.runtime stepped
      refine ⟨reachable, sound, fun blocked => ⟨sleepsRight_of_spin timed.sound spins, ?_⟩,
        fun _ _ member => .inl member, fun spun => by cases spun⟩
      -- the loop blocks only if this spin has woken nobody
      show spin.woken = []
      cases woken : spin.woken with
      | nil => rfl
      | cons waker rest =>
          rw [wokenUp, woken] at stepped
          cases State.step_cases stepped with
          | timersFired => cases blocked
  | wake => exact timed.wakeNext stepped
  | wait env consumed =>
      simp only [TimedRuntime.step, Option.map_eq_some_iff] at stepped
      obtain ⟨next, stepped, rfl⟩ := stepped
      exact timed.follow stepped fun wokenUp spins => by cases spins
  | submit deadline waker slabIndex =>
      simp only [TimedRuntime.step, Option.ite_none_right_eq_some, Option.bind_eq_some_iff] at stepped
      obtain ⟨⟨usable, vacant⟩, submitted, submits, stepped⟩ := stepped
      have retimed := timed.retime usable (sound_submit timed.sound vacant submits)
      split at stepped
      · cases stepped
        exact retimed
      · refine wakeNext ?_ stepped
        refine ⟨retimed.runtime, retimed.sound, retimed.blocked, fun waking other member => ?_, retimed.spun⟩
        rcases retimed.woken waking other member with waiting | done
        · rw [show s.toWake = [] from usable.2.2] at waiting
          cases waiting
        · exact .inr done
  | cancel handle =>
      simp only [TimedRuntime.step, Option.ite_none_right_eq_some, Option.some.injEq] at stepped
      obtain ⟨usable, rfl⟩ := stepped
      exact timed.retime usable (sound_cancel timed.sound handle)

end Timed

theorem timed_of_reachable {s : TimedRuntime D} (reachable : (timedMachine D target).Reachable s) :
    Timed target s := by
  refine Machine.invariant (M := timedMachine D target) ?_
    (fun _ _ _ timed stepped => timed.step stepped) reachable
  rintro s ⟨driver, batchSize, reading, rfl⟩
  refine ⟨.of_start (machine D) ⟨driver, batchSize, rfl⟩, ⟨TimingWheel.new_placed, TimingWheel.new_tracked⟩,
    fun here => ?_, fun waking => ?_, fun spun => ?_⟩
  · cases here
  · rcases waking with ⟨here, -⟩ | here <;> cases here
  · cases spun

/-! ## The loop and its timer -/

/-- The loop leaves a spin. -/
def TimedRuntime.LeavesSpin (s : TimedRuntime D) (l : TimedLabel D) : Prop :=
  l = .runtime .advance ∧ (s.runtime.pc = .spinTimer ∨ s.runtime.pc = .timersWoken)

/-- **The timer drives the loop.**  Whatever futures submit and cancel, and however the
wakes of other threads fall in between: the loop blocks only after a spin that has woken
nobody, for exactly as long as that leaves it until the nearest timer.  It leaves a spin
only once each waker the spin has taken out of the wheel has had its effect; the task of
such a waker then stays on its way until its poll begins. -/
theorem timers_drive_the_loop {s : TimedRuntime D} (reachable : (timedMachine D target).Reachable s) :
    (s.runtime.pc = .wait → s.collected = [] ∧ SleepsRight s.timer s.timeout) ∧
    ∀ l s', s.LeavesSpin l → TimedRuntime.step target s l = some s' →
      ∀ waker ∈ s.collected, (target waker).Reached s'.runtime ∧
        ∀ t, target waker = .task t → ∀ labels, (machine D).AllSteps (State.Leaves t) s'.runtime labels →
          (machine D).Throughout (State.Slated · t) s'.runtime labels := by
  have timed := timed_of_reachable reachable
  refine ⟨fun here => (timed.blocked here).symm, ?_⟩
  rintro l s' ⟨rfl, here⟩ stepped waker member
  simp only [TimedRuntime.step, Option.ite_none_right_eq_some, Option.map_eq_some_iff] at stepped
  obtain ⟨allowed, next, stepped, rfl⟩ := stepped
  have waking : s.Waking ∧ s.toWake = [] := by
    rcases here with here | here
    · exact ⟨.inl ⟨here, (allowed.1 here).1⟩, (allowed.1 here).2⟩
    · exact ⟨.inr here, allowed.2 here⟩
  have reached : (target waker).Reached s.runtime := by
    refine (timed.woken waking.1 waker member).resolve_left fun waiting => ?_
    rw [waking.2] at waiting
    cases waiting
  have after := reached.step (State.batched_of_reachable timed.runtime) (leaves_of_spin timed.runtime here _ _) stepped
  refine ⟨after, ?_⟩
  intro t aim labels leaves
  rw [aim] at after
  have reachable' : (machine D).Reachable next := .next (machine D) (i := .advance) timed.runtime stepped
  refine Machine.throughout_of_allSteps (I := fun s => s.Slated t ∧ s.Batched)
    (fun s l next holds leave stepped => ?_) (fun s holds => holds.1)
    ⟨after, State.batched_of_reachable reachable'⟩ leaves
  exact ⟨holds.1.step holds.2 leave stepped, holds.2.step stepped⟩

/-- A task begins to sleep for five milliseconds, and there is nothing else to do. -/
def untilSleep : List (TimedLabel mockDriver) :=
  [.runtime .spawn, .runtime .enter, .runtime .advance, .runtime (.polled true), .spin 0] ++
    List.replicate 7 (.runtime .advance) ++
    [.submit 5000000 ⟨7⟩ 0, .runtime (.polled true), .runtime .advance, .runtime (.flush () false),
      .runtime .advance, .runtime .advance, .spin 0] ++
    List.replicate 9 (.runtime .advance) ++ [.spinDeadline 0]

def idle : TimedRuntime mockDriver := ⟨.withOptions () 4, .new 0, 0, false, [], [], none⟩

def asleep : TimedRuntime mockDriver :=
    ((timedMachine mockDriver fun _ => .task 0).exec idle untilSleep).getD idle

theorem timers_drive_the_loop_asleep :
    asleep.timeout = some 5000000 ∧ asleep.collected = [] ∧ SleepsRight asleep.timer asleep.timeout := by
  have reachable : (timedMachine mockDriver fun _ => .task 0).Reachable asleep :=
    ⟨idle, untilSleep, ⟨(), 4, 0, rfl⟩, rfl⟩
  exact ⟨rfl, (timers_drive_the_loop reachable).1 rfl⟩

end Vibeio.Executor
