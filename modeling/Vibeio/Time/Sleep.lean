/-
# Time.Sleep -- a sleeping future and its entry in the timing wheel

`Sleep` submits an entry to the timer at its first poll, replaces it at every poll
before the deadline, and is done once the clock has reached the deadline.  The clock
is read by the poll and by the spins of the timer; a submission counts from the
timer's last spin.  Everything happens inside one runtime, so every lookup of the
current timer finds the same one.

The machine of this module is one `Sleep` beside the timer.  Its labels are the
polls, with any waker and at any reading of the clock, the spins, the resets, the
drop, and what other users of the timer do to it.  The history it keeps is the
handles this `Sleep` was ever given, what its latest operation returned, and the
wakers the timer has woken since.

* `insert_holds`, `remove_holds`, `advance_holds`: which entry carries which waker
  under each call on the wheel.
* `Stage`: where a `Sleep` stands.  It has a handle exactly when its latest poll
  returned `Pending` without yielding, and no other entry of its own is live.
* `sleep_keeps_its_entry`: what holds in every run in which a `Sleep` polled at or
  after its deadline finds its entry already fired.
-/
import Vibeio.Timer.Clock

namespace Vibeio.Time

set_option autoImplicit false

open Vibeio.Theory Vibeio.Timer

inductive ZeroBehavior where
  | immediate
  | yield
  deriving DecidableEq, Repr

/-- Instants are nanoseconds on the monotonic clock.  `timer` says whether the
runtime's timer has been looked up. -/
structure Sleep where
  handle : Option TimerHandle
  fired : Bool
  yieldScheduled : Bool
  zeroBehavior : ZeroBehavior
  deadline : Nat
  timer : Bool

/-- A submission into an index the slab has free. -/
def submitVacant (timer : Timer) (deadline : Nat) (waker : Waker) (slabIndex : Nat) :
    Option (Timer × Option TimerHandle × List Waker) :=
  if (timer.wheel.entries.get slabIndex).isNone then timer.submit deadline waker slabIndex else none

namespace Sleep

/-- `new_with_zero_behavior` at the reading `now`. -/
def newWithZeroBehavior (now duration : Nat) (zeroBehavior : ZeroBehavior) : Sleep :=
  ⟨none, false, false, zeroBehavior, now + duration, false⟩

def new (now duration : Nat) : Sleep := newWithZeroBehavior now duration .immediate

def sleepUntil (deadline : Nat) : Sleep := ⟨none, false, false, .immediate, deadline, false⟩

def reset (sleep : Sleep) (timer : Timer) (deadline : Nat) : Sleep × Timer :=
  let sleep := { sleep with deadline, fired := false, yieldScheduled := false }
  match sleep.handle with
  | some handle => ({ sleep with handle := none }, timer.cancel handle)
  | none => (sleep, timer)

/-- What a poll leaves behind, and the wakers it woke itself. -/
structure Polled where
  sleep : Sleep
  timer : Timer
  result : Poll Unit
  woken : List Waker

def handleImmediateWakeup (sleep : Sleep) (waker : Waker) : Sleep × Poll Unit × List Waker :=
  match sleep.zeroBehavior with
  | .immediate => ({ sleep with fired := true }, .ready (), [])
  | .yield =>
      if !sleep.yieldScheduled then ({ sleep with yieldScheduled := true }, .pending, [waker])
      else ({ sleep with fired := true }, .ready (), [])

/-- `poll` at the clock reading `now`.  `none` is an overflow panic of the timer. -/
def poll (sleep : Sleep) (timer : Timer) (waker : Waker) (now slabIndex : Nat) : Option Polled :=
  if sleep.fired then some ⟨sleep, timer, .ready (), []⟩
  else
    let sleep := { sleep with timer := true }
    match sleep.handle with
    | none =>
        (submitVacant timer sleep.deadline waker slabIndex).map fun submitted =>
          match submitted.2.1 with
          | some handle =>
              ⟨{ sleep with handle := some handle }, submitted.1, .pending, submitted.2.2⟩
          | none =>
              let immediate := sleep.handleImmediateWakeup waker
              ⟨immediate.1, submitted.1, immediate.2.1, submitted.2.2 ++ immediate.2.2⟩
    | some handle =>
        if sleep.deadline ≤ now then
          -- the handle is dropped here without cancelling what it names
          some ⟨{ sleep with fired := true, handle := none }, timer, .ready (), []⟩
        else
          (submitVacant (timer.cancel handle) sleep.deadline waker slabIndex).map fun submitted =>
            match submitted.2.1 with
            | some handle =>
                ⟨{ sleep with handle := some handle }, submitted.1, .pending, submitted.2.2⟩
            | none =>
                ⟨{ sleep with handle := none, fired := true }, submitted.1, .ready (), submitted.2.2⟩

/-- `Drop`: the timer afterwards. -/
def drop (sleep : Sleep) (timer : Timer) : Timer :=
  match sleep.handle with
  | some handle => if sleep.timer then timer.cancel handle else timer
  | none => timer

end Sleep

/-! ## A sleep beside the timer -/

/-- What the latest operation on the `Sleep` was, and what came of it. -/
inductive Latest where
  | made
  | pending (waker : Waker)
  | yielded
  | ready (moment : Nat)
  | reset
  | dropped
  deriving DecidableEq, Repr

structure Lifecycle where
  timer : Timer
  /-- The latest reading of the clock. -/
  clock : Nat
  /-- `none` once it has been dropped. -/
  sleep : Option Sleep
  /-- Every handle the timer has given to this `Sleep`. -/
  mine : List TimerHandle
  latest : Latest
  /-- The wakers the timer has woken in spins since the latest poll. -/
  woken : List Waker

inductive SleepEvent where
  | poll (waker : Waker) (now slabIndex : Nat)
  | reset (deadline : Nat)
  | drop
  | spin (now : Nat)
  /-- Another user of the timer submits, or cancels what is its own. -/
  | otherSubmit (deadline : Nat) (waker : Waker) (slabIndex : Nat)
  | otherCancel (handle : TimerHandle)
  deriving DecidableEq, Repr

namespace Lifecycle

/-- What a poll of `sleep` at `now` counts as. -/
def outcome (sleep : Sleep) (waker : Waker) (now : Nat) (polled : Sleep.Polled) : Latest :=
  match polled.result with
  | .ready _ => .ready now
  | .pending => if polled.sleep.yieldScheduled = sleep.yieldScheduled then .pending waker else .yielded

/-- One event.  Clock readings do not go back. -/
def step (s : Lifecycle) : SleepEvent → Option Lifecycle
  | .poll waker now slabIndex =>
      if s.clock ≤ now then
        s.sleep.bind fun sleep =>
          (sleep.poll s.timer waker now slabIndex).map fun polled =>
            { timer := polled.timer
              clock := now
              sleep := some polled.sleep
              mine := polled.sleep.handle.toList ++ s.mine
              latest := outcome sleep waker now polled
              woken := [] }
      else none
  | .reset deadline =>
      s.sleep.map fun sleep =>
        let after := sleep.reset s.timer deadline
        { s with sleep := some after.1, timer := after.2, latest := .reset }
  | .drop =>
      s.sleep.map fun sleep => { s with sleep := none, timer := sleep.drop s.timer, latest := .dropped }
  | .spin now =>
      if s.clock ≤ now then
        (s.timer.spinAndGetDeadline now).map fun spun =>
          { s with timer := spun.1, clock := now, woken := s.woken ++ spun.2.woken }
      else none
  | .otherSubmit deadline waker slabIndex =>
      (submitVacant s.timer deadline waker slabIndex).map fun submitted => { s with timer := submitted.1 }
  | .otherCancel handle =>
      if handle ∈ s.mine then none else some { s with timer := s.timer.cancel handle }

/-- A new `Sleep` and a timer, both made at any reading. -/
def Fresh (s : Lifecycle) : Prop :=
  ∃ reading deadline zeroBehavior, s =
    ⟨.new reading, reading, some ⟨none, false, false, zeroBehavior, deadline, false⟩, [], .made, []⟩

end Lifecycle

def sleepMachine : Machine Lifecycle SleepEvent where
  start := Lifecycle.Fresh
  step := Lifecycle.step

/-- A submission is too short and changes nothing, or it makes one entry. -/
theorem submitVacant_cases {timer timer' : Timer} {deadline slabIndex : Nat} {waker : Waker}
    {made : Option TimerHandle} {woken : List Waker} (placed : timer.wheel.Placed)
    (submitted : submitVacant timer deadline waker slabIndex = some (timer', made, woken)) :
    (made = none ∧ timer' = timer ∧ asMillis (deadline - timer.instant) = 0) ∨
      ∃ handle, made = some handle ∧ timer'.instant = timer.instant ∧ timer'.wheel.Placed ∧
        handle.generation = timer.wheel.generationCounter + 1 ∧
        timer'.wheel.generationCounter = timer.wheel.generationCounter + 1 ∧
        ∀ other carried, timer'.wheel.Holds other carried ↔
          (other = handle ∧ carried = waker) ∨ timer.wheel.Holds other carried := by
  simp only [submitVacant, Option.ite_none_right_eq_some, Option.isNone_iff_eq_none] at submitted
  obtain ⟨vacant, submitted⟩ := submitted
  simp only [Timer.submit] at submitted
  split at submitted
  · rename_i short
    cases submitted
    exact Or.inl ⟨rfl, rfl, by omega⟩
  · simp only [Option.bind_eq_some_iff, Option.map_eq_some_iff, Prod.mk.injEq] at submitted
    obtain ⟨expirationTick, -, ⟨w', handle⟩, inserted, rfl, rfl, -⟩ := submitted
    obtain ⟨-, generation, counter⟩ := TimingWheel.insert_handles vacant inserted
    exact Or.inr ⟨handle, rfl, rfl, TimingWheel.insert_placed placed vacant inserted, generation, counter,
      TimingWheel.insert_holds vacant inserted⟩

namespace Lifecycle

/-- No entry of this `Sleep` is live. -/
def NoneLive (s : Lifecycle) : Prop := ∀ handle ∈ s.mine, ¬ s.timer.wheel.Live handle

/-- **What a `Sleep` promises.** -/
structure Sound (s : Lifecycle) : Prop where
  /-- It returns `Ready` only later than one millisecond before the deadline. -/
  notEarly : ∀ sleep moment, s.sleep = some sleep → s.latest = .ready moment →
    sleep.deadline < moment + tickNanos
  /-- After a `Pending` that is no yield, one live entry is its own and carries the
  waker of that poll, or the entry has fired and woken it. -/
  registered : ∀ waker, s.latest = .pending waker →
    (∃ handle ∈ s.mine, s.timer.wheel.Holds handle waker ∧
      ∀ other ∈ s.mine, s.timer.wheel.Live other → other = handle) ∨
    (waker ∈ s.woken ∧ s.NoneLive)
  /-- Once it is done, reset or gone, no entry of its own is live. -/
  released : (s.latest = .reset ∨ s.latest = .dropped ∨ ∃ moment, s.latest = .ready moment) → s.NoneLive

/-! ## Where a sleep stands -/

/-- The entry of `handle` is the only live one and carries `waker`, or it has fired. -/
structure Armed (s : Lifecycle) (handle : TimerHandle) (waker : Waker) : Prop where
  given : handle ∈ s.mine
  only : ∀ other ∈ s.mine, s.timer.wheel.Live other → other = handle
  carries : s.timer.wheel.Holds handle waker ∨ (waker ∈ s.woken ∧ ¬ s.timer.wheel.Live handle)

/-- Nothing of the `Sleep` is in the wheel; if it is done, the deadline is near or past. -/
structure Idle (s : Lifecycle) (sleep : Sleep) : Prop where
  noneLive : s.NoneLive
  unregistered : ∀ waker, s.latest ≠ .pending waker
  near : sleep.fired = true → sleep.deadline < s.clock + tickNanos
  ready : ∀ moment, s.latest = .ready moment → sleep.deadline < moment + tickNanos

def Stage (s : Lifecycle) : Prop :=
  match s.sleep with
  | none => s.latest = .dropped ∧ s.NoneLive
  | some sleep =>
      match sleep.handle with
      | none => s.Idle sleep
      | some handle => sleep.timer = true ∧ sleep.fired = false ∧
          ∃ waker, s.latest = .pending waker ∧ s.Armed handle waker

structure Good (s : Lifecycle) : Prop where
  placed : s.timer.wheel.Placed
  given : ∀ handle ∈ s.mine, handle.generation ≤ s.timer.wheel.generationCounter
  instant : s.timer.instant ≤ s.clock
  stage : s.Stage

/-- A change to the timer that revives no entry of this `Sleep` and loses none
without waking its waker leaves the `Sleep` where it stands. -/
theorem Stage.of_timer {s s' : Lifecycle} (stage : s.Stage) (sleep : s'.sleep = s.sleep)
    (mine : s'.mine = s.mine) (latest : s'.latest = s.latest) (clock : s.clock ≤ s'.clock)
    (revives : ∀ handle ∈ s.mine, s'.timer.wheel.Live handle → s.timer.wheel.Live handle)
    (loses : ∀ handle ∈ s.mine, ∀ waker, s.timer.wheel.Holds handle waker →
      s'.timer.wheel.Holds handle waker ∨ (waker ∈ s'.woken ∧ ¬ s'.timer.wheel.Live handle))
    (woken : ∀ waker ∈ s.woken, waker ∈ s'.woken) : s'.Stage := by
  have noneLive : s.NoneLive → s'.NoneLive := fun none handle member live =>
    none handle (mine ▸ member) (revives handle (mine ▸ member) live)
  unfold Stage at *
  rw [sleep, latest]
  split at stage
  · exact ⟨stage.1, noneLive stage.2⟩
  · rename_i own _
    split at stage
    · refine ⟨noneLive stage.noneLive, by rw [latest]; exact stage.unregistered, fun fired => ?_,
        by rw [latest]; exact stage.ready⟩
      have := stage.near fired
      omega
    · obtain ⟨looked, unfired, waker, pending, armed⟩ := stage
      refine ⟨looked, unfired, waker, pending, mine ▸ armed.given, fun other member live => ?_, ?_⟩
      · exact armed.only other (mine ▸ member) (revives other (mine ▸ member) live)
      · rcases armed.carries with holds | ⟨fired, gone⟩
        · exact loses _ armed.given waker holds
        · exact Or.inr ⟨woken waker fired, fun live => gone (revives _ armed.given live)⟩

theorem Good.sound {s : Lifecycle} (good : s.Good) : s.Sound := by
  have stage := good.stage
  unfold Stage at stage
  split at stage
  · rename_i gone
    refine ⟨fun sleep moment present => ?_, fun waker pending => ?_, fun _ => stage.2⟩
    · rw [gone] at present
      cases present
    · rw [stage.1] at pending
      cases pending
  · rename_i own present
    split at stage
    · refine ⟨fun sleep moment found ready => ?_, fun waker pending => ?_, fun _ => stage.noneLive⟩
      · cases present.symm.trans found
        exact stage.ready moment ready
      · exact absurd pending (stage.unregistered waker)
    · obtain ⟨-, -, waker, pending, armed⟩ := stage
      refine ⟨fun sleep moment _ ready => ?_, fun other asked => ?_, fun ended => ?_⟩
      · cases pending.symm.trans ready
      · cases pending.symm.trans asked
        rcases armed.carries with holds | ⟨fired, gone⟩
        · exact Or.inl ⟨_, armed.given, holds, armed.only⟩
        · refine Or.inr ⟨fired, fun other member live => gone ?_⟩
          exact armed.only other member live ▸ live
      · rw [pending] at ended
        simp at ended

/-! ## What the timer does by itself -/

theorem Good.spin {s s' : Lifecycle} {now : Nat} (good : s.Good)
    (stepped : s.step (.spin now) = some s') : s'.Good := by
  simp only [step, Option.ite_none_right_eq_some, Option.map_eq_some_iff] at stepped
  obtain ⟨onward, ⟨timer', spin⟩, spun, rfl⟩ := stepped
  simp only [Timer.spinAndGetDeadline] at spun
  split at spun
  · cases spun
    refine ⟨good.placed, good.given, le_rfl, ?_⟩
    exact good.stage.of_timer rfl rfl rfl onward (fun _ _ live => live) (fun _ _ _ holds => Or.inl holds)
      (fun waker member => List.mem_append_left _ member)
  · simp only [Option.map_eq_some_iff, Prod.mk.injEq] at spun
    obtain ⟨after, advanced, rfl, rfl⟩ := spun
    have holds := TimingWheel.advance_holds good.placed advanced
    refine ⟨(TimingWheel.advance_placed good.placed advanced).congr rfl rfl, ?_, le_rfl, ?_⟩
    · have counter := (TimingWheel.advance_fires good.placed advanced).1
      intro handle member
      exact (good.given handle member).trans (le_of_eq counter.symm)
    · refine good.stage.of_timer rfl rfl rfl onward ?_ ?_ (fun waker member => List.mem_append_left _ member)
      · intro handle _ live
        obtain ⟨waker, held⟩ := TimingWheel.live_iff_holds.mp live
        exact ((holds handle waker).1 held).live
      · intro handle _ waker held
        by_cases live : after.1.Live handle
        · -- the entry is still there, so it carries what it carried
          obtain ⟨waker', held'⟩ := TimingWheel.live_iff_holds.mp live
          rw [held.unique ((holds handle waker').1 held')]
          exact Or.inl held'
        · rcases (holds handle waker).2 held with still | woken
          · exact absurd still.live live
          · exact Or.inr ⟨List.mem_append_right _ woken, live⟩

theorem Good.otherSubmit {s s' : Lifecycle} {deadline slabIndex : Nat} {waker : Waker} (good : s.Good)
    (stepped : s.step (.otherSubmit deadline waker slabIndex) = some s') : s'.Good := by
  simp only [step, Option.map_eq_some_iff] at stepped
  obtain ⟨⟨timer', made, woken⟩, submitted, rfl⟩ := stepped
  rcases submitVacant_cases good.placed submitted with ⟨rfl, rfl, -⟩ | ⟨fresh, rfl, instant, placed,
    generation, counter, holds⟩
  · exact ⟨good.placed, good.given, good.instant, good.stage⟩
  · refine ⟨placed, fun handle member => ?_, instant.trans_le good.instant, ?_⟩
    · have := good.given handle member
      show handle.generation ≤ timer'.wheel.generationCounter
      omega
    · refine good.stage.of_timer rfl rfl rfl le_rfl ?_ ?_ (fun _ member => member)
      · intro handle member live
        obtain ⟨carried, held⟩ := TimingWheel.live_iff_holds.mp live
        rcases (holds handle carried).mp held with ⟨rfl, -⟩ | before
        · -- a new handle has a generation no earlier one has
          have := good.given handle member
          omega
        · exact before.live
      · intro handle _ carried held
        exact Or.inl ((holds handle carried).mpr (Or.inr held))

theorem Good.otherCancel {s s' : Lifecycle} {handle : TimerHandle} (good : s.Good)
    (stepped : s.step (.otherCancel handle) = some s') : s'.Good := by
  simp only [step, Option.ite_none_left_eq_some, Option.some.injEq] at stepped
  obtain ⟨foreign, rfl⟩ := stepped
  refine ⟨TimingWheel.remove_placed good.placed handle, ?_, good.instant, ?_⟩
  · intro other member
    exact (good.given other member).trans (le_of_eq (TimingWheel.remove_generationCounter _ _).symm)
  · refine good.stage.of_timer rfl rfl rfl le_rfl ?_ ?_ (fun _ member => member)
    · intro other _ live
      obtain ⟨carried, held⟩ := TimingWheel.live_iff_holds.mp live
      exact ((TimingWheel.remove_holds handle other carried).mp held).2.live
    · intro other member carried held
      left
      exact (TimingWheel.remove_holds handle other carried).mpr ⟨fun same => foreign (same ▸ member), held⟩

/-! ## What is done to the sleep -/

/-- Cancelling the entry of its handle leaves the `Sleep` without a live entry. -/
theorem noneLive_cancel {timer : Timer} {mine : List TimerHandle} {handle : TimerHandle}
    (only : ∀ other ∈ mine, timer.wheel.Live other → other = handle) :
    ∀ other ∈ mine, ¬ (timer.cancel handle).wheel.Live other := by
  intro other member live
  obtain ⟨carried, held⟩ := TimingWheel.live_iff_holds.mp live
  obtain ⟨different, before⟩ := (TimingWheel.remove_holds handle other carried).mp held
  exact different (only other member before.live)

theorem given_cancel {timer : Timer} {mine : List TimerHandle} (handle : TimerHandle)
    (given : ∀ other ∈ mine, other.generation ≤ timer.wheel.generationCounter) :
    ∀ other ∈ mine, other.generation ≤ (timer.cancel handle).wheel.generationCounter := by
  intro other member
  exact (given other member).trans (le_of_eq (TimingWheel.remove_generationCounter _ _).symm)

/-- The live entries of a `Sleep` are at most the one its handle names. -/
theorem Good.only {s : Lifecycle} (good : s.Good) {sleep : Sleep} (present : s.sleep = some sleep) :
    (sleep.handle = none → s.NoneLive) ∧
      ∀ handle, sleep.handle = some handle → ∀ other ∈ s.mine, s.timer.wheel.Live other → other = handle := by
  have stage := good.stage
  simp only [Stage, present] at stage
  constructor
  · intro none
    rw [none] at stage
    exact stage.noneLive
  · intro handle some
    rw [some] at stage
    obtain ⟨-, -, waker, -, armed⟩ := stage
    exact armed.only

theorem Good.reset {s s' : Lifecycle} {deadline : Nat} (good : s.Good)
    (stepped : s.step (.reset deadline) = some s') : s'.Good := by
  simp only [step, Option.map_eq_some_iff] at stepped
  obtain ⟨sleep, present, rfl⟩ := stepped
  obtain ⟨unarmed, armed⟩ := good.only present
  cases has : sleep.handle with
  | none =>
      simp only [Sleep.reset, has]
      refine ⟨good.placed, good.given, good.instant, ?_⟩
      simp only [Stage]
      exact ⟨unarmed has, by simp, by simp, by simp⟩
  | some handle =>
      simp only [Sleep.reset, has]
      refine ⟨TimingWheel.remove_placed good.placed handle, given_cancel handle good.given, good.instant, ?_⟩
      exact ⟨noneLive_cancel (armed handle has), by simp, by simp, by simp⟩

theorem Good.drop {s s' : Lifecycle} (good : s.Good) (stepped : s.step .drop = some s') : s'.Good := by
  simp only [step, Option.map_eq_some_iff] at stepped
  obtain ⟨sleep, present, rfl⟩ := stepped
  obtain ⟨unarmed, armed⟩ := good.only present
  cases has : sleep.handle with
  | none =>
      simp only [Sleep.drop, has]
      exact ⟨good.placed, good.given, good.instant, rfl, unarmed has⟩
  | some handle =>
      have looked : sleep.timer = true := by
        have stage := good.stage
        simp only [Stage, present, has] at stage
        exact stage.1
      simp only [Sleep.drop, has, looked, if_true]
      exact ⟨TimingWheel.remove_placed good.placed handle, given_cancel handle good.given, good.instant,
        rfl, noneLive_cancel (armed handle has)⟩

/-! ## Polls -/

/-- A `Sleep` that has no live entry and makes one is armed with it. -/
theorem Good.of_submitted {timer timer' : Timer} {mine : List TimerHandle} {handle : TimerHandle}
    {waker : Waker} {now slabIndex : Nat} {woken : List Waker} (sleep : Sleep)
    (placed : timer.wheel.Placed)
    (given : ∀ other ∈ mine, other.generation ≤ timer.wheel.generationCounter)
    (instant : timer.instant ≤ now) (noneLive : ∀ other ∈ mine, ¬ timer.wheel.Live other)
    (submitted : submitVacant timer sleep.deadline waker slabIndex = some (timer', some handle, woken))
    (unfired : sleep.fired = false) :
    Good ⟨timer', now, some { sleep with handle := some handle, timer := true }, handle :: mine,
      .pending waker, []⟩ := by
  rcases submitVacant_cases placed submitted with ⟨⟨⟩, -⟩ | ⟨made, same, instant', placed', generation,
    counter, holds⟩
  cases same
  refine ⟨placed', fun other member => ?_, instant'.trans_le instant, rfl, unfired, waker, rfl, ?_⟩
  · show other.generation ≤ timer'.wheel.generationCounter
    rcases List.mem_cons.mp member with rfl | old
    · omega
    · have := given other old
      omega
  · refine ⟨List.mem_cons_self, fun other member live => ?_, Or.inl ((holds handle waker).mpr (Or.inl ⟨rfl, rfl⟩))⟩
    obtain ⟨carried, held⟩ := TimingWheel.live_iff_holds.mp live
    rcases (holds other carried).mp held with ⟨rfl, -⟩ | before
    · rfl
    · rcases List.mem_cons.mp member with rfl | old
      · rfl
      · exact absurd before.live (noneLive other old)

/-- A `Sleep` without a live entry that completes near its deadline or after it. -/
theorem Good.of_ready {timer : Timer} {mine : List TimerHandle} {sleep : Sleep} {now : Nat}
    (placed : timer.wheel.Placed)
    (given : ∀ other ∈ mine, other.generation ≤ timer.wheel.generationCounter)
    (instant : timer.instant ≤ now) (noneLive : ∀ other ∈ mine, ¬ timer.wheel.Live other)
    (unarmed : sleep.handle = none) (near : sleep.deadline < now + tickNanos) :
    Good ⟨timer, now, some sleep, mine, .ready now, []⟩ := by
  refine ⟨placed, given, instant, ?_⟩
  simp only [Stage, unarmed]
  refine ⟨noneLive, by simp, fun _ => near, fun moment same => ?_⟩
  cases same
  exact near

/-- A submission too short for an entry, made at an instant from which the
milliseconds to the deadline do not wrap, is made near the deadline or after it. -/
theorem near_of_short {timer : Timer} {deadline now : Nat} (instant : timer.instant ≤ now)
    (short : asMillis (deadline - timer.instant) = 0)
    (unwrapped : asMillis (deadline - timer.instant) = 0 → deadline - timer.instant < tickNanos) :
    deadline < now + tickNanos := by
  have := unwrapped short
  omega

/-- A poll of a `Sleep` that finds the entry of its handle fired if the deadline has
come, and whose milliseconds to the deadline do not wrap to zero. -/
def Timely (s : Lifecycle) : SleepEvent → Prop
  | .poll _ now _ => ∀ sleep, s.sleep = some sleep → sleep.fired = false →
      (∀ handle, sleep.handle = some handle → sleep.deadline ≤ now → ¬ s.timer.wheel.Live handle) ∧
      ((sleep.handle = none ∨ now < sleep.deadline) →
        asMillis (sleep.deadline - s.timer.instant) = 0 → sleep.deadline - s.timer.instant < tickNanos)
  | _ => True

theorem Good.pollUnarmed {s s' : Lifecycle} {waker : Waker} {now slabIndex : Nat} {sleep : Sleep}
    (good : s.Good) (present : s.sleep = some sleep) (none : sleep.handle = none)
    (timely : s.Timely (.poll waker now slabIndex))
    (stepped : s.step (.poll waker now slabIndex) = some s') : s'.Good := by
  have stage := good.stage
  simp only [Stage, present, none] at stage
  simp only [step, present, Option.bind_some, Option.ite_none_right_eq_some, Option.map_eq_some_iff] at stepped
  obtain ⟨onward, polled, ran, rfl⟩ := stepped
  have instant : s.timer.instant ≤ now := good.instant.trans onward
  cases fired : sleep.fired with
  | true =>
      simp only [Sleep.poll, fired, if_true, Option.some.injEq] at ran
      subst ran
      have near : sleep.deadline < now + tickNanos := by
        have := stage.near fired
        omega
      simpa [outcome, none] using Good.of_ready good.placed good.given instant stage.noneLive none near
  | false =>
      simp only [Sleep.poll, fired, none, Bool.false_eq_true, if_false, Option.map_eq_some_iff] at ran
      obtain ⟨⟨timer', made, woken⟩, submitted, rfl⟩ := ran
      cases made with
      | some handle =>
          have armed := Good.of_submitted sleep good.placed good.given instant stage.noneLive submitted fired
          simpa [outcome, fired] using armed
      | none =>
          rcases submitVacant_cases good.placed submitted with ⟨-, rfl, short⟩ | ⟨_, ⟨⟩, -⟩
          have near := near_of_short instant short ((timely sleep present fired).2 (Or.inl none))
          simp only [Sleep.handleImmediateWakeup]
          split
          · exact Good.of_ready good.placed good.given instant stage.noneLive rfl near
          · split
            · -- the yield is scheduled: nothing is registered and nothing is done
              rename_i unscheduled
              refine ⟨good.placed, good.given, instant, ?_⟩
              simp only [Stage, outcome, Option.toList_none, List.nil_append]
              refine ⟨stage.noneLive, ?_, by simp, ?_⟩ <;> simp_all
            · exact Good.of_ready good.placed good.given instant stage.noneLive rfl near

theorem Good.pollArmed {s s' : Lifecycle} {waker : Waker} {now slabIndex : Nat} {sleep : Sleep}
    {handle : TimerHandle} (good : s.Good) (present : s.sleep = some sleep)
    (has : sleep.handle = some handle) (timely : s.Timely (.poll waker now slabIndex))
    (stepped : s.step (.poll waker now slabIndex) = some s') : s'.Good := by
  have only := (good.only present).2 handle has
  have unfired : sleep.fired = false := by
    have stage := good.stage
    simp only [Stage, present, has] at stage
    exact stage.2.1
  obtain ⟨finds, unwrapped⟩ := timely sleep present unfired
  simp only [step, present, Option.bind_some, Option.ite_none_right_eq_some, Option.map_eq_some_iff] at stepped
  obtain ⟨onward, polled, ran, rfl⟩ := stepped
  have instant : s.timer.instant ≤ now := good.instant.trans onward
  simp only [Sleep.poll, unfired, has, Bool.false_eq_true, if_false] at ran
  split at ran
  · rename_i due
    cases ran
    have near : sleep.deadline < now + tickNanos := by
      simp only [tickNanos]
      omega
    refine Good.of_ready good.placed good.given instant (fun other member live => ?_) rfl near
    exact finds handle has due (only other member live ▸ live)
  · rename_i early
    simp only [Option.map_eq_some_iff] at ran
    obtain ⟨⟨timer', made, woken⟩, submitted, rfl⟩ := ran
    have placed : (s.timer.cancel handle).wheel.Placed := TimingWheel.remove_placed good.placed handle
    have given := given_cancel handle good.given
    have noneLive := noneLive_cancel only
    cases made with
    | some fresh =>
        have armed := @Good.of_submitted (s.timer.cancel handle) _ _ _ _ _ _ _ sleep placed given instant noneLive
          submitted unfired
        simpa [outcome, unfired] using armed
    | none =>
        rcases submitVacant_cases placed submitted with ⟨-, rfl, short⟩ | ⟨_, ⟨⟩, -⟩
        have near : sleep.deadline < now + tickNanos :=
          @near_of_short s.timer _ _ instant short (unwrapped (Or.inr (Nat.lt_of_not_le early)))
        exact Good.of_ready placed given instant noneLive rfl near

theorem Good.step {s s' : Lifecycle} {event : SleepEvent} (good : s.Good) (timely : s.Timely event)
    (stepped : s.step event = some s') : s'.Good := by
  cases event with
  | poll waker now slabIndex =>
      cases present : s.sleep with
      | none => simp [Lifecycle.step, present] at stepped
      | some sleep =>
          cases has : sleep.handle with
          | none => exact good.pollUnarmed present has timely stepped
          | some handle => exact good.pollArmed present has timely stepped
  | reset deadline => exact good.reset stepped
  | drop => exact good.drop stepped
  | spin now => exact good.spin stepped
  | otherSubmit deadline waker slabIndex => exact good.otherSubmit stepped
  | otherCancel handle => exact good.otherCancel stepped

theorem Fresh.good {s : Lifecycle} (fresh : s.Fresh) : s.Good := by
  obtain ⟨reading, deadline, zeroBehavior, rfl⟩ := fresh
  refine ⟨TimingWheel.new_placed, by simp, le_rfl, ?_⟩
  exact ⟨by simp [NoneLive], by simp, by simp, by simp⟩

end Lifecycle

/-- **The life of a `Sleep`.**  In every run of polls, resets, spins, a drop and the
other users of the timer, at any clock readings, in which every poll is timely, every
state is sound: no early `Ready`, one entry with the latest waker while pending (or
that waker woken), none once the `Sleep` is done, reset or dropped. -/
theorem sleep_keeps_its_entry {s : Lifecycle} (fresh : s.Fresh) (events : List SleepEvent)
    (timely : sleepMachine.AllSteps Lifecycle.Timely s events) :
    sleepMachine.Throughout Lifecycle.Sound s events :=
  Machine.throughout_of_allSteps (fun _ _ _ good timely stepped => Lifecycle.Good.step good timely stepped)
    (fun _ good => Lifecycle.Good.sound good) fresh.good timely

/-- A `Sleep` until instant `deadline`, and a timer, at reading 0. -/
def Lifecycle.sleepingUntil (deadline : Nat) : Lifecycle :=
  ⟨.new 0, 0, some (.sleepUntil deadline), [], .made, []⟩

/-- A `Sleep` of 2 ms, polled twice with different wakers, reset to 5 ms, polled and
dropped. -/
theorem sleep_keeps_its_entry_when_reset :
    ∃ s', sleepMachine.exec (.sleepingUntil 2000000)
        [.poll ⟨7⟩ 0 0, .poll ⟨8⟩ 500000 0, .reset 5000000, .poll ⟨8⟩ 600000 0, .drop] = some s' ∧
      sleepMachine.Throughout Lifecycle.Sound (.sleepingUntil 2000000)
        [.poll ⟨7⟩ 0 0, .poll ⟨8⟩ 500000 0, .reset 5000000, .poll ⟨8⟩ 600000 0, .drop] := by
  refine ⟨_, rfl, sleep_keeps_its_entry ⟨0, 2000000, .immediate, rfl⟩ _ ?_⟩
  refine ⟨?_, ?_⟩
  · rintro sleep ⟨⟩ -
    exact ⟨by simp, fun _ short => absurd short (by decide)⟩
  · rintro _ ⟨⟩
    refine ⟨?_, ?_⟩
    · rintro sleep ⟨⟩ -
      exact ⟨fun _ _ due => absurd due (by decide), fun _ short => absurd short (by decide)⟩
    · rintro _ ⟨⟩
      refine ⟨trivial, ?_⟩
      rintro _ ⟨⟩
      refine ⟨?_, ?_⟩
      · rintro sleep ⟨⟩ -
        exact ⟨fun _ _ due => absurd due (by decide), fun _ short => absurd short (by decide)⟩
      · rintro _ ⟨⟩
        exact ⟨trivial, fun _ _ => trivial⟩

/-- A `Sleep` of 2 ms polled again at its deadline, before the timer has spun: it is
`Ready`, and its entry stays in the wheel. -/
theorem ready_leaves_live_entry :
    ∃ s s', s.Fresh ∧ sleepMachine.exec s [.poll ⟨7⟩ 0 0, .poll ⟨7⟩ 2000000 0] = some s' ∧
      s'.latest = .ready 2000000 ∧ (∃ handle ∈ s'.mine, s'.timer.wheel.Live handle) ∧ ¬ s'.Sound := by
  refine ⟨.sleepingUntil 2000000, _, ⟨0, 2000000, .immediate, rfl⟩, rfl, rfl, ?_⟩
  have live : ∃ handle ∈ [(⟨0, 1⟩ : TimerHandle)],
      TimingWheel.Live ((submitVacant (.new 0) 2000000 ⟨7⟩ 0).get rfl).1.wheel handle :=
    ⟨_, List.mem_singleton.mpr rfl, _, rfl, rfl⟩
  refine ⟨live, fun sound => ?_⟩
  obtain ⟨handle, member, isLive⟩ := live
  exact sound.released (Or.inr (Or.inr ⟨_, rfl⟩)) handle member isLive

-- 2^64 ms to the deadline are zero ms to the timer
example : ∃ s', sleepMachine.exec (.sleepingUntil (2 ^ 64 * tickNanos)) [.poll ⟨7⟩ 0 0] = some s' ∧
    s'.latest = .ready 0 := ⟨_, rfl, rfl⟩

end Vibeio.Time
