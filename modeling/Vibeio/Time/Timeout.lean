/-
# Time.Timeout -- a future raced against a sleep

A poll of a `Timeout` polls the future it holds, with the waker it was given, and only
if that one is pending the `Sleep` beside it.  Code of the held future may use the timer
like anybody else, and may panic.

The machine of this module takes a poll apart at the two calls it makes, over the machine
of one `Sleep` beside the timer.  Its history is every poll of the held future with its
waker and result, and what the latest poll of the `Timeout` returned.

* `poll_immediate`: a poll that leaves the `Sleep` pending is timely, whatever the clock.
* `Poised`: where a `Timeout` stands; one step lemma for each of its labels.
* `timeout_keeps_both_wakers`: what holds in every run.
-/
import Vibeio.Time.Sleep

namespace Vibeio.Time

set_option autoImplicit false

open Vibeio.Theory Vibeio.Timer

/-- Where a call of `poll` stands. -/
inductive CallPc where
  | between
  /-- Inside `poll` of the held future. -/
  | future (waker : Waker)
  /-- It was pending: the `Sleep` is polled next. -/
  | sleep (waker : Waker)
  deriving DecidableEq, Repr

/-- What the latest call returned. -/
inductive Returned (T : Type) where
  | nothing
  | running
  | ok (value : T)
  | timedOut
  | pending (waker : Waker)
  | panicked
  | dropped

structure Timeout (T : Type) where
  /-- Its `Sleep`, and the timer. -/
  life : Lifecycle
  timedOut : Bool
  pc : CallPc
  /-- Every poll of the held future, the latest first. -/
  polls : List (Waker × Poll T)
  returned : Returned T

inductive TimeoutEvent (T : Type) where
  | poll (waker : Waker)
  /-- `poll` of the held future returns. -/
  | future (result : Poll T)
  | sleep (now slabIndex : Nat)
  /-- `poll` of the held future panics. -/
  | unwind
  | drop
  | spin (now : Nat)
  | otherSubmit (deadline : Nat) (waker : Waker) (slabIndex : Nat)
  | otherCancel (handle : TimerHandle)

namespace Timeout

variable {T : Type}

def step (s : Timeout T) : TimeoutEvent T → Option (Timeout T)
  | .poll waker =>
      if s.pc = .between ∧ s.life.sleep.isSome then
        if s.timedOut then some { s with returned := .timedOut }
        else some { s with pc := .future waker, returned := .running }
      else none
  | .future result =>
      match s.pc with
      | .future waker =>
          let s := { s with polls := (waker, result) :: s.polls }
          match result with
          | .ready value => some { s with pc := .between, returned := .ok value }
          | .pending => some { s with pc := .sleep waker }
      | _ => none
  | .sleep now slabIndex =>
      match s.pc with
      | .sleep waker =>
          (s.life.step (.poll waker now slabIndex)).map fun life =>
            let s := { s with life := life, pc := .between }
            match life.latest with
            | .ready _ => { s with timedOut := true, returned := .timedOut }
            | _ => { s with returned := .pending waker }
      | _ => none
  | .unwind =>
      match s.pc with
      | .future _ => some { s with pc := .between, returned := .panicked }
      | _ => none
  | .drop =>
      if s.pc = .between then (s.life.step .drop).map fun life => { s with life := life, returned := .dropped }
      else none
  | .spin now =>
      if s.pc = .between then (s.life.step (.spin now)).map fun life => { s with life := life } else none
  | .otherSubmit deadline waker slabIndex =>
      (s.life.step (.otherSubmit deadline waker slabIndex)).map fun life => { s with life := life }
  | .otherCancel handle => (s.life.step (.otherCancel handle)).map fun life => { s with life := life }

/-- `Timeout::new` at the reading `now`, beside a timer made at any reading before. -/
def Fresh (s : Timeout T) : Prop :=
  ∃ reading now duration, reading ≤ now ∧
    s = ⟨⟨.new reading, now, some (.new now duration), [], .made, []⟩, false, .between, [], .nothing⟩

end Timeout

def timeoutMachine (T : Type) : Machine (Timeout T) (TimeoutEvent T) where
  start := Timeout.Fresh
  step := Timeout.step

/-! ## Polls of the sleep -/

/-- A submission that makes an entry is a millisecond long. -/
theorem long_of_registered {timer timer' : Timer} {deadline slabIndex : Nat} {waker : Waker}
    {handle : TimerHandle} {woken : List Waker}
    (submitted : submitVacant timer deadline waker slabIndex = some (timer', some handle, woken)) :
    asMillis (deadline - timer.instant) ≠ 0 := by
  intro short
  simp only [submitVacant, Timer.submit, Option.ite_none_right_eq_some] at submitted
  rw [if_pos (by omega)] at submitted
  cases submitted.2

namespace Lifecycle

/-- What a poll of a `Sleep` that is done immediately can come to. -/
theorem poll_immediate {s s' : Lifecycle} {sleep : Sleep} {waker : Waker} {now slabIndex : Nat}
    (present : s.sleep = some sleep) (immediate : sleep.zeroBehavior = .immediate)
    (stepped : s.step (.poll waker now slabIndex) = some s') :
    (∃ after, s'.sleep = some after ∧ after.zeroBehavior = .immediate) ∧
      (s'.latest = .ready now ∨ s'.latest = .pending waker ∧ s.Timely (.poll waker now slabIndex)) := by
  simp only [step, present, Option.bind_some, Option.ite_none_right_eq_some, Option.map_eq_some_iff] at stepped
  obtain ⟨onward, polled, ran, rfl⟩ := stepped
  cases fired : sleep.fired with
  | true =>
      simp only [Sleep.poll, fired, if_true, Option.some.injEq] at ran
      subst ran
      exact ⟨⟨_, rfl, immediate⟩, .inl rfl⟩
  | false =>
      cases has : sleep.handle with
      | none =>
          simp only [Sleep.poll, fired, has, Bool.false_eq_true, if_false, Option.map_eq_some_iff] at ran
          obtain ⟨⟨timer', made, woken⟩, submitted, rfl⟩ := ran
          cases made with
          | none =>
              simp only [Sleep.handleImmediateWakeup, immediate]
              exact ⟨⟨_, rfl, rfl⟩, .inl rfl⟩
          | some handle =>
              refine ⟨⟨_, rfl, immediate⟩, .inr ⟨by simp [outcome], fun own found _ => ?_⟩⟩
              cases present.symm.trans found
              refine ⟨fun handle armed => (by cases has.symm.trans armed), fun _ short => ?_⟩
              exact absurd (long_of_registered submitted) (by omega)
      | some handle =>
          simp only [Sleep.poll, fired, has, Bool.false_eq_true, if_false] at ran
          split at ran
          · cases ran
            exact ⟨⟨_, rfl, immediate⟩, .inl rfl⟩
          · rename_i early
            simp only [Option.map_eq_some_iff] at ran
            obtain ⟨⟨timer', made, woken⟩, submitted, rfl⟩ := ran
            cases made with
            | none => exact ⟨⟨_, rfl, immediate⟩, .inl rfl⟩
            | some fresh =>
                refine ⟨⟨_, rfl, immediate⟩, .inr ⟨by simp [outcome], fun own found _ => ?_⟩⟩
                cases present.symm.trans found
                refine ⟨fun _ _ due => absurd due early, fun _ short => ?_⟩
                have enough : asMillis (sleep.deadline - (s.timer.cancel handle).instant) ≠ 0 :=
                  long_of_registered submitted
                exact absurd short enough

end Lifecycle

/-! ## Where a timeout stands -/

namespace Timeout

variable {T : Type}

/-- The latest poll of the held future was pending. -/
def Asked (s : Timeout T) (waker : Waker) : Prop := ∃ rest, s.polls = (waker, .pending) :: rest

/-- What a call has come to. -/
def Stands (s : Timeout T) : Prop :=
  match s.pc with
  | .future _ => s.returned = .running
  | .sleep waker => s.returned = .running ∧ s.Asked waker
  | .between =>
      match s.returned with
      | .nothing | .panicked => True
      | .running => False
      | .ok value => ∃ waker rest, s.polls = (waker, .ready value) :: rest
      | .timedOut => s.timedOut = true
      | .pending waker => s.life.latest = .pending waker ∧ s.Asked waker
      | .dropped => s.life.sleep = none

structure Poised (s : Timeout T) : Prop where
  /-- Up to the time-out the `Sleep` and its entry are in order. -/
  good : s.timedOut = false → s.life.Good
  immediate : ∀ sleep, s.life.sleep = some sleep → sleep.zeroBehavior = .immediate
  elapsed : s.timedOut = true → s.pc = .between ∧ (s.returned = .timedOut ∨ s.returned = .dropped) ∧
    ∃ waker, s.Asked waker
  ended : s.timedOut = true → s.life.sleep = none ∨ ∃ moment, s.life.latest = .ready moment
  stands : s.Stands

/-- What the timer and its other users do leaves the `Timeout` where it stands. -/
theorem Poised.of_life {s : Timeout T} {life : Lifecycle} (poised : s.Poised)
    (good : s.life.Good → life.Good) (sleep : life.sleep = s.life.sleep)
    (latest : life.latest = s.life.latest) :
    Poised { s with life := life } := by
  refine ⟨fun unfired => good (poised.good unfired), sleep ▸ poised.immediate, poised.elapsed,
    sleep ▸ latest ▸ poised.ended, ?_⟩
  have stands := poised.stands
  unfold Stands at stands ⊢
  rw [sleep, latest]
  exact stands

theorem Poised.unfired {s : Timeout T} (poised : s.Poised) (inside : s.pc ≠ .between) : s.timedOut = false := by
  cases elapsed : s.timedOut with
  | false => rfl
  | true => exact absurd (poised.elapsed elapsed).1 inside

theorem Poised.poll {s s' : Timeout T} {waker : Waker} (poised : s.Poised)
    (stepped : s.step (.poll waker) = some s') : s'.Poised := by
  simp only [Timeout.step, Option.ite_none_right_eq_some] at stepped
  obtain ⟨⟨here, present⟩, stepped⟩ := stepped
  split at stepped
  · rename_i elapsed
    cases stepped
    refine ⟨poised.good, poised.immediate, fun _ => ⟨here, .inl rfl, (poised.elapsed elapsed).2.2⟩,
      poised.ended, ?_⟩
    simp only [Stands, here]
    exact elapsed
  · rename_i unfired
    cases stepped
    exact ⟨poised.good, poised.immediate, fun elapsed => absurd elapsed unfired, poised.ended, rfl⟩

theorem Poised.future {s s' : Timeout T} {result : Poll T} (poised : s.Poised)
    (stepped : s.step (.future result) = some s') : s'.Poised := by
  cases here : s.pc with
  | between | sleep waker => simp only [Timeout.step, here, reduceCtorEq] at stepped
  | future waker =>
      have unfired := poised.unfired (by rw [here]; exact CallPc.noConfusion)
      have running : s.returned = .running := by
        have stands := poised.stands
        simp only [Stands, here] at stands
        exact stands
      simp only [Timeout.step, here] at stepped
      cases result with
      | ready value =>
          cases stepped
          exact ⟨poised.good, poised.immediate, fun elapsed => Bool.noConfusion (unfired.symm.trans elapsed),
            poised.ended,
            waker, s.polls, rfl⟩
      | pending =>
          cases stepped
          exact ⟨poised.good, poised.immediate, fun elapsed => Bool.noConfusion (unfired.symm.trans elapsed),
            poised.ended,
            running, s.polls, rfl⟩

theorem Poised.sleep {s s' : Timeout T} {now slabIndex : Nat} (poised : s.Poised)
    (stepped : s.step (.sleep now slabIndex) = some s') : s'.Poised := by
  cases here : s.pc with
  | between | future waker => simp only [Timeout.step, here, reduceCtorEq] at stepped
  | sleep waker =>
      have unfired := poised.unfired (by rw [here]; exact CallPc.noConfusion)
      have asked : s.Asked waker := by
        have stands := poised.stands
        simp only [Stands, here] at stands
        exact stands.2
      simp only [Timeout.step, here, Option.map_eq_some_iff] at stepped
      obtain ⟨life, polled, rfl⟩ := stepped
      obtain ⟨sleep, present⟩ : ∃ sleep, s.life.sleep = some sleep := by
        cases present : s.life.sleep with
        | none => simp [Lifecycle.step, present] at polled
        | some sleep => exact ⟨sleep, rfl⟩
      obtain ⟨⟨after, left, immediate⟩, came⟩ :=
        Lifecycle.poll_immediate present (poised.immediate sleep present) polled
      have still : ∀ sleep, life.sleep = some sleep → sleep.zeroBehavior = .immediate := by
        intro own found
        cases left.symm.trans found
        exact immediate
      rcases came with ready | ⟨pends, timely⟩
      · simp only [ready]
        exact ⟨fun unfired => Bool.noConfusion unfired, still, fun _ => ⟨rfl, .inl rfl, waker, asked⟩,
          fun _ => .inr ⟨now, ready⟩, rfl⟩
      · simp only [pends]
        exact ⟨fun _ => (poised.good unfired).step timely polled, still,
          fun elapsed => Bool.noConfusion (unfired.symm.trans elapsed),
          fun elapsed => Bool.noConfusion (unfired.symm.trans elapsed),
          pends, asked⟩

theorem Poised.step {s s' : Timeout T} {event : TimeoutEvent T} (poised : s.Poised)
    (stepped : s.step event = some s') : s'.Poised := by
  cases event with
  | poll waker => exact poised.poll stepped
  | future result => exact poised.future stepped
  | sleep now slabIndex => exact poised.sleep stepped
  | unwind =>
      cases here : s.pc with
      | between | sleep waker => simp only [Timeout.step, here, reduceCtorEq] at stepped
      | future waker =>
          have unfired := poised.unfired (by rw [here]; exact CallPc.noConfusion)
          simp only [Timeout.step, here, Option.some.injEq] at stepped
          subst stepped
          exact ⟨poised.good, poised.immediate, fun elapsed => Bool.noConfusion (unfired.symm.trans elapsed),
            poised.ended,
            trivial⟩
  | drop =>
      simp only [Timeout.step, Option.ite_none_right_eq_some, Option.map_eq_some_iff] at stepped
      obtain ⟨here, life, dropped, rfl⟩ := stepped
      have gone : life.sleep = none := by
        simp only [Lifecycle.step, Option.map_eq_some_iff] at dropped
        obtain ⟨sleep, -, rfl⟩ := dropped
        rfl
      refine ⟨fun unfired => (poised.good unfired).drop dropped,
        fun sleep present => (by cases gone.symm.trans present),
        fun elapsed => ⟨here, .inr rfl, (poised.elapsed elapsed).2.2⟩, fun _ => .inl gone, ?_⟩
      simp only [Stands, here]
      exact gone
  | spin now =>
      simp only [Timeout.step, Option.ite_none_right_eq_some, Option.map_eq_some_iff] at stepped
      obtain ⟨here, life, spun, rfl⟩ := stepped
      refine poised.of_life (fun good => good.spin spun) ?_ ?_ <;>
        (simp only [Lifecycle.step, Option.ite_none_right_eq_some, Option.map_eq_some_iff] at spun
         obtain ⟨-, spin, -, rfl⟩ := spun
         rfl)
  | otherSubmit deadline waker slabIndex =>
      simp only [Timeout.step, Option.map_eq_some_iff] at stepped
      obtain ⟨life, submitted, rfl⟩ := stepped
      refine poised.of_life (fun good => good.otherSubmit submitted) ?_ ?_ <;>
        (simp only [Lifecycle.step, Option.map_eq_some_iff] at submitted
         obtain ⟨made, -, rfl⟩ := submitted
         rfl)
  | otherCancel handle =>
      simp only [Timeout.step, Option.map_eq_some_iff] at stepped
      obtain ⟨life, canceled, rfl⟩ := stepped
      refine poised.of_life (fun good => good.otherCancel canceled) ?_ ?_ <;>
        (simp only [Lifecycle.step, Option.ite_none_left_eq_some, Option.some.injEq] at canceled
         obtain ⟨-, rfl⟩ := canceled
         rfl)

theorem Fresh.poised {s : Timeout T} (fresh : s.Fresh) : s.Poised := by
  obtain ⟨reading, now, duration, earlier, rfl⟩ := fresh
  refine ⟨fun _ => ⟨TimingWheel.new_placed, by simp, earlier, ?_⟩, ?_, nofun, nofun, trivial⟩
  · exact ⟨by simp [Lifecycle.NoneLive], by simp, nofun, by simp⟩
  · rintro sleep ⟨⟩
    rfl

theorem poised_of_exec {s s' : Timeout T} {events : List (TimeoutEvent T)} (fresh : s.Fresh)
    (ran : (timeoutMachine T).exec s events = some s') : s'.Poised :=
  Machine.exec_invariant (M := timeoutMachine T) (I := Poised) (fun _ _ _ poised stepped => poised.step stepped)
    fresh.poised ran

/-! ## What a timeout promises -/

/-- Every result comes from the polls of this very call. -/
structure Promise (s : Timeout T) : Prop where
  ok : ∀ value, s.pc = .between → s.returned = .ok value → ∃ waker rest, s.polls = (waker, .ready value) :: rest
  /-- Whoever gets done first, the held future or the timer, wakes the caller. -/
  pending : ∀ waker, s.pc = .between → s.returned = .pending waker → s.Asked waker ∧
    ((∃ handle ∈ s.life.mine, s.life.timer.wheel.Holds handle waker ∧
        ∀ other ∈ s.life.mine, s.life.timer.wheel.Live other → other = handle) ∨
      (waker ∈ s.life.woken ∧ s.life.NoneLive))
  timedOut : s.returned = .timedOut → s.timedOut = true ∧ ∃ waker, s.Asked waker

theorem Poised.promise {s : Timeout T} (poised : s.Poised) : s.Promise := by
  have stands := poised.stands
  refine ⟨fun value here ok => ?_, fun waker here pending => ?_, fun timedOut => ?_⟩
  · simp only [Stands, here, ok] at stands
    exact stands
  · simp only [Stands, here, pending] at stands
    have unfired : s.timedOut = false := by
      cases elapsed : s.timedOut with
      | false => rfl
      | true =>
          rcases (poised.elapsed elapsed).2.1 with returned | returned <;>
            cases pending.symm.trans returned
    exact ⟨stands.2, (poised.good unfired).sound.registered waker stands.1⟩
  · have elapsed : s.timedOut = true := by
      cases here : s.pc with
      | between =>
          simp only [Stands, here, timedOut] at stands
          exact stands
      | future waker =>
          simp only [Stands, here] at stands
          cases timedOut.symm.trans stands
      | sleep waker =>
          simp only [Stands, here] at stands
          cases timedOut.symm.trans stands.1
    exact ⟨elapsed, (poised.elapsed elapsed).2.2⟩

/-- A `Timeout` that has timed out polls nothing any more. -/
theorem Poised.after {s s' : Timeout T} {event : TimeoutEvent T} (poised : s.Poised)
    (elapsed : s.timedOut = true)
    (stepped : s.step event = some s') : s'.timedOut = true ∧ s'.polls = s.polls := by
  have here := (poised.elapsed elapsed).1
  cases event with
  | poll waker =>
      simp only [Timeout.step, elapsed, if_true, Option.ite_none_right_eq_some, Option.some.injEq] at stepped
      obtain ⟨-, rfl⟩ := stepped
      exact ⟨rfl, rfl⟩
  | future result | sleep now slabIndex | unwind => simp only [Timeout.step, here, reduceCtorEq] at stepped
  | drop | spin now =>
      simp only [Timeout.step, Option.ite_none_right_eq_some, Option.map_eq_some_iff] at stepped
      obtain ⟨-, life, -, rfl⟩ := stepped
      exact ⟨elapsed, rfl⟩
  | otherSubmit deadline waker slabIndex | otherCancel handle =>
      simp only [Timeout.step, Option.map_eq_some_iff] at stepped
      obtain ⟨life, -, rfl⟩ := stepped
      exact ⟨elapsed, rfl⟩

/-- Once its entry is made, a poll of the `Sleep` at the deadline is the time-out. -/
theorem timesOut {s s' : Timeout T} {waker : Waker} {sleep : Sleep} {now slabIndex : Nat}
    (here : s.pc = .sleep waker)
    (present : s.life.sleep = some sleep) (armed : sleep.handle ≠ none) (due : sleep.deadline ≤ now)
    (stepped : s.step (.sleep now slabIndex) = some s') : s'.returned = .timedOut := by
  obtain ⟨handle, has⟩ := Option.ne_none_iff_exists'.mp armed
  simp only [Timeout.step, here, Option.map_eq_some_iff] at stepped
  obtain ⟨life, polled, rfl⟩ := stepped
  have ready : life.latest = .ready now := by
    simp only [Lifecycle.step, present, Option.bind_some, Option.ite_none_right_eq_some,
      Option.map_eq_some_iff] at polled
    obtain ⟨-, polled, ran, rfl⟩ := polled
    simp only [Sleep.poll, has, due, if_true] at ran
    split at ran <;> cases ran <;> rfl
  simp only [ready]

/-- The poll of the `Sleep` is timely. -/
def Timely (s : Timeout T) : TimeoutEvent T → Prop
  | .sleep now slabIndex => ∀ waker, s.life.Timely (.poll waker now slabIndex)
  | _ => True

/-- Nothing of a `Timeout` that has timed out, or is gone, is left in the wheel, and it did
not time out early. -/
structure Released (s : Timeout T) : Prop where
  noneLive : s.returned = .timedOut ∨ s.returned = .dropped → s.life.NoneLive
  notEarly : s.returned = .timedOut → ∀ sleep, s.life.sleep = some sleep →
    ∃ moment, s.life.latest = .ready moment ∧ sleep.deadline < moment + tickNanos

theorem good_step {s s' : Timeout T} {event : TimeoutEvent T} (good : s.life.Good) (timely : s.Timely event)
    (stepped : s.step event = some s') : s'.life.Good := by
  cases event with
  | poll waker =>
      simp only [Timeout.step, Option.ite_none_right_eq_some] at stepped
      obtain ⟨-, stepped⟩ := stepped
      split at stepped <;> cases stepped <;> exact good
  | future result =>
      cases here : s.pc with
      | between | sleep waker => simp only [Timeout.step, here, reduceCtorEq] at stepped
      | future waker =>
          simp only [Timeout.step, here] at stepped
          cases result <;> cases stepped <;> exact good
  | sleep now slabIndex =>
      cases here : s.pc with
      | between | future waker => simp only [Timeout.step, here, reduceCtorEq] at stepped
      | sleep waker =>
          simp only [Timeout.step, here, Option.map_eq_some_iff] at stepped
          obtain ⟨life, polled, rfl⟩ := stepped
          have next : life.Good := good.step (timely waker) polled
          cases life.latest <;> exact next
  | unwind =>
      cases here : s.pc with
      | between | sleep waker => simp only [Timeout.step, here, reduceCtorEq] at stepped
      | future waker =>
          simp only [Timeout.step, here, Option.some.injEq] at stepped
          subst stepped
          exact good
  | drop =>
      simp only [Timeout.step, Option.ite_none_right_eq_some, Option.map_eq_some_iff] at stepped
      obtain ⟨-, life, dropped, rfl⟩ := stepped
      exact good.drop dropped
  | spin now =>
      simp only [Timeout.step, Option.ite_none_right_eq_some, Option.map_eq_some_iff] at stepped
      obtain ⟨-, life, spun, rfl⟩ := stepped
      exact good.spin spun
  | otherSubmit deadline waker slabIndex =>
      simp only [Timeout.step, Option.map_eq_some_iff] at stepped
      obtain ⟨life, submitted, rfl⟩ := stepped
      exact good.otherSubmit submitted
  | otherCancel handle =>
      simp only [Timeout.step, Option.map_eq_some_iff] at stepped
      obtain ⟨life, canceled, rfl⟩ := stepped
      exact good.otherCancel canceled

theorem Poised.released {s : Timeout T} (poised : s.Poised) (good : s.life.Good) : s.Released := by
  have gone : s.life.sleep = none → s.life.NoneLive := by
    intro none
    have stage := good.stage
    simp only [Lifecycle.Stage, none] at stage
    exact stage.2
  refine ⟨?_, fun returned sleep present => ?_⟩
  · rintro (returned | returned)
    · rcases poised.ended (poised.promise.timedOut returned).1 with none | ready
      · exact gone none
      · exact good.sound.released (.inr (.inr ready))
    · apply gone
      have stands := poised.stands
      unfold Stands at stands
      cases here : s.pc with
      | between =>
          simp only [here, returned] at stands
          exact stands
      | future waker =>
          simp only [here] at stands
          cases returned.symm.trans stands
      | sleep waker =>
          simp only [here] at stands
          cases returned.symm.trans stands.1
  · rcases poised.ended (poised.promise.timedOut returned).1 with none | ⟨moment, ready⟩
    · cases none.symm.trans present
    · exact ⟨moment, ready, good.sound.notEarly sleep moment present ready⟩

theorem Fresh.good {s : Timeout T} (fresh : s.Fresh) : s.life.Good := by
  refine fresh.poised.good ?_
  obtain ⟨reading, now, duration, -, rfl⟩ := fresh
  rfl

end Timeout

/-- **A future raced against a sleep.**  In every run of polls with any wakers, whatever
the held future answers and the users of the timer do: a value is what the held future has
returned in this call; while the `Timeout` is pending, the held future was asked with the
waker of the latest call, and the one live entry carries it, or has woken it; and a
time-out follows a pending poll of the held future, which is polled never again.  A call
that comes to the `Sleep` at the deadline or after it times out.  If every poll of the
`Sleep` is timely, it does so no earlier than a millisecond before the deadline, and
leaves nothing in the wheel. -/
theorem timeout_asks_first {T : Type} {s : Timeout T} (fresh : s.Fresh) (events : List (TimeoutEvent T)) :
    (timeoutMachine T).Throughout Timeout.Promise s events ∧
      (∀ s', (timeoutMachine T).exec s events = some s' →
        (s'.timedOut = true → ∀ later s'', (timeoutMachine T).exec s' later = some s'' →
          s''.timedOut = true ∧ s''.polls = s'.polls) ∧
        ∀ waker sleep now slabIndex s'', s'.pc = .sleep waker → s'.life.sleep = some sleep →
          sleep.handle ≠ none →
          sleep.deadline ≤ now → s'.step (.sleep now slabIndex) = some s'' → s''.returned = .timedOut) ∧
      ((timeoutMachine T).AllSteps Timeout.Timely s events →
        (timeoutMachine T).Throughout Timeout.Released s events) := by
  refine ⟨?_, fun s' ran => ⟨fun elapsed later s'' onward => ?_, ?_⟩, fun timely => ?_⟩
  · refine (Machine.throughout_of_kept (M := timeoutMachine T) (I := Timeout.Poised)
      (fun _ _ _ poised stepped => poised.step stepped) fresh.poised events).mono fun _ poised => poised.promise
  · have poised := Timeout.poised_of_exec fresh ran
    have kept : s''.Poised ∧ s''.timedOut = true ∧ s''.polls = s'.polls := by
      refine Machine.exec_invariant (M := timeoutMachine T)
        (I := fun t => t.Poised ∧ t.timedOut = true ∧ t.polls = s'.polls) ?_ ⟨poised, elapsed, rfl⟩ onward
      rintro t event t' ⟨poised, elapsed, same⟩ stepped
      obtain ⟨still, polls⟩ := poised.after elapsed stepped
      exact ⟨poised.step stepped, still, polls.trans same⟩
    exact kept.2
  · intro waker sleep now slabIndex s'' here present armed due stepped
    exact Timeout.timesOut here present armed due stepped
  · refine Machine.throughout_of_allSteps (I := fun t => t.Poised ∧ t.life.Good)
      (fun t event t' holds timely stepped => ?_) (fun t holds => holds.1.released holds.2)
      ⟨fresh.poised, fresh.good⟩ timely
    exact ⟨holds.1.step stepped, Timeout.good_step holds.2 timely stepped⟩

/-- A `Timeout` of 2 ms, at reading 0. -/
def Timeout.ofTwoMillis : Timeout Nat :=
  ⟨⟨.new 0, 0, some (.new 0 2000000), [], .made, []⟩, false, .between, [], .nothing⟩

/-- Polled at 0 with one waker and at 1 ms with another; at 2.5 ms it times out. -/
theorem timeout_asks_first_and_times_out :
    ∃ s', (timeoutMachine Nat).exec .ofTwoMillis
        [.poll ⟨7⟩, .future .pending, .sleep 0 0, .poll ⟨8⟩, .future .pending, .sleep 1000000 0,
          .poll ⟨8⟩, .future .pending, .sleep 2500000 0] = some s' ∧
      s'.returned = .timedOut ∧
      (timeoutMachine Nat).Throughout Timeout.Promise .ofTwoMillis
        [.poll ⟨7⟩, .future .pending, .sleep 0 0, .poll ⟨8⟩, .future .pending, .sleep 1000000 0,
          .poll ⟨8⟩, .future .pending, .sleep 2500000 0] :=
  ⟨_, rfl, rfl, (timeout_asks_first ⟨0, 0, 2000000, le_rfl, rfl⟩ _).1⟩

end Vibeio.Time
