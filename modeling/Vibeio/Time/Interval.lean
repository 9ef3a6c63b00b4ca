/-
# Time.Interval -- periodic ticks and the grid they are meant to keep

`Interval::tick` waits for the next deadline and moves it on.  With `CatchUp` a call
that comes at or after the deadline does not wait: it counts the periods that have
passed and returns the count.

A call reads the clock at its start, and once more for the time left to sleep or, with
a period of zero, for the next deadline; nothing else of it depends on the clock.  It
may be dropped while it sleeps, which leaves the interval as it was.

* `advance_eq`: the loop over the missed periods is one multiplication.
* `tick_onTime`, `tick_missed`: the two branches of `CatchUp`.  The second moves the
  deadline one period further than the count it returns.
* `interval_keeps_grid_iff`: the grid is kept in exactly those runs in which no call
  finds its deadline passed.
-/
import Vibeio.Time.Sleep

namespace Vibeio.Time

set_option autoImplicit false

open Vibeio.Theory

inductive MissedTickBehavior where
  | skip
  | catchUp
  deriving DecidableEq, Repr

/-- Durations and instants are nanoseconds. -/
structure Interval where
  period : Nat
  nextDeadline : Option Nat
  missedTickBehavior : MissedTickBehavior
  deriving DecidableEq, Repr

/-- `Instant + Duration`.  `last` is the last instant the platform can represent; `none`
is the panic past it. -/
def addInstant (last instant duration : Nat) : Option Nat :=
  if instant + duration ≤ last then some (instant + duration) else none

/-- A call of `tick` that has run to its end: the interval, the count, and the sleep the
call waited for on the way, with its length. -/
structure Ticked where
  interval : Interval
  count : Nat
  slept : Option (Nat × ZeroBehavior)
  deriving DecidableEq, Repr

namespace Interval

variable (last : Nat)

def new (period : Nat) : Interval := ⟨period, none, .skip⟩

def setMissedTickBehavior (interval : Interval) (behavior : MissedTickBehavior) : Interval :=
  { interval with missedTickBehavior := behavior }

def reset (interval : Interval) : Interval := { interval with nextDeadline := none }

/-- The loop of `Skip`: whole periods until the target is later than `now`, at most
`rounds` of them. -/
def skipAhead (now period : Nat) : Nat → Nat → Option Nat
  | 0, target => some target
  | rounds + 1, target =>
      if target ≤ now then (addInstant last target period).bind (skipAhead now period rounds)
      else some target

/-- The loop of `CatchUp`: `for _ in 0..missed { new_next += period }`. -/
def advance (period : Nat) : Nat → Nat → Option Nat
  | 0, newNext => some newNext
  | missed + 1, newNext => (addInstant last newNext period).bind (advance period missed)

/-- The sleep until `target`, with the clock read as `again`. -/
def sleepFor (target again : Nat) : Nat × ZeroBehavior :=
  let remaining := target - again
  if remaining / Timer.tickNanos = 0 then (remaining, .yield) else (remaining, .immediate)

/-- `tick`, with the clock read as `now` first and as `again` later.  `none` is a panic. -/
def tick (interval : Interval) (now again : Nat) : Option Ticked :=
  let scheduled := match interval.nextDeadline with
    | some deadline => some deadline
    | none => addInstant last now interval.period
  scheduled.bind fun baseNext =>
    match interval.missedTickBehavior with
    | .skip =>
        let target :=
          if baseNext ≤ now then
            if interval.period = 0 then some now
            else skipAhead last now interval.period (2 ^ 64 - 1) baseNext
          else some baseNext
        target.bind fun target =>
          (addInstant last target interval.period).map fun next =>
            ⟨{ interval with nextDeadline := some next }, 1, some (sleepFor target again)⟩
    | .catchUp =>
        if now < baseNext then
          (addInstant last baseNext interval.period).map fun next =>
            ⟨{ interval with nextDeadline := some next }, 1, some (sleepFor baseNext again)⟩
        else if interval.period = 0 then
          (addInstant last again interval.period).map fun next =>
            ⟨{ interval with nextDeadline := some next }, 1, none⟩
        else
          let elapsed := now - baseNext
          (addU64 (asU64 (elapsed / interval.period)) 1).bind fun missed =>
            (advance last interval.period missed baseNext).bind fun newNext =>
              (addInstant last newNext interval.period).map fun next =>
                ⟨{ interval with nextDeadline := some next }, missed, none⟩

end Interval

/-! ## An interval and what it has reported -/

structure Cadence where
  interval : Interval
  /-- The latest reading of the clock. -/
  clock : Nat
  /-- The deadline of the first call that ran to its end, or the one set before it. -/
  first : Option Nat
  /-- The counts returned, and the grid points they stand for: `count` of them from the
  deadline the call found. -/
  counts : List Nat
  reported : List Nat

/-- A call of `tick`: its two readings of the clock, and whether it is dropped at its
`await`. -/
structure TickCall where
  now : Nat
  again : Nat
  dropped : Bool
  deriving DecidableEq, Repr

namespace Cadence

variable (last : Nat)

/-- One call.  Clock readings do not go back. -/
def step (s : Cadence) (call : TickCall) : Option Cadence :=
  if s.clock ≤ call.now ∧ call.now ≤ call.again then
    (s.interval.tick last call.now call.again).map fun ticked =>
      if call.dropped ∧ ticked.slept.isSome then { s with clock := call.again }
      else
        let base := s.interval.nextDeadline.getD (call.now + s.interval.period)
        { interval := ticked.interval
          clock := call.again
          first := some (s.first.getD base)
          counts := s.counts ++ [ticked.count]
          reported := s.reported ++ (List.range ticked.count).map fun k => base + k * s.interval.period }
  else none

/-- An interval that catches up, with a positive period and any first deadline or none. -/
def Fresh (s : Cadence) : Prop :=
  0 < s.interval.period ∧ s.interval.missedTickBehavior = .catchUp ∧ s.first = s.interval.nextDeadline ∧
    s.counts = [] ∧ s.reported = []

/-- **The grid**: the next deadline is as many periods after the first as ticks have been
counted, and the grid points before it have been reported, in order and each once. -/
def KeepsGrid (s : Cadence) : Prop :=
  ∀ start, s.first = some start →
    s.interval.nextDeadline = some (start + s.counts.sum * s.interval.period) ∧
      s.reported = (List.range s.counts.sum).map fun k => start + k * s.interval.period

/-- The call comes before the deadline it finds. -/
def OnTime (s : Cadence) (call : TickCall) : Prop :=
  ∀ deadline, s.interval.nextDeadline = some deadline → call.now < deadline

end Cadence

def intervalMachine (last : Nat) : Machine Cadence TickCall where
  start := Cadence.Fresh
  step := Cadence.step last

/-! ## One call -/

theorem addInstant_eq_some {last instant duration later : Nat} :
    addInstant last instant duration = some later ↔ later = instant + duration ∧ instant + duration ≤ last := by
  unfold addInstant
  split <;> simp_all [eq_comm]

namespace Interval

variable {last : Nat}

theorem advance_eq {period missed newNext next : Nat}
    (advanced : advance last period missed newNext = some next) : next = newNext + missed * period := by
  induction missed generalizing newNext with
  | zero =>
      cases advanced
      omega
  | succ missed ih =>
      simp only [advance, Option.bind_eq_some_iff, addInstant_eq_some] at advanced
      obtain ⟨later, ⟨rfl, -⟩, onward⟩ := advanced
      rw [ih onward, Nat.succ_mul]
      omega

/-- The deadline a call at `now` finds or makes. -/
def base (interval : Interval) (now : Nat) : Nat := interval.nextDeadline.getD (now + interval.period)

/-- A call that ran has a base, and went on from it. -/
theorem tick_base {interval : Interval} {now again : Nat} {ticked : Ticked}
    (ran : interval.tick last now again = some ticked) :
    { interval with nextDeadline := some (interval.base now) }.tick last now again = some ticked := by
  cases found : interval.nextDeadline with
  | some deadline =>
      rw [base, found, Option.getD_some, ← found]
      exact ran
  | none =>
      simp only [tick, found, Option.bind_eq_some_iff, addInstant_eq_some] at ran
      obtain ⟨_, ⟨rfl, -⟩, onward⟩ := ran
      simp only [base, found, Option.getD_none, tick, Option.bind_some]
      exact onward

theorem tick_onTime {interval : Interval} {now again : Nat} {ticked : Ticked}
    (catches : interval.missedTickBehavior = .catchUp) (early : now < interval.base now)
    (ran : interval.tick last now again = some ticked) :
    ticked.interval = { interval with nextDeadline := some (interval.base now + interval.period) } ∧
      ticked.count = 1 := by
  have onward := tick_base ran
  simp only [tick, Option.bind_some, catches, if_pos early, Option.map_eq_some_iff,
    addInstant_eq_some] at onward
  obtain ⟨_, ⟨rfl, -⟩, rfl⟩ := onward
  exact ⟨by rw [catches], rfl⟩

theorem tick_missed {interval : Interval} {now again : Nat} {ticked : Ticked}
    (positive : 0 < interval.period) (catches : interval.missedTickBehavior = .catchUp)
    (late : interval.base now ≤ now) (ran : interval.tick last now again = some ticked) :
    ticked.interval = { interval with
        nextDeadline := some (interval.base now + (ticked.count + 1) * interval.period) } ∧
      ticked.slept = none := by
  have onward := tick_base ran
  simp only [tick, Option.bind_some, catches, if_neg (Nat.not_lt.mpr late), if_neg (Nat.ne_of_gt positive),
    Option.bind_eq_some_iff, Option.map_eq_some_iff, addInstant_eq_some] at onward
  obtain ⟨missed, -, newNext, advanced, _, ⟨rfl, -⟩, rfl⟩ := onward
  refine ⟨?_, rfl⟩
  rw [advance_eq advanced, catches, Nat.succ_mul, Nat.add_assoc]

end Interval

/-! ## Runs -/

namespace Cadence

variable {last : Nat}

structure Good (s : Cadence) : Prop where
  positive : 0 < s.interval.period
  catches : s.interval.missedTickBehavior = .catchUp
  grid : s.KeepsGrid
  untouched : s.first = none → s.interval.nextDeadline = none ∧ s.counts = [] ∧ s.reported = []

theorem Fresh.good {s : Cadence} (fresh : s.Fresh) : s.Good := by
  obtain ⟨positive, catches, first, counts, reported⟩ := fresh
  refine ⟨positive, catches, fun start named => ?_, fun none => ?_⟩
  · rw [counts, reported, ← first, named]
    simp
  · rw [counts, reported, ← first]
    exact ⟨none, rfl, rfl⟩

/-- Where the next call goes on from, by the counts so far. -/
theorem Good.base_eq {s : Cadence} (good : s.Good) (now : Nat) :
    s.interval.base now = s.first.getD (s.interval.base now) + s.counts.sum * s.interval.period ∧
      s.reported = (List.range s.counts.sum).map fun k =>
        s.first.getD (s.interval.base now) + k * s.interval.period := by
  cases named : s.first with
  | none =>
      obtain ⟨-, counts, reported⟩ := good.untouched named
      rw [counts, reported]
      simp
  | some start =>
      obtain ⟨next, reported⟩ := good.grid start named
      refine ⟨?_, reported⟩
      rw [Interval.base, next]
      rfl

/-- What a call does: nothing but pass time when it is dropped, else its bookkeeping. -/
theorem step_cases {s s' : Cadence} {call : TickCall} (stepped : s.step last call = some s') :
    ∃ ticked, s.interval.tick last call.now call.again = some ticked ∧
      ((ticked.slept.isSome = true ∧ s' = { s with clock := call.again }) ∨
        s' =
          { interval := ticked.interval
            clock := call.again
            first := some (s.first.getD (s.interval.base call.now))
            counts := s.counts ++ [ticked.count]
            reported := s.reported ++
              (List.range ticked.count).map fun k => s.interval.base call.now + k * s.interval.period }) := by
  simp only [step, Option.ite_none_right_eq_some, Option.map_eq_some_iff] at stepped
  obtain ⟨-, ticked, ran, rfl⟩ := stepped
  refine ⟨ticked, ran, ?_⟩
  split
  · rename_i dropped
    exact Or.inl ⟨dropped.2, rfl⟩
  · exact Or.inr rfl

theorem Good.step {s s' : Cadence} {call : TickCall} (good : s.Good) (onTime : s.OnTime call)
    (stepped : s.step last call = some s') : s'.Good := by
  have early : call.now < s.interval.base call.now := by
    have positive := good.positive
    unfold Interval.base
    cases found : s.interval.nextDeadline with
    | none => simpa using positive
    | some deadline => exact onTime deadline found
  obtain ⟨ticked, ran, ⟨-, rfl⟩ | rfl⟩ := step_cases stepped
  · exact ⟨good.positive, good.catches, good.grid, good.untouched⟩
  · obtain ⟨interval, count⟩ := Interval.tick_onTime good.catches early ran
    obtain ⟨base, reported⟩ := good.base_eq call.now
    refine ⟨?_, ?_, ?_, by simp⟩
    · rw [interval]
      exact good.positive
    · rw [interval]
      exact good.catches
    · intro start named
      simp only [Option.some.injEq] at named
      rw [named] at base reported
      simp only [interval, count, List.sum_append, List.sum_singleton, List.range_succ, List.range_zero,
        List.nil_append, List.map_append, List.map_singleton, reported, Nat.zero_mul, Nat.add_zero,
        Nat.add_mul, Nat.one_mul]
      rw [base]
      exact ⟨by rw [Nat.add_assoc], rfl⟩

theorem Good.broken {s s' : Cadence} {call : TickCall} (good : s.Good) (late : ¬ s.OnTime call)
    (stepped : s.step last call = some s') : ¬ s'.KeepsGrid := by
  simp only [OnTime, not_forall, Nat.not_lt] at late
  obtain ⟨deadline, found, passed⟩ := late
  have base : s.interval.base call.now = deadline := by
    rw [Interval.base, found]
    rfl
  obtain ⟨ticked, ran, taken⟩ := step_cases stepped
  obtain ⟨interval, awake⟩ := Interval.tick_missed good.positive good.catches (base ▸ passed) ran
  rcases taken with ⟨asleep, -⟩ | rfl
  · -- the missed branch does not wait, so the call cannot be dropped in it
    rw [awake] at asleep
    cases asleep
  · intro grid
    obtain ⟨next, -⟩ := grid _ rfl
    obtain ⟨before, -⟩ := good.base_eq call.now
    simp only [interval, List.sum_append, List.sum_singleton, Option.some.injEq, Nat.add_mul,
      Nat.one_mul] at next
    have positive := good.positive
    omega

end Cadence

/-- **When an interval that catches up keeps its grid.**  For every positive period, every
first deadline and every run of calls at clock readings that do not go back: after each
call the next deadline is the first one plus the counts so far in periods, and every grid
point before it has been reported once, if and only if no call comes at or after the
deadline it finds. -/
theorem interval_keeps_grid_iff (last : Nat) {s t : Cadence} {calls : List TickCall} (fresh : s.Fresh)
    (ran : (intervalMachine last).exec s calls = some t) :
    (intervalMachine last).Throughout Cadence.KeepsGrid s calls ↔
      (intervalMachine last).AllSteps Cadence.OnTime s calls :=
  Machine.throughout_iff_allSteps (fun _ _ _ good onTime stepped => Cadence.Good.step good onTime stepped)
    (fun _ good => good.grid) (fun _ _ _ good late stepped => Cadence.Good.broken good late stepped)
    fresh.good ran

/-- An interval of 10 ns that catches up, with its first deadline at 100. -/
def Cadence.tens : Cadence := ⟨⟨10, some 100, .catchUp⟩, 0, some 100, [], []⟩

/-- Two calls, the second dropped and made again. -/
theorem interval_keeps_grid_on_time :
    ∃ t, (intervalMachine 1000).exec .tens [⟨95, 96, false⟩, ⟨101, 101, true⟩, ⟨105, 106, false⟩] = some t ∧
      t.interval.nextDeadline = some 120 ∧
      ((intervalMachine 1000).Throughout Cadence.KeepsGrid .tens
          [⟨95, 96, false⟩, ⟨101, 101, true⟩, ⟨105, 106, false⟩] ↔
        (intervalMachine 1000).AllSteps Cadence.OnTime .tens
          [⟨95, 96, false⟩, ⟨101, 101, true⟩, ⟨105, 106, false⟩]) :=
  ⟨_, rfl, rfl, interval_keeps_grid_iff 1000 ⟨by decide, rfl, rfl, rfl, rfl⟩ rfl⟩

/-- One call at 125: the ticks of 100, 110 and 120 are counted, and the next deadline is
140 although 130 has not been reported. -/
theorem missed_call_skips_grid_point :
    ∃ s t, s.Fresh ∧ (intervalMachine 1000).exec s [⟨125, 125, false⟩] = some t ∧ t.counts = [3] ∧
      t.interval.nextDeadline = some 140 ∧ ¬ t.KeepsGrid := by
  refine ⟨.tens, _, ⟨by decide, rfl, rfl, rfl, rfl⟩, rfl, rfl, rfl, fun grid => ?_⟩
  have next := (grid 100 rfl).1
  exact absurd next (by decide)

end Vibeio.Time
