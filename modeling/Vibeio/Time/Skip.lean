/-
# Time.Skip -- which grid point a tick waits for when ticks are skipped

With `Skip` a call of `tick` moves its deadline on by whole periods until it lies ahead, at
most `u64::MAX` times, waits for it, and leaves the deadline one period later.

* `skipAhead_eq`: the loop is one division.
* `Punctual`: every tick has waited for the first point of the grid that was ahead of its call
  and not taken before.
* `skip_punctual_iff`: they have in exactly those runs in which no call comes so late that the
  loop gives up.
-/
import Vibeio.Time.Interval

namespace Vibeio.Time

set_option autoImplicit false

open Vibeio.Theory

/-- An interval that skips, and the ticks it has waited for, the last one in front: the clock
at the start of the call and the deadline. -/
structure Skipping where
  interval : Interval
  clock : Nat
  /-- The deadline that the first call to run to its end found or made. -/
  first : Option Nat
  ticks : List (Nat × Nat)

namespace Skipping

variable (last : Nat)

/-- One call; the next deadline is a period after the one it has waited for. -/
def step (s : Skipping) (call : TickCall) : Option Skipping :=
  if s.clock ≤ call.now ∧ call.now ≤ call.again then
    (s.interval.tick last call.now call.again).map fun ticked =>
      if call.dropped then { s with clock := call.again }
      else
        { interval := ticked.interval
          clock := call.again
          first := some (s.first.getD (s.interval.base call.now))
          ticks := (call.now, ticked.interval.nextDeadline.getD 0 - s.interval.period) :: s.ticks }
  else none

def Fresh (s : Skipping) : Prop :=
  0 < s.interval.period ∧ s.interval.missedTickBehavior = .skip ∧ s.first = none ∧ s.ticks = []

end Skipping

def skippingMachine (last : Nat) : Machine Skipping TickCall where
  start := Skipping.Fresh
  step := Skipping.step last

/-- No tick of `before` is at `point` or later. -/
def Untaken (before : List (Nat × Nat)) (point : Nat) : Prop := ∀ tick ∈ before, tick.2 < point

/-- `target` is the first point of the grid that is later than `now` and untaken. -/
structure FirstAhead (start period now : Nat) (before : List (Nat × Nat)) (target : Nat) : Prop where
  onGrid : ∃ k, target = start + k * period
  ahead : now < target
  untaken : Untaken before target
  least : ∀ k, now < start + k * period → Untaken before (start + k * period) → target ≤ start + k * period

def Punctual (start period : Nat) : List (Nat × Nat) → Prop
  | [] => True
  | (now, target) :: before => FirstAhead start period now before target ∧ Punctual start period before

namespace Skipping

def IsPunctual (s : Skipping) : Prop := ∀ start, s.first = some start → Punctual start s.interval.period s.ticks

/-- A call that is not dropped comes less than `u64::MAX` periods after its deadline. -/
def InReach (s : Skipping) (call : TickCall) : Prop :=
  call.dropped = false → call.now < s.interval.base call.now + (2 ^ 64 - 1) * s.interval.period

end Skipping

/-! ## One call -/

namespace Interval

variable {last : Nat}

/-- The periods from `target` to the first point ahead of `now`. -/
def periodsTo (now period target : Nat) : Nat := if target ≤ now then (now - target) / period + 1 else 0

theorem periodsTo_add {now period target : Nat} (positive : 0 < period) (late : target ≤ now) :
    periodsTo now period target = periodsTo now period (target + period) + 1 := by
  unfold periodsTo
  rw [if_pos late]
  split
  · rename_i later
    have one := Nat.div_eq_sub_div positive (show period ≤ now - target by omega)
    rw [Nat.sub_add_eq]
    omega
  · rename_i soon
    rw [Nat.div_eq_of_lt (by omega)]

theorem skipAhead_eq {now period rounds target reached : Nat} (positive : 0 < period)
    (skipped : skipAhead last now period rounds target = some reached) :
    reached = target + min rounds (periodsTo now period target) * period := by
  induction rounds generalizing target with
  | zero =>
      cases skipped
      simp
  | succ rounds ih =>
      unfold skipAhead at skipped
      split at skipped
      · rename_i late
        simp only [Option.bind_eq_some_iff, addInstant_eq_some] at skipped
        obtain ⟨later, ⟨rfl, -⟩, onward⟩ := skipped
        rw [ih onward, periodsTo_add positive late, Nat.add_min_add_right, Nat.succ_mul]
        omega
      · rename_i early
        cases skipped
        simp [periodsTo, early]

/-- Nothing between `target` and the point reached is ahead of `now`. -/
theorem periodsTo_le {now period target k : Nat} (ahead : now < target + k * period) :
    periodsTo now period target ≤ k := by
  unfold periodsTo
  split
  · exact Nat.div_lt_of_lt_mul (by rw [Nat.mul_comm]; omega)
  · exact Nat.zero_le k

theorem lt_periodsTo {now period target : Nat} (positive : 0 < period) :
    now < target + periodsTo now period target * period := by
  unfold periodsTo
  split
  · have whole := Nat.lt_div_mul_add (a := now - target) positive
    rw [Nat.succ_mul]
    omega
  · omega

/-- A call that ran to its end has waited for the deadline, moved on by whole periods. -/
theorem tick_skip {interval : Interval} {now again : Nat} {ticked : Ticked} (positive : 0 < interval.period)
    (skips : interval.missedTickBehavior = .skip) (ran : interval.tick last now again = some ticked) :
    ∃ target, target = interval.base now +
        min (2 ^ 64 - 1) (periodsTo now interval.period (interval.base now)) * interval.period ∧
      ticked.interval = { interval with nextDeadline := some (target + interval.period) } ∧
      ticked.slept = some (sleepFor target again) := by
  have onward := tick_base ran
  simp only [tick, Option.bind_some, skips, if_neg (Nat.ne_of_gt positive), Option.bind_eq_some_iff,
    Option.map_eq_some_iff, addInstant_eq_some] at onward
  obtain ⟨target, moved, _, ⟨rfl, -⟩, rfl⟩ := onward
  refine ⟨target, ?_, by rw [skips], rfl⟩
  split at moved
  · exact skipAhead_eq positive moved
  · rename_i early
    cases moved
    simp [periodsTo, early]

end Interval

/-! ## Runs -/

namespace Skipping

variable {last : Nat}

/-- The grid of an interval, for a call at `now`. -/
def origin (s : Skipping) (now : Nat) : Nat := s.first.getD (s.interval.base now)

/-- The deadline is a point of the grid, and exactly those from it on are untaken. -/
structure Good (s : Skipping) : Prop where
  positive : 0 < s.interval.period
  skips : s.interval.missedTickBehavior = .skip
  grid : ∀ now, ∃ j, s.interval.base now = s.origin now + j * s.interval.period ∧
    ∀ k, Untaken s.ticks (s.origin now + k * s.interval.period) ↔ j ≤ k
  punctual : s.IsPunctual
  untouched : s.first = none → s.ticks = []

theorem Fresh.good {s : Skipping} (fresh : s.Fresh) : s.Good := by
  obtain ⟨positive, skips, first, ticks⟩ := fresh
  refine ⟨positive, skips, fun now => ⟨0, ?_, fun k => ?_⟩, fun start named => ?_, fun _ => ticks⟩
  · simp [origin, first]
  · simp [Untaken, ticks]
  · rw [first] at named
    cases named

theorem Good.punctual_origin {s : Skipping} (good : s.Good) (now : Nat) :
    Punctual (s.origin now) s.interval.period s.ticks := by
  cases named : s.first with
  | none =>
      rw [good.untouched named]
      trivial
  | some start =>
      have same : s.origin now = start := by rw [origin, named, Option.getD_some]
      rw [same]
      exact good.punctual start named

/-- What a call does: it passes time, or takes a point. -/
theorem step_cases {s s' : Skipping} {call : TickCall} (good : s.Good) (stepped : s.step last call = some s') :
    (call.dropped = true ∧ s' = { s with clock := call.again }) ∨
    (call.dropped = false ∧ ∃ target, target = s.interval.base call.now + min (2 ^ 64 - 1)
          (Interval.periodsTo call.now s.interval.period (s.interval.base call.now)) * s.interval.period ∧
        s' =
          { interval := { s.interval with nextDeadline := some (target + s.interval.period) }
            clock := call.again
            first := some (s.origin call.now)
            ticks := (call.now, target) :: s.ticks }) := by
  simp only [step, Option.ite_none_right_eq_some, Option.map_eq_some_iff] at stepped
  obtain ⟨-, ticked, ran, rfl⟩ := stepped
  cases call.dropped with
  | true => exact .inl ⟨rfl, rfl⟩
  | false =>
      obtain ⟨target, moved, interval, -⟩ := Interval.tick_skip good.positive good.skips ran
      refine .inr ⟨rfl, target, moved, ?_⟩
      simp [interval, origin]

theorem Good.step {s s' : Skipping} {call : TickCall} (good : s.Good) (inReach : s.InReach call)
    (stepped : s.step last call = some s') : s'.Good := by
  obtain ⟨-, rfl⟩ | ⟨kept, target, moved, rfl⟩ := step_cases good stepped
  · exact ⟨good.positive, good.skips, good.grid, good.punctual, good.untouched⟩
  · have positive := good.positive
    obtain ⟨j, base, untaken⟩ := good.grid call.now
    have all : Interval.periodsTo call.now s.interval.period (s.interval.base call.now) ≤ 2 ^ 64 - 1 :=
      Interval.periodsTo_le (inReach kept)
    rw [Nat.min_eq_right all] at moved
    generalize skipped : Interval.periodsTo call.now s.interval.period (s.interval.base call.now) = n at moved
    have target_eq : target = s.origin call.now + (j + n) * s.interval.period := by
      rw [moved, base, Nat.add_mul]
      omega
    have ahead : FirstAhead (s.origin call.now) s.interval.period call.now s.ticks target := by
      refine ⟨⟨j + n, target_eq⟩, ?_, ?_, fun k later free => ?_⟩
      · rw [moved, ← skipped]
        exact Interval.lt_periodsTo positive
      · rw [target_eq]
        exact (untaken (j + n)).mpr (Nat.le_add_right j n)
      · have passed : j ≤ k := (untaken k).mp free
        have enough : n ≤ k - j := by
          rw [← skipped]
          apply Interval.periodsTo_le
          rw [base, Nat.add_assoc, ← Nat.add_mul, Nat.add_sub_cancel' passed]
          exact later
        rw [target_eq]
        exact Nat.add_le_add_left (Nat.mul_le_mul_right _ (by omega)) _
    refine ⟨positive, good.skips, fun now => ⟨j + n + 1, ?_, fun k => ?_⟩, fun start named => ?_, by simp⟩
    · show target + s.interval.period = s.origin call.now + (j + n + 1) * s.interval.period
      rw [target_eq, Nat.succ_mul (j + n), Nat.add_assoc]
    · have next : s.origin call.now + (j + n) * s.interval.period <
          s.origin call.now + k * s.interval.period ↔ j + n < k := by
        rw [Nat.add_lt_add_iff_left, Nat.mul_lt_mul_right positive]
      have before := untaken k
      show Untaken ((call.now, target) :: s.ticks) (s.origin call.now + k * s.interval.period) ↔ j + n + 1 ≤ k
      simp only [Untaken, List.mem_cons, forall_eq_or_imp] at before ⊢
      rw [target_eq, next, before]
      omega
    · cases named
      exact ⟨ahead, good.punctual_origin call.now⟩

theorem Good.broken {s s' : Skipping} {call : TickCall} (good : s.Good) (late : ¬ s.InReach call)
    (stepped : s.step last call = some s') : ¬ s'.IsPunctual := by
  simp only [InReach, Classical.not_imp, Nat.not_lt] at late
  obtain ⟨kept, late⟩ := late
  obtain ⟨dropped, -⟩ | ⟨-, target, moved, rfl⟩ := step_cases good stepped
  · rw [kept] at dropped
    cases dropped
  · intro punctual
    have ahead := (punctual _ rfl).1.ahead
    have gaveUp : target ≤ s.interval.base call.now + (2 ^ 64 - 1) * s.interval.period := by
      rw [moved]
      exact Nat.add_le_add_left (Nat.mul_le_mul_right _ (Nat.min_le_left _ _)) _
    omega

end Skipping

/-- **What a tick waits for when ticks are skipped.**  For every positive period, every first
deadline or none, and every run of calls at clock readings that do not go back, dropped or
not: each tick has waited for the first point of the grid that was ahead of its call and
later than every tick before it, so no point is taken twice and none that could have been met
is left out, if and only if no call comes `u64::MAX` periods or more after the deadline it
finds. -/
theorem skip_punctual_iff (last : Nat) {s t : Skipping} {calls : List TickCall} (fresh : s.Fresh)
    (ran : (skippingMachine last).exec s calls = some t) :
    (skippingMachine last).Throughout Skipping.IsPunctual s calls ↔
      (skippingMachine last).AllSteps Skipping.InReach s calls :=
  Machine.throughout_iff_allSteps (fun _ _ _ good inReach stepped => Skipping.Good.step good inReach stepped)
    (fun _ good => good.punctual) (fun _ _ _ good late stepped => Skipping.Good.broken good late stepped)
    fresh.good ran

/-- An interval of 10 ns that skips, with its first deadline at 100. -/
def Skipping.tens : Skipping := ⟨⟨10, some 100, .skip⟩, 0, none, []⟩

/-- A call in time, one that misses three points, and one that is early again. -/
theorem skip_punctual_late :
    ∃ t, (skippingMachine 1000).exec .tens [⟨95, 96, false⟩, ⟨135, 136, false⟩, ⟨141, 141, false⟩] = some t ∧
      t.ticks = [(141, 150), (135, 140), (95, 100)] ∧
      ((skippingMachine 1000).Throughout Skipping.IsPunctual .tens
          [⟨95, 96, false⟩, ⟨135, 136, false⟩, ⟨141, 141, false⟩] ↔
        (skippingMachine 1000).AllSteps Skipping.InReach .tens
          [⟨95, 96, false⟩, ⟨135, 136, false⟩, ⟨141, 141, false⟩]) :=
  ⟨_, rfl, rfl, skip_punctual_iff 1000 ⟨by decide, rfl, rfl, rfl⟩ rfl⟩

end Vibeio.Time
