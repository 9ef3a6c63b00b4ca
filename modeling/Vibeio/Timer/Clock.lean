/-
# Timer.Clock -- the wheel against the real clock

`Timer` pairs a wheel with the instant of its last spin.  A spin moves that
instant to the present reading but advances the wheel by whole milliseconds
only, so the rest of the elapsed time reaches neither.

The machine of this module is the timer with a history beside it.  The history
is computed from the clock readings and the submissions alone: `passed` counts
the ticks handed to the wheel, `lost` the nanoseconds that were not, and every
submission remembers both counts as they stood when it was made.

* `reachable_books`: the real clock is `passed` milliseconds plus `lost`
  nanoseconds ahead of a submission, the wheel only `passed` ticks.
* `keepsUp_iff`: a pending timer keeps up with the clock exactly as long as the
  time lost since its submission stays below one millisecond plus the fraction
  of a millisecond its own delay was rounded down by (or its ticks have passed).
-/
import Vibeio.Timer.Ledger

namespace Vibeio.Timer

set_option autoImplicit false
set_option linter.dupNamespace false

open Vibeio.Theory

/-- Nanoseconds in one tick. -/
def tickNanos : Nat := 1000000

/-- `duration.as_millis() as u64`. -/
def asMillis (duration : Nat) : Nat := asU64 (duration / tickNanos)

/-- Instants are nanoseconds on the monotonic clock. -/
structure Timer where
  wheel : TimingWheel
  instant : Nat

namespace Timer

def new (reading : Nat) : Timer := ⟨.new, reading⟩

/-- `submit`: the handle, if one was made, and the wakers woken on the spot. -/
def submit (timer : Timer) (deadline : Nat) (waker : Waker) (slabIndex : Nat) :
    Option (Timer × Option TimerHandle × List Waker) :=
  let millis := asMillis (deadline - timer.instant)
  if millis < 1 then some (timer, none, [waker])
  else
    (addU64 timer.wheel.now millis).bind fun expirationTick =>
      (timer.wheel.insert waker expirationTick slabIndex).map fun result =>
        ({ timer with wheel := result.1 }, some result.2, [])

def cancel (timer : Timer) (handle : TimerHandle) : Timer :=
  { timer with wheel := timer.wheel.remove handle }

/-- What `spin_and_get_deadline` returns, and the wakers it woke. -/
structure Spin where
  deadline : Option Nat
  wokenUp : Bool
  woken : List Waker

/-- `spin_and_get_deadline` at the clock reading `now`. -/
def spinAndGetDeadline (timer : Timer) (now : Nat) : Option (Timer × Spin) :=
  if timer.wheel.isEmpty then some ({ timer with instant := now }, ⟨none, false, []⟩)
  else
    (timer.wheel.advance (asMillis (now - timer.instant))).map fun advanced =>
      let nowTick := advanced.1.now
      let nearest := advanced.1.nearestWakeup
      (⟨nearest.1, now⟩,
        ⟨nearest.2.map fun deadline => max (deadline - nowTick) 1 * tickNanos,
          !advanced.2.isEmpty, advanced.2⟩)

end Timer

/-! ## The timer with its history -/

structure Submission where
  handle : TimerHandle
  deadline : Nat
  /-- The timer's instant, and the counts of the history, at submission. -/
  instant : Nat
  passed : Nat
  lost : Nat
  deriving DecidableEq, Repr

/-- The ticks the delay was turned into. -/
def Submission.ticks (s : Submission) : Nat := asMillis (s.deadline - s.instant)

/-- The part of the delay the ticks do not cover. -/
def Submission.fraction (s : Submission) : Nat := s.deadline - s.instant - s.ticks * tickNanos

structure Clocked where
  timer : Timer
  passed : Nat
  lost : Nat
  submissions : List Submission

inductive TimerOp where
  | submit (deadline : Nat) (waker : Waker) (slabIndex : Nat)
  | cancel (handle : TimerHandle)
  | spin (now : Nat)
  deriving DecidableEq, Repr

def Clocked.new (reading : Nat) : Clocked := ⟨.new reading, 0, 0, []⟩

/-- One call.  Clock readings do not go back. -/
def Clocked.apply (c : Clocked) : TimerOp → Option Clocked
  | .submit deadline waker slabIndex =>
      if (c.timer.wheel.entries.get slabIndex).isNone then
        (c.timer.submit deadline waker slabIndex).map fun result =>
          { c with
            timer := result.1
            submissions := match result.2.1 with
              | some handle => ⟨handle, deadline, c.timer.instant, c.passed, c.lost⟩ :: c.submissions
              | none => c.submissions }
      else none
  | .cancel handle => some { c with timer := c.timer.cancel handle }
  | .spin now =>
      if c.timer.instant ≤ now then
        (c.timer.spinAndGetDeadline now).map fun result =>
          let elapsed := now - c.timer.instant
          { c with
            timer := result.1
            passed := c.passed + asMillis elapsed
            lost := c.lost + (elapsed - asMillis elapsed * tickNanos) }
      else none

/-- Every interleaving of submissions, cancellations and spins, from a timer made
at any reading. -/
def clockedMachine : Machine Clocked TimerOp where
  start c := ∃ reading, c = .new reading
  step := Clocked.apply

/-- The wheel is no further behind than the clock: the ticks still to go until
the entry expires are at most the milliseconds until the deadline, rounded up
(none once the deadline is past).  `instant` is the reading of the last spin. -/
def Clocked.KeepsUp (c : Clocked) (s : Submission) (entry : TimerEntry) : Prop :=
  entry.expirationTick ≤
    c.timer.wheel.now + (s.deadline - c.timer.instant + (tickNanos - 1)) / tickNanos

/-- The timer of a submission is still in the wheel. -/
def Clocked.Pending (c : Clocked) (s : Submission) (entry : TimerEntry) : Prop :=
  s ∈ c.submissions ∧ c.timer.wheel.entries.get s.handle.slabIndex = some entry ∧
    entry.generation = s.handle.generation

/-! ## The books -/

theorem asMillis_mul_le (duration : Nat) : asMillis duration * tickNanos ≤ duration := by
  have : asMillis duration ≤ duration / tickNanos := Nat.mod_le _ _
  exact (Nat.mul_le_mul_right _ this).trans (Nat.div_mul_le_self _ _)

/-- The clock and the wheel as seen from one submission. -/
structure Clocked.Books (c : Clocked) : Prop where
  placed : c.timer.wheel.Placed
  fresh : ∀ s ∈ c.submissions, s.handle.generation ≤ c.timer.wheel.generationCounter
  counts : ∀ s ∈ c.submissions, s.passed ≤ c.passed ∧ s.lost ≤ c.lost
  clock : ∀ s ∈ c.submissions,
    c.timer.instant = s.instant + (c.passed - s.passed) * tickNanos + (c.lost - s.lost)
  wheel : ∀ s entry, c.Pending s entry →
    entry.expirationTick + (c.passed - s.passed) = c.timer.wheel.now + s.ticks

theorem Clocked.new_books (reading : Nat) : (Clocked.new reading).Books :=
  ⟨TimingWheel.new_placed, by simp [new], by simp [new], by simp [new],
    fun s entry pending => by simp [Pending, new] at pending⟩

/-- A timer live after an advance was live before it, with the same expiration. -/
theorem TimingWheel.advance_live {w : TimingWheel} {ticks : Nat} {after : Sweep} (placed : w.Placed)
    (advanced : w.advance ticks = some after) {index : Nat} {entry : TimerEntry}
    (found : after.1.entries.get index = some entry) :
    ∃ before, w.entries.get index = some before ∧ before.generation = entry.generation ∧
      before.expirationTick = entry.expirationTick := by
  obtain ⟨-, fired, content, -⟩ := advance_fires placed advanced
  have member : entry.timer index ∈ w.timers := by
    rw [content, Multiset.mem_add]
    exact Or.inl (mem_timers.mpr ⟨index, entry, found, rfl⟩)
  obtain ⟨index', before, found', same⟩ := mem_timers.mp member
  simp only [TimerEntry.timer, LiveTimer.mk.injEq, TimerHandle.mk.injEq] at same
  obtain ⟨⟨rfl, generation⟩, expiration, -⟩ := same
  exact ⟨before, found', generation, expiration⟩

theorem TimingWheel.advance_now {w : TimingWheel} {ticks : Nat} {after : Sweep} (placed : w.Placed)
    (advanced : w.advance ticks = some after) : after.1.now = w.now + ticks := by
  obtain ⟨rfl, rfl⟩ | ⟨-, drained⟩ := advance_cases placed advanced
  · rfl
  · exact drained.tick

theorem Clocked.submit_books {c c' : Clocked} {deadline slabIndex : Nat} {waker : Waker} (books : c.Books)
    (applied : c.apply (.submit deadline waker slabIndex) = some c') : c'.Books := by
  simp only [apply, Option.ite_none_right_eq_some, Option.isNone_iff_eq_none,
    Option.map_eq_some_iff] at applied
  obtain ⟨vacant, ⟨timer', made, woken⟩, submitted, rfl⟩ := applied
  simp only [Timer.submit] at submitted
  split at submitted
  · cases submitted
    exact books
  · simp only [Option.bind_eq_some_iff, Option.map_eq_some_iff, addU64_eq_some, Prod.mk.injEq]
      at submitted
    obtain ⟨expirationTick, ⟨sum, -⟩, ⟨w', handle⟩, inserted, rfl, rfl, rfl⟩ := submitted
    obtain ⟨entry, -, expiration, generation, -, rfl, entries, -, tick, counter⟩ :=
      TimingWheel.insert_spec inserted
    refine ⟨TimingWheel.insert_placed books.placed vacant inserted, ?_, ?_, ?_, ?_⟩
    · intro s member
      rcases List.mem_cons.mp member with rfl | old
      · exact le_of_eq (generation.trans counter.symm)
      · exact (books.fresh s old).trans (by rw [counter]; exact Nat.le_succ _)
    · intro s member
      rcases List.mem_cons.mp member with rfl | old
      · exact ⟨le_rfl, le_rfl⟩
      · exact books.counts s old
    · intro s member
      rcases List.mem_cons.mp member with rfl | old
      · simp
      · exact books.clock s old
    · rintro s live ⟨member, found, same⟩
      change (w'.entries.get _) = some live at found
      change live.expirationTick + (c.passed - s.passed) = w'.currentTick + s.ticks
      rw [entries, Slab.get_insert] at found
      rw [tick]
      rcases List.mem_cons.mp member with rfl | old
      · simp only [if_true, Option.some.injEq] at found
        subst found
        simp only [Nat.sub_self, Nat.add_zero, expiration, sum]
        rfl
      · -- an older submission: its generation is below the new one
        have older := books.fresh s old
        split at found
        · cases found
          omega
        · exact books.wheel s live ⟨old, found, same⟩

theorem Clocked.cancel_books {c : Clocked} (books : c.Books) (handle : TimerHandle) :
    Clocked.Books { c with timer := c.timer.cancel handle } := by
  by_cases live : c.timer.wheel.Live handle
  · obtain ⟨entry, found, generation⟩ := live
    obtain ⟨entries, -, tick, counter⟩ := TimingWheel.remove_spec found generation
    refine ⟨TimingWheel.remove_placed books.placed handle, ?_, books.counts, books.clock, ?_⟩
    · intro s member
      exact (books.fresh s member).trans (le_of_eq counter.symm)
    · rintro s other ⟨member, found', same⟩
      change ((c.timer.wheel.remove handle).entries.get _) = _ at found'
      change _ = (c.timer.wheel.remove handle).currentTick + _
      rw [entries, Slab.get_remove] at found'
      rw [tick]
      split at found'
      · cases found'
      · exact books.wheel s other ⟨member, found', same⟩
  · have same : { c with timer := c.timer.cancel handle } = c := by
      simp only [Timer.cancel, TimingWheel.remove_of_not_live live]
    rw [same]
    exact books

theorem Clocked.spin_books {c c' : Clocked} {now : Nat} (books : c.Books)
    (applied : c.apply (.spin now) = some c') : c'.Books := by
  simp only [apply, Option.ite_none_right_eq_some, Option.map_eq_some_iff] at applied
  obtain ⟨onward, ⟨timer', spin⟩, spun, rfl⟩ := applied
  have covered := asMillis_mul_le (now - c.timer.instant)
  -- the instant moves by the ticks passed and the time lost, in both branches
  have clock : ∀ s ∈ c.submissions, now =
      s.instant + (c.passed + asMillis (now - c.timer.instant) - s.passed) * tickNanos +
        (c.lost + (now - c.timer.instant - asMillis (now - c.timer.instant) * tickNanos) - s.lost) := by
    intro s member
    obtain ⟨passed, lost⟩ := books.counts s member
    have before := books.clock s member
    rw [show c.passed + asMillis (now - c.timer.instant) - s.passed =
      (c.passed - s.passed) + asMillis (now - c.timer.instant) by omega, Nat.add_mul]
    omega
  have counts : ∀ s ∈ c.submissions, s.passed ≤ c.passed + asMillis (now - c.timer.instant) ∧
      s.lost ≤ c.lost + (now - c.timer.instant - asMillis (now - c.timer.instant) * tickNanos) := by
    intro s member
    obtain ⟨passed, lost⟩ := books.counts s member
    exact ⟨passed.trans (Nat.le_add_right _ _), lost.trans (Nat.le_add_right _ _)⟩
  simp only [Timer.spinAndGetDeadline] at spun
  split at spun
  · rename_i empty
    cases spun
    refine ⟨books.placed, books.fresh, counts, clock, ?_⟩
    rintro s entry ⟨-, found, -⟩
    have vacant := (Slab.isEmpty_iff _).mp empty s.handle.slabIndex
    cases vacant.symm.trans found
  · simp only [Option.map_eq_some_iff, Prod.mk.injEq] at spun
    obtain ⟨after, advanced, rfl, -⟩ := spun
    have tick := TimingWheel.advance_now books.placed advanced
    refine ⟨(TimingWheel.advance_placed books.placed advanced).congr rfl rfl, ?_, counts, clock, ?_⟩
    · intro s member
      refine (books.fresh s member).trans (le_of_eq ?_)
      exact (TimingWheel.advance_fires books.placed advanced).1.symm
    · rintro s entry ⟨member, found, same⟩
      obtain ⟨before, found', generation, expiration⟩ :=
        TimingWheel.advance_live books.placed advanced found
      have previous := books.wheel s before ⟨member, found', generation.trans same⟩
      obtain ⟨passed, -⟩ := books.counts s member
      change _ = after.1.now + s.ticks
      rw [tick, ← expiration]
      change _ + (c.passed + asMillis (now - c.timer.instant) - s.passed) = _
      omega

theorem reachable_books {c : Clocked} (reachable : clockedMachine.Reachable c) : c.Books := by
  refine Machine.invariant (fun s starts => ?_) (fun s op t books stepped => ?_) reachable
  · obtain ⟨reading, rfl⟩ := starts
    exact Clocked.new_books reading
  · cases op with
    | submit deadline waker slabIndex => exact Clocked.submit_books books stepped
    | cancel handle => cases stepped; exact Clocked.cancel_books books handle
    | spin now => exact Clocked.spin_books books stepped

/-! ## Keeping up -/

/-- Too little time has been lost since the submission to matter, or the ticks
of the delay have passed. -/
def Clocked.WithinFraction (c : Clocked) (s : Submission) : Prop :=
  c.lost - s.lost < tickNanos + s.fraction ∨ s.ticks ≤ c.passed - s.passed

theorem Clocked.Books.keepsUp_iff {c : Clocked} (books : c.Books) {s : Submission} {entry : TimerEntry}
    (pending : c.Pending s entry) : c.KeepsUp s entry ↔ c.WithinFraction s := by
  have wheel := books.wheel s entry pending
  have clock := books.clock s pending.1
  have covered := asMillis_mul_le (s.deadline - s.instant)
  have whole : s.fraction + s.ticks * tickNanos = s.deadline - s.instant := by
    simp only [Submission.fraction, Submission.ticks]
    omega
  simp only [KeepsUp, WithinFraction, tickNanos] at *
  omega

/-- **When the wheel keeps up with the clock.**  In every state any interleaving
of submissions, cancellations and spins reaches, for every pending timer: it is
no further behind than its deadline allows if and only if the time lost since its
submission is within its fraction. -/
theorem pending_timer_keepsUp_iff {c : Clocked} (reachable : clockedMachine.Reachable c) :
    ∀ s entry, c.Pending s entry → (c.KeepsUp s entry ↔ c.WithinFraction s) :=
  fun _ _ pending => (reachable_books reachable).keepsUp_iff pending

/-- A timer of 2 ms, half a millisecond after its submission. -/
theorem pending_timer_keepsUp_after_submit :
    ∃ c, clockedMachine.exec (.new 0) [.submit 2000000 ⟨7⟩ 0, .spin 500000] = some c ∧
      ∀ s entry, c.Pending s entry → (c.KeepsUp s entry ↔ c.WithinFraction s) :=
  ⟨_, rfl, pending_timer_keepsUp_iff ⟨_, [.submit 2000000 ⟨7⟩ 0, .spin 500000], ⟨0, rfl⟩, rfl⟩⟩

/-- A timer of 2 ms, spun every half millisecond: the wheel never moves, and at
the deadline the timer still has its two ticks to go. -/
theorem short_spins_lose_the_clock :
    ∃ c, clockedMachine.exec (.new 0)
        [.submit 2000000 ⟨7⟩ 0, .spin 500000, .spin 1000000, .spin 1500000, .spin 2000000] = some c ∧
      ∃ s entry, c.Pending s entry ∧ s.deadline = c.timer.instant ∧ ¬ c.KeepsUp s entry := by
  refine ⟨_, rfl, ⟨⟨0, 1⟩, 2000000, 0, 0, 0⟩, ⟨⟨7⟩, 2, 1, 0, 2⟩, ⟨?_, rfl, rfl⟩, rfl, ?_⟩
  · exact List.mem_singleton.mpr rfl
  · unfold Clocked.KeepsUp
    decide

end Vibeio.Timer
