/-
# Timer.Advance -- which timers `advance` fires

`advance` drains every place above level 0 and then the level-0 slots between
the slot of the old tick and the slot of the new one.  A timer above level 0 is
therefore always met.  A timer at level 0 sits in the slot of the *delay* it had
when it was put there, while the slots drained are those of *absolute* ticks, so
a due timer is met only if its slot happens to lie in that range.

* `advance_spec`: the wheel after `advance`, entry by entry.
* `exactAdvance_iff`: `advance` fires exactly the due timers if and only if
  every due level-0 timer lies in the range (`DueReached`).
* `advance_leaves_due_timer`: three calls after which a due timer is left behind.
-/
import Vibeio.Timer.Placement

namespace Vibeio.Timer

set_option autoImplicit false

open Vibeio.Theory

namespace TimingWheel

/-- The purpose of `advance`: the wakers returned are those of the timers due at
the new tick, each once, and the timers left are exactly the others. -/
def ExactAdvance (w : TimingWheel) (ticks : Nat) (after : Sweep) : Prop :=
  (after.2 : Multiset Waker) =
      (w.timers.filter fun timer => timer.expirationTick ≤ w.currentTick + ticks).map (·.waker) ∧
    after.1.timers = w.timers.filter fun timer => after.1.currentTick < timer.expirationTick

/-- Every due timer stored at level 0 sits at most `ticks` slots, counted around
the ring of 64, after the slot of the current tick. -/
def DueReached (w : TimingWheel) (ticks : Nat) : Prop :=
  ∀ index entry, w.entries.get index = some entry → entry.level = level0 →
    entry.expirationTick ≤ w.currentTick + ticks →
    (entry.slot.val + 64 - w.currentTick % 64) % 64 ≤ ticks

/-! ## The places drained -/

theorem mem_slotRange {lo hi : Nat} {slot : Slot} :
    slot ∈ slotRange lo hi ↔ lo ≤ slot.val ∧ slot.val < hi := by
  simp [slotRange]

theorem mem_slotsToProcess (startTick ticks : Nat) (slot : Slot) :
    slot ∈ slotsToProcess startTick (startTick + ticks) ticks ↔
      (slot.val + 64 - startTick % 64) % 64 ≤ ticks := by
  have low : ∀ n : Nat, n &&& 63 = n % 64 := fun n => Nat.and_two_pow_sub_one_eq_mod n 6
  have bound := slot.isLt
  simp only [slotsToProcess, low]
  split
  · rw [mem_slotRange]; omega
  · split
    · rw [mem_slotRange]; omega
    · rw [List.mem_append, mem_slotRange, mem_slotRange]; omega

/-- Every place one call of `advance` drains, in order. -/
def advancePlaces (startTick ticks : Nat) : List (Level × Slot) :=
  cascadePlaces ++
    (slotsToProcess startTick (startTick + ticks) ticks).flatMap fun slot => [(level0, slot)]

theorem mem_advancePlaces (startTick ticks : Nat) (level : Level) (slot : Slot) :
    (level, slot) ∈ advancePlaces startTick ticks ↔
      (level = 0 → (slot.val + 64 - startTick % 64) % 64 ≤ ticks) := by
  rw [advancePlaces, List.mem_append, mem_cascadePlaces]
  by_cases bottom : level = 0
  · simp [bottom, mem_slotsToProcess]
  · simp [bottom]

/-! ## One call of `advance` -/

/-- The wheel after `advance` is the wheel at the new tick with
`advancePlaces` drained. -/
theorem advance_spec {w : TimingWheel} (ticks : Nat) (placed : w.Placed) (positive : 1 ≤ ticks)
    (fits : w.currentTick + ticks < 2 ^ 64) :
    ∃ after, w.advance ticks = some after ∧
      Drained (advancePlaces w.currentTick ticks)
        ({ w with currentTick := w.currentTick + ticks }, []) after := by
  have summed : addU64 w.currentTick ticks = some (w.currentTick + ticks) :=
    addU64_eq_some.mpr ⟨rfl, fits⟩
  have started : ({ w with currentTick := w.currentTick + ticks } : TimingWheel).Placed :=
    placed.congr rfl rfl
  have cascaded := cascadeAllLevels_drained ({ w with currentTick := w.currentTick + ticks }, []) started
  have processed := foldl_drained (fun _ slot inner => drainSlot_drained inner 0 slot)
    (slotsToProcess w.currentTick (w.currentTick + ticks) ticks) cascaded.placed
  have whole := cascaded.trans processed
  refine ⟨_, by simp only [advance, summed, Option.map_some, if_neg (Nat.ne_of_gt positive)]; rfl, ?_⟩
  exact ⟨whole.placed.congr rfl rfl, whole.fires, whole.tick, whole.counter, whole.lookup⟩

/-- A call of `advance` that returns has done nothing (no ticks) or drained. -/
theorem advance_cases {w : TimingWheel} {ticks : Nat} {after : Sweep} (placed : w.Placed)
    (advanced : w.advance ticks = some after) :
    (ticks = 0 ∧ after = (w, [])) ∨
      (1 ≤ ticks ∧ Drained (advancePlaces w.currentTick ticks)
        ({ w with currentTick := w.currentTick + ticks }, []) after) := by
  by_cases zero : ticks = 0
  · left
    simpa [advance, zero, eq_comm] using advanced
  · right
    have positive := Nat.one_le_iff_ne_zero.mpr zero
    have fits : w.currentTick + ticks < 2 ^ 64 := by
      simp only [advance, if_neg zero, Option.map_eq_some_iff, addU64_eq_some] at advanced
      obtain ⟨-, ⟨-, fits⟩, -⟩ := advanced
      exact fits
    obtain ⟨after', advanced', drained⟩ := advance_spec ticks placed positive fits
    cases advanced.symm.trans advanced'
    exact ⟨positive, drained⟩

theorem advance_placed {w : TimingWheel} {ticks : Nat} {after : Sweep} (placed : w.Placed)
    (advanced : w.advance ticks = some after) : after.1.Placed := by
  obtain ⟨-, rfl⟩ | ⟨-, drained⟩ := advance_cases placed advanced
  · exact placed
  · exact drained.placed

theorem mem_timers {w : TimingWheel} {timer : LiveTimer} :
    timer ∈ w.timers ↔
      ∃ index entry, w.entries.get index = some entry ∧ entry.timer index = timer := by
  simp only [timers, Multiset.mem_map]
  constructor
  · rintro ⟨⟨index, entry⟩, member, same⟩
    exact ⟨index, entry, Slab.mem_items.mp member, same⟩
  · rintro ⟨index, entry, found, same⟩
    exact ⟨(index, entry), Slab.mem_items.mpr found, same⟩

/-- **When `advance` is exact.**  The timers it fires are due in any case; it
fires all of them if and only if every due level-0 timer lies in its range. -/
theorem exactAdvance_iff {w : TimingWheel} {ticks : Nat} {after : Sweep}
    (drained : Drained (advancePlaces w.currentTick ticks)
      ({ w with currentTick := w.currentTick + ticks }, []) after) :
    ExactAdvance w ticks after ↔ DueReached w ticks := by
  have lookup := drained.lookup
  have tick : after.1.currentTick = w.currentTick + ticks := drained.tick
  obtain ⟨fired, content, wakers, due⟩ := drained.fires
  change w.timers = after.1.timers + fired at content
  constructor
  · rintro ⟨-, remaining⟩ index entry found bottom isDue
    by_contra missed
    -- the entry was met by no loop, so it is still there
    have kept : after.1.entries.get index = some entry := by
      have unmet : (entry.level, entry.slot) ∉ advancePlaces w.currentTick ticks := by
        rw [mem_advancePlaces]
        exact fun reach => missed (reach bottom)
      rw [lookup, found, Option.bind_some, visit_due _ isDue, if_neg unmet]
    have member : entry.timer index ∈ after.1.timers := mem_timers.mpr ⟨index, entry, kept, rfl⟩
    rw [remaining, Multiset.mem_filter, tick] at member
    exact absurd isDue (Nat.not_le.mpr member.2)
  · intro reached
    -- nothing that is left is due
    have later : ∀ timer ∈ after.1.timers, w.currentTick + ticks < timer.expirationTick := by
      intro timer member
      obtain ⟨index, entry, found, rfl⟩ := mem_timers.mp member
      rw [lookup] at found
      obtain ⟨entry', found', visited⟩ := Option.bind_eq_some_iff.mp found
      by_cases isDue : entry'.expirationTick ≤ w.currentTick + ticks
      · have met : (entry'.level, entry'.slot) ∈ advancePlaces w.currentTick ticks :=
          (mem_advancePlaces ..).mpr fun bottom => reached index entry' found' bottom isDue
        rw [visit_due _ isDue, if_pos met] at visited
        cases visited
      · obtain ⟨moved, visited', same⟩ := visit_later (advancePlaces w.currentTick ticks) isDue
        cases visited'.symm.trans visited
        change _ < entry.expirationTick
        rw [same.2.1]
        exact Nat.not_le.mp isDue
    have none_due : after.1.timers.filter (fun timer => timer.expirationTick ≤ w.currentTick + ticks) = 0 :=
      Multiset.filter_eq_nil.mpr fun timer member => Nat.not_le.mpr (later timer member)
    have all_due : fired.filter (fun timer => timer.expirationTick ≤ w.currentTick + ticks) = fired :=
      Multiset.filter_eq_self.mpr due
    have all_later : after.1.timers.filter (fun timer => w.currentTick + ticks < timer.expirationTick) =
        after.1.timers := Multiset.filter_eq_self.mpr later
    have none_later : fired.filter (fun timer => w.currentTick + ticks < timer.expirationTick) = 0 :=
      Multiset.filter_eq_nil.mpr fun timer member => Nat.not_lt.mpr (due timer member)
    refine ⟨?_, ?_⟩
    · rw [content, Multiset.filter_add, none_due, all_due, wakers]
      simp
    · rw [content, Multiset.filter_add, tick, all_later, none_later, add_zero]

end TimingWheel

/-! ## Every reachable wheel -/

theorem reachable_placed {w : TimingWheel} (reachable : wheelMachine.Reachable w) : w.Placed := by
  refine Machine.invariant (fun s starts => ?_) (fun s op t placed stepped => ?_) reachable
  · rw [starts]
    exact TimingWheel.new_placed
  · cases op with
    | insert waker expirationTick slabIndex =>
        simp only [wheelMachine, WheelOp.apply, Option.ite_none_right_eq_some, Option.map_eq_some_iff,
          Option.isNone_iff_eq_none] at stepped
        obtain ⟨vacant, ⟨_, handle⟩, inserted, rfl⟩ := stepped
        exact TimingWheel.insert_placed placed vacant inserted
    | remove handle =>
        cases stepped
        exact TimingWheel.remove_placed placed handle
    | advance ticks =>
        simp only [wheelMachine, WheelOp.apply, Option.map_eq_some_iff] at stepped
        obtain ⟨after, advanced, rfl⟩ := stepped
        exact TimingWheel.advance_placed placed advanced

/-- **Exactness of `advance` on every reachable wheel**, at every tick count that
does not overflow. -/
theorem advance_exact_iff_dueReached {w : TimingWheel} (reachable : wheelMachine.Reachable w)
    {ticks : Nat} (positive : 1 ≤ ticks) (fits : w.currentTick + ticks < 2 ^ 64) :
    ∃ after, w.advance ticks = some after ∧ after.1.currentTick = w.currentTick + ticks ∧
      (w.ExactAdvance ticks after ↔ w.DueReached ticks) := by
  obtain ⟨after, advanced, drained⟩ :=
    TimingWheel.advance_spec ticks (reachable_placed reachable) positive fits
  exact ⟨after, advanced, drained.tick, TimingWheel.exactAdvance_iff drained⟩

/-- One timer inserted at tick 0 and due at tick 8. -/
theorem advance_exact_iff_after_one_insert :
    ∃ w, wheelMachine.exec .new [.insert ⟨7⟩ 8 0] = some w ∧ w.currentTick = 0 ∧
      ∃ after, w.advance 8 = some after ∧ after.1.currentTick = w.currentTick + 8 ∧
        (w.ExactAdvance 8 after ↔ w.DueReached 8) :=
  ⟨_, rfl, rfl, advance_exact_iff_dueReached ⟨_, [.insert ⟨7⟩ 8 0], rfl, rfl⟩ (by decide) (by decide)⟩

/-- A timer inserted at tick 5 for tick 8 is put in slot 3; the advance from tick
5 to tick 8 drains slots 5 to 8, so the timer is not fired and stays in the wheel. -/
theorem advance_leaves_due_timer :
    ∃ w, wheelMachine.exec .new [.advance 5, .insert ⟨7⟩ 8 0] = some w ∧ w.currentTick = 5 ∧
      w.timers = {⟨⟨0, 1⟩, 8, ⟨7⟩⟩} ∧
      ∃ after, w.advance 3 = some after ∧ ¬ w.ExactAdvance 3 after := by
  obtain ⟨⟨w₁, out₁⟩, advanced, drained⟩ :=
    TimingWheel.advance_spec 5 TimingWheel.new_placed (by decide) (by decide)
  have vacant : ∀ j, w₁.entries.get j = none := fun j => by rw [drained.lookup]; rfl
  have tick : w₁.currentTick = 5 := drained.tick
  have counter : w₁.generationCounter = 0 := drained.counter
  have empty : w₁.timers = 0 := Multiset.eq_zero_of_forall_notMem fun timer member => by
    obtain ⟨index, entry, found, -⟩ := TimingWheel.mem_timers.mp member
    rw [vacant] at found
    cases found
  have inserts : ∃ w₂ handle, w₁.insert ⟨7⟩ 8 0 = some (w₂, handle) := by
    have summed : addU64 w₁.generationCounter 1 = some 1 := by rw [counter]; rfl
    simp only [TimingWheel.insert, summed, Option.map_some]
    exact ⟨_, _, rfl⟩
  obtain ⟨w₂, handle, inserted⟩ := inserts
  obtain ⟨entry, waker, expiration, generation, place, -, entries, -, tick₂, -⟩ :=
    TimingWheel.insert_spec inserted
  rw [tick, show TimingWheel.calculateLevelAndSlot (8 - 5) = (0, 3) by decide, Prod.mk.injEq] at place
  have placed₂ := TimingWheel.insert_placed drained.placed (vacant 0) inserted
  obtain ⟨after, advanced₂, drained₂⟩ :=
    TimingWheel.advance_spec 3 placed₂ (by decide) (by rw [tick₂, tick]; decide)
  refine ⟨w₂, ?_, tick₂.trans tick, ?_, after, advanced₂, fun isExact => ?_⟩
  · refine Machine.exec_cons .. |>.mpr ⟨w₁, ?_, Machine.exec_cons .. |>.mpr ⟨w₂, ?_, rfl⟩⟩
    · simp [wheelMachine, WheelOp.apply, advanced]
    · simp [wheelMachine, WheelOp.apply, vacant, inserted]
  · have content : w₂.timers = entry.timer 0 ::ₘ w₁.timers := by
      simp only [TimingWheel.timers, entries, Slab.items_insert (vacant 0), Multiset.map_cons]
    rw [content, empty, TimerEntry.timer, waker, expiration, generation, counter]
    rfl
  · have found : w₂.entries.get 0 = some entry := by rw [entries, Slab.get_insert_self]
    have reached := (TimingWheel.exactAdvance_iff drained₂).mp isExact 0 entry found place.1
      (by rw [expiration, tick₂, tick])
    rw [place.2, tick₂, tick] at reached
    exact absurd reached (by decide)

end Vibeio.Timer
